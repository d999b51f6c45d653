import Secp.Proxmox.IpamLemmas
import Secp.Python.Separated

/-!
# Remote-state keys

The key of a range's remote state is spelled out from its scope: every part stripped, in lower case and
with hyphens for spaces, joined by slashes. Nothing looks at the keys already handed out, so two scopes
that are spelled the same way share a key.
-/

namespace Secp.Proxmox

open Secp.Python Secp.Logic

section
variable [Unicode]

/-! ## How a scope is spelled -/

/-- `part.strip().lower().replace(" ", "-")`. -/
def spelledPart (part : Str) : Str := replaceChar ' ' ['-'] (lower (strip part))

/-- The parts of a key, as they are spelled. -/
def spelledParts (scope : Scope) : List Str :=
  ([str "secp", scope.1, scope.2.1, scope.2.2.1] ++
    (if scope.2.2.2.1.isEmpty then [] else [scope.2.2.2.1]) ++ ['g' :: intStr scope.2.2.2.2]).map
    spelledPart

/-- The pieces between the slashes of a key: a part with a slash in it gives more than one. -/
def spelling (scope : Scope) : List Str := (spelledParts scope).flatMap (List.splitOn '/')

/-- Where no part has a slash, the pieces are the parts. -/
theorem spelling_of_slashFree {scope : Scope} (h : ∀ part ∈ spelledParts scope, '/' ∉ part) :
    spelling scope = spelledParts scope :=
  flatMap_splitOn_of_notMem h

/-! ## A run of requests -/

/-- A scope whose key is a safe key. -/
def HasKey (scope : Scope) : Prop :=
  AllocationLedger.isStateKey (AllocationLedger.stateKey scope) = true

/-- What a request is recorded as. -/
def keyRecord (request : Ownership × Str) : Allocation :=
  ⟨.remoteStateKey, request.1.scopeKey, request.2, AllocationLedger.stateKey request.1.scopeKey⟩

/-- A ledger is open and holds what some requests are recorded as, those with a safe key. -/
structure Records (ledger : AllocationLedger) (requests : List (Ownership × Str)) : Prop where
  isOpen : ledger.isSealed = false
  mem_iff : ∀ a, a ∈ ledger.records ↔
    ∃ request ∈ requests, HasKey request.1.scopeKey ∧ a = keyRecord request

variable {ledger : AllocationLedger} {requests : List (Ownership × Str)}

end

/-! ## Two organizations, one key -/

end Secp.Proxmox
