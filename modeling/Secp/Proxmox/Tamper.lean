import Secp.Proxmox.Exclusivity
import Secp.Python.JsonText

/-!
# What the ledger hash tells of a ledger

The hash of a ledger is over its records alone. Read back from a payload, a ledger with the hash has
the records that were hashed; whether it is sealed is taken from the payload as it stands, and a payload
without a hash is taken at its word.
-/

namespace Secp.Proxmox

open Secp.Python Secp.Logic

/-! ## The hashed text determines the records -/

theorem AllocationKind.value_injective {a b : AllocationKind} (h : a.value = b.value) : a = b := by
  have hread := congrArg AllocationKind.ofValue h
  rw [AllocationKind.ofValue_value, AllocationKind.ofValue_value] at hread
  exact Option.some.inj hread

namespace AllocationLedger

/-- The sort key of a record is its key. -/
theorem key_eq_of_sortKey {a b : Allocation}
    (h : (a.kind.value, a.scope, a.purpose) = (b.kind.value, b.scope, b.purpose)) : a.key = b.key := by
  obtain ⟨hkind, hrest⟩ := Prod.mk.inj h
  obtain ⟨hscope, hpurpose⟩ := Prod.mk.inj hrest
  rw [Allocation.key, Allocation.key, AllocationKind.value_injective hkind, hscope, hpurpose]

/-- The stable order does not depend on the order of the records. -/
theorem all_eq_of_perm {ledger ledger' : AllocationLedger}
    (h : ledger.records.Perm ledger'.records) : ledger.all = ledger'.all := by
  refine sortedBy_eq_of_perm (fun a ha b hb hsame => ?_) h
  exact List.inj_on_of_nodup_map ledger.keys_nodup ha hb (key_eq_of_sortKey hsame)

/-- The value under a key, null when it is not there. -/
def entry (payload : Json) (key : String) : Json := (payload.get? (str key)).getD .null

section
variable [Unicode] {ledger ledger' : AllocationLedger} {payload : Json} {records : List Allocation}

/-- A payload lists these records: of the version that is read, each well formed, no key twice. -/
structure Lists (payload : Json) (records : List Allocation) : Prop where
  version : (entry payload "version").isOne = true
  listed : ∃ items, payload.get? (str "allocations") = some (.arr items) ∧
    items.mapM Allocation.fromDict = .ok records
  distinct : (records.map Allocation.key).Nodup

/-- The ledger of the records a payload lists. -/
def Lists.opened (h : Lists payload records) : AllocationLedger := ⟨records, false, h.distinct⟩

theorem Lists.eq {records' : List Allocation} (h : Lists payload records)
    (h' : Lists payload records') : records = records' := by
  obtain ⟨items, hitems, hread⟩ := h.listed
  obtain ⟨items', hitems', hread'⟩ := h'.listed
  cases hitems.symm.trans hitems'
  exact Except.ok.inj (hread.symm.trans hread')

/-- A ledger with the records of another, and sealed exactly when the other is. -/
structure Same (ledger ledger' : AllocationLedger) : Prop where
  records : ledger'.records.Perm ledger.records
  isSealed : ledger'.isSealed = ledger.isSealed

/-- A payload says of a ledger what nobody checks: whether it is sealed, and its records when there is
no hash. -/
structure Truthful (ledger : AllocationLedger) (payload : Json) : Prop where
  records : entry payload "ledger_hash" = .null →
    ∀ records, Lists payload records → records.Perm ledger.records
  isSealed : ∀ records, Lists payload records → records.Perm ledger.records →
    (entry payload "sealed").truthy = ledger.isSealed

end

end AllocationLedger

end Secp.Proxmox
