import Secp.Logic.Fence
import Secp.Logic.Run
import Secp.Python.Text

/-!
# Resolution leases

The lease of one read-only operation: a row that is swapped on its revision, a retry budget that outlives
every lease, and one success. Workers call on the row each with the copy its last call left it; an
acquisition reads the row first and acts on what it read, so anything may happen in between.
-/

namespace Secp.Leases

open Secp.Python Secp.Logic

/-! ## The row -/

inductive ResolutionLeaseStatus where
  | active
  | consumed
  | exhausted
  deriving DecidableEq

inductive ResolutionLeaseReason where
  | replayRefused
  | retryBoundExceeded
  | leaseHeld
  | authorizationExpired
  deriving DecidableEq

def ResolutionLeaseReason.value : ResolutionLeaseReason → Str
  | replayRefused => str "replay_refused"
  | retryBoundExceeded => str "retry_bound_exceeded"
  | leaseHeld => str "lease_held"
  | authorizationExpired => str "authorization_expired"

/-- The row of one operation key. -/
structure ResolutionLease where
  id : Str
  leaseId : Str
  revision : Int
  status : ResolutionLeaseStatus
  attemptCount : Int
  leaseExpiresAt : Int
  workerIdentityId : Str
  reasonCode : Str
  consumedAt : Option Int
  deriving DecidableEq

/-- `RETRY_BUDGET`. -/
def retryBudget : Int := 3

/-- `DEFAULT_LEASE_TTL_SECONDS`, in microseconds. -/
def defaultLeaseTtl : Int := 120 * 1000000

/-- `_cas`: the row after the update, when it was where it was expected. -/
def cas (stored : Option ResolutionLease) (row : ResolutionLease) (expectedRevision : Int)
    (values : ResolutionLease → ResolutionLease) : Option ResolutionLease :=
  match stored with
  | none => none
  | some current =>
      if current.id = row.id && current.revision = expectedRevision then
        some { values current with revision := expectedRevision + 1 }
      else none

/-- What a call on a row leaves: its result, the stored row and the caller's object of it. -/
structure Answer where
  result : Except ResolutionLeaseReason ResolutionLease
  stored : Option ResolutionLease
  object : ResolutionLease

/-- A refusal that writes nothing. -/
def refused (stored : Option ResolutionLease) (row : ResolutionLease)
    (reason : ResolutionLeaseReason) : Answer :=
  ⟨.error reason, stored, row⟩

/-- A swap that returns the row, or loses to a concurrent transition. -/
def swapped (stored : Option ResolutionLease) (row : ResolutionLease)
    (values : ResolutionLease → ResolutionLease) : Answer :=
  match cas stored row row.revision values with
  | some new => ⟨.ok new, some new, new⟩
  | none => refused stored row .leaseHeld

def exhaust (row : ResolutionLease) : ResolutionLease :=
  { row with status := .exhausted, reasonCode := ResolutionLeaseReason.retryBoundExceeded.value }

/-- `_mark_exhausted` and the refusal behind it. -/
def markExhausted (stored : Option ResolutionLease) (row : ResolutionLease) : Answer :=
  match cas stored row row.revision exhaust with
  | some new => ⟨.error .retryBoundExceeded, some new, new⟩
  | none => refused stored row .retryBoundExceeded

/-! ## Calls -/

/-- The end of a lease: the authorization ends it early. -/
def leaseExpiry (now ttl authorizationExpiry : Int) : Int := min (now + ttl) authorizationExpiry

/-- What a caller of `acquire_lease` gives, the fresh ids included. -/
structure Acquisition where
  now : Int
  authorizationExpiry : Int
  leaseTtl : Int
  workerIdentityId : Str
  id : Str
  leaseId : Str
  deriving DecidableEq

def Acquisition.expiry (call : Acquisition) : Int :=
  leaseExpiry call.now call.leaseTtl call.authorizationExpiry

/-- The row an acquisition inserts. -/
def newLease (call : Acquisition) : ResolutionLease where
  id := call.id
  leaseId := call.leaseId
  revision := 0
  status := .active
  attemptCount := 0
  leaseExpiresAt := call.expiry
  workerIdentityId := call.workerIdentityId
  reasonCode := []
  consumedAt := none

/-- The row a new lease is issued on. -/
def reissue (call : Acquisition) (row : ResolutionLease) : ResolutionLease :=
  { row with
    leaseId := call.leaseId
    leaseExpiresAt := call.expiry
    workerIdentityId := call.workerIdentityId
    status := .active }

/-- `_reacquire_existing`. -/
def reacquireExisting (stored : Option ResolutionLease) (row : ResolutionLease) (call : Acquisition) :
    Answer :=
  if row.status = .consumed then refused stored row .replayRefused
  else if row.status = .exhausted || retryBudget ≤ row.attemptCount then markExhausted stored row
  else if call.now < row.leaseExpiresAt then refused stored row .leaseHeld
  else swapped stored row (reissue call)

/-- `begin_attempt`. -/
def beginAttempt (stored : Option ResolutionLease) (row : ResolutionLease) (now : Int) : Answer :=
  if row.status = .consumed then refused stored row .replayRefused
  else if row.status ≠ .active then refused stored row .retryBoundExceeded
  else if row.leaseExpiresAt ≤ now then refused stored row .authorizationExpired
  else if retryBudget ≤ row.attemptCount then markExhausted stored row
  else swapped stored row fun current => { current with attemptCount := row.attemptCount + 1 }

/-- `mark_consumed`. -/
def markConsumed (stored : Option ResolutionLease) (row : ResolutionLease) (now : Int) : Answer :=
  if row.status ≠ .active then
    refused stored row
      (if row.status = .consumed then .replayRefused else .retryBoundExceeded)
  else swapped stored row fun current => { current with status := .consumed, consumedAt := some now }

/-! ## Workers -/

/-- One operation key: its row, what the acquisitions under way have read, the copies the workers hold,
and how many calls returned. -/
structure Operation (ω : Type) where
  row : Option ResolutionLease
  loaded : ω → Option ResolutionLease
  snapshot : ω → Option ResolutionLease
  acquired : Nat
  begun : Nat
  consumed : Nat

def Operation.start {ω : Type} : Operation ω where
  row := none
  loaded := fun _ => none
  snapshot := fun _ => none
  acquired := 0
  begun := 0
  consumed := 0

/-- `load` is the read of `acquire_lease`; `insert` is its insert after a read that found no row, and
`reacquire` what it does with a row it has read, also after a lost insert. -/
inductive Transition (ω : Type) where
  | load (worker : ω)
  | insert (worker : ω) (call : Acquisition)
  | reacquire (worker : ω) (call : Acquisition)
  | beginAttempt (worker : ω) (now : Int)
  | markConsumed (worker : ω) (now : Int)

variable {ω : Type} [DecidableEq ω]

/-- The operation after an answer to a worker: the object it holds is what the call left of it. -/
def Operation.answered (s : Operation ω) (worker : ω) (answer : Answer) : Operation ω :=
  { s with row := answer.stored, snapshot := Function.update s.snapshot worker (some answer.object) }

def Operation.step (s : Operation ω) : Transition ω → Operation ω
  | .load worker => { s with loaded := Function.update s.loaded worker s.row }
  | .insert worker call =>
      if call.expiry ≤ call.now then s
      else
        match s.row with
        -- the insert race is lost: the row is read again
        | some row => { s with loaded := Function.update s.loaded worker (some row) }
        | none =>
            { s with
              row := some (newLease call)
              snapshot := Function.update s.snapshot worker (some (newLease call))
              acquired := s.acquired + 1 }
  | .reacquire worker call =>
      if call.expiry ≤ call.now then s
      else
        match s.loaded worker with
        | none => s
        | some row =>
            let answer := reacquireExisting s.row row call
            let s := { s with loaded := Function.update s.loaded worker none }
            match answer.result with
            | .ok new =>
                { s with
                  row := answer.stored
                  snapshot := Function.update s.snapshot worker (some new)
                  acquired := s.acquired + 1 }
            | .error _ => { s with row := answer.stored }
  | .beginAttempt worker now =>
      match s.snapshot worker with
      | none => s
      | some row =>
          let answer := Leases.beginAttempt s.row row now
          match answer.result with
          | .ok _ => { s.answered worker answer with begun := s.begun + 1 }
          | .error _ => s.answered worker answer
  | .markConsumed worker now =>
      match s.snapshot worker with
      | none => s
      | some row =>
          let answer := Leases.markConsumed s.row row now
          match answer.result with
          | .ok _ => { s.answered worker answer with consumed := s.consumed + 1 }
          | .error _ => s.answered worker answer

def Operation.run (s : Operation ω) (calls : List (Transition ω)) : Operation ω :=
  calls.foldl Operation.step s

/-- A worker with a copy on which it can still begin an attempt or report success. -/
def Operation.CanAct (s : Operation ω) (worker : ω) : Prop :=
  ∃ row now new, s.snapshot worker = some row ∧
    ((Leases.beginAttempt s.row row now).result = .ok new ∨
      (Leases.markConsumed s.row row now).result = .ok new)

end Secp.Leases
