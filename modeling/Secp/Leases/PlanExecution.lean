import Secp.Python.Text

/-!
# The lease of a plan execution

The rows of one operation and the calls on them: a lease is acquired when no lease of the operation is
active and the attempts of all its leases are below the budget, an attempt is recorded under it, and one
of three calls ends both. Each call reads the rows as they are and writes all it writes or nothing.
-/

namespace Secp.Leases

open Secp.Python

/-! ## Rows -/

inductive PlanExecutionLeaseStatus where
  | active
  | consumed
  | expired
  | recoveryRequired
  deriving DecidableEq

inductive PlanGenerationAttemptStatus where
  | requested
  | refused
  | running
  | completed
  | failed
  | recoveryRequired
  deriving DecidableEq

/-- `PLAN_EXECUTION_ATTEMPT_BUDGET`. -/
def planExecutionAttemptBudget : Int := 3

/-- `_DEFAULT_LEASE_TTL`, in microseconds. -/
def defaultExecutionTtl : Int := 600 * 1000000

/-- `PLAN_EXECUTION_RECOVERY_CODES`. -/
def planExecutionRecoveryCodes : List Str :=
  [str "cleanup_residue", str "uncertain_process_termination", str "commit_uncertain",
    str "internal"]

/-- The operation key of a binding. -/
structure ExecutionBinding where
  authorizationId : Str
  authorizationVersion : Int
  operationFingerprint : Str
  deriving DecidableEq

/-- `PlanGenerationExecutionLease`. -/
structure ExecutionLease where
  id : Str
  binding : ExecutionBinding
  leaseEpoch : Int
  leaseOwner : Str
  leaseExpiresAt : Int
  attemptBudget : Int
  attemptsUsed : Int
  status : PlanExecutionLeaseStatus
  recoveryReasonCode : Str
  resultId : Option Str
  acquiredAt : Int
  consumedAt : Option Int
  deriving DecidableEq

/-- `RealPlanGenerationAttempt`. -/
structure GenerationAttempt where
  id : Str
  binding : ExecutionBinding
  status : PlanGenerationAttemptStatus
  refusalReasonCode : Str
  collectedAt : Int
  deriving DecidableEq

structure LeaseTables where
  leases : List ExecutionLease
  attempts : List GenerationAttempt
  deriving DecidableEq

def LeaseTables.empty : LeaseTables := ⟨[], []⟩

/-- The tables with one row replaced. -/
def LeaseTables.setLease (db : LeaseTables) (id : Str)
    (write : ExecutionLease → ExecutionLease) : LeaseTables :=
  { db with leases := db.leases.map fun lease => if lease.id = id then write lease else lease }

def LeaseTables.setAttempt (db : LeaseTables) (id : Str)
    (write : GenerationAttempt → GenerationAttempt) : LeaseTables :=
  { db with
    attempts := db.attempts.map fun attempt => if attempt.id = id then write attempt else attempt }

/-! ## What an acquisition reads -/

/-- `_has_recovery_required_lease`. -/
def hasRecoveryRequiredLease (leases : List ExecutionLease) (binding : ExecutionBinding) : Bool :=
  leases.any fun lease => lease.binding.operationFingerprint = binding.operationFingerprint ∧
    lease.status = .recoveryRequired

/-- The rows `active_lease` selects. -/
def activeLeases (leases : List ExecutionLease) (binding : ExecutionBinding) :
    List ExecutionLease :=
  leases.filter fun lease => lease.binding.operationFingerprint = binding.operationFingerprint ∧
    lease.status = .active

/-- The attempts of all leases of the operation key. -/
def priorUsed (leases : List ExecutionLease) (binding : ExecutionBinding) : Int :=
  @List.sum Int _ ⟨0⟩ ((leases.filter fun lease => lease.binding = binding).map
    ExecutionLease.attemptsUsed)

/-- `_next_lease_epoch`. -/
def nextLeaseEpoch (leases : List ExecutionLease) (binding : ExecutionBinding) : Int :=
  (((leases.filter fun lease => lease.binding = binding).map ExecutionLease.leaseEpoch).max?.getD 0)
    + 1

inductive LeaseRefusal where
  | recoveryRequired
  | contended
  | budgetExhausted
  deriving DecidableEq

def LeaseRefusal.reason : LeaseRefusal → Str
  | recoveryRequired => str "lease_recovery_required"
  | contended => str "lease_contended"
  | budgetExhausted => str "lease_budget_exhausted"

/-- What a caller of `acquire_execution_lease` gives, the fresh id included. -/
structure LeaseRequest where
  id : Str
  leaseOwner : Str
  now : Int
  ttl : Int
  deriving DecidableEq

/-- The row an acquisition inserts. -/
def LeaseRequest.lease (request : LeaseRequest) (binding : ExecutionBinding) (leaseEpoch : Int) :
    ExecutionLease where
  id := request.id
  binding := binding
  leaseEpoch := leaseEpoch
  leaseOwner := request.leaseOwner.take 80
  leaseExpiresAt := request.now + request.ttl
  attemptBudget := planExecutionAttemptBudget
  attemptsUsed := 0
  status := .active
  recoveryReasonCode := []
  resultId := none
  acquiredAt := request.now
  consumedAt := none

/-- The primary key, the index on the active lease of an operation and the unique epoch. -/
def Conflicts (lease other : ExecutionLease) : Prop :=
  other.id = lease.id ∨
    (other.binding.operationFingerprint = lease.binding.operationFingerprint ∧
      other.status = .active) ∨
    (other.binding = lease.binding ∧ other.leaseEpoch = lease.leaseEpoch)

instance (lease other : ExecutionLease) : Decidable (Conflicts lease other) :=
  inferInstanceAs (Decidable (_ ∨ _ ∨ _))

def expire (lease : ExecutionLease) : ExecutionLease := { lease with status := .expired }

/-- The rest of `acquire_execution_lease`, behind the recovery of a stale lease. -/
def insertLease (db : LeaseTables) (binding : ExecutionBinding) (request : LeaseRequest) :
    Except LeaseRefusal ExecutionLease × LeaseTables :=
  if planExecutionAttemptBudget ≤ priorUsed db.leases binding then (.error .budgetExhausted, db)
  else
    let lease := request.lease binding (nextLeaseEpoch db.leases binding)
    if db.leases.any fun other => Conflicts lease other then (.error .contended, db)
    else (.ok lease, { db with leases := db.leases ++ [lease] })

/-- `acquire_execution_lease`; a read that finds two active leases raises. -/
def acquireExecutionLease (db : LeaseTables) (binding : ExecutionBinding) (request : LeaseRequest) :
    Option (Except LeaseRefusal ExecutionLease × LeaseTables) :=
  if hasRecoveryRequiredLease db.leases binding then some (.error .recoveryRequired, db)
  else
    match activeLeases db.leases binding with
    | [] => some (insertLease db binding request)
    | [existing] =>
        if request.now < existing.leaseExpiresAt then some (.error .contended, db)
        else some (insertLease (db.setLease existing.id expire) binding request)
    | _ => none

/-! ## Attempts -/

def LeaseTables.lease? (db : LeaseTables) (id : Str) : Option ExecutionLease :=
  db.leases.find? fun lease => lease.id = id

def LeaseTables.attempt? (db : LeaseTables) (id : Str) : Option GenerationAttempt :=
  db.attempts.find? fun attempt => attempt.id = id

def runningAttempt (id : Str) (binding : ExecutionBinding) (now : Int) : GenerationAttempt where
  id := id
  binding := binding
  status := .running
  refusalReasonCode := []
  collectedAt := now

def ExecutionLease.begun (lease : ExecutionLease) : ExecutionLease :=
  { lease with attemptsUsed := lease.attemptsUsed + 1 }

/-- `begin_attempt`; a count beyond the lease's own budget is refused by the table. -/
def beginExecution (db : LeaseTables) (leaseId : Str) (binding : ExecutionBinding) (id : Str)
    (now : Int) : Option LeaseTables :=
  match db.lease? leaseId with
  | none => none
  | some lease =>
      if lease.attemptBudget < lease.attemptsUsed + 1 then none
      else if db.attempts.any fun other => other.id = id then none
      else
        let db := db.setLease leaseId ExecutionLease.begun
        some { db with attempts := db.attempts ++ [runningAttempt id binding now] }

/-- The edges the guard on an attempt allows. -/
def attemptTransitions : List (PlanGenerationAttemptStatus × PlanGenerationAttemptStatus) :=
  [(.requested, .running), (.requested, .refused), (.requested, .failed),
    (.requested, .recoveryRequired), (.running, .completed), (.running, .failed),
    (.running, .recoveryRequired)]

def MayBecome (previous current : PlanGenerationAttemptStatus) : Prop :=
  previous = current ∨ (previous, current) ∈ attemptTransitions

instance (previous current : PlanGenerationAttemptStatus) : Decidable (MayBecome previous current) :=
  inferInstanceAs (Decidable (_ ∨ _))

/-- What the three terminal calls share: the attempt gets a status, the lease is written if it is still
active, and neither if a row of either table may not become what was written. -/
def endExecution (db : LeaseTables) (leaseId attemptId : Str) (status : PlanGenerationAttemptStatus)
    (writeAttempt : GenerationAttempt → GenerationAttempt)
    (writeLease : ExecutionLease → ExecutionLease) (legal : Bool) : Option LeaseTables :=
  match db.lease? leaseId, db.attempt? attemptId with
  | some lease, some attempt =>
      if ¬MayBecome attempt.status status then none
      else
        let db := db.setAttempt attemptId fun attempt => { writeAttempt attempt with status := status }
        if lease.status = .active then
          if legal then some (db.setLease leaseId writeLease) else none
        else some db
  | _, _ => none

/-- `fail_attempt`. -/
def failAttempt (db : LeaseTables) (leaseId attemptId reasonCode : Str) : Option LeaseTables :=
  endExecution db leaseId attemptId .failed
    (fun attempt => { attempt with refusalReasonCode := reasonCode.take 80 }) expire true

/-- `require_recovery`; the table admits the closed recovery codes. -/
def requireRecovery (db : LeaseTables) (leaseId attemptId reasonCode : Str) : Option LeaseTables :=
  endExecution db leaseId attemptId .recoveryRequired
    (fun attempt => { attempt with refusalReasonCode := reasonCode.take 80 })
    (fun lease =>
      { lease with recoveryReasonCode := reasonCode.take 80, status := .recoveryRequired })
    (reasonCode.take 80 = [] || planExecutionRecoveryCodes.contains (reasonCode.take 80))

/-- `consume_lease`. -/
def consumeLease (db : LeaseTables) (leaseId attemptId : Str) (resultId : Option Str) (now : Int) :
    Option LeaseTables :=
  endExecution db leaseId attemptId .completed id
    (fun lease =>
      { lease with resultId := resultId, consumedAt := some now, status := .consumed }) true

/-! ## Lookups and terminal calls -/

section
variable {db db' : LeaseTables} {id : Str}

theorem mem_of_lease? {lease : ExecutionLease} (h : db.lease? id = some lease) :
    lease ∈ db.leases ∧ lease.id = id := by
  have hid := List.find?_some h
  exact ⟨List.mem_of_find?_eq_some h, of_decide_eq_true hid⟩

/-- A terminal call that goes through. -/
theorem endExecution_eq_some {leaseId attemptId : Str} {status : PlanGenerationAttemptStatus}
    {writeAttempt : GenerationAttempt → GenerationAttempt}
    {writeLease : ExecutionLease → ExecutionLease} {legal : Bool}
    (h : endExecution db leaseId attemptId status writeAttempt writeLease legal = some db') :
    ∃ lease attempt, db.lease? leaseId = some lease ∧ db.attempt? attemptId = some attempt ∧
      db'.attempts =
        (db.setAttempt attemptId fun attempt =>
          { writeAttempt attempt with status := status }).attempts ∧
      db'.leases =
        if lease.status = .active then (db.setLease leaseId writeLease).leases else db.leases := by
  unfold endExecution at h
  split at h
  · next lease attempt hlease hattempt =>
      split at h
      · cases h
      · dsimp only at h
        split at h
        · next hactive =>
            split at h
            · cases h
              exact ⟨lease, attempt, hlease, hattempt, rfl, (if_pos hactive).symm⟩
            · cases h
        · next hleft =>
            cases h
            exact ⟨lease, attempt, hlease, hattempt, rfl, (if_neg hleft).symm⟩
  · cases h

end

end Secp.Leases
