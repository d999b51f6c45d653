import Mathlib.Logic.Function.Basic
import Secp.Leases.PlanExecution

/-!
# Executions of one operation

`_execute_activated` from the replay check to its end, statement by statement, for any number of workers.
Everything a worker writes stays in its own transaction until its outcome is recorded. A statement sees
the committed rows and the worker's own; an update waits for the transaction that updated the row before
it, and the insert of an active lease for the one that has inserted another.
-/

namespace Secp.Leases

open Secp.Python

/-- What the transaction of a worker has written: the stale lease it expired, its own lease and the
attempt under it. -/
structure Transaction where
  expired : Option Str
  lease : Option ExecutionLease
  attempt : Option GenerationAttempt

def Transaction.empty : Transaction := ⟨none, none, none⟩

/-- The rows a statement of the transaction sees. -/
def Transaction.view (tx : Transaction) (db : LeaseTables) : LeaseTables where
  leases := (match tx.expired with
    | none => db
    | some id => db.setLease id expire).leases ++ tx.lease.toList
  attempts := db.attempts ++ tx.attempt.toList

/-- Where an execution stands. -/
inductive Phase where
  | idle
  /-- No prior result was found. -/
  | started
  /-- No lease is recovery-required. -/
  | checked
  /-- A stale lease was read and is to be expired. -/
  | stale (id : Str)
  | freed
  /-- The attempts of all leases were below the budget. -/
  | counted
  | numbered (leaseEpoch : Int)
  | leased
  | begun
  /-- The credentials are resolved. -/
  | resolved
  deriving DecidableEq

/-- What an execution brings along, the fresh ids included. -/
structure ExecutionRequest where
  lease : LeaseRequest
  attemptId : Str

structure Execution where
  phase : Phase
  request : ExecutionRequest
  tx : Transaction

/-- How an execution behind its begun attempt ends. -/
inductive Outcome where
  | failed (reasonCode : Str)
  /-- The termination of the process is uncertain, or its workspace was left behind. -/
  | uncertain
  | completed (resultId : Str)
  | testOnly

/-- The committed rows, the result of the operation, the workers, the worker that has inserted an active
lease and the one that has updated the stale one; and how often credentials were resolved. -/
structure Executions (ω : Type) where
  db : LeaseTables
  result : Option Str
  worker : ω → Execution
  inserting : Option ω
  expiring : Option ω
  resolutions : Nat

inductive Progress (ω : Type) where
  | start (worker : ω) (request : ExecutionRequest)
  | proceed (worker : ω)
  | finish (worker : ω) (outcome : Outcome)
  | crash (worker : ω)

variable {ω : Type}

def Execution.idle : Execution := ⟨.idle, ⟨⟨[], [], 0, 0⟩, []⟩, .empty⟩

def Executions.start : Executions ω where
  db := .empty
  result := none
  worker := fun _ => .idle
  inserting := none
  expiring := none
  resolutions := 0

variable [DecidableEq ω]

def Executions.set (s : Executions ω) (worker : ω) (execution : Execution) : Executions ω :=
  { s with worker := Function.update s.worker worker execution }

def release (worker : ω) (lock : Option ω) : Option ω :=
  if lock = some worker then none else lock

/-- The end of a transaction without a commit. -/
def Executions.rollback (s : Executions ω) (worker : ω) : Executions ω :=
  { s.set worker .idle with
    inserting := release worker s.inserting, expiring := release worker s.expiring }

def Executions.commit (s : Executions ω) (worker : ω) (db : LeaseTables) : Executions ω :=
  { s.rollback worker with db := db }

/-- `_refuse`: the acquisition failed, and what it wrote is committed. -/
def Executions.refuse (s : Executions ω) (worker : ω) : Executions ω :=
  s.commit worker ((s.worker worker).tx.view s.db)

/-- The next statement of a worker; one that has to wait does nothing. -/
def Executions.proceed (binding : ExecutionBinding) (s : Executions ω) (worker : ω) : Executions ω :=
  let execution := s.worker worker
  let view := execution.tx.view s.db
  match execution.phase with
  | .idle => s
  | .started =>
      if hasRecoveryRequiredLease view.leases binding then s.refuse worker
      else s.set worker { execution with phase := .checked }
  | .checked =>
      match activeLeases view.leases binding with
      | [] => s.set worker { execution with phase := .freed }
      | [existing] =>
          if execution.request.lease.now < existing.leaseExpiresAt then s.refuse worker
          else s.set worker { execution with phase := .stale existing.id }
      | _ => s.rollback worker
  | .stale id =>
      if s.expiring = none ∨ s.expiring = some worker then
        { s.set worker
            { execution with phase := .freed, tx := { execution.tx with expired := some id } } with
          expiring := some worker }
      else s
  | .freed =>
      if planExecutionAttemptBudget ≤ priorUsed view.leases binding then s.refuse worker
      else s.set worker { execution with phase := .counted }
  | .counted =>
      s.set worker { execution with phase := .numbered (nextLeaseEpoch view.leases binding) }
  | .numbered leaseEpoch =>
      let lease := execution.request.lease.lease binding leaseEpoch
      if s.inserting = none ∨ s.inserting = some worker then
        if view.leases.any fun other => Conflicts lease other then s.refuse worker
        else
          { s.set worker
              { execution with phase := .leased, tx := { execution.tx with lease := some lease } } with
            inserting := some worker }
      else s
  | .leased =>
      match execution.tx.lease with
      | none => s
      | some lease =>
          let request := execution.request
          match beginExecution view lease.id binding request.attemptId request.lease.now with
          | none => s.rollback worker
          | some _ =>
              s.set worker
                { execution with
                  phase := .begun
                  tx :=
                    { execution.tx with
                      lease := some lease.begun
                      attempt := some
                        (runningAttempt request.attemptId binding request.lease.now) } }
  | .begun =>
      { s.set worker { execution with phase := .resolved } with resolutions := s.resolutions + 1 }
  | .resolved => s

/-- A terminal call on the view of a transaction: it is committed, or it raises. -/
def Executions.conclude (s : Executions ω) (worker : ω) (db : Option LeaseTables) : Executions ω :=
  match db with
  | some db => s.commit worker db
  | none => s.rollback worker

/-- The outcome of an execution with a begun attempt. -/
def Executions.finish (s : Executions ω) (worker : ω) (lease : ExecutionLease) (outcome : Outcome) :
    Executions ω :=
  let execution := s.worker worker
  let view := execution.tx.view s.db
  let attemptId := execution.request.attemptId
  match outcome with
  | .failed reasonCode => s.conclude worker (failAttempt view lease.id attemptId reasonCode)
  -- the reason is no code of the closed set
  | .uncertain =>
      s.conclude worker (requireRecovery view lease.id attemptId (str "recovery_required"))
  | .completed resultId =>
      match s.result, consumeLease view lease.id attemptId (some resultId) execution.request.lease.now
      with
      -- a result that was committed meanwhile is returned, and the lease is left as it is
      | some _, _ => s.commit worker view
      | none, some db => { s.commit worker db with result := some resultId }
      | none, none => s.rollback worker
  | .testOnly =>
      s.conclude worker (consumeLease view lease.id attemptId none execution.request.lease.now)

def Outcome.needsResolved : Outcome → Bool
  | .completed _ => true
  | .testOnly => true
  | _ => false

def Executions.step (binding : ExecutionBinding) (s : Executions ω) : Progress ω → Executions ω
  | .start worker request =>
      if (s.worker worker).phase = .idle ∧ s.result = none then
        s.set worker ⟨.started, request, .empty⟩
      else s
  | .proceed worker => s.proceed binding worker
  | .finish worker outcome =>
      let execution := s.worker worker
      match execution.tx.lease with
      | none => s
      | some lease =>
          if execution.phase = .resolved ∨ (execution.phase = .begun ∧ ¬outcome.needsResolved) then
            s.finish worker lease outcome
          else s
  | .crash worker => s.rollback worker

def Executions.run (binding : ExecutionBinding) (s : Executions ω) (inputs : List (Progress ω)) :
    Executions ω :=
  inputs.foldl (Executions.step binding) s

end Secp.Leases
