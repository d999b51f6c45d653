import Secp.Range.Service

/-!
# The worker's half of the range lifecycle

A worker resolves the operation it was handed, checks its lease once, and then commits as it goes:
the planned steps, each progress report and event of the provider, and at the end what the provider
returned. Every commit is a function on the range's rows, so that a run of a worker is the list of
its commits and can be cut off after any of them.
-/

namespace Secp.Range

open Secp.Python
open Secp.Worker (TeardownResourceOutcome ResidueVerdict)

/-! ## What a provider returns -/

structure DeployResult where
  ok : Bool
  resources : List ResourceObservation := []
  failureCode : Option Str := none
  failureMessage : Option Str := none

/-- What a teardown says about one resource. -/
structure TeardownObservation where
  kind : RangeResourceKind
  name : Str
  externalId : Option Str := none
  outcome : TeardownResourceOutcome
  detail : Option Str := none

structure TeardownResult where
  probeReachable : Bool
  observations : List TeardownObservation := []
  reason : Option Str := none

/-! ## Resolving an operation -/

/-- `RangeExecutionUnresolvable`. -/
structure Unresolvable where
  reason : Str
  message : Str
  retryable : Bool
  deriving DecidableEq

/-- What the dispatcher said about the rows. -/
structure Expected where
  organizationId : Option Str := none
  rangeInstanceId : Option Str := none

/-- `_environment_mismatch`. -/
def environmentMismatch (op : Operation) (expected : Expected) : Option Str :=
  if expected.organizationId.any fun id => op.organizationId ≠ id then
    some (str "range operation " ++ op.id ++ str " resolves to organization " ++
      op.organizationId ++ str " in this worker's database, but was dispatched for " ++
      expected.organizationId.getD [] ++
      str ". This worker is attached to a different deployment than the one that dispatched the " ++
      str "work; nothing was executed and nothing was written.")
  else if expected.rangeInstanceId.any fun id => op.rangeInstanceId ≠ id then
    some (str "range operation " ++ op.id ++ str " resolves to range " ++ op.rangeInstanceId ++
      str " in this worker's database, but was dispatched for range " ++
      expected.rangeInstanceId.getD [] ++ str ". Nothing was executed and nothing was written.")
  else none

/-- The checks before the lease: the operation is here, it is the one meant, and it is in flight. -/
def resolveOperation (range : RangeInstance) (operationId : Str) (expected : Expected) :
    Except Unresolvable Operation :=
  match range.operation? operationId with
  | none => throw ⟨str "operation_not_found",
      str "range operation " ++ operationId ++ str " is not in this worker's database. It may not " ++
        str "have committed yet, or this worker may be attached to a different deployment than " ++
        str "the one that dispatched it.", true⟩
  | some op =>
      match environmentMismatch op expected with
      | some mismatch => throw ⟨str "environment_mismatch", mismatch, false⟩
      | none => do
          raiseIf (!op.inFlight) ⟨str "operation_not_in_flight",
            str "range operation " ++ operationId ++ str " is already " ++ op.status.value ++
              str " and will not be executed; it was resolved without this worker.", false⟩
          pure op

/-- What a worker that finds the lease expired raises. -/
def leaseExpiredError (op : Operation) (now : Datetime) : Unresolvable :=
  ⟨str "lease_expired",
    str "range operation " ++ op.id ++ str " expired at " ++
      isoInstant (operationStaleness op now).expiresAt ++ str " before this worker reached it",
    false⟩

/-- `_fail_operation`. -/
def RangeInstance.failOperation (range : RangeInstance) (operationId failureCode message : Str)
    (now : Datetime) : RangeInstance :=
  let failed := range.updateOperation operationId fun op =>
    { op with
      status := .failed
      failureCode := some failureCode
      failureMessage := some (message.take 500)
      finishedAt := some now }
  RangeInstance.recordEvent
    { failed.retainResourcesAsUnproven with
      state := .recoveryRequired
      stateReason := some message }
    (str "operation_unresolvable") message .error (.obj []) (some operationId)

/-! ## Progress -/

/-- A step that has come to an end, stamped if it was not before. -/
def RecordedStep.stamped (now : Datetime) (step : RecordedStep) : RecordedStep :=
  if step.status ∈ [.succeeded, .failed, .unproven] && step.stampedAt.isNone then
    { step with stampedAt := some now.isoformat }
  else step

/-- `on_change`. -/
def RangeInstance.onChange (range : RangeInstance) (operationId : Str)
    (current : List RecordedStep) (phase : Option Str) (now : Datetime) : RangeInstance :=
  range.updateOperation operationId fun op =>
    { op with
      steps := current.map (RecordedStep.stamped now)
      completedSteps :=
        current.countP fun step => step.status ∈ [RangeStepStatus.succeeded, .failed, .unproven]
      phase := phase
      status := .running }

/-! ## Bringing a range up -/

/-- A row as the provider observed its resource. -/
def ResourceRow.observed (row : ResourceRow) (o : ResourceObservation) : ResourceRow :=
  { row with
    componentKey := o.componentKey
    externalId := o.externalId
    image := o.image
    imageDigest := o.imageDigest
    ownerLabel := o.ownerLabel
    hostPort := o.hostPort
    detail := o.detail
    removedAt := none
    state := if o.verified then .verified else .created }

/-- One turn of `_persist_resources`: the first row of that kind and name, or a new one. -/
def persistResource (provider : Str) (o : ResourceObservation) :
    List ResourceRow → List ResourceRow
  | [] =>
      let row : ResourceRow :=
        { kind := o.kind, provider := provider, name := o.name, ownerLabel := o.ownerLabel }
      [row.observed o]
  | row :: rest =>
      if row.name = o.name && row.kind = o.kind then row.observed o :: rest
      else row :: persistResource provider o rest

/-- `_persist_resources`. -/
def RangeInstance.persistResources (range : RangeInstance)
    (observations : List ResourceObservation) : RangeInstance :=
  { range with
    resources := observations.foldl (fun rows o => persistResource range.provider o rows)
      range.resources }

/-- `_run_bring_up`. -/
def RangeInstance.runBringUp (range : RangeInstance) (operationId : Str) (result : DeployResult)
    (reset : Bool) (now : Datetime) : RangeInstance :=
  let persisted := range.persistResources result.resources
  let persisted := if reset then persisted.resetScores else persisted
  if result.ok then
    let done := persisted.updateOperation operationId fun op =>
      { op with status := .succeeded, finishedAt := some now }
    RangeInstance.recordEvent
      { done with
        state := .ready
        stateReason := none
        deployedAt := some (done.deployedAt.getD now) }
      (str "range_ready")
      (if reset then str "Range reset complete; every component was observed responding"
        else str "Range deployed; every component was observed responding")
      .info (.obj []) (some operationId)
  else
    let done := persisted.updateOperation operationId fun op =>
      { op with
        status := .failed
        failureCode := result.failureCode
        failureMessage := result.failureMessage
        finishedAt := some now }
    RangeInstance.recordEvent
      { done with state := .failed, stateReason := result.failureMessage }
      (str "range_failed")
      (match result.failureMessage with
        | some message => if message.isEmpty then str "The operation failed" else message
        | none => str "The operation failed")
      .error (.obj []) (some operationId)

/-! ## Tearing a range down -/

/-- `{row.name: row for row in live}`: the place of the last live row of each name. -/
def liveByName (rows : List ResourceRow) : Dict Str Nat :=
  Dict.ofPairs ((rows.zipIdx.filter fun entry => entry.1.live).map fun entry =>
    (entry.1.name, entry.2))

/-- What the teardown loop carries. -/
structure Sweep where
  rows : List ResourceRow
  removed : Nat := 0
  present : Nat := 0
  unproven : Nat := 0
  payload : List EvidenceResource := []

/-- The row that stands for a name, rewritten. -/
def Sweep.touch (byName : Dict Str Nat) (sweep : Sweep) (name : Str)
    (f : ResourceRow → ResourceRow) : List ResourceRow :=
  match byName.get? name with
  | some place => sweep.rows.modify place f
  | none => sweep.rows

/-- One observation of a teardown. -/
def sweepObservation (byName : Dict Str Nat) (now : Datetime) (sweep : Sweep)
    (o : TeardownObservation) : Sweep :=
  let payload := sweep.payload ++ [⟨o.kind, o.name, o.externalId, o.outcome, o.detail⟩]
  match o.outcome with
  | .removed =>
      { sweep with
        removed := sweep.removed + 1
        rows := sweep.touch byName o.name fun row =>
          { row with state := .removed, removedAt := some now }
        payload := payload }
  | .present =>
      { sweep with
        present := sweep.present + 1
        rows := sweep.touch byName o.name fun row => { row with state := .failed }
        payload := payload }
  | .unproven =>
      { sweep with
        unproven := sweep.unproven + 1
        rows := sweep.touch byName o.name fun row => { row with state := .unproven }
        payload := payload }

/-- The live names a teardown said nothing about. -/
def silentNames (byName : Dict Str Nat) (observations : List TeardownObservation) : List Str :=
  sortedBy id ((byName.map Prod.fst).filter fun name =>
    name ∉ observations.map TeardownObservation.name)

/-- One name the teardown said nothing about. -/
def sweepSilent (byName : Dict Str Nat) (sweep : Sweep) (name : Str) : Sweep :=
  let place := (byName.get? name).getD 0
  { sweep with
    unproven := sweep.unproven + 1
    rows := sweep.touch byName name fun row => { row with state := .unproven }
    payload := sweep.payload ++ (sweep.rows[place]?.toList.map fun row =>
      ⟨row.kind, name, row.externalId, .unproven,
        some (str "the teardown returned no observation for this resource")⟩) }

/-- The whole sweep of a range's rows. -/
def sweepRows (rows : List ResourceRow) (result : TeardownResult) (now : Datetime) : Sweep :=
  let byName := liveByName rows
  (silentNames byName result.observations).foldl (sweepSilent byName)
    (result.observations.foldl (sweepObservation byName now) { rows := rows })

/-- The headline verdict of a teardown. -/
def Sweep.verdict (sweep : Sweep) (probeReachable : Bool) : ResidueVerdict :=
  if !probeReachable then .unproven
  else if sweep.present ≠ 0 then .residue
  else if sweep.unproven ≠ 0 then .unproven
  else .clean

/-- The reason recorded with the evidence. -/
def teardownReason (result : TeardownResult) (sweep : Sweep) (silent : List Str) : Option Str :=
  match result.reason with
  | some reason => some reason
  | none =>
      let parts :=
        (if sweep.present ≠ 0 then
          [natStr sweep.present ++ str " owned resource(s) were still present after removal"]
        else []) ++
        if !silent.isEmpty then
          [str "the teardown said nothing about " ++ natStr silent.length ++
            str " owned resource(s) (" ++ join (str ", ") silent ++
            str "), so their absence was not proved"]
        else []
      if parts.isEmpty then none else some (join (str "; ") parts)

/-- A reason, or a text where there is none. -/
def reasonOr (reason : Option Str) (fallback : Str) : Str :=
  match reason with
  | some reason => if reason.isEmpty then fallback else reason
  | none => fallback

/-- What a verdict makes of the operation and the range. -/
def RangeInstance.concludeDestroy (range : RangeInstance) (operationId : Str) (removed : Nat)
    (reason : Option Str) (now : Datetime) : ResidueVerdict → RangeInstance
  | .clean =>
      let done := range.updateOperation operationId fun op =>
        { op with status := .succeeded, finishedAt := some now }
      RangeInstance.recordEvent
        { done with state := .destroyed, destroyedAt := some now, stateReason := none }
        (str "range_destroyed")
        (str "Range destroyed; all " ++ natStr removed ++
          str " owned resource(s) confirmed absent by a verified probe")
        .info (.obj []) (some operationId)
  | .residue =>
      let done := range.updateOperation operationId fun op =>
        { op with
          status := .failed
          failureCode := some (str "residue_present")
          failureMessage := reason
          finishedAt := some now }
      RangeInstance.recordEvent
        { done with state := .recoveryRequired, stateReason := reason }
        (str "range_residue")
        (reasonOr reason (str "Owned resources were still present after teardown"))
        .error (.obj []) (some operationId)
  | .unproven =>
      let done := range.updateOperation operationId fun op =>
        { op with
          status := .unproven
          failureCode := some (str "residue_unproven")
          failureMessage := reason
          finishedAt := some now }
      RangeInstance.recordEvent
        { done with
          state := .recoveryRequired
          stateReason := some (reasonOr reason
            (str "teardown could not be observed, so it is unknown whether resources remain")) }
        (str "range_teardown_unproven")
        (str "Teardown could not be observed. This is NOT a clean destroy: the existence check " ++
          str "shares a failure mode with the removal, so its silence is not evidence of " ++
          str "absence. Check the provider by hand before reusing these resource names.")
        .warning (.obj []) (some operationId)

/-- `_run_destroy`, once the provider has returned. -/
def RangeInstance.runDestroy (range : RangeInstance) (operationId : Str) (result : TeardownResult)
    (now : Datetime) : RangeInstance :=
  let silent := silentNames (liveByName range.resources) result.observations
  let sweep := sweepRows range.resources result now
  let verdict := sweep.verdict result.probeReachable
  let reason := teardownReason result sweep silent
  let swept : RangeInstance := { range with
    resources := sweep.rows
    evidence := range.evidence ++ [{
      operationId := operationId
      verdict := verdict
      probeReachable := result.probeReachable
      expectedCount := result.observations.length
      removedConfirmed := sweep.removed
      stillPresent := sweep.present
      unprovenCount := sweep.unproven
      reason := reason
      resources := sweep.payload }]
    residueVerdict := some verdict }
  swept.concludeDestroy operationId sweep.removed reason now verdict

/-- The handler of an exception raised while the provider ran. -/
def RangeInstance.failUnexpectedly (range : RangeInstance) (operationId : Str)
    (kind : RangeOperationKind) (exception : Str) (now : Datetime) : RangeInstance :=
  let failed := range.updateOperation operationId fun op =>
    { op with
      status := .failed
      failureCode := some (str "internal_error")
      failureMessage := some (exception.take 500)
      finishedAt := some now }
  RangeInstance.recordEvent
    { failed with
      state := .failed
      stateReason := some (str "the " ++ kind.value ++ str " operation failed unexpectedly") }
    (str "operation_failed")
    (str "The " ++ kind.value ++ str " operation failed unexpectedly: " ++ exception)
    .error (.obj []) (some operationId)

/-! ## The commits of a worker -/

/-- One commit of a worker inside `execute_range_operation`. -/
inductive Commit where
  | leaseExpired (op : Operation) (now : Datetime)
  | planned (steps : List RecordedStep)
  | started
  | progress (current : List RecordedStep) (phase : Option Str) (now : Datetime)
  | event (kind message : Str) (level : RangeEventLevel) (data : Json)
  | broughtUp (result : DeployResult) (reset : Bool) (now : Datetime)
  | tornDown (result : TeardownResult) (now : Datetime)
  | failedUnexpectedly (kind : RangeOperationKind) (exception : Str) (now : Datetime)

/-- What a commit of the worker of an operation writes. -/
def Commit.apply (operationId : Str) (range : RangeInstance) : Commit → RangeInstance
  | .leaseExpired op now =>
      range.failOperation operationId (str "lease_expired")
        (str "this operation was picked up after its lease expired at " ++
          isoInstant (operationStaleness op now).expiresAt ++ str ", so it was not executed. " ++
          (operationStaleness op now).reason.getD []) now
  | .planned steps =>
      range.updateOperation operationId fun op =>
        { op with steps := steps, totalSteps := steps.length }
  | .started => range.updateOperation operationId fun op => { op with status := .running }
  | .progress current phase now => range.onChange operationId current phase now
  | .event kind message level data => range.recordEvent kind message level data (some operationId)
  | .broughtUp result reset now => range.runBringUp operationId result reset now
  | .tornDown result now => range.runDestroy operationId result now
  | .failedUnexpectedly kind exception now => range.failUnexpectedly operationId kind exception now

/-- What a provider reports while it works. -/
inductive Report where
  | change (current : List RecordedStep) (phase : Option Str) (now : Datetime)
  | event (kind message : Str) (level : RangeEventLevel) (data : Json)

def Report.commit : Report → Commit
  | .change current phase now => .progress current phase now
  | .event kind message level data => .event kind message level data

/-- How a provider call ends. -/
inductive Ending (α : Type) where
  | returned (result : α)
  | raised (exception : Str)
  | crashed

/-- Everything the provider and the clock contribute to one execution: the planned steps or the
exception raised before any of it is committed, the reports, and what became of the call that the
operation's kind asks for. -/
structure Attempt where
  pickedUpAt : Datetime
  prepared : Except Str (List RecordedStep)
  reports : List Report
  bringUp : Ending DeployResult
  teardown : Ending TeardownResult
  endedAt : Datetime

/-- The last commit of an execution, if it gets that far. -/
def Attempt.ending (attempt : Attempt) (kind : RangeOperationKind) : List Commit :=
  match kind with
  | .destroy =>
      match attempt.teardown with
      | .returned result => [.tornDown result attempt.endedAt]
      | .raised exception => [.failedUnexpectedly kind exception attempt.endedAt]
      | .crashed => []
  | _ =>
      match attempt.bringUp with
      | .returned result => [.broughtUp result (kind = .reset) attempt.endedAt]
      | .raised exception => [.failedUnexpectedly kind exception attempt.endedAt]
      | .crashed => []

/-- The commits of an execution of an operation that was resolved. -/
def Attempt.commits (attempt : Attempt) (op : Operation) : List Commit :=
  if (operationStaleness op attempt.pickedUpAt).stale then [.leaseExpired op attempt.pickedUpAt]
  else
    match attempt.prepared with
    | .error _ => []
    | .ok steps =>
        (if op.steps.isEmpty then [.planned steps] else []) ++ [.started] ++
          attempt.reports.map Report.commit ++ attempt.ending op.kind

/-- The rows after a list of commits of one worker. -/
def applyCommits (operationId : Str) (range : RangeInstance) (commits : List Commit) :
    RangeInstance := commits.foldl (Commit.apply operationId) range

/-- Why an execution did not come to an end. -/
inductive ExecutionFailure where
  | unresolvable (error : Unresolvable)
  | raised (exception : Str)
  | crashed

/-- How an execution of an operation that was resolved ends for the caller. An exception of the
provider itself is handled and not raised again. -/
def Attempt.outcome (attempt : Attempt) (op : Operation) : Except ExecutionFailure Unit :=
  if (operationStaleness op attempt.pickedUpAt).stale then
    .error (.unresolvable (leaseExpiredError op attempt.pickedUpAt))
  else
    match attempt.prepared with
    | .error exception => .error (.raised exception)
    | .ok _ => if (attempt.ending op.kind).isEmpty then .error .crashed else .ok ()

/-- `execute_range_operation`: the rows it leaves and how it ended. An operation it cannot resolve is
refused without a write. -/
def executeRangeOperation (range : RangeInstance) (operationId : Str) (expected : Expected)
    (attempt : Attempt) : RangeInstance × Except ExecutionFailure Unit :=
  match resolveOperation range operationId expected with
  | .error error => (range, .error (.unresolvable error))
  | .ok op => (applyCommits operationId range (attempt.commits op), attempt.outcome op)

end Secp.Range
