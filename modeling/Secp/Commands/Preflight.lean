import Secp.Commands.Authorization
import Secp.Python.Sha256

/-!
# The preflight of the operator commands

Eight commands record what an operator asked for; three of them also enqueue an operation. Every
command passes one preflight, whose checks stand in a fixed order: the range and the permission, the
compiled plan, the declared hash, the scope, the version of the timeline, the idempotency key, the
state of the range, and for the three that enqueue the age of the observation, the operation in flight
and the worker.
-/

namespace Secp.Commands

open Secp.Python Secp.Range
open Secp.Proxmox (CompileOutcome)

/-! ## The vocabulary -/

inductive CommandKind where
  | compileTopology
  | generatePlan
  | submitPlanForReview
  | requestExecution
  | requestReset
  | requestReconciliation
  | generateDestroyPlan
  | requestDestroyExecution
  deriving DecidableEq

namespace CommandKind

/-- The members in the order of the enumeration. -/
def members : List CommandKind :=
  [.compileTopology, .generatePlan, .submitPlanForReview, .requestExecution, .requestReset,
    .requestReconciliation, .generateDestroyPlan, .requestDestroyExecution]

def value : CommandKind → Str
  | .compileTopology => str "compile_topology"
  | .generatePlan => str "generate_plan"
  | .submitPlanForReview => str "submit_plan_for_review"
  | .requestExecution => str "request_execution"
  | .requestReset => str "request_reset"
  | .requestReconciliation => str "request_reconciliation"
  | .generateDestroyPlan => str "generate_destroy_plan"
  | .requestDestroyExecution => str "request_destroy_execution"

/-- `COMMAND_EVENT_KINDS`. -/
def event : CommandKind → Str
  | .compileTopology => str "proxmox_topology_compiled"
  | .generatePlan => str "proxmox_plan_generated"
  | .submitPlanForReview => str "proxmox_plan_submitted_for_review"
  | .requestExecution => str "proxmox_execution_requested"
  | .requestReset => str "proxmox_reset_requested"
  | .requestReconciliation => str "proxmox_reconciliation_requested"
  | .generateDestroyPlan => str "proxmox_destroy_plan_generated"
  | .requestDestroyExecution => str "proxmox_destroy_execution_requested"

/-- `COMMAND_PERMISSIONS`. -/
def permission : CommandKind → Permission
  | .compileTopology => .planGenerate
  | .generatePlan => .planGenerate
  | .submitPlanForReview => .planApprove
  | .requestExecution => .exerciseApply
  | .requestReset => .exerciseReset
  | .requestReconciliation => .exerciseOperate
  | .generateDestroyPlan => .exerciseDestroy
  | .requestDestroyExecution => .exerciseDestroy

/-- `COMMAND_OPERATION_KINDS`. -/
def operationKind : CommandKind → Option RangeOperationKind
  | .requestExecution => some .deploy
  | .requestReset => some .reset
  | .requestDestroyExecution => some .destroy
  | _ => none

/-- `DESTROY_FAMILY`. -/
def destroyFamily : List CommandKind := [.generateDestroyPlan, .requestDestroyExecution]

/-- `RESET_FAMILY`. -/
def resetFamily : List CommandKind := [.requestReset]

/-- `_ALLOWED_RANGE_STATES`. -/
def allowedRangeStates : CommandKind → List RangeState
  | .compileTopology => [.draft, .ready, .active, .failed]
  | .generatePlan => [.draft, .ready, .active, .failed]
  | .submitPlanForReview => [.draft, .ready, .active, .failed]
  | .requestExecution => [.draft, .failed]
  | .requestReset => [.ready, .active, .failed]
  | .requestReconciliation => [.ready, .active, .failed, .recoveryRequired]
  | .generateDestroyPlan => [.draft, .ready, .active, .failed, .recoveryRequired]
  | .requestDestroyExecution => [.draft, .ready, .active, .failed, .recoveryRequired]

end CommandKind

/-! ## Refusals -/

inductive RefusalCode where
  | rangeNotProxmox
  | targetMismatch
  | clusterFingerprintMismatch
  | ownershipScopeMismatch
  | planBlocked
  | observationAbsent
  | observationStale
  | planNotGenerated
  | planNotSubmitted
  | planNotApproved
  | applyNotAuthorized
  | resetPlanNotApproved
  | resetNotAuthorized
  | destroyPlanNotGenerated
  | destroyPlanNotApproved
  | destroyNotAuthorized
  | planIdentityMismatch
  | destroyPlanIdentityMismatch
  | resetPlanIdentityMismatch
  | desiredStateChanged
  | allocationChanged
  | versionConflict
  | operationGenerationMismatch
  | idempotencyKeyReused
  | operationInFlight
  | lifecycleStateInvalid
  | workerMismatch
  | releaseMismatch
  | workerNotHealthy
  | reconciliationConsumerUnavailable
  deriving DecidableEq

namespace RefusalCode

def members : List RefusalCode :=
  [.rangeNotProxmox, .targetMismatch, .clusterFingerprintMismatch, .ownershipScopeMismatch,
    .planBlocked, .observationAbsent, .observationStale, .planNotGenerated, .planNotSubmitted,
    .planNotApproved, .applyNotAuthorized, .resetPlanNotApproved, .resetNotAuthorized,
    .destroyPlanNotGenerated, .destroyPlanNotApproved, .destroyNotAuthorized,
    .planIdentityMismatch, .destroyPlanIdentityMismatch, .resetPlanIdentityMismatch,
    .desiredStateChanged, .allocationChanged, .versionConflict, .operationGenerationMismatch,
    .idempotencyKeyReused, .operationInFlight, .lifecycleStateInvalid, .workerMismatch,
    .releaseMismatch, .workerNotHealthy, .reconciliationConsumerUnavailable]

def value : RefusalCode → Str
  | .rangeNotProxmox => str "range_not_proxmox"
  | .targetMismatch => str "target_mismatch"
  | .clusterFingerprintMismatch => str "cluster_fingerprint_mismatch"
  | .ownershipScopeMismatch => str "ownership_scope_mismatch"
  | .planBlocked => str "plan_blocked"
  | .observationAbsent => str "observation_absent"
  | .observationStale => str "observation_stale"
  | .planNotGenerated => str "plan_not_generated"
  | .planNotSubmitted => str "plan_not_submitted"
  | .planNotApproved => str "plan_not_approved"
  | .applyNotAuthorized => str "apply_not_authorized"
  | .resetPlanNotApproved => str "reset_plan_not_approved"
  | .resetNotAuthorized => str "reset_not_authorized"
  | .destroyPlanNotGenerated => str "destroy_plan_not_generated"
  | .destroyPlanNotApproved => str "destroy_plan_not_approved"
  | .destroyNotAuthorized => str "destroy_not_authorized"
  | .planIdentityMismatch => str "plan_identity_mismatch"
  | .destroyPlanIdentityMismatch => str "destroy_plan_identity_mismatch"
  | .resetPlanIdentityMismatch => str "reset_plan_identity_mismatch"
  | .desiredStateChanged => str "desired_state_changed"
  | .allocationChanged => str "allocation_changed"
  | .versionConflict => str "version_conflict"
  | .operationGenerationMismatch => str "operation_generation_mismatch"
  | .idempotencyKeyReused => str "idempotency_key_reused"
  | .operationInFlight => str "operation_in_flight"
  | .lifecycleStateInvalid => str "lifecycle_state_invalid"
  | .workerMismatch => str "worker_mismatch"
  | .releaseMismatch => str "release_mismatch"
  | .workerNotHealthy => str "worker_not_healthy"
  | .reconciliationConsumerUnavailable => str "reconciliation_consumer_unavailable"

/-- `_REFUSAL_STATUS`. -/
def httpStatus : RefusalCode → Nat
  | .reconciliationConsumerUnavailable => 501
  | _ => 409

/-- `_refuse`. -/
def refuse (code : RefusalCode) (message : Str) : Failure :=
  .refused ⟨code.httpStatus, code.value, message⟩

end RefusalCode

/-! ## Requests and records -/

/-- What every command carries besides its own identity fields. -/
structure CommandEnvelope where
  idempotencyKey : Str
  expectedVersion : Int
  operationGeneration : Int
  targetId : Str
  clusterFingerprint : Str
  deriving DecidableEq

/-- The worker an execution request names. -/
structure WorkerAssertion where
  workerInstallationId : Str
  releaseDigest : Str
  deriving DecidableEq

/-- One durable command, as it was accepted. The hash is whatever the timeline holds. -/
structure CommandRecord where
  operationKind : CommandKind
  rangeId : Str
  organizationId : Str
  subjectHash : Json
  idempotencyKey : Str
  acceptedVersion : Int
  operationGeneration : Int
  targetId : Str
  clusterFingerprint : Str
  requestedBy : Option Str
  sequence : Nat
  operationId : Option Str
  deduplicated : Bool
  enqueued : Bool
  notEnqueuedReason : Option RefusalCode

/-- What a request digest is taken over. -/
structure RequestContents where
  kind : CommandKind
  subjectHash : Str
  operationGeneration : Int
  targetId : Str
  clusterFingerprint : Str
  worker : Option WorkerAssertion
  deriving DecidableEq

def optionalText : Option Str → Json
  | some text => .str text
  | none => .null

/-- `_request_digest`. -/
def RequestContents.digest (contents : RequestContents) : Str :=
  str "sha256:" ++ Sha256.hexdigest (Sha256.encode ((Json.obj [
    (str "kind", .str contents.kind.value),
    (str "subject_hash", .str contents.subjectHash),
    (str "operation_generation", .int contents.operationGeneration),
    (str "target_id", .str contents.targetId),
    (str "cluster_fingerprint", .str contents.clusterFingerprint),
    (str "worker_installation_id",
      optionalText (contents.worker.map WorkerAssertion.workerInstallationId)),
    (str "release_digest", optionalText (contents.worker.map WorkerAssertion.releaseDigest))]).dumps
      true))

/-! ## Reading the command log -/

/-- `_command_events`: newest first. -/
def commandEvents (range : RangeInstance) (kind : CommandKind) : List LifecycleEvent :=
  (range.events.filter fun event => event.kind = kind.event).reverse

section
variable [Unicode]

/-- `str(value or "")`. -/
def textOrEmpty (value : Json) : Str := if value.truthy then value.text else []

/-- `int(value or 0)`. -/
def intOrZero (value : Json) : Except PayloadError Int :=
  if value.truthy then value.toInt else .ok 0

/-- `RefusalCode(reason) if isinstance(reason, str) else None`. -/
def readReason (reason : Option Str) : Except PayloadError (Option RefusalCode) :=
  match reason with
  | none => .ok none
  | some reason =>
      match RefusalCode.members.find? fun code => code.value = reason with
      | some code => .ok (some code)
      | none => .error .valueError

/-- `_record_from_event`. -/
def recordFromEvent (range : RangeInstance) (kind : CommandKind) (event : LifecycleEvent)
    (deduplicated : Bool := false) : Except Failure CommandRecord := do
  let data := event.data
  let acceptedVersion ← reading (intOrZero (data.field (str "accepted_version")))
  let operationGeneration ← reading (intOrZero (data.field (str "operation_generation")))
  let reason ← reading (readReason (textField data (str "not_enqueued_reason")))
  pure {
    operationKind := kind
    rangeId := range.id
    organizationId := range.organizationId
    subjectHash := data.field (str "subject_hash")
    idempotencyKey := textOrEmpty (data.field (str "idempotency_key"))
    acceptedVersion := acceptedVersion
    operationGeneration := operationGeneration
    targetId := textOrEmpty (data.field (str "target_id"))
    clusterFingerprint := textOrEmpty (data.field (str "cluster_fingerprint"))
    requestedBy := textField data (str "requested_by")
    sequence := event.sequence
    operationId := textField data (str "operation_id")
    deduplicated := deduplicated
    enqueued := (data.field (str "enqueued")).truthy
    notEnqueuedReason := reason }

/-- `latest_command`. -/
def latestCommand (range : RangeInstance) (kind : CommandKind) :
    Except Failure (Option CommandRecord) :=
  match commandEvents range kind with
  | [] => pure none
  | event :: _ => do
      let record ← recordFromEvent range kind event
      pure (some record)

/-- The refusal of a key that was used for something else. -/
def keyReused (key : Str) (other : CommandKind) : Failure :=
  RefusalCode.idempotencyKeyReused.refuse
    (str "idempotency key '" ++ key ++ str "' was already used on this range for a " ++
      other.value ++ str " command with different contents. A key identifies ONE request; " ++
      str "reusing it for another would return you the earlier command's result and let you " ++
      str "believe you issued this one. Use a fresh key.")

/-- The events under a key, in the order the lookup meets them. -/
def keyHolders (range : RangeInstance) (key : Str) : List (CommandKind × LifecycleEvent) :=
  CommandKind.members.flatMap fun other =>
    ((commandEvents range other).filter fun event =>
      event.data.field (str "idempotency_key") = .str key).map fun event => (other, event)

/-- `_find_replay`: the first event under the key decides. -/
def findReplay (range : RangeInstance) (kind : CommandKind) (envelope : CommandEnvelope)
    (digest : Str) : Except Failure (Option CommandRecord) :=
  match keyHolders range envelope.idempotencyKey with
  | [] => pure none
  | (other, event) :: _ =>
      if other = kind ∧ event.data.field (str "request_digest") = .str digest then do
        let record ← recordFromEvent range kind event true
        pure (some record)
      else throw (keyReused envelope.idempotencyKey other)

/-! ## The checks -/

/-- The columns of `WorkerEnrollmentState` an execution request is checked against. -/
structure EnrolledWorker where
  organizationId : Str
  workerInstallationId : Str
  state : Str
  releaseDigest : Str
  deriving DecidableEq

/-- The rows the control plane reads and writes for one range: the range itself, the enrolled workers
of every organization, and the operations handed to the outbox. -/
structure ControlPlane where
  range : RangeInstance
  workers : List EnrolledWorker := []
  outbox : List Str := []

/-- Everything a command handler needs. -/
structure Preflight where
  compiled : CompiledRangePlan
  subjectHash : Str
  requestDigest : Str

inductive PreflightOutcome where
  | checked (checked : Preflight)
  | replay (record : CommandRecord)

/-- `subject_hash_for`. -/
def subjectHashFor (kind : CommandKind) (plan : Proxmox.CompiledRangePlan) : Str :=
  if kind ∈ CommandKind.destroyFamily then plan.destroyHash
  else if kind ∈ CommandKind.resetFamily then plan.resetHash
  else plan.planHash

/-- `_require_compiled` of the commands. -/
def requireCompiledForCommand (planner : Planner) (range : RangeInstance) :
    Except Failure CompiledRangePlan := do
  match ← loadBinding planner range with
  | none => throw (RefusalCode.observationAbsent.refuse
      (str "no discovery observation has been recorded for this range, so there is nothing to " ++
        str "compile against. This is an UNCHECKED prerequisite, not a failed one: the compiler " ++
        str "needs facts a live cluster scan proves — SDN support, firewall support, the VMIDs, " ++
        str "VLAN tags, MACs and subnets in use, and the management CIDRs the scenario must not " ++
        str "reach — and none of them may be assumed. Run discovery against the target first."))
  | some _ => do
      match ← compilePlan planner range with
      | .plan compiled => pure compiled
      | .blocked refusal => throw (RefusalCode.planBlocked.refuse
          (str "this range's plan does not compile, so no command can act on it: " ++
            describe refusal))

/-- The refusal of a hash that is not the current one, by family. -/
def identityMismatch (kind : CommandKind) (declared subjectHash : Str) : Failure :=
  if kind ∈ CommandKind.destroyFamily then
    RefusalCode.destroyPlanIdentityMismatch.refuse
      (str "the destroy plan has changed since you read it: you named " ++ declared ++
        str ", the current destroy plan is " ++ subjectHash ++
        str ". Re-read the destroy plan and act on the deletion scope you actually saw.")
  else if kind ∈ CommandKind.resetFamily then
    RefusalCode.resetPlanIdentityMismatch.refuse
      (str "the reset scope has changed since you read it: you named " ++ declared ++
        str ", the current reset scope is " ++ subjectHash ++
        str ". Re-read it and act on the set of guests you actually saw — it names what will be " ++
        str "destroyed.")
  else
    RefusalCode.planIdentityMismatch.refuse
      (str "the plan has changed since you read it: you named " ++ declared ++
        str ", the current plan is " ++ subjectHash ++
        str ". Re-read the plan and act on the document you actually saw.")

/-- Step 5 of the preflight. -/
def checkIdentity (kind : CommandKind) (declaredHash : Option Str) (subjectHash : Str) :
    Except Failure Unit :=
  match declaredHash with
  | none => pure ()
  | some declared => raiseIf (declared ≠ subjectHash) (identityMismatch kind declared subjectHash)

/-- `_check_scope`. -/
def checkScope (envelope : CommandEnvelope) (compiled : CompiledRangePlan)
    (range : RangeInstance) : Except Failure Unit := do
  let identity := compiled.recorded.binding.observation.identity
  raiseIf (envelope.targetId ≠ identity.targetId) (RefusalCode.targetMismatch.refuse
    (str "this range plans against target '" ++ identity.targetId ++ str "', not '" ++
      envelope.targetId ++ str "'. A command names the target it believes it is acting on so " ++
      str "that acting on the wrong one is a refusal rather than a surprise."))
  raiseIf (envelope.clusterFingerprint ≠ identity.clusterFingerprint)
    (RefusalCode.clusterFingerprintMismatch.refuse
      (str "this range's observation was taken from cluster fingerprint '" ++
        identity.clusterFingerprint ++ str "', not '" ++ envelope.clusterFingerprint ++
        str "'. A cluster rebuilt under the same name is a different cluster and none of this " ++
        str "plan's reserved identifiers are known to be free on it."))
  let ownership := compiled.plan.workload.topology.ownership
  raiseIf (ownership.organizationId ≠ range.organizationId)
    (RefusalCode.ownershipScopeMismatch.refuse
      (str "the compiled plan stamps its objects with an organization that is not this range's. " ++
        str "Ownership is what a destroy sweep acts on, and it is never inferred from names."))
  raiseIf (envelope.operationGeneration ≠ ownership.operationGeneration)
    (RefusalCode.operationGenerationMismatch.refuse
      (str "this range's objects are stamped operation generation " ++
        intStr ownership.operationGeneration ++ str ", not " ++
        intStr envelope.operationGeneration ++
        str ". Acting on the wrong generation is how a reset's objects become " ++
        str "indistinguishable from a deploy's."))

/-- Step 7 of the preflight: compare and swap on the version of the range. -/
def checkVersion (envelope : CommandEnvelope) (range : RangeInstance) : Except Failure Unit :=
  raiseIf (envelope.expectedVersion ≠ range.eventSequence) (RefusalCode.versionConflict.refuse
    (str "this range is at version " ++ natStr range.eventSequence ++
      str "; you acted on version " ++ intStr envelope.expectedVersion ++
      str ". Something has happened to it since you read it — an approval, a new observation, " ++
      str "another operator's command. Re-read and decide again."))

/-- Step 9 of the preflight. -/
def checkLifecycle (kind : CommandKind) (range : RangeInstance) : Except Failure Unit :=
  raiseIf (range.state ∉ kind.allowedRangeStates) (RefusalCode.lifecycleStateInvalid.refuse
    (str "a range in state '" ++ range.state.value ++ str "' cannot " ++ kind.value ++
      str ". Allowed from: " ++
      join (str ", ") (sortedBy id (kind.allowedRangeStates.map RangeState.value)) ++ ['.']))

/-- `_check_freshness`. -/
def checkFreshness (recorded : RecordedBinding) (kind : CommandKind) (now : Datetime) :
    Except Failure Unit :=
  if kind.operationKind.isNone then pure ()
  else raiseIf (recorded.freshness now ≠ .fresh) (RefusalCode.observationStale.refuse
    (str "the observation this plan compiles against is '" ++ (recorded.freshness now).value ++
      str "' (bound: " ++ intStr observationFreshnessSeconds ++
      str "s). A stale snapshot is fine to plan and review against and is not fine to create " ++
      str "real guests from — the cluster may have taken an identifier this plan reserves. " ++
      str "Re-run discovery and record a fresh observation."))

/-- `current_operation`: of operations that started together, the later row. -/
def currentOperation (range : RangeInstance) : Option Operation :=
  range.operations.foldl (fun latest op =>
    if latest.any fun other => op.startedAt.micros < other.startedAt.micros then latest
    else some op) none

/-- `_check_no_operation_in_flight`. -/
def checkNoOperationInFlight (range : RangeInstance) (now : Datetime) : Except Failure Unit :=
  match currentOperation range with
  | none => pure ()
  | some op =>
      if !op.inFlight then pure ()
      else
        match (operationStaleness op now).reason with
        | some reason => throw (RefusalCode.operationInFlight.refuse
            (str "a " ++ op.kind.value ++ str " operation is stuck on this range: " ++ reason ++
              str ". Abandon it (POST /api/v1/range-operations/" ++ op.id ++
              str "/abandon) before requesting anything else."))
        | none => throw (RefusalCode.operationInFlight.refuse
            (str "a " ++ op.kind.value ++ str " operation is already in flight on this range. " ++
              str "Requesting a second would put two writers on one range."))

/-- `_check_worker`. -/
def checkWorker (rows : ControlPlane) (worker : WorkerAssertion) : Except Failure Unit :=
  match rows.workers.filter fun row =>
      row.organizationId = rows.range.organizationId ∧
        row.workerInstallationId = worker.workerInstallationId with
  | [] => throw (RefusalCode.workerMismatch.refuse
      (str "no worker enrolled in this organization has installation id '" ++
        worker.workerInstallationId ++
        str "'. Execution is handed to a named, enrolled worker; an unenrolled installation is " ++
        str "not one this control plane has ever authenticated."))
  | [row] => do
      raiseIf (row.state ≠ str "healthy") (RefusalCode.workerNotHealthy.refuse
        (str "worker '" ++ worker.workerInstallationId ++
          str "' is enrolled but its enrollment state is '" ++ row.state ++
          str "', not 'healthy'. Only a worker that completed the full enrollment exchange may " ++
          str "be given controlled-live execution; an ordinary or partially-enrolled worker may " ++
          str "not."))
      raiseIf (row.releaseDigest ≠ worker.releaseDigest) (RefusalCode.releaseMismatch.refuse
        (str "worker '" ++ worker.workerInstallationId ++ str "' is enrolled with release " ++
          row.releaseDigest ++ str ", not " ++ worker.releaseDigest ++
          str ". The release is what decides which gates the executing process actually runs, " ++
          str "so a mismatch is never a detail."))
  | _ => throw .multipleResults

/-- Step 11 of the preflight. -/
def checkIdle (rows : ControlPlane) (kind : CommandKind) (now : Datetime) : Except Failure Unit :=
  if kind.operationKind.isSome then checkNoOperationInFlight rows.range now else pure ()

/-- Steps 9 to 12 of the preflight. -/
def checkReady (rows : ControlPlane) (kind : CommandKind) (recorded : RecordedBinding)
    (worker : Option WorkerAssertion) (now : Datetime) : Except Failure Unit := do
  checkLifecycle kind rows.range
  checkFreshness recorded kind now
  checkIdle rows kind now
  match worker with
  | some worker => checkWorker rows worker
  | none => pure ()

/-- `preflight`. -/
def preflight (planner : Planner) (rows : ControlPlane) (principal : Principal)
    (kind : CommandKind) (envelope : CommandEnvelope) (declaredHash : Option Str)
    (worker : Option WorkerAssertion) (now : Datetime) : Except Failure PreflightOutcome := do
  let range := rows.range
  refusing (getRange range principal)
  refusing (principal.require kind.permission)
  raiseIf (range.provider ≠ proxmoxProvider) (RefusalCode.rangeNotProxmox.refuse
    (str "range '" ++ range.name ++ str "' runs on provider '" ++ range.provider ++
      str "'. The Proxmox command surface exists only for ranges created from a Proxmox template."))
  let compiled ← requireCompiledForCommand planner range
  let subjectHash := subjectHashFor kind compiled.plan
  checkIdentity kind declaredHash subjectHash
  checkScope envelope compiled range
  checkVersion envelope range
  let digest := RequestContents.digest ⟨kind, subjectHash, envelope.operationGeneration,
    envelope.targetId, envelope.clusterFingerprint, worker⟩
  match ← findReplay range kind envelope digest with
  | some record => pure (.replay record)
  | none => do
      checkReady rows kind compiled.recorded worker now
      pure (.checked ⟨compiled, subjectHash, digest⟩)

end

end Secp.Commands
