import Secp.Commands.Preflight

/-!
# The eight commands

After the preflight a command checks the records it depends on, appends its own record and, where the
work needs a worker, starts the operation and hands it to the outbox. The plain routes start the same
operations behind their own gate.
-/

namespace Secp.Commands

open Secp.Python Secp.Range
open Secp.Proxmox (CompileOutcome)

section
variable [Unicode]

/-! ## The records a command depends on -/

/-- `_ledger_hash`: every ledger of the compiler can be hashed. -/
def ledgerHash (compiled : CompiledRangePlan) : Str := compiled.plan.ledger.contentHash

/-- `_require_generation`. -/
def requireGeneration (range : RangeInstance) (checked : Preflight) (kind : CommandKind)
    (missing : RefusalCode) (what : Str) : Except Failure Unit := do
  match ← latestCommand range kind with
  | none => throw (missing.refuse
      (str "no " ++ what ++ str " has been generated for this range. Generate it first — a later " ++
        str "command may only reference a document that actually exists."))
  | some record =>
      raiseIf (record.subjectHash ≠ .str checked.subjectHash)
        (RefusalCode.desiredStateChanged.refuse
          (str "the " ++ what ++ str " has changed since it was generated: the generated record " ++
            str "names " ++ record.subjectHash.text ++ str ", the current one is " ++
            checked.subjectHash ++
            str ". Regenerate and review the document that would actually be used."))

/-- `_check_allocations_unchanged`. -/
def checkAllocationsUnchanged (range : RangeInstance) (checked : Preflight) (kind : CommandKind) :
    Except Failure Unit :=
  match commandEvents range kind with
  | [] => pure ()
  | event :: _ =>
      let recorded := event.data.field (str "ledger_hash")
      let current := ledgerHash checked.compiled
      raiseIf (recorded ≠ .null ∧ recorded ≠ .str current) (RefusalCode.allocationChanged.refuse
        (str "the allocation ledger has changed since this plan was generated: it reserved " ++
          recorded.text ++ str " and now reserves " ++ current ++
          str ". The same plan would take different VMIDs, MACs, subnets or VLAN tags than the " ++
          str "one that was reviewed."))

/-- A generation and the ledger it was made with. -/
def requireUnchanged (range : RangeInstance) (checked : Preflight) (kind : CommandKind)
    (what : Str) : Except Failure Unit := do
  requireGeneration range checked kind .planNotGenerated what
  checkAllocationsUnchanged range checked kind

/-- The plan was submitted for review under its current hash. -/
def requireSubmission (range : RangeInstance) (checked : Preflight) : Except Failure Unit := do
  let submitted ← latestCommand range .submitPlanForReview
  raiseIf (!submitted.any fun record => record.subjectHash = .str checked.subjectHash)
    (RefusalCode.planNotSubmitted.refuse
      (str "plan " ++ checked.subjectHash ++ str " has not been submitted for review. Submission " ++
        str "is the act that puts a document in front of a reviewer, and it is not implied by " ++
        str "generating one."))

/-- The newest approval of a kind names the current hash. -/
def requireNamed (record : Option ApprovalRecord) (checked : Preflight) (code : RefusalCode)
    (message : Str) : Except Failure Unit :=
  raiseIf (!ApprovalRecord.names record checked.subjectHash) (code.refuse message)

/-! ## Commands -/

/-- One command: what the preflight is told, what is checked after it, and what the record says. -/
structure Command where
  kind : CommandKind
  envelope : CommandEnvelope
  declaredHash : Option Str := none
  worker : Option WorkerAssertion := none
  chain : RangeInstance → Preflight → Except Failure Unit := fun _ _ => pure ()
  message : Preflight → Str
  level : RangeEventLevel := .info
  notEnqueuedReason : Option RefusalCode := none
  extra : Preflight → Datetime → List (Str × Json)

/-- The ledger hash every record carries. -/
def ledgerField (checked : Preflight) : Str × Json :=
  (str "ledger_hash", .str (ledgerHash checked.compiled))

/-- `compile_topology`. -/
def compileTopology (envelope : CommandEnvelope) : Command where
  kind := .compileTopology
  envelope := envelope
  message checked := str "Proxmox topology compiled to " ++ checked.subjectHash
  extra checked now := [
    ledgerField checked,
    (str "guest_count", .int checked.compiled.plan.workload.topology.guests.length),
    (str "vnet_count", .int checked.compiled.plan.workload.topology.network.vnets.length),
    (str "observation_freshness", .str (checked.compiled.recorded.freshness now).value),
    (str "snapshot_id", optionalText checked.compiled.recorded.snapshotId)]

/-- `generate_plan`. -/
def generatePlan (envelope : CommandEnvelope) (planHash : Str) : Command where
  kind := .generatePlan
  envelope := envelope
  declaredHash := some planHash
  chain range checked :=
    requireUnchanged range checked .compileTopology (str "topology compilation")
  message checked := str "Proxmox plan " ++ checked.subjectHash ++ str " generated"
  extra checked _ := [
    ledgerField checked,
    (str "document_version", .str (str "secp-proxmox/desired-state-document/v1")),
    (str "deletion_set_size", .int checked.compiled.plan.deletionSet.length)]

/-- `submit_plan_for_review`. -/
def submitPlanForReview (envelope : CommandEnvelope) (planHash : Str) : Command where
  kind := .submitPlanForReview
  envelope := envelope
  declaredHash := some planHash
  chain range checked := requireUnchanged range checked .generatePlan (str "plan")
  message checked := str "Proxmox plan " ++ checked.subjectHash ++ str " submitted for review"
  extra checked _ := [ledgerField checked]

/-- `generate_destroy_plan`. -/
def generateDestroyPlan (envelope : CommandEnvelope) (destroyHash : Str) : Command where
  kind := .generateDestroyPlan
  envelope := envelope
  declaredHash := some destroyHash
  message checked := str "Proxmox destroy plan " ++ checked.subjectHash ++ str " generated"
  level := .warning
  extra checked _ := [
    ledgerField checked,
    (str "deletion_set_size", .int checked.compiled.plan.deletionSet.length)]

/-- `request_reconciliation`. -/
def requestReconciliation (envelope : CommandEnvelope) : Command where
  kind := .requestReconciliation
  envelope := envelope
  message _ :=
    str "Proxmox reconciliation requested; no consumer has taken it and nothing is in flight"
  level := .warning
  notEnqueuedReason := some .reconciliationConsumerUnavailable
  extra checked _ := [ledgerField checked]

/-- `request_execution`. -/
def requestExecution (envelope : CommandEnvelope) (planHash : Str) (worker : WorkerAssertion) :
    Command where
  kind := .requestExecution
  envelope := envelope
  declaredHash := some planHash
  worker := some worker
  chain range checked := do
    requireUnchanged range checked .generatePlan (str "plan")
    requireSubmission range checked
    requireNamed (planApproval range) checked .planNotApproved
      (str "plan " ++ checked.subjectHash ++ str " carries no current approval. Approve the exact " ++
        str "plan (POST /api/v1/ranges/" ++ range.id ++ str "/proxmox/plan-approval) first.")
    requireNamed (applyAuthorization range) checked .applyNotAuthorized
      (str "apply is not authorized for plan " ++ checked.subjectHash ++
        str ". Approving a plan and authorizing its apply are two decisions; the second is the " ++
        str "one that creates real virtual machines. A destroy authorization does not authorize " ++
        str "an apply.")
  message checked :=
    str "Execution requested for authorized Proxmox plan " ++ checked.subjectHash
  extra checked _ := [ledgerField checked]

/-- `request_reset`. -/
def requestReset (envelope : CommandEnvelope) (resetHash : Str) (worker : WorkerAssertion) :
    Command where
  kind := .requestReset
  envelope := envelope
  declaredHash := some resetHash
  worker := some worker
  chain range checked := do
    requireNamed (resetPlanApproval range) checked .resetPlanNotApproved
      (str "reset scope " ++ checked.subjectHash ++ str " carries no current approval. Approve " ++
        str "the reset scope (POST /api/v1/ranges/" ++ range.id ++
        str "/proxmox/reset-plan-approval) first — it names the guests that will be destroyed.")
    requireNamed (resetAuthorization range) checked .resetNotAuthorized
      (str "reset is not authorized for reset scope " ++ checked.subjectHash ++
        str ". An apply authorization does not authorize a reset: a reset DESTROYS every guest " ++
        str "in this range and rebuilds it, and approving their creation is not approving their " ++
        str "deletion.")
  message checked :=
    str "Reset requested against authorized Proxmox reset scope " ++ checked.subjectHash
  level := .warning
  extra checked _ := [ledgerField checked]

/-- `request_destroy_execution`. -/
def requestDestroyExecution (envelope : CommandEnvelope) (destroyHash : Str)
    (worker : WorkerAssertion) : Command where
  kind := .requestDestroyExecution
  envelope := envelope
  declaredHash := some destroyHash
  worker := some worker
  chain range checked := do
    requireGeneration range checked .generateDestroyPlan .destroyPlanNotGenerated
      (str "destroy plan")
    requireNamed (destroyPlanApproval range) checked .destroyPlanNotApproved
      (str "destroy plan " ++ checked.subjectHash ++ str " carries no current approval. Approve " ++
        str "the exact deletion scope (POST /api/v1/ranges/" ++ range.id ++
        str "/proxmox/destroy-plan-approval) first.")
    requireNamed (destroyAuthorization range) checked .destroyNotAuthorized
      (str "destroy is not authorized for destroy plan " ++ checked.subjectHash ++
        str ". An apply authorization does not authorize a destroy, and never can: the two are " ++
        str "recorded under different event kinds against digests from different hash domains.")
  message checked :=
    str "Destroy execution requested for authorized destroy plan " ++ checked.subjectHash
  level := .warning
  extra checked _ := [ledgerField checked]

/-! ## Accepting a command -/

/-- The payload of a command record. -/
def Command.data (command : Command) (range : RangeInstance) (principal : Principal)
    (checked : Preflight) (operationId : Option Str) (now : Datetime) : Json :=
  .obj ([
    (str "command_kind", .str command.kind.value),
    (str "subject_hash", .str checked.subjectHash),
    (str "idempotency_key", .str command.envelope.idempotencyKey),
    (str "request_digest", .str checked.requestDigest),
    (str "accepted_version", .int range.eventSequence),
    (str "operation_generation", .int command.envelope.operationGeneration),
    (str "target_id", .str command.envelope.targetId),
    (str "cluster_fingerprint", .str command.envelope.clusterFingerprint),
    (str "requested_by", .str principal.userId),
    (str "enqueued", .bool operationId.isSome),
    (str "operation_id", optionalText operationId),
    (str "not_enqueued_reason", optionalText (command.notEnqueuedReason.map RefusalCode.value))] ++
    command.extra checked now)

/-- The record a fresh acceptance returns. -/
def Command.record (command : Command) (range : RangeInstance) (principal : Principal)
    (checked : Preflight) (operationId : Option Str) : CommandRecord where
  operationKind := command.kind
  rangeId := range.id
  organizationId := range.organizationId
  subjectHash := .str checked.subjectHash
  idempotencyKey := command.envelope.idempotencyKey
  acceptedVersion := range.eventSequence
  operationGeneration := command.envelope.operationGeneration
  targetId := command.envelope.targetId
  clusterFingerprint := command.envelope.clusterFingerprint
  requestedBy := some principal.userId
  sequence := range.eventSequence + 1
  operationId := operationId
  deduplicated := false
  enqueued := operationId.isSome
  notEnqueuedReason := command.notEnqueuedReason

/-- `_accept`. -/
def Command.accept (command : Command) (range : RangeInstance) (principal : Principal)
    (checked : Preflight) (operationId : Option Str) (now : Datetime) :
    RangeInstance × CommandRecord :=
  (range.recordEvent command.kind.event (command.message checked) command.level
      (command.data range principal checked operationId now) operationId,
    command.record range principal checked operationId)

/-- `_enqueue`, for the three commands that need a worker; the others only leave their record. -/
def Command.conclude (command : Command) (rows : ControlPlane) (principal : Principal)
    (checked : Preflight) (operationId : Str) (now : Datetime) :
    Except Failure (ControlPlane × CommandRecord) :=
  match command.kind.operationKind with
  | none =>
      let (range, record) := command.accept rows.range principal checked none now
      pure ({ rows with range := range }, record)
  | some kind => do
      let started ← refusing (startOperation rows.range principal kind operationId now)
      let (range, record) := command.accept started principal checked (some operationId) now
      pure ({ rows with range := range, outbox := rows.outbox ++ [operationId] }, record)

/-- A command from the request to the record. An operation it starts gets the id given. -/
def Command.submit (command : Command) (planner : Planner) (rows : ControlPlane)
    (principal : Principal) (operationId : Str) (now : Datetime) :
    Except Failure (ControlPlane × CommandRecord) := do
  match ← preflight planner rows principal command.kind command.envelope command.declaredHash
      command.worker now with
  | .replay record => pure (rows, record)
  | .checked checked => do
      command.chain rows.range checked
      command.conclude rows principal checked operationId now

/-! ## Requests -/

/-- The bodies the eight routes take. -/
inductive Request where
  | compileTopology (envelope : CommandEnvelope)
  | generatePlan (envelope : CommandEnvelope) (planHash : Str)
  | submitPlanForReview (envelope : CommandEnvelope) (planHash : Str)
  | requestExecution (envelope : CommandEnvelope) (planHash : Str) (worker : WorkerAssertion)
  | requestReset (envelope : CommandEnvelope) (resetHash : Str) (worker : WorkerAssertion)
  | requestReconciliation (envelope : CommandEnvelope)
  | generateDestroyPlan (envelope : CommandEnvelope) (destroyHash : Str)
  | requestDestroyExecution (envelope : CommandEnvelope) (destroyHash : Str)
      (worker : WorkerAssertion)

def Request.command : Request → Command
  | .compileTopology envelope => Commands.compileTopology envelope
  | .generatePlan envelope planHash => Commands.generatePlan envelope planHash
  | .submitPlanForReview envelope planHash => Commands.submitPlanForReview envelope planHash
  | .requestExecution envelope planHash worker => Commands.requestExecution envelope planHash worker
  | .requestReset envelope resetHash worker => Commands.requestReset envelope resetHash worker
  | .requestReconciliation envelope => Commands.requestReconciliation envelope
  | .generateDestroyPlan envelope destroyHash => Commands.generateDestroyPlan envelope destroyHash
  | .requestDestroyExecution envelope destroyHash worker =>
      Commands.requestDestroyExecution envelope destroyHash worker

/-- What one of the eight routes does. -/
def Request.submit (request : Request) (planner : Planner) (rows : ControlPlane)
    (principal : Principal) (operationId : Str) (now : Datetime) :
    Except Failure (ControlPlane × CommandRecord) :=
  request.command.submit planner rows principal operationId now

/-! ## The plain routes -/

/-- `_start`. -/
def startRoute (planner : Planner) (rows : ControlPlane) (principal : Principal)
    (kind : RangeOperationKind) (operationId : Str) (now : Datetime) :
    Except Failure ControlPlane := do
  refusing (getRange rows.range principal)
  requireOperationAuthorized planner rows.range kind
  let started ← refusing (startOperation rows.range principal kind operationId now)
  pure { rows with range := started, outbox := rows.outbox ++ [operationId] }

end

end Secp.Commands
