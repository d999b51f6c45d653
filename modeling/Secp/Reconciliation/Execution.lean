import Secp.Reconciliation.Planner

/-!
# Executing a plan on the simulator

Reset intents, the executor over an in-memory world, and the measurement of convergence by a fresh
observation. The executor applies the actions in order and stops at the first that fails; the next
world is rebuilt from a dictionary by reference.
-/

namespace Secp.Reconciliation

open Secp.Python

/-- Why an execution did not happen: a refusal, or a timestamp that could not be read. -/
inductive Failure where
  | refused (code : RefusalCode)
  | valueError
  deriving DecidableEq

/-- A refusal as a failure. -/
def Guarded.lift {α : Type} : Guarded α → Except Failure α
  | .ok a => .ok a
  | .error code => .error (.refused code)

/-! ## Reset intents -/

inductive ResetScope where
  | instanceWide
  | elementSet
  deriving DecidableEq

def ResetScope.value : ResetScope → Str
  | .instanceWide => str "instance"
  | .elementSet => str "element_set"

/-- An authorization to apply one plan within a window. -/
structure ResetIntent where
  schemaVersion : Str
  version : Str
  instanceId : Str
  resetScope : ResetScope
  executionSurface : Str
  disposition : PlanDisposition
  desiredDigest : Str
  observedDigest : Str
  reportDigest : Str
  planDigest : Str
  actionCounts : List (Str × Nat)
  elementKindCounts : List (Str × Nat)
  deferredCount : Nat
  issuedAt : Str
  expiresAt : Str
  intentDigest : Str
  deriving DecidableEq

def resetIntentSchemaVersion : Str := str "secp-recon/reset-intent/v1"

def ReconciliationPlan.actionCounts (plan : ReconciliationPlan) : List (Str × Nat) :=
  actionKindOrder.map fun kind => (kind.value, plan.actions.countP fun a => a.kind = kind)

def ReconciliationPlan.elementKindCounts (plan : ReconciliationPlan) : List (Str × Nat) :=
  elementKindOrder.map fun kind => (kind.value, plan.actions.countP fun a => a.elementKind = kind)

/-- Counts as a JSON object. -/
def countsDocument (counts : List (Str × Nat)) : Json :=
  .obj (counts.map fun entry => (entry.1, .int entry.2))

/-- `build_reset_intent`. -/
def buildResetIntent (plan : ReconciliationPlan) (resetScope : ResetScope)
    (issuedAt expiresAt : Datetime) : Guarded ResetIntent := do
  require (issuedAt.micros < expiresAt.micros) .resetWindowInvalid
  require (!plan.actions.isEmpty) .resetScopeUnsafe
  require (!(resetScope = .instanceWide && !plan.deferred.isEmpty)) .resetScopeUnsafe
  let body : Json := .obj [
    (str "contract_version", .str contractVersion),
    (str "instance_id", .str plan.instanceId),
    (str "reset_scope", .str resetScope.value),
    (str "execution_surface", .str plan.executionSurface),
    (str "disposition", .str plan.disposition.value),
    (str "desired_digest", .str plan.desiredDigest),
    (str "observed_digest", .str plan.observedDigest),
    (str "report_digest", .str plan.reportDigest),
    (str "plan_digest", .str plan.planDigest),
    (str "action_counts", countsDocument plan.actionCounts),
    (str "element_kind_counts", countsDocument plan.elementKindCounts),
    (str "deferred_count", .int plan.deferred.length),
    (str "issued_at", .str issuedAt.isoformat),
    (str "expires_at", .str expiresAt.isoformat)]
  pure {
    schemaVersion := resetIntentSchemaVersion
    version := contractVersion
    instanceId := plan.instanceId
    resetScope := resetScope
    executionSurface := plan.executionSurface
    disposition := plan.disposition
    desiredDigest := plan.desiredDigest
    observedDigest := plan.observedDigest
    reportDigest := plan.reportDigest
    planDigest := plan.planDigest
    actionCounts := plan.actionCounts
    elementKindCounts := plan.elementKindCounts
    deferredCount := plan.deferred.length
    issuedAt := issuedAt.isoformat
    expiresAt := expiresAt.isoformat
    intentDigest := documentDigest resetIntentSchemaVersion body }

/-- A timestamp of an intent as an instant. -/
def readTimestamp (text : Str) : Except Failure Int :=
  match Datetime.fromIsoformat text with
  | some instant => .ok instant
  | none => .error .valueError

/-- `verify_reset_intent`: the intent authorizes this plan now. -/
def verifyResetIntent (intent : ResetIntent) (plan : ReconciliationPlan) (now : Datetime) :
    Except Failure Unit := do
  (requirePlanIntegrity plan).lift
  (require (intent.planDigest = plan.planDigest) .resetIntentPlanMismatch).lift
  let issued ← readTimestamp intent.issuedAt
  (require (issued ≤ now.micros) .resetIntentNotYetValid).lift
  let expires ← readTimestamp intent.expiresAt
  (require ((now.micros : Int) < expires) .resetIntentExpired).lift

/-- `require_execution_authorized`. -/
def requireExecutionAuthorized (plan : ReconciliationPlan) (intent : Option ResetIntent)
    (now : Datetime) : Except Failure Unit :=
  match intent with
  | some intent => verifyResetIntent intent plan now
  | none => do
      (requirePlanIntegrity plan).lift
      (require plan.actions.isEmpty .executionUnauthorized).lift

/-! ## Execution reports -/

inductive StepStatus where
  | applied
  | failed
  | notAttempted
  deriving DecidableEq

def StepStatus.value : StepStatus → Str
  | .applied => str "applied"
  | .failed => str "failed"
  | .notAttempted => str "not_attempted"

inductive StepFailureReason where
  | dependencyAbsent
  | elementNotInDesired
  deriving DecidableEq

def StepFailureReason.value : StepFailureReason → Str
  | .dependencyAbsent => str "dependency_absent"
  | .elementNotInDesired => str "element_not_in_desired"

inductive OperatorNextStep where
  | noneRequired
  | reobserveAndReplan
  | resolveDependencyThenReplan
  | operatorDecisionRequired
  deriving DecidableEq

def OperatorNextStep.value : OperatorNextStep → Str
  | .noneRequired => str "none_required"
  | .reobserveAndReplan => str "reobserve_and_replan"
  | .resolveDependencyThenReplan => str "resolve_dependency_then_replan"
  | .operatorDecisionRequired => str "operator_decision_required"

inductive ExecutionOutcome where
  | noOp
  | applied
  | stoppedPartWay
  deriving DecidableEq

def ExecutionOutcome.value : ExecutionOutcome → Str
  | .noOp => str "no_op"
  | .applied => str "applied"
  | .stoppedPartWay => str "partial"

/-- What became of one planned step. -/
structure StepOutcome where
  status : StepStatus
  kind : ActionKind
  elementKind : ElementKind
  elementRef : Str
  failureReason : Option StepFailureReason := none
  deriving DecidableEq

structure ExecutionReport where
  schemaVersion : Str
  instanceId : Str
  executionSurface : Str
  outcome : ExecutionOutcome
  steps : List StepOutcome
  planDigest : Str
  intentDigest : Str
  worldDigestBefore : Str
  worldDigestAfter : Str
  operatorNextStep : OperatorNextStep
  executedAt : Str
  reportDigest : Str
  deriving DecidableEq

/-- Whether the execution moved the world at all, by the world's content address. -/
def ExecutionReport.changedAnything (report : ExecutionReport) : Bool :=
  report.worldDigestBefore ≠ report.worldDigestAfter

/-- `NEXT_STEP_FOR_STEP_FAILURE`. -/
def StepFailureReason.nextStep : StepFailureReason → OperatorNextStep
  | .dependencyAbsent => .resolveDependencyThenReplan
  | .elementNotInDesired => .reobserveAndReplan

/-- `next_step_for`. -/
def nextStepFor (steps : List StepOutcome) : OperatorNextStep :=
  match steps.findSome? fun s => if s.status = .failed then s.failureReason else none with
  | some reason => reason.nextStep
  | none => .noneRequired

/-- `outcome_for`. -/
def outcomeFor (steps : List StepOutcome) : ExecutionOutcome :=
  if steps.any fun s => s.status = .failed then .stoppedPartWay
  else if steps.any fun s => s.status = .applied then .applied else .noOp

def executionReportSchemaVersion : Str := str "secp-recon/execution-report/v1"

/-- `build_execution_report`. -/
def buildExecutionReport (plan : ReconciliationPlan) (steps : List StepOutcome)
    (intentDigest worldDigestBefore worldDigestAfter : Str) (executedAt : Datetime) :
    ExecutionReport :=
  let outcome := outcomeFor steps
  let nextStep := nextStepFor steps
  let body : Json := .obj [
    (str "instance_id", .str plan.instanceId),
    (str "execution_surface", .str plan.executionSurface),
    (str "outcome", .str outcome.value),
    (str "steps", .arr (steps.map fun s => .arr [.str s.status.value, .str s.kind.value,
      .str s.elementKind.value, .str s.elementRef,
      .str ((s.failureReason.map StepFailureReason.value).getD [])])),
    (str "plan_digest", .str plan.planDigest),
    (str "intent_digest", .str intentDigest),
    (str "world_digest_before", .str worldDigestBefore),
    (str "world_digest_after", .str worldDigestAfter),
    (str "operator_next_step", .str nextStep.value),
    (str "executed_at", .str executedAt.isoformat)]
  { schemaVersion := executionReportSchemaVersion
    instanceId := plan.instanceId
    executionSurface := plan.executionSurface
    outcome := outcome
    steps := steps
    planDigest := plan.planDigest
    intentDigest := intentDigest
    worldDigestBefore := worldDigestBefore
    worldDigestAfter := worldDigestAfter
    operatorNextStep := nextStep
    executedAt := executedAt.isoformat
    reportDigest := documentDigest executionReportSchemaVersion body }

/-! ## The simulator -/

/-- One element of the in-memory world. -/
structure SimulatedElement where
  kind : ElementKind
  ref : Str
  facets : List (FacetName × Str) := []
  deriving DecidableEq

structure SimulatedWorld where
  elements : List SimulatedElement := []
  deriving DecidableEq

def worldDigest (world : SimulatedWorld) : Str :=
  documentDigest (str "secp-recon/simulated-world/v1") (.obj [
    (str "elements", .arr (world.elements.map fun e => .obj [
      (str "kind", .str e.kind.value),
      (str "ref", .str e.ref),
      (str "facets", .arr (e.facets.map fun facet => .arr [.str facet.1.value, .str facet.2]))]))])

/-- `_unsatisfied_dependency`. -/
def unsatisfiedDependency (element : StateElement) (present : Dict Str SimulatedElement) : Bool :=
  match element.kind with
  | .node =>
      match element.facetMap.get? .networkAttachment with
      | some attachment => !attachment.isEmpty && !present.hasKey attachment
      | none => false
  | .edge =>
      match decodeEdgeRef element.ref with
      | some (source, target) => !present.hasKey source || !present.hasKey target
      | none => true
  | .network => false

/-- What the executor's loop carries: the world by reference, the steps so far, and whether it has
stopped. -/
structure Run where
  current : Dict Str SimulatedElement
  steps : List StepOutcome := []
  stopped : Bool := false
  deriving DecidableEq

/-- The outcome of a step of an action. -/
def PlannedAction.outcome (action : PlannedAction) (status : StepStatus)
    (reason : Option StepFailureReason) : StepOutcome :=
  ⟨status, action.kind, action.elementKind, action.elementRef, reason⟩

/-- One turn of the executor's loop. -/
def applyAction (desiredByRef : Dict Str StateElement) (run : Run) (action : PlannedAction) : Run :=
  if run.stopped then { run with steps := run.steps ++ [action.outcome .notAttempted none] }
  else
    match desiredByRef.get? action.elementRef with
    | none =>
        { run with
          steps := run.steps ++ [action.outcome .failed (some .elementNotInDesired)]
          stopped := true }
    | some source =>
        if unsatisfiedDependency source run.current then
          { run with
            steps := run.steps ++ [action.outcome .failed (some .dependencyAbsent)]
            stopped := true }
        else
          { run with
            current := run.current.set action.elementRef ⟨source.kind, source.ref, source.facets⟩
            steps := run.steps ++ [action.outcome .applied none] }

def SimulatedWorld.byRef (world : SimulatedWorld) : Dict Str SimulatedElement :=
  Dict.ofPairs (world.elements.map fun e => (e.ref, e))

/-- The world a dictionary is rebuilt into. -/
def rebuild (current : Dict Str SimulatedElement) : SimulatedWorld :=
  ⟨(sortedBy Prod.fst current).map Prod.snd⟩

/-- The executor's loop over all actions of a plan. -/
def applyActions (desired : DesiredState) (world : SimulatedWorld) (actions : List PlannedAction) :
    Run :=
  actions.foldl (applyAction (Dict.ofPairs (desired.elements.map fun e => (e.ref, e))))
    { current := world.byRef }

/-- `execute`. -/
def execute (scope : ReconciliationScope) (plan : ReconciliationPlan) (desired : DesiredState)
    (world : SimulatedWorld) (intent : Option ResetIntent) (now : Datetime) :
    Except Failure (SimulatedWorld × ExecutionReport) := do
  requireExecutionAuthorized plan intent now
  (requirePlannedUnder plan scope).lift
  (require (plan.executionSurface = simulatorSurface) .executionSurfaceSealed).lift
  (require (desiredStateDigest desired = plan.desiredDigest) .verificationTokenInvalid).lift
  let run := applyActions desired world plan.actions
  let nextWorld := rebuild run.current
  pure (nextWorld, buildExecutionReport plan run.steps
    ((intent.map ResetIntent.intentDigest).getD []) (worldDigest world) (worldDigest nextWorld) now)

/-- `observe`. -/
def observe (world : SimulatedWorld) (instanceId provider collectorDigest : Str)
    (observedAt : Datetime) (fidelity : ObservationFidelity) : ObservedState where
  instanceId := instanceId
  provider := provider
  collectorDigest := collectorDigest
  observedAt := observedAt
  fidelity := fidelity
  elements := world.elements.map fun e => ⟨e.kind, e.ref, e.facets⟩

/-! ## Convergence -/

inductive ConvergenceState where
  | converged
  | driftRemains
  | unverifiable
  deriving DecidableEq

def ConvergenceState.value : ConvergenceState → Str
  | .converged => str "converged"
  | .driftRemains => str "drift_remains"
  | .unverifiable => str "unverifiable"

/-- `NEXT_STEP_FOR_CONVERGENCE`. -/
def ConvergenceState.nextStep : ConvergenceState → OperatorNextStep
  | .converged => .noneRequired
  | .driftRemains => .reobserveAndReplan
  | .unverifiable => .reobserveAndReplan

structure ConvergenceVerdict where
  schemaVersion : Str
  state : ConvergenceState
  residualCountsByKind : List (Str × Nat)
  reobservedDigest : Str
  reportDigest : Str
  operatorNextStep : OperatorNextStep
  refusalCode : Str
  verdictDigest : Str
  deriving DecidableEq

def convergenceVerdictSchemaVersion : Str := str "secp-recon/convergence-verdict/v1"

/-- `_verdict`. -/
def convergenceVerdict (state : ConvergenceState) (residual : List (Str × Nat))
    (reobservedDigest reportDigest refusalCode : Str) : ConvergenceVerdict where
  schemaVersion := convergenceVerdictSchemaVersion
  state := state
  residualCountsByKind := residual
  reobservedDigest := reobservedDigest
  reportDigest := reportDigest
  operatorNextStep := state.nextStep
  refusalCode := refusalCode
  verdictDigest := documentDigest convergenceVerdictSchemaVersion (.obj [
    (str "state", .str state.value),
    (str "residual_counts_by_kind", countsDocument residual),
    (str "reobserved_digest", .str reobservedDigest),
    (str "report_digest", .str reportDigest),
    (str "operator_next_step", .str state.nextStep.value),
    (str "refusal_code", .str refusalCode)])

/-- `verify_convergence`. A refusal of the gate is the verdict `unverifiable`; the classifier does
not refuse a pair that the gate has just made. -/
def verifyConvergence (scope : ReconciliationScope) (desired : DesiredState)
    (reobserved : ObservedState) (now : Datetime) : Guarded ConvergenceVerdict :=
  match verifyInputs scope desired reobserved now with
  | .error code =>
      .ok (convergenceVerdict .unverifiable (driftKindOrder.map fun kind => (kind.value, 0))
        (observedStateDigest reobserved) [] code.value)
  | .ok pair => do
      let report ← classifyDrift pair
      pure (convergenceVerdict (if report.findings = [] then .converged else .driftRemains)
        (driftKindOrder.map fun kind => (kind.value, report.countOf kind)) report.observedDigest
        report.reportDigest [])

end Secp.Reconciliation
