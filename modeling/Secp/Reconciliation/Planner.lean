import Secp.Reconciliation.State

/-!
# Classifying drift and planning

A verified pair is classified into findings, and a pair with its report becomes a plan or a refusal.
The plan names elements and reasons, never values, and has no action that removes anything: what is
observed and not desired is deferred.
-/

namespace Secp.Reconciliation

open Secp.Python

/-! ## Vocabularies -/

inductive DriftKind where
  | identityConflict
  | indeterminate
  | unmanaged
  | missing
  | divergent
  deriving DecidableEq

def DriftKind.value : DriftKind → Str
  | .identityConflict => str "identity_conflict"
  | .indeterminate => str "indeterminate"
  | .unmanaged => str "unmanaged"
  | .missing => str "missing"
  | .divergent => str "divergent"

/-- `DRIFT_KIND_ORDER`. -/
def driftKindOrder : List DriftKind :=
  [.identityConflict, .indeterminate, .unmanaged, .missing, .divergent]

inductive DriftReason where
  | elementKindConflict
  | facetEvidenceAbsent
  | elementUnmanaged
  | elementAbsent
  | facetMismatch (facet : FacetName)
  deriving DecidableEq

def DriftReason.value : DriftReason → Str
  | .elementKindConflict => str "element_kind_conflict"
  | .facetEvidenceAbsent => str "facet_evidence_absent"
  | .elementUnmanaged => str "element_unmanaged"
  | .elementAbsent => str "element_absent"
  | .facetMismatch facet => str "facet_" ++ facet.value ++ str "_mismatch"

/-- `DRIFT_REASON_ORDER`. -/
def driftReasonOrder : List DriftReason :=
  [.elementKindConflict, .facetEvidenceAbsent, .elementUnmanaged, .elementAbsent,
    .facetMismatch .name, .facetMismatch .addressSpace, .facetMismatch .isolation,
    .facetMismatch .teamBinding, .facetMismatch .nodeClass, .facetMismatch .role,
    .facetMismatch .image, .facetMismatch .networkAttachment, .facetMismatch .address,
    .facetMismatch .attributes]

/-- `ELEMENT_KIND_ORDER`. -/
def elementKindOrder : List ElementKind := [.network, .node, .edge]

inductive ActionKind where
  | create
  | update
  deriving DecidableEq

def ActionKind.value : ActionKind → Str
  | .create => str "create"
  | .update => str "update"

/-- `ACTION_KIND_ORDER`. -/
def actionKindOrder : List ActionKind := [.create, .update]

inductive PlanDisposition where
  | converged
  | actionable
  | operatorDecisionRequired
  deriving DecidableEq

def PlanDisposition.value : PlanDisposition → Str
  | .converged => str "converged"
  | .actionable => str "actionable"
  | .operatorDecisionRequired => str "operator_decision_required"

/-! ## Drift -/

/-- One disagreement. Only an authored reference is named. -/
structure DriftFinding where
  kind : DriftKind
  reason : DriftReason
  elementKind : ElementKind
  elementRef : Str := []
  deriving DecidableEq

def DriftFinding.sortKey (f : DriftFinding) : Nat × Nat × Nat × Str :=
  (driftKindOrder.idxOf f.kind, driftReasonOrder.idxOf f.reason,
    elementKindOrder.idxOf f.elementKind, f.elementRef)

structure DriftReport where
  schemaVersion : Str
  instanceId : Str
  desiredDigest : Str
  observedDigest : Str
  findings : List DriftFinding
  reportDigest : Str
  deriving DecidableEq

def DriftReport.countOf (report : DriftReport) (kind : DriftKind) : Nat :=
  report.findings.countP fun f => f.kind = kind

def DriftReport.kindsPresent (report : DriftReport) : List DriftKind :=
  driftKindOrder.filter fun kind => report.findings.any fun f => f.kind = kind

/-- What one facet of a desired element finds on the observed side. -/
def compareFacet (desired observed : StateElement) (facet : FacetName) : List DriftFinding :=
  match desired.facetMap.get? facet with
  | none => []
  | some value =>
      match observed.facetMap.get? facet with
      | none => [⟨.indeterminate, .facetEvidenceAbsent, desired.kind, desired.ref⟩]
      | some other =>
          if value = other then []
          else [⟨.divergent, .facetMismatch facet, desired.kind, desired.ref⟩]

/-- `_compare_facets`. -/
def compareFacets (desired observed : StateElement) : List DriftFinding :=
  desired.kind.facets.flatMap (compareFacet desired observed)

/-- What one desired element finds among the observed ones. -/
def classifyDesired (observedByRef : Dict Str StateElement) (desired : StateElement) :
    List DriftFinding :=
  match observedByRef.get? desired.ref with
  | none => [⟨.missing, .elementAbsent, desired.kind, desired.ref⟩]
  | some observed =>
      if observed.kind ≠ desired.kind then
        [⟨.identityConflict, .elementKindConflict, desired.kind, desired.ref⟩]
      else compareFacets desired observed

/-- The findings of a pair of states, in the order they are made. -/
def driftFindings (desired observed : List StateElement) : List DriftFinding :=
  let observedByRef := Dict.ofPairs (observed.map fun e => (e.ref, e))
  let desiredRefs := desired.map StateElement.ref
  desired.flatMap (classifyDesired observedByRef) ++
    (observed.filter fun e => e.ref ∉ desiredRefs).map fun e =>
      ⟨.unmanaged, .elementUnmanaged, e.kind, []⟩

def driftReportSchemaVersion : Str := str "secp-recon/drift-report/v1"

/-- The report of a pair of states, once it is known to be verified. -/
def driftReport (pair : VerifiedStatePair) : DriftReport :=
  let ordered := sortedBy DriftFinding.sortKey
    (driftFindings pair.desired.elements pair.observed.elements)
  let desiredDigest := desiredStateDigest pair.desired
  let observedDigest := observedStateDigest pair.observed
  { schemaVersion := driftReportSchemaVersion
    instanceId := pair.desired.instanceId
    desiredDigest := desiredDigest
    observedDigest := observedDigest
    findings := ordered
    reportDigest := documentDigest driftReportSchemaVersion (.obj [
      (str "instance_id", .str pair.desired.instanceId),
      (str "desired_digest", .str desiredDigest),
      (str "observed_digest", .str observedDigest),
      (str "findings", .arr (ordered.map fun f => .arr [.str f.kind.value, .str f.reason.value,
        .str f.elementKind.value, .str f.elementRef]))]) }

/-- `classify_drift`. -/
def classifyDrift (pair : VerifiedStatePair) : Guarded DriftReport := do
  requireVerified pair
  pure (driftReport pair)

/-! ## Plans -/

structure PlannedAction where
  kind : ActionKind
  elementKind : ElementKind
  elementRef : Str
  reasons : List DriftReason
  deriving DecidableEq

/-- Drift the plan does not act on. -/
structure DeferredElement where
  elementKind : ElementKind
  reason : DriftReason
  deriving DecidableEq

structure ReconciliationPlan where
  schemaVersion : Str
  instanceId : Str
  executionSurface : Str
  disposition : PlanDisposition
  actions : List PlannedAction
  deferred : List DeferredElement
  scopeDigest : Str
  desiredDigest : Str
  observedDigest : Str
  reportDigest : Str
  planDigest : Str
  deriving DecidableEq

def planSchemaVersion : Str := str "secp-recon/reconciliation-plan/v1"

/-- `_plan_document`, from the fields of a plan. -/
def planDocument (plan : ReconciliationPlan) : Json :=
  .obj [
    (str "instance_id", .str plan.instanceId),
    (str "execution_surface", .str plan.executionSurface),
    (str "disposition", .str plan.disposition.value),
    (str "actions", .arr (plan.actions.map fun a => .arr [.str a.kind.value,
      .str a.elementKind.value, .str a.elementRef,
      .arr (a.reasons.map fun r => .str r.value)])),
    (str "deferred", .arr (plan.deferred.map fun d =>
      .arr [.str d.elementKind.value, .str d.reason.value])),
    (str "scope_digest", .str plan.scopeDigest),
    (str "desired_digest", .str plan.desiredDigest),
    (str "observed_digest", .str plan.observedDigest),
    (str "report_digest", .str plan.reportDigest)]

/-- The content address of a plan's own fields. -/
def planDigestOf (plan : ReconciliationPlan) : Str :=
  documentDigest planSchemaVersion (planDocument plan)

def requirePlanIntegrity (plan : ReconciliationPlan) : Guarded Unit :=
  require (planDigestOf plan = plan.planDigest) .planIntegrityInvalid

def requirePlannedUnder (plan : ReconciliationPlan) (scope : ReconciliationScope) :
    Guarded Unit := do
  requirePlanIntegrity plan
  require (plan.scopeDigest = scopeDigest scope) .scopeMismatch
  require (scope.executionSurface = plan.executionSurface) .scopeMismatch
  require ((plan.actions.length : Int) ≤ scope.maxActions) .changeBudgetExceeded

/-- `ACTION_FOR_DRIFT_KIND`. The kinds it does not list are refused or deferred before. -/
def DriftKind.action : DriftKind → ActionKind
  | .missing => .create
  | _ => .update

/-- What findings are gathered under. -/
def DriftFinding.element (f : DriftFinding) : ElementKind × Str := (f.elementKind, f.elementRef)

/-- The order actions are applied in: creates first, and networks before nodes before edges. -/
def PlannedAction.sortKey (a : PlannedAction) : Nat × Nat × Str :=
  (actionKindOrder.idxOf a.kind, elementKindOrder.idxOf a.elementKind, a.elementRef)

/-- The actions of the findings that are not deferred, one for each element. -/
def plannedActions (findings : List DriftFinding) : List PlannedAction :=
  let actionable := findings.filter fun f => f.kind ≠ .unmanaged
  let actionKindByElement := Dict.ofPairs (actionable.map fun f => (f.element, f.kind.action))
  let reasonsByElement := Dict.groupBy DriftFinding.element actionable
  sortedBy PlannedAction.sortKey (reasonsByElement.map fun entry =>
    { kind := (actionKindByElement.get? entry.1).getD .update
      elementKind := entry.1.1
      elementRef := entry.1.2
      reasons := sortedBy (fun r => driftReasonOrder.idxOf r) (entry.2.map DriftFinding.reason) })

/-- The findings that are deferred. -/
def deferredElements (findings : List DriftFinding) : List DeferredElement :=
  sortedBy (fun d => (elementKindOrder.idxOf d.elementKind, d.reason.value))
    ((findings.filter fun f => f.kind = .unmanaged).map fun f => ⟨f.elementKind, f.reason⟩)

/-- The plan for a pair under a report, without its refusals. -/
def planOf (pair : VerifiedStatePair) (report : DriftReport) : ReconciliationPlan :=
  let actions := plannedActions report.findings
  let deferred := deferredElements report.findings
  let plan : ReconciliationPlan := {
    schemaVersion := planSchemaVersion
    instanceId := pair.scope.instanceId
    executionSurface := pair.scope.executionSurface
    disposition :=
      if !deferred.isEmpty then .operatorDecisionRequired
      else if !actions.isEmpty then .actionable else .converged
    actions := actions
    deferred := deferred
    scopeDigest := Reconciliation.scopeDigest pair.scope
    desiredDigest := desiredStateDigest pair.desired
    observedDigest := observedStateDigest pair.observed
    reportDigest := report.reportDigest
    planDigest := [] }
  { plan with planDigest := planDigestOf plan }

/-- `plan_reconciliation`. -/
def planReconciliation (pair : VerifiedStatePair) (report : DriftReport) :
    Guarded ReconciliationPlan := do
  requireVerified pair
  require (report.desiredDigest = desiredStateDigest pair.desired &&
    report.observedDigest = observedStateDigest pair.observed) .verificationTokenInvalid
  require (decide (DriftKind.identityConflict ∉ report.kindsPresent)) .identityConflictUnresolvable
  require (decide (DriftKind.indeterminate ∉ report.kindsPresent)) .driftIndeterminate
  require (((plannedActions report.findings).length : Int) ≤ pair.scope.maxActions)
    .changeBudgetExceeded
  pure (planOf pair report)

/-- `plan_from_states`. -/
def planFromStates (scope : ReconciliationScope) (desired : DesiredState) (observed : ObservedState)
    (now : Datetime) : Guarded (VerifiedStatePair × DriftReport × ReconciliationPlan) := do
  let pair ← verifyInputs scope desired observed now
  let report ← classifyDrift pair
  let plan ← planReconciliation pair report
  pure (pair, report, plan)

end Secp.Reconciliation
