import Secp.Reconciliation.Planner

/-!
# What the gate, the classifier and the planner accept

Exact conditions for a pair to be verified and for a report to be turned into a plan. The planner
binds a report to its pair by two digests that the report carries as plain fields; the findings
themselves are not compared with the pair's.
-/

namespace Secp.Reconciliation

open Secp.Python

/-! ## Refusals -/

theorem require_bind_eq_ok_iff {α : Type} {condition : Bool} {code : RefusalCode}
    {rest : Unit → Guarded α} {a : α} :
    (require condition code >>= rest) = .ok a ↔ condition = true ∧ rest () = .ok a := by
  unfold require
  cases condition <;> simp [bind, Except.bind]

theorem pure_eq_ok_iff {α : Type} {a b : α} : (pure a : Guarded α) = .ok b ↔ a = b := by
  simp [pure, Except.pure]

/-! ## The gate -/

/-- The scope is one the contract admits and the desired state belongs to it. -/
structure DesiredAdmitted (scope : ReconciliationScope) (desired : DesiredState) : Prop where
  version : scope.version = contractVersion
  named : scope.instanceId.isEmpty = false ∧ scope.provider.isEmpty = false
  bounded : 0 ≤ scope.maxActions ∧ 0 < scope.observationMaxAgeSeconds
  surface : scope.executionSurface = simulatorSurface
  provenance : desired.instanceId.isEmpty = false ∧ isContentDigest desired.definitionDigest = true
  elements : consistent desired.elements = true
  instance_eq : desired.instanceId = scope.instanceId

/-- The observation is of the scope's instance and provider, complete, attested and fresh. -/
structure ObservationAdmitted (scope : ReconciliationScope) (observed : ObservedState)
    (now : Datetime) : Prop where
  instance_eq : observed.instanceId = scope.instanceId
  provider_eq : observed.provider = scope.provider
  provenance : isContentDigest observed.collectorDigest = true
  complete : observed.fidelity = .complete
  not_ahead : -maxClockSkew ≤ age now observed.observedAt
  not_stale : age now observed.observedAt ≤ scope.observationMaxAgeSeconds * microsPerSecond

/-- The pair the gate makes. -/
def verifiedPair (scope : ReconciliationScope) (desired : DesiredState) (observed : ObservedState)
    (now : Datetime) : VerifiedStatePair :=
  ⟨scope, desired, observed, now, verificationDigest scope desired observed now⟩

section
variable {scope : ReconciliationScope} {desired : DesiredState} {observed : ObservedState}
  {now : Datetime} {pair : VerifiedStatePair}

theorem verifyInputs_eq_ok_iff :
    verifyInputs scope desired observed now = .ok pair ↔
      DesiredAdmitted scope desired ∧ ObservationAdmitted scope observed now ∧
        consistent observed.elements = true ∧ verifiedPair scope desired observed now = pair := by
  unfold verifyInputs
  simp only [require_bind_eq_ok_iff, pure_eq_ok_iff, Bool.and_eq_true, decide_eq_true_eq,
    Bool.not_eq_true']
  constructor
  · rintro ⟨hversion, hnamed, hbounded, hsurface, hprovenance, helements, ⟨hinst, hinst'⟩, hprovider,
      hcollector, -, hskew, hcomplete, hstale, hobserved, hpair⟩
    exact ⟨⟨hversion, hnamed, hbounded, hsurface, hprovenance, helements, hinst⟩,
      ⟨hinst', hprovider, hcollector, hcomplete, hskew, hstale⟩, hobserved, hpair⟩
  · rintro ⟨hd, ho, hobserved, hpair⟩
    have hverified : observed.fidelity ≠ .unverified := by
      rw [ho.complete]
      decide
    exact ⟨hd.version, hd.named, hd.bounded, hd.surface, hd.provenance, hd.elements,
      ⟨hd.instance_eq, ho.instance_eq⟩, ho.provider_eq, ho.provenance, hverified, ho.not_ahead,
      ho.complete, ho.not_stale, hobserved, hpair⟩

/-- The gate's own pairs are verified. -/
theorem requireVerified_verifiedPair :
    requireVerified (verifiedPair scope desired observed now) = .ok () :=
  require_eq_ok_iff.mpr (decide_eq_true rfl)

theorem classifyDrift_eq_ok_iff {report : DriftReport} :
    classifyDrift pair = .ok report ↔ requireVerified pair = .ok () ∧ driftReport pair = report := by
  unfold classifyDrift requireVerified
  rw [require_bind_eq_ok_iff, pure_eq_ok_iff, require_eq_ok_iff]

/-! ## The planner -/

/-- What the planner asks of a report: the two digests are the pair's, nothing found is refused, and
the elements to act on are within the budget. -/
structure ReportAdmitted (pair : VerifiedStatePair) (report : DriftReport) : Prop where
  desired_digest : report.desiredDigest = desiredStateDigest pair.desired
  observed_digest : report.observedDigest = observedStateDigest pair.observed
  no_conflict : ∀ f ∈ report.findings, f.kind ≠ .identityConflict
  determinate : ∀ f ∈ report.findings, f.kind ≠ .indeterminate
  within_budget : ((plannedActions report.findings).length : Int) ≤ pair.scope.maxActions

theorem mem_kindsPresent {report : DriftReport} {kind : DriftKind} :
    kind ∈ report.kindsPresent ↔ ∃ f ∈ report.findings, f.kind = kind := by
  have hmem : kind ∈ driftKindOrder := by cases kind <;> decide
  simp [DriftReport.kindsPresent, hmem]

theorem planReconciliation_eq_ok_iff {report : DriftReport} {plan : ReconciliationPlan} :
    planReconciliation pair report = .ok plan ↔
      requireVerified pair = .ok () ∧ ReportAdmitted pair report ∧ planOf pair report = plan := by
  unfold planReconciliation requireVerified
  simp only [require_bind_eq_ok_iff, pure_eq_ok_iff, Bool.and_eq_true, decide_eq_true_eq,
    mem_kindsPresent, require_eq_ok_iff, not_exists, not_and]
  constructor
  · rintro ⟨hverified, ⟨hdesired, hobserved⟩, hconflict, hindeterminate, hbudget, hplan⟩
    exact ⟨hverified, ⟨hdesired, hobserved, hconflict, hindeterminate, hbudget⟩, hplan⟩
  · rintro ⟨hverified, h, hplan⟩
    exact ⟨hverified, ⟨h.desired_digest, h.observed_digest⟩, h.no_conflict, h.determinate,
      h.within_budget, hplan⟩

end

/-! ## A report with its findings dropped -/

def sampleDigest : Str := str "sha256:" ++ List.replicate 64 'a'

def sampleNow : Datetime := ⟨738000 * microsPerDay, by decide⟩

def sampleScope : ReconciliationScope where
  instanceId := str "lab1"
  provider := str "simulator"
  executionSurface := simulatorSurface
  maxActions := 8
  observationMaxAgeSeconds := 300

/-- One network is desired. -/
def sampleDesired : DesiredState where
  instanceId := str "lab1"
  definitionDigest := sampleDigest
  elements := [⟨.network, str "net1", [(.name, str "red")]⟩]

/-- Nothing is there. -/
def emptyObservation : ObservedState where
  instanceId := str "lab1"
  provider := str "simulator"
  collectorDigest := sampleDigest
  observedAt := sampleNow
  fidelity := .complete
  elements := []

def samplePair : VerifiedStatePair :=
  verifiedPair sampleScope sampleDesired emptyObservation sampleNow

theorem sampleDesired_admitted : DesiredAdmitted sampleScope sampleDesired where
  version := rfl
  named := by with_unfolding_all decide
  bounded := by decide
  surface := rfl
  provenance := by with_unfolding_all decide
  elements := by with_unfolding_all decide
  instance_eq := rfl

theorem emptyObservation_admitted : ObservationAdmitted sampleScope emptyObservation sampleNow where
  instance_eq := rfl
  provider_eq := rfl
  provenance := by with_unfolding_all decide
  complete := rfl
  not_ahead := by decide
  not_stale := by decide

end Secp.Reconciliation
