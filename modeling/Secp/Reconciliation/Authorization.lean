import Secp.Python.Isoformat
import Secp.Python.JsonText
import Secp.Reconciliation.Convergence

/-!
# What one reset intent authorizes

A plan, a scope, a desired state and an intent are values anyone can make; only their digests tie them
together. Two executions under one intent are of one plan. When they may happen is another matter: the
executor reads the window from the intent, and nothing ties the intent to its own digest.
-/

namespace Secp.Reconciliation

open Secp.Python

/-! ## Documents -/

theorem ElementKind.value_injective {a b : ElementKind} (h : a.value = b.value) : a = b := by
  revert h
  cases a <;> cases b <;> with_unfolding_all decide

theorem ActionKind.value_injective {a b : ActionKind} (h : a.value = b.value) : a = b := by
  revert h
  cases a <;> cases b <;> with_unfolding_all decide

theorem PlanDisposition.value_injective {a b : PlanDisposition} (h : a.value = b.value) : a = b := by
  revert h
  cases a <;> cases b <;> with_unfolding_all decide

theorem mem_driftReasonOrder (reason : DriftReason) : reason ∈ driftReasonOrder := by
  rcases reason with _ | _ | _ | _ | facet
  case facetMismatch => cases facet <;> decide
  all_goals decide

theorem DriftReason.value_injective {a b : DriftReason} (h : a.value = b.value) : a = b := by
  have hall : ∀ a ∈ driftReasonOrder, ∀ b ∈ driftReasonOrder, a.value = b.value → a = b := by
    with_unfolding_all decide
  exact hall a (mem_driftReasonOrder a) b (mem_driftReasonOrder b) h

/-- The names of the facets, in the order of their kind. -/
theorem FacetName.value_injective {a b : FacetName} (h : a.value = b.value) : a = b := by
  have hreason : (DriftReason.facetMismatch a).value = (DriftReason.facetMismatch b).value := by
    rw [DriftReason.value, DriftReason.value, h]
  exact DriftReason.facetMismatch.inj (DriftReason.value_injective hreason)

/-- Digests under one schema tell two documents apart: the digest does not collide on their texts. -/
def Separated (schemaVersion : Str) (a b : Json) : Prop :=
  documentDigest schemaVersion a = documentDigest schemaVersion b → a.dumps true = b.dumps true

theorem Separated.refl (schemaVersion : Str) (a : Json) : Separated schemaVersion a a := fun _ => rfl

/-- The content of a plan, its own digest apart. -/
structure SameContent (a b : ReconciliationPlan) : Prop where
  instanceId : a.instanceId = b.instanceId
  executionSurface : a.executionSurface = b.executionSurface
  disposition : a.disposition = b.disposition
  actions : a.actions = b.actions
  deferred : a.deferred = b.deferred
  scopeDigest : a.scopeDigest = b.scopeDigest
  desiredDigest : a.desiredDigest = b.desiredDigest
  observedDigest : a.observedDigest = b.observedDigest
  reportDigest : a.reportDigest = b.reportDigest

theorem planDocument_get? (p : ReconciliationPlan) :
    (planDocument p).get? (str "instance_id") = some (.str p.instanceId) ∧
    (planDocument p).get? (str "execution_surface") = some (.str p.executionSurface) ∧
    (planDocument p).get? (str "disposition") = some (.str p.disposition.value) ∧
    (planDocument p).get? (str "actions") = some (.arr (p.actions.map fun a => .arr [
      .str a.kind.value, .str a.elementKind.value, .str a.elementRef,
      .arr (a.reasons.map fun r => .str r.value)])) ∧
    (planDocument p).get? (str "deferred") = some (.arr (p.deferred.map fun d => .arr [
      .str d.elementKind.value, .str d.reason.value])) ∧
    (planDocument p).get? (str "scope_digest") = some (.str p.scopeDigest) ∧
    (planDocument p).get? (str "desired_digest") = some (.str p.desiredDigest) ∧
    (planDocument p).get? (str "observed_digest") = some (.str p.observedDigest) ∧
    (planDocument p).get? (str "report_digest") = some (.str p.reportDigest) := by
  simp only [planDocument, Json.get?_obj, Dict.get?, str_inj, String.reduceEq, if_true, if_false,
    and_self]

theorem eq_of_sortKeys_str {s t : Str}
    (h : (some (Json.str s)).map Json.sortKeys = (some (Json.str t)).map Json.sortKeys) : s = t :=
  Json.str.inj (Option.some.inj h)

theorem eq_of_action_document {a b : PlannedAction}
    (h : Json.sortKeys (.arr [.str a.kind.value, .str a.elementKind.value, .str a.elementRef,
        .arr (a.reasons.map fun r => .str r.value)]) =
      Json.sortKeys (.arr [.str b.kind.value, .str b.elementKind.value, .str b.elementRef,
        .arr (b.reasons.map fun r => .str r.value)])) : a = b := by
  have hitems := Json.map_sortKeys_of_arr h
  simp only [List.map_cons, List.map_nil, Json.sortKeys_str, List.cons.injEq, Json.str.injEq,
    and_true] at hitems
  obtain ⟨hkind, helement, href, hreasons⟩ := hitems
  have hreason : ∀ r r' : DriftReason,
      Json.sortKeys (.str r.value) = Json.sortKeys (.str r'.value) → r = r' :=
    fun _ _ h => DriftReason.value_injective (Json.str.inj h)
  have hreasons := Json.eq_of_sortKeys_map hreason hreasons
  cases a
  cases b
  cases ActionKind.value_injective hkind
  cases ElementKind.value_injective helement
  cases href
  cases hreasons
  rfl

theorem eq_of_deferred_document {a b : DeferredElement}
    (h : Json.sortKeys (.arr [.str a.elementKind.value, .str a.reason.value]) =
      Json.sortKeys (.arr [.str b.elementKind.value, .str b.reason.value])) : a = b := by
  have hitems := Json.map_sortKeys_of_arr h
  simp only [List.map_cons, List.map_nil, Json.sortKeys_str, List.cons.injEq, Json.str.injEq,
    and_true] at hitems
  obtain ⟨helement, hreason⟩ := hitems
  cases a
  cases b
  cases ElementKind.value_injective helement
  cases DriftReason.value_injective hreason
  rfl

/-- The text of a plan determines its content. -/
theorem sameContent_of_document {a b : ReconciliationPlan}
    (h : (planDocument a).dumps true = (planDocument b).dumps true) : SameContent a b := by
  have hkeys : [str "instance_id", str "execution_surface", str "disposition", str "actions",
      str "deferred", str "scope_digest", str "desired_digest", str "observed_digest",
      str "report_digest"].Nodup := by with_unfolding_all decide
  have hfield := Json.get?_of_sortKeys_eq hkeys ⟨_, rfl, rfl⟩ ⟨_, rfl, rfl⟩ (Json.dumps_inj.mp h)
  obtain ⟨ha₁, ha₂, ha₃, ha₄, ha₅, ha₆, ha₇, ha₈, ha₉⟩ := planDocument_get? a
  obtain ⟨hb₁, hb₂, hb₃, hb₄, hb₅, hb₆, hb₇, hb₈, hb₉⟩ := planDocument_get? b
  refine ⟨?_, ?_, ?_, ?_, ?_, ?_, ?_, ?_, ?_⟩
  · exact eq_of_sortKeys_str (by rw [← ha₁, ← hb₁]; exact hfield _)
  · exact eq_of_sortKeys_str (by rw [← ha₂, ← hb₂]; exact hfield _)
  · refine PlanDisposition.value_injective (eq_of_sortKeys_str ?_)
    rw [← ha₃, ← hb₃]
    exact hfield _
  · refine Json.eq_of_sortKeys_map (fun _ _ => eq_of_action_document) (Option.some.inj ?_)
    show (some _).map Json.sortKeys = (some _).map Json.sortKeys
    rw [← ha₄, ← hb₄]
    exact hfield _
  · refine Json.eq_of_sortKeys_map (fun _ _ => eq_of_deferred_document) (Option.some.inj ?_)
    show (some _).map Json.sortKeys = (some _).map Json.sortKeys
    rw [← ha₅, ← hb₅]
    exact hfield _
  · exact eq_of_sortKeys_str (by rw [← ha₆, ← hb₆]; exact hfield _)
  · exact eq_of_sortKeys_str (by rw [← ha₇, ← hb₇]; exact hfield _)
  · exact eq_of_sortKeys_str (by rw [← ha₈, ← hb₈]; exact hfield _)
  · exact eq_of_sortKeys_str (by rw [← ha₉, ← hb₉]; exact hfield _)

def desiredStateDocument (desired : DesiredState) : Json :=
  .obj [
    (str "instance_id", .str desired.instanceId),
    (str "definition_digest", .str desired.definitionDigest),
    (str "elements", .arr (desired.elements.map elementDocument))]

def desiredStateSchemaVersion : Str := str "secp-recon/desired-state/v1"

theorem desiredStateDigest_eq (desired : DesiredState) : desiredStateDigest desired =
    documentDigest desiredStateSchemaVersion (desiredStateDocument desired) := rfl

theorem eq_of_element_document {a b : StateElement}
    (h : Json.sortKeys (elementDocument a) = Json.sortKeys (elementDocument b)) : a = b := by
  have hkeys : [str "kind", str "ref", str "facets"].Nodup := by with_unfolding_all decide
  have hfield := Json.get?_of_sortKeys_eq hkeys ⟨_, rfl, rfl⟩ ⟨_, rfl, rfl⟩ h
  have hfacet : ∀ f g : FacetName × Str, Json.sortKeys (.arr [.str f.1.value, .str f.2]) =
      Json.sortKeys (.arr [.str g.1.value, .str g.2]) → f = g := by
    intro f g h
    have hitems := Json.map_sortKeys_of_arr h
    simp only [List.map_cons, List.map_nil, Json.sortKeys_str, List.cons.injEq, Json.str.injEq,
      and_true] at hitems
    exact Prod.ext (FacetName.value_injective hitems.1) hitems.2
  have hkind := hfield (str "kind")
  have href := hfield (str "ref")
  have hfacets := hfield (str "facets")
  simp only [Json.get?_obj, Dict.get?, str_inj, String.reduceEq, if_true, if_false,
    Option.map_some, Option.some.injEq, Json.sortKeys_str, Json.str.injEq] at hkind href hfacets
  have hfacets := Json.eq_of_sortKeys_map hfacet hfacets
  cases a
  cases b
  cases ElementKind.value_injective hkind
  cases href
  cases hfacets
  rfl

/-- The text of a desired state determines it. -/
theorem eq_of_desired_document {a b : DesiredState}
    (h : (desiredStateDocument a).dumps true = (desiredStateDocument b).dumps true) : a = b := by
  have hkeys : [str "instance_id", str "definition_digest", str "elements"].Nodup := by
    with_unfolding_all decide
  have hfield := Json.get?_of_sortKeys_eq hkeys ⟨_, rfl, rfl⟩ ⟨_, rfl, rfl⟩ (Json.dumps_inj.mp h)
  have hinstance := hfield (str "instance_id")
  have hdefinition := hfield (str "definition_digest")
  have helements := hfield (str "elements")
  simp only [Json.get?_obj, Dict.get?, str_inj, String.reduceEq, if_true, if_false,
    Option.map_some, Option.some.injEq, Json.sortKeys_str, Json.str.injEq]
    at hinstance hdefinition helements
  have helements := Json.eq_of_sortKeys_map (fun _ _ => eq_of_element_document) helements
  cases a
  cases b
  cases hinstance
  cases hdefinition
  cases helements
  rfl

/-! ## Executions under an intent -/

/-- An accepted execution under an intent, of a plan that acts. -/
structure Execution (intent : ResetIntent) where
  scope : ReconciliationScope
  plan : ReconciliationPlan
  desired : DesiredState
  world : SimulatedWorld
  now : Datetime
  result : SimulatedWorld × ExecutionReport
  accepted : execute scope plan desired world (some intent) now = .ok result
  acts : plan.actions ≠ []

/-- The digests of two executions' documents do not collide. -/
structure NoCollision {intent : ResetIntent} (a b : Execution intent) : Prop where
  plans : Separated planSchemaVersion (planDocument a.plan) (planDocument b.plan)
  desired : Separated desiredStateSchemaVersion (desiredStateDocument a.desired)
    (desiredStateDocument b.desired)

/-- Two executions do the same: one plan, one desired state, each within the budget of its scope. -/
structure SameWork {intent : ResetIntent} (a b : Execution intent) : Prop where
  content : SameContent a.plan b.plan
  desired : a.desired = b.desired
  budget : (a.plan.actions.length : Int) ≤ a.scope.maxActions
  budget' : (b.plan.actions.length : Int) ≤ b.scope.maxActions

/-- A call that built an intent. -/
structure IntentCall where
  plan : ReconciliationPlan
  resetScope : ResetScope
  issuedAt : Datetime
  expiresAt : Datetime
  intent : ResetIntent
  built : buildResetIntent plan resetScope issuedAt expiresAt = .ok intent

/-- An instant lies in the window of the call. -/
def IntentCall.Allows (call : IntentCall) (now : Datetime) : Prop :=
  call.issuedAt.micros ≤ now.micros ∧ now.micros < call.expiresAt.micros

/-- The call whose digest an intent carries. -/
def Carries (intent : ResetIntent) (call : IntentCall) : Prop :=
  intent.intentDigest = call.intent.intentDigest

/-- The instant lies in the window the intent was issued for. -/
def InIssuedWindow (intent : ResetIntent) (now : Datetime) : Prop :=
  (∃ call, Carries intent call) ∧ ∀ call, Carries intent call → call.Allows now

/-- The instant lies in the window the intent states. -/
def InStatedWindow (intent : ResetIntent) (now : Datetime) : Prop :=
  ∃ issued expires, Datetime.fromIsoformat intent.issuedAt = some issued ∧
    Datetime.fromIsoformat intent.expiresAt = some expires ∧ issued ≤ now.micros ∧
      (now.micros : Int) < expires

/-- The intent authorizes one plan, in the window it was issued for. -/
def AuthorizesOnePlan (intent : ResetIntent) : Prop :=
  ∀ a b : Execution intent, NoCollision a b →
    SameWork a b ∧ InIssuedWindow intent a.now ∧ InIssuedWindow intent b.now

/-- Some plan with actions is the one the intent names, and belongs to a scope and a desired state. -/
def NamesExecutable (intent : ResetIntent) : Prop :=
  ∃ scope plan desired, Planned scope plan desired ∧ plan.actions ≠ [] ∧
    intent.planDigest = plan.planDigest

section
variable {intent : ResetIntent}

theorem Execution.spec (a : Execution intent) : Planned a.scope a.plan a.desired ∧
    intent.planDigest = a.plan.planDigest ∧ InStatedWindow intent a.now := by
  obtain ⟨hauthorized, hplanned, -, -⟩ := execute_eq_ok_iff.mp a.accepted
  obtain ⟨-, hplan, issued, hissued, hafter, expires, hexpires, hbefore⟩ :=
    verifyResetIntent_eq_ok_iff.mp hauthorized
  exact ⟨hplanned, hplan, issued, expires, hissued, hexpires, hafter, hbefore⟩

/-- What an intent names is executed at any instant of the window it states. -/
theorem exists_execution {now : Datetime} (hnames : NamesExecutable intent)
    (hstated : InStatedWindow intent now) : ∃ a : Execution intent, a.now = now := by
  obtain ⟨scope, plan, desired, hplanned, hacts, hplan⟩ := hnames
  obtain ⟨issued, expires, hissued, hexpires, hafter, hbefore⟩ := hstated
  have hauthorized : verifyResetIntent intent plan now = .ok () := verifyResetIntent_eq_ok_iff.mpr
    ⟨hplanned.integrity, hplan, issued, hissued, hafter, expires, hexpires, hbefore⟩
  exact ⟨⟨scope, plan, desired, {}, now, _,
    execute_eq_ok_iff.mpr ⟨hauthorized, hplanned, rfl, rfl⟩, hacts⟩, rfl⟩

/-- Two executions under one intent are of one plan. -/
theorem sameWork {a b : Execution intent} (h : NoCollision a b) : SameWork a b := by
  obtain ⟨hplanned, hplan, -⟩ := a.spec
  obtain ⟨hplanned', hplan', -⟩ := b.spec
  have hdigest : planDigestOf a.plan = planDigestOf b.plan :=
    calc planDigestOf a.plan = a.plan.planDigest := hplanned.integrity
      _ = intent.planDigest := hplan.symm
      _ = b.plan.planDigest := hplan'
      _ = planDigestOf b.plan := hplanned'.integrity.symm
  have hcontent := sameContent_of_document (h.plans hdigest)
  have hdesired : desiredStateDigest a.desired = desiredStateDigest b.desired :=
    calc desiredStateDigest a.desired = a.plan.desiredDigest := hplanned.desired_digest
      _ = b.plan.desiredDigest := hcontent.desiredDigest
      _ = desiredStateDigest b.desired := hplanned'.desired_digest.symm
  exact ⟨hcontent, eq_of_desired_document (h.desired hdesired), hplanned.within_budget,
    hplanned'.within_budget⟩

/-- One intent authorizes one plan; it does so in its issued window exactly when, if it names a plan
that can be executed, the window it states lies within the window it was issued for. -/
theorem authorizesOnePlan_iff (intent : ResetIntent) : AuthorizesOnePlan intent ↔
    (NamesExecutable intent → ∀ now, InStatedWindow intent now → InIssuedWindow intent now) := by
  constructor
  · intro h hnames now hstated
    obtain ⟨a, rfl⟩ := exists_execution hnames hstated
    exact (h a a ⟨.refl _ _, .refl _ _⟩).2.1
  · intro h a b hcollision
    have hwindow : ∀ a : Execution intent, InIssuedWindow intent a.now := by
      intro a
      obtain ⟨hplanned, hplan, hstated⟩ := a.spec
      exact h ⟨a.scope, a.plan, a.desired, hplanned, a.acts, hplan⟩ a.now hstated
    exact ⟨sameWork hcollision, hwindow a, hwindow b⟩

/-! ### As built -/

theorem IntentCall.times (call : IntentCall) : call.intent.issuedAt = call.issuedAt.isoformat ∧
    call.intent.expiresAt = call.expiresAt.isoformat := by
  have hbuilt := call.built
  unfold buildResetIntent at hbuilt
  obtain ⟨-, hbuilt⟩ := require_bind_eq_ok_iff.mp hbuilt
  obtain ⟨-, hbuilt⟩ := require_bind_eq_ok_iff.mp hbuilt
  obtain ⟨-, hbuilt⟩ := require_bind_eq_ok_iff.mp hbuilt
  rw [← Except.ok.inj hbuilt]
  exact ⟨rfl, rfl⟩

/-- An intent states the window it was built with. -/
theorem inStatedWindow_built (call : IntentCall) (now : Datetime) :
    InStatedWindow call.intent now ↔ call.Allows now := by
  obtain ⟨hissued, hexpires⟩ := call.times
  unfold InStatedWindow IntentCall.Allows
  rw [hissued, hexpires, Datetime.fromIsoformat_isoformat, Datetime.fromIsoformat_isoformat]
  constructor
  · rintro ⟨issued, expires, hissued, hexpires, hafter, hbefore⟩
    cases hissued
    cases hexpires
    exact ⟨by omega, by omega⟩
  · rintro ⟨hafter, hbefore⟩
    exact ⟨_, _, rfl, rfl, by omega, by omega⟩

/-- With its expiry moved, an intent authorizes past the window it was issued for. -/
theorem not_authorizesOnePlan_extended {call : IntentCall} {expiresAt now : Datetime}
    (hdigest : Carries intent call) (hstart : intent.issuedAt = call.intent.issuedAt)
    (hend : intent.expiresAt = expiresAt.isoformat) (hnames : NamesExecutable intent)
    (hissued : call.issuedAt.micros ≤ now.micros) (hafter : call.expiresAt.micros ≤ now.micros)
    (hbefore : now.micros < expiresAt.micros) : ¬AuthorizesOnePlan intent := by
  intro h
  have hstated : InStatedWindow intent now := by
    refine ⟨call.issuedAt.micros, expiresAt.micros, ?_, ?_, by omega, by omega⟩
    · rw [hstart, call.times.1, Datetime.fromIsoformat_isoformat]
    · rw [hend, Datetime.fromIsoformat_isoformat]
  obtain ⟨a, rfl⟩ := exists_execution hnames hstated
  obtain ⟨-, hallows⟩ := (h a a ⟨.refl _ _, .refl _ _⟩).2.1
  have hallowed := (hallows call hdigest).2
  omega

/-- An intent as it was built authorizes one plan in its window, if no other call carries its digest. -/
theorem authorizesOnePlan_built (call : IntentCall)
    (hdigest : ∀ other, Carries call.intent other → other.intent = call.intent) :
    AuthorizesOnePlan call.intent := by
  refine (authorizesOnePlan_iff call.intent).mpr fun _ now hstated => ⟨⟨call, rfl⟩, ?_⟩
  intro other hother
  have hsame := hdigest other hother
  rw [← hsame] at hstated
  exact (inStatedWindow_built other now).mp hstated

end

/-! ### A window moved -/

/-- Two hours after the sample instant. -/
def sampleMuchLater : Datetime := ⟨738000 * microsPerDay + 7200 * microsPerSecond, by decide⟩

/-- A call for the sample plan. -/
theorem exists_sampleCall : ∃ call : IntentCall, call.plan = samplePlan ∧
    call.issuedAt = sampleNow ∧ call.expiresAt = sampleLater ∧
      call.intent.planDigest = samplePlan.planDigest := by
  have hwindow : sampleNow.micros < sampleLater.micros := by decide
  have hactions : samplePlan.actions.isEmpty = false := by decide
  have hdeferred : samplePlan.deferred.isEmpty = true := by decide
  have hbuilt : ∃ intent, buildResetIntent samplePlan .instanceWide sampleNow sampleLater = .ok intent ∧
      intent.planDigest = samplePlan.planDigest := by
    unfold buildResetIntent
    simp only [hwindow, hactions, hdeferred, require, decide_true, Bool.not_false, Bool.not_true,
      Bool.and_false, if_true, bind, Except.bind, pure, Except.pure, Except.ok.injEq]
    exact ⟨_, rfl, rfl⟩
  obtain ⟨intent, hbuilt, hplan⟩ := hbuilt
  exact ⟨⟨samplePlan, .instanceWide, sampleNow, sampleLater, intent, hbuilt⟩, rfl, rfl, rfl, hplan⟩

/-- An intent whose expiry was moved by an hour still authorizes. -/
theorem extendedIntent_authorizes : ∃ (call : IntentCall) (intent : ResetIntent),
    intent = { call.intent with expiresAt := sampleMuchLater.isoformat } ∧
      ¬AuthorizesOnePlan intent := by
  obtain ⟨call, hplan, hissued, hexpires, hdigest⟩ := exists_sampleCall
  have hplanned : Planned sampleScope samplePlan sampleDesired := by
    obtain ⟨hadmitted, -, -, -, -, hreport, -⟩ := planFromStates_eq_ok_iff.mp samplePlan_planned
    exact planned_planOf samplePair hadmitted hreport
  have hacts : samplePlan.actions ≠ [] := by decide
  have hafter : call.issuedAt.micros ≤ sampleLater.micros := by
    rw [hissued]
    decide
  have hbefore : sampleLater.micros < sampleMuchLater.micros := by decide
  obtain ⟨intent, hintent⟩ : ∃ intent : ResetIntent,
      intent = { call.intent with expiresAt := sampleMuchLater.isoformat } := ⟨_, rfl⟩
  have hcarries : Carries intent call := by
    rw [hintent]
    rfl
  have hstart : intent.issuedAt = call.intent.issuedAt := by rw [hintent]
  have hend : intent.expiresAt = sampleMuchLater.isoformat := by rw [hintent]
  have hnames : intent.planDigest = samplePlan.planDigest := by rw [hintent, ← hdigest]
  exact ⟨call, intent, hintent, not_authorizesOnePlan_extended hcarries hstart hend
    ⟨sampleScope, samplePlan, sampleDesired, hplanned, hacts, hnames⟩ hafter
    (by rw [hexpires]) hbefore⟩

end Secp.Reconciliation
