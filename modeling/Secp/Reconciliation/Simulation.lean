import Secp.Logic.StateExcept
import Secp.Reconciliation.Drift
import Secp.Reconciliation.Execution

/-!
# The executor's loop

What the loop over the actions does to the world it carries, when an execution is accepted, and what
the rebuilding of the world changes by itself. The next world is put in order of reference on every
call, so an execution that applies nothing still moves a world that was not in that order.
-/

namespace Secp.Reconciliation

open Secp.Python

/-! ## Acceptance -/

theorem lift_eq_ok_iff {α : Type} {c : Guarded α} {a : α} : c.lift = .ok a ↔ c = .ok a := by
  cases c <;> simp [Guarded.lift]

/-- The plan belongs to the scope and the desired state it is executed with. -/
structure Planned (scope : ReconciliationScope) (plan : ReconciliationPlan) (desired : DesiredState) :
    Prop where
  integrity : planDigestOf plan = plan.planDigest
  scope_digest : plan.scopeDigest = scopeDigest scope
  surface : scope.executionSurface = plan.executionSurface
  within_budget : (plan.actions.length : Int) ≤ scope.maxActions
  simulator : plan.executionSurface = simulatorSurface
  desired_digest : desiredStateDigest desired = plan.desiredDigest

theorem requirePlannedUnder_eq_ok_iff {plan : ReconciliationPlan} {scope : ReconciliationScope} :
    requirePlannedUnder plan scope = .ok () ↔
      planDigestOf plan = plan.planDigest ∧ plan.scopeDigest = scopeDigest scope ∧
        scope.executionSurface = plan.executionSurface ∧
        (plan.actions.length : Int) ≤ scope.maxActions := by
  unfold requirePlannedUnder requirePlanIntegrity
  simp only [require_bind_eq_ok_iff, require_eq_ok_iff, decide_eq_true_eq]

/-- An intent authorizes a plan it names, within its window. -/
theorem verifyResetIntent_eq_ok_iff {intent : ResetIntent} {plan : ReconciliationPlan}
    {now : Datetime} :
    verifyResetIntent intent plan now = .ok () ↔
      planDigestOf plan = plan.planDigest ∧ intent.planDigest = plan.planDigest ∧
        ∃ issued, Datetime.fromIsoformat intent.issuedAt = some issued ∧ issued ≤ now.micros ∧
          ∃ expires, Datetime.fromIsoformat intent.expiresAt = some expires ∧
            (now.micros : Int) < expires := by
  have hread : ∀ (text : Str) (rest : Int → Except Failure Unit),
      (readTimestamp text >>= rest) = .ok () ↔
        ∃ instant, Datetime.fromIsoformat text = some instant ∧ rest instant = .ok () := by
    intro text rest
    unfold readTimestamp
    cases Datetime.fromIsoformat text <;> simp [bind, Except.bind]
  unfold verifyResetIntent requirePlanIntegrity
  simp only [Logic.except_unit_bind_eq_ok, lift_eq_ok_iff, require_eq_ok_iff, hread, decide_eq_true_eq]

section
variable {scope : ReconciliationScope} {plan : ReconciliationPlan} {desired : DesiredState}
  {world world' : SimulatedWorld} {intent : Option ResetIntent} {now : Datetime}
  {report : ExecutionReport}

/-- The report of a run of the executor. -/
def reportOf (plan : ReconciliationPlan) (run : Run) (intent : Option ResetIntent)
    (world : SimulatedWorld) (now : Datetime) : ExecutionReport :=
  buildExecutionReport plan run.steps ((intent.map ResetIntent.intentDigest).getD [])
    (worldDigest world) (worldDigest (rebuild run.current)) now

theorem execute_eq_ok_iff :
    execute scope plan desired world intent now = .ok (world', report) ↔
      requireExecutionAuthorized plan intent now = .ok () ∧ Planned scope plan desired ∧
        rebuild (applyActions desired world plan.actions).current = world' ∧
        reportOf plan (applyActions desired world plan.actions) intent world now = report := by
  unfold execute
  simp only [Logic.except_unit_bind_eq_ok, lift_eq_ok_iff, requirePlannedUnder_eq_ok_iff, require_eq_ok_iff,
    decide_eq_true_eq]
  constructor
  · rintro ⟨hauthorized, ⟨hintegrity, hscope, hsurface', hbudget⟩, hsurface, hdigest, hresult⟩
    cases hresult
    exact ⟨hauthorized, ⟨hintegrity, hscope, hsurface', hbudget, hsurface, hdigest⟩, rfl, rfl⟩
  · rintro ⟨hauthorized, h, rfl, rfl⟩
    exact ⟨hauthorized, ⟨h.integrity, h.scope_digest, h.surface, h.within_budget⟩, h.simulator,
      h.desired_digest, rfl⟩

/-- A plan made from states belongs to their scope and desired state. -/
theorem planned_planOf (pair : VerifiedStatePair) {drift : DriftReport}
    (hdesired : DesiredAdmitted pair.scope pair.desired) (hreport : ReportAdmitted pair drift) :
    Planned pair.scope (planOf pair drift) pair.desired :=
  ⟨rfl, rfl, rfl, hreport.within_budget, hdesired.surface, rfl⟩

theorem planFromStates_eq_ok_iff {observed : ObservedState} {pair : VerifiedStatePair}
    {drift : DriftReport} :
    planFromStates scope desired observed now = .ok (pair, drift, plan) ↔
      DesiredAdmitted scope desired ∧ ObservationAdmitted scope observed now ∧
        consistent observed.elements = true ∧ verifiedPair scope desired observed now = pair ∧
        driftReport pair = drift ∧ ReportAdmitted pair drift ∧ planOf pair drift = plan := by
  unfold planFromStates
  simp only [Logic.except_bind_eq_ok, verifyInputs_eq_ok_iff, classifyDrift_eq_ok_iff,
    planReconciliation_eq_ok_iff, pure_eq_ok_iff, Prod.mk.injEq]
  constructor
  · rintro ⟨_, ⟨hdesired, hobserved, hconsistent, rfl⟩, _, ⟨-, rfl⟩, _, ⟨-, hreport, rfl⟩, rfl, rfl,
      rfl⟩
    exact ⟨hdesired, hobserved, hconsistent, rfl, rfl, hreport, rfl⟩
  · rintro ⟨hdesired, hobserved, hconsistent, rfl, rfl, hreport, rfl⟩
    exact ⟨_, ⟨hdesired, hobserved, hconsistent, rfl⟩, _, ⟨requireVerified_verifiedPair, rfl⟩, _,
      ⟨requireVerified_verifiedPair, hreport, rfl⟩, rfl, rfl, rfl⟩

end

/-! ## What one turn does -/

section
variable {desiredByRef : Dict Str StateElement} {run : Run} {action : PlannedAction}

/-- Every turn adds one step, and either leaves the world as it is or applies its action. -/
theorem applyAction_cases (desiredByRef : Dict Str StateElement) (run : Run)
    (action : PlannedAction) :
    (run.stopped = true ∧ applyAction desiredByRef run action =
      { run with steps := run.steps ++ [action.outcome .notAttempted none] }) ∨
    (run.stopped = false ∧ ∃ reason, applyAction desiredByRef run action =
        ⟨run.current, run.steps ++ [action.outcome .failed (some reason)], true⟩ ∧
      (reason = .elementNotInDesired ∧ desiredByRef.get? action.elementRef = none ∨
        reason = .dependencyAbsent ∧ ∃ source, desiredByRef.get? action.elementRef = some source ∧
          unsatisfiedDependency source run.current = true)) ∨
    (run.stopped = false ∧ ∃ source, desiredByRef.get? action.elementRef = some source ∧
      unsatisfiedDependency source run.current = false ∧
      applyAction desiredByRef run action =
        ⟨run.current.set action.elementRef ⟨source.kind, source.ref, source.facets⟩,
          run.steps ++ [action.outcome .applied none], false⟩) := by
  unfold applyAction
  cases hstopped : run.stopped with
  | true => exact .inl ⟨rfl, by simp⟩
  | false =>
      cases hsource : desiredByRef.get? action.elementRef with
      | none => exact .inr (.inl ⟨rfl, _, by simp, .inl ⟨rfl, rfl⟩⟩)
      | some source =>
          by_cases hmissing : unsatisfiedDependency source run.current = true
          · exact .inr (.inl ⟨rfl, _, by simp [hmissing], .inr ⟨rfl, source, rfl, hmissing⟩⟩)
          · exact .inr (.inr ⟨rfl, source, rfl, by simpa using hmissing,
              by simp [hmissing]⟩)

/-- Steps are only added. -/
theorem steps_prefix_foldl (actions : List PlannedAction) (run : Run) :
    run.steps <+: (actions.foldl (applyAction desiredByRef) run).steps := by
  induction actions generalizing run with
  | nil => exact List.prefix_rfl
  | cons action rest ih =>
      refine List.IsPrefix.trans ?_ (ih _)
      rcases applyAction_cases desiredByRef run action with
        ⟨-, heq⟩ | ⟨-, reason, heq, -⟩ | ⟨-, source, -, -, heq⟩
      all_goals
        rw [heq]
        exact List.prefix_append _ _

/-- A run without an applied step leaves the world it carries as it was. -/
theorem current_foldl_of_no_applied (actions : List PlannedAction) (run : Run)
    (hnone : ∀ s ∈ (actions.foldl (applyAction desiredByRef) run).steps, s.status ≠ .applied) :
    (actions.foldl (applyAction desiredByRef) run).current = run.current := by
  induction actions generalizing run with
  | nil => rfl
  | cons action rest ih =>
      rw [List.foldl_cons] at hnone ⊢
      rw [ih _ hnone]
      rcases applyAction_cases desiredByRef run action with
        ⟨-, heq⟩ | ⟨-, reason, heq, -⟩ | ⟨-, source, -, -, heq⟩
      · rw [heq]
      · rw [heq]
      · -- the applied step would still be among the steps at the end
        have hmem : action.outcome .applied none ∈ (applyAction desiredByRef run action).steps := by
          rw [heq]
          exact List.mem_append_right _ List.mem_cons_self
        exact absurd rfl (hnone _ ((steps_prefix_foldl rest _).subset hmem))

end

/-! ## Rebuilding a world -/

/-- Every entry stands under its own reference. -/
def Keyed (current : Dict Str SimulatedElement) : Prop := ∀ entry ∈ current, entry.2.ref = entry.1

theorem Keyed.set {current : Dict Str SimulatedElement} (h : Keyed current) {ref : Str}
    {e : SimulatedElement} (he : e.ref = ref) : Keyed (current.set ref e) := by
  induction current with
  | nil =>
      intro entry hentry
      rw [List.mem_singleton.mp hentry]
      exact he
  | cons first rest ih =>
      have hrest : Keyed rest := fun entry hentry => h entry (List.mem_cons_of_mem _ hentry)
      obtain ⟨key, value⟩ := first
      intro entry hentry
      rw [Dict.set] at hentry
      split at hentry
      · next hkey =>
          rcases List.mem_cons.mp hentry with rfl | hmem
          · exact he.trans hkey.symm
          · exact hrest entry hmem
      · rcases List.mem_cons.mp hentry with rfl | hmem
        · exact h _ List.mem_cons_self
        · exact ih hrest entry hmem

theorem keyed_byRef (world : SimulatedWorld) : Keyed world.byRef := by
  intro entry hentry
  have hget := Dict.get?_of_mem (Dict.nodup_keys_ofPairs _) hentry
  obtain ⟨e, -, heq⟩ := List.mem_map.mp (Dict.mem_of_get?_ofPairs hget)
  obtain ⟨hkey, hvalue⟩ := Prod.mk.inj heq
  rw [← hkey, ← hvalue]

/-- The references of a rebuilt world are the keys, in order. -/
theorem refs_rebuild {current : Dict Str SimulatedElement} (h : Keyed current) :
    (rebuild current).elements.map SimulatedElement.ref = (sortedBy Prod.fst current).map Prod.fst := by
  rw [rebuild, List.map_map]
  refine List.map_congr_left fun entry hentry => ?_
  exact h entry (mem_sortedBy.mp hentry)

/-- Elements are in strict order of reference. -/
def InOrder (refs : List Str) : Prop := refs.Pairwise fun a b => compare a b = .lt

theorem InOrder.nodup {refs : List Str} (h : InOrder refs) : refs.Nodup := by
  refine List.Pairwise.imp (fun {a b} hlt heq => ?_) h
  have hself : compare b b = .eq := Std.ReflCmp.compare_self
  rw [heq, hself] at hlt
  cases hlt

/-- Whatever is rebuilt is in order. -/
theorem inOrder_rebuild {current : Dict Str SimulatedElement} (h : Keyed current)
    (hnodup : (current.map Prod.fst).Nodup) :
    InOrder ((rebuild current).elements.map SimulatedElement.ref) := by
  rw [refs_rebuild h, InOrder, List.pairwise_map]
  exact pairwise_lt_sortedBy hnodup

/-- Rebuilding gives a world back exactly when it was in order. -/
theorem rebuild_byRef_eq_iff (world : SimulatedWorld) :
    rebuild world.byRef = world ↔ InOrder (world.elements.map SimulatedElement.ref) := by
  constructor
  · intro h
    rw [← h]
    exact inOrder_rebuild (keyed_byRef world) (Dict.nodup_keys_ofPairs _)
  · intro h
    have hkeys : ((world.elements.map fun e => (e.ref, e)).map Prod.fst).Nodup := by
      rw [List.map_map]
      exact h.nodup
    have hsorted : sortedBy Prod.fst (world.elements.map fun e => (e.ref, e)) =
        world.elements.map fun e => (e.ref, e) := by
      refine List.Pairwise.insertionSort_eq (List.pairwise_map.mpr ?_)
      refine (List.pairwise_map.mp h).imp fun {a b} hlt => ?_
      show (compare a.ref b.ref).isLE = true
      rw [hlt]
      rfl
    rw [rebuild, SimulatedWorld.byRef, Dict.ofPairs_of_nodup hkeys, hsorted, List.map_map]
    show SimulatedWorld.mk (world.elements.map id) = world
    rw [List.map_id]

/-- An execution that applies nothing leaves the world and its address alone exactly when the world
was in order of reference. -/
theorem execute_changes_nothing_iff {scope : ReconciliationScope} {plan : ReconciliationPlan}
    {desired : DesiredState} {world world' : SimulatedWorld} {intent : Option ResetIntent}
    {now : Datetime} {report : ExecutionReport}
    (hrun : execute scope plan desired world intent now = .ok (world', report))
    (hnone : ∀ s ∈ report.steps, s.status ≠ .applied) :
    (world' = world ∧ report.changedAnything = false) ↔
      InOrder (world.elements.map SimulatedElement.ref) := by
  obtain ⟨-, -, rfl, rfl⟩ := execute_eq_ok_iff.mp hrun
  have hcurrent : (applyActions desired world plan.actions).current = world.byRef :=
    current_foldl_of_no_applied plan.actions _ hnone
  rw [← rebuild_byRef_eq_iff, hcurrent]
  refine and_iff_left_of_imp fun hworld => ?_
  show decide (worldDigest world ≠
    worldDigest (rebuild (applyActions desired world plan.actions).current)) = false
  rw [hcurrent, hworld]
  simp

/-! ### Two worlds with nothing to do -/

/-- Nothing is desired. -/
def nothingDesired : DesiredState := { sampleDesired with elements := [] }

def sampleObserve (world : SimulatedWorld) : ObservedState :=
  observe world (str "lab1") (str "simulator") sampleDigest sampleNow .complete

/-- The plan for a world in which nothing is desired. -/
def idlePlan (world : SimulatedWorld) : ReconciliationPlan :=
  let pair := verifiedPair sampleScope nothingDesired (sampleObserve world) sampleNow
  planOf pair (driftReport pair)

/-- Nothing being desired, nothing is done and the plan is accepted. -/
theorem idlePlan_executes {world : SimulatedWorld} (hactions : (idlePlan world).actions = []) :
    execute sampleScope (idlePlan world) nothingDesired world none sampleNow =
      .ok (rebuild world.byRef, reportOf (idlePlan world) { current := world.byRef } none world
        sampleNow) := by
  have hrun : applyActions nothingDesired world (idlePlan world).actions =
      { current := world.byRef } := by
    rw [hactions]
    rfl
  refine execute_eq_ok_iff.mpr ⟨?_, ?_, by rw [hrun], by rw [hrun]⟩
  · show ((requirePlanIntegrity (idlePlan world)).lift >>= fun _ =>
      (require (idlePlan world).actions.isEmpty .executionUnauthorized).lift) = .ok ()
    rw [Logic.except_unit_bind_eq_ok, lift_eq_ok_iff, lift_eq_ok_iff, requirePlanIntegrity,
      require_eq_ok_iff, require_eq_ok_iff, hactions]
    exact ⟨decide_eq_true rfl, rfl⟩
  · refine ⟨rfl, rfl, rfl, ?_, rfl, rfl⟩
    rw [hactions]
    decide

/-- Two elements nobody desires, in order of reference. -/
def orderedWorld : SimulatedWorld := ⟨[⟨.network, str "a", []⟩, ⟨.network, str "b", []⟩]⟩

/-- The same two the other way round. -/
def unorderedWorld : SimulatedWorld := ⟨[⟨.network, str "b", []⟩, ⟨.network, str "a", []⟩]⟩

theorem orderedWorld_unchanged :
    ∃ world' report,
      execute sampleScope (idlePlan orderedWorld) nothingDesired orderedWorld none sampleNow =
        .ok (world', report) ∧
      (∀ s ∈ report.steps, s.status ≠ .applied) ∧
      world' = orderedWorld ∧ report.changedAnything = false := by
  have hactions : (idlePlan orderedWorld).actions = [] := by decide
  have hsteps : ∀ s ∈ (reportOf (idlePlan orderedWorld) { current := orderedWorld.byRef } none
      orderedWorld sampleNow).steps, s.status ≠ .applied := fun s hs => absurd hs List.not_mem_nil
  refine ⟨_, _, idlePlan_executes hactions, hsteps, ?_⟩
  refine (execute_changes_nothing_iff (idlePlan_executes hactions) hsteps).mpr ?_
  unfold InOrder
  with_unfolding_all decide

/-- Nothing is applied and the world comes back in another order. -/
theorem unorderedWorld_changed :
    ∃ world' report,
      execute sampleScope (idlePlan unorderedWorld) nothingDesired unorderedWorld none sampleNow =
        .ok (world', report) ∧
      (∀ s ∈ report.steps, s.status ≠ .applied) ∧
      ¬(world' = unorderedWorld ∧ report.changedAnything = false) := by
  have hactions : (idlePlan unorderedWorld).actions = [] := by decide
  refine ⟨_, _, idlePlan_executes hactions, fun s hs => absurd hs List.not_mem_nil, fun h => ?_⟩
  have hmoved : rebuild unorderedWorld.byRef ≠ unorderedWorld := by with_unfolding_all decide
  exact hmoved h.1

end Secp.Reconciliation
