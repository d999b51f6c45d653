import Mathlib.Data.Set.Insert
import Secp.Reconciliation.Authorization

/-!
# Elements of another identity

The planner refuses a plan when an element is observed under a desired reference with another kind. The
executor takes whatever world it is handed and writes what it acts on. What it leaves of the elements it
should not touch is decided by the references of the plan, by where its run stops, and by references that
the world holds twice.
-/

namespace Secp.Reconciliation

open Secp.Python

/-! ## Where a run stops -/

/-- What a desired element needs is not among the references present. -/
def Lacks (present : Set Str) (d : StateElement) : Prop :=
  match d.kind with
  | .node => ∃ attachment, d.facetMap.get? .networkAttachment = some attachment ∧
      attachment ≠ [] ∧ attachment ∉ present
  | .edge => ∀ source target, decodeEdgeRef d.ref = some (source, target) →
      source ∉ present ∨ target ∉ present
  | .network => False

/-- An action that cannot be applied with these references present. -/
def Halts (desired : List StateElement) (present : Set Str) (a : PlannedAction) : Prop :=
  ∀ d ∈ desired, d.ref = a.elementRef → Lacks present d

/-- The references a list of actions leaves present. -/
def presentAfter (present : Set Str) (actions : List PlannedAction) : Set Str :=
  fun ref => ref ∈ present ∨ ref ∈ actions.map PlannedAction.elementRef

/-- An action or one before it cannot be applied. -/
def Blocked (desired : List StateElement) (present : Set Str) (before : List PlannedAction)
    (a : PlannedAction) : Prop :=
  ∃ pre b post, before ++ [a] = pre ++ b :: post ∧ Halts desired (presentAfter present pre) b

section
variable {desired : List StateElement} {present : Set Str} {a first : PlannedAction}
  {before : List PlannedAction} {current : Dict Str SimulatedElement} {run : Run} {ref : Str}

theorem presentAfter_nil (present : Set Str) : presentAfter present [] = present := by
  ext ref
  exact or_iff_left List.not_mem_nil

theorem presentAfter_cons (present : Set Str) (a : PlannedAction) (rest : List PlannedAction) :
    presentAfter present (a :: rest) = presentAfter (insert a.elementRef present) rest := by
  ext ref
  show ref ∈ present ∨ ref ∈ _ :: _ ↔ ref ∈ insert _ _ ∨ ref ∈ _
  rw [List.mem_cons, Set.mem_insert_iff]
  tauto

theorem blocked_nil : Blocked desired present [] a ↔ Halts desired present a := by
  constructor
  · rintro ⟨pre, b, post, hsplit, hhalts⟩
    cases pre with
    | nil =>
        cases hsplit
        rwa [presentAfter_nil] at hhalts
    | cons c pre => exact absurd (congrArg List.length hsplit) (by simp)
  · intro hhalts
    exact ⟨[], a, [], rfl, by rwa [presentAfter_nil]⟩

theorem blocked_cons : Blocked desired present (first :: before) a ↔
    Halts desired present first ∨ Blocked desired (insert first.elementRef present) before a := by
  constructor
  · rintro ⟨pre, b, post, hsplit, hhalts⟩
    cases pre with
    | nil =>
        obtain ⟨rfl, -⟩ := List.cons.inj hsplit
        exact .inl (by rwa [presentAfter_nil] at hhalts)
    | cons c pre =>
        obtain ⟨rfl, hrest⟩ := List.cons.inj hsplit
        exact .inr ⟨pre, b, post, hrest, by rwa [presentAfter_cons] at hhalts⟩
  · rintro (hhalts | ⟨pre, b, post, hsplit, hhalts⟩)
    · exact ⟨[], first, before ++ [a], rfl, by rwa [presentAfter_nil]⟩
    · refine ⟨first :: pre, b, post, ?_, by rwa [presentAfter_cons]⟩
      rw [List.cons_append, hsplit]
      rfl

/-- The executor's check of a dependency is a question about references. -/
theorem unsatisfiedDependency_iff (hkeys : ∀ ref, current.hasKey ref = true ↔ ref ∈ present)
    (d : StateElement) : unsatisfiedDependency d current = true ↔ Lacks present d := by
  have hmissing : ∀ ref, current.hasKey ref = false ↔ ref ∉ present := by
    intro ref
    rw [← hkeys, Bool.not_eq_true]
  unfold unsatisfiedDependency Lacks
  cases d.kind with
  | network => exact iff_of_false Bool.false_ne_true id
  | node =>
      dsimp only
      cases hattachment : d.facetMap.get? .networkAttachment with
      | none => simp
      | some attachment => simp [hmissing]
  | edge =>
      dsimp only
      cases hdecode : decodeEdgeRef d.ref with
      | none => simp
      | some ends =>
          obtain ⟨source, target⟩ := ends
          simp [hmissing]

/-! ## What a run leaves under a reference -/

/-- Under each reference the run leaves what was there or the desired element. -/
theorem get?_foldl_cases (desiredByRef : Dict Str StateElement) (actions : List PlannedAction)
    (run : Run) (ref : Str) :
    (actions.foldl (applyAction desiredByRef) run).current.get? ref = run.current.get? ref ∨
      ∃ d, desiredByRef.get? ref = some d ∧
        (actions.foldl (applyAction desiredByRef) run).current.get? ref = some d.simulated := by
  induction actions generalizing run with
  | nil => exact .inl rfl
  | cons action rest ih =>
      rw [List.foldl_cons]
      rcases ih (applyAction desiredByRef run action) with hsame | hset
      · rcases applyAction_cases desiredByRef run action with
          ⟨-, heq⟩ | ⟨-, reason, heq, -⟩ | ⟨-, source, hsource, -, heq⟩
        · exact .inl (by rw [hsame, heq])
        · exact .inl (by rw [hsame, heq])
        · by_cases href : action.elementRef = ref
          · subst href
            exact .inr ⟨source, hsource, by rw [hsame, heq, Dict.get?_set, if_pos rfl]; rfl⟩
          · exact .inl (by rw [hsame, heq, Dict.get?_set, if_neg href])
      · exact .inr hset

/-- A run that has stopped leaves everything as it is. -/
theorem current_foldl_of_stopped (desiredByRef : Dict Str StateElement) (actions : List PlannedAction)
    {run : Run} (hstopped : run.stopped = true) :
    (actions.foldl (applyAction desiredByRef) run).current = run.current := by
  induction actions generalizing run with
  | nil => rfl
  | cons action rest ih =>
      have hstep : applyAction desiredByRef run action =
          { run with steps := run.steps ++ [action.outcome .notAttempted none] } := by
        unfold applyAction
        rw [if_pos hstopped]
      rw [List.foldl_cons, hstep]
      exact ih hstopped

/-- One turn: the run stops at an action that halts, and applies any other. -/
theorem applyAction_of_halts (hnodup : (desired.map StateElement.ref).Nodup)
    (hstopped : run.stopped = false) (hkeys : ∀ ref, run.current.hasKey ref = true ↔ ref ∈ present)
    (a : PlannedAction) :
    (Halts desired present a ∧ (applyAction (byRef desired) run a).stopped = true ∧
      (applyAction (byRef desired) run a).current = run.current) ∨
    (¬Halts desired present a ∧ (applyAction (byRef desired) run a).stopped = false ∧
      ∃ d ∈ desired, d.ref = a.elementRef ∧ (applyAction (byRef desired) run a).current =
        run.current.set a.elementRef d.simulated) := by
  rcases applyAction_cases (byRef desired) run a with
    ⟨hrun, -⟩ | ⟨-, reason, heq, hwhy⟩ | ⟨-, source, hsource, hsatisfied, heq⟩
  · rw [hstopped] at hrun
    cases hrun
  · rw [heq]
    refine .inl ⟨fun d hd href => ?_, rfl, rfl⟩
    rcases hwhy with ⟨-, hnone⟩ | ⟨-, source, hsource, hmissing⟩
    · exact absurd href ((get?_byRef_eq_none_iff hnodup).mp hnone d hd)
    · have hget := (get?_byRef_iff hnodup).mpr ⟨hd, href⟩
      rw [hsource] at hget
      cases hget
      exact (unsatisfiedDependency_iff hkeys d).mp hmissing
  · obtain ⟨hmem, href⟩ := (get?_byRef_iff hnodup).mp hsource
    rw [heq]
    refine .inr ⟨fun hhalts => ?_, rfl, source, hmem, href, rfl⟩
    have hlacks := hhalts source hmem href
    rw [← unsatisfiedDependency_iff hkeys, hsatisfied] at hlacks
    cases hlacks

theorem hasKey_set_iff (hkeys : ∀ ref, current.hasKey ref = true ↔ ref ∈ present) (key : Str)
    (e : SimulatedElement) (ref : Str) :
    (current.set key e).hasKey ref = true ↔ ref ∈ insert key present := by
  rw [Dict.hasKey, Dict.get?_set, Set.mem_insert_iff]
  by_cases h : key = ref
  · rw [if_pos h]
    exact iff_of_true rfl (.inl h.symm)
  · rw [if_neg h, ← hkeys ref, Dict.hasKey]
    exact (or_iff_right fun heq => h heq.symm).symm

/-- A reference whose every action is blocked keeps what it holds. -/
theorem get?_foldl_of_blocked (hnodup : (desired.map StateElement.ref).Nodup)
    {actions : List PlannedAction} (hstopped : run.stopped = false)
    (hkeys : ∀ ref, run.current.hasKey ref = true ↔ ref ∈ present)
    (h : ∀ before a after, actions = before ++ a :: after → a.elementRef = ref →
      Blocked desired present before a) :
    (actions.foldl (applyAction (byRef desired)) run).current.get? ref = run.current.get? ref := by
  induction actions generalizing run present with
  | nil => rfl
  | cons action rest ih =>
      rw [List.foldl_cons]
      rcases applyAction_of_halts hnodup hstopped hkeys action with
        ⟨-, hstop, hcurrent⟩ | ⟨hgoes, hrun, d, -, -, hcurrent⟩
      · rw [current_foldl_of_stopped _ _ hstop, hcurrent]
      · have hother : action.elementRef ≠ ref := fun href =>
          hgoes (blocked_nil.mp (h [] action rest rfl href))
        have hnext : ∀ ref, (applyAction (byRef desired) run action).current.hasKey ref = true ↔
            ref ∈ insert action.elementRef present := by
          rw [hcurrent]
          exact hasKey_set_iff hkeys _ _
        have hrest := ih hrun hnext fun before a after hsplit href =>
          (blocked_cons.mp (h (action :: before) a after (by rw [hsplit]; rfl) href)).resolve_left
            hgoes
        rw [hrest, hcurrent, Dict.get?_set, if_neg hother]

/-- A reference with an action that is reached ends up with the desired element. -/
theorem get?_foldl_of_reached (hnodup : (desired.map StateElement.ref).Nodup)
    {before after : List PlannedAction} (hstopped : run.stopped = false)
    (hkeys : ∀ ref, run.current.hasKey ref = true ↔ ref ∈ present)
    (h : ¬Blocked desired present before a) :
    ∃ d ∈ desired, d.ref = a.elementRef ∧
      ((before ++ a :: after).foldl (applyAction (byRef desired)) run).current.get? a.elementRef =
        some d.simulated := by
  induction before generalizing run present with
  | nil =>
      rcases applyAction_of_halts hnodup hstopped hkeys a with
        ⟨hhalts, -, -⟩ | ⟨-, -, d, hd, href, hcurrent⟩
      · exact absurd (blocked_nil.mpr hhalts) h
      · refine ⟨d, hd, href, ?_⟩
        rw [List.nil_append, List.foldl_cons]
        rcases get?_foldl_cases (byRef desired) after (applyAction (byRef desired) run a)
          a.elementRef with hsame | ⟨d', hd', hset⟩
        · rw [hsame, hcurrent, Dict.get?_set, if_pos rfl]
        · rw [(get?_byRef_iff hnodup).mpr ⟨hd, href⟩] at hd'
          cases hd'
          exact hset
  | cons first before ih =>
      obtain ⟨hgoes, hrest⟩ := not_or.mp (mt blocked_cons.mpr h)
      rcases applyAction_of_halts hnodup hstopped hkeys first with
        ⟨hhalts, -, -⟩ | ⟨-, hrun, d, -, -, hcurrent⟩
      · exact absurd hhalts hgoes
      · have hnext : ∀ ref, (applyAction (byRef desired) run first).current.hasKey ref = true ↔
            ref ∈ insert first.elementRef present := by
          rw [hcurrent]
          exact hasKey_set_iff hkeys _ _
        exact ih hrun hnext hrest

end

/-! ## Executions -/

/-- The references of a world. -/
def SimulatedWorld.refs (world : SimulatedWorld) : Set Str :=
  fun ref => ref ∈ world.elements.map SimulatedElement.ref

/-- An element of another kind than the desired element of its reference. -/
def Conflicts (desired : DesiredState) (e : SimulatedElement) : Prop :=
  ∃ d ∈ desired.elements, d.ref = e.ref ∧ d.kind ≠ e.kind

/-- An element that an execution has no business with. -/
def OutOfReach (desired : DesiredState) (plan : ReconciliationPlan) (e : SimulatedElement) : Prop :=
  Conflicts desired e ∨ e.ref ∉ plan.actions.map PlannedAction.elementRef

/-- Elements out of reach are there unchanged after an execution. -/
def LeavesAlone (desired : DesiredState) (plan : ReconciliationPlan) (world world' : SimulatedWorld) :
    Prop :=
  ∀ e ∈ world.elements, OutOfReach desired plan e → e ∈ world'.elements

/-- The last element of a world under its reference. -/
def SimulatedWorld.IsLast (world : SimulatedWorld) (e : SimulatedElement) : Prop :=
  world.elements.reverse.find? (fun other => other.ref = e.ref) = some e

section
variable {scope : ReconciliationScope} {plan : ReconciliationPlan} {desired : DesiredState}
  {world world' : SimulatedWorld} {intent : Option ResetIntent} {now : Datetime}
  {report : ExecutionReport}

theorem isLast_iff (e : SimulatedElement) :
    world.IsLast e ↔ world.byRef.get? e.ref = some e := by
  rw [SimulatedWorld.byRef, Dict.get?_ofPairs, ← List.map_reverse, List.find?_map, Option.map_map,
    SimulatedWorld.IsLast]
  show _ ↔ Option.map id _ = _
  rw [Option.map_id]
  exact Iff.rfl

theorem hasKey_byRef_iff (ref : Str) : world.byRef.hasKey ref = true ↔ ref ∈ world.refs := by
  rw [Dict.hasKey_iff, Ne, SimulatedWorld.byRef, Dict.get?_ofPairs, Option.map_eq_none_iff,
    List.find?_eq_none]
  push Not
  constructor
  · rintro ⟨pair, hpair, href⟩
    obtain ⟨e, he, rfl⟩ := List.mem_map.mp (List.mem_reverse.mp hpair)
    exact List.mem_map.mpr ⟨e, he, of_decide_eq_true href⟩
  · intro href
    obtain ⟨e, he, href⟩ := List.mem_map.mp href
    exact ⟨(e.ref, e), List.mem_reverse.mpr (List.mem_map_of_mem he), decide_eq_true href⟩

theorem mem_rebuild_iff {current : Dict Str SimulatedElement} (hkeyed : Keyed current)
    (hnodup : (current.map Prod.fst).Nodup) {e : SimulatedElement} :
    e ∈ (rebuild current).elements ↔ current.get? e.ref = some e := by
  rw [rebuild, List.mem_map]
  constructor
  · rintro ⟨⟨ref, value⟩, hentry, rfl⟩
    have hentry := mem_sortedBy.mp hentry
    have href : value.ref = ref := hkeyed _ hentry
    subst href
    exact Dict.get?_of_mem hnodup hentry
  · intro hget
    exact ⟨_, mem_sortedBy.mpr (Dict.mem_of_get? hget), rfl⟩

/-- The dictionary a run carries stays keyed by reference. -/
theorem keyed_foldl {desired : List StateElement} (hnodup : (desired.map StateElement.ref).Nodup)
    (actions : List PlannedAction) {run : Run} (hkeyed : Keyed run.current)
    (hkeys : (run.current.map Prod.fst).Nodup) :
    Keyed (actions.foldl (applyAction (byRef desired)) run).current ∧
      ((actions.foldl (applyAction (byRef desired)) run).current.map Prod.fst).Nodup := by
  induction actions generalizing run with
  | nil => exact ⟨hkeyed, hkeys⟩
  | cons action rest ih =>
      rw [List.foldl_cons]
      rcases applyAction_cases (byRef desired) run action with
        ⟨-, heq⟩ | ⟨-, reason, heq, -⟩ | ⟨-, source, hsource, -, heq⟩
      · exact ih (by rwa [heq]) (by rwa [heq])
      · exact ih (by rwa [heq]) (by rwa [heq])
      · have href := ((get?_byRef_iff hnodup).mp hsource).2
        refine ih ?_ ?_
        · rw [heq]
          exact hkeyed.set href
        · rw [heq]
          exact Dict.nodup_keys_set hkeys _ _

/-- An execution of a plan leaves alone what is out of its reach exactly when every such element is the
last one under its reference, and every action on the reference of one is blocked. -/
theorem leavesAlone_iff {observed : ObservedState} {planned : Datetime} {pair : VerifiedStatePair}
    {drift : DriftReport}
    (hplan : planFromStates scope desired observed planned = .ok (pair, drift, plan))
    (hrun : execute scope plan desired world intent now = .ok (world', report)) :
    LeavesAlone desired plan world world' ↔
      ∀ e ∈ world.elements, OutOfReach desired plan e → world.IsLast e ∧
        ∀ before a after, plan.actions = before ++ a :: after → a.elementRef = e.ref →
          Blocked desired.elements world.refs before a := by
  obtain ⟨hadmitted, -⟩ := planFromStates_eq_ok_iff.mp hplan
  obtain ⟨-, hnodup, -⟩ := consistent_iff.mp hadmitted.elements
  obtain ⟨-, -, rfl, -⟩ := execute_eq_ok_iff.mp hrun
  have hkeys : ∀ ref, world.byRef.hasKey ref = true ↔ ref ∈ world.refs := hasKey_byRef_iff
  obtain ⟨hkeyed, hdistinct⟩ := @keyed_foldl _ hnodup plan.actions { current := world.byRef }
    (keyed_byRef world) (Dict.nodup_keys_ofPairs _)
  have hmem : ∀ e, e ∈ (rebuild (applyActions desired world plan.actions).current).elements ↔
      (plan.actions.foldl (applyAction (byRef desired.elements))
        { current := world.byRef }).current.get? e.ref = some e :=
    fun e => mem_rebuild_iff hkeyed hdistinct
  constructor
  · intro h e he hout
    have hheld := (hmem e).mp (h e he hout)
    have hblocked : ∀ before a after, plan.actions = before ++ a :: after → a.elementRef = e.ref →
        Blocked desired.elements world.refs before a := by
      intro before a after hsplit href
      by_contra hreached
      obtain ⟨d, hd, hdref, hset⟩ := @get?_foldl_of_reached _ _ _ { current := world.byRef } hnodup
        before after rfl hkeys hreached
      rw [← hsplit, href, hheld] at hset
      -- the element written is of the desired kind, so it is not the one held
      rcases hout with ⟨d', hd', hdref', hkind⟩ | hnot
      · have hsame := (get?_byRef_iff hnodup).mpr ⟨hd', hdref'⟩
        rw [(get?_byRef_iff hnodup).mpr ⟨hd, hdref.trans href⟩] at hsame
        cases hsame
        exact hkind (congrArg SimulatedElement.kind (Option.some.inj hset)).symm
      · refine hnot (List.mem_map.mpr ⟨a, ?_, href⟩)
        rw [hsplit]
        exact List.mem_append_right _ List.mem_cons_self
    refine ⟨?_, hblocked⟩
    rw [isLast_iff, ← hheld]
    exact (@get?_foldl_of_blocked _ _ { current := world.byRef } _ hnodup _ rfl hkeys hblocked).symm
  · intro h e he hout
    obtain ⟨hlast, hblocked⟩ := h e he hout
    rw [hmem, @get?_foldl_of_blocked _ _ { current := world.byRef } _ hnodup _ rfl hkeys hblocked]
    exact isLast_iff e |>.mp hlast

end

/-! ### A reference taken since the plan was made -/

/-- The sample plan is executed on any world. -/
theorem exists_sampleExecution (world : SimulatedWorld) : ∃ intent report,
    execute sampleScope samplePlan sampleDesired world (some intent) sampleNow =
      .ok (rebuild (applyActions sampleDesired world samplePlan.actions).current, report) := by
  obtain ⟨intent, -, hauthorized⟩ := sampleIntent_authorizes
  obtain ⟨hadmitted, -, -, -, -, hreport, -⟩ := planFromStates_eq_ok_iff.mp samplePlan_planned
  have hplanned := planned_planOf samplePair hadmitted hreport
  exact ⟨intent, _, execute_eq_ok_iff.mpr
    ⟨hauthorized.require hplanned.integrity, hplanned, rfl, rfl⟩⟩

/-- A node stands where the plan creates a network. -/
def takenWorld : SimulatedWorld := ⟨[⟨.node, str "net1", []⟩]⟩

/-- A network of another name stands beside it. -/
def otherWorld : SimulatedWorld := ⟨[⟨.network, str "net2", []⟩]⟩

/-- The node is overwritten. -/
theorem takenWorld_overwritten :
    planFromStates sampleScope sampleDesired (sampleObserve emptyWorld) sampleNow =
      .ok (samplePair, driftReport samplePair, samplePlan) ∧
    ∃ intent world' report, execute sampleScope samplePlan sampleDesired takenWorld (some intent)
      sampleNow = .ok (world', report) ∧ ¬LeavesAlone sampleDesired samplePlan takenWorld world' := by
  obtain ⟨intent, report, hrun⟩ := exists_sampleExecution takenWorld
  refine ⟨samplePlan_planned, intent, _, report, hrun, fun h => ?_⟩
  have hgone : (⟨.node, str "net1", []⟩ : SimulatedElement) ∉
      (rebuild (applyActions sampleDesired takenWorld samplePlan.actions).current).elements := by
    with_unfolding_all decide
  exact hgone (h _ List.mem_cons_self (.inl ⟨⟨.network, str "net1", [(.name, str "red")]⟩,
    List.mem_cons_self, rfl, by decide⟩))

/-- The other network is left alone. -/
theorem otherWorld_left_alone : ∃ intent world' report, execute sampleScope samplePlan sampleDesired
    otherWorld (some intent) sampleNow = .ok (world', report) ∧
      LeavesAlone sampleDesired samplePlan otherWorld world' := by
  obtain ⟨intent, report, hrun⟩ := exists_sampleExecution otherWorld
  refine ⟨intent, _, report, hrun, (leavesAlone_iff samplePlan_planned hrun).mpr ?_⟩
  intro e he hout
  obtain rfl := List.mem_singleton.mp he
  refine ⟨by unfold SimulatedWorld.IsLast; with_unfolding_all decide, fun before a after hsplit href => ?_⟩
  have hnot : str "net2" ∉ samplePlan.actions.map PlannedAction.elementRef := by with_unfolding_all decide
  refine absurd (List.mem_map.mpr ⟨a, ?_, href⟩) hnot
  rw [hsplit]
  exact List.mem_append_right _ List.mem_cons_self

end Secp.Reconciliation
