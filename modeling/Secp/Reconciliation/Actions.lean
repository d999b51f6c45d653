import Secp.Reconciliation.Simulation

/-!
# The actions of a plan and what they need

Which action each drifting element gets, in what order the actions stand, and what the executor
holds after the actions done so far. Networks are created before nodes and nodes before edges, so
an action finds its prerequisites unless it is about a node that names a network which is neither
desired nor there.
-/

namespace Secp.Reconciliation

open Secp.Python

/-! ## Consistent elements -/

theorem consistent_iff {elements : List StateElement} :
    consistent elements = true ↔
      (∀ e ∈ elements, e.wellFormed = true) ∧ (elements.map StateElement.ref).Nodup ∧
        ∀ e ∈ elements, e.attached elements = true := by
  simp [consistent, malformedElements, duplicateRefs, danglingEdges, and_assoc]

theorem endpointPresent_iff {elements : List StateElement} {ref : Str} :
    endpointPresent elements ref = true ↔
      ∃ e ∈ elements, (e.kind = .node ∨ e.kind = .network) ∧ e.ref = ref := by
  simp [endpointPresent]

/-- The ends of an edge. -/
theorem attached_edge {elements : List StateElement} {e : StateElement} (hkind : e.kind = .edge)
    (h : e.attached elements = true) :
    ∃ source target, decodeEdgeRef e.ref = some (source, target) ∧
      endpointPresent elements source = true ∧ endpointPresent elements target = true := by
  rw [StateElement.attached, if_pos hkind] at h
  cases hdecode : decodeEdgeRef e.ref with
  | none => simp [hdecode] at h
  | some ends =>
      obtain ⟨source, target⟩ := ends
      simp only [hdecode, Bool.and_eq_true] at h
      exact ⟨source, target, rfl, h⟩

/-! ## Findings -/

section
variable {desired observed : List StateElement}

/-- The observed elements by reference. -/
def byRef (elements : List StateElement) : Dict Str StateElement :=
  Dict.ofPairs (elements.map fun e => (e.ref, e))

theorem get?_byRef_iff (hnodup : (observed.map StateElement.ref).Nodup) {ref : Str}
    {e : StateElement} : (byRef observed).get? ref = some e ↔ e ∈ observed ∧ e.ref = ref :=
  Dict.get?_index hnodup

theorem get?_byRef_eq_none_iff (hnodup : (observed.map StateElement.ref).Nodup) {ref : Str} :
    (byRef observed).get? ref = none ↔ ∀ e ∈ observed, e.ref ≠ ref := by
  rw [Option.eq_none_iff_forall_ne_some]
  constructor
  · intro h e he heq
    exact h e ((get?_byRef_iff hnodup).mpr ⟨he, heq⟩)
  · intro h e heq
    obtain ⟨he, href⟩ := (get?_byRef_iff hnodup).mp heq
    exact h e he href

theorem mem_driftFindings {f : DriftFinding} :
    f ∈ driftFindings desired observed ↔
      (∃ d ∈ desired, f ∈ classifyDesired (byRef observed) d) ∨
        ∃ e ∈ observed, e.ref ∉ desired.map StateElement.ref ∧
          f = ⟨.unmanaged, .elementUnmanaged, e.kind, []⟩ := by
  unfold driftFindings
  rw [List.mem_append, List.mem_flatMap, List.mem_map]
  refine or_congr Iff.rfl ?_
  simp only [List.mem_filter, decide_eq_true_eq, and_assoc]
  constructor
  · rintro ⟨e, he, href, rfl⟩
    exact ⟨e, he, href, rfl⟩
  · rintro ⟨e, he, href, rfl⟩
    exact ⟨e, he, href, rfl⟩

/-- What a finding about a desired element can be. -/
theorem mem_classifyDesired {d : StateElement} {f : DriftFinding}
    (h : f ∈ classifyDesired (byRef observed) d) :
    f.element = (d.kind, d.ref) ∧
      (f.kind = .missing ∧ (byRef observed).get? d.ref = none ∨
        f.kind = .divergent ∧ d.kind ≠ .edge ∧ (byRef observed).get? d.ref ≠ none ∨
        f.kind = .identityConflict ∨ f.kind = .indeterminate) := by
  unfold classifyDesired at h
  cases hget : (byRef observed).get? d.ref with
  | none =>
      simp only [hget, List.mem_singleton] at h
      subst h
      exact ⟨rfl, .inl ⟨rfl, rfl⟩⟩
  | some o =>
      simp only [hget] at h
      split at h
      · rw [List.mem_singleton.mp h]
        exact ⟨rfl, .inr (.inr (.inl rfl))⟩
      · obtain ⟨facet, hfacet, hmem⟩ := List.mem_flatMap.mp h
        have hedge : d.kind ≠ .edge := by
          intro hedge
          rw [hedge] at hfacet
          cases hfacet
        unfold compareFacet at hmem
        cases hvalue : d.facetMap.get? facet with
        | none => simp [hvalue] at hmem
        | some value =>
            cases hother : o.facetMap.get? facet with
            | none =>
                simp only [hvalue, hother, List.mem_singleton] at hmem
                subst hmem
                exact ⟨rfl, .inr (.inr (.inr rfl))⟩
            | some other =>
                simp only [hvalue, hother] at hmem
                split at hmem
                · cases hmem
                · rw [List.mem_singleton.mp hmem]
                  exact ⟨rfl, .inr (.inl ⟨rfl, hedge, by simp⟩)⟩

/-- Nothing the planner refuses was found. -/
def Plannable (desired observed : List StateElement) : Prop :=
  ∀ f ∈ driftFindings desired observed, f.kind ≠ .identityConflict ∧ f.kind ≠ .indeterminate

/-- In a plannable pair a desired element that is there has its own kind. -/
theorem Plannable.kind_eq (h : Plannable desired observed)
    (hnodup : (observed.map StateElement.ref).Nodup) {d o : StateElement} (hd : d ∈ desired)
    (ho : o ∈ observed) (href : o.ref = d.ref) : o.kind = d.kind := by
  by_contra hkind
  have hget : (byRef observed).get? d.ref = some o := (get?_byRef_iff hnodup).mpr ⟨ho, href⟩
  have hmem : (⟨.identityConflict, .elementKindConflict, d.kind, d.ref⟩ : DriftFinding) ∈
      classifyDesired (byRef observed) d := by
    simp [classifyDesired, hget, hkind]
  exact (h _ (mem_driftFindings.mpr (.inl ⟨d, hd, hmem⟩))).1 rfl

/-! ## Actions -/

theorem mem_plannedActions {findings : List DriftFinding} {a : PlannedAction}
    (h : a ∈ plannedActions findings) :
    ∃ f ∈ findings, f.kind ≠ .unmanaged ∧ f.element = (a.elementKind, a.elementRef) ∧
      a.kind = f.kind.action := by
  obtain ⟨⟨key, group⟩, hentry, rfl⟩ := List.mem_map.mp (mem_sortedBy.mp h)
  obtain ⟨hkey, -⟩ := Dict.mem_groupBy.mp hentry
  obtain ⟨f, hf, rfl⟩ := List.mem_map.mp hkey
  -- the action's kind is that of the last finding about the element
  have hsome : (Dict.ofPairs ((findings.filter fun f => f.kind ≠ .unmanaged).map
      fun f => (f.element, f.kind.action))).get? f.element ≠ none := by
    rw [Dict.get?_ofPairs]
    simp only [ne_eq, Option.map_eq_none_iff, List.find?_eq_none, not_forall]
    exact ⟨(f.element, f.kind.action), List.mem_reverse.mpr (List.mem_map_of_mem hf), by simp⟩
  obtain ⟨kind, hget⟩ := Option.ne_none_iff_exists'.mp hsome
  obtain ⟨g, hg, heq⟩ := List.mem_map.mp (Dict.mem_of_get?_ofPairs hget)
  obtain ⟨helement, rfl⟩ := Prod.mk.inj heq
  obtain ⟨hmem, hmanaged⟩ := List.mem_filter.mp hg
  refine ⟨g, hmem, by simpa using hmanaged, helement, ?_⟩
  show (Option.getD _ _) = _
  rw [hget]
  rfl

theorem exists_plannedAction {findings : List DriftFinding} {f : DriftFinding} (hf : f ∈ findings)
    (hkind : f.kind ≠ .unmanaged) :
    ∃ a ∈ plannedActions findings, (a.elementKind, a.elementRef) = f.element := by
  have hmem : f ∈ findings.filter fun f => f.kind ≠ .unmanaged :=
    List.mem_filter.mpr ⟨hf, by simpa using hkind⟩
  have hentry : (f.element, _) ∈ Dict.groupBy DriftFinding.element _ :=
    Dict.mem_groupBy.mpr ⟨List.mem_map_of_mem hmem, rfl⟩
  exact ⟨_, mem_sortedBy.mpr (List.mem_map_of_mem hentry), rfl⟩

/-- The actions of a pair of states. -/
def actionsOf (desired observed : List StateElement) : List PlannedAction :=
  plannedActions (sortedBy DriftFinding.sortKey (driftFindings desired observed))

/-- Every action is about a desired element: a missing one is created, a present one updated. -/
theorem action_spec (hplannable : Plannable desired observed) {a : PlannedAction}
    (ha : a ∈ actionsOf desired observed) :
    ∃ d ∈ desired, d.ref = a.elementRef ∧ d.kind = a.elementKind ∧
      (a.kind = .create ∧ (byRef observed).get? d.ref = none ∨
        a.kind = .update ∧ d.kind ≠ .edge ∧ (byRef observed).get? d.ref ≠ none) := by
  obtain ⟨f, hf, hmanaged, helement, hkind⟩ := mem_plannedActions ha
  have hf := mem_sortedBy.mp hf
  obtain ⟨hconflict, hindeterminate⟩ := hplannable f hf
  rcases mem_driftFindings.mp hf with ⟨d, hd, hclass⟩ | ⟨e, -, -, rfl⟩
  · obtain ⟨hown, hcases⟩ := mem_classifyDesired hclass
    obtain ⟨hkind', href'⟩ := Prod.mk.inj (hown.symm.trans helement)
    refine ⟨d, hd, href', hkind', ?_⟩
    rcases hcases with ⟨hmissing, hget⟩ | ⟨hdivergent, hedge, hget⟩ | hc | hc
    · exact .inl ⟨by rw [hkind, hmissing]; rfl, hget⟩
    · exact .inr ⟨by rw [hkind, hdivergent]; rfl, hedge, hget⟩
    · exact absurd hc hconflict
    · exact absurd hc hindeterminate
  · exact absurd rfl hmanaged

/-- A desired element with any finding has an action. -/
theorem exists_action {d : StateElement} (hd : d ∈ desired)
    (hdrift : classifyDesired (byRef observed) d ≠ []) :
    ∃ a ∈ actionsOf desired observed, a.elementRef = d.ref ∧ a.elementKind = d.kind := by
  obtain ⟨f, hf⟩ := List.exists_mem_of_ne_nil _ hdrift
  obtain ⟨helement, hcases⟩ := mem_classifyDesired hf
  have hmanaged : f.kind ≠ .unmanaged := by
    rcases hcases with ⟨h, -⟩ | ⟨h, -⟩ | h | h <;> simp [h]
  have hmem : f ∈ sortedBy DriftFinding.sortKey (driftFindings desired observed) :=
    mem_sortedBy.mpr (mem_driftFindings.mpr (.inl ⟨d, hd, hf⟩))
  obtain ⟨a, ha, hkey⟩ := exists_plannedAction hmem hmanaged
  obtain ⟨hkind, href⟩ := Prod.mk.inj (hkey.trans helement)
  exact ⟨a, ha, href, hkind⟩

end

/-- Where an action may stand before another. -/
theorem sortKey_le {a b : PlannedAction} (h : (compare a.sortKey b.sortKey).isLE = true) :
    actionKindOrder.idxOf a.kind < actionKindOrder.idxOf b.kind ∨
      actionKindOrder.idxOf a.kind = actionKindOrder.idxOf b.kind ∧
        elementKindOrder.idxOf a.elementKind ≤ elementKindOrder.idxOf b.elementKind := by
  have hlex : ((compare (actionKindOrder.idxOf a.kind) (actionKindOrder.idxOf b.kind)).then
      ((compare (elementKindOrder.idxOf a.elementKind) (elementKindOrder.idxOf b.elementKind)).then
        (compare a.elementRef b.elementRef))).isLE = true := h
  rw [Ordering.isLE_then_iff_or, Nat.compare_eq_lt, Nat.compare_eq_eq,
    Ordering.isLE_then_iff_or, Nat.compare_eq_lt, Nat.compare_eq_eq] at hlex
  omega

/-! ## What the executor holds -/

/-- An element of the world as an observation reports it. -/
def SimulatedElement.observed (e : SimulatedElement) : StateElement := ⟨e.kind, e.ref, e.facets⟩

/-- A desired element as the simulator holds it. -/
def StateElement.simulated (e : StateElement) : SimulatedElement := ⟨e.kind, e.ref, e.facets⟩

/-- What an observation reports of a world. -/
def SimulatedWorld.observed (world : SimulatedWorld) : List StateElement :=
  world.elements.map SimulatedElement.observed

theorem get?_world_byRef (world : SimulatedWorld) (ref : Str) :
    (world.byRef.get? ref).map SimulatedElement.observed = (byRef world.observed).get? ref := by
  rw [SimulatedWorld.byRef, byRef, SimulatedWorld.observed, Dict.get?_ofPairs, Dict.get?_ofPairs,
    List.map_map, ← List.map_reverse, ← List.map_reverse, List.find?_map, List.find?_map,
    Option.map_map, Option.map_map, Option.map_map]
  rfl

/-- Every action so far was applied: the desired element stands where the executor acted, and the
element observed before everywhere else. -/
structure Applied (desired observed : List StateElement) (done : List PlannedAction) (run : Run) :
    Prop where
  running : run.stopped = false
  steps : ∀ s ∈ run.steps, s.status = .applied
  keyed : Keyed run.current
  nodup : (run.current.map Prod.fst).Nodup
  holds : ∀ ref, (run.current.get? ref).map SimulatedElement.observed =
    if ref ∈ done.map PlannedAction.elementRef then (byRef desired).get? ref
    else (byRef observed).get? ref

theorem applied_nil (desired : List StateElement) (world : SimulatedWorld) :
    Applied desired world.observed [] { current := world.byRef } where
  running := rfl
  steps := fun _ hs => absurd hs List.not_mem_nil
  keyed := keyed_byRef world
  nodup := Dict.nodup_keys_ofPairs _
  holds := fun ref => get?_world_byRef world ref

section
variable {desired observed : List StateElement} {done rest : List PlannedAction} {run : Run}
  {action : PlannedAction} {source : StateElement}

/-- One turn of a run in which every action so far was applied. -/
theorem Applied.step (h : Applied desired observed done run)
    (hnodup : (desired.map StateElement.ref).Nodup)
    (hsource : (byRef desired).get? action.elementRef = some source) :
    unsatisfiedDependency source run.current = false ∧
        Applied desired observed (done ++ [action]) (applyAction (byRef desired) run action) ∨
      unsatisfiedDependency source run.current = true ∧
        applyAction (byRef desired) run action =
          ⟨run.current, run.steps ++ [action.outcome .failed (some .dependencyAbsent)], true⟩ := by
  obtain ⟨-, href⟩ := (get?_byRef_iff hnodup).mp hsource
  rcases applyAction_cases (byRef desired) run action with
    ⟨hstopped, -⟩ | ⟨-, reason, heq, hreason⟩ | ⟨-, source', hsource', hsatisfied, heq⟩
  · rw [h.running] at hstopped
    cases hstopped
  · right
    rcases hreason with ⟨-, hnone⟩ | ⟨rfl, source', hsource', hmissing⟩
    · rw [hsource] at hnone
      cases hnone
    · obtain rfl : source = source' := Option.some.inj (hsource.symm.trans hsource')
      exact ⟨hmissing, heq⟩
  · left
    obtain rfl : source = source' := Option.some.inj (hsource.symm.trans hsource')
    refine ⟨hsatisfied, ?_⟩
    rw [heq]
    refine ⟨rfl, ?_, h.keyed.set href, Dict.nodup_keys_set h.nodup _ _, ?_⟩
    · intro s hs
      rcases List.mem_append.mp hs with hs | hs
      · exact h.steps s hs
      · rw [List.mem_singleton.mp hs]
        rfl
    · intro ref
      rw [Dict.get?_set]
      by_cases hhere : action.elementRef = ref
      · subst hhere
        simp [hsource, SimulatedElement.observed]
      · simp [hhere, Ne.symm hhere, h.holds ref]

/-- A stopped run only adds steps that were not attempted. -/
theorem failed_foldl_of_stopped {desiredByRef : Dict Str StateElement}
    (actions : List PlannedAction) {run : Run} (hstopped : run.stopped = true) {s : StepOutcome}
    (hs : s ∈ (actions.foldl (applyAction desiredByRef) run).steps) (hfailed : s.status = .failed) :
    s ∈ run.steps := by
  induction actions generalizing run with
  | nil => exact hs
  | cons action rest ih =>
      have hturn : applyAction desiredByRef run action =
          { run with steps := run.steps ++ [action.outcome .notAttempted none] } := by
        rw [applyAction, if_pos hstopped]
      rw [List.foldl_cons, hturn] at hs
      have hmem := @ih { run with steps := run.steps ++ [_] } hstopped hs
      rcases List.mem_append.mp hmem with hmem | hmem
      · exact hmem
      · rw [List.mem_singleton.mp hmem] at hfailed
        cases hfailed

/-- A run applies all its actions or stops at one whose prerequisites it does not hold. -/
theorem Applied.foldl (hnodup : (desired.map StateElement.ref).Nodup)
    (hsources : ∀ a ∈ rest, ∃ source, (byRef desired).get? a.elementRef = some source)
    (h : Applied desired observed done run) :
    Applied desired observed (done ++ rest) (rest.foldl (applyAction (byRef desired)) run) ∨
      ∃ before a after stoppedAt source, done ++ rest = before ++ a :: after ∧
        Applied desired observed before stoppedAt ∧
        (byRef desired).get? a.elementRef = some source ∧
        unsatisfiedDependency source stoppedAt.current = true ∧
        a.outcome .failed (some .dependencyAbsent) ∈
          (rest.foldl (applyAction (byRef desired)) run).steps ∧
        ∀ s ∈ (rest.foldl (applyAction (byRef desired)) run).steps, s.status = .failed →
          s = a.outcome .failed (some .dependencyAbsent) := by
  induction rest generalizing done run with
  | nil => exact .inl (by simpa using h)
  | cons a rest ih =>
      obtain ⟨source, hsource⟩ := hsources a List.mem_cons_self
      rw [List.foldl_cons, List.append_cons]
      rcases h.step hnodup hsource with ⟨-, happlied⟩ | ⟨hmissing, heq⟩
      · exact ih (fun b hb => hsources b (List.mem_cons_of_mem _ hb)) happlied
      · right
        refine ⟨done, a, rest, run, source, by simp, h, hsource, hmissing, ?_, ?_⟩
        · refine (steps_prefix_foldl rest _).subset ?_
          rw [heq]
          exact List.mem_append_right _ List.mem_cons_self
        · intro s hs hfailed
          rw [heq] at hs
          have hmem := failed_foldl_of_stopped rest rfl hs hfailed
          rcases List.mem_append.mp hmem with hmem | hmem
          · rw [h.steps s hmem] at hfailed
            cases hfailed
          · exact List.mem_singleton.mp hmem

end

/-! ## Prerequisites -/

section
variable {desired observed : List StateElement} {before after : List PlannedAction}
  {action : PlannedAction} {run : Run} {d n : StateElement}

/-- The creation of something of an earlier kind stands before an action. -/
theorem mem_before (hsplit : actionsOf desired observed = before ++ action :: after)
    {a : PlannedAction} (ha : a ∈ actionsOf desired observed) (hcreate : a.kind = .create)
    (hkind : elementKindOrder.idxOf a.elementKind < elementKindOrder.idxOf action.elementKind) :
    a ∈ before := by
  have hsorted : (actionsOf desired observed).Pairwise fun a b =>
      (compare a.sortKey b.sortKey).isLE = true := pairwise_sortedBy PlannedAction.sortKey _
  rw [hsplit] at ha hsorted
  rcases List.mem_append.mp ha with hbefore | hrest
  · exact hbefore
  · rcases List.mem_cons.mp hrest with rfl | hafter
    · omega
    · have hle := (List.pairwise_cons.mp (List.pairwise_append.mp hsorted).2.1).1 a hafter
      have hfirst : actionKindOrder.idxOf a.kind = 0 := by rw [hcreate]; rfl
      have := sortKey_le hle
      omega

/-- What is desired and of an earlier kind than the action's is held when the action is reached. -/
theorem Applied.hasKey (h : Applied desired observed before run)
    (hplannable : Plannable desired observed) (hnodup : (desired.map StateElement.ref).Nodup)
    (hsplit : actionsOf desired observed = before ++ action :: after) (hn : n ∈ desired)
    (hkind : elementKindOrder.idxOf n.kind < elementKindOrder.idxOf action.elementKind) :
    run.current.hasKey n.ref = true := by
  have hget : (byRef desired).get? n.ref = some n := (get?_byRef_iff hnodup).mpr ⟨hn, rfl⟩
  have hholds := h.holds n.ref
  have hsome : (run.current.get? n.ref).map SimulatedElement.observed ≠ none := by
    rw [hholds]
    split
    · rw [hget]
      simp
    · next hnot =>
        intro hnone
        -- an absent element has its creation among the actions before
        have hmissing : classifyDesired (byRef observed) n ≠ [] := by
          simp [classifyDesired, hnone]
        obtain ⟨a, ha, href, hkind'⟩ := exists_action hn hmissing
        obtain ⟨d, hd, hdref, -, hcases⟩ := action_spec hplannable ha
        obtain rfl : d = n :=
          List.inj_on_of_nodup_map hnodup hd hn (hdref.trans href)
        rcases hcases with ⟨hcreate, -⟩ | ⟨-, -, hthere⟩
        · exact hnot (List.mem_map.mpr
            ⟨a, mem_before hsplit ha hcreate (by rw [hkind']; exact hkind), href⟩)
        · exact hthere hnone
  exact Dict.hasKey_iff.mpr fun hnone => hsome (by rw [hnone]; rfl)

/-- What is observed stays held. -/
theorem Applied.hasKey_of_observed (h : Applied desired observed before run)
    (hsources : ∀ a ∈ before, ∃ source, (byRef desired).get? a.elementRef = some source)
    (hnodup : (observed.map StateElement.ref).Nodup) (hn : n ∈ observed) :
    run.current.hasKey n.ref = true := by
  have hholds := h.holds n.ref
  have hsome : (run.current.get? n.ref).map SimulatedElement.observed ≠ none := by
    rw [hholds]
    split
    · next hmem =>
        obtain ⟨a, ha, href⟩ := List.mem_map.mp hmem
        obtain ⟨source, hsource⟩ := hsources a ha
        rw [← href, hsource]
        simp
    · rw [(get?_byRef_iff hnodup).mpr ⟨hn, rfl⟩]
      simp
  exact Dict.hasKey_iff.mpr fun hnone => hsome (by rw [hnone]; rfl)

/-- A node that names a network which is neither desired nor there. -/
def Unattachable (desired observed : List StateElement) (d : StateElement) : Prop :=
  d.kind = .node ∧ ∃ attachment, d.facetMap.get? .networkAttachment = some attachment ∧
    attachment ≠ [] ∧ (∀ n ∈ desired, n.kind = .network → n.ref ≠ attachment) ∧
    ∀ e ∈ observed, e.ref ≠ attachment

/-- Prerequisites fail only for such a node. -/
theorem Applied.unattachable (h : Applied desired observed before run)
    (hplannable : Plannable desired observed) (hdesired : consistent desired = true)
    (hobserved : (observed.map StateElement.ref).Nodup)
    (hsplit : actionsOf desired observed = before ++ action :: after) (hd : d ∈ desired)
    (hkind : d.kind = action.elementKind)
    (hmissing : unsatisfiedDependency d run.current = true) : Unattachable desired observed d := by
  obtain ⟨-, hnodup, hattached⟩ := consistent_iff.mp hdesired
  have hsources : ∀ a ∈ before, ∃ source, (byRef desired).get? a.elementRef = some source := by
    intro a ha
    have hmem : a ∈ actionsOf desired observed := by
      rw [hsplit]
      exact List.mem_append_left _ ha
    obtain ⟨source, hsource, href, -⟩ := action_spec hplannable hmem
    exact ⟨source, (get?_byRef_iff hnodup).mpr ⟨hsource, href⟩⟩
  unfold unsatisfiedDependency at hmissing
  cases hk : d.kind with
  | network => simp [hk] at hmissing
  | edge =>
      -- both ends are desired nodes or networks, and those come before edges
      obtain ⟨source, target, hdecode, hends⟩ := attached_edge hk (hattached d hd)
      have hheld : ∀ ref, endpointPresent desired ref = true → run.current.hasKey ref = true := by
        intro ref href
        obtain ⟨n, hn, hnkind, rfl⟩ := endpointPresent_iff.mp href
        refine h.hasKey hplannable hnodup hsplit hn ?_
        rw [← hkind, hk]
        rcases hnkind with hnkind | hnkind
        all_goals
          rw [hnkind]
          decide
      simp [hk, hdecode, hheld source hends.1, hheld target hends.2] at hmissing
  | node =>
      cases hattachment : d.facetMap.get? .networkAttachment with
      | none => simp [hk, hattachment] at hmissing
      | some attachment =>
          simp only [hk, hattachment, Bool.and_eq_true, Bool.not_eq_true',
            List.isEmpty_eq_false_iff] at hmissing
          refine ⟨hk, attachment, hattachment, hmissing.1, ?_, ?_⟩
          · intro n hn hnkind hnref
            have hheld := h.hasKey hplannable hnodup hsplit hn
              (by rw [← hkind, hk, hnkind]; decide)
            rw [hnref, hmissing.2] at hheld
            cases hheld
          · intro e he heref
            have hheld := h.hasKey_of_observed hsources hobserved he
            rw [heref, hmissing.2] at hheld
            cases hheld

end

end Secp.Reconciliation
