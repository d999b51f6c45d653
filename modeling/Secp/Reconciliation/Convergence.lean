import Secp.Reconciliation.Actions

/-!
# Planning, executing and observing again

A plan made for a world, executed on that world and observed again leaves no drift but the elements
nobody desires, which the plan deferred. After a run without a failed step the world holds the
desired element wherever the executor acted and what was observed before everywhere else; the
classifier then finds nothing about any desired element.
-/

namespace Secp.Reconciliation

open Secp.Python

/-! ## The world after a run -/

section
variable {desired observed : List StateElement} {run : Run}

/-- The references an execution acts on. -/
def actedRefs (desired observed : List StateElement) : List Str :=
  (actionsOf desired observed).map PlannedAction.elementRef

/-- A desired element that is not acted on does not drift. -/
theorem classifyDesired_of_not_acted {d : StateElement} (hd : d ∈ desired)
    (hnot : d.ref ∉ actedRefs desired observed) : classifyDesired (byRef observed) d = [] := by
  by_contra hdrift
  obtain ⟨a, ha, href, -⟩ := exists_action hd hdrift
  exact hnot (List.mem_map.mpr ⟨a, ha, href⟩)

/-- What the world holds after every action was applied. -/
structure Reconciled (desired observed result : List StateElement) : Prop where
  nodup : (result.map StateElement.ref).Nodup
  mem_iff : ∀ e, e ∈ result ↔
    if e.ref ∈ actedRefs desired observed then e ∈ desired else e ∈ observed

theorem mem_observed_rebuild {current : Dict Str SimulatedElement} (hkeyed : Keyed current)
    (hnodup : (current.map Prod.fst).Nodup) {e : StateElement} :
    e ∈ (rebuild current).observed ↔
      (current.get? e.ref).map SimulatedElement.observed = some e := by
  rw [SimulatedWorld.observed, rebuild, List.mem_map, Option.map_eq_some_iff]
  constructor
  · rintro ⟨held, hmem, rfl⟩
    obtain ⟨⟨ref, value⟩, hentry, rfl⟩ := List.mem_map.mp hmem
    have hentry := mem_sortedBy.mp hentry
    have href : value.ref = ref := hkeyed _ hentry
    subst href
    exact ⟨value, Dict.get?_of_mem hnodup hentry, rfl⟩
  · rintro ⟨held, hget, heq⟩
    exact ⟨held, List.mem_map.mpr ⟨_, mem_sortedBy.mpr (Dict.mem_of_get? hget), rfl⟩, heq⟩

/-- A run that applied every action ends in such a world. -/
theorem Applied.reconciled (h : Applied desired observed (actionsOf desired observed) run)
    (hdesired : (desired.map StateElement.ref).Nodup)
    (hobserved : (observed.map StateElement.ref).Nodup) :
    Reconciled desired observed (rebuild run.current).observed where
  nodup := by
    have hrefs : (rebuild run.current).observed.map StateElement.ref =
        (rebuild run.current).elements.map SimulatedElement.ref := by
      rw [SimulatedWorld.observed, List.map_map]
      rfl
    rw [hrefs]
    exact (inOrder_rebuild h.keyed h.nodup).nodup
  mem_iff := by
    intro e
    rw [mem_observed_rebuild h.keyed h.nodup, h.holds e.ref]
    show (if e.ref ∈ actedRefs desired observed then _ else _) = _ ↔ _
    split
    · rw [get?_byRef_iff hdesired, and_iff_left rfl]
    · rw [get?_byRef_iff hobserved, and_iff_left rfl]

end

section
variable {desired observed result : List StateElement}

/-- The desired element stands where it was acted on, and otherwise an observed one of its kind. -/
theorem Reconciled.exists_desired (h : Reconciled desired observed result)
    (hplannable : Plannable desired observed) (hobserved : (observed.map StateElement.ref).Nodup)
    {d : StateElement} (hd : d ∈ desired) :
    d ∈ result ∨ ∃ o ∈ observed, o ∈ result ∧ o.ref = d.ref ∧ o.kind = d.kind ∧
      classifyDesired (byRef observed) d = [] := by
  by_cases hacted : d.ref ∈ actedRefs desired observed
  · left
    exact (h.mem_iff d).mpr (by rwa [if_pos hacted])
  · right
    have hnone := classifyDesired_of_not_acted hd hacted
    cases hget : (byRef observed).get? d.ref with
    | none => simp [classifyDesired, hget] at hnone
    | some o =>
        obtain ⟨ho, href⟩ := (get?_byRef_iff hobserved).mp hget
        have hresult : o ∈ result := (h.mem_iff o).mpr (by rwa [if_neg (by rwa [href])])
        exact ⟨o, ho, hresult, href, hplannable.kind_eq hobserved hd ho href, hnone⟩

/-- An observed element stays, or the desired one of its kind stands in its place. -/
theorem Reconciled.exists_observed (h : Reconciled desired observed result)
    (hplannable : Plannable desired observed) (hobserved : (observed.map StateElement.ref).Nodup)
    {o : StateElement} (ho : o ∈ observed) :
    ∃ e ∈ result, e.ref = o.ref ∧ e.kind = o.kind := by
  by_cases hacted : o.ref ∈ actedRefs desired observed
  · obtain ⟨a, ha, href⟩ := List.mem_map.mp hacted
    obtain ⟨d, hd, hdref, -⟩ := action_spec hplannable ha
    have heq : o.ref = d.ref := href.symm.trans hdref.symm
    refine ⟨d, (h.mem_iff d).mpr (by rwa [if_pos (by rwa [← heq])]), heq.symm, ?_⟩
    exact (hplannable.kind_eq hobserved hd ho heq).symm
  · exact ⟨o, (h.mem_iff o).mpr (by rwa [if_neg hacted]), rfl, rfl⟩

/-- The result passes the gate. -/
theorem Reconciled.result_consistent (h : Reconciled desired observed result)
    (hplannable : Plannable desired observed) (hdesired : consistent desired = true)
    (hobserved : consistent observed = true) : consistent result = true := by
  obtain ⟨hdformed, hdnodup, hdattached⟩ := consistent_iff.mp hdesired
  obtain ⟨hoformed, honodup, hoattached⟩ := consistent_iff.mp hobserved
  have hends : ∀ ref, (endpointPresent desired ref = true ∨ endpointPresent observed ref = true) →
      endpointPresent result ref = true := by
    intro ref href
    rw [endpointPresent_iff]
    rcases href with href | href
    · obtain ⟨n, hn, hkind, rfl⟩ := endpointPresent_iff.mp href
      rcases h.exists_desired hplannable honodup hn with hmem | ⟨o, -, ho, href, hokind, -⟩
      · exact ⟨n, hmem, hkind, rfl⟩
      · exact ⟨o, ho, by rwa [hokind], href⟩
    · obtain ⟨n, hn, hkind, rfl⟩ := endpointPresent_iff.mp href
      obtain ⟨e, he, href, hekind⟩ := h.exists_observed hplannable honodup hn
      exact ⟨e, he, by rwa [hekind], href⟩
  have hside : ∀ e ∈ result, e ∈ desired ∨ e ∈ observed := by
    intro e he
    have hmem := (h.mem_iff e).mp he
    split at hmem
    · exact .inl hmem
    · exact .inr hmem
  refine consistent_iff.mpr ⟨?_, h.nodup, ?_⟩
  · intro e he
    exact (hside e he).elim (hdformed e) (hoformed e)
  · intro e he
    unfold StateElement.attached
    split
    · next hkind =>
        have hattached : ∃ source target, decodeEdgeRef e.ref = some (source, target) ∧
            endpointPresent result source = true ∧ endpointPresent result target = true := by
          rcases hside e he with hmem | hmem
          · obtain ⟨s, t, hdecode, hs, ht⟩ := attached_edge hkind (hdattached e hmem)
            exact ⟨s, t, hdecode, hends s (.inl hs), hends t (.inl ht)⟩
          · obtain ⟨s, t, hdecode, hs, ht⟩ := attached_edge hkind (hoattached e hmem)
            exact ⟨s, t, hdecode, hends s (.inr hs), hends t (.inr ht)⟩
        obtain ⟨source, target, hdecode, hsource, htarget⟩ := hattached
        simp [hdecode, hsource, htarget]
    · rfl

theorem compareFacets_self (d : StateElement) : compareFacets d d = [] := by
  refine List.flatMap_eq_nil_iff.mpr fun facet _ => ?_
  unfold compareFacet
  cases d.facetMap.get? facet <;> simp

/-- Nothing desired drifts in the result. -/
theorem Reconciled.classifyDesired_eq_nil (h : Reconciled desired observed result)
    (hplannable : Plannable desired observed) (hobserved : (observed.map StateElement.ref).Nodup)
    {d : StateElement} (hd : d ∈ desired) : classifyDesired (byRef result) d = [] := by
  rcases h.exists_desired hplannable hobserved hd with hmem | ⟨o, ho, hmem, href, -, hnone⟩
  · have hget := (get?_byRef_iff h.nodup).mpr ⟨hmem, rfl⟩
    simp [classifyDesired, hget, compareFacets_self]
  · have hget := (get?_byRef_iff h.nodup).mpr ⟨hmem, href⟩
    have hget' := (get?_byRef_iff hobserved).mpr ⟨ho, href⟩
    unfold classifyDesired at hnone ⊢
    rwa [hget, ← hget']

/-- The elements nobody desires. -/
def unmanaged (desired observed : List StateElement) : List StateElement :=
  observed.filter fun e => e.ref ∉ desired.map StateElement.ref

/-- The executor leaves the elements nobody desires as they are. -/
theorem Reconciled.unmanaged_perm (h : Reconciled desired observed result)
    (hplannable : Plannable desired observed) (hobserved : (observed.map StateElement.ref).Nodup) :
    (unmanaged desired result).Perm (unmanaged desired observed) := by
  have hnodup : ∀ elements : List StateElement, (elements.map StateElement.ref).Nodup →
      (unmanaged desired elements).Nodup := by
    intro elements hrefs
    exact (List.Nodup.of_map _ hrefs).filter _
  refine (List.perm_ext_iff_of_nodup (hnodup _ h.nodup) (hnodup _ hobserved)).mpr fun e => ?_
  simp only [unmanaged, List.mem_filter, decide_eq_true_eq]
  refine and_congr_left fun hnot => ?_
  have hacted : e.ref ∉ actedRefs desired observed := by
    intro hmem
    obtain ⟨a, ha, href⟩ := List.mem_map.mp hmem
    obtain ⟨d, hd, hdref, -⟩ := action_spec hplannable ha
    exact hnot (List.mem_map.mpr ⟨d, hd, hdref.trans href⟩)
  rw [h.mem_iff e, if_neg hacted]

/-- All that is found in the result are the elements nobody desires. -/
theorem Reconciled.driftFindings_eq (h : Reconciled desired observed result)
    (hplannable : Plannable desired observed)
    (hobserved : (observed.map StateElement.ref).Nodup) :
    driftFindings desired result =
      (unmanaged desired result).map fun e => ⟨.unmanaged, .elementUnmanaged, e.kind, []⟩ := by
  have hnone : desired.flatMap (classifyDesired (byRef result)) = [] :=
    List.flatMap_eq_nil_iff.mpr fun d hd =>
      h.classifyDesired_eq_nil hplannable hobserved hd
  show desired.flatMap (classifyDesired (byRef result)) ++ _ = _
  rw [hnone]
  rfl

end

/-! ## Counting -/

section
variable {desired observed result : List StateElement}

/-- A finding about a desired element is not about an unmanaged one. -/
theorem countP_unmanaged_driftFindings (desired observed : List StateElement) :
    ((driftFindings desired observed).countP fun f => f.kind = .unmanaged) =
      (unmanaged desired observed).length := by
  have hnone : ((desired.flatMap (classifyDesired (byRef observed))).countP
      fun f => f.kind = .unmanaged) = 0 := by
    refine List.countP_eq_zero.mpr fun f hf => ?_
    obtain ⟨d, -, hclass⟩ := List.mem_flatMap.mp hf
    obtain ⟨-, hcases⟩ := mem_classifyDesired hclass
    rcases hcases with ⟨h, -⟩ | ⟨h, -⟩ | h | h <;> simp [h]
  show ((desired.flatMap (classifyDesired (byRef observed)) ++
    (unmanaged desired observed).map _).countP _) = _
  rw [List.countP_append, hnone, Nat.zero_add, List.countP_map]
  exact List.countP_eq_length.mpr fun _ _ => rfl

theorem length_deferredElements (findings : List DriftFinding) :
    (deferredElements findings).length = findings.countP fun f => f.kind = .unmanaged := by
  rw [deferredElements, (sortedBy_perm _ _).length_eq, List.length_map, List.countP_eq_length_filter]

/-- How often each kind is found in the result. -/
theorem Reconciled.countP_driftFindings (h : Reconciled desired observed result)
    (hplannable : Plannable desired observed) (hobserved : (observed.map StateElement.ref).Nodup)
    (kind : DriftKind) :
    ((driftFindings desired result).countP fun f => f.kind = kind) =
      if kind = .unmanaged then (unmanaged desired observed).length else 0 := by
  split
  · next hkind =>
      rw [hkind, countP_unmanaged_driftFindings]
      exact (h.unmanaged_perm hplannable hobserved).length_eq
  · next hkind =>
      rw [h.driftFindings_eq hplannable hobserved, List.countP_map]
      exact List.countP_eq_zero.mpr fun _ _ => by simpa using Ne.symm hkind

end

/-! ## The whole cycle -/

/-- An intent that authorizes the plan, or none for a plan that does nothing. -/
def Authorized (plan : ReconciliationPlan) (intent : Option ResetIntent) (now : Datetime) : Prop :=
  match intent with
  | some intent => verifyResetIntent intent plan now = .ok ()
  | none => plan.actions = []

theorem Authorized.require {plan : ReconciliationPlan} {intent : Option ResetIntent}
    {now : Datetime} (h : Authorized plan intent now)
    (hintegrity : planDigestOf plan = plan.planDigest) :
    requireExecutionAuthorized plan intent now = .ok () := by
  cases intent with
  | some intent => exact h
  | none =>
      have hempty : plan.actions = [] := h
      show ((requirePlanIntegrity plan).lift >>= fun _ =>
        (Reconciliation.require plan.actions.isEmpty .executionUnauthorized).lift) = .ok ()
      rw [Logic.except_unit_bind_eq_ok, lift_eq_ok_iff, lift_eq_ok_iff, requirePlanIntegrity,
        require_eq_ok_iff, require_eq_ok_iff, hempty]
      exact ⟨decide_eq_true hintegrity, rfl⟩

/-- What a run of a plan's actions is: all applied, or stopped at a node that cannot be attached. -/
theorem applyActions_cases {desired : DesiredState} {world : SimulatedWorld}
    (hplannable : Plannable desired.elements world.observed)
    (hdesired : consistent desired.elements = true)
    (hobserved : consistent world.observed = true) :
    Applied desired.elements world.observed (actionsOf desired.elements world.observed)
        (applyActions desired world (actionsOf desired.elements world.observed)) ∨
      ∃ (a : PlannedAction) (d : StateElement), d ∈ desired.elements ∧
        d.kind = a.elementKind ∧ d.ref = a.elementRef ∧
        Unattachable desired.elements world.observed d ∧
        a.outcome .failed (some .dependencyAbsent) ∈
          (applyActions desired world (actionsOf desired.elements world.observed)).steps ∧
        ∀ s ∈ (applyActions desired world (actionsOf desired.elements world.observed)).steps,
          s.status = .failed → s = a.outcome .failed (some .dependencyAbsent) := by
  obtain ⟨-, hdnodup, -⟩ := consistent_iff.mp hdesired
  obtain ⟨-, honodup, -⟩ := consistent_iff.mp hobserved
  have hsources : ∀ a ∈ actionsOf desired.elements world.observed,
      ∃ source, (byRef desired.elements).get? a.elementRef = some source := by
    intro a ha
    obtain ⟨d, hd, href, -⟩ := action_spec hplannable ha
    exact ⟨d, (get?_byRef_iff hdnodup).mpr ⟨hd, href⟩⟩
  rcases (applied_nil desired.elements world).foldl hdnodup hsources with
    happlied | ⟨before, a, after, stoppedAt, source, hsplit, happlied, hsource, hmissing, hfailed,
      honly⟩
  · exact .inl happlied
  · right
    obtain ⟨hsource, href⟩ := (get?_byRef_iff hdnodup).mp hsource
    have ha : a ∈ actionsOf desired.elements world.observed := by
      rw [← List.nil_append (actionsOf desired.elements world.observed), hsplit]
      exact List.mem_append_right _ List.mem_cons_self
    obtain ⟨d, hd, hdref, hkind, -⟩ := action_spec hplannable ha
    obtain rfl : d = source := List.inj_on_of_nodup_map hdnodup hd hsource (hdref.trans href.symm)
    exact ⟨a, d, hd, hkind, href, happlied.unattachable hplannable hdesired honodup hsplit hd hkind
      hmissing, hfailed, honly⟩

/-- The verdict on an admitted observation of a reconciled world. -/
theorem Reconciled.verdict {scope : ReconciliationScope} {desired : DesiredState}
    {observed : List StateElement} {reobserved : ObservedState} {later : Datetime}
    (h : Reconciled desired.elements observed reobserved.elements)
    (hplannable : Plannable desired.elements observed) (hadmitted : DesiredAdmitted scope desired)
    (hobserved : consistent observed = true)
    (hfresh : ObservationAdmitted scope reobserved later) :
    ∃ verdict, verifyConvergence scope desired reobserved later = .ok verdict ∧
      verdict.state ≠ .unverifiable ∧
      verdict.residualCountsByKind = driftKindOrder.map (fun kind =>
        (kind.value,
          if kind = .unmanaged then (unmanaged desired.elements observed).length else 0)) ∧
      (verdict.state = .converged ↔ unmanaged desired.elements observed = []) := by
  obtain ⟨-, honodup, -⟩ := consistent_iff.mp hobserved
  have hverify := verifyInputs_eq_ok_iff.mpr ⟨hadmitted, hfresh,
    h.result_consistent hplannable hadmitted.elements hobserved, rfl⟩
  have hclassify := classifyDrift_eq_ok_iff.mpr
    ⟨show requireVerified (verifiedPair scope desired reobserved later) = .ok () from
      requireVerified_verifiedPair, rfl⟩
  have hperm := sortedBy_perm DriftFinding.sortKey
    (driftFindings desired.elements reobserved.elements)
  have hempty : sortedBy DriftFinding.sortKey
      (driftFindings desired.elements reobserved.elements) = [] ↔
      unmanaged desired.elements observed = [] := by
    rw [← List.length_eq_zero_iff, ← List.length_eq_zero_iff, hperm.length_eq,
      h.driftFindings_eq hplannable honodup, List.length_map,
      (h.unmanaged_perm hplannable honodup).length_eq]
  unfold verifyConvergence
  rw [hverify]
  refine ⟨_, by simp only [hclassify]; rfl, ?_, ?_, ?_⟩
  · show (if _ = [] then ConvergenceState.converged else .driftRemains) ≠ .unverifiable
    split <;> decide
  · refine List.map_congr_left fun kind _ => ?_
    rw [← h.countP_driftFindings hplannable honodup kind]
    exact congrArg _ (hperm.countP_eq _)
  · rw [← hempty]
    show (if _ = [] then ConvergenceState.converged else .driftRemains) = .converged ↔ _
    split
    · next hnil => exact iff_of_true rfl hnil
    · next hnil => exact iff_of_false (by decide) hnil

/-- A plan made for a world and executed on it fails at most at a node that names a network neither
desired nor there; without a failed step, a fresh and complete observation finds only the elements
the plan deferred. -/
theorem execute_converges {scope : ReconciliationScope} {desired : DesiredState}
    {world : SimulatedWorld} {instanceId provider collectorDigest : Str}
    {observedAt now executedAt : Datetime} {fidelity : ObservationFidelity}
    {pair : VerifiedStatePair} {drift : DriftReport} {plan : ReconciliationPlan}
    {intent : Option ResetIntent}
    (hplan : planFromStates scope desired
      (observe world instanceId provider collectorDigest observedAt fidelity) now =
        .ok (pair, drift, plan))
    (hintent : Authorized plan intent executedAt) :
    ∃ world' report, execute scope plan desired world intent executedAt = .ok (world', report) ∧
      (∀ s ∈ report.steps, s.status = .failed → s.failureReason = some .dependencyAbsent ∧
        ∃ d ∈ desired.elements, d.kind = s.elementKind ∧ d.ref = s.elementRef ∧
          Unattachable desired.elements world.observed d) ∧
      ((∀ s ∈ report.steps, s.status ≠ .failed) →
        ∀ instanceId' provider' collectorDigest' observedAt' fidelity' later,
          ObservationAdmitted scope
            (observe world' instanceId' provider' collectorDigest' observedAt' fidelity') later →
          ∃ verdict, verifyConvergence scope desired
              (observe world' instanceId' provider' collectorDigest' observedAt' fidelity') later =
                .ok verdict ∧
            verdict.state ≠ .unverifiable ∧
            verdict.residualCountsByKind = driftKindOrder.map (fun kind =>
              (kind.value, if kind = .unmanaged then plan.deferred.length else 0)) ∧
            (verdict.state = .converged ↔ plan.deferred = [])) := by
  obtain ⟨hadmitted, -, hobserved, rfl, rfl, hreport, rfl⟩ := planFromStates_eq_ok_iff.mp hplan
  have hobserved : consistent world.observed = true := hobserved
  have hplannable : Plannable desired.elements world.observed := fun f hf =>
    ⟨hreport.no_conflict f (mem_sortedBy.mpr hf), hreport.determinate f (mem_sortedBy.mpr hf)⟩
  have hplanned := planned_planOf (verifiedPair scope desired _ now) hadmitted hreport
  have hauthorized := hintent.require hplanned.integrity
  refine ⟨_, _, execute_eq_ok_iff.mpr ⟨hauthorized, hplanned, rfl, rfl⟩, ?_⟩
  have hdeferred := length_deferredElements (sortedBy DriftFinding.sortKey
    (driftFindings desired.elements world.observed))
  rw [(sortedBy_perm _ _).countP_eq, countP_unmanaged_driftFindings] at hdeferred
  rcases applyActions_cases hplannable hadmitted.elements hobserved with
    happlied | ⟨a, d, hd, hkind, href, hunattachable, hfailed, honly⟩
  · refine ⟨?_, ?_⟩
    · intro s hs hfailed
      have happ : s.status = .applied := happlied.steps s hs
      rw [hfailed] at happ
      cases happ
    · intro _ instanceId' provider' collectorDigest' observedAt' fidelity' later hfresh
      obtain ⟨-, hdnodup, -⟩ := consistent_iff.mp hadmitted.elements
      obtain ⟨-, honodup, -⟩ := consistent_iff.mp hobserved
      obtain ⟨verdict, hverdict, hstate, hresidual, hconverged⟩ :=
        @Reconciled.verdict _ _ _ (observe _ instanceId' provider' collectorDigest' observedAt'
          fidelity') _ (happlied.reconciled hdnodup honodup) hplannable hadmitted hobserved hfresh
      refine ⟨verdict, hverdict, hstate, ?_, ?_⟩
      · rw [hresidual, ← hdeferred]
        rfl
      · rw [hconverged, ← List.length_eq_zero_iff, ← hdeferred, List.length_eq_zero_iff]
        rfl
  · refine ⟨?_, ?_⟩
    · intro s hs hsfailed
      rw [honly s hs hsfailed]
      exact ⟨rfl, d, hd, hkind, href, hunattachable⟩
    · intro hnone
      exact absurd rfl (hnone _ hfailed)

/-! ### One network created -/

def emptyWorld : SimulatedWorld := {}

def samplePlan : ReconciliationPlan := planOf samplePair (driftReport samplePair)

/-- An hour after the sample instant. -/
def sampleLater : Datetime := ⟨738000 * microsPerDay + 3600 * microsPerSecond, by decide⟩

theorem samplePlan_planned :
    planFromStates sampleScope sampleDesired (sampleObserve emptyWorld) sampleNow =
      .ok (samplePair, driftReport samplePair, samplePlan) := by
  refine planFromStates_eq_ok_iff.mpr ⟨sampleDesired_admitted, emptyObservation_admitted, rfl, rfl,
    rfl, ⟨rfl, rfl, ?_, ?_, ?_⟩, rfl⟩ <;> decide

/-- The intent for the sample plan authorizes it within its window. -/
theorem sampleIntent_authorizes :
    ∃ intent, buildResetIntent samplePlan .instanceWide sampleNow sampleLater = .ok intent ∧
      Authorized samplePlan (some intent) sampleNow := by
  have hwindow : sampleNow.micros < sampleLater.micros := by decide
  have hactions : samplePlan.actions.isEmpty = false := by decide
  have hdeferred : samplePlan.deferred.isEmpty = true := by decide
  have hissued : Datetime.fromIsoformat sampleNow.isoformat = some sampleNow.micros := by
    with_unfolding_all decide
  have hexpires : Datetime.fromIsoformat sampleLater.isoformat = some sampleLater.micros := by
    with_unfolding_all decide
  unfold buildResetIntent
  simp only [hwindow, hactions, hdeferred, require, decide_true, Bool.not_false, Bool.not_true,
    Bool.and_false, if_true, bind, Except.bind, pure, Except.pure, Except.ok.injEq]
  refine ⟨_, rfl, ?_⟩
  exact verifyResetIntent_eq_ok_iff.mpr ⟨rfl, rfl, _, hissued, by decide, _, hexpires, by decide⟩

/-- The network is created, and the next observation finds nothing. -/
theorem emptyWorld_converges :
    ∃ intent world' report verdict, Authorized samplePlan (some intent) sampleNow ∧
      planFromStates sampleScope sampleDesired (sampleObserve emptyWorld) sampleNow =
        .ok (samplePair, driftReport samplePair, samplePlan) ∧
      execute sampleScope samplePlan sampleDesired emptyWorld (some intent) sampleNow =
        .ok (world', report) ∧
      verifyConvergence sampleScope sampleDesired (sampleObserve world') sampleNow = .ok verdict ∧
      verdict.state = .converged := by
  obtain ⟨intent, -, hintent⟩ := sampleIntent_authorizes
  obtain ⟨world', report, hrun, hfailed, hconverges⟩ := execute_converges samplePlan_planned hintent
  have hnone : ∀ s ∈ report.steps, s.status ≠ .failed := by
    intro s hs hstatus
    -- only a node can fail, and the one element desired is a network
    obtain ⟨-, d, hd, -, -, hkind, -⟩ := hfailed s hs hstatus
    rw [List.mem_singleton.mp hd] at hkind
    cases hkind
  have hfresh : ObservationAdmitted sampleScope (sampleObserve world') sampleNow :=
    ⟨rfl, rfl, emptyObservation_admitted.provenance, rfl, emptyObservation_admitted.not_ahead,
      emptyObservation_admitted.not_stale⟩
  obtain ⟨verdict, hverdict, -, -, hstate⟩ := hconverges hnone _ _ _ _ _ _ hfresh
  exact ⟨intent, world', report, verdict, hintent, samplePlan_planned, hrun, hverdict,
    hstate.mpr (by decide)⟩

end Secp.Reconciliation
