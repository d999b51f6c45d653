import Secp.Reconciliation.Classification
import Secp.Reconciliation.Convergence

/-!
# What a plan covers

The planner gathers the findings by element and acts once on each element that is missing or differs.
The actions of a plan are read off the two states: a create for a missing element, an update with all its
reasons for one that differs, and none on anything else; what nobody desires is deferred.
-/

namespace Secp.Reconciliation

open Secp.Python

/-! ## The actions of two states -/

/-- The observed element of the same reference and kind has another value of some facet. -/
def Diverges (observed : List StateElement) (d : StateElement) : Prop :=
  ∃ facet ∈ d.facets, Differs observed d facet

instance (observed : List StateElement) (d : StateElement) : Decidable (Diverges observed d) :=
  inferInstanceAs (Decidable (∃ facet ∈ d.facets, _))

/-- The create of a missing element. -/
def StateElement.create (d : StateElement) : PlannedAction :=
  ⟨.create, d.kind, d.ref, [.elementAbsent]⟩

/-- The update of an element that differs, for each facet it differs in. -/
def StateElement.update (observed : List StateElement) (d : StateElement) : PlannedAction :=
  ⟨.update, d.kind, d.ref, sortedBy (fun r => driftReasonOrder.idxOf r)
    ((d.facets.filter fun facet => Differs observed d facet).map fun facet => .facetMismatch facet.1)⟩

/-- The desired elements a plan has to act on. -/
def drifting (desired observed : List StateElement) : List StateElement :=
  desired.filter fun d => Absent observed d ∨ Diverges observed d

def expectedActions (desired observed : List StateElement) : List PlannedAction :=
  (drifting desired observed).map fun d => if Absent observed d then d.create else d.update observed

section
variable {desired observed : List StateElement} {d : StateElement} {a : PlannedAction}

theorem mem_drifting : d ∈ drifting desired observed ↔
    d ∈ desired ∧ (Absent observed d ∨ Diverges observed d) := by
  simp [drifting]

theorem not_absent_of_diverges (h : Diverges observed d) : ¬Absent observed d := by
  intro habsent
  obtain ⟨facet, -, hdiffers⟩ := h
  exact not_differs_of_absent habsent hdiffers

theorem elementRef_expected (d : StateElement) :
    (if Absent observed d then d.create else d.update observed).elementRef = d.ref := by
  split <;> rfl

theorem nodup_expectedActions (hnodup : (desired.map StateElement.ref).Nodup) :
    (expectedActions desired observed).Nodup := by
  refine List.Nodup.of_map PlannedAction.elementRef ?_
  rw [expectedActions, List.map_map]
  have hrefs : (PlannedAction.elementRef ∘ fun d : StateElement =>
      if Absent observed d then d.create else d.update observed) = StateElement.ref :=
    funext elementRef_expected
  rw [hrefs]
  exact hnodup.sublist (List.filter_sublist.map _)

/-! ## Reasons -/

/-- An action carries the reasons of all findings about its element. -/
theorem reasons_plannedActions {findings : List DriftFinding} (ha : a ∈ plannedActions findings) :
    a.reasons = sortedBy (fun r => driftReasonOrder.idxOf r)
      (((findings.filter fun f => f.kind ≠ .unmanaged).filter
        fun f => f.element = (a.elementKind, a.elementRef)).map DriftFinding.reason) := by
  obtain ⟨⟨key, group⟩, hentry, rfl⟩ := List.mem_map.mp (mem_sortedBy.mp ha)
  obtain ⟨-, rfl⟩ := Dict.mem_groupBy.mp hentry
  rfl

theorem nodup_plannedActions (findings : List DriftFinding) : (plannedActions findings).Nodup := by
  refine (sortedBy_perm _ _).nodup_iff.mpr ?_
  refine List.Nodup.of_map (fun a : PlannedAction => (a.elementKind, a.elementRef)) ?_
  rw [List.map_map]
  exact Dict.nodup_keys_groupBy _ _

/-- The findings about one desired element are those made for it. -/
theorem filter_driftFindings (hnodup : (desired.map StateElement.ref).Nodup) (hd : d ∈ desired) :
    ((driftFindings desired observed).filter fun f => f.kind ≠ .unmanaged).filter
        (fun f => f.element = (d.kind, d.ref)) = classifyDesired (byRef observed) d := by
  have hunmanaged : (((unmanaged desired observed).map StateElement.unmanaged).filter
      fun f => f.kind ≠ .unmanaged) = [] := by
    refine List.filter_eq_nil_iff.mpr fun f hf => ?_
    obtain ⟨e, -, rfl⟩ := List.mem_map.mp hf
    simp [StateElement.unmanaged]
  have hmanaged : ((desired.flatMap (classifyDesired (byRef observed))).filter
      fun f => f.kind ≠ .unmanaged) = desired.flatMap (classifyDesired (byRef observed)) := by
    refine List.filter_eq_self.mpr fun f hf => ?_
    obtain ⟨e, -, hclass⟩ := List.mem_flatMap.mp hf
    obtain ⟨-, hcases⟩ := mem_classifyDesired hclass
    rcases hcases with ⟨h, -⟩ | ⟨h, -⟩ | h | h <;> simp [h]
  have hothers : ∀ elements : List StateElement, (∀ e ∈ elements, e.ref ≠ d.ref) →
      (elements.flatMap (classifyDesired (byRef observed))).filter
        (fun f => f.element = (d.kind, d.ref)) = [] := by
    intro elements hrefs
    refine List.filter_eq_nil_iff.mpr fun f hf hown => ?_
    obtain ⟨e, he, hclass⟩ := List.mem_flatMap.mp hf
    obtain ⟨helement, -⟩ := mem_classifyDesired hclass
    exact hrefs e he (Prod.mk.inj (helement.symm.trans (of_decide_eq_true hown))).2
  have hown : (classifyDesired (byRef observed) d).filter
      (fun f => f.element = (d.kind, d.ref)) = classifyDesired (byRef observed) d :=
    List.filter_eq_self.mpr fun f hf => decide_eq_true (mem_classifyDesired hf).1
  show ((desired.flatMap (classifyDesired (byRef observed)) ++
    (unmanaged desired observed).map StateElement.unmanaged).filter _).filter _ = _
  rw [List.filter_append, hunmanaged, hmanaged, List.append_nil]
  obtain ⟨before, after, rfl⟩ := List.append_of_mem hd
  rw [List.map_append, List.map_cons, List.nodup_middle, List.nodup_cons, List.mem_append,
    not_or] at hnodup
  rw [List.flatMap_append, List.flatMap_cons, List.filter_append, List.filter_append, hown,
    hothers before fun e he href => hnodup.1.1 (href ▸ List.mem_map_of_mem he),
    hothers after fun e he href => hnodup.1.2 (href ▸ List.mem_map_of_mem he),
    List.nil_append, List.append_nil]

/-! ## Exactness -/

/-- What a plannable pair finds at a desired element. -/
theorem Plannable.classifyDesired_perm (h : Plannable desired observed)
    (hnodup : (observed.map StateElement.ref).Nodup)
    (hobserved : ∀ o ∈ observed, o.wellFormed = true) (hd : d ∈ desired) (hwell : d.wellFormed = true) :
    (classifyDesired (byRef observed) d).Perm
      ((if Absent observed d then [d.missing] else []) ++
        (d.facets.filter fun facet => Differs observed d facet).map
          fun facet => d.divergent facet.1) := by
  have hperm := Reconciliation.classifyDesired_perm hnodup hobserved hwell
  have hfound : ∀ f, f ∈ (if Conflicted observed d then [d.conflict] else []) ++
      (d.facets.filter fun facet => Unevidenced observed d facet).map (fun _ => d.indeterminate) →
        f ∈ driftFindings desired observed := by
    intro f hf
    refine mem_driftFindings.mpr (.inl ⟨d, hd, hperm.mem_iff.mpr ?_⟩)
    refine List.mem_append_right _ ?_
    rw [← List.append_assoc]
    exact List.mem_append_left _ hf
  have hconflicted : ¬Conflicted observed d := by
    intro hc
    refine (h d.conflict (hfound _ (List.mem_append_left _ ?_))).1 rfl
    rw [if_pos hc]
    exact List.mem_singleton_self _
  have hunevidenced : (d.facets.filter fun facet => Unevidenced observed d facet) = [] := by
    refine List.eq_nil_iff_forall_not_mem.mpr fun facet hfacet => ?_
    exact (h d.indeterminate (hfound _ (List.mem_append_right _
      (List.mem_map_of_mem (f := fun _ => d.indeterminate) hfacet)))).2 rfl
  rw [if_neg hconflicted, hunevidenced] at hperm
  exact hperm

theorem Plannable.reasons (h : Plannable desired observed)
    (hdesired : consistent desired = true) (hobserved : consistent observed = true)
    (ha : a ∈ actionsOf desired observed) (hd : d ∈ desired)
    (helement : (a.elementKind, a.elementRef) = (d.kind, d.ref)) :
    a.reasons = sortedBy (fun r => driftReasonOrder.idxOf r)
      (((if Absent observed d then [d.missing] else []) ++
        (d.facets.filter fun facet => Differs observed d facet).map
          fun facet => d.divergent facet.1).map DriftFinding.reason) := by
  obtain ⟨hwell, hrefs, -⟩ := consistent_iff.mp hdesired
  obtain ⟨hwell', hnodup, -⟩ := consistent_iff.mp hobserved
  rw [reasons_plannedActions ha, helement]
  have hinj : ∀ r r', driftReasonOrder.idxOf r = driftReasonOrder.idxOf r' → r = r' :=
    fun _ _ hsame => DriftReason.idxOf_injective hsame
  refine sortedBy_eq_of_perm (fun r _ r' _ => hinj r r') (List.Perm.map _ ?_)
  refine (((sortedBy_perm _ _).filter _).filter _).trans ?_
  rw [filter_driftFindings hrefs hd]
  exact h.classifyDesired_perm hnodup hwell' hd (hwell d hd)

/-- Every action is the one its element calls for. -/
theorem Plannable.action_eq (h : Plannable desired observed)
    (hdesired : consistent desired = true) (hobserved : consistent observed = true)
    (ha : a ∈ actionsOf desired observed) :
    ∃ d ∈ drifting desired observed, d.ref = a.elementRef ∧
      a = if Absent observed d then d.create else d.update observed := by
  obtain ⟨hwell, hrefs, -⟩ := consistent_iff.mp hdesired
  obtain ⟨hwell', hnodup, -⟩ := consistent_iff.mp hobserved
  obtain ⟨d, hd, href, hkind, hcases⟩ := action_spec h ha
  have helement : (a.elementKind, a.elementRef) = (d.kind, d.ref) := by rw [href, hkind]
  have hreasons := h.reasons hdesired hobserved ha hd helement
  obtain ⟨kind, elementKind, elementRef, reasons⟩ := a
  obtain ⟨rfl, rfl⟩ := Prod.mk.inj helement
  dsimp only at hreasons hcases
  rcases hcases with ⟨rfl, hget⟩ | ⟨rfl, -, hget⟩
  · have habsent : Absent observed d := (get?_byRef_eq_none_iff hnodup).mp hget
    have hnone : (d.facets.filter fun facet => Differs observed d facet) = [] :=
      List.filter_eq_nil_iff.mpr fun facet _ hdiffers =>
        not_differs_of_absent habsent (of_decide_eq_true hdiffers)
    refine ⟨d, mem_drifting.mpr ⟨hd, .inl habsent⟩, rfl, ?_⟩
    rw [if_pos habsent, hnone] at hreasons
    rw [if_pos habsent, hreasons]
    rfl
  · have habsent : ¬Absent observed d := mt (get?_byRef_eq_none_iff hnodup).mpr hget
    rw [if_neg habsent, List.nil_append, List.map_map] at hreasons
    refine ⟨d, mem_drifting.mpr ⟨hd, .inr ?_⟩, rfl, ?_⟩
    · obtain ⟨f, hf, hmanaged, hown, -⟩ := mem_plannedActions ha
      have hclass : f ∈ classifyDesired (byRef observed) d := by
        rw [← filter_driftFindings hrefs hd]
        refine List.mem_filter.mpr ⟨List.mem_filter.mpr ⟨mem_sortedBy.mp hf, ?_⟩, ?_⟩
        · exact decide_eq_true hmanaged
        · exact decide_eq_true hown
      have hfound := (h.classifyDesired_perm hnodup hwell' hd (hwell d hd)).mem_iff.mp hclass
      rw [if_neg habsent, List.nil_append] at hfound
      obtain ⟨facet, hfacet, -⟩ := List.mem_map.mp hfound
      obtain ⟨hmem, hdiffers⟩ := List.mem_filter.mp hfacet
      exact ⟨facet, hmem, of_decide_eq_true hdiffers⟩
    · rw [if_neg habsent, hreasons]
      rfl

/-- The actions of a plannable pair are those its drifting elements call for, once each. -/
theorem Plannable.actions_perm (h : Plannable desired observed)
    (hdesired : consistent desired = true) (hobserved : consistent observed = true) :
    (actionsOf desired observed).Perm (expectedActions desired observed) := by
  obtain ⟨hwell, hrefs, -⟩ := consistent_iff.mp hdesired
  obtain ⟨hwell', hnodup, -⟩ := consistent_iff.mp hobserved
  refine (List.perm_ext_iff_of_nodup (nodup_plannedActions _) (nodup_expectedActions hrefs)).mpr
    fun a => ⟨fun ha => ?_, fun ha => ?_⟩
  · obtain ⟨d, hd, -, rfl⟩ := h.action_eq hdesired hobserved ha
    exact List.mem_map.mpr ⟨d, hd, rfl⟩
  · obtain ⟨d, hd, rfl⟩ := List.mem_map.mp ha
    obtain ⟨hmem, hdrift⟩ := mem_drifting.mp hd
    have hfound := h.classifyDesired_perm hnodup hwell' hmem (hwell d hmem)
    have hsome : classifyDesired (byRef observed) d ≠ [] := by
      intro hnone
      rw [hnone] at hfound
      have hempty := List.append_eq_nil_iff.mp (List.nil_perm.mp hfound)
      rcases hdrift with habsent | ⟨facet, hfacet, hdiffers⟩
      · rw [if_pos habsent] at hempty
        cases hempty.1
      · have hmem' : facet ∈ d.facets.filter fun facet => Differs observed d facet :=
          List.mem_filter.mpr ⟨hfacet, decide_eq_true hdiffers⟩
        rw [List.map_eq_nil_iff.mp hempty.2] at hmem'
        cases hmem'
    obtain ⟨a, ha, href, -⟩ := exists_action hmem hsome
    obtain ⟨d', hd', href', heq⟩ := h.action_eq hdesired hobserved ha
    have hsame : d' = d := eq_of_ref hrefs hmem (mem_drifting.mp hd').1 (href'.trans href)
    rw [hsame] at heq
    rw [← heq]
    exact ha

/-! ## Order -/

/-- Creates come first, and of one kind of action networks before nodes before edges. -/
def Precedes (a b : PlannedAction) : Prop :=
  a.kind = .create ∧ b.kind = .update ∨
    a.kind = b.kind ∧ elementKindOrder.idxOf a.elementKind ≤ elementKindOrder.idxOf b.elementKind

theorem precedes_of_sortKey {b : PlannedAction}
    (h : (compare a.sortKey b.sortKey).isLE = true) : Precedes a b := by
  rcases sortKey_le h with hlt | ⟨hsame, hle⟩
  · left
    revert hlt
    cases a.kind <;> cases b.kind <;> decide
  · refine .inr ⟨?_, hle⟩
    revert hsame
    cases a.kind <;> cases b.kind <;> decide

theorem ordered_plannedActions (findings : List DriftFinding) :
    (plannedActions findings).Pairwise Precedes := by
  unfold plannedActions
  exact (pairwise_sortedBy _ _).imp fun {a b} h => @precedes_of_sortKey a b h

/-- Behind an action on an edge stands no create of a node or a network. -/
theorem mem_before_of_create {actions before after : List PlannedAction} {b : PlannedAction}
    (hordered : actions.Pairwise Precedes) (hsplit : actions = before ++ a :: after)
    (hedge : a.elementKind = .edge) (hb : b ∈ actions) (hcreate : b.kind = .create)
    (hkind : b.elementKind ≠ .edge) : b ∈ before := by
  have hnot : ¬Precedes a b := by
    rintro (⟨-, hupdate⟩ | ⟨-, hle⟩)
    · rw [hcreate] at hupdate
      cases hupdate
    · rw [hedge] at hle
      revert hle hkind
      cases b.elementKind <;> decide
  rw [hsplit] at hordered hb
  rcases List.mem_append.mp hb with hbefore | hrest
  · exact hbefore
  · rcases List.mem_cons.mp hrest with rfl | hafter
    · exact absurd hedge hkind
    · have htail := (List.pairwise_append.mp hordered).2.1
      exact absurd ((List.pairwise_cons.mp htail).1 _ hafter) hnot

/-- An endpoint of a created edge is there already, or its create comes before. -/
theorem Plannable.endpoint_before (h : Plannable desired observed)
    (hdesired : consistent desired = true) (hobserved : consistent observed = true)
    {before after : List PlannedAction} {endpoint : Str}
    (hsplit : actionsOf desired observed = before ++ a :: after) (hedge : a.elementKind = .edge)
    (hpresent : endpointPresent desired endpoint = true) :
    (∃ b ∈ before, b.kind = .create ∧ b.elementRef = endpoint) ∨
      ∃ o ∈ observed, o.ref = endpoint := by
  obtain ⟨n, hn, hkind, href⟩ := endpointPresent_iff.mp hpresent
  by_cases habsent : Absent observed n
  · left
    have hmem : n.create ∈ actionsOf desired observed := by
      refine (h.actions_perm hdesired hobserved).mem_iff.mpr (List.mem_map.mpr
        ⟨n, mem_drifting.mpr ⟨hn, .inl habsent⟩, if_pos habsent⟩)
    refine ⟨n.create, mem_before_of_create (ordered_plannedActions _) hsplit hedge hmem rfl ?_, rfl,
      href⟩
    show n.kind ≠ .edge
    rcases hkind with hkind | hkind
    · rw [hkind]
      decide
    · rw [hkind]
      decide
  · right
    unfold Absent at habsent
    push Not at habsent
    obtain ⟨o, ho, horef⟩ := habsent
    exact ⟨o, ho, horef.trans href⟩

end

/-! ## The plan of a verified pair -/

/-- What a plan does with the drift of two states. -/
structure Covers (desired observed : List StateElement) (plan : ReconciliationPlan) : Prop where
  actions : plan.actions.Perm (expectedActions desired observed)
  deferred : plan.deferred.length = (observed.filter fun o => Unmanaged desired o).length
  ordered : plan.actions.Pairwise Precedes
  endpoints : ∀ before a after, plan.actions = before ++ a :: after → a.kind = .create →
    a.elementKind = .edge → ∃ source target, decodeEdgeRef a.elementRef = some (source, target) ∧
      (∀ endpoint, endpoint = source ∨ endpoint = target →
        (∃ b ∈ before, b.kind = .create ∧ b.elementRef = endpoint) ∨
          ∃ o ∈ observed, o.ref = endpoint) ∧
      ∀ b ∈ plan.actions, b.kind = .create → b.elementRef = source ∨ b.elementRef = target →
        b ∈ before

theorem covers_planOf {pair : VerifiedStatePair}
    (h : Plannable pair.desired.elements pair.observed.elements)
    (hdesired : consistent pair.desired.elements = true)
    (hobserved : consistent pair.observed.elements = true) :
    Covers pair.desired.elements pair.observed.elements (planOf pair (driftReport pair)) := by
  obtain ⟨-, hrefs, hattached⟩ := consistent_iff.mp hdesired
  refine ⟨h.actions_perm hdesired hobserved, ?_, ordered_plannedActions _,
    fun before a after hsplit hcreate hedge => ?_⟩
  · show (deferredElements (sortedBy _ _)).length = _
    rw [length_deferredElements, (sortedBy_perm _ _).countP_eq, countP_unmanaged_driftFindings]
    refine congrArg List.length (List.filter_congr fun o _ => decide_eq_decide.mpr ?_)
    rw [List.mem_map]
    exact ⟨fun h d hd href => h ⟨d, hd, href⟩, fun h hmem => hmem.elim fun d hd => h d hd.1 hd.2⟩
  · have ha : a ∈ actionsOf pair.desired.elements pair.observed.elements := by
      rw [show actionsOf _ _ = _ from hsplit]
      exact List.mem_append_right _ List.mem_cons_self
    obtain ⟨d, hd, href, hkind, -⟩ := action_spec h ha
    obtain ⟨source, target, hdecode, hsource, htarget⟩ :=
      attached_edge (hkind.trans hedge) (hattached d hd)
    rw [href] at hdecode
    have hends : ∀ endpoint, endpoint = source ∨ endpoint = target →
        endpointPresent pair.desired.elements endpoint = true := by
      rintro endpoint (rfl | rfl)
      · exact hsource
      · exact htarget
    refine ⟨source, target, hdecode, fun endpoint hend =>
      h.endpoint_before hdesired hobserved hsplit hedge (hends endpoint hend),
      fun b hb hbcreate hbend => ?_⟩
    obtain ⟨e, he, heref, hekind, -⟩ := action_spec h hb
    obtain ⟨n, hn, hnkind, hnref⟩ := endpointPresent_iff.mp (hends b.elementRef hbend)
    have hsame : e = n := eq_of_ref hrefs hn he (heref.trans hnref.symm)
    refine mem_before_of_create (ordered_plannedActions _) hsplit hedge hb hbcreate ?_
    rw [← hekind, hsame]
    rcases hnkind with hnkind | hnkind
    · rw [hnkind]
      decide
    · rw [hnkind]
      decide

theorem require_bind {α : Type} (condition : Bool) (code : RefusalCode) (rest : Unit → Guarded α) :
    (require condition code >>= rest) = if condition = true then rest () else .error code := by
  cases condition <;> rfl

/-- The gates of the planner, for the report of the pair itself. -/
theorem planReconciliation_own {pair : VerifiedStatePair} (hverified : requireVerified pair = .ok ()) :
    planReconciliation pair (driftReport pair) =
      if ∃ f ∈ (driftReport pair).findings, f.kind = .identityConflict then
        .error .identityConflictUnresolvable
      else if ∃ f ∈ (driftReport pair).findings, f.kind = .indeterminate then
        .error .driftIndeterminate
      else if pair.scope.maxActions <
          (actionsOf pair.desired.elements pair.observed.elements).length then
        .error .changeBudgetExceeded
      else .ok (planOf pair (driftReport pair)) := by
  have hdigests : (decide ((driftReport pair).desiredDigest = desiredStateDigest pair.desired) &&
      decide ((driftReport pair).observedDigest = observedStateDigest pair.observed)) = true := by
    rw [Bool.and_eq_true]
    exact ⟨decide_eq_true rfl, decide_eq_true rfl⟩
  unfold planReconciliation
  rw [hverified]
  show (require _ _ >>= fun _ => _) = _
  rw [require_bind, if_pos hdigests, require_bind, require_bind, require_bind]
  simp only [decide_eq_true_eq, mem_kindsPresent]
  by_cases hconflict : ∃ f ∈ (driftReport pair).findings, f.kind = .identityConflict
  · rw [if_neg (not_not.mpr hconflict), if_pos hconflict]
  · rw [if_pos hconflict, if_neg hconflict]
    by_cases hindeterminate : ∃ f ∈ (driftReport pair).findings, f.kind = .indeterminate
    · rw [if_neg (not_not.mpr hindeterminate), if_pos hindeterminate]
    · rw [if_pos hindeterminate, if_neg hindeterminate]
      by_cases hbudget : pair.scope.maxActions <
          (actionsOf pair.desired.elements pair.observed.elements).length
      · rw [if_pos hbudget]
        exact if_neg (not_le.mpr hbudget)
      · rw [if_neg hbudget]
        exact if_pos (not_lt.mp hbudget)

/-- A verified pair is planned from its own drift: a conflict is refused first and then what is
indeterminate, then more drifting elements than the budget admits, and otherwise the plan covers the
drift. -/
theorem plan_covers_drift {scope : ReconciliationScope} {desired : DesiredState}
    {observed : ObservedState} {now : Datetime} {pair : VerifiedStatePair} {report : DriftReport}
    (hpair : verifyInputs scope desired observed now = .ok pair)
    (hreport : classifyDrift pair = .ok report) :
    ((∃ f ∈ report.findings, f.kind = .identityConflict) →
      planReconciliation pair report = .error .identityConflictUnresolvable) ∧
    ((∀ f ∈ report.findings, f.kind ≠ .identityConflict) →
      (∃ f ∈ report.findings, f.kind = .indeterminate) →
        planReconciliation pair report = .error .driftIndeterminate) ∧
    ((∀ f ∈ report.findings, f.kind ≠ .identityConflict ∧ f.kind ≠ .indeterminate) →
      if scope.maxActions < (drifting desired.elements observed.elements).length then
        planReconciliation pair report = .error .changeBudgetExceeded
      else ∃ plan, planReconciliation pair report = .ok plan ∧
        Covers desired.elements observed.elements plan) := by
  obtain ⟨hdesired, -, hobserved, rfl⟩ := verifyInputs_eq_ok_iff.mp hpair
  obtain ⟨hverified, rfl⟩ := classifyDrift_eq_ok_iff.mp hreport
  rw [planReconciliation_own hverified]
  refine ⟨fun hconflict => if_pos hconflict, fun hconflict hindeterminate => ?_, fun h => ?_⟩
  · have hnone : ¬∃ f ∈ (driftReport (verifiedPair scope desired observed now)).findings,
        f.kind = .identityConflict := by
      rintro ⟨f, hf, hkind⟩
      exact hconflict f hf hkind
    rw [if_neg hnone, if_pos hindeterminate]
  · have hplannable : Plannable desired.elements observed.elements :=
      fun f hf => h f (mem_sortedBy.mpr hf)
    have hlength : (actionsOf desired.elements observed.elements).length =
        (drifting desired.elements observed.elements).length := by
      rw [(hplannable.actions_perm hdesired.elements hobserved).length_eq, expectedActions,
        List.length_map]
    have hnone : ∀ kind, kind = .identityConflict ∨ kind = .indeterminate →
        ¬∃ f ∈ (driftReport (verifiedPair scope desired observed now)).findings, f.kind = kind := by
      rintro kind hkind ⟨f, hf, rfl⟩
      rcases hkind with hkind | hkind
      · exact (h f hf).1 hkind
      · exact (h f hf).2 hkind
    rw [if_neg (hnone _ (.inl rfl)), if_neg (hnone _ (.inr rfl))]
    show if scope.maxActions < (drifting desired.elements observed.elements).length then
        (if scope.maxActions < (actionsOf desired.elements observed.elements).length then _ else _)
          = _
      else ∃ plan, (if scope.maxActions <
        (actionsOf desired.elements observed.elements).length then _ else _) = _ ∧ _
    rw [hlength]
    split
    · rfl
    · exact ⟨_, rfl, @covers_planOf (verifiedPair scope desired observed now) hplannable
        hdesired.elements hobserved⟩

theorem samplePair_covered : ∃ plan, planReconciliation samplePair (driftReport samplePair) = .ok plan ∧
    Covers sampleDesired.elements emptyObservation.elements plan := by
  have hpair : verifyInputs sampleScope sampleDesired emptyObservation sampleNow = .ok samplePair :=
    verifyInputs_eq_ok_iff.mpr ⟨sampleDesired_admitted, emptyObservation_admitted, rfl, rfl⟩
  have hreport : classifyDrift samplePair = .ok (driftReport samplePair) :=
    classifyDrift_eq_ok_iff.mpr ⟨requireVerified_verifiedPair, rfl⟩
  have hfindings : ∀ f ∈ (driftReport samplePair).findings,
      f.kind ≠ .identityConflict ∧ f.kind ≠ .indeterminate := by
    decide
  have hplan := (plan_covers_drift hpair hreport).2.2 hfindings
  rwa [if_neg (by decide)] at hplan

end Secp.Reconciliation
