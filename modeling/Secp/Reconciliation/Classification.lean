import Mathlib.Data.List.Perm.Basic
import Secp.Reconciliation.Actions

/-!
# What the classifier reports

The findings of a pair, read off the two states: what each desired element and each of its facets finds
on the other side, and what nobody desired. The report lists exactly these, and lists them in an order
that depends on the findings alone.
-/

namespace Secp.Reconciliation

open Secp.Python

/-! ## The findings of two states -/

/-- No observed element has the reference of a desired one. -/
def Absent (observed : List StateElement) (d : StateElement) : Prop := ∀ o ∈ observed, o.ref ≠ d.ref

/-- The reference of a desired element is that of an observed one of another kind. -/
def Conflicted (observed : List StateElement) (d : StateElement) : Prop :=
  ∃ o ∈ observed, o.ref = d.ref ∧ o.kind ≠ d.kind

/-- The observed element of the same reference and kind says nothing of a facet. -/
def Unevidenced (observed : List StateElement) (d : StateElement) (facet : FacetName × Str) : Prop :=
  ∃ o ∈ observed, (o.ref = d.ref ∧ o.kind = d.kind) ∧ ∀ other ∈ o.facets, other.1 ≠ facet.1

/-- The observed element of the same reference and kind has another value of a facet. -/
def Differs (observed : List StateElement) (d : StateElement) (facet : FacetName × Str) : Prop :=
  ∃ o ∈ observed, (o.ref = d.ref ∧ o.kind = d.kind) ∧
    ∃ other ∈ o.facets, other.1 = facet.1 ∧ other.2 ≠ facet.2

/-- No desired element has the reference of an observed one. -/
def Unmanaged (desired : List StateElement) (o : StateElement) : Prop := ∀ d ∈ desired, d.ref ≠ o.ref

section
variable (desired observed : List StateElement) (d o : StateElement) (facet : FacetName × Str)

instance : Decidable (Absent observed d) := inferInstanceAs (Decidable (∀ _ ∈ _, _))

instance : Decidable (Conflicted observed d) := inferInstanceAs (Decidable (∃ _ ∈ _, _))

instance : Decidable (Unevidenced observed d facet) := inferInstanceAs (Decidable (∃ _ ∈ _, _))

instance : Decidable (Differs observed d facet) := inferInstanceAs (Decidable (∃ _ ∈ _, _))

instance : Decidable (Unmanaged desired o) := inferInstanceAs (Decidable (∀ _ ∈ _, _))

end

def StateElement.missing (d : StateElement) : DriftFinding :=
  ⟨.missing, .elementAbsent, d.kind, d.ref⟩

def StateElement.conflict (d : StateElement) : DriftFinding :=
  ⟨.identityConflict, .elementKindConflict, d.kind, d.ref⟩

def StateElement.indeterminate (d : StateElement) : DriftFinding :=
  ⟨.indeterminate, .facetEvidenceAbsent, d.kind, d.ref⟩

def StateElement.divergent (d : StateElement) (facet : FacetName) : DriftFinding :=
  ⟨.divergent, .facetMismatch facet, d.kind, d.ref⟩

def StateElement.unmanaged (o : StateElement) : DriftFinding :=
  ⟨.unmanaged, .elementUnmanaged, o.kind, []⟩

/-- One finding for each disagreement, and nothing else. -/
def expectedFindings (desired observed : List StateElement) : List DriftFinding :=
  (desired.filter fun d => Absent observed d).map StateElement.missing ++
  (desired.filter fun d => Conflicted observed d).map StateElement.conflict ++
  (desired.flatMap fun d => (d.facets.filter fun facet => Unevidenced observed d facet).map
    fun _ => d.indeterminate) ++
  (desired.flatMap fun d => (d.facets.filter fun facet => Differs observed d facet).map
    fun facet => d.divergent facet.1) ++
  (observed.filter fun o => Unmanaged desired o).map StateElement.unmanaged

/-- A selection item by item. -/
theorem map_filter_eq_flatMap {α β : Type} (p : α → Prop) [DecidablePred p] (f : α → β)
    (xs : List α) : (xs.filter fun x => p x).map f = xs.flatMap fun x => if p x then [f x] else [] := by
  induction xs with
  | nil => rfl
  | cons x xs ih =>
      rw [List.filter_cons, List.flatMap_cons]
      by_cases hx : p x
      · rw [if_pos (decide_eq_true hx), if_pos hx, List.map_cons, ih]
        rfl
      · rw [if_neg (mt of_decide_eq_true hx), if_neg hx, ih]
        rfl

section
variable {desired observed : List StateElement} {d o : StateElement} {facet : FacetName × Str}

/-! ## One desired element -/

/-- In a consistent state a reference names one element. -/
theorem eq_of_ref (hnodup : (observed.map StateElement.ref).Nodup) {o' : StateElement}
    (ho : o ∈ observed) (ho' : o' ∈ observed) (href : o'.ref = o.ref) : o' = o :=
  List.inj_on_of_nodup_map hnodup ho' ho href

theorem absent_iff_of_mem (ho : o ∈ observed) (href : o.ref = d.ref) : ¬Absent observed d :=
  fun h => h o ho href

theorem conflicted_iff_of_mem (hnodup : (observed.map StateElement.ref).Nodup) (ho : o ∈ observed)
    (href : o.ref = d.ref) : Conflicted observed d ↔ o.kind ≠ d.kind := by
  constructor
  · rintro ⟨o', ho', href', hkind⟩
    rw [eq_of_ref hnodup ho ho' (href'.trans href.symm)] at hkind
    exact hkind
  · intro hkind
    exact ⟨o, ho, href, hkind⟩

theorem unevidenced_iff_of_mem (hnodup : (observed.map StateElement.ref).Nodup) (ho : o ∈ observed)
    (href : o.ref = d.ref) : Unevidenced observed d facet ↔
      o.kind = d.kind ∧ ∀ other ∈ o.facets, other.1 ≠ facet.1 := by
  constructor
  · rintro ⟨o', ho', ⟨href', hkind⟩, hnone⟩
    rw [eq_of_ref hnodup ho ho' (href'.trans href.symm)] at hkind hnone
    exact ⟨hkind, hnone⟩
  · rintro ⟨hkind, hnone⟩
    exact ⟨o, ho, ⟨href, hkind⟩, hnone⟩

theorem differs_iff_of_mem (hnodup : (observed.map StateElement.ref).Nodup) (ho : o ∈ observed)
    (href : o.ref = d.ref) : Differs observed d facet ↔
      o.kind = d.kind ∧ ∃ other ∈ o.facets, other.1 = facet.1 ∧ other.2 ≠ facet.2 := by
  constructor
  · rintro ⟨o', ho', ⟨href', hkind⟩, hother⟩
    rw [eq_of_ref hnodup ho ho' (href'.trans href.symm)] at hkind hother
    exact ⟨hkind, hother⟩
  · rintro ⟨hkind, hother⟩
    exact ⟨o, ho, ⟨href, hkind⟩, hother⟩

theorem not_unevidenced_of_absent (h : Absent observed d) : ¬Unevidenced observed d facet := by
  rintro ⟨o, ho, ⟨href, -⟩, -⟩
  exact h o ho href

theorem not_differs_of_absent (h : Absent observed d) : ¬Differs observed d facet := by
  rintro ⟨o, ho, ⟨href, -⟩, -⟩
  exact h o ho href

/-! ## Facets -/

theorem StateElement.wellFormed_iff : d.wellFormed = true ↔ d.ref ≠ [] ∧
    (d.facets.map Prod.fst).Nodup ∧ ∀ facet ∈ d.facets, facet.1 ∈ d.kind.facets := by
  simp [StateElement.wellFormed, and_assoc]

theorem get?_facetMap_iff (hd : d.wellFormed = true) {facetName : FacetName} {value : Str} :
    d.facetMap.get? facetName = some value ↔ (facetName, value) ∈ d.facets := by
  obtain ⟨-, hnodup, -⟩ := StateElement.wellFormed_iff.mp hd
  unfold StateElement.facetMap
  rw [Dict.ofPairs_of_nodup hnodup]
  exact ⟨Dict.mem_of_get?, Dict.get?_of_mem hnodup⟩

theorem nodup_facets (kind : ElementKind) : kind.facets.Nodup := by
  cases kind <;> decide

/-- The facets of a kind are compared, so those that are declared are. -/
theorem facets_flatMap_perm {β : Type} (hd : d.wellFormed = true) (f : FacetName → List β)
    (hf : ∀ facetName, d.facetMap.get? facetName = none → f facetName = []) :
    (d.kind.facets.flatMap f).Perm (d.facets.flatMap fun facet => f facet.1) := by
  obtain ⟨-, hnodup, hkind⟩ := StateElement.wellFormed_iff.mp hd
  have hdeclared : (d.kind.facets.filter fun facetName => facetName ∈ d.facets.map Prod.fst).Perm
      (d.facets.map Prod.fst) := by
    refine (List.perm_ext_iff_of_nodup ((nodup_facets _).filter _) hnodup).mpr fun facetName => ?_
    rw [List.mem_filter, decide_eq_true_eq]
    refine and_iff_right_of_imp fun hname => ?_
    obtain ⟨facet, hfacet, rfl⟩ := List.mem_map.mp hname
    exact hkind facet hfacet
  have hrest : ∀ facetNames : List FacetName, facetNames.flatMap f =
      (facetNames.filter fun facetName => facetName ∈ d.facets.map Prod.fst).flatMap f := by
    intro facetNames
    induction facetNames with
    | nil => rfl
    | cons facetName facetNames ih =>
        rw [List.flatMap_cons, List.filter_cons]
        split
        · rw [List.flatMap_cons, ih]
        · next hundeclared =>
            have hnone : d.facetMap.get? facetName = none := by
              rw [Option.eq_none_iff_forall_ne_some]
              intro value hvalue
              have hmem := (get?_facetMap_iff hd).mp hvalue
              exact hundeclared (decide_eq_true (List.mem_map_of_mem hmem))
            rw [hf facetName hnone, List.nil_append, ih]
  rw [hrest]
  refine (hdeclared.flatMap_right f).trans (List.Perm.of_eq ?_)
  rw [List.flatMap_map]

/-- What a declared facet finds on the other side. -/
theorem compareFacet_eq (hd : d.wellFormed = true) (ho : o.wellFormed = true)
    (hfacet : facet ∈ d.facets) : compareFacet d o facet.1 =
      (if ∀ other ∈ o.facets, other.1 ≠ facet.1 then [d.indeterminate] else []) ++
      (if ∃ other ∈ o.facets, other.1 = facet.1 ∧ other.2 ≠ facet.2 then [d.divergent facet.1]
        else []) := by
  have hdeclared : d.facetMap.get? facet.1 = some facet.2 := (get?_facetMap_iff hd).mpr hfacet
  unfold compareFacet
  rw [hdeclared]
  dsimp only
  cases hother : o.facetMap.get? facet.1 with
  | none =>
      have hnone : ∀ other ∈ o.facets, other.1 ≠ facet.1 := by
        intro other hmem hname
        have hsome := (get?_facetMap_iff ho).mpr (show (other.1, other.2) ∈ o.facets from hmem)
        rw [hname, hother] at hsome
        cases hsome
      have hdiffers : ¬∃ other ∈ o.facets, other.1 = facet.1 ∧ other.2 ≠ facet.2 := by
        rintro ⟨other, hmem, hname, -⟩
        exact hnone other hmem hname
      rw [if_pos hnone, if_neg hdiffers]
      rfl
  | some value =>
      have hmem : (facet.1, value) ∈ o.facets := (get?_facetMap_iff ho).mp hother
      have hsome : ¬∀ other ∈ o.facets, other.1 ≠ facet.1 := fun h => h _ hmem rfl
      have hdiffers : (∃ other ∈ o.facets, other.1 = facet.1 ∧ other.2 ≠ facet.2) ↔
          facet.2 ≠ value := by
        constructor
        · rintro ⟨other, hmem', hname, hvalue⟩ heq
          have hget := (get?_facetMap_iff ho).mpr (show (other.1, other.2) ∈ o.facets from hmem')
          rw [hname, hother] at hget
          exact hvalue ((Option.some.inj hget).symm.trans heq.symm)
        · intro hne
          exact ⟨_, hmem, rfl, hne.symm⟩
      rw [if_neg hsome, List.nil_append]
      dsimp only
      by_cases hvalue : facet.2 = value
      · rw [if_pos hvalue, if_neg (mt hdiffers.mp (not_not.mpr hvalue))]
      · rw [if_neg hvalue, if_pos (hdiffers.mpr hvalue)]
        rfl

/-- What one desired element finds, sorted by what it is. -/
theorem classifyDesired_perm (hnodup : (observed.map StateElement.ref).Nodup)
    (hobserved : ∀ o ∈ observed, o.wellFormed = true) (hd : d.wellFormed = true) :
    (classifyDesired (byRef observed) d).Perm
      ((if Absent observed d then [d.missing] else []) ++
        ((if Conflicted observed d then [d.conflict] else []) ++
          ((d.facets.filter fun facet => Unevidenced observed d facet).map
              (fun _ => d.indeterminate) ++
            (d.facets.filter fun facet => Differs observed d facet).map
              fun facet => d.divergent facet.1))) := by
  unfold classifyDesired
  cases hget : (byRef observed).get? d.ref with
  | none =>
      have habsent : Absent observed d := (get?_byRef_eq_none_iff hnodup).mp hget
      have hconflicted : ¬Conflicted observed d := by
        rintro ⟨o, ho, href, -⟩
        exact habsent o ho href
      rw [if_pos habsent, if_neg hconflicted,
        List.filter_eq_nil_iff.mpr fun facet _ h =>
          not_unevidenced_of_absent habsent (of_decide_eq_true h),
        List.filter_eq_nil_iff.mpr fun facet _ h =>
          not_differs_of_absent habsent (of_decide_eq_true h)]
      exact List.Perm.refl _
  | some o =>
      obtain ⟨ho, href⟩ := (get?_byRef_iff hnodup).mp hget
      rw [if_neg (absent_iff_of_mem ho href), List.nil_append]
      dsimp only
      by_cases hkind : o.kind = d.kind
      · have hconflicted : ¬Conflicted observed d :=
          mt (conflicted_iff_of_mem hnodup ho href).mp (not_not.mpr hkind)
        rw [if_neg (not_not.mpr hkind), if_neg hconflicted, List.nil_append]
        refine (facets_flatMap_perm hd _ fun facetName hnone => ?_).trans ?_
        · unfold compareFacet
          rw [hnone]
        · rw [map_filter_eq_flatMap, map_filter_eq_flatMap]
          refine List.Perm.trans (List.Perm.of_eq ?_) (List.flatMap_append_perm _ _ _).symm
          refine List.flatMap_congr fun facet hfacet => ?_
          rw [compareFacet_eq hd (hobserved o ho) hfacet]
          simp only [unevidenced_iff_of_mem hnodup ho href, differs_iff_of_mem hnodup ho href, hkind,
            true_and]
      · have hconflicted : Conflicted observed d := (conflicted_iff_of_mem hnodup ho href).mpr hkind
        rw [if_pos hkind, if_pos hconflicted,
          List.filter_eq_nil_iff.mpr fun facet _ h =>
            hkind ((unevidenced_iff_of_mem hnodup ho href).mp (of_decide_eq_true h)).1,
          List.filter_eq_nil_iff.mpr fun facet _ h =>
            hkind ((differs_iff_of_mem hnodup ho href).mp (of_decide_eq_true h)).1]
        exact List.Perm.refl _

/-! ## Two states -/

theorem driftFindings_perm (hdesired : consistent desired = true)
    (hobserved : consistent observed = true) :
    (driftFindings desired observed).Perm (expectedFindings desired observed) := by
  obtain ⟨hwell, -, -⟩ := consistent_iff.mp hdesired
  obtain ⟨hwell', hnodup, -⟩ := consistent_iff.mp hobserved
  have hunmanaged : (observed.filter fun e => e.ref ∉ desired.map StateElement.ref) =
      observed.filter fun o => Unmanaged desired o := by
    refine List.filter_congr fun o _ => decide_eq_decide.mpr ?_
    rw [List.mem_map]
    exact ⟨fun h d hd href => h ⟨d, hd, href⟩, fun h hmem => hmem.elim fun d hd => h d hd.1 hd.2⟩
  unfold driftFindings expectedFindings
  dsimp only
  rw [hunmanaged]
  refine List.Perm.append_right _ ?_
  refine (List.Perm.flatMap_left desired fun d hd =>
    classifyDesired_perm hnodup hwell' (hwell d hd)).trans ?_
  refine (List.flatMap_append_perm _ _ _).symm.trans ?_
  rw [map_filter_eq_flatMap, map_filter_eq_flatMap, List.append_assoc, List.append_assoc]
  refine List.Perm.append_left _ ((List.flatMap_append_perm _ _ _).symm.trans ?_)
  exact List.Perm.append_left _ (List.flatMap_append_perm _ _ _).symm

/-! ## Permuted states -/

section
variable {desired' observed' : List StateElement}

theorem expectedFindings_perm (hdesired : desired'.Perm desired)
    (hobserved : observed'.Perm observed) :
    (expectedFindings desired' observed').Perm (expectedFindings desired observed) := by
  have habsent : ∀ d, Absent observed' d ↔ Absent observed d := fun d =>
    forall_congr' fun o => imp_congr hobserved.mem_iff Iff.rfl
  have hconflicted : ∀ d, Conflicted observed' d ↔ Conflicted observed d := fun d =>
    exists_congr fun o => and_congr hobserved.mem_iff Iff.rfl
  have hunevidenced : ∀ d facet, Unevidenced observed' d facet ↔ Unevidenced observed d facet :=
    fun d facet => exists_congr fun o => and_congr hobserved.mem_iff Iff.rfl
  have hdiffers : ∀ d facet, Differs observed' d facet ↔ Differs observed d facet :=
    fun d facet => exists_congr fun o => and_congr hobserved.mem_iff Iff.rfl
  have hunmanaged : ∀ o, Unmanaged desired' o ↔ Unmanaged desired o := fun o =>
    forall_congr' fun d => imp_congr hdesired.mem_iff Iff.rfl
  unfold expectedFindings
  simp only [habsent, hconflicted, hunevidenced, hdiffers, hunmanaged]
  refine (((List.Perm.append ?_ ?_).append ?_).append ?_).append ?_
  · exact (hdesired.filter _).map _
  · exact (hdesired.filter _).map _
  · exact hdesired.flatMap_right _
  · exact hdesired.flatMap_right _
  · exact (hobserved.filter _).map _

/-- Consistency does not look at the order of the elements. -/
theorem consistent_perm (h : desired'.Perm desired) : consistent desired' = consistent desired := by
  have hpresent : ∀ ref, endpointPresent desired' ref = endpointPresent desired ref := by
    intro ref
    rw [Bool.eq_iff_iff, endpointPresent_iff, endpointPresent_iff]
    exact exists_congr fun e => and_congr h.mem_iff Iff.rfl
  have hattached : ∀ e : StateElement, e.attached desired' = e.attached desired := by
    intro e
    unfold StateElement.attached
    simp only [hpresent]
  rw [Bool.eq_iff_iff, consistent_iff, consistent_iff]
  refine and_congr ?_ (and_congr (h.map _).nodup_iff ?_)
  · exact forall_congr' fun e => imp_congr h.mem_iff Iff.rfl
  · exact forall_congr' fun e => imp_congr h.mem_iff (by rw [hattached])

end

/-! ## The order of a report -/

theorem DriftKind.idxOf_injective {kind kind' : DriftKind}
    (h : driftKindOrder.idxOf kind = driftKindOrder.idxOf kind') : kind = kind' := by
  revert kind'
  cases kind <;> intro kind' <;> cases kind' <;> decide

theorem DriftReason.idxOf_injective {reason reason' : DriftReason}
    (h : driftReasonOrder.idxOf reason = driftReasonOrder.idxOf reason') : reason = reason' := by
  have hmem : reason ∈ driftReasonOrder := by
    rcases reason with - | - | - | - | facet
    · decide
    · decide
    · decide
    · decide
    · cases facet <;> decide
  exact List.idxOf_inj hmem |>.mp h

theorem ElementKind.idxOf_injective {kind kind' : ElementKind}
    (h : elementKindOrder.idxOf kind = elementKindOrder.idxOf kind') : kind = kind' := by
  have hmem : kind ∈ elementKindOrder := by cases kind <;> decide
  exact List.idxOf_inj hmem |>.mp h

/-- The sort key is the whole finding. -/
theorem DriftFinding.sortKey_injective {f g : DriftFinding} (h : f.sortKey = g.sortKey) : f = g := by
  obtain ⟨kind, reason, elementKind, elementRef⟩ := f
  obtain ⟨kind', reason', elementKind', elementRef'⟩ := g
  obtain ⟨hkind, h⟩ := Prod.mk.inj h
  obtain ⟨hreason, h⟩ := Prod.mk.inj h
  obtain ⟨helement, href⟩ := Prod.mk.inj h
  obtain rfl : kind = kind' := DriftKind.idxOf_injective hkind
  obtain rfl : reason = reason' := DriftReason.idxOf_injective hreason
  obtain rfl : elementKind = elementKind' := ElementKind.idxOf_injective helement
  obtain rfl : elementRef = elementRef' := href
  rfl

/-- The same findings make the same list, however they were found. -/
theorem sortedFindings_eq_of_perm {findings findings' : List DriftFinding}
    (h : findings'.Perm findings) :
    sortedBy DriftFinding.sortKey findings' = sortedBy DriftFinding.sortKey findings :=
  sortedBy_eq_of_perm (fun _ _ _ _ hsame => DriftFinding.sortKey_injective hsame) h

end

/-! ## The report of a verified pair -/

/-- The classifier reports one finding for each disagreement of a verified pair and nothing else, and
the findings do not depend on the order in which the elements of either state were given. -/
theorem classification_exact {scope : ReconciliationScope} {desired : DesiredState}
    {observed : ObservedState} {now : Datetime} {pair : VerifiedStatePair}
    (h : verifyInputs scope desired observed now = .ok pair) :
    ∃ report, classifyDrift pair = .ok report ∧
      report.findings.Perm (expectedFindings desired.elements observed.elements) ∧
      ∀ desiredElements observedElements : List StateElement,
        desiredElements.Perm desired.elements → observedElements.Perm observed.elements →
          ∃ pair' report',
            verifyInputs scope { desired with elements := desiredElements }
              { observed with elements := observedElements } now = .ok pair' ∧
            classifyDrift pair' = .ok report' ∧ report'.findings = report.findings := by
  obtain ⟨hdesired, hobserved, hconsistent, rfl⟩ := verifyInputs_eq_ok_iff.mp h
  refine ⟨_, classifyDrift_eq_ok_iff.mpr ⟨requireVerified_verifiedPair, rfl⟩, ?_, ?_⟩
  · exact (sortedBy_perm _ _).trans (driftFindings_perm hdesired.elements hconsistent)
  · intro desiredElements observedElements hperm hperm'
    have hconsistent' : consistent desiredElements = true :=
      (consistent_perm hperm).trans hdesired.elements
    have hconsistent'' : consistent observedElements = true :=
      (consistent_perm hperm').trans hconsistent
    refine ⟨_, _, verifyInputs_eq_ok_iff.mpr ⟨?_, ?_, hconsistent'', rfl⟩,
      classifyDrift_eq_ok_iff.mpr ⟨requireVerified_verifiedPair, rfl⟩, ?_⟩
    · exact ⟨hdesired.version, hdesired.named, hdesired.bounded, hdesired.surface,
        hdesired.provenance, hconsistent', hdesired.instance_eq⟩
    · exact ⟨hobserved.instance_eq, hobserved.provider_eq, hobserved.provenance,
        hobserved.complete, hobserved.not_ahead, hobserved.not_stale⟩
    · refine sortedFindings_eq_of_perm ?_
      exact (driftFindings_perm hconsistent' hconsistent'').trans
        ((expectedFindings_perm hperm hperm').trans
          (driftFindings_perm hdesired.elements hconsistent).symm)

/-- Where nothing is there, the one finding is the missing network. -/
theorem samplePair_classified : ∃ report, classifyDrift samplePair = .ok report ∧
    report.findings.Perm (expectedFindings sampleDesired.elements emptyObservation.elements) := by
  obtain ⟨report, hreport, hfindings, -⟩ := classification_exact (verifyInputs_eq_ok_iff.mpr
    ⟨sampleDesired_admitted, emptyObservation_admitted, rfl, rfl⟩)
  exact ⟨report, hreport, hfindings⟩

end Secp.Reconciliation
