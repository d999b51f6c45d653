import Mathlib.Data.List.Infix
import Secp.Reconciliation.Drift

/-!
# References of edges

An edge is referred to by its ends and its kind with marks between them, and the reference is taken
apart at the first of each mark. A reference of an element may be any text but the empty one, so the
ends are found again exactly when no mark stands in them too early.
-/

namespace Secp.Reconciliation

open Secp.Python

/-! ## The first occurrence of a mark -/

variable {sep s a b : Str}

/-- What is taken apart at a mark is put together again by the mark. -/
theorem eq_of_partitionOn (h : partitionOn sep s = some (a, b)) : s = a ++ sep ++ b := by
  induction s generalizing a with
  | nil =>
      unfold partitionOn at h
      split at h
      · next hempty =>
          cases h
          rw [List.isEmpty_iff.mp hempty]
          rfl
      · cases h
  | cons c rest ih =>
      unfold partitionOn at h
      split at h
      · next hmark =>
          cases h
          obtain ⟨tail, htail⟩ := List.isPrefixOf_iff_prefix.mp hmark
          rw [← htail, List.drop_left]
          rfl
      · obtain ⟨⟨before, after⟩, hfound, heq⟩ := Option.map_eq_some_iff.mp h
        cases heq
        rw [ih hfound]
        rfl

/-- A mark is found no later than where it stands. -/
theorem exists_partitionOn (sep a b : Str) :
    ∃ x y, partitionOn sep (a ++ sep ++ b) = some (x, y) ∧ x.length ≤ a.length := by
  induction a with
  | nil =>
      rw [List.nil_append]
      cases hs : sep ++ b with
      | nil =>
          obtain ⟨rfl, rfl⟩ := List.append_eq_nil_iff.mp hs
          exact ⟨[], [], rfl, Nat.le_refl 0⟩
      | cons c rest =>
          have hmark : sep.isPrefixOf (c :: rest) = true :=
            List.isPrefixOf_iff_prefix.mpr ⟨b, hs⟩
          refine ⟨[], (c :: rest).drop sep.length, ?_, Nat.le_refl 0⟩
          rw [partitionOn, if_pos hmark]
  | cons c rest ih =>
      obtain ⟨x, y, hfound, hle⟩ := ih
      show ∃ x y, partitionOn sep (c :: (rest ++ sep ++ b)) = some (x, y) ∧ _
      by_cases hmark : sep.isPrefixOf (c :: (rest ++ sep ++ b)) = true
      · exact ⟨[], _, by rw [partitionOn, if_pos hmark], Nat.zero_le _⟩
      · refine ⟨c :: x, y, ?_, Nat.succ_le_succ hle⟩
        rw [partitionOn, if_neg hmark, hfound]
        rfl

/-- A text is taken apart at a given mark exactly when no earlier one stands in it. -/
theorem partitionOn_append_iff : partitionOn sep (a ++ sep ++ b) = some (a, b) ↔
    ∀ a' b', a ++ sep ++ b = a' ++ sep ++ b' → a.length ≤ a'.length := by
  constructor
  · intro h a' b' heq
    obtain ⟨x, y, hfound, hle⟩ := exists_partitionOn sep a' b'
    rw [← heq, h] at hfound
    cases hfound
    exact hle
  · intro h
    obtain ⟨x, y, hfound, hle⟩ := exists_partitionOn sep a b
    have heq := eq_of_partitionOn hfound
    have hlength : a.length = x.length := Nat.le_antisymm (h x y heq) hle
    rw [List.append_assoc, List.append_assoc] at heq
    obtain ⟨hbefore, hafter⟩ := List.append_inj heq hlength
    rw [hfound, hbefore, List.append_cancel_left hafter]

/-- A mark that does not begin as it ends. -/
def Unbordered (sep : Str) : Prop :=
  sep ≠ [] ∧ ∀ k, 0 < k → k < sep.length → ¬sep.drop k <+: sep

/-- Such a mark overlaps no copy of itself, so an earlier one stands wholly in what comes before. -/
theorem partitionOn_append_iff_of_unbordered (hsep : Unbordered sep) :
    partitionOn sep (a ++ sep ++ b) = some (a, b) ↔ ¬sep <:+: a := by
  rw [partitionOn_append_iff]
  constructor
  · rintro h ⟨x, y, rfl⟩
    have hle := h x (y ++ sep ++ b) (by simp [List.append_assoc])
    have hpos := List.length_pos_iff.mpr hsep.1
    rw [List.length_append, List.length_append] at hle
    omega
  · intro h a' b' heq
    refine Nat.le_of_not_lt fun hlt => h ?_
    rw [List.append_assoc, List.append_assoc] at heq
    -- the text between the two places
    obtain ⟨between, rfl⟩ : a' <+: a :=
      List.prefix_of_prefix_length_le ⟨_, heq.symm⟩ ⟨_, rfl⟩ (Nat.le_of_lt hlt)
    rw [List.append_assoc] at heq
    have hrest := List.append_cancel_left heq
    by_cases hlong : sep.length ≤ between.length
    · obtain ⟨tail, htail⟩ : sep <+: between :=
        List.prefix_of_prefix_length_le ⟨_, hrest.symm⟩ ⟨_, rfl⟩ hlong
      exact ⟨a', tail, by rw [List.append_assoc, htail]⟩
    · obtain ⟨tail, htail⟩ : between <+: sep :=
        List.prefix_of_prefix_length_le ⟨_, rfl⟩ ⟨_, hrest.symm⟩ (by omega)
      have hbetween : 0 < between.length := by
        rw [List.length_append] at hlt
        omega
      have hdrop : sep.drop between.length = tail := by
        rw [← htail, List.drop_left]
      refine absurd ?_ (hsep.2 between.length hbetween (by omega))
      have htails : sep ++ b = tail ++ b' := by
        refine @List.append_cancel_left _ between _ _ ?_
        rw [hrest, ← List.append_assoc, htail]
      rw [hdrop]
      refine List.prefix_of_prefix_length_le ⟨b', htails.symm⟩ ⟨b, rfl⟩ ?_
      rw [← htail, List.length_append]
      omega

theorem unbordered_bar : Unbordered (str "|") := by
  rw [show str "|" = ['|'] by with_unfolding_all decide]
  refine ⟨List.cons_ne_nil _ _, fun k hpos hlt => ?_⟩
  rw [List.length_singleton] at hlt
  omega

theorem unbordered_arrow : Unbordered (str "->") := by
  rw [show str "->" = ['-', '>'] by with_unfolding_all decide]
  refine ⟨List.cons_ne_nil _ _, fun k hpos hlt => ?_⟩
  have hk : k = 1 := by
    rw [List.length_cons, List.length_singleton] at hlt
    omega
  subst hk
  decide

/-! ## The ends of an edge -/

/-- Ends whose texts hold none of the marks an edge reference is taken apart at, the arrow of the
second end excepted. -/
structure Separable (sourceRef targetRef : Str) : Prop where
  source_bar : '|' ∉ sourceRef
  source_arrow : ¬str "->" <:+: sourceRef
  target_bar : '|' ∉ targetRef

variable {source target source' target' kind kind' : Str}

theorem bar_infix_iff : str "|" <:+: source ++ str "->" ++ target ↔
    '|' ∈ source ∨ '|' ∈ target := by
  rw [show str "|" = ['|'] by with_unfolding_all decide,
    show str "->" = ['-', '>'] by with_unfolding_all decide, List.singleton_infix_iff]
  simp

/-- The ends are read back exactly when they can be told apart. -/
theorem decodeEdgeRef_encode_iff (hsource : source ≠ []) (htarget : target ≠ []) (kind : Str) :
    decodeEdgeRef (encodeEdgeRef source target kind) = some (source, target) ↔
      Separable source target := by
  have hbody := @partitionOn_append_iff_of_unbordered (str "|") (source ++ str "->" ++ target) kind
    unbordered_bar
  have hends := @partitionOn_append_iff_of_unbordered (str "->") source target unbordered_arrow
  rw [bar_infix_iff, not_or] at hbody
  have hempty : (source.isEmpty || target.isEmpty) = false := by simp [hsource, htarget]
  unfold decodeEdgeRef encodeEdgeRef
  constructor
  · intro h
    obtain ⟨⟨body, rest⟩, hfound, h⟩ := Option.bind_eq_some_iff.mp h
    obtain ⟨⟨first, second⟩, hparts, h⟩ := Option.bind_eq_some_iff.mp h
    dsimp only at h hparts
    split at h
    · cases h
    · cases h
      have hjoined := eq_of_partitionOn hparts
      subst hjoined
      have hrest := List.append_cancel_left (eq_of_partitionOn hfound)
      subst hrest
      obtain ⟨hs, ht⟩ := hbody.mp hfound
      exact ⟨hs, hends.mp hparts, ht⟩
  · intro h
    rw [hbody.mpr ⟨h.source_bar, h.target_bar⟩]
    show (partitionOn (str "->") (source ++ str "->" ++ target)).bind _ = _
    rw [hends.mpr h.source_arrow]
    show (if (source.isEmpty || target.isEmpty) = true then none else some (source, target)) = _
    rw [hempty, if_neg Bool.false_ne_true]

/-- Edge references are read back, and stand for one edge each, exactly between ends that can be told
apart. -/
theorem edge_refs_injective_iff (hsource : source ≠ []) (htarget : target ≠ [])
    (hsource' : source' ≠ []) (htarget' : target' ≠ []) :
    (decodeEdgeRef (encodeEdgeRef source target kind) = some (source, target) ∧
      decodeEdgeRef (encodeEdgeRef source' target' kind') = some (source', target') ∧
      (encodeEdgeRef source target kind = encodeEdgeRef source' target' kind' →
        source = source' ∧ target = target' ∧ kind = kind')) ↔
      Separable source target ∧ Separable source' target' := by
  rw [decodeEdgeRef_encode_iff hsource htarget, decodeEdgeRef_encode_iff hsource' htarget']
  refine ⟨fun h => ⟨h.1, h.2.1⟩, fun h => ⟨h.1, h.2, fun heq => ?_⟩⟩
  have hback := (decodeEdgeRef_encode_iff hsource htarget kind).mpr h.1
  rw [heq, (decodeEdgeRef_encode_iff hsource' htarget' kind').mpr h.2] at hback
  cases hback
  exact ⟨rfl, rfl, List.append_cancel_left heq⟩

theorem edge_refs_injective_sample :
    decodeEdgeRef (encodeEdgeRef (str "web1") (str "red") (str "network")) =
        some (str "web1", str "red") ∧
      decodeEdgeRef (encodeEdgeRef (str "scanner1") (str "web1->2") (str "monitors")) =
        some (str "scanner1", str "web1->2") ∧
      (encodeEdgeRef (str "web1") (str "red") (str "network") =
          encodeEdgeRef (str "scanner1") (str "web1->2") (str "monitors") →
        str "web1" = str "scanner1" ∧ str "red" = str "web1->2" ∧
          str "network" = str "monitors") := by
  have hred : Separable (str "web1") (str "red") :=
    ⟨by with_unfolding_all decide, by with_unfolding_all decide, by with_unfolding_all decide⟩
  have harrow : Separable (str "scanner1") (str "web1->2") :=
    ⟨by with_unfolding_all decide, by with_unfolding_all decide, by with_unfolding_all decide⟩
  exact (edge_refs_injective_iff (by simp) (by simp) (by simp) (by simp)).mpr ⟨hred, harrow⟩

/-- A state in which an edge reference can be read in two ways. -/
def ambiguousDesired : DesiredState where
  instanceId := str "lab1"
  definitionDigest := sampleDigest
  elements := [⟨.node, str "a->b", []⟩, ⟨.node, str "c", []⟩, ⟨.node, str "a", []⟩,
    ⟨.node, str "b->c", []⟩, ⟨.edge, encodeEdgeRef (str "a->b") (str "c") (str "network"), []⟩]

/-- The gate lets the state through, and its edge is read back with other ends. -/
theorem edge_ref_read_back_otherwise :
    verifyInputs sampleScope ambiguousDesired emptyObservation sampleNow =
        .ok (verifiedPair sampleScope ambiguousDesired emptyObservation sampleNow) ∧
      decodeEdgeRef (encodeEdgeRef (str "a->b") (str "c") (str "network")) =
        some (str "a", str "b->c") ∧
      encodeEdgeRef (str "a->b") (str "c") (str "network") =
        encodeEdgeRef (str "a") (str "b->c") (str "network") := by
  refine ⟨verifyInputs_eq_ok_iff.mpr ⟨?_, emptyObservation_admitted, rfl, rfl⟩, by with_unfolding_all decide,
    by with_unfolding_all decide⟩
  exact {
    version := rfl
    named := by with_unfolding_all decide
    bounded := by decide
    surface := rfl
    provenance := by with_unfolding_all decide
    elements := by with_unfolding_all decide
    instance_eq := rfl }

end Secp.Reconciliation
