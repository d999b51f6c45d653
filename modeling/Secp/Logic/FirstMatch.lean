import Mathlib.Data.List.Sort
import Mathlib.Data.List.Perm.Basic

/-!
# First-match decision lists

Rules carry an integer position and are consulted in order of position; the first rule that
matches decides. When positions are distinct the decision depends only on which rules match and
where they stand: `firstMatch_good_iff` replaces the sorted search by a comparison of positions.
-/

namespace Secp.Logic

variable {ρ : Type}

/-- The matching rule of least position. -/
def firstMatch (position : ρ → Int) (hit : ρ → Bool) (rules : List ρ) : Option ρ :=
  (rules.insertionSort fun a b => position a ≤ position b).find? hit

variable {position : ρ → Int} {hit : ρ → Bool} {rules : List ρ} {r : ρ}

theorem pairwise_insertionSort_position (position : ρ → Int) (rules : List ρ) :
    (rules.insertionSort fun a b => position a ≤ position b).Pairwise
      fun a b => position a ≤ position b := by
  have : Std.Total fun a b : ρ => position a ≤ position b := ⟨fun a b => le_total _ _⟩
  have : IsTrans ρ fun a b => position a ≤ position b := ⟨fun _ _ _ => le_trans⟩
  exact List.pairwise_insertionSort _ rules

/-- In a list ordered by position, `find?` returns a matching rule that no other precedes. -/
theorem find?_spec_of_pairwise {rules : List ρ}
    (hsorted : rules.Pairwise fun a b => position a ≤ position b) (h : rules.find? hit = some r) :
    r ∈ rules ∧ hit r = true ∧ ∀ s ∈ rules, hit s = true → position r ≤ position s := by
  induction rules with
  | nil => simp at h
  | cons a rest ih =>
      obtain ⟨hhead, htail⟩ := List.pairwise_cons.mp hsorted
      cases ha : hit a with
      | true =>
          obtain rfl : a = r := by simpa [List.find?_cons, ha] using h
          refine ⟨List.mem_cons_self, ha, fun s hs _ => ?_⟩
          rcases List.mem_cons.mp hs with rfl | hs
          · exact le_refl _
          · exact hhead s hs
      | false =>
          have hrest : rest.find? hit = some r := by simpa [List.find?_cons, ha] using h
          obtain ⟨hmem, hhit, hleast⟩ := ih htail hrest
          refine ⟨List.mem_cons_of_mem a hmem, hhit, fun s hs hmatch => ?_⟩
          rcases List.mem_cons.mp hs with rfl | hs
          · rw [ha] at hmatch
            cases hmatch
          · exact hleast s hs hmatch

theorem firstMatch_spec (h : firstMatch position hit rules = some r) :
    r ∈ rules ∧ hit r = true ∧ ∀ s ∈ rules, hit s = true → position r ≤ position s := by
  obtain ⟨hmem, hhit, hleast⟩ :=
    find?_spec_of_pairwise (pairwise_insertionSort_position position rules) h
  have hperm := List.perm_insertionSort (fun a b => position a ≤ position b) rules
  exact ⟨hperm.mem_iff.mp hmem, hhit, fun s hs => hleast s (hperm.mem_iff.mpr hs)⟩

theorem firstMatch_eq_none_iff :
    firstMatch position hit rules = none ↔ ∀ s ∈ rules, hit s = false := by
  simp [firstMatch, List.find?_eq_none]

/-- With distinct positions, the decision is in `good` exactly when some matching rule in `good`
stands before every matching rule outside it. -/
theorem firstMatch_good_iff {good : ρ → Prop} (hnodup : (rules.map position).Nodup) :
    (∃ r, firstMatch position hit rules = some r ∧ good r) ↔
      ∃ r ∈ rules, hit r = true ∧ good r ∧
        ∀ s ∈ rules, hit s = true → ¬good s → position r < position s := by
  constructor
  · rintro ⟨r, hfirst, hgood⟩
    obtain ⟨hmem, hhit, hleast⟩ := firstMatch_spec hfirst
    refine ⟨r, hmem, hhit, hgood, fun s hs hmatch hbad => lt_of_le_of_ne (hleast s hs hmatch) ?_⟩
    intro heq
    rw [List.inj_on_of_nodup_map hnodup hmem hs heq] at hgood
    exact hbad hgood
  · rintro ⟨r, hmem, hhit, hgood, hbefore⟩
    cases hfirst : firstMatch position hit rules with
    | none =>
        rw [firstMatch_eq_none_iff.mp hfirst r hmem] at hhit
        cases hhit
    | some q =>
        obtain ⟨hq, hmatch, hleast⟩ := firstMatch_spec hfirst
        refine ⟨q, rfl, ?_⟩
        by_contra hbad
        exact absurd (hleast r hmem hhit) (not_le.mpr (hbefore q hq hmatch hbad))

end Secp.Logic
