import Mathlib.Logic.Function.Basic
import Mathlib.Order.Basic

/-!
# A cell that is swapped on its revision

Holders keep copies of a cell. A swap goes through only on a copy of the latest revision and sets a later
one, so what a copy of the latest revision says is what the cell says, and at most one holder has such a
copy when each swap hands its outcome to one holder at most.
-/

namespace Secp.Logic

/-- No copy is ahead of the cell, and a copy of the latest revision is the cell. -/
def Copied {ρ ν ω : Type} [LE ν] (revision : ρ → ν) (cell : Option ρ) (copy : ω → Option ρ) : Prop :=
  ∀ w r, copy w = some r → ∃ c, cell = some c ∧ revision r ≤ revision c ∧
    (revision r = revision c → r = c)

variable {ρ ν ω : Type} [Preorder ν] [DecidableEq ω] {revision : ρ → ν} {cell : Option ρ}
  {copy : ω → Option ρ} {c c' : ρ} {v w : ω}

/-- At most one holder has a copy of the latest revision. -/
def Exclusive (revision : ρ → ν) (cell : Option ρ) (copy : ω → Option ρ) : Prop :=
  ∀ v w r s, copy v = some r → copy w = some s → ∀ c, cell = some c →
    revision r = revision c → revision s = revision c → v = w

/-! ## Swaps -/

omit [DecidableEq ω] in
/-- A swap leaves every copy behind. -/
theorem Copied.behind (h : Copied revision (some c) copy) (hlt : revision c < revision c')
    {r : ρ} (hr : copy w = some r) : revision r < revision c' := by
  obtain ⟨current, hcurrent, hle, -⟩ := h w r hr
  cases hcurrent
  exact lt_of_le_of_lt hle hlt

omit [DecidableEq ω] in
theorem Copied.swap (h : Copied revision (some c) copy) (hlt : revision c < revision c') :
    Copied revision (some c') copy := by
  intro w r hr
  have hbehind := h.behind hlt hr
  exact ⟨c', rfl, hbehind.le, fun hsame => absurd hsame hbehind.ne⟩

omit [DecidableEq ω] in
theorem Exclusive.swap (h : Copied revision (some c) copy) (hlt : revision c < revision c') :
    Exclusive revision (some c') copy := by
  intro v w r s hr hs current hcurrent hsame
  cases hcurrent
  exact absurd hsame (h.behind hlt hr).ne

/-! ## Copies -/

/-- A copy that is taken of the cell itself. -/
theorem Copied.take (h : Copied revision cell copy) (hcell : cell = some c) :
    Copied revision cell (Function.update copy w (some c)) := by
  intro v r hr
  by_cases hv : v = w
  · subst hv
    rw [Function.update_self] at hr
    cases hr
    exact ⟨_, hcell, le_refl _, fun _ => rfl⟩
  · rw [Function.update_of_ne hv] at hr
    exact h v r hr

theorem Copied.drop (h : Copied revision cell copy) :
    Copied revision cell (Function.update copy w none) := by
  intro v r hr
  by_cases hv : v = w
  · subst hv
    rw [Function.update_self] at hr
    cases hr
  · rw [Function.update_of_ne hv] at hr
    exact h v r hr

/-- The outcome of a swap is handed to one holder. -/
theorem Exclusive.hand (h : Copied revision (some c) copy) (hlt : revision c < revision c') :
    Exclusive revision (some c') (Function.update copy w (some c')) := by
  have hlatest : ∀ v r, Function.update copy w (some c') v = some r →
      revision r = revision c' → v = w := by
    intro v r hr hsame
    by_contra hv
    rw [Function.update_of_ne hv] at hr
    exact absurd hsame (h.behind hlt hr).ne
  intro u v r s hr hs current hcurrent hu hv
  cases hcurrent
  exact (hlatest u r hr hu).trans (hlatest v s hs hv).symm

omit [Preorder ν] in
/-- The first cell is handed to the holder that made it. -/
theorem exclusive_first (h : ∀ v, copy v = none) :
    Exclusive revision (some c') (Function.update copy w (some c')) := by
  have hown : ∀ v r, Function.update copy w (some c') v = some r → v = w := by
    intro v r hr
    by_contra hv
    rw [Function.update_of_ne hv, h v] at hr
    cases hr
  intro u v r s hr hs current hcurrent hu hv
  exact (hown u r hr).trans (hown v s hs).symm

omit [DecidableEq ω] in
/-- Without a cell there is no copy of it. -/
theorem Copied.eq_none (h : Copied revision none copy) (v : ω) : copy v = none := by
  cases hr : copy v with
  | none => rfl
  | some r =>
      obtain ⟨current, hcurrent, -⟩ := h v r hr
      cases hcurrent

end Secp.Logic
