import Mathlib.Data.List.Perm.Basic
import Secp.Logic.StateExcept

/-!
# Computations on related inputs

`Matches R c c'` says that whatever the first of two checked computations returns, the second
returns something related to it. Nothing is said of a first computation that is refused. The rules
follow the shape of a program: two programs that read related values step by step match.
-/

namespace Secp.Logic

variable {ε ε' α β γ δ : Type} {R : α → β → Prop} {S : γ → δ → Prop}

/-- Whatever the first computation returns, the second returns something related. -/
def Matches (R : α → β → Prop) (c : Except ε α) (c' : Except ε' β) : Prop :=
  ∀ a, c = .ok a → ∃ b, c' = .ok b ∧ R a b

namespace Matches

theorem pure {a : α} {b : β} (h : R a b) :
    Matches R (Pure.pure a : Except ε α) (Pure.pure b : Except ε' β) := by
  intro x hx
  cases hx
  exact ⟨b, rfl, h⟩

theorem throw (e : ε) {c' : Except ε' β} : Matches R (MonadExcept.throw e : Except ε α) c' := by
  intro x hx
  cases hx

theorem refl {c : Except ε α} : Matches Eq c c := fun a ha => ⟨a, ha, rfl⟩

theorem mono {R' : α → β → Prop} {c : Except ε α} {c' : Except ε' β} (h : Matches R c c')
    (hR : ∀ a b, R a b → R' a b) : Matches R' c c' := by
  intro a ha
  obtain ⟨b, hb, hab⟩ := h a ha
  exact ⟨b, hb, hR a b hab⟩

theorem bind {c : Except ε α} {c' : Except ε' β} {f : α → Except ε γ} {f' : β → Except ε' δ}
    (hc : Matches R c c') (hf : ∀ a b, R a b → Matches S (f a) (f' b)) :
    Matches S (c >>= f) (c' >>= f') := by
  intro x hx
  obtain ⟨a, ha, hx⟩ := except_bind_eq_ok.mp hx
  obtain ⟨b, hb, hab⟩ := hc a ha
  obtain ⟨y, hy, hxy⟩ := hf a b hab x hx
  exact ⟨y, except_bind_eq_ok.mpr ⟨b, hb, hy⟩, hxy⟩

/-- What stands behind a refusal does not run. -/
theorem throw_bind (e : ε) {f : α → Except ε γ} {c' : Except ε' δ} :
    Matches S ((MonadExcept.throw e : Except ε α) >>= f) c' := by
  intro x hx
  obtain ⟨a, ha, _⟩ := except_bind_eq_ok.mp hx
  cases ha

theorem trans {α₁ α₂ : Type} {T : α₁ → α₂ → Prop} {c₁ : Except ε α} {c₂ : Except ε α₁}
    {c₃ : Except ε α₂} {R' : α → α₁ → Prop} {U : α → α₂ → Prop} (h : Matches R' c₁ c₂)
    (h' : Matches T c₂ c₃) (hU : ∀ a b d, R' a b → T b d → U a d) : Matches U c₁ c₃ := by
  intro a ha
  obtain ⟨b, hb, hab⟩ := h a ha
  obtain ⟨d, hd, hbd⟩ := h' b hb
  exact ⟨d, hd, hU a b d hab hbd⟩

theorem mapM {f : α → Except ε γ} {f' : β → Except ε' δ} {xs : List α} {ys : List β}
    (h : List.Forall₂ R xs ys) (hf : ∀ a b, R a b → Matches S (f a) (f' b)) :
    Matches (List.Forall₂ S) (xs.mapM f) (ys.mapM f') := by
  induction h with
  | nil => exact pure .nil
  | cons hab _ ih =>
      rw [List.mapM_cons, List.mapM_cons]
      refine bind (hf _ _ hab) fun c d hcd => bind ih fun cs ds hrest => pure ?_
      exact .cons hcd hrest

end Matches

end Secp.Logic
