import Mathlib.Data.List.Basic

/-!
# Append-only logs

A rule about a log speaks of each entry and of what stood before it. It is kept by appending an entry
that meets it, so a run that only appends is checked entry by entry.
-/

namespace Secp.Logic

variable {α : Type} {P : List α → α → Prop} {log added : List α} {x : α}

/-- Every entry of the log meets the rule, given the log before it. -/
def Throughout (P : List α → α → Prop) (log : List α) : Prop :=
  ∀ before x after, log = before ++ x :: after → P before x

/-- An appended entry is the last one, or one stands before it that was there already. -/
theorem snoc_eq_append_cons {before after : List α} {y : α} :
    log ++ [x] = before ++ y :: after ↔
      after = [] ∧ y = x ∧ before = log ∨
        ∃ after', after = after' ++ [x] ∧ log = before ++ y :: after' := by
  constructor
  · intro h
    rcases List.eq_nil_or_concat after with rfl | ⟨after', z, rfl⟩
    · obtain ⟨rfl, hx⟩ := List.append_inj' h rfl
      exact .inl ⟨rfl, (List.singleton_inj.mp hx).symm, rfl⟩
    · rw [List.concat_eq_append, ← List.cons_append, ← List.append_assoc] at h
      obtain ⟨rfl, hx⟩ := List.append_inj' h rfl
      exact .inr ⟨after', by rw [List.concat_eq_append, List.singleton_inj.mp hx], rfl⟩
  · rintro (⟨rfl, rfl, rfl⟩ | ⟨after', rfl, rfl⟩)
    · rfl
    · simp

theorem throughout_nil : Throughout P [] := by
  intro before x after h
  simp at h

theorem throughout_snoc : Throughout P (log ++ [x]) ↔ Throughout P log ∧ P log x := by
  constructor
  · intro h
    refine ⟨fun before y after hlog => h before y (after ++ [x]) (by simp [hlog]), ?_⟩
    exact h log x [] rfl
  · rintro ⟨hlog, hx⟩ before y after h
    rcases snoc_eq_append_cons.mp h with ⟨-, rfl, rfl⟩ | ⟨after', -, hbefore⟩
    · exact hx
    · exact hlog before y after' hbefore

/-- Entries that meet the rule behind any log may be appended. -/
theorem Throughout.append (h : Throughout P log) (hadded : ∀ x ∈ added, ∀ before, P before x) :
    Throughout P (log ++ added) := by
  induction added generalizing log with
  | nil =>
      rw [List.append_nil]
      exact h
  | cons x rest ih =>
      rw [← List.singleton_append, ← List.append_assoc]
      refine ih (throughout_snoc.mpr ⟨h, hadded x List.mem_cons_self log⟩) fun y hy => ?_
      exact hadded y (List.mem_cons_of_mem _ hy)

/-- Of a longer log only what is not certain has to be checked. -/
theorem throughout_append_iff (hadded : ∀ x ∈ added, ∀ before, P before x) :
    Throughout P (log ++ added) ↔ Throughout P log := by
  refine ⟨fun h before x after hlog => ?_, fun h => h.append hadded⟩
  exact h before x (after ++ added) (by rw [hlog, List.append_assoc, List.cons_append])

end Secp.Logic
