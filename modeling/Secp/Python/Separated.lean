import Secp.Python.Text

/-!
# Texts joined by a separator

Joining forgets where its parts end only as far as the parts have the separator in them: two lists of
parts read the same once they are joined exactly when they are the same cut up further.
-/

namespace Secp.Python

variable {d : Char} {x x' y y' : Str} {parts parts' : List Str}

/-- Up to the first separator a text is what stands before it. -/
theorem append_separator_inj (hx : d ∉ x) (hx' : d ∉ x') (h : x ++ d :: y = x' ++ d :: y') :
    x = x' ∧ y = y' := by
  have hsplit := congrArg (List.splitOn d) h
  rw [List.splitOn_append_cons_self_of_not_mem hx, List.splitOn_append_cons_self_of_not_mem hx',
    List.cons.injEq] at hsplit
  obtain ⟨rfl, -⟩ := hsplit
  exact ⟨rfl, List.tail_eq_of_cons_eq (List.append_cancel_left h)⟩

/-- Parts without a separator are not cut. -/
theorem flatMap_splitOn_of_notMem (h : ∀ part ∈ parts, d ∉ part) :
    parts.flatMap (List.splitOn d) = parts := by
  induction parts with
  | nil => rfl
  | cons part rest ih =>
      rw [List.flatMap_cons, List.splitOn_eq_singleton (h part List.mem_cons_self),
        ih fun part hpart => h part (List.mem_cons_of_mem _ hpart)]
      rfl

/-- Parts joined through a separator are all still there. -/
theorem mem_intersperse {α : Type} {a sep : α} {xs : List α} (h : a ∈ xs) : a ∈ xs.intersperse sep := by
  induction xs with
  | nil => cases h
  | cons x rest ih =>
      cases rest with
      | nil => exact h
      | cons y rest =>
          rw [List.intersperse_cons_cons]
          rcases List.mem_cons.mp h with rfl | h
          · exact List.mem_cons_self
          · exact List.mem_cons_of_mem _ (List.mem_cons_of_mem _ (ih h))

/-- What a text is cut into is in the text. -/
theorem mem_of_mem_splitOn {c : Char} {part s : Str} (h : part ∈ s.splitOn d) (hc : c ∈ part) :
    c ∈ s := by
  have hback : [d].intercalate (s.splitOn d) = s := List.intercalate_splitOn d
  rw [← hback]
  exact List.mem_flatten.mpr ⟨part, mem_intersperse h, hc⟩

end Secp.Python
