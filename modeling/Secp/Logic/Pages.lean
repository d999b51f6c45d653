import Mathlib.Data.List.Nodup
import Mathlib.Data.List.Perm.Subperm

/-!
# Reading a list page by page

A reader takes a list a page at a time and goes on where the page told it to. A page with a bad item is
refused as a whole, and the reader goes on behind that item. So the items before a bad one are only seen
when they filled their pages: every run of good items before a bad one has to be as long as whole pages.
-/

namespace Secp.Logic

variable {ρ κ α : Type}

/-! ## Following continuations -/

section
variable {next : ρ → Option κ} {serve : Option κ → ρ} {after : Option κ} {fuel : Nat}
  {replies : List ρ}

end

/-! ## Pages -/

variable {limit : Nat} {bad : α → Bool} {items : List α} {pages : List (List α)}

/-- The pages that are handed out of a list. -/
inductive Paged (limit : Nat) (bad : α → Bool) : List α → List (List α) → Prop
  | last {page : List α} (hgood : ∀ x ∈ page, bad x = false) (hshort : page.length < limit) :
      Paged limit bad page [page]
  | full {page rest : List α} {pages : List (List α)} (hgood : ∀ x ∈ page, bad x = false)
      (hfull : page.length = limit) (hrest : Paged limit bad rest pages) :
      Paged limit bad (page ++ rest) (page :: pages)
  | spoiled {run rest : List α} {x : α} {pages : List (List α)} (hgood : ∀ y ∈ run, bad y = false)
      (hshort : run.length < limit) (hbad : bad x = true) (hrest : Paged limit bad rest pages) :
      Paged limit bad (run ++ x :: rest) pages

theorem filter_eq_self_of_good {front : List α} (hgood : ∀ x ∈ front, bad x = false) :
    front.filter (fun x => !bad x) = front :=
  List.filter_eq_self.mpr fun x hx => by rw [hgood x hx]; rfl

theorem filter_spoiled {run rest : List α} {x : α} (hgood : ∀ y ∈ run, bad y = false)
    (hbad : bad x = true) : (run ++ x :: rest).filter (fun x => !bad x) =
      run ++ rest.filter fun x => !bad x := by
  rw [List.filter_append, filter_eq_self_of_good hgood, List.filter_cons_of_neg (by simp [hbad])]

/-- Only good items are handed out, each once and in their order. -/
theorem Paged.sublist (h : Paged limit bad items pages) :
    pages.flatten.Sublist (items.filter fun x => !bad x) := by
  induction h with
  | @last page hgood hshort =>
      rw [filter_eq_self_of_good hgood, List.flatten_cons, List.flatten_nil, List.append_nil]
  | full hgood hfull hrest ih =>
      rw [List.filter_append, filter_eq_self_of_good hgood, List.flatten_cons]
      exact List.Sublist.append (List.Sublist.refl _) ih
  | spoiled hgood hshort hbad hrest ih =>
      rw [filter_spoiled hgood hbad]
      exact ih.trans (List.sublist_append_right _ _)

section
variable {β : Type} [DecidableEq β] {f : α → β}

end

end Secp.Logic
