import Mathlib.Data.List.Perm.Basic
import Secp.Logic.Related
import Secp.Python.Payload

/-!
# Values in another order

A `Layout` says of a value which of its lists are sorted before they are used, and which of its
values are rendered as text. `Reordered layout v w` says that `w` is `v` with those lists in another
order and the keys of any object in another order. `Alike` adds what a reader of `v` relies on, and
each way of reading a payload carries it from a value to its parts.
-/

namespace Secp.Python

open Secp.Logic

inductive Layout (κ : Type) where
  /-- A value whose lists keep their order. -/
  | kept
  /-- A value that is rendered as text. -/
  | text
  /-- An object whose values are all laid out alike. -/
  | entries (values : Layout κ)
  /-- A list in any order, which is sorted by `key`. -/
  | free (key : κ) (items : Layout κ)
  | record (fields : List (String × Layout κ))

namespace Layout

variable {κ : Type}

/-- The layout declared for a field. -/
@[simp] def find : List (String × Layout κ) → Str → Layout κ
  | [], _ => .kept
  | (name, layout) :: rest, key => if str name = key then layout else find rest key

/-- The layout of the value under a key. -/
@[simp] def field : Layout κ → Str → Layout κ
  | .entries values, _ => values
  | .record fields, key => find fields key
  | _, _ => .kept

/-- The layout of the items of a list. -/
def items : Layout κ → Layout κ
  | .free _ items => items
  | _ => .kept

mutual

/-- Every free list in a value passes a test, and so does every value rendered as text. -/
def each (list : κ → List Json → Bool) (leaf : Json → Bool) : Layout κ → Json → Bool
  | .kept, _ => true
  | .text, value => leaf value
  | .entries values, value =>
      match value with
      | .obj fields => fields.all fun entry => each list leaf values entry.2
      | _ => true
  | .free key items, value =>
      match value.elements with
      | .ok elements => list key elements && elements.all (each list leaf items)
      | .error _ => true
  | .record fields, value => eachField list leaf fields value

def eachField (list : κ → List Json → Bool) (leaf : Json → Bool) :
    List (String × Layout κ) → Json → Bool
  | [], _ => true
  | (name, layout) :: rest, value =>
      (match value.get? (str name) with
        | some part => each list leaf layout part
        | none => true) && eachField list leaf rest value

end

end Layout

/-! ## Reordering -/

mutual

/-- The second value is the first with its free lists and the keys of its objects in another
order. -/
inductive Reordered {κ : Type} : Layout κ → Json → Json → Prop where
  | same (layout : Layout κ) (value : Json) : Reordered layout value value
  | object {layout : Layout κ} {fields between fields' : List (Str × Json)} :
      (fields.map Prod.fst).Nodup → fields.Perm between →
      ReorderedFields layout between fields' → Reordered layout (.obj fields) (.obj fields')
  | array {layout : Layout κ} {items items' : List Json} :
      ReorderedItems layout.items items items' → Reordered layout (.arr items) (.arr items')
  | shuffled {key : κ} {layout : Layout κ} {items between items' : List Json} :
      items.Perm between → ReorderedItems layout between items' →
      Reordered (.free key layout) (.arr items) (.arr items')

/-- Item by item. -/
inductive ReorderedItems {κ : Type} : Layout κ → List Json → List Json → Prop where
  | nil (layout : Layout κ) : ReorderedItems layout [] []
  | cons {layout : Layout κ} {item item' : Json} {rest rest' : List Json} :
      Reordered layout item item' → ReorderedItems layout rest rest' →
      ReorderedItems layout (item :: rest) (item' :: rest')

/-- Key by key. -/
inductive ReorderedFields {κ : Type} :
    Layout κ → List (Str × Json) → List (Str × Json) → Prop where
  | nil (layout : Layout κ) : ReorderedFields layout [] []
  | cons {layout : Layout κ} {key : Str} {value value' : Json} {rest rest' : List (Str × Json)} :
      Reordered (layout.field key) value value' → ReorderedFields layout rest rest' →
      ReorderedFields layout ((key, value) :: rest) ((key, value') :: rest')

end

mutual

/-- No object in a value has two keys or more. -/
def Json.plain : Json → Bool
  | .arr items => plainItems items
  | .obj fields => decide (fields.length ≤ 1) && plainFields fields
  | _ => true

def Json.plainItems : List Json → Bool
  | [] => true
  | item :: rest => Json.plain item && plainItems rest

def Json.plainFields : List (Str × Json) → Bool
  | [] => true
  | (_, value) :: rest => Json.plain value && plainFields rest

end

variable {κ : Type} {layout : Layout κ}

theorem ReorderedItems.forall₂ {items items' : List Json} (h : ReorderedItems layout items items') :
    List.Forall₂ (Reordered layout) items items' := by
  induction items generalizing items' with
  | nil =>
      cases h
      exact .nil
  | cons item rest ih =>
      cases h with
      | cons hitem hrest => exact .cons hitem (ih hrest)

theorem ReorderedFields.forall₂ {fields fields' : List (Str × Json)}
    (h : ReorderedFields layout fields fields') :
    List.Forall₂ (fun a b => a.1 = b.1 ∧ Reordered (layout.field a.1) a.2 b.2) fields fields' := by
  induction fields generalizing fields' with
  | nil =>
      cases h
      exact .nil
  | cons entry rest ih =>
      cases h with
      | cons hvalue hrest => exact .cons ⟨rfl, hvalue⟩ (ih hrest)

/-- A layout that declares no free list. -/
def Layout.Fixed (layout : Layout κ) : Prop := layout = .kept ∨ layout = .text

theorem Layout.Fixed.field {key : Str} (h : layout.Fixed) : (layout.field key).Fixed := by
  rcases h with rfl | rfl <;> exact .inl rfl

theorem Layout.Fixed.items (h : layout.Fixed) : layout.items.Fixed := by
  rcases h with rfl | rfl <;> exact .inl rfl

mutual

/-- A value without an object of two keys has nothing to reorder. -/
theorem Reordered.eq_of_plain {layout : Layout κ} (hfixed : layout.Fixed) :
    ∀ {v w : Json}, Reordered layout v w → v.plain = true → v = w
  | .arr items, w, h, hplain => by
      cases h with
      | same => rfl
      | array hitems =>
          exact congrArg Json.arr (ReorderedItems.eq_of_plain hfixed.items hitems hplain)
      | shuffled => rcases hfixed with h | h <;> cases h
  | .obj fields, w, h, hplain => by
      cases h with
      | same => rfl
      | @object _ _ between fields' _ hperm hfields =>
          rw [Json.plain, Bool.and_eq_true, decide_eq_true_eq] at hplain
          -- a list of at most one entry has one order
          have hsame : between = fields := by
            cases fields with
            | nil => exact hperm.symm.eq_nil
            | cons entry rest =>
                have hrest : rest = [] := by
                  have hlength := hplain.1
                  rw [List.length_cons] at hlength
                  exact List.length_eq_zero_iff.mp (by omega)
                subst hrest
                exact List.perm_singleton.mp hperm.symm
          subst hsame
          exact congrArg Json.obj (ReorderedFields.eq_of_plain hfixed hfields hplain.2)
  | .null, w, h, _ => by
      cases h
      rfl
  | .bool _, w, h, _ => by
      cases h
      rfl
  | .int _, w, h, _ => by
      cases h
      rfl
  | .str _, w, h, _ => by
      cases h
      rfl

theorem ReorderedItems.eq_of_plain {layout : Layout κ} (hfixed : layout.Fixed) :
    ∀ {vs ws : List Json}, ReorderedItems layout vs ws → Json.plainItems vs = true → vs = ws
  | [], ws, h, _ => by
      cases h
      rfl
  | v :: vs, ws, h, hplain => by
      rw [Json.plainItems, Bool.and_eq_true] at hplain
      cases h with
      | cons hhead hrest =>
          rw [Reordered.eq_of_plain hfixed hhead hplain.1,
            ReorderedItems.eq_of_plain hfixed hrest hplain.2]

theorem ReorderedFields.eq_of_plain {layout : Layout κ} (hfixed : layout.Fixed) :
    ∀ {vs ws : List (Str × Json)}, ReorderedFields layout vs ws → Json.plainFields vs = true →
      vs = ws
  | [], ws, h, _ => by
      cases h
      rfl
  | (key, v) :: vs, ws, h, hplain => by
      rw [Json.plainFields, Bool.and_eq_true] at hplain
      cases h with
      | cons hhead hrest =>
          rw [Reordered.eq_of_plain hfixed.field hhead hplain.1,
            ReorderedFields.eq_of_plain hfixed hrest hplain.2]

end

theorem isEmpty_eq_of_length_eq {α β : Type} {xs : List α} {ys : List β}
    (h : xs.length = ys.length) : xs.isEmpty = ys.isEmpty := by
  cases xs <;> cases ys <;> simp_all

namespace Reordered

variable {v w : Json}

theorem isObject (h : Reordered layout v w) : v.isObject = w.isObject := by
  cases h <;> rfl

theorem truthy (h : Reordered layout v w) : v.truthy = w.truthy := by
  cases h with
  | same => rfl
  | object _ hperm hfields =>
      exact congrArg not
        (isEmpty_eq_of_length_eq (hperm.length_eq.trans hfields.forall₂.length_eq))
  | array hitems => exact congrArg not (isEmpty_eq_of_length_eq hitems.forall₂.length_eq)
  | shuffled hperm hitems =>
      exact congrArg not
        (isEmpty_eq_of_length_eq (hperm.length_eq.trans hitems.forall₂.length_eq))

theorem toInt [Unicode] (h : Reordered layout v w) : v.toInt = w.toInt := by
  cases h <;> rfl

/-- Looking up a key finds the reordered value. -/
theorem get? (h : Reordered layout v w) (key : Str) :
    Option.Rel (Reordered (layout.field key)) (v.get? key) (w.get? key) := by
  cases h with
  | same =>
      cases v.get? key with
      | none => exact .none
      | some value => exact .some (.same _ value)
  | @object _ fields between fields' hnodup hperm hfields =>
      -- the keys are unique, so the first order does not matter
      show Option.Rel _ (Dict.get? fields key) (Dict.get? fields' key)
      rw [← Dict.get?_of_perm hperm.symm hnodup]
      exact Dict.rel_get?_of_forall₂ (R := fun k => Reordered (layout.field k)) hfields.forall₂ key
  | array => exact .none
  | shuffled => exact .none

/-- What a loop visits: the same, in another order where the list is free. -/
theorem elements {key : κ} (h : Reordered (.free key layout) v w) :
    Matches (fun xs ys => ∃ zs, xs.Perm zs ∧ List.Forall₂ (Reordered layout) zs ys)
      v.elements w.elements := by
  intro xs hxs
  cases h with
  | same =>
      exact ⟨xs, hxs, xs, .refl xs, List.forall₂_same.mpr fun x _ => .same layout x⟩
  | object _ hperm hfields =>
      cases hxs
      refine ⟨_, rfl, _, hperm.map _, ?_⟩
      rw [List.forall₂_map_left_iff, List.forall₂_map_right_iff]
      refine hfields.forall₂.imp fun a b hab => ?_
      rw [hab.1]
      exact .same layout _
  | array hitems =>
      cases hxs
      exact ⟨_, rfl, _, .refl _, hitems.forall₂⟩
  | shuffled hperm hitems =>
      cases hxs
      exact ⟨_, rfl, _, hperm, hitems.forall₂⟩

end Reordered

/-! ## What a test of every part says of one -/

namespace Layout

variable {list : κ → List Json → Bool} {leaf : Json → Bool} {v part : Json} {key : Str}

theorem each_find {fields : List (String × Layout κ)} (h : eachField list leaf fields v = true)
    (hget : v.get? key = some part) : (find fields key).each list leaf part = true := by
  induction fields with
  | nil => rfl
  | cons entry rest ih =>
      obtain ⟨name, layout⟩ := entry
      rw [eachField, Bool.and_eq_true] at h
      by_cases hname : str name = key
      · subst hname
        rw [find, if_pos rfl]
        rw [hget] at h
        exact h.1
      · rw [find, if_neg hname]
        exact ih h.2

theorem each_field (h : layout.each list leaf v = true) (hget : v.get? key = some part) :
    (layout.field key).each list leaf part = true := by
  cases layout with
  | kept => rfl
  | text => rfl
  | free => rfl
  | record fields => exact each_find h hget
  | entries values =>
      cases v with
      | obj fields => exact List.all_eq_true.mp h _ (Dict.mem_of_get? hget)
      | _ => cases hget

theorem each_elements {by' : κ} (h : (Layout.free by' layout).each list leaf v = true)
    {xs : List Json} (hxs : v.elements = .ok xs) :
    list by' xs = true ∧ ∀ x ∈ xs, layout.each list leaf x = true := by
  rw [each, hxs] at h
  simpa only [Bool.and_eq_true, List.all_eq_true] using h

end Layout

mutual

/-- Two tests of every part are one test of both. -/
theorem Layout.each_and {list list' : κ → List Json → Bool} {leaf leaf' : Json → Bool} :
    ∀ (layout : Layout κ) (v : Json),
      layout.each (fun key xs => list key xs && list' key xs) (fun v => leaf v && leaf' v) v = true ↔
        layout.each list leaf v = true ∧ layout.each list' leaf' v = true
  | .kept, v => by simp [each]
  | .text, v => by rw [each, each, each, Bool.and_eq_true]
  | .entries values, v => by
      cases v with
      | obj fields =>
          simp only [each, List.all_eq_true, each_and values]
          exact ⟨fun h => ⟨fun x hx => (h x hx).1, fun x hx => (h x hx).2⟩,
            fun h x hx => ⟨h.1 x hx, h.2 x hx⟩⟩
      | _ => simp [each]
  | .free key items, v => by
      rw [each, each, each]
      cases v.elements with
      | error e => simp
      | ok xs =>
          simp only [Bool.and_eq_true, List.all_eq_true, each_and items]
          exact ⟨fun h => ⟨⟨h.1.1, fun x hx => (h.2 x hx).1⟩, ⟨h.1.2, fun x hx => (h.2 x hx).2⟩⟩,
            fun h => ⟨⟨h.1.1, h.2.1⟩, fun x hx => ⟨h.1.2 x hx, h.2.2 x hx⟩⟩⟩
  | .record fields, v => eachField_and fields v

theorem Layout.eachField_and {list list' : κ → List Json → Bool} {leaf leaf' : Json → Bool} :
    ∀ (fields : List (String × Layout κ)) (v : Json),
      eachField (fun key xs => list key xs && list' key xs) (fun v => leaf v && leaf' v) fields v =
          true ↔
        eachField list leaf fields v = true ∧ eachField list' leaf' fields v = true
  | [], v => by simp [eachField]
  | (name, layout) :: rest, v => by
      rw [eachField, eachField, eachField, Bool.and_eq_true, Bool.and_eq_true, Bool.and_eq_true,
        eachField_and rest]
      cases v.get? (str name) with
      | none => simp
      | some part =>
          dsimp only
          rw [each_and layout part]
          exact and_and_and_comm

end

/-! ## What a reader relies on -/

/-- The second value is the first in another order, and each part of the first is as a reader
relies on: `list` tests what is sorted, and what is rendered as text has no order of keys. -/
structure Alike (list : κ → List Json → Bool) (layout : Layout κ) (v w : Json) : Prop where
  reordered : Reordered layout v w
  each : layout.each list Json.plain v = true

namespace Alike

variable {list : κ → List Json → Bool} {v w default : Json}

theorem same (h : layout.each list Json.plain v = true) : Alike list layout v v :=
  ⟨.same layout v, h⟩

theorem kept (h : Reordered (.kept : Layout κ) v w) : Alike list .kept v w := ⟨h, rfl⟩

/-- What is rendered as text is the same text. -/
theorem eq (h : Alike list .text v w) : v = w := h.reordered.eq_of_plain (.inr rfl) h.each

theorem get? (h : Alike list layout v w) (key : Str) :
    Option.Rel (Alike list (layout.field key)) (v.get? key) (w.get? key) := by
  have hrel := h.reordered.get? key
  generalize hv : v.get? key = found, w.get? key = found' at hrel ⊢
  cases hrel with
  | none => exact .none
  | some hab => exact .some ⟨hab, Layout.each_field h.each hv⟩

theorem getItem (h : Alike list layout v w) {key : Str} (part : Layout κ)
    (hfield : layout.field key = part) :
    Matches (Alike list part) (v.getItem key) (w.getItem key) := by
  intro a ha
  have hrel := h.get? key
  rw [Json.getItem_eq_ok_iff.mp ha, hfield] at hrel
  generalize hw : w.get? key = found at hrel
  cases hrel with
  | some hab => exact ⟨_, Json.getItem_eq_ok_iff.mpr hw, hab⟩

theorem getOr (h : Alike list layout v w) {key : Str} (part : Layout κ)
    (hfield : layout.field key = part)
    (hdefault : part.each list Json.plain default = true) :
    Matches (Alike list part) (v.getOr key default) (w.getOr key default) := by
  intro a ha
  have hobject := h.reordered.isObject
  have hrel := h.get? key
  cases v with
  | obj fields =>
      cases w with
      | obj fields' =>
          cases ha
          refine ⟨_, rfl, ?_⟩
          rw [hfield] at hrel
          rw [Json.get?_obj, Json.get?_obj] at hrel
          generalize Dict.get? fields key = found, Dict.get? fields' key = found' at hrel ⊢
          cases hrel with
          | none => exact same hdefault
          | some hab => exact hab
      | _ => cases hobject
  | _ => cases ha

theorem orElse (h : Alike list layout v w)
    (hdefault : layout.each list Json.plain default = true) :
    Alike list layout (v.orElse default) (w.orElse default) := by
  rw [Json.orElse, Json.orElse, h.reordered.truthy]
  split
  · exact h
  · exact same hdefault

/-- What a loop visits, in another order. -/
theorem elements {key : κ} (h : Alike list (.free key layout) v w) :
    Matches (fun xs ys => list key xs = true ∧
      ∃ zs, xs.Perm zs ∧ List.Forall₂ (Alike list layout) zs ys) v.elements w.elements := by
  intro xs hxs
  obtain ⟨ys, hys, zs, hperm, hzs⟩ := h.reordered.elements xs hxs
  obtain ⟨hlist, heach⟩ := Layout.each_elements h.each hxs
  refine ⟨ys, hys, hlist, zs, hperm, ?_⟩
  refine List.forall₂_iff_zip.mpr ⟨hzs.length_eq, fun {a b} hab => ?_⟩
  refine ⟨(List.forall₂_iff_zip.mp hzs).2 hab, heach a (hperm.mem_iff.mpr ?_)⟩
  exact (List.of_mem_zip hab).1

/-- The entries of an object of texts have one sorted list. -/
theorem pairs (h : Alike list (.entries .text) v w) :
    Matches (fun xs ys => sortedBy Prod.fst xs = sortedBy Prod.fst ys) v.pairs w.pairs := by
  intro xs hxs
  obtain ⟨hreordered, heach⟩ := h
  cases hreordered with
  | same => exact ⟨xs, hxs, rfl⟩
  | @object _ fields between fields' hnodup hperm hfields =>
      cases hxs
      -- no value differs, so only the order of the entries does
      have hsame : between = fields' := by
        refine List.forall₂_eq_eq_eq ▸ ?_
        refine List.forall₂_iff_zip.mpr ⟨hfields.forall₂.length_eq, fun {a b} hab => ?_⟩
        obtain ⟨hkey, hvalue⟩ := (List.forall₂_iff_zip.mp hfields.forall₂).2 hab
        have hplain := List.all_eq_true.mp heach a
          (hperm.mem_iff.mpr (List.of_mem_zip hab).1)
        exact Prod.ext hkey (hvalue.eq_of_plain (.inr rfl) hplain)
      subst hsame
      refine ⟨_, rfl, sortedBy_eq_of_perm (fun a ha b hb hkey => ?_) hperm⟩
      exact List.inj_on_of_nodup_map hnodup ha hb hkey
  | array => cases hxs

end Alike

end Secp.Python
