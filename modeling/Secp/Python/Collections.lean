import Mathlib.Data.List.Forall2
import Mathlib.Data.List.Nodup
import Mathlib.Data.List.Sort
import Secp.Python.Text

/-!
# Dictionaries and sorting

A `dict` keeps its keys in insertion order and overwrites in place; `sorted` is stable. Both are
lists here. The facts used elsewhere are that a dictionary built from distinct keys is the list it
was built from, that a lookup finds exactly the last value written, and that sorting permutes.
-/

namespace Secp.Python

variable {α κ β : Type}

/-! ## Sorting -/

/-- `sorted(xs, key=key)`. -/
def sortedBy [Ord κ] (key : α → κ) (xs : List α) : List α :=
  xs.insertionSort fun a b => (compare (key a) (key b)).isLE = true

/-- Sorting permutes. -/
theorem sortedBy_perm [Ord κ] (key : α → κ) (xs : List α) : (sortedBy key xs).Perm xs :=
  List.perm_insertionSort _ xs

@[simp] theorem mem_sortedBy [Ord κ] {key : α → κ} {xs : List α} {x : α} :
    x ∈ sortedBy key xs ↔ x ∈ xs :=
  (sortedBy_perm key xs).mem_iff

/-- Tuples compare component by component. -/
instance instOrdProd {α β : Type} [Ord α] [Ord β] : Ord (α × β) := lexOrd

section
variable [Ord κ] [Std.TransOrd κ] (key : α → κ)

/-- The order of sorting compares any two items. -/
theorem total_byKey : Std.Total fun a b : α => (compare (key a) (key b)).isLE = true := by
  refine ⟨fun a b => ?_⟩
  have hswap : compare (key b) (key a) = (compare (key a) (key b)).swap :=
    Std.OrientedCmp.eq_swap
  rw [hswap]
  cases compare (key a) (key b) <;> simp

theorem isTrans_byKey : IsTrans α fun a b => (compare (key a) (key b)).isLE = true :=
  ⟨fun _ _ _ => Std.TransCmp.isLE_trans⟩

/-- The result is ordered by key. -/
theorem pairwise_sortedBy (xs : List α) :
    (sortedBy key xs).Pairwise fun a b => (compare (key a) (key b)).isLE = true := by
  have := total_byKey key
  have := isTrans_byKey key
  exact List.pairwise_insertionSort _ xs

end

section
variable [Ord κ] [Std.TransOrd κ] [Std.LawfulEqOrd κ] {key : α → κ} {xs ys : List α}

/-- Items that differ in their keys have one sorted list. -/
theorem sortedBy_eq_of_pairwise (hinj : ∀ x ∈ xs, ∀ y ∈ xs, key x = key y → x = y)
    (hsorted : ys.Pairwise fun a b => (compare (key a) (key b)).isLE = true) (h : xs.Perm ys) :
    sortedBy key xs = ys := by
  refine List.Perm.eq_of_pairwise (fun x y hx hy hxy hyx => ?_) (pairwise_sortedBy key xs) hsorted
    ((sortedBy_perm key xs).trans h)
  exact hinj x (mem_sortedBy.mp hx) y (h.mem_iff.mpr hy)
    (Std.LawfulEqOrd.eq_of_compare (Std.OrientedCmp.isLE_antisymm hxy hyx))

theorem sortedBy_eq_of_perm (hinj : ∀ x ∈ xs, ∀ y ∈ xs, key x = key y → x = y) (h : xs.Perm ys) :
    sortedBy key xs = sortedBy key ys :=
  sortedBy_eq_of_pairwise hinj (pairwise_sortedBy key ys) (h.trans (sortedBy_perm key ys).symm)

/-- Distinct keys are sorted strictly. -/
theorem pairwise_lt_sortedBy (hnodup : (xs.map key).Nodup) :
    (sortedBy key xs).Pairwise fun a b => compare (key a) (key b) = .lt := by
  have hkeys : ((sortedBy key xs).map key).Nodup :=
    ((sortedBy_perm key xs).map key).nodup_iff.mpr hnodup
  refine ((pairwise_sortedBy key xs).and (List.pairwise_map.mp hkeys)).imp fun {a b} hab => ?_
  cases hcompare : compare (key a) (key b) with
  | lt => rfl
  | eq => exact absurd (Std.LawfulEqOrd.eq_of_compare hcompare) hab.2
  | gt =>
      have hisLE := hab.1
      rw [hcompare] at hisLE
      cases hisLE

variable [DecidableEq κ]

/-- Sorting is stable: the items of one key keep their order. -/
theorem filter_sortedBy (k : κ) (xs : List α) :
    (sortedBy key xs).filter (fun x => key x = k) = xs.filter fun x => key x = k := by
  have := total_byKey key
  have := isTrans_byKey key
  have hequal : (xs.filter fun x => key x = k).Pairwise fun a b =>
      (compare (key a) (key b)).isLE = true := by
    refine List.pairwise_of_forall_mem_list fun a ha b hb => ?_
    have hka : key a = k := by simpa using (List.mem_filter.mp ha).2
    have hkb : key b = k := by simpa using (List.mem_filter.mp hb).2
    rw [hka, hkb, Std.ReflOrd.compare_self]
    rfl
  have hsub : (xs.filter fun x => key x = k).Sublist
      ((sortedBy key xs).filter fun x => key x = k) := by
    have h : (xs.filter fun x => key x = k).Sublist (sortedBy key xs) :=
      List.sublist_insertionSort hequal List.filter_sublist
    simpa only [List.filter_filter, Bool.and_self] using h.filter fun x => decide (key x = k)
  refine (hsub.eq_of_length ?_).symm
  exact ((sortedBy_perm key xs).filter _).length_eq.symm

end

/-- Sorting commutes with a map that keeps the keys. -/
theorem sortedBy_map [Ord κ] {key : α → κ} {key' : β → κ} {f : α → β} (hkey : ∀ x, key' (f x) = key x)
    (xs : List α) : sortedBy key' (xs.map f) = (sortedBy key xs).map f := by
  refine (List.map_insertionSort _ _ f xs fun a _ b _ => ?_).symm
  rw [hkey, hkey]

/-- Sorting a sorted list changes nothing. -/
@[simp] theorem sortedBy_sortedBy [Ord κ] [Std.TransOrd κ] (key : α → κ) (xs : List α) :
    sortedBy key (sortedBy key xs) = sortedBy key xs :=
  (pairwise_sortedBy key xs).insertionSort_eq

/-- Searching by a field that is different everywhere finds the item searched for. -/
theorem find?_of_nodup [DecidableEq κ] {field : α → κ} {xs : List α} {x : α}
    (hnodup : (xs.map field).Nodup) (hx : x ∈ xs) :
    xs.find? (fun y => field y = field x) = some x := by
  cases h : xs.find? fun y => field y = field x with
  | none =>
      have := List.find?_eq_none.mp h x hx
      simp at this
  | some y =>
      have hy : y ∈ xs := List.mem_of_find?_eq_some h
      have hfield : field y = field x := by simpa using List.find?_some h
      rw [List.inj_on_of_nodup_map hnodup hy hx hfield]

/-! ## Dictionaries -/

/-- A dictionary, in insertion order. -/
abbrev Dict (κ β : Type) := List (κ × β)

namespace Dict

variable [DecidableEq κ]

/-- `d.get(k)`. -/
def get? : Dict κ β → κ → Option β
  | [], _ => none
  | (k', v) :: rest, k => if k' = k then some v else get? rest k

/-- `d[k] = v`: an existing key keeps its place. -/
def set : Dict κ β → κ → β → Dict κ β
  | [], k, v => [(k, v)]
  | (k', v') :: rest, k, v => if k' = k then (k', v) :: rest else (k', v') :: set rest k v

/-- `{k: v for …}`: later pairs win. -/
def ofPairs (pairs : List (κ × β)) : Dict κ β :=
  pairs.foldl (fun d pair => set d pair.1 pair.2) []

/-- Whether `k in d`. -/
def hasKey (d : Dict κ β) (k : κ) : Bool := (d.get? k).isSome

theorem hasKey_iff {d : Dict κ β} {k : κ} : d.hasKey k = true ↔ d.get? k ≠ none := by
  rw [hasKey, Option.isSome_iff_ne_none]

@[simp] theorem get?_nil (k : κ) : get? ([] : Dict κ β) k = none := rfl

theorem get?_set (d : Dict κ β) (k j : κ) (v : β) :
    get? (set d k v) j = if k = j then some v else get? d j := by
  induction d with
  | nil => simp [set, get?]
  | cons entry rest ih =>
      obtain ⟨k', v'⟩ := entry
      by_cases hk : k' = k
      · subst hk
        by_cases hj : k' = j <;> simp [set, get?, hj]
      · by_cases hj : k' = j
        · subst hj
          simp [set, get?, hk, Ne.symm hk]
        · simp [set, get?, hk, hj, ih]

theorem set_ne_nil (d : Dict κ β) (k : κ) (v : β) : set d k v ≠ [] := by
  intro hnil
  have hget := get?_set d k k v
  rw [hnil, if_pos rfl] at hget
  cases hget

/-- A key outside the dictionary is appended. -/
theorem set_of_not_mem {d : Dict κ β} {k : κ} {v : β} (h : k ∉ d.map Prod.fst) :
    set d k v = d ++ [(k, v)] := by
  induction d with
  | nil => rfl
  | cons entry rest ih =>
      obtain ⟨k', v'⟩ := entry
      simp only [List.map_cons, List.mem_cons, not_or] at h
      simp [set, Ne.symm h.1, ih h.2]

/-- The keys after a write. -/
theorem mem_keys_set {d : Dict κ β} {k j : κ} {v : β} :
    j ∈ (set d k v).map Prod.fst ↔ j = k ∨ j ∈ d.map Prod.fst := by
  induction d with
  | nil => simp [set]
  | cons entry rest ih =>
      obtain ⟨k', v'⟩ := entry
      by_cases hk : k' = k
      · subst hk
        simp [set]
      · simp only [set, hk, ite_false, List.map_cons, List.mem_cons, ih]
        tauto

theorem nodup_keys_set {d : Dict κ β} (h : (d.map Prod.fst).Nodup) (k : κ) (v : β) :
    ((set d k v).map Prod.fst).Nodup := by
  induction d with
  | nil => simp [set]
  | cons entry rest ih =>
      obtain ⟨k', v'⟩ := entry
      by_cases hk : k' = k
      · subst hk
        simpa [set] using h
      · simp only [List.map_cons, List.nodup_cons] at h
        rw [set, if_neg hk]
        simp only [List.map_cons, List.nodup_cons, mem_keys_set, not_or]
        exact ⟨⟨hk, h.1⟩, ih h.2⟩

theorem mem_of_get? {d : Dict κ β} {k : κ} {v : β} (h : d.get? k = some v) : (k, v) ∈ d := by
  induction d with
  | nil => simp at h
  | cons entry rest ih =>
      obtain ⟨k', v'⟩ := entry
      by_cases hk : k' = k
      · subst hk
        simp only [get?, ite_true, Option.some.injEq] at h
        simp [h]
      · simp only [get?, hk, ite_false] at h
        exact List.mem_cons_of_mem _ (ih h)

/-- With distinct keys a lookup finds every entry. -/
theorem get?_of_mem {d : Dict κ β} (hnodup : (d.map Prod.fst).Nodup) {k : κ} {v : β}
    (h : (k, v) ∈ d) : d.get? k = some v := by
  induction d with
  | nil => simp at h
  | cons entry rest ih =>
      obtain ⟨k', v'⟩ := entry
      simp only [List.map_cons, List.nodup_cons] at hnodup
      rcases List.mem_cons.mp h with heq | hrest
      · cases heq
        simp [get?]
      · have hne : k' ≠ k := by
          rintro rfl
          exact hnodup.1 (List.mem_map_of_mem hrest)
        simp [get?, hne, ih hnodup.2 hrest]

theorem get?_eq_none_iff {d : Dict κ β} {k : κ} : d.get? k = none ↔ k ∉ d.map Prod.fst := by
  induction d with
  | nil => simp
  | cons entry rest ih =>
      obtain ⟨k', v'⟩ := entry
      by_cases hk : k' = k
      · simp [get?, hk]
      · simp [get?, hk, ih, Ne.symm hk]

/-- A dictionary is looked up alike in any order. -/
theorem get?_of_perm {d d' : Dict κ β} (h : d'.Perm d) (hkeys : (d.map Prod.fst).Nodup) (k : κ) :
    d'.get? k = d.get? k := by
  have hkeys' : (d'.map Prod.fst).Nodup := (h.map Prod.fst).nodup_iff.mpr hkeys
  cases hget : d.get? k with
  | none =>
      rw [get?_eq_none_iff] at hget ⊢
      rwa [(h.map Prod.fst).mem_iff]
  | some value => exact get?_of_mem hkeys' (h.mem_iff.mpr (mem_of_get? hget))

/-- Dictionaries related key by key hold related values. -/
theorem rel_get?_of_forall₂ {R : κ → α → β → Prop} {d : Dict κ α} {d' : Dict κ β}
    (h : List.Forall₂ (fun a b => a.1 = b.1 ∧ R a.1 a.2 b.2) d d') (k : κ) :
    Option.Rel (R k) (d.get? k) (d'.get? k) := by
  induction h with
  | nil => exact .none
  | @cons a b _ _ hab _ ih =>
      obtain ⟨j, x⟩ := a
      obtain ⟨j', y⟩ := b
      obtain ⟨hkey, hR⟩ := hab
      dsimp only at hkey hR
      subst hkey
      by_cases hj : j = k
      · subst hj
        rw [get?, get?, if_pos rfl, if_pos rfl]
        exact .some hR
      · rw [get?, get?, if_neg hj, if_neg hj]
        exact ih

theorem nodup_keys_foldl_set (pairs : List (κ × β)) {d : Dict κ β} (h : (d.map Prod.fst).Nodup) :
    ((pairs.foldl (fun d pair => set d pair.1 pair.2) d).map Prod.fst).Nodup := by
  induction pairs generalizing d with
  | nil => exact h
  | cons pair rest ih => exact ih (nodup_keys_set h pair.1 pair.2)

theorem nodup_keys_ofPairs (pairs : List (κ × β)) : ((ofPairs pairs).map Prod.fst).Nodup :=
  nodup_keys_foldl_set pairs List.nodup_nil

theorem foldl_set_of_nodup (pairs : List (κ × β)) (d : Dict κ β)
    (h : ((d ++ pairs).map Prod.fst).Nodup) :
    pairs.foldl (fun d pair => set d pair.1 pair.2) d = d ++ pairs := by
  induction pairs generalizing d with
  | nil => simp
  | cons pair rest ih =>
      have hnot : pair.1 ∉ d.map Prod.fst := by
        intro hmem
        rw [List.map_append, List.map_cons] at h
        exact (List.nodup_append'.mp h).2.2 hmem List.mem_cons_self
      rw [List.foldl_cons, set_of_not_mem hnot, ih _ (by simpa using h)]
      simp

/-- A dictionary built from distinct keys is the list of pairs itself. -/
theorem ofPairs_of_nodup {pairs : List (κ × β)} (h : (pairs.map Prod.fst).Nodup) :
    ofPairs pairs = pairs := by
  simpa [ofPairs] using foldl_set_of_nodup pairs [] (by simpa using h)

theorem get?_foldl_set (pairs : List (κ × β)) (d : Dict κ β) (k : κ) :
    get? (pairs.foldl (fun d pair => set d pair.1 pair.2) d) k =
      ((pairs.reverse.find? fun pair => pair.1 = k).map Prod.snd).or (d.get? k) := by
  induction pairs generalizing d with
  | nil => simp
  | cons pair rest ih =>
      rw [List.foldl_cons, ih, get?_set, List.reverse_cons, List.find?_append]
      by_cases hk : pair.1 = k
      · cases rest.reverse.find? fun pair => pair.1 = k <;> simp [hk]
      · cases rest.reverse.find? fun pair => pair.1 = k <;> simp [hk]

/-- A lookup finds the last pair written under its key. -/
theorem get?_ofPairs (pairs : List (κ × β)) (k : κ) :
    (ofPairs pairs).get? k = (pairs.reverse.find? fun pair => pair.1 = k).map Prod.snd := by
  rw [ofPairs, get?_foldl_set, get?_nil, Option.or_none]

theorem mem_of_get?_ofPairs {pairs : List (κ × β)} {k : κ} {v : β}
    (h : (ofPairs pairs).get? k = some v) : (k, v) ∈ pairs := by
  rw [get?_ofPairs, Option.map_eq_some_iff] at h
  obtain ⟨pair, hfind, rfl⟩ := h
  have hkey : pair.1 = k := by simpa using List.find?_some hfind
  exact hkey ▸ List.mem_reverse.mp (List.mem_of_find?_eq_some hfind)

/-- Every key that is written is found. -/
theorem exists_get?_ofPairs {pairs : List (κ × β)} {k : κ} (h : k ∈ pairs.map Prod.fst) :
    ∃ v, (ofPairs pairs).get? k = some v := by
  rw [get?_ofPairs]
  cases hfind : pairs.reverse.find? fun pair => pair.1 = k with
  | none =>
      obtain ⟨pair, hpair, rfl⟩ := List.mem_map.mp h
      exact absurd (decide_eq_true rfl) (List.find?_eq_none.mp hfind pair (List.mem_reverse.mpr hpair))
  | some pair => exact ⟨pair.2, rfl⟩

/-- The first hits of tests that agree on related items are related. -/
theorem rel_find? {R : α → β → Prop} {xs : List α} {ys : List β} {p : α → Bool} {q : β → Bool}
    (h : List.Forall₂ R xs ys) (hagree : ∀ x y, R x y → p x = q y) :
    Option.Rel R (xs.find? p) (ys.find? q) := by
  induction h with
  | nil => exact .none
  | cons hxy _ ih =>
      rw [List.find?_cons, List.find?_cons, hagree _ _ hxy]
      split
      · exact .some hxy
      · exact ih

/-- Indexes by keys that agree on related items hold related items. -/
theorem rel_get?_ofPairs {R : α → β → Prop} {xs : List α} {ys : List β} {f : α → κ} {g : β → κ}
    (h : List.Forall₂ R xs ys) (hkey : ∀ x y, R x y → f x = g y) (k : κ) :
    Option.Rel R ((ofPairs (xs.map fun x => (f x, x))).get? k)
      ((ofPairs (ys.map fun y => (g y, y))).get? k) := by
  have hlookup : ∀ {γ : Type} (key : γ → κ) (zs : List γ),
      (ofPairs (zs.map fun z => (key z, z))).get? k = zs.reverse.find? fun z => key z = k := by
    intro γ key zs
    rw [get?_ofPairs, ← List.map_reverse, List.find?_map, Option.map_map]
    exact congrFun Option.map_id _
  rw [hlookup, hlookup]
  refine rel_find? (List.rel_reverse h) fun x y hxy => ?_
  rw [hkey x y hxy]

/-- An index by a field that is different everywhere finds exactly the items indexed. -/
theorem get?_index {field : α → κ} {xs : List α} (hnodup : (xs.map field).Nodup) {k : κ} {x : α} :
    (ofPairs (xs.map fun x => (field x, x))).get? k = some x ↔ x ∈ xs ∧ field x = k := by
  constructor
  · intro h
    obtain ⟨y, hy, heq⟩ := List.mem_map.mp (mem_of_get?_ofPairs h)
    obtain ⟨rfl, rfl⟩ := Prod.mk.inj heq
    exact ⟨hy, rfl⟩
  · rintro ⟨hx, rfl⟩
    have hkeys : ((xs.map fun x => (field x, x)).map Prod.fst).Nodup := by
      rw [List.map_map]
      exact hnodup
    rw [ofPairs_of_nodup hkeys]
    exact get?_of_mem hkeys (List.mem_map_of_mem hx)

/-! ## Grouping -/

/-- `for x in xs: d.setdefault(key(x), []).append(x)`, starting from `d`. -/
def pushAll (key : α → κ) (d : Dict κ (List α)) (xs : List α) : Dict κ (List α) :=
  xs.foldl (fun d x => d.set (key x) ((d.get? (key x)).getD [] ++ [x])) d

/-- The items grouped by key, groups in order of first appearance. -/
def groupBy (key : α → κ) (xs : List α) : Dict κ (List α) := pushAll key [] xs

theorem nodup_keys_pushAll (key : α → κ) (xs : List α) {d : Dict κ (List α)}
    (h : (d.map Prod.fst).Nodup) : ((pushAll key d xs).map Prod.fst).Nodup := by
  induction xs generalizing d with
  | nil => exact h
  | cons x xs ih => exact ih (nodup_keys_set h _ _)

theorem get?_pushAll (key : α → κ) (xs : List α) (d : Dict κ (List α)) (k : κ) :
    get? (pushAll key d xs) k =
      if k ∈ xs.map key then some ((d.get? k).getD [] ++ xs.filter fun x => key x = k)
      else d.get? k := by
  induction xs generalizing d with
  | nil => simp [pushAll]
  | cons x xs ih =>
      have hstep : pushAll key d (x :: xs) =
          pushAll key (d.set (key x) ((d.get? (key x)).getD [] ++ [x])) xs := rfl
      rw [hstep, ih, get?_set]
      by_cases hk : key x = k
      · by_cases hmem : k ∈ xs.map key
        · simp [hmem, hk]
        · have hnone : xs.filter (fun y => decide (key y = k)) = [] := by
            refine List.filter_eq_nil_iff.mpr fun y hy hkey => hmem ?_
            exact List.mem_map.mpr ⟨y, hy, by simpa using hkey⟩
          simp [hmem, hk, hnone]
      · simp [hk, Ne.symm hk]

/-- A group holds exactly the items with its key, in order. -/
theorem mem_groupBy {key : α → κ} {xs : List α} {k : κ} {group : List α} :
    (k, group) ∈ groupBy key xs ↔
      k ∈ xs.map key ∧ group = xs.filter fun x => key x = k := by
  have hnodup := nodup_keys_pushAll (d := []) key xs List.nodup_nil
  have hget := get?_pushAll key xs [] k
  constructor
  · intro h
    rw [get?_of_mem hnodup h] at hget
    split at hget
    · rename_i hmem
      exact ⟨hmem, by simpa using hget⟩
    · simp at hget
  · rintro ⟨hmem, rfl⟩
    rw [if_pos hmem] at hget
    exact mem_of_get? (d := pushAll key [] xs) (by simpa using hget)

theorem nodup_keys_groupBy (key : α → κ) (xs : List α) :
    ((groupBy key xs).map Prod.fst).Nodup := nodup_keys_pushAll key xs List.nodup_nil

end Dict

end Secp.Python
