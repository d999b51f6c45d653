import Mathlib.Data.List.Forall2
import Secp.Python.Text

/-!
# Regular expressions

The part of `re` the repository's patterns use: classes of characters, bounded repetitions of a class,
word boundaries, sequences and alternatives. `run` gives every place a pattern can end at; `search`
tries every start and `fullmatch` asks for the whole text. `Takes` is the language of a pattern without
its boundaries: whatever a pattern matches, it takes.
-/

namespace Secp.Python

inductive Re where
  | empty
  | char (p : Char → Bool)
  | many (p : Char → Bool) (min : Nat) (max : Option Nat)
  | boundary
  | seq (a b : Re)
  | alt (a b : Re)

namespace Re

/-! ## Patterns -/

/-- A character under `re.IGNORECASE`, for a pattern character that is an ASCII letter in lower case or
has no case. Four characters outside ASCII fold to ASCII letters. -/
def sameIgnoringCase (c d : Char) : Bool :=
  asciiLower d = c || (c = 'i' && (d.toNat = 0x130 || d.toNat = 0x131)) ||
    (c = 's' && d.toNat = 0x17F) || (c = 'k' && d.toNat = 0x212A)

/-- The sequence of some patterns. -/
def all : List Re → Re
  | [] => .empty
  | [r] => r
  | r :: rest => .seq r (all rest)

/-- A text, character by character. -/
def word (s : Str) : Re := all (s.map fun c => .char fun d => d = c)

/-- A text under `re.IGNORECASE`, given in lower case. -/
def wordIgnoringCase (s : Str) : Re := all (s.map fun c => .char (sameIgnoringCase c))

/-! ## Matching -/

/-- A place in a text: the character before it and what follows. -/
structure Place where
  before : Option Char
  rest : Str

/-- The places after `min` to `max` characters of a class. -/
def manyFrom (p : Char → Bool) (min : Nat) (max : Option Nat) (before : Option Char) :
    Str → List Place
  | [] => if min = 0 then [⟨before, []⟩] else []
  | c :: rest =>
      (if min = 0 then [⟨before, c :: rest⟩] else []) ++
        if max ≠ some 0 && p c then manyFrom p (min - 1) (max.map (· - 1)) (some c) rest else []

section
variable [Unicode]

/-- `\w`. -/
def isWord (c : Char) : Bool := isAlnum c || c = '_'

/-- `\b`. -/
def Place.atBoundary (place : Place) : Bool :=
  place.before.any isWord != place.rest.head?.any isWord

/-- Every place a pattern can end at, from a place. -/
def run : Re → Place → List Place
  | .empty, place => [place]
  | .char p, ⟨_, c :: rest⟩ => if p c then [⟨some c, rest⟩] else []
  | .char _, ⟨_, []⟩ => []
  | .many p min max, ⟨before, rest⟩ => manyFrom p min max before rest
  | .boundary, place => if place.atBoundary then [place] else []
  | .seq a b, place => (run a place).flatMap (run b)
  | .alt a b, place => run a place ++ run b place

/-- Every place of a text. -/
def places (before : Option Char) : Str → List Place
  | [] => [⟨before, []⟩]
  | c :: rest => ⟨before, c :: rest⟩ :: places (some c) rest

/-- `pattern.search(s)` finds something. -/
def search (r : Re) (s : Str) : Bool := (places none s).any fun place => !(r.run place).isEmpty

/-- `pattern.fullmatch(s)` finds something. -/
def fullmatch (r : Re) (s : Str) : Bool := (r.run ⟨none, s⟩).any fun place => place.rest.isEmpty

end

/-! ## The language of a pattern -/

/-- A text a pattern can match when its boundaries are left out. -/
def Takes : Re → Str → Prop
  | .empty, w => w = []
  | .char p, w => ∃ c, w = [c] ∧ p c = true
  | .many p min max, w => min ≤ w.length ∧ (∀ m ∈ max, w.length ≤ m) ∧ ∀ c ∈ w, p c = true
  | .boundary, w => w = []
  | .seq a b, w => ∃ u v, w = u ++ v ∧ Takes a u ∧ Takes b v
  | .alt a b, w => Takes a w ∨ Takes b w

/-- Classes a match has a character of. -/
def needs : Re → List (Char → Bool)
  | .char p => [p]
  | .many p (_ + 1) _ => [p]
  | .seq a b => needs a ++ needs b
  | _ => []

/-- A class of the pattern has the character. -/
def allows : Re → Char → Bool
  | .char p, c => p c
  | .many p _ _, c => p c
  | .seq a b, c => a.allows c || b.allows c
  | .alt a b, c => a.allows c || b.allows c
  | _, _ => false

section
variable {r : Re} {s w : Str} {p : Char → Bool} {place place' : Place}

theorem takes_of_mem_manyFrom {min : Nat} {max : Option Nat} {before : Option Char}
    (h : place ∈ manyFrom p min max before s) :
    ∃ w, s = w ++ place.rest ∧ Takes (.many p min max) w := by
  induction s generalizing min max before with
  | nil =>
      unfold manyFrom at h
      split at h
      · next hmin =>
          rw [List.mem_singleton.mp h]
          exact ⟨[], rfl, hmin ▸ Nat.le_refl 0, fun _ _ => Nat.zero_le _, fun _ hc => by cases hc⟩
      · cases h
  | cons c rest ih =>
      unfold manyFrom at h
      rcases List.mem_append.mp h with h | h
      · split at h
        · next hmin =>
            rw [List.mem_singleton.mp h]
            exact ⟨[], rfl, hmin ▸ Nat.le_refl 0, fun _ _ => Nat.zero_le _, fun _ hc => by cases hc⟩
        · cases h
      · split at h
        · next hc =>
            obtain ⟨hmax, hclass⟩ := Bool.and_eq_true_iff.mp hc
            obtain ⟨w, hrest, hleast, hmost, hall⟩ := ih h
            refine ⟨c :: w, by rw [hrest]; rfl, ?_, fun m hm => ?_, fun d hd => ?_⟩
            · rw [List.length_cons]
              omega
            · rw [Option.mem_def.mp hm] at hmax hmost
              have hpos : m ≠ 0 := by simpa using hmax
              have hlength := hmost (m - 1) rfl
              rw [List.length_cons]
              omega
            · rcases List.mem_cons.mp hd with rfl | hd
              · exact hclass
              · exact hall d hd
        · cases h

variable [Unicode]

theorem takes_of_mem_run (h : place' ∈ r.run place) : ∃ w, place.rest = w ++ place'.rest ∧ Takes r w := by
  induction r generalizing place place' with
  | empty =>
      rw [List.mem_singleton.mp h]
      exact ⟨[], rfl, rfl⟩
  | char p =>
      obtain ⟨before, rest⟩ := place
      cases rest with
      | nil => cases h
      | cons c rest =>
          unfold run at h
          split at h
          · next hc =>
              rw [List.mem_singleton.mp h]
              exact ⟨[c], rfl, c, rfl, hc⟩
          · cases h
  | many p min max => exact takes_of_mem_manyFrom h
  | boundary =>
      unfold run at h
      split at h
      · rw [List.mem_singleton.mp h]
        exact ⟨[], rfl, rfl⟩
      · cases h
  | seq a b iha ihb =>
      obtain ⟨middle, hmiddle, hend⟩ := List.mem_flatMap.mp h
      obtain ⟨u, hu, htakes⟩ := iha hmiddle
      obtain ⟨v, hv, htakes'⟩ := ihb hend
      exact ⟨u ++ v, by rw [hu, hv, List.append_assoc], u, v, rfl, htakes, htakes'⟩
  | alt a b iha ihb =>
      rcases List.mem_append.mp h with h | h
      · obtain ⟨w, hw, htakes⟩ := iha h
        exact ⟨w, hw, .inl htakes⟩
      · obtain ⟨w, hw, htakes⟩ := ihb h
        exact ⟨w, hw, .inr htakes⟩

/-- A pattern that matches a whole text takes it. -/
theorem takes_of_fullmatch (h : r.fullmatch s = true) : Takes r s := by
  obtain ⟨place, hplace, hend⟩ := List.any_eq_true.mp h
  obtain ⟨w, hw, htakes⟩ := takes_of_mem_run hplace
  rw [List.isEmpty_iff.mp hend, List.append_nil] at hw
  exact (show s = w from hw) ▸ htakes

omit [Unicode] in
theorem rest_suffix_of_mem_places {before : Option Char} (h : place ∈ places before s) :
    place.rest <:+ s := by
  induction s generalizing before with
  | nil =>
      rw [List.mem_singleton.mp h]
  | cons c rest ih =>
      rcases List.mem_cons.mp h with rfl | h
      · exact List.suffix_rfl
      · exact (ih h).trans (List.suffix_cons c rest)

/-- A pattern that is found takes a part of the text. -/
theorem exists_takes_of_search (h : r.search s = true) : ∃ w, w <:+: s ∧ Takes r w := by
  obtain ⟨place, hplace, hfound⟩ := List.any_eq_true.mp h
  obtain ⟨place', hplace'⟩ : ∃ place', place' ∈ r.run place := by
    refine List.exists_mem_of_ne_nil _ fun hnil => ?_
    rw [hnil] at hfound
    cases hfound
  obtain ⟨w, hw, htakes⟩ := takes_of_mem_run hplace'
  obtain ⟨front, hfront⟩ := rest_suffix_of_mem_places hplace
  exact ⟨w, ⟨front, place'.rest, by rw [List.append_assoc, ← hw, hfront]⟩, htakes⟩

omit [Unicode] in
/-- What a pattern takes has a character of every class it needs. -/
theorem Takes.exists_mem (h : Takes r w) (hp : p ∈ needs r) : ∃ c ∈ w, p c = true := by
  induction r generalizing w with
  | empty => cases hp
  | char q =>
      obtain ⟨c, rfl, hc⟩ := h
      rw [List.mem_singleton.mp hp]
      exact ⟨c, List.mem_cons_self, hc⟩
  | many q min max =>
      obtain ⟨hmin, -, hall⟩ := h
      cases min with
      | zero => cases hp
      | succ min =>
          rw [List.mem_singleton.mp hp]
          obtain ⟨c, hc⟩ := List.exists_mem_of_length_pos (by omega : 0 < w.length)
          exact ⟨c, hc, hall c hc⟩
  | boundary => cases hp
  | seq a b iha ihb =>
      obtain ⟨u, v, rfl, ha, hb⟩ := h
      rcases List.mem_append.mp hp with hp | hp
      · obtain ⟨c, hc, hclass⟩ := iha ha hp
        exact ⟨c, List.mem_append_left _ hc, hclass⟩
      · obtain ⟨c, hc, hclass⟩ := ihb hb hp
        exact ⟨c, List.mem_append_right _ hc, hclass⟩
  | alt a b => cases hp

omit [Unicode] in
/-- A match is made of what the classes of the pattern have. -/
theorem Takes.allows {c : Char} (h : Takes r w) (hc : c ∈ w) :
    r.allows c = true := by
  induction r generalizing w with
  | empty =>
      rw [show w = [] from h] at hc
      cases hc
  | char p =>
      obtain ⟨d, rfl, hd⟩ := h
      rw [List.mem_singleton.mp hc]
      exact hd
  | many p min max => exact h.2.2 c hc
  | boundary =>
      rw [show w = [] from h] at hc
      cases hc
  | seq a b iha ihb =>
      obtain ⟨u, v, rfl, hu, hv⟩ := h
      rcases List.mem_append.mp hc with hc | hc
      · exact Bool.or_eq_true_iff.mpr (.inl (iha hu hc))
      · exact Bool.or_eq_true_iff.mpr (.inr (ihb hv hc))
  | alt a b iha ihb =>
      rcases h with h | h
      · exact Bool.or_eq_true_iff.mpr (.inl (iha h hc))
      · exact Bool.or_eq_true_iff.mpr (.inr (ihb h hc))
/-- A pattern is only found where there is a character of every class it needs. -/
theorem exists_mem_of_search (h : r.search s = true) (hp : p ∈ needs r) : ∃ c ∈ s, p c = true := by
  obtain ⟨w, hw, htakes⟩ := exists_takes_of_search h
  obtain ⟨c, hc, hclass⟩ := htakes.exists_mem hp
  exact ⟨c, hw.subset hc, hclass⟩

theorem search_eq_false (hp : p ∈ needs r) (h : ∀ c ∈ s, p c = false) : r.search s = false := by
  refine Bool.eq_false_iff.mpr fun hfound => ?_
  obtain ⟨c, hc, hclass⟩ := exists_mem_of_search hfound hp
  rw [h c hc] at hclass
  cases hclass

end

/-! ## Finding everything that can be taken -/

/-- No part of a pattern looks at what stands around its match. -/
def boundaryFree : Re → Bool
  | .boundary => false
  | .seq a b => boundaryFree a && boundaryFree b
  | .alt a b => boundaryFree a && boundaryFree b
  | _ => true

section
variable {r : Re} {s w : Str} {p : Char → Bool}

theorem exists_mem_manyFrom {min : Nat} {max : Option Nat} (h : Takes (.many p min max) w)
    (before : Option Char) (rest : Str) :
    ∃ place ∈ manyFrom p min max before (w ++ rest), place.rest = rest := by
  induction w generalizing min max before with
  | nil =>
      have hmin : min = 0 := Nat.le_zero.mp h.1
      refine ⟨⟨before, rest⟩, ?_, rfl⟩
      cases rest with
      | nil => simp [manyFrom, hmin]
      | cons c rest => simp [manyFrom, hmin]
  | cons c w ih =>
      obtain ⟨hmin, hmax, hall⟩ := h
      have hmore : max ≠ some 0 := by
        intro hzero
        exact absurd (hmax 0 hzero) (by simp)
      have htakes : Takes (.many p (min - 1) (max.map (· - 1))) w := by
        refine ⟨?_, fun m hm => ?_, fun d hd => hall d (List.mem_cons_of_mem _ hd)⟩
        · rw [List.length_cons] at hmin
          omega
        · obtain ⟨bound, hbound, rfl⟩ := Option.map_eq_some_iff.mp hm
          have hlength := hmax bound hbound
          rw [List.length_cons] at hlength
          omega
      obtain ⟨place, hplace, hrest⟩ := ih htakes (some c)
      refine ⟨place, ?_, hrest⟩
      rw [List.cons_append, manyFrom]
      refine List.mem_append_right _ ?_
      rw [if_pos (by simp [hmore, hall c List.mem_cons_self])]
      exact hplace

variable [Unicode]

/-- A pattern that looks at nothing around it ends behind every text it takes. -/
theorem exists_mem_run (hfree : r.boundaryFree = true) (h : Takes r w) (before : Option Char)
    (rest : Str) : ∃ place ∈ r.run ⟨before, w ++ rest⟩, place.rest = rest := by
  induction r generalizing w before rest with
  | empty =>
      obtain rfl : w = [] := h
      exact ⟨_, List.mem_singleton_self _, rfl⟩
  | char p =>
      obtain ⟨c, rfl, hc⟩ := h
      refine ⟨⟨some c, rest⟩, ?_, rfl⟩
      show _ ∈ if p c then _ else _
      rw [if_pos hc]
      exact List.mem_singleton_self _
  | many p min max => exact exists_mem_manyFrom h before rest
  | boundary => cases hfree
  | seq a b iha ihb =>
      obtain ⟨hfirst, hsecond⟩ := Bool.and_eq_true_iff.mp hfree
      obtain ⟨u, v, rfl, ha, hb⟩ := h
      obtain ⟨place, hplace, hrest⟩ := iha hfirst ha before (v ++ rest)
      obtain ⟨last, hlast, hend⟩ := ihb hsecond hb place.before rest
      refine ⟨last, ?_, hend⟩
      rw [List.append_assoc]
      refine List.mem_flatMap.mpr ⟨place, hplace, ?_⟩
      rw [← hrest] at hlast
      exact hlast
  | alt a b iha ihb =>
      obtain ⟨hfirst, hsecond⟩ := Bool.and_eq_true_iff.mp hfree
      rcases h with ha | hb
      · obtain ⟨place, hplace, hrest⟩ := iha hfirst ha before rest
        exact ⟨place, List.mem_append_left _ hplace, hrest⟩
      · obtain ⟨place, hplace, hrest⟩ := ihb hsecond hb before rest
        exact ⟨place, List.mem_append_right _ hplace, hrest⟩

omit [Unicode] in
/-- Every end of a text is a place of it. -/
theorem exists_mem_places (before : Option Char) (front rest : Str) :
    ∃ last, ⟨last, rest⟩ ∈ places before (front ++ rest) := by
  induction front generalizing before with
  | nil => cases rest <;> exact ⟨before, List.mem_cons_self⟩
  | cons c front ih =>
      obtain ⟨last, hlast⟩ := ih (some c)
      exact ⟨last, List.mem_cons_of_mem _ hlast⟩

/-- A pattern that looks at nothing around it is found exactly where some part of the text is taken. -/
theorem search_iff_takes (hfree : r.boundaryFree = true) :
    r.search s = true ↔ ∃ w, w <:+: s ∧ Takes r w := by
  constructor
  · exact exists_takes_of_search
  · rintro ⟨w, ⟨front, back, rfl⟩, htakes⟩
    obtain ⟨last, hlast⟩ := exists_mem_places none front (w ++ back)
    obtain ⟨place, hplace, -⟩ := exists_mem_run hfree htakes last back
    rw [List.append_assoc]
    refine List.any_eq_true.mpr ⟨_, hlast, ?_⟩
    cases hrun : r.run ⟨last, w ++ back⟩ with
    | nil =>
        rw [hrun] at hplace
        cases hplace
    | cons found others => rfl

omit [Unicode] in
/-- A sequence takes what its first part and the others take, one behind the other. -/
theorem takes_all_cons {rs : List Re} :
    Takes (all (r :: rs)) w ↔ ∃ u v, w = u ++ v ∧ Takes r u ∧ Takes (all rs) v := by
  cases rs with
  | nil =>
      constructor
      · intro h
        exact ⟨w, [], (List.append_nil w).symm, h, rfl⟩
      · rintro ⟨u, v, rfl, hu, rfl⟩
        rwa [List.append_nil]
  | cons second rest => exact Iff.rfl

omit [Unicode] in
/-- A word under `re.IGNORECASE` takes the words that fold to it. -/
theorem takes_wordIgnoringCase_iff {word : Str} : Takes (wordIgnoringCase word) w ↔
    List.Forall₂ (fun c d => sameIgnoringCase c d = true) word w := by
  induction word generalizing w with
  | nil =>
      rw [List.forall₂_nil_left_iff]
      exact Iff.rfl
  | cons c word ih =>
      have hcons : Takes (wordIgnoringCase (c :: word)) w ↔
          ∃ u v, w = u ++ v ∧ Takes (.char (sameIgnoringCase c)) u ∧
            Takes (wordIgnoringCase word) v := takes_all_cons
      rw [hcons, List.forall₂_cons_left_iff]
      constructor
      · rintro ⟨_, v, rfl, ⟨d, rfl, hd⟩, hv⟩
        exact ⟨d, v, hd, ih.mp hv, rfl⟩
      · rintro ⟨d, v, hd, hv, rfl⟩
        exact ⟨[d], v, rfl, ⟨d, rfl, hd⟩, ih.mpr hv⟩

omit [Unicode] in
theorem takes_word_singleton {c : Char} : Takes (word [c]) w ↔ w = [c] := by
  constructor
  · rintro ⟨d, rfl, hd⟩
    rw [of_decide_eq_true hd]
  · rintro rfl
    exact ⟨c, rfl, decide_eq_true rfl⟩

end

/-! ## The classes some patterns need -/

section
variable {r : Re} {rs : List Re} {s : Str} {c : Char} {p : Char → Bool}

theorem mem_needs_all (hr : r ∈ rs) (hp : p ∈ needs r) : p ∈ needs (all rs) := by
  induction rs with
  | nil => cases hr
  | cons first rest ih =>
      cases rest with
      | nil =>
          rw [List.mem_singleton.mp hr] at hp
          exact hp
      | cons second rest =>
          rcases List.mem_cons.mp hr with rfl | hr
          · exact List.mem_append_left _ hp
          · exact List.mem_append_right _ (ih hr)

theorem mem_needs_word (hc : c ∈ s) : (fun d => decide (d = c)) ∈ needs (word s) :=
  mem_needs_all (List.mem_map_of_mem hc) List.mem_cons_self

theorem mem_needs_wordIgnoringCase (hc : c ∈ s) :
    sameIgnoringCase c ∈ needs (wordIgnoringCase s) :=
  mem_needs_all (List.mem_map_of_mem hc) List.mem_cons_self

end

end Re

end Secp.Python
