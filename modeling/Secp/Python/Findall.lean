import Secp.Python.Re

/-!
# The matches of a pattern, from left to right

`re.findall` tries a pattern at every place of a text; behind a match it goes on where the match ends. A
pattern is given by what it captures at the start of a text and how many characters it takes, at least
one. A place where it matches is found, unless an earlier match covers it.

The patterns with a group that the repository uses have one way to match at a place: what a repetition
takes is ended by a character it cannot take.
-/

namespace Secp.Python

/-! ## Matches -/

/-- A match, by its place, its length and its group. -/
structure Match (α : Type) where
  start : Nat
  length : Nat
  group : α

section
variable {α : Type} {matchAt : Str → Option (α × Nat)}

/-- The matches in what is left of a text, of which the first `skip` characters are taken. -/
def finditerFrom (matchAt : Str → Option (α × Nat)) : Nat → Nat → Str → List (Match α)
  | _, _, [] => []
  | skip + 1, start, _ :: rest => finditerFrom matchAt skip (start + 1) rest
  | 0, start, c :: rest =>
      match matchAt (c :: rest) with
      | some (group, length) =>
          ⟨start, length, group⟩ :: finditerFrom matchAt (length - 1) (start + 1) rest
      | none => finditerFrom matchAt 0 (start + 1) rest

/-- `re.finditer`. -/
def finditer (matchAt : Str → Option (α × Nat)) (s : Str) : List (Match α) :=
  finditerFrom matchAt 0 0 s

/-- `re.findall`. -/
def findall (matchAt : Str → Option (α × Nat)) (s : Str) : List α :=
  (finditer matchAt s).map Match.group

/-- The match begins before the place and ends behind it. -/
def Match.Covers (m : Match α) (place : Nat) : Prop :=
  m.start < place ∧ place < m.start + m.length

theorem finditerFrom_found_or_covered {s : Str} {group : α} {length place : Nat}
    (hplace : place < s.length) (h : matchAt (s.drop place) = some (group, length))
    (skip start : Nat) :
    place < skip ∨ ⟨start + place, length, group⟩ ∈ finditerFrom matchAt skip start s ∨
      ∃ m ∈ finditerFrom matchAt skip start s, m.Covers (start + place) := by
  induction s generalizing skip start place with
  | nil => exact absurd hplace (Nat.not_lt_zero place)
  | cons c rest ih =>
      cases place with
      | zero =>
          cases skip with
          | succ skip => exact .inl (Nat.succ_pos skip)
          | zero =>
              rw [List.drop_zero] at h
              rw [finditerFrom, h]
              exact .inr (.inl List.mem_cons_self)
      | succ place =>
          have hplace : place < rest.length := Nat.lt_of_succ_lt_succ hplace
          have hshift : start + (place + 1) = start + 1 + place := by omega
          rw [hshift]
          cases skip with
          | succ skip =>
              rcases ih hplace h skip (start + 1) with htaken | hrest
              · exact .inl (Nat.succ_lt_succ htaken)
              · exact .inr hrest
          | zero =>
              rw [finditerFrom]
              cases hmatch : matchAt (c :: rest) with
              | none =>
                  rcases ih hplace h 0 (start + 1) with htaken | hrest
                  · exact absurd htaken (Nat.not_lt_zero place)
                  · exact .inr hrest
              | some found =>
                  -- the rest of this match covers the place, or the place is behind it
                  rcases ih hplace h (found.2 - 1) (start + 1) with htaken | hfound | hcovered
                  · refine .inr (.inr ⟨_, List.mem_cons_self, ?_⟩)
                    unfold Match.Covers
                    show start < start + 1 + place ∧ start + 1 + place < start + found.2
                    omega
                  · exact .inr (.inl (List.mem_cons_of_mem _ hfound))
                  · obtain ⟨m, hm, hcovers⟩ := hcovered
                    exact .inr (.inr ⟨m, List.mem_cons_of_mem _ hm, hcovers⟩)

/-- Where the pattern matches, its group is found, unless an earlier match covers the place. -/
theorem found_or_covered {s : Str} {group : α} {length place : Nat} (hplace : place < s.length)
    (h : matchAt (s.drop place) = some (group, length)) :
    group ∈ findall matchAt s ∨ ∃ m ∈ finditer matchAt s, m.Covers place := by
  have hcases := finditerFrom_found_or_covered hplace h 0 0
  rw [Nat.zero_add] at hcases
  rcases hcases with htaken | hfound | hcovered
  · exact absurd htaken (Nat.not_lt_zero place)
  · exact .inl (List.mem_map_of_mem hfound)
  · exact .inr hcovered

end

/-! ## Patterns with a group -/

/-- A word at the start of a text. -/
def wordAt (word s : Str) : Option Str := if word.isPrefixOf s then some (s.drop word.length) else none

/-- `"([^"]*)"`. -/
def quotedAt : Str → Option (Str × Str)
  | '"' :: rest =>
      match rest.dropWhile fun c => c ≠ '"' with
      | _ :: behind => some (rest.takeWhile fun c => c ≠ '"', behind)
      | [] => none
  | _ => none

/-- `"([^"]+)"`. -/
def someQuotedAt (s : Str) : Option (Str × Str) := (quotedAt s).filter fun found => !found.1.isEmpty

section
variable [Unicode]

/-- `\s+`. -/
def spacesAt (s : Str) : Option Str :=
  match s with
  | c :: rest => if isSpace c then some (rest.dropWhile isSpace) else none
  | [] => none

/-- `keyword\s+"([^"]+)"\s+"[^"]+"`. -/
def labelledAt (keyword s : Str) : Option (Str × Nat) := do
  let rest ← wordAt keyword s
  let rest ← spacesAt rest
  let (type, rest) ← someQuotedAt rest
  let rest ← spacesAt rest
  let (_, rest) ← someQuotedAt rest
  some (type, s.length - rest.length)

/-- `keyword\s*=\s*"([^"]*)"`, with a pattern for the quoted value. -/
def assignedAt (keyword : Str) (valueAt : Str → Option (Str × Str)) (s : Str) : Option (Str × Nat) := do
  let rest ← wordAt keyword s
  let rest ← wordAt ['='] (rest.dropWhile isSpace)
  let (value, rest) ← valueAt (rest.dropWhile isSpace)
  some (value, s.length - rest.length)

omit [Unicode] in
theorem wordAt_append (word rest : Str) : wordAt word (word ++ rest) = some rest := by
  unfold wordAt
  rw [if_pos (List.isPrefixOf_iff_prefix.mpr (List.prefix_append word rest)), List.drop_left]

theorem spacesAt_append {gap rest : Str} (hgap : gap ≠ []) (hspaces : ∀ c ∈ gap, isSpace c = true) :
    spacesAt (gap ++ '"' :: rest) = some ('"' :: rest) := by
  cases gap with
  | nil => exact absurd rfl hgap
  | cons c gap =>
      have hquote : isSpace '"' ≠ true := by
        have hfalse : isSpace '"' = false := rfl
        rw [hfalse]
        exact Bool.false_ne_true
      rw [List.cons_append, spacesAt, if_pos (hspaces c List.mem_cons_self),
        List.dropWhile_append_of_pos fun d hd => hspaces d (List.mem_cons_of_mem c hd),
        List.dropWhile_cons_of_neg hquote]

omit [Unicode] in
theorem someQuotedAt_append {label : Str} (hlabel : label ≠ []) (hquote : '"' ∉ label) (rest : Str) :
    someQuotedAt ('"' :: (label ++ '"' :: rest)) = some (label, rest) := by
  have hplain : ∀ c ∈ label, decide (c ≠ '"') = true := by
    intro c hc
    exact decide_eq_true fun h => hquote (h ▸ hc)
  have hdrop : ('"' :: rest).dropWhile (fun c => decide (c ≠ '"')) = '"' :: rest :=
    List.dropWhile_cons_of_neg (by simp)
  have htake : ('"' :: rest).takeWhile (fun c => decide (c ≠ '"')) = [] :=
    List.takeWhile_cons_of_neg (by simp)
  rw [someQuotedAt, quotedAt, List.dropWhile_append_of_pos hplain, hdrop,
    List.takeWhile_append_of_pos hplain, htake, List.append_nil]
  cases label with
  | nil => exact absurd rfl hlabel
  | cons c label => rfl

/-- A keyword and two quoted labels, with whitespace between them. -/
theorem labelledAt_append (keyword : Str) {gap gap' type name : Str} (rest : Str)
    (hgap : gap ≠ []) (hspaces : ∀ c ∈ gap, isSpace c = true)
    (hgap' : gap' ≠ []) (hspaces' : ∀ c ∈ gap', isSpace c = true)
    (htype : type ≠ []) (hquote : '"' ∉ type) (hname : name ≠ []) (hquote' : '"' ∉ name) :
    ∃ length, labelledAt keyword (keyword ++ (gap ++ '"' :: (type ++ '"' ::
      (gap' ++ '"' :: (name ++ '"' :: rest))))) = some (type, length) := by
  unfold labelledAt
  simp only [wordAt_append, Option.bind_eq_bind, Option.bind_some, spacesAt_append hgap hspaces,
    someQuotedAt_append htype hquote, spacesAt_append hgap' hspaces',
    someQuotedAt_append hname hquote']
  exact ⟨_, rfl⟩

end

end Secp.Python
