import Mathlib.Algebra.Ring.Nat
import Secp.Python.JsonText

/-!
# The length of a text

How long the text of a value can get. A character is written as itself or as at most two units of six
characters, and the order of keys makes no difference.
-/

namespace Secp.Python.Json

/-! ## Strings -/

theorem length_hexPad (width n : Nat) : (hexPad width n).length = width := by
  induction width generalizing n with
  | zero => rfl
  | succ width ih =>
      rw [hexPad, List.length_append, ih]
      rfl

theorem length_escapeChar_le (ensureAscii : Bool) (c : Char) :
    (escapeChar ensureAscii c).length ≤ 12 := by
  obtain ⟨hquote, hslash, hnewline, hreturn, htab, hfeed, hback⟩ := str_escapes
  have hunit : ∀ n, (Python.str "\\u" ++ hexPad 4 n).length = 6 := by
    intro n
    rw [List.length_append, length_hexPad, str_unicodeEscape]
    rfl
  unfold escapeChar
  split_ifs
  · rw [hquote]
    decide
  · rw [hslash]
    decide
  · rw [hnewline]
    decide
  · rw [hreturn]
    decide
  · rw [htab]
    decide
  · rw [hfeed]
    decide
  · rw [hback]
    decide
  · have hlength := hunit c.toNat
    omega
  · show 1 ≤ 12
    omega
  · have hlength := hunit c.toNat
    omega
  · -- a character beyond the first plane is two units
    dsimp only
    rw [List.append_assoc, List.append_assoc, ← List.append_assoc, List.length_append, hunit, hunit]

/-- A character that is written as itself. -/
def isPlain (c : Char) : Bool := 32 ≤ c.toNat && c.toNat < 127 && c ≠ '"' && c ≠ '\\'

theorem escapeChar_of_isPlain {ensureAscii : Bool} {c : Char} (h : isPlain c = true) :
    escapeChar ensureAscii c = [c] := by
  unfold isPlain at h
  simp only [Bool.and_eq_true, decide_eq_true_eq] at h
  obtain ⟨⟨⟨hlow, hhigh⟩, hquote⟩, hslash⟩ := h
  have hne : ∀ d : Char, d.toNat < 32 → c ≠ d := by
    rintro d hd rfl
    omega
  unfold escapeChar
  rw [if_neg hquote, if_neg hslash, if_neg (hne _ (by decide)), if_neg (hne _ (by decide)),
    if_neg (hne _ (by decide)), if_neg (by omega), if_neg (by omega), if_neg (by omega)]
  exact if_pos (Bool.or_eq_true_iff.mpr (.inr (decide_eq_true hhigh)))

theorem length_quoted_le (ensureAscii : Bool) (s : Str) :
    (quoted ensureAscii s).length ≤ 12 * s.length + 2 := by
  have hchars : (s.flatMap (escapeChar ensureAscii)).length ≤ 12 * s.length := by
    induction s with
    | nil => exact Nat.le_refl 0
    | cons c s ih =>
        have hfirst := length_escapeChar_le ensureAscii c
        rw [List.flatMap_cons, List.length_append, List.length_cons]
        omega
  unfold quoted
  rw [List.length_append, List.length_append]
  show 1 + _ + 1 ≤ _
  omega

theorem length_quoted_of_isPlain {ensureAscii : Bool} {s : Str} (h : ∀ c ∈ s, isPlain c = true) :
    (quoted ensureAscii s).length = s.length + 2 := by
  have hchars : s.flatMap (escapeChar ensureAscii) = s := by
    induction s with
    | nil => rfl
    | cons c s ih =>
        obtain ⟨hfirst, hrest⟩ := List.forall_mem_cons.mp h
        rw [List.flatMap_cons, escapeChar_of_isPlain hfirst, ih hrest]
        rfl
  unfold quoted
  rw [hchars, List.length_append, List.length_append]
  show 1 + s.length + 1 = _
  omega

/-! ## Objects -/

theorem length_join_le (parts : List Str) :
    (join [','] parts).length ≤ (parts.map fun part => part.length + 1).sum := by
  cases parts with
  | nil => exact Nat.le_refl 0
  | cons first parts =>
      have hrest : (parts.flatMap fun part => ',' :: part).length =
          (parts.map fun part => part.length + 1).sum := by
        rw [List.length_flatMap]
        rfl
      rw [join_cons, List.length_append, List.map_cons, List.sum_cons, hrest]
      omega

theorem dumpsFields_eq_map (ensureAscii : Bool) (fields : List (Str × Json)) :
    dumpsFields ensureAscii fields = fields.map fun field => (field.1, dumps ensureAscii field.2) := by
  induction fields with
  | nil => rfl
  | cons field rest ih =>
      rw [List.map_cons, ← ih]
      rfl

/-- What a field adds to the text of an object. -/
def fieldLength (ensureAscii : Bool) (field : Str × Json) : Nat :=
  (quoted ensureAscii field.1).length + (dumps ensureAscii field.2).length + 2

theorem length_dumps_obj_le (ensureAscii : Bool) (fields : List (Str × Json)) :
    (dumps ensureAscii (.obj fields)).length ≤ (fields.map (fieldLength ensureAscii)).sum + 2 := by
  have hsorted := (sortedBy_perm Prod.fst (dumpsFields ensureAscii fields)).map fun pair =>
    (quoted ensureAscii pair.1 ++ [':'] ++ pair.2).length + 1
  have hsum : ((dumpsFields ensureAscii fields).map fun pair =>
      (quoted ensureAscii pair.1 ++ [':'] ++ pair.2).length + 1).sum =
        (fields.map (fieldLength ensureAscii)).sum := by
    rw [dumpsFields_eq_map, List.map_map]
    refine congrArg List.sum (List.map_congr_left fun field _ => ?_)
    show (quoted ensureAscii field.1 ++ [':'] ++ dumps ensureAscii field.2).length + 1 = _
    rw [List.length_append, List.length_append]
    show (quoted ensureAscii field.1).length + 1 + (dumps ensureAscii field.2).length + 1 = _
    unfold fieldLength
    omega
  have hjoin := length_join_le ((sortedBy Prod.fst (dumpsFields ensureAscii fields)).map fun pair =>
    quoted ensureAscii pair.1 ++ [':'] ++ pair.2)
  rw [List.map_map] at hjoin
  -- the order of the parts makes no difference to the sum
  replace hjoin := Nat.le_trans hjoin (Nat.le_of_eq (hsorted.sum_nat.trans hsum))
  rw [dumps, List.length_append, List.length_append]
  show 1 + _ + 1 ≤ _
  omega

end Secp.Python.Json
