import Secp.Python.JsonText

/-!
# Reading a value back from its text

`json.loads` of texts without floating point numbers. The reader takes one value off the front of a
text and undoes the printer value by value: the characters of a string become code units, which are
joined to characters afterwards, and a list is read up to what closes it.
-/

namespace Secp.Python.Json

/-! ## The reader -/

def isJsonSpace (c : Char) : Bool := c = ' ' || c = '\t' || c = '\n' || c = '\r'

def skipSpace (s : Str) : Str := s.dropWhile isJsonSpace

/-- The code units of the inside of a string up to its closing quote, with what follows. -/
def readUnits : Str → Option (List Nat × Str)
  | [] => none
  | '"' :: rest => some ([], rest)
  | '\\' :: 'u' :: a :: b :: c :: d :: rest =>
      if isHexDigit a && isHexDigit b && isHexDigit c && isHexDigit d then
        (readUnits rest).map fun read => (hexUnit a b c d :: read.1, read.2)
      else none
  | '\\' :: c :: rest =>
      if c ∈ ['"', '\\', '/', 'b', 'f', 'n', 'r', 't'] then
        (readUnits rest).map fun read => (escapedUnit c :: read.1, read.2)
      else none
  | c :: rest =>
      if c = '\\' || c.toNat < 32 then none
      else (readUnits rest).map fun read => (c.toNat :: read.1, read.2)

/-- The character of a code unit; a lone surrogate is none. -/
def unitChar (unit : Nat) : Option Char :=
  if 0xD800 ≤ unit && unit < 0xE000 then none else some (Char.ofNat unit)

/-- The text of a list of code units, surrogate pairs joined. -/
def joinUnits : List Nat → Option Str
  | [] => some []
  | [unit] => (unitChar unit).map fun c => [c]
  | high :: low :: rest =>
      if 0xD800 ≤ high && high < 0xDC00 && 0xDC00 ≤ low && low < 0xE000 then
        (joinUnits rest).map fun s =>
          Char.ofNat (0x10000 + (high - 0xD800) * 1024 + (low - 0xDC00)) :: s
      else (unitChar high).bind fun c => (joinUnits (low :: rest)).map fun s => c :: s

/-- A string behind its opening quote. -/
def readText (s : Str) : Option (Str × Str) := do
  let (units, rest) ← readUnits s
  let text ← joinUnits units
  pure (text, rest)

/-- The digits of a number: a zero, or a run that does not start with one. -/
def readNatural (s : Str) : Option (Nat × Str) :=
  match s.takeWhile isAsciiDigit with
  | [] => none
  | '0' :: _ => some (0, s.drop 1)
  | digits => some (Nat.ofDigitChars 10 digits 0, s.drop digits.length)

def readNumber : Str → Option (Int × Str)
  | '-' :: rest => (readNatural rest).map fun read => (-(read.1 : Int), read.2)
  | s => (readNatural s).map fun read => ((read.1 : Int), read.2)

/-- The value of a word at the front. -/
def readWord (word : Str) (value : Json) (s : Str) : Option (Json × Str) :=
  if startsWith s word then some (value, s.drop word.length) else none

mutual

/-- One value at the front of a text, with what follows it. -/
def readValue : Nat → Str → Option (Json × Str)
  | 0, _ => none
  | _, [] => none
  | fuel + 1, c :: rest =>
      if c = '"' then (readText rest).map fun read => (.str read.1, read.2)
      else if c = '[' then
        match skipSpace rest with
        | ']' :: rest => some (.arr [], rest)
        | rest => (readItems fuel rest).map fun read => (.arr read.1, read.2)
      else if c = '{' then
        match skipSpace rest with
        | '}' :: rest => some (.obj [], rest)
        | rest => (readFields fuel rest).map fun read => (.obj (Dict.ofPairs read.1), read.2)
      else if c = 'n' then readWord ['n', 'u', 'l', 'l'] .null (c :: rest)
      else if c = 't' then readWord ['t', 'r', 'u', 'e'] (.bool true) (c :: rest)
      else if c = 'f' then readWord ['f', 'a', 'l', 's', 'e'] (.bool false) (c :: rest)
      else (readNumber (c :: rest)).map fun read => (.int read.1, read.2)

/-- The items of an array from the first on, up to its closing bracket. -/
def readItems : Nat → Str → Option (List Json × Str)
  | 0, _ => none
  | fuel + 1, s =>
      match readValue fuel s with
      | none => none
      | some (item, rest) =>
          match skipSpace rest with
          | ']' :: rest => some ([item], rest)
          | ',' :: rest =>
              (readItems fuel (skipSpace rest)).map fun read => (item :: read.1, read.2)
          | _ => none

/-- The fields of an object from the first on, up to its closing brace. -/
def readFields : Nat → Str → Option (List (Str × Json) × Str)
  | fuel + 1, '"' :: s =>
      match readText s with
      | none => none
      | some (key, rest) =>
          match skipSpace rest with
          | ':' :: rest =>
              match readValue fuel (skipSpace rest) with
              | none => none
              | some (value, rest) =>
                  match skipSpace rest with
                  | '}' :: rest => some ([(key, value)], rest)
                  | ',' :: rest => (readFields fuel (skipSpace rest)).map fun read =>
                      ((key, value) :: read.1, read.2)
                  | _ => none
          | _ => none
  | _, _ => none

end

/-- `json.loads(text)`; `none` where it raises, and for floating point numbers and lone surrogates
as well. -/
def loads (text : Str) : Option Json :=
  match readValue (2 * text.length + 1) (skipSpace text) with
  | some (value, rest) => if (skipSpace rest).isEmpty then some value else none
  | none => none

/-! ## Strings -/

/-- The code units a character is printed as. -/
def codeUnits (ensureAscii : Bool) (c : Char) : List Nat :=
  if ensureAscii && 65536 ≤ c.toNat then
    [0xD800 + (c.toNat - 0x10000) / 1024, 0xDC00 + (c.toNat - 0x10000) % 1024]
  else [c.toNat]

theorem isHexDigit_hexDigit {n : Nat} (h : n < 16) : isHexDigit (hexDigit n) = true := by
  revert h
  exact (show ∀ n < 16, isHexDigit (hexDigit n) = true by decide) n

theorem readUnits_hexPad {n : Nat} (h : n < 65536) (x : Str) :
    readUnits (Python.str "\\u" ++ hexPad 4 n ++ x) =
      (readUnits x).map fun read => (n :: read.1, read.2) := by
  have hunit := congrArg Prod.fst (firstUnit_hexPad h x)
  rw [str_unicodeEscape] at hunit ⊢
  show (if _ then (readUnits x).map fun read : List Nat × Str =>
    (hexUnit _ _ _ _ :: read.1, read.2) else none) = _
  have hdigit : ∀ m, isHexDigit (hexDigit (m % 16)) = true :=
    fun m => isHexDigit_hexDigit (Nat.mod_lt _ (by decide))
  rw [if_pos (by simp only [hdigit, Bool.and_self])]
  exact congrArg (fun unit => (readUnits x).map fun read : List Nat × Str =>
    (unit :: read.1, read.2)) hunit

theorem readUnits_plain {c : Char} (hquote : c ≠ '"') (hslash : c ≠ '\\')
    (hcontrol : 32 ≤ c.toNat) (x : Str) :
    readUnits (c :: x) = (readUnits x).map fun read => (c.toNat :: read.1, read.2) := by
  rw [readUnits.eq_def]
  split
  · next h => cases h
  · next h => exact absurd (List.cons.inj h).1 hquote
  · next h => exact absurd (List.cons.inj h).1 hslash
  · next h => exact absurd (List.cons.inj h).1 hslash
  · next h =>
      obtain ⟨rfl, rfl⟩ := List.cons.inj h
      rw [if_neg]
      simp [hslash]
      omega

/-- A printed character is read as its code units. -/
theorem readUnits_escapeChar (ensureAscii : Bool) (c : Char) (x : Str) :
    readUnits (escapeChar ensureAscii c ++ x) =
      (readUnits x).map fun read => (codeUnits ensureAscii c ++ read.1, read.2) := by
  have hsmall : c.toNat < 65536 ∨ ensureAscii = false → codeUnits ensureAscii c = [c.toNat] := by
    rintro (h | h)
    · exact if_neg (by simp; omega)
    · exact if_neg (by simp [h])
  by_cases hastral : ensureAscii = true ∧ 65536 ≤ c.toNat
  · obtain ⟨rfl, hastral⟩ := hastral
    have hlt := toNat_lt c
    rw [escapeChar_astral hastral, List.append_assoc, readUnits_hexPad (by omega),
      readUnits_hexPad (by omega), Option.map_map]
    unfold codeUnits
    rw [if_pos (by simpa using hastral)]
    rfl
  have hunits := hsmall (by
    by_cases hascii : ensureAscii = true
    · exact .inl (Nat.lt_of_not_le fun h => hastral ⟨hascii, h⟩)
    · exact .inr (Bool.not_eq_true _ ▸ hascii))
  rw [hunits]
  obtain ⟨hquote, hslash, hn, hr, ht, hf, hb⟩ := str_escapes
  unfold escapeChar
  split
  · next hc =>
      rw [hc, hquote]
      rfl
  split
  · next hc =>
      rw [hc, hslash]
      rfl
  split
  · next hc =>
      rw [hc, hn]
      rfl
  split
  · next hc =>
      rw [hc, hr]
      rfl
  split
  · next hc =>
      rw [hc, ht]
      rfl
  split
  · next hc =>
      rw [hc, hf]
      rfl
  split
  · next hc =>
      rw [hc, hb]
      rfl
  split
  · next hc => exact readUnits_hexPad (by omega) x
  split
  · next hne hne' _ _ _ _ _ hcontrol _ => exact readUnits_plain hne hne' (by omega) x
  · next hplain =>
      have hbmp : c.toNat < 65536 := by
        by_contra hge
        refine hastral ⟨?_, by omega⟩
        simp only [Bool.or_eq_true, Bool.not_eq_true', not_or, Bool.not_eq_false] at hplain
        exact hplain.1
      rw [if_pos hbmp]
      exact readUnits_hexPad hbmp x

theorem unitChar_toNat (c : Char) : unitChar c.toNat = some c := by
  have hvalid := toNat_not_surrogate c
  unfold unitChar
  rw [if_neg (by simp; omega), Char.ofNat_toNat]

/-- The units of a text are joined to the text. -/
theorem joinUnits_flatMap (ensureAscii : Bool) (s : Str) :
    joinUnits (s.flatMap (codeUnits ensureAscii)) = some s := by
  induction s with
  | nil => rfl
  | cons c s ih =>
      have hvalid := toNat_not_surrogate c
      have hlt := toNat_lt c
      rw [List.flatMap_cons]
      by_cases hastral : (ensureAscii && decide (65536 ≤ c.toNat)) = true
      · rw [show codeUnits ensureAscii c = _ from if_pos hastral]
        simp only [Bool.and_eq_true, decide_eq_true_eq] at hastral
        rw [List.cons_append, List.cons_append, List.nil_append, joinUnits, if_pos (by simp; omega),
          ih, Option.map_some]
        have hjoined : Char.ofNat (0x10000 + (0xD800 + (c.toNat - 0x10000) / 1024 - 0xD800) * 1024 +
            (0xDC00 + (c.toNat - 0x10000) % 1024 - 0xDC00)) = c :=
          (congrArg Char.ofNat (by omega)).trans (Char.ofNat_toNat c)
        rw [hjoined]
      · rw [show codeUnits ensureAscii c = _ from if_neg hastral]
        cases hrest : s.flatMap (codeUnits ensureAscii) with
        | nil =>
            rw [hrest] at ih
            show (unitChar c.toNat).map _ = _
            rw [unitChar_toNat, ← Option.some.inj ih]
            rfl
        | cons unit rest =>
            rw [hrest] at ih
            show (if _ then _ else _) = _
            rw [if_neg (by simp; omega), unitChar_toNat, Option.bind_some, ih]
            rfl

/-- A printed string is read back. -/
theorem readText_quoted {ensureAscii : Bool} (s x : Str) :
    readText (s.flatMap (escapeChar ensureAscii) ++ '"' :: x) = some (s, x) := by
  have hunits : ∀ s : Str, readUnits (s.flatMap (escapeChar ensureAscii) ++ '"' :: x) =
      some (s.flatMap (codeUnits ensureAscii), x) := by
    intro s
    induction s with
    | nil => rfl
    | cons c s ih =>
        rw [List.flatMap_cons, List.append_assoc, readUnits_escapeChar, ih]
        rfl
  unfold readText
  simp only [hunits, Option.bind_eq_bind, Option.bind_some, joinUnits_flatMap, Option.pure_def]

/-! ## Numbers -/

/-- A printed number does not start with a zero. -/
theorem natStr_head {n : Nat} (hn : n ≠ 0) : ∀ digits, natStr n ≠ '0' :: digits := by
  induction n using Nat.strongRecOn with
  | ind n ih =>
      intro digits h
      unfold natStr at h ih
      by_cases hsmall : n < 10
      · rw [Nat.toDigits_of_lt_base hsmall] at h
        have hdigit : ∀ m < 10, m ≠ 0 → m.digitChar ≠ '0' := by decide
        exact hdigit n hsmall hn (List.cons.inj h).1
      · rw [Nat.toDigits_of_base_le (by decide) (by omega)] at h
        cases hfront : Nat.toDigits 10 (n / 10) with
        | nil => exact Nat.toDigits_ne_nil hfront
        | cons c front =>
            rw [hfront] at h
            obtain ⟨rfl, -⟩ := List.cons.inj h
            exact ih (n / 10) (by omega) (by omega) front hfront

theorem takeWhile_natStr (n : Nat) {x : Str} (hx : Stops x) :
    (natStr n ++ x).takeWhile isAsciiDigit = natStr n := by
  rw [List.takeWhile_append_of_pos fun c hc => isAsciiDigit_of_mem_natStr hc]
  cases x with
  | nil => exact List.append_nil _
  | cons c rest => rw [List.takeWhile_cons_of_neg (by rw [hx c rfl]; decide), List.append_nil]

theorem readNatural_natStr (n : Nat) {x : Str} (hx : Stops x) :
    readNatural (natStr n ++ x) = some (n, x) := by
  unfold readNatural
  rw [takeWhile_natStr n hx]
  split
  · next h => exact absurd h (natStr_ne_nil n)
  · next digits h =>
      by_cases hn : n = 0
      · subst hn
        rfl
      · exact absurd h (natStr_head hn digits)
  · rw [show Nat.ofDigitChars 10 (natStr n) 0 = n from Nat.ofDigitChars_ten_toDigits,
      List.drop_left]

theorem readNumber_intStr (n : Int) {x : Str} (hx : Stops x) :
    readNumber (intStr n ++ x) = some (n, x) := by
  cases n with
  | ofNat n =>
      show readNumber (natStr n ++ x) = _
      unfold readNumber
      split
      · next rest h =>
          have hminus : '-' ∈ natStr n := by
            cases hdigits : natStr n with
            | nil => exact absurd hdigits (natStr_ne_nil n)
            | cons c digits =>
                rw [hdigits] at h
                rw [(List.cons.inj h).1]
                exact List.mem_cons_self
          exact absurd hminus (not_mem_natStr (by decide))
      · rw [readNatural_natStr n hx]
        rfl
  | negSucc n =>
      show (readNatural (natStr (n + 1) ++ x)).map _ = _
      rw [readNatural_natStr (n + 1) hx]
      rfl

/-! ## Values -/

mutual

/-- No object of the value has a key twice. -/
def DistinctKeys : Json → Prop
  | .arr items => DistinctKeysItems items
  | .obj fields => (fields.map Prod.fst).Nodup ∧ DistinctKeysFields fields
  | _ => True

def DistinctKeysItems : List Json → Prop
  | [] => True
  | item :: rest => DistinctKeys item ∧ DistinctKeysItems rest

def DistinctKeysFields : List (Str × Json) → Prop
  | [] => True
  | (_, value) :: rest => DistinctKeys value ∧ DistinctKeysFields rest

end

theorem skipSpace_cons {c : Char} (h : isJsonSpace c = false) (x : Str) :
    skipSpace (c :: x) = c :: x := by
  unfold skipSpace
  rw [List.dropWhile_cons, if_neg (by simp [h])]

section
variable {ensureAscii : Bool}

/-- A printed value does not begin with a space or with what closes a list. -/
theorem print_head (value : Json) : ∃ c rest, print ensureAscii value = c :: rest ∧
    isJsonSpace c = false ∧ c ≠ ']' ∧ c ≠ '}' := by
  obtain ⟨c, rest, hprint, hlead⟩ := @exists_lead ensureAscii value
  refine ⟨c, rest, hprint, ?_⟩
  have hnumber : ∀ c : Char, (isAsciiDigit c || decide (c = '-')) = true →
      isJsonSpace c = false ∧ c ≠ ']' ∧ c ≠ '}' := by
    intro c hc
    rcases Bool.or_eq_true_iff.mp hc with hdigit | hminus
    · have hne : ∀ d : Char, isAsciiDigit d = false → c ≠ d :=
        fun d hd => ne_of_isAsciiDigit hdigit hd
      refine ⟨?_, hne _ (by decide), hne _ (by decide)⟩
      unfold isJsonSpace
      simp [hne ' ' (by decide), hne '\t' (by decide), hne '\n' (by decide), hne '\r' (by decide)]
    · rw [of_decide_eq_true hminus]
      decide
  cases value with
  | int n => exact hnumber c hlead
  | bool b =>
      cases b <;>
        · rw [of_decide_eq_true hlead]
          decide
  | _ =>
      rw [of_decide_eq_true hlead]
      decide

theorem skipSpace_print (value : Json) (x : Str) :
    skipSpace (print ensureAscii value ++ x) = print ensureAscii value ++ x := by
  obtain ⟨c, rest, hprint, hspace, -⟩ := @print_head ensureAscii value
  rw [hprint]
  exact skipSpace_cons hspace _

theorem readValue_number (fuel : Nat) {c : Char} (rest : Str)
    (hc : (isAsciiDigit c || decide (c = '-')) = true) : readValue (fuel + 1) (c :: rest) =
      (readNumber (c :: rest)).map fun read => (.int read.1, read.2) := by
  have hne : ∀ d : Char, (isAsciiDigit d || decide (d = '-')) = false → c ≠ d := by
    rintro d hd rfl
    rw [hd] at hc
    cases hc
  rw [readValue, if_neg (hne _ (by decide)), if_neg (hne _ (by decide)), if_neg (hne _ (by decide)),
    if_neg (hne _ (by decide)), if_neg (hne _ (by decide)), if_neg (hne _ (by decide))]

/-- An array whose first item is at the front is read by its items. -/
theorem readValue_bracket (fuel : Nat) {c : Char} {rest : Str} (hspace : isJsonSpace c = false)
    (hclose : c ≠ ']') : readValue (fuel + 1) ('[' :: c :: rest) =
      (readItems fuel (c :: rest)).map fun read => (.arr read.1, read.2) := by
  rw [readValue, if_neg (by decide), if_pos rfl, skipSpace_cons hspace]
  split
  · next h => exact absurd (List.cons.inj h).1 hclose
  · rfl

mutual

/-- A printed value is read back, and what follows it is left. -/
theorem readValue_print : ∀ (v : Json) {fuel : Nat} {x : Str}, DistinctKeys v → Stops x →
    2 * (print ensureAscii v).length ≤ fuel →
    readValue fuel (print ensureAscii v ++ x) = some (v, x)
  | .null, fuel + 1, x, _, _, _ => rfl
  | .bool true, fuel + 1, x, _, _, _ => rfl
  | .bool false, fuel + 1, x, _, _, _ => rfl
  | .int n, fuel + 1, x, _, hx, _ => by
      obtain ⟨c, rest, hprint, hlead⟩ := @exists_lead ensureAscii (.int n)
      rw [hprint, List.cons_append, readValue_number fuel _ hlead, ← List.cons_append, ← hprint]
      show (readNumber (intStr n ++ x)).map _ = _
      rw [readNumber_intStr n hx]
      rfl
  | .str s, fuel + 1, x, _, _, _ => by
      have htext : print ensureAscii (.str s) ++ x =
          '"' :: (s.flatMap (escapeChar ensureAscii) ++ '"' :: x) := by
        show quoted ensureAscii s ++ x = _
        simp [quoted]
      rw [htext, readValue, if_pos rfl, readText_quoted]
      rfl
  | .arr [], fuel + 1, x, _, _, _ => rfl
  | .arr (item :: rest), fuel + 1, x, hkeys, hx, hfuel => by
      obtain ⟨c, tail, hprint, hspace, hclose, -⟩ := @print_head ensureAscii item
      have hlength : (print ensureAscii (.arr (item :: rest))).length =
          1 + ((print ensureAscii item).length + (printItems ensureAscii rest).length) := by
        rw [print, List.length_cons, List.length_append, Nat.add_comm]
      have hitems : readItems fuel ((printItems ensureAscii (item :: rest)).tail ++ x) =
          some (item :: rest, x) :=
        readItems_print (item :: rest) (List.cons_ne_nil item rest) hkeys (by
          rw [printItems, List.tail_cons, List.length_append]
          omega)
      rw [printItems, List.tail_cons, hprint, List.cons_append, List.cons_append] at hitems
      rw [print, hprint, List.cons_append, List.cons_append, List.cons_append,
        readValue_bracket fuel hspace hclose, hitems]
      rfl
  | .obj [], fuel + 1, x, _, _, _ => rfl
  | .obj ((key, value) :: rest), fuel + 1, x, hkeys, hx, hfuel => by
      have hlength : (print ensureAscii (.obj ((key, value) :: rest))).length =
          ((printFields ensureAscii ((key, value) :: rest)).tail).length + 1 := by
        rw [print, printFields, List.tail_cons, List.length_cons]
      have hfields : readFields fuel ((printFields ensureAscii ((key, value) :: rest)).tail ++ x) =
          some ((key, value) :: rest, x) :=
        readFields_print ((key, value) :: rest) (List.cons_ne_nil _ rest) hkeys.2 (by omega)
      rw [printFields, List.tail_cons] at hfields
      have hquoted : ∀ y : Str, quoted ensureAscii key ++ y =
          '"' :: (key.flatMap (escapeChar ensureAscii) ++ '"' :: y) := by
        intro y
        simp [quoted]
      rw [print, List.cons_append, List.append_assoc, hquoted, readValue, if_neg (by decide),
        if_neg (by decide), if_pos rfl, skipSpace_cons (by decide)]
      rw [List.append_assoc, hquoted] at hfields
      show (readFields fuel _).map _ = _
      rw [hfields, Option.map_some, Dict.ofPairs_of_nodup hkeys.1]
  | v, 0, x, _, _, hfuel => by
      obtain ⟨c, rest, hprint, -⟩ := @exists_lead ensureAscii v
      rw [hprint, List.length_cons] at hfuel
      omega

/-- The items of a printed array, the first one at the front, are read back. -/
theorem readItems_print : ∀ (items : List Json), items ≠ [] → ∀ {fuel : Nat} {x : Str},
    DistinctKeysItems items → 2 * (printItems ensureAscii items).tail.length + 1 ≤ fuel →
    readItems fuel ((printItems ensureAscii items).tail ++ x) = some (items, x)
  | [], hne, _, _, _, _ => absurd rfl hne
  | item :: rest, _, fuel + 1, x, hkeys, hfuel => by
      rw [printItems, List.tail_cons, List.length_append] at hfuel
      have hitem : readValue fuel (print ensureAscii item ++ (printItems ensureAscii rest ++ x)) =
          some (item, printItems ensureAscii rest ++ x) :=
        readValue_print item hkeys.1 (stops_printItems rest x) (by omega)
      rw [printItems, List.tail_cons, List.append_assoc, readItems, hitem]
      obtain ⟨c, tail, hprint, -⟩ := @exists_lead ensureAscii item
      rw [hprint, List.length_cons] at hfuel
      cases rest with
      | nil => rfl
      | cons next rest =>
          have hrest : readItems fuel ((printItems ensureAscii (next :: rest)).tail ++ x) =
              some (next :: rest, x) :=
            readItems_print (next :: rest) (List.cons_ne_nil next rest) hkeys.2 (by
              rw [List.length_tail]
              omega)
          rw [printItems, List.tail_cons] at hrest
          rw [printItems, List.cons_append]
          show (readItems fuel (skipSpace _)).map _ = _
          rw [List.append_assoc] at hrest ⊢
          rw [skipSpace_print, hrest]
          rfl

/-- The fields of a printed object, the first one at the front, are read back. -/
theorem readFields_print : ∀ (fields : List (Str × Json)), fields ≠ [] → ∀ {fuel : Nat} {x : Str},
    DistinctKeysFields fields → 2 * (printFields ensureAscii fields).tail.length + 1 ≤ fuel →
    readFields fuel ((printFields ensureAscii fields).tail ++ x) = some (fields, x)
  | [], hne, _, _, _, _ => absurd rfl hne
  | (key, value) :: rest, _, fuel + 1, x, hkeys, hfuel => by
      rw [printFields, List.tail_cons, List.length_append, List.length_cons,
        List.length_append] at hfuel
      have hvalue : readValue fuel
          (print ensureAscii value ++ (printFields ensureAscii rest ++ x)) =
            some (value, printFields ensureAscii rest ++ x) :=
        readValue_print value hkeys.1 (stops_printFields rest x) (by omega)
      have htext : quoted ensureAscii key ++ ':' :: (print ensureAscii value ++
          printFields ensureAscii rest) ++ x = '"' :: (key.flatMap (escapeChar ensureAscii) ++
            '"' :: ':' :: (print ensureAscii value ++ (printFields ensureAscii rest ++ x))) := by
        simp [quoted]
      rw [printFields, List.tail_cons, htext, readFields, readText_quoted]
      dsimp only
      rw [skipSpace_cons (by decide)]
      simp only [skipSpace_print, hvalue]
      cases rest with
      | nil => rfl
      | cons field rest =>
          obtain ⟨next, nextValue⟩ := field
          have hrest : readFields fuel
              ((printFields ensureAscii ((next, nextValue) :: rest)).tail ++ x) =
                some ((next, nextValue) :: rest, x) :=
            readFields_print ((next, nextValue) :: rest) (List.cons_ne_nil _ rest) hkeys.2 (by
              rw [List.length_tail]
              omega)
          -- the next field begins with the quote of its key
          have htext' : (printFields ensureAscii ((next, nextValue) :: rest)).tail ++ x =
              '"' :: (next.flatMap (escapeChar ensureAscii) ++ '"' :: ':' ::
                (print ensureAscii nextValue ++ (printFields ensureAscii rest ++ x))) := by
            rw [printFields, List.tail_cons]
            simp [quoted]
          rw [htext'] at hrest
          have htail : printFields ensureAscii ((next, nextValue) :: rest) ++ x = ',' ::
              ((printFields ensureAscii ((next, nextValue) :: rest)).tail ++ x) := rfl
          rw [htail, skipSpace_cons (by decide)]
          show (readFields fuel (skipSpace _)).map _ = _
          rw [show (printFields ensureAscii ((next, nextValue) :: rest)).tail ++ x = _ from htext',
            skipSpace_cons (by decide), hrest]
          rfl

end

/-! ## Documents -/

theorem distinctKeysItems_iff {items : List Json} :
    DistinctKeysItems items ↔ ∀ item ∈ items, DistinctKeys item := by
  induction items with
  | nil => simp [DistinctKeysItems]
  | cons item rest ih => rw [DistinctKeysItems, ih, List.forall_mem_cons]

theorem distinctKeysFields_iff {fields : List (Str × Json)} :
    DistinctKeysFields fields ↔ ∀ field ∈ fields, DistinctKeys field.2 := by
  induction fields with
  | nil => simp [DistinctKeysFields]
  | cons field rest ih => rw [DistinctKeysFields, ih, List.forall_mem_cons]

mutual

theorem DistinctKeys.sortKeys : ∀ {v : Json}, DistinctKeys v → DistinctKeys v.sortKeys
  | .null, _ => trivial
  | .bool _, _ => trivial
  | .int _, _ => trivial
  | .str _, _ => trivial
  | .arr _, h => DistinctKeysItems.sortKeys h
  | .obj fields, h => by
      refine ⟨((sortedBy_perm Prod.fst _).map Prod.fst).nodup_iff.mpr ?_, ?_⟩
      · rw [sortKeysFields_eq, List.map_map]
        exact h.1
      · refine distinctKeysFields_iff.mpr fun field hfield => ?_
        exact distinctKeysFields_iff.mp (DistinctKeysFields.sortKeys h.2) field
          (mem_sortedBy.mp hfield)

theorem DistinctKeysItems.sortKeys : ∀ {items : List Json}, DistinctKeysItems items →
    DistinctKeysItems (sortKeysItems items)
  | [], _ => trivial
  | _ :: _, h => ⟨h.1.sortKeys, DistinctKeysItems.sortKeys h.2⟩

theorem DistinctKeysFields.sortKeys : ∀ {fields : List (Str × Json)}, DistinctKeysFields fields →
    DistinctKeysFields (sortKeysFields fields)
  | [], _ => trivial
  | (_, _) :: _, h => ⟨h.1.sortKeys, DistinctKeysFields.sortKeys h.2⟩

end

/-- A document of distinct keys is read back from its text, its keys in order. -/
theorem loads_dumps {v : Json} (h : DistinctKeys v) :
    loads (dumps ensureAscii v) = some v.sortKeys := by
  have hstops : Stops [] := fun c hc => by cases hc
  have hread : readValue (2 * (print ensureAscii v.sortKeys).length + 1)
      (print ensureAscii v.sortKeys ++ []) = some (v.sortKeys, []) :=
    readValue_print v.sortKeys h.sortKeys hstops (Nat.le_succ _)
  have hskip := @skipSpace_print ensureAscii v.sortKeys []
  rw [List.append_nil] at hread hskip
  unfold loads
  rw [dumps_eq_print, hskip, hread]
  rfl

end

end Secp.Python.Json
