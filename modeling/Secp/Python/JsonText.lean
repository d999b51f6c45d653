import Mathlib.Data.Char
import Secp.Python.Json

/-!
# A printed value determines the value

`Json.dumps` sorts the keys of every object and prints. Two values with one text are the same up to the
order of their keys. The text of a value can be told from what follows it, and this is carried through
the three kinds of list: the characters of a string, the items of an array and the fields of an object.
-/

namespace Secp.Python.Json

/-! ## Strings -/

/-- The value of the digits of `\uXXXX`. -/
def hexUnit (a b c d : Char) : Nat :=
  ((hexValue a * 16 + hexValue b) * 16 + hexValue c) * 16 + hexValue d

/-- The character behind a backslash. -/
def escapedUnit (c : Char) : Nat :=
  if c = 'n' then 10 else if c = 'r' then 13 else if c = 't' then 9
  else if c = 'f' then 12 else if c = 'b' then 8 else c.toNat

/-- The first code unit of the inside of a string, with what follows. -/
def firstUnit : Str → Nat × Str
  | [] => (0, [])
  | c :: rest =>
      if c = '\\' then
        match rest with
        | 'u' :: a :: b :: c :: d :: rest => (hexUnit a b c d, rest)
        | c :: rest => (escapedUnit c, rest)
        | [] => (0, [])
      else (c.toNat, rest)

theorem hexValue_hexDigit {n : Nat} (h : n < 16) : hexValue (hexDigit n) = n := by
  revert h
  exact (show ∀ n < 16, hexValue (hexDigit n) = n by decide) n

theorem str_unicodeEscape : Python.str "\\u" = ['\\', 'u'] := by with_unfolding_all decide

/-- The escapes of two characters. -/
theorem str_escapes : Python.str "\\\"" = ['\\', '"'] ∧ Python.str "\\\\" = ['\\', '\\'] ∧
    Python.str "\\n" = ['\\', 'n'] ∧ Python.str "\\r" = ['\\', 'r'] ∧
    Python.str "\\t" = ['\\', 't'] ∧ Python.str "\\f" = ['\\', 'f'] ∧
    Python.str "\\b" = ['\\', 'b'] := by
  with_unfolding_all decide

theorem firstUnit_hexPad {n : Nat} (h : n < 65536) (x : Str) :
    firstUnit (Python.str "\\u" ++ hexPad 4 n ++ x) = (n, x) := by
  rw [str_unicodeEscape]
  show (hexUnit _ _ _ _, x) = (n, x)
  unfold hexUnit
  rw [hexValue_hexDigit (Nat.mod_lt _ (by decide)), hexValue_hexDigit (Nat.mod_lt _ (by decide)),
    hexValue_hexDigit (Nat.mod_lt _ (by decide)), hexValue_hexDigit (Nat.mod_lt _ (by decide))]
  congr 1
  omega

/-- A character that takes one code unit is read back. -/
theorem firstUnit_escapeChar {ensureAscii : Bool} {c : Char}
    (h : ensureAscii = false ∨ c.toNat < 65536) (x : Str) :
    firstUnit (escapeChar ensureAscii c ++ x) = (c.toNat, x) := by
  obtain ⟨hquote, hslash, hn, hr, ht, hf, hb⟩ := str_escapes
  unfold escapeChar
  split
  · next hc =>
      rw [hc, hquote]
      rfl
  split
  · next hc =>
      rw [hc, hslash]
      rfl
  split
  · next hc =>
      rw [hc, hn]
      rfl
  split
  · next hc =>
      rw [hc, hr]
      rfl
  split
  · next hc =>
      rw [hc, ht]
      rfl
  split
  · next hc =>
      rw [hc, hf]
      rfl
  split
  · next hc =>
      rw [hc, hb]
      rfl
  split
  · next hc => exact firstUnit_hexPad (by omega) x
  split
  · next hslash _ _ _ _ _ _ _ =>
      show (if c = '\\' then _ else (c.toNat, x)) = (c.toNat, x)
      rw [if_neg hslash]
  · next hplain =>
      have hsmall : c.toNat < 65536 := by
        rcases h with rfl | h
        · exact absurd hplain (by simp)
        · exact h
      rw [if_pos hsmall]
      exact firstUnit_hexPad hsmall x

/-- A character beyond the first plane is written as two units. -/
theorem escapeChar_astral {c : Char} (h : 65536 ≤ c.toNat) : escapeChar true c =
    Python.str "\\u" ++ hexPad 4 (0xD800 + (c.toNat - 0x10000) / 1024) ++
      (Python.str "\\u" ++ hexPad 4 (0xDC00 + (c.toNat - 0x10000) % 1024)) := by
  have hne : ∀ d : Char, d.toNat < 65536 → c ≠ d := by
    rintro d hd rfl
    omega
  unfold escapeChar
  rw [if_neg (hne _ (by decide)), if_neg (hne _ (by decide)), if_neg (hne _ (by decide)),
    if_neg (hne _ (by decide)), if_neg (hne _ (by decide)), if_neg (by omega), if_neg (by omega),
    if_neg (by omega), if_neg (by simp; omega), if_neg (by omega)]
  simp only [List.append_assoc]

theorem toNat_lt (c : Char) : c.toNat < 0x110000 := by
  rcases c.valid with h | h
  · exact Nat.lt_trans h (by decide)
  · exact h.2

/-- No character is a surrogate. -/
theorem toNat_not_surrogate (c : Char) : c.toNat < 0xD800 ∨ 0xE000 ≤ c.toNat := by
  rcases c.valid with h | h
  · exact .inl h
  · exact .inr h.1

/-- A character of a string can be told from what follows it. -/
theorem escapeChar_append_inj {ensureAscii : Bool} {c d : Char} {x y : Str}
    (h : escapeChar ensureAscii c ++ x = escapeChar ensureAscii d ++ y) : c = d ∧ x = y := by
  have hunit := congrArg firstUnit h
  by_cases hc : ensureAscii = false ∨ c.toNat < 65536
  · by_cases hd : ensureAscii = false ∨ d.toNat < 65536
    · rw [firstUnit_escapeChar hc, firstUnit_escapeChar hd, Prod.mk.injEq] at hunit
      exact ⟨Char.toNat_inj.mp hunit.1, hunit.2⟩
    · obtain ⟨hascii, hd⟩ := not_or.mp hd
      have hlt := toNat_lt d
      rw [firstUnit_escapeChar hc, (Bool.not_eq_false _).mp hascii, escapeChar_astral (by omega),
        List.append_assoc, firstUnit_hexPad (by omega), Prod.mk.injEq] at hunit
      have hvalid := toNat_not_surrogate c
      omega
  · obtain ⟨hascii, hc⟩ := not_or.mp hc
    have hlt := toNat_lt c
    rw [(Bool.not_eq_false _).mp hascii] at hunit
    rw [escapeChar_astral (by omega), List.append_assoc _ _ x, firstUnit_hexPad (by omega)] at hunit
    by_cases hd : d.toNat < 65536
    · rw [firstUnit_escapeChar (.inr hd), Prod.mk.injEq] at hunit
      have hvalid := toNat_not_surrogate d
      omega
    · have hlt' := toNat_lt d
      rw [escapeChar_astral (by omega), List.append_assoc _ _ y, firstUnit_hexPad (by omega),
        Prod.mk.injEq] at hunit
      obtain ⟨hhigh, hlow⟩ := hunit
      have hunit := congrArg firstUnit hlow
      rw [firstUnit_hexPad (by omega), firstUnit_hexPad (by omega), Prod.mk.injEq] at hunit
      refine ⟨Char.toNat_inj.mp ?_, hunit.2⟩
      omega

/-- No character of a string is printed as a quote. -/
theorem escapeChar_append_ne (ensureAscii : Bool) (c : Char) (x y : Str) :
    escapeChar ensureAscii c ++ x ≠ '"' :: y := by
  obtain ⟨hquote, hslash, hn, hr, ht, hf, hb⟩ := str_escapes
  intro h
  have hhead := congrArg List.head? h
  unfold escapeChar at hhead
  rw [hquote, hslash, hn, hr, ht, hf, hb, str_unicodeEscape] at hhead
  repeat' split at hhead
  all_goals first
    | exact absurd (Option.some.inj hhead) (by decide)
    | exact absurd (Option.some.inj hhead) (by assumption)

theorem quoted_append_inj {ensureAscii : Bool} {s t x y : Str}
    (h : quoted ensureAscii s ++ x = quoted ensureAscii t ++ y) : s = t ∧ x = y := by
  have hinside : ∀ s t : Str, s.flatMap (escapeChar ensureAscii) ++ '"' :: x =
      t.flatMap (escapeChar ensureAscii) ++ '"' :: y → s = t ∧ x = y := by
    intro s
    induction s with
    | nil =>
        intro t h
        cases t with
        | nil => exact ⟨rfl, (List.cons.inj h).2⟩
        | cons d t =>
            rw [List.flatMap_cons, List.append_assoc] at h
            exact absurd h.symm (escapeChar_append_ne _ _ _ _)
    | cons c s ih =>
        intro t h
        cases t with
        | nil =>
            rw [List.flatMap_cons, List.append_assoc] at h
            exact absurd h (escapeChar_append_ne _ _ _ _)
        | cons d t =>
            rw [List.flatMap_cons, List.flatMap_cons, List.append_assoc, List.append_assoc] at h
            obtain ⟨rfl, hrest⟩ := escapeChar_append_inj h
            obtain ⟨rfl, rfl⟩ := ih t hrest
            exact ⟨rfl, rfl⟩
  refine hinside s t ?_
  unfold quoted at h
  simpa using h

/-! ## Numbers -/

/-- What may follow a value. -/
def Stops (rest : Str) : Prop := ∀ c ∈ rest.head?, isAsciiDigit c = false

theorem natStr_append_inj {m n : Nat} {x y : Str} (hx : Stops x) (hy : Stops y)
    (h : natStr m ++ x = natStr n ++ y) : m = n ∧ x = y := by
  have htake : ∀ {k : Nat} {z : Str}, Stops z → (natStr k ++ z).takeWhile isAsciiDigit = natStr k := by
    intro k z hz
    rw [List.takeWhile_append_of_pos fun c hc => isAsciiDigit_of_mem_natStr hc]
    cases z with
    | nil => exact List.append_nil _
    | cons c rest => rw [List.takeWhile_cons_of_neg (by rw [hz c rfl]; decide), List.append_nil]
  have hdigits : natStr m = natStr n := by rw [← htake hx, h, htake hy]
  obtain rfl := natStr_injective hdigits
  exact ⟨rfl, List.append_cancel_left h⟩

theorem intStr_append_inj {m n : Int} {x y : Str} (hx : Stops x) (hy : Stops y)
    (h : intStr m ++ x = intStr n ++ y) : m = n ∧ x = y := by
  -- a sign is no digit
  have hsign : ∀ (k : Nat) (z w : Str), natStr k ++ z ≠ '-' :: w := by
    intro k z w h
    obtain ⟨c, rest, hk⟩ := List.exists_cons_of_ne_nil (natStr_ne_nil k)
    have hc : isAsciiDigit c = true := isAsciiDigit_of_mem_natStr (hk ▸ List.mem_cons_self)
    rw [hk] at h
    rw [(List.cons.inj h).1] at hc
    exact absurd hc (by decide)
  cases m with
  | ofNat m =>
      cases n with
      | ofNat n =>
          obtain ⟨rfl, hrest⟩ := natStr_append_inj hx hy h
          exact ⟨rfl, hrest⟩
      | negSucc n => exact absurd h (hsign _ _ _)
  | negSucc m =>
      cases n with
      | ofNat n => exact absurd h.symm (hsign _ _ _)
      | negSucc n =>
          obtain ⟨hsame, hrest⟩ := natStr_append_inj hx hy (List.cons.inj h).2
          exact ⟨by rw [Nat.succ.inj hsame], hrest⟩

/-! ## Values -/

mutual

/-- The value with the keys of every object in order. -/
def sortKeys : Json → Json
  | .arr items => .arr (sortKeysItems items)
  | .obj fields => .obj (sortedBy Prod.fst (sortKeysFields fields))
  | value => value

def sortKeysItems : List Json → List Json
  | [] => []
  | item :: rest => sortKeys item :: sortKeysItems rest

def sortKeysFields : List (Str × Json) → List (Str × Json)
  | [] => []
  | (key, value) :: rest => (key, sortKeys value) :: sortKeysFields rest

end

mutual

/-- A value printed as it stands; a list is printed with what separates its parts in front of all but
the first. -/
def print (ensureAscii : Bool) : Json → Str
  | .null => ['n', 'u', 'l', 'l']
  | .bool true => ['t', 'r', 'u', 'e']
  | .bool false => ['f', 'a', 'l', 's', 'e']
  | .int n => intStr n
  | .str s => quoted ensureAscii s
  | .arr [] => ['[', ']']
  | .arr (item :: rest) => '[' :: (print ensureAscii item ++ printItems ensureAscii rest)
  | .obj [] => ['{', '}']
  | .obj ((key, value) :: rest) =>
      '{' :: (quoted ensureAscii key ++ ':' :: (print ensureAscii value ++
        printFields ensureAscii rest))

def printItems (ensureAscii : Bool) : List Json → Str
  | [] => [']']
  | item :: rest => ',' :: (print ensureAscii item ++ printItems ensureAscii rest)

def printFields (ensureAscii : Bool) : List (Str × Json) → Str
  | [] => ['}']
  | (key, value) :: rest =>
      ',' :: (quoted ensureAscii key ++ ':' :: (print ensureAscii value ++
        printFields ensureAscii rest))

end

section
variable {ensureAscii : Bool}

theorem stops_printItems (items : List Json) (x : Str) :
    Stops (printItems ensureAscii items ++ x) := by
  cases items <;>
    · rintro c ⟨⟩
      decide

theorem stops_printFields (fields : List (Str × Json)) (x : Str) :
    Stops (printFields ensureAscii fields ++ x) := by
  rcases fields with _ | ⟨⟨key, value⟩, rest⟩ <;>
    · rintro c ⟨⟩
      decide

/-- The characters a value of each kind may begin with. -/
def leads : Json → Char → Bool
  | .null, c => c = 'n'
  | .bool true, c => c = 't'
  | .bool false, c => c = 'f'
  | .int _, c => isAsciiDigit c || c = '-'
  | .str _, c => c = '"'
  | .arr _, c => c = '['
  | .obj _, c => c = '{'

theorem exists_lead (value : Json) :
    ∃ c rest, print ensureAscii value = c :: rest ∧ leads value c = true := by
  cases value with
  | null => exact ⟨_, _, rfl, rfl⟩
  | bool b => cases b <;> exact ⟨_, _, rfl, rfl⟩
  | int n =>
      cases n with
      | ofNat n =>
          obtain ⟨c, rest, hn⟩ := List.exists_cons_of_ne_nil (natStr_ne_nil n)
          refine ⟨c, rest, hn, ?_⟩
          rw [leads, isAsciiDigit_of_mem_natStr (show c ∈ natStr n from hn ▸ List.mem_cons_self)]
          rfl
      | negSucc n => exact ⟨_, _, rfl, rfl⟩
  | str s => exact ⟨_, _, rfl, rfl⟩
  | arr items => cases items <;> exact ⟨_, _, rfl, rfl⟩
  | obj fields => rcases fields with _ | ⟨⟨key, value⟩, rest⟩ <;> exact ⟨_, _, rfl, rfl⟩

/-- Two values printed alike begin alike. -/
theorem lead_of_print_append_eq {v w : Json} {x y : Str}
    (h : print ensureAscii v ++ x = print ensureAscii w ++ y) :
    ∃ c, leads v c = true ∧ leads w c = true := by
  obtain ⟨c, rest, hv, hc⟩ := @exists_lead ensureAscii v
  obtain ⟨d, rest', hw, hd⟩ := @exists_lead ensureAscii w
  rw [hv, hw] at h
  exact ⟨c, hc, (List.cons.inj h).1 ▸ hd⟩

/-- No value begins with a closing bracket. -/
theorem print_append_ne {v : Json} {x y : Str} : print ensureAscii v ++ x ≠ ']' :: y := by
  intro h
  obtain ⟨c, rest, hv, hc⟩ := @exists_lead ensureAscii v
  rw [hv] at h
  rw [(List.cons.inj h).1] at hc
  rcases v with _ | b | n | s | items | fields
  case bool => cases b <;> cases hc
  all_goals cases hc

mutual

/-- A value can be told from what follows it. -/
theorem print_append_inj : ∀ (v w : Json) {x y : Str}, Stops x → Stops y →
    print ensureAscii v ++ x = print ensureAscii w ++ y → v = w ∧ x = y
  | .null, w, x, y, hx, hy, h => by
      obtain ⟨c, hc, hlead⟩ := lead_of_print_append_eq h
      rw [of_decide_eq_true (show decide (c = 'n') = true from hc)] at hlead
      rcases w with _ | b | n | s | items | fields
      case null => exact ⟨rfl, List.append_cancel_left h⟩
      case bool => cases b <;> cases hlead
      all_goals cases hlead
  | .bool b, w, x, y, hx, hy, h => by
      obtain ⟨c, hc, hlead⟩ := lead_of_print_append_eq h
      cases b with
      | true =>
          rw [of_decide_eq_true (show decide (c = 't') = true from hc)] at hlead
          rcases w with _ | b | n | s | items | fields
          case bool =>
            cases b
            · cases hlead
            · exact ⟨rfl, List.append_cancel_left h⟩
          all_goals cases hlead
      | false =>
          rw [of_decide_eq_true (show decide (c = 'f') = true from hc)] at hlead
          rcases w with _ | b | n | s | items | fields
          case bool =>
            cases b
            · exact ⟨rfl, List.append_cancel_left h⟩
            · cases hlead
          all_goals cases hlead
  | .int n, w, x, y, hx, hy, h => by
      obtain ⟨c, hc, hlead⟩ := lead_of_print_append_eq h
      have hother : ∀ d : Char, (isAsciiDigit d || decide (d = '-')) = false → c ≠ d := by
        rintro d hd rfl
        exact absurd hc (by rw [show leads (.int n) c = _ from hd]; decide)
      rcases w with _ | b | m | s | items | fields
      case int =>
        obtain ⟨rfl, hrest⟩ := intStr_append_inj hx hy h
        exact ⟨rfl, hrest⟩
      case bool => cases b <;> exact absurd (of_decide_eq_true hlead) (hother _ (by decide))
      all_goals exact absurd (of_decide_eq_true hlead) (hother _ (by decide))
  | .str s, w, x, y, hx, hy, h => by
      obtain ⟨c, hc, hlead⟩ := lead_of_print_append_eq h
      rw [of_decide_eq_true (show decide (c = '"') = true from hc)] at hlead
      rcases w with _ | b | n | t | items | fields
      case str =>
        obtain ⟨rfl, hrest⟩ := quoted_append_inj h
        exact ⟨rfl, hrest⟩
      case bool => cases b <;> cases hlead
      all_goals cases hlead
  | .arr items, w, x, y, hx, hy, h => by
      obtain ⟨c, hc, hlead⟩ := lead_of_print_append_eq h
      rw [of_decide_eq_true (show decide (c = '[') = true from hc)] at hlead
      rcases w with _ | b | n | s | items' | fields
      case arr =>
        cases items with
        | nil =>
            cases items' with
            | nil => exact ⟨rfl, List.append_cancel_left h⟩
            | cons item' rest' =>
                simp only [print, List.cons_append, List.append_assoc, List.nil_append, List.cons.injEq,
                  true_and] at h
                exact absurd h.symm print_append_ne
        | cons item rest =>
            cases items' with
            | nil =>
                simp only [print, List.cons_append, List.append_assoc, List.nil_append, List.cons.injEq,
                  true_and] at h
                exact absurd h print_append_ne
            | cons item' rest' =>
                simp only [print, List.cons_append, List.append_assoc, List.cons.injEq, true_and] at h
                obtain ⟨rfl, hrest⟩ := print_append_inj item item' (stops_printItems _ _)
                  (stops_printItems _ _) h
                obtain ⟨rfl, hend⟩ := printItems_append_inj rest rest' hrest
                exact ⟨rfl, hend⟩
      case bool => cases b <;> cases hlead
      all_goals cases hlead
  | .obj fields, w, x, y, hx, hy, h => by
      obtain ⟨c, hc, hlead⟩ := lead_of_print_append_eq h
      rw [of_decide_eq_true (show decide (c = '{') = true from hc)] at hlead
      rcases w with _ | b | n | s | items | fields'
      case obj =>
        rcases fields with _ | ⟨⟨key, value⟩, rest⟩
        · rcases fields' with _ | ⟨⟨key', value'⟩, rest'⟩
          · exact ⟨rfl, List.append_cancel_left h⟩
          · exact absurd (List.cons.inj (List.cons.inj h).2).1 (by decide)
        · rcases fields' with _ | ⟨⟨key', value'⟩, rest'⟩
          · exact absurd (List.cons.inj (List.cons.inj h).2).1 (by decide)
          · simp only [print, List.cons_append, List.append_assoc, List.cons.injEq, true_and] at h
            obtain ⟨rfl, hvalue⟩ := quoted_append_inj h
            replace hvalue := (List.cons.inj hvalue).2
            obtain ⟨rfl, hrest⟩ := print_append_inj value value' (stops_printFields _ _)
              (stops_printFields _ _) hvalue
            obtain ⟨rfl, hend⟩ := printFields_append_inj rest rest' hrest
            exact ⟨rfl, hend⟩
      case bool => cases b <;> cases hlead
      all_goals cases hlead

theorem printItems_append_inj : ∀ (items items' : List Json) {x y : Str},
    printItems ensureAscii items ++ x = printItems ensureAscii items' ++ y → items = items' ∧ x = y
  | [], [], x, y, h => ⟨rfl, List.append_cancel_left h⟩
  | [], item' :: rest', x, y, h => absurd (List.cons.inj h).1 (by decide)
  | item :: rest, [], x, y, h => absurd (List.cons.inj h).1 (by decide)
  | item :: rest, item' :: rest', x, y, h => by
      simp only [printItems, List.cons_append, List.append_assoc, List.cons.injEq, true_and] at h
      obtain ⟨rfl, hrest⟩ := print_append_inj item item' (stops_printItems _ _) (stops_printItems _ _) h
      obtain ⟨rfl, hend⟩ := printItems_append_inj rest rest' hrest
      exact ⟨rfl, hend⟩

theorem printFields_append_inj : ∀ (fields fields' : List (Str × Json)) {x y : Str},
    printFields ensureAscii fields ++ x = printFields ensureAscii fields' ++ y →
      fields = fields' ∧ x = y
  | [], [], x, y, h => ⟨rfl, List.append_cancel_left h⟩
  | [], field' :: rest', x, y, h => absurd (List.cons.inj h).1 (by decide)
  | field :: rest, [], x, y, h => absurd (List.cons.inj h).1 (by decide)
  | (key, value) :: rest, (key', value') :: rest', x, y, h => by
      simp only [printFields, List.cons_append, List.append_assoc, List.cons.injEq, true_and] at h
      obtain ⟨rfl, hvalue⟩ := quoted_append_inj h
      replace hvalue := (List.cons.inj hvalue).2
      obtain ⟨rfl, hrest⟩ := print_append_inj value value' (stops_printFields _ _)
        (stops_printFields _ _) hvalue
      obtain ⟨rfl, hend⟩ := printFields_append_inj rest rest' hrest
      exact ⟨rfl, hend⟩

end

end

/-! ## Printing with sorted keys -/

section
variable {ensureAscii : Bool}

/-- Parts behind a first one, each with a comma in front. -/
theorem join_cons (first : Str) (parts : List Str) :
    join [','] (first :: parts) = first ++ parts.flatMap fun part => ',' :: part := by
  induction parts generalizing first with
  | nil => rfl
  | cons part rest ih =>
      show first ++ ([','] ++ join [','] (part :: rest)) = _
      rw [ih part]
      rfl

theorem printItems_eq (items : List Json) : printItems ensureAscii items =
    (items.map (print ensureAscii)).flatMap (fun part => ',' :: part) ++ [']'] := by
  induction items with
  | nil => rfl
  | cons item rest ih =>
      rw [printItems, ih, List.map_cons, List.flatMap_cons, List.append_assoc]
      rfl

theorem printFields_eq (fields : List (Str × Json)) : printFields ensureAscii fields =
    (fields.map fun field => quoted ensureAscii field.1 ++ [':'] ++ print ensureAscii field.2).flatMap
      (fun part => ',' :: part) ++ ['}'] := by
  induction fields with
  | nil => rfl
  | cons field rest ih =>
      rw [printFields, ih, List.map_cons, List.flatMap_cons]
      simp only [List.append_assoc, List.cons_append, List.nil_append]

theorem print_arr (items : List Json) : print ensureAscii (.arr items) =
    ['['] ++ join [','] (items.map (print ensureAscii)) ++ [']'] := by
  cases items with
  | nil => rfl
  | cons item rest =>
      rw [print, printItems_eq, List.map_cons, join_cons]
      simp only [List.append_assoc, List.cons_append, List.nil_append]

theorem print_obj (fields : List (Str × Json)) : print ensureAscii (.obj fields) =
    ['{'] ++ join [','] (fields.map fun field =>
      quoted ensureAscii field.1 ++ [':'] ++ print ensureAscii field.2) ++ ['}'] := by
  cases fields with
  | nil => rfl
  | cons field rest =>
      rw [print, printFields_eq, List.map_cons, join_cons]
      simp only [List.append_assoc, List.cons_append, List.nil_append]

/-- Sorting by key commutes with a map of the values. -/
theorem sortedBy_map_snd {β γ : Type} (f : β → γ) (pairs : List (Str × β)) :
    sortedBy Prod.fst (pairs.map fun pair => (pair.1, f pair.2)) =
      (sortedBy Prod.fst pairs).map fun pair => (pair.1, f pair.2) := by
  refine (List.map_insertionSort _ _ _ pairs fun a _ b _ => ?_).symm
  exact Iff.rfl

mutual

/-- `dumps` prints the value with its keys in order. -/
theorem dumps_eq_print : ∀ v : Json, dumps ensureAscii v = print ensureAscii (sortKeys v)
  | .null => rfl
  | .bool true => rfl
  | .bool false => rfl
  | .int n => rfl
  | .str s => rfl
  | .arr items => by
      rw [dumps, sortKeys, print_arr, dumpsItems_eq_print items]
  | .obj fields => by
      rw [dumps, sortKeys, print_obj, dumpsFields_eq_print fields, sortedBy_map_snd, List.map_map]
      rfl

theorem dumpsItems_eq_print : ∀ items : List Json,
    dumpsItems ensureAscii items = (sortKeysItems items).map (print ensureAscii)
  | [] => rfl
  | item :: rest => by
      rw [dumpsItems, sortKeysItems, List.map_cons, dumps_eq_print item, dumpsItems_eq_print rest]

theorem dumpsFields_eq_print : ∀ fields : List (Str × Json), dumpsFields ensureAscii fields =
    (sortKeysFields fields).map fun field => (field.1, print ensureAscii field.2)
  | [] => rfl
  | (key, value) :: rest => by
      rw [dumpsFields, sortKeysFields, List.map_cons, dumps_eq_print value, dumpsFields_eq_print rest]

end

/-- Two values with one text are the same up to the order of their keys. -/
theorem dumps_inj {v w : Json} :
    dumps ensureAscii v = dumps ensureAscii w ↔ sortKeys v = sortKeys w := by
  rw [dumps_eq_print, dumps_eq_print]
  constructor
  · intro h
    have hstops : Stops [] := fun c hc => by cases hc
    exact (print_append_inj (sortKeys v) (sortKeys w) hstops hstops (congrArg (· ++ []) h)).1
  · intro h
    rw [h]

end

/-! ## What stays of a document whose keys are sorted -/

theorem sortKeysItems_eq (items : List Json) : sortKeysItems items = items.map sortKeys := by
  induction items with
  | nil => rfl
  | cons item rest ih => rw [sortKeysItems, ih, List.map_cons]

theorem sortKeysFields_eq (fields : List (Str × Json)) :
    sortKeysFields fields = fields.map fun field => (field.1, sortKeys field.2) := by
  induction fields with
  | nil => rfl
  | cons field rest ih => rw [sortKeysFields, ih, List.map_cons]

@[simp] theorem sortKeys_str (s : Str) : sortKeys (.str s) = .str s := rfl

@[simp] theorem sortKeys_int (n : Int) : sortKeys (.int n) = .int n := rfl

@[simp] theorem sortKeys_bool (b : Bool) : sortKeys (.bool b) = .bool b := rfl

theorem sortKeys_arr (items : List Json) : sortKeys (.arr items) = .arr (items.map sortKeys) := by
  rw [sortKeys, sortKeysItems_eq]

/-- Arrays agree item by item. -/
theorem map_sortKeys_of_arr {items items' : List Json}
    (h : sortKeys (.arr items) = sortKeys (.arr items')) : items.map sortKeys = items'.map sortKeys := by
  rw [sortKeys_arr, sortKeys_arr] at h
  exact Json.arr.inj h

/-- Arrays of what determines its sorted document agree. -/
theorem eq_of_sortKeys_map {α : Type} {document : α → Json} {as bs : List α}
    (hdocument : ∀ a b, sortKeys (document a) = sortKeys (document b) → a = b)
    (h : sortKeys (.arr (as.map document)) = sortKeys (.arr (bs.map document))) : as = bs := by
  have hmap := map_sortKeys_of_arr h
  rw [List.map_map, List.map_map] at hmap
  exact List.map_injective_iff.mpr (fun a b hab => hdocument a b hab) hmap

/-- A lookup in an object is a lookup in its sorted fields. -/
theorem get?_sortKeys_obj {fields : List (Str × Json)} (hnodup : (fields.map Prod.fst).Nodup)
    (key : Str) : (sortKeys (.obj fields)).get? key = (Dict.get? fields key).map sortKeys := by
  have hkeys : ((sortKeysFields fields).map Prod.fst).Nodup := by
    rw [sortKeysFields_eq, List.map_map]
    exact hnodup
  have hsortedKeys : ((sortedBy Prod.fst (sortKeysFields fields)).map Prod.fst).Nodup :=
    ((sortedBy_perm Prod.fst _).map Prod.fst).nodup_iff.mpr hkeys
  show Dict.get? (sortedBy Prod.fst (sortKeysFields fields)) key = _
  cases hget : Dict.get? fields key with
  | none =>
      refine Dict.get?_eq_none_iff.mpr fun hmem => ?_
      obtain ⟨field, hfield, hkey⟩ := List.mem_map.mp hmem
      rw [mem_sortedBy, sortKeysFields_eq] at hfield
      obtain ⟨source, hsource, rfl⟩ := List.mem_map.mp hfield
      have hmem : source.1 ∈ fields.map Prod.fst := List.mem_map_of_mem hsource
      exact Dict.get?_eq_none_iff.mp hget (hkey ▸ hmem)
  | some value =>
      refine Dict.get?_of_mem hsortedKeys (mem_sortedBy.mpr ?_)
      rw [sortKeysFields_eq]
      exact List.mem_map_of_mem (f := fun field => (field.1, sortKeys field.2))
        (Dict.mem_of_get? hget)

/-- Objects of distinct keys agree field by field. -/
theorem sortKeys_field {fields fields' : List (Str × Json)} (hnodup : (fields.map Prod.fst).Nodup)
    (hnodup' : (fields'.map Prod.fst).Nodup)
    (h : sortKeys (.obj fields) = sortKeys (.obj fields')) (key : Str) :
    (Dict.get? fields key).map sortKeys = (Dict.get? fields' key).map sortKeys := by
  rw [← get?_sortKeys_obj hnodup, ← get?_sortKeys_obj hnodup', h]

/-- Two objects of the same distinct keys agree in every field. -/
theorem get?_of_sortKeys_eq {a b : Json} {keys : List Str} (hkeys : keys.Nodup)
    (ha : ∃ fields, a = .obj fields ∧ fields.map Prod.fst = keys)
    (hb : ∃ fields, b = .obj fields ∧ fields.map Prod.fst = keys)
    (h : sortKeys a = sortKeys b) (key : Str) :
    (a.get? key).map sortKeys = (b.get? key).map sortKeys := by
  obtain ⟨fields, rfl, hfields⟩ := ha
  obtain ⟨fields', rfl, hfields'⟩ := hb
  exact sortKeys_field (hfields ▸ hkeys) (hfields' ▸ hkeys) h key

/-! ## Sorting again -/

mutual

/-- Keys in order stay in order. -/
theorem sortKeys_sortKeys : ∀ v : Json, v.sortKeys.sortKeys = v.sortKeys
  | .null => rfl
  | .bool _ => rfl
  | .int _ => rfl
  | .str _ => rfl
  | .arr items => by
      rw [sortKeys, sortKeys, sortKeysItems_eq (sortKeysItems items)]
      exact congrArg Json.arr ((List.map_congr_left (sortKeys_of_mem_items items)).trans (List.map_id _))
  | .obj fields => by
      have hfields : sortKeysFields (sortedBy Prod.fst (sortKeysFields fields)) =
          sortedBy Prod.fst (sortKeysFields fields) := by
        rw [sortKeysFields_eq]
        refine (List.map_congr_left fun field hfield => ?_).trans (List.map_id _)
        rw [sortKeys_of_mem_fields fields field (mem_sortedBy.mp hfield)]
        rfl
      rw [sortKeys, sortKeys, hfields]
      exact congrArg Json.obj (List.Pairwise.insertionSort_eq (pairwise_sortedBy Prod.fst _))

theorem sortKeys_of_mem_items : ∀ items : List Json, ∀ item ∈ sortKeysItems items,
    item.sortKeys = id item
  | [], _, hitem => by cases hitem
  | first :: rest, item, hitem => by
      rcases List.mem_cons.mp hitem with rfl | hitem
      · exact sortKeys_sortKeys first
      · exact sortKeys_of_mem_items rest item hitem

theorem sortKeys_of_mem_fields : ∀ fields : List (Str × Json), ∀ field ∈ sortKeysFields fields,
    field.2.sortKeys = field.2
  | [], _, hfield => by cases hfield
  | (_, value) :: rest, field, hfield => by
      rcases List.mem_cons.mp hfield with rfl | hfield
      · exact sortKeys_sortKeys value
      · exact sortKeys_of_mem_fields rest field hfield

end

/-- A value and its sorted one have the same text. -/
theorem dumps_sortKeys (ensureAscii : Bool) (v : Json) :
    dumps ensureAscii v.sortKeys = dumps ensureAscii v :=
  dumps_inj.mpr (sortKeys_sortKeys v)

end Secp.Python.Json
