import Mathlib.Data.List.Infix

/-!
# Text as the interpreter sees it

A `str` is a finite sequence of code points, so slicing, length and comparison are the
list operations. This module fixes decimal and hexadecimal printing, the integer reader
and the case and character-class methods. ASCII text is handled here in full; what the
Unicode database says about other characters is a parameter, `Unicode`, and no result
below depends on its contents.

Read `int_of_text_of_int` first: printing an integer and reading it back gives the integer.
-/

namespace Secp.Python

/-- A text value: a sequence of code points. -/
abbrev Str := List Char

instance instLawfulBEqStr : LawfulBEq Str := inferInstance

/-- A literal written in the source. -/
@[irreducible] def str (literal : String) : Str := literal.toList

instance : Coe String Str := ⟨str⟩

/-- Distinct literals are distinct texts. -/
@[simp] theorem str_inj {a b : String} : str a = str b ↔ a = b := by
  simp only [str]
  exact String.toList_inj

@[simp] theorem str_eq_nil {a : String} : str a = [] ↔ a = "" := by
  simp only [str]
  exact String.toList_eq_nil_iff

/-- The facts about non-ASCII characters that text methods look up in the Unicode database. -/
class Unicode where
  lower : Str → Str
  upper : Str → Str
  isAlpha : Char → Bool
  isDigit : Char → Bool
  isNumeric : Char → Bool
  isLower : Char → Bool
  isUpperOrTitle : Char → Bool
  isSpace : Char → Bool
  isPrintable : Char → Bool
  decimal : Char → Option Nat

/-- A database that knows no character outside ASCII. -/
@[reducible] def Unicode.ascii : Unicode where
  lower := id
  upper := id
  isAlpha := fun _ => false
  isDigit := fun _ => false
  isNumeric := fun _ => false
  isLower := fun _ => false
  isUpperOrTitle := fun _ => false
  isSpace := fun _ => false
  isPrintable := fun _ => true
  decimal := fun _ => none

/-! ## Characters -/

def isAscii (c : Char) : Bool := c.toNat < 128

def isAsciiDigit (c : Char) : Bool := 48 ≤ c.toNat && c.toNat ≤ 57

def isAsciiLower (c : Char) : Bool := 97 ≤ c.toNat && c.toNat ≤ 122

def isAsciiUpper (c : Char) : Bool := 65 ≤ c.toNat && c.toNat ≤ 90

def asciiLower (c : Char) : Char := if isAsciiUpper c then Char.ofNat (c.toNat + 32) else c

def asciiUpper (c : Char) : Char := if isAsciiLower c then Char.ofNat (c.toNat - 32) else c

/-- Membership of a character in `[0-9A-Fa-f]`. -/
def isHexDigit (c : Char) : Bool :=
  isAsciiDigit c || (97 ≤ c.toNat && c.toNat ≤ 102) || (65 ≤ c.toNat && c.toNat ≤ 70)

section
variable [Unicode]

def isAlpha (c : Char) : Bool :=
  if isAscii c then isAsciiLower c || isAsciiUpper c else Unicode.isAlpha c

def isLower (c : Char) : Bool :=
  if isAscii c then isAsciiLower c else Unicode.isLower c

def isUpperOrTitle (c : Char) : Bool :=
  if isAscii c then isAsciiUpper c else Unicode.isUpperOrTitle c

def isDigit (c : Char) : Bool :=
  if isAscii c then isAsciiDigit c else Unicode.isDigit c

def isAlnum (c : Char) : Bool :=
  if isAscii c then isAsciiLower c || isAsciiUpper c || isAsciiDigit c
  else Unicode.isAlpha c || Unicode.isDigit c || Unicode.isNumeric c

def isSpace (c : Char) : Bool :=
  if isAscii c then (9 ≤ c.toNat && c.toNat ≤ 13) || (28 ≤ c.toNat && c.toNat ≤ 32)
  else Unicode.isSpace c

def isPrintable (c : Char) : Bool :=
  if isAscii c then 32 ≤ c.toNat && c.toNat ≤ 126 else Unicode.isPrintable c

/-! ## Methods of `str` -/

/-- `str.lower`. -/
def lower (s : Str) : Str := if s.all isAscii then s.map asciiLower else Unicode.lower s

/-- `str.upper`. -/
def upper (s : Str) : Str := if s.all isAscii then s.map asciiUpper else Unicode.upper s

/-- `str.isalnum`: the text is not empty and every character is alphanumeric. -/
def strIsAlnum (s : Str) : Bool := !s.isEmpty && s.all isAlnum

/-- `str.isdigit`. -/
def strIsDigit (s : Str) : Bool := !s.isEmpty && s.all isDigit

/-- `str.isalpha`. -/
def strIsAlpha (s : Str) : Bool := !s.isEmpty && s.all isAlpha

/-- `str.islower`: some character is in lower case and none is in upper or title case. -/
def strIsLower (s : Str) : Bool := s.any isLower && s.all fun c => !isUpperOrTitle c

/-- `str.strip` without an argument. -/
def strip (s : Str) : Str := ((s.dropWhile isSpace).reverse.dropWhile isSpace).reverse

end

/-- `s.rstrip(c)` for a one-character argument. -/
def rstripChar (c : Char) (s : Str) : Str := (s.reverse.dropWhile fun d => d = c).reverse

/-- `s.strip(c)` for a one-character argument. -/
def stripChar (c : Char) (s : Str) : Str := rstripChar c (s.dropWhile fun d => d = c)

/-- `re.sub` of a class of single characters by one character. -/
def subChars (inClass : Char → Bool) (new : Char) (s : Str) : Str :=
  s.map fun c => if inClass c then new else c

/-- `sep.join(parts)`. -/
def join (sep : Str) (parts : List Str) : Str := sep.intercalate parts

/-- `needle in s`: the needle occurs as a contiguous run of characters. -/
def contains (needle s : Str) : Bool := s.tails.any fun suffix => needle.isPrefixOf suffix

theorem contains_iff {needle s : Str} : contains needle s = true ↔ needle <:+: s := by
  unfold contains
  rw [List.any_eq_true, List.infix_iff_prefix_suffix]
  simp only [List.mem_tails, List.isPrefixOf_iff_prefix, and_comm]

/-- A text without some character of the needle does not contain the needle. -/
theorem contains_eq_false {needle s : Str} {c : Char} (hc : c ∈ needle) (hs : c ∉ s) :
    contains needle s = false := by
  unfold contains
  rw [List.any_eq_false]
  intro suffix hsuffix hprefixed
  have hin : c ∈ suffix := (List.isPrefixOf_iff_prefix.mp hprefixed).subset hc
  exact hs (((List.mem_tails suffix s).mp hsuffix).subset hin)

/-- `s.startswith(head)`. -/
def startsWith (s head : Str) : Bool := head.isPrefixOf s

/-- `s.replace(old, new)` for a one-character `old`. -/
def replaceChar (old : Char) (new s : Str) : Str := s.flatMap fun c => if c = old then new else [c]

/-- What `$` asks of a pattern that has consumed a text: nothing may follow but one newline. -/
def endsAt (matched : Str → Bool) (s : Str) : Bool :=
  matched s || (s.getLast? == some '\n' && matched s.dropLast)

/-! ## Numbers as text -/

/-- Decimal digits of a natural number, most significant first. -/
def natStr (n : Nat) : Str := Nat.toDigits 10 n

/-- `str(n)` for an integer. -/
def intStr : Int → Str
  | .ofNat n => natStr n
  | .negSucc n => '-' :: natStr (n + 1)

/-- The digit of a value below 16, in lower case. -/
def hexDigit (n : Nat) : Char := Nat.digitChar n

/-- `f"{n:02x}"` for a value below 256. -/
def hex2 (n : Nat) : Str := [hexDigit (n / 16 % 16), hexDigit (n % 16)]

/-- `f"{n:02X}"` for a value below 256. -/
def hex2Upper (n : Nat) : Str := (hex2 n).map asciiUpper

/-- Hexadecimal digits of `n`, the lowest `width` of them. -/
def hexPad : Nat → Nat → Str
  | 0, _ => []
  | width + 1, n => hexPad width (n / 16) ++ [hexDigit (n % 16)]

/-- The value of one hexadecimal digit. -/
def hexValue (c : Char) : Nat :=
  if isAsciiDigit c then c.toNat - 48
  else if c.toNat ≤ 70 then c.toNat - 55 else c.toNat - 87

section
variable [Unicode]

/-- One character of `repr(s)` between the given quotes. -/
def reprChar (quote c : Char) : Str :=
  if c = quote || c = '\\' then ['\\', c]
  else if c = '\t' then str "\\t"
  else if c = '\n' then str "\\n"
  else if c = '\r' then str "\\r"
  else if isPrintable c then [c]
  else if c.toNat < 0x100 then str "\\x" ++ hexPad 2 c.toNat
  else if c.toNat < 0x10000 then str "\\u" ++ hexPad 4 c.toNat
  else str "\\U" ++ hexPad 8 c.toNat

/-- `repr(s)`: single quotes, unless the text has one and no double quote. -/
def strRepr (s : Str) : Str :=
  let quote := if s.contains '\'' && !s.contains '"' then '"' else '\''
  [quote] ++ s.flatMap (reprChar quote) ++ [quote]

/-- `repr` of a list of texts. -/
def listRepr (items : List Str) : Str := ['['] ++ join (str ", ") (items.map strRepr) ++ [']']

/-- The value of a decimal digit character, in any script. -/
def digitValue (c : Char) : Option Nat :=
  if isAscii c then (if isAsciiDigit c then some (c.toNat - 48) else none)
  else Unicode.decimal c

/-- Digits with single underscores between them; `seen` records that the last character was a
digit. -/
def digitsValue (seen : Bool) (acc : Nat) : Str → Option Nat
  | [] => if seen then some acc else none
  | c :: rest =>
      if c = '_' then (if seen then digitsValue false acc rest else none)
      else
        match digitValue c with
        | some d => digitsValue true (10 * acc + d) rest
        | none => none

/-- `int(s)`: surrounding whitespace, an optional sign and decimal digits; `none` where the
interpreter raises `ValueError`. -/
def intOf (s : Str) : Option Int :=
  match strip s with
  | '-' :: ds => (digitsValue false 0 ds).map fun n => -(n : Int)
  | '+' :: ds => (digitsValue false 0 ds).map fun n => (n : Int)
  | ds => (digitsValue false 0 ds).map fun n => (n : Int)

end

/-! ## Printing and reading back -/

/-- Decimal printing is injective. -/
theorem natStr_injective : Function.Injective natStr := by
  intro a b h
  have hvalue := congrArg (fun digits => Nat.ofDigitChars 10 digits 0) h
  simpa only [natStr, Nat.ofDigitChars_ten_toDigits] using hvalue

@[simp] theorem natStr_inj {a b : Nat} : natStr a = natStr b ↔ a = b :=
  natStr_injective.eq_iff

theorem natStr_ne_nil (n : Nat) : natStr n ≠ [] := Nat.toDigits_ne_nil

/-- Every character of a printed natural number is an ASCII digit. -/
theorem isAsciiDigit_of_mem_natStr {n : Nat} {c : Char} (h : c ∈ natStr n) :
    isAsciiDigit c = true := by
  have hd := Nat.isDigit_of_mem_toDigits (by decide) (by decide) h
  simp only [Char.isDigit, Bool.and_eq_true, decide_eq_true_eq, UInt32.le_iff_toNat_le,
    ge_iff_le] at hd
  simp only [isAsciiDigit, Bool.and_eq_true, decide_eq_true_eq]
  exact hd

theorem isAscii_of_isAsciiDigit {c : Char} (h : isAsciiDigit c = true) : isAscii c = true := by
  simp only [isAsciiDigit, isAscii, Bool.and_eq_true, decide_eq_true_eq] at h ⊢
  omega

/-- A character that is a digit is none of the characters that are not. -/
theorem ne_of_isAsciiDigit {c d : Char} (h : isAsciiDigit c = true)
    (hd : isAsciiDigit d = false) : c ≠ d := by
  rintro rfl
  simp [h] at hd

/-- A printed natural number contains no non-digit character. -/
theorem not_mem_natStr {n : Nat} {d : Char} (hd : isAsciiDigit d = false) : d ∉ natStr n :=
  fun h => ne_of_isAsciiDigit (isAsciiDigit_of_mem_natStr h) hd rfl

theorem intStr_ne_nil (n : Int) : intStr n ≠ [] := by
  cases n with
  | ofNat n => exact natStr_ne_nil n
  | negSucc n => exact List.cons_ne_nil _ _

/-- The decimal text of an integer determines it. -/
theorem intStr_injective : Function.Injective intStr := by
  intro a b h
  cases a with
  | ofNat a =>
      cases b with
      | ofNat b => exact congrArg Int.ofNat (natStr_injective h)
      | negSucc b =>
          have hm : '-' ∈ natStr a := by
            rw [show natStr a = '-' :: natStr (b + 1) from h]
            exact List.mem_cons_self
          exact absurd hm (not_mem_natStr (by decide))
  | negSucc a =>
      cases b with
      | ofNat b =>
          have hm : '-' ∈ natStr b := by
            rw [show natStr b = '-' :: natStr (a + 1) from h.symm]
            exact List.mem_cons_self
          exact absurd hm (not_mem_natStr (by decide))
      | negSucc b =>
          have ht : natStr (a + 1) = natStr (b + 1) := (List.cons.inj h).2
          have hn : a + 1 = b + 1 := natStr_injective ht
          have hab : a = b := by omega
          rw [hab]

@[simp] theorem intStr_inj {a b : Int} : intStr a = intStr b ↔ a = b :=
  intStr_injective.eq_iff

section
variable [Unicode]

theorem digitValue_of_isAsciiDigit {c : Char} (h : isAsciiDigit c = true) :
    digitValue c = some (c.toNat - 48) := by
  simp [digitValue, h, isAscii_of_isAsciiDigit h]

/-- Reading ASCII digits computes their positional value. -/
theorem digitsValue_digits (ds : Str) (seen : Bool) (acc : Nat)
    (hds : ∀ c ∈ ds, isAsciiDigit c = true) (hne : ds ≠ [] ∨ seen = true) :
    digitsValue seen acc ds = some (Nat.ofDigitChars 10 ds acc) := by
  induction ds generalizing seen acc with
  | nil =>
      have hs : seen = true := hne.resolve_left fun h => h rfl
      simp [digitsValue, hs]
  | cons c rest ih =>
      have hc : isAsciiDigit c = true := hds c List.mem_cons_self
      have hu : c ≠ '_' := ne_of_isAsciiDigit hc (by decide)
      have hrest := ih true (10 * acc + (c.toNat - 48))
        (fun d hd => hds d (List.mem_cons_of_mem c hd)) (Or.inr rfl)
      simp only [digitsValue, hu, ite_false, digitValue_of_isAsciiDigit hc]
      rw [hrest, Nat.ofDigitChars_cons]
      rfl

theorem digitsValue_natStr (n : Nat) : digitsValue false 0 (natStr n) = some n := by
  rw [digitsValue_digits (natStr n) false 0 (fun _ h => isAsciiDigit_of_mem_natStr h)
    (Or.inl (natStr_ne_nil n))]
  exact congrArg some Nat.ofDigitChars_ten_toDigits

theorem isSpace_of_isAsciiDigit {c : Char} (h : isAsciiDigit c = true) : isSpace c = false := by
  have ha := isAscii_of_isAsciiDigit h
  simp only [isAsciiDigit, Bool.and_eq_true, decide_eq_true_eq] at h
  simp only [isSpace, ha, ite_true, Bool.or_eq_false_iff, Bool.and_eq_false_iff,
    decide_eq_false_iff_not]
  omega

/-- Stripping leaves alone a text that neither begins nor ends with whitespace. -/
theorem strip_eq_self {s : Str} (hhead : ∀ c ∈ s.head?, isSpace c = false)
    (hlast : ∀ c ∈ s.getLast?, isSpace c = false) : strip s = s := by
  have hfront : s.dropWhile isSpace = s := by
    cases s with
    | nil => rfl
    | cons c rest => simp [hhead c (by simp)]
  have hback : s.reverse.dropWhile isSpace = s.reverse := by
    cases hr : s.reverse with
    | nil => rfl
    | cons c rest =>
        have hc : c ∈ s.getLast? := by
          rw [← List.head?_reverse, hr]
          simp
        simp [hlast c hc]
  rw [strip, hfront, hback, List.reverse_reverse]

/-- Printing an integer and reading it back gives the integer. -/
theorem int_of_text_of_int (n : Int) : intOf (intStr n) = some n := by
  have hlastDigit : ∀ (m : Nat) (c : Char), c ∈ (natStr m).getLast? → isSpace c = false :=
    fun m c h => isSpace_of_isAsciiDigit (isAsciiDigit_of_mem_natStr (List.mem_of_getLast? h))
  cases n with
  | ofNat n =>
      have hstrip : strip (natStr n) = natStr n := by
        refine strip_eq_self (fun c h => ?_) (hlastDigit n)
        exact isSpace_of_isAsciiDigit (isAsciiDigit_of_mem_natStr (List.mem_of_head? h))
      have hread := digitsValue_natStr n
      simp only [intStr, intOf, hstrip]
      cases hn : natStr n with
      | nil => exact absurd hn (natStr_ne_nil n)
      | cons c ds =>
          have hc : isAsciiDigit c = true := isAsciiDigit_of_mem_natStr (n := n) (by simp [hn])
          have hminus : c ≠ '-' := ne_of_isAsciiDigit hc (by decide)
          have hplus : c ≠ '+' := ne_of_isAsciiDigit hc (by decide)
          rw [hn] at hread
          split
          · rename_i heq
            exact absurd (List.cons.inj heq).1 hminus
          · rename_i heq
            exact absurd (List.cons.inj heq).1 hplus
          · simp [hread]
  | negSucc n =>
      have hstrip : strip ('-' :: natStr (n + 1)) = '-' :: natStr (n + 1) := by
        refine strip_eq_self (fun c h => ?_) (fun c h => ?_)
        · obtain rfl : '-' = c := by simpa using h
          rfl
        · rw [List.getLast?_cons_of_ne_nil (natStr_ne_nil _)] at h
          exact hlastDigit (n + 1) c h
      simp only [intStr, intOf, hstrip, digitsValue_natStr]
      rfl

end

end Secp.Python
