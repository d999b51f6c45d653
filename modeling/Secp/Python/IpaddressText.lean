import Mathlib.Tactic.IntervalCases
import Secp.Python.Ipaddress
import Secp.Python.Separated

/-!
# Reading and printing addresses and networks

`ipAddress` and `ipNetwork` read the text forms `ipaddress.ip_address` and
`ipaddress.ip_network` accept, with `none` for the inputs on which the library raises
`ValueError`. Version 4 is tried first, as the library does. A scope identifier after `%` is
checked and dropped: containment and equality of networks never look at it.

`ipNetwork_text` and `ipAddress_text` are the round trips: what the library prints for a
version 4 value it reads back as that value.
-/

namespace Secp.Python.Ip

open Secp.Python

/-! ## Version 4 -/

/-- One octet: one to three ASCII digits without a leading zero, at most 255. -/
def octet (s : Str) : Option Nat :=
  if s.isEmpty || !s.all isAsciiDigit || s.length > 3 then none
  else if s ≠ ['0'] && s.head? = some '0' then none
  else if Nat.ofDigitChars 10 s 0 ≤ 255 then some (Nat.ofDigitChars 10 s 0) else none

/-- The integer of a dotted quad. -/
def dottedQuad (s : Str) : Option Nat :=
  match s.splitOn '.' with
  | [a, b, c, d] => do
      let a ← octet a
      let b ← octet b
      let c ← octet c
      let d ← octet d
      pure (((a * 256 + b) * 256 + c) * 256 + d)
  | _ => none

/-- The dotted quad of an integer below `2 ^ 32`. -/
def dottedQuadText (v : Nat) : Str :=
  join ['.'] [natStr (v / 16777216 % 256), natStr (v / 65536 % 256), natStr (v / 256 % 256),
    natStr (v % 256)]

/-- A prefix length written in decimal. -/
def prefixDigits (bits : Nat) (s : Str) : Option Nat :=
  if s.isEmpty || !s.all isAsciiDigit then none
  else if Nat.ofDigitChars 10 s 0 ≤ bits then some (Nat.ofDigitChars 10 s 0) else none

/-- The prefix length whose netmask is this integer. -/
def prefixOfMask (mask : Nat) : Option Nat :=
  (List.range 33).find? fun p => mask = 2 ^ 32 - 2 ^ (32 - p)

/-- A prefix length in decimal, or a dotted netmask, or a dotted hostmask. -/
def prefixV4 (s : Str) : Option Nat :=
  (prefixDigits 32 s).or do
    let mask ← dottedQuad s
    (prefixOfMask mask).or (prefixOfMask (2 ^ 32 - 1 - mask))

/-! ## Version 6 -/

/-- One hextet: one to four hexadecimal digits. -/
def hextet (s : Str) : Option Nat :=
  if s.isEmpty || !s.all isHexDigit || s.length > 4 then none
  else some (s.foldl (fun acc c => acc * 16 + hexValue c) 0)

/-- Lower-case hexadecimal digits without leading zeros. -/
def hextetText (n : Nat) : Str := Nat.toDigits 16 n

/-- Replace a trailing dotted quad by its two hextets. -/
def expandQuad (parts : List Str) : Option (List Str) :=
  match parts.getLast? with
  | some last =>
      if last.contains '.' then do
        let v ← dottedQuad last
        pure (parts.dropLast ++ [hextetText (v / 65536 % 65536), hextetText (v % 65536)])
      else some parts
  | none => none

/-- The integer of eight hextets. -/
def hextetsValue (hextets : List Nat) : Nat := hextets.foldl (fun acc n => acc * 65536 + n) 0

/-- The positions, endpoints apart, of empty parts: where `::` was written. -/
def gaps (parts : List Str) : List Nat :=
  (List.range (parts.length - 1)).filter fun i => 0 < i && parts.getD i [] = []

/-- The integer of an address with one `::` at position `i`. -/
def compressed (parts : List Str) (i : Nat) : Option Nat := do
  let hi ← if parts.head? = some [] then (if i = 1 then some [] else none) else some (parts.take i)
  let lo ← if parts.getLast? = some [] then (if i + 2 = parts.length then some [] else none)
    else some (parts.drop (i + 1))
  let hi ← hi.mapM hextet
  let lo ← lo.mapM hextet
  if hi.length + lo.length < 8 then
    some (hextetsValue (hi ++ List.replicate (8 - (hi.length + lo.length)) 0 ++ lo))
  else none

/-- The integer of a version 6 address in text. -/
def colonHex (s : Str) : Option Nat :=
  if (s.splitOn ':').length < 3 then none
  else do
    let parts ← expandQuad (s.splitOn ':')
    if parts.length > 9 then none
    else
      match gaps parts with
      | [] => if parts.length = 8 then (parts.mapM hextet).map hextetsValue else none
      | [i] => compressed parts i
      | _ => none

/-- Drop a well-formed scope identifier. -/
def dropScope (s : Str) : Option Str :=
  match s.splitOn '%' with
  | [addr] => some addr
  | [addr, scope] => if scope = [] then none else some addr
  | _ => none

/-- The eight hextets of an integer below `2 ^ 128`. -/
def hextetTexts (v : Nat) : List Str :=
  (List.range 8).map fun i => hextetText (v / 65536 ^ (7 - i) % 65536)

/-- The longest run of zero hextets, as start and length, the first one among equals. -/
def longestZeroRun (hextets : List Str) : Nat × Nat :=
  let step := fun (state : Nat × Nat × Nat × Nat) (item : Str) =>
    let (index, run, bestStart, bestLen) := state
    if item = ['0'] then
      if run + 1 > bestLen then (index + 1, run + 1, index - run, run + 1)
      else (index + 1, run + 1, bestStart, bestLen)
    else (index + 1, 0, bestStart, bestLen)
  let (_, _, bestStart, bestLen) := hextets.foldl step (0, 0, 0, 0)
  (bestStart, bestLen)

/-- The compressed text of a version 6 integer. -/
def colonHexText (v : Nat) : Str :=
  let hextets := hextetTexts v
  let (start, len) := longestZeroRun hextets
  if len > 1 then
    let before := if start = 0 then [[]] else hextets.take start
    let after := if start + len = 8 then [[]] else hextets.drop (start + len)
    join [':'] (before ++ [[]] ++ after)
  else join [':'] hextets

/-! ## Addresses and networks -/

/-- `ipaddress.ip_address(s)`. -/
def ipAddress (s : Str) : Option Address :=
  match dottedQuad s with
  | some v => if h : v < 2 ^ Version.bits .v4 then some ⟨.v4, v, h⟩ else none
  | none =>
      if s.contains '/' then none
      else do
        let addr ← dropScope s
        let v ← colonHex addr
        if h : v < 2 ^ Version.bits .v6 then some ⟨.v6, v, h⟩ else none

/-- `str(address)`. -/
def Address.text (a : Address) : Str :=
  match a.version with
  | .v4 => dottedQuadText a.value
  | .v6 => colonHexText a.value

/-- The network of an address and a prefix length; with `strict`, host bits must be clear. -/
def networkOf (strict : Bool) (version : Version) (v p : Nat) : Option Network :=
  if h : v < 2 ^ version.bits ∧ p ≤ version.bits then
    if strict && (v % 2 ^ (version.bits - p) ≠ 0) then none
    else some (Network.around ⟨version, v, h.1⟩ p h.2)
  else none

/-- The address text and the optional mask text around `/`. -/
def splitMask (s : Str) : Option (Str × Option Str) :=
  match s.splitOn '/' with
  | [addr] => some (addr, none)
  | [addr, mask] => some (addr, some mask)
  | _ => none

/-- `ipaddress.IPv4Network(s, strict)` up to the host-bit check: integer and prefix length. -/
def readV4 (s : Str) : Option (Nat × Nat) := do
  let (addr, mask) ← splitMask s
  let v ← dottedQuad addr
  let p ← match mask with
    | none => some 32
    | some mask => prefixV4 mask
  pure (v, p)

/-- `ipaddress.IPv6Network(s, strict)` up to the host-bit check. -/
def readV6 (s : Str) : Option (Nat × Nat) := do
  let (addr, mask) ← splitMask s
  let addr ← dropScope addr
  let v ← colonHex addr
  let p ← match mask with
    | none => some 128
    | some mask => prefixDigits 128 mask
  pure (v, p)

/-- `ipaddress.ip_network(s, strict)`. -/
def ipNetwork (strict : Bool) (s : Str) : Option Network :=
  match readV4 s with
  | some (v, p) => networkOf strict .v4 v p
  | none =>
      match readV6 s with
      | some (v, p) => networkOf strict .v6 v p
      | none => none

/-- `str(network)`. -/
def Network.text (n : Network) : Str := n.networkAddress.text ++ '/' :: natStr n.prefixlen

/-! ## Round trips -/

theorem natStr_length_le_three {n : Nat} (h : n < 256) : (natStr n).length ≤ 3 :=
  (Nat.length_toDigits_le_iff (by decide) (by decide)).mpr (by omega)

/-- A printed number has a leading zero only when it is zero. -/
theorem head?_natStr_of_pos {n : Nat} (h : 0 < n) : (natStr n).head? ≠ some '0' := by
  induction n using Nat.strongRecOn with
  | ind n ih =>
      unfold natStr
      rw [Nat.toDigits_eq_if (by decide)]
      split
      · rename_i hlt
        interval_cases n <;> decide
      · rename_i hge
        rw [List.head?_append_of_ne_nil _ Nat.toDigits_ne_nil]
        exact ih (n / 10) (by omega) (by omega)

theorem octet_natStr {n : Nat} (h : n < 256) : octet (natStr n) = some n := by
  have hne : (natStr n).isEmpty = false := by
    simpa using natStr_ne_nil n
  have hall : (natStr n).all isAsciiDigit = true :=
    List.all_eq_true.mpr fun c hc => isAsciiDigit_of_mem_natStr hc
  have hlen : ¬3 < (natStr n).length := by
    have := natStr_length_le_three h
    omega
  have hvalue : Nat.ofDigitChars 10 (natStr n) 0 = n := Nat.ofDigitChars_ten_toDigits
  have hzero : (natStr n ≠ ['0'] && (natStr n).head? = some '0') = false := by
    rcases Nat.eq_zero_or_pos n with rfl | hpos
    · decide
    · simp [head?_natStr_of_pos hpos]
  have hle : n ≤ 255 := by omega
  rw [octet, hvalue, hzero]
  simp [hne, hall, hlen, hle]

/-- The four octets of an integer below `2 ^ 32` rebuild it. -/
theorem octets_value {v : Nat} (h : v < 2 ^ 32) :
    ((v / 16777216 % 256 * 256 + v / 65536 % 256) * 256 + v / 256 % 256) * 256 + v % 256 = v := by
  omega

theorem dottedQuad_text {v : Nat} (h : v < 2 ^ 32) : dottedQuad (dottedQuadText v) = some v := by
  have hsplit : (dottedQuadText v).splitOn '.' = [natStr (v / 16777216 % 256),
      natStr (v / 65536 % 256), natStr (v / 256 % 256), natStr (v % 256)] := by
    unfold dottedQuadText join
    refine List.splitOn_intercalate '.' ?_ (by simp)
    simp [not_mem_natStr (show isAsciiDigit '.' = false by decide)]
  have hoctet : ∀ n : Nat, octet (natStr (n % 256)) = some (n % 256) :=
    fun n => octet_natStr (Nat.mod_lt n (by decide))
  simp only [dottedQuad, hsplit, hoctet, Option.bind_eq_bind, Option.bind_some, Option.pure_def,
    octets_value h]

/-- A dotted quad contains only digits and dots. -/
theorem not_mem_dottedQuadText {v : Nat} {d : Char} (hd : isAsciiDigit d = false) (hdot : d ≠ '.') :
    d ∉ dottedQuadText v := by
  have hn : ∀ n, d ∉ natStr n := fun n => not_mem_natStr hd
  simp [dottedQuadText, join, List.intercalate_cons_cons, hn, hdot]

theorem prefixDigits_natStr {bits p : Nat} (h : p ≤ bits) : prefixDigits bits (natStr p) = some p := by
  have hne : (natStr p).isEmpty = false := by
    simpa using natStr_ne_nil p
  have hall : (natStr p).all isAsciiDigit = true :=
    List.all_eq_true.mpr fun c hc => isAsciiDigit_of_mem_natStr hc
  have hvalue : Nat.ofDigitChars 10 (natStr p) 0 = p := Nat.ofDigitChars_ten_toDigits
  simp [prefixDigits, hne, hall, hvalue, h]

/-- A version 4 address is read back from its text. -/
theorem ipAddress_text {a : Address} (h : a.version = .v4) : ipAddress a.text = some a := by
  obtain ⟨version, value, hlt⟩ := a
  cases h
  have hlt : value < 2 ^ 32 := hlt
  have hread := dottedQuad_text hlt
  have hbits : value < 2 ^ Version.bits .v4 := hlt
  simp only [ipAddress, Address.text, hread, hbits, dite_true]

/-- Version 4 addresses with the same text are equal. -/
theorem text_injective {a b : Address} (ha : a.version = .v4) (hb : b.version = .v4)
    (h : a.text = b.text) : a = b := by
  have hread := ipAddress_text ha
  rw [h, ipAddress_text hb] at hread
  exact (Option.some.inj hread).symm

/-- Reading a network back from the base address and prefix it prints. -/
theorem readV4_text {n : Network} (h : n.version = .v4) : readV4 n.text = some (n.base, n.prefixlen) := by
  obtain ⟨version, base, prefixlen, hlen, hbase, haligned⟩ := n
  cases h
  have hlen : prefixlen ≤ 32 := hlen
  have hslash : '/' ∉ dottedQuadText base := not_mem_dottedQuadText (by decide) (by decide)
  have hsplit : splitMask (dottedQuadText base ++ '/' :: natStr prefixlen) =
      some (dottedQuadText base, some (natStr prefixlen)) := by
    unfold splitMask
    rw [List.splitOn_append_cons_self_of_not_mem hslash,
      List.splitOn_eq_singleton (not_mem_natStr (by decide))]
  have hquad : dottedQuad (dottedQuadText base) = some base := dottedQuad_text hbase
  change readV4 (dottedQuadText base ++ '/' :: natStr prefixlen) = some (base, prefixlen)
  simp [readV4, hsplit, hquad, prefixV4, prefixDigits_natStr hlen]

/-- A version 4 network is read back from its text, in either mode. -/
theorem ipNetwork_text {n : Network} (strict : Bool) (h : n.version = .v4) :
    ipNetwork strict n.text = some n := by
  have hread := readV4_text h
  obtain ⟨version, base, prefixlen, hlen, hbase, haligned⟩ := n
  cases h
  have hbounds : base < 2 ^ Version.bits .v4 ∧ prefixlen ≤ Version.bits .v4 := ⟨hbase, hlen⟩
  simp only [ipNetwork, hread, networkOf, hbounds, and_self, dite_true, haligned, ne_eq,
    not_true_eq_false, decide_false, Bool.and_false, Bool.false_eq_true, ite_false,
    Option.some.injEq]
  apply Network.ext
  · rfl
  · exact Nat.div_mul_cancel (Nat.dvd_of_mod_eq_zero haligned)
  · rfl

/-- Version 4 networks with the same text are equal. -/
theorem networkText_injective {m n : Network} (hm : m.version = .v4) (hn : n.version = .v4)
    (h : m.text = n.text) : m = n := by
  have hread := ipNetwork_text true hm
  rw [h, ipNetwork_text true hn] at hread
  exact (Option.some.inj hread).symm

/-! ## Texts that are not networks -/

/-- The first field of a split keeps a leading character other than the separator. -/
theorem splitOn_cons_of_ne {sep c : Char} (h : c ≠ sep) (s : Str) :
    ∃ first rest, (c :: s).splitOn sep = (c :: first) :: rest := by
  rw [List.splitOn_cons_eq_if_modifyHead]
  cases hs : s.splitOn sep with
  | nil => exact absurd hs (List.splitOn_ne_nil sep s)
  | cons first rest => exact ⟨first, rest, by simp [h]⟩

theorem octet_cons_of_not_digit {c : Char} (h : isAsciiDigit c = false) (s : Str) :
    octet (c :: s) = none := by
  simp [octet, h]

theorem hextet_cons_of_not_hex {c : Char} (h : isHexDigit c = false) (s : Str) :
    hextet (c :: s) = none := by
  simp [hextet, h]

theorem dottedQuad_cons_of_not_digit {c : Char} (h : isAsciiDigit c = false) (hdot : c ≠ '.')
    (s : Str) : dottedQuad (c :: s) = none := by
  obtain ⟨first, rest, hsplit⟩ := splitOn_cons_of_ne hdot s
  unfold dottedQuad
  rw [hsplit]
  split
  · rename_i a b c' d heq
    obtain ⟨rfl, _⟩ := List.cons.inj heq
    simp [octet_cons_of_not_digit h]
  · rfl

/-- A part list whose first part cannot be a hextet is not an address. -/
theorem colonHex_cons_of_not_hex {c : Char} (h : isHexDigit c = false) (hcolon : c ≠ ':')
    (s : Str) : colonHex (c :: s) = none := by
  obtain ⟨first, rest, hsplit⟩ := splitOn_cons_of_ne hcolon s
  unfold colonHex
  rw [hsplit]
  split
  · rfl
  · rename_i hlen
    -- the first part survives the expansion of a trailing quad, since there are three parts
    have hhead : ∀ parts, expandQuad ((c :: first) :: rest) = some parts →
        ∃ tail, parts = (c :: first) :: tail := by
      intro parts hparts
      unfold expandQuad at hparts
      split at hparts
      · split at hparts
        · cases hr : rest with
          | nil => simp [hr] at hlen
          | cons second others =>
              rw [hr] at hparts
              simp only [Option.bind_eq_bind, Option.bind_eq_some_iff, Option.pure_def,
                Option.some.injEq] at hparts
              obtain ⟨v, _, rfl⟩ := hparts
              exact ⟨_, rfl⟩
        · exact ⟨rest, (Option.some.inj hparts).symm⟩
      · exact absurd hparts (by simp)
    cases hparts : expandQuad ((c :: first) :: rest) with
    | none => rfl
    | some parts =>
        obtain ⟨tail, rfl⟩ := hhead parts hparts
        have hall : ((c :: first) :: tail).mapM hextet = none := by
          simp [List.mapM_cons, hextet_cons_of_not_hex h]
        simp only [Option.bind_eq_bind, Option.bind_some]
        split
        · rfl
        · split
          · split <;> simp [hall]
          · rename_i i heq
            have hi : 0 < i := by
              have hmem : i ∈ gaps ((c :: first) :: tail) := by rw [heq]; simp
              have := (List.mem_filter.mp hmem).2
              simp only [Bool.and_eq_true, decide_eq_true_eq] at this
              exact this.1
            obtain ⟨j, rfl⟩ : ∃ j, i = j + 1 := ⟨i - 1, by omega⟩
            have htake : (((c :: first) :: tail).take (j + 1)).mapM hextet = none := by
              simp [List.mapM_cons, hextet_cons_of_not_hex h]
            unfold compressed
            simp only [List.head?_cons, Option.some.injEq, List.cons_ne_nil, ite_false,
              Option.bind_eq_bind, Option.bind_some, htake, Option.bind_none]
            split
            · split <;> rfl
            · rfl
          · rfl

/-- A text that starts with `+` is not a network. -/
theorem ipNetwork_plus (strict : Bool) (s : Str) : ipNetwork strict ('+' :: s) = none := by
  have hsplit : ∀ addr mask, splitMask ('+' :: s) = some (addr, mask) → ∃ t, addr = '+' :: t := by
    intro addr mask h
    obtain ⟨first, rest, hs⟩ := splitOn_cons_of_ne (show '+' ≠ '/' by decide) s
    unfold splitMask at h
    rw [hs] at h
    split at h
    · rename_i heq
      obtain ⟨rfl, _⟩ := List.cons.inj heq
      cases h
      exact ⟨first, rfl⟩
    · rename_i heq
      obtain ⟨rfl, _⟩ := List.cons.inj heq
      cases h
      exact ⟨first, rfl⟩
    · exact absurd h (by simp)
  have hscope : ∀ t addr, dropScope ('+' :: t) = some addr → ∃ u, addr = '+' :: u := by
    intro t addr h
    obtain ⟨first, rest, hs⟩ := splitOn_cons_of_ne (show '+' ≠ '%' by decide) t
    unfold dropScope at h
    rw [hs] at h
    split at h
    · rename_i heq
      obtain ⟨rfl, _⟩ := List.cons.inj heq
      cases h
      exact ⟨first, rfl⟩
    · rename_i heq
      obtain ⟨rfl, _⟩ := List.cons.inj heq
      split at h
      · exact absurd h (by simp)
      · cases h
        exact ⟨first, rfl⟩
    · exact absurd h (by simp)
  have h4 : readV4 ('+' :: s) = none := by
    unfold readV4
    cases hm : splitMask ('+' :: s) with
    | none => rfl
    | some pair =>
        obtain ⟨t, ht⟩ := hsplit pair.1 pair.2 hm
        simp [ht, dottedQuad_cons_of_not_digit (c := '+') (by decide) (by decide)]
  have h6 : readV6 ('+' :: s) = none := by
    unfold readV6
    cases hm : splitMask ('+' :: s) with
    | none => rfl
    | some pair =>
        obtain ⟨t, ht⟩ := hsplit pair.1 pair.2 hm
        cases hd : dropScope pair.1 with
        | none => simp [hd]
        | some addr =>
            obtain ⟨u, rfl⟩ := hscope t addr (ht ▸ hd)
            simp [hd, colonHex_cons_of_not_hex (c := '+') (by decide) (by decide)]
  simp [ipNetwork, h4, h6]

/-- A text without a colon is no version 6 address. -/
theorem colonHex_of_not_mem {s : Str} (h : ':' ∉ s) : colonHex s = none := by
  unfold colonHex
  rw [List.splitOn_eq_singleton h, if_pos (by simp)]

theorem mem_of_splitMask {s addr : Str} {mask : Option Str} (h : splitMask s = some (addr, mask))
    {c : Char} (hc : c ∈ addr) : c ∈ s := by
  unfold splitMask at h
  split at h
  · next hsplit =>
      cases h
      exact mem_of_mem_splitOn (hsplit ▸ List.mem_cons_self) hc
  · next hsplit =>
      cases h
      exact mem_of_mem_splitOn (hsplit ▸ List.mem_cons_self) hc
  · cases h

theorem mem_of_dropScope {s addr : Str} (h : dropScope s = some addr)
    {c : Char} (hc : c ∈ addr) : c ∈ s := by
  unfold dropScope at h
  split at h
  · next hsplit =>
      cases h
      exact mem_of_mem_splitOn (hsplit ▸ List.mem_cons_self) hc
  · next hsplit =>
      split at h
      · cases h
      · cases h
        exact mem_of_mem_splitOn (hsplit ▸ List.mem_cons_self) hc
  · cases h

/-- A text without a colon is read as a version 4 network. -/
theorem version_of_not_mem_colon {strict : Bool} {s : Str} {n : Network} (h : ':' ∉ s)
    (hread : ipNetwork strict s = some n) : n.version = .v4 := by
  have hv6 : readV6 s = none := by
    unfold readV6
    cases hmask : splitMask s with
    | none => rfl
    | some parts =>
        obtain ⟨addr, mask⟩ := parts
        cases hscope : dropScope addr with
        | none => simp [hscope]
        | some bare =>
            have hcolon : ':' ∉ bare :=
              fun hc => h (mem_of_splitMask hmask (mem_of_dropScope hscope hc))
            simp [hscope, colonHex_of_not_mem hcolon]
  have hnetwork : ∀ v p, networkOf strict .v4 v p = some n → n.version = .v4 := by
    intro v p hn
    unfold networkOf at hn
    split at hn
    · split at hn
      · cases hn
      · cases hn
        rfl
    · cases hn
  unfold ipNetwork at hread
  rw [hv6] at hread
  split at hread
  · exact hnetwork _ _ hread
  · cases hread
end Secp.Python.Ip
