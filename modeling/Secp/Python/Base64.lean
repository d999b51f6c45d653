import Secp.Python.Sha256

/-!
# Texts as bytes, and bytes as texts

UTF-8 in the other direction, and the url-safe base64 of the `base64` module: what is encoded is decoded
again, also when its padding was stripped and put back. The decoder skips what is not in its alphabet and
stops at a padding that ends a group, as the interpreter's does.
-/

namespace Secp.Python

open Secp.Python.Sha256

/-! ## UTF-8 -/

namespace Utf8

/-- A byte inside a character. -/
def isTail (b : Nat) : Bool := 0x80 ≤ b && b ≤ 0xBF

/-- `bytes.decode("utf-8")`, `none` where it raises. -/
def decode : List Nat → Option Str
  | [] => some []
  | a :: rest =>
      if a < 0x80 then (decode rest).map (Char.ofNat a :: ·)
      else match rest with
      | [] => none
      | b :: rest =>
          if !isTail b then none
          else if a < 0xE0 then
            if 0xC2 ≤ a then (decode rest).map (Char.ofNat (a % 32 * 64 + b % 64) :: ·) else none
          else match rest with
          | [] => none
          | c :: rest =>
              if !isTail c then none
              else if a < 0xF0 then
                let n := (a % 16 * 64 + b % 64) * 64 + c % 64
                -- neither overlong nor a surrogate
                if 0x800 ≤ n && !(0xD800 ≤ n && n < 0xE000) then
                  (decode rest).map (Char.ofNat n :: ·)
                else none
              else match rest with
              | [] => none
              | d :: rest =>
                  let n := ((a % 8 * 64 + b % 64) * 64 + c % 64) * 64 + d % 64
                  if isTail d && a < 0xF8 && 0x10000 ≤ n && n < 0x110000 then
                    (decode rest).map (Char.ofNat n :: ·)
                  else none

theorem decode_encodeChar (c : Char) (rest : List Nat) :
    decode (encodeChar c ++ rest) = (decode rest).map (c :: ·) := by
  have hvalid : c.toNat < 0xD800 ∨ (0xDFFF < c.toNat ∧ c.toNat < 0x110000) := c.valid
  have hchar : Char.ofNat c.toNat = c := Char.ofNat_toNat c
  generalize hn : c.toNat = n at hvalid hchar
  unfold encodeChar
  rw [hn]
  dsimp only
  by_cases h1 : n < 0x80
  · rw [if_pos h1, List.singleton_append, decode.eq_def]
    dsimp only
    rw [if_pos h1, hchar]
  rw [if_neg h1]
  by_cases h2 : n < 0x800
  · have hn : (0xC0 + n / 64) % 32 * 64 + (0x80 + n % 64) % 64 = n := by omega
    have htail : isTail (0x80 + n % 64) = true := by
      simp only [isTail, Bool.and_eq_true, decide_eq_true_eq]
      omega
    rw [if_pos h2, List.cons_append, List.singleton_append, decode.eq_def]
    dsimp only
    rw [if_neg (by omega), htail, Bool.not_true, if_neg Bool.false_ne_true, if_pos (by omega),
      if_pos (by omega), hn, hchar]
  rw [if_neg h2]
  by_cases h3 : n < 0x10000
  · have hn : ((0xE0 + n / 4096) % 16 * 64 + (0x80 + n / 64 % 64) % 64) * 64 + (0x80 + n % 64) % 64 =
        n := by omega
    have htail : ∀ m, isTail (0x80 + m % 64) = true := by
      intro m
      simp only [isTail, Bool.and_eq_true, decide_eq_true_eq]
      omega
    have hscalar : (decide (0x800 ≤ n) && !(decide (0xD800 ≤ n) && decide (n < 0xE000))) = true := by
      simp only [Bool.and_eq_true, Bool.not_eq_true', Bool.and_eq_false_iff, decide_eq_true_eq,
        decide_eq_false_iff_not]
      omega
    rw [if_pos h3, List.cons_append, List.cons_append, List.singleton_append, decode.eq_def]
    dsimp only
    rw [if_neg (by omega), htail, Bool.not_true, if_neg Bool.false_ne_true, if_neg (by omega),
      htail, Bool.not_true, if_neg Bool.false_ne_true, if_pos (by omega), hn, if_pos hscalar, hchar]
  rw [if_neg h3]
  have hn : (((0xF0 + n / 262144) % 8 * 64 + (0x80 + n / 4096 % 64) % 64) * 64 +
      (0x80 + n / 64 % 64) % 64) * 64 + (0x80 + n % 64) % 64 = n := by omega
  have htail : ∀ m, isTail (0x80 + m % 64) = true := by
    intro m
    simp only [isTail, Bool.and_eq_true, decide_eq_true_eq]
    omega
  rw [List.cons_append, List.cons_append, List.cons_append, List.singleton_append, decode.eq_def]
  dsimp only
  rw [if_neg (by omega), htail, Bool.not_true, if_neg Bool.false_ne_true, if_neg (by omega),
    htail, Bool.not_true, if_neg Bool.false_ne_true, if_neg (by omega), hn, htail, if_pos, hchar]
  simp only [Bool.true_and, Bool.and_eq_true, decide_eq_true_eq]
  omega

theorem decode_encode (s : Str) : decode (encode s) = some s := by
  induction s with
  | nil => rfl
  | cons c rest ih =>
      show decode (encodeChar c ++ encode rest) = _
      rw [decode_encodeChar, ih]
      rfl

variable {s : Str}

theorem lt_of_mem_encodeChar {c : Char} {b : Nat} (h : b ∈ encodeChar c) : b < 256 := by
  have hvalid : c.toNat < 0xD800 ∨ (0xDFFF < c.toNat ∧ c.toNat < 0x110000) := c.valid
  unfold encodeChar at h
  dsimp only at h
  split at h
  · rw [List.mem_singleton.mp h]
    omega
  · split at h
    · simp only [List.mem_cons, List.not_mem_nil, or_false] at h
      omega
    · split at h
      · simp only [List.mem_cons, List.not_mem_nil, or_false] at h
        omega
      · simp only [List.mem_cons, List.not_mem_nil, or_false] at h
        omega

theorem lt_of_mem_encode {b : Nat} (h : b ∈ encode s) : b < 256 := by
  obtain ⟨c, -, hb⟩ := List.mem_flatMap.mp h
  exact lt_of_mem_encodeChar hb

/-- A character outside ASCII takes at most three bytes more. -/
theorem length_encode_le (s : Str) :
    (encode s).length ≤ s.length + 3 * (s.filter fun c => !isAscii c).length := by
  induction s with
  | nil => exact Nat.le_refl 0
  | cons c rest ih =>
      have hchar : (encodeChar c).length ≤ 1 + if isAscii c then 0 else 3 := by
        unfold encodeChar isAscii
        dsimp only
        by_cases hascii : c.toNat < 128
        · rw [if_pos hascii, decide_eq_true hascii, if_pos rfl]
          exact Nat.le_refl 1
        · rw [if_neg hascii, decide_eq_false hascii, if_neg Bool.false_ne_true]
          split
          · show 2 ≤ 4
            omega
          · split
            · show 3 ≤ 4
              omega
            · show 4 ≤ 4
              omega
      show (encodeChar c ++ encode rest).length ≤ _
      rw [List.length_append, List.length_cons, List.filter_cons]
      by_cases hascii : isAscii c = true
      · rw [if_pos hascii] at hchar
        rw [hascii, Bool.not_true, if_neg Bool.false_ne_true]
        omega
      · rw [if_neg hascii] at hchar
        rw [Bool.not_eq_true] at hascii
        rw [hascii, Bool.not_false, if_pos rfl, List.length_cons]
        omega

end Utf8

/-! ## Base64 -/

namespace Base64

/-- The character of six bits, in the url-safe alphabet. -/
def sextetChar (n : Nat) : Char :=
  if n < 26 then Char.ofNat (65 + n)
  else if n < 52 then Char.ofNat (97 + (n - 26))
  else if n < 62 then Char.ofNat (48 + (n - 52))
  else if n = 62 then '-' else '_'

/-- The six bits of a character; the two marks of either alphabet are read. -/
def sextetOf (c : Char) : Option Nat :=
  if isAsciiUpper c then some (c.toNat - 65)
  else if isAsciiLower c then some (c.toNat - 97 + 26)
  else if isAsciiDigit c then some (c.toNat - 48 + 52)
  else if c = '-' || c = '+' then some 62
  else if c = '_' || c = '/' then some 63
  else none

/-- `base64.urlsafe_b64encode`. -/
def urlsafeB64encode : List Nat → Str
  | a :: b :: c :: rest =>
      sextetChar (a / 4) :: sextetChar (a % 4 * 16 + b / 16) :: sextetChar (b % 16 * 4 + c / 64) ::
        sextetChar (c % 64) :: urlsafeB64encode rest
  | [a, b] => [sextetChar (a / 4), sextetChar (a % 4 * 16 + b / 16), sextetChar (b % 16 * 4), '=']
  | [a] => [sextetChar (a / 4), sextetChar (a % 4 * 16), '=', '=']
  | [] => []

/-- `binascii.a2b_base64`: the place in a group of four, the bits left over and the paddings seen. -/
def a2b (quad left pads : Nat) : Str → Option (List Nat)
  | [] => if quad = 0 then some [] else none
  | c :: rest =>
      if c = '=' then
        -- a padding that ends the group ends the input
        if 2 ≤ quad && 4 ≤ quad + (pads + 1) then some []
        else a2b quad left (if 2 ≤ quad then pads + 1 else pads) rest
      else match sextetOf c with
        | none => a2b quad left pads rest
        | some bits =>
            if quad = 0 then a2b 1 bits 0 rest
            else if quad = 1 then (a2b 2 (bits % 16) 0 rest).map ((left * 4 + bits / 16) :: ·)
            else if quad = 2 then (a2b 3 (bits % 4) 0 rest).map ((left * 16 + bits / 4) :: ·)
            else (a2b 0 0 0 rest).map ((left * 64 + bits) :: ·)

/-- `base64.urlsafe_b64decode` of an ASCII text. -/
def urlsafeB64decode (s : Str) : Option (List Nat) := a2b 0 0 0 s

/-! ### The alphabet -/

theorem sextetChar_spec {n : Nat} (h : n < 64) :
    sextetOf (sextetChar n) = some n ∧ sextetChar n ≠ '=' ∧ isAscii (sextetChar n) = true := by
  have hall : ∀ n < 64, sextetOf (sextetChar n) = some n ∧ sextetChar n ≠ '=' ∧
      isAscii (sextetChar n) = true := by decide
  exact hall n h

variable {quad left pads n : Nat} {rest : Str}

/-- The four characters of a group. -/
theorem a2b_first (h : n < 64) : a2b 0 left pads (sextetChar n :: rest) = a2b 1 n 0 rest := by
  obtain ⟨hread, hpad, -⟩ := sextetChar_spec h
  rw [a2b, if_neg hpad, hread]
  rfl

theorem a2b_second (h : n < 64) : a2b 1 left pads (sextetChar n :: rest) =
    (a2b 2 (n % 16) 0 rest).map ((left * 4 + n / 16) :: ·) := by
  obtain ⟨hread, hpad, -⟩ := sextetChar_spec h
  rw [a2b, if_neg hpad, hread]
  rfl

theorem a2b_third (h : n < 64) : a2b 2 left pads (sextetChar n :: rest) =
    (a2b 3 (n % 4) 0 rest).map ((left * 16 + n / 4) :: ·) := by
  obtain ⟨hread, hpad, -⟩ := sextetChar_spec h
  rw [a2b, if_neg hpad, hread]
  rfl

theorem a2b_fourth (h : n < 64) : a2b 3 left pads (sextetChar n :: rest) =
    (a2b 0 0 0 rest).map ((left * 64 + n) :: ·) := by
  obtain ⟨hread, hpad, -⟩ := sextetChar_spec h
  rw [a2b, if_neg hpad, hread]
  rfl

/-- What is encoded is decoded. -/
theorem urlsafeB64decode_encode {bytes : List Nat} (h : ∀ b ∈ bytes, b < 256) :
    urlsafeB64decode (urlsafeB64encode bytes) = some bytes := by
  unfold urlsafeB64decode
  induction bytes using urlsafeB64encode.induct with
  | case1 a b c rest ih =>
      simp only [List.forall_mem_cons] at h
      obtain ⟨ha, hb, hc, hrest⟩ := h
      have h1 : a / 4 * 4 + (a % 4 * 16 + b / 16) / 16 = a := by omega
      have h2 : (a % 4 * 16 + b / 16) % 16 * 16 + (b % 16 * 4 + c / 64) / 4 = b := by omega
      have h3 : (b % 16 * 4 + c / 64) % 4 * 64 + c % 64 = c := by omega
      rw [urlsafeB64encode, a2b_first (by omega), a2b_second (by omega), a2b_third (by omega),
        a2b_fourth (by omega), ih hrest, h1, h2, h3]
      rfl
  | case2 a b =>
      simp only [List.forall_mem_cons] at h
      obtain ⟨ha, hb, -⟩ := h
      have h1 : a / 4 * 4 + (a % 4 * 16 + b / 16) / 16 = a := by omega
      have h2 : (a % 4 * 16 + b / 16) % 16 * 16 + b % 16 * 4 / 4 = b := by omega
      rw [urlsafeB64encode, a2b_first (by omega), a2b_second (by omega), a2b_third (by omega), h1, h2]
      rfl
  | case3 a =>
      simp only [List.forall_mem_cons] at h
      have h1 : a / 4 * 4 + a % 4 * 16 / 16 = a := by omega
      rw [urlsafeB64encode, a2b_first (by omega), a2b_second (by omega), h1]
      rfl
  | case4 => rfl

/-! ### The padding -/

/-- An encoded text is characters of the alphabet and as many paddings as fill the last group. -/
theorem exists_padding {bytes : List Nat} (h : ∀ b ∈ bytes, b < 256) :
    ∃ body k, urlsafeB64encode bytes = body ++ List.replicate k '=' ∧ '=' ∉ body ∧
      (∀ c ∈ body, isAscii c = true) ∧ k < 4 ∧ (body.length + k) % 4 = 0 := by
  have hplain : ∀ {n : Nat}, n < 64 → '=' ≠ sextetChar n ∧ isAscii (sextetChar n) = true :=
    fun hn => ⟨(sextetChar_spec hn).2.1.symm, (sextetChar_spec hn).2.2⟩
  induction bytes using urlsafeB64encode.induct with
  | case1 a b c rest ih =>
      simp only [List.forall_mem_cons] at h
      obtain ⟨ha, hb, hc, hrest⟩ := h
      obtain ⟨body, k, hbody, hpad, hascii, hk, hlength⟩ := ih hrest
      obtain ⟨h1, h1'⟩ := @hplain (a / 4) (by omega)
      obtain ⟨h2, h2'⟩ := @hplain (a % 4 * 16 + b / 16) (by omega)
      obtain ⟨h3, h3'⟩ := @hplain (b % 16 * 4 + c / 64) (by omega)
      obtain ⟨h4, h4'⟩ := @hplain (c % 64) (by omega)
      refine ⟨_ :: _ :: _ :: _ :: body, k, by rw [urlsafeB64encode, hbody]; rfl, ?_, ?_, hk, ?_⟩
      · simp only [List.mem_cons, not_or]
        exact ⟨h1, h2, h3, h4, hpad⟩
      · simp only [List.forall_mem_cons]
        exact ⟨h1', h2', h3', h4', hascii⟩
      · simp only [List.length_cons]
        omega
  | case2 a b =>
      simp only [List.forall_mem_cons] at h
      obtain ⟨ha, hb, -⟩ := h
      obtain ⟨h1, h1'⟩ := @hplain (a / 4) (by omega)
      obtain ⟨h2, h2'⟩ := @hplain (a % 4 * 16 + b / 16) (by omega)
      obtain ⟨h3, h3'⟩ := @hplain (b % 16 * 4) (by omega)
      refine ⟨[_, _, _], 1, by rw [urlsafeB64encode]; rfl, ?_, ?_, by omega, by simp⟩
      · simp only [List.mem_cons, List.not_mem_nil, not_or]
        exact ⟨h1, h2, h3, not_false⟩
      · simp only [List.forall_mem_cons]
        exact ⟨h1', h2', h3', List.forall_mem_nil _⟩
  | case3 a =>
      simp only [List.forall_mem_cons] at h
      obtain ⟨h1, h1'⟩ := @hplain (a / 4) (by omega)
      obtain ⟨h2, h2'⟩ := @hplain (a % 4 * 16) (by omega)
      refine ⟨[_, _], 2, by rw [urlsafeB64encode]; rfl, ?_, ?_, by omega, by simp⟩
      · simp only [List.mem_cons, List.not_mem_nil, not_or]
        exact ⟨h1, h2, not_false⟩
      · simp only [List.forall_mem_cons]
        exact ⟨h1', h2', List.forall_mem_nil _⟩
  | case4 => exact ⟨[], 0, rfl, List.not_mem_nil, List.forall_mem_nil _, by omega, rfl⟩

/-- The paddings that bring a text to whole groups. -/
def padded (s : Str) : Str := s ++ List.replicate ((4 - s.length % 4) % 4) '='

/-- A stripped padding is put back. -/
theorem padded_rstripChar {bytes : List Nat} (h : ∀ b ∈ bytes, b < 256) :
    padded (rstripChar '=' (urlsafeB64encode bytes)) = urlsafeB64encode bytes := by
  obtain ⟨body, k, hbody, hpad, -, hk, hlength⟩ := exists_padding h
  have hstrip : rstripChar '=' (body ++ List.replicate k '=') = body := by
    unfold rstripChar
    rw [List.reverse_append, List.reverse_replicate, List.dropWhile_append_of_pos]
    · cases hlast : body.reverse with
      | nil => rw [List.reverse_eq_nil_iff.mp hlast]; rfl
      | cons c rest =>
          have hmem : c ∈ body := List.mem_reverse.mp (hlast ▸ List.mem_cons_self)
          have hne : decide (c = '=') = false :=
            decide_eq_false fun hc => hpad (hc ▸ hmem)
          rw [List.dropWhile_cons, if_neg (by rw [hne]; exact Bool.false_ne_true), ← hlast,
            List.reverse_reverse]
    · intro c hc
      exact decide_eq_true (List.eq_of_mem_replicate hc)
  have hcount : (4 - body.length % 4) % 4 = k := by omega
  rw [hbody, hstrip, padded, hcount]

theorem length_urlsafeB64encode (bytes : List Nat) :
    (urlsafeB64encode bytes).length = 4 * ((bytes.length + 2) / 3) := by
  induction bytes using urlsafeB64encode.induct with
  | case1 a b c rest ih =>
      rw [urlsafeB64encode]
      simp only [List.length_cons, ih]
      omega
  | case2 a b =>
      rw [urlsafeB64encode]
      simp
  | case3 a =>
      rw [urlsafeB64encode]
      simp
  | case4 => rfl

end Base64

end Secp.Python
