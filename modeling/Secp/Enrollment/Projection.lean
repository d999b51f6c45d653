import Secp.Enrollment.Records

/-!
# What the projection shows

The transitions admit a text by its own grammar, and the projection of a state scans it for secrets. The
two agree on every field but one: an installation id may be the name of a token header. So the state of
an enrollment is shown exactly when the worker bound to it has another name.
-/

namespace Secp.Enrollment

open Secp.Python Secp.Logic

/-! ## Classes of characters -/

/-- A printed ASCII character. -/
def isGraph (c : Char) : Bool := 33 ≤ c.toNat && c.toNat < 127

/-- The characters of a digest with its name. -/
def isDigestChar (c : Char) : Bool :=
  isAsciiDigit c || (97 ≤ c.toNat && c.toNat ≤ 102) || c ∈ ['s', 'h', ':']

/-- Classes of printed characters are told apart by looking at each character. -/
theorem eq_false_of_isGraph {p q : Char → Bool} (hgraph : ∀ c, p c = true → isGraph c = true)
    (happart : ((List.range 127).all fun n => !(p (Char.ofNat n) && q (Char.ofNat n))) = true)
    {c : Char} (hc : p c = true) : q c = false := by
  have hlt : c.toNat < 127 := of_decide_eq_true (Bool.and_eq_true_iff.mp (hgraph c hc)).2
  have hn := List.all_eq_true.mp happart c.toNat (List.mem_range.mpr hlt)
  rw [Char.ofNat_toNat, hc, Bool.true_and, Bool.not_eq_true'] at hn
  exact hn

theorem isGraph_of_isDigestChar (c : Char) (h : isDigestChar c = true) : isGraph c = true := by
  have hmarks : ∀ d ∈ ['s', 'h', ':'], isGraph d = true := List.all_eq_true.mp (by decide)
  rcases Bool.or_eq_true_iff.mp h with h | h
  · simp only [isAsciiDigit, Bool.or_eq_true, Bool.and_eq_true, decide_eq_true_eq] at h
    unfold isGraph
    rw [Bool.and_eq_true, decide_eq_true_eq, decide_eq_true_eq]
    omega
  · exact hmarks c (of_decide_eq_true h)

theorem isGraph_of_isReasonChar (c : Char) (h : isReasonChar c = true) : isGraph c = true := by
  rcases Bool.or_eq_true_iff.mp h with h | h
  · simp only [isAsciiLower, isAsciiDigit, Bool.or_eq_true, Bool.and_eq_true,
      decide_eq_true_eq] at h
    unfold isGraph
    rw [Bool.and_eq_true, decide_eq_true_eq, decide_eq_true_eq]
    omega
  · rw [of_decide_eq_true h]
    decide

theorem isGraph_of_isInstallationIdChar (c : Char) (h : isInstallationIdChar c = true) :
    isGraph c = true := by
  rcases Bool.or_eq_true_iff.mp h with h | h
  · simp only [isAsciiLower, isAsciiDigit, Bool.or_eq_true, Bool.and_eq_true,
      decide_eq_true_eq] at h
    unfold isGraph
    rw [Bool.and_eq_true, decide_eq_true_eq, decide_eq_true_eq]
    omega
  · rw [of_decide_eq_true h]
    decide

theorem isGraph_of_isIsoChar (c : Char) (h : Datetime.isIsoChar c = true) : isGraph c = true := by
  have hmarks : ∀ d ∈ ['-', ':', '+', '.', ',', 'W', 'Z'], isGraph d = true :=
    List.all_eq_true.mp (by decide)
  rcases Bool.or_eq_true_iff.mp h with h | h
  · simp only [isAsciiDigit, Bool.and_eq_true, decide_eq_true_eq] at h
    unfold isGraph
    rw [Bool.and_eq_true, decide_eq_true_eq, decide_eq_true_eq]
    omega
  · exact hmarks c (of_decide_eq_true h)

section
variable [Unicode]

theorem isSpace_of_isGraph {c : Char} (h : isGraph c = true) : isSpace c = false := by
  unfold isGraph at h
  rw [Bool.and_eq_true, decide_eq_true_eq, decide_eq_true_eq] at h
  have hascii : isAscii c = true := decide_eq_true (by omega)
  unfold isSpace
  rw [if_pos hascii]
  simp only [Bool.or_eq_false_iff, Bool.and_eq_false_iff, decide_eq_false_iff_not]
  omega

/-! ## What each pattern needs -/

variable {c : Char}

omit [Unicode] in
theorem needs_privateKeyRe (hc : c ∈ str "-----BEGIN ") :
    (fun d => decide (d = c)) ∈ privateKeyRe.needs :=
  Re.mem_needs_all List.mem_cons_self (Re.mem_needs_word hc)

theorem needs_sshKeyRe (hc : c ∈ str "ssh-" ∨ c ∈ str "AAAA") :
    (fun d => decide (d = c)) ∈ sshKeyRe.needs := by
  rcases hc with hc | hc
  · exact Re.mem_needs_all (List.mem_cons_of_mem _ List.mem_cons_self) (Re.mem_needs_word hc)
  · have hlast : Re.word (str "AAAA") ∈ [Re.boundary, .word (str "ssh-"),
        .alt (.word (str "rsa")) (.alt (.word (str "ed25519")) (.word (str "dss"))),
        .many isSpace 1 none, .word (str "AAAA")] := by
      simp only [List.mem_cons, List.not_mem_nil, or_false, or_true]
    exact Re.mem_needs_all hlast (Re.mem_needs_word hc)

omit [Unicode] in
theorem needs_vaultRe (hc : c ∈ str "vault:") : Re.sameIgnoringCase c ∈ vaultRe.needs :=
  Re.mem_needs_all (List.mem_cons_of_mem _ List.mem_cons_self) (Re.mem_needs_wordIgnoringCase hc)

omit [Unicode] in
theorem needs_openbaoRe (hc : c ∈ str "openbao:") : Re.sameIgnoringCase c ∈ openbaoRe.needs :=
  Re.mem_needs_all (List.mem_cons_of_mem _ List.mem_cons_self) (Re.mem_needs_wordIgnoringCase hc)

theorem needs_bearerRe (hc : c ∈ str "bearer") : Re.sameIgnoringCase c ∈ bearerRe.needs :=
  Re.mem_needs_all (List.mem_cons_of_mem _ List.mem_cons_self) (Re.mem_needs_wordIgnoringCase hc)

theorem isSpace_mem_needs_bearerRe : isSpace ∈ bearerRe.needs := by
  have hspace : Re.many isSpace 1 none ∈ [Re.boundary, .wordIgnoringCase (str "bearer"),
      .many isSpace 1 none, .many isTokenChar 8 none] := by
    simp only [List.mem_cons, true_or, or_true]
  exact Re.mem_needs_all hspace List.mem_cons_self

theorem needs_authorizationRe (hc : c ∈ str "authorization") :
    Re.sameIgnoringCase c ∈ authorizationRe.needs :=
  Re.mem_needs_all (List.mem_cons_of_mem _ List.mem_cons_self) (Re.mem_needs_wordIgnoringCase hc)

theorem colon_mem_needs_authorizationRe :
    (fun d => decide (d = ':')) ∈ authorizationRe.needs := by
  have hcolon : Re.char (fun d => decide (d = ':')) ∈ [Re.boundary,
      .wordIgnoringCase (str "authorization"), .many isSpace 0 none,
      .char fun d => decide (d = ':')] := by
    simp only [List.mem_cons, List.not_mem_nil, or_false, or_true]
  exact Re.mem_needs_all hcolon List.mem_cons_self

omit [Unicode] in
theorem needs_awsKeyRe (hc : c ∈ str "AKIA") : (fun d => decide (d = c)) ∈ awsKeyRe.needs :=
  Re.mem_needs_all (List.mem_cons_of_mem _ List.mem_cons_self) (Re.mem_needs_word hc)

omit [Unicode] in
theorem needs_jwtRe (hc : c ∈ str "eyJ") : (fun d => decide (d = c)) ∈ jwtRe.needs :=
  Re.mem_needs_all (List.mem_cons_of_mem _ List.mem_cons_self) (Re.mem_needs_word hc)

omit [Unicode] in
theorem needs_vaultTokenRe (hc : c ∈ str "x-vault-token") :
    Re.sameIgnoringCase c ∈ vaultTokenRe.needs :=
  Re.mem_needs_all (List.mem_cons_of_mem _ List.mem_cons_self) (Re.mem_needs_wordIgnoringCase hc)

/-! ## Texts the scan lets through -/

variable {s : Str}

/-- Digests. -/
theorem survives_of_isDigestChar (hlength : s.length ≤ 200 * 8)
    (h : ∀ c ∈ s, isDigestChar c = true) : survivesProjectionScan s = true := by
  have hlacks : ∀ q ∈ [(fun d => decide (d = 'B')), (fun d => decide (d = '-')),
      Re.sameIgnoringCase 'v', Re.sameIgnoringCase 'o', Re.sameIgnoringCase 'r',
      Re.sameIgnoringCase 'u', (fun d => decide (d = 'A')), (fun d => decide (d = 'J')),
      Re.sameIgnoringCase 'x'], ∀ c ∈ s, q c = false := by
    intro q hq c hc
    refine eq_false_of_isGraph isGraph_of_isDigestChar ?_ (h c hc)
    revert q
    decide
  simp only [List.forall_mem_cons] at hlacks
  obtain ⟨hB, hhyphen, hv, ho, hr, hu, hA, hJ, hx, -⟩ := hlacks
  refine survives_of_needs hlength ?_
  simp only [forbiddenValueRes, List.forall_mem_cons]
  exact ⟨⟨_, needs_privateKeyRe (by simp [str]), hB⟩, ⟨_, needs_sshKeyRe (.inl (by simp [str])), hhyphen⟩,
    ⟨_, needs_vaultRe (by simp [str]), hv⟩, ⟨_, needs_openbaoRe (by simp [str]), ho⟩,
    ⟨_, needs_bearerRe (by simp [str]), hr⟩, ⟨_, needs_authorizationRe (by simp [str]), hu⟩,
    ⟨_, needs_awsKeyRe (by simp [str]), hA⟩, ⟨_, needs_jwtRe (by simp [str]), hJ⟩,
    ⟨_, needs_vaultTokenRe (by simp [str]), hx⟩, List.forall_mem_nil _⟩

/-- Printed characters without those every pattern but the last has one of. -/
def isBareChar (c : Char) : Bool := isGraph c && c ∉ ['A', 'B', 'J', ':']

omit [Unicode] in
theorem isGraph_of_isBareChar (c : Char) (h : isBareChar c = true) : isGraph c = true :=
  (Bool.and_eq_true_iff.mp h).1

omit [Unicode] in
theorem isBareChar_of_isReasonChar {c : Char} (h : isReasonChar c = true) : isBareChar c = true := by
  have hbare := eq_false_of_isGraph (q := fun c => !isBareChar c) isGraph_of_isReasonChar
    (by decide) h
  simpa using hbare

omit [Unicode] in
theorem isBareChar_of_isInstallationIdChar {c : Char} (h : isInstallationIdChar c = true) :
    isBareChar c = true := by
  have hbare := eq_false_of_isGraph (q := fun c => !isBareChar c) isGraph_of_isInstallationIdChar
    (by decide) h
  simpa using hbare

/-- Of bare texts the scan refuses the ones that name the header of a token. -/
theorem hasForbiddenValue_of_isBareChar (h : ∀ c ∈ s, isBareChar c = true) :
    hasForbiddenValue s = vaultTokenRe.search s := by
  have hlacks : ∀ q ∈ [(fun d => decide (d = 'B')), (fun d => decide (d = 'A')),
      Re.sameIgnoringCase ':', (fun d => decide (d = ':')), (fun d => decide (d = 'J'))],
      ∀ c ∈ s, q c = false := by
    intro q hq c hc
    refine eq_false_of_isGraph isGraph_of_isBareChar ?_ (h c hc)
    revert q
    decide
  simp only [List.forall_mem_cons] at hlacks
  obtain ⟨hB, hA, hfolded, hcolon, hJ, -⟩ := hlacks
  have hspace : ∀ c ∈ s, isSpace c = false :=
    fun c hc => isSpace_of_isGraph (isGraph_of_isBareChar c (h c hc))
  unfold hasForbiddenValue forbiddenValueRes
  simp only [List.any_cons, List.any_nil, Bool.or_false]
  rw [Re.search_eq_false (needs_privateKeyRe (by simp [str])) hB,
    Re.search_eq_false (needs_sshKeyRe (.inr (by simp [str]))) hA,
    Re.search_eq_false (needs_vaultRe (by simp [str])) hfolded,
    Re.search_eq_false (needs_openbaoRe (by simp [str])) hfolded,
    Re.search_eq_false isSpace_mem_needs_bearerRe hspace,
    Re.search_eq_false colon_mem_needs_authorizationRe hcolon,
    Re.search_eq_false (needs_awsKeyRe (by simp [str])) hA,
    Re.search_eq_false (needs_jwtRe (by simp [str])) hJ]
  rfl

/-- Reason codes, the names of the states and of the fields. -/
theorem hasForbiddenValue_of_isReasonChar (h : ∀ c ∈ s, isReasonChar c = true) :
    hasForbiddenValue s = false := by
  rw [hasForbiddenValue_of_isBareChar fun c hc => isBareChar_of_isReasonChar (h c hc)]
  refine Re.search_eq_false (needs_vaultTokenRe (c := '-') (by simp [str])) fun c hc => ?_
  exact eq_false_of_isGraph isGraph_of_isReasonChar (by decide) (h c hc)

/-- What is matched by one character of a class and some of a wider one. -/
theorem chars_of_fullmatch {p q : Char → Bool} {least most : Nat}
    (hpq : ∀ c, p c = true → q c = true)
    (h : (Re.all [.char p, .many q least (some most)]).fullmatch s = true) :
    s.length ≤ most + 1 ∧ ∀ c ∈ s, q c = true := by
  obtain ⟨front, rest, rfl, hfront, hrest⟩ := Re.takes_of_fullmatch h
  obtain ⟨first, rfl, hfirst⟩ := hfront
  obtain ⟨-, hmost, hall⟩ := hrest
  constructor
  · show rest.length + 1 ≤ most + 1
    have hlength := hmost most rfl
    omega
  · exact List.forall_mem_cons.mpr ⟨hpq first hfirst, hall⟩

theorem survives_of_reasonCodeRe (h : reasonCodeRe.fullmatch s = true) :
    survivesProjectionScan s = true := by
  have hclass : ∀ c, isAsciiLower c = true → isReasonChar c = true := by
    intro c hc
    unfold isReasonChar
    rw [hc]
    rfl
  obtain ⟨hlength, hchars⟩ := chars_of_fullmatch hclass h
  exact survivesProjectionScan_iff.mpr ⟨by omega, hasForbiddenValue_of_isReasonChar hchars⟩

/-- Of installation ids the scan refuses the ones that name the header of a token. -/
theorem survives_installationId_iff (h : installationIdRe.fullmatch s = true) :
    survivesProjectionScan s = true ↔ vaultTokenRe.search s = false := by
  have hclass : ∀ c, (isAsciiLower c || isAsciiDigit c) = true → isInstallationIdChar c = true := by
    intro c hc
    unfold isInstallationIdChar
    rw [hc]
    rfl
  obtain ⟨hlength, hchars⟩ := chars_of_fullmatch hclass h
  rw [survivesProjectionScan_iff, hasForbiddenValue_of_isBareChar fun c hc =>
    isBareChar_of_isInstallationIdChar (hchars c hc)]
  exact and_iff_right (by omega)

/-! ## Times -/

omit [Unicode] in
/-- A text that is read as a time has digits and marks only, but for one separator. -/
theorem marked_of_readUtc {bound : Nat} {instant : Int} (h : readUtc bound s = some instant) :
    s.length ≤ bound ∧ ∃ separator, ∀ c ∈ s, c = separator ∨ Datetime.isIsoChar c = true := by
  unfold readUtc at h
  split at h
  · next hlength =>
      rw [Bool.and_eq_true, decide_eq_true_eq, decide_eq_true_eq] at hlength
      refine ⟨hlength.2, ?_⟩
      dsimp only at h
      cases hread : Datetime.fromIsoformat (replaceChar 'Z' (str "+00:00") s) with
      | none =>
          rw [hread] at h
          cases h
      | some t =>
          obtain ⟨separator, hmarked⟩ := Datetime.marked_of_fromIsoformat hread
          refine ⟨separator, fun c hc => ?_⟩
          by_cases hz : c = 'Z'
          · rw [hz]
            exact .inr (by decide)
          · exact hmarked c (List.mem_flatMap.mpr ⟨c, hc, by simp [hz]⟩)
  · cases h

/-- A pattern is not found in a time when it needs two characters that are neither digits nor marks. -/
theorem search_eq_false_of_marked {r : Re} {separator : Char} {p q : Char → Bool}
    (hmarked : ∀ c ∈ s, c = separator ∨ Datetime.isIsoChar c = true) (hp : p ∈ r.needs)
    (hq : q ∈ r.needs) (hpiso : ∀ c, Datetime.isIsoChar c = true → p c = false)
    (hqiso : ∀ c, Datetime.isIsoChar c = true → q c = false)
    (happart : ∀ c, p c = true → q c = false) : r.search s = false := by
  refine Bool.eq_false_iff.mpr fun hfound => ?_
  -- both would have to be the separator
  have hseparator : ∀ q ∈ r.needs, (∀ c, Datetime.isIsoChar c = true → q c = false) →
      q separator = true := by
    intro q hq hqiso
    obtain ⟨c, hc, hclass⟩ := Re.exists_mem_of_search hfound hq
    rcases hmarked c hc with rfl | hiso
    · exact hclass
    · rw [hqiso c hiso] at hclass
      cases hclass
  have hboth := happart separator (hseparator p hp hpiso)
  rw [hseparator q hq hqiso] at hboth
  cases hboth

omit [Unicode] in
/-- Letters that no character outside ASCII folds to. -/
theorem asciiLower_of_sameIgnoringCase {c d : Char} (hc : c ∉ ['i', 's', 'k'])
    (h : Re.sameIgnoringCase c d = true) : asciiLower d = c := by
  simp only [List.mem_cons, List.not_mem_nil, or_false, not_or] at hc
  unfold Re.sameIgnoringCase at h
  simpa [hc.1, hc.2.1, hc.2.2] using h

omit [Unicode] in
theorem sameIgnoringCase_apart {c d : Char} (hc : c ∉ ['i', 's', 'k']) (hd : d ∉ ['i', 's', 'k'])
    (hne : c ≠ d) (e : Char) (h : Re.sameIgnoringCase c e = true) : Re.sameIgnoringCase d e = false := by
  refine Bool.eq_false_iff.mpr fun h' => hne ?_
  rw [← asciiLower_of_sameIgnoringCase hc h, asciiLower_of_sameIgnoringCase hd h']

omit [Unicode] in
theorem literal_apart {c d : Char} (hne : c ≠ d) (e : Char) (h : decide (e = c) = true) :
    decide (e = d) = false :=
  decide_eq_false fun h' => hne ((of_decide_eq_true h).symm.trans h')

theorem survives_of_readUtc {instant : Int} (h : readUtc 40 s = some instant) :
    survivesProjectionScan s = true := by
  obtain ⟨hlength, separator, hmarked⟩ := marked_of_readUtc h
  have hiso : ∀ q ∈ [(fun d => decide (d = 'B')), (fun d => decide (d = 'E')),
      (fun d => decide (d = 's')), (fun d => decide (d = 'h')), Re.sameIgnoringCase 'v',
      Re.sameIgnoringCase 'a', Re.sameIgnoringCase 'o', Re.sameIgnoringCase 'p',
      Re.sameIgnoringCase 'b', Re.sameIgnoringCase 'e', Re.sameIgnoringCase 'u',
      (fun d => decide (d = 'A')), (fun d => decide (d = 'K')), (fun d => decide (d = 'e')),
      (fun d => decide (d = 'y')), Re.sameIgnoringCase 'x'],
      ∀ c, Datetime.isIsoChar c = true → q c = false := by
    intro q hq c hc
    refine eq_false_of_isGraph isGraph_of_isIsoChar ?_ hc
    revert q
    decide
  simp only [List.forall_mem_cons] at hiso
  obtain ⟨hB, hE, hs, hh, hv, ha, ho, hp, hb, he, hu, hA, hK, he', hy, hx, -⟩ := hiso
  have hfolded : ∀ {r : Re} {c d : Char}, Re.sameIgnoringCase c ∈ r.needs →
      Re.sameIgnoringCase d ∈ r.needs →
      (∀ e, Datetime.isIsoChar e = true → Re.sameIgnoringCase c e = false) →
      (∀ e, Datetime.isIsoChar e = true → Re.sameIgnoringCase d e = false) →
      c ∉ ['i', 's', 'k'] ∧ d ∉ ['i', 's', 'k'] ∧ c ≠ d → r.search s = false := by
    intro r c d hc hd hciso hdiso happart
    exact search_eq_false_of_marked hmarked hc hd hciso hdiso
      (sameIgnoringCase_apart happart.1 happart.2.1 happart.2.2)
  refine survivesProjectionScan_iff.mpr ⟨by omega, ?_⟩
  unfold hasForbiddenValue forbiddenValueRes
  simp only [List.any_cons, List.any_nil, Bool.or_false]
  rw [search_eq_false_of_marked hmarked (needs_privateKeyRe (by simp [str]))
      (needs_privateKeyRe (by simp [str])) hB hE (literal_apart (by decide)),
    search_eq_false_of_marked hmarked (needs_sshKeyRe (.inl (by simp [str])))
      (needs_sshKeyRe (.inl (by simp [str]))) hs hh (literal_apart (by decide)),
    hfolded (needs_vaultRe (by simp [str])) (needs_vaultRe (by simp [str])) hv ha (by decide),
    hfolded (needs_openbaoRe (by simp [str])) (needs_openbaoRe (by simp [str])) ho hp (by decide),
    hfolded (needs_bearerRe (by simp [str])) (needs_bearerRe (by simp [str])) hb he (by decide),
    hfolded (needs_authorizationRe (by simp [str])) (needs_authorizationRe (by simp [str])) hu ha
      (by decide),
    search_eq_false_of_marked hmarked (needs_awsKeyRe (by simp [str]))
      (needs_awsKeyRe (by simp [str])) hA hK (literal_apart (by decide)),
    search_eq_false_of_marked hmarked (needs_jwtRe (by simp [str]))
      (needs_jwtRe (by simp [str])) he' hy (literal_apart (by decide)),
    hfolded (needs_vaultTokenRe (by simp [str])) (needs_vaultTokenRe (by simp [str])) hx hv
      (by decide)]
  rfl

/-! ## The fields of the view -/

omit [Unicode] in
theorem isDigestChar_of_isSha256Digest (h : isSha256Digest s = true) :
    s.length ≤ 71 ∧ ∀ c ∈ s, isDigestChar c = true := by
  unfold isSha256Digest startsWith at h
  simp only [Bool.and_eq_true, decide_eq_true_eq, List.all_eq_true] at h
  obtain ⟨hname, hlength, hhex⟩ := h
  obtain ⟨hex, rfl⟩ := List.isPrefixOf_iff_prefix.mp hname
  have hseven : (str "sha256:").length = 7 := by with_unfolding_all decide
  have hdrop : (str "sha256:" ++ hex).drop 7 = hex := hseven ▸ List.drop_left
  have hchars : ∀ c ∈ str "sha256:", isDigestChar c = true :=
    List.all_eq_true.mp (by with_unfolding_all decide)
  rw [hdrop] at hlength hhex
  constructor
  · rw [List.length_append, hseven, hlength]
  · refine List.forall_mem_append.mpr ⟨hchars, fun c hc => ?_⟩
    unfold isDigestChar
    exact Bool.or_eq_true_iff.mpr (.inl (by simpa using hhex c hc))

theorem survives_of_isSha256Digest (h : isSha256Digest s = true) :
    survivesProjectionScan s = true := by
  obtain ⟨hlength, hchars⟩ := isDigestChar_of_isSha256Digest h
  exact survives_of_isDigestChar (by omega) hchars

theorem survives_nil : survivesProjectionScan [] = true :=
  survives_of_isDigestChar (Nat.zero_le _) (List.forall_mem_nil _)

/-- A fingerprint is part of what it is made of. -/
theorem survives_fingerprint (h : EmptyOr (isSha256Digest · = true) s) :
    survivesProjectionScan (fingerprint s) = true := by
  have htaken : ∀ {tail : Str} (wide : Bool), (∀ c ∈ tail, c ∈ s) →
      (if wide then tail.take 12 else []).length ≤ 12 ∧
        ∀ c ∈ (if wide then tail.take 12 else []), c ∈ s := by
    intro tail wide htail
    cases wide with
    | false => exact ⟨Nat.zero_le _, List.forall_mem_nil _⟩
    | true => exact ⟨List.length_take_le _ _, fun c hc => htail c (List.mem_of_mem_take hc)⟩
  have hpart : (fingerprint s).length ≤ 12 ∧ ∀ c ∈ fingerprint s, c ∈ s := by
    unfold fingerprint
    by_cases hempty : s.isEmpty = true
    · rw [if_pos hempty]
      exact ⟨Nat.zero_le _, List.forall_mem_nil _⟩
    · rw [if_neg hempty]
      refine htaken _ fun c hc => ?_
      split at hc
      · exact (List.dropWhile_suffix _).subset (List.mem_of_mem_drop hc)
      · exact hc
  refine survives_of_isDigestChar (by omega) fun c hc => ?_
  rcases h with rfl | h
  · cases hpart.2 c hc
  · exact (isDigestChar_of_isSha256Digest h).2 c (hpart.2 c hc)

theorem survives_phase (phase : EnrollmentPhase) : survivesProjectionScan phase.value = true := by
  have hchars : phase.value.length ≤ 18 ∧ ∀ c ∈ phase.value, isReasonChar c = true := by
    cases phase <;>
      exact ⟨by with_unfolding_all decide, List.all_eq_true.mp (by with_unfolding_all decide)⟩
  exact survivesProjectionScan_iff.mpr ⟨by omega, hasForbiddenValue_of_isReasonChar hchars.2⟩

/-- The names of the fields. -/
def viewKeys : List Str := [
  str "enrollment_id", str "state", str "revision", str "controller_installation_id",
  str "controller_key_fingerprint", str "worker_installation_id", str "worker_key_fingerprint",
  str "release_fingerprint", str "offer_fingerprint", str "result_fingerprint",
  str "deployment_site_label", str "expires_at", str "updated_at", str "refusal_reason"]

omit [Unicode] in
theorem asciiLower_of_isReasonChar {c : Char} (h : isReasonChar c = true) : asciiLower c = c := by
  have hlower := eq_false_of_isGraph (q := isAsciiUpper) isGraph_of_isReasonChar (by decide) h
  unfold asciiLower
  rw [hlower]
  rfl

theorem lower_of_isReasonChar (h : ∀ c ∈ s, isReasonChar c = true) : lower s = s := by
  have hascii : s.all isAscii = true := by
    refine List.all_eq_true.mpr fun c hc => ?_
    have hgraph := isGraph_of_isReasonChar c (h c hc)
    unfold isGraph at hgraph
    rw [Bool.and_eq_true, decide_eq_true_eq, decide_eq_true_eq] at hgraph
    exact decide_eq_true (by omega)
  unfold lower
  rw [if_pos hascii]
  exact (List.map_congr_left fun c hc => asciiLower_of_isReasonChar (h c hc)).trans (List.map_id s)

theorem scanKey_viewKeys {key : Str} (h : key ∈ viewKeys) : scanKey key = .ok () := by
  have hkeys : ∀ key ∈ viewKeys, (key.all isReasonChar && (forbiddenFieldFragments.find?
      fun fragment => contains fragment key).isNone) = true :=
    List.all_eq_true.mp (by with_unfolding_all decide)
  obtain ⟨hall, hnone⟩ := Bool.and_eq_true_iff.mp (hkeys key h)
  have hchars : ∀ c ∈ key, isReasonChar c = true := List.all_eq_true.mp hall
  have hfragment := Option.isNone_iff_eq_none.mp hnone
  unfold scanKey
  rw [lower_of_isReasonChar hchars, hfragment]
  exact ensure_eq_ok_iff.mpr (by rw [hasForbiddenValue_of_isReasonChar hchars]; rfl)

/-! ## The states that are shown -/

variable {invitation : WorkerEnrollmentInvitation} {label : Str} {state : EnrollmentState}

/-- The texts of a valid invitation were scanned. -/
theorem survives_of_validate (h : invitation.validate = .ok ()) :
    survivesProjectionScan invitation.controllerInstallationId = true ∧
      survivesProjectionScan invitation.expiresAt = true := by
  have hscan : scanForbidden invitation.canonical = .ok () := by
    unfold WorkerEnrollmentInvitation.validate at h
    simp only [except_unit_bind_eq_ok] at h
    obtain ⟨-, -, -, -, -, -, -, -, -, -, h⟩ := h
    obtain ⟨created, -, h⟩ := except_bind_eq_ok.mp h
    obtain ⟨expires, -, h⟩ := except_bind_eq_ok.mp h
    obtain ⟨-, h⟩ := except_unit_bind_eq_ok.mp h
    unfold WorkerEnrollmentInvitation.scan at h
    cases hscan : scanForbidden invitation.canonical with
    | ok u => rfl
    | error reason =>
        rw [hscan] at h
        cases h
  obtain ⟨-, hfields⟩ := scanForbidden_obj_eq_ok_iff.mp hscan
  simp only [List.forall_mem_cons] at hfields
  obtain ⟨-, -, -, hcontroller, -, -, -, -, -, -, -, hexpires, -⟩ := hfields
  exact ⟨scanForbidden_str_eq_ok_iff.mp hcontroller.2, scanForbidden_str_eq_ok_iff.mp hexpires.2⟩

theorem exists_publicView_iff :
    (∃ view, state.publicView = .ok view) ↔ scanForbidden state.view = .ok () := by
  unfold EnrollmentState.publicView
  cases scanForbidden state.view with
  | ok u => exact iff_of_true ⟨_, rfl⟩ rfl
  | error reason => exact iff_of_false (fun h => by cases h.choose_spec) (fun h => by cases h)

theorem survives_of_emptyOr {grammar : Str → Prop} (h : EmptyOr grammar s)
    (hsurvives : grammar s → survivesProjectionScan s = true) : survivesProjectionScan s = true := by
  rcases h with rfl | h
  · exact survives_nil
  · exact hsurvives h

theorem vaultTokenRe_search_nil : vaultTokenRe.search [] = false :=
  Re.search_eq_false (needs_vaultTokenRe (c := 'x') (by simp [str])) (List.forall_mem_nil _)

theorem survives_of_isDeploymentSiteLabel (h : isDeploymentSiteLabel label = true) :
    survivesProjectionScan label = true := by
  have hrefusal : deploymentSiteLabelRefusal label = none := of_decide_eq_true h
  unfold deploymentSiteLabelRefusal at hrefusal
  by_contra hscan
  rw [Bool.not_eq_true] at hscan
  rw [hscan] at hrefusal
  split at hrefusal
  · cases hrefusal
  · split at hrefusal
    · cases hrefusal
    · cases hrefusal

/-- The state of an enrollment is shown unless its worker has the name of a token header. -/
theorem Lawful.exists_publicView_iff (h : Lawful invitation label state)
    (hvalid : invitation.validate = .ok ()) (hlabel : isDeploymentSiteLabel label = true) :
    (∃ view, state.publicView = .ok view) ↔ vaultTokenRe.search state.workerInstallationId = false := by
  obtain ⟨hkey, hrelease, -⟩ := controller_of_validate hvalid
  obtain ⟨hcontroller, hexpires⟩ := survives_of_validate hvalid
  obtain ⟨instant, hupdated⟩ := h.updatedAt
  have hsite := survives_of_isDeploymentSiteLabel hlabel
  have hworker : survivesProjectionScan state.workerInstallationId = true ↔
      vaultTokenRe.search state.workerInstallationId = false := by
    rcases h.workerInstallationId with hempty | hinstallation
    · rw [hempty]
      exact iff_of_true survives_nil vaultTokenRe_search_nil
    · exact survives_installationId_iff hinstallation.1
  rw [Enrollment.exists_publicView_iff, EnrollmentState.view, scanForbidden_obj_eq_ok_iff]
  have hkeys : ∀ key ∈ viewKeys, scanKey key = .ok () := fun key hkey => scanKey_viewKeys hkey
  simp only [viewKeys, List.forall_mem_cons] at hkeys
  simp only [List.forall_mem_cons, hkeys, true_and, scanForbidden_str_eq_ok_iff]
  rw [← hworker, h.enrollmentId, h.anchored.controllerInstallationId, h.anchored.controllerKeyId,
    h.anchored.releaseDigest, h.anchored.expiresAt, h.label]
  constructor
  · intro hshown
    exact hshown.2.2.2.2.2.2.1
  · intro hnamed
    have hfew : 14 ≤ 256 := by omega
    exact ⟨hfew, survives_of_isSha256Digest (isSha256Digest_sha256Digest _),
      survives_phase _, rfl, hcontroller, survives_fingerprint (.inr hkey), hnamed,
      survives_fingerprint (h.workerKeyId.imp_right And.left), survives_fingerprint (.inr hrelease),
      survives_fingerprint h.offerDigest, survives_fingerprint h.resultDigest, hsite, hexpires,
      survives_of_readUtc hupdated,
      survives_of_emptyOr h.refusalReason fun hreason => survives_of_reasonCodeRe hreason.1,
      List.forall_mem_nil _⟩

end

end Secp.Enrollment
