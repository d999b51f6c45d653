import Secp.Logic.StateExcept
import Secp.Python.Collections
import Secp.Python.Re

/-!
# The secret check of a rendered workspace

Every line of a rendered file that is no comment is searched for a reference to a secret and for a quoted
literal assigned to a key that is named like a secret. A line with `var.` or `sensitive` anywhere in it
may assign one all the same.
-/

namespace Secp.Worker.Rendering

open Secp.Python Secp.Logic

/-! ## Lines -/

/-- A character `str.splitlines` ends a line at. -/
def isLineBreak (c : Char) : Bool :=
  (10 ≤ c.toNat && c.toNat ≤ 13) || (28 ≤ c.toNat && c.toNat ≤ 30) || c.toNat = 0x85 ||
    c.toNat = 0x2028 || c.toNat = 0x2029

/-- The lines of a text, behind what was read of the first one. -/
def splitlinesFrom (line : Str) : Str → List Str
  | [] => if line.isEmpty then [] else [line.reverse]
  | '\r' :: '\n' :: rest => line.reverse :: splitlinesFrom [] rest
  | c :: rest =>
      if isLineBreak c then line.reverse :: splitlinesFrom [] rest
      else splitlinesFrom (c :: line) rest

/-- `str.splitlines`. -/
def splitlines (s : Str) : List Str := splitlinesFrom [] s

/-! ## The check -/

/-- `RenderingError`. -/
structure RenderingError where
  message : Str
  deriving DecidableEq

section
variable [Unicode]

/-- `line.strip().startswith("#")`. -/
def isComment (line : Str) : Bool := startsWith (strip line) ['#']

/-- `api[_-]?key` -/
def apiKeyRe : Re :=
  .all [.wordIgnoringCase (str "api"), .many (fun c => c = '_' || c = '-') 0 (some 1),
    .wordIgnoringCase (str "key")]

/-- The names of secrets. -/
def secretNameRe : Re :=
  .alt (.wordIgnoringCase (str "pass")) (.alt (.wordIgnoringCase (str "passwd"))
    (.alt (.wordIgnoringCase (str "password")) (.alt (.wordIgnoringCase (str "secret"))
      (.alt (.wordIgnoringCase (str "token")) (.alt apiKeyRe
        (.alt (.wordIgnoringCase (str "apikey")) (.wordIgnoringCase (str "credential"))))))))

/-- `_SECRET_LITERAL_RE`. -/
def secretLiteralRe : Re :=
  .all [secretNameRe, .many isSpace 0 none, .word ['='], .many isSpace 0 none, .word ['"'],
    .many (fun c => c ≠ '"') 0 none, .word ['"']]

/-- `_SECRET_REF_RE`. -/
def secretRefRe : Re := .all [.boundary, .wordIgnoringCase (str "env:secp")]

/-- `"var." in line or "sensitive" in line`. -/
def isExempt (line : Str) : Bool := contains (str "var.") line || contains (str "sensitive") line

/-- One turn of the loop of `_assert_secret_free`. -/
def checkLine (path line : Str) : Except RenderingError Unit :=
  if isComment line then .ok ()
  else do
    ensure (!secretRefRe.search line)
      ⟨str "rendered file " ++ path ++ str " contains a secret reference"⟩
    ensure (!(secretLiteralRe.search line && !isExempt line))
      ⟨str "rendered file " ++ path ++ str " contains a secret-like literal assignment"⟩

/-- `_assert_secret_free`. -/
def assertSecretFree (files : Dict Str Str) : Except RenderingError Unit :=
  forM files fun file => forM (splitlines file.2) fun line => checkLine file.1 line

/-! ## What a line may say -/

/-- A name of a secret, in any case. -/
def SecretName (name : Str) : Prop :=
  (∃ word ∈ [str "pass", str "passwd", str "password", str "secret", str "token", str "apikey",
      str "credential"], List.Forall₂ (fun c d => Re.sameIgnoringCase c d = true) word name) ∨
    ∃ api sep key, name = api ++ sep ++ key ∧ (sep = [] ∨ sep = ['_'] ∨ sep = ['-']) ∧
      List.Forall₂ (fun c d => Re.sameIgnoringCase c d = true) (str "api") api ∧
      List.Forall₂ (fun c d => Re.sameIgnoringCase c d = true) (str "key") key

/-- A line assigns a quoted literal to a name of a secret. -/
def AssignsLiteral (line : Str) : Prop :=
  ∃ before name gap gap' literal after,
    line = before ++ name ++ gap ++ ['='] ++ gap' ++ ['"'] ++ literal ++ ['"'] ++ after ∧
      SecretName name ∧ (∀ c ∈ gap, isSpace c = true) ∧ (∀ c ∈ gap', isSpace c = true) ∧
      '"' ∉ literal

/-- A line refers to a secret: `env:SECP`, in any case, where a word begins. -/
def RefersToSecret (line : Str) : Prop := secretRefRe.search line = true

omit [Unicode] in
/-- Any number of characters of a class. -/
theorem takes_many_iff {p : Char → Bool} {w : Str} :
    Re.Takes (.many p 0 none) w ↔ ∀ c ∈ w, p c = true :=
  ⟨fun h => h.2.2, fun h => ⟨Nat.zero_le _, fun m hm => (by cases hm), h⟩⟩

omit [Unicode] in
theorem takes_all_nil_iff {w : Str} : Re.Takes (.all []) w ↔ w = [] := Iff.rfl

omit [Unicode] in
theorem takes_apiKeyRe_iff {w : Str} : Re.Takes apiKeyRe w ↔
    ∃ api sep key, w = api ++ sep ++ key ∧ (sep = [] ∨ sep = ['_'] ∨ sep = ['-']) ∧
      List.Forall₂ (fun c d => Re.sameIgnoringCase c d = true) (str "api") api ∧
      List.Forall₂ (fun c d => Re.sameIgnoringCase c d = true) (str "key") key := by
  have hsep : ∀ sep : Str, Re.Takes (.many (fun c => c = '_' || c = '-') 0 (some 1)) sep ↔
      (sep = [] ∨ sep = ['_'] ∨ sep = ['-']) := by
    intro sep
    constructor
    · rintro ⟨-, hmost, hall⟩
      have hlength : sep.length ≤ 1 := hmost 1 rfl
      cases sep with
      | nil => exact .inl rfl
      | cons c rest =>
          obtain rfl : rest = [] := List.length_eq_zero_iff.mp (by simpa using hlength)
          have hc := hall c List.mem_cons_self
          rcases Bool.or_eq_true_iff.mp hc with hc | hc
          · exact .inr (.inl (by rw [of_decide_eq_true hc]))
          · exact .inr (.inr (by rw [of_decide_eq_true hc]))
    · rintro (rfl | rfl | rfl)
      · exact ⟨Nat.zero_le _, by simp, by simp⟩
      · exact ⟨Nat.zero_le _, by simp, by simp⟩
      · exact ⟨Nat.zero_le _, by simp, by simp⟩
  unfold apiKeyRe
  simp only [Re.takes_all_cons, takes_all_nil_iff, Re.takes_wordIgnoringCase_iff, hsep]
  constructor
  · rintro ⟨api, _, rfl, hapi, sep, _, rfl, hsep, key, _, rfl, hkey, rfl⟩
    exact ⟨api, sep, key, by simp, hsep, hapi, hkey⟩
  · rintro ⟨api, sep, key, rfl, hsep, hapi, hkey⟩
    exact ⟨api, sep ++ key, by simp, hapi, sep, key, rfl, hsep, key, [], by simp, hkey, rfl⟩

omit [Unicode] in
theorem takes_secretNameRe_iff {w : Str} : Re.Takes secretNameRe w ↔ SecretName w := by
  unfold secretNameRe SecretName
  simp only [Re.Takes, takes_apiKeyRe_iff, Re.takes_wordIgnoringCase_iff, List.mem_cons,
    List.not_mem_nil, or_false, exists_eq_or_imp, exists_eq_left]
  simp only [or_assoc, or_comm, or_left_comm]

/-- The pattern finds exactly the assignments of a literal. -/
theorem search_secretLiteralRe_iff {line : Str} :
    secretLiteralRe.search line = true ↔ AssignsLiteral line := by
  have hliteral : ∀ {literal : Str}, (∀ c ∈ literal, decide (c ≠ '"') = true) ↔ '"' ∉ literal := by
    intro literal
    simp only [decide_eq_true_eq]
    exact ⟨fun h hquote => h _ hquote rfl, fun h c hc heq => h (heq ▸ hc)⟩
  rw [Re.search_iff_takes (by with_unfolding_all rfl)]
  unfold secretLiteralRe AssignsLiteral
  simp only [Re.takes_all_cons, takes_all_nil_iff, takes_many_iff, hliteral, Re.takes_word_singleton,
    takes_secretNameRe_iff]
  constructor
  · rintro ⟨_, ⟨before, after, rfl⟩, name, _, rfl, hname, gap, _, rfl, hspaces, _, _, rfl, rfl, gap', _,
      rfl, hspaces', _, _, rfl, rfl, literal, _, rfl, hquote, _, _, rfl, rfl, rfl⟩
    exact ⟨before, name, gap, gap', literal, after, by simp, hname, hspaces, hspaces', hquote⟩
  · rintro ⟨before, name, gap, gap', literal, after, rfl, hname, hspaces, hspaces', hquote⟩
    exact ⟨name ++ (gap ++ (['='] ++ (gap' ++ (['"'] ++ (literal ++ ['"']))))),
      ⟨before, after, by simp⟩, name, _, rfl, hname, gap, _, rfl, hspaces, ['='], _, rfl, rfl, gap', _,
      rfl, hspaces', ['"'], _, rfl, rfl, literal, _, rfl, hquote, ['"'], [], rfl, rfl, rfl⟩

/-! ## What is accepted -/

variable {files : Dict Str Str} {path line : Str}

theorem checkLine_eq_ok_iff : checkLine path line = .ok () ↔
    (isComment line = false → ¬RefersToSecret line ∧ (AssignsLiteral line → isExempt line = true)) := by
  unfold checkLine
  cases isComment line with
  | true => simp
  | false =>
      simp only [Bool.false_eq_true, ite_false, except_unit_bind_eq_ok, ensure_eq_ok_iff,
        forall_const]
      rw [← search_secretLiteralRe_iff]
      unfold RefersToSecret
      cases secretRefRe.search line <;> cases secretLiteralRe.search line <;>
        cases isExempt line <;> simp

theorem assertSecretFree_eq_ok_iff : assertSecretFree files = .ok () ↔
    ∀ file ∈ files, ∀ line ∈ splitlines file.2, isComment line = false →
      ¬RefersToSecret line ∧ (AssignsLiteral line → isExempt line = true) := by
  unfold assertSecretFree
  simp only [forM_eq_ok_iff, checkLine_eq_ok_iff]

/-- No line that is not a comment gives a secret away, whatever else it says. -/
def SecretFree (files : Dict Str Str) : Prop :=
  ∀ file ∈ files, ∀ line ∈ splitlines file.2, isComment line = false →
    ¬AssignsLiteral line ∧ ¬RefersToSecret line

/-- What is accepted is free of secrets exactly when no line that assigns a literal to a name of a secret
has an exempting word in it as well, or some other line is refused. -/
theorem secretFree_of_assert_iff (files : Dict Str Str) :
    (assertSecretFree files = .ok () → SecretFree files) ↔
      (∀ file ∈ files, ∀ line ∈ splitlines file.2, isComment line = false →
          AssignsLiteral line → isExempt line = false) ∨
        ∃ file ∈ files, ∃ line ∈ splitlines file.2, isComment line = false ∧
          (RefersToSecret line ∨ AssignsLiteral line ∧ isExempt line = false) := by
  rw [assertSecretFree_eq_ok_iff]
  constructor
  · intro h
    by_cases hrefused : ∃ file ∈ files, ∃ line ∈ splitlines file.2, isComment line = false ∧
        (RefersToSecret line ∨ AssignsLiteral line ∧ isExempt line = false)
    · exact .inr hrefused
    · refine .inl fun file hfile line hline hcode hassigns => ?_
      have hpasses : ∀ file ∈ files, ∀ line ∈ splitlines file.2, isComment line = false →
          ¬RefersToSecret line ∧ (AssignsLiteral line → isExempt line = true) := by
        intro file hfile line hline hcode
        constructor
        · exact fun hrefers => hrefused ⟨file, hfile, line, hline, hcode, .inl hrefers⟩
        · intro hassigns
          by_contra hexempt
          exact hrefused
            ⟨file, hfile, line, hline, hcode, .inr ⟨hassigns, Bool.eq_false_iff.mpr hexempt⟩⟩
      exact absurd hassigns (h hpasses file hfile line hline hcode).1
  · rintro (hapart | ⟨file, hfile, line, hline, hcode, hrefused⟩) hpasses
    · intro file hfile line hline hcode
      obtain ⟨hrefers, hexempt⟩ := hpasses file hfile line hline hcode
      refine ⟨fun hassigns => ?_, hrefers⟩
      have hboth := hexempt hassigns
      rw [hapart file hfile line hline hcode hassigns] at hboth
      cases hboth
    · obtain ⟨hrefers, hexempt⟩ := hpasses file hfile line hline hcode
      rcases hrefused with hrefused | ⟨hassigns, hnot⟩
      · exact absurd hrefused hrefers
      · have hboth := hexempt hassigns
        rw [hnot] at hboth
        cases hboth

end

/-! ## A password and an exempting comment -/

def commentedPassword : Dict Str Str :=
  [(str "main.tf", str "resource \"x\" \"y\" \x7b\n  password = \"hunter2\" # sensitive\n\x7d\n")]

theorem commentedPassword_accepted :
    ¬(@assertSecretFree Unicode.ascii commentedPassword = .ok () →
      @SecretFree Unicode.ascii commentedPassword) := by
  let _ := Unicode.ascii
  intro h
  have haccepted : assertSecretFree commentedPassword = .ok () := by with_unfolding_all decide
  have hline : str "  password = \"hunter2\" # sensitive" ∈
      splitlines (commentedPassword.head (by decide)).2 := by with_unfolding_all decide
  refine (h haccepted _ List.mem_cons_self _ hline (by with_unfolding_all decide)).1 ?_
  exact search_secretLiteralRe_iff.mp (by with_unfolding_all decide)

end Secp.Worker.Rendering
