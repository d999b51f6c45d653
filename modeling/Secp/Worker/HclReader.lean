import Secp.Worker.Hcl

/-!
# Reading configuration back

A machine that reads generated text by the grammar of the language, one character at a time: what
stands outside literals and comments is kept character by character, a quoted literal becomes one
token with the text it denotes. It refuses what would make a literal anything else: a line break in
it, an unknown escape, and the start of an interpolation or a directive. In a literal a doubled mark
before a brace stands for the mark and the brace.

`hclText` escapes quotes and backslashes only, so what it writes is read back as it was exactly when
the text has no line break and no mark before a brace.
-/

namespace Secp.Worker

open Secp.Python

/-! ## Tokens and modes -/

/-- What a file consists of: characters of code, and literals by what they denote. -/
inductive HclToken where
  | char (c : Char)
  | literal (s : Str)
  deriving DecidableEq

inductive HclMode where
  | code
  | comment
  /-- Inside a literal that denotes the text so far. -/
  | quoted (value : Str)
  /-- Behind a backslash. -/
  | escape (value : Str)
  /-- Inside a numbered escape, with the digits still to come and the number so far. -/
  | hex (value : Str) (digits code : Nat)
  /-- Behind a mark that may begin an interpolation or a directive. -/
  | marked (value : Str) (mark : Char)
  /-- Behind two of the same mark. -/
  | doubled (value : Str) (mark : Char)
  deriving DecidableEq

structure HclState where
  mode : HclMode
  tokens : List HclToken
  deriving DecidableEq

def isMark (c : Char) : Bool := c = '$' || c = '%'

def isLineBreak (c : Char) : Bool := c = '\n' || c = '\r'

/-! ## One character -/

/-- A character of a literal that is not part of an escape or a quote. -/
def HclMode.text (value : Str) (c : Char) : Option HclMode :=
  if isLineBreak c then none
  else if isMark c then some (.marked value c)
  else some (.quoted (value ++ [c]))

/-- A character of a literal, an escape or a quote included. -/
def quotedStep (tokens : List HclToken) (value : Str) (c : Char) : Option HclState :=
  if c = '"' then some ⟨.code, tokens ++ [.literal value]⟩
  else if c = '\\' then some ⟨.escape value, tokens⟩
  else (HclMode.text value c).map fun mode => ⟨mode, tokens⟩

/-- What an escape of one character stands for. -/
def escaped? (c : Char) : Option Char :=
  if c = 'n' then some '\n'
  else if c = 'r' then some '\r'
  else if c = 't' then some '\t'
  else if c = '"' then some '"'
  else if c = '\\' then some '\\'
  else none

def escapeStep (value : Str) (c : Char) : Option HclMode :=
  if c = 'u' then some (.hex value 4 0)
  else if c = 'U' then some (.hex value 8 0)
  else (escaped? c).map fun c => .quoted (value ++ [c])

/-- One digit of a numbered escape; the last one completes a character. -/
def hexStep (value : Str) (digits code : Nat) (c : Char) : Option HclMode :=
  if isHexDigit c then
    let code := 16 * code + hexValue c
    if 1 < digits then some (.hex value (digits - 1) code)
    else if code.isValidChar then some (.quoted (value ++ [Char.ofNat code]))
    else none
  else none

/-- One character of a file. Comments of the other two kinds and here-documents, which no generated
file has, are not read. -/
def HclState.step (s : HclState) (c : Char) : Option HclState :=
  match s.mode with
  | .code =>
      if c = '"' then some ⟨.quoted [], s.tokens⟩
      else if c = '#' then some ⟨.comment, s.tokens⟩
      else if c = '/' || c = '<' then none
      else some ⟨.code, s.tokens ++ [.char c]⟩
  | .comment => if c = '\n' then some ⟨.code, s.tokens ++ [.char c]⟩ else some s
  | .quoted value => quotedStep s.tokens value c
  | .escape value => (escapeStep value c).map fun mode => ⟨mode, s.tokens⟩
  | .hex value digits code => (hexStep value digits code c).map fun mode => ⟨mode, s.tokens⟩
  | .marked value mark =>
      if c = '{' then none
      else if c = mark then some ⟨.doubled value mark, s.tokens⟩
      else quotedStep s.tokens (value ++ [mark]) c
  | .doubled value mark =>
      if c = '{' then some ⟨.quoted (value ++ [mark, '{']), s.tokens⟩
      else if c = mark then some ⟨.doubled (value ++ [mark]) mark, s.tokens⟩
      else quotedStep s.tokens (value ++ [mark, mark]) c

/-- A whole text, from a state on. -/
def readFrom (s : HclState) (text : Str) : Option HclState := text.foldlM HclState.step s

/-- The tokens of a file, if it can be read and is complete. -/
def readHcl (text : Str) : Option (List HclToken) := do
  let s ← readFrom ⟨.code, []⟩ text
  if s.mode = .code then some s.tokens else none

theorem readFrom_append (s : HclState) (a b : Str) :
    readFrom s (a ++ b) = (readFrom s a).bind fun s => readFrom s b := List.foldlM_append

theorem readFrom_singleton (s : HclState) (c : Char) : readFrom s [c] = s.step c := by
  cases h : s.step c <;> simp [readFrom, h]

/-! ## Literals -/

/-- What a literal denotes if it ends in the mode. -/
def HclMode.denoted : HclMode → Str
  | .quoted value => value
  | .marked value mark => value ++ [mark]
  | .doubled value mark => value ++ [mark, mark]
  | _ => []

/-- Whether the mode is inside a literal and outside an escape. -/
def HclMode.IsText : HclMode → Prop
  | .quoted _ => True
  | .marked _ mark => isMark mark = true
  | .doubled _ mark => isMark mark = true
  | _ => False

/-- A character of the text a literal is written for. -/
def HclMode.write (c : Char) : HclMode → Option HclMode
  | .quoted value => HclMode.text value c
  | .marked value mark =>
      if c = '{' then none
      else if c = mark then some (.doubled value mark)
      else HclMode.text (value ++ [mark]) c
  | .doubled value mark =>
      if c = '{' then some (.quoted (value ++ [mark, '{']))
      else if c = mark then some (.doubled (value ++ [mark]) mark)
      else HclMode.text (value ++ [mark, mark]) c
  | _ => none

/-- A character as it is written into a literal. -/
def escapeChar (c : Char) : Str :=
  if c = '\\' then ['\\', '\\'] else if c = '"' then ['\\', '"'] else [c]

theorem hclText_eq (s : Str) : hclText s = '"' :: (s.flatMap escapeChar ++ ['"']) := rfl

section
variable {mode mode' : HclMode} {tokens : List HclToken}

theorem ne_of_isMark {mark c : Char} (h : isMark mark = true) (hc : isMark c = false) :
    c ≠ mark := by
  rintro rfl
  rw [h] at hc
  cases hc

theorem step_quote (hmode : mode.IsText) :
    HclState.step ⟨mode, tokens⟩ '"' = some ⟨.code, tokens ++ [.literal mode.denoted]⟩ := by
  cases mode with
  | quoted value => rfl
  | marked value mark =>
      have hne : '"' ≠ mark := ne_of_isMark hmode rfl
      simp [HclState.step, quotedStep, HclMode.denoted, hne]
  | doubled value mark =>
      have hne : '"' ≠ mark := ne_of_isMark hmode rfl
      simp [HclState.step, quotedStep, HclMode.denoted, hne]
  | code | comment | escape | hex => exact hmode.elim

theorem step_backslash (hmode : mode.IsText) :
    HclState.step ⟨mode, tokens⟩ '\\' = some ⟨.escape mode.denoted, tokens⟩ := by
  cases mode with
  | quoted value => rfl
  | marked value mark =>
      have hne : '\\' ≠ mark := ne_of_isMark hmode rfl
      simp [HclState.step, quotedStep, HclMode.denoted, hne]
  | doubled value mark =>
      have hne : '\\' ≠ mark := ne_of_isMark hmode rfl
      simp [HclState.step, quotedStep, HclMode.denoted, hne]
  | code | comment | escape | hex => exact hmode.elim

/-- A character that is neither a mark nor a brace nor a line break is added to the text. -/
theorem write_of_plain (hmode : mode.IsText) {c : Char} (hmark : isMark c = false)
    (hbrace : c ≠ '{') (hbreak : isLineBreak c = false) :
    mode.write c = some (.quoted (mode.denoted ++ [c])) := by
  cases mode with
  | quoted value => simp [HclMode.write, HclMode.text, HclMode.denoted, hmark, hbreak]
  | marked value mark =>
      have hne := ne_of_isMark hmode hmark
      simp [HclMode.write, HclMode.text, HclMode.denoted, hmark, hbreak, hbrace, hne]
  | doubled value mark =>
      have hne := ne_of_isMark hmode hmark
      simp [HclMode.write, HclMode.text, HclMode.denoted, hmark, hbreak, hbrace, hne]
  | code | comment | escape | hex => exact hmode.elim

/-- Reading what was written for a character is writing the character. -/
theorem readFrom_escapeChar (hmode : mode.IsText) (c : Char) :
    readFrom ⟨mode, tokens⟩ (escapeChar c) = (mode.write c).map fun mode => ⟨mode, tokens⟩ := by
  have hescaped : ∀ c', readFrom ⟨mode, tokens⟩ ['\\', c'] =
      (escapeStep mode.denoted c').map fun mode => ⟨mode, tokens⟩ := by
    intro c'
    rw [readFrom, List.foldlM_cons, step_backslash hmode]
    exact readFrom_singleton _ c'
  unfold escapeChar
  split
  · rename_i hc
    subst hc
    rw [hescaped, write_of_plain hmode rfl (by decide) rfl]
    rfl
  · rename_i hback
    split
    · rename_i hc
      subst hc
      rw [hescaped, write_of_plain hmode rfl (by decide) rfl]
      rfl
    · rename_i hquote
      rw [readFrom_singleton]
      cases mode with
      | quoted value => simp [HclState.step, HclMode.write, quotedStep, hback, hquote]
      | marked value mark =>
          simp only [HclState.step, HclMode.write, quotedStep, hback, hquote, ite_false]
          split
          · rfl
          · split <;> rfl
      | doubled value mark =>
          simp only [HclState.step, HclMode.write, quotedStep, hback, hquote, ite_false]
          split
          · rfl
          · split <;> rfl
      | code | comment | escape | hex => exact hmode.elim

theorem isText_text {value : Str} {c : Char} (h : HclMode.text value c = some mode) :
    mode.IsText := by
  unfold HclMode.text at h
  split at h
  · cases h
  · split at h
    · cases h
      assumption
    · cases h
      trivial

theorem isText_write (hmode : mode.IsText) {c : Char} (h : mode.write c = some mode') :
    mode'.IsText := by
  cases mode with
  | quoted value => exact isText_text h
  | marked value mark =>
      rw [HclMode.write] at h
      split at h
      · cases h
      · split at h
        · cases h
          exact hmode
        · exact isText_text h
  | doubled value mark =>
      rw [HclMode.write] at h
      split at h
      · cases h
        trivial
      · split at h
        · cases h
          exact hmode
        · exact isText_text h
  | code | comment | escape | hex => exact hmode.elim

end

/-- Writing a whole text into a literal. -/
def writeFrom (mode : HclMode) (text : Str) : Option HclMode :=
  text.foldlM (fun mode c => mode.write c) mode

/-- What a literal written for the text denotes, if it is one. -/
def denotes (text : Str) : Option Str := (writeFrom (.quoted []) text).map HclMode.denoted

/-- Reading the escaped text is writing the text. -/
theorem readFrom_escaped {mode : HclMode} (hmode : mode.IsText) (tokens : List HclToken)
    (text : Str) :
    readFrom ⟨mode, tokens⟩ (text.flatMap escapeChar ++ ['"']) =
      (writeFrom mode text).map fun mode => ⟨.code, tokens ++ [.literal mode.denoted]⟩ := by
  induction text generalizing mode with
  | nil => exact (readFrom_singleton _ _).trans (step_quote hmode)
  | cons c rest ih =>
      rw [List.flatMap_cons, List.append_assoc, readFrom_append, readFrom_escapeChar hmode]
      rw [writeFrom, List.foldlM_cons]
      cases hwrite : mode.write c with
      | none => rfl
      | some next => exact ih (isText_write hmode hwrite)

/-- A literal read where code stands becomes one token with what it denotes, or nothing. -/
theorem readFrom_hclText (tokens : List HclToken) (text : Str) :
    readFrom ⟨.code, tokens⟩ (hclText text) =
      (denotes text).map fun value => ⟨.code, tokens ++ [.literal value]⟩ := by
  rw [hclText_eq, readFrom, List.foldlM_cons]
  refine (@readFrom_escaped (.quoted []) trivial tokens text).trans ?_
  rw [denotes, Option.map_map]
  rfl

/-! ## Plain texts -/

/-- No line break, and no mark right before a brace. -/
structure Plain (text : Str) : Prop where
  breaks : ∀ c ∈ text, isLineBreak c = false
  marks : text.IsChain fun a b => ¬(isMark a = true ∧ b = '{')

instance (text : Str) : Decidable (Plain text) :=
  decidable_of_iff ((text.all fun c => !isLineBreak c) = true ∧
    text.IsChain fun a b => ¬(isMark a = true ∧ b = '{'))
    ⟨fun h => ⟨by simpa using h.1, h.2⟩, fun h => ⟨by simpa using h.breaks, h.marks⟩⟩

/-- The mark a literal stands behind. -/
def HclMode.pending : HclMode → Str
  | .marked _ mark => [mark]
  | .doubled _ mark => [mark]
  | _ => []

section
variable {mode mode' : HclMode} {c : Char}

theorem text_eq_some {value : Str} (h : HclMode.text value c = some mode) :
    isLineBreak c = false ∧ mode.denoted = value ++ [c] ∧
      mode.pending = if isMark c then [c] else [] := by
  unfold HclMode.text at h
  split at h
  · cases h
  · rename_i hbreak
    split at h
    · rename_i hmark
      cases h
      exact ⟨by simpa using hbreak, rfl, by simp [HclMode.pending, hmark]⟩
    · rename_i hmark
      cases h
      exact ⟨by simpa using hbreak, rfl, by simp [HclMode.pending, hmark]⟩

/-- A written character is added as it is unless it is a brace behind a mark, and then the text gets
no longer. -/
theorem write_eq_some (hmode : mode.IsText) (h : mode.write c = some mode') :
    (isLineBreak c = false ∧ (c = '{' → mode.pending = []) ∧
      mode'.denoted = mode.denoted ++ [c] ∧ mode'.pending = if isMark c then [c] else []) ∨
      (c = '{' ∧ mode.pending ≠ [] ∧ mode'.denoted.length = mode.denoted.length) := by
  have hbreakMark : ∀ mark, isMark mark = true → isLineBreak mark = false := by
    intro mark hmark
    rcases Bool.or_eq_true_iff.mp hmark with h | h <;> rw [of_decide_eq_true h] <;> rfl
  cases mode with
  | quoted value =>
      obtain ⟨hbreak, hdenoted, hpending⟩ := text_eq_some h
      exact .inl ⟨hbreak, fun _ => rfl, hdenoted, hpending⟩
  | marked value mark =>
      rw [HclMode.write] at h
      split at h
      · cases h
      · rename_i hbrace
        refine .inl ?_
        split at h
        · rename_i hc
          cases h
          subst hc
          refine ⟨hbreakMark _ hmode, fun h => absurd h hbrace, by simp [HclMode.denoted], ?_⟩
          rw [if_pos (show isMark c = true from hmode)]
          rfl
        · obtain ⟨hbreak, hdenoted, hpending⟩ := text_eq_some h
          exact ⟨hbreak, fun h => absurd h hbrace, hdenoted, hpending⟩
  | doubled value mark =>
      rw [HclMode.write] at h
      split at h
      · rename_i hbrace
        cases h
        exact .inr ⟨hbrace, by simp [HclMode.pending], by simp [HclMode.denoted]⟩
      · rename_i hbrace
        refine .inl ?_
        split at h
        · rename_i hc
          cases h
          subst hc
          refine ⟨hbreakMark _ hmode, fun h => absurd h hbrace, by simp [HclMode.denoted], ?_⟩
          rw [if_pos (show isMark c = true from hmode)]
          rfl
        · obtain ⟨hbreak, hdenoted, hpending⟩ := text_eq_some h
          exact ⟨hbreak, fun h => absurd h hbrace, hdenoted, hpending⟩
  | code | comment | escape | hex => exact hmode.elim

/-- A character that is no line break, and no brace behind a mark, can be written. -/
theorem exists_write (hmode : mode.IsText) (hbreak : isLineBreak c = false)
    (hbrace : c = '{' → mode.pending = []) : ∃ mode', mode.write c = some mode' := by
  have htext : ∀ value, ∃ mode', HclMode.text value c = some mode' := by
    intro value
    unfold HclMode.text
    rw [hbreak]
    split
    · contradiction
    · split <;> exact ⟨_, rfl⟩
  cases mode with
  | quoted value => exact htext value
  | marked value mark =>
      have hne : c ≠ '{' := fun h => by cases hbrace h
      rw [HclMode.write, if_neg hne]
      split
      · exact ⟨_, rfl⟩
      · exact htext _
  | doubled value mark =>
      have hne : c ≠ '{' := fun h => by cases hbrace h
      rw [HclMode.write, if_neg hne]
      split
      · exact ⟨_, rfl⟩
      · exact htext _
  | code | comment | escape | hex => exact hmode.elim

theorem pending_eq (hmode : mode.IsText) :
    mode.pending = [] ∨ ∃ mark, mode.pending = [mark] ∧ isMark mark = true := by
  cases mode with
  | quoted value => exact .inl rfl
  | marked value mark => exact .inr ⟨mark, rfl, hmode⟩
  | doubled value mark => exact .inr ⟨mark, rfl, hmode⟩
  | code | comment | escape | hex => exact hmode.elim

end

theorem writeFrom_cons (mode : HclMode) (c : Char) (rest : Str) :
    writeFrom mode (c :: rest) = (mode.write c).bind fun mode => writeFrom mode rest :=
  List.foldlM_cons

/-- A literal never denotes more than was written. -/
theorem length_denoted_le {mode mode' : HclMode} {text : Str} (hmode : mode.IsText)
    (h : writeFrom mode text = some mode') :
    mode'.denoted.length ≤ mode.denoted.length + text.length := by
  induction text generalizing mode with
  | nil =>
      cases h
      simp
  | cons c rest ih =>
      rw [writeFrom_cons] at h
      obtain ⟨next, hnext, h⟩ := Option.bind_eq_some_iff.mp h
      have hrest := ih (isText_write hmode hnext) h
      rcases write_eq_some hmode hnext with ⟨_, _, hdenoted, _⟩ | ⟨_, _, hlength⟩
      · rw [hdenoted] at hrest
        simp only [List.length_append, List.length_cons, List.length_nil] at hrest ⊢
        omega
      · rw [List.length_cons]
        omega

/-- A literal denotes what was written exactly when no line break is written and no brace behind a
mark. -/
theorem exists_writeFrom_iff {mode : HclMode} (hmode : mode.IsText) (text : Str) :
    (∃ mode', writeFrom mode text = some mode' ∧ mode'.denoted = mode.denoted ++ text) ↔
      (∀ c ∈ text, isLineBreak c = false) ∧
        (mode.pending ++ text).IsChain fun a b => ¬(isMark a = true ∧ b = '{') := by
  induction text generalizing mode with
  | nil =>
      have hnone : ∀ c ∈ ([] : Str), isLineBreak c = false := by simp
      refine iff_of_true ⟨mode, rfl, (List.append_nil _).symm⟩ ⟨hnone, ?_⟩
      rcases pending_eq hmode with h | ⟨mark, h, _⟩ <;> rw [h] <;> simp
  | cons c rest ih =>
      -- the chain up to the rest says two things: about the mark before, and from here on
      have hchain : ∀ next : HclMode, next.pending = (if isMark c then [c] else []) →
          ((mode.pending ++ c :: rest).IsChain (fun a b => ¬(isMark a = true ∧ b = '{')) ↔
            (c = '{' → mode.pending = []) ∧
              (next.pending ++ rest).IsChain fun a b => ¬(isMark a = true ∧ b = '{')) := by
        intro next hnext
        have hfrom : (c :: rest).IsChain (fun a b => ¬(isMark a = true ∧ b = '{')) ↔
            (next.pending ++ rest).IsChain fun a b => ¬(isMark a = true ∧ b = '{') := by
          rw [hnext]
          split
          · rfl
          · rename_i hmark
            cases rest with
            | nil => simp
            | cons d rest => simp [hmark]
        rw [← hfrom]
        rcases pending_eq hmode with h | ⟨mark, h, hmark⟩
        · simp [h]
        · simp [h, hmark]
      rw [writeFrom_cons]
      constructor
      · rintro ⟨mode', h, hdenoted⟩
        obtain ⟨next, hnext, h⟩ := Option.bind_eq_some_iff.mp h
        rcases write_eq_some hmode hnext with ⟨hbreak, hbrace, hadded, hpending⟩ | ⟨_, _, hlength⟩
        · rw [List.append_cons, ← hadded] at hdenoted
          obtain ⟨hbreaks, hrest⟩ := (ih (isText_write hmode hnext)).mp ⟨mode', h, hdenoted⟩
          exact ⟨List.forall_mem_cons.mpr ⟨hbreak, hbreaks⟩,
            (hchain next hpending).mpr ⟨hbrace, hrest⟩⟩
        · have hle := length_denoted_le (isText_write hmode hnext) h
          rw [hdenoted, List.length_append, List.length_cons] at hle
          omega
      · rintro ⟨hbreaks, hmarks⟩
        obtain ⟨hbreak, hbreaks⟩ := List.forall_mem_cons.mp hbreaks
        have hbrace : c = '{' → mode.pending = [] := by
          intro hc
          rcases pending_eq hmode with h | ⟨mark, h, hmark⟩
          · exact h
          · simp [h, hmark, hc] at hmarks
        obtain ⟨next, hnext⟩ := exists_write hmode hbreak hbrace
        rcases write_eq_some hmode hnext with ⟨_, _, hadded, hpending⟩ | ⟨hc, hne, _⟩
        · obtain ⟨mode', h, hdenoted⟩ := (ih (isText_write hmode hnext)).mpr
            ⟨hbreaks, ((hchain next hpending).mp hmarks).2⟩
          refine ⟨mode', Option.bind_eq_some_iff.mpr ⟨next, hnext, h⟩, ?_⟩
          rw [hdenoted, hadded, List.append_assoc]
          rfl
        · exact absurd (hbrace hc) hne

/-- What is written for a text denotes it exactly when it is plain. -/
theorem denotes_eq_iff (text : Str) : denotes text = some text ↔ Plain text := by
  have hiff := @exists_writeFrom_iff (.quoted []) trivial text
  unfold denotes
  rw [Option.map_eq_some_iff]
  exact hiff.trans ⟨fun h => ⟨h.1, h.2⟩, fun h => ⟨h.breaks, h.marks⟩⟩

/-- A generated literal is read back as the text it was generated for exactly when that is plain. -/
theorem readHcl_hclText_iff (text : Str) :
    readHcl (hclText text) = some [.literal text] ↔ Plain text := by
  rw [← denotes_eq_iff]
  unfold readHcl
  rw [readFrom_hclText]
  cases denotes text with
  | none => simp
  | some value => simp

end Secp.Worker
