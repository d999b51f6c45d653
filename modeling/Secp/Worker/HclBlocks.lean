import Secp.Worker.HclReader

/-!
# The blocks of a configuration file

A file is cut into lexemes, and these are read by the block grammar. An item of a body is an attribute, a
name with `=` and an expression up to the end of its line, or a block: a keyword, labels, which are
quoted or bare, and a body in braces. Whitespace and comments of all three kinds may stand between the
parts of a header, or nothing. Quoted templates and here-documents are single lexemes, whatever is
interpolated into them.

`readBlocks_located` says where the header of a block that is read stands in the file.
-/

namespace Secp.Worker

open Secp.Python

/-! ## Where a template, a comment or a here-document ends -/

/-- What is open at a place, from the inside out. -/
inductive HclFrame where
  /-- The next character belongs to what was read before it. -/
  | skip
  | lineComment
  | blockComment
  | template
  /-- A here-document, by the marker that ends it and the line so far. -/
  | heredoc (marker line : Str)
  /-- The braces of an interpolation, or others inside them. -/
  | braces
  deriving DecidableEq

def isBlank (c : Char) : Bool := c = ' ' || c = '\t' || c = '\n' || c = '\r'

/-- A character of a template: a mark before a brace begins an interpolation, a doubled one does not. -/
def HclFrame.textStep (c : Char) (rest : Str) (frame : HclFrame) : List HclFrame :=
  if isMark c && startsWith rest [c, '{'] then [.skip, .skip, frame]
  else if isMark c && startsWith rest ['{'] then [.skip, .braces, frame]
  else [frame]

section
variable [Unicode]

def isNameStart (c : Char) : Bool := isAlpha c || c = '_'

def isNameChar (c : Char) : Bool := isAlnum c || c = '_' || c = '-'

/-- The marker of a here-document, behind `<<`: the rest of the line. -/
def heredocMarker (rest : Str) : Option Str :=
  let rest := if startsWith rest ['-'] then rest.drop 1 else rest
  let marker := rest.takeWhile isNameChar
  let behind := (rest.dropWhile isNameChar).head?
  if marker ≠ [] ∧ (behind = some '\n' ∨ behind = some '\r') then some marker else none

/-- What a character leaves of the innermost frame, and what it opens in it. -/
def HclFrame.step (c : Char) (rest : Str) : HclFrame → Option (List HclFrame)
  | .skip => some []
  | .lineComment => some (if c = '\n' then [] else [.lineComment])
  | .blockComment => some (if c = '*' && startsWith rest ['/'] then [.skip] else [.blockComment])
  | .template =>
      if c = '"' then some []
      else if c = '\\' then some [.skip, .template]
      else if isLineBreak c then none
      else some (HclFrame.template.textStep c rest)
  | .heredoc marker line =>
      let line := if isLineBreak c then [] else line ++ [c]
      let ends := rest.isEmpty || startsWith rest ['\n'] || startsWith rest ['\r']
      some (if ends && strip line = marker then []
        else (HclFrame.heredoc marker line).textStep c rest)
  | .braces =>
      if c = '"' then some [.template, .braces]
      else if c = '{' then some [.braces, .braces]
      else if c = '}' then some []
      else if c = '#' || c = '/' && startsWith rest ['/'] then some [.lineComment, .braces]
      else if c = '/' && startsWith rest ['*'] then some [.skip, .blockComment, .braces]
      else if c = '<' && startsWith rest ['<'] then
        match heredocMarker (rest.drop 1) with
        | some marker => some [.heredoc marker [c], .braces]
        | none => some [.braces]
      else some [.braces]

/-- The number of characters up to the end of the outermost frame, if it ends. -/
def extent : List HclFrame → Str → Option Nat
  | [], _ => some 0
  | _ :: _, [] => none
  | frame :: outer, c :: rest => do
      let inner ← frame.step c rest
      let length ← extent (inner ++ outer) rest
      some (length + 1)

end

/-! ## Lexemes -/

inductive LexemeKind where
  | blank
  | comment
  | name
  | quoted
  | heredoc
  | mark
  /-- The rest of a file, from something that does not end. -/
  | unclosed
  deriving DecidableEq

structure HclLexeme where
  kind : LexemeKind
  text : Str
  deriving DecidableEq

/-- The text of some lexemes. -/
def textOf (lexemes : List HclLexeme) : Str := lexemes.flatMap HclLexeme.text

theorem textOf_append (a b : List HclLexeme) : textOf (a ++ b) = textOf a ++ textOf b :=
  List.flatMap_append

theorem textOf_singleton (l : HclLexeme) : textOf [l] = l.text := List.flatMap_singleton _ l

section
variable [Unicode]

/-- The kind of the lexeme at a place, and the number of its characters behind the first. -/
def lexemeAt (c : Char) (rest : Str) : LexemeKind × Nat :=
  let closing (kind : LexemeKind) (frames : List HclFrame) : LexemeKind × Nat :=
    match extent frames rest with
    | some length => (kind, length)
    | none => (.unclosed, rest.length)
  if isBlank c then (.blank, 0)
  else if c = '#' || c = '/' && startsWith rest ['/'] then
    (.comment, (rest.takeWhile fun c => c ≠ '\n').length)
  else if c = '/' && startsWith rest ['*'] then closing .comment [.skip, .blockComment]
  else if c = '"' then closing .quoted [.template]
  else if c = '<' && startsWith rest ['<'] then
    match heredocMarker (rest.drop 1) with
    | some marker => closing .heredoc [.heredoc marker [c]]
    | none => (.mark, 0)
  else if isNameStart c then (.name, (rest.takeWhile isNameChar).length)
  else (.mark, 0)

/-- The lexemes of what is left of a file, of which the first `skip` characters are read. -/
def lexemesFrom : Nat → Str → List HclLexeme
  | _, [] => []
  | skip + 1, _ :: rest => lexemesFrom skip rest
  | 0, c :: rest =>
      let found := lexemeAt c rest
      ⟨found.1, c :: rest.take found.2⟩ :: lexemesFrom found.2 rest

def lexemes (text : Str) : List HclLexeme := lexemesFrom 0 text

theorem textOf_lexemesFrom (text : Str) (skip : Nat) :
    textOf (lexemesFrom skip text) = text.drop skip := by
  induction text generalizing skip with
  | nil => cases skip <;> rfl
  | cons c rest ih =>
      cases skip with
      | succ skip => exact ih skip
      | zero =>
          show (c :: rest.take (lexemeAt c rest).2) ++ textOf (lexemesFrom _ rest) = c :: rest
          rw [ih, List.cons_append, List.take_append_drop]

/-- Nothing of a file is lost. -/
theorem textOf_lexemes (text : Str) : textOf (lexemes text) = text := textOf_lexemesFrom text 0

end

/-! ## Blocks -/

/-- What a label denotes: a bare one its name, a quoted one the literal. -/
def HclLexeme.label (l : HclLexeme) : Option Str :=
  match l.kind with
  | .name => some l.text
  | .quoted =>
      match readHcl l.text with
      | some [.literal value] => some value
      | _ => none
  | _ => none

/-- A block, by its place in the file and the lexemes of its header up to the brace. -/
structure HclBlock where
  start : Nat
  header : List HclLexeme
  deriving DecidableEq

def HclBlock.keyword (b : HclBlock) : Str := textOf (b.header.take 1)

def HclBlock.labels (b : HclBlock) : List Str := (b.header.drop 1).filterMap HclLexeme.label

inductive HclPhase where
  /-- An item of a body may begin. -/
  | item
  /-- Behind a name that begins an item, by its place and what was read from there. -/
  | header (start : Nat) (read : List HclLexeme)
  | expression
  deriving DecidableEq

/-- A reader of blocks: the place it has come to, the brackets that are open there, those of a body
marked, and the blocks so far. -/
structure BlockReader where
  place : Nat
  nesting : List Bool
  phase : HclPhase
  blocks : List HclBlock
  deriving DecidableEq

namespace BlockReader

variable (r : BlockReader) (l : HclLexeme)

/-- The brace that ends a body. -/
def leave : Option BlockReader :=
  match r.nesting with
  | true :: outer => some { r with nesting := outer, phase := .item }
  | _ => none

def itemStep : Option BlockReader :=
  match l.kind with
  | .blank | .comment => some r
  | .name => some { r with phase := .header r.place [l] }
  | .mark => if l.text = ['}'] then r.leave else none
  | _ => none

def headerStep (start : Nat) (read : List HclLexeme) : Option BlockReader :=
  match l.kind with
  | .blank | .comment | .name => some { r with phase := .header start (read ++ [l]) }
  | .quoted => if l.label.isSome then some { r with phase := .header start (read ++ [l]) } else none
  | .mark =>
      if l.text = ['{'] then
        some { r with
          nesting := true :: r.nesting
          phase := .item
          blocks := r.blocks ++ [⟨start, read⟩] }
      else if l.text = ['='] && (HclBlock.mk start read).labels.isEmpty then
        some { r with phase := .expression }
      else none
  | _ => none

def expressionStep : Option BlockReader :=
  match l.kind with
  | .blank =>
      if l.text = ['\n'] && r.nesting.head? ≠ some false then some { r with phase := .item } else some r
  | .mark =>
      if l.text = ['('] || l.text = ['['] || l.text = ['{'] then
        some { r with nesting := false :: r.nesting }
      else if l.text = [')'] || l.text = [']'] || l.text = ['}'] then
        match r.nesting with
        | false :: outer => some { r with nesting := outer }
        | _ => if l.text = ['}'] then r.leave else none
      else some r
  | .unclosed => none
  | _ => some r

def phaseStep : Option BlockReader :=
  match r.phase with
  | .item => r.itemStep l
  | .header start read => r.headerStep l start read
  | .expression => r.expressionStep l

/-- One lexeme. -/
def step : Option BlockReader :=
  (r.phaseStep l).map fun next => { next with place := r.place + l.text.length }

end BlockReader

/-- The blocks of a file at any depth, in the order they begin in, if the file can be read. -/
def readBlocks [Unicode] (text : Str) : Option (List HclBlock) := do
  let r ← (lexemes text).foldlM BlockReader.step ⟨0, [], .item, []⟩
  match r.nesting, r.phase with
  | [], .item | [], .expression => some r.blocks
  | _, _ => none

/-! ## Where a block stands -/

/-- The header stands among the lexemes, at the place of the block. -/
def HclBlock.Located (b : HclBlock) (read : List HclLexeme) : Prop :=
  ∃ before behind, read = before ++ b.header ++ behind ∧ b.start = (textOf before).length

/-- What holds of a reader of some lexemes. -/
structure BlockReader.Reads (r : BlockReader) (read : List HclLexeme) : Prop where
  place : r.place = (textOf read).length
  header : ∀ start header, r.phase = .header start header →
    ∃ before, read = before ++ header ∧ start = (textOf before).length
  blocks : ∀ b ∈ r.blocks, b.Located read

section
variable {r r' : BlockReader} {l : HclLexeme} {read : List HclLexeme} {b : HclBlock}

theorem HclBlock.Located.append (h : b.Located read) (more : List HclLexeme) :
    b.Located (read ++ more) := by
  obtain ⟨before, behind, hread, hstart⟩ := h
  exact ⟨before, behind ++ more, by rw [hread, List.append_assoc], hstart⟩

/-- What a lexeme can do to a reader: it ends a header with a block, begins or continues one, or leaves
the headers alone. -/
structure BlockReader.Advances (r : BlockReader) (l : HclLexeme) (r' : BlockReader) : Prop where
  place : r'.place = r.place
  header : ∀ start header, r'.phase = .header start header →
    start = r.place ∧ header = [l] ∨ ∃ read, r.phase = .header start read ∧ header = read ++ [l]
  blocks : ∀ b ∈ r'.blocks, b ∈ r.blocks ∨ r.phase = .header b.start b.header

theorem BlockReader.advances_of_phase (hplace : r'.place = r.place) (hblocks : r'.blocks = r.blocks)
    (hphase : r'.phase = .item ∨ r'.phase = .expression) : r.Advances l r' where
  place := hplace
  header := by
    intro start header h
    rcases hphase with hphase | hphase <;> rw [hphase] at h <;> cases h
  blocks := fun _ hb => .inl (hblocks ▸ hb)

theorem BlockReader.leave_advances (h : r.leave = some r') : r.Advances l r' := by
  unfold leave at h
  split at h
  · cases h
    exact advances_of_phase rfl rfl (.inl rfl)
  · cases h

theorem BlockReader.itemStep_advances (hphase : r.phase = .item) (h : r.itemStep l = some r') :
    r.Advances l r' := by
  unfold itemStep at h
  split at h
  · cases h
    exact advances_of_phase rfl rfl (.inl hphase)
  · cases h
    exact advances_of_phase rfl rfl (.inl hphase)
  · cases h
    refine ⟨rfl, fun start header hheader => ?_, fun b hb => .inl hb⟩
    cases hheader
    exact .inl ⟨rfl, rfl⟩
  · split at h
    · exact leave_advances h
    · cases h
  · cases h

theorem BlockReader.headerStep_advances {start : Nat} {header : List HclLexeme}
    (hphase : r.phase = .header start header) (h : r.headerStep l start header = some r') :
    r.Advances l r' := by
  have hlonger : r.Advances l { r with phase := .header start (header ++ [l]) } := by
    refine ⟨rfl, fun start' header' hheader => ?_, fun b hb => .inl hb⟩
    cases hheader
    exact .inr ⟨header, hphase, rfl⟩
  unfold headerStep at h
  split at h
  · cases h
    exact hlonger
  · cases h
    exact hlonger
  · cases h
    exact hlonger
  · split at h
    · cases h
      exact hlonger
    · cases h
  · split at h
    · cases h
      refine ⟨rfl, fun start' header' hheader => ?_, fun b hb => ?_⟩
      · cases hheader
      · rcases List.mem_append.mp hb with hb | hb
        · exact .inl hb
        · rw [List.mem_singleton.mp hb]
          exact .inr hphase
    · split at h
      · cases h
        exact advances_of_phase rfl rfl (.inr rfl)
      · cases h
  · cases h

theorem BlockReader.expressionStep_advances (hphase : r.phase = .expression)
    (h : r.expressionStep l = some r') : r.Advances l r' := by
  unfold expressionStep at h
  split at h
  · split at h
    · cases h
      exact advances_of_phase rfl rfl (.inl rfl)
    · cases h
      exact advances_of_phase rfl rfl (.inr hphase)
  · split at h
    · cases h
      exact advances_of_phase rfl rfl (.inr hphase)
    · split at h
      · split at h
        · cases h
          exact advances_of_phase rfl rfl (.inr hphase)
        · split at h
          · exact leave_advances h
          · cases h
      · cases h
        exact advances_of_phase rfl rfl (.inr hphase)
  · cases h
  · cases h
    exact advances_of_phase rfl rfl (.inr hphase)

theorem BlockReader.step_advances (h : r.step l = some r') :
    ∃ next, r.Advances l next ∧ r' = { next with place := r.place + l.text.length } := by
  unfold step at h
  obtain ⟨next, hnext, hplace⟩ := Option.map_eq_some_iff.mp h
  refine ⟨next, ?_, hplace.symm⟩
  unfold phaseStep at hnext
  cases hphase : r.phase with
  | item =>
      rw [hphase] at hnext
      exact itemStep_advances hphase hnext
  | header start header =>
      rw [hphase] at hnext
      exact headerStep_advances hphase hnext
  | expression =>
      rw [hphase] at hnext
      exact expressionStep_advances hphase hnext

/-- One lexeme more. -/
theorem BlockReader.Reads.step (h : r.Reads read) (hstep : r.step l = some r') :
    r'.Reads (read ++ [l]) := by
  obtain ⟨next, hadvances, rfl⟩ := step_advances hstep
  refine ⟨?_, fun start header hphase => ?_, fun b hb => ?_⟩
  · show r.place + l.text.length = _
    rw [h.place, textOf_append, List.length_append, textOf_singleton]
  · rcases hadvances.header start header hphase with ⟨rfl, rfl⟩ | ⟨earlier, hearlier, rfl⟩
    · exact ⟨read, rfl, h.place⟩
    · obtain ⟨before, hread, hstart⟩ := h.header start earlier hearlier
      exact ⟨before, by rw [hread, List.append_assoc], hstart⟩
  · rcases hadvances.blocks b hb with hb | hheader
    · exact (h.blocks b hb).append [l]
    · obtain ⟨before, hread, hstart⟩ := h.header b.start b.header hheader
      exact ⟨before, [l], by rw [hread], hstart⟩

theorem BlockReader.Reads.run {more : List HclLexeme} (h : r.Reads read)
    (hrun : more.foldlM BlockReader.step r = some r') : r'.Reads (read ++ more) := by
  induction more generalizing r read with
  | nil =>
      cases hrun
      rwa [List.append_nil]
  | cons l rest ih =>
      rw [List.foldlM_cons] at hrun
      obtain ⟨next, hstep, hrest⟩ := Option.bind_eq_some_iff.mp hrun
      have hread := ih (h.step hstep) hrest
      rwa [List.append_assoc] at hread

/-- A block that is read begins with its header at its place in the file. -/
theorem readBlocks_located [Unicode] {text : Str} {blocks : List HclBlock}
    (h : readBlocks text = some blocks) (hb : b ∈ blocks) :
    ∃ rest, text.drop b.start = textOf b.header ++ rest := by
  obtain ⟨reader, hrun, hend⟩ := Option.bind_eq_some_iff.mp h
  have hblocks : reader.blocks = blocks := by
    split at hend
    · exact Option.some.inj hend
    · exact Option.some.inj hend
    · cases hend
  have hstart : (BlockReader.mk 0 [] .item []).Reads [] :=
    ⟨rfl, fun _ _ hheader => (by cases hheader), fun _ hnone => (by cases hnone)⟩
  have hreads : reader.Reads (lexemes text) := hstart.run hrun
  obtain ⟨before, behind, hread, hstart⟩ := hreads.blocks b (hblocks ▸ hb)
  refine ⟨textOf behind, ?_⟩
  rw [← textOf_lexemes text, hread, textOf_append, textOf_append, List.append_assoc, hstart,
    List.drop_left]

end

end Secp.Worker
