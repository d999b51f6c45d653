import Secp.Worker.HclReader

/-!
# Trees read back

A printed tree is a row of pieces: code, comments, and literals. Where the code and the comments are
in order, the printed text is read back as the pieces' own tokens exactly when every text that was
quoted is plain. So a plain text never becomes anything but its literal, whatever stands around it.
-/

namespace Secp.Worker

open Secp.Python

/-! ## Pieces -/

inductive HclPiece where
  | code (s : Str)
  /-- A line of comment, with what ends it. -/
  | comment (s : Str)
  /-- A text, escaped and between quotes. -/
  | text (s : Str)
  /-- What stands between quotes as it is. -/
  | raw (s : Str)

def HclPiece.print : HclPiece → Str
  | .code s => s
  | .comment s => str "# " ++ s ++ ['\n']
  | .text s => hclText s
  | .raw s => ['"'] ++ s ++ ['"']

/-- What a piece is meant to say. -/
def HclPiece.tokens : HclPiece → List HclToken
  | .code s => s.map .char
  | .comment _ => [.char '\n']
  | .text s => [.literal s]
  | .raw s => [.literal s]

def HclPiece.quoted : HclPiece → List Str
  | .text s => [s]
  | _ => []

/-- A character that is nothing but itself where code stands. -/
def isCodeChar (c : Char) : Bool := !(c = '"' || c = '#' || c = '/' || c = '<')

/-- Code is made of such characters, a comment stays on its line, and what stands between quotes as
it is needs no escape. -/
def HclPiece.InOrder : HclPiece → Prop
  | .code s => ∀ c ∈ s, isCodeChar c = true
  | .comment s => '\n' ∉ s
  | .text _ => True
  | .raw s => Plain s ∧ '"' ∉ s ∧ '\\' ∉ s

/-! ## Reading pieces -/

theorem readFrom_code {s : Str} (h : ∀ c ∈ s, isCodeChar c = true) (tokens : List HclToken) :
    readFrom ⟨.code, tokens⟩ s = some ⟨.code, tokens ++ s.map .char⟩ := by
  induction s generalizing tokens with
  | nil => simp [readFrom]
  | cons c rest ih =>
      obtain ⟨hc, hrest⟩ := List.forall_mem_cons.mp h
      have hstep : HclState.step ⟨.code, tokens⟩ c = some ⟨.code, tokens ++ [.char c]⟩ := by
        simp only [isCodeChar, Bool.not_eq_true', Bool.or_eq_false_iff, decide_eq_false_iff_not]
          at hc
        simp [HclState.step, hc]
      rw [readFrom, List.foldlM_cons, hstep]
      refine (ih hrest _).trans ?_
      rw [List.map_cons, List.append_assoc]
      rfl

theorem readFrom_comment {s : Str} (h : '\n' ∉ s) (tokens : List HclToken) :
    readFrom ⟨.comment, tokens⟩ (s ++ ['\n']) = some ⟨.code, tokens ++ [.char '\n']⟩ := by
  induction s with
  | nil => rfl
  | cons c rest ih =>
      rw [List.mem_cons, not_or] at h
      have hstep : HclState.step ⟨.comment, tokens⟩ c = some ⟨.comment, tokens⟩ :=
        if_neg (Ne.symm h.1)
      rw [List.cons_append, readFrom, List.foldlM_cons, hstep]
      exact ih h.2

/-- Reading a piece gives its tokens, with what a text denotes in place of the text. -/
theorem readFrom_piece {piece : HclPiece} (h : piece.InOrder) (tokens : List HclToken) :
    (readFrom ⟨.code, tokens⟩ piece.print = some ⟨.code, tokens ++ piece.tokens⟩ ∧
        ∀ s ∈ piece.quoted, Plain s) ∨
      ((readFrom ⟨.code, tokens⟩ piece.print = none ∨
        ∃ value s, readFrom ⟨.code, tokens⟩ piece.print = some ⟨.code, tokens ++ [.literal value]⟩ ∧
          piece.tokens = [.literal s] ∧ value ≠ s) ∧ ∃ s ∈ piece.quoted, ¬Plain s) := by
  cases piece with
  | code s => exact .inl ⟨readFrom_code h tokens, by simp [HclPiece.quoted]⟩
  | comment s =>
      refine .inl ⟨?_, by simp [HclPiece.quoted]⟩
      have hmarker : str "# " = ['#', ' '] := by simp [str]
      rw [HclPiece.print, hmarker, List.append_assoc, readFrom_append]
      exact readFrom_comment h tokens
  | text s =>
      have hread := readFrom_hclText tokens s
      by_cases hplain : Plain s
      · refine .inl ⟨?_, by simpa [HclPiece.quoted] using hplain⟩
        rw [HclPiece.print, hread, (denotes_eq_iff s).mpr hplain]
        rfl
      · refine .inr ⟨?_, s, List.mem_singleton_self s, hplain⟩
        rw [HclPiece.print, hread]
        cases hdenotes : denotes s with
        | none => exact .inl rfl
        | some value =>
            refine .inr ⟨value, s, rfl, rfl, ?_⟩
            rintro rfl
            exact hplain ((denotes_eq_iff _).mp hdenotes)
  | raw s =>
      refine .inl ⟨?_, by simp [HclPiece.quoted]⟩
      obtain ⟨hplain, hquote, hback⟩ := h
      -- without quotes and backslashes a text is escaped as itself
      have hescaped : s.flatMap escapeChar = s := by
        clear hplain
        induction s with
        | nil => rfl
        | cons c rest ih =>
            rw [List.mem_cons, not_or] at hquote hback
            rw [List.flatMap_cons, ih hquote.2 hback.2, escapeChar, if_neg (Ne.symm hback.1),
              if_neg (Ne.symm hquote.1)]
            rfl
      have hsame : HclPiece.print (.raw s) = hclText s := by rw [hclText_eq, hescaped]; rfl
      rw [hsame, readFrom_hclText, (denotes_eq_iff s).mpr hplain]
      rfl

def printPieces (pieces : List HclPiece) : Str := pieces.flatMap HclPiece.print

def tokensOf (pieces : List HclPiece) : List HclToken := pieces.flatMap HclPiece.tokens

def quotedOf (pieces : List HclPiece) : List Str := pieces.flatMap HclPiece.quoted

/-- Tokens that were read are never lost. -/
theorem tokens_of_step {s s' : HclState} {c : Char} (h : s.step c = some s') :
    s.tokens <+: s'.tokens := by
  obtain ⟨mode, tokens⟩ := s
  have hquoted : ∀ value, quotedStep tokens value c = some s' → tokens <+: s'.tokens := by
    intro value h
    unfold quotedStep at h
    split at h
    · cases h
      exact List.prefix_append _ _
    · split at h
      · cases h
        exact List.prefix_rfl
      · obtain ⟨_, _, rfl⟩ := Option.map_eq_some_iff.mp h
        exact List.prefix_rfl
  cases mode with
  | code =>
      simp only [HclState.step] at h
      repeat' split at h
      all_goals cases h
      · exact List.prefix_rfl
      · exact List.prefix_rfl
      · exact List.prefix_append _ _
  | comment =>
      simp only [HclState.step] at h
      split at h
      · cases h
        exact List.prefix_append _ _
      · cases h
        exact List.prefix_rfl
  | quoted value => exact hquoted value h
  | escape value =>
      obtain ⟨_, _, rfl⟩ := Option.map_eq_some_iff.mp h
      exact List.prefix_rfl
  | hex value digits code =>
      obtain ⟨_, _, rfl⟩ := Option.map_eq_some_iff.mp h
      exact List.prefix_rfl
  | marked value mark =>
      simp only [HclState.step] at h
      split at h
      · cases h
      · split at h
        · cases h
          exact List.prefix_rfl
        · exact hquoted _ h
  | doubled value mark =>
      simp only [HclState.step] at h
      split at h
      · cases h
        exact List.prefix_rfl
      · split at h
        · cases h
          exact List.prefix_rfl
        · exact hquoted _ h

theorem tokens_of_readFrom {s s' : HclState} {text : Str} (h : readFrom s text = some s') :
    s.tokens <+: s'.tokens := by
  induction text generalizing s with
  | nil =>
      cases h
      exact List.prefix_rfl
  | cons c rest ih =>
      rw [readFrom, List.foldlM_cons] at h
      obtain ⟨next, hnext, h⟩ := Option.bind_eq_some_iff.mp h
      exact (tokens_of_step hnext).trans (ih h)

/-- A row of pieces in order is read back as its tokens exactly when its texts are plain. -/
theorem readFrom_printPieces_iff {pieces : List HclPiece} (h : ∀ piece ∈ pieces, piece.InOrder)
    (tokens : List HclToken) :
    readFrom ⟨.code, tokens⟩ (printPieces pieces) = some ⟨.code, tokens ++ tokensOf pieces⟩ ↔
      ∀ s ∈ quotedOf pieces, Plain s := by
  induction pieces generalizing tokens with
  | nil => simp [printPieces, tokensOf, quotedOf, readFrom]
  | cons piece rest ih =>
      obtain ⟨hpiece, hrest⟩ := List.forall_mem_cons.mp h
      have hprint : printPieces (piece :: rest) = piece.print ++ printPieces rest := rfl
      have htokens : tokensOf (piece :: rest) = piece.tokens ++ tokensOf rest := rfl
      have hquoted : quotedOf (piece :: rest) = piece.quoted ++ quotedOf rest := rfl
      rw [hprint, htokens, hquoted, readFrom_append, List.forall_mem_append]
      rcases readFrom_piece hpiece tokens with ⟨hread, hplain⟩ | ⟨hfail, s, hs, hplain⟩
      · rw [hread, ← List.append_assoc]
        exact (ih hrest _).trans (and_iff_right hplain).symm
      · refine iff_of_false (fun hall => ?_) fun hall => hplain (hall.1 s hs)
        rcases hfail with hnone | ⟨value, s, hread, hsays, hne⟩
        · rw [hnone] at hall
          cases hall
        · -- the token of the literal is there to stay, and it is the wrong one
          rw [hread, hsays] at hall
          have hstays := tokens_of_readFrom hall
          rw [← List.append_assoc] at hstays
          have hsame := List.prefix_of_prefix_length_le hstays (List.prefix_append _ _) (by simp)
          have hlast := List.append_cancel_left (hsame.eq_of_length (by simp))
          cases hlast
          exact hne rfl

/-! ## The pieces of a tree -/

def HclScalar.pieces : HclScalar → List HclPiece
  | .text s => [.text s]
  | .raw s => [.raw s]
  | .number n => [.code (intStr n)]
  | .flag b => [.code (if b then str "true" else str "false")]
  | .resource type label name => [.code (type ++ str "." ++ label ++ str "." ++ name)]
  | .symbol s => [.code s]

def HclValue.pieces : HclValue → List HclPiece
  | .scalar value => value.pieces
  | .list items =>
      [.code ['[']] ++ List.intercalate [.code (str ", ")] (items.map fun s => [.text s]) ++
        [.code [']']]
  | .inline fields =>
      [.code (str "\x7b ")] ++ List.intercalate [.code (str ", ")] (fields.map fun field =>
        [.code (field.1 ++ str " = ")] ++ field.2.pieces) ++ [.code (str " \x7d")]

mutual

def HclItem.pieces (depth : Nat) : HclItem → List HclPiece
  | .comment text => [.code (indentation depth), .comment text]
  | .blank => [.code ['\n']]
  | .attribute width key value =>
      [.code (indentation depth ++ key ++ List.replicate (width - key.length) ' ' ++ str " = ")] ++
        value.pieces ++ [.code ['\n']]
  | .block keyword labels body =>
      [.code (indentation depth ++ keyword)] ++
        labels.flatMap (fun label => [.code [' '], .raw label]) ++ [.code (str " \x7b\n")] ++
        piecesOf (depth + 1) body ++ [.code (indentation depth ++ str "\x7d\n")]
  | .object key body =>
      [.code (indentation depth ++ key ++ str " = \x7b\n")] ++ piecesOf (depth + 1) body ++
        [.code (indentation depth ++ str "\x7d\n")]

def piecesOf (depth : Nat) : List HclItem → List HclPiece
  | [] => []
  | item :: rest => item.pieces depth ++ piecesOf depth rest

end

theorem printPieces_append (a b : List HclPiece) :
    printPieces (a ++ b) = printPieces a ++ printPieces b := List.flatMap_append

theorem printPieces_cons (piece : HclPiece) (rest : List HclPiece) :
    printPieces (piece :: rest) = piece.print ++ printPieces rest := rfl

theorem printPieces_intercalate (sep : Str) (parts : List (List HclPiece)) :
    printPieces (List.intercalate [.code sep] parts) = join sep (parts.map printPieces) := by
  have hsep : printPieces [.code sep] = sep := List.append_nil _
  unfold join
  induction parts with
  | nil => rfl
  | cons part rest ih =>
      cases rest with
      | nil => simp
      | cons next rest =>
          rw [List.intercalate_cons_cons, printPieces_append, printPieces_append, ih, hsep]
          exact List.intercalate_cons_cons.symm

theorem printPieces_code (s : Str) (rest : List HclPiece) :
    printPieces (.code s :: rest) = s ++ printPieces rest := rfl

theorem printPieces_nil : printPieces [] = [] := rfl

theorem printPieces_scalar (value : HclScalar) : printPieces value.pieces = value.print := by
  cases value <;> simp [HclScalar.pieces, HclScalar.print, printPieces, HclPiece.print]

theorem printPieces_value (value : HclValue) : printPieces value.pieces = value.print := by
  cases value with
  | scalar value => exact printPieces_scalar value
  | list items =>
      simp only [HclValue.pieces, HclValue.print, printPieces_append, printPieces_code,
        printPieces_nil, printPieces_intercalate, List.map_map, List.append_nil]
      congr 3
      refine List.map_congr_left fun s _ => ?_
      exact List.append_nil _
  | inline fields =>
      simp only [HclValue.pieces, HclValue.print, printPieces_append, printPieces_code,
        printPieces_nil, printPieces_intercalate, List.map_map, List.append_nil]
      congr 3
      refine List.map_congr_left fun field _ => ?_
      simp only [Function.comp_apply, printPieces_append, printPieces_code, printPieces_nil,
        List.append_nil, printPieces_scalar]

theorem printPieces_labels (labels : List Str) :
    printPieces (labels.flatMap fun label => [.code [' '], .raw label]) =
      labels.flatMap fun label => str " \"" ++ label ++ ['"'] := by
  have hopen : str " \"" = [' ', '"'] := by simp [str]
  induction labels with
  | nil => rfl
  | cons label rest ih =>
      rw [List.flatMap_cons, List.flatMap_cons, printPieces_append, ih, hopen]
      simp [printPieces, HclPiece.print]

mutual

theorem printPieces_item (depth : Nat) (item : HclItem) :
    printPieces (item.pieces depth) = item.print depth := by
  rcases item with text | _ | ⟨width, key, value⟩ | ⟨keyword, labels, body⟩ | ⟨key, body⟩
  · simp [HclItem.pieces, HclItem.print, printPieces, HclPiece.print]
  · simp [HclItem.pieces, HclItem.print, printPieces, HclPiece.print]
  · simp only [HclItem.pieces, HclItem.print, printPieces_append, printPieces_code,
      printPieces_nil, printPieces_value, List.append_nil]
  · simp only [HclItem.pieces, HclItem.print, printPieces_append, printPieces_code,
      printPieces_nil, printPieces_labels, printPieces_piecesOf (depth + 1) body,
      List.append_nil, List.append_assoc]
  · simp only [HclItem.pieces, HclItem.print, printPieces_append, printPieces_code,
      printPieces_nil, printPieces_piecesOf (depth + 1) body, List.append_nil, List.append_assoc]

/-- The pieces of a tree print as the tree does. -/
theorem printPieces_piecesOf (depth : Nat) (items : List HclItem) :
    printPieces (piecesOf depth items) = printItems depth items := by
  cases items with
  | nil => simp [piecesOf, printItems, printPieces_nil]
  | cons item rest =>
      rw [piecesOf, printItems, printPieces_append, printPieces_item depth item,
        printPieces_piecesOf depth rest]

end

/-! ## Trees in order -/

/-- Code that reads as itself. -/
def CodeText (s : Str) : Prop := ∀ c ∈ s, isCodeChar c = true

instance (s : Str) : Decidable (CodeText s) := List.decidableBAll (fun c => isCodeChar c = true) s

/-- What may stand between quotes as it is. -/
def RawText (s : Str) : Prop := Plain s ∧ '"' ∉ s ∧ '\\' ∉ s

instance (s : Str) : Decidable (RawText s) :=
  inferInstanceAs (Decidable (Plain s ∧ '"' ∉ s ∧ '\\' ∉ s))

def HclScalar.InOrder : HclScalar → Prop
  | .raw s => RawText s
  | .resource type label name => CodeText type ∧ CodeText label ∧ CodeText name
  | .symbol s => CodeText s
  | _ => True

def HclValue.InOrder : HclValue → Prop
  | .scalar value => value.InOrder
  | .list _ => True
  | .inline fields => ∀ field ∈ fields, CodeText field.1 ∧ field.2.InOrder

mutual

/-- Keys and keywords are code, labels need no escape, and comments stay on their lines. -/
def HclItem.InOrder : HclItem → Prop
  | .comment text => '\n' ∉ text
  | .blank => True
  | .attribute _ key value => CodeText key ∧ value.InOrder
  | .block keyword labels body => CodeText keyword ∧ (∀ label ∈ labels, RawText label) ∧
      ItemsInOrder body
  | .object key body => CodeText key ∧ ItemsInOrder body

def ItemsInOrder : List HclItem → Prop
  | [] => True
  | item :: rest => item.InOrder ∧ ItemsInOrder rest

end

theorem codeText_append {a b : Str} : CodeText (a ++ b) ↔ CodeText a ∧ CodeText b :=
  List.forall_mem_append

theorem codeText_indentation (depth : Nat) : CodeText (indentation depth) := by
  intro c hc
  rw [List.eq_of_mem_replicate hc]
  rfl

theorem codeText_spaces (n : Nat) : CodeText (List.replicate n ' ') := by
  intro c hc
  rw [List.eq_of_mem_replicate hc]
  rfl

theorem codeText_intStr (n : Int) : CodeText (intStr n) := by
  have hnat : ∀ n : Nat, CodeText (natStr n) := by
    intro n c hc
    have hdigit := isAsciiDigit_of_mem_natStr hc
    simp only [isAsciiDigit, Bool.and_eq_true, decide_eq_true_eq] at hdigit
    have hne : ∀ d : Char, d.toNat < 48 ∨ 57 < d.toNat → c ≠ d := by
      rintro d hd rfl
      omega
    simp [isCodeChar, hne '"' (by decide), hne '#' (by decide), hne '/' (by decide),
      hne '<' (by decide)]
  cases n with
  | ofNat n => exact hnat n
  | negSucc n => exact List.forall_mem_cons.mpr ⟨rfl, hnat (n + 1)⟩

/-- The code the printer itself writes. -/
theorem codeText_printer : CodeText (str " = ") ∧ CodeText (str ", ") ∧ CodeText (str ".") ∧
    CodeText (str "\x7b ") ∧ CodeText (str " \x7d") ∧ CodeText (str " \x7b\n") ∧
    CodeText (str "\x7d\n") ∧ CodeText (str " = \x7b\n") ∧ CodeText (str "true") ∧
    CodeText (str "false") := by
  with_unfolding_all decide

/-- All pieces are in order. -/
def PiecesInOrder (pieces : List HclPiece) : Prop := ∀ piece ∈ pieces, piece.InOrder

@[simp] theorem piecesInOrder_nil : PiecesInOrder [] := by simp [PiecesInOrder]

@[simp] theorem piecesInOrder_append {a b : List HclPiece} :
    PiecesInOrder (a ++ b) ↔ PiecesInOrder a ∧ PiecesInOrder b := List.forall_mem_append

@[simp] theorem piecesInOrder_cons {piece : HclPiece} {rest : List HclPiece} :
    PiecesInOrder (piece :: rest) ↔ piece.InOrder ∧ PiecesInOrder rest := List.forall_mem_cons

@[simp] theorem inOrder_code {s : Str} : (HclPiece.code s).InOrder ↔ CodeText s := Iff.rfl

@[simp] theorem inOrder_comment {s : Str} : (HclPiece.comment s).InOrder ↔ '\n' ∉ s := Iff.rfl

@[simp] theorem inOrder_text (s : Str) : (HclPiece.text s).InOrder := trivial

@[simp] theorem inOrder_raw {s : Str} : (HclPiece.raw s).InOrder ↔ RawText s := Iff.rfl

theorem piecesInOrder_intercalate {sep : Str} (hsep : CodeText sep)
    {parts : List (List HclPiece)} (h : ∀ part ∈ parts, PiecesInOrder part) :
    PiecesInOrder (List.intercalate [.code sep] parts) := by
  induction parts with
  | nil => exact piecesInOrder_nil
  | cons part rest ih =>
      obtain ⟨hpart, hrest⟩ := List.forall_mem_cons.mp h
      cases rest with
      | nil => simpa using hpart
      | cons next rest =>
          rw [List.intercalate_cons_cons]
          exact piecesInOrder_append.mpr ⟨piecesInOrder_append.mpr ⟨hpart, by simpa using hsep⟩,
            ih hrest⟩

theorem piecesInOrder_scalar {value : HclScalar} (h : value.InOrder) :
    PiecesInOrder value.pieces := by
  obtain ⟨_, _, hdot, _, _, _, _, _, htrue, hfalse⟩ := codeText_printer
  cases value with
  | text s => simp [HclScalar.pieces]
  | raw s =>
      have hraw : RawText s := h
      simp [HclScalar.pieces, hraw]
  | number n => simpa [HclScalar.pieces] using codeText_intStr n
  | flag b => cases b <;> simp [HclScalar.pieces, htrue, hfalse]
  | resource type label name =>
      obtain ⟨htype, hlabel, hname⟩ := h
      simp [HclScalar.pieces, codeText_append, htype, hlabel, hname, hdot]
  | symbol s =>
      have hcode : CodeText s := h
      simp [HclScalar.pieces, hcode]

theorem piecesInOrder_value {value : HclValue} (h : value.InOrder) :
    PiecesInOrder value.pieces := by
  obtain ⟨hequals, hcomma, _, hopen, hclose, _⟩ := codeText_printer
  have hbrackets : CodeText ['['] ∧ CodeText [']'] := by
    with_unfolding_all decide
  cases value with
  | scalar value => exact piecesInOrder_scalar h
  | list items =>
      have hitems : ∀ part ∈ items.map fun s => [HclPiece.text s], PiecesInOrder part := by
        intro part hpart
        obtain ⟨s, _, rfl⟩ := List.mem_map.mp hpart
        simp
      simp [HclValue.pieces, hbrackets, piecesInOrder_intercalate hcomma hitems]
  | inline fields =>
      have hfields : ∀ part ∈ fields.map fun field =>
          [HclPiece.code (field.1 ++ str " = ")] ++ field.2.pieces, PiecesInOrder part := by
        intro part hpart
        obtain ⟨field, hfield, rfl⟩ := List.mem_map.mp hpart
        obtain ⟨hkey, hvalue⟩ := h field hfield
        simp [codeText_append, hkey, hequals, piecesInOrder_scalar hvalue]
      have hall := piecesInOrder_intercalate hcomma hfields
      exact piecesInOrder_append.mpr ⟨piecesInOrder_append.mpr ⟨by simpa using hopen, hall⟩,
        by simpa using hclose⟩

mutual

theorem piecesInOrder_item (depth : Nat) (item : HclItem) (h : item.InOrder) :
    PiecesInOrder (item.pieces depth) := by
  obtain ⟨hequals, _, _, _, _, hblock, hend, hobject, _, _⟩ := codeText_printer
  have hnewline : CodeText ['\n'] ∧ CodeText [' '] := by
    with_unfolding_all decide
  rcases item with text | _ | ⟨width, key, value⟩ | ⟨keyword, labels, body⟩ | ⟨key, body⟩
  · rw [HclItem.InOrder] at h
    simp [HclItem.pieces, codeText_indentation, h]
  · simp [HclItem.pieces, hnewline]
  · rw [HclItem.InOrder] at h
    simp [HclItem.pieces, codeText_append, codeText_indentation, codeText_spaces, h.1, hequals,
      hnewline, piecesInOrder_value h.2]
  · rw [HclItem.InOrder] at h
    have hbody := piecesInOrder_piecesOf (depth + 1) body h.2.2
    have hlabels : PiecesInOrder (labels.flatMap fun label => [.code [' '], .raw label]) := by
      intro piece hpiece
      obtain ⟨label, hlabel, hpiece⟩ := List.mem_flatMap.mp hpiece
      rcases List.mem_pair.mp hpiece with rfl | rfl
      · exact hnewline.2
      · exact h.2.1 label hlabel
    simp [HclItem.pieces, codeText_append, codeText_indentation, h.1, hlabels, hblock, hbody, hend]
  · rw [HclItem.InOrder] at h
    have hbody := piecesInOrder_piecesOf (depth + 1) body h.2
    simp [HclItem.pieces, codeText_append, codeText_indentation, h.1, hobject, hbody, hend]

theorem piecesInOrder_piecesOf (depth : Nat) (items : List HclItem) (h : ItemsInOrder items) :
    PiecesInOrder (piecesOf depth items) := by
  cases items with
  | nil => simp [piecesOf]
  | cons item rest =>
      rw [ItemsInOrder] at h
      rw [piecesOf]
      exact piecesInOrder_append.mpr ⟨piecesInOrder_item depth item h.1,
        piecesInOrder_piecesOf depth rest h.2⟩

end

/-! ## Quoted texts -/

/-- The text stands quoted in an attribute of the items, at some depth. -/
def Quotes (items : List HclItem) (s : Str) : Prop :=
  ∃ a ∈ attributesOf items, HclScalar.text s ∈ a.2.scalars

theorem quotedOf_append (a b : List HclPiece) : quotedOf (a ++ b) = quotedOf a ++ quotedOf b :=
  List.flatMap_append

theorem mem_quotedOf_intercalate {sep s : Str} {parts : List (List HclPiece)} :
    s ∈ quotedOf (List.intercalate [.code sep] parts) ↔ ∃ part ∈ parts, s ∈ quotedOf part := by
  have hsep : quotedOf [.code sep] = [] := rfl
  induction parts with
  | nil => simp [quotedOf]
  | cons part rest ih =>
      cases rest with
      | nil => simp
      | cons next rest =>
          rw [List.intercalate_cons_cons, quotedOf_append, quotedOf_append, hsep, List.append_nil,
            List.mem_append]
          exact (or_congr Iff.rfl ih).trans (by simp)

theorem mem_quotedOf_scalar {value : HclScalar} {s : Str} :
    s ∈ quotedOf value.pieces ↔ HclScalar.text s = value := by
  cases value <;> simp [HclScalar.pieces, quotedOf, HclPiece.quoted]

theorem mem_quotedOf_value {value : HclValue} {s : Str} :
    s ∈ quotedOf value.pieces ↔ HclScalar.text s ∈ value.scalars := by
  have hcode : ∀ (text : Str) (rest : List HclPiece), quotedOf (.code text :: rest) =
      quotedOf rest := fun _ _ => rfl
  have hnil : quotedOf [] = [] := rfl
  cases value with
  | scalar value => rw [HclValue.pieces, mem_quotedOf_scalar, HclValue.scalars, List.mem_singleton]
  | list items =>
      have htext : ∀ text : Str, quotedOf [.text text] = [text] := fun _ => rfl
      simp [HclValue.pieces, HclValue.scalars, quotedOf_append, hcode, hnil,
        mem_quotedOf_intercalate, htext]
  | inline fields =>
      simp [HclValue.pieces, HclValue.scalars, quotedOf_append, hcode, hnil,
        mem_quotedOf_intercalate, mem_quotedOf_scalar, eq_comm]

mutual

theorem mem_quotedOf_item (depth : Nat) (item : HclItem) (s : Str) :
    s ∈ quotedOf (item.pieces depth) ↔
      ∃ a ∈ item.attributes, HclScalar.text s ∈ a.2.scalars := by
  have hcode : ∀ (text : Str) (rest : List HclPiece), quotedOf (.code text :: rest) =
      quotedOf rest := fun _ _ => rfl
  have hnil : quotedOf [] = [] := rfl
  rcases item with text | _ | ⟨width, key, value⟩ | ⟨keyword, labels, body⟩ | ⟨key, body⟩
  · simp [HclItem.pieces, HclItem.attributes, quotedOf, HclPiece.quoted]
  · simp [HclItem.pieces, HclItem.attributes, quotedOf, HclPiece.quoted]
  · simp [HclItem.pieces, HclItem.attributes, quotedOf_append, hcode, hnil, mem_quotedOf_value]
  · have hbody := mem_quotedOf_piecesOf (depth + 1) body s
    have hlabels : quotedOf (labels.flatMap fun label => [.code [' '], .raw label]) = [] := by
      induction labels with
      | nil => rfl
      | cons label rest ih =>
          rw [List.flatMap_cons, quotedOf_append, ih]
          rfl
    simp only [HclItem.pieces, HclItem.attributes, quotedOf_append, hcode, hnil, hlabels,
      List.append_nil, List.nil_append]
    exact hbody
  · have hbody := mem_quotedOf_piecesOf (depth + 1) body s
    simp only [HclItem.pieces, HclItem.attributes, quotedOf_append, hcode, hnil,
      List.append_nil, List.nil_append]
    exact hbody

theorem mem_quotedOf_piecesOf (depth : Nat) (items : List HclItem) (s : Str) :
    s ∈ quotedOf (piecesOf depth items) ↔ Quotes items s := by
  unfold Quotes
  cases items with
  | nil => simp [piecesOf, quotedOf]
  | cons item rest =>
      have hrest := mem_quotedOf_piecesOf depth rest s
      unfold Quotes at hrest
      rw [piecesOf, quotedOf_append, List.mem_append, mem_quotedOf_item depth item s, hrest,
        attributesOf_cons]
      simp only [List.mem_append, or_and_right, exists_or]

end

/-! ## Reading a file back -/

/-- What a file is meant to say, token by token. -/
def structureOf (items : List HclItem) : List HclToken := tokensOf (piecesOf 0 items)

/-- A printed file is read back as what it is meant to say exactly when every text it quotes is
plain. -/
theorem readHcl_printItems_iff {items : List HclItem} (h : ItemsInOrder items) :
    readHcl (printItems 0 items) = some (structureOf items) ↔ ∀ s, Quotes items s → Plain s := by
  have hread := readFrom_printPieces_iff (piecesInOrder_piecesOf 0 items h) []
  simp only [mem_quotedOf_piecesOf, printPieces_piecesOf, List.nil_append] at hread
  rw [← hread, readHcl]
  constructor
  · intro hall
    obtain ⟨s, hs, hend⟩ := Option.bind_eq_some_iff.mp hall
    split at hend
    · rename_i hmode
      obtain ⟨mode, tokens⟩ := s
      obtain rfl : mode = .code := hmode
      have htokens : tokens = structureOf items := Option.some.inj hend
      rw [hs, htokens]
      rfl
    · cases hend
  · intro hall
    rw [hall]
    rfl

/-! ## Rows of items -/

@[simp] theorem itemsInOrder_nil : ItemsInOrder [] := by simp [ItemsInOrder]

@[simp] theorem itemsInOrder_cons {item : HclItem} {rest : List HclItem} :
    ItemsInOrder (item :: rest) ↔ item.InOrder ∧ ItemsInOrder rest := by simp [ItemsInOrder]

@[simp] theorem itemsInOrder_append {a b : List HclItem} :
    ItemsInOrder (a ++ b) ↔ ItemsInOrder a ∧ ItemsInOrder b := by
  induction a with
  | nil => simp
  | cons item rest ih => simp [ih, and_assoc]

theorem itemsInOrder_iff {items : List HclItem} :
    ItemsInOrder items ↔ ∀ item ∈ items, item.InOrder := by
  induction items with
  | nil => simp
  | cons item rest ih => simp [ih]

theorem itemsInOrder_flatten {parts : List (List HclItem)} :
    ItemsInOrder parts.flatten ↔ ∀ part ∈ parts, ItemsInOrder part := by
  induction parts with
  | nil => simp
  | cons part parts ih => simp [ih]

end Secp.Worker
