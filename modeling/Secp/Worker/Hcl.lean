import Secp.Python.Payload

/-!
# Generated configuration

The tree a renderer builds and the only place where it becomes text. Attributes of one block are
aligned by the width its author chose; nested blocks are indented by two. A text is quoted when it is
printed; `raw` is what a renderer interpolates without quoting it.
-/

namespace Secp.Worker

open Secp.Python

/-- `_s`: a string literal with the two escapes that matter. -/
def hclText (s : Str) : Str :=
  ['"'] ++ s.flatMap (fun c =>
    if c = '\\' then ['\\', '\\'] else if c = '"' then ['\\', '"'] else [c]) ++ ['"']

inductive HclScalar where
  /-- A string literal. -/
  | text (s : Str)
  /-- What stands between two quotes as it is. -/
  | raw (s : Str)
  | number (n : Int)
  | flag (b : Bool)
  /-- An attribute of another resource. -/
  | resource (type label name : Str)
  /-- A type, a variable or a local. -/
  | symbol (s : Str)
  deriving DecidableEq

inductive HclValue where
  | scalar (value : HclScalar)
  | list (items : List Str)
  /-- An object on one line. -/
  | inline (fields : List (Str × HclScalar))
  deriving DecidableEq

inductive HclItem where
  | comment (text : Str)
  | blank
  | attribute (width : Nat) (key : Str) (value : HclValue)
  | block (keyword : Str) (labels : List Str) (body : List HclItem)
  /-- An object over several lines. -/
  | object (key : Str) (body : List HclItem)

/-! ## Printing -/

def HclScalar.print : HclScalar → Str
  | .text s => hclText s
  | .raw s => ['"'] ++ s ++ ['"']
  | .number n => intStr n
  | .flag b => if b then str "true" else str "false"
  | .resource type label name => type ++ str "." ++ label ++ str "." ++ name
  | .symbol s => s

def HclValue.print : HclValue → Str
  | .scalar value => value.print
  | .list items => ['['] ++ join (str ", ") (items.map hclText) ++ [']']
  | .inline fields =>
      str "\x7b " ++ join (str ", ") (fields.map fun field =>
        field.1 ++ str " = " ++ field.2.print) ++ str " \x7d"

def indentation (depth : Nat) : Str := List.replicate (2 * depth) ' '

mutual

def HclItem.print (depth : Nat) : HclItem → Str
  | .comment text => indentation depth ++ str "# " ++ text ++ ['\n']
  | .blank => ['\n']
  | .attribute width key value =>
      indentation depth ++ key ++ List.replicate (width - key.length) ' ' ++ str " = " ++
        value.print ++ ['\n']
  | .block keyword labels body =>
      indentation depth ++ keyword ++
        labels.flatMap (fun label => str " \"" ++ label ++ ['"']) ++ str " \x7b\n" ++
        printItems (depth + 1) body ++ indentation depth ++ str "\x7d\n"
  | .object key body =>
      indentation depth ++ key ++ str " = \x7b\n" ++ printItems (depth + 1) body ++
        indentation depth ++ str "\x7d\n"

def printItems (depth : Nat) : List HclItem → Str
  | [] => []
  | item :: rest => item.print depth ++ printItems depth rest

end

/-! ## What a tree says -/

mutual

/-- Every attribute of an item, at any depth. -/
def HclItem.attributes : HclItem → List (Str × HclValue)
  | .attribute _ key value => [(key, value)]
  | .block _ _ body => attributesOf body
  | .object _ body => attributesOf body
  | _ => []

def attributesOf : List HclItem → List (Str × HclValue)
  | [] => []
  | item :: rest => item.attributes ++ attributesOf rest

end

@[simp] theorem attributesOf_nil : attributesOf [] = [] := by simp [attributesOf]

@[simp] theorem attributesOf_cons (item : HclItem) (rest : List HclItem) :
    attributesOf (item :: rest) = item.attributes ++ attributesOf rest := by
  simp [attributesOf]

@[simp] theorem attributesOf_append (a b : List HclItem) :
    attributesOf (a ++ b) = attributesOf a ++ attributesOf b := by
  induction a with
  | nil => rfl
  | cons item rest ih => rw [List.cons_append, attributesOf_cons, attributesOf_cons, ih,
      List.append_assoc]

theorem mem_attributesOf {items : List HclItem} {a : Str × HclValue} :
    a ∈ attributesOf items ↔ ∃ item ∈ items, a ∈ item.attributes := by
  induction items with
  | nil => simp
  | cons item rest ih => simp [ih]

/-- The scalars of a value. -/
def HclValue.scalars : HclValue → List HclScalar
  | .scalar value => [value]
  | .list items => items.map .text
  | .inline fields => fields.map Prod.snd

/-- Every attribute of the items, at any depth, has the property. -/
def EveryAttribute (P : Str → HclValue → Prop) (items : List HclItem) : Prop :=
  ∀ a ∈ attributesOf items, P a.1 a.2

section
variable {P : Str → HclValue → Prop} {items rest : List HclItem}

@[simp] theorem everyAttribute_nil : EveryAttribute P [] := by simp [EveryAttribute]

@[simp] theorem everyAttribute_append :
    EveryAttribute P (items ++ rest) ↔ EveryAttribute P items ∧ EveryAttribute P rest := by
  simp [EveryAttribute, or_imp, forall_and]

theorem everyAttribute_ite {c : Prop} [Decidable c] :
    EveryAttribute P (if c then items else rest) ↔
      (c → EveryAttribute P items) ∧ (¬c → EveryAttribute P rest) := by
  split <;> simp [*]

theorem everyAttribute_flatten {parts : List (List HclItem)} :
    EveryAttribute P parts.flatten ↔ ∀ part ∈ parts, EveryAttribute P part := by
  induction parts with
  | nil => simp
  | cons part parts ih => simp [ih]

theorem everyAttribute_iff : EveryAttribute P items ↔ ∀ item ∈ items, EveryAttribute P [item] := by
  simp only [EveryAttribute, mem_attributesOf, List.mem_singleton, exists_eq_left]
  constructor
  · intro h item hitem a ha
    exact h a ⟨item, hitem, ha⟩
  · rintro h a ⟨item, hitem, ha⟩
    exact h item hitem a ha

@[simp] theorem everyAttribute_comment {text : Str} :
    EveryAttribute P (.comment text :: rest) ↔ EveryAttribute P rest := by
  simp [EveryAttribute, HclItem.attributes]

@[simp] theorem everyAttribute_blank :
    EveryAttribute P (.blank :: rest) ↔ EveryAttribute P rest := by
  simp [EveryAttribute, HclItem.attributes]

@[simp] theorem everyAttribute_attribute {width : Nat} {key : Str} {value : HclValue} :
    EveryAttribute P (.attribute width key value :: rest) ↔
      P key value ∧ EveryAttribute P rest := by
  simp [EveryAttribute, HclItem.attributes]

@[simp] theorem everyAttribute_block {keyword : Str} {labels : List Str} :
    EveryAttribute P (.block keyword labels items :: rest) ↔
      EveryAttribute P items ∧ EveryAttribute P rest := by
  simp [EveryAttribute, HclItem.attributes, or_imp, forall_and]

@[simp] theorem everyAttribute_object {key : Str} :
    EveryAttribute P (.object key items :: rest) ↔
      EveryAttribute P items ∧ EveryAttribute P rest := by
  simp [EveryAttribute, HclItem.attributes, or_imp, forall_and]

end

/-! ## Resources -/

/-- A `resource` block. -/
structure Resource where
  type : Str
  label : Str
  body : List HclItem

def resourceOf : HclItem → Option Resource
  | .block keyword [type, label] body =>
      if keyword = str "resource" then some ⟨type, label, body⟩ else none
  | _ => none

/-- The resources a file declares. -/
def resourcesOf (items : List HclItem) : List Resource := items.filterMap resourceOf

theorem resourceOf_eq_some {item : HclItem} {r : Resource} (h : resourceOf item = some r) :
    item = .block (str "resource") [r.type, r.label] r.body := by
  unfold resourceOf at h
  split at h
  · split at h
    · rename_i hkeyword
      cases h
      rw [hkeyword]
    · cases h
  · cases h

/-- What every attribute of a file has, the attributes of its resources have. -/
theorem EveryAttribute.resource {P : Str → HclValue → Prop} {items : List HclItem} {r : Resource}
    (h : EveryAttribute P items) (hr : r ∈ resourcesOf items) : EveryAttribute P r.body := by
  obtain ⟨item, hitem, hr⟩ := List.mem_filterMap.mp hr
  have hbody := everyAttribute_iff.mp h item hitem
  rw [resourceOf_eq_some hr] at hbody
  exact (everyAttribute_block.mp hbody).1

end Secp.Worker
