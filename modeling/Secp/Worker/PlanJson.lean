import Secp.Logic.StateExcept
import Secp.Python.Payload
import Secp.Worker.Reset

/-!
# The change set of a plan

A `tofu show -json` document becomes a change set for review: of every resource change the address,
mode, type, name, provider, actions and a replacement indicator, sorted by address. Nothing else of the
document goes into it, so two documents that agree there have one change set; and the sort, being
stable, leaves entries of one address in the order in which the document lists them.
-/

namespace Secp.Worker.PlanJson

open Secp.Python Secp.Logic

/-! ## Canonicalizing -/

/-- `PlanCanonicalizationError`, and the `TypeError` of a mode that cannot be looked up in a set. -/
inductive PlanError where
  | canonicalization (message : Str)
  | typeError
  deriving DecidableEq

/-- Whether two refusals are raised as one exception, whatever they say. -/
def PlanError.sameType : PlanError → PlanError → Prop
  | .canonicalization _, .canonicalization _ => True
  | .typeError, .typeError => True
  | _, _ => False

/-- The fields of a resource change that are reviewed. -/
structure ReviewedResource where
  address : Str
  mode : Str
  type : Str
  name : Str
  provider : Str
  actions : List Str
  replace : Bool
  deriving DecidableEq

def changeSetVersion : Str := str "secp-002b-1a/change-set/v2"

def allowedModes : List Str := [str "managed", str "data"]

/-- A value that is a text. -/
def textOf? : Json → Option Str
  | .str s => some s
  | _ => none

/-- A value that is a list of texts. -/
def textsOf? : Json → Option (List Str)
  | .arr items => items.mapM textOf?
  | _ => none

/-- `_is_replace`. -/
def isReplace (actions : List Str) (change : Json) : Bool :=
  (change.field (str "replace_paths")).truthy ||
    decide (actions = [str "delete", str "create"] ∨ actions = [str "create", str "delete"])

/-- A field that has to be a text with something in it. -/
def requireText (value : Json) (message : Str) : Except PlanError Str :=
  match textOf? value with
  | some s => if s.isEmpty then .error (.canonicalization message) else .ok s
  | none => .error (.canonicalization message)

/-- `change["actions"]`, a list of texts. -/
def requireActions (change : Json) : Except PlanError (List Str) :=
  match textsOf? (change.field (str "actions")) with
  | some actions => .ok actions
  | none => .error (.canonicalization (str "resource change actions are malformed"))

/-- `item.get("mode", "managed")`, looked up in the allowed modes. -/
def requireMode (item : Json) : Except PlanError Str :=
  let mode := (item.get? (str "mode")).getD (.str (str "managed"))
  if !mode.hashable then .error .typeError
  else
    match textOf? mode with
    | some s =>
        if s ∈ allowedModes then .ok s
        else .error (.canonicalization (str "unsupported resource mode"))
    | none => .error (.canonicalization (str "unsupported resource mode"))

/-- `item.get("provider_name", "")`, where it is a text. -/
def providerOf (item : Json) : Str := (textOf? (item.field (str "provider_name"))).getD []

/-- One turn of the loop of `canonicalize_plan_json`. -/
def reviewedResource (item : Json) : Except PlanError ReviewedResource := do
  ensure item.isObject (.canonicalization (str "resource_changes entry is not an object"))
  let change := item.field (str "change")
  ensure change.isObject (.canonicalization (str "resource change is missing"))
  let actions ← requireActions change
  let address ← requireText (item.field (str "address")) (str "resource address is missing")
  let type ← requireText (item.field (str "type")) (str "resource type/name is missing")
  let name ← requireText (item.field (str "name")) (str "resource type/name is missing")
  let mode ← requireMode item
  .ok ⟨address, mode, type, name, providerOf item, actions, isReplace actions change⟩

def ReviewedResource.payload (resource : ReviewedResource) : Json :=
  .obj [
    (str "address", .str resource.address),
    (str "mode", .str resource.mode),
    (str "type", .str resource.type),
    (str "name", .str resource.name),
    (str "provider", .str resource.provider),
    (str "actions", .arr (resource.actions.map .str)),
    (str "replace", .bool resource.replace)]

/-- How many resources have each list of actions. -/
def byAction (resources : List ReviewedResource) : Dict Str Nat :=
  resources.foldl (fun counts resource =>
    let key := join [','] resource.actions
    counts.set key ((counts.get? key).getD 0 + 1)) []

/-- The change set of resources in order. -/
def changeSet (kind workspaceHash : Str) (provenance : Dict Str Json)
    (resources : List ReviewedResource) : Json :=
  .obj [
    (str "change_set_version", .str changeSetVersion),
    (str "kind", .str kind),
    (str "workspace_hash", .str workspaceHash),
    (str "provenance", .obj provenance),
    (str "resources", .arr (resources.map ReviewedResource.payload)),
    (str "summary", .obj [
      (str "count", .int resources.length),
      (str "by_action", .obj ((byAction resources).map fun count => (count.1, .int count.2)))])]

/-- `change_set_hash`. -/
def changeSetHash (changeSet : Json) : Str := contentHash changeSet

/-! ## What an entry has to be -/

theorem textOf?_eq_some_iff {value : Json} {s : Str} : textOf? value = some s ↔ value = .str s := by
  cases value <;> simp [textOf?]

theorem textsOf?_eq_some_iff {value : Json} {texts : List Str} :
    textsOf? value = some texts ↔ value = .arr (texts.map .str) := by
  cases value with
  | arr items =>
      show items.mapM textOf? = some texts ↔ _
      rw [Json.arr.injEq]
      induction items generalizing texts with
      | nil => cases texts <;> simp
      | cons item rest ih =>
          rw [List.mapM_cons]
          cases texts with
          | nil => cases textOf? item <;> cases rest.mapM textOf? <;> simp
          | cons text texts =>
              rw [List.map_cons, List.cons.injEq, ← textOf?_eq_some_iff, ← ih]
              cases textOf? item <;> cases rest.mapM textOf? <;> simp
  | _ => simp [textsOf?]

/-- `item.get("mode", "managed")`. -/
def modeOf (item : Json) : Json := (item.get? (str "mode")).getD (.str (str "managed"))

/-- `change["actions"]` of an entry. -/
def actionsOf (item : Json) : Json := (item.field (str "change")).field (str "actions")

/-- What an entry says of the resource it is reviewed as. -/
structure ReviewedAs (item : Json) (resource : ReviewedResource) : Prop where
  object : item.isObject = true
  change : (item.field (str "change")).isObject = true
  actions : actionsOf item = .arr (resource.actions.map .str)
  address : item.field (str "address") = .str resource.address
  address_ne : resource.address ≠ []
  type : item.field (str "type") = .str resource.type
  type_ne : resource.type ≠ []
  name : item.field (str "name") = .str resource.name
  name_ne : resource.name ≠ []
  mode : modeOf item = .str resource.mode
  mode_mem : resource.mode ∈ allowedModes
  provider : providerOf item = resource.provider
  replace : isReplace resource.actions (item.field (str "change")) = resource.replace

/-- One change set, or refusals of one type. -/
def SameOutcome {α : Type} : Except PlanError α → Except PlanError α → Prop
  | .ok a, .ok b => a = b
  | .error e, .error e' => e.sameType e'
  | _, _ => False

theorem SameOutcome.refl {α : Type} (result : Except PlanError α) : SameOutcome result result := by
  cases result with
  | ok a => rfl
  | error e => cases e <;> trivial

/-- Programs that start with one outcome and go on alike have one outcome. -/
theorem SameOutcome.bind {α β : Type} {c c' : Except PlanError α} {f f' : α → Except PlanError β}
    (h : SameOutcome c c') (hf : ∀ a, SameOutcome (f a) (f' a)) :
    SameOutcome (c >>= f) (c' >>= f') := by
  cases c with
  | error e =>
      cases c' with
      | error e' => exact h
      | ok a => exact h.elim
  | ok a =>
      cases c' with
      | error e' => exact h.elim
      | ok b =>
          obtain rfl : a = b := h
          exact hf a

section
variable {item item' showJson showJson' : Json} {items items' : List Json}

/-- The replacement indicator of an entry. -/
def replaceOf (item : Json) : Bool :=
  isReplace ((textsOf? (actionsOf item)).getD []) (item.field (str "change"))

/-- Two entries are reviewed alike, addresses apart. -/
structure ReviewedAlike (item item' : Json) : Prop where
  type : item.field (str "type") = item'.field (str "type")
  name : item.field (str "name") = item'.field (str "name")
  mode : modeOf item = modeOf item'
  provider : providerOf item = providerOf item'
  actions : actionsOf item = actionsOf item'
  replace : replaceOf item = replaceOf item'

theorem ReviewedAs.replaceOf {resource : ReviewedResource} (h : ReviewedAs item resource) :
    replaceOf item = resource.replace := by
  unfold PlanJson.replaceOf
  rw [textsOf?_eq_some_iff.mpr h.actions]
  exact h.replace

/-- Entries that pass are one resource when they have one address and are reviewed alike. -/
theorem ReviewedAs.eq_iff {resource resource' : ReviewedResource} (h : ReviewedAs item resource)
    (h' : ReviewedAs item' resource') : resource = resource' ↔
      item.field (str "address") = item'.field (str "address") ∧ ReviewedAlike item item' := by
  constructor
  · rintro rfl
    exact ⟨h.address.trans h'.address.symm, h.type.trans h'.type.symm, h.name.trans h'.name.symm,
      h.mode.trans h'.mode.symm, h.provider.trans h'.provider.symm,
      h.actions.trans h'.actions.symm, h.replaceOf.trans h'.replaceOf.symm⟩
  · rintro ⟨haddress, halike⟩
    have hactions := h.actions.symm.trans (halike.actions.trans h'.actions)
    rw [← textsOf?_eq_some_iff, textsOf?_eq_some_iff.mpr rfl, Option.some.injEq] at hactions
    cases resource
    cases resource'
    rw [ReviewedResource.mk.injEq]
    exact ⟨Json.str.inj (h.address.symm.trans (haddress.trans h'.address)),
      Json.str.inj (h.mode.symm.trans (halike.mode.trans h'.mode)),
      Json.str.inj (h.type.symm.trans (halike.type.trans h'.type)),
      Json.str.inj (h.name.symm.trans (halike.name.trans h'.name)),
      h.provider.symm.trans (halike.provider.trans h'.provider), hactions,
      h.replaceOf.symm.trans (halike.replace.trans h'.replaceOf)⟩

/-- What an entry is reviewed as, where it passes. -/
def resourceOf (item : Json) : ReviewedResource :=
  (reviewedResource item).toOption.getD ⟨[], [], [], [], [], [], false⟩

end

/-! ## Two plans -/

def samplePlan (items : List Json) : Json := .obj [(str "resource_changes", .arr items)]

end Secp.Worker.PlanJson
