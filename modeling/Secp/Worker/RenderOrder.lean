import Secp.Python.Reordered
import Secp.Worker.BundleBindings

/-!
# The order a bundle is rendered from

Every list of a desired state is sorted again before it is rendered, and an object is read by its keys.
So the files do not depend on the order of either, where the names sorted by are different and what is
printed as text has no order of its own: an object printed as a whole shows its keys in the order they
came in.
-/

namespace Secp.Worker

open Secp.Python Secp.Logic

/-! ## The layout of a desired state -/

/-- What a list is sorted by. -/
inductive SortKey where
  /-- The text of a field. -/
  | text (name : String)
  /-- A field as a number. -/
  | number (name : String)
  /-- The items themselves. -/
  | value

namespace Layouts

@[simp] def ownership : Layout SortKey := .record [("tags", .entries .text)]

@[simp] def zone : Layout SortKey := .record [("name", .text), ("bridge", .text),
  ("nodes", .free .value .text), ("ownership", ownership)]

@[simp] def subnet : Layout SortKey := .record [("cidr", .text), ("gateway", .text)]

@[simp] def vnet : Layout SortKey := .record [("name", .text), ("zone_name", .text),
  ("alias", .text), ("role", .text), ("subnet", subnet), ("ownership", ownership)]

@[simp] def ipSet : Layout SortKey := .record [("name", .text), ("comment", .text),
  ("cidrs", .free .value .text), ("ownership", ownership)]

@[simp] def rule : Layout SortKey := .record [("direction", .text), ("verdict", .text),
  ("comment", .text), ("source", .text), ("dest", .text), ("proto", .text), ("dport", .text)]

@[simp] def securityGroup : Layout SortKey := .record [("name", .text), ("comment", .text),
  ("rules", .free (.number "position") rule), ("ownership", ownership)]

@[simp] def network : Layout SortKey := .record [("zone", zone),
  ("vnets", .free (.text "name") vnet), ("ip_sets", .free (.text "name") ipSet),
  ("security_groups", .free (.text "name") securityGroup)]

@[simp] def disk : Layout SortKey := .record [("slot", .text), ("storage_id", .text)]

@[simp] def nic : Layout SortKey := .record [("vnet_name", .text), ("mac_address", .text),
  ("model", .text), ("index", .text)]

@[simp] def cloudInit : Layout SortKey := .record [("ssh_authorized_keys", .free .value .text),
  ("nameservers", .text), ("search_domain", .text), ("gateway", .text), ("user", .text)]

@[simp] def address : Layout SortKey := .record [("published_address", .text),
  ("probe_address", .text)]

@[simp] def guest : Layout SortKey := .record [("guest_ref", .text), ("name", .text),
  ("node_name", .text), ("template_ref", .text), ("address", address),
  ("disks", .free (.text "slot") disk), ("nics", .free (.number "index") nic),
  ("cloud_init", cloudInit), ("ownership", ownership)]

end Layouts

section
variable [Unicode]

/-- No two items of a list have one key. -/
def distinctBy : SortKey → List Json → Bool
  | .text name, items => decide (items.filterMap fun item => (textAt item name).toOption).Nodup
  | .number name, items => decide (items.filterMap fun item => (intAt item name).toOption).Nodup
  | .value, _ => true

omit [Unicode] in
/-- No number of a list sorted by value stands beside a boolean that equals it. -/
def unmixed : SortKey → List Json → Bool
  | .value, items => items.all fun a => items.all fun b =>
      (sortNumber a).isNone || decide (sortNumber a ≠ sortNumber b) || decide (a = b)
  | _, _ => true

/-- What sorting relies on. -/
def sortable (key : SortKey) (items : List Json) : Bool := distinctBy key items && unmixed key items

/-- A part of the desired state and the same part in another order. -/
abbrev Rearranged (layout : Layout SortKey) (v w : Json) : Prop := Alike sortable layout v w

variable {layout : Layout SortKey} {v w : Json} {key : String}

omit [Unicode] in
/-- The keys that are read of the items. -/
theorem filterMap_key_eq {κ : Type} {read : Json → Except PayloadError κ} {xs : List Json}
    {keyed : List (κ × Json)}
    (h : List.Forall₂ (fun x p => (do pure (← read x, x)) = .ok p) xs keyed) :
    xs.filterMap (fun x => (read x).toOption) = keyed.map Prod.fst := by
  induction h with
  | nil => rfl
  | cons hx _ ih =>
      obtain ⟨k, hk, hp⟩ := except_bind_eq_ok.mp hx
      cases hp
      rw [List.filterMap_cons, hk]
      exact congrArg _ ih

/-- Indexes that hold the same VNets, each in another order. -/
def Indexed (index index' : Dict Str Json) : Prop :=
  ∀ name, Option.Rel (Rearranged Layouts.vnet) (index.get? name) (index'.get? name)

variable {index index' : Dict Str Json}

theorem Indexed.hasKey (h : Indexed index index') (name : Str) :
    index.hasKey name = index'.hasKey name := by
  have hname := h name
  unfold Dict.hasKey
  generalize index.get? name = found, index'.get? name = found' at hname ⊢
  cases hname <;> rfl

variable {guest guest' nic nic' : Json}

variable {cloudInit cloudInit' : Json}

variable {desired desired' profile : Json}

end

/-! ## A small range in two orders -/

end Secp.Worker
