import Secp.Proxmox.Ipam

/-!
# What the provider is observed to hold

The independent observation a deployment is verified against and a teardown is judged by. An
unread field is `none`, which is not an empty one. Ownership is read back from the tags of the live
object, never from its name.
-/

namespace Secp.Worker

open Secp.Python Secp.Proxmox

structure ObservedDisk where
  slot : Str
  sizeGb : Option Int
  storageId : Option Str

structure ObservedGuest where
  vmid : Int
  name : Option Str := none
  nodeName : Option Str := none
  kind : Option Str := none
  poweredOn : Option Bool := none
  ready : Option Bool := none
  disks : List ObservedDisk := []
  macs : List Str := []
  bridges : List Str := []
  tags : Option (Dict Str Str) := none

structure ObservedVNet where
  name : Str
  zone : Option Str := none
  vlanTag : Option Int := none
  cidr : Option Str := none

structure ObservedInfrastructure where
  reachable : Bool
  guests : List ObservedGuest := []
  zones : List Str := []
  vnets : List ObservedVNet := []
  securityGroups : List Str := []
  ipSets : List Str := []
  tofuStateAddresses : Option (List Str) := none
  observedAddresses : Option (List Str) := none

/-- Who an observed object belongs to. -/
inductive ObjectProvenance where
  | secpOwned
  | secpForeignScope
  | untagged
  | unreadable
  deriving DecidableEq

def ObjectProvenance.value : ObjectProvenance → Str
  | .secpOwned => str "secp_owned"
  | .secpForeignScope => str "secp_foreign_scope"
  | .untagged => str "untagged"
  | .unreadable => str "unreadable"

/-- The tags an ownership stamp needs before it is read at all. -/
def requiredTags : List Str :=
  [str "secp.org", str "secp.target", str "secp.range", str "secp.generation"]

/-- `is_owned_by_secp`: the tags alone decide. -/
def isOwnedBySecp [Unicode] (observedTags : Option (Dict Str Str)) (expected : Ownership) :
    ObjectProvenance :=
  match observedTags with
  | none | some [] => .untagged
  | some tags =>
      if requiredTags.any fun key => !tags.hasKey key then
        if tags.any fun tag => startsWith tag.1 (str "secp.") then .unreadable else .untagged
      else
        match (tags.get? (str "secp.generation")).bind intOf with
        | none => .unreadable
        | some generation =>
            if tags.get? (str "secp.org") = some expected.organizationId ∧
                tags.get? (str "secp.target") = some expected.targetId ∧
                tags.get? (str "secp.range") = some expected.rangeId ∧
                generation = expected.generation ∧
                tags.get? (str "secp.team") = expected.teamRef then .secpOwned
            else .secpForeignScope

end Secp.Worker
