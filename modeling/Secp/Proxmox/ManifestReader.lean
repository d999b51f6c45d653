import Secp.Logic.StateExcept
import Secp.Proxmox.Manifest
import Secp.Python.Payload

/-!
# Reading the manifest payload back

`fromManifestPayload` builds a compiled topology out of a payload, one constructor with its checks for
each record. What is read is the approved desired state, so nothing is compiled again. A value that no
field of the topology can hold, and that the interpreter would let through, is refused here as a
`TypeError`.
-/

namespace Secp.Proxmox

open Secp.Python Secp.Logic

/-! ## Refusals -/

/-- What the reader raises. -/
inductive ReadError where
  /-- `DesiredStateSerializationError`. -/
  | serialization (message : Str)
  /-- A constructor's own refusal. -/
  | construction (raised : Raised)
  /-- A built-in exception of a subscript, a method or a conversion. -/
  | payload (error : PayloadError)
  deriving DecidableEq

abbrev Read (α : Type) := Except ReadError α

instance : MonadLift (Except PayloadError) (Except ReadError) := ⟨Except.mapError .payload⟩

instance : MonadLift (Except Raised) (Except ReadError) := ⟨Except.mapError .construction⟩

/-! ## Values -/

/-- A field that is a text. -/
def textOf : Json → Except PayloadError Str
  | .str s => .ok s
  | _ => .error .typeError

/-- A field that is a text or nothing. -/
def optionalTextOf : Json → Except PayloadError (Option Str)
  | .null => .ok none
  | .str s => .ok (some s)
  | _ => .error .typeError

/-- A field that is an integer or nothing. -/
def optionalIntOf : Json → Except PayloadError (Option Int)
  | .null => .ok none
  | .int n => .ok (some n)
  | _ => .error .typeError

/-- `tuple(value)`, of texts. -/
def textsOf (value : Json) : Except PayloadError (List Str) := do
  (← value.elements).mapM textOf

/-- A member of a closed vocabulary by its value. -/
def memberOf {α : Type} (members : List α) (value : α → Str) : Json → Except PayloadError α
  | .str s =>
      match members.find? fun member => value member = s with
      | some member => .ok member
      | none => .error .valueError
  | _ => .error .valueError

/-- `RangeResourceKind(value)`. -/
def RangeResourceKind.read : Json → Except PayloadError RangeResourceKind :=
  memberOf [.network, .container, .virtualMachine, .lxcContainer, .sdnZone, .vnet, .subnet,
    .firewallGroup, .ipSet, .egressGateway] RangeResourceKind.value

/-- `GuestKind(value)`. -/
def GuestKind.read : Json → Except PayloadError GuestKind := memberOf [.qemu, .lxc] GuestKind.value

/-- `CloneStrategy(value)`. -/
def CloneStrategy.read : Json → Except PayloadError CloneStrategy :=
  memberOf [.full, .linked] CloneStrategy.value

/-- `SegmentRole(value)`. -/
def SegmentRole.read : Json → Except PayloadError SegmentRole :=
  memberOf [.scoring, .attacker, .vulnerable, .sensor] SegmentRole.value

/-- `FirewallVerdict(value)`. -/
def FirewallVerdict.read : Json → Except PayloadError FirewallVerdict :=
  memberOf [.accept, .drop, .reject] FirewallVerdict.value

/-- `FirewallDirection(value)`. -/
def FirewallDirection.read : Json → Except PayloadError FirewallDirection :=
  memberOf [.inbound, .outbound] FirewallDirection.value

section
variable [Unicode]

/-- `str(payload[key])`. -/
def textField (payload : Json) (key : Str) : Except PayloadError Str := do
  pure (← payload.getItem key).text

/-- `int(payload[key])`. -/
def intField (payload : Json) (key : Str) : Except PayloadError Int := do
  (← payload.getItem key).toInt

/-- `bool(payload.get(key, default))`. -/
def boolField (payload : Json) (key : Str) (default : Bool) : Except PayloadError Bool := do
  pure (← payload.getOr key (.bool default)).truthy

/-! ## Records -/

/-- The stamp of a payload, before the failures are gathered into one refusal. -/
def ownershipFields (payload : Json) : Read Ownership := do
  let organizationId ← textField payload (str "organization_id")
  let targetId ← textField payload (str "target_id")
  let rangeId ← textField payload (str "range_id")
  let generation ← intField payload (str "generation")
  let operationGeneration ← intField payload (str "operation_generation")
  let resourceKind ← RangeResourceKind.read (← payload.getItem (str "resource_kind"))
  let teamRef ← optionalTextOf (← payload.getItem (str "team_ref"))
  Ownership.make organizationId targetId rangeId generation operationGeneration resourceKind teamRef

/-- `_ownership_from`. The refusal quotes the exception, which is left out. -/
def ownershipFrom (payload : Json) : Read Ownership :=
  match ownershipFields payload with
  | .ok ownership => .ok ownership
  | .error _ => .error (.serialization (str "malformed ownership payload"))

/-- `FirewallRuleSpec(…)`. -/
def FirewallRuleSpec.make (position : Int) (direction : FirewallDirection) (verdict : FirewallVerdict)
    (comment : Str) (source dest proto dport : Option Str) (enabled : Bool) :
    Except Raised FirewallRuleSpec :=
  if hposition : 0 ≤ position then
    if hcomment : comment ≠ [] then
      .ok ⟨position, direction, verdict, comment, source, dest, proto, dport, enabled, hposition,
        hcomment⟩
    else .error (.model (str ("every firewall rule must carry a comment; an unexplained rule cannot " ++
      "be reviewed")))
  else .error (.model (str "firewall rule position must be non-negative"))

/-- `_rule_from`. -/
def ruleFrom (payload : Json) : Read FirewallRuleSpec := do
  let position ← intField payload (str "position")
  let direction ← FirewallDirection.read (← payload.getItem (str "direction"))
  let verdict ← FirewallVerdict.read (← payload.getItem (str "verdict"))
  let comment ← textField payload (str "comment")
  let source ← optionalTextOf (← payload.getOr (str "source") .null)
  let dest ← optionalTextOf (← payload.getOr (str "dest") .null)
  let proto ← optionalTextOf (← payload.getOr (str "proto") .null)
  let dport ← optionalTextOf (← payload.getOr (str "dport") .null)
  let enabled ← boolField payload (str "enabled") true
  FirewallRuleSpec.make position direction verdict comment source dest proto dport enabled

def diskFrom (payload : Json) : Read DiskSpec := do
  let slot ← textField payload (str "slot")
  let sizeGb ← intField payload (str "size_gb")
  let storageId ← textField payload (str "storage_id")
  let discard ← boolField payload (str "discard") true
  let ssdEmulation ← boolField payload (str "ssd_emulation") false
  DiskSpec.make slot sizeGb storageId discard ssdEmulation

def nicFrom (payload : Json) : Read NicSpec := do
  let index ← intField payload (str "index")
  let vnetName ← textField payload (str "vnet_name")
  let macAddress ← textField payload (str "mac_address")
  let model := (← payload.getOr (str "model") (.str (str "virtio"))).text
  let firewall ← boolField payload (str "firewall") true
  NicSpec.make index vnetName macAddress model firewall

def addressFrom (payload : Json) : Read GuestAddress := do
  let publishedAddress ← textField payload (str "published_address")
  let probeAddress ← optionalTextOf (← payload.getOr (str "probe_address") .null)
  GuestAddress.make publishedAddress probeAddress

def cloudInitFrom (payload : Json) : Read (Option CloudInitSpec) :=
  match payload with
  | .null => pure none
  | payload => do
      let user ← textField payload (str "user")
      let sshAuthorizedKeys ← textsOf (← payload.getOr (str "ssh_authorized_keys") (.arr []))
      let nameservers ← textsOf (← payload.getOr (str "nameservers") (.arr []))
      let searchDomain ← optionalTextOf (← payload.getOr (str "search_domain") .null)
      let gateway ← optionalTextOf (← payload.getOr (str "gateway") .null)
      let cloudInit ← CloudInitSpec.make user sshAuthorizedKeys nameservers searchDomain gateway
      pure (some cloudInit)

/-- `tuple(… for item in payload.get(key, []))`. -/
def recordsFrom {α : Type} (payload : Json) (key : Str) (read : Json → Read α) : Read (List α) := do
  let items ← (← payload.getOr key (.arr [])).elements
  items.mapM read

/-- `_guest_from`. -/
def guestFrom (payload : Json) : Read GuestSpec := do
  let cloudInitPayload ← payload.getOr (str "cloud_init") .null
  let guestRef ← textField payload (str "guest_ref")
  let name ← textField payload (str "name")
  let kind ← GuestKind.read (← payload.getItem (str "kind"))
  let vmid ← intField payload (str "vmid")
  let nodeName ← textField payload (str "node_name")
  let templateRef ← textField payload (str "template_ref")
  let cloneStrategy ← CloneStrategy.read (← payload.getItem (str "clone_strategy"))
  let cpuCores ← intField payload (str "cpu_cores")
  let memoryMb ← intField payload (str "memory_mb")
  let disks ← recordsFrom payload (str "disks") diskFrom
  let nics ← recordsFrom payload (str "nics") nicFrom
  let address ← addressFrom (← payload.getItem (str "address"))
  let ownership ← ownershipFrom (← payload.getItem (str "ownership"))
  let cloudInit ← cloudInitFrom cloudInitPayload
  let startOnDeploy ← boolField payload (str "start_on_deploy") true
  let readiness ← (← payload.getOr (str "readiness_timeout_seconds") (.int 300)).toInt
  GuestSpec.make ⟨guestRef, name, kind, vmid, nodeName, templateRef, cloneStrategy, cpuCores, memoryMb,
    disks, nics, address, ownership, cloudInit, startOnDeploy, readiness⟩

def targetFrom (payload : Json) : Read ProxmoxTargetIdentity := do
  let targetId ← textField payload (str "target_id")
  let clusterName ← textField payload (str "cluster_name")
  let clusterFingerprint ← textField payload (str "cluster_fingerprint")
  let managementCidrs ← textsOf (← payload.getItem (str "management_cidrs"))
  let managementBridges ← textsOf (← payload.getOr (str "management_bridges") (.arr []))
  ProxmoxTargetIdentity.make targetId clusterName clusterFingerprint managementCidrs managementBridges

def zoneFrom (payload : Json) : Read SdnZoneSpec := do
  let name ← textField payload (str "name")
  let bridge ← textField payload (str "bridge")
  let nodes ← textsOf (← payload.getItem (str "nodes"))
  let ownership ← ownershipFrom (← payload.getItem (str "ownership"))
  let mtu ← optionalIntOf (← payload.getOr (str "mtu") .null)
  let zone ← SdnZoneSpec.make name bridge nodes ownership
  pure { zone with mtu := mtu }

def subnetFrom (payload : Json) : Read SubnetSpec := do
  let cidr ← textField payload (str "cidr")
  let gateway ← textField payload (str "gateway")
  let routed ← boolField payload (str "routed") false
  SubnetSpec.make cidr gateway routed

def vnetFrom (payload : Json) : Read VNetSpec := do
  let name ← textField payload (str "name")
  let zoneName ← textField payload (str "zone_name")
  let vlanTag ← intField payload (str "vlan_tag")
  let subnet ← subnetFrom (← payload.getItem (str "subnet"))
  let role ← SegmentRole.read (← payload.getItem (str "role"))
  let ownership ← ownershipFrom (← payload.getItem (str "ownership"))
  let vnetAlias := (← payload.getOr (str "alias") (.str [])).text
  VNetSpec.make name zoneName vlanTag subnet role ownership vnetAlias

def ipSetFrom (payload : Json) : Read IpSetSpec := do
  let name ← textField payload (str "name")
  let cidrs ← textsOf (← payload.getItem (str "cidrs"))
  let ownership ← ownershipFrom (← payload.getItem (str "ownership"))
  let comment := (← payload.getOr (str "comment") (.str [])).text
  IpSetSpec.make name cidrs ownership comment

def securityGroupFrom (payload : Json) : Read SecurityGroupSpec := do
  let name ← textField payload (str "name")
  let rules ← recordsFrom payload (str "rules") ruleFrom
  let ownership ← ownershipFrom (← payload.getItem (str "ownership"))
  let comment := (← payload.getOr (str "comment") (.str [])).text
  SecurityGroupSpec.make name rules ownership comment

/-- `EgressGatewaySpec(…)`. -/
def EgressGatewaySpec.make (vnetName : Str) (allowedDestinations allowedPorts : List Str)
    (ownership : Ownership) (approvalReference : Str) : Except Raised EgressGatewaySpec :=
  if happroved : approvalReference ≠ [] then
    if hne : allowedDestinations ≠ [] then
      if hvalid : ∀ dest ∈ allowedDestinations, (Ip.ipNetwork false dest).isSome = true then
        .ok ⟨vnetName, allowedDestinations, allowedPorts, ownership, approvalReference, happroved, hne,
          hvalid⟩
      else .error .value
    else .error (.model (str "egress must name at least one allowed destination"))
  else .error (.model (str ("egress requires an explicit approval reference; egress that nobody " ++
    "approved is exactly what the default-deny posture exists to prevent")))

def egressFrom (payload : Json) : Read (Option EgressGatewaySpec) :=
  match payload with
  | .null => pure none
  | payload => do
      let vnetName ← textField payload (str "vnet_name")
      let allowedDestinations ← textsOf (← payload.getItem (str "allowed_destinations"))
      let allowedPorts ← textsOf (← payload.getItem (str "allowed_ports"))
      let ownership ← ownershipFrom (← payload.getItem (str "ownership"))
      let approvalReference ← textField payload (str "approval_reference")
      let egress ← EgressGatewaySpec.make vnetName allowedDestinations allowedPorts ownership
        approvalReference
      pure (some egress)

/-- `dict(value)`, of texts by texts. -/
def textDictOf : Json → Except PayloadError (Dict Str Str)
  | .obj fields => fields.mapM fun field => do pure (field.1, ← textOf field.2)
  | _ => .error .typeError

def networkFrom (zone : SdnZoneSpec) (payload : Json) : Read SegregatedNetworkPlan := do
  let vnets ← recordsFrom payload (str "vnets") vnetFrom
  let ipSets ← recordsFrom payload (str "ip_sets") ipSetFrom
  let securityGroups ← recordsFrom payload (str "security_groups") securityGroupFrom
  let egress ← egressFrom (← payload.getOr (str "egress") .null)
  let vnetSecurityGroup ← textDictOf (← payload.getOr (str "vnet_security_group") (.obj []))
  pure ⟨zone, vnets, securityGroups, ipSets, vnetSecurityGroup, egress⟩

/-- `payload[key]`, where only a missing key is turned into a refusal of the reader. -/
def required (payload : Json) (key : Str) : Read Json :=
  match payload.getItem key with
  | .ok value => .ok value
  | .error (.keyError key) =>
      .error (.serialization (str "desired-state payload is missing " ++ strRepr key))
  | .error e => .error (.payload e)

/-- `from_manifest_payload`. -/
def fromManifestPayload (payload : Json) : Read CompiledTopology := do
  if !payload.isObject then
    throw (.serialization (str "desired-state payload must be an object"))
  let version := payload.field (str "desired_state_version")
  if !version.eqInt desiredStateVersion then
    throw (.serialization (str "unsupported desired_state_version " ++ version.reprText ++
      str "; this reader understands " ++ intStr desiredStateVersion))
  let targetPayload ← required payload (str "target")
  let networkPayload ← required payload (str "network")
  let zonePayload ← required networkPayload (str "zone")
  let target ← targetFrom targetPayload
  let zone ← zoneFrom zonePayload
  let network ← networkFrom zone networkPayload
  let ownership ← ownershipFrom (← payload.getItem (str "ownership"))
  let guests ← recordsFrom payload (str "guests") guestFrom
  let allocations ← (← payload.getOr (str "allocations") (.arr [])).elements
  pure ⟨target, ownership, network, guests, allocations⟩

end

end Secp.Proxmox
