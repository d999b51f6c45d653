import Secp.Python.Collections
import Secp.Python.IpaddressText
import Secp.Python.Json

/-!
# The Proxmox desired-state model

The data the compilers produce and consume: ownership stamps, what discovery observed about a
target, network, guest and firewall desired state, and the compiled topology. A value whose
constructor checks something in the source is a structure here with that check as a field, and
its `make` is the constructor: it either builds the value or raises what the source raises.
-/

namespace Secp.Proxmox

open Secp.Python

/-! ## Refusals -/

/-- One named reason the plan cannot be compiled. -/
structure MissingPrerequisite where
  reasonId : Str
  observation : Str
  detail : Str
  reasonId_ne : reasonId ≠ []
  observation_ne : observation ≠ []
  deriving DecidableEq

/-- The exceptions the modelled code raises. -/
inductive Raised where
  /-- `AllocationBlocked`: an observation was never collected. -/
  | blocked (prerequisite : MissingPrerequisite)
  /-- `ProxmoxModelError` and its subclass `AllocationError`. -/
  | model (message : Str)
  /-- A `ValueError` of the standard library. -/
  | value
  /-- An `IndexError` or a `KeyError`. -/
  | lookup
  deriving DecidableEq

/-- `AllocationBlocked(MissingPrerequisite(…))`, or the refusal to build the prerequisite. -/
def Raised.blockedOn (reasonId observation detail : Str) : Raised :=
  if h : reasonId ≠ [] ∧ observation ≠ [] then .blocked ⟨reasonId, observation, detail, h.1, h.2⟩
  else .model (str "a missing prerequisite must name a reason id and observation")

/-- Raise with a message unless the condition holds. -/
def require (condition : Bool) (message : Str) : Except Raised Unit :=
  if condition then .ok () else .error (.model message)

/-- The value of a standard-library reader, or the `ValueError` it raises. -/
def orValueError {α : Type} : Option α → Except Raised α
  | some a => .ok a
  | none => .error .value

@[simp] theorem orValueError_eq_ok {α : Type} {o : Option α} {a : α} :
    orValueError o = .ok a ↔ o = some a := by
  cases o <;> simp [orValueError]

@[simp] theorem require_eq_ok {condition : Bool} {message : Str} {u : Unit} :
    require condition message = .ok u ↔ condition = true := by
  cases condition <;> simp [require]

/-- A closed refusal to compile, naming every missing prerequisite at once. -/
structure BlockedPlan where
  missing : List MissingPrerequisite
  missing_ne : missing ≠ []

/-! ## Vocabulary -/

def vmidMin : Int := 100

def vmidMax : Int := 999999999

def vlanMin : Int := 2

def vlanMax : Int := 4094

inductive RangeResourceKind where
  | network
  | container
  | virtualMachine
  | lxcContainer
  | sdnZone
  | vnet
  | subnet
  | firewallGroup
  | ipSet
  | egressGateway
  deriving DecidableEq, Repr

def RangeResourceKind.value : RangeResourceKind → Str
  | .network => str "network"
  | .container => str "container"
  | .virtualMachine => str "virtual_machine"
  | .lxcContainer => str "lxc_container"
  | .sdnZone => str "sdn_zone"
  | .vnet => str "vnet"
  | .subnet => str "subnet"
  | .firewallGroup => str "firewall_group"
  | .ipSet => str "ip_set"
  | .egressGateway => str "egress_gateway"

inductive GuestKind where
  | qemu
  | lxc
  deriving DecidableEq, Repr

def GuestKind.value : GuestKind → Str
  | .qemu => str "qemu"
  | .lxc => str "lxc"

inductive CloneStrategy where
  | full
  | linked
  deriving DecidableEq, Repr

def CloneStrategy.value : CloneStrategy → Str
  | .full => str "full"
  | .linked => str "linked"

inductive SegmentRole where
  | scoring
  | attacker
  | vulnerable
  | sensor
  deriving DecidableEq, Repr

def SegmentRole.value : SegmentRole → Str
  | .scoring => str "scoring"
  | .attacker => str "attacker"
  | .vulnerable => str "vulnerable"
  | .sensor => str "sensor"

inductive FirewallVerdict where
  | accept
  | drop
  | reject
  deriving DecidableEq, Repr

def FirewallVerdict.value : FirewallVerdict → Str
  | .accept => str "ACCEPT"
  | .drop => str "DROP"
  | .reject => str "REJECT"

inductive FirewallDirection where
  | inbound
  | outbound
  deriving DecidableEq, Repr

def FirewallDirection.value : FirewallDirection → Str
  | .inbound => str "IN"
  | .outbound => str "OUT"

/-- `^[a-z][a-z0-9]{0,7}$`, the names SDN zones and VNets may have. -/
def isSdnName (s : Str) : Bool :=
  endsAt (fun
    | c :: rest =>
        isAsciiLower c && rest.length ≤ 7 && rest.all fun c => isAsciiLower c || isAsciiDigit c
    | [] => false) s

/-- `^[a-z]([a-z0-9-]{0,61}[a-z0-9])?$`, the names guests may have. -/
def isGuestName (s : Str) : Bool :=
  endsAt (fun
    | c :: rest =>
        isAsciiLower c && rest.length ≤ 62 &&
          (rest.all fun c => isAsciiLower c || isAsciiDigit c || c = '-') &&
          rest.getLast? ≠ some '-'
    | [] => false) s

/-- `^[A-Za-z][A-Za-z0-9_.-]{0,26}$`, the names firewall objects may have. -/
def isFirewallName (s : Str) : Bool :=
  endsAt (fun
    | c :: rest =>
        (isAsciiLower c || isAsciiUpper c) && rest.length ≤ 26 &&
          rest.all fun c => isAsciiLower c || isAsciiUpper c || isAsciiDigit c ||
            c = '_' || c = '.' || c = '-'
    | [] => false) s

/-- `^([0-9A-F]{2}:){5}[0-9A-F]{2}$`. -/
def isMac (s : Str) : Bool :=
  let upperHex := fun c => isAsciiDigit c || (65 ≤ c.toNat && c.toNat ≤ 70)
  endsAt (fun s =>
    let octets := s.splitOn ':'
    octets.length = 6 && octets.all fun octet => octet.length = 2 && octet.all upperHex) s

/-! ## Ownership -/

/-- The stamp every generated object carries. -/
structure Ownership where
  organizationId : Str
  targetId : Str
  rangeId : Str
  generation : Int
  operationGeneration : Int
  resourceKind : RangeResourceKind
  teamRef : Option Str
  organizationId_ne : organizationId ≠ []
  targetId_ne : targetId ≠ []
  rangeId_ne : rangeId ≠ []
  generations_nonneg : 0 ≤ generation ∧ 0 ≤ operationGeneration
  deriving DecidableEq

def Ownership.make (organizationId targetId rangeId : Str) (generation operationGeneration : Int)
    (resourceKind : RangeResourceKind) (teamRef : Option Str) : Except Raised Ownership :=
  if horg : organizationId = [] then
    .error (.model (str "ownership.organization_id must be a non-empty string"))
  else if htarget : targetId = [] then
    .error (.model (str "ownership.target_id must be a non-empty string"))
  else if hrange : rangeId = [] then
    .error (.model (str "ownership.range_id must be a non-empty string"))
  else if hgen : 0 ≤ generation ∧ 0 ≤ operationGeneration then
    .ok ⟨organizationId, targetId, rangeId, generation, operationGeneration, resourceKind, teamRef,
      horg, htarget, hrange, hgen⟩
  else .error (.model (str "ownership generations must be non-negative"))

/-- The scope identifiers are allocated within: organization, target, range, team, generation. -/
abbrev Scope := Str × Str × Str × Str × Int

instance instDecidableEqScope : DecidableEq Scope := inferInstance

def Ownership.scopeKey (o : Ownership) : Scope :=
  (o.organizationId, o.targetId, o.rangeId, o.teamRef.getD [], o.generation)

/-- The stamp as flat tags in key order. -/
def Ownership.asTags (o : Ownership) : Dict Str Str :=
  let tags := [
    (str "secp.org", o.organizationId),
    (str "secp.target", o.targetId),
    (str "secp.range", o.rangeId),
    (str "secp.generation", intStr o.generation),
    (str "secp.operation_generation", intStr o.operationGeneration),
    (str "secp.kind", o.resourceKind.value)]
  sortedBy Prod.fst (match o.teamRef with
    | some team => tags ++ [(str "secp.team", team)]
    | none => tags)

/-- What a successful construction keeps. -/
theorem Ownership.make_eq_ok {org target range : Str} {gen opgen : Int} {kind : RangeResourceKind}
    {team : Option Str} {o : Ownership}
    (h : Ownership.make org target range gen opgen kind team = .ok o) :
    o.organizationId = org ∧ o.targetId = target ∧ o.rangeId = range ∧ o.generation = gen ∧
      o.operationGeneration = opgen ∧ o.resourceKind = kind ∧ o.teamRef = team := by
  unfold Ownership.make at h
  split at h
  · cases h
  · split at h
    · cases h
    · split at h
      · cases h
      · split at h
        · cases h
          exact ⟨rfl, rfl, rfl, rfl, rfl, rfl, rfl⟩
        · cases h

/-! ## What discovery observed -/

structure ProxmoxTargetIdentity where
  targetId : Str
  clusterName : Str
  clusterFingerprint : Str
  managementCidrs : List Str
  managementBridges : List Str
  managementCidrs_ne : managementCidrs ≠ []
  managementCidrs_valid : ∀ cidr ∈ managementCidrs, (Ip.ipNetwork true cidr).isSome = true
  deriving DecidableEq

def ProxmoxTargetIdentity.make (targetId clusterName clusterFingerprint : Str)
    (managementCidrs managementBridges : List Str) : Except Raised ProxmoxTargetIdentity :=
  if hne : managementCidrs ≠ [] then
    if hvalid : ∀ cidr ∈ managementCidrs, (Ip.ipNetwork true cidr).isSome = true then
      .ok ⟨targetId, clusterName, clusterFingerprint, managementCidrs, managementBridges, hne, hvalid⟩
    else .error .value
  else .error (.model (str ("target identity must declare at least one management CIDR; without it " ++
    "the compiler cannot prove scenario segments are isolated from the management plane")))

structure StorageObservation where
  storageId : Str
  contentTypes : List Str
  availableBytes : Option Int
  shared : Option Bool
  deriving DecidableEq

structure NodeObservation where
  nodeName : Str
  online : Bool
  cpuCoresTotal : Option Int
  memoryBytesTotal : Option Int
  storages : List StorageObservation
  bridges : List Str
  deriving DecidableEq

structure TemplateObservation where
  templateRef : Str
  vmid : Int
  nodeName : Str
  guestKind : GuestKind
  deriving DecidableEq

/-- Everything discovery proved about the target; `none` means not collected. -/
structure TargetObservation where
  identity : ProxmoxTargetIdentity
  nodes : List NodeObservation
  templates : List TemplateObservation
  sdnSupported : Option Bool
  firewallSupported : Option Bool
  vlanTagsInUse : Option (List Int)
  vmidsInUse : Option (List Int)
  macsInUse : Option (List Str)
  subnetsInUse : Option (List Str)
  sdnNamesInUse : Option (List Str)
  firewallNamesInUse : Option (List Str)
  deriving DecidableEq

def TargetObservation.node (o : TargetObservation) (nodeName : Str) : Option NodeObservation :=
  o.nodes.find? fun node => node.nodeName = nodeName

def TargetObservation.onlineNodes (o : TargetObservation) : List NodeObservation :=
  o.nodes.filter fun node => node.online

/-! ## Network desired state -/

structure SdnZoneSpec where
  name : Str
  bridge : Str
  nodes : List Str
  ownership : Ownership
  mtu : Option Int
  name_valid : isSdnName name = true
  nodes_ne : nodes ≠ []
  deriving DecidableEq

/-- Whether the texts are a network without host bits and an address inside it. -/
def gatewayInside (cidr gateway : Str) : Bool :=
  match Ip.ipNetwork true cidr, Ip.ipAddress gateway with
  | some network, some address => network.contains address
  | _, _ => false

structure SubnetSpec where
  cidr : Str
  gateway : Str
  routed : Bool
  gateway_inside : gatewayInside cidr gateway = true
  deriving DecidableEq

/-- The parsed network. -/
def SubnetSpec.network (s : SubnetSpec) : Except Raised Ip.Network :=
  orValueError (Ip.ipNetwork true s.cidr)

/-- An address lies in the subnet. -/
def SubnetSpec.Contains (s : SubnetSpec) (a : Ip.Address) : Prop :=
  ∃ network, Ip.ipNetwork true s.cidr = some network ∧ a ∈ network

structure VNetSpec where
  name : Str
  zoneName : Str
  vlanTag : Int
  subnet : SubnetSpec
  role : SegmentRole
  ownership : Ownership
  vnetAlias : Str
  name_valid : isSdnName name = true
  vlanTag_bounds : vlanMin ≤ vlanTag ∧ vlanTag ≤ vlanMax
  deriving DecidableEq

structure NicSpec where
  index : Int
  vnetName : Str
  macAddress : Str
  model : Str
  firewall : Bool
  index_nonneg : 0 ≤ index
  macAddress_valid : isMac macAddress = true
  deriving DecidableEq

structure GuestAddress where
  publishedAddress : Str
  probeAddress : Option Str
  publishedAddress_valid : (Ip.ipAddress publishedAddress).isSome = true
  probeAddress_valid : ∀ probe ∈ probeAddress, (Ip.ipAddress probe).isSome = true
  deriving DecidableEq

/-! ## Guest desired state -/

structure DiskSpec where
  slot : Str
  sizeGb : Int
  storageId : Str
  discard : Bool
  ssdEmulation : Bool
  sizeGb_pos : 0 < sizeGb
  deriving DecidableEq

/-- Whether cloud-init accepts a key: no private material, and an OpenSSH public-key prefix. -/
def isPublicKey (key : Str) : Bool :=
  !contains (str "PRIVATE KEY") key &&
    (startsWith key (str "ssh-") || startsWith key (str "ecdsa-") || startsWith key (str "sk-"))

structure CloudInitSpec where
  user : Str
  sshAuthorizedKeys : List Str
  nameservers : List Str
  searchDomain : Option Str
  gateway : Option Str
  sshAuthorizedKeys_public : ∀ key ∈ sshAuthorizedKeys, isPublicKey key = true
  deriving DecidableEq

structure GuestSpec where
  guestRef : Str
  name : Str
  kind : GuestKind
  vmid : Int
  nodeName : Str
  templateRef : Str
  cloneStrategy : CloneStrategy
  cpuCores : Int
  memoryMb : Int
  disks : List DiskSpec
  nics : List NicSpec
  address : GuestAddress
  ownership : Ownership
  cloudInit : Option CloudInitSpec
  startOnDeploy : Bool
  readinessTimeoutSeconds : Int
  name_valid : isGuestName name = true
  vmid_bounds : vmidMin ≤ vmid ∧ vmid ≤ vmidMax
  resources_pos : 0 < cpuCores ∧ 0 < memoryMb
  nics_ne : nics ≠ []
  nics_nodup : (nics.map NicSpec.index).Nodup
  deriving DecidableEq

/-! ## Firewall desired state -/

structure IpSetSpec where
  name : Str
  cidrs : List Str
  ownership : Ownership
  comment : Str
  name_valid : isFirewallName name = true
  cidrs_valid : ∀ cidr ∈ cidrs, (Ip.ipNetwork false cidr).isSome = true
  deriving DecidableEq

structure FirewallRuleSpec where
  position : Int
  direction : FirewallDirection
  verdict : FirewallVerdict
  comment : Str
  source : Option Str
  dest : Option Str
  proto : Option Str
  dport : Option Str
  enabled : Bool
  position_nonneg : 0 ≤ position
  comment_ne : comment ≠ []
  deriving DecidableEq

structure SecurityGroupSpec where
  name : Str
  rules : List FirewallRuleSpec
  ownership : Ownership
  comment : Str
  name_valid : isFirewallName name = true
  positions_nodup : (rules.map FirewallRuleSpec.position).Nodup
  deriving DecidableEq

def SecurityGroupSpec.orderedRules (g : SecurityGroupSpec) : List FirewallRuleSpec :=
  g.rules.insertionSort fun a b => a.position ≤ b.position

/-- The last rule of each direction is a catch-all drop or reject. -/
def SecurityGroupSpec.defaultPolicyIsDeny (g : SecurityGroupSpec) : Bool :=
  [FirewallDirection.inbound, .outbound].all fun direction =>
    match (g.orderedRules.filter fun rule => rule.direction = direction).getLast? with
    | none => false
    | some last =>
        last.source.isNone && last.dest.isNone && last.dport.isNone &&
          (last.verdict = .drop || last.verdict = .reject)

structure EgressGatewaySpec where
  vnetName : Str
  allowedDestinations : List Str
  allowedPorts : List Str
  ownership : Ownership
  approvalReference : Str
  approvalReference_ne : approvalReference ≠ []
  allowedDestinations_ne : allowedDestinations ≠ []
  allowedDestinations_valid : ∀ dest ∈ allowedDestinations, (Ip.ipNetwork false dest).isSome = true
  deriving DecidableEq

/-! ## The compiled result -/

structure SegregatedNetworkPlan where
  zone : SdnZoneSpec
  vnets : List VNetSpec
  securityGroups : List SecurityGroupSpec
  ipSets : List IpSetSpec
  vnetSecurityGroup : Dict Str Str
  egress : Option EgressGatewaySpec
  deriving DecidableEq

def SegregatedNetworkPlan.vnet (plan : SegregatedNetworkPlan) (name : Str) : Option VNetSpec :=
  plan.vnets.find? fun vnet => vnet.name = name

def SegregatedNetworkPlan.vnetsForTeam (plan : SegregatedNetworkPlan) (teamRef : Str) :
    List VNetSpec :=
  plan.vnets.filter fun vnet => vnet.ownership.teamRef = some teamRef

/-- The teams of the plan's VNets, in order. -/
def SegregatedNetworkPlan.teamRefs (plan : SegregatedNetworkPlan) : List Str :=
  sortedBy id (plan.vnets.filterMap fun vnet => vnet.ownership.teamRef).dedup

/-- A complete desired state for one range generation. -/
structure CompiledTopology where
  target : ProxmoxTargetIdentity
  ownership : Ownership
  network : SegregatedNetworkPlan
  guests : List GuestSpec
  /-- The ledger the topology was compiled against, record by record. -/
  allocations : List Json
  deriving DecidableEq

section
variable [Unicode]

def SdnZoneSpec.make (name bridge : Str) (nodes : List Str) (ownership : Ownership) :
    Except Raised SdnZoneSpec :=
  if hname : isSdnName name = true then
    if hnodes : nodes ≠ [] then .ok ⟨name, bridge, nodes, ownership, none, hname, hnodes⟩
    else .error (.model
      (str "SDN zone " ++ strRepr name ++ str " must be bound to at least one node"))
  else .error (.model (str "SDN zone name " ++ strRepr name ++
    str " is invalid: max 8 chars, lowercase alphanumeric, must start with a letter"))

def SubnetSpec.make (cidr gateway : Str) (routed : Bool) : Except Raised SubnetSpec :=
  if h : gatewayInside cidr gateway = true then .ok ⟨cidr, gateway, routed, h⟩
  else if (Ip.ipNetwork true cidr).isSome && (Ip.ipAddress gateway).isSome then
    .error (.model (str "gateway " ++ gateway ++ str " is not inside subnet " ++ cidr))
  else .error .value

def VNetSpec.make (name zoneName : Str) (vlanTag : Int) (subnet : SubnetSpec) (role : SegmentRole)
    (ownership : Ownership) (vnetAlias : Str) : Except Raised VNetSpec :=
  if hname : isSdnName name = true then
    if hvlan : vlanMin ≤ vlanTag ∧ vlanTag ≤ vlanMax then
      .ok ⟨name, zoneName, vlanTag, subnet, role, ownership, vnetAlias, hname, hvlan⟩
    else .error (.model (str "VLAN tag " ++ intStr vlanTag ++ str " outside the usable range " ++
      intStr vlanMin ++ str "-" ++ intStr vlanMax))
  else .error (.model (str "VNet name " ++ strRepr name ++
    str " is invalid: max 8 chars, lowercase alphanumeric, must start with a letter"))

def NicSpec.make (index : Int) (vnetName macAddress model : Str) (firewall : Bool) :
    Except Raised NicSpec :=
  if hindex : 0 ≤ index then
    if hmac : isMac macAddress = true then
      .ok ⟨index, vnetName, macAddress, model, firewall, hindex, hmac⟩
    else .error (.model (str "MAC " ++ strRepr macAddress ++ str " is not a valid EUI-48 address"))
  else .error (.model (str "NIC index must be non-negative"))

def GuestAddress.make (publishedAddress : Str) (probeAddress : Option Str) :
    Except Raised GuestAddress :=
  if h : (Ip.ipAddress publishedAddress).isSome = true ∧
      ∀ probe ∈ probeAddress, (Ip.ipAddress probe).isSome = true then
    .ok ⟨publishedAddress, probeAddress, h.1, h.2⟩
  else .error .value

def DiskSpec.make (slot : Str) (sizeGb : Int) (storageId : Str) (discard ssdEmulation : Bool) :
    Except Raised DiskSpec :=
  if h : 0 < sizeGb then .ok ⟨slot, sizeGb, storageId, discard, ssdEmulation, h⟩
  else .error (.model (str "disk " ++ slot ++ str " must have a positive size"))

def CloudInitSpec.make (user : Str) (sshAuthorizedKeys nameservers : List Str)
    (searchDomain gateway : Option Str) : Except Raised CloudInitSpec :=
  if h : ∀ key ∈ sshAuthorizedKeys, isPublicKey key = true then
    .ok ⟨user, sshAuthorizedKeys, nameservers, searchDomain, gateway, h⟩
  else
    -- the first offending key decides which of the two messages is raised
    match sshAuthorizedKeys.find? fun key => !isPublicKey key with
    | some key =>
        if contains (str "PRIVATE KEY") key then
          .error (.model (str "cloud-init received private key material"))
        else .error (.model (str "cloud-init ssh keys must be OpenSSH public keys"))
    | none => .error (.model (str "cloud-init ssh keys must be OpenSSH public keys"))

/-- The fields of a guest before its checks have run. -/
structure GuestFields where
  guestRef : Str
  name : Str
  kind : GuestKind
  vmid : Int
  nodeName : Str
  templateRef : Str
  cloneStrategy : CloneStrategy
  cpuCores : Int
  memoryMb : Int
  disks : List DiskSpec
  nics : List NicSpec
  address : GuestAddress
  ownership : Ownership
  cloudInit : Option CloudInitSpec
  startOnDeploy : Bool
  readinessTimeoutSeconds : Int

def GuestSpec.make (f : GuestFields) : Except Raised GuestSpec :=
  if hname : isGuestName f.name = true then
    if hvmid : vmidMin ≤ f.vmid ∧ f.vmid ≤ vmidMax then
      if hpos : 0 < f.cpuCores ∧ 0 < f.memoryMb then
        if hne : f.nics ≠ [] then
          if hnodup : (f.nics.map NicSpec.index).Nodup then
            .ok ⟨f.guestRef, f.name, f.kind, f.vmid, f.nodeName, f.templateRef, f.cloneStrategy,
              f.cpuCores, f.memoryMb, f.disks, f.nics, f.address, f.ownership, f.cloudInit,
              f.startOnDeploy, f.readinessTimeoutSeconds, hname, hvmid, hpos, hne, hnodup⟩
          else .error (.model (str "guest " ++ f.guestRef ++ str " has duplicate NIC indexes"))
        else .error (.model (str "guest " ++ f.guestRef ++
          str " has no NIC; a guest with no segment cannot be isolated into one and must not be compiled"))
      else .error (.model (str "guest " ++ f.guestRef ++
        str " must have positive cpu and memory"))
    else .error (.model (str "vmid " ++ intStr f.vmid ++ str " outside the Proxmox range"))
  else .error (.model (str "guest name " ++ strRepr f.name ++ str " is not a valid DNS label"))

def IpSetSpec.make (name : Str) (cidrs : List Str) (ownership : Ownership) (comment : Str) :
    Except Raised IpSetSpec :=
  if hname : isFirewallName name = true then
    if hcidrs : ∀ cidr ∈ cidrs, (Ip.ipNetwork false cidr).isSome = true then
      .ok ⟨name, cidrs, ownership, comment, hname, hcidrs⟩
    else .error .value
  else .error (.model (str "IPSet name " ++ strRepr name ++ str " is invalid"))

def SecurityGroupSpec.make (name : Str) (rules : List FirewallRuleSpec) (ownership : Ownership)
    (comment : Str) : Except Raised SecurityGroupSpec :=
  if hname : isFirewallName name = true then
    if hnodup : (rules.map FirewallRuleSpec.position).Nodup then
      .ok ⟨name, rules, ownership, comment, hname, hnodup⟩
    else .error (.model (str "security group " ++ strRepr name ++
      str " has duplicate rule positions; rule order would be undefined"))
  else .error (.model (str "security group name " ++ strRepr name ++ str " is invalid"))

end

end Secp.Proxmox
