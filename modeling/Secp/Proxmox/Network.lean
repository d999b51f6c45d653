import Secp.Logic.StateExcept
import Secp.Proxmox.Ipam

/-!
# The segregated-network compiler

`compileWebBreachLab` compiles an SDN zone, one VNet per segment and the firewall objects that
isolate them, allocating every identifier from a ledger; `evaluateFlow` is the first-match
evaluator over the compiled rules. A compilation threads the ledger and the log of blocked
allocations, and ends in a plan, in a refusal that names everything missing, or in an exception.
-/

namespace Secp.Proxmox

open Secp.Python Secp.Logic

def ipsetManagement : Str := str "secp-mgmt"

def ipsetControlPlane : Str := str "secp-ctlplane"

def posManagementDeny : Nat := 0

def posControlPlane : Nat := 100

def posCrossTeamDeny : Nat := 200

def posIntraTeamAllow : Nat := 300

def posScoringAllow : Nat := 400

def posEgressAllow : Nat := 500

def posCatchAll : Nat := 8000

def inboundBand : Int := 100000

/-! ## Requests -/

section
variable [Unicode]

structure TeamRequest where
  teamRef : Str
  label : Str
  includeSensor : Bool
  teamRef_valid : teamRef ≠ [] ∧ strIsAlnum teamRef = true

def TeamRequest.make (teamRef label : Str) (includeSensor : Bool) : Except Raised TeamRequest :=
  if h : teamRef ≠ [] ∧ strIsAlnum teamRef = true then .ok ⟨teamRef, label, includeSensor, h⟩
  else .error (.model
    (str "team_ref " ++ strRepr teamRef ++ str " must be a non-empty alphanumeric slug"))

/-- Whether a text names exactly one host. -/
def isSingleHost (cidr : Str) : Bool :=
  match Ip.ipNetwork false cidr with
  | some network => network.size = 1
  | none => false

structure ControlPlaneReviewedPath where
  destCidr : Str
  proto : Str
  dport : Str
  justification : Str
  approvalReference : Str
  destCidr_single : isSingleHost destCidr = true
  dport_digits : strIsDigit dport = true
  reviewed : justification ≠ [] ∧ approvalReference ≠ []

def ControlPlaneReviewedPath.make (destCidr proto dport justification approvalReference : Str) :
    Except Raised ControlPlaneReviewedPath :=
  if hsingle : isSingleHost destCidr = true then
    if hdigits : strIsDigit dport = true then
      if hreviewed : justification ≠ [] ∧ approvalReference ≠ [] then
        .ok ⟨destCidr, proto, dport, justification, approvalReference, hsingle, hdigits, hreviewed⟩
      else .error (.model
        (str "a reviewed control-plane path requires a justification and an approval reference"))
    else .error (.model (str "reviewed control-plane path must name exactly one port, got " ++
      strRepr dport))
  else
    match Ip.ipNetwork false destCidr with
    | none => .error .value
    | some network => .error (.model
        (str "reviewed control-plane path must name exactly one host, got " ++ destCidr ++ str " (" ++
          natStr network.size ++ str " addresses)"))

structure WebBreachLabRequest where
  organizationId : Str
  targetId : Str
  rangeId : Str
  generation : Int
  operationGeneration : Int
  teams : List TeamRequest
  controlPlaneCidrs : List Str
  reviewedControlPlanePaths : List ControlPlaneReviewedPath
  scoringPort : Int
  egress : Option EgressGatewaySpec
  pools : IpamPools
  two_teams : 2 ≤ teams.length
  teamRefs_nodup : (teams.map TeamRequest.teamRef).Nodup

/-! ## Compilations -/

/-- The ledger and the prerequisites found missing so far. -/
structure Session where
  ledger : AllocationLedger
  blocked : List MissingPrerequisite

abbrev Compile (α : Type) := Program Session Raised α

/-- A step that does not touch the session. -/
def check {α : Type} (result : Except Raised α) : Compile α := fun s =>
  match result with
  | .ok a => .ok (a, s)
  | .error e => .error e

/-- An allocation whose refusal propagates. -/
def allocating {α : Type} (act : Allocator α) : Compile α := fun s =>
  match act s.ledger with
  | .ok (a, ledger) => .ok (a, { s with ledger := ledger })
  | .error e => .error e

/-- The log after one more blocked allocation. -/
def noteBlocked (prerequisite : MissingPrerequisite) (blocked : List MissingPrerequisite) :
    List MissingPrerequisite :=
  if prerequisite ∈ blocked then blocked else blocked ++ [prerequisite]

/-- `AllocationRequestLog.run`: a blocked allocation is noted once and yields nothing. -/
def logRun {α : Type} (act : Allocator α) : Compile (Option α) := fun s =>
  match act s.ledger with
  | .ok (a, ledger) => .ok (some a, { s with ledger := ledger })
  | .error (.blocked prerequisite) =>
      .ok (none, { s with blocked := noteBlocked prerequisite s.blocked })
  | .error e => .error e

def ownershipOf (request : WebBreachLabRequest) (kind : RangeResourceKind)
    (teamRef : Option Str) : Except Raised Ownership :=
  Ownership.make request.organizationId request.targetId request.rangeId request.generation
    request.operationGeneration kind teamRef

/-! ## Prerequisites -/

def sdnMissing (observation : TargetObservation) : List MissingPrerequisite :=
  match observation.sdnSupported with
  | none => [⟨str "proxmox.sdn_support_unknown", str "TargetObservation.sdn_supported",
      str ("whether the target supports SDN was never observed; SDN is an optional Proxmox " ++
        "component and compiling VNets without it produces a plan that fails at apply"),
      by simp, by simp⟩]
  | some false => [⟨str "proxmox.sdn_unsupported", str "TargetObservation.sdn_supported",
      str ("the target does not support SDN; segregated per-team VNets cannot be created on it " ++
        "and no alternative isolation mechanism is approved"), by simp, by simp⟩]
  | some true => []

def firewallMissing (observation : TargetObservation) : List MissingPrerequisite :=
  match observation.firewallSupported with
  | none => [⟨str "proxmox.firewall_support_unknown", str "TargetObservation.firewall_supported",
      str ("whether the cluster firewall is enabled was never observed; without it the compiled " ++
        "deny rules would not be enforced and segments would not be isolated"),
      by simp, by simp⟩]
  | some false => [⟨str "proxmox.firewall_unsupported", str "TargetObservation.firewall_supported",
      str ("the cluster firewall is disabled; the isolation this scenario requires cannot be " ++
        "enforced"), by simp, by simp⟩]
  | some true => []

/-- The bridges present on every online node. -/
def sharedBridges : List NodeObservation → List Str
  | [] => []
  | first :: rest =>
      first.bridges.filter fun bridge => rest.all fun node => bridge ∈ node.bridges

/-- The zone's bridge, the first by name that is not a management bridge, or what is missing. -/
def zoneBridge (observation : TargetObservation) : Option Str × List MissingPrerequisite :=
  let online := observation.onlineNodes
  if online.isEmpty then
    (none, [⟨str "proxmox.no_online_node", str "TargetObservation.nodes",
      str "no cluster node was observed online; nothing can be placed", by simp, by simp⟩])
  else
    let shared := sharedBridges online
    if shared.isEmpty then
      (none, [⟨str "proxmox.no_common_bridge", str "NodeObservation.bridges",
        str ("no bridge was observed present on every online node; an SDN zone needs one, and " ++
          "picking a bridge that exists on only some nodes strands guests"), by simp, by simp⟩])
    else
      let eligible := shared.filter fun bridge => bridge ∉ observation.identity.managementBridges
      match (sortedBy id eligible).head? with
      | none =>
          (none, [⟨str "proxmox.no_non_management_bridge", str "NodeObservation.bridges",
            str ("every bridge common to the online nodes is a declared management bridge; the " ++
              "scenario needs its own bridge and must never ride the management plane"),
            by simp, by simp⟩])
      | some bridge => (some bridge, [])

/-! ## Segments -/

/-- A segment to compile: its team, its role and the VNet name proposed for it. -/
structure Segment where
  teamRef : Option Str
  role : SegmentRole
  proposed : Str
  deriving DecidableEq

def segmentPurpose (teamRef : Option Str) (role : SegmentRole) : Str :=
  (match teamRef with
    | some team => if team.isEmpty then str "shared" else team
    | none => str "shared") ++ ['/'] ++ role.value

def vnetName (teamIndex : Option Nat) (role : SegmentRole) : Str :=
  match teamIndex with
  | none => str "score"
  | some index =>
      ['t'] ++ natStr index ++ (match role with
        | .attacker => str "atk"
        | .vulnerable => str "vul"
        | .sensor => str "sen"
        | .scoring => str "sco")

/-- The scoring segment, then each team's, teams numbered from one. -/
def segments (request : WebBreachLabRequest) : List Segment :=
  ⟨none, .scoring, str "score"⟩ :: (request.teams.zipIdx 1).flatMap fun (team, index) =>
    [⟨some team.teamRef, .attacker, vnetName (some index) .attacker⟩,
      ⟨some team.teamRef, .vulnerable, vnetName (some index) .vulnerable⟩] ++
    if team.includeSensor then
      [⟨some team.teamRef, .sensor, vnetName (some index) .sensor⟩]
    else []

def allocateZoneName (request : WebBreachLabRequest) (observation : TargetObservation)
    (ownership : Ownership) : Allocator Str :=
  AllocationLedger.allocateName ownership (str "sdn-zone") .zoneName
    ('z' :: (replaceChar '-' [] request.rangeId).take 7) observation.sdnNamesInUse
    (str "TargetObservation.sdn_names_in_use") (str "proxmox.sdn_name_inventory_missing") (some 8)

def allocateVnetName (observation : TargetObservation) (ownership : Ownership)
    (purpose proposed : Str) : Allocator Str :=
  AllocationLedger.allocateName ownership purpose .vnetName proposed observation.sdnNamesInUse
    (str "TargetObservation.sdn_names_in_use") (str "proxmox.sdn_name_inventory_missing") (some 8)

def allocateVlan (request : WebBreachLabRequest) (observation : TargetObservation)
    (ownership : Ownership) (purpose : Str) : Allocator Int :=
  AllocationLedger.allocateInt ownership .vlanTag purpose request.pools.vlanMin
    request.pools.vlanMax observation.vlanTagsInUse (str "TargetObservation.vlan_tags_in_use")
    (str "proxmox.vlan_inventory_missing")

def allocateSegmentSubnet (request : WebBreachLabRequest) (observation : TargetObservation)
    (ownership : Ownership) (purpose : Str) : Allocator Ip.Network :=
  AllocationLedger.allocateSubnet ownership purpose request.pools observation.subnetsInUse
    observation.identity.managementCidrs

def allocateFirewallName (observation : TargetObservation) (ownership : Ownership)
    (purpose candidate : Str) : Allocator Str :=
  AllocationLedger.allocateName ownership purpose .firewallObjectName candidate
    observation.firewallNamesInUse (str "TargetObservation.firewall_names_in_use")
    (str "proxmox.firewall_name_inventory_missing") (some 27)

/-- The VNet of a segment whose three identifiers were allocated. -/
def buildVnet (zoneName : Option Str) (segment : Segment) (ownership : Ownership) (name : Str)
    (vlan : Int) (subnet : Ip.Network) : Compile VNetSpec := do
  let purpose := segmentPurpose segment.teamRef segment.role
  let gateway ← allocating (AllocationLedger.allocateAddress ownership (purpose ++ str "/gateway")
    subnet .gatewayAddress (some 0))
  let spec ← check (SubnetSpec.make subnet.text gateway.text false)
  check (VNetSpec.make name (zoneName.getD []) vlan spec segment.role ownership purpose)

/-- One turn of the segment loop. -/
def compileSegment (request : WebBreachLabRequest) (observation : TargetObservation)
    (zoneName : Option Str) (compiled : Dict Str VNetSpec) (segment : Segment) :
    Compile (Dict Str VNetSpec) := do
  let ownership ← check (ownershipOf request .network segment.teamRef)
  let purpose := segmentPurpose segment.teamRef segment.role
  let name ← logRun (allocateVnetName observation ownership purpose segment.proposed)
  let vlan ← logRun (allocateVlan request observation ownership purpose)
  let subnet ← logRun (allocateSegmentSubnet request observation ownership purpose)
  match name, vlan, subnet with
  | some name, some vlan, some subnet => do
      let vnet ← buildVnet zoneName segment ownership name vlan subnet
      pure (compiled.set name vnet)
  | _, _, _ => pure compiled

/-! ## Firewall rules -/

/-- A rule at a non-negative position. -/
def rule (position : Nat) (direction : FirewallDirection) (verdict : FirewallVerdict)
    (source dest proto dport : Option Str) (comment : Str) (hcomment : comment ≠ []) :
    FirewallRuleSpec :=
  ⟨position, direction, verdict, comment, source, dest, proto, dport, true,
    Int.natCast_nonneg position, hcomment⟩

def managementOutbound : FirewallRuleSpec :=
  rule posManagementDeny .outbound .drop none (some ('+' :: ipsetManagement)) none none
    (str "Deny all traffic to the Proxmox management plane.") (by simp)

def managementInbound : FirewallRuleSpec :=
  rule posManagementDeny .inbound .drop (some ('+' :: ipsetManagement)) none none none
    (str "Deny inbound traffic sourced from the management plane.") (by simp)

def reviewedPathRule (offset : Nat) (path : ControlPlaneReviewedPath) : FirewallRuleSpec :=
  rule (posControlPlane + offset) .outbound .accept none (some path.destCidr) (some path.proto)
    (some path.dport)
    (str "Reviewed control-plane path (" ++ path.approvalReference ++ str "): " ++
      path.justification) (by simp)

def controlPlaneDeny : FirewallRuleSpec :=
  rule (posControlPlane + 50) .outbound .drop none (some ('+' :: ipsetControlPlane)) none none
    (str "Deny all other traffic to controller/worker management interfaces.") (by simp)

/-- The reviewed paths first, since they are narrower, then the deny. -/
def controlPlaneRules (request : WebBreachLabRequest) : List FirewallRuleSpec :=
  if request.controlPlaneCidrs.isEmpty then []
  else
    (request.reviewedControlPlanePaths.zipIdx.map fun (path, offset) =>
      reviewedPathRule offset path) ++ [controlPlaneDeny]

def peerOutbound (offset : Nat) (peerRef peerName : Str) : FirewallRuleSpec :=
  rule (posCrossTeamDeny + offset) .outbound .drop none (some ('+' :: peerName)) none none
    (str "Deny all traffic to team " ++ peerRef ++ str "'s segments.") (by simp)

def peerInbound (offset : Nat) (peerRef peerName : Str) : FirewallRuleSpec :=
  rule (posCrossTeamDeny + 50 + offset) .inbound .drop (some ('+' :: peerName)) none none none
    (str "Deny all traffic from team " ++ peerRef ++ str "'s segments.") (by simp)

/-- One rule for each peer team and direction, teams numbered in order of their references. -/
def crossTeamRules (teamIpset : Dict Str Str) (teamRef : Option Str) : List FirewallRuleSpec :=
  (sortedBy id teamIpset).zipIdx.flatMap fun ((peerRef, peerName), offset) =>
    if some peerRef = teamRef then []
    else [peerOutbound offset peerRef peerName, peerInbound offset peerRef peerName]

def intraTeamOutbound (team name : Str) : FirewallRuleSpec :=
  rule posIntraTeamAllow .outbound .accept none (some ('+' :: name)) none none
    (str "Allow team " ++ team ++ str " to reach its own segments.") (by simp)

def intraTeamInbound (team name : Str) : FirewallRuleSpec :=
  rule (posIntraTeamAllow + 1) .inbound .accept (some ('+' :: name)) none none none
    (str "Allow team " ++ team ++ str "'s own segments inbound.") (by simp)

def intraTeamRules (teamIpset : Dict Str Str) (teamRef : Option Str) : List FirewallRuleSpec :=
  match teamRef with
  | none => []
  | some team =>
      match teamIpset.get? team with
      | none => []
      | some name => [intraTeamOutbound team name, intraTeamInbound team name]

def scoringInbound (port : Int) : FirewallRuleSpec :=
  rule posScoringAllow .inbound .accept none none (some (str "tcp")) (some (intStr port))
    (str "Accept scoring submissions on tcp/" ++ intStr port ++ str ".") (by simp)

def scoringOutbound (port : Int) (scoringVnet : VNetSpec) : FirewallRuleSpec :=
  rule posScoringAllow .outbound .accept none (some scoringVnet.subnet.cidr) (some (str "tcp"))
    (some (intStr port))
    (str "Allow the scoring/control boundary on tcp/" ++ intStr port ++ str " only.") (by simp)

/-- The scoring segment accepts inbound on the scoring port; every other segment may reach it. -/
def scoringRules (request : WebBreachLabRequest) (scoring : List VNetSpec) (vnet : VNetSpec) :
    List FirewallRuleSpec :=
  if vnet.role = .scoring then
    -- the source's loop breaks after its first turn
    scoring.head?.toList.map fun _ => scoringInbound request.scoringPort
  else scoring.map (scoringOutbound request.scoringPort)

/-- An empty port text means any port and protocol. -/
def egressRule (egress : EgressGatewaySpec) (offset portOffset : Nat) (dest port : Str) :
    FirewallRuleSpec :=
  rule (posEgressAllow + offset * 10 + portOffset) .outbound .accept none (some dest)
    (if port.isEmpty then none else some (str "tcp")) (if port.isEmpty then none else some port)
    (str "Approved controlled egress (" ++ egress.approvalReference ++ str ").") (by simp)

/-- `allowed_ports or ("",)`. -/
def egressPorts (egress : EgressGatewaySpec) : List Str :=
  if egress.allowedPorts.isEmpty then [[]] else egress.allowedPorts

def egressRules (request : WebBreachLabRequest) (vnet : VNetSpec) : List FirewallRuleSpec :=
  match request.egress with
  | none => []
  | some egress =>
      if egress.vnetName = vnet.name then
        egress.allowedDestinations.zipIdx.flatMap fun (dest, offset) =>
          (egressPorts egress).zipIdx.map fun (port, portOffset) =>
            egressRule egress offset portOffset dest port
      else []

def catchAllOutbound : FirewallRuleSpec :=
  rule posCatchAll .outbound .drop none none none none (str "Default deny outbound.") (by simp)

def catchAllInbound : FirewallRuleSpec :=
  rule posCatchAll .inbound .drop none none none none (str "Default deny inbound.") (by simp)

/-- The authored rules of one segment. -/
def segmentRules (request : WebBreachLabRequest) (teamIpset : Dict Str Str)
    (scoring : List VNetSpec) (vnet : VNetSpec) : List FirewallRuleSpec :=
  [managementOutbound, managementInbound] ++ controlPlaneRules request ++
    crossTeamRules teamIpset vnet.ownership.teamRef ++
    intraTeamRules teamIpset vnet.ownership.teamRef ++ scoringRules request scoring vnet ++
    egressRules request vnet ++ [catchAllOutbound, catchAllInbound]

def bandOffset (direction : FirewallDirection) : Int :=
  if direction = .outbound then 0 else inboundBand

/-- Lift a rule into the band of its direction. -/
def bandRule (r : FirewallRuleSpec) : FirewallRuleSpec :=
  { r with
    position := r.position + bandOffset r.direction
    position_nonneg := Int.add_nonneg r.position_nonneg (by
      unfold bandOffset
      split <;> decide) }

def bandPositions (rules : List FirewallRuleSpec) : List FirewallRuleSpec := rules.map bandRule

/-! ## Firewall objects -/

/-- The IPSets that exist whatever the teams are. -/
def sharedIpSets (request : WebBreachLabRequest) (observation : TargetObservation)
    (ownership : Ownership) : Except Raised (List IpSetSpec) := do
  let management ← IpSetSpec.make ipsetManagement observation.identity.managementCidrs ownership
    (str "Proxmox management plane. Never reachable from any scenario segment.")
  if request.controlPlaneCidrs.isEmpty then pure [management]
  else
    let controlPlane ← IpSetSpec.make ipsetControlPlane request.controlPlaneCidrs ownership
      (str "SECP controller/worker management interfaces.")
    pure [management, controlPlane]

/-- One turn of the loop that gives each team an IPSet of its segments. -/
def compileTeamIpSet (request : WebBreachLabRequest) (observation : TargetObservation)
    (ipSets : List IpSetSpec) (item : Option Str × List VNetSpec) : Compile (List IpSetSpec) :=
  match item.1 with
  | none => pure ipSets
  | some team => do
      let ownership ← check (ownershipOf request .network (some team))
      let name ← logRun (allocateFirewallName observation ownership (team ++ str "/ipset")
        (str "secp-team-" ++ team))
      match name with
      | none => pure ipSets
      | some name => do
          let ipSet ← check (IpSetSpec.make name (item.2.map fun vnet => vnet.subnet.cidr)
            ownership (str "All segments belonging to team " ++ team ++ str "."))
          pure (ipSets ++ [ipSet])

/-- The IPSet name of each team that has one. -/
def teamIpsets (ipSets : List IpSetSpec) : Dict Str Str :=
  Dict.ofPairs (ipSets.filterMap fun item => item.ownership.teamRef.map fun team =>
    (team, item.name))

/-- One turn of the loop that gives each VNet its security group. -/
def compileGroup (request : WebBreachLabRequest) (observation : TargetObservation)
    (teamIpset : Dict Str Str) (scoring : List VNetSpec)
    (state : List SecurityGroupSpec × Dict Str Str) (vnet : VNetSpec) :
    Compile (List SecurityGroupSpec × Dict Str Str) := do
  let name ← logRun (allocateFirewallName observation vnet.ownership
    (vnet.vnetAlias ++ str "/secgroup") (str "secp-sg-" ++ vnet.name))
  match name with
  | none => pure state
  | some name => do
      let group ← check (SecurityGroupSpec.make name
        (bandPositions (segmentRules request teamIpset scoring vnet)) vnet.ownership
        (str "Isolation policy for segment " ++ vnet.name ++ str " (" ++ vnet.role.value ++
          str ")."))
      pure (state.1 ++ [group], state.2.set vnet.name name)

def compileFirewall (request : WebBreachLabRequest) (observation : TargetObservation)
    (vnets : List VNetSpec) : Compile (List IpSetSpec × List SecurityGroupSpec × Dict Str Str) := do
  let ownership ← check (ownershipOf request .network none)
  let shared ← check (sharedIpSets request observation ownership)
  let byTeam := Dict.groupBy (fun vnet : VNetSpec => vnet.ownership.teamRef) vnets
  let scoring := vnets.filter fun vnet => vnet.role = .scoring
  let ipSets ← (sortedBy (fun item => item.1.getD []) byTeam).foldlM
    (compileTeamIpSet request observation) shared
  let (groups, attachment) ← vnets.foldlM
    (compileGroup request observation (teamIpsets ipSets) scoring) ([], [])
  pure (ipSets, groups, attachment)

/-! ## The compiler -/

inductive CompileOutcome (α : Type) where
  | plan (plan : α)
  | blocked (plan : BlockedPlan)

/-- Refuse with what is missing. -/
def refuse {α : Type} : List MissingPrerequisite → CompileOutcome α
  | [] => .blocked ⟨[⟨str "proxmox.zone_unresolved", str "TargetObservation.sdn_names_in_use",
      str "the SDN zone name or bridge could not be resolved", by simp, by simp⟩],
      List.cons_ne_nil _ _⟩
  | first :: rest => .blocked ⟨first :: rest, List.cons_ne_nil _ _⟩

/-- A plan, unless something was found missing on the way. -/
def planUnlessBlocked {α : Type} (plan : α) (blocked : List MissingPrerequisite) :
    CompileOutcome α :=
  if blocked.isEmpty then .plan plan else refuse blocked

/-- The zone and the firewall objects around the compiled VNets. -/
def finishNetwork (request : WebBreachLabRequest) (observation : TargetObservation)
    (ownership : Ownership) (zoneName bridge : Str) (compiled : Dict Str VNetSpec) :
    Compile (CompileOutcome SegregatedNetworkPlan) := do
  let zone ← check (SdnZoneSpec.make zoneName bridge
    (observation.onlineNodes.map NodeObservation.nodeName) ownership)
  let vnets := (sortedBy Prod.fst compiled).map Prod.snd
  let (ipSets, groups, attachment) ← compileFirewall request observation vnets
  let session ← get
  pure (planUnlessBlocked ⟨zone, vnets, groups, ipSets, attachment, request.egress⟩
    session.blocked)

/-- What the target itself lacks. -/
def targetMissing (observation : TargetObservation) : List MissingPrerequisite :=
  sdnMissing observation ++ firewallMissing observation ++ (zoneBridge observation).2

/-- Refuse, or go on to the firewall once the zone is resolved and nothing is missing. -/
def concludeNetwork (request : WebBreachLabRequest) (observation : TargetObservation)
    (ownership : Ownership) (zoneName : Option Str) (compiled : Dict Str VNetSpec)
    (blocked : List MissingPrerequisite) : Compile (CompileOutcome SegregatedNetworkPlan) :=
  match targetMissing observation ++ blocked, zoneName, (zoneBridge observation).1 with
  | [], some zoneName, some bridge =>
      finishNetwork request observation ownership zoneName bridge compiled
  | missing, _, _ => pure (refuse missing)

def compileNetwork (request : WebBreachLabRequest) (observation : TargetObservation) :
    Compile (CompileOutcome SegregatedNetworkPlan) := do
  let ownership ← check (ownershipOf request .network none)
  let zoneName ← logRun (allocateZoneName request observation ownership)
  let compiled ← (segments request).foldlM (compileSegment request observation zoneName) []
  let session ← get
  concludeNetwork request observation ownership zoneName compiled session.blocked

/-- `compile_web_breach_lab`: a plan with the ledger it drew on, or a refusal. -/
def compileWebBreachLab (request : WebBreachLabRequest) (observation : TargetObservation)
    (ledger : AllocationLedger) :
    Except Raised (CompileOutcome SegregatedNetworkPlan × AllocationLedger) :=
  match compileNetwork request observation ⟨ledger, []⟩ with
  | .ok (outcome, session) => .ok (outcome, session.ledger)
  | .error e => .error e

end

/-! ## Reachability evaluation -/

/-- The CIDRs a rule field stands for; `none` matches any address. -/
def resolve (token : Option Str) (ipSets : Dict Str (List Str)) : Option (List Str) :=
  match token with
  | none => none
  | some ('+' :: name) => some ((ipSets.get? name).getD [])
  | some cidr => some [cidr]

/-- `any(target in ip_network(cidr, strict=False) for cidr in cidrs)`. -/
def anyContains (target : Ip.Address) : List Str → Except Raised Bool
  | [] => .ok false
  | cidr :: rest => do
      let network ← orValueError (Ip.ipNetwork false cidr)
      if network.contains target then pure true else anyContains target rest

def addressMatches (address : Str) (cidrs : Option (List Str)) : Except Raised Bool :=
  match cidrs with
  | none => .ok true
  | some cidrs => do
      let target ← orValueError (Ip.ipAddress address)
      anyContains target cidrs

/-- One flow to decide: the far address, the port and protocol, and its direction. -/
structure Flow where
  address : Str
  port : Option Int
  proto : Str
  direction : FirewallDirection

/-- Whether a rule restricts neither protocol nor port of the flow away. -/
def serviceMatches (flow : Flow) (r : FirewallRuleSpec) : Bool :=
  (match r.proto with
    | none => true
    | some proto => proto = flow.proto) &&
  (match r.dport with
    | none => true
    | some dport =>
        match flow.port with
        | none => false
        | some port => intStr port = dport)

/-- The field of a rule the far address is matched against. -/
def matchField (direction : FirewallDirection) (r : FirewallRuleSpec) : Option Str :=
  if direction = .outbound then r.dest else r.source

/-- The verdict of the first matching rule, and drop where none matches. -/
def firstVerdict (ipSets : Dict Str (List Str)) (flow : Flow) :
    List FirewallRuleSpec → Except Raised FirewallVerdict
  | [] => .ok .drop
  | r :: rest =>
      if !r.enabled || r.direction ≠ flow.direction then firstVerdict ipSets flow rest
      else do
        let address ← addressMatches flow.address
          (resolve (matchField flow.direction r) ipSets)
        if address && serviceMatches flow r then pure r.verdict
        else firstVerdict ipSets flow rest

def ipSetCidrs (plan : SegregatedNetworkPlan) : Dict Str (List Str) :=
  Dict.ofPairs (plan.ipSets.map fun item => (item.name, item.cidrs))

/-- First-match evaluation of the compiled rules for one flow. -/
def evaluateFlow [Unicode] (plan : SegregatedNetworkPlan) (fromVnet : Str) (flow : Flow) :
    Except Raised FirewallVerdict :=
  match plan.vnetSecurityGroup.get? fromVnet with
  | none => .error (.model (str "no security group attached to VNet " ++ strRepr fromVnet))
  | some groupName =>
      match plan.securityGroups.find? fun group => group.name = groupName with
      | none => .error (.model (str "security group " ++ strRepr groupName ++
          str " not found in plan"))
      | some group => firstVerdict (ipSetCidrs plan) flow group.orderedRules

end Secp.Proxmox
