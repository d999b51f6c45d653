import Secp.Python.IpaddressText
import Secp.Python.Re
import Secp.Reconciliation.State

/-!
# Scenarios on the simulator

The part of an environment definition that the simulator plugin reads, what the schema and the models
accept of it, the plan of one instance per target, and the projection of a planned topology into the
elements that reconciliation compares.
-/

namespace Secp.Scenario

open Secp.Python Secp.Reconciliation

/-! ## Definitions -/

inductive IsolationPolicy where
  | strict
  | shared
  deriving DecidableEq

inductive CidrStrategy where
  | perTeam
  | shared
  deriving DecidableEq

/-- `RoleKind`, and `NodeKind` with the same values. -/
inductive RoleKind where
  | attacker
  | target
  | sensor
  | service
  | gateway
  deriving DecidableEq

def RoleKind.value : RoleKind → Str
  | .attacker => str "attacker"
  | .target => str "target"
  | .sensor => str "sensor"
  | .service => str "service"
  | .gateway => str "gateway"

structure Network where
  name : Str
  cidrStrategy : CidrStrategy
  baseCidr : Option Str := none
  isolated : Bool := true
  deriving DecidableEq

structure Role where
  name : Str
  kind : RoleKind
  image : Str
  network : Str
  count : Nat := 1
  vulnerabilityPacks : List Str := []
  deriving DecidableEq

/-- `Spec`, as far as a plan reads it. -/
structure Spec where
  isolationPolicy : IsolationPolicy
  networks : List Network
  roles : List Role
  deriving DecidableEq

def isNameEnd (c : Char) : Bool := isAsciiLower c || isAsciiDigit c

def nameRe : Re := .all [.char isNameEnd,
  .alt .empty (.all [.many (fun c => c = '-' || isNameEnd c) 0 none, .char isNameEnd])]

def octetRe : Re := .many isAsciiDigit 1 (some 3)

def baseCidrRe : Re := .all [octetRe, .char fun c => c = '.', octetRe, .char fun c => c = '.', octetRe,
  .char fun c => c = '.', octetRe, .char fun c => c = '/', .many isAsciiDigit 1 (some 2)]

section
variable [Unicode]

/-- The schema lets a final newline pass behind a pattern; the model of a name does not. -/
def Network.accepted (network : Network) : Bool :=
  nameRe.fullmatch network.name && network.baseCidr.all fun cidr => endsAt baseCidrRe.fullmatch cidr

/-- A role is checked on its own and, by `_roles_reference_declared_networks`, against the networks. -/
def Role.accepted (networks : List Network) (role : Role) : Bool :=
  nameRe.fullmatch role.name && !role.image.isEmpty && !role.network.isEmpty && 1 ≤ role.count &&
    role.count ≤ 16 && role.network ∈ networks.map Network.name

/-- `validate_definition`, of what a plan reads. -/
def Spec.accepted (spec : Spec) : Bool :=
  !spec.networks.isEmpty && !spec.roles.isEmpty && spec.networks.all Network.accepted &&
    spec.roles.all (Role.accepted spec.networks)

end

/-! ## Topologies -/

structure TopologyNetwork where
  ref : Str
  name : Str
  cidr : Str
  teamRef : Option Str
  isolated : Bool
  deriving DecidableEq

structure TopologyNode where
  ref : Str
  name : Str
  kind : RoleKind
  role : Str
  image : Str
  networkRef : Str
  ipAddress : Str
  attributes : List (Str × Str)
  deriving DecidableEq

inductive EdgeKind where
  | network
  | monitors
  | reaches
  deriving DecidableEq

def EdgeKind.value : EdgeKind → Str
  | .network => str "network"
  | .monitors => str "monitors"
  | .reaches => str "reaches"

structure TopologyEdge where
  sourceRef : Str
  targetRef : Str
  kind : EdgeKind
  deriving DecidableEq

structure InstanceTopology where
  networks : List TopologyNetwork
  nodes : List TopologyNode
  edges : List TopologyEdge
  deriving DecidableEq

/-- One instance of a team. -/
structure TargetInstance where
  instanceId : Str
  instanceRef : Str
  teamRef : Str
  teamIndex : Int
  deriving DecidableEq

structure InstancePlan where
  instanceId : Str
  instanceRef : Str
  teamRef : Str
  desired : InstanceTopology
  deriving DecidableEq

/-! ## Planning -/

/-- What a plan raises: the definition is not valid, or no value can be computed. -/
inductive PlanError where
  | schemaValidation
  | value
  deriving DecidableEq

/-- A value, or the error of having none. -/
def orRaise {α : Type} : Option α → Except PlanError α
  | some a => .ok a
  | none => .error .value

def defaultBaseCidr : Str := str "10.20.0.0/16"

/-- `base.subnets(new_prefix=24)`; `none` where it raises. -/
def subnets24 (base : Ip.Network) : Option (List Ip.Network) :=
  if base.prefixlen = base.version.bits then some [base]
  else if h : 24 ≤ base.version.bits then
    if 24 < base.prefixlen then none else some (base.subnets 24 h)
  else none

/-- `_allocate_cidr`; `none` where it raises. -/
def allocateCidr (network : Network) (teamIndex : Int) : Option Str := do
  let given := network.baseCidr.getD []
  let base ← Ip.ipNetwork false (if given.isEmpty then defaultBaseCidr else given)
  let subnets ← subnets24 base
  let subnet ← match network.cidrStrategy with
    | .shared => subnets.head?
    | .perTeam => if 0 ≤ teamIndex then subnets[teamIndex.toNat]? else none
  pure subnet.text

/-- `_host_ip`; `none` where it raises. -/
def hostIp (cidr : Str) (host : Nat) : Option Str := do
  let network ← Ip.ipNetwork false cidr
  let value := network.base + host
  if value < 2 ^ network.version.bits then pure (Ip.Address.ofNat network.version value).text
  else none

/-- One turn of the loop over the networks. -/
def planNetwork (spec : Spec) (target : TargetInstance) (network : Network) :
    Except PlanError TopologyNetwork := do
  let cidr ← orRaise (allocateCidr network target.teamIndex)
  pure { ref := network.name
         name := target.teamRef ++ str "-" ++ network.name
         cidr := cidr
         teamRef := if network.cidrStrategy = .perTeam then some target.teamRef else none
         isolated := network.isolated && spec.isolationPolicy = .strict }

/-- The reference of the `i`-th node of a role. -/
def Role.nodeRef (role : Role) (i : Nat) : Str :=
  if 1 < role.count then role.name ++ str "-" ++ natStr i else role.name

/-- What the loop over the roles carries. -/
structure Placing where
  hostCounter : Dict Str Nat
  nodes : List TopologyNode := []
  edges : List TopologyEdge := []

/-- One turn of the inner loop. -/
def placeNode (target : TargetInstance) (networksByName : Dict Str TopologyNetwork) (role : Role)
    (placing : Placing) (i : Nat) : Except PlanError Placing := do
  let network ← orRaise (networksByName.get? role.network)
  let host ← orRaise (placing.hostCounter.get? role.network)
  let ip ← orRaise (hostIp network.cidr host)
  let ref := role.nodeRef i
  pure { hostCounter := placing.hostCounter.set role.network (host + 1)
         nodes := placing.nodes ++ [{
           ref := ref
           name := target.teamRef ++ str "-" ++ ref
           kind := role.kind
           role := role.name
           image := role.image
           networkRef := role.network
           ipAddress := ip
           attributes := [(str "team_ref", target.teamRef),
             (str "vulnerability_packs", join (str ",") role.vulnerabilityPacks)] }]
         edges := placing.edges ++ [⟨ref, role.network, .network⟩] }

/-- One turn of the loop over the roles. -/
def placeRole (target : TargetInstance) (networksByName : Dict Str TopologyNetwork)
    (placing : Placing) (role : Role) : Except PlanError Placing :=
  (List.range role.count).foldlM (placeNode target networksByName role) placing

/-- The edges from every sensor to every node it monitors. -/
def monitorEdges (nodes : List TopologyNode) : List TopologyEdge :=
  let sensorRefs := (nodes.filter fun n => n.kind = .sensor).map TopologyNode.ref
  let monitored := (nodes.filter fun n => n.kind = .target || n.kind = .attacker).map TopologyNode.ref
  sensorRefs.flatMap fun s => monitored.map fun m => ⟨s, m, .monitors⟩

/-- `_plan_instance`. -/
def planInstance (spec : Spec) (target : TargetInstance) : Except PlanError InstancePlan := do
  let networks ← spec.networks.mapM (planNetwork spec target)
  let networksByName := Dict.ofPairs (networks.map fun n => (n.ref, n))
  let hostCounter := Dict.ofPairs (spec.networks.map fun n => (n.name, 10))
  let placing ← spec.roles.foldlM (placeRole target networksByName) { hostCounter := hostCounter }
  pure { instanceId := target.instanceId
         instanceRef := target.instanceRef
         teamRef := target.teamRef
         desired := ⟨networks, placing.nodes, placing.edges ++ monitorEdges placing.nodes⟩ }

/-- `SimulatorPlugin.plan`, its instances. -/
def plan [Unicode] (spec : Spec) (targets : List TargetInstance) :
    Except PlanError (List InstancePlan) :=
  if spec.accepted then (sortedBy TargetInstance.teamIndex targets).mapM (planInstance spec)
  else .error .schemaValidation

/-! ## Elements -/

def attributesSchemaVersion : Str := str "secp-recon/attributes/v1"

/-- `facet_digest`: the content address of an attribute map. -/
def facetDigest (attributes : List (Str × Str)) : Str :=
  documentDigest attributesSchemaVersion (.obj [(str "attributes",
    .obj (attributes.map fun entry => (entry.1, .str entry.2)))])

def TopologyNetwork.element (network : TopologyNetwork) : StateElement :=
  ⟨.network, network.ref, [
    (.name, network.name),
    (.addressSpace, network.cidr),
    (.isolation, if network.isolated then str "isolated" else str "shared"),
    (.teamBinding, network.teamRef.getD [])]⟩

def TopologyNode.element (node : TopologyNode) : StateElement :=
  ⟨.node, node.ref, [
    (.name, node.name),
    (.nodeClass, node.kind.value),
    (.role, node.role),
    (.image, node.image),
    (.networkAttachment, node.networkRef),
    (.address, node.ipAddress),
    (.attributes, facetDigest node.attributes)]⟩

def TopologyEdge.element (edge : TopologyEdge) : StateElement :=
  ⟨.edge, encodeEdgeRef edge.sourceRef edge.targetRef edge.kind.value, []⟩

/-- `topology_elements`. -/
def topologyElements (topology : InstanceTopology) : List StateElement :=
  topology.networks.map TopologyNetwork.element ++ topology.nodes.map TopologyNode.element ++
    topology.edges.map TopologyEdge.element

end Secp.Scenario
