import Secp.Proxmox.Network

/-!
# The workload compiler

`compileWorkload` places the guests of a catalog template onto a compiled network, team by team and
workload by workload, and draws every identifier from the ledger the network was compiled with. A
prerequisite that can be checked before anything is allocated ends the compilation at once; what is
found missing inside the loops is collected with the blocked allocations and refused at the end.
-/

namespace Secp.Proxmox

open Secp.Python Secp.Logic

/-! ## The product definition -/

inductive ComponentRole where
  | target
  | scoring
  | support
  deriving DecidableEq, Repr

structure CatalogComponent where
  key : Str
  role : ComponentRole
  deriving DecidableEq

structure CatalogChallenge where
  key : Str
  flags : List Str
  deriving DecidableEq

structure CatalogTemplate where
  slug : Str
  components : List CatalogComponent
  challenges : List CatalogChallenge
  deriving DecidableEq

/-! ## Requests -/

def storageContentImages : Str := str "images"

def maxBootstrapOperations : Nat := 10

def attackerWorkloadKey : Str := str "attacker"

def floatingTags : List Str :=
  [str "latest", str "main", str "master", str "stable", str "edge", [], str "dev", str "nightly"]

def maxNamePart : Nat := 16

/-- `^[a-z0-9]+:[0-9a-f]{32,128}$`. -/
def isDigest (s : Str) : Bool :=
  endsAt (fun s =>
    let algorithm := s.takeWhile fun c => isAsciiLower c || isAsciiDigit c
    match s.drop algorithm.length with
    | ':' :: hex =>
        !algorithm.isEmpty && 32 ≤ hex.length && hex.length ≤ 128 &&
          hex.all fun c => isAsciiDigit c || (97 ≤ c.toNat && c.toNat ≤ 102)
    | _ => false) s

inductive WorkloadRole where
  | attacker
  | target
  | sensor
  deriving DecidableEq, Repr

def WorkloadRole.value : WorkloadRole → Str
  | .attacker => str "attacker"
  | .target => str "target"
  | .sensor => str "sensor"

/-- `_ROLE_SEGMENT`. -/
def WorkloadRole.segment : WorkloadRole → SegmentRole
  | .attacker => .attacker
  | .target => .vulnerable
  | .sensor => .sensor

inductive MaterialScope where
  | range
  | team
  | guest
  deriving DecidableEq, Repr

def MaterialScope.value : MaterialScope → Str
  | .range => str "range"
  | .team => str "team"
  | .guest => str "guest"

/-- A reference to a value delivered after provisioning; it holds no value. -/
structure MaterialRef where
  ref : Str
  scope : MaterialScope
  purpose : Str
  channel : Str
  complete : ref ≠ [] ∧ purpose ≠ [] ∧ channel ≠ []
  deriving DecidableEq

def MaterialRef.make (ref : Str) (scope : MaterialScope) (purpose channel : Str) :
    Except Raised MaterialRef :=
  if h : ref ≠ [] ∧ purpose ≠ [] ∧ channel ≠ [] then .ok ⟨ref, scope, purpose, channel, h⟩
  else .error (.model (str "a material reference needs a ref, a purpose and a channel"))

structure BootstrapOperation where
  key : Str
  description : Str
  timeoutSeconds : Int
  named : key ≠ [] ∧ description ≠ []
  timeout_pos : 0 < timeoutSeconds

structure GuestProfile where
  cpuCores : Int
  memoryMb : Int
  diskGb : Int
  diskSlot : Str
  sizes_pos : 0 < cpuCores ∧ 0 < memoryMb ∧ 0 < diskGb
  deriving DecidableEq

def GuestProfile.make (cpuCores memoryMb diskGb : Int) (diskSlot : Str) :
    Except Raised GuestProfile :=
  if h : 0 < cpuCores ∧ 0 < memoryMb ∧ 0 < diskGb then .ok ⟨cpuCores, memoryMb, diskGb, diskSlot, h⟩
  else .error (.model (str "a guest profile needs positive cpu, memory and disk"))

section
variable [Unicode]

/-- A reviewed base image bound to a template. -/
structure ReviewedGuestImage where
  workloadKey : Str
  role : WorkloadRole
  templateRef : Str
  workloadVersion : Str
  imageDigest : Str
  approvalReference : Str
  guestKind : GuestKind
  cloneStrategy : CloneStrategy
  servicePort : Int
  workloadKey_ne : workloadKey ≠ []
  version_pinned : lower workloadVersion ∉ floatingTags
  digest_valid : isDigest imageDigest = true
  approvalReference_ne : approvalReference ≠ []

def ReviewedGuestImage.make (workloadKey : Str) (role : WorkloadRole)
    (templateRef workloadVersion imageDigest approvalReference : Str) (guestKind : GuestKind)
    (cloneStrategy : CloneStrategy) (servicePort : Int) : Except Raised ReviewedGuestImage :=
  if hkey : workloadKey = [] then
    .error (.model (str "a reviewed image needs a workload key"))
  else if hversion : lower workloadVersion ∈ floatingTags then
    .error (.model (str "workload " ++ strRepr workloadKey ++ str " is pinned to " ++
      strRepr workloadVersion ++
      str ", which is a floating tag; a reproducible range needs an exact version"))
  else if hdigest : isDigest imageDigest = true then
    if happroval : approvalReference = [] then
      .error (.model (str "workload " ++ strRepr workloadKey ++
        str (" has no approval reference; an unreviewed template is exactly what a " ++
          "reviewed-template requirement excludes")))
    else .ok ⟨workloadKey, role, templateRef, workloadVersion, imageDigest, approvalReference,
      guestKind, cloneStrategy, servicePort, hkey, hversion, hdigest, happroval⟩
  else .error (.model (str "workload " ++ strRepr workloadKey ++
    str (" has no usable image digest; without one the base image cannot be shown to be immutable " ++
      "and the range is not reproducible")))

structure WorkloadRequest where
  organizationId : Str
  targetId : Str
  rangeId : Str
  generation : Int
  operationGeneration : Int
  template : CatalogTemplate
  teamRefs : List Str
  images : List ReviewedGuestImage
  profiles : Dict WorkloadRole GuestProfile
  cloudInitUser : Str
  sshAuthorizedKeys : List Str
  bootstrapOperations : List BootstrapOperation
  materialChannel : Str
  placement : Dict Str Str
  bootstrapDeadlineSeconds : Int
  scoringPort : Int
  pools : IpamPools
  two_teams : 2 ≤ teamRefs.length
  teamRefs_nodup : teamRefs.Nodup
  operations_bounded : bootstrapOperations.length ≤ maxBootstrapOperations
  operations_nodup : (bootstrapOperations.map BootstrapOperation.key).Nodup
  images_nodup : (images.map ReviewedGuestImage.workloadKey).Nodup

def WorkloadRequest.image (request : WorkloadRequest) (workloadKey : Str) :
    Option ReviewedGuestImage :=
  request.images.find? fun image => image.workloadKey = workloadKey

/-! ## Plans -/

/-- What one guest must do before it counts as bootstrapped. -/
structure GuestBootstrapContract where
  guestRef : Str
  vmid : Int
  teamRef : Str
  workloadKey : Str
  workloadVersion : Str
  imageDigest : Str
  operations : List BootstrapOperation
  attestationRef : MaterialRef
  reportAddress : Str
  reportPort : Int
  deadlineSeconds : Int
  probeAddress : Option Str
  probePort : Option Int

structure WorkloadPlan where
  topology : CompiledTopology
  bootstrap : List GuestBootstrapContract
  materials : List MaterialRef
  scoringEndpoints : List (Str × Str × Int)
  challengeKeys : List Str

def workloadOwnership (request : WorkloadRequest) (teamRef : Option Str)
    (kind : RangeResourceKind) : Except Raised Ownership :=
  Ownership.make request.organizationId request.targetId request.rangeId request.generation
    request.operationGeneration kind teamRef

/-- `_workload_keys`: the target components, in catalog order. -/
def workloadKeys (template : CatalogTemplate) : List Str :=
  (template.components.filter fun component => component.role = .target).map CatalogComponent.key

def guestRef (teamRef workloadKey : Str) : Str := teamRef ++ ['/'] ++ workloadKey

/-- One part of a guest name, reduced to label characters. -/
def namePart (part : Str) : Str :=
  stripChar '-' ((subChars (fun c => !(isAsciiLower c || isAsciiDigit c || c = '-')) '-'
    (lower part)).take maxNamePart)

def guestName (rangeId teamRef workloadKey : Str) : Str :=
  let parts := [rangeId, teamRef, workloadKey].map namePart
  let name := join ['-'] (parts.filter fun part => !part.isEmpty)
  let name := match name with
    | [] => 'g' :: name
    | c :: _ => if isAlpha c then name else 'g' :: name
  rstripChar '-' (name.take 63)

/-- Whether a storage was observed to accept disk images. -/
def StorageObservation.acceptsImages (storage : StorageObservation) : Bool :=
  storageContentImages ∈ storage.contentTypes

/-- The online nodes with a storage for disk images. -/
def eligibleNodes (observation : TargetObservation) : List Str :=
  sortedBy id ((observation.onlineNodes.filter fun node =>
    node.storages.any StorageObservation.acceptsImages).map NodeObservation.nodeName)

def storageFor (observation : TargetObservation) (nodeName : Str) : Option Str :=
  match observation.node nodeName with
  | none => none
  | some node =>
      (sortedBy id ((node.storages.filter StorageObservation.acceptsImages).map
        StorageObservation.storageId)).head?

def segmentFor (network : SegregatedNetworkPlan) (teamRef : Str) (role : WorkloadRole) :
    Option VNetSpec :=
  (network.vnetsForTeam teamRef).find? fun vnet => vnet.role = role.segment

def scoringSegment (network : SegregatedNetworkPlan) : Option VNetSpec :=
  network.vnets.find? fun vnet => vnet.role = .scoring

def firstHostText (cidr : Str) : Except Raised Str := do
  let network ← orValueError (Ip.ipNetwork false cidr)
  pure network.firstHost.text

/-! ## Prerequisites -/

def supportMissing (request : WorkloadRequest) : List MissingPrerequisite :=
  let unsupported := (request.template.components.filter fun component =>
    component.role = .support).map CatalogComponent.key
  if unsupported.isEmpty then []
  else [⟨str "proxmox.workload.support_component_unmapped", str "WorkloadRequest.images",
    str "template " ++ strRepr request.template.slug ++ str " declares support component(s) " ++
      listRepr (sortedBy id unsupported) ++
      str (" with no Proxmox equivalent; dropping them silently would stand up a range the " ++
        "catalog does not describe"), by simp, by simp⟩]

def teamsMissing (request : WorkloadRequest) (network : SegregatedNetworkPlan) :
    List MissingPrerequisite :=
  let planned := network.teamRefs
  if (planned.all fun team => team ∈ request.teamRefs) &&
      request.teamRefs.all fun team => team ∈ planned then []
  else [⟨str "proxmox.workload.team_set_mismatch", str "SegregatedNetworkPlan.team_refs",
    str "the network was compiled for teams " ++ listRepr (sortedBy id planned) ++
      str " but the workload requests " ++ listRepr (sortedBy id request.teamRefs) ++
      str "; a guest with no segment cannot be isolated into one", by simp, by simp⟩]

def scoringMissing (network : SegregatedNetworkPlan) : List MissingPrerequisite :=
  match scoringSegment network with
  | some _ => []
  | none => [⟨str "proxmox.workload.no_scoring_segment", str "SegregatedNetworkPlan.vnets",
      str ("the compiled network has no scoring segment; teams would have nowhere to submit " ++
        "flags and no guest could report its bootstrap outcome"), by simp, by simp⟩]

def nodesMissing (observation : TargetObservation) : List MissingPrerequisite :=
  if (eligibleNodes observation).isEmpty then
    [⟨str "proxmox.workload.no_eligible_node", str "NodeObservation.storages",
      str ("no online node was observed with a storage that accepts disk images; a guest cannot " ++
        "be placed and a storage whose content types were not observed is not a candidate"),
      by simp, by simp⟩]
  else []

def targetsMissing (request : WorkloadRequest) : List MissingPrerequisite :=
  if (workloadKeys request.template).isEmpty then
    [⟨str "proxmox.workload.no_target_component", str "CatalogTemplate.components",
      str "template " ++ strRepr request.template.slug ++
        str " declares no target component; there would be nothing for a team to attack",
      by simp, by simp⟩]
  else []

/-- The workloads each team gets: the attacker, the targets and the reviewed sensors. -/
def perTeamKeys (request : WorkloadRequest) : List Str :=
  attackerWorkloadKey :: workloadKeys request.template ++
    sortedBy id ((request.images.filter fun image => image.role = .sensor).map
      ReviewedGuestImage.workloadKey)

/-- What one workload's image lacks. -/
def imageMissing (request : WorkloadRequest) (observation : TargetObservation) (key : Str) :
    List MissingPrerequisite :=
  match request.image key with
  | none => [⟨str "proxmox.workload.image_not_reviewed", str "WorkloadRequest.images",
      str "no reviewed template was supplied for workload " ++ strRepr key ++
        str ("; the compiler will not pick one, because which image boots decides what the " ++
          "range is"), by simp, by simp⟩]
  | some image =>
      (if image.templateRef ∈ observation.templates.map TemplateObservation.templateRef then []
      else [⟨str "proxmox.workload.template_not_observed", str "TargetObservation.templates",
        str "workload " ++ strRepr key ++ str " names template " ++ strRepr image.templateRef ++
          str (", which discovery never observed on this target; cloning a template that may not " ++
            "exist fails at apply with an unhelpful error"), by simp, by simp⟩]) ++
      (if request.profiles.hasKey image.role then []
      else [⟨str "proxmox.workload.profile_missing", str "WorkloadRequest.profiles",
        str "no sizing profile for role " ++ strRepr image.role.value ++
          str ("; the container catalog describes images on a laptop and says nothing about a " ++
            "VM's cpu, memory or disk"), by simp, by simp⟩])

/-- Everything that can be found missing before anything is allocated. -/
def workloadMissing (request : WorkloadRequest) (network : SegregatedNetworkPlan)
    (observation : TargetObservation) : List MissingPrerequisite :=
  supportMissing request ++ teamsMissing request network ++ scoringMissing network ++
    nodesMissing observation ++ targetsMissing request ++
    (perTeamKeys request).flatMap (imageMissing request observation)

/-! ## Guests -/

/-- What the loops have produced so far. -/
structure Produced where
  guests : List GuestSpec
  contracts : List GuestBootstrapContract
  materials : List MaterialRef
  scoringEndpoints : List (Str × Str × Int)
  missing : List MissingPrerequisite

/-- One guest to place: its team and that team's place in order, its workload and its place. -/
structure Slot where
  teamIndex : Nat
  teamRef : Str
  workloadIndex : Nat
  key : Str

def segmentMissing (slot : Slot) (image : ReviewedGuestImage) : MissingPrerequisite :=
  ⟨str "proxmox.workload.segment_missing", str "SegregatedNetworkPlan.vnets",
    str "team " ++ strRepr slot.teamRef ++ str " has no " ++ strRepr image.role.segment.value ++
      str " segment for workload " ++ strRepr slot.key, by simp, by simp⟩

def placementMissing (ref nodeName : Str) : MissingPrerequisite :=
  ⟨str "proxmox.workload.placement_not_eligible", str "NodeObservation.storages",
    str "guest " ++ strRepr ref ++ str " is placed on node " ++ strRepr nodeName ++
      str ", which is not online with an observed image-capable storage", by simp, by simp⟩

def storageMissing (ref nodeName : Str) : MissingPrerequisite :=
  ⟨str "proxmox.workload.storage_not_observed", str "StorageObservation.content_types",
    str "node " ++ strRepr nodeName ++ str " reported no storage accepting " ++
      strRepr storageContentImages ++ str "; guest " ++ strRepr ref ++
      str " has nowhere to put its disk", by simp, by simp⟩

/-- Where a guest goes: its segment, its node and the storage of its disk. -/
structure Place where
  segment : VNetSpec
  nodeName : Str
  storageId : Str

/-- The node proposed for a guest, in turn over the eligible ones. -/
def proposedNode (request : WorkloadRequest) (observation : TargetObservation) (slot : Slot) :
    Except Raised Str :=
  let eligible := eligibleNodes observation
  let ordinal := slot.teamIndex * (perTeamKeys request).length + slot.workloadIndex
  match eligible[ordinal % eligible.length]? with
  | none => .error .lookup
  | some proposed => .ok ((request.placement.get? (guestRef slot.teamRef slot.key)).getD proposed)

/-- The place of a guest, or what is missing for it. -/
def placeGuest (request : WorkloadRequest) (network : SegregatedNetworkPlan)
    (observation : TargetObservation) (slot : Slot) (image : ReviewedGuestImage) :
    Except Raised (MissingPrerequisite ⊕ Place) :=
  match segmentFor network slot.teamRef image.role with
  | none => .ok (.inl (segmentMissing slot image))
  | some segment => do
      let ref := guestRef slot.teamRef slot.key
      let nodeName ← proposedNode request observation slot
      if nodeName ∉ eligibleNodes observation then pure (.inl (placementMissing ref nodeName))
      else
        match storageFor observation nodeName with
        | none => pure (.inl (storageMissing ref nodeName))
        | some storageId => pure (.inr ⟨segment, nodeName, storageId⟩)

/-- Offer a probe address only where the compiled rules let the scoring segment reach it. -/
def probeAddressIfReachable (network : SegregatedNetworkPlan) (fromVnet toAddress : Str)
    (port : Int) : Except Raised (Option Str) :=
  match evaluateFlow network fromVnet ⟨toAddress, some port, str "tcp", .outbound⟩ with
  | .ok .accept => .ok (some toAddress)
  | .ok _ => .ok none
  | .error (.model _) => .ok none
  | .error e => .error e

/-- The guest of a slot whose identifiers were allocated. -/
def buildGuest (request : WorkloadRequest) (network : SegregatedNetworkPlan) (scoring : VNetSpec)
    (ownership : Ownership) (slot : Slot) (image : ReviewedGuestImage) (place : Place) (vmid : Int)
    (mac : Str) (address : Ip.Address) : Except Raised GuestSpec := do
  match request.profiles.get? image.role with
  | none => .error .lookup
  | some profile => do
      let probe ← probeAddressIfReachable network scoring.name address.text image.servicePort
      let disk ← DiskSpec.make profile.diskSlot profile.diskGb place.storageId true false
      let nic ← NicSpec.make 0 place.segment.name mac (str "virtio") true
      let guestAddress ← GuestAddress.make address.text probe
      let cloudInit ← CloudInitSpec.make request.cloudInitUser request.sshAuthorizedKeys [] none
        none
      GuestSpec.make {
        guestRef := guestRef slot.teamRef slot.key
        name := guestName request.rangeId slot.teamRef slot.key
        kind := image.guestKind
        vmid := vmid
        nodeName := place.nodeName
        templateRef := image.templateRef
        cloneStrategy := image.cloneStrategy
        cpuCores := profile.cpuCores
        memoryMb := profile.memoryMb
        disks := [disk]
        nics := [nic]
        address := guestAddress
        ownership := ownership
        cloudInit := some cloudInit
        startOnDeploy := true
        readinessTimeoutSeconds := request.bootstrapDeadlineSeconds }

/-- The contract of a guest, with the reference that attests its report. -/
def buildContract (request : WorkloadRequest) (reportAddress : Str) (slot : Slot)
    (image : ReviewedGuestImage) (guest : GuestSpec) : Except Raised GuestBootstrapContract := do
  let attestation ← MaterialRef.make
    (request.rangeId ++ str "/guest/" ++ guest.guestRef ++ str "/attestation") .guest
    (str "binds an inbound bootstrap report to this guest") request.materialChannel
  pure {
    guestRef := guest.guestRef
    vmid := guest.vmid
    teamRef := slot.teamRef
    workloadKey := slot.key
    workloadVersion := image.workloadVersion
    imageDigest := image.imageDigest
    operations := request.bootstrapOperations
    attestationRef := attestation
    reportAddress := reportAddress
    reportPort := request.scoringPort
    deadlineSeconds := request.bootstrapDeadlineSeconds
    probeAddress := guest.address.probeAddress
    probePort := guest.address.probeAddress.map fun _ => image.servicePort }

def allocateGuestVmid (request : WorkloadRequest) (observation : TargetObservation)
    (ownership : Ownership) (ref : Str) (kind : GuestKind) : Allocator Int :=
  AllocationLedger.allocateVmid ownership ref request.pools observation.vmidsInUse (kind = .lxc)

def allocateGuestMac (observation : TargetObservation) (ownership : Ownership) (ref : Str) :
    Allocator Str :=
  AllocationLedger.allocateMac ownership (ref ++ str "/nic0") observation.macsInUse

def allocateGuestAddress (ownership : Ownership) (ref : Str) (subnet : Ip.Network) :
    Allocator Ip.Address :=
  AllocationLedger.allocateAddress ownership (ref ++ str "/address") subnet .guestAddress none

/-- One turn of the workload loop. -/
def compileGuest (request : WorkloadRequest) (network : SegregatedNetworkPlan)
    (observation : TargetObservation) (scoring : VNetSpec) (reportAddress : Str)
    (ownership : Ownership) (produced : Produced) (slot : Slot) : Compile Produced :=
  match request.image slot.key with
  | none => check (.error .lookup)
  | some image => do
      let place ← check (placeGuest request network observation slot image)
      match place with
      | .inl prerequisite => pure { produced with missing := produced.missing ++ [prerequisite] }
      | .inr place => do
          let ref := guestRef slot.teamRef slot.key
          let vmid ← logRun (allocateGuestVmid request observation ownership ref image.guestKind)
          let mac ← logRun (allocateGuestMac observation ownership ref)
          match vmid, mac with
          | some vmid, some mac => do
              let subnet ← check place.segment.subnet.network
              let address ← allocating (allocateGuestAddress ownership ref subnet)
              let guest ← check (buildGuest request network scoring ownership slot image place vmid
                mac address)
              let contract ← check (buildContract request reportAddress slot image guest)
              pure { produced with
                guests := produced.guests ++ [guest]
                contracts := produced.contracts ++ [contract]
                materials := produced.materials ++ [contract.attestationRef] }
          | _, _ => pure produced

/-- One turn of the team loop. -/
def compileTeam (request : WorkloadRequest) (network : SegregatedNetworkPlan)
    (observation : TargetObservation) (scoring : VNetSpec) (reportAddress : Str)
    (produced : Produced) (team : Str × Nat) : Compile Produced := do
  let ownership ← check (workloadOwnership request (some team.1) .virtualMachine)
  let credentials ← check (MaterialRef.make
    (request.rangeId ++ str "/team/" ++ team.1 ++ str "/credentials") .team
    (str "per-team guest login material") request.materialChannel)
  let produced := { produced with
    materials := produced.materials ++ [credentials]
    scoringEndpoints := produced.scoringEndpoints ++
      [(team.1, reportAddress, request.scoringPort)] }
  (perTeamKeys request).zipIdx.foldlM (fun produced (key, index) =>
    compileGuest request network observation scoring reportAddress ownership produced
      ⟨team.2, team.1, index, key⟩) produced

/-- One reference for each challenge of the catalog. -/
def challengeMaterials (request : WorkloadRequest) : Except Raised (List MaterialRef) :=
  request.template.challenges.mapM fun challenge =>
    MaterialRef.make (request.rangeId ++ str "/challenge/" ++ challenge.key) .range
      (str "flag material for challenge " ++ challenge.key) request.materialChannel

/-- The plan around everything the loops produced. -/
def buildWorkload (request : WorkloadRequest) (network : SegregatedNetworkPlan)
    (observation : TargetObservation) (ownership : Ownership) (ledger : AllocationLedger)
    (produced : Produced) : WorkloadPlan where
  topology := {
    target := observation.identity
    ownership := ownership
    network := network
    guests := sortedBy GuestSpec.guestRef produced.guests
    allocations := ledger.all.map Allocation.asDict }
  bootstrap := sortedBy GuestBootstrapContract.guestRef produced.contracts
  materials := sortedBy (fun material => (material.scope.value, material.ref)) produced.materials
  scoringEndpoints := sortedBy id produced.scoringEndpoints
  challengeKeys := sortedBy id (request.template.challenges.map CatalogChallenge.key)

/-- Refuse with what the loops found missing, or build the plan. -/
def concludeWorkload (request : WorkloadRequest) (network : SegregatedNetworkPlan)
    (observation : TargetObservation) (produced : Produced) :
    Compile (CompileOutcome WorkloadPlan) := do
  let session ← get
  match produced.missing ++ session.blocked with
  | [] => do
      let ownership ← check (workloadOwnership request none .virtualMachine)
      pure (.plan (buildWorkload request network observation ownership session.ledger produced))
  | first :: rest => pure (.blocked ⟨first :: rest, List.cons_ne_nil _ _⟩)

/-- Everything the loops over teams and workloads produce. -/
def produceWorkload (request : WorkloadRequest) (network : SegregatedNetworkPlan)
    (observation : TargetObservation) (scoring : VNetSpec) : Compile Produced := do
  let reportAddress ← check (firstHostText scoring.subnet.cidr)
  let materials ← check (challengeMaterials request)
  (sortedBy id request.teamRefs).zipIdx.foldlM
    (compileTeam request network observation scoring reportAddress) ⟨[], [], materials, [], []⟩

/-- Place every guest, once nothing is missing beforehand. -/
def placeWorkload (request : WorkloadRequest) (network : SegregatedNetworkPlan)
    (observation : TargetObservation) (scoring : VNetSpec) :
    Compile (CompileOutcome WorkloadPlan) := do
  let produced ← produceWorkload request network observation scoring
  concludeWorkload request network observation produced

def workloadProgram (request : WorkloadRequest) (network : SegregatedNetworkPlan)
    (observation : TargetObservation) : Compile (CompileOutcome WorkloadPlan) :=
  match workloadMissing request network observation, scoringSegment network with
  | [], some scoring => placeWorkload request network observation scoring
  | missing, _ => pure (refuse missing)

/-- `compile_workload`: a plan or a refusal, with the ledger it drew on. -/
def compileWorkload (request : WorkloadRequest) (network : SegregatedNetworkPlan)
    (observation : TargetObservation) (ledger : AllocationLedger) :
    Except Raised (CompileOutcome WorkloadPlan × AllocationLedger) :=
  match workloadProgram request network observation ⟨ledger, []⟩ with
  | .ok (outcome, session) => .ok (outcome, session.ledger)
  | .error e => .error e

end

end Secp.Proxmox
