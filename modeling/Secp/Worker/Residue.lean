import Secp.Worker.Observation

/-!
# Ownership-bounded deletion and the zero-residue proof

What a destroy may delete, what a later observation proves gone, which reservations are released on
that proof, and the verdict over all of it. Decisions are made one absence finding at a time, and
the verdict reads the findings through a dictionary keyed by class and identifier; both collapse
things that differ.
-/

namespace Secp.Worker

open Secp.Python Secp.Proxmox

/-! ## Classes and probe domains -/

/-- Every class of thing a range can leave behind. -/
inductive ResidueClass where
  | qemuVm
  | lxcContainer
  | diskVolume
  | nic
  | sdnZone
  | vnet
  | bridge
  | subnet
  | vlanAssignment
  | firewallGroup
  | firewallRule
  | ipSet
  | firewallAlias
  | cloudInitSnippet
  | bootstrapObject
  | vmidReservation
  | macReservation
  | ipReservation
  | subnetReservation
  | vlanReservation
  | remoteStateKeyReservation
  | transientWorkspace
  | binaryPlanFile
  | temporaryCredentialFile
  | remoteStateObject
  deriving DecidableEq

def ResidueClass.value : ResidueClass → Str
  | .qemuVm => str "qemu_vm"
  | .lxcContainer => str "lxc_container"
  | .diskVolume => str "disk_volume"
  | .nic => str "nic"
  | .sdnZone => str "sdn_zone"
  | .vnet => str "vnet"
  | .bridge => str "bridge"
  | .subnet => str "subnet"
  | .vlanAssignment => str "vlan_assignment"
  | .firewallGroup => str "firewall_group"
  | .firewallRule => str "firewall_rule"
  | .ipSet => str "ip_set"
  | .firewallAlias => str "firewall_alias"
  | .cloudInitSnippet => str "cloud_init_snippet"
  | .bootstrapObject => str "bootstrap_object"
  | .vmidReservation => str "vmid_reservation"
  | .macReservation => str "mac_reservation"
  | .ipReservation => str "ip_reservation"
  | .subnetReservation => str "subnet_reservation"
  | .vlanReservation => str "vlan_reservation"
  | .remoteStateKeyReservation => str "remote_state_key_reservation"
  | .transientWorkspace => str "transient_workspace"
  | .binaryPlanFile => str "binary_plan_file"
  | .temporaryCredentialFile => str "temporary_credential_file"
  | .remoteStateObject => str "remote_state_object"

/-- Which probe can answer for a class. -/
inductive ProbeDomain where
  | provider
  | localArtifact
  | remoteState
  | ledger
  deriving DecidableEq

/-- `CLASS_PROBE_DOMAIN`. -/
def ResidueClass.domain : ResidueClass → ProbeDomain
  | .vmidReservation | .macReservation | .ipReservation | .subnetReservation | .vlanReservation
  | .remoteStateKeyReservation => .ledger
  | .transientWorkspace | .binaryPlanFile | .temporaryCredentialFile => .localArtifact
  | .remoteStateObject => .remoteState
  | _ => .provider

/-- `RESERVATION_ALLOCATION_KIND`. -/
def reservationAllocationKind : List (ResidueClass × List AllocationKind) :=
  [(.vmidReservation, [.vmid, .lxcId]),
    (.macReservation, [.mac]),
    (.ipReservation, [.guestAddress, .gatewayAddress]),
    (.subnetReservation, [.subnet]),
    (.vlanReservation, [.vlanTag]),
    (.remoteStateKeyReservation, [.remoteStateKey])]

/-- `_reservation_class_for`. -/
def reservationClassFor (kind : AllocationKind) : Option ResidueClass :=
  (reservationAllocationKind.find? fun entry => kind ∈ entry.2).map Prod.fst

/-- What a teardown proved about one resource. -/
inductive TeardownResourceOutcome where
  | removed
  | present
  | unproven
  deriving DecidableEq

def TeardownResourceOutcome.value : TeardownResourceOutcome → Str
  | .removed => str "removed"
  | .present => str "present"
  | .unproven => str "unproven"

inductive ResidueVerdict where
  | clean
  | residue
  | unproven
  deriving DecidableEq

/-! ## Records -/

/-- One thing the range's records say it owns. -/
structure OwnedResource where
  residueClass : ResidueClass
  identifier : Str
  address : Option Str := none
  expectedOwnership : Option Ownership := none
  allocationKey : Option AllocationKey := none
  deriving DecidableEq

def OwnedResource.domain (r : OwnedResource) : ProbeDomain := r.residueClass.domain

/-- `_sort_key`. -/
def sortKey (r : OwnedResource) : Str × Str := (r.residueClass.value, r.identifier)

/-- Something at one of the range's identifiers that must not be touched. -/
structure ProtectedResource where
  resource : OwnedResource
  provenance : ObjectProvenance
  detail : Str

/-- Inventory the provider observation does not carry; `none` is not collected. -/
structure SupplementalObservation where
  diskVolumeIds : Option (List Str) := none
  nicMacs : Option (List Str) := none
  bridges : Option (List Str) := none
  subnetCidrs : Option (List Str) := none
  vlanTagsInUse : Option (List Int) := none
  firewallRuleIds : Option (List Str) := none
  firewallAliases : Option (List Str) := none
  cloudInitSnippetIds : Option (List Str) := none
  bootstrapObjectIds : Option (List Str) := none

structure ArtifactProbe where
  readable : Bool
  presentPaths : List Str := []

structure RemoteStateProbe where
  readable : Bool
  presentKeys : List Str := []

structure DeletionSet where
  deletable : List OwnedResource := []
  guarded : List ProtectedResource := []
  alreadyAbsent : List OwnedResource := []
  undetermined : List OwnedResource := []

/-- One resource's outcome with the health of the probe that decided it. -/
structure AbsenceFinding where
  resource : OwnedResource
  outcome : TeardownResourceOutcome
  probeHealthy : Bool
  detail : Str
  deriving DecidableEq

def AbsenceFinding.absenceProved (f : AbsenceFinding) : Bool :=
  f.probeHealthy && f.outcome = .removed

/-- Whether one ledger allocation may be released, and why. -/
structure ReleaseDecision where
  allocationKey : AllocationKey
  residueClass : ResidueClass
  release : Bool
  reason : Str
  deriving DecidableEq

/-! ## Observing one resource -/

section
variable [Unicode]

/-- `_as_int`. -/
def asInt (value : Str) : Int := (intOf value).getD (-1)

def ResidueClass.isGuest : ResidueClass → Bool
  | .qemuVm | .lxcContainer => true
  | _ => false

/-- Whether the identifier stands in an inventory that may not have been collected, as
`(present, observable)`. -/
def inInventory (identifier : Str) : Option (List Str) → Bool × Bool
  | none => (false, false)
  | some source => (decide (identifier ∈ source), true)

/-- `_observe_simple`. -/
def observeSimple (resource : OwnedResource) (observed : ObservedInfrastructure)
    (supplemental : SupplementalObservation) : Bool × Bool :=
  let identifier := resource.identifier
  match resource.residueClass with
  | .sdnZone => (decide (identifier ∈ observed.zones), true)
  | .vnet => (observed.vnets.any fun vnet => vnet.name = identifier, true)
  | .firewallGroup => (decide (identifier ∈ observed.securityGroups), true)
  | .ipSet => (decide (identifier ∈ observed.ipSets), true)
  | .diskVolume => inInventory identifier supplemental.diskVolumeIds
  | .nic => inInventory (upper identifier) (supplemental.nicMacs.map (List.map upper))
  | .bridge => inInventory identifier supplemental.bridges
  | .subnet => inInventory identifier supplemental.subnetCidrs
  | .vlanAssignment => inInventory identifier (supplemental.vlanTagsInUse.map (List.map intStr))
  | .firewallRule => inInventory identifier supplemental.firewallRuleIds
  | .firewallAlias => inInventory identifier supplemental.firewallAliases
  | .cloudInitSnippet => inInventory identifier supplemental.cloudInitSnippetIds
  | .bootstrapObject => inInventory identifier supplemental.bootstrapObjectIds
  | _ => (false, false)

/-! ## What may be deleted -/

/-- The guest standing at a vmid; the last one listed if there are several. -/
def liveGuest (observed : ObservedInfrastructure) (vmid : Int) : Option ObservedGuest :=
  (Dict.ofPairs (observed.guests.map fun guest => (guest.vmid, guest))).get? vmid

def protectedDetail (resource : OwnedResource) (provenance : ObjectProvenance) : Str :=
  str "an object exists at vmid " ++ resource.identifier ++ str " but its ownership reads as " ++
    provenance.value ++ str ("; it is not ours and will not be removed, however closely its name " ++
      "matches what we expected")

/-- The bucket a guest resource falls into. -/
def boundGuest (resource : OwnedResource) (observed : ObservedInfrastructure) (set : DeletionSet) :
    DeletionSet :=
  match liveGuest observed (asInt resource.identifier) with
  | none => { set with alreadyAbsent := set.alreadyAbsent ++ [resource] }
  | some live =>
      match resource.expectedOwnership, live.tags with
      | some expected, some tags =>
          let provenance := isOwnedBySecp (some tags) expected
          if provenance = .secpOwned then { set with deletable := set.deletable ++ [resource] }
          else { set with
            guarded := set.guarded ++ [⟨resource, provenance, protectedDetail resource provenance⟩] }
      | _, _ => { set with undetermined := set.undetermined ++ [resource] }

/-- The bucket one resource falls into. -/
def boundResource (observed : ObservedInfrastructure) (supplemental : SupplementalObservation)
    (set : DeletionSet) (resource : OwnedResource) : DeletionSet :=
  if resource.domain ≠ .provider then { set with deletable := set.deletable ++ [resource] }
  else if resource.residueClass.isGuest then boundGuest resource observed set
  else
    match observeSimple resource observed supplemental with
    | (_, false) => { set with undetermined := set.undetermined ++ [resource] }
    | (true, true) => { set with deletable := set.deletable ++ [resource] }
    | (false, true) => { set with alreadyAbsent := set.alreadyAbsent ++ [resource] }

/-- What a destroy is allowed to delete. -/
def boundDeletionSet (owned : List OwnedResource) (observed : ObservedInfrastructure)
    (supplemental : SupplementalObservation) : DeletionSet :=
  if observed.reachable then
    (sortedBy sortKey owned).foldl (boundResource observed supplemental) {}
  else { undetermined := sortedBy sortKey owned }

/-! ## What is proved gone -/

/-- `_unproven`. -/
def unproven (resource : OwnedResource) (reason : Str) : AbsenceFinding where
  resource := resource
  outcome := .unproven
  probeHealthy := false
  detail := reason ++ str ("; this resource may or may not exist. An unreachable probe returning " ++
    "nothing is not evidence of absence.")

/-- `_present_or_removed`. -/
def presentOrRemoved (resource : OwnedResource) (present probeHealthy : Bool) : AbsenceFinding where
  resource := resource
  outcome := if present then .present else .removed
  probeHealthy := probeHealthy
  detail := resource.residueClass.value ++ str " " ++ strRepr resource.identifier ++
    if present then str " is still present" else str " confirmed absent"

/-- What the probes looked at after the deletion attempts. -/
structure Probes where
  observed : ObservedInfrastructure
  supplemental : SupplementalObservation := {}
  artifacts : ArtifactProbe
  remoteState : RemoteStateProbe

/-- Whether a provider object is still there, as `(present, observable)`. -/
def observeProvider (resource : OwnedResource) (probes : Probes) : Bool × Bool :=
  if resource.residueClass.isGuest then
    (probes.observed.guests.any fun guest => guest.vmid = asInt resource.identifier, true)
  else observeSimple resource probes.observed probes.supplemental

/-- The finding about one resource, if its domain is answered by a probe. -/
def verifyResource (probes : Probes) (resource : OwnedResource) : Option AbsenceFinding :=
  match resource.domain with
  | .ledger => none
  | .provider =>
      if probes.observed.reachable then
        match observeProvider resource probes with
        | (_, false) =>
            some (unproven resource (str "the " ++ resource.residueClass.value ++
              str " inventory was never collected, so absence was not proved"))
        | (present, true) => some (presentOrRemoved resource present true)
      else some (unproven resource (str "the provider could not be observed"))
  | .localArtifact =>
      if probes.artifacts.readable then
        some (presentOrRemoved resource
          (decide (resource.identifier ∈ probes.artifacts.presentPaths)) true)
      else some (unproven resource (str "the worker's own filesystem could not be inspected"))
  | .remoteState =>
      if probes.remoteState.readable then
        some (presentOrRemoved resource
          (decide (resource.identifier ∈ probes.remoteState.presentKeys)) true)
      else some (unproven resource (str "the remote-state backend could not be read"))

/-- One finding for each resource a probe can answer for. -/
def verifyAbsence (expected : List OwnedResource) (probes : Probes) : List AbsenceFinding :=
  (sortedBy sortKey expected).filterMap (verifyResource probes)

/-! ## Releasing reservations -/

/-- `(class, identifier)` pairs of the protected resources. -/
def protectedIdentifiers (guarded : List ProtectedResource) : List (ResidueClass × Str) :=
  guarded.map fun item => (item.resource.residueClass, item.resource.identifier)

/-- The decision one finding leads to, if its resource holds a reservation. -/
def releaseDecision (guarded : List ProtectedResource) (finding : AbsenceFinding) :
    Option ReleaseDecision := do
  let key ← finding.resource.allocationKey
  let residueClass ← reservationClassFor key.2.1
  if (finding.resource.residueClass, finding.resource.identifier) ∈ protectedIdentifiers guarded then
    pure ⟨key, residueClass, false, str ("an object that is not ours occupies this identifier; " ++
      "releasing it would hand the next range an identifier something else already holds")⟩
  else
    pure ⟨key, residueClass, finding.absenceProved,
      if finding.absenceProved then str "absence was proved by a working probe"
      else str "absence was not proved (" ++ finding.outcome.value ++
        str "); the reservation stays held"⟩

def releasableAllocations (findings : List AbsenceFinding) (guarded : List ProtectedResource) :
    List ReleaseDecision :=
  (sortedBy (fun f => sortKey f.resource) findings).filterMap (releaseDecision guarded)

/-- The three groups the decisions are sorted into. -/
structure Releases where
  released : List ReleaseDecision := []
  retained : List ReleaseDecision := []
  alreadyReleased : List ReleaseDecision := []
  deriving DecidableEq

/-- One turn of the release loop. -/
def releaseOne (groups : Releases) (decision : ReleaseDecision) : Allocator Releases := fun ledger =>
  let (scope, kind, purpose) := decision.allocationKey
  if !decision.release then
    .ok ({ groups with retained := groups.retained ++ [decision] }, ledger)
  else if ledger.get scope kind purpose = none then
    .ok ({ groups with alreadyReleased := groups.alreadyReleased ++ [decision] }, ledger)
  else do
    let (_, ledger) ← AllocationLedger.release scope kind purpose decision.release decision.reason
      ledger
    pure ({ groups with released := groups.released ++ [decision] }, ledger)

/-- The loop over the decisions. -/
def releaseLoop : List ReleaseDecision → Releases → Allocator Releases
  | [], groups, ledger => .ok (groups, ledger)
  | decision :: rest, groups, ledger => do
      let (groups, ledger) ← releaseOne groups decision ledger
      releaseLoop rest groups ledger

def releaseProvedAllocations (decisions : List ReleaseDecision) : Allocator Releases :=
  releaseLoop decisions {}

/-! ## The verdict -/

/-- `str` of an allocation key. -/
def allocationKeyText (key : AllocationKey) : Str :=
  let (scope, kind, purpose) := key
  str "(" ++ scopeRepr scope ++ str ", <AllocationKind." ++ kind.value ++ str ": " ++
    strRepr kind.value ++ str ">, " ++ strRepr purpose ++ str ")"

/-- The resource a release decision is graded under. Its identifier leaves the scope out. -/
def ReleaseDecision.resource (decision : ReleaseDecision) : OwnedResource where
  residueClass := decision.residueClass
  identifier := decision.allocationKey.2.1.value ++ str ":" ++ decision.allocationKey.2.2
  allocationKey := some decision.allocationKey

/-- The finding a release decision is graded by. -/
def reservationFinding (releasedKeys : List AllocationKey) (decision : ReleaseDecision) :
    AbsenceFinding :=
  if decision.allocationKey ∈ releasedKeys then
    ⟨decision.resource, .removed, true, str "reservation released after absence was proved"⟩
  else ⟨decision.resource, .unproven, false, str "reservation retained: " ++ decision.reason⟩

/-- The order the decisions are graded in. -/
def inKeyOrder (decisions : List ReleaseDecision) : List ReleaseDecision :=
  sortedBy (fun d => (d.residueClass.value, allocationKeyText d.allocationKey)) decisions

def reservationFindings (decisions released : List ReleaseDecision) : List AbsenceFinding :=
  (inKeyOrder decisions).map (reservationFinding (released.map ReleaseDecision.allocationKey))

/-- What the verdict's loop has seen so far. -/
structure Seen where
  present : Bool
  unproven : Bool

/-- One turn of the verdict's loop. -/
def grade (byIdentity : Dict (Str × Str) AbsenceFinding) (seen : Seen) (resource : OwnedResource) :
    Seen :=
  match byIdentity.get? (sortKey resource) with
  | none => { seen with unproven := true }
  | some finding =>
      if !finding.probeHealthy then { seen with unproven := true }
      else
        match finding.outcome with
        | .present => { seen with present := true }
        | .unproven => { seen with unproven := true }
        | .removed => seen

def residueVerdict (findings : List AbsenceFinding) (expected : List OwnedResource)
    (guarded : List ProtectedResource) : ResidueVerdict :=
  if expected.isEmpty then .unproven
  else
    let byIdentity := Dict.ofPairs (findings.map fun f => (sortKey f.resource, f))
    let seen := expected.foldl (grade byIdentity) ⟨false, !guarded.isEmpty⟩
    if seen.present then .residue else if seen.unproven then .unproven else .clean

def uncoveredClasses (findings : List AbsenceFinding) (expected : List OwnedResource) :
    List ResidueClass :=
  let answered := findings.map fun f => sortKey f.resource
  sortedBy ResidueClass.value
    ((expected.filter fun r => sortKey r ∉ answered).map OwnedResource.residueClass).dedup

/-- The outcome a finding counts under. -/
def AbsenceFinding.effective (f : AbsenceFinding) : TeardownResourceOutcome :=
  if f.probeHealthy then f.outcome else .unproven

/-- How many findings fell under each outcome, class by class. -/
def countByClass (findings : List AbsenceFinding) : Dict Str (Dict Str Nat) :=
  let counts := findings.foldl (fun (byClass : Dict Str (Dict Str Nat)) f =>
    let bucket := (byClass.get? f.resource.residueClass.value).getD []
    byClass.set f.resource.residueClass.value
      (bucket.set f.effective.value ((bucket.get? f.effective.value).getD 0 + 1))) []
  (sortedBy Prod.fst counts).map fun entry => (entry.1, sortedBy Prod.fst entry.2)

/-- The durable record of one destroy. -/
structure ZeroResidueProof where
  verdict : ResidueVerdict
  expectedCount : Nat
  confirmedAbsent : Nat
  stillPresent : Nat
  unproven : Nat
  guarded : List Str
  uncovered : List ResidueClass
  releasedReservations : Nat
  retainedReservations : Nat
  byClass : Dict Str (Dict Str Nat)

def zeroResidueProof (findings : List AbsenceFinding) (expected : List OwnedResource)
    (guarded : List ProtectedResource) (decisions released retained : List ReleaseDecision) :
    ZeroResidueProof :=
  let reservations := reservationFindings decisions released
  let findings := findings ++ reservations
  let expected := expected ++ reservations.map AbsenceFinding.resource
  { verdict := residueVerdict findings expected guarded
    expectedCount := expected.length
    confirmedAbsent := findings.countP fun f => f.effective = .removed
    stillPresent := findings.countP fun f => f.effective = .present
    unproven := findings.countP fun f => f.effective = .unproven
    guarded := sortedBy id (guarded.map fun p =>
      p.resource.residueClass.value ++ str ":" ++ p.resource.identifier)
    uncovered := uncoveredClasses findings expected
    releasedReservations := released.length
    retainedReservations := retained.length
    byClass := countByClass findings }

end

end Secp.Worker
