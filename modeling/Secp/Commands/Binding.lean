import Secp.Commands.Authorization
import Secp.Proxmox.Rediscovery
import Secp.Range.Destroy

/-!
# Reading a recorded observation

`readBinding` turns the payload of an observation event back into what the compiler takes. An absent
key stays absent: "not observed" and "observed, and there are none" are different answers. A value of
another type than the compiler declares is refused here, where the source passes it on to the step
that trips over it.
-/

namespace Secp.Commands

open Secp.Python Secp.Range
open Secp.Proxmox (GuestKind CloneStrategy WorkloadRole GuestProfile NodeObservation
  ProxmoxTargetIdentity StorageObservation TargetObservation TemplateObservation)

section
variable [Unicode]

/-- `BindingDecodeError`. -/
def decodeError (message : Str) : Failure := .raised (.model message)

/-- A subscript that becomes a text. -/
def itemText (payload : Json) (key : Str) : Except Failure Str := do
  let value ← reading (payload.getItem key)
  pure value.text

/-- A subscript that becomes a number. -/
def itemInt (payload : Json) (key : Str) : Except Failure Int := do
  let value ← reading (payload.getItem key)
  reading value.toInt

/-- `payload.get(key)`. -/
def getField (payload : Json) (key : Str) : Except Failure Json :=
  reading (payload.getOr key .null)

/-- What a loop over `payload.get(key) or ()` visits. -/
def getElements (payload : Json) (key : Str) : Except Failure (List Json) := do
  let value ← getField payload key
  if value.truthy then reading value.elements else pure []

/-! ## The compiler's types -/

def asText : Json → Except Failure Str
  | .str text => .ok text
  | _ => .error (.unreadable .typeError)

def asOptionalInt : Json → Except Failure (Option Int)
  | .null => .ok none
  | .int n => .ok (some n)
  | _ => .error (.unreadable .typeError)

def asOptionalBool : Json → Except Failure (Option Bool)
  | .null => .ok none
  | .bool b => .ok (some b)
  | _ => .error (.unreadable .typeError)

/-- `tuple(payload.get(key) or ())`. -/
def getTexts (payload : Json) (key : Str) : Except Failure (List Str) := do
  let elements ← getElements payload key
  elements.mapM asText

/-- The member of an enumeration with a value. -/
def member {α : Type} (members : List α) (value : α → Str) (raw : Json) : Except Failure α :=
  match members.find? fun candidate => .str (value candidate) = raw with
  | some found => .ok found
  | none => .error (.unreadable .valueError)

/-- `type(value).__name__`. -/
def typeName : Json → Str
  | .null => str "NoneType"
  | .bool _ => str "bool"
  | .int _ => str "int"
  | .str _ => str "str"
  | .arr _ => str "list"
  | .obj _ => str "dict"

/-- `_as_tuple`. -/
def asTuple : Json → Except Failure (Option (List Json))
  | .null => .ok none
  | .arr items => .ok (some items)
  | value => .error (decodeError (str "expected a list or null, got " ++ typeName value))

/-- `_as_tuple(payload.get(key))`, each entry read. -/
def getTuple {α : Type} (read : Json → Except Failure α) (payload : Json) (key : Str) :
    Except Failure (Option (List α)) := do
  let value ← getField payload key
  match ← asTuple value with
  | none => pure none
  | some items => do
      let entries ← items.mapM read
      pure (some entries)

/-! ## The observation -/

def guestKinds : List GuestKind := [.qemu, .lxc]

def cloneStrategies : List CloneStrategy := [.full, .linked]

def readGuestKind (payload : Json) : Except Failure GuestKind := do
  let raw ← reading (payload.getOr (str "guest_kind") (.str GuestKind.qemu.value))
  member guestKinds GuestKind.value raw

def readIdentity (payload : Json) : Except Failure ProxmoxTargetIdentity := do
  let targetId ← itemText payload (str "target_id")
  let clusterName ← itemText payload (str "cluster_name")
  let clusterFingerprint ← itemText payload (str "cluster_fingerprint")
  let managementCidrs ← getTexts payload (str "management_cidrs")
  let managementBridges ← getTexts payload (str "management_bridges")
  raising (ProxmoxTargetIdentity.make targetId clusterName clusterFingerprint managementCidrs managementBridges)

def readStorage (storage : Json) : Except Failure StorageObservation := do
  let storageId ← itemText storage (str "storage_id")
  let contentTypes ← getTexts storage (str "content_types")
  let availableBytes ← asOptionalInt (← getField storage (str "available_bytes"))
  let shared ← asOptionalBool (← getField storage (str "shared"))
  pure ⟨storageId, contentTypes, availableBytes, shared⟩

def readNode (node : Json) : Except Failure NodeObservation := do
  let nodeName ← itemText node (str "node_name")
  let online ← reading (node.getItem (str "online"))
  let cpuCoresTotal ← asOptionalInt (← getField node (str "cpu_cores_total"))
  let memoryBytesTotal ← asOptionalInt (← getField node (str "memory_bytes_total"))
  let storages ← (← getElements node (str "storages")).mapM readStorage
  let bridges ← getTexts node (str "bridges")
  pure ⟨nodeName, online.truthy, cpuCoresTotal, memoryBytesTotal, storages, bridges⟩

def readTemplate (item : Json) : Except Failure TemplateObservation := do
  let templateRef ← itemText item (str "template_ref")
  let vmid ← itemInt item (str "vmid")
  let nodeName ← itemText item (str "node_name")
  let guestKind ← readGuestKind item
  pure ⟨templateRef, vmid, nodeName, guestKind⟩

/-- `read_observation`. -/
def readObservation (payload : Json) : Except Failure TargetObservation := do
  let identityPayload ← getField payload (str "identity")
  raiseIf (!identityPayload.isObject)
    (decodeError (str "recorded observation has no target identity"))
  let identity ← readIdentity identityPayload
  let nodes ← (← getElements payload (str "nodes")).mapM readNode
  let templates ← (← getElements payload (str "templates")).mapM readTemplate
  let readInt := fun raw : Json => reading raw.toInt
  let vlanTags ← getTuple readInt payload (str "vlan_tags_in_use")
  let vmids ← getTuple readInt payload (str "vmids_in_use")
  let sdnSupported ← asOptionalBool (← getField payload (str "sdn_supported"))
  let firewallSupported ← asOptionalBool (← getField payload (str "firewall_supported"))
  let macs ← getTuple asText payload (str "macs_in_use")
  let subnets ← getTuple asText payload (str "subnets_in_use")
  let sdnNames ← getTuple asText payload (str "sdn_names_in_use")
  let firewallNames ← getTuple asText payload (str "firewall_names_in_use")
  pure {
    identity := identity
    nodes := nodes
    templates := templates
    sdnSupported := sdnSupported
    firewallSupported := firewallSupported
    vlanTagsInUse := vlanTags
    vmidsInUse := vmids
    macsInUse := macs
    subnetsInUse := subnets
    sdnNamesInUse := sdnNames
    firewallNamesInUse := firewallNames }

/-! ## The binding -/

def workloadRoles : List WorkloadRole := [.attacker, .target, .sensor]

def readTeam (team : Json) : Except Failure Proxmox.TeamRequest := do
  let teamRef ← itemText team (str "team_ref")
  let label ← getField team (str "label")
  let includeSensor ← reading (team.getOr (str "include_sensor") (.bool false))
  raising (Proxmox.TeamRequest.make teamRef (if label.truthy then label.text else teamRef)
    includeSensor.truthy)

def readImage (image : Json) : Except Failure Proxmox.ReviewedGuestImage := do
  let workloadKey ← itemText image (str "workload_key")
  let role ← member workloadRoles WorkloadRole.value (← reading (image.getItem (str "role")))
  let templateRef ← itemText image (str "template_ref")
  let workloadVersion ← itemText image (str "workload_version")
  let imageDigest ← itemText image (str "image_digest")
  let approvalReference ← itemText image (str "approval_reference")
  let guestKind ← readGuestKind image
  let rawStrategy ← reading (image.getOr (str "clone_strategy") (.str CloneStrategy.full.value))
  let cloneStrategy ← member cloneStrategies CloneStrategy.value rawStrategy
  let rawPort ← reading (image.getOr (str "service_port") (.int 80))
  let servicePort ← reading rawPort.toInt
  raising (Proxmox.ReviewedGuestImage.make workloadKey role templateRef workloadVersion imageDigest
    approvalReference guestKind cloneStrategy servicePort)

def readProfile (entry : Str × Json) : Except Failure (WorkloadRole × GuestProfile) := do
  let role ← member workloadRoles WorkloadRole.value (.str entry.1)
  let cpuCores ← itemInt entry.2 (str "cpu_cores")
  let memoryMb ← itemInt entry.2 (str "memory_mb")
  let diskGb ← itemInt entry.2 (str "disk_gb")
  let diskSlot ← reading (entry.2.getOr (str "disk_slot") (.str (str "scsi0")))
  let profile ← raising (GuestProfile.make cpuCores memoryMb diskGb diskSlot.text)
  pure (role, profile)

/-- `(payload.get("profiles") or {}).items()`, each read. -/
def readProfiles (payload : Json) : Except Failure (Dict WorkloadRole GuestProfile) := do
  let profiles ← getField payload (str "profiles")
  let entries ← reading (profiles.orElse (.obj [])).pairs
  entries.mapM readProfile

def readReviewedPath (path : Json) : Except Failure Proxmox.ControlPlaneReviewedPath := do
  let destCidr ← itemText path (str "dest_cidr")
  let proto ← itemText path (str "proto")
  let dport ← itemText path (str "dport")
  let justification ← itemText path (str "justification")
  let approvalReference ← itemText path (str "approval_reference")
  raising (Proxmox.ControlPlaneReviewedPath.make destCidr proto dport justification
    approvalReference)

/-- `_parse_moment`. -/
def parseMoment : Json → Option Int
  | .str text => Datetime.fromIsoformat text
  | _ => none

/-- `read_binding`. -/
def readBinding (payload : Json) : Except Failure RecordedBinding := do
  let recorded ← getField payload (str "observation")
  let observation ← readObservation (recorded.orElse (.obj []))
  let teams ← (← getElements payload (str "teams")).mapM readTeam
  let images ← (← getElements payload (str "images")).mapM readImage
  let profiles ← readProfiles payload
  let reviewedPaths ← (← getElements payload (str "reviewed_control_plane_paths")).mapM
    readReviewedPath
  let observedAt ← getField payload (str "observed_at")
  let snapshotId ← getField payload (str "snapshot_id")
  let controlPlaneCidrs ← getTexts payload (str "control_plane_cidrs")
  let scoringPort ← reading (payload.getOr (str "scoring_port") (.int 443))
  let scoringPort ← reading scoringPort.toInt
  let generation ← reading (payload.getOr (str "generation") (.int 1))
  let generation ← reading generation.toInt
  let sshAuthorizedKeys ← getTexts payload (str "ssh_authorized_keys")
  pure {
    binding := {
      observation := observation
      teams := teams
      images := images
      profiles := profiles
      controlPlaneCidrs := controlPlaneCidrs
      reviewedControlPlanePaths := reviewedPaths
      scoringPort := scoringPort
      generation := generation
      sshAuthorizedKeys := sshAuthorizedKeys }
    snapshotId := if snapshotId.truthy then some snapshotId.text else none
    observedAt := parseMoment observedAt }

end

/-! ## A recorded sample -/

/-- The sample lab as a worker records it. -/
def samplePayload : Json := .obj [
  (str "observation", .obj [
    (str "identity", .obj [
      (str "target_id", .str (str "t")),
      (str "cluster_name", .str (str "c")),
      (str "cluster_fingerprint", .str (str "f")),
      (str "management_cidrs", .arr [.str (str "192.0.2.0/24")])]),
    (str "nodes", .arr [.obj [
      (str "node_name", .str (str "n")),
      (str "online", .bool true),
      (str "storages", .arr [.obj [
        (str "storage_id", .str (str "s")),
        (str "content_types", .arr [.str (str "images")])]]),
      (str "bridges", .arr [.str (str "b")])]]),
    (str "templates", .arr [.obj [
      (str "template_ref", .str (str "base")),
      (str "vmid", .int 900),
      (str "node_name", .str (str "n"))]]),
    (str "sdn_supported", .bool true),
    (str "firewall_supported", .bool true),
    (str "vlan_tags_in_use", .arr []),
    (str "vmids_in_use", .arr []),
    (str "macs_in_use", .arr []),
    (str "subnets_in_use", .arr []),
    (str "sdn_names_in_use", .arr []),
    (str "firewall_names_in_use", .arr [])]),
  (str "teams", .arr [.obj [(str "team_ref", .str (str "x"))], .obj [(str "team_ref", .str (str "y"))]]),
  (str "images", .arr ([(str "attacker", str "attacker"), (str "web", str "target")].map fun image =>
    Json.obj [
      (str "workload_key", .str image.1),
      (str "role", .str image.2),
      (str "template_ref", .str (str "base")),
      (str "workload_version", .str (str "1")),
      (str "image_digest", .str (str "sha256:00000000000000000000000000000000")),
      (str "approval_reference", .str (str "a"))])),
  (str "profiles", .obj ([str "attacker", str "target"].map fun role => (role,
    Json.obj [(str "cpu_cores", .int 1), (str "memory_mb", .int 512), (str "disk_gb", .int 8)]))),
  (str "observed_at", .str (str "2021-07-30T00:00:00+00:00"))]

/-- The fields of a team request. -/
def teamFields [Unicode] (team : Proxmox.TeamRequest) : Str × Str × Bool :=
  (team.teamRef, team.label, team.includeSensor)

theorem teamFields_injective [Unicode] : Function.Injective teamFields := by
  intro a b h
  cases a
  cases b
  simp only [teamFields, Prod.mk.injEq] at h
  obtain ⟨rfl, rfl, rfl⟩ := h
  rfl

def imageFields [Unicode] (image : Proxmox.ReviewedGuestImage) :
    List Str × Proxmox.WorkloadRole × GuestKind × CloneStrategy × Int :=
  ([image.workloadKey, image.templateRef, image.workloadVersion, image.imageDigest,
    image.approvalReference], image.role, image.guestKind, image.cloneStrategy, image.servicePort)

theorem imageFields_injective [Unicode] : Function.Injective imageFields := by
  intro a b h
  cases a
  cases b
  simp only [imageFields, Prod.mk.injEq, List.cons.injEq] at h
  obtain ⟨⟨rfl, rfl, rfl, rfl, rfl, -⟩, rfl, rfl, rfl, rfl⟩ := h
  rfl

/-- The binding the sample payload holds. -/
def sampleRecorded : @RecordedBinding Unicode.ascii :=
  let _ := Unicode.ascii
  { binding := Proxmox.sampleBinding
    snapshotId := none
    observedAt := some sampleClock.micros }

/-- Whether a payload reads back to a binding, field by field. -/
def readsBackTo [Unicode] (payload : Json) (recorded : RecordedBinding) : Bool :=
  match readBinding payload with
  | .error _ => false
  | .ok found =>
      decide (found.binding.observation = recorded.binding.observation ∧
        found.binding.teams.map teamFields = recorded.binding.teams.map teamFields ∧
        found.binding.images.map imageFields = recorded.binding.images.map imageFields ∧
        found.binding.profiles = recorded.binding.profiles ∧
        found.binding.controlPlaneCidrs = recorded.binding.controlPlaneCidrs ∧
        found.binding.reviewedControlPlanePaths.isEmpty ∧
        found.binding.scoringPort = recorded.binding.scoringPort ∧
        found.binding.generation = recorded.binding.generation ∧
        found.binding.sshAuthorizedKeys = recorded.binding.sshAuthorizedKeys ∧
        found.snapshotId = recorded.snapshotId ∧ found.observedAt = recorded.observedAt)

theorem samplePayload_reads : @readBinding Unicode.ascii samplePayload = .ok sampleRecorded := by
  let _ := Unicode.ascii
  have hreads : readsBackTo samplePayload sampleRecorded = true := by with_unfolding_all decide
  unfold readsBackTo at hreads
  cases hfound : readBinding samplePayload with
  | error failure =>
      rw [hfound] at hreads
      cases hreads
  | ok found =>
      rw [hfound] at hreads
      simp only [decide_eq_true_eq] at hreads
      obtain ⟨hobservation, hteams, himages, hprofiles, hcidrs, hpaths, hport, hgeneration, hkeys,
        hsnapshot, hobserved⟩ := hreads
      have hteams := teamFields_injective.list_map hteams
      have himages := imageFields_injective.list_map himages
      have hpaths := List.isEmpty_iff.mp hpaths
      obtain ⟨binding, snapshotId, observedAt⟩ := found
      cases binding
      dsimp only at *
      subst hobservation hteams himages hprofiles hcidrs hpaths hport hgeneration hkeys hsnapshot
        hobserved
      rfl

/-- The shipped template, with the reader of the control plane. -/
def samplePlanner : @Planner Unicode.ascii :=
  let _ := Unicode.ascii
  { slug := str "lab"
    template := some Proxmox.sampleTemplate
    readBinding := readBinding }

end Secp.Commands
