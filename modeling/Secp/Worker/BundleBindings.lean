import Secp.Logic.StateExcept
import Secp.Proxmox.Recompile
import Secp.Proxmox.Manifest
import Secp.Worker.Bundle

/-!
# What a rendered workspace enforces

A security group filters a segment when some resource applies it there. This module says which
resources would, and that the bundle renders none: every group it defines stays unattached,
whatever the compiled network attaches.
-/

namespace Secp.Worker

open Secp.Python Secp.Logic Secp.Proxmox

/-! ## Bindings -/

/-- The keys under which a resource names the groups it applies. -/
def attachmentKeys : List Str := [str "security_group", str "security_groups"]

/-- Whether an attribute applies a group: by name under an attachment key, or by a reference to the
resource that defines it. -/
def AppliesGroup (group key : Str) (value : HclValue) : Prop :=
  (key ∈ attachmentKeys ∧ HclScalar.text group ∈ value.scalars) ∨
    ∃ name, HclScalar.resource securityGroupType (hclLabel group) name ∈ value.scalars

/-- Whether a resource is a group's own definition. -/
def Resource.Defines (group : Str) (r : Resource) : Prop :=
  r.type = securityGroupType ∧ r.label = hclLabel group

def Resource.Applies (group : Str) (r : Resource) : Prop :=
  ∃ a ∈ attributesOf r.body, AppliesGroup group a.1 a.2

/-- Whether a resource concerns an object: it is the object's own, refers to that one, or holds the
object's name. -/
def Resource.Concerns (type label : Str) (name : HclScalar) (r : Resource) : Prop :=
  (r.type = type ∧ r.label = label) ∨ ∃ a ∈ attributesOf r.body,
    name ∈ a.2.scalars ∨ ∃ field, HclScalar.resource type label field ∈ a.2.scalars

def Resource.ConcernsVNet (vnet : VNetSpec) (r : Resource) : Prop :=
  r.Concerns sdnVNetType (hclLabel vnet.name) (.text vnet.name)

def guestType : GuestKind → Str
  | .qemu => qemuGuestType
  | .lxc => lxcGuestType

def Resource.ConcernsGuest (guest : GuestSpec) (r : Resource) : Prop :=
  r.Concerns (guestType guest.kind) (hclLabel guest.guestRef) (.number guest.vmid)

/-- Whether a guest has a NIC on a VNet. -/
def AttachedTo (vnet : VNetSpec) (guest : GuestSpec) : Prop :=
  ∃ nic ∈ guest.nics, nic.vnetName = vnet.name

/-- Whether a workspace has a resource beside a group's own definition that applies the group and
has the property. -/
def SomeApplies (files : List (Str × List HclItem)) (group : Str) (P : Resource → Prop) : Prop :=
  ∃ file ∈ files, ∃ r ∈ resourcesOf file.2, ¬r.Defines group ∧ r.Applies group ∧ P r

/-- Whether a workspace binds a group to a VNet, or to every guest NIC on it. -/
def Binds (files : List (Str × List HclItem)) (guests : List GuestSpec) (vnet : VNetSpec)
    (group : Str) : Prop :=
  SomeApplies files group (Resource.ConcernsVNet vnet) ∨
    ((∃ guest ∈ guests, AttachedTo vnet guest) ∧ ∀ guest ∈ guests, AttachedTo vnet guest →
      SomeApplies files group (Resource.ConcernsGuest guest))

/-- A workspace binds to each VNet of a topology the group the network attaches to it, and no
other. -/
def PreservesAttachment (topology : CompiledTopology) (files : List (Str × List HclItem)) : Prop :=
  ∀ vnet ∈ topology.network.vnets, ∀ group ∈ topology.network.securityGroups,
    topology.network.vnetSecurityGroup.get? vnet.name = some group.name ↔
      Binds files topology.guests vnet group.name

/-! ## Attributes that attach nothing -/

/-- The keys of the attributes a resource of the bundle may have. -/
def resourceKeys : List String :=
  ["id", "nodes", "bridge", "mtu", "zone", "tag", "alias", "vnet", "cidr", "gateway", "snat",
    "name", "comment", "type", "action", "source", "dest", "proto", "dport", "enabled",
    "vm_id", "node_name", "started", "tags", "description", "full", "cores", "dedicated",
    "interface", "datastore_id", "size", "discard", "ssd", "mac_address", "model", "firewall",
    "domain", "servers", "address", "username", "keys"]

theorem resourceKeys_not_attachment : ∀ key ∈ resourceKeys, str key ∉ attachmentKeys := by
  with_unfolding_all decide

/-- An attribute that applies no group at all. -/
def Unattached (key : Str) (value : HclValue) : Prop :=
  key ∉ attachmentKeys ∧ ∀ label name, .resource securityGroupType label name ∉ value.scalars

theorem Unattached.not_applies {group key : Str} {value : HclValue} (h : Unattached key value) :
    ¬AppliesGroup group key value := by
  rintro (⟨hkey, _⟩ | ⟨name, hname⟩)
  · exact h.1 hkey
  · exact h.2 _ name hname

section
variable {key : String} {width : Nat} {rest body : List HclItem}

theorem unattached_attribute {value : HclValue} (h : key ∈ resourceKeys)
    (hvalue : ∀ label name, .resource securityGroupType label name ∉ value.scalars) :
    EveryAttribute Unattached (.attribute width (str key) value :: rest) ↔
      EveryAttribute Unattached rest := by
  rw [everyAttribute_attribute]
  exact and_iff_right ⟨resourceKeys_not_attachment key h, hvalue⟩

@[simp] theorem unattached_text {value : Str} (h : key ∈ resourceKeys) :
    EveryAttribute Unattached (textAttribute width key value :: rest) ↔
      EveryAttribute Unattached rest :=
  unattached_attribute h (by simp [HclValue.scalars])

@[simp] theorem unattached_number {value : Int} (h : key ∈ resourceKeys) :
    EveryAttribute Unattached (numberAttribute width key value :: rest) ↔
      EveryAttribute Unattached rest :=
  unattached_attribute h (by simp [HclValue.scalars])

@[simp] theorem unattached_flag {value : Bool} (h : key ∈ resourceKeys) :
    EveryAttribute Unattached (flagAttribute width key value :: rest) ↔
      EveryAttribute Unattached rest :=
  unattached_attribute h (by simp [HclValue.scalars])

@[simp] theorem unattached_list {values : List Str} (h : key ∈ resourceKeys) :
    EveryAttribute Unattached (listAttribute width key values :: rest) ↔
      EveryAttribute Unattached rest :=
  unattached_attribute h (by simp [HclValue.scalars])

@[simp] theorem unattached_nested {keyword : String} :
    EveryAttribute Unattached (nested keyword body :: rest) ↔
      EveryAttribute Unattached body ∧ EveryAttribute Unattached rest :=
  everyAttribute_block

@[simp] theorem unattached_resource {type label : Str} :
    EveryAttribute Unattached (resource type label body :: rest) ↔
      EveryAttribute Unattached body ∧ EveryAttribute Unattached rest :=
  everyAttribute_block

@[simp] theorem unattached_comments {lines : List String} : EveryAttribute Unattached (comments lines) := by
  induction lines with
  | nil => exact everyAttribute_nil
  | cons line lines ih => exact everyAttribute_comment.mpr ih

@[simp] theorem unattached_header :
    EveryAttribute Unattached (header :: rest) ↔ EveryAttribute Unattached rest :=
  everyAttribute_comment

end

/-! ## The files -/

section
variable [Unicode]

theorem unattached_renderMtu (zone : Json) :
    Returns (renderMtu zone) (EveryAttribute Unattached) := by
  refine .bind_any fun found => ?_
  split
  · exact .pure everyAttribute_nil
  · refine .bind_any fun mtu => .pure ?_
    simp (disch := decide)

theorem unattached_renderZone (zone : Json) :
    Returns (renderZone zone) (EveryAttribute Unattached) := by
  refine .bind_any fun label => .bind_any fun name => .bind_any fun listed => .bind_any fun nodes =>
    .bind_any fun bridge => .bind (unattached_renderMtu zone) fun mtu hmtu => .bind_any fun owner =>
      .bind_any fun stamp => .pure ?_
  simp (disch := decide) [hmtu]

omit [Unicode] in
theorem sdnVNetType_ne : sdnVNetType ≠ securityGroupType := by with_unfolding_all decide

theorem unattached_renderVNet (vnet : Json) :
    Returns (renderVNet vnet) (EveryAttribute Unattached) := by
  refine .bind_any fun label => .bind_any fun subnet => .bind_any fun name =>
    .bind_any fun zoneName => .bind_any fun tag => .bind_any fun vnetAlias => .bind_any fun owner =>
      .bind_any fun stamp => .bind_any fun cidr => .bind_any fun gateway =>
        .bind_any fun routed => .pure ?_
  -- the reference of the subnet is to its VNet
  have hvnet : Unattached (str "vnet")
      (.scalar (.resource sdnVNetType (hclLabel label) (str "id"))) := by
    refine ⟨resourceKeys_not_attachment "vnet" (by decide), fun label' name' hmem => ?_⟩
    rw [HclValue.scalars, List.mem_singleton] at hmem
    injection hmem with htype
    exact sdnVNetType_ne htype.symm
  simp (disch := decide) [everyAttribute_ite, hvnet]

theorem unattached_renderIpSet (ipSet : Json) :
    Returns (renderIpSet ipSet) (EveryAttribute Unattached) := by
  refine .bind_any fun label => .bind_any fun name => .bind_any fun comment =>
    .bind_any fun listed => .bind_any fun cidrs => .pure ?_
  have hcidrs : EveryAttribute Unattached
      (cidrs.map fun cidr => nested "cidr" [textAttribute 4 "name" (literal cidr)]) := by
    induction cidrs with
    | nil => exact everyAttribute_nil
    | cons cidr cidrs ih => simp (disch := decide) [ih]
  simp (disch := decide) [hcidrs]

theorem unattached_optionalAt (rule : Json) {key : String} (hkey : key ∈ resourceKeys) :
    Returns (optionalAt rule key) (EveryAttribute Unattached) := by
  refine .bind_any fun value => .pure ?_
  split
  · exact (unattached_text hkey).mpr everyAttribute_nil
  · exact everyAttribute_nil

theorem unattached_renderRule (rule : Json) :
    Returns (renderRule rule) (EveryAttribute Unattached) := by
  refine .bind_any fun direction => .bind_any fun verdict => .bind_any fun comment =>
    .bind (unattached_optionalAt rule (by decide)) fun source hsource =>
    .bind (unattached_optionalAt rule (by decide)) fun dest hdest =>
    .bind (unattached_optionalAt rule (by decide)) fun proto hproto =>
    .bind (unattached_optionalAt rule (by decide)) fun dport hdport =>
    .bind_any fun enabled => .pure ?_
  simp (disch := decide) [hsource, hdest, hproto, hdport]

theorem unattached_renderSecurityGroup (group : Json) :
    Returns (renderSecurityGroup group) (EveryAttribute Unattached) := by
  refine .bind_any fun label => .bind_any fun name => .bind_any fun comment =>
    .bind_any fun listed => .bind_any fun rules =>
      .bind (.mapM unattached_renderRule rules) fun rendered hrendered => .pure ?_
  simp (disch := decide) [everyAttribute_flatten.mpr hrendered]

theorem unattached_renderFirewall (network : Json) :
    Returns (renderFirewall network) (EveryAttribute Unattached) := by
  refine .bind_any fun listedSets => .bind_any fun ipSets =>
    .bind (.mapM unattached_renderIpSet ipSets) fun sets hsets =>
    .bind_any fun listedGroups => .bind_any fun securityGroups =>
    .bind (.mapM unattached_renderSecurityGroup securityGroups) fun groups hgroups => .pure ?_
  simp [everyAttribute_flatten.mpr hsets, everyAttribute_flatten.mpr hgroups]

theorem unattached_renderVNets (vnets : List Json) :
    Returns (renderVNets vnets) (EveryAttribute Unattached) := by
  refine .bind (.mapM unattached_renderVNet vnets) fun rendered hrendered => .pure ?_
  simp [everyAttribute_flatten.mpr hrendered]

omit [Unicode] in
/-- A reading among the steps of a renderer. -/
theorem returns_lift {α : Type} {c : Except PayloadError α} {P : α → Prop} (h : Returns c P) :
    Returns (liftM c : Rendering α) P := by
  intro a ha
  cases c with
  | error e => cases ha
  | ok b =>
      cases ha
      exact h _ rfl

theorem unattached_renderNetworkDevice (guest : Json) (index : Dict Str Json) (nic : Json) :
    Returns (renderNetworkDevice guest index nic) fun device =>
      EveryAttribute Unattached [device] := by
  refine .bind_any fun name => .bind_any fun mac => .bind_any fun model => .bind_any fun firewall =>
    .pure ?_
  simp (disch := decide)

theorem unattached_renderServers (cloudInit : Json) (width : Nat) :
    Returns (renderServers cloudInit width) (EveryAttribute Unattached) := by
  refine .bind_any fun nameservers => ?_
  split
  · refine .bind_any fun listed => .pure ?_
    simp (disch := decide)
  · exact .pure everyAttribute_nil

theorem unattached_renderCloudInit (guest cloudInit : Json) (index : Dict Str Json) :
    Returns (renderCloudInit guest cloudInit index) (EveryAttribute Unattached) := by
  refine .bind_any fun keys => .bind_any fun _ => .bind_any fun nics => ?_
  split
  · exact .bind_any fun ref => .throw _
  · refine .bind_any fun name => .bind_any fun vnet => .bind_any fun subnet => .bind_any fun addr =>
      .bind_any fun published => .bind_any fun cidr => .bind_any fun len => .bind_any fun search =>
      .bind (returns_lift (unattached_renderServers cloudInit 0)) fun servers hservers => ?_
    refine .bind_any fun routed => .bind_any fun gateway => .bind_any fun user =>
      .bind_any fun sorted => .pure ?_
    -- what the account leaves open is left out
    simp (disch := decide) [everyAttribute_ite, hservers]

theorem unattached_renderAccount (guest : Json) (index : Dict Str Json) :
    Returns (renderAccount guest index) (EveryAttribute Unattached) := by
  refine .bind_any fun cloudInit => ?_
  split
  · refine .bind (unattached_renderCloudInit guest cloudInit index) fun items hitems => .pure ?_
    exact everyAttribute_blank.mpr hitems
  · exact .pure everyAttribute_nil

theorem unattached_renderDisk (disk : Json) :
    Returns (renderDisk disk) fun item => EveryAttribute Unattached [item] := by
  refine .bind_any fun slot => .bind_any fun storage => .bind_any fun size =>
    .bind_any fun discard => .bind_any fun ssd => .pure ?_
  simp (disch := decide)

theorem unattached_renderDisks (guest : Json) :
    Returns (renderDisks guest) (EveryAttribute Unattached) := by
  refine .bind_any fun disks => ?_
  intro items hitems
  exact everyAttribute_iff.mpr (Returns.mapM unattached_renderDisk disks items hitems)

theorem unattached_renderNetworkDevices (guest : Json) (index : Dict Str Json) :
    Returns (renderNetworkDevices guest index) (EveryAttribute Unattached) := by
  refine .bind_any fun nics => ?_
  intro items hitems
  exact everyAttribute_iff.mpr
    (Returns.mapM (unattached_renderNetworkDevice guest index) nics items hitems)

theorem unattached_renderQemuGuest (index : Dict Str Json) (guest : Json) :
    Returns (renderQemuGuest index guest) (EveryAttribute Unattached) := by
  refine .bind_any fun label => .bind_any fun name => .bind_any fun vmid => .bind_any fun node =>
    .bind_any fun started => .bind_any fun owner => .bind_any fun tags => .bind_any fun stamp =>
    .bind_any fun template => .bind_any fun strategy => .bind_any fun cores =>
    .bind_any fun memory => .bind (returns_lift (unattached_renderDisks guest)) fun disks hdisks =>
    .bind (unattached_renderNetworkDevices guest index) fun devices hdevices =>
    .bind (unattached_renderAccount guest index) fun account haccount => .pure ?_
  simp (disch := decide) [hdisks, hdevices, haccount]

theorem unattached_renderQemuGuests (guests vnets : List Json) :
    Returns (renderQemuGuests guests vnets) (EveryAttribute Unattached) := by
  refine .bind_any fun index => ?_
  split
  · refine .pure ?_
    simp
  · refine .bind (.mapM (unattached_renderQemuGuest index) guests) fun rendered hrendered =>
      .pure ?_
    simp [everyAttribute_flatten.mpr hrendered]

theorem unattached_renderLxcDisk (disk : Json) :
    Returns (renderLxcDisk disk) (EveryAttribute Unattached) := by
  refine .bind_any fun storage => .bind_any fun size => .pure ?_
  simp (disch := decide)

theorem unattached_renderLxcDisks (guest : Json) :
    Returns (renderLxcDisks guest) (EveryAttribute Unattached) := by
  refine .bind_any fun disks => .bind (.mapM unattached_renderLxcDisk disks) fun items hitems =>
    .pure ?_
  exact everyAttribute_flatten.mpr hitems

theorem unattached_renderNetworkInterface (guest : Json) (index : Dict Str Json) (nic : Json) :
    Returns (renderNetworkInterface guest index nic) fun item =>
      EveryAttribute Unattached [item] := by
  refine .bind_any fun name => .bind_any fun number => .bind_any fun mac =>
    .bind_any fun firewall => .pure ?_
  simp (disch := decide)

theorem unattached_renderLxcGuest (index : Dict Str Json) (guest : Json) :
    Returns (renderLxcGuest index guest) (EveryAttribute Unattached) := by
  refine .bind_any fun label => .bind_any fun vmid => .bind_any fun node =>
    .bind_any fun started => .bind_any fun owner => .bind_any fun tags => .bind_any fun template =>
    .bind_any fun cores => .bind_any fun memory =>
    .bind (returns_lift (unattached_renderLxcDisks guest)) fun disks hdisks =>
    .bind_any fun nics => .bind (.mapM (unattached_renderNetworkInterface guest index) nics)
      fun interfaces hinterfaces => .pure ?_
  simp (disch := decide) [hdisks, everyAttribute_iff.mpr hinterfaces]

theorem unattached_renderLxcFiles (lxc vnets : List Json) :
    Returns (renderLxcFiles lxc vnets) fun files =>
      ∀ file ∈ files, EveryAttribute Unattached file.2 := by
  unfold renderLxcFiles
  split
  · exact .pure (by simp)
  · refine .bind (P := EveryAttribute Unattached) ?_ fun items hitems => .pure ?_
    · refine .bind_any fun index => .bind (.mapM (unattached_renderLxcGuest index) lxc)
        fun rendered hrendered => .pure ?_
      simp [everyAttribute_flatten.mpr hrendered]
    · simpa using hitems

/-! ## The workspace -/

/-- A file whose resources apply no group. -/
def UnattachedFile (items : List HclItem) : Prop :=
  ∀ r ∈ resourcesOf items, EveryAttribute Unattached r.body

omit [Unicode] in
theorem unattachedFile_of_everyAttribute {items : List HclItem}
    (h : EveryAttribute Unattached items) : UnattachedFile items :=
  fun _ hr => h.resource hr

omit [Unicode] in
/-- A file of settings, variables, locals and outputs declares no resource. -/
theorem unattachedFile_of_none {items : List HclItem} (h : ∀ item ∈ items, resourceOf item = none) :
    UnattachedFile items := by
  intro r hr
  obtain ⟨item, hitem, hsome⟩ := List.mem_filterMap.mp hr
  rw [h item hitem] at hsome
  cases hsome

theorem unattachedFile_renderSegments (vnets : List Json) :
    Returns (renderSegments vnets) UnattachedFile := by
  refine .bind_any fun byTeam => .bind_any fun teams => .pure (unattachedFile_of_none ?_)
  intro item hitem
  rcases List.mem_cons.mp hitem with rfl | hitem
  · rfl
  · cases List.mem_singleton.mp hitem
    rfl

theorem unattachedFile_renderOutputs (zone : Json) (guests : List Json) :
    Returns (renderOutputs zone guests) UnattachedFile := by
  refine .bind_any fun zoneName => .bind_any fun published => .bind_any fun probe =>
    .bind_any fun sorted => .bind_any fun ids => .pure (unattachedFile_of_none ?_)
  simp [header, comments, addressOutput, resourceOf]

theorem unattached_renderWorkspace (desiredState profile : Json) :
    Returns (renderWorkspace desiredState profile) fun files =>
      ∀ file ∈ files, UnattachedFile file.2 := by
  unfold renderWorkspace
  split
  · exact .throw _
  refine .bind_any fun version => .bind_any fun network => ?_
  dsimp only
  split
  · exact .throw_bind _
  refine .bind_any fun zone => ?_
  split
  · exact .throw_bind _
  refine .bind_any fun listed => .bind_any fun vnets => ?_
  split
  · exact .throw_bind _
  refine .bind_any fun listedGuests => .bind_any fun guests =>
    .bind (returns_lift (unattached_renderZone zone)) fun foundation hfoundation =>
    .bind (returns_lift (unattached_renderVNets vnets)) fun range hrange =>
    .bind (returns_lift (unattachedFile_renderSegments vnets)) fun segments hsegments =>
    .bind (returns_lift (unattached_renderFirewall network)) fun firewall hfirewall =>
    .bind (returns_lift (unattachedFile_renderOutputs zone guests)) fun outputs houtputs =>
    .bind_any fun qemu => .bind_any fun lxc => ?_
  split
  · exact .throw_bind _
  refine .bind (unattached_renderQemuGuests qemu vnets) fun qemuFile hqemu =>
    .bind (unattached_renderLxcFiles lxc vnets) fun lxcFiles hlxc => .pure ?_
  intro file hfile
  rcases List.mem_append.mp hfile with hfile | hfile
  · simp only [List.mem_cons, List.not_mem_nil, or_false] at hfile
    rcases hfile with rfl | rfl | rfl | rfl | rfl | rfl | rfl | rfl | rfl
    · exact unattachedFile_of_none (by simp [renderVersions, header, nested, resourceOf])
    · exact unattachedFile_of_none (by simp [renderVariables, header, comments, resourceOf])
    · exact unattachedFile_of_none (by simp [renderProvider, header, resourceOf])
    · exact unattachedFile_of_everyAttribute hfoundation
    · exact unattachedFile_of_everyAttribute hrange
    · exact hsegments
    · exact unattachedFile_of_everyAttribute hfirewall
    · exact houtputs
    · exact unattachedFile_of_everyAttribute hqemu
  · exact unattachedFile_of_everyAttribute (hlxc file hfile)

omit [Unicode] in
theorem not_someApplies {files : List (Str × List HclItem)}
    (hfiles : ∀ file ∈ files, UnattachedFile file.2) {group : Str} {P : Resource → Prop} :
    ¬SomeApplies files group P := by
  rintro ⟨file, hfile, r, hr, _, ⟨a, ha, happlies⟩, _⟩
  exact (hfiles file hfile r hr a ha).not_applies happlies

omit [Unicode] in
theorem not_binds {files : List (Str × List HclItem)}
    (hfiles : ∀ file ∈ files, UnattachedFile file.2) (guests : List GuestSpec) (vnet : VNetSpec)
    (group : Str) : ¬Binds files guests vnet group := by
  rintro (happlies | ⟨⟨guest, hguest, hattached⟩, happlies⟩)
  · exact not_someApplies hfiles happlies
  · exact not_someApplies hfiles (happlies guest hguest hattached)

/-- Whether a network attaches one of its groups to one of its VNets. -/
def SomeAttached (network : SegregatedNetworkPlan) : Prop :=
  ∃ vnet ∈ network.vnets, ∃ group ∈ network.securityGroups,
    network.vnetSecurityGroup.get? vnet.name = some group.name

omit [Unicode] in
theorem not_preservesAttachment {topology : CompiledTopology} {files : List (Str × List HclItem)}
    (hattached : SomeAttached topology.network) (hfiles : ∀ file ∈ files, UnattachedFile file.2) :
    ¬PreservesAttachment topology files := by
  intro hpreserves
  obtain ⟨vnet, hvnet, group, hgroup, hget⟩ := hattached
  exact not_binds hfiles _ _ _ ((hpreserves vnet hvnet group hgroup).mp hget)

omit [Unicode] in
/-- A new operation stamps the objects and keeps what is attached to what. -/
theorem someAttached_of_withOperationGeneration {compiled topology : CompiledTopology}
    {generation : Int} (h : withOperationGeneration compiled generation = .ok topology)
    (hattached : SomeAttached compiled.network) : SomeAttached topology.network := by
  obtain ⟨vnet, hvnet, group, hgroup, hget⟩ := hattached
  unfold withOperationGeneration at h
  split at h
  · cases h
    exact ⟨_, List.mem_map_of_mem hvnet, _, List.mem_map_of_mem hgroup, hget⟩
  · cases h

theorem renderBundle_eq_ok {desiredState profile : Json} {texts : List (Str × Str)} :
    renderBundle desiredState profile = .ok texts ↔ ∃ files,
      renderWorkspace desiredState profile = .ok files ∧
        (files.map fun file => (file.1, printItems 0 file.2)) = texts := by
  unfold renderBundle
  cases renderWorkspace desiredState profile <;>
    simp [bind, Except.bind, Pure.pure, Except.pure]

/-- The workspace of a compiled range binds no group to any VNet, so it never enforces what the
compiled network attaches. -/
theorem attachment_not_rendered {request : WebBreachLabRequest} {observation : TargetObservation}
    {ledger ledger' : AllocationLedger} {compiled topology : CompiledTopology}
    {record : Option AllocationLedger} {profile : Json} {texts : List (Str × Str)}
    (hcompile : compileWebBreachLab request observation ledger =
      .ok (.plan compiled.network, ledger'))
    (hstamp : topology = compiled ∨
      ∃ generation, withOperationGeneration compiled generation = .ok topology)
    (hrender : renderBundle (toManifestPayload topology record) profile = .ok texts) :
    ∃ files, renderWorkspace (toManifestPayload topology record) profile = .ok files ∧
      (files.map fun file => (file.1, printItems 0 file.2)) = texts ∧
      (∀ vnet group, ¬Binds files topology.guests vnet group) ∧
      ¬PreservesAttachment topology files := by
  obtain ⟨files, hfiles, htexts⟩ := renderBundle_eq_ok.mp hrender
  have hunattached := unattached_renderWorkspace _ _ files hfiles
  have hattached : SomeAttached topology.network := by
    have hcompiled : SomeAttached compiled.network :=
      exists_attached_of_compileWebBreachLab hcompile
    rcases hstamp with rfl | ⟨generation, hstamp⟩
    · exact hcompiled
    · exact someAttached_of_withOperationGeneration hstamp hcompiled
  exact ⟨files, hfiles, htexts, not_binds hunattached _,
    not_preservesAttachment hattached hunattached⟩

/-- The guests of a range are placed on the network they were compiled for. -/
theorem network_of_compileWorkload {request : WorkloadRequest} {network : SegregatedNetworkPlan}
    {observation : TargetObservation} {ledger ledger' : AllocationLedger} {plan : WorkloadPlan}
    (h : compileWorkload request network observation ledger = .ok (.plan plan, ledger')) :
    plan.topology.network = network := by
  obtain ⟨_, _, _, _, _, _, _, _, hbuilt⟩ := compileWorkload_eq_plan.mp h
  rw [← hbuilt]
  rfl

end

/-! ## The sample range -/

/-- A profile that pins what the bundle targets. -/
def sampleProfile : Json :=
  .obj [
    (str "module_bundle_id", .str bundleId),
    (str "opentofu_version", .str (str "1.8.0")),
    (str "provider_source", .str providerAddress),
    (str "provider_version", .str providerVersion)]

/-- Whether a network and the workload on it both end in a plan, and the manifest of the two
renders. -/
def renderedRange [Unicode]
    (network : Except Raised (CompileOutcome SegregatedNetworkPlan × AllocationLedger))
    (workload : SegregatedNetworkPlan → AllocationLedger →
      Except Raised (CompileOutcome WorkloadPlan × AllocationLedger)) (profile : Json) : Bool :=
  match network with
  | .ok (.plan plan, ledger) =>
      match workload plan ledger with
      | .ok (.plan compiled, ledger) =>
          (renderBundle (toManifestPayload compiled.topology (some ledger)) profile).isOk
      | _ => false
  | _ => false

theorem exists_of_renderedRange [Unicode]
    {network : Except Raised (CompileOutcome SegregatedNetworkPlan × AllocationLedger)}
    {workload : SegregatedNetworkPlan → AllocationLedger →
      Except Raised (CompileOutcome WorkloadPlan × AllocationLedger)} {profile : Json}
    (h : renderedRange network workload profile = true) :
    ∃ plan ledger compiled ledger' texts, network = .ok (.plan plan, ledger) ∧
      workload plan ledger = .ok (.plan compiled, ledger') ∧
      renderBundle (toManifestPayload compiled.topology (some ledger')) profile = .ok texts := by
  unfold renderedRange at h
  split at h
  · rename_i plan ledger
    split at h
    · rename_i compiled ledger' hworkload
      obtain ⟨texts, htexts⟩ := exists_of_isOk h
      exact ⟨plan, ledger, compiled, ledger', texts, rfl, hworkload, htexts⟩
    · cases h
  · cases h

theorem sampleRange_renders : @renderedRange Unicode.ascii
    (@compileWebBreachLab Unicode.ascii (sampleRequest none) equippedObservation
      AllocationLedger.empty)
    (fun network ledger => @compileWorkload Unicode.ascii sampleWorkload network
      equippedObservation ledger) sampleProfile = true := by decide +kernel

/-- The sample range compiles, its bundle renders, and nothing of its isolation is bound. -/
theorem sample_attachment_not_rendered : ∃ network ledger plan ledger' texts,
    @compileWebBreachLab Unicode.ascii (sampleRequest none) equippedObservation
      AllocationLedger.empty = .ok (.plan network, ledger) ∧
    @compileWorkload Unicode.ascii sampleWorkload network equippedObservation ledger =
      .ok (.plan plan, ledger') ∧
    let payload := toManifestPayload plan.topology (some ledger')
    @renderBundle Unicode.ascii payload sampleProfile = .ok texts ∧
    ∃ files, @renderWorkspace Unicode.ascii payload sampleProfile = .ok files ∧
      (files.map fun file => (file.1, printItems 0 file.2)) = texts ∧
      (∀ vnet group, ¬Binds files plan.topology.guests vnet group) ∧
      ¬PreservesAttachment plan.topology files := by
  let _ := Unicode.ascii
  obtain ⟨network, ledger, plan, ledger', texts, hnetwork, hworkload, htexts⟩ :=
    exists_of_renderedRange sampleRange_renders
  have hcompile := hnetwork
  rw [← network_of_compileWorkload hworkload] at hcompile
  exact ⟨network, ledger, plan, ledger', texts, hnetwork, hworkload, htexts,
    attachment_not_rendered hcompile (.inl rfl) htexts⟩

/-- The sample network attaches a group to a VNet, and nothing in its workspace does. -/
theorem sample_isolation_lost : ∃ network ledger plan ledger' files,
    @compileWebBreachLab Unicode.ascii (sampleRequest none) equippedObservation
      AllocationLedger.empty = .ok (.plan network, ledger) ∧
    @compileWorkload Unicode.ascii sampleWorkload network equippedObservation ledger =
      .ok (.plan plan, ledger') ∧
    @renderWorkspace Unicode.ascii (toManifestPayload plan.topology (some ledger'))
      sampleProfile = .ok files ∧
    ∃ vnet ∈ plan.topology.network.vnets, ∃ group ∈ plan.topology.network.securityGroups,
      plan.topology.network.vnetSecurityGroup.get? vnet.name = some group.name ∧
      ¬Binds files plan.topology.guests vnet group.name := by
  let _ := Unicode.ascii
  obtain ⟨network, ledger, plan, ledger', texts, hnetwork, hworkload, htexts⟩ :=
    exists_of_renderedRange sampleRange_renders
  obtain ⟨files, hfiles, _⟩ := renderBundle_eq_ok.mp htexts
  obtain ⟨vnet, hvnet, group, hgroup, hget⟩ := exists_attached_of_compileWebBreachLab hnetwork
  rw [← network_of_compileWorkload hworkload] at hvnet hgroup hget
  exact ⟨network, ledger, plan, ledger', files, hnetwork, hworkload, hfiles, vnet, hvnet, group,
    hgroup, hget, not_binds (unattached_renderWorkspace _ _ files hfiles) _ _ _⟩

end Secp.Worker
