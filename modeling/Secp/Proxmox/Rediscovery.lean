import Secp.Proxmox.Lifecycle
import Secp.Proxmox.Records

/-!
# Discovery after a deploy

A plan compiles from an empty ledger every time, so what a later observation lists decides whether
the plan moves. Every identifier in a plan is held by its ledger, and every record of the ledger was
free in the observation it was compiled against; hence a plan whose identifiers are listed cannot
come out again, and one of whose identifiers none is listed does.
-/

namespace Secp.Proxmox

open Secp.Python Secp.Logic AllocationLedger

/-- The ledger holds the value under a key of the kind. -/
def Held (ledger : AllocationLedger) (kind : AllocationKind) (value : Str) : Prop :=
  ∃ a ∈ ledger.records, a.kind = kind ∧ a.value = value

theorem Held.mono {ledger ledger' : AllocationLedger} {kind : AllocationKind} {value : Str}
    (h : Held ledger kind value) (hext : Extends ledger ledger') : Held ledger' kind value := by
  obtain ⟨a, ha, hkind, hvalue⟩ := h
  exact ⟨a, hext ha, hkind, hvalue⟩

section
variable [Unicode]

/-! ## The identifiers of a network -/

/-- Every identifier of the network is held by the ledger. -/
structure NetworkHeld (ledger : AllocationLedger) (network : SegregatedNetworkPlan) : Prop where
  zone : Held ledger .zoneName network.zone.name
  vnets : ∀ v ∈ network.vnets, Held ledger .vnetName v.name ∧ Held ledger .subnet v.subnet.cidr
  groups : ∀ g ∈ network.securityGroups, Held ledger .firewallObjectName g.name
  ipSets : ∀ i ∈ network.ipSets, ReservedIpset i.name ∨ Held ledger .firewallObjectName i.name

theorem networkHeld_of_compileWebBreachLab {request : WebBreachLabRequest} {o : TargetObservation}
    {network : SegregatedNetworkPlan} {ledger : AllocationLedger}
    (h : compileWebBreachLab request o AllocationLedger.empty = .ok (.plan network, ledger)) :
    NetworkHeld ledger network := by
  obtain ⟨s, t, htidy, hvnets, ⟨scope, purpose, hzone⟩, hfirewall, hblocked, rfl, _⟩ :=
    run_compileWebBreachLab h
  obtain ⟨hevolves, ownership, shared, sets, howner, hshared, hipSets, hsets, hgroups, _⟩ :=
    run_firewallLoops htidy hvnets hfirewall hblocked
  refine ⟨⟨_, hevolves.keeps hzone, rfl, rfl⟩, fun v hv => ?_, fun g hg => ?_, fun i hi => ?_⟩
  · obtain ⟨segment, _, hsegment⟩ := (hvnets.mono hevolves.keeps).exists_segment hv
    obtain ⟨n, _, hcidr, hsubnet⟩ := hsegment.subnet
    exact ⟨⟨_, hsegment.name, rfl, rfl⟩, ⟨_, hsubnet, rfl, hcidr.symm⟩⟩
  · obtain ⟨v, _, hgroup⟩ := forall₂_exists_left hgroups hg
    exact ⟨_, hgroup.name, rfl, rfl⟩
  · rw [hipSets] at hi
    rcases List.mem_append.mp hi with hi | hi
    · obtain ⟨hpairs, _⟩ := sharedIpSets_eq_ok (ownershipOf_eq_ok howner).1 hshared
      have hpair : (i.name, i.cidrs) ∈ sharedPairs request o := by
        rw [← hpairs]
        exact List.mem_map.mpr ⟨i, hi, rfl⟩
      exact .inl (sharedPairs_reserved hpair)
    · obtain ⟨team, _, hset⟩ := forall₂_exists_left hsets hi
      exact .inr ⟨_, hset.name, rfl, rfl⟩

/-! ## Guest addresses -/

/-- What a run adds to the ledger are no guest addresses. -/
def NoAddress (s t : Session) : Prop :=
  ∀ a ∈ t.ledger.records, a.kind = .guestAddress → a ∈ s.ledger.records

omit [Unicode] in
theorem noAddress_logRun {α : Type} {kind : AllocationKind} (hkind : kind ≠ .guestAddress)
    {act : Allocator α} (hact : AddsOnly kind act) : Keeps NoAddress (logRun act) := by
  intro s v t hrun a ha hother
  rcases run_logRun_eq_ok.mp hrun with ⟨_, ledger, hledger, _, rfl⟩ | ⟨_, _, _, rfl⟩
  · rcases hact _ _ _ hledger a ha with hold | hnew
    · exact hold
    · exact absurd (hnew.symm.trans hother) hkind
  · exact ha

/-- The network compiler records no guest address. -/
theorem no_guestAddress_of_compileWebBreachLab {request : WebBreachLabRequest} {o : TargetObservation}
    {network : SegregatedNetworkPlan} {ledger : AllocationLedger}
    (h : compileWebBreachLab request o AllocationLedger.empty = .ok (.plan network, ledger)) :
    ∀ a ∈ ledger.records, a.kind ≠ .guestAddress :=
  fun a ha => (ofNetwork_of_compileWebBreachLab h a ha).kind

/-! ## The identifiers of a guest -/

/-- The address a record holds lies in the subnet of a VNet. -/
def Placed (network : SegregatedNetworkPlan) (a : Allocation) : Prop :=
  ∃ v ∈ network.vnets, ∃ x, Ip.ipAddress a.value = some x ∧ v.subnet.Contains x

/-- The guest's identifiers are held by the ledger. -/
structure GuestHeld (ledger : AllocationLedger) (guest : GuestSpec) : Prop where
  vmid : ∃ a ∈ ledger.records, a.kind.space = .guestId ∧ intOf a.value = some guest.vmid
  macs : ∀ nic ∈ guest.nics, Held ledger .mac nic.macAddress
  address : ∃ a ∈ ledger.records, a.kind = .guestAddress ∧
    ∃ x, Ip.ipAddress a.value = some x ∧ guest.address.publishedAddress = x.text

theorem GuestHeld.mono {ledger ledger' : AllocationLedger} {guest : GuestSpec}
    (h : GuestHeld ledger guest) (hext : Extends ledger ledger') : GuestHeld ledger' guest := by
  obtain ⟨a, ha, hspace, hvmid⟩ := h.vmid
  obtain ⟨b, hb, hkind, x, hx, hpublished⟩ := h.address
  exact ⟨⟨a, hext ha, hspace, hvmid⟩, fun nic hnic => (h.macs nic hnic).mono hext,
    ⟨b, hext hb, hkind, x, hx, hpublished⟩⟩

theorem make_guest_eq_ok {fields : GuestFields} {guest : GuestSpec}
    (h : GuestSpec.make fields = .ok guest) :
    guest.vmid = fields.vmid ∧ guest.nics = fields.nics ∧ guest.address = fields.address := by
  unfold GuestSpec.make at h
  split at h
  · split at h
    · split at h
      · split at h
        · split at h
          · cases h
            exact ⟨rfl, rfl, rfl⟩
          · cases h
        · cases h
      · cases h
    · cases h
  · cases h

theorem make_nic_eq_ok {index : Int} {vnetName mac model : Str} {firewall : Bool} {nic : NicSpec}
    (h : NicSpec.make index vnetName mac model firewall = .ok nic) : nic.macAddress = mac := by
  unfold NicSpec.make at h
  split at h
  · split at h
    · cases h
      rfl
    · cases h
  · cases h

section
variable {workload : WorkloadRequest} {network : SegregatedNetworkPlan} {o : TargetObservation}
  {scoring : VNetSpec} {reportAddress : Str} {ownership : Ownership} {s t : Session}

/-- What a guest shows of the identifiers it was built around. -/
theorem buildGuest_eq_ok {slot : Slot} {image : ReviewedGuestImage} {place : Place} {vmid : Int}
    {mac : Str} {address : Ip.Address} {guest : GuestSpec}
    (h : buildGuest workload network scoring ownership slot image place vmid mac address =
      .ok guest) :
    guest.vmid = vmid ∧ (∀ nic ∈ guest.nics, nic.macAddress = mac) ∧
      guest.address.publishedAddress = address.text := by
  unfold buildGuest at h
  split at h
  · cases h
  · obtain ⟨probe, _, h⟩ := except_bind_eq_ok.mp h
    obtain ⟨disk, _, h⟩ := except_bind_eq_ok.mp h
    obtain ⟨nic, hnic, h⟩ := except_bind_eq_ok.mp h
    obtain ⟨guestAddress, haddress, h⟩ := except_bind_eq_ok.mp h
    obtain ⟨cloudInit, _, h⟩ := except_bind_eq_ok.mp h
    obtain ⟨hvmid, hnics, hguestAddress⟩ := make_guest_eq_ok h
    refine ⟨hvmid, fun nic' hnic' => ?_, ?_⟩
    · rw [hnics, List.mem_singleton] at hnic'
      rw [hnic']
      exact make_nic_eq_ok hnic
    · rw [hguestAddress]
      unfold GuestAddress.make at haddress
      split at haddress
      · cases haddress
        rfl
      · cases haddress

theorem allocateGuestVmid_recorded {ref : Str} {kind : GuestKind} {v : Int}
    {ledger ledger' : AllocationLedger}
    (h : allocateGuestVmid workload o ownership ref kind ledger = .ok (v, ledger')) :
    ∃ a ∈ ledger'.records, a.kind.space = .guestId ∧ intOf a.value = some v := by
  unfold allocateGuestVmid at h
  cases hvmids : o.vmidsInUse with
  | none =>
      rw [hvmids] at h
      cases h
  | some vmids =>
      have hspace : (guestIdKind (kind = .lxc)).space = .guestId := by cases kind <;> rfl
      rw [hvmids, allocateVmid_some] at h
      rcases allocate_eq_ok_iff.mp h with ⟨a, hget, hvalue, rfl⟩ | ⟨_, _, _, rfl⟩
      · obtain ⟨hmem, hkey⟩ := get_eq_some_iff.mp hget
        have hkind : a.kind = guestIdKind (kind = .lxc) := congrArg (fun k => k.2.1) hkey
        exact ⟨a, hmem, hkind ▸ hspace, orValueError_eq_ok.mp hvalue⟩
      · exact ⟨_, List.mem_append_right _ List.mem_cons_self, hspace, int_of_text_of_int v⟩

theorem allocateGuestMac_recorded {ref mac : Str} {ledger ledger' : AllocationLedger}
    (h : allocateGuestMac o ownership ref ledger = .ok (mac, ledger')) : Held ledger' .mac mac := by
  unfold allocateGuestMac at h
  cases hmacs : o.macsInUse with
  | none =>
      rw [hmacs] at h
      cases h
  | some macs =>
      rw [hmacs, allocateMac_some] at h
      rcases allocate_eq_ok_iff.mp h with ⟨a, hget, hvalue, rfl⟩ | ⟨_, _, _, rfl⟩
      · obtain ⟨hmem, hkey⟩ := get_eq_some_iff.mp hget
        cases hvalue
        exact ⟨a, hmem, congrArg (fun k => k.2.1) hkey, rfl⟩
      · exact ⟨_, List.mem_append_right _ List.mem_cons_self, rfl, rfl⟩

/-- An allocated guest address is recorded, and a new one lies in the subnet. -/
theorem allocateGuestAddress_recorded {ref : Str} {subnet : Ip.Network} {x : Ip.Address}
    {ledger ledger' : AllocationLedger} (hsubnet : subnet.version = .v4)
    (h : allocateGuestAddress ownership ref subnet ledger = .ok (x, ledger')) :
    Extends ledger ledger' ∧
      (∃ a ∈ ledger'.records, a.kind = .guestAddress ∧ Ip.ipAddress a.value = some x) ∧
      ∀ a ∈ ledger'.records, a ∈ ledger.records ∨ (Ip.ipAddress a.value = some x ∧ x ∈ subnet) := by
  unfold allocateGuestAddress allocateAddress at h
  refine ⟨allocate_extends h, ?_⟩
  rcases allocate_eq_ok_iff.mp h with ⟨a, hget, hvalue, rfl⟩ | ⟨_, hchoose, _, rfl⟩
  · obtain ⟨hmem, hkey⟩ := get_eq_some_iff.mp hget
    exact ⟨⟨a, hmem, congrArg (fun k => k.2.1) hkey, orValueError_eq_ok.mp hvalue⟩,
      fun a ha => .inl ha⟩
  · have hread := Ip.ipAddress_text (chooseAddress_v4 hsubnet hchoose)
    refine ⟨⟨_, List.mem_append_right _ List.mem_cons_self, rfl, hread⟩, fun a ha => ?_⟩
    rcases List.mem_append.mp ha with ha | ha
    · exact .inl ha
    · obtain rfl := List.mem_singleton.mp ha
      exact .inr ⟨hread, Ip.mem_of_mem_hosts (chooseAddress_sound hchoose).1⟩

/-! ## The workload loops -/

/-- What the loops maintain: guests are held by the ledger, and guest addresses lie in VNets. -/
structure Produces (network : SegregatedNetworkPlan) (produced : Produced)
    (ledger : AllocationLedger) : Prop where
  guests : ∀ g ∈ produced.guests, GuestHeld ledger g
  placed : ∀ a ∈ ledger.records, a.kind = .guestAddress → Placed network a

theorem Produces.mono {produced : Produced} (h : Produces network produced s.ledger)
    (hext : Extends s.ledger t.ledger) (hnone : NoAddress s t) :
    Produces network produced t.ledger :=
  ⟨fun g hg => (h.guests g hg).mono hext, fun a ha hkind => h.placed a (hnone a ha hkind) hkind⟩

theorem addsOnly_allocateGuestVmid (ref : Str) (kind : GuestKind) :
    AddsOnly (guestIdKind (kind = .lxc)) (allocateGuestVmid workload o ownership ref kind) := by
  unfold allocateGuestVmid
  cases o.vmidsInUse with
  | none => exact addsOnly_error _ _
  | some vmids =>
      rw [allocateVmid_some]
      exact addsOnly_allocate _ _ _ _ _ _

theorem addsOnly_allocateGuestMac (ref : Str) :
    AddsOnly .mac (allocateGuestMac o ownership ref) := by
  unfold allocateGuestMac
  cases o.macsInUse with
  | none => exact addsOnly_error _ _
  | some macs =>
      rw [allocateMac_some]
      exact addsOnly_allocate _ _ _ _ _ _

/-- One turn of the workload loop. -/
theorem ensures_compileGuest (hsubnets : PrintedSubnets network) (produced : Produced)
    (slot : Slot) :
    Ensures (fun s => Produces network produced s.ledger)
      (compileGuest workload network o scoring reportAddress ownership produced slot)
      (fun produced' t => Produces network produced' t.ledger) := by
  intro s produced' t hbefore hrun
  unfold compileGuest at hrun
  split at hrun
  · obtain ⟨herror, _⟩ := run_check_eq_ok.mp hrun
    cases herror
  rename_i image _
  obtain ⟨place, s0, hcheck, hrun⟩ := run_bind_eq_ok.mp hrun
  obtain ⟨hplace, rfl⟩ := run_check_eq_ok.mp hcheck
  cases place with
  | inl prerequisite =>
      obtain ⟨rfl, rfl⟩ := run_pure_eq_ok.mp hrun
      exact ⟨hbefore.guests, hbefore.placed⟩
  | inr place =>
      obtain ⟨vmid, s1, hvmid, hrun⟩ := run_bind_eq_ok.mp hrun
      obtain ⟨mac, s2, hmac, hrun⟩ := run_bind_eq_ok.mp hrun
      have hext1 : Extends s.ledger s1.ledger :=
        (keeps_logRun (grows_allocateVmid _ _ _) _ _ _ hvmid).keeps
      have hext2 : Extends s1.ledger s2.ledger :=
        (keeps_logRun (grows_allocateMac _) _ _ _ hmac).keeps
      have hnone1 : NoAddress s s1 := noAddress_logRun (by
        unfold guestIdKind
        split <;> decide) (addsOnly_allocateGuestVmid _ _) _ _ _ hvmid
      have hnone2 : NoAddress s1 s2 :=
        noAddress_logRun (by decide) (addsOnly_allocateGuestMac _) _ _ _ hmac
      have hmid := (hbefore.mono hext1 hnone1).mono hext2 hnone2
      split at hrun
      · rename_i vmid mac
        obtain ⟨subnet, s3, hcheck3, hrun⟩ := run_bind_eq_ok.mp hrun
        obtain ⟨hsubnet, rfl⟩ := run_check_eq_ok.mp hcheck3
        obtain ⟨address, s4, haddress, hrun⟩ := run_bind_eq_ok.mp hrun
        obtain ⟨guest, s5, hcheck5, hrun⟩ := run_bind_eq_ok.mp hrun
        obtain ⟨hguest, rfl⟩ := run_check_eq_ok.mp hcheck5
        obtain ⟨contract, s6, hcheck6, hrun⟩ := run_bind_eq_ok.mp hrun
        obtain ⟨_, rfl⟩ := run_check_eq_ok.mp hcheck6
        obtain ⟨rfl, rfl⟩ := run_pure_eq_ok.mp hrun
        obtain ⟨l1, hl1, rfl⟩ := run_logRun_some hvmid
        obtain ⟨l2, hl2, rfl⟩ := run_logRun_some hmac
        obtain ⟨l4, hl4, rfl⟩ := run_allocating_eq_ok.mp haddress
        have hsegment := segment_mem_of_placeGuest hplace
        obtain ⟨hext4, hrecorded, hplaced⟩ :=
          allocateGuestAddress_recorded (hsubnets.network_v4 hsegment hsubnet) hl4
        obtain ⟨hgvmid, hgmacs, hgaddress⟩ := buildGuest_eq_ok hguest
        refine ⟨fun g hg => ?_, fun a ha hkind => ?_⟩
        · rcases List.mem_append.mp hg with hg | hg
          · exact (hmid.guests g hg).mono hext4
          · obtain rfl := List.mem_singleton.mp hg
            obtain ⟨b, hb, hspace, hread⟩ := allocateGuestVmid_recorded hl1
            obtain ⟨c, hc, hckind, hcread⟩ := hrecorded
            refine ⟨⟨b, hext4 (hext2 hb), hspace, by rw [hgvmid, hread]⟩, fun nic hnic => ?_,
              ⟨c, hc, hckind, address, hcread, hgaddress⟩⟩
            rw [hgmacs nic hnic]
            exact (allocateGuestMac_recorded hl2).mono hext4
        · rcases hplaced a ha with hold | ⟨hread, hmem⟩
          · exact hmid.placed a hold hkind
          · exact ⟨place.segment, hsegment, address, hread, subnet,
              orValueError_eq_ok.mp hsubnet, hmem⟩
      · obtain ⟨rfl, rfl⟩ := run_pure_eq_ok.mp hrun
        exact hmid

theorem ensures_produceWorkload (hsubnets : PrintedSubnets network) :
    Ensures (fun s => ∀ a ∈ s.ledger.records, a.kind ≠ .guestAddress)
      (produceWorkload workload network o scoring)
      (fun produced t => Produces network produced t.ledger) := by
  intro s produced t hnone hrun
  obtain ⟨reportAddress, s0, hcheck, hrun⟩ := run_bind_eq_ok.mp hrun
  obtain ⟨_, rfl⟩ := run_check_eq_ok.mp hcheck
  obtain ⟨materials, s1, hcheck1, hrun⟩ := run_bind_eq_ok.mp hrun
  obtain ⟨_, rfl⟩ := run_check_eq_ok.mp hcheck1
  refine Ensures.foldlM (fun _ produced t => Produces network produced t.ledger) ?_ _ s produced t
    ⟨fun g hg => (List.not_mem_nil hg).elim, fun a ha hkind => absurd hkind (hnone a ha)⟩ hrun
  intro _ team _ produced _ m produced' t hbefore hteam
  obtain ⟨ownership, s2, hcheck2, hteam⟩ := run_bind_eq_ok.mp hteam
  obtain ⟨_, rfl⟩ := run_check_eq_ok.mp hcheck2
  obtain ⟨credentials, s3, hcheck3, hteam⟩ := run_bind_eq_ok.mp hteam
  obtain ⟨_, rfl⟩ := run_check_eq_ok.mp hcheck3
  refine Ensures.foldlM (fun _ produced t => Produces network produced t.ledger) ?_ _ m produced' t
    ⟨hbefore.guests, hbefore.placed⟩ hteam
  intro _ entry _ produced _
  exact ensures_compileGuest hsubnets produced _

end

/-! ## Compiled plans -/

section
variable {range : RangeInstance} {template : CatalogTemplate} {binding : ProxmoxBinding}
  {plan : CompiledRangePlan}

/-- A compilation that ends in a plan made both requests, compiled both and found no secret. -/
theorem compilePlan_eq_plan :
    compilePlan range template (some binding) = .ok (.plan plan) ↔
      ∃ request network ledger workload compiled ledger',
        networkRequest range binding = .ok request ∧
        compileWebBreachLab request binding.observation AllocationLedger.empty =
          .ok (.plan network, ledger) ∧
        workloadRequest range template binding = .ok workload ∧
        compileWorkload workload network binding.observation ledger =
          .ok (.plan compiled, ledger') ∧
        assemblePlan template binding compiled ledger' = .ok plan := by
  constructor
  · intro h
    obtain ⟨request, hrequest, h⟩ := except_bind_eq_ok.mp h
    split at h
    · rename_i network ledger hnetwork
      obtain ⟨workload, hworkload, h⟩ := except_bind_eq_ok.mp h
      split at h
      · rename_i compiled ledger' hcompiled
        obtain ⟨plan', hplan, h⟩ := except_bind_eq_ok.mp h
        cases h
        exact ⟨request, network, ledger, workload, compiled, ledger', hrequest, hnetwork, hworkload,
          hcompiled, hplan⟩
      · cases h
      · cases h
      · cases h
    · cases h
    · cases h
    · cases h
  · rintro ⟨request, network, ledger, workload, compiled, ledger', hrequest, hnetwork, hworkload,
      hcompiled, hplan⟩
    refine except_bind_eq_ok.mpr ⟨request, hrequest, ?_⟩
    rw [hnetwork]
    refine except_bind_eq_ok.mpr ⟨workload, hworkload, ?_⟩
    rw [hcompiled]
    exact except_bind_eq_ok.mpr ⟨plan, hplan, rfl⟩

theorem assemblePlan_eq_ok {workload : WorkloadPlan} {ledger : AllocationLedger}
    (h : assemblePlan template binding workload ledger = .ok plan) :
    plan.workload = workload ∧ plan.ledger = ledger ∧ plan.binding = binding ∧
      plan.deletionSet = deletionSet (toManifestPayload workload.topology (some ledger)) := by
  obtain ⟨_, _, h⟩ := except_bind_eq_ok.mp h
  cases h
  exact ⟨rfl, rfl, rfl, rfl⟩

/-- What is known of a compiled plan and the observation it was compiled against. -/
structure PlanHeld (o : TargetObservation) (plan : CompiledRangePlan) : Prop where
  settled : Settled o plan.ledger
  network : NetworkHeld plan.ledger plan.workload.topology.network
  subnets : PrintedSubnets plan.workload.topology.network
  guests : ∀ g ∈ plan.workload.topology.guests, GuestHeld plan.ledger g
  placed : ∀ a ∈ plan.ledger.records, a.kind = .guestAddress →
    Placed plan.workload.topology.network a
  deletionSet : plan.deletionSet =
    deletionSet (toManifestPayload plan.workload.topology (some plan.ledger))

omit [Unicode] in
theorem NetworkHeld.mono {ledger ledger' : AllocationLedger} {network : SegregatedNetworkPlan}
    (h : NetworkHeld ledger network) (hext : Extends ledger ledger') :
    NetworkHeld ledger' network :=
  ⟨h.zone.mono hext, fun v hv => ⟨(h.vnets v hv).1.mono hext, (h.vnets v hv).2.mono hext⟩,
    fun g hg => (h.groups g hg).mono hext, fun i hi => (h.ipSets i hi).imp_right (·.mono hext)⟩

theorem planHeld_of_compilePlan (h : compilePlan range template (some binding) = .ok (.plan plan)) :
    PlanHeld binding.observation plan := by
  obtain ⟨request, network, ledger, workload, compiled, ledger', _, hnetwork, _, hcompiled, hplan⟩ :=
    compilePlan_eq_plan.mp h
  obtain ⟨rfl, rfl, _, hdeletion⟩ := assemblePlan_eq_ok hplan
  have htarget : SameTarget binding.observation binding.observation :=
    ⟨rfl, rfl, rfl, rfl, fun _ _ => rfl, rfl⟩
  have hsubnets : PrintedSubnets network := (compiled_of_compileWebBreachLab hnetwork).cidrs
  obtain ⟨hsettled, _, _⟩ := compileWebBreachLab_reruns htarget (Covers.refl _) hnetwork
  obtain ⟨hsettled', hext, _, _⟩ :=
    compileWorkload_reruns htarget (Covers.refl _) hsettled hsubnets hcompiled
  obtain ⟨_, scoring, produced, ownership, _, hproduce, _, _, hbuilt⟩ :=
    compileWorkload_eq_plan.mp hcompiled
  have hproduced := ensures_produceWorkload hsubnets _ _ _
    (no_guestAddress_of_compileWebBreachLab hnetwork) hproduce
  have htopology : plan.workload.topology.network = network ∧
      plan.workload.topology.guests = sortedBy GuestSpec.guestRef produced.guests := by
    rw [← hbuilt]
    exact ⟨rfl, rfl⟩
  constructor
  case settled => exact hsettled'
  case network =>
    rw [htopology.1]
    exact (networkHeld_of_compileWebBreachLab hnetwork).mono hext
  case subnets =>
    rw [htopology.1]
    exact hsubnets
  case guests =>
    intro g hg
    rw [htopology.2] at hg
    exact hproduced.guests g ((sortedBy_perm _ _).mem_iff.mp hg)
  case placed =>
    rw [htopology.1]
    exact hproduced.placed
  case deletionSet => exact hdeletion

/-! ## What the deletion set shows -/

/-- A network object as the deletion set names it. -/
def objectEntry (kind : RangeResourceKind) (name : Str) : Json :=
  .obj [(str "kind", .str kind.value), (str "ref", .str name), (str "name", .str name)]

omit [Unicode] in
theorem objectEntry_inj {kind kind' : RangeResourceKind} {name name' : Str} :
    objectEntry kind name = objectEntry kind' name' ↔ kind = kind' ∧ name = name' := by
  cases kind <;> cases kind' <;> simp [objectEntry, RangeResourceKind.value]

omit [Unicode] in
theorem guestEntry_ne_objectEntry (guest : Json) (kind : RangeResourceKind) (name : Str) :
    Json.obj (guestEntry guest) ≠ objectEntry kind name := by
  simp [guestEntry, objectEntry]

section
variable {topology : CompiledTopology} {ledger : AllocationLedger} {kind : RangeResourceKind}
  {name : Str}

/-- The deletion set of a topology, before it is sorted. -/
theorem deletionSet_perm : (deletionSet (toManifestPayload topology (some ledger))).Perm
    ((sortedBy GuestSpec.guestRef topology.guests).map (fun g => .obj (guestEntry (guestPayload g))) ++
      [objectEntry .sdnZone topology.network.zone.name] ++
      (sortedBy VNetSpec.name topology.network.vnets).map (fun v => objectEntry .vnet v.name) ++
      (sortedBy SecurityGroupSpec.name topology.network.securityGroups).map
        (fun g => objectEntry .firewallGroup g.name) ++
      (sortedBy IpSetSpec.name topology.network.ipSets).map
        (fun i => objectEntry .ipSet i.name)) := by
  have hzone : namedEntry .sdnZone (zonePayload topology.network.zone) =
      objectEntry .sdnZone topology.network.zone.name := by
    simp [namedEntry, objectEntry, zonePayload, Json.field, Dict.get?]
  have hvnet : ∀ v, namedEntry .vnet (vnetPayload v) = objectEntry .vnet v.name := by
    simp [namedEntry, objectEntry, vnetPayload, Json.field, Dict.get?]
  have hgroup : ∀ g, namedEntry .firewallGroup (securityGroupPayload g) =
      objectEntry .firewallGroup g.name := by
    simp [namedEntry, objectEntry, securityGroupPayload, Json.field, Dict.get?]
  have hipSet : ∀ i, namedEntry .ipSet (ipSetPayload i) = objectEntry .ipSet i.name := by
    simp [namedEntry, objectEntry, ipSetPayload, Json.field, Dict.get?]
  have htruthy : (zonePayload topology.network.zone).truthy = true := rfl
  have hnetwork : (toManifestPayload topology (some ledger)).field (str "network") =
      networkPayload topology.network := by
    simp [toManifestPayload, Json.field, Dict.get?]
  have hguests : (toManifestPayload topology (some ledger)).field (str "guests") =
      .arr ((sortedBy GuestSpec.guestRef topology.guests).map guestPayload) := by
    simp [toManifestPayload, Json.field, Dict.get?]
  have hfields : (networkPayload topology.network).field (str "zone") =
        zonePayload topology.network.zone ∧
      (networkPayload topology.network).field (str "vnets") =
        .arr ((sortedBy VNetSpec.name topology.network.vnets).map vnetPayload) ∧
      (networkPayload topology.network).field (str "security_groups") =
        .arr ((sortedBy SecurityGroupSpec.name topology.network.securityGroups).map
          securityGroupPayload) ∧
      (networkPayload topology.network).field (str "ip_sets") =
        .arr ((sortedBy IpSetSpec.name topology.network.ipSets).map ipSetPayload) := by
    simp [networkPayload, Json.field, Dict.get?]
  unfold deletionSet
  simp only [hnetwork, hguests, hfields, htruthy, Json.items, List.map_map, Function.comp_def, hzone,
    hvnet, hgroup, hipSet, if_true]
  exact sortedBy_perm _ _

/-- The network objects the deletion set names are those of the topology. -/
theorem objectEntry_mem_deletionSet :
    objectEntry kind name ∈ deletionSet (toManifestPayload topology (some ledger)) ↔
      (kind = .sdnZone ∧ topology.network.zone.name = name) ∨
      (kind = .vnet ∧ ∃ v ∈ topology.network.vnets, v.name = name) ∨
      (kind = .firewallGroup ∧ ∃ g ∈ topology.network.securityGroups, g.name = name) ∨
      (kind = .ipSet ∧ ∃ i ∈ topology.network.ipSets, i.name = name) := by
  have hsorted : ∀ {α : Type} (key : α → Str) (xs : List α) (x : α),
      x ∈ sortedBy key xs ↔ x ∈ xs := fun key xs x => (sortedBy_perm key xs).mem_iff
  rw [deletionSet_perm.mem_iff]
  simp only [List.mem_append, List.mem_map, List.mem_singleton, hsorted, guestEntry_ne_objectEntry,
    objectEntry_inj]
  grind

end

/-! ## A later observation -/

/-- The later observation of the same target lists more; a network it adds parses. -/
structure Relists (o o' : TargetObservation) : Prop where
  target : SameTarget o o'
  covers : Covers o o'
  vlanTags : o.vlanTagsInUse.getD [] ⊆ o'.vlanTagsInUse.getD []
  vmids : o.vmidsInUse.getD [] ⊆ o'.vmidsInUse.getD []
  macs : o.macsInUse.getD [] ⊆ o'.macsInUse.getD []
  subnets : o.subnetsInUse.getD [] ⊆ o'.subnetsInUse.getD []
  sdnNames : o.sdnNamesInUse.getD [] ⊆ o'.sdnNamesInUse.getD []
  firewallNames : o.firewallNamesInUse.getD [] ⊆ o'.firewallNamesInUse.getD []
  parsed : ∀ cidr ∈ o'.subnetsInUse.getD [], cidr ∈ o.subnetsInUse.getD [] ∨
    (Ip.ipNetwork false cidr).isSome = true

/-- The second inventory holds the first and beyond it only what is the plan's own. -/
def Adds {α : Type} (own : α → Prop) : Option (List α) → Option (List α) → Prop
  | none, none => True
  | some before, some after => before ⊆ after ∧ ∀ x ∈ after, x ∈ before ∨ own x
  | _, _ => False

/-- The later observation differs only in that it also lists identifiers the ledger holds. -/
structure Rediscovers (ledger : AllocationLedger) (o o' : TargetObservation) : Prop where
  rest : { o' with
    vlanTagsInUse := o.vlanTagsInUse
    vmidsInUse := o.vmidsInUse
    macsInUse := o.macsInUse
    subnetsInUse := o.subnetsInUse
    sdnNamesInUse := o.sdnNamesInUse
    firewallNamesInUse := o.firewallNamesInUse } = o
  vlanTags : Adds (fun n => ∃ a ∈ ledger.records, a.kind = .vlanTag ∧ intOf a.value = some n)
    o.vlanTagsInUse o'.vlanTagsInUse
  vmids : Adds (fun n => ∃ a ∈ ledger.records, a.kind.space = .guestId ∧ intOf a.value = some n)
    o.vmidsInUse o'.vmidsInUse
  macs : Adds (Held ledger .mac) o.macsInUse o'.macsInUse
  subnets : Adds (Held ledger .subnet) o.subnetsInUse o'.subnetsInUse
  sdnNames : Adds (fun name => Held ledger .zoneName name ∨ Held ledger .vnetName name)
    o.sdnNamesInUse o'.sdnNamesInUse
  firewallNames : Adds (Held ledger .firewallObjectName) o.firewallNamesInUse o'.firewallNamesInUse

omit [Unicode] in
theorem Adds.isSome {α : Type} {own : α → Prop} {before after : Option (List α)}
    (h : Adds own before after) (hbefore : before.isSome = true) : after.isSome = true := by
  cases before with
  | none => cases hbefore
  | some before =>
      cases after with
      | none => exact h.elim
      | some after => rfl

omit [Unicode] in
theorem Adds.subset {α : Type} {own : α → Prop} {before after : Option (List α)}
    (h : Adds own before after) : before.getD [] ⊆ after.getD [] := by
  cases before with
  | none => exact List.nil_subset _
  | some before =>
      cases after with
      | none => exact h.elim
      | some after => exact h.1

/-- Listing what a plan allocated is one way to list more. -/
theorem Rediscovers.relists {ledger : AllocationLedger} {o o' : TargetObservation}
    (h : Rediscovers ledger o o') (hsound : Sound ledger) : Relists o o' := by
  have hnodes : o'.nodes = o.nodes := by rw [← h.rest]
  constructor
  case target =>
    refine ⟨?_, ?_, ?_, ?_, fun _ _ => ?_, ?_⟩
    · rw [← h.rest]
    · rw [← h.rest]
    · rw [← h.rest]
    · rw [TargetObservation.onlineNodes, TargetObservation.onlineNodes, hnodes]
    · rw [TargetObservation.node, TargetObservation.node, hnodes]
    · rw [← h.rest]
  case covers =>
    exact ⟨h.vlanTags.isSome, h.vmids.isSome, h.macs.isSome, h.subnets.isSome, h.sdnNames.isSome,
      h.firewallNames.isSome⟩
  case vlanTags => exact h.vlanTags.subset
  case vmids => exact h.vmids.subset
  case macs => exact h.macs.subset
  case subnets => exact h.subnets.subset
  case sdnNames => exact h.sdnNames.subset
  case firewallNames => exact h.firewallNames.subset
  case parsed =>
    intro cidr hcidr
    have hadds := h.subnets
    cases hbefore : o.subnetsInUse with
    | none =>
        cases hafter : o'.subnetsInUse with
        | none =>
            rw [hafter] at hcidr
            cases hcidr
        | some after =>
            rw [hbefore, hafter] at hadds
            exact hadds.elim
    | some before =>
        cases hafter : o'.subnetsInUse with
        | none =>
            rw [hbefore, hafter] at hadds
            exact hadds.elim
        | some after =>
            rw [hbefore, hafter] at hadds
            rw [hafter] at hcidr
            rcases hadds.2 cidr hcidr with hold | ⟨a, ha, hkind, rfl⟩
            · exact .inl hold
            · have hcanonical := hsound.canonical a ha
              rw [hkind] at hcanonical
              obtain ⟨n, hversion, htext⟩ := hcanonical
              rw [htext, Ip.ipNetwork_text false hversion]
              exact .inr rfl

/-- The plan compiled against the later observation shows the same guests and the same scopes. -/
def PlanStays (range : RangeInstance) (template : CatalogTemplate) (binding : ProxmoxBinding)
    (plan : CompiledRangePlan) (o' : TargetObservation) : Prop :=
  ∃ plan', compilePlan range template (some { binding with observation := o' }) =
      .ok (.plan plan') ∧
    plan'.workload.topology.guests = plan.workload.topology.guests ∧
    plan'.deletionSet = plan.deletionSet ∧ plan'.resetScope = plan.resetScope ∧
    plan'.destroyHash = plan.destroyHash ∧ plan'.resetHash = plan.resetHash

/-- The observation lists nothing that the guests and the deletion set show. -/
structure ShowsNone (o : TargetObservation) (topology : CompiledTopology) : Prop where
  vmids : ∀ g ∈ topology.guests, g.vmid ∉ o.vmidsInUse.getD []
  macs : ∀ g ∈ topology.guests, ∀ nic ∈ g.nics, nic.macAddress ∉ (o.macsInUse.getD []).map upper
  zone : lower topology.network.zone.name ∉ (o.sdnNamesInUse.getD []).map lower
  vnets : ∀ v ∈ topology.network.vnets, lower v.name ∉ (o.sdnNamesInUse.getD []).map lower
  groups : ∀ g ∈ topology.network.securityGroups,
    lower g.name ∉ (o.firewallNamesInUse.getD []).map lower
  ipSets : ∀ i ∈ topology.network.ipSets, ¬ReservedIpset i.name →
    lower i.name ∉ (o.firewallNamesInUse.getD []).map lower
  /-- A subnet that holds a guest. -/
  subnets : ∀ v ∈ topology.network.vnets, ∀ g ∈ topology.guests, ∀ x,
    Ip.ipAddress g.address.publishedAddress = some x → v.subnet.Contains x →
    v.subnet.cidr ∉ o.subnetsInUse.getD []

section
variable {range : RangeInstance} {template : CatalogTemplate} {binding : ProxmoxBinding}
  {plan : CompiledRangePlan} {o' : TargetObservation}

/-- Requests do not depend on the inventories. -/
theorem requests_eq (range : RangeInstance) (template : CatalogTemplate)
    (hidentity : o'.identity = binding.observation.identity) :
    networkRequest range { binding with observation := o' } = networkRequest range binding ∧
      workloadRequest range template { binding with observation := o' } =
        workloadRequest range template binding := by
  unfold networkRequest workloadRequest
  simp only [hidentity, and_self]

/-- A wider observation that lists none of the plan's records compiles to the same plan. -/
theorem planStays_of_unlisted
    (h : compilePlan range template (some binding) = .ok (.plan plan))
    (hlater : Relists binding.observation o') (hunlisted : ∀ a ∈ plan.ledger.records, Unlisted o' a) :
    PlanStays range template binding plan o' := by
  obtain ⟨request, network, ledger, workload, compiled, ledger', hrequest, hnetwork, hworkload,
    hcompiled, hplan⟩ := compilePlan_eq_plan.mp h
  obtain ⟨_, hscan, hassembled⟩ := except_bind_eq_ok.mp hplan
  cases hassembled
  have hsubnets : PrintedSubnets network := (compiled_of_compileWebBreachLab hnetwork).cidrs
  obtain ⟨hsettled, hsame, _⟩ := compileWebBreachLab_reruns hlater.target hlater.covers hnetwork
  obtain ⟨_, hext, hsame', _⟩ :=
    compileWorkload_reruns hlater.target hlater.covers hsettled hsubnets hcompiled
  -- the first observation's networks parse, since a subnet was chosen against them
  have hparsed : ∀ cidr ∈ binding.observation.subnetsInUse.getD [],
      (Ip.ipNetwork false cidr).isSome = true := by
    obtain ⟨v, hv, _⟩ := (compiled_of_compileWebBreachLab hnetwork).exists_scoring
    obtain ⟨a, ha, hkind, _⟩ := ((networkHeld_of_compileWebBreachLab hnetwork).vnets v hv).2
    exact (hsettled.chosen a ha).parsed hkind
  have hwidens : Widens binding.observation o' :=
    ⟨hlater.vlanTags, hlater.vmids, hlater.macs, hlater.subnets, hlater.sdnNames,
      hlater.firewallNames, fun cidr hcidr => (hlater.parsed cidr hcidr).elim (hparsed cidr) id⟩
  have hclear : Clear binding.observation o' ledger' := ⟨hwidens, hunlisted⟩
  obtain ⟨hnetworkRequest, hworkloadRequest⟩ :=
    requests_eq range template hlater.target.identity
  refine ⟨_, compilePlan_eq_plan.mpr ⟨request, network, ledger, workload, _, _,
    hnetworkRequest.trans hrequest, hsame (hclear.mono hext), hworkloadRequest.trans hworkload,
    hsame' hclear, except_bind_eq_ok.mpr ⟨(), hscan, rfl⟩⟩, rfl, rfl, rfl, rfl, rfl⟩

/-- A plan that stays shows nothing the later observation lists. -/
theorem showsNone_of_planStays (h : compilePlan range template (some binding) = .ok (.plan plan))
    (hstays : PlanStays range template binding plan o') :
    ShowsNone o' plan.workload.topology := by
  obtain ⟨plan', h', hguests, hdeletion, _, _, _⟩ := hstays
  have hheld := planHeld_of_compilePlan h
  have hheld' : PlanHeld o' plan' := planHeld_of_compilePlan h'
  have hfree : ∀ a ∈ plan'.ledger.records, Unlisted o' a :=
    fun a ha => (hheld'.settled.chosen a ha).unlisted
  have hobjects : ∀ kind name,
      objectEntry kind name ∈ plan.deletionSet → objectEntry kind name ∈ plan'.deletionSet :=
    fun kind name hmem => hdeletion ▸ hmem
  rw [hheld.deletionSet, hheld'.deletionSet] at hobjects
  have hsdn : ∀ name, Held plan'.ledger .zoneName name ∨ Held plan'.ledger .vnetName name →
      lower name ∉ (o'.sdnNamesInUse.getD []).map lower := by
    rintro name (⟨a, ha, hkind, rfl⟩ | ⟨a, ha, hkind, rfl⟩)
    · have hunlisted := hfree a ha
      rw [Unlisted, hkind] at hunlisted
      exact hunlisted
    · have hunlisted := hfree a ha
      rw [Unlisted, hkind] at hunlisted
      exact hunlisted
  have hfirewall : ∀ name, Held plan'.ledger .firewallObjectName name →
      lower name ∉ (o'.firewallNamesInUse.getD []).map lower := by
    rintro name ⟨a, ha, hkind, rfl⟩
    have hunlisted := hfree a ha
    rw [Unlisted, hkind] at hunlisted
    exact hunlisted
  constructor
  case vmids =>
    intro g hg
    obtain ⟨a, ha, hspace, hread⟩ := (hheld'.guests g (hguests ▸ hg)).vmid
    have hunlisted := hfree a ha
    rw [Unlisted, hspace] at hunlisted
    exact hunlisted _ hread
  case macs =>
    intro g hg nic hnic
    obtain ⟨a, ha, hkind, hvalue⟩ := (hheld'.guests g (hguests ▸ hg)).macs nic hnic
    have hunlisted := hfree a ha
    rw [Unlisted, hkind] at hunlisted
    exact hvalue ▸ hunlisted
  case zone =>
    have hmem := hobjects .sdnZone _ (objectEntry_mem_deletionSet.mpr (.inl ⟨rfl, rfl⟩))
    rcases objectEntry_mem_deletionSet.mp hmem with ⟨_, hname⟩ | ⟨hk, _⟩ | ⟨hk, _⟩ | ⟨hk, _⟩
    · exact hsdn _ (.inl (hname ▸ hheld'.network.zone))
    all_goals cases hk
  case vnets =>
    intro v hv
    have hmem := hobjects .vnet _ (objectEntry_mem_deletionSet.mpr (.inr (.inl ⟨rfl, v, hv, rfl⟩)))
    rcases objectEntry_mem_deletionSet.mp hmem with ⟨hk, _⟩ | ⟨_, w, hw, hname⟩ | ⟨hk, _⟩ | ⟨hk, _⟩
    · cases hk
    · exact hsdn _ (.inr (hname ▸ (hheld'.network.vnets w hw).1))
    all_goals cases hk
  case groups =>
    intro g hg
    have hmem := hobjects .firewallGroup _
      (objectEntry_mem_deletionSet.mpr (.inr (.inr (.inl ⟨rfl, g, hg, rfl⟩))))
    rcases objectEntry_mem_deletionSet.mp hmem with ⟨hk, _⟩ | ⟨hk, _⟩ | ⟨_, w, hw, hname⟩ | ⟨hk, _⟩
    · cases hk
    · cases hk
    · exact hfirewall _ (hname ▸ hheld'.network.groups w hw)
    · cases hk
  case ipSets =>
    intro i hi hunreserved
    have hmem := hobjects .ipSet _
      (objectEntry_mem_deletionSet.mpr (.inr (.inr (.inr ⟨rfl, i, hi, rfl⟩))))
    rcases objectEntry_mem_deletionSet.mp hmem with ⟨hk, _⟩ | ⟨hk, _⟩ | ⟨hk, _⟩ | ⟨_, j, hj, hname⟩
    · cases hk
    · cases hk
    · cases hk
    · rcases hheld'.network.ipSets j hj with hreserved | hset
      · exact absurd (hname ▸ hreserved) hunreserved
      · exact hfirewall _ (hname ▸ hset)
  case subnets =>
    intro v hv g hg x hx hinside hlisted
    obtain ⟨a, ha, hkind, y, hy, hpublished⟩ := (hheld'.guests g (hguests ▸ hg)).address
    obtain ⟨w, hw, z, hz, m, hm, hzm⟩ := hheld'.placed a ha hkind
    obtain rfl : y = z := Option.some.inj (hy.symm.trans hz)
    -- the guest of both plans has one address, in a subnet of each
    obtain ⟨n', hversion', htext'⟩ := hheld'.subnets w hw
    obtain rfl : n' = m := by
      rw [htext', Ip.ipNetwork_text true hversion'] at hm
      exact Option.some.inj hm
    have hyv4 : y.version = .v4 := (Ip.mem_def.mp hzm).1.trans hversion'
    obtain rfl : y = x := by
      rw [hpublished, Ip.ipAddress_text hyv4] at hx
      exact Option.some.inj hx
    obtain ⟨n, hversion, htext⟩ := hheld.subnets v hv
    obtain ⟨m, hread, hmem⟩ := hinside
    obtain rfl : n = m := by
      rw [htext, Ip.ipNetwork_text true hversion] at hread
      exact Option.some.inj hread
    obtain ⟨b, hb, hbkind, hbvalue⟩ := (hheld'.network.vnets w hw).2
    have hunlisted := hfree b hb
    rw [Unlisted, hbkind, hbvalue, htext'] at hunlisted
    have hoverlap := hunlisted n' (Ip.ipNetwork_text true hversion') _ hlisted n
      (by rw [htext, Ip.ipNetwork_text false hversion])
    rw [Ip.overlaps_iff.mpr ⟨y, hzm, hmem⟩] at hoverlap
    cases hoverlap

/-- A later observation of the same target that lists more, but none of the plan's identifiers,
leaves the plan as it is; and only if it lists none that the plan shows does the plan stay. -/
theorem compilePlan_stays_when_unlisted
    (h : compilePlan range template (some binding) = .ok (.plan plan))
    (hlater : Relists binding.observation o') :
    ((∀ a ∈ plan.ledger.records, Unlisted o' a) → PlanStays range template binding plan o') ∧
      (PlanStays range template binding plan o' → ShowsNone o' plan.workload.topology) :=
  ⟨planStays_of_unlisted h hlater, showsNone_of_planStays h⟩

end

end

end

/-! ## The sample range -/

def sampleRange : RangeInstance := ⟨str "r", str "o"⟩

def sampleBinding : @ProxmoxBinding Unicode.ascii :=
  let _ := Unicode.ascii
  { observation := equippedObservation
    teams := (sampleRequest none).teams
    images := sampleImages
    profiles := sampleProfiles
    controlPlaneCidrs := []
    reviewedControlPlanePaths := []
    scoringPort := 443
    generation := 1
    sshAuthorizedKeys := [] }

/-- No text carries a private key marker. -/
def markerFree (payload : Json) : Bool :=
  payload.strings.all fun s => privateKeyMarkers.all fun marker => !contains marker s

/-- The texts of a manifest are those of its body and the ledger's hash. -/
theorem strings_toManifestPayload {topology : CompiledTopology} {ledger : AllocationLedger}
    (hallocations : topology.allocations = ledger.all.map Allocation.asDict) {s : Str}
    (h : s ∈ (toManifestPayload topology (some ledger)).strings) :
    s ∈ (toManifestPayload topology none).strings ∨ s = ledger.contentHash := by
  simp only [toManifestPayload, Json.strings, Json.stringsFields_append, Json.stringsFields,
    AllocationLedger.toManifest, hallocations, List.mem_append, List.not_mem_nil, or_false,
    List.mem_singleton] at h ⊢
  tauto

/-- A hexadecimal digest carries no marker. -/
theorem contentHash_markerFree (ledger : AllocationLedger) : CleanText [] ledger.contentHash := by
  have hdigit : ∀ n < 16, Nat.digitChar n ≠ 'P' := by decide
  have hhash : 'P' ∉ ledger.contentHash := by
    unfold AllocationLedger.contentHash Sha256.hexdigest
    simp only [List.mem_flatMap, not_exists, not_and]
    intro byte _ hmem
    simp only [hex2, hexDigit, List.mem_cons, List.not_mem_nil, or_false] at hmem
    rcases hmem with hmem | hmem
    · exact hdigit _ (Nat.mod_lt _ (by decide)) hmem.symm
    · exact hdigit _ (Nat.mod_lt _ (by decide)) hmem.symm
  refine ⟨fun marker hmarker => contains_eq_false (c := 'P') ?_ hhash, by simp⟩
  simp only [privateKeyMarkers, str, List.mem_cons, List.not_mem_nil, or_false] at hmarker
  rcases hmarker with rfl | rfl <;> decide

/-- Whether a range compiles to a workload that passes a check, its manifest's body being clean. -/
def plannedWith [Unicode] (range : RangeInstance) (template : CatalogTemplate)
    (binding : ProxmoxBinding) (passes : WorkloadPlan → AllocationLedger → Bool) : Bool :=
  match networkRequest range binding, workloadRequest range template binding with
  | .ok request, .ok workload =>
      match compileWebBreachLab request binding.observation AllocationLedger.empty with
      | .ok (.plan network, ledger) =>
          match compileWorkload workload network binding.observation ledger with
          | .ok (.plan compiled, ledger) =>
              markerFree (toManifestPayload compiled.topology none) && passes compiled ledger
          | _ => false
      | _ => false
  | _, _ => false

/-- Without flags to look for, a clean body is enough for the plan to be assembled. -/
theorem exists_of_plannedWith [Unicode] {range : RangeInstance} {template : CatalogTemplate}
    {binding : ProxmoxBinding} {passes : WorkloadPlan → AllocationLedger → Bool}
    (hflags : flagValues template = [])
    (h : plannedWith range template binding passes = true) :
    ∃ plan, compilePlan range template (some binding) = .ok (.plan plan) ∧
      passes plan.workload plan.ledger = true := by
  unfold plannedWith at h
  split at h
  · rename_i request workload hrequest hworkload
    split at h
    · rename_i network ledger hnetwork
      split at h
      · rename_i compiled ledger' hcompiled
        rw [Bool.and_eq_true] at h
        obtain ⟨_, _, _, _, _, _, _, _, hbuilt⟩ := compileWorkload_eq_plan.mp hcompiled
        have hclean : assertNoDurableSecrets (toManifestPayload compiled.topology (some ledger'))
            (flagValues template) = .ok () := by
          rw [hflags]
          refine (scan_eq_ok_iff _ _).mpr fun s hs => ?_
          rcases strings_toManifestPayload (by rw [← hbuilt]; rfl) hs with hs | rfl
          · have hfree := List.all_eq_true.mp h.1 s hs
            refine ⟨fun marker hmarker => ?_, by simp⟩
            simpa using List.all_eq_true.mp hfree marker hmarker
          · exact contentHash_markerFree ledger'
        exact ⟨_, compilePlan_eq_plan.mpr ⟨request, network, ledger, workload, compiled, ledger',
          hrequest, hnetwork, hworkload, hcompiled, except_bind_eq_ok.mpr ⟨(), hclean, rfl⟩⟩, h.2⟩
      · cases h
    · cases h
  · cases h

/-- The sample range has guests, none of them numbered 100. -/
theorem sampleRange_planned : @plannedWith Unicode.ascii sampleRange sampleTemplate sampleBinding
    (fun compiled ledger => !compiled.topology.guests.isEmpty &&
      ledger.records.all fun a => @intOf Unicode.ascii a.value ≠ some 100) = true := by
  decide +kernel

/-- The sample target once a guest of someone else runs on it. -/
def crowdedObservation : TargetObservation := { equippedObservation with vmidsInUse := some [100] }

/-- The sample plan stays when a foreign guest appears. -/
theorem sample_stays_beside_guest : ∃ plan,
    @compilePlan Unicode.ascii sampleRange sampleTemplate (some sampleBinding) =
      .ok (.plan plan) ∧
    Relists equippedObservation crowdedObservation ∧
    @PlanStays Unicode.ascii sampleRange sampleTemplate sampleBinding plan crowdedObservation ∧
    @ShowsNone Unicode.ascii crowdedObservation
      (@CompiledRangePlan.workload Unicode.ascii plan).topology := by
  let _ := Unicode.ascii
  obtain ⟨plan, hplan, hpasses⟩ := exists_of_plannedWith rfl sampleRange_planned
  have hlater : Relists equippedObservation crowdedObservation :=
    ⟨⟨rfl, rfl, rfl, rfl, fun _ _ => rfl, rfl⟩, ⟨id, id, id, id, id, id⟩, List.Subset.refl _,
      List.nil_subset _, List.Subset.refl _, List.Subset.refl _, List.Subset.refl _,
      List.Subset.refl _, fun _ h => .inl h⟩
  have hunlisted : ∀ a ∈ plan.ledger.records, Unlisted crowdedObservation a := by
    intro a ha
    have hother : intOf a.value ≠ some 100 := by
      simpa using List.all_eq_true.mp (Bool.and_eq_true_iff.mp hpasses).2 a ha
    unfold Unlisted
    split
    · intro n hn hmem
      rw [List.mem_singleton.mp hmem] at hn
      exact hother hn
    · exact fun n _ => List.not_mem_nil
    · exact List.not_mem_nil
    · exact fun n _ cidr hcidr => (List.not_mem_nil hcidr).elim
    · exact List.not_mem_nil
    · exact List.not_mem_nil
    · trivial
    · trivial
  obtain ⟨hstays, hnone⟩ := compilePlan_stays_when_unlisted hplan hlater
  exact ⟨plan, hplan, hlater, hstays hunlisted, hnone (hstays hunlisted)⟩

/-- The sample plan moves once discovery finds the guests it created. -/
theorem sample_moves_when_rediscovered : ∃ plan o',
    @compilePlan Unicode.ascii sampleRange sampleTemplate (some sampleBinding) =
      .ok (.plan plan) ∧
    @Rediscovers Unicode.ascii (@CompiledRangePlan.ledger Unicode.ascii plan)
      equippedObservation o' ∧
    ¬@PlanStays Unicode.ascii sampleRange sampleTemplate sampleBinding plan o' := by
  let _ := Unicode.ascii
  obtain ⟨plan, hplan, hpasses⟩ := exists_of_plannedWith rfl sampleRange_planned
  have hheld := planHeld_of_compilePlan hplan
  let guests := plan.workload.topology.guests
  have hnothing : ∀ {α : Type} (own : α → Prop), Adds own (some []) (some []) :=
    fun _ => ⟨List.nil_subset _, fun _ h => .inl h⟩
  refine ⟨plan, { equippedObservation with vmidsInUse := some (guests.map GuestSpec.vmid) }, hplan,
    ⟨rfl, hnothing _, ⟨List.nil_subset _, fun n hn => .inr ?_⟩, hnothing _, hnothing _, hnothing _,
      hnothing _⟩, fun hstays => ?_⟩
  · obtain ⟨g, hg, rfl⟩ := List.mem_map.mp hn
    exact (hheld.guests g hg).vmid
  · have hsome : guests ≠ [] := by
      simpa using (Bool.and_eq_true_iff.mp hpasses).1
    obtain ⟨g, hg⟩ := List.exists_mem_of_ne_nil guests hsome
    exact (showsNone_of_planStays hplan hstays).vmids g hg (List.mem_map_of_mem hg)

end Secp.Proxmox
