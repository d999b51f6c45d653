import Secp.Proxmox.Placement

/-!
# Which guests a workload compiles to

A workload's slots are its teams and, for each team, its workload keys. The loops fill every slot in
order, with one guest whose identifiers are recorded under keys of its own, on the segment that the
role of the slot's image names. Whether the guests are distinct and rightly placed is then a
question about the request: its keys must not repeat and its images must have the roles of the
components they stand for.
-/

namespace Secp.Proxmox

open Secp.Python Secp.Logic AllocationLedger

section
variable [Unicode]

/-- The slots of a workload, in the order the loops fill them. -/
def slots (workload : WorkloadRequest) : List (Str × Str) :=
  (sortedBy id workload.teamRefs).flatMap fun team =>
    (perTeamKeys workload).map fun key => (team, key)

/-- A record under the key, whose value is as said. -/
def Recorded (ledger : AllocationLedger) (scope : Scope) (kind : AllocationKind) (purpose : Str)
    (P : Str → Prop) : Prop := ∃ a, ledger.get scope kind purpose = some a ∧ P a.value

omit [Unicode] in
theorem Recorded.mono {ledger ledger' : AllocationLedger} {scope : Scope} {kind : AllocationKind}
    {purpose : Str} {P : Str → Prop} (h : Recorded ledger scope kind purpose P)
    (hext : Extends ledger ledger') : Recorded ledger' scope kind purpose P := by
  obtain ⟨a, hget, hvalue⟩ := h
  exact ⟨a, hext.get hget, hvalue⟩

/-- The guest's identifiers are recorded under keys made from its scope and its reference. -/
structure GuestRecorded (ledger : AllocationLedger) (guest : GuestSpec) : Prop where
  vmid : ∃ kind, kind.space = .guestId ∧ Recorded ledger guest.ownership.scopeKey kind
    guest.guestRef fun value => intOf value = some guest.vmid
  nic : ∃ nic, guest.nics = [nic] ∧ Recorded ledger guest.ownership.scopeKey .mac
    (guest.guestRef ++ str "/nic0") fun value => value = nic.macAddress
  address : Recorded ledger guest.ownership.scopeKey .guestAddress
    (guest.guestRef ++ str "/address") fun value =>
      ∃ x, Ip.ipAddress value = some x ∧ guest.address.publishedAddress = x.text

/-- The guest is the one of the slot, on the segment of its image's role. -/
structure GuestOf (workload : WorkloadRequest) (network : SegregatedNetworkPlan) (slot : Str × Str)
    (guest : GuestSpec) : Prop where
  guestRef : guest.guestRef = guestRef slot.1 slot.2
  ownership : workloadOwnership workload (some slot.1) .virtualMachine = .ok guest.ownership
  segment : ∃ image segment, workload.image slot.2 = some image ∧
    segmentFor network slot.1 image.role = some segment ∧
      ∀ nic ∈ guest.nics, nic.vnetName = segment.name

/-- The slot is filled, and the ledger knows how. -/
def Fills (workload : WorkloadRequest) (network : SegregatedNetworkPlan) (ledger : AllocationLedger)
    (slot : Str × Str) (guest : GuestSpec) : Prop :=
  GuestOf workload network slot guest ∧ GuestRecorded ledger guest

theorem GuestRecorded.mono {ledger ledger' : AllocationLedger} {guest : GuestSpec}
    (h : GuestRecorded ledger guest) (hext : Extends ledger ledger') :
    GuestRecorded ledger' guest := by
  obtain ⟨kind, hspace, hvmid⟩ := h.vmid
  obtain ⟨nic, hnic, hmac⟩ := h.nic
  exact ⟨⟨kind, hspace, hvmid.mono hext⟩, ⟨nic, hnic, hmac.mono hext⟩, h.address.mono hext⟩

/-! ## One guest -/

variable {workload : WorkloadRequest} {network : SegregatedNetworkPlan} {o : TargetObservation}
  {scoring : VNetSpec} {reportAddress : Str} {ownership : Ownership} {s t : Session}
  {ledger ledger' : AllocationLedger}

omit [Unicode] in
theorem recorded_of_get {α : Type} {scope : Scope} {kind : AllocationKind} {purpose : Str}
    {read : Str → Except Raised α} {value : α} {P : Str → Prop}
    (h : ∃ a, ledger.get scope kind purpose = some a ∧ read a.value = .ok value)
    (hP : ∀ text, read text = .ok value → P text) : Recorded ledger scope kind purpose P := by
  obtain ⟨a, hget, hread⟩ := h
  exact ⟨a, hget, hP _ hread⟩

theorem recorded_of_allocateGuestVmid {ref : Str} {kind : GuestKind} {v : Int}
    (h : allocateGuestVmid workload o ownership ref kind ledger = .ok (v, ledger')) :
    Recorded ledger' ownership.scopeKey (guestIdKind (kind = .lxc)) ref
      fun value => intOf value = some v := by
  unfold allocateGuestVmid at h
  cases hvmids : o.vmidsInUse with
  | none =>
      rw [hvmids] at h
      cases h
  | some vmids =>
      rw [hvmids, allocateVmid_some] at h
      exact recorded_of_get
        (allocate_recorded (fun _ => orValueError_eq_ok.mpr (int_of_text_of_int v)) h)
        fun _ => orValueError_eq_ok.mp

theorem recorded_of_allocateGuestMac {ref mac : Str}
    (h : allocateGuestMac o ownership ref ledger = .ok (mac, ledger')) :
    Recorded ledger' ownership.scopeKey .mac (ref ++ str "/nic0") fun value => value = mac := by
  unfold allocateGuestMac at h
  cases hmacs : o.macsInUse with
  | none =>
      rw [hmacs] at h
      cases h
  | some macs =>
      rw [hmacs, allocateMac_some] at h
      exact recorded_of_get (allocate_recorded (fun _ => rfl) h) fun _ => Except.ok.inj

theorem recorded_of_allocateGuestAddress {ref : Str} {subnet : Ip.Network} {x : Ip.Address}
    (hsubnet : subnet.version = .v4)
    (h : allocateGuestAddress ownership ref subnet ledger = .ok (x, ledger')) :
    Recorded ledger' ownership.scopeKey .guestAddress (ref ++ str "/address")
      fun value => Ip.ipAddress value = some x := by
  unfold allocateGuestAddress allocateAddress at h
  refine recorded_of_get (allocate_recorded (fun hchoose => ?_) h) fun _ => orValueError_eq_ok.mp
  exact orValueError_eq_ok.mpr (Ip.ipAddress_text (chooseAddress_v4 hsubnet hchoose))

/-- What a guest shows of the slot it was built for. -/
theorem slot_of_buildGuest {slot : Slot} {image : ReviewedGuestImage} {place : Place} {vmid : Int}
    {mac : Str} {address : Ip.Address} {guest : GuestSpec}
    (h : buildGuest workload network scoring ownership slot image place vmid mac address =
      .ok guest) :
    guest.guestRef = guestRef slot.teamRef slot.key ∧ guest.ownership = ownership ∧
      ∃ nic, guest.nics = [nic] := by
  have hmake : ∀ fields, GuestSpec.make fields = .ok guest → guest.guestRef = fields.guestRef ∧
      guest.ownership = fields.ownership ∧ guest.nics = fields.nics := by
    intro fields hfields
    unfold GuestSpec.make at hfields
    repeat' split at hfields
    all_goals cases hfields
    exact ⟨rfl, rfl, rfl⟩
  unfold buildGuest at h
  split at h
  · cases h
  · obtain ⟨probe, _, h⟩ := except_bind_eq_ok.mp h
    obtain ⟨disk, _, h⟩ := except_bind_eq_ok.mp h
    obtain ⟨nic, _, h⟩ := except_bind_eq_ok.mp h
    obtain ⟨guestAddress, _, h⟩ := except_bind_eq_ok.mp h
    obtain ⟨cloudInit, _, h⟩ := except_bind_eq_ok.mp h
    obtain ⟨href, howner, hnics⟩ := hmake _ h
    exact ⟨href, howner, nic, hnics⟩

/-! ## The loops -/

/-- What the loops maintain: as long as nothing is missing, the slots done are filled in order. -/
structure Filled (workload : WorkloadRequest) (network : SegregatedNetworkPlan)
    (done : List (Str × Str)) (produced : Produced) (s : Session) : Prop where
  fills : produced.missing = [] → s.blocked = [] →
    List.Forall₂ (Fills workload network s.ledger) done produced.guests

/-- One turn of the workload loop. -/
theorem ensures_compileGuest_filled (hsubnets : PrintedSubnets network) (produced : Produced)
    (slot : Slot) (done : List (Str × Str))
    (howner : workloadOwnership workload (some slot.teamRef) .virtualMachine = .ok ownership) :
    Ensures (Filled workload network done produced)
      (compileGuest workload network o scoring reportAddress ownership produced slot)
      (Filled workload network (done ++ [(slot.teamRef, slot.key)])) := by
  intro s produced' t hbefore hrun
  unfold compileGuest at hrun
  split at hrun
  · obtain ⟨herror, _⟩ := run_check_eq_ok.mp hrun
    cases herror
  rename_i image himage
  obtain ⟨place, s0, hcheck, hrun⟩ := run_bind_eq_ok.mp hrun
  obtain ⟨hplace, rfl⟩ := run_check_eq_ok.mp hcheck
  cases place with
  | inl prerequisite =>
      obtain ⟨rfl, rfl⟩ := run_pure_eq_ok.mp hrun
      exact ⟨fun hmissing _ => absurd hmissing (by simp)⟩
  | inr place =>
      obtain ⟨vmid, s1, hvmid, hrun⟩ := run_bind_eq_ok.mp hrun
      obtain ⟨mac, s2, hmac, hrun⟩ := run_bind_eq_ok.mp hrun
      split at hrun
      · rename_i vmid mac
        obtain ⟨subnet, s3, hcheck3, hrun⟩ := run_bind_eq_ok.mp hrun
        obtain ⟨hsubnet, rfl⟩ := run_check_eq_ok.mp hcheck3
        obtain ⟨address, s4, haddress, hrun⟩ := run_bind_eq_ok.mp hrun
        obtain ⟨guest, s5, hcheck5, hrun⟩ := run_bind_eq_ok.mp hrun
        obtain ⟨hguest, rfl⟩ := run_check_eq_ok.mp hcheck5
        obtain ⟨contract, s6, hcheck6, hrun⟩ := run_bind_eq_ok.mp hrun
        obtain ⟨_, rfl⟩ := run_check_eq_ok.mp hcheck6
        obtain ⟨rfl, rfl⟩ := run_pure_eq_ok.mp hrun
        have hext1 : Extends s.ledger s1.ledger :=
          (keeps_logRun (grows_allocateVmid _ _ _) _ _ _ hvmid).keeps
        have hext2 : Extends s1.ledger s2.ledger :=
          (keeps_logRun (grows_allocateMac _) _ _ _ hmac).keeps
        obtain ⟨l1, hl1, rfl⟩ := run_logRun_some hvmid
        obtain ⟨l2, hl2, rfl⟩ := run_logRun_some hmac
        obtain ⟨l4, hl4, rfl⟩ := run_allocating_eq_ok.mp haddress
        have hv4 := hsubnets.network_v4 (segment_mem_of_placeGuest hplace) hsubnet
        have hext4 : Extends l2 l4 := (allocateGuestAddress_recorded hv4 hl4).1
        refine ⟨fun hmissing hblocked => ?_⟩
        have hdone := hbefore.fills hmissing hblocked
        refine List.rel_append (hdone.imp fun _ _ hfills =>
          ⟨hfills.1, hfills.2.mono (hext1.trans (hext2.trans hext4))⟩) (.cons ?_ .nil)
        obtain ⟨href, hstamp, nic, hnic⟩ := slot_of_buildGuest hguest
        obtain ⟨hgvmid, hgmacs, hgaddress⟩ := buildGuest_eq_ok hguest
        refine ⟨⟨href, hstamp ▸ howner, image, place.segment, himage,
          segment_of_placeGuest hplace, nics_of_buildGuest hguest⟩, ?_⟩
        constructor
        case vmid =>
          refine ⟨guestIdKind (image.guestKind = .lxc), ?_, ?_⟩
          · cases image.guestKind <;> rfl
          · rw [href, hstamp, hgvmid]
            exact (recorded_of_allocateGuestVmid hl1).mono (hext2.trans hext4)
        case nic =>
          refine ⟨nic, hnic, ?_⟩
          rw [href, hstamp, hgmacs nic (hnic ▸ List.mem_singleton_self nic)]
          exact (recorded_of_allocateGuestMac hl2).mono hext4
        case address =>
          obtain ⟨a, hget, hread⟩ := recorded_of_allocateGuestAddress hv4 hl4
          rw [href, hstamp]
          exact ⟨a, hget, address, hread, hgaddress⟩
      · rename_i hnone
        obtain ⟨rfl, rfl⟩ := run_pure_eq_ok.mp hrun
        refine ⟨fun _ hblocked => ?_⟩
        -- an identifier that was not given left the session blocked
        obtain ⟨m, _, _, rfl, rfl⟩ := run_logRun_of_unblocked hmac hblocked
        obtain ⟨v, _, _, rfl, _⟩ := run_logRun_of_unblocked hvmid hblocked
        exact absurd rfl (hnone v m rfl)

/-- One turn of the team loop. -/
theorem ensures_compileTeam_filled (hsubnets : PrintedSubnets network) (produced : Produced)
    (team : Str × Nat) (done : List (Str × Str)) :
    Ensures (Filled workload network done produced)
      (compileTeam workload network o scoring reportAddress produced team)
      (Filled workload network (done ++ (perTeamKeys workload).map fun key => (team.1, key))) := by
  intro s produced' t hbefore hrun
  obtain ⟨ownership, s1, hcheck1, hrun⟩ := run_bind_eq_ok.mp hrun
  obtain ⟨howner, rfl⟩ := run_check_eq_ok.mp hcheck1
  obtain ⟨credentials, s2, hcheck2, hrun⟩ := run_bind_eq_ok.mp hrun
  obtain ⟨_, rfl⟩ := run_check_eq_ok.mp hcheck2
  have hloop := Ensures.foldlM (fun keys produced => Filled workload network
    (done ++ keys.map fun entry => (team.1, entry.1)) produced) ?_ _ s produced' t
    (by simpa using ⟨hbefore.fills⟩) hrun
  · rw [← List.zipIdx_map_fst 0 (perTeamKeys workload), List.map_map]
    exact hloop
  · intro keys entry rest produced _
    rw [List.map_append, ← List.append_assoc]
    exact ensures_compileGuest_filled hsubnets produced _ _ howner

/-- The loops fill every slot of the workload. -/
theorem ensures_produceWorkload_filled (hsubnets : PrintedSubnets network) :
    Ensures (fun _ => True) (produceWorkload workload network o scoring)
      (Filled workload network (slots workload)) := by
  intro s produced t _ hrun
  obtain ⟨reportAddress, s0, hcheck, hrun⟩ := run_bind_eq_ok.mp hrun
  obtain ⟨_, rfl⟩ := run_check_eq_ok.mp hcheck
  obtain ⟨materials, s1, hcheck1, hrun⟩ := run_bind_eq_ok.mp hrun
  obtain ⟨_, rfl⟩ := run_check_eq_ok.mp hcheck1
  have hloop := Ensures.foldlM (fun teams produced => Filled workload network
    (teams.flatMap fun team => (perTeamKeys workload).map fun key => (team.1, key)) produced) ?_ _
    s produced t ⟨fun _ _ => .nil⟩ hrun
  · have hslots : slots workload = (sortedBy id workload.teamRefs).zipIdx.flatMap fun team =>
        (perTeamKeys workload).map fun key => (team.1, key) := by
      rw [slots, ← List.zipIdx_map_fst 0 (sortedBy id workload.teamRefs), List.flatMap_map]
      simp only [List.zipIdx_map_fst]
    rw [hslots]
    exact hloop
  · intro teams team rest produced _
    rw [List.flatMap_append, List.flatMap_singleton]
    exact ensures_compileTeam_filled hsubnets produced _ _

/-- Every slot of a compiled workload is filled by one guest, in order. -/
theorem forall₂_fills_of_compileWorkload {plan : WorkloadPlan} (hsubnets : PrintedSubnets network)
    (h : compileWorkload workload network o ledger = .ok (.plan plan, ledger')) :
    ∃ guests, plan.topology.network = network ∧ plan.topology.guests.Perm guests ∧
      List.Forall₂ (Fills workload network ledger') (slots workload) guests := by
  obtain ⟨_, scoring, produced, ownership, _, hproduce, hmissing, _, hbuilt⟩ :=
    compileWorkload_eq_plan.mp h
  have hfilled := ensures_produceWorkload_filled hsubnets _ _ _ trivial hproduce
  refine ⟨produced.guests, ?_, ?_, hfilled.fills hmissing rfl⟩
  · rw [← hbuilt]
    rfl
  · rw [← hbuilt]
    exact sortedBy_perm _ _

/-! ## Gateways -/

omit [Unicode] in
theorem mem_of_mem_set {d : Dict Str VNetSpec} {k : Str} {v : VNetSpec} {entry : Str × VNetSpec}
    (h : entry ∈ d.set k v) : entry ∈ d ∨ entry.2 = v := by
  induction d with
  | nil => exact .inr (congrArg Prod.snd (List.mem_singleton.mp h))
  | cons first rest ih =>
      rw [Dict.set] at h
      split at h
      · rcases List.mem_cons.mp h with rfl | h
        · exact .inr rfl
        · exact .inl (List.mem_cons_of_mem _ h)
      · rcases List.mem_cons.mp h with rfl | h
        · exact .inl List.mem_cons_self
        · exact (ih h).imp_left (List.mem_cons_of_mem _)

section
variable {request : WebBreachLabRequest}

/-- The gateway of a segment is recorded as such. -/
def GatewayHeld (ledger : AllocationLedger) (v : VNetSpec) : Prop :=
  ∃ a ∈ ledger.records, a.kind = .gatewayAddress ∧ ∃ x,
    (Ip.ipAddress a.value = some x ∨ a.value = x.text) ∧ v.subnet.gateway = x.text

omit [Unicode] in
theorem GatewayHeld.mono {v : VNetSpec} (h : GatewayHeld ledger v) (hext : Extends ledger ledger') :
    GatewayHeld ledger' v := by
  obtain ⟨a, ha, hgateway⟩ := h
  exact ⟨a, hext ha, hgateway⟩

theorem gatewayHeld_of_buildVnet {zoneName : Option Str} {segment : Segment} {name : Str}
    {vlan : Int} {subnet : Ip.Network} {v : VNetSpec}
    (hrun : (buildVnet zoneName segment ownership name vlan subnet).run s = .ok (v, t)) :
    GatewayHeld t.ledger v := by
  obtain ⟨gateway, s1, hgateway, hrun⟩ := run_bind_eq_ok.mp hrun
  obtain ⟨spec, s2, hspec, hrun⟩ := run_bind_eq_ok.mp hrun
  obtain ⟨ledger1, hledger1, rfl⟩ := run_allocating_eq_ok.mp hgateway
  obtain ⟨hmade, rfl⟩ := run_check_eq_ok.mp hspec
  obtain ⟨hvnet, rfl⟩ := run_check_eq_ok.mp hrun
  have hshown : v.subnet.gateway = gateway.text := by
    rw [(make_vnet_eq_ok hvnet).2.1]
    unfold SubnetSpec.make at hmade
    split at hmade
    · cases hmade
      rfl
    · split at hmade <;> cases hmade
  rcases allocate_eq_ok_iff.mp hledger1 with ⟨a, hget, hread, hsame⟩ | ⟨hnew, _, _, hadded⟩
  · obtain ⟨hmem, hkey⟩ := get_eq_some_iff.mp hget
    have hmem : a ∈ ledger1.records := hsame ▸ hmem
    exact ⟨a, hmem, congrArg (fun k => k.2.1) hkey, gateway, .inl (orValueError_eq_ok.mp hread),
      hshown⟩
  · have hmem : ⟨.gatewayAddress, ownership.scopeKey, segmentPurpose segment.teamRef segment.role ++
        str "/gateway", gateway.text⟩ ∈ ledger1.records := by
      rw [hadded]
      exact List.mem_append_right _ List.mem_cons_self
    exact ⟨_, hmem, rfl, gateway, .inr rfl, hshown⟩

/-- One turn of the segment loop records the gateway of the segment it compiles. -/
theorem gateways_of_compileSegment {zoneName : Option Str} {segment : Segment}
    {compiled compiled' : Dict Str VNetSpec}
    (hrun : (compileSegment request o zoneName compiled segment).run s = .ok (compiled', t))
    (hext : Extends s.ledger t.ledger)
    (hbefore : ∀ entry ∈ compiled, GatewayHeld s.ledger entry.2) :
    ∀ entry ∈ compiled', GatewayHeld t.ledger entry.2 := by
  obtain ⟨_, _, _, hrun⟩ := run_bind_eq_ok.mp hrun
  obtain ⟨_, _, _, hrun⟩ := run_bind_eq_ok.mp hrun
  obtain ⟨_, _, _, hrun⟩ := run_bind_eq_ok.mp hrun
  obtain ⟨_, _, _, hrun⟩ := run_bind_eq_ok.mp hrun
  split at hrun
  · obtain ⟨v, s4, hbuild, hrun⟩ := run_bind_eq_ok.mp hrun
    obtain ⟨rfl, rfl⟩ := run_pure_eq_ok.mp hrun
    intro entry hentry
    rcases mem_of_mem_set hentry with hold | hnew
    · exact (hbefore entry hold).mono hext
    · rw [hnew]
      exact gatewayHeld_of_buildVnet hbuild
  · obtain ⟨rfl, _⟩ := run_pure_eq_ok.mp hrun
    exact fun entry hentry => (hbefore entry hentry).mono hext

/-- Every segment of a compiled network has its gateway recorded. -/
theorem gateways_of_compileWebBreachLab
    (h : compileWebBreachLab request o AllocationLedger.empty = .ok (.plan network, ledger)) :
    ∀ v ∈ network.vnets, GatewayHeld ledger v := by
  obtain ⟨t, hrun, rfl⟩ := compileWebBreachLab_eq_ok.mp h
  obtain ⟨ownership, s0, hcheck, hrun⟩ := run_bind_eq_ok.mp hrun
  obtain ⟨_, rfl⟩ := run_check_eq_ok.mp hcheck
  obtain ⟨zoneName, s1, hzone, hrun⟩ := run_bind_eq_ok.mp hrun
  obtain ⟨compiled, s2, hloop, hrun⟩ := run_bind_eq_ok.mp hrun
  obtain ⟨_, s3, hget, hrun⟩ := run_bind_eq_ok.mp hrun
  obtain ⟨rfl, rfl⟩ := run_get_eq_ok.mp hget
  have e1 := keeps_logRun (grows_allocateName
    (show AllocationKind.IsName .zoneName from rfl) (by decide) _ _ _ _ _) _ _ _ hzone
  obtain ⟨htidy, hgateways⟩ := Ensures.foldlM (fun _ compiled t => Tidy t.ledger ∧
    ∀ entry ∈ compiled, GatewayHeld t.ledger entry.2) (fun _ _ _ _ _ m _ _ hbefore hrun => by
      obtain ⟨e, _⟩ := run_compileSegment hrun hbefore.1
      exact ⟨e.tidy hbefore.1, gateways_of_compileSegment hrun e.keeps hbefore.2⟩) _ s1 compiled s2
    ⟨e1.tidy Tidy.empty, fun _ hentry => (List.not_mem_nil hentry).elim⟩ hloop
  obtain ⟨_, hentries⟩ := run_segments (e1.tidy Tidy.empty) hloop
  obtain ⟨_, hblocked, _, _, _, _, hfinish⟩ := run_concludeNetwork hrun
  obtain ⟨_, s4, hcheck4, hfinish⟩ := run_bind_eq_ok.mp hfinish
  obtain ⟨_, rfl⟩ := run_check_eq_ok.mp hcheck4
  obtain ⟨_, s5, hfirewall, hfinish⟩ := run_bind_eq_ok.mp hfinish
  obtain ⟨_, s6, hget, hfinish⟩ := run_bind_eq_ok.mp hfinish
  obtain ⟨rfl, rfl⟩ := run_get_eq_ok.mp hget
  obtain ⟨hplan, rfl⟩ := run_pure_eq_ok.mp hfinish
  obtain ⟨hblocked5, rfl⟩ := planUnlessBlocked_eq_plan.mp hplan
  obtain ⟨e5, _⟩ := run_firewallLoops htidy (hentries hblocked).segmentVnets hfirewall hblocked5
  intro v hv
  obtain ⟨entry, hentry, rfl⟩ := List.mem_map.mp hv
  exact (hgateways entry (mem_sortedBy.mp hentry)).mono e5.keeps

end

end

end Secp.Proxmox
