import Secp.Proxmox.Rediscovery

/-!
# Where compiled guests sit

Every guest of a compiled topology is attached to a VNet whose subnet holds its address. The loops
keep what makes it so: a recorded guest address lies in the segment that the team and the workload of
its key lead to.
-/

namespace Secp.Proxmox

open Secp.Python Secp.Logic AllocationLedger

/-- The address lies in the subnet of every VNet the guest is attached to. -/
def OnSegment (network : SegregatedNetworkPlan) (guest : GuestSpec) : Prop :=
  ∀ nic ∈ guest.nics, ∃ v ∈ network.vnets, v.name = nic.vnetName ∧
    ∃ x, Ip.ipAddress guest.address.publishedAddress = some x ∧ v.subnet.Contains x

/-- What a check of a topology relies on: the scoring segment belongs to no team and every other one
to a team, there are two teams at least, and guests are where their addresses say. -/
structure Segmented (topology : CompiledTopology) : Prop where
  scoring : ∀ v ∈ topology.network.vnets, v.role = .scoring ↔ v.ownership.teamRef = none
  teams_named : ∀ v ∈ topology.network.vnets, v.ownership.teamRef ≠ some []
  two_teams : ∃ v ∈ topology.network.vnets, ∃ w ∈ topology.network.vnets, ∃ team team',
    v.ownership.teamRef = some team ∧ w.ownership.teamRef = some team' ∧ team ≠ team'
  names_nodup : (topology.network.vnets.map VNetSpec.name).Nodup
  subnets : PrintedSubnets topology.network
  guests : ∀ g ∈ topology.guests, OnSegment topology.network g

section
variable [Unicode] {workload : WorkloadRequest} {network : SegregatedNetworkPlan}
  {o : TargetObservation} {scoring : VNetSpec} {reportAddress : Str} {ownership : Ownership}

/-! ## Recorded addresses -/

/-- A guest address lies in the segment that the team and the workload of its key lead to. -/
def AddressSited (workload : WorkloadRequest) (network : SegregatedNetworkPlan)
    (a : Allocation) : Prop :=
  ∀ teamRef key ownership image segment,
    workloadOwnership workload (some teamRef) .virtualMachine = .ok ownership →
    a.scope = ownership.scopeKey → a.purpose = guestRef teamRef key ++ str "/address" →
    workload.image key = some image → segmentFor network teamRef image.role = some segment →
    ∃ x, Ip.ipAddress a.value = some x ∧ segment.subnet.Contains x

theorem scopeKey_of_workloadOwnership {teamRef : Str}
    (h : workloadOwnership workload (some teamRef) .virtualMachine = .ok ownership) :
    ownership.scopeKey = (workload.organizationId, workload.targetId, workload.rangeId, teamRef,
      workload.generation) := by
  obtain ⟨horganization, htarget, hrange, hgeneration, _, _, hteam⟩ := Ownership.make_eq_ok h
  simp only [Ownership.scopeKey, horganization, htarget, hrange, hgeneration, hteam,
    Option.getD_some]

theorem segment_of_placeGuest {slot : Slot} {image : ReviewedGuestImage} {place : Place}
    (h : placeGuest workload network o slot image = .ok (.inr place)) :
    segmentFor network slot.teamRef image.role = some place.segment := by
  unfold placeGuest at h
  split at h
  · cases h
  · rename_i segment hsegment
    obtain ⟨nodeName, _, h⟩ := except_bind_eq_ok.mp h
    split at h
    · cases h
    · split at h
      · cases h
      · cases h
        exact hsegment

/-- The address allocated for a guest lies in its segment, be it new or recorded before. -/
theorem allocateGuestAddress_sited {teamRef key : Str} {image : ReviewedGuestImage}
    {segment : VNetSpec} {subnet : Ip.Network} {x : Ip.Address} {ledger ledger' : AllocationLedger}
    (howner : workloadOwnership workload (some teamRef) .virtualMachine = .ok ownership)
    (himage : workload.image key = some image)
    (hsegment : segmentFor network teamRef image.role = some segment)
    (hsubnet : Ip.ipNetwork true segment.subnet.cidr = some subnet) (hv4 : subnet.version = .v4)
    (hbefore : ∀ a ∈ ledger.records, a.kind = .guestAddress → AddressSited workload network a)
    (h : allocateGuestAddress ownership (guestRef teamRef key) subnet ledger = .ok (x, ledger')) :
    segment.subnet.Contains x ∧
      ∀ a ∈ ledger'.records, a.kind = .guestAddress → AddressSited workload network a := by
  unfold allocateGuestAddress allocateAddress at h
  rcases allocate_eq_ok_iff.mp h with ⟨a, hget, hvalue, rfl⟩ | ⟨_, hchoose, _, rfl⟩
  · obtain ⟨hmem, hkey⟩ := get_eq_some_iff.mp hget
    simp only [Allocation.key, Prod.mk.injEq] at hkey
    obtain ⟨hscope, hkind, hpurpose⟩ := hkey
    obtain ⟨y, hy, hinside⟩ := hbefore a hmem hkind teamRef key ownership image segment howner hscope
      hpurpose himage hsegment
    obtain rfl : y = x := Option.some.inj (hy.symm.trans (orValueError_eq_ok.mp hvalue))
    exact ⟨hinside, hbefore⟩
  · have hinside : segment.subnet.Contains x :=
      ⟨subnet, hsubnet, Ip.mem_of_mem_hosts (chooseAddress_sound hchoose).1⟩
    refine ⟨hinside, fun a ha hkind => ?_⟩
    rcases List.mem_append.mp ha with ha | ha
    · exact hbefore a ha hkind
    · -- the scope fixes the team of the new record, and then the purpose its workload
      obtain rfl := List.mem_singleton.mp ha
      intro teamRef' key' ownership' image' segment' howner' hscope hpurpose himage' hsegment'
      rw [scopeKey_of_workloadOwnership howner, scopeKey_of_workloadOwnership howner'] at hscope
      simp only [Prod.mk.injEq, true_and, and_true] at hscope
      subst hscope
      have hrest := List.append_cancel_left (List.append_cancel_right hpurpose)
      subst hrest
      obtain rfl : image = image' := Option.some.inj (himage.symm.trans himage')
      obtain rfl : segment = segment' := Option.some.inj (hsegment.symm.trans hsegment')
      exact ⟨x, Ip.ipAddress_text (chooseAddress_v4 hv4 hchoose), hinside⟩

/-! ## The workload loops -/

/-- What the loops maintain. -/
structure Sited (workload : WorkloadRequest) (network : SegregatedNetworkPlan) (produced : Produced)
    (ledger : AllocationLedger) : Prop where
  guests : ∀ g ∈ produced.guests, OnSegment network g
  addresses : ∀ a ∈ ledger.records, a.kind = .guestAddress → AddressSited workload network a

/-- A guest has one interface, on its segment, and shows the address it was given. -/
theorem nics_of_buildGuest {slot : Slot} {image : ReviewedGuestImage} {place : Place} {vmid : Int}
    {mac : Str} {address : Ip.Address} {guest : GuestSpec}
    (h : buildGuest workload network scoring ownership slot image place vmid mac address =
      .ok guest) : ∀ nic ∈ guest.nics, nic.vnetName = place.segment.name := by
  unfold buildGuest at h
  split at h
  · cases h
  · obtain ⟨probe, _, h⟩ := except_bind_eq_ok.mp h
    obtain ⟨disk, _, h⟩ := except_bind_eq_ok.mp h
    obtain ⟨nic, hnic, h⟩ := except_bind_eq_ok.mp h
    obtain ⟨guestAddress, _, h⟩ := except_bind_eq_ok.mp h
    obtain ⟨cloudInit, _, h⟩ := except_bind_eq_ok.mp h
    obtain ⟨_, hnics, _⟩ := make_guest_eq_ok h
    intro nic' hnic'
    rw [hnics, List.mem_singleton] at hnic'
    rw [hnic']
    unfold NicSpec.make at hnic
    split at hnic
    · split at hnic
      · cases hnic
        rfl
      · cases hnic
    · cases hnic

/-- One turn of the workload loop. -/
theorem ensures_compileGuest_sited (hsubnets : PrintedSubnets network) (produced : Produced)
    (slot : Slot)
    (howner : workloadOwnership workload (some slot.teamRef) .virtualMachine = .ok ownership) :
    Ensures (fun s => Sited workload network produced s.ledger)
      (compileGuest workload network o scoring reportAddress ownership produced slot)
      (fun produced' t => Sited workload network produced' t.ledger) := by
  intro s produced' t hbefore hrun
  unfold compileGuest at hrun
  split at hrun
  · obtain ⟨herror, _⟩ := run_check_eq_ok.mp hrun
    cases herror
  rename_i image himage
  obtain ⟨place, s0, hcheck, hrun⟩ := run_bind_eq_ok.mp hrun
  obtain ⟨hplace, rfl⟩ := run_check_eq_ok.mp hcheck
  cases place with
  | inl prerequisite =>
      obtain ⟨rfl, rfl⟩ := run_pure_eq_ok.mp hrun
      exact ⟨hbefore.guests, hbefore.addresses⟩
  | inr place =>
      obtain ⟨vmid, s1, hvmid, hrun⟩ := run_bind_eq_ok.mp hrun
      obtain ⟨mac, s2, hmac, hrun⟩ := run_bind_eq_ok.mp hrun
      have hnone1 : NoAddress s s1 := noAddress_logRun (by
        unfold guestIdKind
        split <;> decide) (addsOnly_allocateGuestVmid _ _) _ _ _ hvmid
      have hnone2 : NoAddress s1 s2 :=
        noAddress_logRun (by decide) (addsOnly_allocateGuestMac _) _ _ _ hmac
      have haddresses : ∀ a ∈ s2.ledger.records, a.kind = .guestAddress →
          AddressSited workload network a :=
        fun a ha hkind => hbefore.addresses a (hnone1 a (hnone2 a ha hkind) hkind) hkind
      split at hrun
      · rename_i vmid mac
        obtain ⟨subnet, s3, hcheck3, hrun⟩ := run_bind_eq_ok.mp hrun
        obtain ⟨hsubnet, rfl⟩ := run_check_eq_ok.mp hcheck3
        obtain ⟨address, s4, haddress, hrun⟩ := run_bind_eq_ok.mp hrun
        obtain ⟨guest, s5, hcheck5, hrun⟩ := run_bind_eq_ok.mp hrun
        obtain ⟨hguest, rfl⟩ := run_check_eq_ok.mp hcheck5
        obtain ⟨contract, s6, hcheck6, hrun⟩ := run_bind_eq_ok.mp hrun
        obtain ⟨_, rfl⟩ := run_check_eq_ok.mp hcheck6
        obtain ⟨rfl, rfl⟩ := run_pure_eq_ok.mp hrun
        obtain ⟨l4, hl4, rfl⟩ := run_allocating_eq_ok.mp haddress
        have hmem := segment_mem_of_placeGuest hplace
        have hv4 := hsubnets.network_v4 hmem hsubnet
        obtain ⟨hinside, hkept⟩ := allocateGuestAddress_sited howner himage
          (segment_of_placeGuest hplace) (orValueError_eq_ok.mp hsubnet) hv4 haddresses hl4
        refine ⟨fun g hg => ?_, hkept⟩
        rcases List.mem_append.mp hg with hg | hg
        · exact hbefore.guests g hg
        · obtain rfl := List.mem_singleton.mp hg
          intro nic hnic
          refine ⟨place.segment, hmem, (nics_of_buildGuest hguest nic hnic).symm, address, ?_,
            hinside⟩
          obtain ⟨subnet', hsubnet', hwithin⟩ := hinside
          obtain rfl : subnet' = subnet :=
            Option.some.inj (hsubnet'.symm.trans (orValueError_eq_ok.mp hsubnet))
          rw [(buildGuest_eq_ok hguest).2.2]
          exact Ip.ipAddress_text ((Ip.mem_def.mp hwithin).1.trans hv4)
      · obtain ⟨rfl, rfl⟩ := run_pure_eq_ok.mp hrun
        exact ⟨hbefore.guests, haddresses⟩

theorem ensures_produceWorkload_sited (hsubnets : PrintedSubnets network) :
    Ensures (fun s => ∀ a ∈ s.ledger.records, a.kind ≠ .guestAddress)
      (produceWorkload workload network o scoring)
      (fun produced t => Sited workload network produced t.ledger) := by
  intro s produced t hnone hrun
  obtain ⟨reportAddress, s0, hcheck, hrun⟩ := run_bind_eq_ok.mp hrun
  obtain ⟨_, rfl⟩ := run_check_eq_ok.mp hcheck
  obtain ⟨materials, s1, hcheck1, hrun⟩ := run_bind_eq_ok.mp hrun
  obtain ⟨_, rfl⟩ := run_check_eq_ok.mp hcheck1
  refine Ensures.foldlM (fun _ produced t => Sited workload network produced t.ledger) ?_ _ s
    produced t ⟨fun g hg => (List.not_mem_nil hg).elim, fun a ha hkind => absurd hkind (hnone a ha)⟩
    hrun
  intro _ team _ produced _ m produced' t hbefore hteam
  obtain ⟨ownership, s2, hcheck2, hteam⟩ := run_bind_eq_ok.mp hteam
  obtain ⟨howner, rfl⟩ := run_check_eq_ok.mp hcheck2
  obtain ⟨credentials, s3, hcheck3, hteam⟩ := run_bind_eq_ok.mp hteam
  obtain ⟨_, rfl⟩ := run_check_eq_ok.mp hcheck3
  refine Ensures.foldlM (fun _ produced t => Sited workload network produced t.ledger) ?_ _ m
    produced' t (by exact ⟨hbefore.guests, hbefore.addresses⟩) hteam
  intro _ entry _ produced _
  exact ensures_compileGuest_sited hsubnets produced _ howner

/-! ## Compiled topologies -/

/-- A topology compiled from an empty ledger is segmented. -/
theorem segmented_of_compileWorkload {request : WebBreachLabRequest} {plan : WorkloadPlan}
    {ledger ledger' : AllocationLedger}
    (hnetwork : compileWebBreachLab request o AllocationLedger.empty = .ok (.plan network, ledger))
    (hworkload : compileWorkload workload network o ledger = .ok (.plan plan, ledger')) :
    Segmented plan.topology := by
  have hc := compiled_of_compileWebBreachLab hnetwork
  obtain ⟨s, t, htidy, hvnets, _, hfirewall, hblocked, _, _⟩ := run_compileWebBreachLab hnetwork
  obtain ⟨_, scoring, produced, ownership, _, hproduce, _, _, hbuilt⟩ :=
    compileWorkload_eq_plan.mp hworkload
  have hsited := ensures_produceWorkload_sited hc.cidrs _ _ _
    (no_guestAddress_of_compileWebBreachLab hnetwork) hproduce
  have hkinds : ∀ segment ∈ segments request, (segment.role = .scoring ↔ segment.teamRef = none) ∧
      segment.teamRef ≠ some [] := by
    intro segment hmem
    rw [segments_eq] at hmem
    rcases List.mem_cons.mp hmem with rfl | hmem
    · simp
    · obtain ⟨entry, _, hentry⟩ := List.mem_flatMap.mp hmem
      obtain ⟨hteam, hrole⟩ := teamRef_of_mem_teamSegments hentry
      have hnamed := entry.1.teamRef_valid.1
      simp [hteam, hrole, hnamed]
  have htopology : plan.topology.network = network ∧
      plan.topology.guests = sortedBy GuestSpec.guestRef produced.guests := by
    rw [← hbuilt]
    exact ⟨rfl, rfl⟩
  constructor
  case scoring =>
    rw [htopology.1]
    intro v hv
    obtain ⟨segment, hmem, hteam, hrole⟩ := hc.segment_of_mem hv
    rw [hteam, hrole]
    exact (hkinds segment hmem).1
  case teams_named =>
    rw [htopology.1]
    intro v hv
    obtain ⟨segment, hmem, hteam, _⟩ := hc.segment_of_mem hv
    rw [hteam]
    exact (hkinds segment hmem).2
  case two_teams =>
    rw [htopology.1]
    exact hc.two_teams
  case names_nodup =>
    rw [htopology.1]
    exact hvnets.names_nodup htidy.sound
  case subnets =>
    rw [htopology.1]
    exact hc.cidrs
  case guests =>
    rw [htopology.1, htopology.2]
    intro g hg
    exact hsited.guests g ((sortedBy_perm _ _).mem_iff.mp hg)

end

end Secp.Proxmox
