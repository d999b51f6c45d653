import Secp.Proxmox.WellPlaced

/-!
# The management plane

`assertManagementPlaneUntouched` refuses a topology that rides a management bridge, addresses a
segment over a management network or publishes a guest inside one. It returns exactly for the
topologies that keep off the management plane, and every compiled one does: of the three demands only
the first can fail, and only on a bridge the target does not declare.
-/

namespace Secp.Proxmox

open Secp.Python Secp.Logic AllocationLedger

def CompiledTopology.managementNetworks (topology : CompiledTopology) :
    Except Raised (List Ip.Network) :=
  topology.target.managementCidrs.mapM fun cidr => orValueError (Ip.ipNetwork true cidr)

section
variable [Unicode]

def checkZoneBridge (zone : SdnZoneSpec) (managementBridges : List Str) : Except Raised Unit :=
  ensure (zone.bridge ∉ managementBridges) (.model (str "SDN zone " ++ strRepr zone.name ++
    str " rides management bridge " ++ strRepr zone.bridge ++
    str "; the management plane must never be scenario-owned"))

def checkVnetSubnet (management : List Ip.Network) (vnet : VNetSpec) : Except Raised Unit := do
  let subnet ← vnet.subnet.network
  forM management fun network =>
    ensure (!subnet.overlaps network) (.model (str "VNet " ++ strRepr vnet.name ++ str " subnet " ++
      vnet.subnet.cidr ++ str " overlaps the management network " ++ network.text ++
      str "; scenario addressing must never intersect the management plane"))

def checkGuestAddress (management : List Ip.Network) (guest : GuestSpec) : Except Raised Unit := do
  let published ← orValueError (Ip.ipAddress guest.address.publishedAddress)
  forM management fun network =>
    ensure (!network.contains published) (.model (str "guest " ++ strRepr guest.guestRef ++
      str " is addressed inside the management network " ++ network.text))

/-- The target's own declaration is authoritative; the argument only ever adds to it. -/
def assertManagementPlaneUntouched (topology : CompiledTopology) (managementBridges : List Str) :
    Except Raised Unit := do
  let management ← topology.managementNetworks
  checkZoneBridge topology.network.zone (managementBridges ++ topology.target.managementBridges)
  forM topology.network.vnets (checkVnetSubnet management)
  forM topology.guests (checkGuestAddress management)

end

/-! ## What the assertion asserts -/

/-- The address lies in a management network of the target. -/
def ProxmoxTargetIdentity.Manages (target : ProxmoxTargetIdentity) (x : Ip.Address) : Prop :=
  ∃ cidr ∈ target.managementCidrs, ∃ n, Ip.ipNetwork true cidr = some n ∧ x ∈ n

/-- No part of the topology is on the management plane, be it the target's own or what is added. -/
structure Untouched (topology : CompiledTopology) (managementBridges : List Str) : Prop where
  added : topology.network.zone.bridge ∉ managementBridges
  declared : topology.network.zone.bridge ∉ topology.target.managementBridges
  segments : ∀ v ∈ topology.network.vnets, ∀ x, v.subnet.Contains x → ¬topology.target.Manages x
  guests : ∀ guest ∈ topology.guests, ∀ x,
    Ip.ipAddress guest.address.publishedAddress = some x → ¬topology.target.Manages x

/-- The declared networks parse, and together they are what the target manages. -/
theorem exists_managementNetworks (topology : CompiledTopology) :
    ∃ management, topology.managementNetworks = .ok management ∧
      ∀ x, topology.target.Manages x ↔ ∃ n ∈ management, x ∈ n := by
  have hread : ∀ cidr ∈ topology.target.managementCidrs,
      ∃ n, orValueError (Ip.ipNetwork true cidr) = .ok n := by
    intro cidr hcidr
    obtain ⟨n, hn⟩ :=
      Option.isSome_iff_exists.mp (topology.target.managementCidrs_valid cidr hcidr)
    exact ⟨n, orValueError_eq_ok.mpr hn⟩
  obtain ⟨management, hmanagement⟩ := exists_forall₂ hread
  refine ⟨management, mapM_eq_ok_iff.mpr hmanagement, fun x => ?_⟩
  constructor
  · intro hmanages
    obtain ⟨cidr, hcidr, m, hm, hx⟩ := hmanages
    obtain ⟨n, hn, hsame⟩ := forall₂_exists_right hmanagement hcidr
    obtain rfl : m = n := Option.some.inj (hm.symm.trans (orValueError_eq_ok.mp hsame))
    exact ⟨m, hn, hx⟩
  · intro hcovered
    obtain ⟨n, hn, hx⟩ := hcovered
    obtain ⟨cidr, hcidr, hsame⟩ := forall₂_exists_left hmanagement hn
    exact ⟨cidr, hcidr, n, orValueError_eq_ok.mp hsame, hx⟩

section
variable [Unicode] {management : List Ip.Network}

theorem checkVnetSubnet_eq_ok_iff {v : VNetSpec} :
    checkVnetSubnet management v = .ok () ↔
      ∀ x, v.subnet.Contains x → ¬∃ n ∈ management, x ∈ n := by
  -- a subnet holds its gateway, so its network parses
  obtain ⟨_, _, subnet, hsubnet, _⟩ := v.subnet.gateway_contained
  have hread : v.subnet.network = .ok subnet := orValueError_eq_ok.mpr hsubnet
  unfold checkVnetSubnet
  rw [except_bind_of_ok hread, forM_eq_ok_iff]
  simp only [ensure_eq_ok_iff, Bool.not_eq_true']
  constructor
  · intro hclear x hx hcovered
    obtain ⟨m, hm, hxm⟩ := hx
    obtain ⟨n, hn, hxn⟩ := hcovered
    obtain rfl : subnet = m := Option.some.inj (hsubnet.symm.trans hm)
    have hfree := hclear n hn
    rw [Ip.overlaps_iff.mpr ⟨x, hxm, hxn⟩] at hfree
    cases hfree
  · intro hclear n hn
    refine Bool.eq_false_iff.mpr fun hoverlap => ?_
    obtain ⟨x, hxm, hxn⟩ := Ip.overlaps_iff.mp hoverlap
    exact hclear x ⟨subnet, hsubnet, hxm⟩ ⟨n, hn, hxn⟩

theorem checkGuestAddress_eq_ok_iff {guest : GuestSpec} :
    checkGuestAddress management guest = .ok () ↔
      ∀ x, Ip.ipAddress guest.address.publishedAddress = some x → ¬∃ n ∈ management, x ∈ n := by
  obtain ⟨published, hpublished⟩ :=
    Option.isSome_iff_exists.mp guest.address.publishedAddress_valid
  unfold checkGuestAddress
  rw [except_bind_of_ok (orValueError_eq_ok.mpr hpublished), forM_eq_ok_iff, hpublished]
  simp only [ensure_eq_ok_iff, Bool.not_eq_true']
  constructor
  · intro hclear x hx hcovered
    obtain rfl := Option.some.inj hx
    obtain ⟨n, hn, hxn⟩ := hcovered
    exact Bool.eq_false_iff.mp (hclear n hn) hxn
  · exact fun hclear n hn => Bool.eq_false_iff.mpr fun hxn => hclear published rfl ⟨n, hn, hxn⟩

/-- The assertion returns exactly for the topologies that keep off the management plane. -/
theorem assertManagementPlaneUntouched_eq_ok_iff {topology : CompiledTopology}
    {managementBridges : List Str} :
    assertManagementPlaneUntouched topology managementBridges = .ok () ↔
      Untouched topology managementBridges := by
  obtain ⟨management, hread, hmanages⟩ := exists_managementNetworks topology
  unfold assertManagementPlaneUntouched
  rw [except_bind_of_ok hread, except_unit_bind_eq_ok, except_unit_bind_eq_ok, forM_eq_ok_iff,
    forM_eq_ok_iff]
  simp only [checkZoneBridge, ensure_eq_ok_iff, decide_eq_true_eq, List.mem_append, not_or,
    checkVnetSubnet_eq_ok_iff, checkGuestAddress_eq_ok_iff, ← hmanages]
  constructor
  · intro h
    exact ⟨h.1.1, h.1.2, h.2.1, h.2.2⟩
  · intro h
    exact ⟨⟨h.added, h.declared⟩, h.segments, h.guests⟩

end

/-! ## Compiled topologies -/

section
variable [Unicode] {workload : WorkloadRequest} {network : SegregatedNetworkPlan}
  {o : TargetObservation} {request : WebBreachLabRequest} {plan : WorkloadPlan}
  {ledger ledger' : AllocationLedger}

/-- A recorded subnet holds no managed address. -/
def OffManagement (o : TargetObservation) (a : Allocation) : Prop :=
  a.kind = .subnet → ∀ n, Ip.ipNetwork true a.value = some n → ∀ x ∈ n, ¬o.identity.Manages x

/-- Only a subnet could be managed, and it was chosen clear of the management networks. -/
theorem ofSteps_offManagement (request : WebBreachLabRequest) (o : TargetObservation) :
    OfSteps request o (OffManagement o) where
  subnet ownership purpose := by
    unfold allocateSegmentSubnet
    cases o.subnetsInUse with
    | none => exact fun _ _ _ h => by cases h
    | some cidrs =>
        rw [allocateSubnet_some]
        refine addsSuch_allocate _ _ _ _ fun ledger n hchoose _ m hm x hx hmanages => ?_
        obtain ⟨hmem, _, hclear, _⟩ := chooseSubnet_sound hchoose
        have hread : Ip.ipNetwork true n.text = some m := hm
        rw [Ip.ipNetwork_text true (candidateSubnets_v4 hmem)] at hread
        obtain rfl := Option.some.inj hread
        obtain ⟨cidr, hcidr, k, hk, hxk⟩ := hmanages
        obtain ⟨k', hk', hfree⟩ := hclear cidr hcidr
        obtain rfl := Option.some.inj (hk.symm.trans hk')
        rw [Ip.overlaps_iff.mpr ⟨x, hx, hxk⟩] at hfree
        cases hfree
  firewallName ownership purpose candidate _ := by
    refine (addsOnly_allocateName _ _ _ _ _ _ _ _).such fun a hkind hsubnet => ?_
    rw [hkind] at hsubnet
    cases hsubnet
  other a hkind hsubnet := absurd (by simp [hsubnet]) hkind

omit [Unicode] in
theorem not_mem_of_zoneBridge {bridge : Str} (h : (zoneBridge o).1 = some bridge) :
    bridge ∉ o.identity.managementBridges := by
  unfold zoneBridge at h
  dsimp only at h
  split at h
  · cases h
  · split at h
    · cases h
    · split at h
      · cases h
      · next hfirst =>
          obtain rfl := Option.some.inj h
          have hmem := mem_sortedBy.mp (List.mem_of_mem_head? hfirst)
          exact of_decide_eq_true (List.mem_filter.mp hmem).2

/-- The zone of a compiled network rides the bridge that was chosen for it. -/
theorem zoneBridge_of_compileWebBreachLab
    (h : compileWebBreachLab request o AllocationLedger.empty = .ok (.plan network, ledger)) :
    (zoneBridge o).1 = some network.zone.bridge := by
  obtain ⟨t, h, -⟩ := compileWebBreachLab_eq_ok.mp h
  obtain ⟨_, _, _, h⟩ := run_bind_eq_ok.mp h
  obtain ⟨_, _, _, h⟩ := run_bind_eq_ok.mp h
  obtain ⟨_, _, _, h⟩ := run_bind_eq_ok.mp h
  obtain ⟨_, _, _, h⟩ := run_bind_eq_ok.mp h
  obtain ⟨_, _, name, bridge, _, hbridge, h⟩ := run_concludeNetwork h
  obtain ⟨zone, _, hzone, h⟩ := run_bind_eq_ok.mp h
  obtain ⟨_, _, _, h⟩ := run_bind_eq_ok.mp h
  obtain ⟨_, _, _, h⟩ := run_bind_eq_ok.mp h
  obtain ⟨hplan, -⟩ := run_pure_eq_ok.mp h
  obtain ⟨_, rfl⟩ := planUnlessBlocked_eq_plan.mp hplan
  obtain ⟨hzone, -⟩ := run_check_eq_ok.mp hzone
  rw [hbridge]
  unfold SdnZoneSpec.make at hzone
  split at hzone
  · split at hzone
    · cases hzone
      rfl
    · cases hzone
  · cases hzone

/-- No segment of a compiled network holds a managed address. -/
theorem unmanaged_of_compileWebBreachLab
    (h : compileWebBreachLab request o AllocationLedger.empty = .ok (.plan network, ledger))
    {v : VNetSpec} (hv : v ∈ network.vnets) {x : Ip.Address} (hx : v.subnet.Contains x) :
    ¬o.identity.Manages x := by
  obtain ⟨a, ha, hkind, hvalue⟩ := ((networkHeld_of_compileWebBreachLab h).vnets v hv).2
  obtain ⟨n, hn, hxn⟩ := hx
  exact (ofSteps_offManagement request o).of_compileWebBreachLab h a ha hkind n (hvalue ▸ hn) x hxn

theorem topology_of_compileWorkload
    (h : compileWorkload workload network o ledger = .ok (.plan plan, ledger')) :
    plan.topology.network = network ∧ plan.topology.target = o.identity := by
  obtain ⟨_, _, _, _, _, _, _, _, rfl⟩ := compileWorkload_eq_plan.mp h
  exact ⟨rfl, rfl⟩

/-- A compiled topology is off the management plane its target declares, and the assertion returns
for it unless it is told that the bridge of its zone is a management bridge too. -/
theorem compiled_managementPlane_untouched
    (hnetwork : compileWebBreachLab request o AllocationLedger.empty = .ok (.plan network, ledger))
    (hworkload : compileWorkload workload network o ledger = .ok (.plan plan, ledger')) :
    Untouched plan.topology [] ∧ ∀ managementBridges,
      assertManagementPlaneUntouched plan.topology managementBridges = .ok () ↔
        network.zone.bridge ∉ managementBridges := by
  obtain ⟨hsame, htarget⟩ := topology_of_compileWorkload hworkload
  have hbridge := not_mem_of_zoneBridge (zoneBridge_of_compileWebBreachLab hnetwork)
  obtain ⟨guests, hslotted⟩ := slotted_of_compileWorkload hnetwork hworkload
  have huntouched : ∀ managementBridges, network.zone.bridge ∉ managementBridges →
      Untouched plan.topology managementBridges := by
    intro managementBridges hadded
    constructor
    case added => rw [hsame]; exact hadded
    case declared => rw [hsame, htarget]; exact hbridge
    case segments =>
      rw [hsame, htarget]
      exact fun v hv x => unmanaged_of_compileWebBreachLab hnetwork hv
    case guests =>
      intro guest hguest x hx
      -- the guest's one interface is on a segment that holds its address
      obtain ⟨_, _, _, hfills⟩ := hslotted.exists_slot hguest
      obtain ⟨nic, hnic, _⟩ := hfills.2.nic
      obtain ⟨v, hv, _, y, hy, hcontains⟩ := hslotted.segmented.guests guest hguest nic
        (hnic ▸ List.mem_singleton_self nic)
      obtain rfl := Option.some.inj (hx.symm.trans hy)
      rw [htarget]
      exact unmanaged_of_compileWebBreachLab hnetwork (hsame ▸ hv) hcontains
  refine ⟨huntouched [] List.not_mem_nil, fun managementBridges => ?_⟩
  rw [assertManagementPlaneUntouched_eq_ok_iff]
  constructor
  · intro h
    have hadded := h.added
    rwa [hsame] at hadded
  · exact huntouched managementBridges

omit [Unicode] in
theorem sample_managementPlane : ∃ network ledger plan ledger',
    @compileWebBreachLab Unicode.ascii (sampleRequest none) equippedObservation
      AllocationLedger.empty = .ok (.plan network, ledger) ∧
    @compileWorkload Unicode.ascii sampleWorkload network equippedObservation ledger =
      .ok (.plan plan, ledger') ∧
    @assertManagementPlaneUntouched Unicode.ascii plan.topology [] = .ok () ∧
    @assertManagementPlaneUntouched Unicode.ascii plan.topology [network.zone.bridge] ≠ .ok () := by
  let _ := Unicode.ascii
  obtain ⟨network, ledger, plan, ledger', hnetwork, hworkload⟩ :=
    exists_of_compiledRange sampleRange_compiles
  obtain ⟨_, hreturns⟩ := compiled_managementPlane_untouched hnetwork hworkload
  exact ⟨network, ledger, plan, ledger', hnetwork, hworkload, (hreturns []).mpr List.not_mem_nil,
    fun h => (hreturns _).mp h List.mem_cons_self⟩

end

end Secp.Proxmox
