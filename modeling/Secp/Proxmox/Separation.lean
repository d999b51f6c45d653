import Secp.Proxmox.Rediscovery

/-!
# Destroying one of two ranges

What two ranges on one target have in common in the scopes of their destroys, when the second was
compiled after everything of the first was listed. Whatever went through a ledger is the range's own;
the IPSets whose names the compiler fixes are not.
-/

namespace Secp.Proxmox

open Secp.Python Secp.Logic AllocationLedger

/-! ## What a scope names -/

/-- A guest of the scope has the id. -/
def NamesVmid (scope : List Json) (n : Int) : Prop :=
  ∃ entry ∈ scope, entry.field (str "vmid") = .int n

/-- A network object of the scope is of the kind and bears the name. -/
def NamesObject (scope : List Json) (kind : RangeResourceKind) (name : Str) : Prop :=
  ∃ entry ∈ scope, entry.field (str "kind") = .str kind.value ∧
    entry.field (str "name") = .str name

/-- The kinds of network objects a destroy removes. -/
def networkKinds : List RangeResourceKind := [.sdnZone, .vnet, .firewallGroup, .ipSet]

/-- Two scopes have no guest and no network object in common. -/
structure Separate (scope scope' : List Json) : Prop where
  vmids : ∀ n, ¬(NamesVmid scope n ∧ NamesVmid scope' n)
  objects : ∀ kind ∈ networkKinds, ∀ name,
    ¬(NamesObject scope kind name ∧ NamesObject scope' kind name)

section
variable [Unicode] {topology : CompiledTopology} {ledger : AllocationLedger}
  {kind : RangeResourceKind} {name : Str}

/-- The guests a scope names are those of the topology. -/
theorem namesVmid_deletionSet {n : Int} :
    NamesVmid (deletionSet (toManifestPayload topology (some ledger))) n ↔
      ∃ g ∈ topology.guests, g.vmid = n := by
  have hguest : ∀ g : GuestSpec,
      (Json.obj (guestEntry (guestPayload g))).field (str "vmid") = .int g.vmid := by
    simp [guestEntry, guestPayload, Json.field, Dict.get?]
  have hobject : ∀ kind name, (objectEntry kind name).field (str "vmid") = .null := by
    simp [objectEntry, Json.field, Dict.get?]
  have hsorted : ∀ g, g ∈ sortedBy GuestSpec.guestRef topology.guests ↔ g ∈ topology.guests :=
    fun g => (sortedBy_perm _ _).mem_iff
  unfold NamesVmid
  constructor
  · rintro ⟨entry, hentry, hvmid⟩
    rw [deletionSet_perm.mem_iff] at hentry
    simp only [List.mem_append, List.mem_map, List.mem_singleton, hsorted] at hentry
    rcases hentry with (((⟨g, hg, rfl⟩ | rfl) | ⟨v, _, rfl⟩) | ⟨v, _, rfl⟩) | ⟨v, _, rfl⟩
    · rw [hguest] at hvmid
      exact ⟨g, hg, Json.int.inj hvmid⟩
    all_goals
      rw [hobject] at hvmid
      cases hvmid
  · rintro ⟨g, hg, rfl⟩
    refine ⟨.obj (guestEntry (guestPayload g)), ?_, hguest g⟩
    rw [deletionSet_perm.mem_iff]
    simp only [List.mem_append, List.mem_map]
    exact .inl (.inl (.inl (.inl ⟨g, (hsorted g).mpr hg, rfl⟩)))

/-- Of the network kinds, a scope names exactly the topology's own objects. -/
theorem namesObject_deletionSet (hkind : kind ∈ networkKinds) :
    NamesObject (deletionSet (toManifestPayload topology (some ledger))) kind name ↔
      objectEntry kind name ∈ deletionSet (toManifestPayload topology (some ledger)) := by
  have hkinds : kind.value ≠ RangeResourceKind.lxcContainer.value ∧
      kind.value ≠ RangeResourceKind.virtualMachine.value := by
    simp only [networkKinds, List.mem_cons, List.not_mem_nil, or_false] at hkind
    rcases hkind with rfl | rfl | rfl | rfl <;> simp [RangeResourceKind.value]
  have hobject : ∀ kind' name', (objectEntry kind' name').field (str "kind") = .str kind'.value ∧
      (objectEntry kind' name').field (str "name") = .str name' := by
    simp [objectEntry, Json.field, Dict.get?]
  have hvalue : ∀ kind', kind'.value = kind.value → kind' = kind := by
    intro kind' h
    cases kind' <;> cases kind <;> first | rfl | simp [RangeResourceKind.value] at h
  constructor
  · rintro ⟨entry, hentry, hk, hname⟩
    have hmem := hentry
    rw [deletionSet_perm.mem_iff] at hentry
    simp only [List.mem_append, List.mem_map, List.mem_singleton] at hentry
    rcases hentry with (((⟨g, _, rfl⟩ | rfl) | ⟨v, _, rfl⟩) | ⟨v, _, rfl⟩) | ⟨v, _, rfl⟩
    · -- an entry of a guest has the kind of a container or of a machine
      have hguest : (Json.obj (guestEntry (guestPayload g))).field (str "kind") =
          .str (guestResourceKind (guestPayload g)) := by
        simp [guestEntry, Json.field, Dict.get?]
      rw [hguest, Json.str.injEq] at hk
      unfold guestResourceKind at hk
      split at hk
      · exact absurd hk.symm hkinds.1
      · exact absurd hk.symm hkinds.2
    all_goals
      rw [(hobject _ _).1, Json.str.injEq] at hk
      rw [(hobject _ _).2, Json.str.injEq] at hname
      rw [hvalue _ hk, hname] at hmem
      exact hmem
  · exact fun h => ⟨_, h, hobject kind name⟩

end

/-! ## A target that lists a range -/

/-- The observation lists every identifier of the topology. -/
structure ListsAll (o : TargetObservation) (topology : CompiledTopology) : Prop where
  vmids : ∀ g ∈ topology.guests, g.vmid ∈ o.vmidsInUse.getD []
  macs : ∀ g ∈ topology.guests, ∀ nic ∈ g.nics, nic.macAddress ∈ o.macsInUse.getD []
  vlanTags : ∀ v ∈ topology.network.vnets, v.vlanTag ∈ o.vlanTagsInUse.getD []
  subnets : ∀ v ∈ topology.network.vnets, v.subnet.cidr ∈ o.subnetsInUse.getD []
  zone : topology.network.zone.name ∈ o.sdnNamesInUse.getD []
  vnets : ∀ v ∈ topology.network.vnets, v.name ∈ o.sdnNamesInUse.getD []
  groups : ∀ g ∈ topology.network.securityGroups, g.name ∈ o.firewallNamesInUse.getD []
  ipSets : ∀ i ∈ topology.network.ipSets, i.name ∈ o.firewallNamesInUse.getD []

/-- The observation of a target on which the topology was deployed since. -/
def TargetObservation.afterDeploying (o : TargetObservation) (topology : CompiledTopology) :
    TargetObservation :=
  let network := topology.network
  { o with
    vmidsInUse := o.vmidsInUse.map (· ++ topology.guests.map GuestSpec.vmid)
    macsInUse := o.macsInUse.map
      (· ++ topology.guests.flatMap fun g => g.nics.map NicSpec.macAddress)
    vlanTagsInUse := o.vlanTagsInUse.map (· ++ network.vnets.map VNetSpec.vlanTag)
    subnetsInUse := o.subnetsInUse.map (· ++ network.vnets.map fun v => v.subnet.cidr)
    sdnNamesInUse := o.sdnNamesInUse.map
      (· ++ network.zone.name :: network.vnets.map VNetSpec.name)
    firewallNamesInUse := o.firewallNamesInUse.map
      (· ++ (network.securityGroups.map SecurityGroupSpec.name ++
        network.ipSets.map IpSetSpec.name)) }

theorem listsAll_afterDeploying {o : TargetObservation} (h : Inventoried o)
    (topology : CompiledTopology) : ListsAll (o.afterDeploying topology) topology := by
  obtain ⟨tags, htags⟩ := Option.isSome_iff_exists.mp h.vlanTags
  obtain ⟨vmids, hvmids⟩ := Option.isSome_iff_exists.mp h.vmids
  obtain ⟨macs, hmacs⟩ := Option.isSome_iff_exists.mp h.macs
  obtain ⟨subnets, hsubnets⟩ := Option.isSome_iff_exists.mp h.subnets
  obtain ⟨sdn, hsdn⟩ := Option.isSome_iff_exists.mp h.sdnNames
  obtain ⟨names, hnames⟩ := Option.isSome_iff_exists.mp h.firewallNames
  constructor
  case vmids =>
    intro g hg
    simpa [TargetObservation.afterDeploying, hvmids] using .inr ⟨g, hg, rfl⟩
  case macs =>
    intro g hg nic hnic
    simpa [TargetObservation.afterDeploying, hmacs] using .inr ⟨g, hg, nic, hnic, rfl⟩
  case vlanTags =>
    intro v hv
    simpa [TargetObservation.afterDeploying, htags] using .inr ⟨v, hv, rfl⟩
  case subnets =>
    intro v hv
    simpa [TargetObservation.afterDeploying, hsubnets] using .inr ⟨v, hv, rfl⟩
  case zone => simp [TargetObservation.afterDeploying, hsdn]
  case vnets =>
    intro v hv
    simpa [TargetObservation.afterDeploying, hsdn] using .inr (.inr ⟨v, hv, rfl⟩)
  case groups =>
    intro g hg
    simpa [TargetObservation.afterDeploying, hnames] using .inr (.inl ⟨g, hg, rfl⟩)
  case ipSets =>
    intro i hi
    simpa [TargetObservation.afterDeploying, hnames] using .inr (.inr ⟨i, hi, rfl⟩)

section
variable [Unicode]

/-! ## The fixed names -/

/-- The IPSets a range has under a name its ledger never allocated. -/
def FixedIpset (controlPlaneCidrs : List Str) (name : Str) : Prop :=
  name = ipsetManagement ∨ (name = ipsetControlPlane ∧ controlPlaneCidrs ≠ [])

theorem fixedIpset_iff {request : WebBreachLabRequest} {o : TargetObservation}
    {network : SegregatedNetworkPlan} {ledger : AllocationLedger}
    (h : compileWebBreachLab request o AllocationLedger.empty = .ok (.plan network, ledger))
    {name : Str} : FixedIpset request.controlPlaneCidrs name ↔
      ReservedIpset name ∧ ∃ i ∈ network.ipSets, i.name = name := by
  obtain ⟨s, t, htidy, hvnets, _, hfirewall, hblocked, rfl, _⟩ := run_compileWebBreachLab h
  obtain ⟨hevolves, ownership, shared, sets, howner, hshared, hipSets, hsets, _⟩ :=
    run_firewallLoops htidy hvnets hfirewall hblocked
  have hpairs := (sharedIpSets_eq_ok (ownershipOf_eq_ok howner).1 hshared).1
  have hfixed : FixedIpset request.controlPlaneCidrs name ↔
      ∃ pair ∈ sharedPairs request o, pair.1 = name := by
    unfold sharedPairs FixedIpset
    by_cases hnone : request.controlPlaneCidrs = []
    · simp [hnone, @eq_comm Str name]
    · simp [hnone, @eq_comm Str name]
  rw [hfixed]
  constructor
  · rintro ⟨pair, hpair, rfl⟩
    refine ⟨sharedPairs_reserved hpair, ?_⟩
    rw [← hpairs] at hpair
    obtain ⟨i, hi, rfl⟩ := List.mem_map.mp hpair
    exact ⟨i, hipSets ▸ List.mem_append_left _ hi, rfl⟩
  · rintro ⟨hreserved, i, hi, rfl⟩
    rw [hipSets] at hi
    rcases List.mem_append.mp hi with hi | hi
    · exact ⟨(i.name, i.cidrs), hpairs ▸ List.mem_map.mpr ⟨i, hi, rfl⟩, rfl⟩
    · -- a team's set went through the ledger, which avoids the reserved names
      obtain ⟨team, _, hset⟩ := forall₂_exists_left hsets hi
      exact absurd hreserved ((hevolves.tidy htidy).unreserved _ hset.name rfl)

variable {range range' : RangeInstance} {template template' : CatalogTemplate}
  {binding binding' : ProxmoxBinding} {plan plan' : CompiledRangePlan}

/-- A plan's fixed IPSets follow from the control-plane networks its binding records. -/
theorem fixedIpset_of_compilePlan
    (h : compilePlan range template (some binding) = .ok (.plan plan)) {name : Str} :
    FixedIpset binding.controlPlaneCidrs name ↔
      ReservedIpset name ∧ ∃ i ∈ plan.workload.topology.network.ipSets, i.name = name := by
  obtain ⟨request, network, ledger, workload, compiled, ledger', hrequest, hnetwork, _, hcompiled,
    hplan⟩ := compilePlan_eq_plan.mp h
  obtain ⟨hworkload, _⟩ := assemblePlan_eq_ok hplan
  obtain ⟨_, _, _, _, _, _, _, _, hbuilt⟩ := compileWorkload_eq_plan.mp hcompiled
  have hsame : plan.workload.topology.network = network := by
    rw [hworkload, ← hbuilt]
    rfl
  have hcidrs : request.controlPlaneCidrs = binding.controlPlaneCidrs := by
    unfold networkRequest at hrequest
    split at hrequest
    · split at hrequest
      · cases hrequest
        rfl
      · cases hrequest
    · cases hrequest
  rw [hsame, ← hcidrs]
  exact fixedIpset_iff hnetwork

/-- Every range's destroy names the management IPSet. -/
theorem names_management (h : compilePlan range template (some binding) = .ok (.plan plan)) :
    NamesObject plan.deletionSet .ipSet ipsetManagement := by
  have hkind : RangeResourceKind.ipSet ∈ networkKinds := by simp [networkKinds]
  rw [(planHeld_of_compilePlan h).deletionSet, namesObject_deletionSet hkind,
    objectEntry_mem_deletionSet]
  exact .inr (.inr (.inr ⟨rfl, ((fixedIpset_of_compilePlan h).mp (.inl rfl)).2⟩))

/-- Destroys of two ranges are never separate. -/
theorem not_separate (h : compilePlan range template (some binding) = .ok (.plan plan))
    (h' : compilePlan range' template' (some binding') = .ok (.plan plan')) :
    ¬Separate plan.deletionSet plan'.deletionSet := by
  intro hseparate
  exact hseparate.objects .ipSet (by simp [networkKinds]) ipsetManagement
    ⟨names_management h, names_management h'⟩

/-! ## What two destroys have in common -/

/-- A plan shows nothing that the observation it was compiled against lists. -/
theorem showsNone_of_compilePlan (h : compilePlan range template (some binding) = .ok (.plan plan)) :
    ShowsNone binding.observation plan.workload.topology :=
  showsNone_of_planStays h ⟨plan, h, rfl, rfl, rfl, rfl, rfl⟩

/-- When the second range was compiled after everything of the first was listed, their destroys
have no guest in common, and no object but the IPSets whose names the compiler fixes: always the one
for the management plane, so that the two are never separate. -/
theorem destroys_share_fixed_ipsets
    (h : compilePlan range template (some binding) = .ok (.plan plan))
    (h' : compilePlan range' template' (some binding') = .ok (.plan plan'))
    (hlists : ListsAll binding'.observation plan.workload.topology) :
    ¬Separate plan.deletionSet plan'.deletionSet ∧
      (∀ n, ¬(NamesVmid plan.deletionSet n ∧ NamesVmid plan'.deletionSet n)) ∧
      ∀ kind ∈ networkKinds, ∀ name,
        NamesObject plan.deletionSet kind name ∧ NamesObject plan'.deletionSet kind name ↔
          kind = .ipSet ∧ FixedIpset binding.controlPlaneCidrs name ∧
            FixedIpset binding'.controlPlaneCidrs name := by
  have hnone := showsNone_of_compilePlan h'
  have hlower : ∀ {name : Str} {names : List Str}, name ∈ names → lower name ∈ names.map lower :=
    fun hmem => List.mem_map_of_mem hmem
  refine ⟨not_separate h h', fun n hboth => ?_, fun kind hkind name => ?_⟩
  · rw [(planHeld_of_compilePlan h).deletionSet, (planHeld_of_compilePlan h').deletionSet,
      namesVmid_deletionSet, namesVmid_deletionSet] at hboth
    obtain ⟨⟨g, hg, rfl⟩, g', hg', hsame⟩ := hboth
    exact hnone.vmids g' hg' (hsame ▸ hlists.vmids g hg)
  rw [(planHeld_of_compilePlan h).deletionSet, (planHeld_of_compilePlan h').deletionSet,
    namesObject_deletionSet hkind, namesObject_deletionSet hkind, objectEntry_mem_deletionSet,
    objectEntry_mem_deletionSet, fixedIpset_of_compilePlan h, fixedIpset_of_compilePlan h']
  constructor
  · rintro ⟨hfirst, hsecond⟩
    rcases hfirst with ⟨rfl, rfl⟩ | ⟨rfl, v, hv, rfl⟩ | ⟨rfl, g, hg, rfl⟩ | ⟨rfl, i, hi, rfl⟩
    · obtain ⟨_, hname⟩ := hsecond.resolve_right (by simp)
      exact absurd (hlower hlists.zone) (hname ▸ hnone.zone)
    · obtain ⟨_, w, hw, hname⟩ := (hsecond.resolve_left (by simp)).resolve_right (by simp)
      exact absurd (hlower (hlists.vnets v hv)) (hname ▸ hnone.vnets w hw)
    · obtain ⟨_, g', hg', hname⟩ :=
        ((hsecond.resolve_left (by simp)).resolve_left (by simp)).resolve_right (by simp)
      exact absurd (hlower (hlists.groups g hg)) (hname ▸ hnone.groups g' hg')
    · obtain ⟨_, j, hj, hname⟩ :=
        ((hsecond.resolve_left (by simp)).resolve_left (by simp)).resolve_left (by simp)
      have hreserved : ReservedIpset i.name := by
        by_contra hother
        exact hnone.ipSets j hj (hname ▸ hother) (hname ▸ hlower (hlists.ipSets i hi))
      exact ⟨rfl, ⟨hreserved, i, hi, rfl⟩, hreserved, j, hj, hname⟩
  · rintro ⟨rfl, ⟨_, i, hi, hname⟩, _, j, hj, hname'⟩
    exact ⟨.inr (.inr (.inr ⟨rfl, i, hi, hname⟩)), .inr (.inr (.inr ⟨rfl, j, hj, hname'⟩))⟩

end

/-! ## Two sample ranges -/

/-- A second range of the same product, compiled after the topology was deployed. -/
def secondRange : RangeInstance := ⟨str "q", str "o"⟩

def secondBinding (topology : CompiledTopology) : @ProxmoxBinding Unicode.ascii :=
  let _ := Unicode.ascii
  { sampleBinding with observation := equippedObservation.afterDeploying topology }

theorem secondRange_planned : @plannedWith Unicode.ascii sampleRange sampleTemplate sampleBinding
    (fun compiled _ => @plannedWith Unicode.ascii secondRange sampleTemplate
      (secondBinding compiled.topology) fun _ _ => true) = true := by
  decide +kernel

theorem exists_secondRange : ∃ plan plan',
    @compilePlan Unicode.ascii sampleRange sampleTemplate (some sampleBinding) =
      .ok (.plan plan) ∧
    @compilePlan Unicode.ascii secondRange sampleTemplate
      (some (secondBinding (@CompiledRangePlan.workload Unicode.ascii plan).topology)) =
      .ok (.plan plan') ∧
    ListsAll (equippedObservation.afterDeploying
      (@CompiledRangePlan.workload Unicode.ascii plan).topology)
      (@CompiledRangePlan.workload Unicode.ascii plan).topology := by
  let _ := Unicode.ascii
  obtain ⟨plan, hplan, hsecond⟩ := exists_of_plannedWith rfl secondRange_planned
  obtain ⟨plan', hplan', _⟩ := exists_of_plannedWith rfl hsecond
  exact ⟨plan, plan', hplan, hplan',
    listsAll_afterDeploying ⟨rfl, rfl, rfl, rfl, rfl, rfl⟩ _⟩

/-- Without control-plane networks, the sample ranges share the management IPSet alone. -/
theorem sample_destroys_share_management : ∃ plan plan',
    @compilePlan Unicode.ascii sampleRange sampleTemplate (some sampleBinding) =
      .ok (.plan plan) ∧
    @compilePlan Unicode.ascii secondRange sampleTemplate
      (some (secondBinding (@CompiledRangePlan.workload Unicode.ascii plan).topology)) =
      .ok (.plan plan') ∧
    ∀ kind ∈ networkKinds, ∀ name,
      NamesObject (@CompiledRangePlan.deletionSet Unicode.ascii plan) kind name ∧
        NamesObject (@CompiledRangePlan.deletionSet Unicode.ascii plan') kind name ↔
        kind = .ipSet ∧ name = ipsetManagement := by
  let _ := Unicode.ascii
  obtain ⟨plan, plan', hplan, hplan', hlists⟩ := exists_secondRange
  refine ⟨plan, plan', hplan, hplan', fun kind hkind name => ?_⟩
  rw [(destroys_share_fixed_ipsets hplan hplan' hlists).2.2 kind hkind name]
  have hnone : ∀ name, FixedIpset [] name ↔ name = ipsetManagement := by simp [FixedIpset]
  exact and_congr_right fun _ => (and_congr (hnone name) (hnone name)).trans and_self_iff

/-- The sample ranges' destroys both remove the management IPSet. -/
theorem sample_destroys_overlap : ∃ plan plan',
    @compilePlan Unicode.ascii sampleRange sampleTemplate (some sampleBinding) =
      .ok (.plan plan) ∧
    @compilePlan Unicode.ascii secondRange sampleTemplate
      (some (secondBinding (@CompiledRangePlan.workload Unicode.ascii plan).topology)) =
      .ok (.plan plan') ∧
    ListsAll (equippedObservation.afterDeploying
      (@CompiledRangePlan.workload Unicode.ascii plan).topology)
      (@CompiledRangePlan.workload Unicode.ascii plan).topology ∧
    ¬Separate (@CompiledRangePlan.deletionSet Unicode.ascii plan)
      (@CompiledRangePlan.deletionSet Unicode.ascii plan') := by
  let _ := Unicode.ascii
  obtain ⟨plan, plan', hplan, hplan', hlists⟩ := exists_secondRange
  exact ⟨plan, plan', hplan, hplan', hlists, not_separate hplan hplan'⟩

end Secp.Proxmox
