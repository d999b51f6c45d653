import Secp.Proxmox.NetworkSpec

/-!
# The compiled firewall objects

The two loops of the firewall compiler, each described by what it adds: one IPSet for each team
holding that team's subnets, and one security group for each VNet holding its authored rules. The
names they are given are recorded in the ledger, so its soundness keeps them apart.
-/

namespace Secp.Proxmox

open Secp.Python Secp.Logic AllocationLedger

section
variable [Unicode] {ledger ledger' : AllocationLedger} {ownership : Ownership}
  {request : WebBreachLabRequest} {observation : TargetObservation} {s t : Session}

/-! ## IPSets -/

theorem make_ipset_eq_ok {name comment : Str} {cidrs : List Str} {item : IpSetSpec}
    (h : IpSetSpec.make name cidrs ownership comment = .ok item) :
    item.name = name ∧ item.cidrs = cidrs ∧ item.ownership = ownership := by
  unfold IpSetSpec.make at h
  split at h
  · split at h
    · cases h
      exact ⟨rfl, rfl, rfl⟩
    · cases h
  · cases h

/-- The names and contents of the IPSets that do not belong to a team. -/
def sharedPairs (request : WebBreachLabRequest) (observation : TargetObservation) :
    List (Str × List Str) :=
  (ipsetManagement, observation.identity.managementCidrs) ::
    if request.controlPlaneCidrs.isEmpty then []
    else [(ipsetControlPlane, request.controlPlaneCidrs)]

theorem sharedIpSets_eq_ok {shared : List IpSetSpec} (hteam : ownership.teamRef = none)
    (h : sharedIpSets request observation ownership = .ok shared) :
    shared.map (fun item => (item.name, item.cidrs)) = sharedPairs request observation ∧
      ∀ item ∈ shared, item.ownership.teamRef = none := by
  obtain ⟨management, hmanagement, h⟩ := except_bind_eq_ok.mp h
  obtain ⟨hname, hcidrs, howner⟩ := make_ipset_eq_ok hmanagement
  unfold sharedPairs
  split at h
  · rename_i hempty
    cases h
    simp [hname, hcidrs, howner, hteam, hempty]
  · rename_i hne
    obtain ⟨controlPlane, hcontrol, h⟩ := except_bind_eq_ok.mp h
    obtain ⟨hname', hcidrs', howner'⟩ := make_ipset_eq_ok hcontrol
    cases h
    simp [hname, hcidrs, howner, hname', hcidrs', howner', hteam, hne]

/-- The IPSet compiled for a team and its VNets. -/
structure TeamIpSet (request : WebBreachLabRequest) (ledger : AllocationLedger)
    (team : Str × List VNetSpec) (item : IpSetSpec) : Prop where
  ownership : ownershipOf request .network (some team.1) = .ok item.ownership
  cidrs : item.cidrs = team.2.map fun vnet => vnet.subnet.cidr
  name : ⟨.firewallObjectName, item.ownership.scopeKey, team.1 ++ str "/ipset", item.name⟩ ∈
    ledger.records

theorem TeamIpSet.mono {team : Str × List VNetSpec} {item : IpSetSpec}
    (h : TeamIpSet request ledger team item) (hext : Extends ledger ledger') :
    TeamIpSet request ledger' team item := ⟨h.ownership, h.cidrs, hext h.name⟩

/-- A group of VNets that belongs to a team. -/
def teamItem (item : Option Str × List VNetSpec) : Option (Str × List VNetSpec) :=
  item.1.map fun team => (team, item.2)

/-- One turn of the IPSet loop. -/
theorem run_compileTeamIpSet {ipSets ipSets' : List IpSetSpec}
    {item : Option Str × List VNetSpec}
    (hrun : (compileTeamIpSet request observation ipSets item).run s = .ok (ipSets', t)) :
    Evolves s t ∧ (t.blocked = [] → ∃ added, ipSets' = ipSets ++ added ∧
      List.Forall₂ (TeamIpSet request t.ledger) (teamItem item).toList added) := by
  obtain ⟨team, vnets⟩ := item
  cases team with
  | none =>
      obtain ⟨rfl, rfl⟩ := run_pure_eq_ok.mp hrun
      exact ⟨Evolves.refl _, fun _ => ⟨[], by simp, .nil⟩⟩
  | some team =>
      obtain ⟨ownership, s0, hcheck, hrun⟩ := run_bind_eq_ok.mp hrun
      obtain ⟨howner, rfl⟩ := run_check_eq_ok.mp hcheck
      obtain ⟨name, s1, hname, hrun⟩ := run_bind_eq_ok.mp hrun
      have e1 : Evolves s s1 :=
        keeps_logRun (grows_allocateFirewallName observation (.inl rfl) team) _ _ _ hname
      cases name with
      | none =>
          obtain ⟨rfl, rfl⟩ := run_pure_eq_ok.mp hrun
          refine ⟨e1, fun hblocked => ?_⟩
          obtain ⟨_, _, _, hsome, _⟩ := run_logRun_of_unblocked hname hblocked
          cases hsome
      | some name =>
          obtain ⟨added, s2, hmake, hrun⟩ := run_bind_eq_ok.mp hrun
          obtain ⟨hadded, rfl⟩ := run_check_eq_ok.mp hmake
          obtain ⟨rfl, rfl⟩ := run_pure_eq_ok.mp hrun
          obtain ⟨hitemName, hcidrs, hitemOwner⟩ := make_ipset_eq_ok hadded
          obtain ⟨l1, hl1, rfl⟩ := run_logRun_some hname
          refine ⟨e1, fun _ => ⟨[added], rfl, .cons ⟨hitemOwner ▸ howner, hcidrs, ?_⟩ .nil⟩⟩
          rw [hitemOwner, hitemName]
          exact allocateName_recorded hl1

/-- The IPSet loop adds one set for each team, in order. -/
theorem run_teamIpSets {items : List (Option Str × List VNetSpec)} {shared ipSets : List IpSetSpec}
    (hrun : (items.foldlM (compileTeamIpSet request observation) shared).run s =
      .ok (ipSets, t)) :
    Evolves s t ∧ (t.blocked = [] → ∃ sets, ipSets = shared ++ sets ∧
      List.Forall₂ (TeamIpSet request t.ledger) (items.filterMap teamItem) sets) := by
  refine Ensures.foldlM (fun done ipSets t => Evolves s t ∧ (t.blocked = [] → ∃ sets,
    ipSets = shared ++ sets ∧
      List.Forall₂ (TeamIpSet request t.ledger) (done.filterMap teamItem) sets)) ?_ shared s ipSets t
    ⟨Evolves.refl s, fun _ => ⟨[], by simp, .nil⟩⟩ hrun
  rintro done item rest ipSets _ m ipSets' t ⟨hbefore, hdone⟩ hrun
  obtain ⟨hevolves, hresult⟩ := run_compileTeamIpSet hrun
  refine ⟨Evolves.trans _ _ _ hbefore hevolves, fun hblocked => ?_⟩
  obtain ⟨sets, rfl, hsets⟩ := hdone (hevolves.unblocked hblocked)
  obtain ⟨added, rfl, hadded⟩ := hresult hblocked
  refine ⟨sets ++ added, by simp, ?_⟩
  rw [List.filterMap_append]
  refine List.rel_append (hsets.imp fun _ _ h => h.mono hevolves.keeps) ?_
  have hlast : [item].filterMap teamItem = (teamItem item).toList := by
    rw [List.filterMap_cons]
    cases teamItem item <;> rfl
  rw [hlast]
  exact hadded

/-! ## Security groups -/

/-- The group compiled for a VNet. -/
structure VnetGroup (request : WebBreachLabRequest) (ledger : AllocationLedger)
    (teamIpset : Dict Str Str) (scoring : List VNetSpec) (vnet : VNetSpec)
    (group : SecurityGroupSpec) : Prop where
  rules : group.rules = bandPositions (segmentRules request teamIpset scoring vnet)
  name : ⟨.firewallObjectName, vnet.ownership.scopeKey, vnet.vnetAlias ++ str "/secgroup",
    group.name⟩ ∈ ledger.records

theorem make_group_eq_ok {name comment : Str} {rules : List FirewallRuleSpec}
    {group : SecurityGroupSpec}
    (h : SecurityGroupSpec.make name rules ownership comment = .ok group) :
    group.name = name ∧ group.rules = rules := by
  unfold SecurityGroupSpec.make at h
  split at h
  · split at h
    · cases h
      exact ⟨rfl, rfl⟩
    · cases h
  · cases h

variable {teamIpset : Dict Str Str} {scoring : List VNetSpec}

/-- One turn of the group loop. -/
theorem run_compileGroup {state state' : List SecurityGroupSpec × Dict Str Str} {vnet : VNetSpec}
    (hrun : (compileGroup request observation teamIpset scoring state vnet).run s =
      .ok (state', t)) :
    Evolves s t ∧ (t.blocked = [] → ∃ group, state' = (state.1 ++ [group],
      state.2.set vnet.name group.name) ∧
        VnetGroup request t.ledger teamIpset scoring vnet group) := by
  obtain ⟨name, s1, hname, hrun⟩ := run_bind_eq_ok.mp hrun
  have e1 : Evolves s s1 :=
    keeps_logRun (grows_allocateFirewallName observation (.inr rfl) vnet.name) _ _ _ hname
  cases name with
  | none =>
      obtain ⟨rfl, rfl⟩ := run_pure_eq_ok.mp hrun
      refine ⟨e1, fun hblocked => ?_⟩
      obtain ⟨_, _, _, hsome, _⟩ := run_logRun_of_unblocked hname hblocked
      cases hsome
  | some name =>
      obtain ⟨group, s2, hmake, hrun⟩ := run_bind_eq_ok.mp hrun
      obtain ⟨hgroup, rfl⟩ := run_check_eq_ok.mp hmake
      obtain ⟨rfl, rfl⟩ := run_pure_eq_ok.mp hrun
      obtain ⟨hgroupName, hrules⟩ := make_group_eq_ok hgroup
      obtain ⟨l1, hl1, rfl⟩ := run_logRun_some hname
      refine ⟨e1, fun _ => ⟨group, by rw [hgroupName], hrules, ?_⟩⟩
      rw [hgroupName]
      exact allocateName_recorded hl1

/-- The group loop gives each VNet a group, in order, and attaches it under the VNet's name. -/
theorem run_groups {vnets : List VNetSpec} {groups : List SecurityGroupSpec}
    {attachment : Dict Str Str} (hnames : (vnets.map VNetSpec.name).Nodup)
    (hrun : (vnets.foldlM (compileGroup request observation teamIpset scoring) ([], [])).run s =
      .ok ((groups, attachment), t)) :
    Evolves s t ∧ (t.blocked = [] →
      List.Forall₂ (VnetGroup request t.ledger teamIpset scoring) vnets groups ∧
        attachment = (vnets.map VNetSpec.name).zip (groups.map SecurityGroupSpec.name)) := by
  refine Ensures.foldlM (fun done (state : List SecurityGroupSpec × Dict Str Str) t =>
    Evolves s t ∧ (t.blocked = [] →
      List.Forall₂ (VnetGroup request t.ledger teamIpset scoring) done state.1 ∧
        state.2 = (done.map VNetSpec.name).zip (state.1.map SecurityGroupSpec.name))) ?_
    ([], []) s (groups, attachment) t ⟨Evolves.refl s, fun _ => ⟨.nil, rfl⟩⟩ hrun
  rintro done vnet rest state hall m state' t ⟨hbefore, hdone⟩ hrun
  obtain ⟨hevolves, hresult⟩ := run_compileGroup hrun
  refine ⟨Evolves.trans _ _ _ hbefore hevolves, fun hblocked => ?_⟩
  obtain ⟨hgroups, hattached⟩ := hdone (hevolves.unblocked hblocked)
  obtain ⟨group, rfl, hgroup⟩ := hresult hblocked
  have hlength := hgroups.length_eq
  refine ⟨List.rel_append (hgroups.imp fun _ _ h => ⟨h.rules, hevolves.keeps h.name⟩)
    (.cons hgroup .nil), ?_⟩
  have hfresh : vnet.name ∉ state.2.map Prod.fst := by
    rw [hattached, List.map_fst_zip (by simp [hlength])]
    rw [hall, List.map_append, List.map_cons] at hnames
    exact fun hmem => (List.nodup_append'.mp hnames).2.2 hmem List.mem_cons_self
  change state.2.set vnet.name group.name = _
  rw [Dict.set_of_not_mem hfresh, hattached, List.map_append, List.map_append,
    List.zip_append (by simp [hlength])]
  rfl

/-! ## The compiled plan -/

/-- The VNets of a plan, up to order: one for each segment. -/
def SegmentVnets (request : WebBreachLabRequest) (ledger : AllocationLedger)
    (vnets : List VNetSpec) : Prop :=
  ∃ inOrder, vnets.Perm inOrder ∧ List.Forall₂ (SegmentVnet request ledger) (segments request) inOrder

theorem SegmentVnets.mono {vnets : List VNetSpec} (h : SegmentVnets request ledger vnets)
    (hext : Extends ledger ledger') : SegmentVnets request ledger' vnets := by
  obtain ⟨inOrder, hperm, hsegments⟩ := h
  exact ⟨inOrder, hperm, hsegments.imp fun _ _ hv => hv.mono hext⟩

theorem SegmentEntries.segmentVnets {compiled : Dict Str VNetSpec}
    (h : SegmentEntries request ledger (segments request) compiled) :
    SegmentVnets request ledger ((sortedBy Prod.fst compiled).map Prod.snd) := by
  refine ⟨compiled.map Prod.snd, (sortedBy_perm _ _).map _, ?_⟩
  rw [List.forall₂_map_right_iff]
  exact h.imp fun _ _ hentry => hentry.2

/-- Two VNets of the plan either coincide or come from segments with different keys. -/
theorem SegmentVnets.pairwise {vnets : List VNetSpec} (h : SegmentVnets request ledger vnets)
    {Q : VNetSpec → VNetSpec → Prop} (hsymm : ∀ v w, Q v w → Q w v)
    (hQ : ∀ a b v w, SegmentVnet request ledger a v → SegmentVnet request ledger b w →
      a.key ≠ b.key → Q v w) : vnets.Pairwise Q := by
  obtain ⟨inOrder, hperm, hsegments⟩ := h
  refine (hperm.pairwise_iff fun {v w} => hsymm v w).mpr ?_
  exact forall₂_pairwise hsegments (segments_pairwise request)
    fun a v b w hv hw hkey => hQ a b v w hv hw hkey

theorem SegmentVnets.names_nodup {vnets : List VNetSpec} (h : SegmentVnets request ledger vnets)
    (hsound : Sound ledger) : (vnets.map VNetSpec.name).Nodup :=
  List.pairwise_map.mpr (h.pairwise (fun _ _ => Ne.symm)
    fun _ _ _ _ hv hw hkey => hv.name_ne hsound hw hkey)

theorem SegmentVnets.exists_segment {vnets : List VNetSpec} (h : SegmentVnets request ledger vnets)
    {v : VNetSpec} (hv : v ∈ vnets) :
    ∃ segment ∈ segments request, SegmentVnet request ledger segment v := by
  obtain ⟨inOrder, hperm, hsegments⟩ := h
  exact forall₂_exists_left hsegments (hperm.mem_iff.mp hv)

/-- What is true of every plan compiled from an empty ledger. -/
structure Compiled (request : WebBreachLabRequest) (observation : TargetObservation)
    (plan : SegregatedNetworkPlan) : Prop where
  /-- One VNet for each segment. -/
  vnets : ∃ inOrder, plan.vnets.Perm inOrder ∧ List.Forall₂ (fun segment vnet =>
    vnet.ownership.teamRef = segment.teamRef ∧ vnet.role = segment.role) (segments request) inOrder
  /-- Every subnet is a version 4 network in its printed form. -/
  cidrs : ∀ v ∈ plan.vnets, ∃ n : Ip.Network, n.version = .v4 ∧ v.subnet.cidr = n.text
  disjoint : ∀ v ∈ plan.vnets, ∀ w ∈ plan.vnets, v ≠ w → ∀ x, v.subnet.Contains x →
    ¬w.subnet.Contains x
  management : (ipSetCidrs plan).get? ipsetManagement = some observation.identity.managementCidrs
  controlPlane : request.controlPlaneCidrs ≠ [] →
    (ipSetCidrs plan).get? ipsetControlPlane = some request.controlPlaneCidrs
  teams_nodup : ((teamIpsets plan.ipSets).map Prod.fst).Nodup
  teams : ∀ team, team ∈ (teamIpsets plan.ipSets).map Prod.fst ↔
    ∃ v ∈ plan.vnets, v.ownership.teamRef = some team
  /-- A team's IPSet resolves to the subnets of that team. -/
  teamCidrs : ∀ team name, (team, name) ∈ teamIpsets plan.ipSets →
    (ipSetCidrs plan).get? name =
      some ((plan.vnetsForTeam team).map fun vnet => vnet.subnet.cidr)
  /-- A VNet's group holds its authored rules, lifted into their bands. -/
  group : ∀ v ∈ plan.vnets, ∃ g : SecurityGroupSpec,
    plan.vnetSecurityGroup.get? v.name = some g.name ∧
      plan.securityGroups.find? (fun h => h.name = g.name) = some g ∧
      g.rules = bandPositions (segmentRules request (teamIpsets plan.ipSets)
        (plan.vnets.filter fun vnet => vnet.role = .scoring) v)
  egress : plan.egress = request.egress

/-- The team groups, in the order the IPSet loop visits them. -/
def teamGroups (vnets : List VNetSpec) : List (Str × List VNetSpec) :=
  (sortedBy (fun item => item.1.getD [])
    (Dict.groupBy (fun vnet : VNetSpec => vnet.ownership.teamRef) vnets)).filterMap teamItem

omit [Unicode] in
theorem mem_teamGroups {vnets : List VNetSpec} {team : Str} {members : List VNetSpec} :
    (team, members) ∈ teamGroups vnets ↔ (∃ v ∈ vnets, v.ownership.teamRef = some team) ∧
      members = vnets.filter fun v => v.ownership.teamRef = some team := by
  have hitem : ∀ item : Option Str × List VNetSpec,
      teamItem item = some (team, members) ↔ item = (some team, members) := by
    rintro ⟨key, group⟩
    cases key <;> simp [teamItem]
  simp only [teamGroups, List.mem_filterMap, mem_sortedBy, hitem, exists_eq_right,
    Dict.mem_groupBy, List.mem_map]

omit [Unicode] in
theorem teamGroups_pairwise (vnets : List VNetSpec) :
    (teamGroups vnets).Pairwise fun a b => a.1 ≠ b.1 := by
  have hkeys : (sortedBy (fun item => item.1.getD [])
      (Dict.groupBy (fun vnet : VNetSpec => vnet.ownership.teamRef) vnets)).Pairwise
        fun a b => a.1 ≠ b.1 := by
    refine List.pairwise_map.mp (?_ : (List.map Prod.fst _).Nodup)
    exact ((sortedBy_perm _ _).map Prod.fst).nodup_iff.mpr (Dict.nodup_keys_groupBy _ _)
  refine List.pairwise_filterMap.mpr (hkeys.imp ?_)
  rintro ⟨a, as⟩ ⟨b, bs⟩ hne x hx y hy heq
  cases a with
  | none => cases hx
  | some a =>
      cases b with
      | none => cases hy
      | some b =>
          cases hx
          cases hy
          exact hne (congrArg some heq)

section
variable {vnets : List VNetSpec} {shared sets : List IpSetSpec}

/-- IPSets of different teams have different names. -/
theorem teamSets_pairwise (hsound : Sound ledger)
    (hsets : List.Forall₂ (TeamIpSet request ledger) (teamGroups vnets) sets) :
    sets.Pairwise fun a b => a.name ≠ b.name ∧ a.ownership.teamRef ≠ b.ownership.teamRef := by
  refine forall₂_pairwise hsets (teamGroups_pairwise vnets) fun a x b y hx hy hne => ?_
  obtain ⟨hxteam, hxscope⟩ := ownershipOf_eq_ok hx.ownership
  obtain ⟨hyteam, hyscope⟩ := ownershipOf_eq_ok hy.ownership
  refine ⟨fun hname => ?_, fun hteam => ?_⟩
  · refine hsound.not_conflicts hx.name hy.name ?_ ⟨rfl, congrArg lower hname⟩
    intro h
    injection h with _ hscope _ _
    rw [hxscope, hyscope] at hscope
    simp only [Option.getD_some, Prod.mk.injEq] at hscope
    exact hne hscope.2.2.2.1
  · rw [hxteam, hyteam] at hteam
    exact hne (Option.some.inj hteam)

theorem sharedPairs_reserved {pair : Str × List Str} (h : pair ∈ sharedPairs request observation) :
    ReservedIpset pair.1 := by
  unfold sharedPairs at h
  rcases List.mem_cons.mp h with rfl | h
  · exact .inl rfl
  · split at h
    · cases h
    · obtain rfl := List.mem_singleton.mp h
      exact .inr rfl

theorem sharedPairs_nodup (request : WebBreachLabRequest) (observation : TargetObservation) :
    ((sharedPairs request observation).map Prod.fst).Nodup := by
  unfold sharedPairs
  split <;> simp [ipsetManagement, ipsetControlPlane]

/-- All IPSet names of a plan are different, so a name resolves to the set that bears it. -/
theorem ipSetNames_nodup (htidy : Tidy ledger)
    (hshared : shared.map (fun item => (item.name, item.cidrs)) = sharedPairs request observation)
    (hsets : List.Forall₂ (TeamIpSet request ledger) (teamGroups vnets) sets) :
    (((shared ++ sets).map fun item => (item.name, item.cidrs)).map Prod.fst).Nodup := by
  rw [List.map_append, hshared, List.map_append]
  refine List.nodup_append'.mpr ⟨sharedPairs_nodup _ _, ?_, ?_⟩
  · rw [List.map_map]
    exact List.pairwise_map.mpr ((teamSets_pairwise htidy.sound hsets).imp fun h => h.1)
  · intro name hleft hright
    obtain ⟨pair, hpair, rfl⟩ := List.mem_map.mp hleft
    rw [List.map_map] at hright
    obtain ⟨item, hitem, hname⟩ := List.mem_map.mp hright
    obtain ⟨team, _, hset⟩ := forall₂_exists_left hsets hitem
    refine htidy.unreserved _ hset.name rfl ?_
    change item.name = pair.1 at hname
    change ReservedIpset item.name
    rw [hname]
    exact sharedPairs_reserved hpair

/-- The team dictionary lists each team's IPSet. -/
theorem teamIpsets_eq (hsound : Sound ledger)
    (hshared : ∀ item ∈ shared, item.ownership.teamRef = none)
    (hsets : List.Forall₂ (TeamIpSet request ledger) (teamGroups vnets) sets) :
    ((teamIpsets (shared ++ sets)).map Prod.fst).Nodup ∧ ∀ team name,
      (team, name) ∈ teamIpsets (shared ++ sets) ↔
        ∃ item ∈ sets, item.ownership.teamRef = some team ∧ item.name = name := by
  have hnone : shared.filterMap (fun item => item.ownership.teamRef.map fun team =>
      (team, item.name)) = [] :=
    List.filterMap_eq_nil_iff.mpr fun item hitem => by rw [hshared item hitem]; rfl
  have hnodup : ((sets.filterMap fun item => item.ownership.teamRef.map fun team =>
      (team, item.name)).map Prod.fst).Nodup := by
    refine List.pairwise_map.mpr (List.pairwise_filterMap.mpr ?_)
    refine (teamSets_pairwise hsound hsets).imp ?_
    rintro a b ⟨_, hne⟩ x hx y hy heq
    cases ha : a.ownership.teamRef with
    | none => simp [ha] at hx
    | some team =>
        cases hb : b.ownership.teamRef with
        | none => simp [hb] at hy
        | some team' =>
            rw [ha] at hx
            rw [hb] at hy
            cases hx
            cases hy
            exact hne (by rw [ha, hb, show team = team' from heq])
  have heq : teamIpsets (shared ++ sets) = sets.filterMap fun item =>
      item.ownership.teamRef.map fun team => (team, item.name) := by
    rw [teamIpsets, List.filterMap_append, hnone, List.nil_append, Dict.ofPairs_of_nodup hnodup]
  rw [heq]
  refine ⟨hnodup, fun team name => ?_⟩
  simp only [List.mem_filterMap, Option.map_eq_some_iff, Prod.mk.injEq]
  constructor
  · rintro ⟨item, hitem, team', hteam, rfl, rfl⟩
    exact ⟨item, hitem, hteam, rfl⟩
  · rintro ⟨item, hitem, hteam, rfl⟩
    exact ⟨item, hitem, team, hteam, rfl, rfl⟩

end

/-! ## The whole compilation -/

/-- Groups of different VNets have different names. -/
theorem groups_nodup {vnets : List VNetSpec} {groups : List SecurityGroupSpec}
    (hsound : Sound ledger) (hvnets : SegmentVnets request ledger vnets)
    (hgroups : List.Forall₂ (VnetGroup request ledger teamIpset scoring) vnets groups) :
    (groups.map SecurityGroupSpec.name).Nodup := by
  have hkeys : vnets.Pairwise fun v w =>
      (v.ownership.scopeKey, v.vnetAlias) ≠ (w.ownership.scopeKey, w.vnetAlias) := by
    refine hvnets.pairwise (fun _ _ => Ne.symm) fun a b v w hv hw hkey heq => ?_
    obtain ⟨hscope, halias⟩ := Prod.mk.inj heq
    exact hv.record_ne hw hkey .vnetName [] [] (by rw [hscope, halias])
  refine List.pairwise_map.mpr (forall₂_pairwise hgroups hkeys fun v g w h hg hh hne hname => ?_)
  refine hsound.not_conflicts hg.name hh.name (fun heq => ?_) ⟨rfl, congrArg lower hname⟩
  injection heq with _ hscope hpurpose _
  exact hne (Prod.ext hscope (List.append_cancel_right hpurpose))

/-- What the two firewall loops leave behind. -/
theorem run_firewallLoops {vnets : List VNetSpec} {ipSets : List IpSetSpec}
    {groups : List SecurityGroupSpec} {attachment : Dict Str Str} (htidy : Tidy s.ledger)
    (hvnets : SegmentVnets request s.ledger vnets)
    (hrun : (compileFirewall request observation vnets).run s =
      .ok ((ipSets, groups, attachment), t)) (hblocked : t.blocked = []) :
    Evolves s t ∧ ∃ ownership shared sets, ownershipOf request .network none = .ok ownership ∧
      sharedIpSets request observation ownership = .ok shared ∧ ipSets = shared ++ sets ∧
      List.Forall₂ (TeamIpSet request t.ledger) (teamGroups vnets) sets ∧
      List.Forall₂ (VnetGroup request t.ledger (teamIpsets ipSets)
        (vnets.filter fun vnet => vnet.role = .scoring)) vnets groups ∧
      attachment = (vnets.map VNetSpec.name).zip (groups.map SecurityGroupSpec.name) := by
  obtain ⟨ownership, s0, hcheck, hrun⟩ := run_bind_eq_ok.mp hrun
  obtain ⟨howner, rfl⟩ := run_check_eq_ok.mp hcheck
  obtain ⟨shared, s1, hcheck', hrun⟩ := run_bind_eq_ok.mp hrun
  obtain ⟨hshared, rfl⟩ := run_check_eq_ok.mp hcheck'
  obtain ⟨ipSets', s2, hloop, hrun⟩ := run_bind_eq_ok.mp hrun
  obtain ⟨⟨groups', attachment'⟩, s3, hgroupLoop, hrun⟩ := run_bind_eq_ok.mp hrun
  obtain ⟨hret, rfl⟩ := run_pure_eq_ok.mp hrun
  cases hret
  obtain ⟨e2, hsetsOf⟩ := run_teamIpSets hloop
  obtain ⟨e3, hgroupsOf⟩ := run_groups (hvnets.names_nodup htidy.sound) hgroupLoop
  obtain ⟨sets, rfl, hsets⟩ := hsetsOf (e3.unblocked hblocked)
  obtain ⟨hgroups, rfl⟩ := hgroupsOf hblocked
  exact ⟨Evolves.trans _ _ _ e2 e3, ownership, shared, sets, howner, hshared, rfl,
    hsets.imp fun _ _ h => h.mono e3.keeps, hgroups, rfl⟩

/-- The firewall objects, given the VNets they are compiled for. -/
theorem run_compileFirewall {vnets : List VNetSpec} {ipSets : List IpSetSpec}
    {groups : List SecurityGroupSpec} {attachment : Dict Str Str} (htidy : Tidy s.ledger)
    (hvnets : SegmentVnets request s.ledger vnets)
    (hrun : (compileFirewall request observation vnets).run s =
      .ok ((ipSets, groups, attachment), t)) (hblocked : t.blocked = []) (zone : SdnZoneSpec) :
    Compiled request observation ⟨zone, vnets, groups, ipSets, attachment, request.egress⟩ := by
  obtain ⟨hevolves, ownership, shared, sets, howner, hshared, rfl, hsets, hgroups, rfl⟩ :=
    run_firewallLoops htidy hvnets hrun hblocked
  have htidy3 := hevolves.tidy htidy
  have hvnets := hvnets.mono hevolves.keeps
  obtain ⟨hpairs, hnone⟩ := sharedIpSets_eq_ok (ownershipOf_eq_ok howner).1 hshared
  obtain ⟨hteamsNodup, hteams⟩ := teamIpsets_eq htidy3.sound hnone hsets
  -- looking a name up finds the set that bears it
  have hlookup : ∀ name cidrs, (name, cidrs) ∈ (shared ++ sets).map (fun item =>
      (item.name, item.cidrs)) → Dict.get? (Dict.ofPairs ((shared ++ sets).map fun item =>
      (item.name, item.cidrs))) name = some cidrs := by
    intro name cidrs hmem
    have hnodup := ipSetNames_nodup htidy3 hpairs hsets
    rw [Dict.ofPairs_of_nodup hnodup]
    exact Dict.get?_of_mem hnodup hmem
  have hsharedMem : ∀ pair ∈ sharedPairs request observation,
      pair ∈ (shared ++ sets).map fun item => (item.name, item.cidrs) := by
    intro pair hpair
    rw [List.map_append, hpairs]
    exact List.mem_append_left _ hpair
  constructor
  case vnets =>
    obtain ⟨inOrder, hperm, hsegments⟩ := hvnets
    exact ⟨inOrder, hperm, hsegments.imp fun _ _ h => ⟨(ownershipOf_eq_ok h.ownership).1, h.role⟩⟩
  case cidrs =>
    intro v hv
    obtain ⟨_, _, hsegment⟩ := hvnets.exists_segment hv
    obtain ⟨n, hversion, hcidr, _⟩ := hsegment.subnet
    exact ⟨n, hversion, hcidr⟩
  case disjoint =>
    have hdisjoint := hvnets.pairwise
      (Q := fun v w => ∀ x, v.subnet.Contains x → ¬w.subnet.Contains x)
      (fun _ _ h x hw hv => h x hv hw)
      (fun _ _ _ _ hv hw hkey _ => hv.disjoint htidy3.sound hw hkey)
    have : Std.Symm fun v w : VNetSpec => ∀ x, v.subnet.Contains x → ¬w.subnet.Contains x :=
      ⟨fun _ _ h x hw hv => h x hv hw⟩
    intro v hv w hw hne
    exact hdisjoint.forall hv hw hne
  case management => exact hlookup _ _ (hsharedMem _ List.mem_cons_self)
  case controlPlane =>
    intro hne
    refine hlookup _ _ (hsharedMem _ (List.mem_cons_of_mem _ ?_))
    simp [hne]
  case teams_nodup => exact hteamsNodup
  case teams =>
    intro team
    rw [List.mem_map]
    constructor
    · rintro ⟨⟨_, name⟩, hmem, rfl⟩
      obtain ⟨item, hitem, hteam, _⟩ := (hteams _ _).mp hmem
      obtain ⟨⟨team', members⟩, hgroup, hset⟩ := forall₂_exists_left hsets hitem
      have : team' = _ := Option.some.inj ((ownershipOf_eq_ok hset.ownership).1.symm.trans hteam)
      exact this ▸ (mem_teamGroups.mp hgroup).1
    · intro hexists
      obtain ⟨item, hitem, hset⟩ :=
        forall₂_exists_right hsets (mem_teamGroups.mpr ⟨hexists, rfl⟩)
      exact ⟨(team, item.name), (hteams _ _).mpr
        ⟨item, hitem, (ownershipOf_eq_ok hset.ownership).1, rfl⟩, rfl⟩
  case teamCidrs =>
    intro team name hmem
    obtain ⟨item, hitem, hteam, rfl⟩ := (hteams _ _).mp hmem
    obtain ⟨⟨team', members⟩, hgroup, hset⟩ := forall₂_exists_left hsets hitem
    have hsame : team' = team :=
      Option.some.inj ((ownershipOf_eq_ok hset.ownership).1.symm.trans hteam)
    subst hsame
    obtain ⟨_, rfl⟩ := mem_teamGroups.mp hgroup
    refine hlookup _ _ (List.mem_map.mpr ⟨item, List.mem_append_right _ hitem, ?_⟩)
    rw [hset.cidrs]
    rfl
  case group =>
    intro v hv
    obtain ⟨g, hzip, hg⟩ := forall₂_exists_zip hgroups hv
    refine ⟨g, ?_, ?_, hg.rules⟩
    · refine Dict.get?_of_mem ?_ ?_
      · rw [List.map_fst_zip (by simp [hgroups.length_eq])]
        exact hvnets.names_nodup htidy3.sound
      · rw [List.zip_map]
        exact List.mem_map.mpr ⟨(v, g), hzip, rfl⟩
    · exact find?_of_nodup (groups_nodup htidy3.sound hvnets hgroups) (List.of_mem_zip hzip).2
  case egress => rfl

omit [Unicode] in
theorem refuse_ne_plan {α : Type} {missing : List MissingPrerequisite} {plan : α} :
    refuse missing ≠ .plan plan := by
  cases missing <;> exact fun h => (nomatch h)

omit [Unicode] in
theorem planUnlessBlocked_eq_plan {α : Type} {blocked : List MissingPrerequisite} {plan plan' : α} :
    planUnlessBlocked plan blocked = .plan plan' ↔ blocked = [] ∧ plan = plan' := by
  unfold planUnlessBlocked
  cases blocked with
  | nil => simp
  | cons first rest => simp [refuse_ne_plan]

/-- A network that concludes in a plan had nothing missing, a zone name and a bridge. -/
theorem run_concludeNetwork {zoneName : Option Str} {compiled : Dict Str VNetSpec}
    {blocked : List MissingPrerequisite} {plan : SegregatedNetworkPlan}
    (hrun : (concludeNetwork request observation ownership zoneName compiled blocked).run s =
      .ok (.plan plan, t)) :
    targetMissing observation = [] ∧ blocked = [] ∧ ∃ name bridge, zoneName = some name ∧
      (zoneBridge observation).1 = some bridge ∧
        (finishNetwork request observation ownership name bridge compiled).run s =
          .ok (.plan plan, t) := by
  unfold concludeNetwork at hrun
  split at hrun
  · rename_i name bridge hmissing hbridge
    obtain ⟨htarget, hblocked⟩ := List.append_eq_nil_iff.mp hmissing
    exact ⟨htarget, hblocked, name, bridge, rfl, hbridge, hrun⟩
  · obtain ⟨hrefused, _⟩ := run_pure_eq_ok.mp hrun
    exact absurd hrefused refuse_ne_plan

theorem make_zone_eq_ok {name bridge : Str} {nodes : List Str} {zone : SdnZoneSpec}
    (h : SdnZoneSpec.make name bridge nodes ownership = .ok zone) : zone.name = name := by
  unfold SdnZoneSpec.make at h
  split at h
  · split at h
    · cases h
      rfl
    · cases h
  · cases h

/-- A compilation that returns a plan ran the segment loop and then the firewall's. -/
theorem run_compileWebBreachLab {plan : SegregatedNetworkPlan}
    (h : compileWebBreachLab request observation AllocationLedger.empty =
      .ok (.plan plan, ledger)) :
    ∃ s t : Session, Tidy s.ledger ∧ SegmentVnets request s.ledger plan.vnets ∧
      (∃ scope purpose, ⟨.zoneName, scope, purpose, plan.zone.name⟩ ∈ s.ledger.records) ∧
      (compileFirewall request observation plan.vnets).run s =
        .ok ((plan.ipSets, plan.securityGroups, plan.vnetSecurityGroup), t) ∧
      t.blocked = [] ∧ t.ledger = ledger ∧ plan.egress = request.egress := by
  unfold compileWebBreachLab at h
  split at h
  · rename_i outcome session hnetwork
    cases h
    obtain ⟨ownership, s0, hcheck, hrun⟩ := run_bind_eq_ok.mp hnetwork
    obtain ⟨howner, rfl⟩ := run_check_eq_ok.mp hcheck
    obtain ⟨zoneName, s1, hzone, hrun⟩ := run_bind_eq_ok.mp hrun
    obtain ⟨compiled, s2, hloop, hrun⟩ := run_bind_eq_ok.mp hrun
    obtain ⟨_, s3, hget, hrun⟩ := run_bind_eq_ok.mp hrun
    obtain ⟨rfl, rfl⟩ := run_get_eq_ok.mp hget
    have e1 := keeps_logRun (grows_allocateName
      (show AllocationKind.IsName .zoneName from rfl) (by decide) _ _ _ _ _) _ _ _ hzone
    obtain ⟨e2, hentries⟩ := run_segments (e1.tidy Tidy.empty) hloop
    obtain ⟨_, hblocked, name, bridge, rfl, _, hfinish⟩ := run_concludeNetwork hrun
    obtain ⟨l1, hl1, rfl⟩ := run_logRun_some hzone
    obtain ⟨zone, s4, hcheck4, hfinish⟩ := run_bind_eq_ok.mp hfinish
    obtain ⟨hzone4, rfl⟩ := run_check_eq_ok.mp hcheck4
    obtain ⟨⟨ipSets, groups, attachment⟩, s5, hfirewall, hfinish⟩ := run_bind_eq_ok.mp hfinish
    obtain ⟨_, s6, hget6, hfinish⟩ := run_bind_eq_ok.mp hfinish
    obtain ⟨rfl, rfl⟩ := run_get_eq_ok.mp hget6
    obtain ⟨hplan, rfl⟩ := run_pure_eq_ok.mp hfinish
    obtain ⟨hblocked5, rfl⟩ := planUnlessBlocked_eq_plan.mp hplan
    have hrecorded := e2.keeps (allocateName_recorded hl1)
    rw [← make_zone_eq_ok hzone4] at hrecorded
    exact ⟨s2, _, e2.tidy (e1.tidy Tidy.empty), (hentries hblocked).segmentVnets,
      ⟨_, _, hrecorded⟩, hfirewall, hblocked5, rfl, rfl⟩
  · cases h

/-! ## From any ledger -/

/-- A turn of the segment loop after which nothing is missing has compiled a VNet. -/
theorem ne_nil_of_compileSegment {zoneName : Option Str} {segment : Segment}
    {compiled compiled' : Dict Str VNetSpec}
    (hrun : (compileSegment request observation zoneName compiled segment).run s =
      .ok (compiled', t)) (hblocked : t.blocked = []) : compiled' ≠ [] := by
  obtain ⟨ownership, s0, _, hrun⟩ := run_bind_eq_ok.mp hrun
  obtain ⟨name, s1, hname, hrun⟩ := run_bind_eq_ok.mp hrun
  obtain ⟨vlan, s2, hvlan, hrun⟩ := run_bind_eq_ok.mp hrun
  obtain ⟨subnet, s3, hsubnet, hrun⟩ := run_bind_eq_ok.mp hrun
  -- what is missing is never removed from the log
  have hsome : s3.blocked = [] → ∃ n v x, name = some n ∧ vlan = some v ∧ subnet = some x := by
    intro hblocked
    obtain ⟨x, _, _, rfl, rfl⟩ := run_logRun_of_unblocked hsubnet hblocked
    obtain ⟨v, _, _, rfl, rfl⟩ := run_logRun_of_unblocked hvlan hblocked
    obtain ⟨n, _, _, rfl, _⟩ := run_logRun_of_unblocked hname hblocked
    exact ⟨n, v, x, rfl, rfl, rfl⟩
  split at hrun
  · obtain ⟨vnet, s4, _, hrun⟩ := run_bind_eq_ok.mp hrun
    obtain ⟨rfl, _⟩ := run_pure_eq_ok.mp hrun
    exact Dict.set_ne_nil _ _ _
  · rename_i hnone
    obtain ⟨_, rfl⟩ := run_pure_eq_ok.mp hrun
    obtain ⟨n, v, x, rfl, rfl, rfl⟩ := hsome hblocked
    exact absurd rfl (hnone n v x rfl rfl)

/-- The firewall of a network that has a VNet attaches a group of its own to one of them. -/
theorem exists_attached_of_compileFirewall {vnets : List VNetSpec} {ipSets : List IpSetSpec}
    {groups : List SecurityGroupSpec} {attachment : Dict Str Str} (hne : vnets ≠ [])
    (hrun : (compileFirewall request observation vnets).run s =
      .ok ((ipSets, groups, attachment), t)) (hblocked : t.blocked = []) :
    ∃ v ∈ vnets, ∃ g ∈ groups, attachment.get? v.name = some g.name := by
  obtain ⟨_, _, _, hrun⟩ := run_bind_eq_ok.mp hrun
  obtain ⟨_, _, _, hrun⟩ := run_bind_eq_ok.mp hrun
  obtain ⟨_, _, _, hrun⟩ := run_bind_eq_ok.mp hrun
  obtain ⟨state, _, hloop, hrun⟩ := run_bind_eq_ok.mp hrun
  obtain ⟨hret, rfl⟩ := run_pure_eq_ok.mp hrun
  cases hret
  obtain ⟨v, hv, before, _, hlast⟩ := run_foldlM_last hne hloop
  obtain ⟨_, hresult⟩ := run_compileGroup hlast
  obtain ⟨g, rfl, _⟩ := hresult hblocked
  refine ⟨v, hv, g, List.mem_append_right _ List.mem_cons_self, ?_⟩
  rw [Dict.get?_set, if_pos rfl]

/-- Every compiled plan attaches a group of its own to one of its VNets. -/
theorem exists_attached_of_compileWebBreachLab {ledger' : AllocationLedger}
    {plan : SegregatedNetworkPlan}
    (h : compileWebBreachLab request observation ledger = .ok (.plan plan, ledger')) :
    ∃ v ∈ plan.vnets, ∃ g ∈ plan.securityGroups,
      plan.vnetSecurityGroup.get? v.name = some g.name := by
  unfold compileWebBreachLab at h
  split at h
  · rename_i outcome session hnetwork
    cases h
    obtain ⟨_, _, _, hrun⟩ := run_bind_eq_ok.mp hnetwork
    obtain ⟨_, _, _, hrun⟩ := run_bind_eq_ok.mp hrun
    obtain ⟨compiled, s2, hloop, hrun⟩ := run_bind_eq_ok.mp hrun
    obtain ⟨_, s3, hget, hrun⟩ := run_bind_eq_ok.mp hrun
    obtain ⟨rfl, rfl⟩ := run_get_eq_ok.mp hget
    obtain ⟨_, hblocked, _, _, _, _, hfinish⟩ := run_concludeNetwork hrun
    obtain ⟨_, _, _, hfinish⟩ := run_bind_eq_ok.mp hfinish
    obtain ⟨_, s5, hfirewall, hfinish⟩ := run_bind_eq_ok.mp hfinish
    obtain ⟨_, s6, hget, hfinish⟩ := run_bind_eq_ok.mp hfinish
    obtain ⟨rfl, rfl⟩ := run_get_eq_ok.mp hget
    obtain ⟨hplan, rfl⟩ := run_pure_eq_ok.mp hfinish
    obtain ⟨hblocked5, rfl⟩ := planUnlessBlocked_eq_plan.mp hplan
    have hsegments : segments request ≠ [] := by simp [segments]
    obtain ⟨_, _, _, _, hlast⟩ := run_foldlM_last hsegments hloop
    have hne := ne_nil_of_compileSegment hlast hblocked
    refine exists_attached_of_compileFirewall ?_ hfirewall hblocked5
    intro hnil
    rw [List.map_eq_nil_iff] at hnil
    have hlength := (sortedBy_perm Prod.fst compiled).length_eq
    rw [hnil] at hlength
    exact hne (List.length_eq_zero_iff.mp hlength.symm)
  · cases h

/-- Every plan compiled from an empty ledger is as described. -/
theorem compiled_of_compileWebBreachLab {plan : SegregatedNetworkPlan}
    (h : compileWebBreachLab request observation AllocationLedger.empty =
      .ok (.plan plan, ledger)) : Compiled request observation plan := by
  obtain ⟨s, t, htidy, hvnets, _, hfirewall, hblocked, _, hegress⟩ := run_compileWebBreachLab h
  have hcompiled := run_compileFirewall htidy hvnets hfirewall hblocked plan.zone
  rw [← hegress] at hcompiled
  exact hcompiled

end

end Secp.Proxmox
