import Secp.Proxmox.FirewallObjects

/-!
# When the network compiler answers

`Compilable` says what a request and an observation have to be like for the compiler to answer with a plan
or with a refusal. Where the pools suffice, `returnsIff_compileNetwork` shows that it answers exactly then:
nothing keeps the counters of the rules inside their bands, and no name is checked before it is used.
-/

namespace Secp.Proxmox

open Secp.Python Secp.Logic AllocationLedger

section
variable [Unicode] {request : WebBreachLabRequest} {observation : TargetObservation}

/-! ## The order of the objects -/

/-- The teams of a request. -/
def WebBreachLabRequest.teamRefs (request : WebBreachLabRequest) : List Str :=
  request.teams.map TeamRequest.teamRef

/-- What the firewall objects of a network ask for, given the names of its VNets: an IPSet for each team in
order, and a group for each VNet in order of the names. -/
def objectAsks (request : WebBreachLabRequest) (names : List Str) : List NameAsk :=
  (sortedBy id request.teamRefs).map (teamAsk request) ++
    (sortedBy Prod.fst (names.zip ((segments request).map fun segment =>
      (segmentAsk request segment).key))).map groupAsk

section
variable {ledger : AllocationLedger} {vnets : List VNetSpec}

theorem mem_teamRefs_iff {team : Str} :
    team ∈ request.teamRefs ↔ ∃ segment ∈ segments request, segment.teamRef = some team := by
  rw [segments_eq]
  constructor
  · intro h
    obtain ⟨entry, hentry, rfl⟩ := List.mem_map.mp h
    obtain ⟨i, hi⟩ := List.mem_iff_getElem?.mp hentry
    refine ⟨⟨some entry.teamRef, .attacker, vnetName (some (i + 1)) .attacker⟩,
      List.mem_cons_of_mem _ (List.mem_flatMap.mpr ⟨(entry, i + 1), ?_, ?_⟩), rfl⟩
    · exact List.mem_zipIdx_iff_le_and_getElem?_sub.mpr ⟨by omega, by simpa using hi⟩
    · exact List.mem_append_left _ List.mem_cons_self
  · intro h
    obtain ⟨segment, hsegment, hteam⟩ := h
    rcases List.mem_cons.mp hsegment with rfl | hsegment
    · cases hteam
    · obtain ⟨⟨entry, i⟩, hentry, hmem⟩ := List.mem_flatMap.mp hsegment
      have hown := (teamRef_of_mem_teamSegments hmem).1
      have hsame : entry.teamRef = team := Option.some.inj (hown.symm.trans hteam)
      have hplace := List.mem_zipIdx_iff_le_and_getElem?_sub.mp hentry
      exact hsame ▸ List.mem_map_of_mem (List.mem_of_getElem? hplace.2)

/-- A VNet belongs to a team exactly when the team is one of the request. -/
theorem SegmentVnets.teamRef_iff (h : SegmentVnets request ledger vnets) {team : Str} :
    (∃ v ∈ vnets, v.ownership.teamRef = some team) ↔ team ∈ request.teamRefs := by
  rw [mem_teamRefs_iff]
  constructor
  · intro hexists
    obtain ⟨v, hv, hteam⟩ := hexists
    obtain ⟨segment, hsegment, hvnet⟩ := h.exists_segment hv
    exact ⟨segment, hsegment, (ownershipOf_eq_ok hvnet.ownership).1.symm.trans hteam⟩
  · intro hexists
    obtain ⟨segment, hsegment, hteam⟩ := hexists
    obtain ⟨inOrder, hperm, hsegments⟩ := h
    obtain ⟨v, hv, hvnet⟩ := forall₂_exists_right hsegments hsegment
    exact ⟨v, hperm.mem_iff.mpr hv, (ownershipOf_eq_ok hvnet.ownership).1.trans hteam⟩

/-- The IPSet loop visits the teams in order. -/
theorem SegmentVnets.teamGroups_eq (h : SegmentVnets request ledger vnets) :
    (teamGroups vnets).map Prod.fst = sortedBy id request.teamRefs := by
  refine (sortedBy_eq_of_pairwise (fun _ _ _ _ heq => heq) ?_ ?_).symm
  · have hsorted := pairwise_sortedBy (fun item : Option Str × List VNetSpec => item.1.getD [])
      (Dict.groupBy (fun vnet : VNetSpec => vnet.ownership.teamRef) vnets)
    refine List.pairwise_map.mpr (List.pairwise_filterMap.mpr (hsorted.imp ?_))
    intro a b hle x hx y hy
    obtain ⟨_ | a, as⟩ := a
    · cases hx
    · obtain ⟨_ | b, bs⟩ := b
      · cases hy
      · cases hx
        cases hy
        exact hle
  · refine (List.perm_ext_iff_of_nodup ?_ ?_).mpr fun team => ?_
    · exact request.teamRefs_nodup
    · exact List.pairwise_map.mpr (teamGroups_pairwise vnets)
    · rw [← h.teamRef_iff, List.mem_map]
      constructor
      · intro hexists
        exact ⟨(team, _), mem_teamGroups.mpr ⟨hexists, rfl⟩, rfl⟩
      · intro hmem
        obtain ⟨⟨team', members⟩, hgroup, rfl⟩ := hmem
        exact (mem_teamGroups.mp hgroup).1

/-- The groups ask in order of the VNets' names. -/
theorem SegmentEntries.vnetAsks_eq {compiled : Dict Str VNetSpec}
    (h : SegmentEntries request ledger (segments request) compiled) :
    ((sortedBy Prod.fst compiled).map Prod.snd).map vnetAsk =
      (sortedBy Prod.fst ((compiled.map Prod.fst).zip ((segments request).map fun segment =>
        (segmentAsk request segment).key))).map groupAsk := by
  have hzip : (compiled.map Prod.fst).zip ((segments request).map fun segment =>
      (segmentAsk request segment).key) =
        compiled.map fun entry => (entry.1, entry.2.ownership.scopeKey, entry.2.vnetAlias) := by
    have hkeys : (segments request).map (fun segment => (segmentAsk request segment).key) =
        compiled.map fun entry => (entry.2.ownership.scopeKey, entry.2.vnetAlias) := by
      refine map_eq_map_of_forall₂ h fun segment entry hentry => ?_
      rw [(ownershipOf_eq_ok hentry.2.ownership).2, hentry.2.vnetAlias]
      rfl
    rw [hkeys, List.zip_map', List.map_congr_left fun _ _ => rfl]
  have hsorted : sortedBy Prod.fst (compiled.map fun entry =>
      (entry.1, entry.2.ownership.scopeKey, entry.2.vnetAlias)) =
        (sortedBy Prod.fst compiled).map fun entry =>
          (entry.1, entry.2.ownership.scopeKey, entry.2.vnetAlias) :=
    sortedBy_map (fun _ => rfl) compiled
  rw [hzip, hsorted, List.map_map, List.map_map]
  refine List.map_congr_left fun entry hentry => ?_
  obtain ⟨segment, -, hname, -⟩ := forall₂_exists_left h (mem_sortedBy.mp hentry)
  show groupAsk (entry.2.name, _) = groupAsk (entry.1, _)
  rw [hname]

/-- No two firewall objects ask under one key. -/
theorem SegmentVnets.objectAsks_nodup (h : SegmentVnets request ledger vnets) (teams : List Str)
    (hteams : teams.Nodup) :
    ((teams.map (teamAsk request) ++ vnets.map vnetAsk).map NameAsk.key).Nodup := by
  rw [List.map_append, List.map_map, List.map_map]
  refine List.nodup_append'.mpr ⟨?_, ?_, ?_⟩
  · refine List.Nodup.map_on (fun team _ other _ heq => ?_) hteams
    exact List.append_cancel_right (Prod.mk.inj heq).2
  · refine List.pairwise_map.mpr (h.pairwise (fun _ _ => Ne.symm) fun a b v w hv hw hkey heq => ?_)
    obtain ⟨hscope, hpurpose⟩ := Prod.mk.inj heq
    have halias : v.vnetAlias = w.vnetAlias := List.append_cancel_right hpurpose
    exact hv.record_ne hw hkey .vnetName [] [] (by
      rw [show v.ownership.scopeKey = w.ownership.scopeKey from hscope, halias])
  · intro key hleft hright
    obtain ⟨team, -, rfl⟩ := List.mem_map.mp hleft
    obtain ⟨v, -, hkey⟩ := List.mem_map.mp hright
    -- the purposes end differently
    have hpurpose : v.vnetAlias ++ str "/secgroup" = team ++ str "/ipset" := (Prod.mk.inj hkey).2
    have hlast := congrArg List.getLast? hpurpose
    simp [str, List.getLast?_append] at hlast

end

/-! ## The firewall -/

/-- The counters of a network's rules stay inside their bands. -/
structure BandsFit (request : WebBreachLabRequest) (names : List Str) : Prop where
  paths : request.controlPlaneCidrs ≠ [] → request.reviewedControlPlanePaths.length ≤ 50
  teams : request.teams.length ≤ 51
  egress : ∀ spec ∈ request.egress, spec.vnetName ∈ names →
    EgressFits spec.allowedDestinations.length (egressPorts spec).length

/-- The firewall objects of a network whose VNets have these names can be built. -/
structure FirewallBuilds (request : WebBreachLabRequest) (observation : TargetObservation)
    (names : List Str) : Prop where
  controlPlane : ∀ cidr ∈ request.controlPlaneCidrs, (Ip.ipNetwork false cidr).isSome = true
  objects : ObjectsNamed observation (objectAsks request names)
  bands : observation.firewallNamesInUse ≠ none → BandsFit request names

section
variable {s t : Session} {compiled : Dict Str VNetSpec} {vnets : List VNetSpec}

theorem SegmentVnets.scoring_le_one {ledger : AllocationLedger} (h : SegmentVnets request ledger vnets) :
    (vnets.filter fun v => v.role = .scoring).length ≤ 1 := by
  obtain ⟨inOrder, hperm, hsegments⟩ := h
  rw [(hperm.filter _).length_eq]
  have hcount : ∀ {segs : List Segment} {vs : List VNetSpec},
      List.Forall₂ (SegmentVnet request ledger) segs vs →
        (vs.filter fun v => v.role = .scoring).length =
          (segs.filter fun segment => segment.role = .scoring).length := by
    intro segs vs hall
    induction hall with
    | nil => rfl
    | cons hhead _ ih =>
        rw [List.filter_cons, List.filter_cons, hhead.role]
        split
        · rw [List.length_cons, List.length_cons, ih]
        · exact ih
  have hteams : ∀ segment ∈ (request.teams.zipIdx 1).flatMap teamSegments, segment.role ≠ .scoring := by
    intro segment hsegment
    obtain ⟨entry, -, hmem⟩ := List.mem_flatMap.mp hsegment
    exact (teamRef_of_mem_teamSegments hmem).2
  have hnone : ((request.teams.zipIdx 1).flatMap teamSegments).filter
      (fun segment => segment.role = .scoring) = [] :=
    List.filter_eq_nil_iff.mpr fun segment hsegment => by simpa using hteams segment hsegment
  rw [hcount hsegments, segments_eq, List.filter_cons, hnone]
  exact Nat.le_refl 1

/-- The groups of a network can be built when its counters stay inside their bands. -/
theorem SegmentVnets.positions_nodup {ledger : AllocationLedger} {teamIpset : Dict Str Str}
    (h : SegmentVnets request ledger vnets) (hfit : BandsFit request (vnets.map VNetSpec.name))
    (hteams : teamIpset.length ≤ request.teams.length) {v : VNetSpec} (hv : v ∈ vnets) :
    (positions (segmentRules request teamIpset (vnets.filter fun v => v.role = .scoring) v)).Nodup := by
  refine segment_positions hfit.paths (hteams.trans hfit.teams) h.scoring_le_one fun spec hspec hhere => ?_
  exact hfit.egress spec hspec (hhere ▸ List.mem_map_of_mem hv)

/-- A team has one IPSet at most. -/
theorem SegmentVnets.teamIpsets_length {ledger : AllocationLedger} {shared sets : List IpSetSpec}
    (h : SegmentVnets request ledger vnets) (hsound : Sound ledger)
    (hshared : ∀ item ∈ shared, item.ownership.teamRef = none)
    (hsets : List.Forall₂ (TeamIpSet request ledger) (teamGroups vnets) sets) :
    (teamIpsets (shared ++ sets)).length ≤ request.teams.length := by
  obtain ⟨hnodup, hmem⟩ := teamIpsets_eq hsound hshared hsets
  have hsubset : (teamIpsets (shared ++ sets)).map Prod.fst ⊆ request.teamRefs := by
    intro team hteam
    obtain ⟨⟨_, name⟩, hentry, rfl⟩ := List.mem_map.mp hteam
    obtain ⟨item, hitem, hitemTeam, -⟩ := (hmem _ _).mp hentry
    obtain ⟨⟨team', members⟩, hgroup, hset⟩ := forall₂_exists_left hsets hitem
    have hsame : team' = _ := Option.some.inj ((ownershipOf_eq_ok hset.ownership).1.symm.trans hitemTeam)
    exact h.teamRef_iff.mp (hsame ▸ (mem_teamGroups.mp hgroup).1)
  have hle := (List.subperm_of_subset hnodup hsubset).length_le
  rwa [List.length_map, WebBreachLabRequest.teamRefs, List.length_map] at hle

/-- The firewall compiler returns when its objects can be built. -/
theorem returnsIff_compileFirewall (hstamped : Stamped request) (htidy : Tidy s.ledger)
    (hobjects : Holds .firewallObjectName [] [] s.ledger) (hclear : s.blocked = [])
    (hentries : SegmentEntries request s.ledger (segments request) compiled) :
    ReturnsIff (compileFirewall request observation ((sortedBy Prod.fst compiled).map Prod.snd)) s
      (FirewallBuilds request observation (compiled.map Prod.fst)) fun _ _ => True := by
  have hvnets := hentries.segmentVnets
  have hasks := hentries.vnetAsks_eq
  have hnames : ∀ name, name ∈ ((sortedBy Prod.fst compiled).map Prod.snd).map VNetSpec.name ↔
      name ∈ compiled.map Prod.fst := by
    intro name
    rw [List.map_map, List.mem_map, List.mem_map]
    refine exists_congr fun entry => ?_
    rw [mem_sortedBy]
    refine and_congr_right fun hentry => ?_
    obtain ⟨segment, -, hname, -⟩ := forall₂_exists_left hentries hentry
    rw [hname]
    rfl
  generalize (sortedBy Prod.fst compiled).map Prod.snd = vnets at hvnets hasks hnames ⊢
  generalize compiled.map Prod.fst = names at hasks hnames ⊢
  have hitems : teamAsks request (sortedBy (fun item => item.1.getD [])
      (Dict.groupBy (fun vnet : VNetSpec => vnet.ownership.teamRef) vnets)) =
        (sortedBy id request.teamRefs).map (teamAsk request) := by
    rw [← hvnets.teamGroups_eq, List.map_map]
    rfl
  have hgoal : objectAsks request names = (sortedBy id request.teamRefs).map (teamAsk request) ++
      vnets.map vnetAsk := by
    rw [objectAsks, hasks]
  have hkeys : (sortedBy (fun item => item.1.getD [])
      (Dict.groupBy (fun vnet : VNetSpec => vnet.ownership.teamRef) vnets)).Pairwise
        fun a b => a.1 ≠ b.1 := by
    refine List.pairwise_map.mp (?_ : (List.map Prod.fst _).Nodup)
    exact ((sortedBy_perm _ _).map Prod.fst).nodup_iff.mpr (Dict.nodup_keys_groupBy _ _)
  have hcidrs : ∀ item ∈ sortedBy (fun item => item.1.getD [])
      (Dict.groupBy (fun vnet : VNetSpec => vnet.ownership.teamRef) vnets), ∀ v ∈ item.2,
        (Ip.ipNetwork false v.subnet.cidr).isSome = true := by
    intro item hitem v hv
    obtain ⟨team, members⟩ := item
    obtain ⟨-, rfl⟩ := Dict.mem_groupBy.mp (mem_sortedBy.mp hitem)
    obtain ⟨segment, -, hvnet⟩ := hvnets.exists_segment (List.mem_filter.mp hv).1
    obtain ⟨n, hversion, hcidr, -⟩ := hvnet.subnet
    rw [hcidr, Ip.ipNetwork_text false hversion]
    rfl
  have hnodup := hvnets.objectAsks_nodup (sortedBy id request.teamRefs)
    ((sortedBy_perm id request.teamRefs).nodup_iff.mpr request.teamRefs_nodup)
  have hteamLoop := fun shared : List IpSetSpec => @returnsIff_teamIpSets _ _ observation _ _
    shared hstamped hcidrs hkeys hobjects
  rw [hitems] at hteamLoop
  constructor
  · intro hbuilds
    have hnamed := hbuilds.objects
    rw [hgoal] at hnamed
    obtain ⟨ownership, howner⟩ := (@exists_ownershipOf_iff _ request .network none).mpr hstamped
    obtain ⟨shared, hshared⟩ := (@exists_sharedIpSets_iff _ _ observation
      ownership).mpr hbuilds.controlPlane
    obtain ⟨ipSets, s2, hloop⟩ := (hteamLoop shared).returns hnamed.of_append
    obtain ⟨-, hstate⟩ := (hteamLoop shared).ensures hloop
    have hnone := (sharedIpSets_eq_ok (ownershipOf_eq_ok howner).1 hshared).2
    obtain ⟨hevolves, hsetsOf⟩ := run_teamIpSets hloop
    have hpositions : observation.firewallNamesInUse ≠ none → ∀ v ∈ vnets, (positions (segmentRules request
        (teamIpsets ipSets) (vnets.filter fun v => v.role = .scoring) v)).Nodup := by
      intro hobserved v hv
      obtain ⟨sets, rfl, hsets⟩ := hsetsOf ((hstate.blocked hobserved).trans hclear)
      have hfit := hbuilds.bands hobserved
      refine (hvnets.mono hevolves.keeps).positions_nodup ⟨hfit.paths, hfit.teams, fun spec hspec hmem => ?_⟩
        ((hvnets.mono hevolves.keeps).teamIpsets_length (hevolves.tidy htidy).sound hnone hsets) hv
      exact hfit.egress spec hspec ((hnames _).mp hmem)
    obtain ⟨state, t, hgroups⟩ := (@returnsIff_groups _ _ _ _ _ _ (teamIpsets ipSets)
      (vnets.filter fun v => v.role = .scoring) _ hnodup hnamed.of_append hstate).returns
        ⟨hnamed, hpositions⟩
    refine ⟨(ipSets, state.1, state.2), t, ?_⟩
    refine run_bind_eq_ok.mpr ⟨ownership, s, run_check_eq_ok.mpr ⟨howner, rfl⟩, ?_⟩
    refine run_bind_eq_ok.mpr ⟨shared, s, run_check_eq_ok.mpr ⟨hshared, rfl⟩, ?_⟩
    exact run_bind_eq_ok.mpr ⟨ipSets, s2, hloop, run_bind_eq_ok.mpr ⟨state, t, hgroups, rfl⟩⟩
  · intro result t hrun
    refine ⟨?_, trivial⟩
    have hwhole := hrun
    obtain ⟨ownership, s0, hcheck, hrun⟩ := run_bind_eq_ok.mp hrun
    obtain ⟨howner, rfl⟩ := run_check_eq_ok.mp hcheck
    obtain ⟨shared, s1, hcheck', hrun⟩ := run_bind_eq_ok.mp hrun
    obtain ⟨hshared, rfl⟩ := run_check_eq_ok.mp hcheck'
    obtain ⟨ipSets, s2, hloop, hrun⟩ := run_bind_eq_ok.mp hrun
    obtain ⟨⟨groups, attachment⟩, s3, hgroupLoop, hrun⟩ := run_bind_eq_ok.mp hrun
    obtain ⟨hret, rfl⟩ := run_pure_eq_ok.mp hrun
    obtain ⟨hteamsNamed, hstate⟩ := (hteamLoop shared).ensures hloop
    obtain ⟨hbuild, hstate'⟩ := (returnsIff_groups hnodup hteamsNamed hstate).ensures hgroupLoop
    refine ⟨exists_sharedIpSets_iff.mp ⟨shared, hshared⟩, hgoal ▸ hbuild.1, fun hobserved => ?_⟩
    subst hret
    have hblocked : s3.blocked = [] := (hstate'.blocked hobserved).trans hclear
    -- the zone does not matter to what the firewall looks like
    have hzone : isSdnName (str "z") = true := by with_unfolding_all decide
    have hcompiled := run_compileFirewall htidy hvnets hwhole hblocked
      ⟨str "z", [], [[]], ownership, none, hzone, List.cons_ne_nil _ _⟩
    obtain ⟨hpaths, hteams, hegress⟩ := hcompiled.fits
    refine ⟨hpaths, hteams, fun spec hspec hmem => ?_⟩
    obtain ⟨v, hv, hname⟩ := List.mem_map.mp ((hnames spec.vnetName).mpr hmem)
    exact hegress v hv spec hspec hname.symm

/-! ## The network -/

/-- Nothing keeps the compiler from going on to the firewall. -/
def Ready (observation : TargetObservation) : Prop :=
  targetMissing observation = [] ∧ observation.vlanTagsInUse ≠ none ∧ observation.subnetsInUse ≠ none

/-- The zone and the firewall can be built around VNets of these names. -/
def Finishes (request : WebBreachLabRequest) (observation : TargetObservation) (zoneName : Str)
    (names : List Str) : Prop :=
  isSdnName zoneName = true ∧ FirewallBuilds request observation names

/-- The zone and the VNets find names, and where nothing is missing the rest can be built. -/
structure Compilable (request : WebBreachLabRequest) (observation : TargetObservation) : Prop where
  stamped : Stamped request
  parsed : Parsed observation
  named : ∀ inUse ∈ observation.sdnNamesInUse, ∃ zoneName names,
    freeName .zoneName (some 8) (zoneAsk request) (inUse.map lower) = some zoneName ∧
      drawNames .vnetName (some 8) inUse [] ((segments request).map (segmentAsk request)) = some names ∧
      (Ready observation → Finishes request observation zoneName names)

omit [Unicode] in
/-- A target that lacks nothing has a bridge for the zone and a node online. -/
theorem exists_bridge_of_targetMissing (h : targetMissing observation = []) :
    (∃ bridge, (zoneBridge observation).1 = some bridge) ∧ observation.onlineNodes ≠ [] := by
  have hbridge := (List.append_eq_nil_iff.mp h).2
  unfold zoneBridge at hbridge ⊢
  dsimp only at hbridge ⊢
  split at hbridge
  · cases hbridge
  · next honline =>
      rw [if_neg honline]
      split at hbridge
      · cases hbridge
      · next hshared =>
          rw [if_neg hshared]
          split at hbridge
          · cases hbridge
          · next bridge _ =>
              exact ⟨⟨bridge, rfl⟩, fun hnil => honline (List.isEmpty_iff.mpr hnil)⟩

theorem exists_zone_iff {name bridge : Str} {nodes : List Str} {ownership : Ownership}
    (hnodes : nodes ≠ []) :
    (∃ zone, SdnZoneSpec.make name bridge nodes ownership = .ok zone) ↔ isSdnName name = true := by
  unfold SdnZoneSpec.make
  split
  · next hname => exact iff_of_true ⟨_, rfl⟩ hname
  · next hname => exact iff_of_false (fun h => (by obtain ⟨zone, h⟩ := h; cases h)) hname

/-- The end of a compilation: it refuses, or the zone and the firewall are built. -/
theorem returnsIff_concludeNetwork {ownership : Ownership} {zoneName : Option Str}
    (hstamped : Stamped request) (h : InSegments request observation (segments request) compiled s)
    (hentries : s.blocked = [] → SegmentEntries request s.ledger (segments request) compiled)
    (hzone : s.blocked = [] → zoneName ≠ none) :
    ReturnsIff (concludeNetwork request observation ownership zoneName compiled s.blocked) s
      (targetMissing observation = [] → s.blocked = [] → ∀ name ∈ zoneName,
        Finishes request observation name (compiled.map Prod.fst)) fun _ _ => True := by
  unfold concludeNetwork
  split
  · next zoneName bridge hmiss _ =>
      obtain ⟨htarget, hclear⟩ := List.append_eq_nil_iff.mp hmiss
      have hnodes : observation.onlineNodes.map NodeObservation.nodeName ≠ [] := by
        simpa using (exists_bridge_of_targetMissing htarget).2
      have hcondition : ((∃ zone, SdnZoneSpec.make zoneName bridge
          (observation.onlineNodes.map NodeObservation.nodeName) ownership = .ok zone) ∧
            FirewallBuilds request observation (compiled.map Prod.fst) ∧ True ∧ True) ↔
          (targetMissing observation = [] → s.blocked = [] → ∀ name ∈ some zoneName,
            Finishes request observation name (compiled.map Prod.fst)) := by
        rw [exists_zone_iff hnodes, and_true, and_true]
        constructor
        · intro hboth _ _ name hname
          obtain rfl := Option.some.inj hname
          exact hboth
        · intro hall
          exact hall htarget hclear zoneName rfl
      refine (ReturnsIff.bind returnsIff_check fun zone s1 _ hmade => ?_).congr hcondition
      obtain ⟨-, rfl⟩ := hmade
      refine (returnsIff_compileFirewall hstamped h.drawn.tidy h.drawn.objects hclear
        (hentries hclear)).bind fun objects t _ _ => ?_
      refine ReturnsIff.bind (P := fun _ _ => True) ⟨fun _ => ⟨t, t, run_get_eq_ok.mpr ⟨rfl, rfl⟩⟩,
        fun _ => ⟨trivial, trivial⟩⟩ fun session u _ _ => ReturnsIff.pure trivial
  · next hother =>
      refine (ReturnsIff.pure trivial).congr (iff_of_true trivial fun htarget hclear => ?_)
      obtain ⟨⟨bridge, hbridge⟩, -⟩ := exists_bridge_of_targetMissing htarget
      obtain ⟨name, hname⟩ := Option.ne_none_iff_exists'.mp (hzone hclear)
      exact absurd hbridge (hother name bridge (by rw [htarget, hclear]; rfl) hname)

/-- The name of the zone. -/
theorem returnsIff_allocateZoneName {ownership : Ownership}
    (hscope : ownership.scopeKey = scopeOf request none) :
    ReturnsIff (logRun (allocateZoneName request observation ownership)) ⟨AllocationLedger.empty, []⟩
      (∀ inUse ∈ observation.sdnNamesInUse, ∃ name,
        freeName .zoneName (some 8) (zoneAsk request) (inUse.map lower) = some name)
      fun o t => Logged observation.sdnNamesInUse ⟨AllocationLedger.empty, []⟩ (fun name _ =>
          ∀ inUse ∈ observation.sdnNamesInUse,
            freeName .zoneName (some 8) (zoneAsk request) (inUse.map lower) = some name) o t ∧
        InSegments request observation [] [] t := by
  have hdrawn : Drawn request observation 0 0 [] AllocationLedger.empty :=
    ⟨Tidy.empty, Roomy.empty _, Holds.empty _, fun inUse _ => ⟨[], rfl, Holds.empty _⟩⟩
  have hdraw := @returnsIff_logRun_name _ ⟨AllocationLedger.empty, []⟩ .zoneName (some 8)
    observation.sdnNamesInUse [] ownership (str "sdn-zone")
    ('z' :: (replaceChar '-' [] request.rangeId).take 7) (str "TargetObservation.sdn_names_in_use")
    (str "proxmox.sdn_name_inventory_missing") ⟨by simp [str], by simp [str]⟩
    (fun inUse _ => ⟨[], rfl, Holds.empty _⟩) (fun hmem => by cases hmem)
  have hkeeps : Keeps Evolves (logRun (allocateZoneName request observation ownership)) :=
    keeps_logRun (grows_allocateName (show AllocationKind.IsName .zoneName from rfl) (by decide) _ _ _ _ _)
  have hask : (⟨ownership.scopeKey, str "sdn-zone",
      'z' :: (replaceChar '-' [] request.rangeId).take 7⟩ : NameAsk) = zoneAsk request := by
    rw [hscope]
    rfl
  have hfree : ∀ inUse names, drawNames .zoneName (some 8) inUse [] ([] ++ [zoneAsk request]) = some names ↔
      ∃ name, freeName .zoneName (some 8) (zoneAsk request) (inUse.map lower) = some name ∧
        names = [name] := by
    intro inUse names
    rw [drawNames_concat]
    constructor
    · intro h
      obtain ⟨names, name, hnone, hname, rfl⟩ := h
      obtain rfl : names = [] := (Option.some.inj hnone).symm
      rw [List.append_nil] at hname
      exact ⟨name, hname, rfl⟩
    · intro h
      obtain ⟨name, hname, rfl⟩ := h
      exact ⟨[], name, rfl, by rwa [List.append_nil], rfl⟩
  rw [hask] at hdraw
  refine ((hdraw.keeps hkeeps).weaken fun o t _ hlogged => ?_).congr
    (forall_congr' fun inUse => forall_congr' fun _ => ?_)
  · obtain ⟨hlogged, hevolves⟩ := hlogged
    refine ⟨?_, ?_, ?_, fun _ inUse _ => rfl⟩
    · rcases hlogged with hmissing | hvalue
      · exact .inl hmissing
      · obtain ⟨hobserved, hblocked, name, ho, -, hnames⟩ := hvalue
        refine .inr ⟨hobserved, hblocked, name, ho, fun inUse hinUse => ?_⟩
        obtain ⟨names, hnone, hdrawn, -⟩ := hnames inUse hinUse
        obtain rfl : names = [] := (Option.some.inj hnone).symm
        obtain ⟨name', hname, heq⟩ := (hfree inUse _).mp hdrawn
        obtain rfl : name = name' := by simpa using heq
        exact hname
    · have hadds : AddsOne .zoneName AllocationLedger.empty t.ledger :=
        hlogged.ledger (P := fun ledger => AddsOne .zoneName AllocationLedger.empty ledger)
          (fun _ => .inl rfl) fun name _ hQ => hQ.1
      exact hdrawn.adds (hevolves.tidy Tidy.empty) (hdrawn.roomy.adds hadds (by decide)) hadds (by decide)
    · rw [hlogged.blocked_iff, and_iff_right rfl]
      exact (and_iff_left (fun hne => absurd rfl hne)).symm
  · constructor
    · intro h
      obtain ⟨names, hnames⟩ := h
      obtain ⟨name, hname, -⟩ := (hfree inUse names).mp hnames
      exact ⟨name, hname⟩
    · intro h
      obtain ⟨name, hname⟩ := h
      exact ⟨[name], (hfree inUse [name]).mpr ⟨name, hname, rfl⟩⟩

theorem compilable_iff : Compilable request observation ↔ Stamped request ∧
    (∀ inUse ∈ observation.sdnNamesInUse, ∃ name,
      freeName .zoneName (some 8) (zoneAsk request) (inUse.map lower) = some name) ∧
    SegmentsDrawable request observation (segments request) ∧ True ∧
    ∀ inUse ∈ observation.sdnNamesInUse, Ready observation → ∀ zoneName names,
      freeName .zoneName (some 8) (zoneAsk request) (inUse.map lower) = some zoneName →
      drawNames .vnetName (some 8) inUse [] ((segments request).map (segmentAsk request)) = some names →
        Finishes request observation zoneName names := by
  have hne : segments request ≠ [] := by
    rw [segments_eq]
    exact List.cons_ne_nil _ _
  constructor
  · intro h
    refine ⟨h.stamped, fun inUse hinUse => ?_, ⟨fun _ => h.parsed, fun inUse hinUse => ?_⟩, trivial,
      fun inUse hinUse hready zoneName names hzone hnames => ?_⟩
    · obtain ⟨zoneName, names, hzone, -⟩ := h.named inUse hinUse
      exact ⟨zoneName, hzone⟩
    · obtain ⟨zoneName, names, -, hnames, -⟩ := h.named inUse hinUse
      exact ⟨names, hnames⟩
    · obtain ⟨zoneName', names', hzone', hnames', hfinishes⟩ := h.named inUse hinUse
      obtain rfl := Option.some.inj (hzone.symm.trans hzone')
      obtain rfl := Option.some.inj (hnames.symm.trans hnames')
      exact hfinishes hready
  · intro h
    obtain ⟨hstamped, hzones, hdrawable, -, hfinishes⟩ := h
    refine ⟨hstamped, hdrawable.1 hne, fun inUse hinUse => ?_⟩
    obtain ⟨zoneName, hzone⟩ := hzones inUse hinUse
    obtain ⟨names, hnames⟩ := hdrawable.2 inUse hinUse
    exact ⟨zoneName, names, hzone, hnames, fun hready =>
      hfinishes inUse hinUse hready zoneName names hzone hnames⟩

/-- With room in the pools a network compilation returns exactly when it is compilable. -/
theorem returnsIff_compileNetwork (hsupplied : Supplied request observation) :
    ReturnsIff (compileNetwork request observation) ⟨AllocationLedger.empty, []⟩
      (Compilable request observation) fun _ _ => True := by
  refine ((ReturnsIff.bind returnsIff_check fun ownership s1 hstamped hcheck => ?_).congr
    (and_congr exists_ownershipOf_iff Iff.rfl)).congr compilable_iff.symm
  have hstamped := exists_ownershipOf_iff.mp hstamped
  obtain ⟨howner, rfl⟩ := hcheck
  refine (returnsIff_allocateZoneName (ownershipOf_eq_ok howner).2).bind fun zoneName s2 _ hzone => ?_
  obtain ⟨hlogged, hstart⟩ := hzone
  have hloop := @returnsIff_segments _ _ _ _ zoneName hstamped hsupplied hstart
  refine ReturnsIff.bind (P := fun compiled t => InSegments request observation (segments request) compiled t ∧
    (t.blocked = [] → SegmentEntries request t.ledger (segments request) compiled))
    ⟨hloop.returns, fun {compiled t} hrun => ?_⟩ fun compiled s3 _ hstate => ?_
  · obtain ⟨hdrawable, hstate⟩ := hloop.ensures hrun
    exact ⟨hdrawable, hstate, (run_segments hstart.drawn.tidy hrun).2⟩
  obtain ⟨hstate, hentries⟩ := hstate
  have hclear : s3.blocked = [] ↔ observation.sdnNamesInUse ≠ none ∧
      observation.vlanTagsInUse ≠ none ∧ observation.subnetsInUse ≠ none := by
    rw [hstate.blocked, forall_prop_of_true]
    rw [segments_eq]
    exact List.cons_ne_nil _ _
  have hzone : ∀ inUse ∈ observation.sdnNamesInUse, ∃ name, zoneName = some name ∧
      freeName .zoneName (some 8) (zoneAsk request) (inUse.map lower) = some name := by
    intro inUse hinUse
    rcases hlogged with hmissing | hvalue
    · rw [hmissing.1] at hinUse
      cases hinUse
    · obtain ⟨-, -, name, ho, hname⟩ := hvalue
      exact ⟨name, ho, hname inUse hinUse⟩
  refine ReturnsIff.bind (P := fun session t => session = s3 ∧ t = s3)
    ⟨fun _ => ⟨s3, s3, run_get_eq_ok.mpr ⟨rfl, rfl⟩⟩, fun {session t} hrun => ?_⟩
    fun session t _ hsame => ?_
  · obtain ⟨hsession, ht⟩ := run_get_eq_ok.mp hrun
    exact ⟨trivial, hsession.symm, ht.symm⟩
  obtain ⟨rfl, rfl⟩ := hsame
  refine (returnsIff_concludeNetwork hstamped hstate hentries fun hblocked => ?_).congr ?_
  · obtain ⟨inUse, hinUse⟩ := Option.ne_none_iff_exists'.mp (hclear.mp hblocked).1
    obtain ⟨name, ho, -⟩ := hzone inUse hinUse
    rw [ho]
    exact Option.some_ne_none name
  · constructor
    · intro h inUse hinUse hready name names hname hnames
      obtain ⟨htarget, hvlan, hsubnets⟩ := hready
      have hblocked := hclear.mpr ⟨Option.ne_none_iff_exists'.mpr ⟨inUse, hinUse⟩, hvlan, hsubnets⟩
      obtain ⟨name', ho, hname'⟩ := hzone inUse hinUse
      obtain rfl := Option.some.inj (hname.symm.trans hname')
      obtain rfl := Option.some.inj (hnames.symm.trans (hstate.compiled hblocked inUse hinUse))
      exact h htarget hblocked name ho
    · intro h htarget hblocked name hname
      obtain ⟨hsdn, hvlan, hsubnets⟩ := hclear.mp hblocked
      obtain ⟨inUse, hinUse⟩ := Option.ne_none_iff_exists'.mp hsdn
      obtain ⟨name', ho, hname'⟩ := hzone inUse hinUse
      obtain rfl : name' = name := Option.some.inj (ho.symm.trans hname)
      exact h inUse hinUse ⟨htarget, hvlan, hsubnets⟩ name' _ hname' (hstate.compiled hblocked inUse hinUse)

/-- With a free VLAN tag and a free subnet for every segment, a request is answered with a plan or with what
is missing exactly when it is compilable. -/
theorem compileWebBreachLab_answers_iff (hsupplied : Supplied request observation) :
    (∃ outcome ledger, compileWebBreachLab request observation AllocationLedger.empty =
      .ok (outcome, ledger)) ↔ Compilable request observation := by
  have hiff := returnsIff_compileNetwork hsupplied
  unfold compileWebBreachLab
  constructor
  · intro h
    obtain ⟨outcome, ledger, h⟩ := h
    split at h
    · next hrun => exact (hiff.ensures hrun).1
    · cases h
  · intro h
    obtain ⟨outcome, session, hrun⟩ := hiff.returns h
    rw [show compileNetwork request observation ⟨AllocationLedger.empty, []⟩ = .ok (outcome, session)
      from hrun]
    exact ⟨outcome, session.ledger, rfl⟩

end

end

/-! ## A lab that cannot be compiled -/

/-- An approval for two destinations and eleven ports. -/
def wideEgress : EgressGatewaySpec where
  vnetName := str "t1atk"
  allowedDestinations := [str "203.0.113.0/24", str "198.51.100.0/24"]
  allowedPorts := (List.range 11).map natStr
  ownership := sampleOwnership
  approvalReference := str "b"
  approvalReference_ne := by with_unfolding_all decide
  allowedDestinations_ne := by decide
  allowedDestinations_valid := by with_unfolding_all decide

theorem sample_supplied (egress : Option EgressGatewaySpec) :
    @Supplied Unicode.ascii (sampleRequest egress) sampleObservation := by
  let _ := Unicode.ascii
  have hsegments : (segments (sampleRequest egress)).length = 5 := rfl
  refine ⟨fun inUse hinUse => ?_, fun inUse hinUse => ?_⟩
  · obtain rfl : [] = inUse := Option.some.inj hinUse
    rw [hsegments]
    show 5 ≤ (samplePools.vlanTags.filter fun tag => tag ∉ []).length
    decide
  · obtain rfl : [] = inUse := Option.some.inj hinUse
    rw [hsegments]
    show 5 ≤ (samplePools.candidateSubnets.filter fun n =>
      !(sampleObservation.networksInUse []).any n.overlaps).length
    with_unfolding_all decide

theorem sample_answers : (∃ outcome ledger, @compileWebBreachLab Unicode.ascii (sampleRequest none)
      sampleObservation AllocationLedger.empty = .ok (outcome, ledger)) ∧
    @Compilable Unicode.ascii (sampleRequest none) sampleObservation := by
  obtain ⟨plan, ledger, hcompile, -⟩ := exists_of_compiledWith sample_compiles
  have hanswered : ∃ outcome ledger, @compileWebBreachLab Unicode.ascii (sampleRequest none)
      sampleObservation AllocationLedger.empty = .ok (outcome, ledger) := ⟨.plan plan, ledger, hcompile⟩
  exact ⟨hanswered, (@compileWebBreachLab_answers_iff Unicode.ascii _ _ (sample_supplied none)).mp hanswered⟩

/-- The eleventh port of the first destination and the first port of the second ask for one position. -/
theorem wideEgress_not_answered :
    @Supplied Unicode.ascii (sampleRequest (some wideEgress)) sampleObservation ∧
      ¬∃ outcome ledger, @compileWebBreachLab Unicode.ascii (sampleRequest (some wideEgress))
        sampleObservation AllocationLedger.empty = .ok (outcome, ledger) := by
  refine ⟨sample_supplied _, fun h => ?_⟩
  obtain ⟨outcome, ledger, h⟩ := h
  have hfails : (@compileWebBreachLab Unicode.ascii (sampleRequest (some wideEgress)) sampleObservation
      AllocationLedger.empty).isOk = false := by decide +kernel
  rw [h] at hfails
  cases hfails

end Secp.Proxmox
