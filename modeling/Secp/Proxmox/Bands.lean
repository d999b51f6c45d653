import Secp.Proxmox.Isolation

/-!
# The position bands

A security group is built only when no two of its rules stand at one position. The compiler adds a counter
to a fixed band for every reviewed path, team and egress rule, and nothing keeps a counter inside its
band. The groups of a network can be built exactly when the counters happen to stay inside.
-/

namespace Secp.Proxmox

open Secp.Python Secp.Logic

/-- A list with places has every place once. -/
theorem pairwise_zipIdx {α : Type} (xs : List α) (k : Nat) :
    (xs.zipIdx k).Pairwise fun a b => a.2 ≠ b.2 := by
  have hnodup : ((xs.zipIdx k).map Prod.snd).Nodup := by
    rw [List.zipIdx_map_snd]
    exact List.nodup_range' 
  exact List.pairwise_map.mp hnodup

/-! ## Positions -/

/-- The positions that rules get in a group. -/
def positions (rules : List FirewallRuleSpec) : List Int :=
  (bandPositions rules).map FirewallRuleSpec.position

theorem positions_eq (rules : List FirewallRuleSpec) :
    positions rules = rules.map fun r => r.position + bandOffset r.direction := by
  rw [positions, bandPositions, List.map_map]
  rfl

theorem positions_append (rules rules' : List FirewallRuleSpec) :
    positions (rules ++ rules') = positions rules ++ positions rules' := by
  rw [positions_eq, positions_eq, positions_eq, List.map_append]

/-- Positions that are taken once, below the given bounds of the two bands. -/
structure Stacked (out inb : Int) (rules : List FirewallRuleSpec) : Prop where
  bound : out ≤ 100000
  nodup : (positions rules).Nodup
  below : ∀ x ∈ positions rules, x < out ∨ 100000 ≤ x ∧ x < inb

/-- What stands on top of a stack keeps it one. -/
theorem Stacked.append {out inb out' inb' : Int} {rules rules' : List FirewallRuleSpec}
    (h : Stacked out inb rules) (hout : out ≤ out') (hbound : out' ≤ 100000) (hinb : inb ≤ inb')
    (hnodup : (positions rules').Nodup)
    (hbetween : ∀ x ∈ positions rules', out ≤ x ∧ x < out' ∨ inb ≤ x ∧ x < inb' ∧ 100000 ≤ x) :
    Stacked out' inb' (rules ++ rules') := by
  have hbound' := h.bound
  refine ⟨hbound, ?_, fun x hx => ?_⟩
  · rw [positions_append]
    refine List.nodup_append'.mpr ⟨h.nodup, hnodup, fun x hx hx' => ?_⟩
    have hbelow := h.below x hx
    have habove := hbetween x hx'
    omega
  · rw [positions_append] at hx
    rcases List.mem_append.mp hx with hx | hx
    · have hbelow := h.below x hx
      omega
    · have habove := hbetween x hx
      omega

/-! ## The bands of a segment -/

/-- The counters of the egress rules stay apart and below the catch-all. -/
def EgressFits (destinations ports : Nat) : Prop :=
  ports ≤ 10 ∧ destinations ≤ 750 ∨ destinations = 1 ∧ ports ≤ 7500

section
variable [Unicode] {request : WebBreachLabRequest} {teamIpset : Dict Str Str} {scoring : List VNetSpec}
  {v : VNetSpec}

theorem controlPlane_positions (h : request.reviewedControlPlanePaths.length ≤ 50) :
    (positions (controlPlaneRules request)).Nodup ∧
      ∀ x ∈ positions (controlPlaneRules request), 100 ≤ x ∧ x ≤ 150 := by
  unfold controlPlaneRules
  split
  · exact ⟨List.nodup_nil, fun x hx => by cases hx⟩
  · rw [positions_append, positions_eq, positions_eq, List.map_map]
    have hpath : ∀ x ∈ request.reviewedControlPlanePaths.zipIdx.map
        ((fun r : FirewallRuleSpec => r.position + bandOffset r.direction) ∘
          fun entry => reviewedPathRule entry.2 entry.1), 100 ≤ x ∧ x < 150 := by
      intro x hx
      obtain ⟨⟨path, i⟩, hmem, rfl⟩ := List.mem_map.mp hx
      obtain ⟨hi, -⟩ := List.getElem?_eq_some_iff.mp (List.mem_zipIdx_iff_getElem?.mp hmem)
      show 100 ≤ ((100 + i : Nat) : Int) + 0 ∧ ((100 + i : Nat) : Int) + 0 < 150
      omega
    refine ⟨List.nodup_append'.mpr ⟨?_, List.nodup_singleton _, fun x hx hx' => ?_⟩, fun x hx => ?_⟩
    · refine List.pairwise_map.mpr ((pairwise_zipIdx _ 0).imp fun {a b} hne => ?_)
      show ((100 + a.2 : Nat) : Int) + 0 ≠ ((100 + b.2 : Nat) : Int) + 0
      omega
    · have hx' : x = 150 := List.mem_singleton.mp hx'
      have hpath := hpath x hx
      omega
    · rcases List.mem_append.mp hx with hx | hx
      · have hpath := hpath x hx
        omega
      · have hx : x = 150 := List.mem_singleton.mp hx
        omega

omit [Unicode] in
theorem crossTeam_positions (h : teamIpset.length ≤ 51) (team : Option Str) :
    (positions (crossTeamRules teamIpset team)).Nodup ∧ ∀ x ∈ positions (crossTeamRules teamIpset team),
      200 ≤ x ∧ x ≤ 250 ∨ 100250 ≤ x ∧ x ≤ 100300 := by
  have hlen : (sortedBy id teamIpset).length ≤ 51 := (sortedBy_perm id teamIpset).length_eq ▸ h
  have hentry : ∀ entry ∈ (sortedBy id teamIpset).zipIdx, entry.2 < 51 := by
    intro entry hmem
    obtain ⟨hi, -⟩ := List.getElem?_eq_some_iff.mp (List.mem_zipIdx_iff_getElem?.mp hmem)
    omega
  have hturn : ∀ (entry : (Str × Str) × Nat) (x : Int), x ∈ (if some entry.1.1 = team then [] else
      [peerOutbound entry.2 entry.1.1 entry.1.2, peerInbound entry.2 entry.1.1 entry.1.2]).map
        (fun r : FirewallRuleSpec => r.position + bandOffset r.direction) →
      x = 200 + entry.2 ∨ x = 100250 + entry.2 := by
    intro entry x hx
    split at hx
    · cases hx
    · rcases List.mem_pair.mp hx with rfl | rfl
      · left
        show ((200 + entry.2 : Nat) : Int) + 0 = _
        omega
      · right
        show ((200 + 50 + entry.2 : Nat) : Int) + 100000 = _
        omega
  have hrules : positions (crossTeamRules teamIpset team) =
      (sortedBy id teamIpset).zipIdx.flatMap fun entry => (if some entry.1.1 = team then [] else
        [peerOutbound entry.2 entry.1.1 entry.1.2, peerInbound entry.2 entry.1.1 entry.1.2]).map
          fun r : FirewallRuleSpec => r.position + bandOffset r.direction := by
    rw [positions_eq, crossTeamRules, List.map_flatMap]
  rw [hrules]
  constructor
  · refine List.nodup_flatMap.mpr ⟨fun entry _ => ?_, ?_⟩
    · split
      · exact List.nodup_nil
      · refine List.nodup_cons.mpr ⟨?_, List.nodup_singleton _⟩
        rw [List.map_singleton, List.mem_singleton]
        show ((200 + entry.2 : Nat) : Int) + 0 ≠ ((200 + 50 + entry.2 : Nat) : Int) + 100000
        omega
    · refine List.Pairwise.imp_of_mem (fun {a b} ha hb hne => ?_) (pairwise_zipIdx _ 0)
      intro x hx hx'
      have hxa := hturn a x hx
      have hxb := hturn b x hx'
      have hia := hentry a ha
      have hib := hentry b hb
      omega
  · intro x hx
    obtain ⟨entry, hmem, hx⟩ := List.mem_flatMap.mp hx
    have hplace := hturn entry x hx
    have hi := hentry entry hmem
    omega

omit [Unicode] in
theorem intraTeam_positions (team : Option Str) : (positions (intraTeamRules teamIpset team)).Nodup ∧
    ∀ x ∈ positions (intraTeamRules teamIpset team), x = 300 ∨ x = 100301 := by
  have hpair : ∀ team name, positions [intraTeamOutbound team name, intraTeamInbound team name] =
      [300, 100301] := fun _ _ => rfl
  unfold intraTeamRules
  split
  · exact ⟨List.nodup_nil, fun x hx => by cases hx⟩
  · split
    · exact ⟨List.nodup_nil, fun x hx => by cases hx⟩
    · rw [hpair]
      exact ⟨by decide, fun x hx => List.mem_pair.mp hx⟩

theorem scoring_positions (h : scoring.length ≤ 1) : (positions (scoringRules request scoring v)).Nodup ∧
    ∀ x ∈ positions (scoringRules request scoring v), x = 400 ∨ x = 100400 := by
  unfold scoringRules
  cases scoring with
  | nil =>
      split
      · exact ⟨List.nodup_nil, fun x hx => by cases hx⟩
      · exact ⟨List.nodup_nil, fun x hx => by cases hx⟩
  | cons w rest =>
      obtain rfl : rest = [] := List.length_eq_zero_iff.mp (by simpa using h)
      split
      · exact ⟨List.nodup_singleton _, fun x hx => .inr (List.mem_singleton.mp hx)⟩
      · exact ⟨List.nodup_singleton _, fun x hx => .inl (List.mem_singleton.mp hx)⟩

theorem egress_positions_eq (hhere : ∀ spec ∈ request.egress, spec.vnetName = v.name) :
    positions (egressRules request v) = request.egress.toList.flatMap fun spec =>
      spec.allowedDestinations.zipIdx.flatMap fun dest => (egressPorts spec).zipIdx.map fun port =>
        (500 + 10 * dest.2 + port.2 : Int) := by
  rw [positions_eq, egressRules]
  cases hegress : request.egress with
  | none => rfl
  | some spec =>
      dsimp only
      rw [if_pos (hhere spec hegress), List.map_flatMap, Option.toList_some, List.flatMap_singleton]
      refine List.flatMap_congr fun dest _ => ?_
      rw [List.map_map]
      refine List.map_congr_left fun port _ => ?_
      show ((500 + dest.2 * 10 + port.2 : Nat) : Int) + 0 = _
      omega

/-- The egress rules of the segment the gateway is for. -/
theorem egress_positions (h : ∀ spec ∈ request.egress, spec.vnetName = v.name →
    EgressFits spec.allowedDestinations.length (egressPorts spec).length) :
    (positions (egressRules request v)).Nodup ∧
      ∀ x ∈ positions (egressRules request v), 500 ≤ x ∧ x < 8000 := by
  cases hegress : request.egress with
  | none =>
      rw [egressRules, hegress]
      exact ⟨List.nodup_nil, fun x hx => by cases hx⟩
  | some spec =>
      by_cases hhere : spec.vnetName = v.name
      · have hfits := h spec hegress hhere
        rw [egress_positions_eq (by simpa [hegress] using hhere), hegress, Option.toList_some,
          List.flatMap_singleton]
        have hplace : ∀ {α : Type} {xs : List α}, ∀ entry ∈ xs.zipIdx, entry.2 < xs.length := by
          intro α xs entry hmem
          exact (List.getElem?_eq_some_iff.mp (List.mem_zipIdx_iff_getElem?.mp hmem)).1
        unfold EgressFits at hfits
        constructor
        · refine List.nodup_flatMap.mpr ⟨fun dest hdest => ?_, ?_⟩
          · refine List.pairwise_map.mpr ((pairwise_zipIdx _ 0).imp fun {a b} hne => ?_)
            omega
          · refine List.Pairwise.imp_of_mem (fun {a b} ha hb hne => ?_) (pairwise_zipIdx _ 0)
            intro x hx hx'
            obtain ⟨port, hport, rfl⟩ := List.mem_map.mp hx
            obtain ⟨port', hport', heq⟩ := List.mem_map.mp hx'
            have hpa := hplace a ha
            have hpb := hplace b hb
            have hpp := hplace port hport
            have hpp' := hplace port' hport'
            omega
        · intro x hx
          obtain ⟨dest, hdest, hx⟩ := List.mem_flatMap.mp hx
          obtain ⟨port, hport, rfl⟩ := List.mem_map.mp hx
          have hpd := hplace dest hdest
          have hpp := hplace port hport
          omega
      · rw [egressRules, hegress]
        dsimp only
        rw [if_neg hhere]
        exact ⟨List.nodup_nil, fun x hx => by cases hx⟩

/-- With ten ports or more than one destination, the first rule of the second destination would stand
where the eleventh of the first does. -/
theorem ports_of_egress_positions {spec : EgressGatewaySpec} (hspec : request.egress = some spec)
    (hhere : spec.vnetName = v.name) (hnodup : (positions (egressRules request v)).Nodup) :
    (egressPorts spec).length ≤ 10 ∨ spec.allowedDestinations.length ≤ 1 := by
  by_contra hmany
  obtain ⟨hports, hdests⟩ := not_or.mp hmany
  rw [egress_positions_eq (by simpa [hspec] using hhere), hspec, Option.toList_some,
    List.flatMap_singleton] at hnodup
  obtain ⟨-, hapart⟩ := List.nodup_flatMap.mp hnodup
  have hport : ∀ j (hj : j < (egressPorts spec).length), ((egressPorts spec)[j], j) ∈ (egressPorts spec).zipIdx :=
    fun j hj => List.mem_zipIdx_iff_getElem?.mpr (List.getElem?_eq_getElem hj)
  have hdisjoint := List.pairwise_iff_getElem.mp hapart 0 1
    (by rw [List.length_zipIdx]; omega) (by rw [List.length_zipIdx]; omega) (by omega)
  refine hdisjoint (List.mem_map.mpr ⟨_, hport 10 (by omega), ?_⟩)
    (List.mem_map.mpr ⟨_, hport 0 (by omega), ?_⟩) (a := 510)
  · simp
  · simp

/-- A segment whose counters stay inside their bands has every position once. -/
theorem segment_positions (hpaths : request.controlPlaneCidrs ≠ [] →
      request.reviewedControlPlanePaths.length ≤ 50)
    (hteams : teamIpset.length ≤ 51) (hscoring : scoring.length ≤ 1)
    (hegress : ∀ spec ∈ request.egress, spec.vnetName = v.name →
      EgressFits spec.allowedDestinations.length (egressPorts spec).length) :
    (positions (segmentRules request teamIpset scoring v)).Nodup := by
  have hmanagement : Stacked 1 100001 [managementOutbound, managementInbound] := by
    have hpair : positions [managementOutbound, managementInbound] = [0, 100000] := rfl
    refine ⟨by decide, by rw [hpair]; decide, fun x hx => ?_⟩
    rw [hpair] at hx
    rcases List.mem_pair.mp hx with rfl | rfl <;> decide
  have hcontrol : (positions (controlPlaneRules request)).Nodup ∧
      ∀ x ∈ positions (controlPlaneRules request), 100 ≤ x ∧ x ≤ 150 := by
    by_cases hdeclared : request.controlPlaneCidrs = []
    · rw [controlPlaneRules, hdeclared]
      exact ⟨List.nodup_nil, fun x hx => by cases hx⟩
    · exact controlPlane_positions (hpaths hdeclared)
  have hcross := crossTeam_positions hteams v.ownership.teamRef
  have hintra := @intraTeam_positions teamIpset v.ownership.teamRef
  have hscore := @scoring_positions _ request scoring v hscoring
  have hout := egress_positions hegress
  have hcatch : positions [catchAllOutbound, catchAllInbound] = [8000, 108000] := rfl
  have hbelow : Stacked 151 100001 ([managementOutbound, managementInbound] ++ controlPlaneRules request) :=
    hmanagement.append (by decide) (by decide) (by decide) hcontrol.1 fun x hx => by
      have := hcontrol.2 x hx
      omega
  have hbelow : Stacked 251 100301 (_ ++ crossTeamRules teamIpset v.ownership.teamRef) :=
    hbelow.append (by decide) (by decide) (by decide) hcross.1 fun x hx => by
      have := hcross.2 x hx
      omega
  have hbelow : Stacked 301 100302 (_ ++ intraTeamRules teamIpset v.ownership.teamRef) :=
    hbelow.append (by decide) (by decide) (by decide) hintra.1 fun x hx => by
      have := hintra.2 x hx
      omega
  have hbelow : Stacked 401 100401 (_ ++ scoringRules request scoring v) :=
    hbelow.append (by decide) (by decide) (by decide) hscore.1 fun x hx => by
      have := hscore.2 x hx
      omega
  have hbelow : Stacked 8000 100401 (_ ++ egressRules request v) :=
    hbelow.append (by decide) (by decide) (by decide) hout.1 fun x hx => by
      have := hout.2 x hx
      omega
  have hall : Stacked 8001 108001 (_ ++ [catchAllOutbound, catchAllInbound]) :=
    hbelow.append (by decide) (by decide) (by decide) (by rw [hcatch]; decide) fun x hx => by
      rw [hcatch] at hx
      have := List.mem_pair.mp hx
      omega
  exact hall.nodup

/-- A compiled network kept its counters inside their bands. -/
theorem Compiled.fits {observation : TargetObservation} {plan : SegregatedNetworkPlan}
    (hc : Compiled request observation plan) :
    (request.controlPlaneCidrs ≠ [] → request.reviewedControlPlanePaths.length ≤ 50) ∧
      request.teams.length ≤ 51 ∧ ∀ v ∈ plan.vnets, ∀ spec ∈ request.egress, spec.vnetName = v.name →
        EgressFits spec.allowedDestinations.length (egressPorts spec).length := by
  obtain ⟨d, hd, -⟩ := hc.exists_scoring
  refine ⟨fun hdeclared => ?_, ?_, fun v hv spec hspec hhere => ?_⟩
  · by_contra hmany
    have hlast := hc.path_lt hd hdeclared (List.getElem?_eq_getElem (i := 50) (by omega))
    omega
  · by_contra hmany
    have hteams : (request.teams.map TeamRequest.teamRef).length ≤
        ((sortedBy id (teamIpsets plan.ipSets)).map Prod.fst).length := by
      refine (List.subperm_of_subset request.teamRefs_nodup fun team hteam => ?_).length_le
      obtain ⟨entry, hentry, rfl⟩ := List.mem_map.mp hteam
      obtain ⟨i, hi⟩ := List.mem_iff_getElem?.mp hentry
      have hsegment : (⟨some entry.teamRef, .attacker, vnetName (some (i + 1)) .attacker⟩ : Segment) ∈
          segments request := by
        rw [segments_eq]
        refine List.mem_cons_of_mem _ (List.mem_flatMap.mpr ⟨(entry, i + 1), ?_, ?_⟩)
        · exact List.mem_zipIdx_iff_le_and_getElem?_sub.mpr ⟨by omega, by simpa using hi⟩
        · exact List.mem_append_left _ List.mem_cons_self
      obtain ⟨v, hv, hteam, -⟩ := hc.exists_segment _ hsegment
      rw [((sortedBy_perm id (teamIpsets plan.ipSets)).map Prod.fst).mem_iff]
      exact (hc.teams entry.teamRef).mpr ⟨v, hv, hteam⟩
    rw [List.length_map, List.length_map] at hteams
    have hlast := hc.team_lt (List.getElem?_eq_getElem (l := sortedBy id (teamIpsets plan.ipSets))
      (i := 51) (by omega))
    omega
  · obtain ⟨g, -, -, hrules⟩ := hc.group v hv
    have hnodup : (positions (egressRules request v)).Nodup := by
      have hall := g.positions_nodup
      rw [hrules] at hall
      change (positions (segmentRules _ _ _ _)).Nodup at hall
      rw [segmentRules, positions_append, positions_append] at hall
      exact (List.nodup_append'.mp (List.nodup_append'.mp hall).1).2.1
    have hdests := List.length_pos_iff.mpr spec.allowedDestinations_ne
    have hports : 0 < (egressPorts spec).length := by
      unfold egressPorts
      split
      · decide
      · next hne => exact List.length_pos_iff.mpr (by simpa using hne)
    have hlast := hc.egress_lt hv hspec hhere
      (List.getElem?_eq_getElem (i := spec.allowedDestinations.length - 1) (by omega))
      (List.getElem?_eq_getElem (i := (egressPorts spec).length - 1) (by omega))
    simp only [posEgressAllow, posCatchAll] at hlast
    have hfew := ports_of_egress_positions hspec hhere hnodup
    unfold EgressFits
    omega

end

end Secp.Proxmox
