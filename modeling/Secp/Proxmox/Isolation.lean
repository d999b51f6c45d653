import Secp.Proxmox.Evaluation

/-!
# What the compiled firewall enforces

A group whose rules collide in position cannot be built, so a compiled plan bounds the number of
reviewed paths, of teams and of egress rules: the position bands never run into each other. From
the order of the bands follow the isolation of teams from each other and what the scoring segment
does with inbound traffic.
-/

namespace Secp.Proxmox

open Secp.Python Secp.Logic

/-! ## A small lab -/

/-- Eleven guest numbers, eight segments of two hosts and eight VLAN tags. -/
def samplePools : IpamPools where
  vmidMin := 100
  vmidMax := 110
  supernet := str "10.0.0.0/27"
  segmentPrefix := 30
  vlanMin := 2
  vlanMax := 9
  network := ⟨.v4, 167772160, 27, by decide, by decide, by decide⟩
  vmid_bounds := by decide
  vlan_bounds := by decide
  supernet_valid := by with_unfolding_all decide
  supernet_v4 := rfl
  segment_longer := by decide
  segment_usable := by decide

/-- One online node with a bridge, and nothing in use. -/
def sampleObservation : TargetObservation where
  identity := ⟨str "t", str "c", str "f", [str "192.0.2.0/24"], [], by decide, by with_unfolding_all decide⟩
  nodes := [⟨str "n", true, none, none, [], [str "b"]⟩]
  templates := []
  sdnSupported := some true
  firewallSupported := some true
  vlanTagsInUse := some []
  vmidsInUse := some []
  macsInUse := some []
  subnetsInUse := some []
  sdnNamesInUse := some []
  firewallNamesInUse := some []

/-- Two teams, without a control plane to protect. -/
def sampleRequest (egress : Option EgressGatewaySpec) : @WebBreachLabRequest Unicode.ascii :=
  let _ := Unicode.ascii
  { organizationId := str "o"
    targetId := str "t"
    rangeId := str "r"
    generation := 1
    operationGeneration := 0
    teams := [⟨str "x", str "x", false, by with_unfolding_all decide⟩, ⟨str "y", str "y", false, by with_unfolding_all decide⟩]
    controlPlaneCidrs := []
    reviewedControlPlanePaths := []
    scoringPort := 443
    egress := egress
    pools := samplePools
    two_teams := by decide
    teamRefs_nodup := by with_unfolding_all decide }

/-- Whether a compilation ended in a plan that passes a check. -/
def compiledWith (result : Except Raised (CompileOutcome SegregatedNetworkPlan × AllocationLedger))
    (passes : SegregatedNetworkPlan → Bool) : Bool :=
  match result with
  | .ok (.plan plan, _) => passes plan
  | _ => false

theorem exists_of_compiledWith
    {result : Except Raised (CompileOutcome SegregatedNetworkPlan × AllocationLedger)}
    {passes : SegregatedNetworkPlan → Bool} (h : compiledWith result passes = true) :
    ∃ plan ledger, result = .ok (.plan plan, ledger) ∧ passes plan = true := by
  unfold compiledWith at h
  split at h
  · rename_i plan ledger
    exact ⟨plan, ledger, rfl, h⟩
  · cases h

/-- The plan compiled for the sample lab, without egress. -/
theorem sample_compiles : compiledWith (@compileWebBreachLab Unicode.ascii (sampleRequest none)
    sampleObservation AllocationLedger.empty) (fun _ => true) = true := by decide +kernel

section
variable [Unicode] {request : WebBreachLabRequest} {observation : TargetObservation}
  {plan : SegregatedNetworkPlan} {v w : VNetSpec} {r s : FirewallRuleSpec}

/-! ## The bands do not collide -/

/-- Rules of one segment at one position and direction have one verdict. -/
theorem Compiled.verdict_unique (hc : Compiled request observation plan) (hv : v ∈ plan.vnets)
    (hr : PlanRule request plan v r) (hs : PlanRule request plan v s)
    (hposition : r.position = s.position) (hdirection : r.direction = s.direction) :
    r.verdict = s.verdict := by
  obtain ⟨g, _, _, hrules⟩ := hc.group v hv
  have hmem : ∀ r, PlanRule request plan v r → bandRule r ∈ g.rules := by
    intro r hr
    rw [hrules]
    exact List.mem_map.mpr ⟨r, mem_segmentRules.mpr hr, rfl⟩
  have hband : (bandRule r).position = (bandRule s).position := by
    change r.position + bandOffset r.direction = s.position + bandOffset s.direction
    rw [hposition, hdirection]
  have hsame := List.inj_on_of_nodup_map g.positions_nodup (hmem r hr) (hmem s hs) hband
  have hverdict : (bandRule r).verdict = (bandRule s).verdict := by rw [hsame]
  exact hverdict

theorem Compiled.path_lt (hc : Compiled request observation plan) (hv : v ∈ plan.vnets)
    (declared : request.controlPlaneCidrs ≠ []) {i : Nat} {path : ControlPlaneReviewedPath}
    (h : request.reviewedControlPlanePaths[i]? = some path) : i < 50 := by
  by_contra hge
  obtain ⟨hlt, _⟩ := List.getElem?_eq_some_iff.mp h
  have h50 : request.reviewedControlPlanePaths[50]? =
      some (request.reviewedControlPlanePaths[50]) := List.getElem?_eq_getElem (by omega)
  have hsame := hc.verdict_unique hv (.reviewedPath 50 _ declared h50) (.controlPlaneDeny declared)
    rfl rfl
  cases hsame

/-- Two entries of the sorted team dictionary at different places are different teams. -/
theorem Compiled.team_index (hc : Compiled request observation plan) {i j : Nat}
    {team name name' : Str} (hi : (sortedBy id (teamIpsets plan.ipSets))[i]? = some (team, name))
    (hj : (sortedBy id (teamIpsets plan.ipSets))[j]? = some (team, name')) : i = j := by
  have hnodup : ((sortedBy id (teamIpsets plan.ipSets)).map Prod.fst).Nodup :=
    ((sortedBy_perm _ _).map Prod.fst).nodup_iff.mpr hc.teams_nodup
  obtain ⟨hlt, _⟩ := List.getElem?_eq_some_iff.mp hi
  exact (List.getElem?_inj (by simpa using hlt) hnodup).mp (by simp [hi, hj])

theorem Compiled.exists_vnet (hc : Compiled request observation plan) {team name : Str} {i : Nat}
    (h : (sortedBy id (teamIpsets plan.ipSets))[i]? = some (team, name)) :
    ∃ v ∈ plan.vnets, v.ownership.teamRef = some team :=
  (hc.teams team).mp (List.mem_map.mpr ⟨(team, name), mem_sortedBy.mp (List.mem_of_getElem? h), rfl⟩)

/-- With a fifty-second team, the first team's deny of it would stand where the first team's own
segments are let in. -/
theorem Compiled.team_lt (hc : Compiled request observation plan) {i : Nat} {team name : Str}
    (h : (sortedBy id (teamIpsets plan.ipSets))[i]? = some (team, name)) : i < 51 := by
  by_contra hge
  obtain ⟨hlt, _⟩ := List.getElem?_eq_some_iff.mp h
  obtain ⟨⟨first, firstName⟩, hfirst⟩ : ∃ entry,
      (sortedBy id (teamIpsets plan.ipSets))[0]? = some entry :=
    ⟨_, List.getElem?_eq_getElem (by omega)⟩
  obtain ⟨⟨peer, peerName⟩, hpeer⟩ : ∃ entry,
      (sortedBy id (teamIpsets plan.ipSets))[51]? = some entry :=
    ⟨_, List.getElem?_eq_getElem (by omega)⟩
  obtain ⟨v, hv, hteam⟩ := hc.exists_vnet hfirst
  have hne : some peer ≠ v.ownership.teamRef := by
    rw [hteam]
    intro heq
    cases heq
    cases hc.team_index hfirst hpeer
  have hown : (teamIpsets plan.ipSets).get? first = some firstName :=
    Dict.get?_of_mem hc.teams_nodup (mem_sortedBy.mp (List.mem_of_getElem? hfirst))
  have hsame := hc.verdict_unique hv (.peerInbound 51 peer peerName hpeer hne)
    (.intraTeamInbound first firstName hteam hown) rfl rfl
  cases hsame

theorem Compiled.egress_lt (hc : Compiled request observation plan) (hv : v ∈ plan.vnets)
    {spec : EgressGatewaySpec} {i j : Nat} {dest port : Str} (approved : request.egress = some spec)
    (here : spec.vnetName = v.name) (hdest : spec.allowedDestinations[i]? = some dest)
    (hport : (egressPorts spec)[j]? = some port) : posEgressAllow + i * 10 + j < posCatchAll := by
  by_contra hge
  obtain ⟨hi, _⟩ := List.getElem?_eq_some_iff.mp hdest
  obtain ⟨hj, _⟩ := List.getElem?_eq_some_iff.mp hport
  -- the rule that stands exactly at the catch-all
  obtain ⟨i', j', hi', hj', hsum⟩ : ∃ i' j', i' ≤ i ∧ j' ≤ j ∧
      posEgressAllow + i' * 10 + j' = posCatchAll := by
    simp only [posEgressAllow, posCatchAll] at hge ⊢
    by_cases h : i * 10 ≤ 7500
    · exact ⟨i, 7500 - i * 10, le_refl i, by omega, by omega⟩
    · exact ⟨750, 0, by omega, by omega, by omega⟩
  have hsame := hc.verdict_unique hv
    (.egress spec i' j' _ _ approved here (List.getElem?_eq_getElem (by omega))
      (List.getElem?_eq_getElem (by omega))) .catchAllOutbound
    (congrArg Nat.cast hsum) rfl
  cases hsame

/-! ## What each rule matches -/

/-- The address lies in a subnet of the team. -/
def InTeam (plan : SegregatedNetworkPlan) (team : Str) (x : Ip.Address) : Prop :=
  ∃ w ∈ plan.vnets, w.ownership.teamRef = some team ∧ w.subnet.Contains x

/-- The flow meets a protocol and a port, each if given. -/
def Serves (proto dport : Option Str) (flow : Flow) : Prop :=
  (∀ q ∈ proto, q = flow.proto) ∧ ∀ d ∈ dport, ∃ port ∈ flow.port, intStr port = d

variable {flow : Flow} {x : Ip.Address} {ipSets : Dict Str (List Str)}

omit [Unicode] in
theorem serviceMatches_iff : serviceMatches flow r = true ↔ Serves r.proto r.dport flow := by
  unfold serviceMatches Serves
  rw [Bool.and_eq_true]
  refine and_congr ?_ ?_
  · cases r.proto <;> simp
  · cases r.dport with
    | none => simp
    | some d => cases flow.port <;> simp

omit [Unicode] in
theorem hit_iff : hit ipSets flow x r = true ↔ r.enabled = true ∧ r.direction = flow.direction ∧
    fieldMatches ipSets x (matchField flow.direction r) = true ∧ Serves r.proto r.dport flow := by
  simp only [hit, Bool.and_eq_true, decide_eq_true_eq, serviceMatches_iff, and_assoc]

omit [Unicode] in
/-- An outbound rule is matched by its destination and its service. -/
theorem hit_outbound {position : Nat} {verdict : FirewallVerdict} {dest proto dport : Option Str}
    {comment : Str} {hcomment : comment ≠ []} (hflow : flow.direction = .outbound) :
    hit ipSets flow x (rule position .outbound verdict none dest proto dport comment hcomment) =
      true ↔ fieldMatches ipSets x dest = true ∧ Serves proto dport flow := by
  rw [hit_iff, hflow]
  simp [rule, matchField]

omit [Unicode] in
/-- An inbound rule is matched by its source and its service. -/
theorem hit_inbound {position : Nat} {verdict : FirewallVerdict} {source proto dport : Option Str}
    {comment : Str} {hcomment : comment ≠ []} (hflow : flow.direction = .inbound) :
    hit ipSets flow x (rule position .inbound verdict source none proto dport comment hcomment) =
      true ↔ fieldMatches ipSets x source = true ∧ Serves proto dport flow := by
  rw [hit_iff, hflow]
  simp [rule, matchField]

omit [Unicode] in
@[simp] theorem serves_any : Serves none none flow := by simp [Serves]

omit [Unicode] in
theorem fieldMatches_ipSet {name : Str} {cidrs : List Str} (h : ipSets.get? name = some cidrs) :
    fieldMatches ipSets x (some ('+' :: name)) = inCidrs x cidrs := by
  simp [fieldMatches, resolve, h]

omit [Unicode] in
theorem fieldMatches_cidr {cidr : Str} (h : (Ip.ipNetwork false cidr).isSome = true) :
    fieldMatches ipSets x (some cidr) = inCidrs x [cidr] := by
  simp [fieldMatches, resolve_of_parses h]

theorem Compiled.inCidrs_subnet (hc : Compiled request observation plan) (hw : w ∈ plan.vnets) :
    inCidrs x [w.subnet.cidr] = true ↔ w.subnet.Contains x := by
  obtain ⟨n, hn, hcontains⟩ := hc.cidr_parses hw
  simp [inCidrs_iff, hn, hcontains]

/-- A rule on a team's IPSet matches the addresses of that team. -/
theorem Compiled.fieldMatches_team (hc : Compiled request observation plan) {team name : Str}
    (h : (team, name) ∈ teamIpsets plan.ipSets) :
    fieldMatches (ipSetCidrs plan) x (some ('+' :: name)) = true ↔ InTeam plan team x := by
  rw [fieldMatches_ipSet (hc.teamCidrs team name h), inCidrs_iff]
  constructor
  · rintro ⟨_, hcidr, n, hn, hx⟩
    obtain ⟨w, hw, rfl⟩ := List.mem_map.mp hcidr
    obtain ⟨hw, hteam⟩ := List.mem_filter.mp hw
    refine ⟨w, hw, of_decide_eq_true hteam, (hc.inCidrs_subnet hw).mp ?_⟩
    exact inCidrs_iff.mpr ⟨_, List.mem_singleton_self _, n, hn, hx⟩
  · rintro ⟨w, hw, hteam, hx⟩
    obtain ⟨n, hn, hcontains⟩ := hc.cidr_parses hw
    refine ⟨_, List.mem_map_of_mem (List.mem_filter.mpr ⟨hw, decide_eq_true hteam⟩), n, hn, ?_⟩
    exact (hcontains x).mpr hx

/-! ## Isolation -/

omit [Unicode] in
/-- The gateway of a subnet is one of its addresses. -/
theorem SubnetSpec.gateway_contained (subnet : SubnetSpec) :
    ∃ x, Ip.ipAddress subnet.gateway = some x ∧ subnet.Contains x := by
  have h := subnet.gateway_inside
  unfold gatewayInside at h
  split at h
  · rename_i network x hnetwork hx
    exact ⟨x, hx, network, hnetwork, Ip.contains_eq_true_iff.mp h⟩
  · cases h

theorem Compiled.exists_segment (hc : Compiled request observation plan) (segment : Segment)
    (h : segment ∈ segments request) :
    ∃ v ∈ plan.vnets, v.ownership.teamRef = segment.teamRef ∧ v.role = segment.role := by
  obtain ⟨inOrder, hperm, hsegments⟩ := hc.vnets
  obtain ⟨v, hv, hsegment⟩ := forall₂_exists_right hsegments h
  exact ⟨v, hperm.mem_iff.mpr hv, hsegment⟩

theorem Compiled.segment_of_mem (hc : Compiled request observation plan) (hv : v ∈ plan.vnets) :
    ∃ segment ∈ segments request,
      v.ownership.teamRef = segment.teamRef ∧ v.role = segment.role := by
  obtain ⟨inOrder, hperm, hsegments⟩ := hc.vnets
  exact forall₂_exists_left hsegments (hperm.mem_iff.mp hv)

/-- Every team has a place in the order the peer rules are numbered in. -/
theorem Compiled.exists_index (hc : Compiled request observation plan) (hw : w ∈ plan.vnets)
    {team : Str} (hteam : w.ownership.teamRef = some team) :
    ∃ (i : Nat) (name : Str), (sortedBy id (teamIpsets plan.ipSets))[i]? = some (team, name) := by
  obtain ⟨⟨_, name⟩, hmem, rfl⟩ := List.mem_map.mp ((hc.teams team).mpr ⟨w, hw, hteam⟩)
  have hsorted : (_, name) ∈ sortedBy id (teamIpsets plan.ipSets) := mem_sortedBy.mpr hmem
  obtain ⟨i, hi⟩ := List.mem_iff_getElem?.mp hsorted
  exact ⟨i, name, hi⟩

/-- No segment accepts anything inbound from a segment of a team it does not belong to: the deny
of that team stands before every rule that accepts. -/
theorem Compiled.refuses_inbound (hc : Compiled request observation plan) (hv : v ∈ plan.vnets)
    {team : Str} (hpeer : some team ≠ v.ownership.teamRef) (hflow : flow.direction = .inbound)
    (hx : Ip.ipAddress flow.address = some x) (hteam : InTeam plan team x) :
    evaluateFlow plan v.name flow ≠ .ok .accept := by
  rw [Ne, evaluateFlow_accept_iff hc hv hx]
  rintro ⟨r, hr, hhit, haccept, hbefore⟩
  obtain ⟨w, hw, hwteam, _⟩ := id hteam
  obtain ⟨i, name, hi⟩ := hc.exists_index hw hwteam
  have hmem := mem_sortedBy.mp (List.mem_of_getElem? hi)
  have hdeny : hit (ipSetCidrs plan) flow x (peerInbound i team name) = true :=
    (hit_inbound hflow).mpr ⟨(hc.fieldMatches_team hmem).mpr hteam, serves_any⟩
  have hlt := hbefore _ (.peerInbound i team name hi hpeer) hdeny (by simp [peerInbound, rule])
  have hi51 := hc.team_lt hi
  have hdirection := (direction_of_hit hhit).trans hflow
  -- only two inbound rules accept, and both stand at 301 or later
  cases hr with
  | intraTeamInbound team' name' _ _ =>
      simp only [intraTeamInbound, peerInbound, rule, posIntraTeamAllow, posCrossTeamDeny] at hlt
      omega
  | scoringInbound w' _ _ =>
      simp only [scoringInbound, peerInbound, rule, posScoringAllow, posCrossTeamDeny] at hlt
      omega
  | managementInbound => cases haccept
  | peerInbound => cases haccept
  | catchAllInbound => cases haccept
  | managementOutbound => cases hdirection
  | reviewedPath => cases hdirection
  | controlPlaneDeny => cases hdirection
  | peerOutbound => cases hdirection
  | intraTeamOutbound => cases hdirection
  | scoringOutbound => cases hdirection
  | egress => cases hdirection
  | catchAllOutbound => cases hdirection

/-- Between segments of different teams no flow is accepted at both ends, whatever destination the
sending segment is asked about. -/
theorem compileWebBreachLab_isolates_teams {ledger : AllocationLedger}
    (hcompile : compileWebBreachLab request observation AllocationLedger.empty =
      .ok (.plan plan, ledger))
    {s d : VNetSpec} (hs : s ∈ plan.vnets) (hd : d ∈ plan.vnets) {a b : Str}
    (hsteam : s.ownership.teamRef = some a) (hdteam : d.ownership.teamRef = some b) (hab : a ≠ b)
    {source : Str} {x : Ip.Address} (hx : Ip.ipAddress source = some x)
    (hsource : s.subnet.Contains x) (dest : Str) (port : Option Int) (proto : Str) :
    ¬(evaluateFlow plan s.name ⟨dest, port, proto, .outbound⟩ = .ok .accept ∧
      evaluateFlow plan d.name ⟨source, port, proto, .inbound⟩ = .ok .accept) := by
  have hc := compiled_of_compileWebBreachLab hcompile
  rintro ⟨_, hinbound⟩
  have hpeer : some a ≠ d.ownership.teamRef := by
    rw [hdteam]
    exact fun h => hab (Option.some.inj h)
  exact hc.refuses_inbound hd hpeer rfl hx ⟨s, hs, hsteam, hsource⟩ hinbound

omit [Unicode] in
theorem sample_isolates_teams :
    ∃ plan ledger, @compileWebBreachLab Unicode.ascii (sampleRequest none) sampleObservation
      AllocationLedger.empty = .ok (.plan plan, ledger) ∧
    ∃ s ∈ plan.vnets, ∃ d ∈ plan.vnets, s.ownership.teamRef = some (str "x") ∧
      d.ownership.teamRef = some (str "y") ∧
      ¬(@evaluateFlow Unicode.ascii plan s.name ⟨d.subnet.gateway, some 80, str "tcp", .outbound⟩ =
          .ok .accept ∧
        @evaluateFlow Unicode.ascii plan d.name ⟨s.subnet.gateway, some 80, str "tcp", .inbound⟩ =
          .ok .accept) := by
  let _ := Unicode.ascii
  obtain ⟨plan, ledger, hcompile, _⟩ := exists_of_compiledWith sample_compiles
  have hc := compiled_of_compileWebBreachLab hcompile
  obtain ⟨s, hs, hsteam, _⟩ := hc.exists_segment ⟨some (str "x"), .attacker,
    vnetName (some 1) .attacker⟩ (by with_unfolding_all decide)
  obtain ⟨d, hd, hdteam, _⟩ := hc.exists_segment ⟨some (str "y"), .vulnerable,
    vnetName (some 2) .vulnerable⟩ (by with_unfolding_all decide)
  obtain ⟨x, hx, hsource⟩ := s.subnet.gateway_contained
  exact ⟨plan, ledger, hcompile, s, hs, d, hd, hsteam, hdteam,
    compileWebBreachLab_isolates_teams hcompile hs hd hsteam hdteam (by with_unfolding_all decide) hx hsource
      d.subnet.gateway (some 80) (str "tcp")⟩

/-! ## Scoring -/

/-- Scoring is reachable end to end: every team's segment may send to the first host of the scoring
segment on the scoring port, and the scoring segment accepts what it sends. -/
def ScoringReachable (request : WebBreachLabRequest) (plan : SegregatedNetworkPlan) : Prop :=
  ∀ s ∈ plan.vnets, s.ownership.teamRef ≠ none → ∀ d ∈ plan.vnets, d.role = .scoring →
    ∀ source x, Ip.ipAddress source = some x → s.subnet.Contains x →
      ∀ network, Ip.ipNetwork true d.subnet.cidr = some network →
        evaluateFlow plan s.name
          ⟨network.firstHost.text, some request.scoringPort, str "tcp", .outbound⟩ = .ok .accept ∧
        evaluateFlow plan d.name ⟨source, some request.scoringPort, str "tcp", .inbound⟩ =
          .ok .accept

/-- Only the scoring segment has the scoring role, and it belongs to no team. -/
theorem role_of_mem_segments {segment : Segment} (h : segment ∈ segments request) :
    segment.role = .scoring ↔ segment.teamRef = none := by
  rcases List.mem_cons.mp h with rfl | h
  · simp
  · obtain ⟨⟨team, index⟩, _, hmem⟩ := List.mem_flatMap.mp h
    rcases List.mem_append.mp hmem with hmem | hmem
    · rcases List.mem_pair.mp hmem with rfl | rfl <;> simp
    · split at hmem
      · obtain rfl := List.mem_singleton.mp hmem
        simp
      · cases hmem

theorem Compiled.scoring_teamless (hc : Compiled request observation plan) (hv : v ∈ plan.vnets) :
    v.role = .scoring ↔ v.ownership.teamRef = none := by
  obtain ⟨segment, hsegment, hteam, hrole⟩ := hc.segment_of_mem hv
  rw [hteam, hrole]
  exact role_of_mem_segments hsegment

theorem Compiled.exists_team (hc : Compiled request observation plan) :
    ∃ v ∈ plan.vnets, ∃ team, v.ownership.teamRef = some team := by
  have htwo := request.two_teams
  cases hteams : request.teams with
  | nil => simp [hteams] at htwo
  | cons team rest =>
      have hmem : (⟨some team.teamRef, .attacker, vnetName (some 1) .attacker⟩ : Segment) ∈
          segments request := by simp [segments, hteams]
      obtain ⟨v, hv, hteam, _⟩ := hc.exists_segment _ hmem
      exact ⟨v, hv, team.teamRef, hteam⟩

/-- Two of the plan's segments belong to different teams. -/
theorem Compiled.two_teams (hc : Compiled request observation plan) :
    ∃ v ∈ plan.vnets, ∃ w ∈ plan.vnets, ∃ team team', v.ownership.teamRef = some team ∧
      w.ownership.teamRef = some team' ∧ team ≠ team' := by
  have htwo := request.two_teams
  have hnodup := request.teamRefs_nodup
  cases hteams : request.teams with
  | nil => simp [hteams] at htwo
  | cons first others =>
      cases others with
      | nil => simp [hteams] at htwo
      | cons second rest =>
          obtain ⟨v, hv, hteam, _⟩ := hc.exists_segment
            ⟨some first.teamRef, .attacker, vnetName (some 1) .attacker⟩
            (by simp [segments, hteams])
          obtain ⟨w, hw, hteam', _⟩ := hc.exists_segment
            ⟨some second.teamRef, .attacker, vnetName (some 2) .attacker⟩
            (by simp [segments, hteams])
          refine ⟨v, hv, w, hw, _, _, hteam, hteam', fun hsame => ?_⟩
          simp [hteams, hsame] at hnodup

theorem Compiled.exists_scoring (hc : Compiled request observation plan) :
    ∃ d ∈ plan.vnets, d.role = .scoring := by
  obtain ⟨d, hd, _, hrole⟩ := hc.exists_segment ⟨none, .scoring, str "score"⟩
    List.mem_cons_self
  exact ⟨d, hd, hrole⟩

/-- The scoring segment accepts nothing from any team: the peer denies of its own group stand
before the rule that accepts submissions. So in no compiled plan is scoring reachable. -/
theorem compileWebBreachLab_scoring_unreachable {ledger : AllocationLedger}
    (hcompile : compileWebBreachLab request observation AllocationLedger.empty =
      .ok (.plan plan, ledger)) :
    (∀ s ∈ plan.vnets, s.ownership.teamRef ≠ none → ∀ d ∈ plan.vnets, d.role = .scoring →
      ∀ source x, Ip.ipAddress source = some x → s.subnet.Contains x →
        evaluateFlow plan d.name ⟨source, some request.scoringPort, str "tcp", .inbound⟩ ≠
          .ok .accept) ∧
      ¬ScoringReachable request plan := by
  have hc := compiled_of_compileWebBreachLab hcompile
  have hrefused : ∀ s ∈ plan.vnets, s.ownership.teamRef ≠ none → ∀ d ∈ plan.vnets,
      d.role = .scoring → ∀ source x, Ip.ipAddress source = some x → s.subnet.Contains x →
        evaluateFlow plan d.name ⟨source, some request.scoringPort, str "tcp", .inbound⟩ ≠
          .ok .accept := by
    intro s hs howned d hd hrole source x hx hsource
    obtain ⟨team, hteam⟩ := Option.ne_none_iff_exists'.mp howned
    have hpeer : some team ≠ d.ownership.teamRef := by
      rw [(hc.scoring_teamless hd).mp hrole]
      exact Option.some_ne_none team
    exact hc.refuses_inbound hd hpeer rfl hx ⟨s, hs, hteam, hsource⟩
  refine ⟨hrefused, fun hreachable => ?_⟩
  obtain ⟨s, hs, team, hteam⟩ := hc.exists_team
  obtain ⟨d, hd, hrole⟩ := hc.exists_scoring
  obtain ⟨x, hx, hsource⟩ := s.subnet.gateway_contained
  obtain ⟨_, _, network, hnetwork, _⟩ := d.subnet.gateway_contained
  have howned : s.ownership.teamRef ≠ none := by simp [hteam]
  exact hrefused s hs howned d hd hrole _ x hx hsource
    (hreachable s hs howned d hd hrole _ x hx hsource network hnetwork).2

omit [Unicode] in
theorem sample_scoring_unreachable :
    ∃ plan ledger, @compileWebBreachLab Unicode.ascii (sampleRequest none) sampleObservation
      AllocationLedger.empty = .ok (.plan plan, ledger) ∧
        ¬@ScoringReachable Unicode.ascii (sampleRequest none) plan := by
  let _ := Unicode.ascii
  obtain ⟨plan, ledger, hcompile, _⟩ := exists_of_compiledWith sample_compiles
  exact ⟨plan, ledger, hcompile, (compileWebBreachLab_scoring_unreachable hcompile).2⟩

/-- Some team's gateway address is dropped by the scoring segment on the scoring port. -/
def dropsScoring (plan : SegregatedNetworkPlan) : Bool :=
  plan.vnets.any fun s => s.ownership.teamRef.isSome && plan.vnets.any fun d =>
    d.role = .scoring && match @evaluateFlow Unicode.ascii plan d.name
      ⟨s.subnet.gateway, some 443, str "tcp", .inbound⟩ with
    | .ok .drop => true
    | _ => false

omit [Unicode] in
/-- On the sample lab the scoring segment drops a submission. -/
theorem sample_drops_scoring :
    @WebBreachLabRequest.controlPlaneCidrs Unicode.ascii (sampleRequest none) = [] ∧
    ∃ plan ledger, @compileWebBreachLab Unicode.ascii (sampleRequest none) sampleObservation
      AllocationLedger.empty = .ok (.plan plan, ledger) ∧
        ¬@ScoringReachable Unicode.ascii (sampleRequest none) plan := by
  let _ := Unicode.ascii
  obtain ⟨plan, ledger, hcompile, hdrops⟩ := exists_of_compiledWith (show compiledWith
    (@compileWebBreachLab Unicode.ascii (sampleRequest none) sampleObservation
      AllocationLedger.empty) dropsScoring = true by decide +kernel)
  refine ⟨rfl, plan, ledger, hcompile, fun hreachable => ?_⟩
  simp only [dropsScoring, List.any_eq_true, Bool.and_eq_true, decide_eq_true_eq] at hdrops
  obtain ⟨s, hs, hteam, d, hd, hrole, hdrop⟩ := hdrops
  obtain ⟨x, hx, hsource⟩ := s.subnet.gateway_contained
  obtain ⟨_, _, network, hnetwork, _⟩ := d.subnet.gateway_contained
  have haccept := (hreachable s hs (Option.isSome_iff_ne_none.mp hteam) d hd hrole _ x hx hsource
    network hnetwork).2
  change evaluateFlow plan d.name ⟨s.subnet.gateway, some 443, str "tcp", .inbound⟩ = _ at haccept
  rw [haccept] at hdrop
  cases hdrop

end

end Secp.Proxmox
