import Secp.Logic.FirstMatch
import Secp.Proxmox.FirewallSpec

/-!
# Deciding one flow

`evaluateFlow` walks a sorted rule list and parses texts as it goes. On a compiled plan every text
it meets parses, so the walk is a first match over a boolean `hit`; and since the positions of a
group are distinct, `evaluateFlow_accept_iff` replaces the walk by a comparison of the positions
the rules were authored at.
-/

namespace Secp.Proxmox

open Secp.Python Secp.Logic

/-! ## Matching a rule -/

/-- Whether the address lies in one of the CIDRs. -/
def inCidrs (x : Ip.Address) (cidrs : List Str) : Bool :=
  cidrs.any fun cidr => (Ip.ipNetwork false cidr).any fun network => network.contains x

/-- Whether a rule field matches the address. -/
def fieldMatches (ipSets : Dict Str (List Str)) (x : Ip.Address) (token : Option Str) : Bool :=
  match resolve token ipSets with
  | none => true
  | some cidrs => inCidrs x cidrs

/-- Whether a rule matches a flow whose far address is `x`. -/
def hit (ipSets : Dict Str (List Str)) (flow : Flow) (x : Ip.Address) (r : FirewallRuleSpec) : Bool :=
  r.enabled && r.direction = flow.direction &&
    fieldMatches ipSets x (matchField flow.direction r) && serviceMatches flow r

/-- Every CIDR a rule field stands for parses. -/
def Readable (ipSets : Dict Str (List Str)) (token : Option Str) : Prop :=
  ∀ cidrs, resolve token ipSets = some cidrs → ∀ cidr ∈ cidrs, (Ip.ipNetwork false cidr).isSome

theorem inCidrs_iff {x : Ip.Address} {cidrs : List Str} :
    inCidrs x cidrs = true ↔
      ∃ cidr ∈ cidrs, ∃ network, Ip.ipNetwork false cidr = some network ∧ x ∈ network := by
  simp only [inCidrs, List.any_eq_true, Option.any_eq_true, Ip.contains_eq_true_iff]

theorem anyContains_eq {x : Ip.Address} {cidrs : List Str}
    (h : ∀ cidr ∈ cidrs, (Ip.ipNetwork false cidr).isSome = true) :
    anyContains x cidrs = .ok (inCidrs x cidrs) := by
  induction cidrs with
  | nil => rfl
  | cons cidr rest ih =>
      obtain ⟨network, hnetwork⟩ := Option.isSome_iff_exists.mp (h cidr List.mem_cons_self)
      have hrest := ih fun c hc => h c (List.mem_cons_of_mem _ hc)
      unfold anyContains
      rw [hnetwork]
      change (if network.contains x = true then pure true else anyContains x rest) = _
      have hcons : inCidrs x (cidr :: rest) = (network.contains x || inCidrs x rest) := by
        rw [inCidrs, List.any_cons, hnetwork, Option.any_some, ← inCidrs]
      rw [hrest, hcons]
      cases network.contains x <;> rfl

theorem addressMatches_eq {ipSets : Dict Str (List Str)} {address : Str} {x : Ip.Address}
    {token : Option Str} (hx : Ip.ipAddress address = some x) (h : Readable ipSets token) :
    addressMatches address (resolve token ipSets) = .ok (fieldMatches ipSets x token) := by
  unfold fieldMatches
  cases hresolve : resolve token ipSets with
  | none => rfl
  | some cidrs =>
      unfold addressMatches
      rw [hx]
      exact anyContains_eq (h cidrs hresolve)

/-- On readable rules the evaluator is a search for the first rule that matches. -/
theorem firstVerdict_eq {ipSets : Dict Str (List Str)} {flow : Flow} {x : Ip.Address}
    {rules : List FirewallRuleSpec} (hx : Ip.ipAddress flow.address = some x)
    (h : ∀ r ∈ rules, Readable ipSets (matchField flow.direction r)) :
    firstVerdict ipSets flow rules =
      .ok (((rules.find? (hit ipSets flow x)).map FirewallRuleSpec.verdict).getD .drop) := by
  induction rules with
  | nil => rfl
  | cons r rest ih =>
      have hrest := ih fun s hs => h s (List.mem_cons_of_mem _ hs)
      rw [List.find?_cons]
      unfold firstVerdict
      by_cases hskip : (!r.enabled || decide (r.direction ≠ flow.direction)) = true
      · have hmiss : hit ipSets flow x r = false := by
          rcases Bool.or_eq_true _ _ ▸ hskip with hoff | hdirection
          · simp [hit, show r.enabled = false by simpa using hoff]
          · simp [hit, of_decide_eq_true hdirection]
        rw [if_pos hskip, hmiss, hrest]
      · rw [if_neg hskip, addressMatches_eq hx (h r List.mem_cons_self)]
        have hsame : r.enabled = true ∧ r.direction = flow.direction := by simpa using hskip
        change (if (fieldMatches ipSets x (matchField flow.direction r) && serviceMatches flow r) =
          true then pure r.verdict else firstVerdict ipSets flow rest) = _
        cases hmatch : fieldMatches ipSets x (matchField flow.direction r) &&
            serviceMatches flow r with
        | true =>
            have hhit : hit ipSets flow x r = true := by simpa [hit, hsame] using hmatch
            rw [hhit]
            rfl
        | false =>
            have hmiss : hit ipSets flow x r = false := by
              rw [hit, Bool.and_assoc, hmatch, Bool.and_false]
            rw [hmiss, if_neg Bool.false_ne_true, hrest]

@[simp] theorem hit_bandRule (ipSets : Dict Str (List Str)) (flow : Flow) (x : Ip.Address)
    (r : FirewallRuleSpec) : hit ipSets flow x (bandRule r) = hit ipSets flow x r := rfl

theorem direction_of_hit {ipSets : Dict Str (List Str)} {flow : Flow} {x : Ip.Address}
    {r : FirewallRuleSpec} (h : hit ipSets flow x r = true) : r.direction = flow.direction := by
  simp only [hit, Bool.and_eq_true, decide_eq_true_eq] at h
  exact h.1.1.2

/-! ## The rules of a segment -/

section
variable [Unicode] {request : WebBreachLabRequest} {observation : TargetObservation}
  {plan : SegregatedNetworkPlan} {v : VNetSpec} {r : FirewallRuleSpec}

/-- The ways a rule comes to be authored for a VNet of a plan. -/
inductive Authored (request : WebBreachLabRequest) (teamIpset : Dict Str Str)
    (scoring : List VNetSpec) (v : VNetSpec) : FirewallRuleSpec → Prop where
  | managementOutbound : Authored request teamIpset scoring v managementOutbound
  | managementInbound : Authored request teamIpset scoring v managementInbound
  | reviewedPath (i : Nat) (path : ControlPlaneReviewedPath)
      (declared : request.controlPlaneCidrs ≠ [])
      (h : request.reviewedControlPlanePaths[i]? = some path) :
      Authored request teamIpset scoring v (reviewedPathRule i path)
  | controlPlaneDeny (declared : request.controlPlaneCidrs ≠ []) :
      Authored request teamIpset scoring v controlPlaneDeny
  | peerOutbound (i : Nat) (team name : Str) (h : (sortedBy id teamIpset)[i]? = some (team, name))
      (peer : some team ≠ v.ownership.teamRef) :
      Authored request teamIpset scoring v (peerOutbound i team name)
  | peerInbound (i : Nat) (team name : Str) (h : (sortedBy id teamIpset)[i]? = some (team, name))
      (peer : some team ≠ v.ownership.teamRef) :
      Authored request teamIpset scoring v (peerInbound i team name)
  | intraTeamOutbound (team name : Str) (own : v.ownership.teamRef = some team)
      (h : teamIpset.get? team = some name) :
      Authored request teamIpset scoring v (intraTeamOutbound team name)
  | intraTeamInbound (team name : Str) (own : v.ownership.teamRef = some team)
      (h : teamIpset.get? team = some name) :
      Authored request teamIpset scoring v (intraTeamInbound team name)
  | scoringInbound (w : VNetSpec) (role : v.role = .scoring) (h : w ∈ scoring) :
      Authored request teamIpset scoring v (scoringInbound request.scoringPort)
  | scoringOutbound (w : VNetSpec) (role : v.role ≠ .scoring) (h : w ∈ scoring) :
      Authored request teamIpset scoring v (scoringOutbound request.scoringPort w)
  | egress (spec : EgressGatewaySpec) (i j : Nat) (dest port : Str)
      (approved : request.egress = some spec) (here : spec.vnetName = v.name)
      (hdest : spec.allowedDestinations[i]? = some dest)
      (hport : (egressPorts spec)[j]? = some port) :
      Authored request teamIpset scoring v (egressRule spec i j dest port)
  | catchAllOutbound : Authored request teamIpset scoring v catchAllOutbound
  | catchAllInbound : Authored request teamIpset scoring v catchAllInbound

variable {teamIpset : Dict Str Str} {scoring : List VNetSpec}

theorem mem_controlPlaneRules : r ∈ controlPlaneRules request ↔
    request.controlPlaneCidrs ≠ [] ∧
      ((∃ path i, request.reviewedControlPlanePaths[i]? = some path ∧
        reviewedPathRule i path = r) ∨ r = controlPlaneDeny) := by
  unfold controlPlaneRules
  split
  · rename_i hempty
    simp [List.isEmpty_iff.mp hempty]
  · rename_i hne
    have hne : request.controlPlaneCidrs ≠ [] := by simpa using hne
    simp [hne, List.mem_zipIdx_iff_getElem?]

omit [Unicode] in
theorem mem_crossTeamRules {teamRef : Option Str} : r ∈ crossTeamRules teamIpset teamRef ↔
    ∃ i team name, (sortedBy id teamIpset)[i]? = some (team, name) ∧ some team ≠ teamRef ∧
      (r = peerOutbound i team name ∨ r = peerInbound i team name) := by
  unfold crossTeamRules
  simp only [List.mem_flatMap, Prod.exists, List.mem_zipIdx_iff_getElem?]
  constructor
  · rintro ⟨team, name, i, hget, hr⟩
    split at hr
    · cases hr
    · rename_i hpeer
      exact ⟨i, team, name, hget, hpeer, by simpa using hr⟩
  · rintro ⟨i, team, name, hget, hpeer, hr⟩
    refine ⟨team, name, i, hget, ?_⟩
    rw [if_neg hpeer]
    simpa using hr

theorem mem_egressRules : r ∈ egressRules request v ↔
    ∃ spec i j dest port, request.egress = some spec ∧ spec.vnetName = v.name ∧
      spec.allowedDestinations[i]? = some dest ∧ (egressPorts spec)[j]? = some port ∧
        r = egressRule spec i j dest port := by
  unfold egressRules
  split
  · rename_i hnone
    simp [hnone]
  · rename_i spec hspec
    split
    · rename_i hname
      simp only [List.mem_flatMap, List.mem_map, Prod.exists, List.mem_zipIdx_iff_getElem?, hspec,
        Option.some.injEq]
      constructor
      · rintro ⟨dest, i, hdest, port, j, hport, rfl⟩
        exact ⟨spec, i, j, dest, port, rfl, hname, hdest, hport, rfl⟩
      · rintro ⟨_, i, j, dest, port, rfl, _, hdest, hport, rfl⟩
        exact ⟨dest, i, hdest, port, j, hport, rfl⟩
    · rename_i hname
      simp only [List.not_mem_nil, hspec, Option.some.injEq, false_iff]
      rintro ⟨_, _, _, _, _, rfl, hhere, _⟩
      exact hname hhere

omit [Unicode] in
theorem mem_intraTeamRules {teamRef : Option Str} : r ∈ intraTeamRules teamIpset teamRef ↔
    ∃ team name, teamRef = some team ∧ teamIpset.get? team = some name ∧
      (r = intraTeamOutbound team name ∨ r = intraTeamInbound team name) := by
  cases teamRef with
  | none => simp [intraTeamRules]
  | some team =>
      cases hget : teamIpset.get? team with
      | none => simp [intraTeamRules, hget]
      | some name => simp [intraTeamRules, hget]

theorem mem_scoringRules : r ∈ scoringRules request scoring v ↔
    ∃ w ∈ scoring, (v.role = .scoring ∧ r = scoringInbound request.scoringPort) ∨
      (v.role ≠ .scoring ∧ r = scoringOutbound request.scoringPort w) := by
  unfold scoringRules
  split
  · rename_i hrole
    cases scoring with
    | nil => simp
    | cons w rest => simp [hrole]
  · rename_i hrole
    simp [hrole, eq_comm]

/-- The rules of a segment are the authored ones. -/
theorem mem_segmentRules : r ∈ segmentRules request teamIpset scoring v ↔
    Authored request teamIpset scoring v r := by
  unfold segmentRules
  simp only [List.mem_append, mem_controlPlaneRules, mem_crossTeamRules, mem_intraTeamRules,
    mem_scoringRules, mem_egressRules, List.mem_pair]
  constructor
  · rintro ((((((h | h) | h) | h) | h) | h) | h)
    · rcases h with rfl | rfl
      · exact .managementOutbound
      · exact .managementInbound
    · obtain ⟨hne, ⟨path, i, h, rfl⟩ | rfl⟩ := h
      · exact .reviewedPath i path hne h
      · exact .controlPlaneDeny hne
    · obtain ⟨i, team, name, h, hpeer, rfl | rfl⟩ := h
      · exact .peerOutbound i team name h hpeer
      · exact .peerInbound i team name h hpeer
    · obtain ⟨team, name, hteam, h, rfl | rfl⟩ := h
      · exact .intraTeamOutbound team name hteam h
      · exact .intraTeamInbound team name hteam h
    · obtain ⟨w, hw, ⟨hrole, rfl⟩ | ⟨hrole, rfl⟩⟩ := h
      · exact .scoringInbound w hrole hw
      · exact .scoringOutbound w hrole hw
    · obtain ⟨spec, i, j, dest, port, hspec, hname, hdest, hport, rfl⟩ := h
      exact .egress spec i j dest port hspec hname hdest hport
    · rcases h with rfl | rfl
      · exact .catchAllOutbound
      · exact .catchAllInbound
  · intro h
    cases h with
    | managementOutbound => simp
    | managementInbound => simp
    | reviewedPath i path hne h =>
        exact .inl (.inl (.inl (.inl (.inl (.inr ⟨hne, .inl ⟨path, i, h, rfl⟩⟩)))))
    | controlPlaneDeny hne => exact .inl (.inl (.inl (.inl (.inl (.inr ⟨hne, .inr rfl⟩)))))
    | peerOutbound i team name h hpeer =>
        exact .inl (.inl (.inl (.inl (.inr ⟨i, team, name, h, hpeer, .inl rfl⟩))))
    | peerInbound i team name h hpeer =>
        exact .inl (.inl (.inl (.inl (.inr ⟨i, team, name, h, hpeer, .inr rfl⟩))))
    | intraTeamOutbound team name own h =>
        exact .inl (.inl (.inl (.inr ⟨team, name, own, h, .inl rfl⟩)))
    | intraTeamInbound team name own h =>
        exact .inl (.inl (.inl (.inr ⟨team, name, own, h, .inr rfl⟩)))
    | scoringInbound w role h => exact .inl (.inl (.inr ⟨w, h, .inl ⟨role, rfl⟩⟩))
    | scoringOutbound w role h => exact .inl (.inl (.inr ⟨w, h, .inr ⟨role, rfl⟩⟩))
    | egress spec i j dest port hspec hname hdest hport =>
        exact .inl (.inr ⟨spec, i, j, dest, port, hspec, hname, hdest, hport, rfl⟩)
    | catchAllOutbound => simp
    | catchAllInbound => simp

/-! ## Readable rules -/

omit [Unicode] in
theorem readable_ipSet (plan : SegregatedNetworkPlan) (name : Str) :
    Readable (ipSetCidrs plan) (some ('+' :: name)) := by
  intro cidrs hcidrs cidr hcidr
  cases hget : (ipSetCidrs plan).get? name with
  | none =>
      simp only [resolve, hget, Option.getD_none, Option.some.injEq] at hcidrs
      simp [← hcidrs] at hcidr
  | some found =>
      simp only [resolve, hget, Option.getD_some, Option.some.injEq] at hcidrs
      subst hcidrs
      obtain ⟨item, _, hitem⟩ := List.mem_map.mp (Dict.mem_of_get?_ofPairs hget)
      cases hitem
      exact item.cidrs_valid cidr hcidr

omit [Unicode] in
/-- A text that parses as a network does not name an IPSet. -/
theorem resolve_of_parses {ipSets : Dict Str (List Str)} {cidr : Str}
    (h : (Ip.ipNetwork false cidr).isSome = true) : resolve (some cidr) ipSets = some [cidr] := by
  unfold resolve
  split
  · simp_all
  · rename_i name heq
    cases heq
    rw [Ip.ipNetwork_plus] at h
    cases h
  · rename_i heq
    cases heq
    rfl

omit [Unicode] in
theorem readable_cidr {ipSets : Dict Str (List Str)} {cidr : Str}
    (h : (Ip.ipNetwork false cidr).isSome = true) : Readable ipSets (some cidr) := by
  intro cidrs hcidrs c hc
  rw [resolve_of_parses h] at hcidrs
  cases hcidrs
  rw [List.mem_singleton.mp hc]
  exact h

omit [Unicode] in
theorem readable_none (ipSets : Dict Str (List Str)) : Readable ipSets none :=
  fun _ h => (nomatch h)

omit [Unicode] in
theorem readable_matchField {ipSets : Dict Str (List Str)} (direction : FirewallDirection)
    (hdest : Readable ipSets r.dest) (hsource : Readable ipSets r.source) :
    Readable ipSets (matchField direction r) := by
  unfold matchField
  split
  · exact hdest
  · exact hsource

theorem destCidr_parses (path : ControlPlaneReviewedPath) :
    (Ip.ipNetwork false path.destCidr).isSome = true := by
  have h := path.destCidr_single
  unfold isSingleHost at h
  cases hnetwork : Ip.ipNetwork false path.destCidr with
  | none => simp [hnetwork] at h
  | some network => rfl

theorem Compiled.cidr_parses (hc : Compiled request observation plan) (hv : v ∈ plan.vnets) :
    ∃ n : Ip.Network, Ip.ipNetwork false v.subnet.cidr = some n ∧
      ∀ x, x ∈ n ↔ v.subnet.Contains x := by
  obtain ⟨n, hversion, hcidr⟩ := hc.cidrs v hv
  refine ⟨n, by rw [hcidr, Ip.ipNetwork_text false hversion], fun x => ?_⟩
  unfold SubnetSpec.Contains
  rw [hcidr, Ip.ipNetwork_text true hversion]
  simp

/-- The rules the compiler authors for the VNets of a plan. -/
abbrev PlanRule (request : WebBreachLabRequest) (plan : SegregatedNetworkPlan) (v : VNetSpec)
    (r : FirewallRuleSpec) : Prop :=
  Authored request (teamIpsets plan.ipSets) (plan.vnets.filter fun vnet => vnet.role = .scoring) v r

/-- Every text in an authored rule parses. -/
theorem Compiled.readable (hc : Compiled request observation plan) (h : PlanRule request plan v r)
    (direction : FirewallDirection) : Readable (ipSetCidrs plan) (matchField direction r) := by
  have hnone := readable_none (ipSetCidrs plan)
  have hset := readable_ipSet plan
  cases h with
  | managementOutbound => exact readable_matchField direction (hset _) hnone
  | managementInbound => exact readable_matchField direction hnone (hset _)
  | reviewedPath i path _ _ =>
      exact readable_matchField direction (readable_cidr (destCidr_parses path)) hnone
  | controlPlaneDeny _ => exact readable_matchField direction (hset _) hnone
  | peerOutbound i team name _ _ => exact readable_matchField direction (hset _) hnone
  | peerInbound i team name _ _ => exact readable_matchField direction hnone (hset _)
  | intraTeamOutbound team name _ _ => exact readable_matchField direction (hset _) hnone
  | intraTeamInbound team name _ _ => exact readable_matchField direction hnone (hset _)
  | scoringInbound w _ _ => exact readable_matchField direction hnone hnone
  | scoringOutbound w _ hw =>
      obtain ⟨n, hn, _⟩ := hc.cidr_parses (List.mem_of_mem_filter hw)
      exact readable_matchField direction (readable_cidr (by rw [hn]; rfl)) hnone
  | egress spec i j dest port _ _ hdest _ =>
      have hvalid := spec.allowedDestinations_valid dest (List.mem_of_getElem? hdest)
      exact readable_matchField direction (readable_cidr hvalid) hnone
  | catchAllOutbound => exact readable_matchField direction hnone hnone
  | catchAllInbound => exact readable_matchField direction hnone hnone

/-! ## The decision -/

omit [Unicode] in
theorem verdict_of_find?_eq_accept {found : Option FirewallRuleSpec} :
    (.ok ((found.map FirewallRuleSpec.verdict).getD .drop) : Except Raised FirewallVerdict) =
      .ok .accept ↔ ∃ r, found = some r ∧ r.verdict = .accept := by
  cases found with
  | none => simp
  | some r => simp

/-- A flow is accepted exactly when an accepting rule that matches it stands before every other
rule that matches it. -/
theorem evaluateFlow_accept_iff (hc : Compiled request observation plan) (hv : v ∈ plan.vnets)
    {flow : Flow} {x : Ip.Address} (hx : Ip.ipAddress flow.address = some x) :
    evaluateFlow plan v.name flow = .ok .accept ↔
      ∃ r, PlanRule request plan v r ∧ hit (ipSetCidrs plan) flow x r = true ∧
        r.verdict = .accept ∧ ∀ s, PlanRule request plan v s →
          hit (ipSetCidrs plan) flow x s = true → s.verdict ≠ .accept → r.position < s.position := by
  obtain ⟨g, hattached, hfind, hrules⟩ := hc.group v hv
  have hread : ∀ r ∈ g.orderedRules,
      Readable (ipSetCidrs plan) (matchField flow.direction r) := by
    intro r hr
    rw [SecurityGroupSpec.orderedRules, List.mem_insertionSort, hrules, bandPositions] at hr
    obtain ⟨authored, hauthored, rfl⟩ := List.mem_map.mp hr
    exact hc.readable (mem_segmentRules.mp hauthored) flow.direction
  have hverdict : evaluateFlow plan v.name flow = firstVerdict (ipSetCidrs plan) flow g.orderedRules
      := by simp only [evaluateFlow, hattached, hfind]
  rw [hverdict, firstVerdict_eq hx hread, verdict_of_find?_eq_accept]
  refine Iff.trans (firstMatch_good_iff g.positions_nodup) ?_
  rw [hrules, bandPositions]
  -- a matching rule has the direction of the flow, so the bands shift all of them alike
  have hband : ∀ r, hit (ipSetCidrs plan) flow x r = true →
      (bandRule r).position = r.position + bandOffset flow.direction := by
    intro r hr
    rw [← direction_of_hit hr]
    rfl
  simp only [List.mem_map, mem_segmentRules]
  constructor
  · rintro ⟨_, ⟨r, hr, rfl⟩, hhit, haccept, hbefore⟩
    refine ⟨r, hr, hhit, haccept, fun s hs hmatch hrefuse => ?_⟩
    have hlt := hbefore (bandRule s) ⟨s, hs, rfl⟩ hmatch hrefuse
    rw [hband r hhit, hband s hmatch] at hlt
    omega
  · rintro ⟨r, hr, hhit, haccept, hbefore⟩
    refine ⟨bandRule r, ⟨r, hr, rfl⟩, hhit, haccept, ?_⟩
    rintro _ ⟨s, hs, rfl⟩ hmatch hrefuse
    have hlt := hbefore s hs hmatch hrefuse
    rw [hband r hhit, hband s hmatch]
    omega

end

end Secp.Proxmox
