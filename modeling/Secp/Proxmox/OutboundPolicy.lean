import Secp.Proxmox.Isolation

/-!
# The outbound policy

`DeclaredOutbound` says in terms of the request, and of no rule, what a segment may send. The
compiled rules accept exactly that: the refusals an outbound flow can meet are listed with their
places by `outbound_refusals`, the acceptances by `outbound_accepted`, and the bands decide.
-/

namespace Secp.Proxmox

open Secp.Python Secp.Logic

section
variable [Unicode] {request : WebBreachLabRequest} {observation : TargetObservation}
  {plan : SegregatedNetworkPlan} {v : VNetSpec} {r : FirewallRuleSpec} {flow : Flow}
  {x : Ip.Address}

/-! ## The declared policy -/

/-- The service of a flow is one an egress approval lists. -/
def ListedPort (spec : EgressGatewaySpec) (flow : Flow) : Prop :=
  flow.proto = str "tcp" ∧ ∃ port ∈ flow.port, intStr port ∈ spec.allowedPorts

/-- The flow goes to a reviewed control-plane path. -/
def ToReviewedPath (request : WebBreachLabRequest) (flow : Flow) (x : Ip.Address) : Prop :=
  request.controlPlaneCidrs ≠ [] ∧ ∃ path ∈ request.reviewedControlPlanePaths,
    inCidrs x [path.destCidr] = true ∧ path.proto = flow.proto ∧
      ∃ port ∈ flow.port, intStr port = path.dport

/-- The flow stays in the segment's team, goes to scoring on its port, or goes to an approved egress
destination on a port `egressPort` allows. -/
def ToPermitted (egressPort : EgressGatewaySpec → Flow → Prop) (request : WebBreachLabRequest)
    (plan : SegregatedNetworkPlan) (v : VNetSpec) (flow : Flow) (x : Ip.Address) : Prop :=
  (∃ team, v.ownership.teamRef = some team ∧ InTeam plan team x) ∨
  (v.role ≠ .scoring ∧ (∃ d ∈ plan.vnets, d.role = .scoring ∧ d.subnet.Contains x) ∧
    flow.proto = str "tcp" ∧ flow.port = some request.scoringPort) ∨
  ∃ spec, request.egress = some spec ∧ spec.vnetName = v.name ∧
    (∃ dest ∈ spec.allowedDestinations, inCidrs x [dest] = true) ∧ egressPort spec flow

/-- What a segment may send, as declared: never to the management plane; to a reviewed
control-plane path; and else, neither to the control plane nor to another team, what is
permitted. -/
def DeclaredOutbound (egressPort : EgressGatewaySpec → Flow → Prop) (request : WebBreachLabRequest)
    (observation : TargetObservation) (plan : SegregatedNetworkPlan) (v : VNetSpec) (flow : Flow)
    (x : Ip.Address) : Prop :=
  inCidrs x observation.identity.managementCidrs = false ∧
    (ToReviewedPath request flow x ∨
      (inCidrs x request.controlPlaneCidrs = false ∧
        (∀ team, some team ≠ v.ownership.teamRef → ¬InTeam plan team x) ∧
          ToPermitted egressPort request plan v flow x))

/-- The ports an egress approval is claimed to open: any if none is listed, else those listed. -/
def EmptyOrListed (spec : EgressGatewaySpec) (flow : Flow) : Prop :=
  spec.allowedPorts = [] ∨ ListedPort spec flow

/-- The ports an egress approval opens: an empty text in the list also opens all. -/
def OpenOrListed (spec : EgressGatewaySpec) (flow : Flow) : Prop :=
  spec.allowedPorts = [] ∨ [] ∈ spec.allowedPorts ∨ ListedPort spec flow

/-! ## The compiled rules -/

/-- The rules that refuse an outbound flow, by where they stand. -/
theorem Compiled.outbound_refusals (hc : Compiled request observation plan)
    (hflow : flow.direction = .outbound) (bound : Int) :
    (∀ s, PlanRule request plan v s → hit (ipSetCidrs plan) flow x s = true →
      s.verdict ≠ .accept → bound < s.position) ↔
    (inCidrs x observation.identity.managementCidrs = true → bound < 0) ∧
    (inCidrs x request.controlPlaneCidrs = true → bound < 150) ∧
    (∀ (i : Nat) team name, (sortedBy id (teamIpsets plan.ipSets))[i]? = some (team, name) →
      some team ≠ v.ownership.teamRef → InTeam plan team x → bound < 200 + i) ∧
    bound < 8000 := by
  have hset : ∀ {i : Nat} {team name : Str},
      (sortedBy id (teamIpsets plan.ipSets))[i]? = some (team, name) →
        (fieldMatches (ipSetCidrs plan) x (some ('+' :: name)) = true ↔ InTeam plan team x) :=
    fun hi => hc.fieldMatches_team (mem_sortedBy.mp (List.mem_of_getElem? hi))
  constructor
  · intro h
    refine ⟨fun hmanagement => ?_, fun hcontrol => ?_, fun i team name hi hpeer hteam => ?_, ?_⟩
    · refine h managementOutbound .managementOutbound ((hit_outbound hflow).mpr ⟨?_, serves_any⟩)
        (by simp [managementOutbound, rule])
      rw [fieldMatches_ipSet hc.management]
      exact hmanagement
    · have declared : request.controlPlaneCidrs ≠ [] := by
        intro hempty
        simp [hempty, inCidrs] at hcontrol
      refine h controlPlaneDeny (.controlPlaneDeny declared)
        ((hit_outbound hflow).mpr ⟨?_, serves_any⟩) (by simp [controlPlaneDeny, rule])
      rw [fieldMatches_ipSet (hc.controlPlane declared)]
      exact hcontrol
    · have hlt := h (peerOutbound i team name) (.peerOutbound i team name hi hpeer)
        ((hit_outbound hflow).mpr ⟨(hset hi).mpr hteam, serves_any⟩) (by simp [peerOutbound, rule])
      simpa [peerOutbound, rule, posCrossTeamDeny] using hlt
    · exact h catchAllOutbound .catchAllOutbound ((hit_outbound hflow).mpr ⟨rfl, serves_any⟩)
        (by simp [catchAllOutbound, rule])
  · rintro ⟨hmanagement, hcontrol, hpeers, hcatch⟩ s hs hhit hrefuse
    have hdirection := (direction_of_hit hhit).trans hflow
    cases hs with
    | managementOutbound =>
        obtain ⟨hfield, _⟩ := (hit_outbound hflow).mp hhit
        rw [fieldMatches_ipSet hc.management] at hfield
        exact hmanagement hfield
    | controlPlaneDeny declared =>
        obtain ⟨hfield, _⟩ := (hit_outbound hflow).mp hhit
        rw [fieldMatches_ipSet (hc.controlPlane declared)] at hfield
        exact hcontrol hfield
    | peerOutbound i team name hi hpeer =>
        obtain ⟨hfield, _⟩ := (hit_outbound hflow).mp hhit
        have hlt := hpeers i team name hi hpeer ((hset hi).mp hfield)
        simpa [peerOutbound, rule, posCrossTeamDeny] using hlt
    | catchAllOutbound => exact hcatch
    | reviewedPath => exact absurd rfl hrefuse
    | intraTeamOutbound => exact absurd rfl hrefuse
    | scoringOutbound => exact absurd rfl hrefuse
    | egress => exact absurd rfl hrefuse
    | managementInbound => cases hdirection
    | peerInbound => cases hdirection
    | intraTeamInbound => cases hdirection
    | scoringInbound => cases hdirection
    | catchAllInbound => cases hdirection

omit [Unicode] in
theorem serves_egress {port : Str} :
    Serves (if port.isEmpty then none else some (str "tcp"))
      (if port.isEmpty then none else some port) flow ↔
        port = [] ∨ flow.proto = str "tcp" ∧ ∃ p ∈ flow.port, intStr p = port := by
  cases port with
  | nil => simp [Serves]
  | cons c rest => simp [Serves, eq_comm]

omit [Unicode] in
/-- Some egress rule serves the flow exactly when its port is open. -/
theorem exists_egressPort {spec : EgressGatewaySpec} :
    (∃ port ∈ egressPorts spec, port = [] ∨
      flow.proto = str "tcp" ∧ ∃ p ∈ flow.port, intStr p = port) ↔ OpenOrListed spec flow := by
  unfold egressPorts OpenOrListed ListedPort
  cases hports : spec.allowedPorts with
  | nil => simp
  | cons first rest =>
      constructor
      · rintro ⟨port, hport, rfl | ⟨htcp, p, hp, rfl⟩⟩
        · exact .inr (.inl hport)
        · exact .inr (.inr ⟨htcp, p, hp, hport⟩)
      · rintro (hempty | hempty | ⟨htcp, p, hp, hmem⟩)
        · cases hempty
        · exact ⟨[], hempty, .inl rfl⟩
        · exact ⟨intStr p, hmem, .inr ⟨htcp, p, hp, rfl⟩⟩

/-- Where a rule that accepts an outbound flow stands, and why it accepts. -/
theorem Compiled.outbound_accepted (hc : Compiled request observation plan)
    (hflow : flow.direction = .outbound) (hr : PlanRule request plan v r)
    (hhit : hit (ipSetCidrs plan) flow x r = true) (haccept : r.verdict = .accept) :
    0 ≤ r.position ∧ (ToReviewedPath request flow x ∨
      (300 ≤ r.position ∧ ToPermitted OpenOrListed request plan v flow x)) := by
  have hdirection := (direction_of_hit hhit).trans hflow
  refine ⟨r.position_nonneg, ?_⟩
  cases hr with
  | reviewedPath i path declared hpath =>
      obtain ⟨hfield, hproto, hport⟩ := (hit_outbound hflow).mp hhit
      rw [fieldMatches_cidr (destCidr_parses path)] at hfield
      exact .inl ⟨declared, path, List.mem_of_getElem? hpath, hfield, hproto _ rfl, hport _ rfl⟩
  | intraTeamOutbound team name own hget =>
      obtain ⟨hfield, _⟩ := (hit_outbound hflow).mp hhit
      rw [hc.fieldMatches_team (Dict.mem_of_get? hget)] at hfield
      exact .inr ⟨le_refl (300 : Int), .inl ⟨team, own, hfield⟩⟩
  | scoringOutbound d role hd =>
      obtain ⟨hmem, hscoring⟩ := List.mem_filter.mp hd
      obtain ⟨hfield, hproto, hport⟩ := (hit_outbound hflow).mp hhit
      obtain ⟨n, hn, _⟩ := hc.cidr_parses hmem
      rw [fieldMatches_cidr (by rw [hn]; rfl), hc.inCidrs_subnet hmem] at hfield
      obtain ⟨port, hflowPort, hequal⟩ := hport _ rfl
      rw [intStr_inj] at hequal
      subst hequal
      exact .inr ⟨show (300 : Int) ≤ 400 by decide, .inr (.inl ⟨role, ⟨d, hmem, of_decide_eq_true hscoring, hfield⟩,
        (hproto _ rfl).symm, hflowPort⟩)⟩
  | egress spec i j dest port approved here hdest hport =>
      obtain ⟨hfield, hserves⟩ := (hit_outbound hflow).mp hhit
      have hmem := List.mem_of_getElem? hdest
      rw [fieldMatches_cidr (spec.allowedDestinations_valid dest hmem)] at hfield
      refine .inr ⟨?_, .inr (.inr ⟨spec, approved, here, ⟨dest, hmem, hfield⟩, ?_⟩)⟩
      · simp only [egressRule, rule, posEgressAllow]
        omega
      · exact exists_egressPort.mp ⟨port, List.mem_of_getElem? hport, serves_egress.mp hserves⟩
  | managementOutbound => cases haccept
  | controlPlaneDeny => cases haccept
  | peerOutbound => cases haccept
  | catchAllOutbound => cases haccept
  | managementInbound => cases hdirection
  | peerInbound => cases hdirection
  | intraTeamInbound => cases hdirection
  | scoringInbound => cases hdirection
  | catchAllInbound => cases hdirection

/-- A flow to a reviewed path is accepted by a rule before the control-plane deny. -/
theorem Compiled.exists_reviewed (hc : Compiled request observation plan) (hv : v ∈ plan.vnets)
    (hflow : flow.direction = .outbound) (h : ToReviewedPath request flow x) :
    ∃ r, PlanRule request plan v r ∧ hit (ipSetCidrs plan) flow x r = true ∧
      r.verdict = .accept ∧ r.position < 150 := by
  obtain ⟨declared, path, hpath, hfield, hproto, hport⟩ := h
  obtain ⟨i, hi⟩ := List.mem_iff_getElem?.mp hpath
  have hlt := hc.path_lt hv declared hi
  refine ⟨reviewedPathRule i path, .reviewedPath i path declared hi, (hit_outbound hflow).mpr ⟨?_, ?_⟩,
    rfl, ?_⟩
  · rw [fieldMatches_cidr (destCidr_parses path)]
    exact hfield
  · exact ⟨fun _ hq => Option.some.inj hq ▸ hproto, fun _ hd => Option.some.inj hd ▸ hport⟩
  · simp only [reviewedPathRule, rule, posControlPlane]
    omega

/-- A permitted flow is accepted by a rule before the catch-all. -/
theorem Compiled.exists_permitted (hc : Compiled request observation plan) (hv : v ∈ plan.vnets)
    (hflow : flow.direction = .outbound) (h : ToPermitted OpenOrListed request plan v flow x) :
    ∃ r, PlanRule request plan v r ∧ hit (ipSetCidrs plan) flow x r = true ∧
      r.verdict = .accept ∧ r.position < 8000 := by
  rcases h with ⟨team, own, hteam⟩ | ⟨role, ⟨d, hd, hscoring, hcontains⟩, hproto, hport⟩ |
    ⟨spec, approved, here, ⟨dest, hdest, hfield⟩, hopen⟩
  · obtain ⟨⟨_, name⟩, hmem, rfl⟩ := List.mem_map.mp ((hc.teams team).mpr ⟨v, hv, own⟩)
    have hget := Dict.get?_of_mem hc.teams_nodup hmem
    exact ⟨intraTeamOutbound _ name, .intraTeamOutbound _ name own hget,
      (hit_outbound hflow).mpr ⟨(hc.fieldMatches_team hmem).mpr hteam, serves_any⟩, rfl,
      show (300 : Int) < 8000 by decide⟩
  · have hmem : d ∈ plan.vnets.filter fun vnet => vnet.role = .scoring :=
      List.mem_filter.mpr ⟨hd, decide_eq_true hscoring⟩
    obtain ⟨n, hn, _⟩ := hc.cidr_parses hd
    refine ⟨scoringOutbound request.scoringPort d, .scoringOutbound d role hmem,
      (hit_outbound hflow).mpr ⟨?_, ?_⟩, rfl, show (400 : Int) < 8000 by decide⟩
    · rw [fieldMatches_cidr (by rw [hn]; rfl), hc.inCidrs_subnet hd]
      exact hcontains
    · refine ⟨fun _ hq => Option.some.inj hq ▸ hproto.symm, fun _ hd => ?_⟩
      exact ⟨request.scoringPort, hport, Option.some.inj hd⟩
  · obtain ⟨port, hportMem, hserves⟩ := exists_egressPort.mpr hopen
    obtain ⟨i, hi⟩ := List.mem_iff_getElem?.mp hdest
    obtain ⟨j, hj⟩ := List.mem_iff_getElem?.mp hportMem
    have hlt := hc.egress_lt hv approved here hi hj
    refine ⟨egressRule spec i j dest port, .egress spec i j dest port approved here hi hj,
      (hit_outbound hflow).mpr ⟨?_, serves_egress.mpr hserves⟩, rfl, ?_⟩
    · rw [fieldMatches_cidr (spec.allowedDestinations_valid dest hdest)]
      exact hfield
    · simp only [posEgressAllow, posCatchAll] at hlt
      simp only [egressRule, rule, posEgressAllow]
      omega

/-- The compiled outbound policy is the declared one, where an egress approval without ports or with
an empty port opens every service. -/
theorem compileWebBreachLab_outbound_policy {ledger : AllocationLedger}
    (hcompile : compileWebBreachLab request observation AllocationLedger.empty =
      .ok (.plan plan, ledger)) (hv : v ∈ plan.vnets) {dest : Str} {x : Ip.Address}
    (hx : Ip.ipAddress dest = some x) (port : Option Int) (proto : Str) :
    evaluateFlow plan v.name ⟨dest, port, proto, .outbound⟩ = .ok .accept ↔
      DeclaredOutbound OpenOrListed request observation plan v ⟨dest, port, proto, .outbound⟩ x := by
  have hc := compiled_of_compileWebBreachLab hcompile
  have hflow : (⟨dest, port, proto, .outbound⟩ : Flow).direction = .outbound := rfl
  rw [evaluateFlow_accept_iff hc hv hx]
  simp only [hc.outbound_refusals hflow]
  unfold DeclaredOutbound
  constructor
  · rintro ⟨r, hr, hhit, haccept, hmanagement, hcontrol, hpeers, _⟩
    obtain ⟨hnonneg, hwhy⟩ := hc.outbound_accepted hflow hr hhit haccept
    refine ⟨Bool.eq_false_iff.mpr fun h => absurd (hmanagement h) (by omega), ?_⟩
    refine hwhy.imp_right fun ⟨hlate, hpermitted⟩ => ⟨?_, fun team hpeer hteam => ?_, hpermitted⟩
    · exact Bool.eq_false_iff.mpr fun h => absurd (hcontrol h) (by omega)
    · obtain ⟨w, hw, hwteam, _⟩ := id hteam
      obtain ⟨i, name, hi⟩ := hc.exists_index hw hwteam
      have hbound := hc.team_lt hi
      have hlt := hpeers i team name hi hpeer hteam
      omega
  · rintro ⟨hmanagement, hreviewed | ⟨hcontrol, hpeers, hpermitted⟩⟩
    · obtain ⟨r, hr, hhit, haccept, hlt⟩ := hc.exists_reviewed hv hflow hreviewed
      refine ⟨r, hr, hhit, haccept, ?_, fun _ => hlt, fun i _ _ _ _ _ => ?_, by omega⟩
      · simp [hmanagement]
      · omega
    · obtain ⟨r, hr, hhit, haccept, hlt⟩ := hc.exists_permitted hv hflow hpermitted
      refine ⟨r, hr, hhit, haccept, ?_, ?_, fun i team name _ hpeer hteam => ?_, hlt⟩
      · simp [hmanagement]
      · simp [hcontrol]
      · exact absurd hteam (hpeers team hpeer)

omit [Unicode] in
theorem sample_outbound_policy :
    ∃ plan ledger, @compileWebBreachLab Unicode.ascii (sampleRequest none) sampleObservation
      AllocationLedger.empty = .ok (.plan plan, ledger) ∧ ∃ v ∈ plan.vnets,
      (@evaluateFlow Unicode.ascii plan v.name ⟨str "10.0.0.1", some 443, str "tcp", .outbound⟩ =
          .ok .accept ↔
        @DeclaredOutbound Unicode.ascii OpenOrListed (sampleRequest none) sampleObservation plan v
          ⟨str "10.0.0.1", some 443, str "tcp", .outbound⟩ ⟨.v4, 167772161, by decide⟩) := by
  let _ := Unicode.ascii
  obtain ⟨plan, ledger, hcompile, _⟩ := exists_of_compiledWith sample_compiles
  obtain ⟨v, hv, _⟩ := (compiled_of_compileWebBreachLab hcompile).exists_team
  exact ⟨plan, ledger, hcompile, v, hv,
    compileWebBreachLab_outbound_policy hcompile hv (by with_unfolding_all decide) (some 443) (str "tcp")⟩

/-- An approval for one destination whose only port is the empty text. -/
def sampleEgress : EgressGatewaySpec where
  vnetName := str "t1atk"
  allowedDestinations := [str "203.0.113.0/24"]
  allowedPorts := [[]]
  ownership := sampleOwnership
  approvalReference := str "a"
  approvalReference_ne := by with_unfolding_all decide
  allowedDestinations_ne := by decide
  allowedDestinations_valid := by with_unfolding_all decide

/-- The approved segment lets a datagram out, and no subnet of the plan holds its destination. -/
def letsDatagramOut (plan : SegregatedNetworkPlan) : Bool :=
  (plan.vnets.any fun v => v.name = str "t1atk" && match @evaluateFlow Unicode.ascii plan v.name
      ⟨str "203.0.113.5", some 53, str "udp", .outbound⟩ with
    | .ok .accept => true
    | _ => false) &&
  plan.vnets.all fun w => !inCidrs ⟨.v4, 3405803781, by decide⟩ [w.subnet.cidr]

omit [Unicode] in
/-- With an empty port text the approval opens services it does not list. -/
theorem sample_empty_port_opens_udp :
    ∃ plan ledger, @compileWebBreachLab Unicode.ascii (sampleRequest (some sampleEgress))
      sampleObservation AllocationLedger.empty = .ok (.plan plan, ledger) ∧ ∃ v ∈ plan.vnets,
      @evaluateFlow Unicode.ascii plan v.name ⟨str "203.0.113.5", some 53, str "udp", .outbound⟩ =
          .ok .accept ∧
        ¬@DeclaredOutbound Unicode.ascii EmptyOrListed (sampleRequest (some sampleEgress))
          sampleObservation plan v ⟨str "203.0.113.5", some 53, str "udp", .outbound⟩
          ⟨.v4, 3405803781, by decide⟩ := by
  let _ := Unicode.ascii
  obtain ⟨plan, ledger, hcompile, hout⟩ := exists_of_compiledWith (show compiledWith
    (@compileWebBreachLab Unicode.ascii (sampleRequest (some sampleEgress)) sampleObservation
      AllocationLedger.empty) letsDatagramOut = true by decide +kernel)
  have hc := compiled_of_compileWebBreachLab hcompile
  simp only [letsDatagramOut, Bool.and_eq_true, List.any_eq_true, List.all_eq_true,
    decide_eq_true_eq, Bool.not_eq_true'] at hout
  obtain ⟨⟨v, hv, hname, hmatch⟩, houtside⟩ := hout
  have hcontains : ∀ w ∈ plan.vnets, ¬w.subnet.Contains ⟨.v4, 3405803781, by decide⟩ := by
    intro w hw h
    have := houtside w hw
    rw [(hc.inCidrs_subnet hw).mpr h] at this
    cases this
  refine ⟨plan, ledger, hcompile, v, hv, ?_, ?_⟩
  · split at hmatch
    · assumption
    · cases hmatch
  · rintro ⟨_, ⟨hdeclared, _⟩ | ⟨_, _, ⟨_, _, w, hw, _, h⟩ | ⟨_, ⟨w, hw, _, h⟩, _⟩ |
      ⟨spec, hspec, _, _, hempty | ⟨htcp, _⟩⟩⟩⟩
    · exact hdeclared rfl
    · exact hcontains w hw h
    · exact hcontains w hw h
    · cases hspec
      exact absurd hempty (by decide)
    · exact absurd htcp (by with_unfolding_all decide)

end

end Secp.Proxmox
