import Secp.Proxmox.OutboundPolicy
import Secp.Proxmox.Workload

/-!
# The isolation verdict

`verifyIsolation` samples the compiled policy: one host of every subnet, a few ports, one protocol. What
its findings are taken to prove is about every address, port and protocol. The policy of a compiled plan
says when they do: the flows it lets into another team are those of reviewed paths, which stand above
the denies wherever they lead.
-/

namespace Secp.Proxmox

open Secp.Python Secp.Logic

/-! ## Findings -/

inductive IsolationProperty where
  | crossTeamBlocked
  | managementPlaneUnreachable
  | controlPlaneUnreachable
  | noDefaultPublicRoute
  | defaultDenyPresent
  | scoringReachable
  deriving DecidableEq

structure IsolationFinding where
  prop : IsolationProperty
  holds : Bool
  detail : Str
  deriving DecidableEq

/-- A finding holds when nothing speaks against it. -/
def isolationFinding (prop : IsolationProperty) (passText : Str) (violations : List Str) :
    IsolationFinding :=
  ⟨prop, violations.isEmpty,
    if violations.isEmpty then passText else join (str "; ") violations⟩

def publicProbeAddresses : List Str :=
  [str "192.0.2.53", str "192.0.2.200", str "198.51.100.10"]

/-- Everything the turns of a loop report. -/
def gather {α : Type} (xs : List α) (report : α → Except Raised (List Str)) :
    Except Raised (List Str) := do
  pure (← xs.mapM report).flatten

section
variable [Unicode]

/-! ## Probing the compiled rules -/

/-- `evaluate_flow` with its default protocol and direction. -/
def sampleFlow (plan : SegregatedNetworkPlan) (source target : Str) (port : Int) :
    Except Raised FirewallVerdict :=
  evaluateFlow plan source ⟨target, some port, str "tcp", .outbound⟩

/-- Report a flow that is accepted. -/
def reportAccepted (plan : SegregatedNetworkPlan) (source target : Str) (port : Int)
    (message : Str) : Except Raised (List Str) := do
  let verdict ← sampleFlow plan source target port
  pure (if verdict = .accept then [message] else [])

/-- `f"{target}:{port}"`. -/
def endpointText (target : Str) (port : Int) : Str := target ++ [':'] ++ intStr port

def crossTeamPorts (request : WebBreachLabRequest) : List Int :=
  [request.scoringPort, 22, 80, 443, 8080]

def crossTeamViolations (plan : SegregatedNetworkPlan) (request : WebBreachLabRequest) :
    Except Raised (List Str) :=
  gather plan.vnets fun source =>
    if source.ownership.teamRef = none then pure []
    else gather plan.vnets fun dest =>
      if dest.ownership.teamRef = none ∨ dest.ownership.teamRef = source.ownership.teamRef then
        pure []
      else do
        let target ← firstHostText dest.subnet.cidr
        gather (crossTeamPorts request) fun port =>
          reportAccepted plan source.name target port (source.name ++ str " -> " ++ dest.name ++
            str " (" ++ endpointText target port ++ str ") evaluates to ACCEPT")

def managementViolations (plan : SegregatedNetworkPlan) (observation : TargetObservation) :
    Except Raised (List Str) :=
  gather plan.vnets fun source =>
    gather observation.identity.managementCidrs fun cidr => do
      let target ← firstHostText cidr
      gather [22, 443, 8006] fun port =>
        reportAccepted plan source.name target port
          (source.name ++ str " -> " ++ endpointText target port ++ str " evaluates to ACCEPT")

/-- The hosts of a control-plane network that are sampled. -/
def sampledHosts (network : Ip.Network) : List Ip.Address :=
  match network.hosts.take 4 with
  | [] => [network.networkAddress]
  | hosts => hosts

/-- Whether some reviewed path names the host and the port. -/
def isReviewed (request : WebBreachLabRequest) (host : Ip.Address) (port : Int) : Bool :=
  request.reviewedControlPlanePaths.any fun path =>
    inCidrs host [path.destCidr] && intStr port = path.dport

def controlViolations (plan : SegregatedNetworkPlan) (request : WebBreachLabRequest) :
    Except Raised (List Str) :=
  gather plan.vnets fun source =>
    gather request.controlPlaneCidrs fun cidr => do
      let network ← orValueError (Ip.ipNetwork false cidr)
      gather (sampledHosts network) fun host =>
        gather [22, 443, 5432, 8000] fun port => do
          let verdict ← sampleFlow plan source.name host.text port
          pure (if verdict = .accept ∧ isReviewed request host port = false then
            [source.name ++ str " -> " ++ endpointText host.text port ++
              str " evaluates to ACCEPT but is not a reviewed path"] else [])

/-- Whether an approved egress covers the address. -/
def inApprovedEgress (plan : SegregatedNetworkPlan) (address : Str) : Except Raised Bool := do
  let target ← orValueError (Ip.ipAddress address)
  anyContains target ((plan.egress.map EgressGatewaySpec.allowedDestinations).getD [])

def publicViolations (plan : SegregatedNetworkPlan) : Except Raised (List Str) :=
  gather plan.vnets fun source =>
    gather publicProbeAddresses fun address => do
      let approved ← inApprovedEgress plan address
      gather [80, 443] fun port => do
        let verdict ← sampleFlow plan source.name address port
        pure (if verdict = .accept ∧ approved = false then
          [source.name ++ str " -> " ++ endpointText address port ++
            str " evaluates to ACCEPT without approval"] else [])

/-- The segments that are marked routed. -/
def routedSegments (plan : SegregatedNetworkPlan) : List Str :=
  (plan.vnets.filter fun vnet => vnet.subnet.routed).map fun vnet =>
    vnet.name ++ str " is marked routed"

def scoringViolations (plan : SegregatedNetworkPlan) (request : WebBreachLabRequest) :
    Except Raised (List Str) := do
  let scoring := plan.vnets.filter fun vnet => vnet.role = .scoring
  let unreachable ← gather plan.vnets fun source =>
    if source.role = .scoring then pure []
    else gather scoring fun scoringVnet => do
      let target ← firstHostText scoringVnet.subnet.cidr
      let verdict ← sampleFlow plan source.name target request.scoringPort
      pure (if verdict ≠ .accept then
        [source.name ++ str " cannot reach scoring at " ++
          endpointText target request.scoringPort] else [])
  pure ((if scoring.isEmpty then [str "no scoring segment was compiled"] else []) ++ unreachable)

/-- `default_deny_present`, whose detail lists the groups in one text. -/
def defaultDenyFinding (plan : SegregatedNetworkPlan) : IsolationFinding :=
  let notDeny := (plan.securityGroups.filter fun group => !group.defaultPolicyIsDeny).map
    SecurityGroupSpec.name
  ⟨.defaultDenyPresent, notDeny.isEmpty,
    if notDeny.isEmpty then
      str "every security group ends in a catch-all drop in both directions"
    else str "groups without a terminal default deny: " ++ join (str ", ") notDeny⟩

/-- `verify_isolation`: one finding for each property. -/
def verifyIsolation (plan : SegregatedNetworkPlan) (observation : TargetObservation)
    (request : WebBreachLabRequest) : Except Raised (List IsolationFinding) := do
  let cross ← crossTeamViolations plan request
  let management ← managementViolations plan observation
  let control ← controlViolations plan request
  let publicRoutes ← publicViolations plan
  let scoring ← scoringViolations plan request
  pure [
    isolationFinding .crossTeamBlocked
      (str "no team segment reaches another team's segment on any probed port") cross,
    isolationFinding .managementPlaneUnreachable
      (str "no segment reaches the Proxmox management plane") management,
    isolationFinding .controlPlaneUnreachable
      (str "control-plane interfaces are reachable only by the exact reviewed paths") control,
    isolationFinding .noDefaultPublicRoute
      (str "no segment has a route to public networks and none is marked routed")
      (publicRoutes ++ routedSegments plan),
    defaultDenyFinding plan,
    isolationFinding .scoringReachable
      (str "every team segment reaches the scoring boundary on tcp/" ++
        intStr request.scoringPort) scoring]

/-! ## What the verdict is taken to prove -/

/-- No flow leads from a segment of one team into a subnet of another, and into a control-plane network
only the flows of the reviewed paths do. -/
structure Isolates (request : WebBreachLabRequest) (plan : SegregatedNetworkPlan) : Prop where
  across : ∀ s ∈ plan.vnets, ∀ d ∈ plan.vnets, ∀ team team',
    s.ownership.teamRef = some team → d.ownership.teamRef = some team' → team ≠ team' →
    ∀ address x, Ip.ipAddress address = some x → d.subnet.Contains x → ∀ port proto,
      evaluateFlow plan s.name ⟨address, port, proto, .outbound⟩ ≠ .ok .accept
  controlPlane : ∀ s ∈ plan.vnets, ∀ address x, Ip.ipAddress address = some x →
    inCidrs x request.controlPlaneCidrs = true → ∀ port proto,
      evaluateFlow plan s.name ⟨address, port, proto, .outbound⟩ = .ok .accept →
      ∃ path ∈ request.reviewedControlPlanePaths, inCidrs x [path.destCidr] = true ∧
        path.proto = proto ∧ ∃ p ∈ port, intStr p = path.dport

/-- The flow to a VNet that the cross-team finding samples: its first host, one of five ports, tcp. -/
def Sampled (request : WebBreachLabRequest) (d : VNetSpec) (x : Ip.Address) (port : Int)
    (proto : Str) : Prop :=
  proto = str "tcp" ∧ port ∈ crossTeamPorts request ∧
    ∃ target, firstHostText d.subnet.cidr = .ok target ∧ Ip.ipAddress target = some x

/-- A reviewed path that the compiler turned into a rule, on a port some flow has, leads to a host of a
team that the sample misses and that no management network covers. -/
def ReviewsUnsampledHost (request : WebBreachLabRequest) (observation : TargetObservation)
    (plan : SegregatedNetworkPlan) : Prop :=
  request.controlPlaneCidrs ≠ [] ∧ ∃ path ∈ request.reviewedControlPlanePaths,
    ∃ port : Int, intStr port = path.dport ∧ ∃ d ∈ plan.vnets, d.ownership.teamRef ≠ none ∧
      ∃ x, d.subnet.Contains x ∧ inCidrs x [path.destCidr] = true ∧
        inCidrs x observation.identity.managementCidrs = false ∧
        ¬Sampled request d x port path.proto

/-! ## What the findings say -/

omit [Unicode] in
theorem gather_eq_nil {α : Type} {xs : List α} {report : α → Except Raised (List Str)}
    (h : gather xs report = .ok []) : ∀ x ∈ xs, report x = .ok [] := by
  obtain ⟨reports, hreports, h⟩ := except_bind_eq_ok.mp h
  intro x hx
  obtain ⟨said, hsaid, hx⟩ := exists_of_mapM_eq_ok hreports hx
  have hnothing : reports.flatten = [] := Except.ok.inj h
  rw [hx, List.flatten_eq_nil_iff.mp hnothing said hsaid]

/-- No finding but holds, so none of the sampled cross-team flows is accepted. -/
theorem sampled_refused {request : WebBreachLabRequest} {observation : TargetObservation}
    {plan : SegregatedNetworkPlan} {findings : List IsolationFinding}
    (hfindings : verifyIsolation plan observation request = .ok findings)
    (hholds : ∀ f ∈ findings, f.holds = true) {s d : VNetSpec} (hs : s ∈ plan.vnets)
    (hd : d ∈ plan.vnets) {team team' : Str} (hteam : s.ownership.teamRef = some team)
    (hteam' : d.ownership.teamRef = some team') (hne : team ≠ team') {target : Str}
    (htarget : firstHostText d.subnet.cidr = .ok target) {port : Int}
    (hport : port ∈ crossTeamPorts request) : sampleFlow plan s.name target port ≠ .ok .accept := by
  obtain ⟨cross, hcross, h⟩ := except_bind_eq_ok.mp hfindings
  obtain ⟨management, _, h⟩ := except_bind_eq_ok.mp h
  obtain ⟨control, _, h⟩ := except_bind_eq_ok.mp h
  obtain ⟨publicRoutes, _, h⟩ := except_bind_eq_ok.mp h
  obtain ⟨scoring, _, h⟩ := except_bind_eq_ok.mp h
  cases h
  have hnone : cross = [] := List.isEmpty_iff.mp (hholds _ List.mem_cons_self)
  subst hnone
  have hsource := gather_eq_nil hcross s hs
  rw [if_neg (by simp [hteam])] at hsource
  have hdest := gather_eq_nil hsource d hd
  have hother : ¬(d.ownership.teamRef = none ∨ d.ownership.teamRef = s.ownership.teamRef) := by
    simp [hteam, hteam', Ne.symm hne]
  rw [if_neg hother, htarget] at hdest
  intro haccept
  obtain ⟨verdict, hverdict, hreport⟩ := except_bind_eq_ok.mp (gather_eq_nil hdest port hport)
  cases haccept.symm.trans hverdict
  cases hreport

variable {request : WebBreachLabRequest} {observation : TargetObservation}
  {plan : SegregatedNetworkPlan} {ledger : AllocationLedger}

/-- Only along a reviewed path does a flow enter another team or a control-plane network. -/
theorem reviewed_of_accept
    (hcompile : compileWebBreachLab request observation AllocationLedger.empty =
      .ok (.plan plan, ledger)) {s : VNetSpec} (hs : s ∈ plan.vnets) {address : Str} {x : Ip.Address}
    (hx : Ip.ipAddress address = some x) {port : Option Int} {proto : Str}
    (hguarded : inCidrs x request.controlPlaneCidrs = true ∨
      ∃ team, some team ≠ s.ownership.teamRef ∧ InTeam plan team x)
    (haccept : evaluateFlow plan s.name ⟨address, port, proto, .outbound⟩ = .ok .accept) :
    inCidrs x observation.identity.managementCidrs = false ∧
      ToReviewedPath request ⟨address, port, proto, .outbound⟩ x := by
  obtain ⟨hmanagement, hwhy⟩ :=
    (compileWebBreachLab_outbound_policy hcompile hs hx port proto).mp haccept
  refine ⟨hmanagement, hwhy.resolve_right ?_⟩
  rintro ⟨hcontrol, hpeers, _⟩
  rcases hguarded with hguarded | ⟨team, hne, hteam⟩
  · rw [hguarded] at hcontrol
    cases hcontrol
  · exact hpeers team hne hteam

/-- Of a compiled plan whose findings all hold, no flow enters another team exactly if no reviewed path
leads to a host of a team that the sample misses. -/
theorem isolationVerdict_sound_iff {findings : List IsolationFinding}
    (hcompile : compileWebBreachLab request observation AllocationLedger.empty =
      .ok (.plan plan, ledger))
    (hfindings : verifyIsolation plan observation request = .ok findings)
    (hholds : ∀ f ∈ findings, f.holds = true) :
    Isolates request plan ↔ ¬ReviewsUnsampledHost request observation plan := by
  have hc := compiled_of_compileWebBreachLab hcompile
  constructor
  · rintro hisolates ⟨declared, path, hpath, port, hport, d, hd, howned, x, hinside, hdest,
      hmanagement, _⟩
    obtain ⟨team, hteam⟩ := Option.ne_none_iff_exists'.mp howned
    -- some other team has a segment, and it may use the path as well
    obtain ⟨s, hs, other, hother, hne⟩ : ∃ s ∈ plan.vnets, ∃ other,
        s.ownership.teamRef = some other ∧ other ≠ team := by
      obtain ⟨v, hv, w, hw, first, second, hfirst, hsecond, hdiffer⟩ := hc.two_teams
      by_cases hsame : first = team
      · exact ⟨w, hw, second, hsecond, fun h => hdiffer (hsame.trans h.symm)⟩
      · exact ⟨v, hv, first, hfirst, hsame⟩
    have hread : Ip.ipAddress x.text = some x := by
      obtain ⟨n, hversion, htext⟩ := hc.cidrs d hd
      obtain ⟨m, hm, hmem⟩ := hinside
      rw [htext, Ip.ipNetwork_text true hversion] at hm
      cases hm
      exact Ip.ipAddress_text ((Ip.mem_def.mp hmem).1.trans hversion)
    refine hisolates.across s hs d hd other team hother hteam hne x.text x hread hinside (some port)
      path.proto ?_
    refine (compileWebBreachLab_outbound_policy hcompile hs hread (some port) path.proto).mpr
      ⟨hmanagement, .inl ⟨declared, path, hpath, hdest, rfl, port, rfl, hport⟩⟩
  · intro hnone
    constructor
    · intro s hs d hd team team' hteam hteam' hne address x hx hinside port proto haccept
      have hguarded : ∃ other, some other ≠ s.ownership.teamRef ∧ InTeam plan other x :=
        ⟨team', by simp [hteam, Ne.symm hne], d, hd, hteam', hinside⟩
      obtain ⟨hmanagement, declared, path, hpath, hdest, hproto, p, hp, hport⟩ :=
        reviewed_of_accept hcompile hs hx (.inr hguarded) haccept
      have hsampled : Sampled request d x p path.proto := by
        by_contra hmissed
        exact hnone ⟨declared, path, hpath, p, hport, d, hd, by simp [hteam'], x, hinside, hdest,
          hmanagement, hmissed⟩
      obtain ⟨htcp, hlisted, target, htarget, hread⟩ := hsampled
      refine sampled_refused hfindings hholds hs hd hteam hteam' hne htarget hlisted ?_
      exact (compileWebBreachLab_outbound_policy hcompile hs hread (some p) (str "tcp")).mpr
        ⟨hmanagement, .inl ⟨declared, path, hpath, hdest, htcp, p, rfl, hport⟩⟩
    · intro s hs address x hx hcontrol port proto haccept
      obtain ⟨_, _, path, hpath, hdest, hproto, p, hp, hport⟩ :=
        reviewed_of_accept hcompile hs hx (.inl hcontrol) haccept
      exact ⟨path, hpath, hdest, hproto, p, hp, hport⟩

end

/-! ## Two sample labs -/

/-- Every finding about the plan holds. -/
def passesVerdict (request : @WebBreachLabRequest Unicode.ascii) (plan : SegregatedNetworkPlan) :
    Bool :=
  match @verifyIsolation Unicode.ascii plan sampleObservation request with
  | .ok findings => findings.all IsolationFinding.holds
  | .error _ => false

theorem findings_of_passesVerdict {request : @WebBreachLabRequest Unicode.ascii}
    {plan : SegregatedNetworkPlan} (h : passesVerdict request plan = true) :
    ∃ findings, @verifyIsolation Unicode.ascii plan sampleObservation request = .ok findings ∧
      ∀ f ∈ findings, f.holds = true := by
  unfold passesVerdict at h
  split at h
  · rename_i findings hfindings
    exact ⟨findings, hfindings, List.all_eq_true.mp h⟩
  · cases h

/-- Without control-plane networks the verdict on the sample lab is sound. -/
theorem sample_verdict_sound :
    ∃ plan ledger findings, @compileWebBreachLab Unicode.ascii (sampleRequest none)
      sampleObservation AllocationLedger.empty = .ok (.plan plan, ledger) ∧
      @verifyIsolation Unicode.ascii plan sampleObservation (sampleRequest none) = .ok findings ∧
      (∀ f ∈ findings, f.holds = true) ∧ @Isolates Unicode.ascii (sampleRequest none) plan := by
  let _ := Unicode.ascii
  obtain ⟨plan, ledger, hcompile, hpasses⟩ := exists_of_compiledWith (show compiledWith
    (@compileWebBreachLab Unicode.ascii (sampleRequest none) sampleObservation
      AllocationLedger.empty) (passesVerdict (sampleRequest none)) = true by decide +kernel)
  obtain ⟨findings, hfindings, hholds⟩ := findings_of_passesVerdict hpasses
  refine ⟨plan, ledger, findings, hcompile, hfindings, hholds, ?_⟩
  refine (isolationVerdict_sound_iff hcompile hfindings hholds).mpr ?_
  rintro ⟨hdeclared, _⟩
  exact hdeclared rfl

/-- A path to the second host of a segment of the second team. -/
def peerPath : @ControlPlaneReviewedPath Unicode.ascii :=
  let _ := Unicode.ascii
  ⟨str "10.0.0.14", str "tcp", str "9999", str "j", str "a", by with_unfolding_all decide, by with_unfolding_all decide,
    by with_unfolding_all decide⟩

/-- The sample lab with a control-plane network and that path reviewed. -/
def reviewedRequest : @WebBreachLabRequest Unicode.ascii :=
  let _ := Unicode.ascii
  { sampleRequest none with
    controlPlaneCidrs := [str "198.51.100.0/30"]
    reviewedControlPlanePaths := [peerPath] }

/-- All findings about the plan hold, and a segment of the first team reaches the host. -/
def passesYetReaches (plan : SegregatedNetworkPlan) : Bool :=
  passesVerdict reviewedRequest plan &&
    plan.vnets.any fun s => s.ownership.teamRef = some (str "x") && plan.vnets.any fun d =>
      d.ownership.teamRef = some (str "y") && inCidrs ⟨.v4, 167772174, by decide⟩ [d.subnet.cidr] &&
        match @evaluateFlow Unicode.ascii plan s.name
          ⟨str "10.0.0.14", some 9999, str "tcp", .outbound⟩ with
        | .ok .accept => true
        | _ => false

/-- The verdict passes a plan in which one team reaches another. -/
theorem sample_verdict_unsound :
    ∃ plan ledger findings, @compileWebBreachLab Unicode.ascii reviewedRequest sampleObservation
      AllocationLedger.empty = .ok (.plan plan, ledger) ∧
      @verifyIsolation Unicode.ascii plan sampleObservation reviewedRequest = .ok findings ∧
      (∀ f ∈ findings, f.holds = true) ∧ ¬@Isolates Unicode.ascii reviewedRequest plan := by
  let _ := Unicode.ascii
  obtain ⟨plan, ledger, hcompile, hout⟩ := exists_of_compiledWith (show compiledWith
    (@compileWebBreachLab Unicode.ascii reviewedRequest sampleObservation
      AllocationLedger.empty) passesYetReaches = true by decide +kernel)
  simp only [passesYetReaches, Bool.and_eq_true, List.any_eq_true, decide_eq_true_eq] at hout
  obtain ⟨hpasses, s, hs, hteam, d, hd, ⟨hteam', hinside⟩, hmatch⟩ := hout
  obtain ⟨findings, hfindings, hholds⟩ := findings_of_passesVerdict hpasses
  refine ⟨plan, ledger, findings, hcompile, hfindings, hholds, fun hisolates => ?_⟩
  refine hisolates.across s hs d hd _ _ hteam hteam' (by with_unfolding_all decide) (str "10.0.0.14") _
    (by with_unfolding_all decide)
    (((compiled_of_compileWebBreachLab hcompile).inCidrs_subnet hd).mp hinside) (some 9999)
    (str "tcp") ?_
  split at hmatch
  · assumption
  · cases hmatch

end Secp.Proxmox
