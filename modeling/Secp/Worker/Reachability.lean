import Secp.Logic.StateExcept
import Secp.Python.IpaddressText
import Secp.Worker.Verification

/-!
# Reachability by probes

Isolation is never inferred from configuration: the denial checks ask a prober about every path that
must not exist, and a check whose probes include one that established nothing is unobserved. The log
of a verification is what it asked and what it was answered.
-/

namespace Secp.Worker

open Secp.Python Secp.Python.Ip Secp.Logic

/-! ## Probing -/

/-- What a prober answers to its n-th question: a test from a segment to an address and a port. -/
abbrev SegmentProber := Nat → Str → Str → Int → ProbeVerdict

/-- A probe that was executed, for which check, and its answer. -/
structure Asked where
  check : VerificationCheck
  fromSegment : Str
  toAddress : Str
  port : Int
  verdict : ProbeVerdict
  deriving DecidableEq

/-- A verification reads payloads and asks questions. -/
abbrev Verifying := Program (List Asked) PayloadError

def SegmentProber.probe (prober : SegmentProber) (check : VerificationCheck)
    (fromSegment toAddress : Str) (port : Int) : Verifying ProbeVerdict := do
  let log ← get
  let verdict := prober log.length fromSegment toAddress port
  set (log ++ [⟨check, fromSegment, toAddress, port, verdict⟩])
  pure verdict

/-- `f"{segment} -> {address}:{port}"`. -/
def pathText (arrow segment address : Str) (port : Int) : Str :=
  segment ++ arrow ++ address ++ str ":" ++ intStr port

/-- The two lists a check collects from its probes. -/
structure ProbeLists where
  unknown : List Str := []
  failures : List Str := []

/-- One answer. -/
def ProbeLists.record (lists : ProbeLists) (fails : ProbeVerdict) (unknownText failureText : Str)
    (verdict : ProbeVerdict) : ProbeLists :=
  if verdict = .unknown then { lists with unknown := lists.unknown ++ [unknownText] }
  else if verdict = fails then { lists with failures := lists.failures ++ [failureText] }
  else lists

/-- The finding over the two lists. -/
def ProbeLists.finding (lists : ProbeLists) (check : VerificationCheck)
    (unknownText passText : Str) : CheckFinding :=
  findingFrom check lists.unknown.isEmpty lists.failures.isEmpty
    (sweepDetail lists.unknown.length unknownText lists.failures passText)

/-- One probe of a path that must not exist. -/
def denialProbe (prober : SegmentProber) (check : VerificationCheck) (lists : ProbeLists)
    (path : Str × Str × Int) : Verifying ProbeLists := do
  let (segment, address, port) := path
  let verdict ← prober.probe check segment address port
  pure (lists.record .reachable (pathText (str " -> ") segment address port)
    (pathText (str " REACHED ") segment address port) verdict)

/-- `denial_check`: every one of the probes must come back blocked. -/
def denialCheck (prober : SegmentProber) (check : VerificationCheck)
    (probes : List (Str × Str × Int)) (label : Str) : Verifying CheckFinding := do
  let lists ← probes.foldlM (denialProbe prober check) {}
  pure (lists.finding check (str " probe(s) returned unknown; " ++ label ++ str " unproved")
    (label ++ str " holds"))

/-! ## Teams -/

/-- A team reference as a dictionary key. -/
inductive TeamKey where
  | text (s : Str)
  | number (n : Int)
  deriving DecidableEq, Ord

def teamKey : Json → Except PayloadError TeamKey
  | .str s => .ok (.text s)
  | .int n => .ok (.number n)
  | .bool b => .ok (.number (if b then 1 else 0))
  | _ => .error .typeError

def TeamKey.isText : TeamKey → Bool
  | .text _ => true
  | .number _ => false

/-- The VNets of every team, and those of the scoring segment. -/
structure Segments where
  teams : Dict TeamKey (List Json) := []
  scoring : List Json := []

def Segments.add (segments : Segments) (vnet : Json) : Except PayloadError Segments := do
  let ownership := (← vnet.getOr (str "ownership") .null).orElse (.obj [])
  let team ← ownership.getOr (str "team_ref") .null
  let role ← vnet.getOr (str "role") .null
  if role = .str (str "scoring") then
    pure { segments with scoring := segments.scoring ++ [vnet] }
  else if team.truthy then do
    let key ← teamKey team
    pure { segments with
      teams := segments.teams.set key ((segments.teams.get? key).getD [] ++ [vnet]) }
  else pure segments

def segmentsOf (desiredVNets : List Json) : Except PayloadError Segments :=
  desiredVNets.foldlM Segments.add {}

/-- `sorted(teams.items())`: texts and numbers do not compare. -/
def sortedTeams (teams : Dict TeamKey (List Json)) :
    Except PayloadError (List (TeamKey × List Json)) :=
  if teams.all (fun team => team.1.isText) || teams.all (fun team => !team.1.isText) then
    pure (sortedBy Prod.fst teams)
  else throw .typeError

section
variable [Unicode]

/-- `_first_host`. -/
def firstHost (cidr : Str) : Except PayloadError Str :=
  match ipNetwork false cidr with
  | some network => .ok network.firstHost.text
  | none => .error .valueError

/-- The addresses of the guests on every VNet. -/
def guestAddresses (desiredGuests : List Json) : Except PayloadError (Dict Str (List Str)) :=
  desiredGuests.foldlM (fun found guest => do
    let nics ← (← guest.getOr (str "nics") (.arr [])).elements
    nics.foldlM (fun found nic => do
      let name := (← nic.getItem (str "vnet_name")).text
      let address := (← (← guest.getItem (str "address")).getItem (str "published_address")).text
      pure (Dict.set found name ((Dict.get? found name).getD [] ++ [address]))) found) []

/-- `str(vnet["name"])`. -/
def nameOf (vnet : Json) : Except PayloadError Str := do
  pure (← vnet.getItem (str "name")).text

/-- `sorted(by_name)`. -/
def segmentNames (desiredVNets : List Json) : Except PayloadError (List Str) := do
  pure (sortedBy id (← desiredVNets.mapM nameOf).dedup)

/-- `_first_host(str(vnet["subnet"]["cidr"]))`. -/
def firstHostOf (vnet : Json) : Except PayloadError Str := do
  firstHost (← (← vnet.getItem (str "subnet")).getItem (str "cidr")).text

/-- The first VNet of a role. -/
def withRole (vnets : List Json) (role : Str) : Option Json :=
  vnets.find? fun vnet => vnet.field (str "role") = .str role

/-! ## Paths that must exist -/

/-- The attacker of a team must reach its target. -/
def probeTarget (prober : SegmentProber) (addresses : Dict Str (List Str)) (vnets : List Json)
    (lists : ProbeLists) : Verifying ProbeLists :=
  match withRole vnets (str "attacker"), withRole vnets (str "vulnerable") with
  | some attacker, some target => do
      let targetName ← nameOf target
      let segment ← nameOf attacker
      ((addresses.get? targetName).getD []).foldlM (fun lists address => do
        let verdict ← prober.probe .requiredReachability segment address 80
        pure (lists.record .blocked (pathText (str " -> ") segment address 80)
          (pathText (str " cannot reach target ") segment address 80) verdict)) lists
  | _, _ => pure lists

/-- A team must reach the scoring segments. -/
def probeScoring (prober : SegmentProber) (scoringPort : Int) (vnets scoring : List Json)
    (lists : ProbeLists) : Verifying ProbeLists :=
  scoring.foldlM (fun lists scoringVNet =>
    match (withRole vnets (str "attacker")).or vnets.head? with
    | none => pure lists
    | some source => do
        let address ← firstHostOf scoringVNet
        let segment ← nameOf source
        let verdict ← prober.probe .requiredReachability segment address scoringPort
        pure (lists.record .blocked (pathText (str " -> ") segment address scoringPort)
          (pathText (str " cannot reach scoring ") segment address scoringPort) verdict)) lists

/-- The paths the range needs. -/
def requiredCheck (prober : SegmentProber) (scoringPort : Int) (addresses : Dict Str (List Str))
    (teams : List (TeamKey × List Json)) (scoring : List Json) : Verifying CheckFinding := do
  let lists ← teams.foldlM (fun (lists : ProbeLists) team => do
    let lists ← probeTarget prober addresses team.2 lists
    probeScoring prober scoringPort team.2 scoring lists) {}
  pure (lists.finding .requiredReachability (str " required probe(s) returned unknown")
    (str "attacker->target and team->scoring both reachable"))

/-! ## Paths that must not exist -/

/-- From every VNet of a team into the VNets of every other. -/
def crossProbes (addresses : Dict Str (List Str)) (teams : List (TeamKey × List Json)) :
    Except PayloadError (List (Str × Str × Int)) := do
  let probes ← teams.mapM fun team => do
    let others ← (teams.filter fun other => other.1 ≠ team.1).mapM fun other => do
      let sources ← team.2.mapM fun source => do
        let dests ← other.2.mapM fun dest => do
          let name ← nameOf dest
          let gateway ← firstHostOf dest
          let segment ← nameOf source
          pure (((addresses.get? name).getD [gateway]).map fun address => (segment, address, 80))
        pure dests.flatten
      pure sources.flatten
    pure others.flatten
  pure probes.flatten

/-- From every VNet to the first host of every network, on every port. -/
def networkProbes (names cidrs : List Str) (ports : List Int) :
    Except PayloadError (List (Str × Str × Int)) := do
  let probes ← names.mapM fun name => do
    let hosts ← cidrs.mapM firstHost
    pure (hosts.flatMap fun host => ports.map fun port => (name, host, port))
  pure probes.flatten

/-- From every VNet to every external address. -/
def externalProbes (names externalProbeAddresses : List Str) : List (Str × Str × Int) :=
  names.flatMap fun name => externalProbeAddresses.map fun address => (name, address, 443)

/-- `_check_reachability`. -/
def checkReachability (desiredVNets desiredGuests : List Json) (prober : Option SegmentProber)
    (managementCidrs protectedCidrs externalProbeAddresses : List Str) (scoringPort : Int) :
    Verifying (List CheckFinding) :=
  match prober with
  | none =>
      pure (((.requiredReachability :: isolationChecks)).map fun check =>
        findingFrom check false false
          (str "no segment prober was supplied; reachability was not tested. Isolation is never " ++
            str "inferred from configuration, so this is unproved rather than assumed."))
  | some prober => do
      let names ← segmentNames desiredVNets
      let segments ← segmentsOf desiredVNets
      let addresses ← guestAddresses desiredGuests
      let teams ← sortedTeams segments.teams
      let required ← requiredCheck prober scoringPort addresses teams segments.scoring
      let cross ← denialCheck prober .crossTeamDenial (← crossProbes addresses teams)
        (str "cross-team denial")
      let management ← denialCheck prober .managementDenial
        (← networkProbes names managementCidrs [22, 8006]) (str "management-network denial")
      let protectedNets ← denialCheck prober .protectedDenial
        (← networkProbes names protectedCidrs [22, 443]) (str "protected-network denial")
      let external ← denialCheck prober .externalDenial
        (externalProbes names externalProbeAddresses) (str "external denial")
      pure [required, cross, management, protectedNets, external]

/-- The list under a key of the payload, where anything falsy stands for none. -/
def listUnder (payload : Json) (key : Str) : Except PayloadError (List Json) := do
  ((← payload.getOr key .null).orElse (.arr [])).elements

/-- `verify_deployment`. -/
def verifyDeployment (desiredState : Json) (observed : ObservedInfrastructure)
    (prober : Option SegmentProber) (managementCidrs protectedCidrs : List Str)
    (externalProbeAddresses : List Str) (scoringPort : Int) : Verifying VerificationReport :=
  if !observed.reachable then
    pure ⟨.recoveryRequired, [findingFrom .guestInventory false false
      (str "the provider could not be observed; resources may or may not exist")]⟩
  else do
    let network := (← desiredState.getOr (str "network") .null).orElse (.obj [])
    let desiredVNets ← listUnder network (str "vnets")
    let desiredGuests ← listUnder desiredState (str "guests")
    let guests ← checkGuests desiredGuests observed
    let networkFindings ← checkNetwork network desiredVNets observed
    let firewall ← checkFirewall network observed
    let reachability ← checkReachability desiredVNets desiredGuests prober managementCidrs
      protectedCidrs externalProbeAddresses scoringPort
    let findings := guests ++ networkFindings ++ [firewall] ++ [checkStateAgreement observed] ++
      reachability
    pure ⟨decideOutcome findings true, findings⟩

/-! ## What is asked -/

/-- The log grew by questions of one check only. -/
def AsksOnly (check : VerificationCheck) (log log' : List Asked) : Prop :=
  ∃ asked, log' = log ++ asked ∧ ∀ a ∈ asked, a.check = check

omit [Unicode] in
theorem AsksOnly.refl (check : VerificationCheck) (log : List Asked) : AsksOnly check log log :=
  ⟨[], (List.append_nil log).symm, fun _ h => absurd h List.not_mem_nil⟩

omit [Unicode] in
theorem AsksOnly.trans (check : VerificationCheck) (s t u : List Asked) (hst : AsksOnly check s t)
    (htu : AsksOnly check t u) : AsksOnly check s u := by
  obtain ⟨first, rfl, hfirst⟩ := hst
  obtain ⟨second, rfl, hsecond⟩ := htu
  refine ⟨first ++ second, List.append_assoc .., fun a ha => ?_⟩
  rcases List.mem_append.mp ha with ha | ha
  · exact hfirst a ha
  · exact hsecond a ha

omit [Unicode] in
/-- One probe adds one entry. -/
theorem run_probe_eq_ok {prober : SegmentProber} {check : VerificationCheck}
    {segment address : Str} {port : Int} {log log' : List Asked} {verdict : ProbeVerdict} :
    (prober.probe check segment address port).run log = .ok (verdict, log') ↔
      verdict = prober log.length segment address port ∧
        log' = log ++ [⟨check, segment, address, port, verdict⟩] := by
  show Except.ok (prober log.length segment address port, log ++ [Asked.mk check segment address
    port (prober log.length segment address port)]) = Except.ok (verdict, log') ↔ _
  simp only [Except.ok.injEq, Prod.mk.injEq]
  constructor
  · rintro ⟨rfl, rfl⟩
    exact ⟨rfl, rfl⟩
  · rintro ⟨rfl, rfl⟩
    exact ⟨rfl, rfl⟩

omit [Unicode] in
theorem asksOnly_probe (prober : SegmentProber) (check : VerificationCheck)
    (segment address : Str) (port : Int) :
    Keeps (AsksOnly check) (prober.probe check segment address port) := by
  intro log verdict log' hrun
  obtain ⟨-, rfl⟩ := run_probe_eq_ok.mp hrun
  exact ⟨_, rfl, fun a ha => by rw [List.mem_singleton.mp ha]⟩

/-- The check of the paths the range needs asks for itself only. -/
theorem asksOnly_requiredCheck (prober : SegmentProber) (scoringPort : Int)
    (addresses : Dict Str (List Str)) (teams : List (TeamKey × List Json)) (scoring : List Json) :
    Keeps (AsksOnly .requiredReachability)
      (requiredCheck prober scoringPort addresses teams scoring) := by
  have hrefl := AsksOnly.refl .requiredReachability
  have htrans := AsksOnly.trans .requiredReachability
  have htarget : ∀ vnets lists,
      Keeps (AsksOnly .requiredReachability) (probeTarget prober addresses vnets lists) := by
    intro vnets lists
    unfold probeTarget
    split
    · refine .bind htrans (.lift hrefl _) fun target => .bind htrans (.lift hrefl _) fun segment => ?_
      refine .foldlM hrefl htrans (fun lists address => ?_) _ _
      exact .bind htrans (asksOnly_probe _ _ _ _ _) fun verdict => .pure hrefl _
    · exact .pure hrefl _
  have hscoring : ∀ vnets lists, Keeps (AsksOnly .requiredReachability)
      (probeScoring prober scoringPort vnets scoring lists) := by
    intro vnets lists
    refine .foldlM hrefl htrans (fun lists vnet => ?_) _ _
    split
    · exact .pure hrefl _
    · refine .bind htrans (.lift hrefl _) fun address => .bind htrans (.lift hrefl _) fun segment => ?_
      exact .bind htrans (asksOnly_probe _ _ _ _ _) fun verdict => .pure hrefl _
  refine .bind htrans (.foldlM hrefl htrans (fun lists team => ?_) _ _) fun lists => .pure hrefl _
  exact .bind htrans (htarget _ _) fun lists => hscoring _ _

/-! ## Denial checks -/

omit [Unicode] in
/-- What a denial check asked, and what it made of the answers. -/
structure Denied (check : VerificationCheck) (paths : List (Str × Str × Int)) (asked : List Asked)
    (finding : CheckFinding) : Prop where
  asks : asked.map (fun a => (a.fromSegment, a.toAddress, a.port)) = paths
  asked_check : ∀ a ∈ asked, a.check = check
  finding_check : finding.check = check
  violated_iff : finding.violated = true ↔
    (∃ a ∈ asked, a.verdict = .reachable) ∧ ∀ a ∈ asked, a.verdict ≠ .unknown
  passed_iff : finding.countsAsFailure = false ↔ ∀ a ∈ asked, a.verdict = .blocked

omit [Unicode] in
/-- The probes of a denial check, one after the other. -/
theorem run_foldlM_denialProbe {prober : SegmentProber} {check : VerificationCheck}
    {paths : List (Str × Str × Int)} {lists lists' : ProbeLists} {log log' : List Asked}
    (h : (paths.foldlM (denialProbe prober check) lists).run log = .ok (lists', log')) :
    ∃ asked, log' = log ++ asked ∧
      asked.map (fun a => (a.fromSegment, a.toAddress, a.port)) = paths ∧
      (∀ a ∈ asked, a.check = check) ∧
      (lists'.unknown = [] ↔ lists.unknown = [] ∧ ∀ a ∈ asked, a.verdict ≠ .unknown) ∧
      (lists'.failures = [] ↔ lists.failures = [] ∧ ∀ a ∈ asked, a.verdict ≠ .reachable) := by
  induction paths generalizing lists log with
  | nil =>
      rw [List.foldlM_nil] at h
      obtain ⟨rfl, rfl⟩ := run_pure_eq_ok.mp h
      exact ⟨[], by simp, rfl, by simp, by simp, by simp⟩
  | cons path rest ih =>
      obtain ⟨segment, address, port⟩ := path
      rw [List.foldlM_cons] at h
      obtain ⟨next, mid, hfirst, hrest⟩ := run_bind_eq_ok.mp h
      obtain ⟨verdict, mid', hprobe, hpure⟩ := run_bind_eq_ok.mp hfirst
      obtain ⟨rfl, rfl⟩ := run_pure_eq_ok.mp hpure
      obtain ⟨-, rfl⟩ := run_probe_eq_ok.mp hprobe
      obtain ⟨asked, rfl, hpaths, hcheck, hunknown, hfailures⟩ := ih hrest
      refine ⟨⟨check, segment, address, port, verdict⟩ :: asked, by simp, ?_, ?_, ?_, ?_⟩
      · rw [List.map_cons, hpaths]
      · intro a ha
        rcases List.mem_cons.mp ha with rfl | ha
        · rfl
        · exact hcheck a ha
      · rw [hunknown]
        cases verdict <;> simp [ProbeLists.record]
      · rw [hfailures]
        cases verdict <;> simp [ProbeLists.record]

omit [Unicode] in
theorem run_denialCheck {prober : SegmentProber} {check : VerificationCheck}
    {paths : List (Str × Str × Int)} {label : Str} {finding : CheckFinding} {log log' : List Asked}
    (h : (denialCheck prober check paths label).run log = .ok (finding, log')) :
    ∃ asked, log' = log ++ asked ∧ Denied check paths asked finding := by
  obtain ⟨lists, mid, hprobes, hpure⟩ := run_bind_eq_ok.mp h
  obtain ⟨rfl, rfl⟩ := run_pure_eq_ok.mp hpure
  obtain ⟨asked, hlog, hpaths, hcheck, hunknown, hfailures⟩ := run_foldlM_denialProbe hprobes
  refine ⟨asked, hlog, hpaths, hcheck, check_findingFrom .., ?_, ?_⟩
  · have hviolated : lists.failures ≠ [] ↔ ∃ a ∈ asked, a.verdict = .reachable := by
      rw [ne_eq, hfailures]
      simp
    rw [ProbeLists.finding, violated_findingFrom, ← hviolated]
    simp only [Bool.and_eq_true, List.isEmpty_iff, Bool.not_eq_true', hunknown, true_and]
    rw [← Bool.not_eq_true, List.isEmpty_iff, and_comm]
  · rw [ProbeLists.finding, countsAsFailure_findingFrom]
    simp only [Bool.not_eq_false', Bool.and_eq_true, List.isEmpty_iff, hunknown, hfailures,
      true_and]
    rw [← forall₂_and]
    refine forall₂_congr fun a _ => ?_
    cases a.verdict <;> simp

/-! ## The outcome -/

/-- What a sweep with a prober asks: each isolation check's questions, from what it read off the
desired state. -/
structure Questions (desiredVNets desiredGuests : List Json)
    (managementCidrs protectedCidrs externalProbeAddresses : List Str) where
  names : List Str
  segments : Segments
  addresses : Dict Str (List Str)
  teams : List (TeamKey × List Json)
  paths : VerificationCheck → List (Str × Str × Int)
  names_eq : segmentNames desiredVNets = .ok names
  segments_eq : segmentsOf desiredVNets = .ok segments
  addresses_eq : guestAddresses desiredGuests = .ok addresses
  teams_eq : sortedTeams segments.teams = .ok teams
  cross_eq : crossProbes addresses teams = .ok (paths .crossTeamDenial)
  management_eq : networkProbes names managementCidrs [22, 8006] = .ok (paths .managementDenial)
  protected_eq : networkProbes names protectedCidrs [22, 443] = .ok (paths .protectedDenial)
  external_eq : externalProbes names externalProbeAddresses = paths .externalDenial

/-- With a prober, each isolation check is a denial check of its own stretch of the log, which comes
after the questions about the paths that must exist. -/
theorem run_checkReachability {desiredVNets desiredGuests : List Json} {prober : SegmentProber}
    {managementCidrs protectedCidrs externalProbeAddresses : List Str} {scoringPort : Int}
    {findings : List CheckFinding} {log : List Asked}
    (h : (checkReachability desiredVNets desiredGuests (some prober) managementCidrs protectedCidrs
      externalProbeAddresses scoringPort).run [] = .ok (findings, log)) :
    ∃ (questions : Questions desiredVNets desiredGuests managementCidrs protectedCidrs
        externalProbeAddresses) (required : CheckFinding) (asked : List Asked)
      (denied : VerificationCheck → List Asked × CheckFinding),
      required.check = .requiredReachability ∧
      (∀ a ∈ asked, a.check = .requiredReachability) ∧
      findings = required :: isolationChecks.map (fun check => (denied check).2) ∧
      log = asked ++ isolationChecks.flatMap (fun check => (denied check).1) ∧
      ∀ check ∈ isolationChecks,
        Denied check (questions.paths check) (denied check).1 (denied check).2 := by
  obtain ⟨names, s₁, hnames, h⟩ := run_bind_eq_ok.mp h
  obtain ⟨namesOk, rfl⟩ := run_lift_eq_ok.mp hnames
  obtain ⟨segments, s₂, hsegments, h⟩ := run_bind_eq_ok.mp h
  obtain ⟨segmentsOk, rfl⟩ := run_lift_eq_ok.mp hsegments
  obtain ⟨addresses, s₃, haddresses, h⟩ := run_bind_eq_ok.mp h
  obtain ⟨addressesOk, rfl⟩ := run_lift_eq_ok.mp haddresses
  obtain ⟨teams, s₄, hteams, h⟩ := run_bind_eq_ok.mp h
  obtain ⟨teamsOk, rfl⟩ := run_lift_eq_ok.mp hteams
  obtain ⟨required, asked, hrequired, h⟩ := run_bind_eq_ok.mp h
  obtain ⟨_, rfl, hasked⟩ := asksOnly_requiredCheck _ _ _ _ _ _ _ _ hrequired
  obtain ⟨crossPaths, s₆, hcrossPaths, h⟩ := run_bind_eq_ok.mp h
  obtain ⟨crossOk, rfl⟩ := run_lift_eq_ok.mp hcrossPaths
  obtain ⟨cross, s₇, hcross, h⟩ := run_bind_eq_ok.mp h
  obtain ⟨crossAsked, rfl, crossDenied⟩ := run_denialCheck hcross
  obtain ⟨managementPaths, s₈, hmanagementPaths, h⟩ := run_bind_eq_ok.mp h
  obtain ⟨managementOk, rfl⟩ := run_lift_eq_ok.mp hmanagementPaths
  obtain ⟨management, s₉, hmanagement, h⟩ := run_bind_eq_ok.mp h
  obtain ⟨managementAsked, rfl, managementDenied⟩ := run_denialCheck hmanagement
  obtain ⟨protectedPaths, s₁₀, hprotectedPaths, h⟩ := run_bind_eq_ok.mp h
  obtain ⟨protectedOk, rfl⟩ := run_lift_eq_ok.mp hprotectedPaths
  obtain ⟨protectedNets, s₁₁, hprotected, h⟩ := run_bind_eq_ok.mp h
  obtain ⟨protectedAsked, rfl, protectedDenied⟩ := run_denialCheck hprotected
  obtain ⟨external, s₁₂, hexternal, h⟩ := run_bind_eq_ok.mp h
  obtain ⟨externalAsked, rfl, externalDenied⟩ := run_denialCheck hexternal
  obtain ⟨rfl, rfl⟩ := run_pure_eq_ok.mp h
  refine ⟨⟨names, segments, addresses, teams, fun
      | .crossTeamDenial => crossPaths
      | .managementDenial => managementPaths
      | .protectedDenial => protectedPaths
      | _ => externalProbes names externalProbeAddresses,
      namesOk, segmentsOk, addressesOk, teamsOk, crossOk, managementOk, protectedOk, rfl⟩,
    required, asked, fun
    | .crossTeamDenial => ⟨crossAsked, cross⟩
    | .managementDenial => ⟨managementAsked, management⟩
    | .protectedDenial => ⟨protectedAsked, protectedNets⟩
    | _ => ⟨externalAsked, external⟩,
    ?_, hasked, rfl, ?_, ?_⟩
  · obtain ⟨lists, mid, -, hpure⟩ := run_bind_eq_ok.mp hrequired
    obtain ⟨rfl, -⟩ := run_pure_eq_ok.mp hpure
    exact check_findingFrom ..
  · simp [isolationChecks]
  · simp only [isolationChecks, List.mem_cons, List.not_mem_nil, or_false]
    rintro check (rfl | rfl | rfl | rfl)
    · exact crossDenied
    · exact managementDenied
    · exact protectedDenied
    · exact externalDenied

/-- No other check is an isolation check. -/
theorem check_of_checkGuests {desiredGuests : List Json} {observed : ObservedInfrastructure}
    {findings : List CheckFinding} (h : checkGuests desiredGuests observed = .ok findings) :
    ∀ f ∈ findings, f.check ∉ isolationChecks := by
  have hguest : ∀ {byVmid check unobservedText allText look finding},
      guestFinding byVmid desiredGuests check unobservedText allText look = .ok finding →
        finding.check = check := by
    intro byVmid check unobservedText allText look finding hfinding
    obtain ⟨swept, -, hpure⟩ := except_bind_eq_ok.mp hfinding
    cases hpure
    exact check_findingFrom ..
  obtain ⟨expected, -, h⟩ := except_bind_eq_ok.mp h
  obtain ⟨names, hnames, h⟩ := except_bind_eq_ok.mp h
  obtain ⟨nodes, hnodes, h⟩ := except_bind_eq_ok.mp h
  obtain ⟨disks, hdisks, h⟩ := except_bind_eq_ok.mp h
  obtain ⟨macs, hmacs, h⟩ := except_bind_eq_ok.mp h
  obtain ⟨tags, htags, h⟩ := except_bind_eq_ok.mp h
  obtain ⟨power, hpower, h⟩ := except_bind_eq_ok.mp h
  obtain ⟨ready, hready, h⟩ := except_bind_eq_ok.mp h
  cases h
  simp only [List.mem_cons, List.not_mem_nil, or_false]
  rintro f (rfl | rfl | rfl | rfl | rfl | rfl | rfl | rfl)
  · rw [check_findingFrom]
    decide
  · rw [hguest hnames]
    decide
  · rw [hguest hnodes]
    decide
  · rw [hguest hdisks]
    decide
  · rw [hguest hmacs]
    decide
  · rw [hguest htags]
    decide
  · rw [hguest hpower]
    decide
  · rw [hguest hready]
    decide

theorem check_of_checkNetwork {network : Json} {desiredVNets : List Json}
    {observed : ObservedInfrastructure} {findings : List CheckFinding}
    (h : checkNetwork network desiredVNets observed = .ok findings) :
    ∀ f ∈ findings, f.check ∉ isolationChecks := by
  obtain ⟨zone, -, h⟩ := except_bind_eq_ok.mp h
  obtain ⟨zoneName, -, h⟩ := except_bind_eq_ok.mp h
  obtain ⟨swept, -, h⟩ := except_bind_eq_ok.mp h
  cases h
  intro f hf
  rw [List.mem_singleton.mp hf, check_findingFrom]
  decide

theorem check_of_checkFirewall {network : Json} {observed : ObservedInfrastructure}
    {finding : CheckFinding} (h : checkFirewall network observed = .ok finding) :
    finding.check ∉ isolationChecks := by
  obtain ⟨groups, -, h⟩ := except_bind_eq_ok.mp h
  obtain ⟨sets, -, h⟩ := except_bind_eq_ok.mp h
  cases h
  rw [check_findingFrom]
  decide

theorem check_checkStateAgreement (observed : ObservedInfrastructure) :
    (checkStateAgreement observed).check ∉ isolationChecks := by
  have hcheck : (checkStateAgreement observed).check = .stateAgreement := by
    unfold checkStateAgreement
    split <;> exact check_findingFrom ..
  rw [hcheck]
  decide

/-- Some denial check got an answer that a forbidden path works, and no answer that established
nothing. -/
def ViolationUnmasked (log : List Asked) : Prop :=
  ∃ check ∈ isolationChecks, (∃ a ∈ log, a.check = check ∧ a.verdict = .reachable) ∧
    ∀ a ∈ log, a.check = check → a.verdict ≠ .unknown

omit [Unicode] in
/-- The log's entries of a check are the stretch the check asked. -/
theorem mem_asked_iff {asked : List Asked} {denied : VerificationCheck → List Asked × CheckFinding}
    {paths : VerificationCheck → List (Str × Str × Int)}
    (hasked : ∀ a ∈ asked, a.check = .requiredReachability)
    (hdenied : ∀ check ∈ isolationChecks,
      Denied check (paths check) (denied check).1 (denied check).2)
    {check : VerificationCheck} (hcheck : check ∈ isolationChecks) {a : Asked} :
    (a ∈ asked ++ isolationChecks.flatMap (fun check => (denied check).1) ∧ a.check = check) ↔
      a ∈ (denied check).1 := by
  constructor
  · rintro ⟨ha, rfl⟩
    rcases List.mem_append.mp ha with ha | ha
    · rw [hasked a ha] at hcheck
      simp [isolationChecks] at hcheck
    · obtain ⟨other, hother, ha⟩ := List.mem_flatMap.mp ha
      rw [(hdenied other hother).asked_check a ha]
      exact ha
  · intro ha
    refine ⟨List.mem_append_right _ (List.mem_flatMap.mpr ⟨check, hcheck, ha⟩), ?_⟩
    exact (hdenied check hcheck).asked_check a ha

/-- The isolation findings that failed are those of the checks with a violation and no unknown
answer. -/
theorem isolation_violated_iff {desiredVNets desiredGuests : List Json}
    {prober : Option SegmentProber}
    {managementCidrs protectedCidrs externalProbeAddresses : List Str} {scoringPort : Int}
    {findings : List CheckFinding} {log : List Asked}
    (h : (checkReachability desiredVNets desiredGuests prober managementCidrs protectedCidrs
      externalProbeAddresses scoringPort).run [] = .ok (findings, log)) :
    (∃ f ∈ findings, f.check ∈ isolationChecks ∧ f.violated = true) ↔ ViolationUnmasked log := by
  cases prober with
  | none =>
      obtain ⟨rfl, rfl⟩ := run_pure_eq_ok.mp h
      constructor
      · rintro ⟨f, hf, -, hviolated⟩
        obtain ⟨check, -, rfl⟩ := List.mem_map.mp hf
        rw [violated_findingFrom] at hviolated
        cases hviolated
      · rintro ⟨check, -, ⟨a, ha, -⟩, -⟩
        cases ha
  | some prober =>
      obtain ⟨_, required, asked, denied, hrequired, hasked, rfl, rfl, hdenied⟩ :=
        run_checkReachability h
      have hmem : ∀ check ∈ isolationChecks, ∀ a,
          (a ∈ asked ++ isolationChecks.flatMap (fun check => (denied check).1) ∧
            a.check = check ↔ a ∈ (denied check).1) :=
        fun check hcheck a => mem_asked_iff hasked hdenied hcheck
      have hfinding : ∀ check ∈ isolationChecks, ((denied check).2.violated = true ↔
          (∃ a ∈ asked ++ isolationChecks.flatMap (fun check => (denied check).1),
            a.check = check ∧ a.verdict = .reachable) ∧
          ∀ a ∈ asked ++ isolationChecks.flatMap (fun check => (denied check).1),
            a.check = check → a.verdict ≠ .unknown) := by
        intro check hcheck
        rw [(hdenied check hcheck).violated_iff]
        simp only [← hmem check hcheck, and_imp, and_assoc]
      constructor
      · rintro ⟨f, hf, hisolation, hviolated⟩
        rcases List.mem_cons.mp hf with rfl | hf
        · rw [hrequired] at hisolation
          simp [isolationChecks] at hisolation
        · obtain ⟨check, hcheck, rfl⟩ := List.mem_map.mp hf
          exact ⟨check, hcheck, (hfinding check hcheck).mp hviolated⟩
      · rintro ⟨check, hcheck, hunmasked⟩
        refine ⟨(denied check).2, ?_, ?_, (hfinding check hcheck).mpr hunmasked⟩
        · exact List.mem_cons_of_mem _ (List.mem_map_of_mem hcheck)
        · rw [(hdenied check hcheck).finding_check]
          exact hcheck

/-- A verification of a target that could be observed: what it read of the desired state, and what
each check found. -/
theorem checks_of_verifyDeployment {desiredState : Json} {observed : ObservedInfrastructure}
    {prober : Option SegmentProber}
    {managementCidrs protectedCidrs externalProbeAddresses : List Str} {scoringPort : Int}
    {report : VerificationReport} {log : List Asked} (hreachable : observed.reachable = true)
    (h : (verifyDeployment desiredState observed prober managementCidrs protectedCidrs
      externalProbeAddresses scoringPort).run [] = .ok (report, log)) :
    ∃ network desiredVNets desiredGuests guests networkFindings firewall reachability,
      desiredState.getOr (str "network") .null = .ok network ∧
      listUnder (network.orElse (.obj [])) (str "vnets") = .ok desiredVNets ∧
      listUnder desiredState (str "guests") = .ok desiredGuests ∧
      checkGuests desiredGuests observed = .ok guests ∧
      checkNetwork (network.orElse (.obj [])) desiredVNets observed = .ok networkFindings ∧
      checkFirewall (network.orElse (.obj [])) observed = .ok firewall ∧
      (checkReachability desiredVNets desiredGuests prober managementCidrs protectedCidrs
        externalProbeAddresses scoringPort).run [] = .ok (reachability, log) ∧
      report = ⟨decideOutcome (guests ++ networkFindings ++ [firewall] ++
          [checkStateAgreement observed] ++ reachability) true,
        guests ++ networkFindings ++ [firewall] ++ [checkStateAgreement observed] ++
          reachability⟩ := by
  unfold verifyDeployment at h
  rw [hreachable] at h
  obtain ⟨network, s₁, hnetwork, h⟩ := run_bind_eq_ok.mp h
  obtain ⟨networkRead, rfl⟩ := run_lift_eq_ok.mp hnetwork
  obtain ⟨vnets, s₂, hvnets, h⟩ := run_bind_eq_ok.mp h
  obtain ⟨vnetsRead, rfl⟩ := run_lift_eq_ok.mp hvnets
  obtain ⟨desiredGuests, s₃, hdesired, h⟩ := run_bind_eq_ok.mp h
  obtain ⟨guestsRead, rfl⟩ := run_lift_eq_ok.mp hdesired
  obtain ⟨guests, s₄, hguests, h⟩ := run_bind_eq_ok.mp h
  obtain ⟨guestsOk, rfl⟩ := run_lift_eq_ok.mp hguests
  obtain ⟨networkFindings, s₅, hnet, h⟩ := run_bind_eq_ok.mp h
  obtain ⟨networkOk, rfl⟩ := run_lift_eq_ok.mp hnet
  obtain ⟨firewall, s₆, hfirewall, h⟩ := run_bind_eq_ok.mp h
  obtain ⟨firewallOk, rfl⟩ := run_lift_eq_ok.mp hfirewall
  obtain ⟨reachability, s₇, hreach, h⟩ := run_bind_eq_ok.mp h
  obtain ⟨rfl, rfl⟩ := run_pure_eq_ok.mp h
  exact ⟨network, vnets, desiredGuests, guests, networkFindings, firewall, reachability,
    networkRead, vnetsRead, guestsRead, guestsOk, networkOk, firewallOk, hreach, rfl⟩

/-- A verification of a target that could be observed: what it read of the desired state, findings
about no isolation, and those of the probes. -/
theorem run_verifyDeployment {desiredState : Json} {observed : ObservedInfrastructure}
    {prober : Option SegmentProber}
    {managementCidrs protectedCidrs externalProbeAddresses : List Str} {scoringPort : Int}
    {report : VerificationReport} {log : List Asked} (hreachable : observed.reachable = true)
    (h : (verifyDeployment desiredState observed prober managementCidrs protectedCidrs
      externalProbeAddresses scoringPort).run [] = .ok (report, log)) :
    ∃ network desiredVNets desiredGuests findings reachability,
      desiredState.getOr (str "network") .null = .ok network ∧
      listUnder (network.orElse (.obj [])) (str "vnets") = .ok desiredVNets ∧
      listUnder desiredState (str "guests") = .ok desiredGuests ∧
      (∀ f ∈ findings, f.check ∉ isolationChecks) ∧
      (checkReachability desiredVNets desiredGuests prober managementCidrs protectedCidrs
        externalProbeAddresses scoringPort).run [] = .ok (reachability, log) ∧
      report = ⟨decideOutcome (findings ++ reachability) true, findings ++ reachability⟩ := by
  obtain ⟨network, vnets, desiredGuests, guests, networkFindings, firewall, reachability,
    networkRead, vnetsRead, guestsRead, guestsOk, networkOk, firewallOk, hreach, hreport⟩ :=
    checks_of_verifyDeployment hreachable h
  refine ⟨network, vnets, desiredGuests,
    guests ++ networkFindings ++ [firewall] ++ [checkStateAgreement observed], reachability,
    networkRead, vnetsRead, guestsRead, fun f hf => ?_, hreach, hreport⟩
  simp only [List.mem_append, List.mem_singleton] at hf
  rcases hf with ((hf | hf) | rfl) | rfl
  · exact check_of_checkGuests guestsOk f hf
  · exact check_of_checkNetwork networkOk f hf
  · exact check_of_checkFirewall firewallOk
  · exact check_checkStateAgreement observed

/-- A verification of a target that could be observed reports an isolation failure whenever a probe
of a forbidden path got through, exactly if one of the checks with such a probe has no probe that
established nothing. -/
theorem isolationFailed_of_violation_iff {desiredState : Json} {observed : ObservedInfrastructure}
    {prober : Option SegmentProber}
    {managementCidrs protectedCidrs externalProbeAddresses : List Str} {scoringPort : Int}
    {report : VerificationReport} {log : List Asked} (hreachable : observed.reachable = true)
    (h : (verifyDeployment desiredState observed prober managementCidrs protectedCidrs
      externalProbeAddresses scoringPort).run [] = .ok (report, log)) :
    ((∃ a ∈ log, a.check ∈ isolationChecks ∧ a.verdict = .reachable) →
        report.outcome = .isolationFailed) ↔
      ((∃ a ∈ log, a.check ∈ isolationChecks ∧ a.verdict = .reachable) →
        ViolationUnmasked log) := by
  refine imp_congr_right fun _ => ?_
  obtain ⟨_, _, _, findings, reachability, _, _, _, hothers, hreach, rfl⟩ :=
    run_verifyDeployment hreachable h
  rw [decideOutcome_eq_isolationFailed_iff, ← isolation_violated_iff hreach]
  constructor
  · rintro ⟨f, hf, hcheck, hviolated⟩
    rcases List.mem_append.mp hf with hf | hf
    · exact absurd hcheck (hothers f hf)
    · exact ⟨f, hf, hcheck, hviolated⟩
  · rintro ⟨f, hf, hrest⟩
    exact ⟨f, List.mem_append_right _ hf, hrest⟩

end

/-! ### A masked violation -/

/-- One segment of one team. -/
def sampleDesiredState : Json :=
  .obj [(str "network", .obj [(str "vnets", .arr [.obj [
      (str "name", .str (str "red")),
      (str "role", .str (str "attacker")),
      (str "vlan_tag", .int 100),
      (str "subnet", .obj [(str "cidr", .str (str "10.0.0.0/29"))]),
      (str "ownership", .obj [(str "team_ref", .str (str "red"))])]])])]

def sampleExternalAddresses : List Str := [str "192.0.2.1", str "192.0.2.2"]

/-- The first path works and nothing is known of the second. -/
def leakyProber : SegmentProber := fun n _ _ _ => if n = 0 then .reachable else .unknown

/-- With one address to ask about, the violation is reported. -/
theorem leakyProber_reported :
    ∃ report log, (@verifyDeployment Unicode.ascii sampleDesiredState { reachable := true }
        (some leakyProber) [] [] [str "192.0.2.1"] 443).run [] = .ok (report, log) ∧
      (∃ a ∈ log, a.check ∈ isolationChecks ∧ a.verdict = .reachable) ∧
      report.outcome = .isolationFailed := by
  let _ := Unicode.ascii
  have hrun : ((verifyDeployment sampleDesiredState { reachable := true } (some leakyProber) [] []
      [str "192.0.2.1"] 443).run []).toOption.any (fun result =>
        result.2 = [⟨.externalDenial, str "red", str "192.0.2.1", 443, .reachable⟩]) = true := by
    with_unfolding_all decide
  obtain ⟨⟨report, log⟩, hok, hlog⟩ := exists_of_toOption_any hrun
  obtain rfl := of_decide_eq_true hlog
  have hviolation : ∃ a ∈ [Asked.mk .externalDenial (str "red") (str "192.0.2.1") 443 .reachable],
      a.check ∈ isolationChecks ∧ a.verdict = .reachable :=
    ⟨_, List.mem_cons_self, by decide, rfl⟩
  refine ⟨report, _, hok, hviolation, (isolationFailed_of_violation_iff rfl hok).mpr ?_ hviolation⟩
  intro _
  refine ⟨.externalDenial, by decide, ⟨_, List.mem_cons_self, rfl, rfl⟩, ?_⟩
  intro a ha _
  rw [List.mem_singleton.mp ha]
  decide

/-- With a second address that established nothing, the violation is not reported. -/
theorem leakyProber_masked :
    ∃ report log, (@verifyDeployment Unicode.ascii sampleDesiredState { reachable := true }
        (some leakyProber) [] [] sampleExternalAddresses 443).run [] = .ok (report, log) ∧
      (∃ a ∈ log, a.check ∈ isolationChecks ∧ a.verdict = .reachable) ∧
      report.outcome = .verificationFailed := by
  let _ := Unicode.ascii
  have hrun : ((verifyDeployment sampleDesiredState { reachable := true } (some leakyProber) [] []
      sampleExternalAddresses 443).run []).toOption.any (fun result =>
        (result.2.any fun a => a.check ∈ isolationChecks && a.verdict = .reachable) &&
          result.1.outcome = .verificationFailed) = true := by
    with_unfolding_all decide
  obtain ⟨⟨report, log⟩, hok, htest⟩ := exists_of_toOption_any hrun
  simp only [Bool.and_eq_true, List.any_eq_true, decide_eq_true_eq] at htest
  exact ⟨report, log, hok, htest⟩

end Secp.Worker
