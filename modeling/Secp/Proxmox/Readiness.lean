import Secp.Proxmox.WellPlaced
import Secp.Proxmox.OutboundPolicy

/-!
# Competition readiness

`assessCompetitionReadiness` asks of a compiled workload what a two-team competition needs. It reads
the plan and the request and nothing else, so each of its answers is decided by the two requests the
plan was compiled from. Most requirements no compiled plan can miss; which can, and when, is
`readiness_satisfied_iff`.
-/

namespace Secp.Proxmox

open Secp.Python Secp.Logic

inductive ReadinessRequirement where
  | twoTeamsPresent
  | attackerPerTeam
  | targetsPerTeam
  | challengesCovered
  | scoringReachableByPlan
  | flagsDeliveredOutOfBand
  | bootstrapBoundedAndObservable
  | workloadVersionsPinned
  deriving DecidableEq, Repr

/-- One requirement, met or not: there is no third answer to a question about a document. -/
structure ReadinessFinding where
  requirement : ReadinessRequirement
  met : Bool
  detail : Str
  deriving DecidableEq

/-- A challenge with the component it is played on, a field only the assessment reads. -/
structure PlayedChallenge extends CatalogChallenge where
  componentKey : Str

/-- The deadline is at least the sum of the declared operation timeouts. -/
def GuestBootstrapContract.deadlineCoversOperations (c : GuestBootstrapContract) : Bool :=
  (c.operations.map BootstrapOperation.timeoutSeconds).sum ≤ c.deadlineSeconds

section
variable [Unicode]

def twoTeamsFinding (network : SegregatedNetworkPlan) (teams : List Str) : ReadinessFinding where
  requirement := .twoTeamsPresent
  met := 2 ≤ teams.length && teams.all (fun team => team ∈ network.teamRefs) &&
    network.teamRefs.all fun team => team ∈ teams
  detail := natStr teams.length ++ str " team(s) requested; network carries " ++
    listRepr (sortedBy id network.teamRefs)

/-- The teams without an attacker system. -/
def missingAttacker (plan : WorkloadPlan) (teams : List Str) : List Str :=
  teams.filter fun team => !plan.bootstrap.any fun c =>
    c.workloadKey = attackerWorkloadKey && c.teamRef = team

def attackerFinding (plan : WorkloadPlan) (teams : List Str) : ReadinessFinding where
  requirement := .attackerPerTeam
  met := (missingAttacker plan teams).isEmpty
  detail := if (missingAttacker plan teams).isEmpty then
      str "every team has a bounded attacker system on its own segment"
    else str "teams without an attacker system: " ++ listRepr (missingAttacker plan teams)

/-- The teams some catalog target is missing for. -/
def shortTeams (plan : WorkloadPlan) (keys teams : List Str) : List Str :=
  teams.filter fun team => !keys.all fun key =>
    key ∈ (plan.bootstrap.filter fun c => c.teamRef = team).map GuestBootstrapContract.workloadKey

def targetsFinding (plan : WorkloadPlan) (keys teams : List Str) : ReadinessFinding where
  requirement := .targetsPerTeam
  met := (shortTeams plan keys teams).isEmpty
  detail := if (shortTeams plan keys teams).isEmpty then
      str "every team runs " ++ listRepr (sortedBy id keys)
    else str "teams missing a target: " ++ listRepr (shortTeams plan keys teams)

/-- The challenges whose component does not stand up. -/
def uncoveredChallenges (keys : List Str) (challenges : List PlayedChallenge) : List Str :=
  sortedBy id ((challenges.filter fun challenge => challenge.componentKey ∉ keys).map
    fun challenge => challenge.key).dedup

def challengesFinding (keys : List Str) (challenges : List PlayedChallenge) :
    ReadinessFinding where
  requirement := .challengesCovered
  met := (uncoveredChallenges keys challenges).isEmpty
  detail := if (uncoveredChallenges keys challenges).isEmpty then
      natStr challenges.length ++ str " challenge(s) all have a target"
    else str "challenges with no deployed component: " ++
      listRepr (uncoveredChallenges keys challenges)

/-- What one segment's rules say against reaching the scoreboard, if anything. -/
def scoringRefusal (network : SegregatedNetworkPlan) (address : Str) (port : Int)
    (vnet : VNetSpec) : Except Raised (List Str) :=
  match evaluateFlow network vnet.name ⟨address, some port, str "tcp", .outbound⟩ with
  | .ok .accept => .ok []
  | .ok verdict => .ok [vnet.name ++ str " -> " ++ address ++ [':'] ++ intStr port ++ str " = " ++
      verdict.value]
  | .error (.model message) => .ok [vnet.name ++ str ": " ++ message]
  | .error e => .error e

/-- The segments that cannot reach the endpoint of their team. -/
def endpointRefusals (network : SegregatedNetworkPlan) (endpoint : Str × Str × Int) :
    Except Raised (List Str) := do
  let refusals ← (network.vnetsForTeam endpoint.1).mapM
    (scoringRefusal network endpoint.2.1 endpoint.2.2)
  pure refusals.flatten

def unreachableSegments (plan : WorkloadPlan) : Except Raised (List Str) := do
  let refusals ← plan.scoringEndpoints.mapM (endpointRefusals plan.topology.network)
  pure refusals.flatten

def scoringFinding (unreachable : List Str) : ReadinessFinding where
  requirement := .scoringReachableByPlan
  met := unreachable.isEmpty
  detail := if unreachable.isEmpty then
      str ("the compiled rules permit every team segment to reach the scoreboard; this is the " ++
        "artifact's intent and is NOT evidence the applied range does so")
    else join (str "; ") unreachable

def flagsFinding (plan : WorkloadPlan) (request : WorkloadRequest) :
    ReadinessFinding where
  requirement := .flagsDeliveredOutOfBand
  met := plan.materials.all (fun m => m.channel = request.materialChannel) &&
    plan.materials.any fun m => m.scope = .range
  detail := natStr plan.materials.length ++
    str " dynamic value(s) referenced, none carried in the plan"

/-- The guests whose deadline is shorter than their declared work. -/
def unboundedGuests (plan : WorkloadPlan) : List Str :=
  (plan.bootstrap.filter fun c => !c.deadlineCoversOperations).map GuestBootstrapContract.guestRef

/-- The guests that have nowhere to report. -/
def unreportedGuests (plan : WorkloadPlan) : List Str :=
  (plan.bootstrap.filter fun c => c.reportAddress = []).map GuestBootstrapContract.guestRef

def bootstrapFinding (plan : WorkloadPlan) : ReadinessFinding where
  requirement := .bootstrapBoundedAndObservable
  met := (unboundedGuests plan).isEmpty && (unreportedGuests plan).isEmpty &&
    !plan.bootstrap.isEmpty
  detail := if (unboundedGuests plan).isEmpty && (unreportedGuests plan).isEmpty then
      natStr plan.bootstrap.length ++ str " guest(s) bounded and reporting to the scoring segment"
    else str "deadline shorter than declared work: " ++ listRepr (unboundedGuests plan) ++
      str "; no report channel: " ++ listRepr (unreportedGuests plan)

/-- The workloads without an exact version or a base-image digest. -/
def unpinnedWorkloads (plan : WorkloadPlan) : List Str :=
  sortedBy id ((plan.bootstrap.filter fun c => lower c.workloadVersion ∈ floatingTags).map
      GuestBootstrapContract.workloadKey ++
    (plan.bootstrap.filter fun c => c.imageDigest = []).map
      GuestBootstrapContract.workloadKey).dedup

def pinnedFinding (plan : WorkloadPlan) : ReadinessFinding where
  requirement := .workloadVersionsPinned
  met := (unpinnedWorkloads plan).isEmpty
  detail := if (unpinnedWorkloads plan).isEmpty then
      str "every workload carries an exact version and a base-image digest"
    else str "unpinned workloads: " ++ listRepr (unpinnedWorkloads plan)

/-- The findings, given the segments found not to reach the scoreboard. -/
def readinessFindings (plan : WorkloadPlan) (request : WorkloadRequest)
    (challenges : List PlayedChallenge) (unreachable : List Str) : List ReadinessFinding :=
  let teams := sortedBy id request.teamRefs
  let keys := workloadKeys request.template
  [twoTeamsFinding plan.topology.network teams, attackerFinding plan teams,
    targetsFinding plan keys teams, challengesFinding keys challenges, scoringFinding unreachable,
    flagsFinding plan request, bootstrapFinding plan, pinnedFinding plan]

/-- Check the compiled workload against what a two-team competition needs. -/
def assessCompetitionReadiness (plan : WorkloadPlan) (request : WorkloadRequest)
    (challenges : List PlayedChallenge) : Except Raised (List ReadinessFinding) := do
  let unreachable ← unreachableSegments plan
  pure (readinessFindings plan request challenges unreachable)

/-- Every requirement is met; an empty finding set is not satisfied. -/
def readinessIsSatisfied (findings : List ReadinessFinding) : Bool :=
  !findings.isEmpty && findings.all ReadinessFinding.met

/-! ## Contracts -/

/-- The contract is the one of the slot, for the image its workload has. -/
structure ContractOf (workload : WorkloadRequest) (reportAddress : Str) (slot : Str × Str)
    (c : GuestBootstrapContract) : Prop where
  teamRef : c.teamRef = slot.1
  workloadKey : c.workloadKey = slot.2
  image : ∃ image, workload.image slot.2 = some image ∧
    c.workloadVersion = image.workloadVersion ∧ c.imageDigest = image.imageDigest
  operations : c.operations = workload.bootstrapOperations
  deadlineSeconds : c.deadlineSeconds = workload.bootstrapDeadlineSeconds
  reportAddress : c.reportAddress = reportAddress

/-- What the loops maintain, with the teams and the slots done: one contract for each slot, as long
as nothing is missing; and whatever happens, materials on the request's channel and an endpoint for
each team. -/
structure Contracted (workload : WorkloadRequest) (reportAddress : Str) (teams : List Str)
    (done : List (Str × Str)) (produced : Produced) (s : Session) : Prop where
  contracts : produced.missing = [] → s.blocked = [] →
    List.Forall₂ (ContractOf workload reportAddress) done produced.contracts
  channel : ∀ m ∈ produced.materials, m.channel = workload.materialChannel
  flags : (∃ m ∈ produced.materials, m.scope = .range) ↔ workload.template.challenges ≠ []
  endpoints : produced.scoringEndpoints =
    teams.map fun team => (team, reportAddress, workload.scoringPort)

variable {workload : WorkloadRequest} {network : SegregatedNetworkPlan} {o : TargetObservation}
  {scoring : VNetSpec} {reportAddress : Str} {ownership : Ownership} {teams : List Str}
  {ledger ledger' : AllocationLedger} {plan : WorkloadPlan}

omit [Unicode] in
theorem make_material_eq_ok {ref purpose channel : Str} {scope : MaterialScope} {m : MaterialRef}
    (h : MaterialRef.make ref scope purpose channel = .ok m) :
    m.channel = channel ∧ m.scope = scope := by
  unfold MaterialRef.make at h
  split at h
  · cases h
    exact ⟨rfl, rfl⟩
  · cases h

/-- The contract a slot gets, and the reference that attests its report. -/
theorem contractOf_of_buildContract {slot : Slot} {image : ReviewedGuestImage} {guest : GuestSpec}
    {c : GuestBootstrapContract} (himage : workload.image slot.key = some image)
    (h : buildContract workload reportAddress slot image guest = .ok c) :
    ContractOf workload reportAddress (slot.teamRef, slot.key) c ∧
      c.attestationRef.channel = workload.materialChannel ∧ c.attestationRef.scope = .guest := by
  obtain ⟨attestation, hmake, h⟩ := except_bind_eq_ok.mp h
  cases h
  exact ⟨⟨rfl, rfl, ⟨image, himage, rfl, rfl⟩, rfl, rfl, rfl⟩, make_material_eq_ok hmake⟩

/-- One more material that is no challenge's changes neither the channel nor the flags. -/
theorem material_appended {materials : List MaterialRef} {m : MaterialRef}
    (hchannel : ∀ m ∈ materials, m.channel = workload.materialChannel)
    (hflags : (∃ m ∈ materials, m.scope = .range) ↔ workload.template.challenges ≠ [])
    (hmade : m.channel = workload.materialChannel) (hscope : m.scope ≠ .range) :
    (∀ m' ∈ materials ++ [m], m'.channel = workload.materialChannel) ∧
      ((∃ m' ∈ materials ++ [m], m'.scope = .range) ↔ workload.template.challenges ≠ []) := by
  constructor
  · intro m' hm'
    rcases List.mem_append.mp hm' with hold | hnew
    · exact hchannel m' hold
    · rw [List.mem_singleton.mp hnew]
      exact hmade
  · rw [← hflags]
    simp [or_and_right, exists_or, hscope]

/-- One turn of the workload loop. -/
theorem ensures_compileGuest_contracted (produced : Produced) (slot : Slot)
    (done : List (Str × Str)) :
    Ensures (Contracted workload reportAddress teams done produced)
      (compileGuest workload network o scoring reportAddress ownership produced slot)
      (Contracted workload reportAddress teams (done ++ [(slot.teamRef, slot.key)])) := by
  intro s produced' t hbefore hrun
  unfold compileGuest at hrun
  split at hrun
  · obtain ⟨herror, _⟩ := run_check_eq_ok.mp hrun
    cases herror
  rename_i image himage
  obtain ⟨place, s0, hcheck, hrun⟩ := run_bind_eq_ok.mp hrun
  obtain ⟨_, rfl⟩ := run_check_eq_ok.mp hcheck
  cases place with
  | inl prerequisite =>
      obtain ⟨rfl, rfl⟩ := run_pure_eq_ok.mp hrun
      exact ⟨fun hmissing => absurd hmissing (by simp), hbefore.channel, hbefore.flags,
        hbefore.endpoints⟩
  | inr place =>
      obtain ⟨vmid, s1, hvmid, hrun⟩ := run_bind_eq_ok.mp hrun
      obtain ⟨mac, s2, hmac, hrun⟩ := run_bind_eq_ok.mp hrun
      split at hrun
      · rename_i vmid mac
        obtain ⟨subnet, s3, hcheck3, hrun⟩ := run_bind_eq_ok.mp hrun
        obtain ⟨_, rfl⟩ := run_check_eq_ok.mp hcheck3
        obtain ⟨address, s4, haddress, hrun⟩ := run_bind_eq_ok.mp hrun
        obtain ⟨guest, s5, hcheck5, hrun⟩ := run_bind_eq_ok.mp hrun
        obtain ⟨_, rfl⟩ := run_check_eq_ok.mp hcheck5
        obtain ⟨contract, s6, hcheck6, hrun⟩ := run_bind_eq_ok.mp hrun
        obtain ⟨hcontract, rfl⟩ := run_check_eq_ok.mp hcheck6
        obtain ⟨rfl, rfl⟩ := run_pure_eq_ok.mp hrun
        obtain ⟨_, _, rfl⟩ := run_logRun_some hvmid
        obtain ⟨_, _, rfl⟩ := run_logRun_some hmac
        obtain ⟨_, _, rfl⟩ := run_allocating_eq_ok.mp haddress
        obtain ⟨hof, hchannel, hscope⟩ := contractOf_of_buildContract himage hcontract
        obtain ⟨hchannels, hflags⟩ := material_appended hbefore.channel hbefore.flags hchannel
          (by simp [hscope])
        exact ⟨fun hmissing hblocked =>
          List.rel_append (hbefore.contracts hmissing hblocked) (.cons hof .nil), hchannels, hflags,
          hbefore.endpoints⟩
      · rename_i hnone
        obtain ⟨rfl, rfl⟩ := run_pure_eq_ok.mp hrun
        refine ⟨fun _ hblocked => ?_, hbefore.channel, hbefore.flags, hbefore.endpoints⟩
        -- an identifier that was not given left the session blocked
        obtain ⟨m, _, _, rfl, rfl⟩ := run_logRun_of_unblocked hmac hblocked
        obtain ⟨v, _, _, rfl, _⟩ := run_logRun_of_unblocked hvmid hblocked
        exact absurd rfl (hnone v m rfl)

/-- One turn of the team loop. -/
theorem ensures_compileTeam_contracted (produced : Produced) (team : Str × Nat)
    (done : List (Str × Str)) :
    Ensures (Contracted workload reportAddress teams done produced)
      (compileTeam workload network o scoring reportAddress produced team)
      (Contracted workload reportAddress (teams ++ [team.1])
        (done ++ (perTeamKeys workload).map fun key => (team.1, key))) := by
  intro s produced' t hbefore hrun
  obtain ⟨ownership, s1, hcheck1, hrun⟩ := run_bind_eq_ok.mp hrun
  obtain ⟨_, rfl⟩ := run_check_eq_ok.mp hcheck1
  obtain ⟨credentials, s2, hcheck2, hrun⟩ := run_bind_eq_ok.mp hrun
  obtain ⟨hcredentials, rfl⟩ := run_check_eq_ok.mp hcheck2
  obtain ⟨hchannel, hscope⟩ := make_material_eq_ok hcredentials
  obtain ⟨hchannels, hflags⟩ := material_appended hbefore.channel hbefore.flags hchannel
    (by simp [hscope])
  have hloop := Ensures.foldlM (fun keys produced => Contracted workload reportAddress
    (teams ++ [team.1]) (done ++ keys.map fun entry => (team.1, entry.1)) produced) ?_ _ s produced'
    t ⟨fun hmissing hblocked => by simpa using hbefore.contracts hmissing hblocked, hchannels, hflags,
      by simp [hbefore.endpoints]⟩ hrun
  · rw [← List.zipIdx_map_fst 0 (perTeamKeys workload), List.map_map]
    exact hloop
  · intro keys entry rest produced _
    rw [List.map_append, ← List.append_assoc]
    exact ensures_compileGuest_contracted produced _ _

/-- The references of the challenges, one each. -/
theorem references_of_challengeMaterials {materials : List MaterialRef}
    (h : challengeMaterials workload = .ok materials) :
    (∀ m ∈ materials, m.channel = workload.materialChannel) ∧
      ((∃ m ∈ materials, m.scope = .range) ↔ workload.template.challenges ≠ []) := by
  have hmade := mapM_eq_ok_iff.mp h
  have hall : ∀ m ∈ materials, m.channel = workload.materialChannel ∧ m.scope = .range := by
    intro m hm
    obtain ⟨_, _, hmake⟩ := forall₂_exists_left hmade hm
    exact make_material_eq_ok hmake
  refine ⟨fun m hm => (hall m hm).1, fun hsome hnone => ?_, fun hne => ?_⟩
  · obtain ⟨m, hm, _⟩ := hsome
    obtain ⟨c, hc, _⟩ := forall₂_exists_left hmade hm
    rw [hnone] at hc
    exact List.not_mem_nil hc
  · obtain ⟨c, hc⟩ := List.exists_mem_of_ne_nil _ hne
    obtain ⟨m, hm, _⟩ := forall₂_exists_right hmade hc
    exact ⟨m, hm, (hall m hm).2⟩

/-- The loops give every slot its contract. -/
theorem contracted_of_produceWorkload {produced : Produced} {s t : Session}
    (hrun : (produceWorkload workload network o scoring).run s = .ok (produced, t)) :
    ∃ reportAddress, firstHostText scoring.subnet.cidr = .ok reportAddress ∧
      Contracted workload reportAddress (sortedBy id workload.teamRefs) (slots workload) produced
        t := by
  obtain ⟨reportAddress, s0, hcheck, hrun⟩ := run_bind_eq_ok.mp hrun
  obtain ⟨haddress, rfl⟩ := run_check_eq_ok.mp hcheck
  obtain ⟨materials, s1, hcheck1, hrun⟩ := run_bind_eq_ok.mp hrun
  obtain ⟨hmaterials, rfl⟩ := run_check_eq_ok.mp hcheck1
  obtain ⟨hchannel, hflags⟩ := references_of_challengeMaterials hmaterials
  have hloop := Ensures.foldlM (fun done produced => Contracted workload reportAddress
    (done.map Prod.fst)
    (done.flatMap fun team => (perTeamKeys workload).map fun key => (team.1, key)) produced) ?_ _
    s produced t ⟨fun _ _ => .nil, hchannel, hflags, rfl⟩ hrun
  · refine ⟨reportAddress, haddress, ?_⟩
    have hslots : slots workload = (sortedBy id workload.teamRefs).zipIdx.flatMap fun team =>
        (perTeamKeys workload).map fun key => (team.1, key) := by
      rw [slots, ← List.zipIdx_map_fst 0 (sortedBy id workload.teamRefs), List.flatMap_map]
      simp only [List.zipIdx_map_fst]
    rw [hslots]
    rw [List.zipIdx_map_fst] at hloop
    exact hloop
  · intro done team rest produced _
    rw [List.flatMap_append, List.flatMap_singleton, List.map_append]
    exact ensures_compileTeam_contracted produced _ _

/-- The contracts, materials and endpoints of a compiled workload. -/
structure Equipped (workload : WorkloadRequest) (reportAddress : Str) (plan : WorkloadPlan) :
    Prop where
  of_slot : ∀ slot ∈ slots workload, ∃ c ∈ plan.bootstrap, ContractOf workload reportAddress slot c
  to_slot : ∀ c ∈ plan.bootstrap, ∃ slot ∈ slots workload, ContractOf workload reportAddress slot c
  channel : ∀ m ∈ plan.materials, m.channel = workload.materialChannel
  flags : (∃ m ∈ plan.materials, m.scope = .range) ↔ workload.template.challenges ≠ []
  endpoints : ∀ endpoint, endpoint ∈ plan.scoringEndpoints ↔
    ∃ team ∈ workload.teamRefs, endpoint = (team, reportAddress, workload.scoringPort)

theorem equipped_of_compileWorkload
    (h : compileWorkload workload network o ledger = .ok (.plan plan, ledger')) :
    ∃ scoring reportAddress, scoring ∈ network.vnets ∧ scoring.role = .scoring ∧
      firstHostText scoring.subnet.cidr = .ok reportAddress ∧ plan.topology.network = network ∧
        Equipped workload reportAddress plan := by
  obtain ⟨_, scoring, produced, ownership, hscoring, hproduce, hmissing, _, hbuilt⟩ :=
    compileWorkload_eq_plan.mp h
  obtain ⟨reportAddress, haddress, hdone⟩ := contracted_of_produceWorkload hproduce
  have hslots := hdone.contracts hmissing rfl
  have hfound := List.find?_some hscoring
  refine ⟨scoring, reportAddress, List.mem_of_find?_eq_some hscoring, by simpa using hfound,
    haddress, by rw [← hbuilt]; rfl, ?_⟩
  rw [← hbuilt]
  constructor
  case of_slot =>
    intro slot hslot
    obtain ⟨c, hc, hof⟩ := forall₂_exists_right hslots hslot
    exact ⟨c, mem_sortedBy.mpr hc, hof⟩
  case to_slot => exact fun c hc => forall₂_exists_left hslots (mem_sortedBy.mp hc)
  case channel => exact fun m hm => hdone.channel m (mem_sortedBy.mp hm)
  case flags =>
    rw [← hdone.flags]
    simp [buildWorkload]
  case endpoints =>
    intro endpoint
    simp only [buildWorkload, mem_sortedBy, hdone.endpoints, List.mem_map]
    exact exists_congr fun team => and_congr_right fun _ => eq_comm

/-! ## What no compiled plan can miss -/

section
variable (h : Equipped workload reportAddress plan)
include h

theorem Equipped.missingAttacker : missingAttacker plan (sortedBy id workload.teamRefs) = [] := by
  refine List.filter_eq_nil_iff.mpr fun team hteam => ?_
  obtain ⟨c, hc, hof⟩ := h.of_slot (team, attackerWorkloadKey)
    (mem_slots.mpr ⟨mem_sortedBy.mp hteam, mem_perTeamKeys.mpr (.inl rfl)⟩)
  have hany : plan.bootstrap.any (fun c =>
      decide (c.workloadKey = attackerWorkloadKey) && decide (c.teamRef = team)) = true :=
    List.any_eq_true.mpr ⟨c, hc, by simp [hof.workloadKey, hof.teamRef]⟩
  simp [hany]

theorem Equipped.shortTeams :
    shortTeams plan (workloadKeys workload.template) (sortedBy id workload.teamRefs) = [] := by
  refine List.filter_eq_nil_iff.mpr fun team hteam => ?_
  have hall : ∀ key ∈ workloadKeys workload.template, key ∈
      (plan.bootstrap.filter fun c => c.teamRef = team).map GuestBootstrapContract.workloadKey := by
    intro key hkey
    obtain ⟨c, hc, hof⟩ := h.of_slot (team, key)
      (mem_slots.mpr ⟨mem_sortedBy.mp hteam, mem_perTeamKeys.mpr (.inr (.inl hkey))⟩)
    have hteamOf : c.teamRef = team := hof.teamRef
    exact List.mem_map.mpr ⟨c, List.mem_filter.mpr ⟨hc, by simp [hteamOf]⟩, hof.workloadKey⟩
  simpa [and_assoc] using hall

/-- A reviewed image is pinned, and so is every contract made from one. -/
theorem Equipped.unpinnedWorkloads : unpinnedWorkloads plan = [] := by
  have hpinned : ∀ c ∈ plan.bootstrap, lower c.workloadVersion ∉ floatingTags ∧
      c.imageDigest ≠ [] := by
    intro c hc
    obtain ⟨slot, _, hof⟩ := h.to_slot c hc
    obtain ⟨image, _, hversion, hdigest⟩ := hof.image
    rw [hversion, hdigest]
    refine ⟨image.version_pinned, fun hempty => ?_⟩
    have hvalid := image.digest_valid
    rw [hempty] at hvalid
    exact absurd hvalid (by decide)
  have hversions : (plan.bootstrap.filter fun c => lower c.workloadVersion ∈ floatingTags) = [] :=
    List.filter_eq_nil_iff.mpr fun c hc => by simpa using (hpinned c hc).1
  have hdigests : (plan.bootstrap.filter fun c => c.imageDigest = []) = [] :=
    List.filter_eq_nil_iff.mpr fun c hc => by simpa using (hpinned c hc).2
  rw [Proxmox.unpinnedWorkloads, hversions, hdigests]
  rfl

/-- There is a contract, for a workload has teams and each of them an attacker. -/
theorem Equipped.bootstrap_ne : plan.bootstrap ≠ [] := by
  have htwo := workload.two_teams
  obtain ⟨team, hteam⟩ := List.exists_mem_of_length_pos (show 0 < workload.teamRefs.length by omega)
  obtain ⟨c, hc, _⟩ := h.of_slot (team, attackerWorkloadKey)
    (mem_slots.mpr ⟨hteam, mem_perTeamKeys.mpr (.inl rfl)⟩)
  exact List.ne_nil_of_mem hc

/-- All contracts share the request's operations and deadline. -/
theorem Equipped.unboundedGuests : unboundedGuests plan = [] ↔
    (workload.bootstrapOperations.map BootstrapOperation.timeoutSeconds).sum ≤
      workload.bootstrapDeadlineSeconds := by
  have hcovers : ∀ c ∈ plan.bootstrap, c.deadlineCoversOperations = true ↔
      (workload.bootstrapOperations.map BootstrapOperation.timeoutSeconds).sum ≤
        workload.bootstrapDeadlineSeconds := by
    intro c hc
    obtain ⟨slot, _, hof⟩ := h.to_slot c hc
    rw [GuestBootstrapContract.deadlineCoversOperations, hof.operations, hof.deadlineSeconds,
      decide_eq_true_iff]
  rw [Proxmox.unboundedGuests, List.map_eq_nil_iff, List.filter_eq_nil_iff]
  constructor
  · intro hnone
    obtain ⟨c, hc⟩ := List.exists_mem_of_ne_nil _ h.bootstrap_ne
    exact (hcovers c hc).mp (by simpa using hnone c hc)
  · intro hsum c hc
    simp [(hcovers c hc).mpr hsum]

theorem Equipped.unreportedGuests (haddress : reportAddress ≠ []) : unreportedGuests plan = [] := by
  rw [Proxmox.unreportedGuests, List.map_eq_nil_iff, List.filter_eq_nil_iff]
  intro c hc
  obtain ⟨slot, _, hof⟩ := h.to_slot c hc
  simpa [hof.reportAddress] using haddress

theorem Equipped.flagsFinding : (flagsFinding plan workload).met = true ↔
    workload.template.challenges ≠ [] := by
  have hall : plan.materials.all (fun m => decide (m.channel = workload.materialChannel)) = true :=
    List.all_eq_true.mpr fun m hm => decide_eq_true (h.channel m hm)
  rw [Proxmox.flagsFinding, hall, Bool.true_and, ← h.flags]
  simp

end

omit [Unicode] in
theorem uncoveredChallenges_eq_nil {keys : List Str} {challenges : List PlayedChallenge} :
    uncoveredChallenges keys challenges = [] ↔ ∀ c ∈ challenges, c.componentKey ∈ keys := by
  have hempty : ∀ xs : List Str, sortedBy id xs.dedup = [] ↔ ∀ x, x ∉ xs := by
    intro xs
    rw [List.eq_nil_iff_forall_not_mem]
    exact forall_congr' fun x => by rw [mem_sortedBy, List.mem_dedup]
  rw [uncoveredChallenges, hempty]
  simp only [List.mem_map, List.mem_filter, not_exists, not_and, decide_eq_true_eq]
  constructor
  · intro hnone c hc
    by_contra hout
    exact hnone c.key c ⟨hc, hout⟩ rfl
  · exact fun hall _ c hc => absurd (hall c hc.1) hc.2

/-! ## Reaching the scoreboard -/

section
variable {request : WebBreachLabRequest} {v d : VNetSpec} {x : Ip.Address} {flow : Flow}

/-- Every flow to an address that can be read gets a verdict. -/
theorem Compiled.exists_verdict (hc : Compiled request o network) (hv : v ∈ network.vnets)
    (flow : Flow) (hx : Ip.ipAddress flow.address = some x) :
    ∃ verdict, evaluateFlow network v.name flow = .ok verdict := by
  obtain ⟨g, hattached, hfind, hrules⟩ := hc.group v hv
  have hread : ∀ r ∈ g.orderedRules,
      Readable (ipSetCidrs network) (matchField flow.direction r) := by
    intro r hr
    rw [SecurityGroupSpec.orderedRules, List.mem_insertionSort, hrules, bandPositions] at hr
    obtain ⟨authored, hauthored, rfl⟩ := List.mem_map.mp hr
    exact hc.readable (mem_segmentRules.mp hauthored) flow.direction
  have hverdict : evaluateFlow network v.name flow =
      firstVerdict (ipSetCidrs network) flow g.orderedRules := by
    simp only [evaluateFlow, hattached, hfind]
  exact ⟨_, hverdict.trans (firstVerdict_eq hx hread)⟩

/-- A team's segment may send to the scoring host: the host is no management address, and either a
reviewed path leads to it, or it is no control-plane address and the port is the one scoring was
compiled for or one that the segment's egress approval opens there. -/
def AllowsSubmission (request : WebBreachLabRequest) (o : TargetObservation) (v : VNetSpec)
    (flow : Flow) (x : Ip.Address) : Prop :=
  inCidrs x o.identity.managementCidrs = false ∧
    (ToReviewedPath request flow x ∨
      (inCidrs x request.controlPlaneCidrs = false ∧
        (flow.port = some request.scoringPort ∨
          ∃ spec, request.egress = some spec ∧ spec.vnetName = v.name ∧
            (∃ dest ∈ spec.allowedDestinations, inCidrs x [dest] = true) ∧
              OpenOrListed spec flow)))

/-- What the policy permits to the scoring host: the host is in no team's segment. -/
theorem Compiled.permitted_scoring_iff (hc : Compiled request o network)
    (hrole : v.role ≠ .scoring) (hd : d ∈ network.vnets) (hscoring : d.role = .scoring)
    (hx : d.subnet.Contains x) (hproto : flow.proto = str "tcp") :
    (∀ team, ¬InTeam network team x) ∧
      (ToPermitted OpenOrListed request network v flow x ↔ flow.port = some request.scoringPort ∨
        ∃ spec, request.egress = some spec ∧ spec.vnetName = v.name ∧
          (∃ dest ∈ spec.allowedDestinations, inCidrs x [dest] = true) ∧ OpenOrListed spec flow) := by
  have hteamless : ∀ team, ¬InTeam network team x := by
    intro team hteam
    obtain ⟨w, hw, hwteam, hinside⟩ := hteam
    have hne : w ≠ d := by
      intro hsame
      rw [hsame, (hc.scoring_teamless hd).mp hscoring] at hwteam
      cases hwteam
    exact hc.disjoint w hw d hd hne x hinside hx
  refine ⟨hteamless, fun hpermitted => ?_, fun hallowed => ?_⟩
  · rcases hpermitted with hown | hsubmission | hegress
    · obtain ⟨team, _, hin⟩ := hown
      exact absurd hin (hteamless team)
    · exact .inl hsubmission.2.2.2
    · exact .inr hegress
  · rcases hallowed with hport | hegress
    · exact .inr (.inl ⟨hrole, ⟨d, hd, hscoring, hx⟩, hproto, hport⟩)
    · exact .inr (.inr hegress)

/-- The compiled rules of a team's segment let it submit exactly when the request allows it. -/
theorem Compiled.accepts_submission_iff (hc : Compiled request o network) (hv : v ∈ network.vnets)
    (hrole : v.role ≠ .scoring) (hd : d ∈ network.vnets) (hscoring : d.role = .scoring)
    (hx : Ip.ipAddress flow.address = some x) (hinside : d.subnet.Contains x)
    (hflow : flow.direction = .outbound) (hproto : flow.proto = str "tcp") :
    evaluateFlow network v.name flow = .ok .accept ↔ AllowsSubmission request o v flow x := by
  obtain ⟨hteamless, hpermitted⟩ := hc.permitted_scoring_iff hrole hd hscoring hinside hproto
  rw [evaluateFlow_accept_iff hc hv hx]
  simp only [hc.outbound_refusals hflow]
  unfold AllowsSubmission
  rw [← hpermitted]
  constructor
  · intro haccepted
    obtain ⟨r, hr, hhit, haccept, hmanagement, hcontrol, _, _⟩ := haccepted
    obtain ⟨hnonneg, hwhy⟩ := hc.outbound_accepted hflow hr hhit haccept
    refine ⟨Bool.eq_false_iff.mpr fun h => absurd (hmanagement h) (by omega), ?_⟩
    refine hwhy.imp_right fun hlate => ⟨Bool.eq_false_iff.mpr fun h => ?_, hlate.2⟩
    have hbefore := hcontrol h
    have hafter := hlate.1
    omega
  · intro hallowed
    obtain ⟨hmanagement, hreviewed | hrest⟩ := hallowed
    · obtain ⟨r, hr, hhit, haccept, hlt⟩ := hc.exists_reviewed hv hflow hreviewed
      refine ⟨r, hr, hhit, haccept, ?_, fun _ => hlt, fun i _ _ _ _ _ => ?_, by omega⟩
      · simp [hmanagement]
      · omega
    · obtain ⟨r, hr, hhit, haccept, hlt⟩ := hc.exists_permitted hv hflow hrest.2
      refine ⟨r, hr, hhit, haccept, ?_, ?_, fun i team name _ _ hteam => ?_, hlt⟩
      · simp [hmanagement]
      · simp [hrest.1]
      · exact absurd hteam (hteamless team)

omit [Unicode] in
/-- Lists of complaints are collected; none is left exactly when no item has one. -/
theorem exists_collected {α ε : Type} {f : α → Except ε (List Str)} {P : α → Prop} {xs : List α}
    (h : ∀ a ∈ xs, ∃ texts, f a = .ok texts ∧ (texts = [] ↔ P a)) :
    ∃ all, xs.mapM f = .ok all ∧ (all.flatten = [] ↔ ∀ a ∈ xs, P a) := by
  induction xs with
  | nil => exact ⟨[], rfl, by simp⟩
  | cons a rest ih =>
      obtain ⟨texts, hf, htexts⟩ := h a List.mem_cons_self
      obtain ⟨all, hmap, hall⟩ := ih fun b hb => h b (List.mem_cons_of_mem _ hb)
      refine ⟨texts :: all, mapM_eq_ok_iff.mpr (.cons hf (mapM_eq_ok_iff.mp hmap)), ?_⟩
      rw [List.flatten_cons, List.append_eq_nil_iff, htexts, hall, List.forall_mem_cons]

theorem Compiled.exists_scoringRefusal (hc : Compiled request o network) (hv : v ∈ network.vnets)
    {address : Str} (hx : Ip.ipAddress address = some x) (port : Int) :
    ∃ texts, scoringRefusal network address port v = .ok texts ∧ (texts = [] ↔
      evaluateFlow network v.name ⟨address, some port, str "tcp", .outbound⟩ = .ok .accept) := by
  obtain ⟨verdict, hverdict⟩ := hc.exists_verdict hv ⟨address, some port, str "tcp", .outbound⟩ hx
  unfold scoringRefusal
  rw [hverdict]
  cases verdict with
  | accept => exact ⟨[], rfl, by simp⟩
  | drop => exact ⟨_, rfl, by simp⟩
  | reject => exact ⟨_, rfl, by simp⟩

/-- The assessment complains of no segment exactly when each team's segments reach the scoreboard
by the rules. -/
theorem Equipped.exists_unreachable (h : Equipped workload reportAddress plan)
    (hnetwork : plan.topology.network = network) (hc : Compiled request o network)
    (hx : Ip.ipAddress reportAddress = some x) :
    ∃ refusals, unreachableSegments plan = .ok refusals ∧ (refusals = [] ↔
      ∀ team ∈ workload.teamRefs, ∀ v ∈ network.vnetsForTeam team,
        evaluateFlow network v.name ⟨reportAddress, some workload.scoringPort, str "tcp", .outbound⟩
          = .ok .accept) := by
  have heach : ∀ endpoint ∈ plan.scoringEndpoints, ∃ texts,
      endpointRefusals plan.topology.network endpoint = .ok texts ∧
        (texts = [] ↔ ∀ v ∈ network.vnetsForTeam endpoint.1, evaluateFlow network v.name
          ⟨reportAddress, some workload.scoringPort, str "tcp", .outbound⟩ = .ok .accept) := by
    intro endpoint hendpoint
    obtain ⟨team, _, rfl⟩ := (h.endpoints endpoint).mp hendpoint
    obtain ⟨all, hmap, hall⟩ := exists_collected fun v hv => hc.exists_scoringRefusal
      (List.mem_filter.mp hv).1 hx workload.scoringPort
    rw [hnetwork]
    exact ⟨all.flatten, except_bind_of_ok hmap |>.trans rfl, hall⟩
  obtain ⟨all, hmap, hall⟩ := exists_collected heach
  refine ⟨all.flatten, except_bind_of_ok hmap |>.trans rfl, hall.trans ?_⟩
  constructor
  · intro hendpoints team hteam
    exact hendpoints (team, reportAddress, workload.scoringPort) ((h.endpoints _).mpr
      ⟨team, hteam, rfl⟩)
  · intro hteams endpoint hendpoint
    obtain ⟨team, hteam, rfl⟩ := (h.endpoints endpoint).mp hendpoint
    exact hteams team hteam

omit [Unicode] in
/-- The first host of a printed subnet is an address in it, under a text that is not empty. -/
theorem firstHostText_contained (hsubnets : PrintedSubnets network) (hd : d ∈ network.vnets)
    {address : Str} (h : firstHostText d.subnet.cidr = .ok address) :
    address ≠ [] ∧ ∃ x, address = x.text ∧ Ip.ipAddress address = some x ∧ d.subnet.Contains x
    := by
  obtain ⟨n, hversion, htext⟩ := hsubnets d hd
  unfold firstHostText at h
  rw [htext, Ip.ipNetwork_text false hversion] at h
  cases h
  have hmem := Ip.firstHost_mem n
  have hread := Ip.ipAddress_text ((Ip.mem_def.mp hmem).1.trans hversion)
  have hnone : Ip.ipAddress [] = none := by decide
  refine ⟨fun hempty => ?_, n.firstHost, rfl, hread, n, ?_, hmem⟩
  · rw [hempty, hnone] at hread
    cases hread
  · rw [htext, Ip.ipNetwork_text true hversion]

/-! ## The verdict -/

/-- What each requirement comes to for a compiled range, with `x` the scoring host. -/
def Demands (request : WebBreachLabRequest) (o : TargetObservation) (workload : WorkloadRequest)
    (challenges : List PlayedChallenge) (network : SegregatedNetworkPlan) (x : Ip.Address) :
    ReadinessRequirement → Prop
  | .challengesCovered => ∀ c ∈ challenges, c.componentKey ∈ workloadKeys workload.template
  | .flagsDeliveredOutOfBand => challenges ≠ []
  | .bootstrapBoundedAndObservable =>
      (workload.bootstrapOperations.map BootstrapOperation.timeoutSeconds).sum ≤
        workload.bootstrapDeadlineSeconds
  | .scoringReachableByPlan => ∀ v ∈ network.vnets, v.role ≠ .scoring →
      AllowsSubmission request o v ⟨x.text, some workload.scoringPort, str "tcp", .outbound⟩ x
  | _ => True

/-- Every requirement has its finding. -/
theorem exists_finding (plan : WorkloadPlan) (workload : WorkloadRequest)
    (challenges : List PlayedChallenge) (unreachable : List Str)
    (requirement : ReadinessRequirement) :
    ∃ f ∈ readinessFindings plan workload challenges unreachable, f.requirement = requirement := by
  cases requirement with
  | twoTeamsPresent => exact ⟨_, .head _, rfl⟩
  | attackerPerTeam => exact ⟨_, .tail _ (.head _), rfl⟩
  | targetsPerTeam => exact ⟨_, .tail _ (.tail _ (.head _)), rfl⟩
  | challengesCovered => exact ⟨_, .tail _ (.tail _ (.tail _ (.head _))), rfl⟩
  | scoringReachableByPlan => exact ⟨scoringFinding unreachable, by simp [readinessFindings], rfl⟩
  | flagsDeliveredOutOfBand => exact ⟨flagsFinding plan workload, by simp [readinessFindings], rfl⟩
  | bootstrapBoundedAndObservable =>
      exact ⟨bootstrapFinding plan, by simp [readinessFindings], rfl⟩
  | workloadVersionsPinned => exact ⟨pinnedFinding plan, by simp [readinessFindings], rfl⟩

/-- The teams of a compiled workload are those of its network, so the first requirement is met. -/
theorem twoTeamsFinding_met
    (h : compileWorkload workload network o ledger = .ok (.plan plan, ledger')) :
    (twoTeamsFinding network (sortedBy id workload.teamRefs)).met = true := by
  have hsame : ∀ team, team ∈ network.teamRefs ↔ team ∈ workload.teamRefs := by
    intro team
    rw [mem_teamRefs_of_compiled h, SegregatedNetworkPlan.teamRefs, mem_sortedBy, List.mem_dedup,
      List.mem_filterMap]
  have htwo : 2 ≤ (sortedBy id workload.teamRefs).length := by
    rw [(sortedBy_perm _ _).length_eq]
    exact workload.two_teams
  simp [twoTeamsFinding, htwo, hsame]

/-- A team's segments are the segments that are not for scoring. -/
theorem Compiled.forall_teams_iff (hc : Compiled request o network)
    (h : compileWorkload workload network o ledger = .ok (.plan plan, ledger'))
    {P : VNetSpec → Prop} :
    (∀ team ∈ workload.teamRefs, ∀ v ∈ network.vnetsForTeam team, P v) ↔
      ∀ v ∈ network.vnets, v.role ≠ .scoring → P v := by
  constructor
  · intro hteams v hv hrole
    have howned : v.ownership.teamRef ≠ none := fun hnone =>
      hrole ((hc.scoring_teamless hv).mpr hnone)
    obtain ⟨team, hteam⟩ := Option.ne_none_iff_exists'.mp howned
    refine hteams team ((mem_teamRefs_of_compiled h).mpr ⟨v, hv, hteam⟩) v ?_
    exact List.mem_filter.mpr ⟨hv, decide_eq_true hteam⟩
  · intro hall team _ v hv
    obtain ⟨hmem, hteam⟩ := List.mem_filter.mp hv
    refine hall v hmem fun hrole => ?_
    rw [(hc.scoring_teamless hmem).mp hrole] at hteam
    cases of_decide_eq_true hteam

/-- The assessment of a compiled range never fails, it asks every requirement once, and each of its
findings is met exactly when the two requests meet the demand: so the range is ready exactly when
they meet all of them. -/
theorem readiness_satisfied_iff {challenges : List PlayedChallenge}
    (hnetwork : compileWebBreachLab request o AllocationLedger.empty = .ok (.plan network, ledger))
    (hworkload : compileWorkload workload network o ledger = .ok (.plan plan, ledger'))
    (hchallenges : workload.template.challenges =
      challenges.map PlayedChallenge.toCatalogChallenge) :
    ∃ d ∈ network.vnets, d.role = .scoring ∧ ∃ x, d.subnet.Contains x ∧
      firstHostText d.subnet.cidr = .ok x.text ∧ ∃ findings,
        assessCompetitionReadiness plan workload challenges = .ok findings ∧
        (∀ requirement, ∃ f ∈ findings, f.requirement = requirement) ∧
        (∀ f ∈ findings, f.met = true ↔
          Demands request o workload challenges network x f.requirement) ∧
        (readinessIsSatisfied findings = true ↔
          ∀ requirement, Demands request o workload challenges network x requirement) := by
  have hc := compiled_of_compileWebBreachLab hnetwork
  obtain ⟨d, address, hd, hrole, haddress, hsame, he⟩ := equipped_of_compileWorkload hworkload
  obtain ⟨hne, x, rfl, hx, hinside⟩ := firstHostText_contained hc.cidrs hd haddress
  obtain ⟨refusals, hrefusals, hreach⟩ := he.exists_unreachable hsame hc hx
  refine ⟨d, hd, hrole, x, hinside, haddress, _, except_bind_of_ok hrefusals |>.trans rfl, ?_⟩
  rw [hc.forall_teams_iff hworkload] at hreach
  have hscoring : (scoringFinding refusals).met = true ↔
      Demands request o workload challenges network x .scoringReachableByPlan := by
    rw [scoringFinding, List.isEmpty_iff, hreach]
    refine forall_congr' fun v => forall_congr' fun hv => forall_congr' fun hteam => ?_
    exact hc.accepts_submission_iff hv hteam hd hrole hx hinside rfl rfl
  have hflags : (flagsFinding plan workload).met = true ↔ challenges ≠ [] := by
    rw [he.flagsFinding, hchallenges, ne_eq, List.map_eq_nil_iff]
  have hbounded : (bootstrapFinding plan).met = true ↔
      (workload.bootstrapOperations.map BootstrapOperation.timeoutSeconds).sum ≤
        workload.bootstrapDeadlineSeconds := by
    rw [← he.unboundedGuests]
    simp [bootstrapFinding, he.unreportedGuests hne, he.bootstrap_ne]
  have hmet : ∀ f ∈ readinessFindings plan workload challenges refusals,
      f.met = true ↔ Demands request o workload challenges network x f.requirement := by
    simp only [readinessFindings, List.forall_mem_cons, List.not_mem_nil, false_implies,
      implies_true, and_true]
    refine ⟨?_, ?_, ?_, ?_, hscoring, hflags, hbounded, ?_⟩
    · rw [hsame]
      exact iff_true_intro (twoTeamsFinding_met hworkload)
    · exact iff_true_intro (List.isEmpty_iff.mpr he.missingAttacker)
    · exact iff_true_intro (List.isEmpty_iff.mpr he.shortTeams)
    · exact List.isEmpty_iff.trans uncoveredChallenges_eq_nil
    · exact iff_true_intro (List.isEmpty_iff.mpr he.unpinnedWorkloads)
  have hasked := exists_finding plan workload challenges refusals
  refine ⟨hasked, hmet, ?_⟩
  have hsome : (readinessFindings plan workload challenges refusals).isEmpty = false := rfl
  rw [readinessIsSatisfied, hsome, Bool.not_false, Bool.true_and, List.all_eq_true]
  constructor
  · intro hall requirement
    obtain ⟨f, hf, rfl⟩ := hasked requirement
    exact (hmet f hf).mp (hall f hf)
  · exact fun hall f hf => (hmet f hf).mpr (hall f.requirement)

omit [Unicode] in
/-- The sample lab has no challenges, and the assessment finds it not ready. -/
theorem sample_readiness : ∃ network ledger plan ledger' findings,
    @compileWebBreachLab Unicode.ascii (sampleRequest none) equippedObservation
      AllocationLedger.empty = .ok (.plan network, ledger) ∧
    @compileWorkload Unicode.ascii sampleWorkload network equippedObservation ledger =
      .ok (.plan plan, ledger') ∧
    @assessCompetitionReadiness Unicode.ascii plan sampleWorkload [] = .ok findings ∧
    readinessIsSatisfied findings = false := by
  let _ := Unicode.ascii
  obtain ⟨network, ledger, plan, ledger', hnetwork, hworkload⟩ :=
    exists_of_compiledRange sampleRange_compiles
  obtain ⟨_, _, _, _, _, _, findings, hfindings, _, _, hsatisfied⟩ :=
    @readiness_satisfied_iff _ _ _ _ _ _ _ _ [] hnetwork hworkload rfl
  refine ⟨network, ledger, plan, ledger', findings, hnetwork, hworkload, hfindings, ?_⟩
  rw [← Bool.not_eq_true, hsatisfied]
  exact fun hall => hall .flagsDeliveredOutOfBand rfl

end

end

end Secp.Proxmox
