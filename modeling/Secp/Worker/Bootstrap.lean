import Mathlib.Data.List.Perm.Basic
import Mathlib.Data.List.Dedup
import Secp.Worker.Verification

/-!
# Bootstrap of the guests

A guest that was created need not run its workload. What it says about itself counts only as the one
report that names it and carries its attestation; the verdict is one of four closed states. The caller
measures the elapsed time, and an accepted report is compared with the time it claims itself.
-/

namespace Secp.Worker

open Secp.Python

inductive BootstrapState where
  | ready
  | failed
  | timedOut
  | unobserved
  deriving DecidableEq

/-- How far a guest got. -/
inductive BootstrapPhase where
  | notStarted
  | cloudInitRunning
  | cloudInitComplete
  | operationsRunning
  | operationsComplete
  | workloadServing
  deriving DecidableEq

def BootstrapPhase.text : BootstrapPhase → Str
  | .notStarted => str "not_started"
  | .cloudInitRunning => str "cloud_init_running"
  | .cloudInitComplete => str "cloud_init_complete"
  | .operationsRunning => str "operations_running"
  | .operationsComplete => str "operations_complete"
  | .workloadServing => str "workload_serving"

/-- Why a report is no evidence about a guest. -/
inductive ReportRejection where
  | unknownGuest
  | attestationMismatch
  | vmidMismatch
  | duplicateReport
  deriving DecidableEq

def ReportRejection.text : ReportRejection → Str
  | .unknownGuest => str "unknown_guest"
  | .attestationMismatch => str "attestation_mismatch"
  | .vmidMismatch => str "vmid_mismatch"
  | .duplicateReport => str "duplicate_report"

/-- What a guest said about itself. -/
structure GuestBootstrapReport where
  guestRef : Str
  vmid : Int
  attestationRef : Str
  phase : BootstrapPhase
  operationsSucceeded : Bool
  completedOperations : List Str := []
  workloadVersion : Option Str := none
  imageDigest : Option Str := none
  elapsedSeconds : Option Int := none
  deriving DecidableEq

/-- The plan's side of one guest. -/
structure ExpectedGuest where
  guestRef : Str
  vmid : Int
  attestationRef : Str
  workloadVersion : Str
  imageDigest : Str
  requiredOperations : List Str
  deadlineSeconds : Int

structure GuestBootstrapVerdict where
  guestRef : Str
  vmid : Int
  state : BootstrapState
  phase : BootstrapPhase
  detail : Str
  rejection : Option ReportRejection := none

/-! ## The verdict on one guest -/

/-- The verdict while the channel is down. -/
def unreachableVerdict (guest : ExpectedGuest) : GuestBootstrapVerdict :=
  { guestRef := guest.guestRef
    vmid := guest.vmid
    state := .unobserved
    phase := .notStarted
    detail := str ("the bootstrap report channel could not be consulted; this guest's state is " ++
      "unknown and is not being read as either success or failure") }

/-- The report that counts among those that name the guest, or why none does. -/
def acceptedReport (guest : ExpectedGuest) :
    List GuestBootstrapReport → Except (Option ReportRejection) GuestBootstrapReport
  | [] => .error none
  | [report] =>
      if report.attestationRef ≠ guest.attestationRef then .error (some .attestationMismatch)
      else if report.vmid ≠ guest.vmid then .error (some .vmidMismatch)
      else .ok report
  -- of two reports at least one does not come from the guest, and neither is evidence
  | _ :: _ :: _ => .error (some .duplicateReport)

/-- The verdict without a report that counts. -/
def silentVerdict (guest : ExpectedGuest) (elapsedSeconds : Int)
    (rejection : Option ReportRejection) : GuestBootstrapVerdict :=
  { guestRef := guest.guestRef
    vmid := guest.vmid
    state := if guest.deadlineSeconds ≤ elapsedSeconds then .timedOut else .unobserved
    phase := .notStarted
    detail := str "no attributable report " ++ intStr elapsedSeconds ++
      str "s after start (deadline " ++ intStr guest.deadlineSeconds ++ str "s)" ++
      match rejection with
      | none => []
      | some why => str "; a report arrived but was rejected: " ++ why.text
    rejection := rejection }

/-- `sorted(set(required) - set(completed))`. -/
def outstandingOperations (guest : ExpectedGuest) (report : GuestBootstrapReport) : List Str :=
  sortedBy id (guest.requiredOperations.dedup.filter (· ∉ report.completedOperations))

section
variable [Unicode]

/-- The guest's own clock is held against the bound as well. -/
def overrunProblem (guest : ExpectedGuest) : Option Int → List Str
  | none => []
  | some claimed =>
      if claimed ≤ guest.deadlineSeconds then [] else
        [str "the guest itself reports " ++ intStr claimed ++ str "s, beyond its " ++
          intStr guest.deadlineSeconds ++ str "s bound"]

/-- What an accepted report is found to be wrong in. -/
def reportProblems (guest : ExpectedGuest) (report : GuestBootstrapReport) : List Str :=
  (if report.operationsSucceeded then [] else
    [str "the guest reported its bounded operations did not all succeed"]) ++
  (if outstandingOperations guest report = [] then [] else
    [str "operations not completed: " ++ listRepr (outstandingOperations guest report)]) ++
  (if report.workloadVersion = some guest.workloadVersion then [] else
    [str "workload version " ++ optionRepr report.workloadVersion ++ str " is not the pinned " ++
      strRepr guest.workloadVersion]) ++
  (if report.imageDigest = some guest.imageDigest then [] else
    [str "the base-image digest read back does not match the reviewed image"]) ++
  (if report.phase = .workloadServing then [] else
    [str "reached only " ++ report.phase.text]) ++
  overrunProblem guest report.elapsedSeconds

/-- The verdict on a report that counts. -/
def reportVerdict (guest : ExpectedGuest) (report : GuestBootstrapReport) :
    GuestBootstrapVerdict :=
  let problems := reportProblems guest report
  { guestRef := guest.guestRef
    vmid := guest.vmid
    state := if problems.isEmpty then .ready else .failed
    phase := report.phase
    detail :=
      if problems.isEmpty then
        str "reported serving " ++ guest.workloadVersion ++ str " at the pinned digest after " ++
          natStr report.completedOperations.length ++ str " bounded operation(s)"
      else join (str "; ") problems }

/-- One turn of the loop over the guests. -/
def guestVerdict (elapsedSeconds : Int) (guest : ExpectedGuest)
    (candidates : List GuestBootstrapReport) : GuestBootstrapVerdict :=
  match acceptedReport guest candidates with
  | .error rejection => silentVerdict guest elapsedSeconds rejection
  | .ok report => reportVerdict guest report

/-- `evaluate_bootstrap`. -/
def evaluateBootstrap (expected : List ExpectedGuest) (reports : List GuestBootstrapReport)
    (channelReachable : Bool) (elapsedSeconds : Int) : List GuestBootstrapVerdict :=
  if !channelReachable then (sortedBy ExpectedGuest.guestRef expected).map unreachableVerdict
  else
    let byRef := Dict.groupBy GuestBootstrapReport.guestRef reports
    (sortedBy ExpectedGuest.guestRef expected).map fun guest =>
      guestVerdict elapsedSeconds guest ((byRef.get? guest.guestRef).getD [])

end

/-! ## What a report is -/

/-- The report carries the attestation and the vmid of the guest. -/
structure GuestBootstrapReport.Attests (report : GuestBootstrapReport) (guest : ExpectedGuest) :
    Prop where
  attestation : report.attestationRef = guest.attestationRef
  vmid : report.vmid = guest.vmid

instance (report : GuestBootstrapReport) (guest : ExpectedGuest) :
    Decidable (report.Attests guest) :=
  decidable_of_iff (report.attestationRef = guest.attestationRef ∧ report.vmid = guest.vmid)
    ⟨fun h => ⟨h.1, h.2⟩, fun h => ⟨h.1, h.2⟩⟩

/-- The report says that the guest serves the pinned workload. -/
structure GuestBootstrapReport.Succeeds (report : GuestBootstrapReport) (guest : ExpectedGuest) :
    Prop where
  operations : report.operationsSucceeded = true
  completed : ∀ operation ∈ guest.requiredOperations, operation ∈ report.completedOperations
  version : report.workloadVersion = some guest.workloadVersion
  digest : report.imageDigest = some guest.imageDigest
  phase : report.phase = .workloadServing

/-- The reports that name the guest. -/
def naming (guest : ExpectedGuest) (reports : List GuestBootstrapReport) :
    List GuestBootstrapReport :=
  reports.filter fun report => report.guestRef = guest.guestRef

theorem get?_groupBy_guestRef (guest : ExpectedGuest) (reports : List GuestBootstrapReport) :
    ((Dict.groupBy GuestBootstrapReport.guestRef reports).get? guest.guestRef).getD [] =
      naming guest reports := by
  show (Dict.get? (Dict.pushAll _ [] reports) guest.guestRef).getD [] = _
  rw [Dict.get?_pushAll]
  by_cases hnamed : guest.guestRef ∈ reports.map GuestBootstrapReport.guestRef
  · rw [if_pos hnamed]
    rfl
  · rw [if_neg hnamed]
    refine (List.filter_eq_nil_iff.mpr fun report hreport hname => hnamed ?_).symm
    exact List.mem_map.mpr ⟨report, hreport, of_decide_eq_true hname⟩

/-- A report counts exactly when it is alone in naming the guest, and attests it. -/
theorem acceptedReport_eq_ok_iff {guest : ExpectedGuest} {candidates : List GuestBootstrapReport}
    {report : GuestBootstrapReport} :
    acceptedReport guest candidates = .ok report ↔
      candidates = [report] ∧ report.Attests guest := by
  cases candidates with
  | nil => simp [acceptedReport]
  | cons candidate rest =>
      cases rest with
      | cons _ _ => simp [acceptedReport]
      | nil =>
          have hsole : ([candidate] = [report] ∧ report.Attests guest) ↔
              candidate.Attests guest ∧ candidate = report := by
            constructor
            · intro h
              rw [List.cons.injEq] at h
              exact ⟨h.1.1 ▸ h.2, h.1.1⟩
            · intro h
              exact ⟨by rw [h.2], h.2 ▸ h.1⟩
          rw [hsole]
          unfold acceptedReport
          by_cases hattestation : candidate.attestationRef = guest.attestationRef
          · by_cases hvmid : candidate.vmid = guest.vmid
            · simp [hattestation, hvmid,
                show candidate.Attests guest from ⟨hattestation, hvmid⟩]
            · simp [hattestation, hvmid,
                show ¬ candidate.Attests guest from fun h => hvmid h.vmid]
          · simp [hattestation,
              show ¬ candidate.Attests guest from fun h => hattestation h.attestation]

theorem outstandingOperations_eq_nil_iff {guest : ExpectedGuest} {report : GuestBootstrapReport} :
    outstandingOperations guest report = [] ↔
      ∀ operation ∈ guest.requiredOperations, operation ∈ report.completedOperations := by
  rw [outstandingOperations, ← List.length_eq_zero_iff, (sortedBy_perm _ _).length_eq,
    List.length_eq_zero_iff, List.filter_eq_nil_iff]
  simp

section
variable [Unicode] {guest : ExpectedGuest} {report : GuestBootstrapReport}
  {reports reports' : List GuestBootstrapReport} {elapsedSeconds : Int}

omit [Unicode] in
theorem overrunProblem_eq_nil_iff {claimed : Option Int} :
    overrunProblem guest claimed = [] ↔
      ∀ seconds, claimed = some seconds → seconds ≤ guest.deadlineSeconds := by
  cases claimed with
  | none => simp [overrunProblem]
  | some claimed => simp [overrunProblem]

theorem reportProblems_isEmpty_iff :
    (reportProblems guest report).isEmpty = true ↔
      report.Succeeds guest ∧
        ∀ claimed, report.elapsedSeconds = some claimed → claimed ≤ guest.deadlineSeconds := by
  unfold reportProblems
  simp only [List.isEmpty_iff, List.append_eq_nil_iff, ite_eq_left_iff, imp_false, not_not,
    List.cons_ne_nil, outstandingOperations_eq_nil_iff, overrunProblem_eq_nil_iff]
  constructor
  · intro h
    obtain ⟨⟨⟨⟨⟨hoperations, hcompleted⟩, hversion⟩, hdigest⟩, hphase⟩, helapsed⟩ := h
    exact ⟨⟨hoperations, hcompleted, hversion, hdigest, hphase⟩, helapsed⟩
  · intro hboth
    obtain ⟨h, helapsed⟩ := hboth
    exact ⟨⟨⟨⟨⟨h.operations, h.completed⟩, h.version⟩, h.digest⟩, h.phase⟩, helapsed⟩

/-- A single report names the guest; it attests it, says that everything succeeded and claims no time
beyond the deadline. -/
def SoleSuccess (guest : ExpectedGuest) (reports : List GuestBootstrapReport) : Prop :=
  ∃ report, naming guest reports = [report] ∧ report.Attests guest ∧ report.Succeeds guest ∧
    ∀ claimed, report.elapsedSeconds = some claimed → claimed ≤ guest.deadlineSeconds

/-- A guest is ready exactly on a sole success: the caller's clock is not asked. -/
theorem guestVerdict_ready_iff :
    (guestVerdict elapsedSeconds guest (naming guest reports)).state = .ready ↔
      SoleSuccess guest reports := by
  unfold guestVerdict
  cases hcase : acceptedReport guest (naming guest reports) with
  | error rejection =>
      refine iff_of_false ?_ ?_
      · show (if _ then BootstrapState.timedOut else .unobserved) ≠ _
        split <;> simp
      · intro hsole
        obtain ⟨report, hnaming, hattests, _⟩ := hsole
        rw [acceptedReport_eq_ok_iff.mpr ⟨hnaming, hattests⟩] at hcase
        cases hcase
  | ok report =>
      obtain ⟨hnaming, hattests⟩ := acceptedReport_eq_ok_iff.mp hcase
      show (if (reportProblems guest report).isEmpty then BootstrapState.ready else .failed) = _ ↔ _
      rw [ite_eq_left_iff, SoleSuccess]
      simp only [reduceCtorEq, imp_false, not_not, hnaming, List.cons.injEq, and_true,
        exists_eq_left', hattests, true_and]
      exact reportProblems_isEmpty_iff

/-- Every verdict is the one on its guest, over the reports that name it. -/
theorem evaluateBootstrap_eq {expected : List ExpectedGuest} {channelReachable : Bool} :
    evaluateBootstrap expected reports channelReachable elapsedSeconds =
      (sortedBy ExpectedGuest.guestRef expected).map fun guest =>
        if channelReachable then guestVerdict elapsedSeconds guest (naming guest reports)
        else unreachableVerdict guest := by
  unfold evaluateBootstrap
  cases channelReachable with
  | false => rfl
  | true =>
      refine List.map_congr_left fun guest _ => ?_
      rw [get?_groupBy_guestRef]
      rfl

end

/-! ## Readiness -/

/-- What a ready guest rests on. -/
structure ReadinessEvidence (guest : ExpectedGuest) (reports : List GuestBootstrapReport)
    (channelReachable : Bool) (elapsedSeconds : Int) : Prop where
  channel : channelReachable = true
  report : ∃ report, naming guest reports = [report] ∧ report.Attests guest ∧
    report.Succeeds guest
  deadline : elapsedSeconds ≤ guest.deadlineSeconds

/-- A ready guest rests on its evidence exactly if no sole success came in after the guest's deadline
was over by the caller's clock. -/
theorem evaluateBootstrap_sound_iff [Unicode] (expected : List ExpectedGuest)
    (reports : List GuestBootstrapReport) (channelReachable : Bool) (elapsedSeconds : Int) :
    List.Forall₂ (fun guest verdict => verdict.state = .ready →
        ReadinessEvidence guest reports channelReachable elapsedSeconds)
      (sortedBy ExpectedGuest.guestRef expected)
      (evaluateBootstrap expected reports channelReachable elapsedSeconds) ↔
    (channelReachable = true → ∀ guest ∈ expected, guest.deadlineSeconds < elapsedSeconds →
      ¬ SoleSuccess guest reports) := by
  rw [evaluateBootstrap_eq, List.forall₂_map_right_iff, List.forall₂_same]
  simp only [mem_sortedBy]
  cases channelReachable with
  | false =>
      refine iff_of_true (fun guest _ hready => ?_) (fun h => absurd h Bool.false_ne_true)
      cases hready
  | true =>
      simp only [if_true, guestVerdict_ready_iff, true_implies]
      refine forall₂_congr fun guest _ => ?_
      constructor
      · intro hsound hlate hsole
        have hdeadline := (hsound hsole).deadline
        omega
      · intro hlate hsole
        obtain ⟨report, hnaming, hattests, hsucceeds, _⟩ := id hsole
        refine ⟨rfl, ⟨report, hnaming, hattests, hsucceeds⟩, ?_⟩
        by_contra hover
        exact hlate (by omega) hsole

/-- A guest with a bound of ten minutes. -/
def boundedGuest : ExpectedGuest :=
  { guestRef := str "g", vmid := 101, attestationRef := str "a", workloadVersion := str "1"
    imageDigest := str "d", requiredOperations := [], deadlineSeconds := 600 }

/-- Its report claims that a minute passed. -/
def timelyReport : GuestBootstrapReport :=
  { guestRef := str "g", vmid := 101, attestationRef := str "a", phase := .workloadServing
    operationsSucceeded := true, workloadVersion := some (str "1"), imageDigest := some (str "d")
    elapsedSeconds := some 60 }

theorem timelyReport_soleSuccess : SoleSuccess boundedGuest [timelyReport] := by
  refine ⟨timelyReport, ?_, ⟨rfl, rfl⟩, ⟨rfl, ?_, rfl, rfl, rfl⟩, ?_⟩
  · simp [naming, timelyReport, boundedGuest]
  · simp [boundedGuest]
  · intro claimed hclaimed
    cases hclaimed
    show (60 : Int) ≤ 600
    omega

/-- By the caller's clock an hour passed, and the guest is ready. -/
theorem late_guest_ready :
    ∃ (expected : List ExpectedGuest) (reports : List GuestBootstrapReport)
      (channelReachable : Bool) (elapsedSeconds : Int),
      ¬ List.Forall₂ (fun guest verdict => verdict.state = .ready →
          ReadinessEvidence guest reports channelReachable elapsedSeconds)
        (sortedBy ExpectedGuest.guestRef expected)
        (@evaluateBootstrap Unicode.ascii expected reports channelReachable elapsedSeconds) := by
  let _ := Unicode.ascii
  refine ⟨[boundedGuest], [timelyReport], true, 3600, ?_⟩
  rw [evaluateBootstrap_eq]
  show ¬ List.Forall₂ _ [boundedGuest] [guestVerdict 3600 boundedGuest _]
  rw [List.forall₂_cons]
  intro h
  have hlate := (h.1 (guestVerdict_ready_iff.mpr timelyReport_soleSuccess)).deadline
  exact absurd hlate (by decide)

/-! ## Reports that cannot be attributed -/

/-- The report names an expected guest and attests it. -/
def attributable (expected : List ExpectedGuest) (report : GuestBootstrapReport) : Bool :=
  expected.any fun guest => report.guestRef = guest.guestRef && report.Attests guest

/-- The state of a guest in a list of verdicts. -/
def stateOf (verdicts : List GuestBootstrapVerdict) (guestRef : Str) : Option BootstrapState :=
  (verdicts.find? fun verdict => verdict.guestRef = guestRef).map GuestBootstrapVerdict.state

/-- A report that names the guest does not attest it. -/
def Forged (guest : ExpectedGuest) (reports : List GuestBootstrapReport) : Prop :=
  ∃ report ∈ naming guest reports, ¬ report.Attests guest

section
variable [Unicode] {expected : List ExpectedGuest} {guest : ExpectedGuest}
  {reports reports' : List GuestBootstrapReport} {channelReachable : Bool} {elapsedSeconds : Int}

theorem guestRef_guestVerdict (candidates : List GuestBootstrapReport) :
    (guestVerdict elapsedSeconds guest candidates).guestRef = guest.guestRef := by
  unfold guestVerdict
  cases acceptedReport guest candidates <;> rfl

/-- Where the guests have different names, each has its own verdict's state. -/
theorem stateOf_evaluateBootstrap (hrefs : (expected.map ExpectedGuest.guestRef).Nodup)
    (hguest : guest ∈ expected) :
    stateOf (evaluateBootstrap expected reports channelReachable elapsedSeconds)
        guest.guestRef =
      some (if channelReachable then
          (guestVerdict elapsedSeconds guest (naming guest reports)).state
        else .unobserved) := by
  have hsorted := ((sortedBy_perm ExpectedGuest.guestRef expected).map
    ExpectedGuest.guestRef).nodup_iff.mpr hrefs
  rw [stateOf, evaluateBootstrap_eq, List.find?_map]
  have hname : ((fun verdict : GuestBootstrapVerdict => decide (verdict.guestRef = guest.guestRef)) ∘
      fun guest => if channelReachable then
          guestVerdict elapsedSeconds guest (naming guest reports)
        else unreachableVerdict guest) =
      fun other => decide (other.guestRef = guest.guestRef) := by
    funext other
    cases channelReachable with
    | false => rfl
    | true => simp [guestRef_guestVerdict]
  rw [hname, find?_of_nodup hsorted (mem_sortedBy.mpr hguest)]
  cases channelReachable <;> rfl

omit [Unicode] in
/-- The attributable reports that name a guest are those that attest it. -/
theorem naming_filter_attributable (hrefs : (expected.map ExpectedGuest.guestRef).Nodup)
    (hguest : guest ∈ expected) :
    naming guest (reports.filter (attributable expected)) =
      (naming guest reports).filter fun report => report.Attests guest := by
  rw [naming, naming, List.filter_filter, List.filter_filter]
  refine List.filter_congr fun report _ => ?_
  by_cases hname : report.guestRef = guest.guestRef
  · have hsame : attributable expected report = decide (report.Attests guest) := by
      rw [attributable, Bool.eq_iff_iff, List.any_eq_true, decide_eq_true_eq]
      constructor
      · intro hany
        obtain ⟨other, hother, hboth⟩ := hany
        rw [Bool.and_eq_true, decide_eq_true_eq, decide_eq_true_eq] at hboth
        have heq : other = guest :=
          List.inj_on_of_nodup_map hrefs hother hguest (hboth.1.symm.trans hname)
        exact heq ▸ hboth.2
      · intro hattests
        exact ⟨guest, hguest, by simp [hname, hattests]⟩
    simp [hname, hsame]
  · simp [hname]

omit [Unicode] in
/-- The report that attests a guest counts exactly when nothing forged names the guest. -/
theorem acceptedReport_eq_ok_iff_forged {report : GuestBootstrapReport} :
    acceptedReport guest (naming guest reports) = .ok report ↔
      ((naming guest reports).filter fun report => report.Attests guest) = [report] ∧
        ¬ Forged guest reports := by
  rw [acceptedReport_eq_ok_iff, Forged]
  constructor
  · intro h
    rw [h.1]
    simp [h.2]
  · intro h
    have hall : ∀ other ∈ naming guest reports, other.Attests guest := by
      simpa using h.2
    have hself := List.filter_eq_self.mpr fun other hother => decide_eq_true (hall other hother)
    rw [hself] at h
    exact ⟨h.1, hall report (by rw [h.1]; exact List.mem_singleton_self report)⟩

/-- A guest whose reports are not evidence has the state that the bound gives. -/
theorem state_of_not_accepted {candidates : List GuestBootstrapReport}
    (h : ∀ report, acceptedReport guest candidates ≠ .ok report) :
    (guestVerdict elapsedSeconds guest candidates).state =
      if guest.deadlineSeconds ≤ elapsedSeconds then .timedOut else .unobserved := by
  unfold guestVerdict
  cases hcase : acceptedReport guest candidates with
  | error rejection => rfl
  | ok report => exact absurd hcase (h report)

theorem state_of_accepted {candidates : List GuestBootstrapReport} {report : GuestBootstrapReport}
    (h : acceptedReport guest candidates = .ok report) :
    (guestVerdict elapsedSeconds guest candidates).state =
      if (reportProblems guest report).isEmpty then .ready else .failed := by
  unfold guestVerdict
  rw [h]
  rfl

/-- A guest that one report attests has another state once a forged report names it too. -/
theorem state_eq_iff_forged {report : GuestBootstrapReport}
    (h : ((naming guest reports).filter fun report => report.Attests guest) = [report])
    (h' : ((naming guest reports').filter fun report => report.Attests guest) = [report]) :
    (guestVerdict elapsedSeconds guest (naming guest reports)).state =
        (guestVerdict elapsedSeconds guest (naming guest reports')).state ↔
      (Forged guest reports ↔ Forged guest reports') := by
  have hother {reports : List GuestBootstrapReport} (hforged : Forged guest reports) :=
    @state_of_not_accepted _ guest elapsedSeconds _ fun report haccepted =>
      (acceptedReport_eq_ok_iff_forged.mp haccepted).2 hforged
  by_cases hforged : Forged guest reports
  · by_cases hforged' : Forged guest reports'
    · rw [hother hforged, hother hforged']
      exact iff_of_true rfl (iff_of_true hforged hforged')
    · rw [hother hforged, state_of_accepted (acceptedReport_eq_ok_iff_forged.mpr ⟨h', hforged'⟩)]
      refine iff_of_false ?_ fun hboth => hforged' (hboth.mp hforged)
      split <;> split <;> simp
  · by_cases hforged' : Forged guest reports'
    · rw [hother hforged', state_of_accepted (acceptedReport_eq_ok_iff_forged.mpr ⟨h, hforged⟩)]
      refine iff_of_false ?_ fun hboth => hforged (hboth.mpr hforged')
      split <;> split <;> simp
    · rw [state_of_accepted (acceptedReport_eq_ok_iff_forged.mpr ⟨h, hforged⟩),
        state_of_accepted (acceptedReport_eq_ok_iff_forged.mpr ⟨h', hforged'⟩)]
      exact iff_of_true rfl (iff_of_false hforged hforged')

/-- Two tuples with the same attributable reports give a guest the same state unless the channel was
up, a single report attests the guest and exactly one of the tuples has a forged report that names
it. -/
theorem stateOf_eq_iff (hrefs : (expected.map ExpectedGuest.guestRef).Nodup)
    (hsame : (reports.filter (attributable expected)).Perm
      (reports'.filter (attributable expected)))
    (hguest : guest ∈ expected) :
    stateOf (evaluateBootstrap expected reports channelReachable elapsedSeconds)
        guest.guestRef =
      stateOf (evaluateBootstrap expected reports' channelReachable elapsedSeconds)
        guest.guestRef ↔
    (channelReachable = true →
      (naming guest (reports.filter (attributable expected))).length = 1 →
      (Forged guest reports ↔ Forged guest reports')) := by
  rw [stateOf_evaluateBootstrap hrefs hguest, stateOf_evaluateBootstrap hrefs hguest,
    Option.some.injEq]
  cases channelReachable with
  | false => simp
  | true =>
      simp only [if_true, true_implies]
      have hattesting : ((naming guest reports).filter fun report => report.Attests guest).Perm
          ((naming guest reports').filter fun report => report.Attests guest) := by
        rw [← naming_filter_attributable hrefs hguest, ← naming_filter_attributable hrefs hguest]
        exact hsame.filter _
      rw [naming_filter_attributable hrefs hguest]
      by_cases hone :
          ((naming guest reports).filter fun report => report.Attests guest).length = 1
      · obtain ⟨report, hreport⟩ := List.length_eq_one_iff.mp hone
        have hreport' := hattesting.symm
        rw [hreport] at hreport'
        rw [state_eq_iff_forged hreport (List.perm_singleton.mp hreport')]
        exact ⟨fun h _ => h, fun h => h hone⟩
      · -- with none or with two of them nothing counts on either side
        have hother {reports : List GuestBootstrapReport}
            (hmany : ((naming guest reports).filter fun report =>
              report.Attests guest).length ≠ 1) :=
          @state_of_not_accepted _ guest elapsedSeconds _ fun report haccepted =>
            hmany (congrArg List.length (acceptedReport_eq_ok_iff_forged.mp haccepted).1)
        rw [hother hone, hother (hattesting.length_eq ▸ hone)]
        exact iff_of_true rfl fun h => absurd h hone

end

/-- A report in the name of the guest that does not have its attestation. -/
def forgedReport : GuestBootstrapReport := { timelyReport with attestationRef := str "b" }

theorem filter_forgedReport :
    [timelyReport, forgedReport].filter (attributable [boundedGuest]) =
      [timelyReport].filter (attributable [boundedGuest]) := by
  have hne : str "b" ≠ str "a" := by with_unfolding_all decide
  have hforged : attributable [boundedGuest] forgedReport = false := by
    simp [attributable, show ¬ forgedReport.Attests boundedGuest from fun h => hne h.attestation]
  simp [List.filter_cons, hforged]

theorem state_timelyReport [Unicode] :
    (guestVerdict 60 boundedGuest (naming boundedGuest [timelyReport])).state = .ready :=
  guestVerdict_ready_iff.mpr timelyReport_soleSuccess

theorem naming_forgedReport :
    naming boundedGuest [timelyReport, forgedReport] = [timelyReport, forgedReport] := by
  simp [naming, forgedReport, timelyReport, boundedGuest]

/-- The forged report takes the readiness of the guest away. -/
theorem forged_report_counts :
    ∃ (expected : List ExpectedGuest) (reports reports' : List GuestBootstrapReport)
      (channelReachable : Bool) (elapsedSeconds : Int) (guest : ExpectedGuest),
      (expected.map ExpectedGuest.guestRef).Nodup ∧
      (expected.map ExpectedGuest.attestationRef).Nodup ∧
      (reports.filter (attributable expected)).Perm (reports'.filter (attributable expected)) ∧
      guest ∈ expected ∧
      stateOf (@evaluateBootstrap Unicode.ascii expected reports channelReachable elapsedSeconds)
          guest.guestRef ≠
        stateOf (@evaluateBootstrap Unicode.ascii expected reports' channelReachable
          elapsedSeconds) guest.guestRef := by
  let _ := Unicode.ascii
  have hrefs : ([boundedGuest].map ExpectedGuest.guestRef).Nodup := List.nodup_singleton _
  have hmem : boundedGuest ∈ [boundedGuest] := List.mem_singleton_self _
  refine ⟨[boundedGuest], [timelyReport], [timelyReport, forgedReport], true, 60, boundedGuest,
    hrefs, List.nodup_singleton _, ?_, hmem, ?_⟩
  · rw [filter_forgedReport]
  · rw [stateOf_evaluateBootstrap hrefs hmem, stateOf_evaluateBootstrap hrefs hmem,
      naming_forgedReport, if_pos rfl, if_pos rfl, state_timelyReport]
    simp [guestVerdict, acceptedReport, silentVerdict, boundedGuest]

/-- A report from nowhere, next to the genuine one: the state stays. -/
theorem stray_report_same_state :
    stateOf (@evaluateBootstrap Unicode.ascii [boundedGuest] [timelyReport] true 60)
        boundedGuest.guestRef =
      stateOf (@evaluateBootstrap Unicode.ascii [boundedGuest]
        [{ timelyReport with guestRef := str "h" }, timelyReport] true 60)
        boundedGuest.guestRef := by
  let _ := Unicode.ascii
  have hne : str "h" ≠ str "g" := by with_unfolding_all decide
  have hrefs : ([boundedGuest].map ExpectedGuest.guestRef).Nodup := List.nodup_singleton _
  have hstray : naming boundedGuest [{ timelyReport with guestRef := str "h" }, timelyReport] =
      naming boundedGuest [timelyReport] := by
    simp [naming, boundedGuest, hne]
  have hsame : [timelyReport].filter (attributable [boundedGuest]) =
      [{ timelyReport with guestRef := str "h" }, timelyReport].filter
        (attributable [boundedGuest]) := by
    have hstranger : attributable [boundedGuest] { timelyReport with guestRef := str "h" } =
        false := by
      simp [attributable, boundedGuest, hne]
    simp [List.filter_cons, hstranger]
  refine (stateOf_eq_iff hrefs ?_ (List.mem_singleton_self _)).mpr fun _ _ => ?_
  · rw [hsame]
  · rw [Forged, Forged, hstray]

end Secp.Worker
