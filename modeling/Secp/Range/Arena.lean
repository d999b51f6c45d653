import Secp.Range.Play
import Secp.Range.Submission

/-!
# Submissions side by side

Any number of `submit_flag` calls are in flight next to the other transactions of a range. Each of a
call's selects sees the rows committed by then; what it writes becomes visible when it commits, and
the unique constraint of the award ledger is checked against the awards committed by others. A call
may fail at any point and leaves nothing behind.
-/

namespace Secp.Range

open Secp.Python Secp.Logic

/-! ## Steps -/

/-- The committed rows of a range, the calls in flight, and the comparisons made since the scores were
last reset. Nothing reads the comparisons: they are there to be counted. -/
structure Arena where
  range : RangeInstance
  calls : List SubmitCall
  compared : List (Str × Str)

/-- The team and the challenge of a call. -/
def SubmitCall.pair (call : SubmitCall) : Str × Str := (call.team.id, call.challenge.id)

/-- The commit resets the scores. -/
def Commit.clearsScores : Commit → Bool
  | .broughtUp _ reset _ => reset
  | _ => false

/-- The transaction resets the scores. -/
def Action.clearsScores (range : RangeInstance) : Action → Bool
  | .execute operationId expected attempt =>
      match resolveOperation range operationId expected with
      | .ok op => (attempt.commits op).any Commit.clearsScores
      | .error _ => false
  | _ => false

namespace Arena

/-- Whose turn it is. -/
inductive Move where
  | act (action : Action)
  | resetScores (principal : Principal)
  | resetScoresForRange
  | submit (principal : Principal) (teamId challengeId value : Str)
  | advance (call : SubmitCall)
  | fail (call : SubmitCall)

/-- A select that only reads. -/
def reading : SubmitStage → Bool
  | .counting => true
  | .lookingForAward _ => true
  | .lookingForDuplicate _ => true
  | _ => false

/-- The submission a call is about to commit on its own. -/
def pendingVerdict : SubmitStage → Option SubmissionVerdict
  | .recording verdict _ => some verdict
  | .downgrading _ => some .alreadySolved
  | _ => none

section
variable [Unicode]

inductive Step (board : Board) : Arena → Move → Arena → Prop
  | act {range calls compared} (action : Action) :
      Step board ⟨range, calls, compared⟩ (.act action)
        ⟨range.act action, calls, if action.clearsScores range then [] else compared⟩
  | resetScores {range range' calls compared principal}
      (hreset : Range.resetScores range principal = .ok range') :
      Step board ⟨range, calls, compared⟩ (.resetScores principal) ⟨range', calls, []⟩
  | resetScoresForRange {range calls compared} :
      Step board ⟨range, calls, compared⟩ .resetScoresForRange ⟨range.resetScores, calls, []⟩
  | submit {range calls compared principal teamId challengeId value call}
      (hopen : openSubmission board range principal teamId challengeId value = .ok call) :
      Step board ⟨range, calls, compared⟩ (.submit principal teamId challengeId value)
        ⟨range, calls ++ [call], compared⟩
  | select {range compared competition} (before : List SubmitCall) (call : SubmitCall)
      (after : List SubmitCall)
      (hcompetition : range.competition = some competition) (hstage : reading call.stage = true) :
      Step board ⟨range, before ++ call :: after, compared⟩ (.advance call)
        ⟨range, before ++ { call with stage := call.next competition } :: after, compared⟩
  | compare {range compared competition attemptsUsed} (before : List SubmitCall) (call : SubmitCall)
      (after : List SubmitCall)
      (hcompetition : range.competition = some competition)
      (hstage : call.stage = .comparing attemptsUsed) :
      Step board ⟨range, before ++ call :: after, compared⟩ (.advance call)
        ⟨range, before ++ { call with stage := call.next competition } :: after,
          call.pair :: compared⟩
  | record {range compared verdict} (before : List SubmitCall) (call : SubmitCall)
      (after : List SubmitCall)
      (hstage : pendingVerdict call.stage = some verdict) :
      Step board ⟨range, before ++ call :: after, compared⟩ (.advance call)
        ⟨range.recordSubmission (call.submission verdict 0), before ++ after, compared⟩
  | award {range compared competition attemptsRemaining} (before : List SubmitCall)
      (call : SubmitCall) (after : List SubmitCall) (now : Datetime)
      (hcompetition : range.competition = some competition)
      (hstage : call.stage = .awarding attemptsRemaining)
      (hunique : competition.awarded call.team.id call.challenge.id = false) :
      Step board ⟨range, before ++ call :: after, compared⟩ (.advance call)
        ⟨range.award call now, before ++ after, compared⟩
  | downgrade {range compared competition attemptsRemaining} (before : List SubmitCall) (call : SubmitCall)
      (after : List SubmitCall)
      (hcompetition : range.competition = some competition)
      (hstage : call.stage = .awarding attemptsRemaining)
      (hheld : competition.awarded call.team.id call.challenge.id = true) :
      Step board ⟨range, before ++ call :: after, compared⟩ (.advance call)
        ⟨range, before ++ { call with stage := .downgrading attemptsRemaining } :: after, compared⟩
  | fail {range compared} (before : List SubmitCall) (call : SubmitCall)
      (after : List SubmitCall) :
      Step board ⟨range, before ++ call :: after, compared⟩ (.fail call)
        ⟨range, before ++ after, compared⟩

/-- Some number of steps, each from a state and by a move that meet a condition. -/
def Steps (board : Board) (P : Arena → Move → Prop) : Arena → Arena → Prop :=
  Relation.ReflTransGen fun arena arena' => ∃ move, P arena move ∧ Step board arena move arena'

end

end Arena

/-! ## What a select leads to -/

section
variable [Unicode]

/-- A select goes on to the next one, lets the call through to the flags, or settles what the call
records without a comparison. -/
theorem next_select {call : SubmitCall} (c : Competition) (h : Arena.reading call.stage = true) :
    (call.stage = .counting ∧ call.competitionState = .running ∧
        call.next c = .lookingForAward (c.attemptsUsed call.team.id call.challenge.id)) ∨
      (∃ used, call.stage = .lookingForAward used ∧ call.next c = .lookingForDuplicate used) ∨
      (∃ used, call.stage = .lookingForDuplicate used ∧ used < call.challenge.maxAttempts ∧
        call.next c = .comparing used) ∨
      ∃ verdict remaining, verdict ≠ .accepted ∧ verdict ≠ .incorrect ∧
        (call.stage = .counting → verdict = .notOpen) ∧
          call.next c = .recording verdict remaining := by
  unfold SubmitCall.next
  cases hstage : call.stage with
  | counting =>
      dsimp only
      by_cases hclosed : call.competitionState ≠ .running
      · rw [if_pos hclosed]
        exact .inr (.inr (.inr ⟨.notOpen, _, by decide, by decide, fun _ => rfl, rfl⟩))
      · rw [if_neg hclosed]
        exact .inl ⟨rfl, not_not.mp hclosed, rfl⟩
  | lookingForAward used =>
      dsimp only
      by_cases hheld : c.awarded call.team.id call.challenge.id = true
      · rw [if_pos hheld]
        exact .inr (.inr (.inr ⟨.alreadySolved, _, by decide, by decide, (fun h => by cases h), rfl⟩))
      · rw [if_neg hheld]
        exact .inr (.inl ⟨used, rfl, rfl⟩)
  | lookingForDuplicate used =>
      dsimp only
      by_cases htried : c.tried call.team.id call.challenge.id call.fingerprint = true
      · rw [if_pos htried]
        exact .inr (.inr (.inr ⟨.duplicate, _, by decide, by decide, (fun h => by cases h), rfl⟩))
      · rw [if_neg htried]
        by_cases hexhausted : call.challenge.maxAttempts ≤ used
        · rw [if_pos hexhausted]
          exact .inr (.inr (.inr ⟨.attemptsExhausted, _, by decide, by decide, (fun h => by cases h), rfl⟩))
        · rw [if_neg hexhausted]
          exact .inr (.inr (.inl ⟨used, rfl, not_le.mp hexhausted, rfl⟩))
  | comparing used =>
      rw [hstage] at h
      cases h
  | recording verdict remaining =>
      rw [hstage] at h
      cases h
  | awarding remaining =>
      rw [hstage] at h
      cases h
  | downgrading remaining =>
      rw [hstage] at h
      cases h

/-- A comparison leads to the award or to the record of a wrong answer. -/
theorem next_compare {call : SubmitCall} (c : Competition) {used : Nat}
    (hstage : call.stage = .comparing used) :
    call.next c = .awarding (call.remaining (used + 1)) ∨
      call.next c = .recording .incorrect (call.remaining (used + 1)) := by
  unfold SubmitCall.next
  rw [hstage]
  by_cases hsolved : call.challenge.solvedBy call.value = true
  · exact .inl (if_pos hsolved)
  · exact .inr (if_neg hsolved)

end

/-! ## What the other transactions do to the ledger -/

/-- How a transaction changes the submissions and awards of a competition, and whether it resets
them. A competition that is not a draft never becomes one. -/
inductive LedgerStep : Bool → Option Competition → Option Competition → Prop
  | absent {clears} : LedgerStep clears none none
  | created {c} (hstate : c.state = .draft) (hscores : c.scores = [])
      (hsubmissions : c.submissions = []) : LedgerStep false none (some c)
  | kept {c c'} (hscores : c'.scores = c.scores) (hsubmissions : c'.submissions = c.submissions)
      (hstate : c'.state = .draft → c.state = .draft) : LedgerStep false (some c) (some c')
  | cleared {c c'} (hscores : c'.scores = []) (hsubmissions : c'.submissions = [])
      (hstate : c'.state = c.state) : LedgerStep true (some c) (some c')
  | deleted {c c'} (teamId : Str) (hdraft : c.state = .draft) (hstate : c'.state = .draft)
      (hscores : c'.scores = c.scores.filter fun s => s.teamId ≠ teamId)
      (hsubmissions : c'.submissions = c.submissions.filter fun s => s.teamId ≠ teamId) :
      LedgerStep false (some c) (some c')

theorem LedgerStep.refl (competition : Option Competition) :
    LedgerStep false competition competition := by
  cases competition with
  | none => exact .absent
  | some c => exact .kept rfl rfl id

theorem ledgerStep_resetScores (range : RangeInstance) :
    LedgerStep true range.competition range.resetScores.competition := by
  show LedgerStep true range.competition (range.competition.map _)
  cases range.competition with
  | none => exact .absent
  | some c => exact .cleared rfl rfl rfl

theorem resetScores_competition (range : RangeInstance) :
    range.resetScores.competition =
      range.competition.map fun c => { c with scores := [], submissions := [] } := rfl

/-- A service that raises leaves the ledger alone. -/
theorem ledgerStep_commitOr {range : RangeInstance} {result : Except DomainError RangeInstance}
    (h : ∀ range', result = .ok range' → LedgerStep false range.competition range'.competition) :
    LedgerStep false range.competition (range.commitOr result).competition := by
  cases result with
  | ok range' => exact h range' rfl
  | error e => exact .refl _

/-- A commit of a worker leaves the competition alone unless it resets the scores. -/
theorem Commit.competition_apply_eq (c : Commit) (operationId : Str) (range : RangeInstance) :
    (c.apply operationId range).competition =
      if c.clearsScores then range.resetScores.competition else range.competition := by
  cases c with
  | broughtUp result reset now =>
      show (range.runBringUp operationId result reset now).competition = if reset then _ else _
      unfold RangeInstance.runBringUp
      cases result.ok <;> cases reset <;> rfl
  | tornDown result now =>
      show (range.runDestroy operationId result now).competition = _
      rw [competition_runDestroy]
      rfl
  | _ => rfl

theorem competition_applyCommits_eq (operationId : Str) (range : RangeInstance)
    (commits : List Commit) :
    (applyCommits operationId range commits).competition =
      if commits.any Commit.clearsScores then range.resetScores.competition
      else range.competition := by
  induction commits generalizing range with
  | nil => rfl
  | cons c rest ih =>
      have hrest := ih (c.apply operationId range)
      rw [resetScores_competition, c.competition_apply_eq operationId range] at hrest
      show (applyCommits operationId (c.apply operationId range) rest).competition =
        if c.clearsScores || rest.any Commit.clearsScores then _ else _
      rw [hrest, resetScores_competition]
      cases c.clearsScores
      · rfl
      · -- a ledger that is cleared twice is cleared
        cases rest.any Commit.clearsScores <;> cases range.competition <;> rfl

section
variable [Unicode]

/-- What a transaction of the range does to the ledger. -/
theorem ledgerStep_act (range : RangeInstance) (action : Action) :
    LedgerStep (action.clearsScores range) range.competition (range.act action).competition := by
  cases action with
  | start principal kind operationId now =>
      refine ledgerStep_commitOr fun _ hok => ?_
      obtain ⟨-, -, -, -, rfl⟩ := startOperation_spec hok
      exact .refl _
  | execute operationId expected attempt =>
      show LedgerStep (match resolveOperation range operationId expected with
        | .ok op => (attempt.commits op).any Commit.clearsScores
        | .error _ => false) _ (executeRangeOperation range operationId expected attempt).1.competition
      unfold executeRangeOperation
      cases resolveOperation range operationId expected with
      | error e => exact .refl _
      | ok op =>
          show LedgerStep ((attempt.commits op).any Commit.clearsScores) range.competition
            (applyCommits operationId range (attempt.commits op)).competition
          rw [competition_applyCommits_eq]
          cases (attempt.commits op).any Commit.clearsScores
          · exact .refl _
          · exact ledgerStep_resetScores range
  | abandon principal operationId force now =>
      refine ledgerStep_commitOr fun _ hok => ?_
      obtain ⟨op, -, -, rfl⟩ := abandonOperation_spec hok
      exact .refl _
  | createCompetition principal id name challenges =>
      refine ledgerStep_commitOr fun _ hok => ?_
      unfold createCompetition at hok
      simp only [except_unit_bind_eq_ok, raiseIf_eq_ok_iff, Option.isSome_eq_false_iff,
        Option.isNone_iff_eq_none] at hok
      obtain ⟨-, hnone, hok⟩ := hok
      cases hok
      rw [hnone]
      exact .created rfl rfl rfl
  | createTeam principal id name =>
      refine ledgerStep_commitOr fun _ hok => ?_
      unfold createTeam at hok
      obtain ⟨c, hget, hok⟩ := except_bind_eq_ok.mp hok
      simp only [except_unit_bind_eq_ok] at hok
      obtain ⟨-, -, hok⟩ := hok
      cases hok
      rw [getCompetition_spec hget]
      exact .kept rfl rfl fun hdraft => hdraft
  | deleteTeam principal teamId =>
      refine ledgerStep_commitOr fun _ hok => ?_
      unfold deleteTeam at hok
      obtain ⟨c, hget, hok⟩ := except_bind_eq_ok.mp hok
      simp only [except_unit_bind_eq_ok, raiseIf_eq_ok_iff, decide_eq_false_iff_not,
        not_not] at hok
      obtain ⟨hdraft, -, hok⟩ := hok
      cases hok
      rw [getCompetition_spec hget]
      exact .deleted teamId hdraft hdraft rfl rfl
  | startCompetition principal now =>
      refine ledgerStep_commitOr fun _ hok => ?_
      unfold startCompetition at hok
      obtain ⟨c, hget, hok⟩ := except_bind_eq_ok.mp hok
      split at hok
      · cases hok
        exact .refl _
      · simp only [except_unit_bind_eq_ok] at hok
        obtain ⟨-, -, hok⟩ := hok
        cases hok
        rw [getCompetition_spec hget]
        exact .kept rfl rfl fun h => by cases h
  | stopCompetition principal now =>
      refine ledgerStep_commitOr fun _ hok => ?_
      unfold stopCompetition at hok
      obtain ⟨c, hget, hok⟩ := except_bind_eq_ok.mp hok
      split at hok
      · cases hok
        exact .refl _
      · rw [getCompetition_spec hget]
        split at hok <;> cases hok <;> exact .kept rfl rfl fun h => by cases h

omit [Unicode] in
/-- What `reset_scores` does to it. -/
theorem ledgerStep_reset {range range' : RangeInstance} {principal : Principal}
    (h : resetScores range principal = .ok range') :
    LedgerStep true range.competition range'.competition := by
  unfold resetScores at h
  obtain ⟨c, -, h⟩ := except_bind_eq_ok.mp h
  obtain ⟨-, h⟩ := except_unit_bind_eq_ok.mp h
  cases h
  exact ledgerStep_resetScores range

/-! ## One call alone -/

namespace Arena

variable {board : Board} {range : RangeInstance} {call : SubmitCall} {competition : Competition}
  {compared : List (Str × Str)}

/-- Any steps. -/
def Anything : Arena → Move → Prop := fun _ _ => True

theorem Steps.cons {P : Arena → Move → Prop} {arena arena' arena'' : Arena} {move : Move}
    (hP : P arena move) (hstep : Step board arena move arena') (hrest : Steps board P arena' arena'') :
    Steps board P arena arena'' := .head ⟨move, hP, hstep⟩ hrest

/-- A call that records its verdict is over. -/
theorem steps_record {verdict : SubmissionVerdict}
    (hstage : pendingVerdict call.stage = some verdict) :
    Steps board Anything ⟨range, [call], compared⟩
      ⟨range.recordSubmission (call.submission verdict 0), [], compared⟩ :=
  .cons trivial (.record [] call [] hstage) .refl

theorem steps_select {arena : Arena} {stage : SubmitStage}
    (hcompetition : range.competition = some competition) (hstage : reading call.stage = true)
    (hnext : call.next competition = stage)
    (hrest : Steps board Anything ⟨range, [{ call with stage := stage }], compared⟩ arena) :
    Steps board Anything ⟨range, [call], compared⟩ arena := by
  subst hnext
  exact .cons trivial (.select [] call [] hcompetition hstage) hrest

/-- A submission with nothing in between is what `submit_flag` computes. -/
theorem steps_of_submitFlag {principal : Principal} {teamId challengeId value : Str}
    {now : Datetime} {range' : RangeInstance} {outcome : SubmissionOutcome}
    (h : submitFlag board range principal teamId challengeId value now = .ok (range', outcome)) :
    ∃ compared', Steps board Anything ⟨range, [], compared⟩ ⟨range', [], compared'⟩ := by
  unfold submitFlag at h
  obtain ⟨call, hopen, h⟩ := except_bind_eq_ok.mp h
  obtain ⟨competition, hget, h⟩ := except_bind_eq_ok.mp h
  have hcompetition := getCompetition_spec hget
  obtain ⟨⟨c, hc, hloaded, -⟩, -, -, -, hvalue, hstage⟩ := openSubmission_spec hopen
  obtain rfl := Option.some.inj (hcompetition.symm.trans hc)
  have hfirst : Step board ⟨range, [], compared⟩ (.submit principal teamId challengeId value)
      ⟨range, [call], compared⟩ := .submit hopen
  suffices hrest : ∃ compared', Steps board Anything ⟨range, [call], compared⟩
      ⟨range', [], compared'⟩ by
    obtain ⟨compared', hrest⟩ := hrest
    exact ⟨compared', .cons trivial hfirst hrest⟩
  have hcounting : reading call.stage = true := by rw [hstage]; rfl
  let used := competition.attemptsUsed call.team.id call.challenge.id
  dsimp only at h
  by_cases hclosed : competition.state ≠ .running
  · rw [if_pos hclosed] at h
    cases h
    have hnext : call.next competition = .recording .notOpen (call.remaining used) := by
      rw [SubmitCall.next, hstage]
      exact if_pos (by rw [hloaded]; exact hclosed)
    exact ⟨_, steps_select hcompetition hcounting hnext (steps_record rfl)⟩
  rw [if_neg hclosed] at h
  have hcounted : call.next competition = .lookingForAward used := by
    rw [SubmitCall.next, hstage]
    exact if_neg (by rw [hloaded]; exact hclosed)
  suffices hrest : ∃ compared', Steps board Anything
      ⟨range, [{ call with stage := .lookingForAward used }], compared⟩ ⟨range', [], compared'⟩ by
    obtain ⟨compared', hrest⟩ := hrest
    exact ⟨compared', steps_select hcompetition hcounting hcounted hrest⟩
  by_cases hheld : competition.awarded call.team.id call.challenge.id = true
  · rw [if_pos hheld] at h
    cases h
    have hnext : ({ call with stage := .lookingForAward used } : SubmitCall).next competition =
        .recording .alreadySolved (call.remaining used) := if_pos hheld
    exact ⟨_, steps_select hcompetition rfl hnext (steps_record rfl)⟩
  rw [if_neg hheld] at h
  have hsearched : ({ call with stage := .lookingForAward used } : SubmitCall).next competition =
      .lookingForDuplicate used := if_neg hheld
  suffices hrest : ∃ compared', Steps board Anything
      ⟨range, [{ call with stage := .lookingForDuplicate used }], compared⟩
      ⟨range', [], compared'⟩ by
    obtain ⟨compared', hrest⟩ := hrest
    exact ⟨compared', steps_select hcompetition rfl hsearched hrest⟩
  by_cases htried : competition.tried call.team.id call.challenge.id call.fingerprint = true
  · rw [if_pos htried] at h
    cases h
    have hnext : ({ call with stage := .lookingForDuplicate used } : SubmitCall).next competition =
        .recording .duplicate (call.remaining used) := if_pos htried
    exact ⟨_, steps_select hcompetition rfl hnext (steps_record rfl)⟩
  rw [if_neg htried] at h
  by_cases hexhausted : call.challenge.maxAttempts ≤ used
  · rw [if_pos hexhausted] at h
    cases h
    have hnext : ({ call with stage := .lookingForDuplicate used } : SubmitCall).next competition =
        .recording .attemptsExhausted 0 := (if_neg htried).trans (if_pos hexhausted)
    exact ⟨_, steps_select hcompetition rfl hnext (steps_record rfl)⟩
  rw [if_neg hexhausted] at h
  have hallowed : ({ call with stage := .lookingForDuplicate used } : SubmitCall).next competition =
      .comparing used := (if_neg htried).trans (if_neg hexhausted)
  let comparing : SubmitCall := { call with stage := .comparing used }
  suffices hrest : ∃ compared', Steps board Anything
      ⟨range, [{ call with stage := comparing.next competition }], call.pair :: compared⟩
      ⟨range', [], compared'⟩ by
    obtain ⟨compared', hrest⟩ := hrest
    exact ⟨compared', steps_select hcompetition rfl hallowed
      (.cons trivial (.compare [] comparing [] hcompetition rfl) hrest)⟩
  rw [← hvalue] at h
  by_cases hwrong : (!call.challenge.solvedBy call.value) = true
  · rw [if_pos hwrong] at h
    cases h
    have hnext : comparing.next competition = .recording .incorrect (call.remaining (used + 1)) :=
      if_neg (by simpa using hwrong)
    rw [hnext]
    exact ⟨_, steps_record rfl⟩
  · rw [if_neg hwrong, if_neg hheld] at h
    cases h
    have hnext : comparing.next competition = .awarding (call.remaining (used + 1)) :=
      if_pos (by simpa using hwrong)
    rw [hnext]
    exact ⟨_, .cons trivial (.award [] { call with stage := .awarding _ } [] now hcompetition rfl
      (by simpa using hheld)) .refl⟩

end Arena

end

end Secp.Range
