import Secp.Logic.Run
import Secp.Range.Judgement

/-!
# Histories of a competition

Submissions, score resets and the transactions of the range, one after the other. Every row of a team and a challenge
counts as an attempt, compared or not, and every row makes its value a repeat. As long as a challenge is
open to a team, its rows are the compared ones only if every submission was made during play and repeats
nothing; then no correct flag is turned away.
-/

namespace Secp.Range

open Secp.Python Secp.Logic

/-! ## Calls -/

/-- A submission, a score reset, or a transaction of the range: starting and stopping the competition are
among them. -/
inductive CompetitionCall where
  | submit (principal : Principal) (teamId challengeId value : Str) (now : Datetime)
  | act (action : Action)
  | resetScores (principal : Principal)
  | resetScoresForRange

section
variable [Unicode]

/-- The rows after a call; one that raises is rolled back. -/
def RangeInstance.call (board : Board) (range : RangeInstance) : CompetitionCall → RangeInstance
  | .submit principal teamId challengeId value now =>
      range.commitOr ((submitFlag board range principal teamId challengeId value now).map Prod.fst)
  | .act action => range.act action
  | .resetScores principal => range.commitOr (Range.resetScores range principal)
  | .resetScoresForRange => range.resetScores

/-- The rows after a sequence of calls. -/
def RangeInstance.callAll (board : Board) (range : RangeInstance) (calls : List CompetitionCall) :
    RangeInstance :=
  calls.foldl (RangeInstance.call board) range

/-! ## Correct flags -/

omit [Unicode] in
/-- The flag was seeded for the challenge. -/
def Board.IsFlag (board : Board) (challengeId : Str) (flag : CatalogFlag) : Prop :=
  ∃ order challenge, board.template.challenges[order]? = some challenge ∧
    board.challengeId order = challengeId ∧ flag ∈ challenge.flags

/-- The value normalises to a flag of the challenge. -/
def Board.Matches (board : Board) (challengeId value : Str) : Prop :=
  ∃ flag, board.IsFlag challengeId flag ∧
    normalise value flag.caseSensitive = normalise flag.value flag.caseSensitive

omit [Unicode] in
/-- The submission was compared against the flags. -/
def CompetitionSubmission.compared (s : CompetitionSubmission) : Bool :=
  s.verdict = .incorrect || s.verdict = .accepted

omit [Unicode] in
/-- The submissions of a team that were compared against the flags of a challenge. -/
def Competition.comparedOf (competition : Competition) (teamId challengeId : Str) : Nat :=
  (competition.submissionsOf teamId challengeId).countP CompetitionSubmission.compared

/-- A correct flag is accepted: whatever call opens with one, while the competition runs, the team holds
no award for the challenge and has had fewer submissions compared than there are attempts. -/
def FlagsAccepted (board : Board) (range : RangeInstance) : Prop :=
  ∀ competition, range.competition = some competition → competition.state = .running →
    ∀ principal teamId challengeId value now call,
      openSubmission board range principal teamId challengeId value = .ok call →
      competition.awarded teamId challengeId = false →
      competition.comparedOf teamId challengeId < call.challenge.maxAttempts →
      board.Matches challengeId value →
        ∃ range' outcome,
          submitFlag board range principal teamId challengeId value now = .ok (range', outcome) ∧
            outcome.submission.verdict = .accepted

/-! ## Calls that turn no flag away -/

/-- A submission for a challenge that is open to the team: it is made during play, it repeats a value
only when the attempts are used up anyway, and its fingerprint tells it from the flags. -/
structure FairSubmission (board : Board) (competition : Competition) (call : SubmitCall) : Prop where
  running : competition.state = .running
  fresh : competition.tried call.team.id call.challenge.id call.fingerprint = true →
    call.challenge.maxAttempts ≤ competition.attemptsUsed call.team.id call.challenge.id
  distinguished : ∀ flag, board.IsFlag call.challenge.id flag →
    call.fingerprint = board.fingerprint flag.value →
      lower (strip call.value) = lower (strip flag.value)

/-- The call is no submission, or a fair one, or for a challenge that the team has solved. -/
def FairCall (board : Board) (range : RangeInstance) : CompetitionCall → Prop
  | .submit principal teamId challengeId value _ => ∀ competition call,
      range.competition = some competition →
      openSubmission board range principal teamId challengeId value = .ok call →
      competition.awarded teamId challengeId = false → FairSubmission board competition call
  | _ => True

/-- The rows of a challenge that is open to a team: the attempts are used up, or all rows were compared
and no flag is among their values. -/
structure OpenRows (board : Board) (competition : Competition) (teamId : Str)
    (challenge : CompetitionChallenge) : Prop where
  rows : challenge.maxAttempts ≤ competition.comparedOf teamId challenge.id ∨
    competition.comparedOf teamId challenge.id = competition.attemptsUsed teamId challenge.id ∧
      ∀ flag, board.IsFlag challenge.id flag →
        competition.tried teamId challenge.id (board.fingerprint flag.value) = false

/-- What fair calls keep. -/
def Fair (board : Board) (range : RangeInstance) : Prop :=
  ∀ competition, range.competition = some competition → ∀ teamId, ∀ challenge ∈ board.challenges,
    competition.awarded teamId challenge.id = false → OpenRows board competition teamId challenge

/-! ## Facts about the seeded flags -/

omit [Unicode] in
/-- No shipped flag is case-sensitive. -/
theorem catalog_flags : ∀ template ∈ catalog, ∀ challenge ∈ template.challenges,
    ∀ flag ∈ challenge.flags, flag.caseSensitive = false := by
  with_unfolding_all decide

section
variable {board : Board} {challenge : CompetitionChallenge} {value : Str}

omit [Unicode] in
theorem caseSensitive_of_isFlag {challengeId : Str} {flag : CatalogFlag}
    (h : board.IsFlag challengeId flag) : flag.caseSensitive = false := by
  obtain ⟨order, seeded, hseeded, -, hflag⟩ := h
  exact catalog_flags board.template board.shipped seeded (List.mem_of_getElem? hseeded) flag hflag

theorem matches_iff {challengeId : Str} :
    board.Matches challengeId value ↔ ∃ flag, board.IsFlag challengeId flag ∧
      lower (strip value) = lower (strip flag.value) := by
  have hvalue {flag : CatalogFlag} (hflag : board.IsFlag challengeId flag) (text : Str) :
      normalise text flag.caseSensitive = lower (strip text) := by
    rw [caseSensitive_of_isFlag hflag, normalise, if_neg Bool.false_ne_true]
  unfold Board.Matches
  constructor
  · intro h
    obtain ⟨flag, hflag, hsame⟩ := h
    exact ⟨flag, hflag, (hvalue hflag value).symm.trans (hsame.trans (hvalue hflag flag.value))⟩
  · intro h
    obtain ⟨flag, hflag, hsame⟩ := h
    exact ⟨flag, hflag, (hvalue hflag value).trans (hsame.trans (hvalue hflag flag.value).symm)⟩

/-- A value that normalises to a flag solves the challenge. -/
theorem solvedBy_of_matches (hchallenge : challenge ∈ board.challenges)
    (h : board.Matches challenge.id value) : challenge.solvedBy value = true := by
  obtain ⟨flag, ⟨order, seeded, hseeded, hid, hflag⟩, hvalue⟩ := h
  unfold Board.challenges at hchallenge
  obtain ⟨place, hplace, rfl⟩ := List.mem_mapIdx.mp hchallenge
  have hsame : order = place := board.primaryKey hid
  subst hsame
  rw [List.getElem?_eq_getElem hplace, Option.some.injEq] at hseeded
  obtain ⟨i, hi, rfl⟩ := List.mem_iff_getElem.mp hflag
  subst hseeded
  unfold CompetitionChallenge.solvedBy
  rw [List.any_eq_true]
  refine ⟨_, List.mem_mapIdx.mpr ⟨i, hi, rfl⟩, ?_⟩
  rw [decide_eq_true_eq]
  unfold CatalogFlag.row
  dsimp only
  rw [hvalue]

end

/-! ## What fair calls keep -/

section
variable {board : Board} {range range' : RangeInstance} {competition after : Competition}
  {teamId : Str} {challenge : CompetitionChallenge} {call : SubmitCall} {now : Datetime}

/-- Nothing but the rows of the team and the challenge counts. -/
theorem OpenRows.congr (h : OpenRows board competition teamId challenge)
    (hrows : after.submissionsOf teamId challenge.id = competition.submissionsOf teamId challenge.id) :
    OpenRows board after teamId challenge := by
  have hcases := h.rows
  refine ⟨?_⟩
  unfold Competition.comparedOf Competition.attemptsUsed Competition.tried at hcases ⊢
  rw [hrows]
  exact hcases

theorem openRows_empty (hrows : competition.submissionsOf teamId challenge.id = []) :
    OpenRows board competition teamId challenge := by
  refine ⟨.inr ?_⟩
  unfold Competition.comparedOf Competition.attemptsUsed Competition.tried
  rw [hrows]
  exact ⟨rfl, fun _ _ => rfl⟩

omit [Unicode] in
theorem comparedOf_le : competition.comparedOf teamId challenge.id ≤
    competition.attemptsUsed teamId challenge.id := List.countP_le_length

/-- The other transactions keep the rows, or clear those of a team or of all. -/
theorem Fair.ledgerStep {clears : Bool} (h : Fair board range)
    (hstep : LedgerStep clears range.competition range'.competition) : Fair board range' := by
  intro after hafter teamId challenge hchallenge hopen
  generalize hbefore : range.competition = before at hstep
  rw [hafter] at hstep
  cases hstep with
  | created hstate hscores hsubmissions =>
      exact openRows_empty (by rw [Competition.submissionsOf, hsubmissions]; rfl)
  | @kept c _ hscores hsubmissions hstate =>
      have hheld : c.awarded teamId challenge.id = false := by
        rwa [Competition.awarded, hscores] at hopen
      refine (h c hbefore teamId challenge hchallenge hheld).congr ?_
      rw [Competition.submissionsOf, hsubmissions]
      rfl
  | cleared hscores hsubmissions hstate =>
      exact openRows_empty (by rw [Competition.submissionsOf, hsubmissions]; rfl)
  | @deleted c _ deletedId hdraft hstate hscores hsubmissions =>
      by_cases hteam : teamId = deletedId
      · refine openRows_empty ?_
        rw [Competition.submissionsOf, hsubmissions, List.filter_filter, List.filter_eq_nil_iff]
        intro row _
        simp only [hteam, Bool.and_eq_true, decide_eq_true_eq]
        exact fun hrow => hrow.2 hrow.1.1
      · have hother {α : Type} (team : α → Str) (p : α → Bool) (x : α) :
            (decide (team x = teamId) && p x && decide (team x ≠ deletedId)) =
              (decide (team x = teamId) && p x) := by
          by_cases hx : team x = teamId
          · simp [hx, hteam]
          · simp [hx]
        have hheld : c.awarded teamId challenge.id = false := by
          have hsame : (fun s : CompetitionScore => decide (s.teamId ≠ deletedId) &&
                (s.teamId = teamId && s.challengeId = challenge.id)) =
              fun s => decide (s.teamId = teamId) && decide (s.challengeId = challenge.id) := by
            funext s
            rw [Bool.and_comm]
            exact hother CompetitionScore.teamId (fun s => s.challengeId = challenge.id) s
          rw [Competition.awarded, hscores, List.any_filter, hsame] at hopen
          exact hopen
        refine (h c hbefore teamId challenge hchallenge hheld).congr ?_
        rw [Competition.submissionsOf, hsubmissions, List.filter_filter]
        exact List.filter_congr fun row _ =>
          hother CompetitionSubmission.teamId (fun s => s.challengeId = challenge.id) row

/-- A fair submission of an open challenge that is not accepted leaves it as it should be. -/
theorem OpenRows.submit (h : OpenRows board competition teamId challenge)
    (hfair : FairSubmission board competition call) (hchallenge : challenge ∈ board.challenges)
    (hcontested : Contested competition teamId challenge [(call, now)])
    (haccepted : call.verdict competition ≠ .accepted) :
    OpenRows board (call.judged competition (call.verdict competition) now) teamId challenge := by
  have hteam : call.team.id = teamId := hcontested.team _ List.mem_cons_self
  have hloaded : call.challenge = challenge := hcontested.challenge _ List.mem_cons_self
  have hid : call.challenge.id = challenge.id := congrArg CompetitionChallenge.id hloaded
  obtain ⟨points, hrows⟩ := @SubmitCall.submissionsOf_judged call competition
    (call.verdict competition) now _ _ hteam hid
  have hused := @SubmitCall.attemptsUsed_judged call competition (call.verdict competition) now _ _
    hteam hid
  have htried := @SubmitCall.tried_judged call competition (call.verdict competition) now _ _
    hteam hid
  have hcompared : (call.judged competition (call.verdict competition) now).comparedOf teamId
      challenge.id = competition.comparedOf teamId challenge.id +
        if (call.submission (call.verdict competition) points).compared then 1 else 0 := by
    rw [Competition.comparedOf, hrows, List.countP_append, List.countP_singleton]
    rfl
  have hle := @comparedOf_le competition teamId challenge
  have hverdict := hcontested.verdict_eq
  unfold Competition.attemptsLeft at hverdict
  -- once as many submissions were compared as there are attempts, nothing is to be shown
  by_cases hfull : challenge.maxAttempts ≤ competition.comparedOf teamId challenge.id
  · refine ⟨.inl ?_⟩
    rw [hcompared]
    omega
  obtain ⟨hsame, hflags⟩ := h.rows.resolve_left hfull
  by_cases hrepeat : competition.tried teamId challenge.id call.fingerprint = true
  · have hexhausted := hfair.fresh (by rw [hteam, hid]; exact hrepeat)
    rw [hteam, hloaded] at hexhausted
    omega
  rw [if_neg hrepeat, if_neg (by omega)] at hverdict
  have hsolved : challenge.solvedBy call.value ≠ true := by
    intro hsolved
    rw [if_pos hsolved] at hverdict
    exact haccepted hverdict
  rw [if_neg hsolved] at hverdict
  refine ⟨.inr ⟨?_, fun flag hflag => ?_⟩⟩
  · rw [hcompared, hused, hsame, hverdict]
    rfl
  · rw [htried, hflags flag hflag, Bool.false_or, decide_eq_false_iff_not]
    intro hcollides
    have hvalue := hfair.distinguished flag (hid ▸ hflag) hcollides
    exact hsolved (solvedBy_of_matches hchallenge (matches_iff.mpr ⟨flag, hflag, hvalue⟩))

omit [Unicode] in
/-- An award that is held stays. -/
theorem awarded_judged_of_awarded {v : SubmissionVerdict} {challengeId : Str}
    (h : competition.awarded teamId challengeId = true) :
    (call.judged competition v now).awarded teamId challengeId = true := by
  by_cases hv : v = .accepted
  · rw [hv, SubmitCall.awarded_judged_accepted, h]
    rfl
  · rw [SubmitCall.awarded_judged hv]
    exact h

/-- A fair submission. -/
theorem Fair.submit {principal : Principal} {challengeId value : Str} {outcome : SubmissionOutcome}
    (h : Fair board range)
    (hfair : FairCall board range (.submit principal teamId challengeId value now))
    (hsubmit : submitFlag board range principal teamId challengeId value now =
      .ok (range', outcome)) : Fair board range' := by
  intro after hafter otherTeam challenge hchallenge hopen
  obtain ⟨call, hopened⟩ := opened_of_submitFlag hsubmit
  obtain ⟨⟨competition, hcompetition, -⟩, hfound, hteam, hid, -, -⟩ := openSubmission_spec hopened
  obtain ⟨range'', outcome', hreturned, hjudged, -, -⟩ :=
    @submitFlag_returns _ board range principal teamId challengeId value now call competition hopened
      hcompetition
  rw [hsubmit] at hreturned
  cases hreturned
  rw [hafter, Option.some.injEq] at hjudged
  subst hjudged
  have hbefore : competition.awarded otherTeam challenge.id = false := by
    by_contra hheld
    rw [awarded_judged_of_awarded ((Bool.not_eq_false _).mp hheld)] at hopen
    cases hopen
  have hrows := h competition hcompetition otherTeam challenge hchallenge hbefore
  by_cases hpair : call.team.id = otherTeam ∧ call.challenge.id = challenge.id
  · obtain ⟨rfl, hsame⟩ := hpair
    have hloaded : call.challenge = challenge := Board.eq_of_id hchallenge hfound hsame
    have hfair := hfair competition call hcompetition hopened
      (by rw [← hteam, ← hid, hsame]; exact hbefore)
    have hcontested : Contested competition call.team.id challenge [(call, now)] :=
      ⟨hfair.running, hbefore, List.forall_mem_singleton.mpr rfl,
        List.forall_mem_singleton.mpr hloaded⟩
    refine hrows.submit hfair hchallenge hcontested fun haccepted => ?_
    rw [haccepted, SubmitCall.awarded_judged_accepted, hsame] at hopen
    simp at hopen
  · exact hrows.congr (SubmitCall.submissionsOf_judged_of_ne hpair)

/-- A fair call keeps the rows of open challenges as they should be. -/
theorem Fair.step (h : Fair board range) (call : CompetitionCall) (hfair : FairCall board range call) :
    Fair board (range.call board call) := by
  cases call with
  | submit principal teamId challengeId value now =>
      refine commitOr_cases h fun range' hok => ?_
      cases hsubmit : submitFlag board range principal teamId challengeId value now with
      | error e =>
          rw [hsubmit] at hok
          cases hok
      | ok result =>
          rw [hsubmit] at hok
          cases hok
          exact h.submit hfair hsubmit
  | act action => exact h.ledgerStep (ledgerStep_act range action)
  | resetScores principal =>
      exact commitOr_cases h fun range' hok => h.ledgerStep (ledgerStep_reset hok)
  | resetScoresForRange => exact h.ledgerStep (ledgerStep_resetScores range)

/-- Where the rows of open challenges are as they should be, correct flags are accepted. -/
theorem Fair.flagsAccepted (h : Fair board range) : FlagsAccepted board range := by
  intro competition hcompetition hrunning principal teamId challengeId value now call hopened hheld
    hattempts hvalue
  obtain ⟨-, hfound, hteam, hid, hloaded, -⟩ := openSubmission_spec hopened
  obtain ⟨range', outcome, hsubmit, -, hverdict, -⟩ :=
    @submitFlag_returns _ board range principal teamId challengeId value now call competition hopened
      hcompetition
  refine ⟨range', outcome, hsubmit, hverdict.trans ?_⟩
  rw [← hid] at hheld hattempts hvalue
  have hrows := h competition hcompetition teamId call.challenge hfound hheld
  have hcontested : Contested competition teamId call.challenge [(call, now)] :=
    ⟨hrunning, hheld, List.forall_mem_singleton.mpr hteam, List.forall_mem_singleton.mpr rfl⟩
  obtain ⟨hsame, hflags⟩ := hrows.rows.resolve_left (not_le.mpr hattempts)
  obtain ⟨flag, hflag, htext⟩ := matches_iff.mp hvalue
  have hprint : call.fingerprint = board.fingerprint flag.value := by
    rw [fingerprint_of_opened hopened, htext]
    rfl
  have hsolved := solvedBy_of_matches hfound hvalue
  rw [hcontested.verdict_eq, hprint, hflags flag hflag, if_neg Bool.false_ne_true, if_neg, hloaded,
    if_pos hsolved]
  unfold Competition.attemptsLeft
  omega

/-- In every state of a run whose submissions are fair, a correct flag is accepted. -/
theorem correct_flag_accepted {principal : Principal} {template : RangeTemplate}
    {name : Option Str} {id : Str} (hcreate : createRange principal template name id = .ok range)
    {calls : List CompetitionCall}
    (hfair : Along (RangeInstance.call board) (FairCall board) range calls) (k : Nat) :
    FlagsAccepted board (range.callAll board (calls.take k)) := by
  have htaken : Along (RangeInstance.call board) (FairCall board) range (calls.take k) := by
    have hall := hfair
    rw [← List.take_append_drop k calls, along_append] at hall
    exact hall.1
  have hstart : Fair board range := by
    intro competition hcompetition
    rw [(createRange_spec hcreate).2.2.2] at hcompetition
    cases hcompetition
  exact (htaken.invariant (fun _ call h hcall => h.step call hcall) hstart).flagsAccepted

end

end

/-! ### A flag submitted before the start -/

/-- The flag of the first challenge, submitted by the only team. -/
def submitScoreBoard : CompetitionCall :=
  .submit sampleOperator (str "t1") (natStr 0) (str "score-board") sampleClock

/-- It opens whatever the state of the competition. -/
theorem submitScoreBoard_opens {range : RangeInstance} {c : Competition}
    (hcompetition : range.competition = some c) (horganization : c.organizationId = str "o1")
    (hteams : c.teams = playedCompetition.teams) :
    ∃ call, @openSubmission Unicode.ascii sampleBoard range sampleOperator (str "t1") (natStr 0)
      (str "score-board") = .ok call := by
  let asPlayed : Competition := { playedCompetition with state := c.state }
  have hopens : (@openSubmission Unicode.ascii sampleBoard
      { sampleRange with competition := some asPlayed } sampleOperator (str "t1") (natStr 0)
      (str "score-board")).isOk = true := by
    cases hstate : c.state <;> simp only [asPlayed, hstate] <;> with_unfolding_all decide
  obtain ⟨call, hopen⟩ := exists_of_isOk hopens
  exact ⟨call, (@openSubmission_congr Unicode.ascii sampleBoard
    { sampleRange with competition := some asPlayed } sampleOperator (str "t1") (natStr 0)
    (str "score-board") asPlayed range c rfl hcompetition horganization hteams rfl).trans hopen⟩

/-- The only flag of the first challenge. -/
theorem value_of_isFlag {flag : CatalogFlag} (h : sampleBoard.IsFlag (natStr 0) flag) :
    flag.value = str "score-board" := by
  obtain ⟨order, challenge, hchallenge, hid, hflag⟩ := h
  obtain rfl := natStr_injective hid
  cases hchallenge
  rw [List.mem_singleton.mp hflag]

theorem firstFlag :
    ∃ flag, sampleBoard.IsFlag (natStr 0) flag ∧ flag.value = str "score-board" :=
  ⟨_, ⟨0, _, rfl, rfl, List.mem_cons_self⟩, rfl⟩

section
variable [Unicode] {board : Board}

/-- A sequence of transactions of the range is a run of it. -/
theorem callAll_acts (range : RangeInstance) (actions : List Action) :
    range.callAll board (actions.map CompetitionCall.act) = range.run actions := List.foldl_map

theorem along_acts (range : RangeInstance) (actions : List Action) :
    Along (RangeInstance.call board) (FairCall board) range (actions.map CompetitionCall.act) := by
  induction actions generalizing range with
  | nil => trivial
  | cons action rest ih => exact ⟨trivial, ih _⟩

end

/-- A deployment, the start of the competition and the flag. -/
def playAndSubmit : List CompetitionCall :=
  deployAndPlay.map CompetitionCall.act ++ [submitScoreBoard]

theorem playAndSubmit_accepted :
    @FlagsAccepted Unicode.ascii sampleBoard
      (@RangeInstance.callAll Unicode.ascii sampleBoard sampleRange playAndSubmit) := by
  let _ := Unicode.ascii
  have hfair : Along (RangeInstance.call sampleBoard) (FairCall sampleBoard) sampleRange
      playAndSubmit := by
    unfold playAndSubmit
    rw [along_append]
    refine ⟨along_acts _ _, ?_, trivial⟩
    have hplayed : (deployAndPlay.map CompetitionCall.act).foldl (RangeInstance.call sampleBoard)
        sampleRange = playedRange := callAll_acts _ _
    rw [hplayed]
    intro competition call hcompetition hopened hheld
    obtain rfl := Option.some.inj (playedRange_competition.symm.trans hcompetition)
    obtain ⟨-, -, -, hid, hvalue, -⟩ := openSubmission_spec hopened
    refine ⟨rfl, fun htried => ?_, fun flag hflag _ => ?_⟩
    · cases htried
    · rw [hid] at hflag
      rw [hvalue, value_of_isFlag hflag]
  have haccepted := correct_flag_accepted sampleRange_created hfair playAndSubmit.length
  rw [List.take_length] at haccepted
  exact haccepted

/-- The deployed range, its competition not yet started. -/
def preparedRange : RangeInstance :=
  @RangeInstance.run Unicode.ascii sampleRange (deployAndPlay.take 4)

/-- Its competition. -/
def preparedCompetition : Competition :=
  { playedCompetition with state := .draft, startedAt := none }

theorem preparedRange_ready :
    preparedRange.state = .ready ∧ preparedRange.competition = some preparedCompetition := by
  with_unfolding_all decide

/-- The flag is submitted first, and then the competition is started. -/
def submitAndPlay : List CompetitionCall :=
  (deployAndPlay.take 4).map CompetitionCall.act ++
    [submitScoreBoard, .act (.startCompetition sampleOperator sampleClock)]

/-- A ready range with a team starts its competition. -/
theorem startCompetition_returns {range : RangeInstance} {principal : Principal} {now : Datetime}
    {c : Competition} (hget : getCompetition range principal = .ok c) (hstate : c.state ≠ .running)
    (hready : range.state = .ready) (hteams : c.teams.isEmpty = false) :
    ∃ range', startCompetition range principal now = .ok range' ∧
      range'.competition = some { c with
        state := .running
        startedAt := some (c.startedAt.getD now)
        stoppedAt := none } := by
  unfold startCompetition
  rw [except_bind_of_ok hget, if_neg hstate, hready, hteams]
  exact ⟨_, rfl, rfl⟩

/-- The row that the early flag leaves. -/
def earlyFlag (call : SubmitCall) : CompetitionSubmission := call.submission .notOpen 0

/-- The competition that is started with this row. -/
theorem submitAndPlay_competition : ∃ call c,
    @openSubmission Unicode.ascii sampleBoard preparedRange sampleOperator (str "t1") (natStr 0)
        (str "score-board") = .ok call ∧
      (@RangeInstance.callAll Unicode.ascii sampleBoard sampleRange submitAndPlay).competition =
        some c ∧
      c.state = .running ∧ c.organizationId = str "o1" ∧ c.teams = playedCompetition.teams ∧
      c.scores = [] ∧ c.submissions = [earlyFlag call] := by
  let _ := Unicode.ascii
  obtain ⟨hready, hprepared⟩ := preparedRange_ready
  obtain ⟨call, hopened⟩ := submitScoreBoard_opens hprepared rfl rfl
  obtain ⟨early, outcome, hsubmit, hcompetition, -, -, hstate⟩ :=
    @submitFlag_returns _ _ _ _ _ _ _ sampleClock call _ hopened hprepared
  have hverdict : call.verdict preparedCompetition = .notOpen := if_pos (by decide)
  rw [hverdict] at hcompetition
  obtain ⟨later, hlater⟩ := submitScoreBoard_opens hcompetition rfl rfl
  obtain ⟨running, hstart, hrunning⟩ :=
    @startCompetition_returns early sampleOperator sampleClock _
      (getCompetition_of_opened hlater hcompetition) (fun h => by cases h)
      (hstate.trans hready) rfl
  have hcalls : sampleRange.callAll sampleBoard submitAndPlay = running := by
    have hacts : ((deployAndPlay.take 4).map CompetitionCall.act).foldl
        (RangeInstance.call sampleBoard) sampleRange = preparedRange := callAll_acts _ _
    have hearly : preparedRange.call sampleBoard submitScoreBoard = early := by
      show preparedRange.commitOr ((submitFlag _ _ _ _ _ _ _).map Prod.fst) = early
      rw [hsubmit]
      rfl
    have hlate : early.call sampleBoard (.act (.startCompetition sampleOperator sampleClock)) =
        running := by
      show early.commitOr (startCompetition _ _ _) = running
      rw [hstart]
      rfl
    unfold RangeInstance.callAll submitAndPlay
    rw [List.foldl_append, hacts, List.foldl_cons, hearly, List.foldl_cons, hlate]
    rfl
  rw [hcalls]
  exact ⟨call, _, hopened, hrunning, rfl, rfl, rfl, rfl, rfl⟩

/-- After the start the flag is a duplicate, though nothing was ever compared. -/
theorem submitAndPlay_refuses_flag :
    @createRange Unicode.ascii sampleOperator sampleTemplate none (str "r1") = .ok sampleRange ∧
      ¬@FlagsAccepted Unicode.ascii sampleBoard
        (@RangeInstance.callAll Unicode.ascii sampleBoard sampleRange submitAndPlay) := by
  let _ := Unicode.ascii
  refine ⟨sampleRange_created, fun haccepts => ?_⟩
  obtain ⟨earlier, c, hopened, hcompetition, hrunning, horganization, hteams, hscores, hrows⟩ :=
    submitAndPlay_competition
  obtain ⟨call, hopen⟩ := submitScoreBoard_opens hcompetition horganization hteams
  obtain ⟨-, hfound, hteam, hid, -⟩ := openSubmission_spec hopen
  obtain ⟨-, -, hearlyTeam, hearlyId, -⟩ := openSubmission_spec hopened
  have hheld : c.awarded (str "t1") (natStr 0) = false := by rw [Competition.awarded, hscores]; rfl
  have hof : c.submissionsOf (str "t1") (natStr 0) = [earlyFlag earlier] := by
    rw [Competition.submissionsOf, hrows]
    exact List.filter_eq_self.mpr fun row hrow => by
      rw [List.mem_singleton.mp hrow]
      simp [earlyFlag, SubmitCall.submission, hearlyTeam, hearlyId]
  have hcompared : c.comparedOf (str "t1") (natStr 0) = 0 := by
    rw [Competition.comparedOf, hof]
    rfl
  have hattempts : (c.comparedOf (str "t1") (natStr 0) : Int) < call.challenge.maxAttempts := by
    rw [hcompared, (Board.challenge_spec hfound).2]
    decide
  have hmatches : sampleBoard.Matches (natStr 0) (str "score-board") := by
    obtain ⟨flag, hflag, hvalue⟩ := firstFlag
    exact ⟨flag, hflag, by rw [hvalue]⟩
  obtain ⟨range', outcome, hsubmit, haccepted⟩ := haccepts c hcompetition hrunning _ _ _ _ sampleClock
    call hopen hheld hattempts hmatches
  obtain ⟨range'', outcome', hreturned, -, hverdict, -⟩ :=
    @submitFlag_returns _ _ _ _ _ _ _ sampleClock call c hopen hcompetition
  rw [hsubmit] at hreturned
  cases hreturned
  have htried : c.tried call.team.id call.challenge.id call.fingerprint = true := by
    have hprint : (earlyFlag earlier).valueFingerprint = call.fingerprint :=
      (fingerprint_of_opened hopened).trans (fingerprint_of_opened hopen).symm
    rw [hteam, hid, Competition.tried, hof, List.any_cons, decide_eq_true hprint]
    rfl
  have hduplicate : call.verdict c = .duplicate := by
    unfold SubmitCall.verdict
    rw [if_neg (not_not.mpr hrunning), hteam, hid, hheld, if_neg Bool.false_ne_true, ← hteam, ← hid,
      if_pos htried]
  rw [hverdict, hduplicate] at haccepted
  cases haccepted

end Secp.Range
