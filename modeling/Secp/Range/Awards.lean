import Mathlib.Algebra.BigOperators.Group.List.Basic
import Mathlib.Algebra.Order.BigOperators.Group.List
import Secp.Python.Collections
import Secp.Range.Arena

/-!
# The award ledger and the scoreboard

However submissions interleave, the accepted ones and the awards are the same list, no team holds two
awards for one challenge, and every award is worth what its challenge is worth. The scoreboard adds
the awards up, so a team's score is the sum over the challenges it has solved.
-/

namespace Secp.Range

open Secp.Python Secp.Logic

/-! ## The scoreboard -/

/-- One team's aggregate, before ranking. -/
structure StandingRow where
  team : CompetitionTeam
  score : Int
  solved : Nat
  last : Option Datetime
  challenges : List Str

structure ScoreboardEntry where
  rank : Nat
  teamId : Str
  teamName : Str
  score : Int
  solvedCount : Nat
  lastSolveAt : Option Datetime
  solvedChallengeIds : List Str

/-- The microseconds of `datetime.max`. -/
def datetimeMax : Nat := maxOrdinal * microsPerDay - 1

/-- The later of two instants. -/
def laterOf (a b : Datetime) : Datetime := if a.micros < b.micros then b else a

/-- `max(instants, default=None)`. -/
def latest : List Datetime → Option Datetime
  | [] => none
  | t :: rest => some (rest.foldl laterOf t)

def StandingRow.of (awards : Dict Str (List CompetitionScore)) (team : CompetitionTeam) :
    StandingRow :=
  let held := (awards.get? team.id).getD []
  { team := team
    score := (held.map CompetitionScore.points).sum
    solved := held.length
    last := latest (held.map CompetitionScore.awardedAt)
    challenges := held.map CompetitionScore.challengeId }

/-- Highest score first, then whoever reached it first. -/
def StandingRow.sortKey (row : StandingRow) : Int × Nat :=
  (-row.score, (row.last.map Datetime.micros).getD datetimeMax)

/-- The ranking loop: `previous` is the key of the row before, `rank` its rank. -/
def rankRows : Nat → Option (Int × Option Datetime) → Nat → List StandingRow → List ScoreboardEntry
  | _, _, _, [] => []
  | index, previous, rank, row :: rows =>
      let key := (row.score, row.last)
      let rank := if previous = some key then rank else index
      { rank := rank
        teamId := row.team.id
        teamName := row.team.name
        score := row.score
        solvedCount := row.solved
        lastSolveAt := row.last
        solvedChallengeIds := row.challenges } :: rankRows (index + 1) (some key) rank rows

/-- The rows of the scoreboard, from the teams in the order they were created. -/
def Competition.standings (competition : Competition) : List ScoreboardEntry :=
  let awards := Dict.pushAll CompetitionScore.teamId
    (Dict.ofPairs (competition.teams.map fun team => (team.id, []))) competition.scores
  rankRows 1 none 0 (sortedBy StandingRow.sortKey (competition.teams.map (StandingRow.of awards)))

/-- The team and the challenge of an award. -/
def CompetitionScore.pair (score : CompetitionScore) : Str × Str := (score.teamId, score.challengeId)

/-- What an award says: for whom, for which challenge, how much. -/
def CompetitionScore.award (score : CompetitionScore) : (Str × Str) × Int :=
  (score.pair, score.points)

def CompetitionSubmission.accepted (s : CompetitionSubmission) : Bool := s.verdict = .accepted

def CompetitionSubmission.pair (s : CompetitionSubmission) : Str × Str := (s.teamId, s.challengeId)

/-- What an accepted submission was awarded. -/
def CompetitionSubmission.award (s : CompetitionSubmission) : (Str × Str) × Int :=
  (s.pair, s.pointsAwarded)

/-- The accepted submissions of a competition. -/
def Competition.acceptedSubmissions (competition : Competition) : List CompetitionSubmission :=
  competition.submissions.filter CompetitionSubmission.accepted

section
variable [Unicode]

/-- The awards are the accepted submissions, one for each team and challenge, each worth what its
challenge is worth. -/
structure Ledger (board : Board) (competition : Competition) : Prop where
  accepted : competition.acceptedSubmissions.map CompetitionSubmission.award =
    competition.scores.map CompetitionScore.award
  unique : (competition.scores.map CompetitionScore.pair).Nodup
  worth : ∀ score ∈ competition.scores, ∃ challenge ∈ board.challenges,
    challenge.id = score.challengeId ∧ challenge.points = score.points

variable {board : Board}

theorem ledger_empty {c : Competition} (hscores : c.scores = []) (hsubmissions : c.submissions = []) :
    Ledger board c := by
  refine ⟨?_, ?_, ?_⟩
  · rw [Competition.acceptedSubmissions, hscores, hsubmissions]
    rfl
  · rw [hscores]
    exact List.nodup_nil
  · rw [hscores]
    intro score hscore
    cases hscore

theorem Ledger.congr {c c' : Competition} (h : Ledger board c) (hscores : c'.scores = c.scores)
    (hsubmissions : c'.acceptedSubmissions = c.acceptedSubmissions) : Ledger board c' :=
  ⟨by rw [hscores, hsubmissions]; exact h.accepted, by rw [hscores]; exact h.unique,
    by rw [hscores]; exact h.worth⟩

/-- Deleting the rows of a team deletes its accepted submissions with its awards. -/
theorem Ledger.deleted {c c' : Competition} (h : Ledger board c) {teamId : Str}
    (hscores : c'.scores = c.scores.filter fun s => s.teamId ≠ teamId)
    (hsubmissions : c'.submissions = c.submissions.filter fun s => s.teamId ≠ teamId) :
    Ledger board c' := by
  have hkeeps := congrArg (List.filter fun award => decide (award.1.1 ≠ teamId)) h.accepted
  rw [List.filter_map, List.filter_map] at hkeeps
  refine ⟨?_, ?_, ?_⟩
  · rw [Competition.acceptedSubmissions, hscores, hsubmissions, List.filter_filter]
    rw [Competition.acceptedSubmissions, List.filter_filter] at hkeeps
    refine Eq.trans ?_ hkeeps
    congr 1
    refine List.filter_congr fun s _ => ?_
    exact Bool.and_comm _ _
  · rw [hscores]
    exact h.unique.sublist (List.filter_sublist.map _)
  · rw [hscores]
    intro score hscore
    exact h.worth score (List.mem_filter.mp hscore).1

/-- The other transactions keep the ledger. -/
theorem LedgerStep.ledger {clears : Bool} {before after : Option Competition}
    (hstep : LedgerStep clears before after) (h : ∀ c, before = some c → Ledger board c) :
    ∀ c, after = some c → Ledger board c := by
  intro c hc
  cases hstep with
  | absent => cases hc
  | created hstate hscores hsubmissions =>
      cases hc
      exact ledger_empty hscores hsubmissions
  | kept hscores hsubmissions hstate =>
      cases hc
      refine (h _ rfl).congr hscores ?_
      rw [Competition.acceptedSubmissions, Competition.acceptedSubmissions, hsubmissions]
  | cleared hscores hsubmissions hstate =>
      cases hc
      exact ledger_empty hscores hsubmissions
  | deleted teamId hdraft hstate hscores hsubmissions =>
      cases hc
      exact (h _ rfl).deleted hscores hsubmissions

/-- A submission that is not accepted is not in the ledger. -/
theorem Ledger.record {c : Competition} (h : Ledger board c) {row : CompetitionSubmission}
    (hrow : row.verdict ≠ .accepted) :
    Ledger board { c with submissions := c.submissions ++ [row] } := by
  refine h.congr rfl ?_
  show (c.submissions ++ [row]).filter CompetitionSubmission.accepted = _
  have hnot : CompetitionSubmission.accepted row = false := decide_eq_false hrow
  rw [List.filter_append, List.filter_cons_of_neg (by rw [hnot]; exact Bool.false_ne_true),
    List.filter_nil, List.append_nil]
  rfl

/-- An accepted submission enters the ledger with its award, unless there is one. -/
theorem Ledger.award {c : Competition} (h : Ledger board c) {call : SubmitCall} {now : Datetime}
    (hchallenge : call.challenge ∈ board.challenges)
    (hunique : c.awarded call.team.id call.challenge.id = false) :
    Ledger board { c with
      submissions := c.submissions ++ [call.submission .accepted call.challenge.points]
      scores := c.scores ++ [call.score now] } := by
  refine ⟨?_, ?_, ?_⟩
  · show ((c.submissions ++ [_]).filter CompetitionSubmission.accepted).map _ =
      (c.scores ++ [_]).map _
    rw [List.filter_append, List.map_append, List.map_append]
    exact congrArg (· ++ [(call.pair, call.challenge.points)]) h.accepted
  · show ((c.scores ++ [call.score now]).map CompetitionScore.pair).Nodup
    rw [List.map_append]
    refine List.nodup_append'.mpr ⟨h.unique, List.nodup_singleton _, ?_⟩
    intro pair hpair hnew
    obtain ⟨score, hscore, rfl⟩ := List.mem_map.mp hpair
    have hsame : (score.teamId, score.challengeId) = (call.team.id, call.challenge.id) :=
      List.mem_singleton.mp hnew
    have hnone := List.any_eq_false.mp hunique score hscore
    simp only [Prod.mk.injEq] at hsame
    simp [hsame.1, hsame.2] at hnone
  · intro score hscore
    rcases List.mem_append.mp hscore with hscore | hscore
    · exact h.worth score hscore
    · obtain rfl := List.mem_singleton.mp hscore
      exact ⟨call.challenge, hchallenge, rfl, rfl⟩

omit [Unicode] in
theorem competition_award (range : RangeInstance) (call : SubmitCall) (now : Datetime) :
    (range.award call now).competition = range.competition.map fun c =>
      { c with
        submissions := c.submissions ++ [call.submission .accepted call.challenge.points]
        scores := c.scores ++ [call.score now] } := by
  show (range.competition.map _).map _ = _
  cases range.competition <;> rfl

/-! ## Every reachable state -/

namespace Arena

/-- The ledger is in order, and every call in flight is for a challenge of the board and about to
record nothing as accepted on its own. -/
structure Sound (board : Board) (arena : Arena) : Prop where
  ledger : ∀ c, arena.range.competition = some c → Ledger board c
  calls : ∀ call ∈ arena.calls,
    call.challenge ∈ board.challenges ∧ pendingVerdict call.stage ≠ some .accepted

/-- A select never leads to recording an accepted submission on its own. -/
theorem not_accepted_select {call : SubmitCall} (c : Competition)
    (h : reading call.stage = true) : pendingVerdict (call.next c) ≠ some .accepted := by
  rcases next_select c h with ⟨-, -, hnext⟩ | ⟨_, -, hnext⟩ | ⟨_, -, -, hnext⟩ |
    ⟨verdict, _, hverdict, -, -, hnext⟩
  · rw [hnext]
    simp [pendingVerdict]
  · rw [hnext]
    simp [pendingVerdict]
  · rw [hnext]
    simp [pendingVerdict]
  · rw [hnext]
    exact fun hsome => hverdict (Option.some.inj hsome)

/-- Nor does a comparison. -/
theorem not_accepted_compare {call : SubmitCall} (c : Competition) {used : Nat}
    (hstage : call.stage = .comparing used) : pendingVerdict (call.next c) ≠ some .accepted := by
  rcases next_compare c hstage with hnext | hnext
  · rw [hnext]
    simp [pendingVerdict]
  · rw [hnext]
    simp [pendingVerdict]

omit [Unicode] in
/-- A call that moves on among the others. -/
theorem forall_calls_replace {P : SubmitCall → Prop} {before after : List SubmitCall}
    {call call' : SubmitCall} (h : ∀ c ∈ before ++ call :: after, P c) (hcall : P call') :
    ∀ c ∈ before ++ call' :: after, P c := by
  intro c hc
  rcases List.mem_append.mp hc with hc | hc
  · exact h c (List.mem_append_left _ hc)
  · rcases List.mem_cons.mp hc with rfl | hc
    · exact hcall
    · exact h c (List.mem_append_right _ (List.mem_cons_of_mem _ hc))

omit [Unicode] in
/-- A call that leaves the others. -/
theorem forall_calls_remove {P : SubmitCall → Prop} {before after : List SubmitCall}
    {call : SubmitCall} (h : ∀ c ∈ before ++ call :: after, P c) : ∀ c ∈ before ++ after, P c := by
  intro c hc
  rcases List.mem_append.mp hc with hc | hc
  · exact h c (List.mem_append_left _ hc)
  · exact h c (List.mem_append_right _ (List.mem_cons_of_mem _ hc))

/-- A step keeps the ledger in order. -/
theorem Sound.step {arena arena' : Arena} {move : Move} (h : Sound board arena)
    (hstep : Step board arena move arena') : Sound board arena' := by
  cases hstep with
  | act action => exact ⟨(ledgerStep_act _ action).ledger h.ledger, h.calls⟩
  | resetScores hreset => exact ⟨(ledgerStep_reset hreset).ledger h.ledger, h.calls⟩
  | resetScoresForRange => exact ⟨(ledgerStep_resetScores _).ledger h.ledger, h.calls⟩
  | submit hopen =>
      refine ⟨h.ledger, fun call hcall => ?_⟩
      rcases List.mem_append.mp hcall with hcall | hcall
      · exact h.calls call hcall
      · obtain rfl := List.mem_singleton.mp hcall
        obtain ⟨-, hchallenge, -, -, -, hstage⟩ := openSubmission_spec hopen
        refine ⟨hchallenge, ?_⟩
        rw [hstage]
        simp [pendingVerdict]
  | select before call after hcompetition hstage =>
      have hcall := h.calls call (List.mem_append_right _ List.mem_cons_self)
      exact ⟨h.ledger, forall_calls_replace h.calls
        ⟨hcall.1, not_accepted_select _ hstage⟩⟩
  | compare before call after hcompetition hstage =>
      have hcall := h.calls call (List.mem_append_right _ List.mem_cons_self)
      exact ⟨h.ledger, forall_calls_replace h.calls
        ⟨hcall.1, not_accepted_compare _ hstage⟩⟩
  | record before call after hstage =>
      have hcall := h.calls call (List.mem_append_right _ List.mem_cons_self)
      refine ⟨fun c hc => ?_, forall_calls_remove h.calls⟩
      obtain ⟨competition, hcompetition, rfl⟩ := Option.map_eq_some_iff.mp hc
      refine (h.ledger competition hcompetition).record fun haccepted => hcall.2 ?_
      rw [hstage]
      exact congrArg some haccepted
  | award before call after now hcompetition hstage hunique =>
      have hcall := h.calls call (List.mem_append_right _ List.mem_cons_self)
      refine ⟨fun c hc => ?_, forall_calls_remove h.calls⟩
      rw [competition_award, hcompetition] at hc
      cases hc
      exact (h.ledger _ hcompetition).award hcall.1 hunique
  | downgrade before call after hcompetition hstage hheld =>
      have hcall := h.calls call (List.mem_append_right _ List.mem_cons_self)
      refine ⟨h.ledger, forall_calls_replace h.calls ⟨hcall.1, ?_⟩⟩
      simp [pendingVerdict]
  | fail => exact ⟨h.ledger, forall_calls_remove h.calls⟩

/-- The rows of a range that was just created, with nothing in flight. -/
def start (range : RangeInstance) : Arena := ⟨range, [], []⟩

/-- Transactions one after the other. -/
theorem steps_acts (board : Board) (P : Arena → Move → Prop)
    (hP : ∀ arena action, P arena (.act action)) (range : RangeInstance) (actions : List Action) :
    Steps board P (start range) ⟨range.run actions, [], []⟩ := by
  induction actions generalizing range with
  | nil => exact .refl
  | cons action rest ih =>
      refine .cons (hP _ _) (.act action) ?_
      rw [ite_self]
      exact ih (range.act action)

theorem Sound.steps {P : Arena → Move → Prop} {arena arena' : Arena} (h : Sound board arena)
    (hsteps : Steps board P arena arena') : Sound board arena' := by
  induction hsteps with
  | refl => exact h
  | tail _ hlast ih =>
      obtain ⟨move, -, hstep⟩ := hlast
      exact ih.step hstep

theorem sound_start {range : RangeInstance} (h : range.competition = none) :
    Sound board (start range) := by
  refine ⟨fun c hc => ?_, fun call hcall => ?_⟩
  · have hc : range.competition = some c := hc
    rw [h] at hc
    cases hc
  · cases hcall

end Arena

/-! ## The scoreboard adds up -/

/-- The team has an accepted submission for the challenge. -/
def Competition.hasSolved (competition : Competition) (teamId challengeId : Str) : Bool :=
  competition.acceptedSubmissions.any fun s => s.teamId = teamId && s.challengeId = challengeId

omit [Unicode] in
/-- Ranking keeps the teams and their scores. -/
theorem rankRows_scores (index : Nat) (previous : Option (Int × Option Datetime)) (rank : Nat)
    (rows : List StandingRow) :
    (rankRows index previous rank rows).map (fun entry => (entry.teamId, entry.score)) =
      rows.map fun row => (row.team.id, row.score) := by
  induction rows generalizing index previous rank with
  | nil => rfl
  | cons row rows ih =>
      unfold rankRows
      exact congrArg ((row.team.id, row.score) :: ·) (ih _ _ _)

/-- The awards of a team. -/
def Competition.scoresOf (competition : Competition) (teamId : Str) : List CompetitionScore :=
  competition.scores.filter fun s => s.teamId = teamId

omit [Unicode] in
/-- The awards that are grouped under a team are the team's. -/
theorem get?_pushAll_teams (competition : Competition) (team : CompetitionTeam) :
    ((Dict.pushAll CompetitionScore.teamId
        (Dict.ofPairs (competition.teams.map fun team => (team.id, []))) competition.scores).get?
      team.id).getD [] = competition.scoresOf team.id := by
  have hnone : ((Dict.ofPairs (competition.teams.map fun team =>
      ((team.id, []) : Str × List CompetitionScore))).get? team.id).getD [] = [] := by
    cases hget : (Dict.ofPairs (competition.teams.map fun team =>
        ((team.id, []) : Str × List CompetitionScore))).get? team.id with
    | none => rfl
    | some held =>
        obtain ⟨other, -, hpair⟩ := List.mem_map.mp (Dict.mem_of_get?_ofPairs hget)
        exact (Prod.mk.inj hpair).2.symm
  rw [Dict.get?_pushAll]
  split
  · rw [hnone]
    rfl
  · next hmissing =>
      rw [hnone]
      refine (List.filter_eq_nil_iff.mpr fun s hs hteam => hmissing ?_).symm
      rw [← of_decide_eq_true hteam]
      exact List.mem_map_of_mem hs

omit [Unicode] in
theorem score_standingRow (competition : Competition) {team : CompetitionTeam} :
    (StandingRow.of (Dict.pushAll CompetitionScore.teamId
        (Dict.ofPairs (competition.teams.map fun team => (team.id, []))) competition.scores)
      team).score = ((competition.scoresOf team.id).map CompetitionScore.points).sum := by
  unfold StandingRow.of
  rw [get?_pushAll_teams]

omit [Unicode] in
/-- There is one entry for each team, with the sum of its awards. -/
theorem standings_scores (competition : Competition) :
    (competition.standings.map fun entry => (entry.teamId, entry.score)).Perm
      (competition.teams.map fun team =>
        (team.id, ((competition.scoresOf team.id).map CompetitionScore.points).sum)) := by
  unfold Competition.standings
  rw [rankRows_scores]
  refine ((sortedBy_perm _ _).map _).trans (List.Perm.of_eq ?_)
  rw [List.map_map]
  refine List.map_congr_left fun team _ => ?_
  exact congrArg (Prod.mk team.id) (score_standingRow competition)

/-- What distinct awards of the board's challenges add up to. -/
theorem sum_points {scores : List CompetitionScore}
    (hunique : (scores.map CompetitionScore.challengeId).Nodup)
    (hworth : ∀ score ∈ scores, ∃ challenge ∈ board.challenges,
      challenge.id = score.challengeId ∧ challenge.points = score.points) :
    (scores.map CompetitionScore.points).sum =
      ((board.challenges.filter fun challenge =>
        decide (challenge.id ∈ scores.map CompetitionScore.challengeId)).map
          CompetitionChallenge.points).sum := by
  have hperm : (scores.map fun score => (score.challengeId, score.points)).Perm
      ((board.challenges.filter fun challenge =>
        decide (challenge.id ∈ scores.map CompetitionScore.challengeId)).map
          fun challenge => (challenge.id, challenge.points)) := by
    refine (List.perm_ext_iff_of_nodup ?_ ?_).mpr ?_
    · refine List.Nodup.of_map Prod.fst ?_
      rw [List.map_map]
      exact hunique
    · refine List.Nodup.of_map Prod.fst ?_
      rw [List.map_map]
      exact Board.nodup_ids.sublist (List.filter_sublist.map _)
    · intro pair
      constructor
      · intro hpair
        obtain ⟨score, hscore, rfl⟩ := List.mem_map.mp hpair
        obtain ⟨challenge, hchallenge, hid, hpoints⟩ := hworth score hscore
        refine List.mem_map.mpr ⟨challenge, List.mem_filter.mpr ⟨hchallenge, ?_⟩, ?_⟩
        · rw [hid]
          exact decide_eq_true (List.mem_map_of_mem hscore)
        · rw [hid, hpoints]
      · intro hpair
        obtain ⟨challenge, hchallenge, rfl⟩ := List.mem_map.mp hpair
        obtain ⟨hchallenge, hsolved⟩ := List.mem_filter.mp hchallenge
        obtain ⟨score, hscore, hid⟩ := List.mem_map.mp (of_decide_eq_true hsolved)
        obtain ⟨other, hother, hsame, hpoints⟩ := hworth score hscore
        obtain rfl := Board.eq_of_id hchallenge hother (hsame.trans hid)
        exact List.mem_map.mpr ⟨score, hscore, by rw [hid, hpoints]⟩
  have hsum := (hperm.map Prod.snd).sum_eq
  rw [List.map_map, List.map_map] at hsum
  exact hsum

/-- In an orderly ledger a team holds the awards of what it has solved. -/
theorem Ledger.mem_scoresOf {c : Competition} (h : Ledger board c) {teamId challengeId : Str} :
    challengeId ∈ (c.scoresOf teamId).map CompetitionScore.challengeId ↔
      c.hasSolved teamId challengeId = true := by
  have hpairs := congrArg (List.map Prod.fst) h.accepted
  rw [List.map_map, List.map_map] at hpairs
  have hsolved : c.hasSolved teamId challengeId = true ↔
      (teamId, challengeId) ∈ c.acceptedSubmissions.map (Prod.fst ∘ CompetitionSubmission.award) := by
    unfold Competition.hasSolved
    rw [List.any_eq_true, List.mem_map]
    refine exists_congr fun s => and_congr_right fun _ => ?_
    show _ ↔ (s.teamId, s.challengeId) = _
    simp
  rw [hsolved, hpairs, List.mem_map, List.mem_map]
  unfold Competition.scoresOf
  simp only [List.mem_filter, decide_eq_true_eq]
  constructor
  · rintro ⟨score, ⟨hscore, rfl⟩, rfl⟩
    exact ⟨score, hscore, rfl⟩
  · rintro ⟨score, hscore, hpair⟩
    have hpair : (score.teamId, score.challengeId) = (teamId, challengeId) := hpair
    cases hpair
    exact ⟨score, ⟨hscore, rfl⟩, rfl⟩

/-- In an orderly ledger the awards of a team add up to what it has solved. -/
theorem Ledger.sum_scoresOf {c : Competition} (h : Ledger board c) (teamId : Str) :
    ((c.scoresOf teamId).map CompetitionScore.points).sum =
      ((board.challenges.filter fun challenge => c.hasSolved teamId challenge.id).map
        CompetitionChallenge.points).sum := by
  have hunique : ((c.scoresOf teamId).map CompetitionScore.challengeId).Nodup := by
    have hpairs := h.unique.sublist ((List.filter_sublist (p := fun s : CompetitionScore =>
      decide (s.teamId = teamId))).map CompetitionScore.pair)
    refine List.Nodup.of_map (Prod.mk teamId) ?_
    rw [List.map_map]
    refine (congrArg List.Nodup (List.map_congr_left fun s hs => ?_)).mp hpairs
    rw [← of_decide_eq_true (List.mem_filter.mp hs).2]
    rfl
  rw [sum_points hunique fun s hs => h.worth s (List.mem_filter.mp hs).1]
  congr 2
  refine List.filter_congr fun challenge _ => ?_
  rw [Bool.eq_iff_iff, decide_eq_true_eq]
  exact h.mem_scoresOf

/-- In an orderly ledger the scoreboard gives each team the points of what it has solved. -/
theorem Ledger.standings {c : Competition} (h : Ledger board c) :
    ∀ entry ∈ c.standings,
      entry.score = ((board.challenges.filter fun challenge =>
        c.hasSolved entry.teamId challenge.id).map CompetitionChallenge.points).sum := by
  intro entry hentry
  have hmem := (standings_scores c).mem_iff.mp (List.mem_map_of_mem hentry)
  obtain ⟨team, -, hteam⟩ := List.mem_map.mp hmem
  obtain ⟨hid, hscore⟩ := Prod.mk.inj hteam
  rw [← hscore, ← hid]
  exact h.sum_scoresOf team.id

end

/-! ### One competition -/

theorem juiceShopSolo_shipped : juiceShopSolo ∈ catalog := List.mem_cons_self

/-- The challenges of the smallest template, numbered. -/
def sampleBoard : Board where
  template := juiceShopSolo
  shipped := juiceShopSolo_shipped
  challengeId := natStr
  primaryKey := natStr_injective
  flagSalt _ _ := []
  fingerprintSalt := []

/-- The deployed range whose competition was started. -/
def playedRange : RangeInstance :=
  @RangeInstance.run Unicode.ascii sampleRange deployAndPlay

/-- Its competition. -/
def playedCompetition : Competition where
  id := str "c1"
  organizationId := str "o1"
  name := @displayName Unicode.ascii none (sampleRange.name ++ str " competition")
  state := .running
  startedAt := some sampleClock
  teams := [⟨str "t1", str "Red", str "red"⟩]

theorem playedRange_competition : playedRange.competition = some playedCompetition := by
  with_unfolding_all decide

end Secp.Range
