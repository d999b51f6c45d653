import Secp.Python.Sha256
import Secp.Range.Lifecycle

/-!
# Judging a submission

A competition is seeded with the challenges of its template, whose flags are kept as salted digests.
`submit_flag` reads the rows of one team and one challenge select by select, then writes what it
judged; `submitFlag` is the call with nothing in between, `SubmitCall.next` the same call one select
at a time, as it runs beside others.
-/

namespace Secp.Range

open Secp.Python Secp.Logic

/-! ## The shipped catalog -/

structure CatalogFlag where
  value : Str
  label : Str := []
  caseSensitive : Bool := false

structure CatalogChallenge where
  key : Str
  title : Str
  points : Int
  flags : List CatalogFlag
  maxAttempts : Int := 25

structure CatalogTemplate where
  slug : Str
  challenges : List CatalogChallenge

/-- `JUICE_SHOP_CHALLENGES`. -/
def juiceShopChallenges : List CatalogChallenge :=
  [ { key := str "juice-hidden-scoreboard"
      title := str "Find Juice Shop's hidden scoreboard"
      points := 50
      flags := [{ value := str "score-board", label := str "route segment" }] },
    { key := str "juice-admin-sqli"
      title := str "Log in as the Juice Shop administrator"
      points := 150
      flags := [{ value := str "admin@juice-sh.op", label := str "admin email" }] },
    { key := str "juice-exposed-file-server"
      title := str "Browse the exposed file server"
      points := 50
      flags := [{ value := str "acquisitions.md", label := str "document filename" }] }]

/-- `DVWA_CHALLENGES`. -/
def dvwaChallenges : List CatalogChallenge :=
  [ { key := str "dvwa-default-credentials"
      title := str "Get into DVWA"
      points := 50
      flags := [{ value := str "password", label := str "admin password" }] },
    { key := str "dvwa-sqli-password-hash"
      title := str "Extract a password hash by SQL injection"
      points := 150
      flags := [{ value := str "e99a18c428cb38d5f260853678922e03",
                  label := str "gordonb password hash" }] },
    { key := str "dvwa-command-injection"
      title := str "Run a command on the DVWA host"
      points := 150
      flags := [{ value := str "uid=33(www-data)", label := str "www-data uid" }] }]

def juiceShopSolo : CatalogTemplate := ⟨str "juice-shop-solo", juiceShopChallenges⟩

def webBreachLab : CatalogTemplate :=
  ⟨str "web-breach-lab", dvwaChallenges ++ juiceShopChallenges⟩

def proxmoxWebBreachLab : CatalogTemplate :=
  ⟨str "proxmox-web-breach-lab", dvwaChallenges ++ juiceShopChallenges⟩

/-- `CATALOG`. -/
def catalog : List CatalogTemplate := [juiceShopSolo, webBreachLab, proxmoxWebBreachLab]

/-! ## Challenge rows -/

/-- `_PBKDF2_ITERATIONS`. -/
def pbkdf2Iterations : Nat := 100000

/-- `_MAX_FLAG_LENGTH`. -/
def maxFlagLength : Nat := 512

/-- `_normalise`. -/
def normalise [Unicode] (value : Str) (caseSensitive : Bool) : Str :=
  if caseSensitive then strip value else lower (strip value)

/-- `_digest`, from the bytes the salt column spells out. -/
def flagDigest (value : Str) (salt : List Nat) : Str :=
  (Sha256.pbkdf2 (Sha256.encode value) salt pbkdf2Iterations).flatMap hex2

structure CompetitionFlag where
  label : Str
  salt : List Nat
  valueHash : Str
  caseSensitive : Bool

structure CompetitionChallenge where
  id : Str
  key : Str
  title : Str
  points : Int
  maxAttempts : Int
  flags : List CompetitionFlag

/-- The challenges of a competition, as `create_competition` seeds them from a template of the
catalog. No service writes to them afterwards. -/
structure Board where
  template : CatalogTemplate
  shipped : template ∈ catalog
  challengeId : Nat → Str
  /-- the primary key of the challenge table -/
  primaryKey : Function.Injective challengeId
  flagSalt : Nat → Nat → List Nat
  fingerprintSalt : List Nat

/-- The row of a flag. -/
def CatalogFlag.row [Unicode] (flag : CatalogFlag) (salt : List Nat) : CompetitionFlag where
  label := flag.label
  salt := salt
  valueHash := flagDigest (normalise flag.value flag.caseSensitive) salt
  caseSensitive := flag.caseSensitive

namespace Board

variable [Unicode] (board : Board)

/-- The rows of the challenge table. -/
def challenges : List CompetitionChallenge :=
  board.template.challenges.mapIdx fun order challenge =>
    { id := board.challengeId order
      key := challenge.key
      title := challenge.title
      points := challenge.points
      maxAttempts := challenge.maxAttempts
      flags := challenge.flags.mapIdx fun i flag => flag.row (board.flagSalt order i) }

end Board

/-- The candidate matches one of the flags. -/
def CompetitionChallenge.solvedBy [Unicode] (challenge : CompetitionChallenge) (value : Str) : Bool :=
  challenge.flags.any fun flag =>
    flagDigest (normalise value flag.caseSensitive) flag.salt = flag.valueHash

/-! ## What a submission reads -/

def submissionRejectedError (message : Str) : DomainError :=
  ⟨422, str "submission_rejected", message⟩

namespace Competition

variable (competition : Competition) (teamId challengeId : Str)

/-- The submissions of a team for a challenge. -/
def submissionsOf : List CompetitionSubmission :=
  competition.submissions.filter fun s => s.teamId = teamId && s.challengeId = challengeId

/-- `attempts_used`. -/
def attemptsUsed : Nat := (competition.submissionsOf teamId challengeId).length

/-- The team holds the solve. -/
def awarded : Bool :=
  competition.scores.any fun s => s.teamId = teamId && s.challengeId = challengeId

/-- The team has tried the value before. -/
def tried (fingerprint : Str) : Bool :=
  (competition.submissionsOf teamId challengeId).any fun s => s.valueFingerprint = fingerprint

end Competition

/-! ## One call -/

/-- Where a call is: the selects in their order, each with the count of attempts the first one took,
and the three places it commits from. -/
inductive SubmitStage where
  | counting
  | lookingForAward (attemptsUsed : Nat)
  | lookingForDuplicate (attemptsUsed : Nat)
  | comparing (attemptsUsed : Nat)
  | recording (verdict : SubmissionVerdict) (attemptsRemaining : Int)
  | awarding (attemptsRemaining : Int)
  /-- the award was refused by its unique constraint and the transaction rolled back -/
  | downgrading (attemptsRemaining : Int)
  deriving DecidableEq

/-- A call in flight, with the rows it has loaded. -/
structure SubmitCall where
  competitionState : CompetitionState
  team : CompetitionTeam
  challenge : CompetitionChallenge
  value : Str
  fingerprint : Str
  stage : SubmitStage := .counting

/-- The part of `submit_flag` before its first select of submissions. -/
def openSubmission [Unicode] (board : Board) (range : RangeInstance) (principal : Principal)
    (teamId challengeId value : Str) : Except DomainError SubmitCall := do
  let competition ← getCompetition range principal
  raiseIf (maxFlagLength < value.length)
    (submissionRejectedError (str "the submitted value is too long"))
  match competition.teams.find? fun team => team.id = teamId with
  | none => throw (submissionRejectedError (str "that team is not in this competition"))
  | some team =>
      match board.challenges.find? fun challenge => challenge.id = challengeId with
      | none => throw (submissionRejectedError (str "that challenge is not in this competition"))
      | some challenge =>
          pure
            { competitionState := competition.state
              team := team
              challenge := challenge
              value := value
              fingerprint := flagDigest (lower (strip value)) board.fingerprintSalt }

namespace SubmitCall

variable (call : SubmitCall)

/-- `max(challenge.max_attempts - attempts_used, 0)`. -/
def remaining (attemptsUsed : Nat) : Int := max (call.challenge.maxAttempts - attemptsUsed) 0

/-- The next select, and what the call makes of it. -/
def next [Unicode] (competition : Competition) : SubmitStage :=
  match call.stage with
  | .counting =>
      let attemptsUsed := competition.attemptsUsed call.team.id call.challenge.id
      if call.competitionState ≠ .running then .recording .notOpen (call.remaining attemptsUsed)
      else .lookingForAward attemptsUsed
  | .lookingForAward attemptsUsed =>
      if competition.awarded call.team.id call.challenge.id then
        .recording .alreadySolved (call.remaining attemptsUsed)
      else .lookingForDuplicate attemptsUsed
  | .lookingForDuplicate attemptsUsed =>
      if competition.tried call.team.id call.challenge.id call.fingerprint then
        .recording .duplicate (call.remaining attemptsUsed)
      else if call.challenge.maxAttempts ≤ attemptsUsed then .recording .attemptsExhausted 0
      else .comparing attemptsUsed
  | .comparing attemptsUsed =>
      if call.challenge.solvedBy call.value then .awarding (call.remaining (attemptsUsed + 1))
      else .recording .incorrect (call.remaining (attemptsUsed + 1))
  | stage => stage

/-- The row `record` adds. -/
def submission (verdict : SubmissionVerdict) (points : Int) : CompetitionSubmission where
  teamId := call.team.id
  challengeId := call.challenge.id
  verdict := verdict
  pointsAwarded := points
  valueFingerprint := call.fingerprint

/-- The award. -/
def score (now : Datetime) : CompetitionScore where
  teamId := call.team.id
  challengeId := call.challenge.id
  points := call.challenge.points
  awardedAt := now

end SubmitCall

/-- `record`, committed. -/
def RangeInstance.recordSubmission (range : RangeInstance) (row : CompetitionSubmission) :
    RangeInstance :=
  { range with
    competition := range.competition.map fun c => { c with submissions := c.submissions ++ [row] } }

/-- The accepted submission and its award, committed together with their event. -/
def RangeInstance.award (range : RangeInstance) (call : SubmitCall) (now : Datetime) :
    RangeInstance :=
  let recorded := range.recordSubmission (call.submission .accepted call.challenge.points)
  RangeInstance.recordEvent
    { recorded with
      competition := recorded.competition.map fun c => { c with scores := c.scores ++ [call.score now] } }
    (str "challenge_solved")
    (call.team.name ++ str " solved '" ++ call.challenge.title ++ str "' for " ++
      intStr call.challenge.points ++ str " points")
    .info
    (.obj [(str "team_id", .str call.team.id), (str "challenge_id", .str call.challenge.id)])

/-! ## The call with nothing in between -/

structure SubmissionOutcome where
  submission : CompetitionSubmission
  team : CompetitionTeam
  challenge : CompetitionChallenge
  attemptsRemaining : Int

/-- `submit_flag`. -/
def submitFlag [Unicode] (board : Board) (range : RangeInstance) (principal : Principal)
    (teamId challengeId value : Str) (now : Datetime) :
    Except DomainError (RangeInstance × SubmissionOutcome) := do
  let call ← openSubmission board range principal teamId challengeId value
  let competition ← getCompetition range principal
  let record (verdict : SubmissionVerdict) (attemptsRemaining : Int) :
      RangeInstance × SubmissionOutcome :=
    (range.recordSubmission (call.submission verdict 0),
      ⟨call.submission verdict 0, call.team, call.challenge, attemptsRemaining⟩)
  let attemptsUsed := competition.attemptsUsed call.team.id call.challenge.id
  if competition.state ≠ .running then pure (record .notOpen (call.remaining attemptsUsed))
  else if competition.awarded call.team.id call.challenge.id then
    -- correct or not, the team already holds the solve
    pure (record .alreadySolved (call.remaining attemptsUsed))
  else if competition.tried call.team.id call.challenge.id call.fingerprint then
    pure (record .duplicate (call.remaining attemptsUsed))
  else if call.challenge.maxAttempts ≤ attemptsUsed then pure (record .attemptsExhausted 0)
  else if !call.challenge.solvedBy value then
    pure (record .incorrect (call.remaining (attemptsUsed + 1)))
  else if competition.awarded call.team.id call.challenge.id then
    -- the unique constraint of the award ledger
    pure (record .alreadySolved (call.remaining (attemptsUsed + 1)))
  else
    pure (range.award call now,
      ⟨call.submission .accepted call.challenge.points, call.team, call.challenge,
        call.remaining (attemptsUsed + 1)⟩)

/-! ## Clearing the ledger -/

/-- `reset_scores`. -/
def resetScores (range : RangeInstance) (principal : Principal) :
    Except DomainError RangeInstance := do
  let competition ← getCompetition range principal
  principal.require .exerciseReset
  pure (range.resetScores.recordEvent (str "scores_reset")
    (str "Scores reset for competition '" ++ competition.name ++ str "'"))

/-! ## Facts about the seeded challenges -/

theorem catalog_challenge {template : CatalogTemplate} (h : template ∈ catalog) :
    ∀ challenge ∈ template.challenges, 0 ≤ challenge.points ∧ challenge.maxAttempts = 25 := by
  have hjuice : ∀ challenge ∈ juiceShopChallenges,
      0 ≤ challenge.points ∧ challenge.maxAttempts = 25 := by
    intro challenge hchallenge
    simp only [juiceShopChallenges, List.mem_cons, List.not_mem_nil, or_false] at hchallenge
    obtain rfl | rfl | rfl := hchallenge <;> exact ⟨by decide, rfl⟩
  have hdvwa : ∀ challenge ∈ dvwaChallenges,
      0 ≤ challenge.points ∧ challenge.maxAttempts = 25 := by
    intro challenge hchallenge
    simp only [dvwaChallenges, List.mem_cons, List.not_mem_nil, or_false] at hchallenge
    obtain rfl | rfl | rfl := hchallenge <;> exact ⟨by decide, rfl⟩
  have hboth : ∀ challenge ∈ dvwaChallenges ++ juiceShopChallenges,
      0 ≤ challenge.points ∧ challenge.maxAttempts = 25 := by
    intro challenge hchallenge
    rcases List.mem_append.mp hchallenge with hchallenge | hchallenge
    · exact hdvwa challenge hchallenge
    · exact hjuice challenge hchallenge
  simp only [catalog, List.mem_cons, List.not_mem_nil, or_false] at h
  obtain rfl | rfl | rfl := h
  · exact hjuice
  · exact hboth
  · exact hboth

section
variable [Unicode] {board : Board} {challenge : CompetitionChallenge}

/-- Every challenge row comes from the catalog. -/
theorem Board.challenge_spec (h : challenge ∈ board.challenges) :
    0 ≤ challenge.points ∧ challenge.maxAttempts = 25 := by
  unfold Board.challenges at h
  obtain ⟨order, horder, rfl⟩ := List.mem_mapIdx.mp h
  exact catalog_challenge board.shipped _ (List.getElem_mem horder)

/-- No two challenges share an id. -/
theorem Board.nodup_ids : (board.challenges.map CompetitionChallenge.id).Nodup := by
  unfold Board.challenges
  rw [List.nodup_iff_injective_getElem]
  intro i j hij
  simp only [List.getElem_map, List.getElem_mapIdx] at hij
  exact Fin.ext (board.primaryKey hij)

theorem Board.eq_of_id {other : CompetitionChallenge} (h : challenge ∈ board.challenges)
    (hother : other ∈ board.challenges) (hid : other.id = challenge.id) : other = challenge :=
  List.inj_on_of_nodup_map Board.nodup_ids hother h hid

/-- What a call has loaded when it opens. -/
theorem openSubmission_spec {range : RangeInstance} {principal : Principal}
    {teamId challengeId value : Str} {call : SubmitCall}
    (h : openSubmission board range principal teamId challengeId value = .ok call) :
    (∃ c, range.competition = some c ∧ call.competitionState = c.state ∧ call.team ∈ c.teams) ∧
      call.challenge ∈ board.challenges ∧ call.team.id = teamId ∧
      call.challenge.id = challengeId ∧ call.value = value ∧ call.stage = .counting := by
  unfold openSubmission at h
  obtain ⟨competition, hget, h⟩ := except_bind_eq_ok.mp h
  obtain ⟨-, h⟩ := except_unit_bind_eq_ok.mp h
  cases hteam : competition.teams.find? fun team => team.id = teamId with
  | none =>
      simp only [hteam] at h
      cases h
  | some team =>
      cases hchallenge : board.challenges.find? fun challenge => challenge.id = challengeId with
      | none =>
          simp only [hteam, hchallenge] at h
          cases h
      | some challenge =>
          simp only [hteam, hchallenge] at h
          cases h
          refine ⟨⟨competition, getCompetition_spec hget, rfl, List.mem_of_find?_eq_some hteam⟩,
            List.mem_of_find?_eq_some hchallenge, ?_, ?_, rfl, rfl⟩
          · simpa using List.find?_some hteam
          · simpa using List.find?_some hchallenge

end

end Secp.Range
