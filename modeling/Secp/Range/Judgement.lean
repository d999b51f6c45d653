import Secp.Range.Attempts

/-!
# What a submission is judged

With nothing in between, a call's verdict and the attempts it reports depend on the rows of its team and
challenge alone, and whatever the verdict is, one row is added. The attempts it reports leave that row
out where the value was tried before.
-/

namespace Secp.Range

open Secp.Python Secp.Logic

/-! ## One call -/

namespace SubmitCall

variable [Unicode] (call : SubmitCall) (competition : Competition)

/-- What the call is judged. -/
def verdict : SubmissionVerdict :=
  if competition.state ≠ .running then .notOpen
  else if competition.awarded call.team.id call.challenge.id then .alreadySolved
  else if competition.tried call.team.id call.challenge.id call.fingerprint then .duplicate
  else if call.challenge.maxAttempts ≤ competition.attemptsUsed call.team.id call.challenge.id then
    .attemptsExhausted
  else if call.challenge.solvedBy call.value then .accepted
  else .incorrect

omit [Unicode] in
/-- The attempts that are reported with a verdict. -/
def attemptsRemaining (attemptsUsed : Nat) : SubmissionVerdict → Int
  | .attemptsExhausted => 0
  | .accepted => call.remaining (attemptsUsed + 1)
  | .incorrect => call.remaining (attemptsUsed + 1)
  | _ => call.remaining attemptsUsed

omit [Unicode] in
/-- The rows after the call. -/
def judged (verdict : SubmissionVerdict) (now : Datetime) : Competition :=
  match verdict with
  | .accepted => { competition with
      submissions := competition.submissions ++
        [call.submission .accepted call.challenge.points]
      scores := competition.scores ++ [call.score now] }
  | verdict => { competition with
      submissions := competition.submissions ++ [call.submission verdict 0] }

end SubmitCall

section
variable [Unicode] {board : Board} {range : RangeInstance} {principal : Principal}
  {teamId challengeId value : Str} {now : Datetime} {call : SubmitCall} {competition : Competition}

/-- What was opened has found its competition. -/
theorem getCompetition_of_opened
    (hopen : openSubmission board range principal teamId challengeId value = .ok call)
    (hcompetition : range.competition = some competition) :
    getCompetition range principal = .ok competition := by
  unfold openSubmission at hopen
  obtain ⟨found, hget, -⟩ := except_bind_eq_ok.mp hopen
  rw [hget, Option.some.inj ((getCompetition_spec hget).symm.trans hcompetition)]

theorem fingerprint_of_opened
    (hopen : openSubmission board range principal teamId challengeId value = .ok call) :
    call.fingerprint = flagDigest (lower (strip value)) board.fingerprintSalt := by
  unfold openSubmission at hopen
  obtain ⟨found, -, hopen⟩ := except_bind_eq_ok.mp hopen
  obtain ⟨-, hopen⟩ := except_unit_bind_eq_ok.mp hopen
  cases hteam : found.teams.find? fun team => team.id = teamId with
  | none =>
      simp only [hteam] at hopen
      cases hopen
  | some team =>
      cases hchallenge : board.challenges.find? fun challenge => challenge.id = challengeId with
      | none =>
          simp only [hteam, hchallenge] at hopen
          cases hopen
      | some challenge =>
          simp only [hteam, hchallenge] at hopen
          cases hopen
          dsimp only

/-- A call that opens returns: it is judged, its row is added, and the range stays in its state. -/
theorem submitFlag_returns
    (hopen : openSubmission board range principal teamId challengeId value = .ok call)
    (hcompetition : range.competition = some competition) :
    ∃ range' outcome,
      submitFlag board range principal teamId challengeId value now = .ok (range', outcome) ∧
        range'.competition = some (call.judged competition (call.verdict competition) now) ∧
        outcome.submission.verdict = call.verdict competition ∧
        outcome.attemptsRemaining = call.attemptsRemaining
          (competition.attemptsUsed call.team.id call.challenge.id) (call.verdict competition) ∧
        range'.state = range.state := by
  have hvalue : call.value = value := (openSubmission_spec hopen).2.2.2.2.1
  have hrecord (verdict : SubmissionVerdict) :
      (range.recordSubmission (call.submission verdict 0)).competition =
        some { competition with
          submissions := competition.submissions ++ [call.submission verdict 0] } :=
    Arena.competition_recordSubmission hcompetition _
  unfold submitFlag
  rw [except_bind_of_ok hopen, except_bind_of_ok (getCompetition_of_opened hopen hcompetition)]
  dsimp only
  by_cases hclosed : competition.state ≠ .running
  · have hverdict : call.verdict competition = .notOpen := if_pos hclosed
    rw [if_pos hclosed, hverdict]
    exact ⟨_, _, rfl, hrecord .notOpen, rfl, rfl, rfl⟩
  rw [if_neg hclosed]
  by_cases hheld : competition.awarded call.team.id call.challenge.id = true
  · have hverdict : call.verdict competition = .alreadySolved :=
      (if_neg hclosed).trans (if_pos hheld)
    rw [if_pos hheld, hverdict]
    exact ⟨_, _, rfl, hrecord .alreadySolved, rfl, rfl, rfl⟩
  rw [if_neg hheld]
  by_cases htried : competition.tried call.team.id call.challenge.id call.fingerprint = true
  · have hverdict : call.verdict competition = .duplicate :=
      (if_neg hclosed).trans ((if_neg hheld).trans (if_pos htried))
    rw [if_pos htried, hverdict]
    exact ⟨_, _, rfl, hrecord .duplicate, rfl, rfl, rfl⟩
  rw [if_neg htried]
  by_cases hexhausted : call.challenge.maxAttempts ≤
      competition.attemptsUsed call.team.id call.challenge.id
  · have hverdict : call.verdict competition = .attemptsExhausted :=
      (if_neg hclosed).trans ((if_neg hheld).trans ((if_neg htried).trans (if_pos hexhausted)))
    rw [if_pos hexhausted, hverdict]
    exact ⟨_, _, rfl, hrecord .attemptsExhausted, rfl, rfl, rfl⟩
  rw [if_neg hexhausted]
  have hopened : call.verdict competition =
      if call.challenge.solvedBy value then .accepted else .incorrect := by
    rw [← hvalue]
    exact (if_neg hclosed).trans ((if_neg hheld).trans ((if_neg htried).trans (if_neg hexhausted)))
  by_cases hsolved : call.challenge.solvedBy value = true
  · rw [if_neg (by simp [hsolved]), if_neg hheld, hopened, if_pos hsolved]
    refine ⟨_, _, rfl, ?_, rfl, rfl, rfl⟩
    rw [competition_award, hcompetition]
    rfl
  · rw [if_pos (by simp [hsolved]), hopened, if_neg hsolved]
    exact ⟨_, _, rfl, hrecord .incorrect, rfl, rfl, rfl⟩

/-- The call reads no more of the range than the organization, the teams and the state of its
competition. -/
theorem openSubmission_congr {range' : RangeInstance} {competition' : Competition}
    (hcompetition : range.competition = some competition)
    (hcompetition' : range'.competition = some competition')
    (horganization : competition'.organizationId = competition.organizationId)
    (hteams : competition'.teams = competition.teams) (hstate : competition'.state = competition.state) :
    openSubmission board range' principal teamId challengeId value =
      openSubmission board range principal teamId challengeId value := by
  have hget : getCompetition range' principal =
      (getCompetition range principal).map fun _ => competition' := by
    unfold getCompetition
    rw [hcompetition, hcompetition']
    dsimp only
    rw [horganization]
    cases principal.require .exerciseOperate with
    | error e => rfl
    | ok _ => cases principal.requireOrg competition.organizationId <;> rfl
  unfold openSubmission
  rw [hget]
  cases hfound : getCompetition range principal with
  | error e => rfl
  | ok found =>
      obtain rfl := Option.some.inj (hcompetition.symm.trans (getCompetition_spec hfound))
      show (raiseIf _ _ >>= fun _ => _) = (raiseIf _ _ >>= fun _ => _)
      rw [hteams, hstate]

end

/-! ## The rows after a call -/

namespace SubmitCall

variable {call : SubmitCall} {competition : Competition} {v : SubmissionVerdict} {now : Datetime}
  {teamId challengeId : Str}

theorem judged_kept (call : SubmitCall) (competition : Competition) (v : SubmissionVerdict)
    (now : Datetime) :
    (call.judged competition v now).state = competition.state ∧
      (call.judged competition v now).teams = competition.teams ∧
      (call.judged competition v now).organizationId = competition.organizationId := by
  cases v <;> exact ⟨rfl, rfl, rfl⟩

/-- One row is added, with the verdict and the fingerprint of the call. -/
theorem submissions_judged (call : SubmitCall) (competition : Competition) (v : SubmissionVerdict)
    (now : Datetime) :
    ∃ points, (call.judged competition v now).submissions =
      competition.submissions ++ [call.submission v points] := by
  cases v <;> exact ⟨_, rfl⟩

/-- The row is one of its team and challenge. -/
theorem submissionsOf_judged (hteam : call.team.id = teamId) (hid : call.challenge.id = challengeId) :
    ∃ points, (call.judged competition v now).submissionsOf teamId challengeId =
      competition.submissionsOf teamId challengeId ++ [call.submission v points] := by
  obtain ⟨points, hrows⟩ := call.submissions_judged competition v now
  refine ⟨points, ?_⟩
  unfold Competition.submissionsOf
  rw [hrows, List.filter_append, List.filter_singleton]
  simp [submission, hteam, hid]

/-- Other teams and challenges keep their rows. -/
theorem submissionsOf_judged_of_ne
    (hne : ¬ (call.team.id = teamId ∧ call.challenge.id = challengeId)) :
    (call.judged competition v now).submissionsOf teamId challengeId =
      competition.submissionsOf teamId challengeId := by
  obtain ⟨points, hrows⟩ := call.submissions_judged competition v now
  unfold Competition.submissionsOf
  rw [hrows, List.filter_append, List.filter_singleton]
  by_cases hteam : call.team.id = teamId
  · have hid : call.challenge.id ≠ challengeId := fun h => hne ⟨hteam, h⟩
    simp [submission, hid]
  · simp [submission, hteam]

theorem attemptsUsed_judged (hteam : call.team.id = teamId) (hid : call.challenge.id = challengeId) :
    (call.judged competition v now).attemptsUsed teamId challengeId =
      competition.attemptsUsed teamId challengeId + 1 := by
  obtain ⟨points, hrows⟩ := @submissionsOf_judged call competition v now _ _ hteam hid
  unfold Competition.attemptsUsed
  rw [hrows, List.length_append]
  rfl

theorem tried_judged (hteam : call.team.id = teamId) (hid : call.challenge.id = challengeId)
    (fingerprint : Str) :
    (call.judged competition v now).tried teamId challengeId fingerprint =
      (competition.tried teamId challengeId fingerprint || decide (call.fingerprint = fingerprint)) := by
  obtain ⟨points, hrows⟩ := @submissionsOf_judged call competition v now _ _ hteam hid
  unfold Competition.tried
  rw [hrows, List.any_append]
  simp [submission]

/-- Only an accepted submission is awarded. -/
theorem awarded_judged (hv : v ≠ .accepted) :
    (call.judged competition v now).awarded teamId challengeId =
      competition.awarded teamId challengeId := by
  cases v with
  | accepted => exact absurd rfl hv
  | incorrect => rfl
  | duplicate => rfl
  | alreadySolved => rfl
  | notOpen => rfl
  | attemptsExhausted => rfl

theorem awarded_judged_accepted :
    (call.judged competition .accepted now).awarded teamId challengeId =
      (competition.awarded teamId challengeId ||
        (call.team.id = teamId && call.challenge.id = challengeId)) := by
  unfold Competition.awarded
  show (competition.scores ++ [call.score now]).any _ = _
  rw [List.any_append]
  simp [score]

end SubmitCall

/-! ## A sequence of calls -/

/-- Wrong answers as long as attempts are left, and no attempts after that. -/
def attemptsUsedUp (attempts calls : Nat) : List SubmissionVerdict :=
  List.replicate (min attempts calls) .incorrect ++
    List.replicate (calls - attempts) .attemptsExhausted

theorem attemptsUsedUp_succ (attempts calls : Nat) :
    attemptsUsedUp (attempts + 1) (calls + 1) = .incorrect :: attemptsUsedUp attempts calls := by
  unfold attemptsUsedUp
  rw [Nat.succ_min_succ, Nat.add_sub_add_right]
  rfl

theorem attemptsUsedUp_zero (calls : Nat) :
    attemptsUsedUp 0 (calls + 1) = .attemptsExhausted :: attemptsUsedUp 0 calls := by
  unfold attemptsUsedUp
  rw [Nat.zero_min, Nat.zero_min]
  rfl

/-- While there are attempts for all calls, it does not matter how many there are. -/
theorem attemptsUsedUp_of_le {attempts calls : Nat} (h : calls ≤ attempts) :
    attemptsUsedUp attempts calls = List.replicate calls .incorrect := by
  unfold attemptsUsedUp
  rw [min_eq_right h, Nat.sub_eq_zero_of_le h, List.replicate_zero, List.append_nil]

theorem count_attemptsUsedUp (attempts calls : Nat) :
    (attemptsUsedUp attempts calls).count .incorrect = min attempts calls := by
  unfold attemptsUsedUp
  rw [List.count_append, List.count_replicate_self, List.count_replicate]
  simp

section
variable [Unicode]

/-- What calls one after the other are judged. -/
def Competition.judgements (competition : Competition) :
    List (SubmitCall × Datetime) → List SubmissionVerdict
  | [] => []
  | (call, now) :: rest =>
      call.verdict competition ::
        (call.judged competition (call.verdict competition) now).judgements rest

/-- The competition runs, the team has not solved the challenge, and the calls are all its own for this
challenge. -/
structure Contested (competition : Competition) (teamId : Str) (challenge : CompetitionChallenge)
    (calls : List (SubmitCall × Datetime)) : Prop where
  running : competition.state = .running
  unsolved : competition.awarded teamId challenge.id = false
  team : ∀ call ∈ calls, call.1.team.id = teamId
  challenge : ∀ call ∈ calls, call.1.challenge = challenge

/-- The attempts that are left. -/
def Competition.attemptsLeft (competition : Competition) (teamId : Str)
    (challenge : CompetitionChallenge) : Nat :=
  (challenge.maxAttempts - competition.attemptsUsed teamId challenge.id).toNat

variable {competition : Competition} {teamId : Str} {challenge : CompetitionChallenge}
  {call : SubmitCall} {now : Datetime} {rest : List (SubmitCall × Datetime)}

/-- What one of the calls is judged. -/
theorem Contested.verdict_eq (h : Contested competition teamId challenge ((call, now) :: rest)) :
    call.verdict competition =
      if competition.tried teamId challenge.id call.fingerprint then .duplicate
      else if competition.attemptsLeft teamId challenge = 0 then .attemptsExhausted
      else if challenge.solvedBy call.value then .accepted
      else .incorrect := by
  have hteam := h.team _ List.mem_cons_self
  have hchallenge := h.challenge _ List.mem_cons_self
  dsimp only at hteam hchallenge
  unfold SubmitCall.verdict
  rw [if_neg (not_not.mpr h.running), hteam, hchallenge,
    if_neg (by rw [h.unsolved]; exact Bool.false_ne_true)]
  refine if_congr Iff.rfl rfl (if_congr ?_ rfl rfl)
  unfold Competition.attemptsLeft
  omega

omit [Unicode] in
/-- The other calls stay, and an attempt fewer is left. -/
theorem Contested.next (h : Contested competition teamId challenge ((call, now) :: rest))
    {v : SubmissionVerdict} (hv : v ≠ .accepted) :
    Contested (call.judged competition v now) teamId challenge rest ∧
      (call.judged competition v now).attemptsLeft teamId challenge =
        competition.attemptsLeft teamId challenge - 1 ∧
      ∀ fingerprint, (call.judged competition v now).tried teamId challenge.id fingerprint =
        (competition.tried teamId challenge.id fingerprint ||
          decide (call.fingerprint = fingerprint)) := by
  have hteam : call.team.id = teamId := h.team _ List.mem_cons_self
  have hchallenge : call.challenge.id = challenge.id :=
    congrArg CompetitionChallenge.id (h.challenge _ List.mem_cons_self)
  refine ⟨⟨?_, ?_, ?_, ?_⟩, ?_, SubmitCall.tried_judged hteam hchallenge⟩
  · rw [(call.judged_kept competition v now).1]
    exact h.running
  · rw [SubmitCall.awarded_judged hv]
    exact h.unsolved
  · exact fun other hother => h.team other (List.mem_cons_of_mem _ hother)
  · exact fun other hother => h.challenge other (List.mem_cons_of_mem _ hother)
  · unfold Competition.attemptsLeft
    rw [SubmitCall.attemptsUsed_judged hteam hchallenge]
    omega

/-- The fingerprints differ from each other and from those of the rows. -/
def Fresh (competition : Competition) (teamId challengeId : Str) (fingerprints : List Str) : Prop :=
  fingerprints.Nodup ∧
    ∀ fingerprint ∈ fingerprints, competition.tried teamId challengeId fingerprint = false

omit [Unicode] in
theorem fresh_cons {challengeId fingerprint : Str} {fingerprints : List Str}
    {after : Competition}
    (hafter : ∀ other, after.tried teamId challengeId other =
      (competition.tried teamId challengeId other || decide (fingerprint = other))) :
    Fresh competition teamId challengeId (fingerprint :: fingerprints) ↔
      competition.tried teamId challengeId fingerprint = false ∧
        Fresh after teamId challengeId fingerprints := by
  unfold Fresh
  simp only [List.nodup_cons, List.mem_cons, forall_eq_or_imp, hafter, Bool.or_eq_false_iff,
    decide_eq_false_iff_not]
  constructor
  · intro h
    exact ⟨h.2.1, h.1.2, fun other hother =>
      ⟨h.2.2 other hother, fun heq => h.1.1 (heq ▸ hother)⟩⟩
  · intro h
    exact ⟨⟨fun hmem => (h.2.2 _ hmem).2 rfl, h.2.1⟩, h.1, fun other hother => (h.2.2 other hother).1⟩

/-- A value is compared only while an attempt is left. -/
theorem attempts_left_of_incorrect (h : call.verdict competition = .incorrect) :
    competition.attemptsUsed call.team.id call.challenge.id < call.challenge.maxAttempts := by
  unfold SubmitCall.verdict at h
  by_contra hexhausted
  rw [not_lt] at hexhausted
  rw [if_pos hexhausted] at h
  split at h
  · cases h
  · split at h
    · cases h
    · split at h <;> cases h

/-- No more than the attempts that are left are judged incorrect. -/
theorem count_incorrect_le {calls : List (SubmitCall × Datetime)}
    (hteam : ∀ call ∈ calls, call.1.team.id = teamId)
    (hchallenge : ∀ call ∈ calls, call.1.challenge = challenge) :
    (competition.judgements calls).count .incorrect ≤ competition.attemptsLeft teamId challenge := by
  induction calls generalizing competition with
  | nil => exact Nat.zero_le _
  | cons head rest ih =>
      obtain ⟨call, now⟩ := head
      have hcall : call.team.id = teamId := hteam _ List.mem_cons_self
      have hsame : call.challenge = challenge := hchallenge _ List.mem_cons_self
      have hrest := @ih (call.judged competition (call.verdict competition) now)
        (fun other hother => hteam other (List.mem_cons_of_mem _ hother))
        fun other hother => hchallenge other (List.mem_cons_of_mem _ hother)
      have hused := @SubmitCall.attemptsUsed_judged call competition (call.verdict competition) now
        _ _ hcall (congrArg CompetitionChallenge.id hsame)
      unfold Competition.attemptsLeft at hrest ⊢
      rw [hused] at hrest
      show (call.verdict competition :: Competition.judgements _ rest).count .incorrect ≤ _
      rw [List.count_cons]
      by_cases hincorrect : call.verdict competition = .incorrect
      · have hleft := attempts_left_of_incorrect hincorrect
        rw [hcall, hsame] at hleft
        rw [if_pos (by rw [hincorrect]; rfl)]
        omega
      · rw [if_neg (by simpa using hincorrect)]
        omega

omit [Unicode] in
/-- Neither list of verdicts begins with anything else. -/
theorem attemptsUsedUp_head {attempts calls : Nat} {v : SubmissionVerdict}
    {verdicts : List SubmissionVerdict} (h : v :: verdicts = attemptsUsedUp attempts (calls + 1)) :
    v = .incorrect ∨ v = .attemptsExhausted := by
  cases attempts with
  | zero =>
      rw [attemptsUsedUp_zero] at h
      exact .inr (List.cons.inj h).1
  | succ attempts =>
      rw [attemptsUsedUp_succ] at h
      exact .inl (List.cons.inj h).1

/-- The attempts that are left are used up, one call after the other, exactly if the values are fresh
and no flag is among those that are compared. -/
theorem Contested.judgements_iff {calls : List (SubmitCall × Datetime)}
    (h : Contested competition teamId challenge calls) :
    competition.judgements calls =
        attemptsUsedUp (competition.attemptsLeft teamId challenge) calls.length ↔
      Fresh competition teamId challenge.id (calls.map fun call => call.1.fingerprint) ∧
        ∀ call ∈ calls.take (competition.attemptsLeft teamId challenge),
          challenge.solvedBy call.1.value = false := by
  induction calls generalizing competition with
  | nil => simp [Competition.judgements, attemptsUsedUp, Fresh]
  | cons head rest ih =>
      obtain ⟨call, now⟩ := head
      have hverdict := h.verdict_eq
      have hfresh (v : SubmissionVerdict) (hv : v ≠ .accepted) :=
        @fresh_cons competition teamId challenge.id call.fingerprint
          (rest.map fun call => call.1.fingerprint) _ (@Contested.next _ _ _ _ now _ h v hv).2.2
      show call.verdict competition :: Competition.judgements _ rest = _ ↔ _
      rw [List.map_cons, List.length_cons]
      by_cases htried : competition.tried teamId challenge.id call.fingerprint = true
      · -- a repeat is a duplicate
        rw [if_pos htried] at hverdict
        refine iff_of_false (fun hsame => ?_) fun hboth => ?_
        · rcases attemptsUsedUp_head hsame with hv | hv <;> rw [hverdict] at hv <;> cases hv
        · have hnot := hboth.1.2 _ List.mem_cons_self
          rw [htried] at hnot
          cases hnot
      rw [if_neg htried] at hverdict
      rw [Bool.not_eq_true] at htried
      cases hleft : competition.attemptsLeft teamId challenge with
      | zero =>
          rw [if_pos hleft] at hverdict
          obtain ⟨hnext, hleft', -⟩ := @Contested.next _ _ _ _ now _ h .attemptsExhausted (by decide)
          have hrest := ih hnext
          rw [hleft', hleft] at hrest
          rw [hverdict, attemptsUsedUp_zero, List.cons.injEq, hrest, hfresh .attemptsExhausted (by decide)]
          simp [htried]
      | succ left =>
          rw [if_neg (by omega)] at hverdict
          by_cases hsolved : challenge.solvedBy call.value = true
          · rw [if_pos hsolved] at hverdict
            refine iff_of_false (fun hsame => ?_) fun hboth => ?_
            · rcases attemptsUsedUp_head hsame with hv | hv <;> rw [hverdict] at hv <;> cases hv
            · have hnot := hboth.2 (call, now) (by rw [List.take_succ_cons]; exact List.mem_cons_self)
              rw [hsolved] at hnot
              cases hnot
          · rw [if_neg hsolved] at hverdict
            rw [Bool.not_eq_true] at hsolved
            obtain ⟨hnext, hleft', -⟩ := @Contested.next _ _ _ _ now _ h .incorrect (by decide)
            have hrest := ih hnext
            rw [hleft', hleft, Nat.add_sub_cancel] at hrest
            rw [hverdict, attemptsUsedUp_succ, List.cons.injEq, hrest, hfresh .incorrect (by decide),
              List.take_succ_cons, List.forall_mem_cons]
            simp [htried, hsolved]

end

/-! ## What a call reports -/

/-- A submission that follows. -/
structure FlagEntry where
  principal : Principal
  value : Str
  now : Datetime

section
variable [Unicode]

/-- The fingerprint of a value. -/
def Board.fingerprint (board : Board) (value : Str) : Str :=
  flagDigest (lower (strip value)) board.fingerprintSalt

/-- What submissions for a team and a challenge are judged, one after the other. -/
def judgeEntries (board : Board) (teamId challengeId : Str) :
    RangeInstance → List FlagEntry → List (Option SubmissionVerdict)
  | _, [] => []
  | range, entry :: rest =>
      match submitFlag board range entry.principal teamId challengeId entry.value entry.now with
      | .ok (range', outcome) =>
          some outcome.submission.verdict :: judgeEntries board teamId challengeId range' rest
      | .error _ => none :: judgeEntries board teamId challengeId range rest

/-- The entry opens the call. -/
structure Opens (board : Board) (range : RangeInstance) (teamId challengeId : Str)
    (entry : FlagEntry) (call : SubmitCall × Datetime) : Prop where
  opened : openSubmission board range entry.principal teamId challengeId entry.value = .ok call.1
  now : call.2 = entry.now

variable {board : Board} {range range' : RangeInstance} {competition : Competition}
  {teamId challengeId : Str} {entries : List FlagEntry}

/-- Entries that open are judged by the rows alone. -/
theorem judgeEntries_eq {calls : List (SubmitCall × Datetime)}
    (hcompetition : range.competition = some competition)
    (hopens : List.Forall₂ (Opens board range teamId challengeId) entries calls) :
    judgeEntries board teamId challengeId range entries = (competition.judgements calls).map some := by
  induction entries generalizing range competition calls with
  | nil =>
      cases hopens
      rfl
  | cons entry entries ih =>
      cases hopens with
      | @cons _ call _ calls hfirst hrest =>
          obtain ⟨call, now⟩ := call
          obtain ⟨hopened, rfl⟩ := hfirst
          obtain ⟨range', outcome, hsubmit, hafter, hverdict, -⟩ :=
            @submitFlag_returns _ board range entry.principal teamId challengeId entry.value
              entry.now call competition hopened hcompetition
          obtain ⟨hstate, hteams, horganization⟩ :=
            call.judged_kept competition (call.verdict competition) entry.now
          have hkept : List.Forall₂ (Opens board range' teamId challengeId) entries calls :=
            hrest.imp fun other otherCall hother =>
              ⟨(openSubmission_congr hcompetition hafter horganization hteams hstate).trans
                hother.opened, hother.now⟩
          unfold judgeEntries
          rw [hsubmit]
          show some outcome.submission.verdict :: _ = _
          rw [ih hafter hkept, hverdict]
          rfl

/-- A submission of a team for a challenge, to a running competition, that leaves the
challenge unsolved. -/
structure Answered (competition : Competition) (teamId : Str)
    (challenge : CompetitionChallenge) (call : SubmitCall) (after : Competition) : Prop where
  running : competition.state = .running
  loaded : call.challenge = challenge
  team : call.team.id = teamId
  unsolved : after.awarded teamId challenge.id = false
  judged : ∃ now, after = call.judged competition (call.verdict competition) now

/-- What is known of the rows before and after. -/
theorem Answered.contested {challenge : CompetitionChallenge} {call : SubmitCall}
    {after : Competition} (h : Answered competition teamId challenge call after)
    {calls : List (SubmitCall × Datetime)} (hteam : ∀ call ∈ calls, call.1.team.id = teamId)
    (hchallenge : ∀ call ∈ calls, call.1.challenge = challenge) :
    Contested after teamId challenge calls ∧
      after.attemptsLeft teamId challenge = competition.attemptsLeft teamId challenge - 1 ∧
      (∀ fingerprint, after.tried teamId challenge.id fingerprint =
        (competition.tried teamId challenge.id fingerprint ||
          decide (call.fingerprint = fingerprint))) ∧
      (call.attemptsRemaining (competition.attemptsUsed teamId challenge.id)
          (call.verdict competition)).toNat =
        if competition.tried teamId challenge.id call.fingerprint then
          competition.attemptsLeft teamId challenge
        else competition.attemptsLeft teamId challenge - 1 := by
  obtain ⟨now, hafter⟩ := h.judged
  have haccepted : call.verdict competition ≠ .accepted := by
    intro haccepted
    have hunsolved := h.unsolved
    rw [hafter, haccepted, SubmitCall.awarded_judged_accepted, h.team, h.loaded] at hunsolved
    simp at hunsolved
  have hbefore : Contested competition teamId challenge ((call, now) :: calls) := by
    refine ⟨h.running, ?_, ?_, ?_⟩
    · have hunsolved := h.unsolved
      rwa [hafter, SubmitCall.awarded_judged haccepted] at hunsolved
    · exact List.forall_mem_cons.mpr ⟨h.team, hteam⟩
    · exact List.forall_mem_cons.mpr ⟨h.loaded, hchallenge⟩
  obtain ⟨hnext, hleft, htried⟩ := hbefore.next haccepted
  rw [hafter]
  refine ⟨hnext, hleft, htried, ?_⟩
  have hverdict := hbefore.verdict_eq
  unfold Competition.attemptsLeft at hverdict ⊢
  by_cases hrepeat : competition.tried teamId challenge.id call.fingerprint = true
  · rw [if_pos hrepeat] at hverdict
    rw [hverdict, if_pos hrepeat]
    show (call.remaining _).toNat = _
    rw [SubmitCall.remaining, h.loaded]
    omega
  · rw [if_neg hrepeat] at hverdict
    rw [if_neg hrepeat]
    by_cases hexhausted : (challenge.maxAttempts -
        competition.attemptsUsed teamId challenge.id).toNat = 0
    · rw [if_pos hexhausted] at hverdict
      rw [hverdict, hexhausted]
      rfl
    · rw [if_neg hexhausted] at hverdict
      have hincorrect : call.verdict competition = .incorrect := by
        by_cases hsolved : challenge.solvedBy call.value = true
        · rw [if_pos hsolved] at hverdict
          exact absurd hverdict haccepted
        · rwa [if_neg hsolved] at hverdict
      rw [hincorrect]
      show (call.remaining _).toNat = _
      rw [SubmitCall.remaining, h.loaded]
      omega

/-- The reported attempts are the ones that are left for these entries: none repeats a value in another
spelling, no flag is among those that are compared, and a repeated value was not reported on. -/
structure AttemptsLeftFor (board : Board) (competition : Competition) (teamId : Str)
    (challenge : CompetitionChallenge) (value : Str) (entries : List FlagEntry) : Prop where
  fresh : Fresh competition teamId challenge.id (entries.map fun entry => board.fingerprint entry.value)
  new : ∀ entry ∈ entries, board.fingerprint value ≠ board.fingerprint entry.value
  unsolved : ∀ entry ∈ entries.take (competition.attemptsLeft teamId challenge - 1),
    challenge.solvedBy entry.value = false
  repeated : competition.tried teamId challenge.id (board.fingerprint value) = true →
    competition.attemptsLeft teamId challenge ≠ 0 →
      entries.length < competition.attemptsLeft teamId challenge

/-- What was returned was opened. -/
theorem opened_of_submitFlag {principal : Principal} {value : Str} {now : Datetime}
    {outcome : SubmissionOutcome}
    (h : submitFlag board range principal teamId challengeId value now = .ok (range', outcome)) :
    ∃ call, openSubmission board range principal teamId challengeId value = .ok call := by
  unfold submitFlag at h
  obtain ⟨call, hopen, -⟩ := except_bind_eq_ok.mp h
  exact ⟨call, hopen⟩

/-- The calls of the entries. -/
theorem exists_calls {challenge : CompetitionChallenge} (hchallenge : challenge ∈ board.challenges)
    (hopens : ∀ entry ∈ entries, ∃ call,
      openSubmission board range entry.principal teamId challenge.id entry.value = .ok call) :
    ∃ calls, List.Forall₂ (Opens board range teamId challenge.id) entries calls ∧
      (∀ call ∈ calls, call.1.team.id = teamId) ∧ (∀ call ∈ calls, call.1.challenge = challenge) ∧
      (entries.map fun entry => board.fingerprint entry.value) =
        calls.map (fun call => call.1.fingerprint) ∧
      entries.map FlagEntry.value = calls.map fun call => call.1.value := by
  obtain ⟨calls, hcalls⟩ := exists_forall₂ (R := Opens board range teamId challenge.id)
    fun entry hentry => by
      obtain ⟨call, hcall⟩ := hopens entry hentry
      exact ⟨(call, entry.now), hcall, rfl⟩
  refine ⟨calls, hcalls, fun call hcall => ?_, fun call hcall => ?_, ?_, ?_⟩
  · obtain ⟨entry, -, hentry⟩ := forall₂_exists_left hcalls hcall
    exact (openSubmission_spec hentry.opened).2.2.1
  · obtain ⟨entry, -, hentry⟩ := forall₂_exists_left hcalls hcall
    obtain ⟨-, hfound, -, hid, -⟩ := openSubmission_spec hentry.opened
    exact Board.eq_of_id hchallenge hfound hid
  · exact map_eq_map_of_forall₂ hcalls fun entry call hentry =>
      (fingerprint_of_opened hentry.opened).symm
  · exact map_eq_map_of_forall₂ hcalls fun entry call hentry =>
      (openSubmission_spec hentry.opened).2.2.2.2.1.symm

/-- What a submission to a running competition reports, where it leaves the challenge unsolved, is how
many of the following entries are judged incorrect before the attempts are used up, exactly if the
attempts are left for these entries. -/
theorem attemptsRemaining_exact_iff {principal : Principal} {value : Str} {now : Datetime}
    {outcome : SubmissionOutcome} {after : Competition} {challenge : CompetitionChallenge}
    (hcompetition : range.competition = some competition) (hrunning : competition.state = .running)
    (hchallenge : challenge ∈ board.challenges)
    (hsubmit : submitFlag board range principal teamId challenge.id value now =
      .ok (range', outcome))
    (hafter : range'.competition = some after)
    (hunsolved : after.awarded teamId challenge.id = false)
    (hopens : ∀ entry ∈ entries, ∃ call,
      openSubmission board range' entry.principal teamId challenge.id entry.value = .ok call) :
    judgeEntries board teamId challenge.id range' entries =
        (attemptsUsedUp outcome.attemptsRemaining.toNat entries.length).map some ↔
      AttemptsLeftFor board competition teamId challenge value entries := by
  obtain ⟨call, hopen⟩ := opened_of_submitFlag hsubmit
  obtain ⟨-, hfound, hteam, hid, -, -⟩ := openSubmission_spec hopen
  have hloaded : call.challenge = challenge := Board.eq_of_id hchallenge hfound hid
  obtain ⟨range'', outcome', hreturned, hjudged, -, hremaining, -⟩ :=
    @submitFlag_returns _ board range principal teamId challenge.id value now call competition hopen
      hcompetition
  rw [hsubmit] at hreturned
  cases hreturned
  rw [hafter, Option.some.injEq] at hjudged
  obtain ⟨calls, hcalls, hteams, hchallenges, hfingerprints, hvalues⟩ :=
    exists_calls hchallenge hopens
  have hanswered : Answered competition teamId challenge call after :=
    ⟨hrunning, hloaded, hteam, hunsolved, now, hjudged⟩
  obtain ⟨hcontested, hleft, htried, hreported⟩ := hanswered.contested hteams hchallenges
  have hlength := hcalls.length_eq
  rw [judgeEntries_eq hafter hcalls, (List.map_injective_iff.mpr (Option.some_injective _)).eq_iff,
    hremaining, hteam, hloaded, hreported, hlength, fingerprint_of_opened hopen]
  have hexact := hcontested.judgements_iff
  rw [hleft] at hexact
  have hcall := fingerprint_of_opened hopen
  have hfresh : Fresh after teamId challenge.id (calls.map fun call => call.1.fingerprint) ↔
      Fresh competition teamId challenge.id (entries.map fun entry => board.fingerprint entry.value) ∧
        ∀ entry ∈ entries, board.fingerprint value ≠ board.fingerprint entry.value := by
    rw [← hfingerprints]
    unfold Fresh
    simp only [htried, hcall, Bool.or_eq_false_iff, decide_eq_false_iff_not, List.forall_mem_map,
      forall_and, and_assoc]
    rfl
  have hsolved : (∀ call ∈ calls.take (competition.attemptsLeft teamId challenge - 1),
        challenge.solvedBy call.1.value = false) ↔
      ∀ entry ∈ entries.take (competition.attemptsLeft teamId challenge - 1),
        challenge.solvedBy entry.value = false := by
    have htake : (entries.take (competition.attemptsLeft teamId challenge - 1)).map FlagEntry.value =
        (calls.take (competition.attemptsLeft teamId challenge - 1)).map
          fun call => call.1.value := by
      rw [List.map_take, List.map_take, hvalues]
    constructor
    · intro h entry hentry
      obtain ⟨call, hcall, hvalue⟩ := List.mem_map.mp
        (htake ▸ List.mem_map_of_mem (f := FlagEntry.value) hentry)
      rw [← hvalue]
      exact h call hcall
    · intro h call hcall
      obtain ⟨entry, hentry, hvalue⟩ := List.mem_map.mp
        (htake.symm ▸ List.mem_map_of_mem (f := fun call : SubmitCall × Datetime => call.1.value)
          hcall)
      rw [← hvalue]
      exact h entry hentry
  rw [hfresh, hsolved] at hexact
  have hiff : AttemptsLeftFor board competition teamId challenge value entries ↔
      after.judgements calls =
        attemptsUsedUp (competition.attemptsLeft teamId challenge - 1) calls.length ∧
      (competition.tried teamId challenge.id (board.fingerprint value) = true →
        competition.attemptsLeft teamId challenge ≠ 0 →
          entries.length < competition.attemptsLeft teamId challenge) := by
    rw [hexact]
    constructor
    · intro h
      exact ⟨⟨⟨h.fresh, h.new⟩, h.unsolved⟩, h.repeated⟩
    · intro h
      exact ⟨h.1.1.1, h.1.1.2, h.1.2, h.2⟩
  rw [hiff, ← hlength]
  show _ = attemptsUsedUp (if competition.tried teamId challenge.id (board.fingerprint value) then _
    else _) _ ↔ _
  by_cases hrepeat : competition.tried teamId challenge.id (board.fingerprint value) = true
  · rw [if_pos hrepeat]
    have hcount := @count_incorrect_le _ after teamId challenge calls hteams hchallenges
    rw [hleft] at hcount
    by_cases hfew : entries.length < competition.attemptsLeft teamId challenge
    · -- all of them are judged incorrect, with or without the attempt that is not there
      rw [attemptsUsedUp_of_le hfew.le, attemptsUsedUp_of_le (by omega)]
      exact ⟨fun h => ⟨h, fun _ _ => hfew⟩, fun h => h.1⟩
    · by_cases hnone : competition.attemptsLeft teamId challenge = 0
      · rw [hnone]
        exact ⟨fun h => ⟨h, fun _ h => absurd rfl h⟩, fun h => h.1⟩
      · refine iff_of_false (fun h => ?_) fun h => hfew (h.2 hrepeat hnone)
        rw [h, count_attemptsUsedUp] at hcount
        omega
  · rw [if_neg hrepeat]
    exact ⟨fun h => ⟨h, fun h => absurd h hrepeat⟩, fun h => h.1⟩

end

/-! ### A value that was submitted before the start -/

/-- The row that is left when the value is submitted while the competition is a draft. -/
def earlyRow : CompetitionSubmission where
  teamId := str "t1"
  challengeId := natStr 0
  verdict := .notOpen
  pointsAwarded := 0
  valueFingerprint := @Board.fingerprint Unicode.ascii sampleBoard (str "guess")

theorem fingerprint_earlyRow :
    earlyRow.valueFingerprint = @Board.fingerprint Unicode.ascii sampleBoard (str "guess") := by
  unfold earlyRow
  dsimp only

/-- The running competition with as many such rows. -/
def crowdedCompetition (rows : Nat) : Competition :=
  { playedCompetition with submissions := List.replicate rows earlyRow }

def crowdedRange (rows : Nat) : RangeInstance :=
  { playedRange with competition := some (crowdedCompetition rows) }

/-- The submission after the start, and one of another value. -/
def repeatedEntry : FlagEntry := ⟨sampleOperator, str "guess", sampleClock⟩

def otherEntry : FlagEntry := ⟨sampleOperator, str "other", sampleClock⟩

section
variable {rows : Nat}

theorem submissionsOf_crowded :
    (crowdedCompetition rows).submissionsOf (str "t1") (natStr 0) = List.replicate rows earlyRow :=
  List.filter_eq_self.mpr fun row hrow => by
    rw [(List.mem_replicate.mp hrow).2]
    simp [earlyRow]

/-- It opens as in the competition without rows. -/
theorem crowdedRange_opens {entry : FlagEntry}
    (h : entry = repeatedEntry ∨ entry = otherEntry) {range : RangeInstance} {c : Competition}
    (hcompetition : range.competition = some c) (horganization : c.organizationId = str "o1")
    (hteams : c.teams = playedCompetition.teams) (hstate : c.state = .running) :
    ∃ call, @openSubmission Unicode.ascii sampleBoard range entry.principal (str "t1") (natStr 0)
      entry.value = .ok call := by
  have hopens : (@openSubmission Unicode.ascii sampleBoard playedRange sampleOperator (str "t1")
      (natStr 0) entry.value).isOk = true := by
    rcases h with rfl | rfl
    · exact playedRange_opens
    · with_unfolding_all decide
  obtain ⟨call, hopen⟩ := exists_of_isOk hopens
  have hprincipal : entry.principal = sampleOperator := by
    rcases h with rfl | rfl <;> rfl
  rw [hprincipal]
  exact ⟨call, (@openSubmission_congr Unicode.ascii sampleBoard playedRange sampleOperator (str "t1")
    (natStr 0) entry.value playedCompetition range c playedRange_competition hcompetition
    horganization hteams hstate).trans hopen⟩

theorem firstChallenge_mem :
    ∃ challenge ∈ @Board.challenges Unicode.ascii sampleBoard, challenge.id = natStr 0 := by
  obtain ⟨call, hopen⟩ := exists_of_isOk playedRange_opens
  obtain ⟨-, hchallenge, -, hid, -⟩ := @openSubmission_spec Unicode.ascii _ _ _ _ _ _ _ hopen
  exact ⟨call.challenge, hchallenge, hid⟩

/-- The value is a duplicate, and an attempt is reported that its own row takes away. -/
theorem crowdedRange_repeated (hrows : rows ≠ 0) {challenge : CompetitionChallenge}
    (hchallenge : challenge ∈ @Board.challenges Unicode.ascii sampleBoard)
    (hid : challenge.id = natStr 0) :
    ∃ call range' outcome,
      @submitFlag Unicode.ascii sampleBoard (crowdedRange rows) sampleOperator (str "t1")
          challenge.id (str "guess") sampleClock = .ok (range', outcome) ∧
        range'.competition = some (call.judged (crowdedCompetition rows) .duplicate sampleClock) ∧
        outcome.attemptsRemaining = max (25 - (rows : Int)) 0 ∧
        call.fingerprint = @Board.fingerprint Unicode.ascii sampleBoard (str "guess") ∧
        @Answered Unicode.ascii (crowdedCompetition rows) (str "t1") challenge call
          (call.judged (crowdedCompetition rows) .duplicate sampleClock) := by
  let _ := Unicode.ascii
  obtain ⟨call, hopen⟩ := @crowdedRange_opens repeatedEntry (.inl rfl) (crowdedRange rows)
    (crowdedCompetition rows) rfl rfl rfl rfl
  obtain ⟨-, hfound, hteam, hsame, -, -⟩ := openSubmission_spec hopen
  have hloaded : call.challenge = challenge := Board.eq_of_id hchallenge hfound (by rw [hsame, hid])
  obtain ⟨range', outcome, hsubmit, hafter, -, hremaining, -⟩ :=
    @submitFlag_returns _ _ _ _ _ _ _ sampleClock call (crowdedCompetition rows) hopen rfl
  have hunsolved : (crowdedCompetition rows).awarded (str "t1") (natStr 0) = false := rfl
  have hprint : call.fingerprint = @Board.fingerprint Unicode.ascii sampleBoard (str "guess") :=
    @fingerprint_of_opened Unicode.ascii _ _ _ _ _ _ _ hopen
  have htried : (crowdedCompetition rows).tried call.team.id call.challenge.id call.fingerprint =
      true := by
    have hrow : earlyRow.valueFingerprint = call.fingerprint := fingerprint_earlyRow.trans hprint.symm
    rw [hteam, hsame, Competition.tried, submissionsOf_crowded, List.any_eq_true]
    exact ⟨earlyRow, List.mem_replicate.mpr ⟨hrows, rfl⟩, decide_eq_true hrow⟩
  have hverdict : call.verdict (crowdedCompetition rows) = .duplicate := by
    have hopened : ¬ (crowdedCompetition rows).state ≠ .running := fun h => h rfl
    have hheld : ¬ (crowdedCompetition rows).awarded call.team.id call.challenge.id = true := by
      rw [hteam, hsame, hunsolved]
      exact Bool.false_ne_true
    exact (if_neg hopened).trans ((if_neg hheld).trans (if_pos htried))
  rw [hverdict] at hafter hremaining
  refine ⟨call, range', outcome, ?_, hafter, ?_, hprint, rfl, hloaded, hteam, ?_, sampleClock, ?_⟩
  · rw [hid]
    exact hsubmit
  · have hused : (crowdedCompetition rows).attemptsUsed call.team.id call.challenge.id = rows := by
      rw [hteam, hsame, Competition.attemptsUsed, submissionsOf_crowded, List.length_replicate]
    rw [hremaining, hused]
    show max (call.challenge.maxAttempts - rows) 0 = _
    rw [(Board.challenge_spec hfound).2]
  · rw [SubmitCall.awarded_judged (by decide), hid]
    exact hunsolved
  · rw [hverdict]

end

/-- With one such row twenty-four attempts are reported, but not for the same value again. -/
theorem crowdedRange_not_exact :
    ∃ challenge ∈ @Board.challenges Unicode.ascii sampleBoard, ∃ range' outcome,
      @submitFlag Unicode.ascii sampleBoard (crowdedRange 1) sampleOperator (str "t1")
          challenge.id (str "guess") sampleClock = .ok (range', outcome) ∧
        @judgeEntries Unicode.ascii sampleBoard (str "t1") challenge.id range' [repeatedEntry] ≠
          (attemptsUsedUp outcome.attemptsRemaining.toNat 1).map some := by
  let _ := Unicode.ascii
  obtain ⟨challenge, hchallenge, hid⟩ := firstChallenge_mem
  obtain ⟨call, range', outcome, hsubmit, hafter, -, -, hanswered⟩ :=
    @crowdedRange_repeated 1 (by decide) _ hchallenge hid
  refine ⟨challenge, hchallenge, range', outcome, hsubmit, fun hsame => ?_⟩
  have hopens : ∀ entry ∈ [repeatedEntry], ∃ call, openSubmission sampleBoard range'
      entry.principal (str "t1") challenge.id entry.value = .ok call := by
    intro entry hentry
    rw [hid]
    exact crowdedRange_opens (.inl (List.mem_singleton.mp hentry)) hafter rfl rfl rfl
  have hleft := (@attemptsRemaining_exact_iff _ sampleBoard (crowdedRange 1) range' (crowdedCompetition 1) _ _ _
    _ _ _ _ _ rfl rfl hchallenge hsubmit hafter hanswered.unsolved hopens).mp hsame
  exact hleft.new repeatedEntry List.mem_cons_self rfl

/-- With twenty-four of them one attempt is reported, and another value finds none. -/
theorem crowdedRange_overstated :
    ∃ challenge ∈ @Board.challenges Unicode.ascii sampleBoard, ∃ range' outcome after,
      @submitFlag Unicode.ascii sampleBoard (crowdedRange 24) sampleOperator (str "t1")
          challenge.id (str "guess") sampleClock = .ok (range', outcome) ∧
        range'.competition = some after ∧ after.state = .running ∧
        after.awarded (str "t1") challenge.id = false ∧
        (∀ row ∈ after.submissions, row.valueFingerprint =
          @Board.fingerprint Unicode.ascii sampleBoard (str "guess")) ∧
        @lower Unicode.ascii (@strip Unicode.ascii otherEntry.value) ≠
          @lower Unicode.ascii (@strip Unicode.ascii (str "guess")) ∧
        (∀ seeded ∈ sampleBoard.template.challenges, ∀ flag ∈ seeded.flags,
          @normalise Unicode.ascii otherEntry.value flag.caseSensitive ≠
            @normalise Unicode.ascii flag.value flag.caseSensitive) ∧
        @judgeEntries Unicode.ascii sampleBoard (str "t1") challenge.id range' [otherEntry] ≠
          (attemptsUsedUp outcome.attemptsRemaining.toNat 1).map some := by
  let _ := Unicode.ascii
  obtain ⟨challenge, hchallenge, hid⟩ := firstChallenge_mem
  obtain ⟨call, range', outcome, hsubmit, hafter, hremaining, hprint, hanswered⟩ :=
    @crowdedRange_repeated 24 (by decide) _ hchallenge hid
  refine ⟨challenge, hchallenge, range', outcome, _, hsubmit, hafter, rfl, hanswered.unsolved,
    ?_, ?_, ?_, fun hsame => ?_⟩
  · intro row hrow
    rcases List.mem_append.mp hrow with hrow | hrow
    · rw [(List.mem_replicate.mp hrow).2]
      exact fingerprint_earlyRow
    · rw [List.mem_singleton.mp hrow]
      exact hprint
  · with_unfolding_all decide
  · with_unfolding_all decide
  · have hopens : ∀ entry ∈ [otherEntry], ∃ call, openSubmission sampleBoard range'
        entry.principal (str "t1") challenge.id entry.value = .ok call := by
      intro entry hentry
      rw [hid]
      exact crowdedRange_opens (.inr (List.mem_singleton.mp hentry)) hafter rfl rfl rfl
    obtain ⟨calls, hcalls, hteams, hchallenges, -, -⟩ := exists_calls hchallenge hopens
    obtain ⟨-, hleft, -, -⟩ := hanswered.contested hteams hchallenges
    have hcount := @count_incorrect_le _ (call.judged (crowdedCompetition 24) .duplicate
      sampleClock) (str "t1") challenge calls hteams hchallenges
    rw [hleft] at hcount
    rw [judgeEntries_eq hafter hcalls, (List.map_injective_iff.mpr (Option.some_injective _)).eq_iff]
      at hsame
    rw [hsame, count_attemptsUsedUp, hremaining, Competition.attemptsLeft, Competition.attemptsUsed,
      hid, submissionsOf_crowded, List.length_replicate,
      (Board.challenge_spec hchallenge).2] at hcount
    exact absurd hcount (by decide)

end Secp.Range
