import Secp.Range.Awards

/-!
# The attempt bound

A submission is let through to the flags when the rows it counted are fewer than the attempts of its
challenge. Nothing else bounds the comparisons, so they stay within the attempts as long as no call
takes its count while the ones already let through could use up what is left.
-/

namespace Secp.Range

open Secp.Python Secp.Logic

/-! ## Calls let through and calls compared -/

/-- The call has counted, has room for an attempt by that count, and is not compared yet. -/
def SubmitCall.claims (call : SubmitCall) : Bool :=
  match call.stage with
  | .lookingForAward attemptsUsed => attemptsUsed < call.challenge.maxAttempts
  | .lookingForDuplicate attemptsUsed => attemptsUsed < call.challenge.maxAttempts
  | .comparing _ => true
  | _ => false

/-- The call was compared and its row is not committed yet. -/
def SubmitCall.settles (call : SubmitCall) : Bool :=
  match call.stage with
  | .recording .incorrect _ => true
  | .awarding _ => true
  | .downgrading _ => true
  | _ => false

/-- The call was opened before its competition started, and records that. -/
def SubmitCall.Waiting (call : SubmitCall) : Prop :=
  call.competitionState ≠ .running ∧
    (call.stage = .counting ∨ ∃ remaining, call.stage = .recording .notOpen remaining)

theorem SubmitCall.Waiting.idle {call : SubmitCall} (h : call.Waiting) :
    call.claims = false ∧ call.settles = false := by
  unfold SubmitCall.claims SubmitCall.settles
  rcases h.2 with hstage | ⟨remaining, hstage⟩ <;> rw [hstage] <;> exact ⟨rfl, rfl⟩

namespace Arena

/-- How many calls for a team and a challenge have a property. -/
def among (calls : List SubmitCall) (pair : Str × Str) (p : SubmitCall → Bool) : Nat :=
  calls.countP fun call => call.pair = pair && p call

/-- One call's part of the count. -/
def share (call : SubmitCall) (pair : Str × Str) (p : SubmitCall → Bool) : Nat :=
  if call.pair = pair ∧ p call = true then 1 else 0

theorem among_cons (before : List SubmitCall) (call : SubmitCall) (after : List SubmitCall)
    (pair : Str × Str) (p : SubmitCall → Bool) :
    among (before ++ call :: after) pair p =
      among (before ++ after) pair p + share call pair p := by
  unfold among share
  rw [List.countP_append, List.countP_append, List.countP_cons]
  simp only [Bool.and_eq_true, decide_eq_true_eq]
  omega

theorem among_concat (calls : List SubmitCall) (call : SubmitCall) (pair : Str × Str)
    (p : SubmitCall → Bool) :
    among (calls ++ [call]) pair p = among calls pair p + share call pair p := by
  rw [among_cons, List.append_nil]

theorem share_of_false {call : SubmitCall} {pair : Str × Str} {p : SubmitCall → Bool}
    (h : p call = false) : share call pair p = 0 := by
  unfold share
  rw [h]
  exact if_neg fun hboth => by cases hboth.2

theorem share_of_true {call : SubmitCall} {pair : Str × Str} {p : SubmitCall → Bool}
    (hpair : call.pair = pair) (h : p call = true) : share call pair p = 1 := if_pos ⟨hpair, h⟩

theorem share_of_ne {call : SubmitCall} {pair : Str × Str} {p : SubmitCall → Bool}
    (hpair : call.pair ≠ pair) : share call pair p = 0 := if_neg fun hboth => hpair hboth.1

theorem share_le (call : SubmitCall) (pair : Str × Str) (p : SubmitCall → Bool) :
    share call pair p ≤ if call.pair = pair then 1 else 0 := by
  by_cases hpair : call.pair = pair
  · rw [if_pos hpair]
    unfold share
    split <;> decide
  · rw [share_of_ne hpair]
    exact Nat.zero_le _

/-- A call takes its count while there is room for it and for all the calls let through before it, or
finds no room at all; a call that was compared commits. -/
def Spaced (arena : Arena) : Move → Prop
  | .advance call =>
      call.stage = .counting → call.competitionState = .running →
        ∀ competition, arena.range.competition = some competition →
          call.challenge.maxAttempts ≤ competition.attemptsUsed call.team.id call.challenge.id ∨
            (competition.attemptsUsed call.team.id call.challenge.id +
              among arena.calls call.pair SubmitCall.claims +
              among arena.calls call.pair SubmitCall.settles : Int) < call.challenge.maxAttempts
  | .fail call => call.settles = false
  | _ => True

theorem among_of_waiting {calls : List SubmitCall} (h : ∀ call ∈ calls, call.Waiting)
    (pair : Str × Str) :
    among calls pair SubmitCall.claims = 0 ∧ among calls pair SubmitCall.settles = 0 := by
  refine ⟨List.countP_eq_zero.mpr fun call hcall => ?_, List.countP_eq_zero.mpr fun call hcall => ?_⟩
  · simp [(h call hcall).idle.1]
  · simp [(h call hcall).idle.2]

end Arena

/-! ## What changes the count of rows -/

/-- A row more for its own team and challenge, none for the others. -/
theorem attemptsUsed_append (c : Competition) (scores : List CompetitionScore)
    (row : CompetitionSubmission) (teamId challengeId : Str) :
    ({ c with submissions := c.submissions ++ [row], scores := scores } : Competition).attemptsUsed
        teamId challengeId =
      c.attemptsUsed teamId challengeId + if row.pair = (teamId, challengeId) then 1 else 0 := by
  show ((c.submissions ++ [row]).filter _).length = (c.submissions.filter _).length + _
  rw [List.filter_append, List.length_append]
  congr 1
  by_cases hpair : row.pair = (teamId, challengeId)
  · obtain ⟨hteam, hchallenge⟩ := Prod.mk.inj hpair
    rw [if_pos hpair]
    simp [hteam, hchallenge]
  · rw [if_neg hpair]
    have hnot : ¬(row.teamId = teamId ∧ row.challengeId = challengeId) := by
      intro hboth
      exact hpair (Prod.ext hboth.1 hboth.2)
    simp [hnot]

/-- A competition that is a draft after a transaction was one before, if it was there. -/
theorem LedgerStep.unopened {clears : Bool} {before after : Option Competition}
    (hstep : LedgerStep clears before after) (h : ∀ c, after = some c → c.state = .draft) :
    ∀ c, before = some c → c.state = .draft := by
  intro c hc
  cases hstep with
  | absent => cases hc
  | created hstate hscores hsubmissions => cases hc
  | kept hscores hsubmissions hstate =>
      cases hc
      exact hstate (h _ rfl)
  | cleared hscores hsubmissions hstate =>
      cases hc
      exact hstate ▸ h _ rfl
  | deleted teamId hdraft hstate hscores hsubmissions =>
      cases hc
      exact hdraft

/-- Rows go away when the scores are reset, or before the competition has started. -/
theorem LedgerStep.rows {clears : Bool} {before after : Option Competition}
    (hstep : LedgerStep clears before after) {c' : Competition} (hc' : after = some c')
    (teamId challengeId : Str) :
    clears = true ∨ (∀ c, before = some c → c.state = .draft) ∨
      ∃ c, before = some c ∧
        c'.attemptsUsed teamId challengeId = c.attemptsUsed teamId challengeId := by
  cases hstep with
  | absent => cases hc'
  | created hstate hscores hsubmissions =>
      right
      left
      intro c hc
      cases hc
  | @kept c c'' hscores hsubmissions hstate =>
      cases hc'
      right
      right
      refine ⟨c, rfl, ?_⟩
      unfold Competition.attemptsUsed Competition.submissionsOf
      rw [hsubmissions]
  | cleared hscores hsubmissions hstate => exact .inl rfl
  | deleted teamId hdraft hstate hscores hsubmissions =>
      right
      left
      intro c hc
      cases hc
      exact hdraft

/-! ## What a select changes -/

section
variable [Unicode]

/-- A select compares nothing. -/
theorem settles_select {call : SubmitCall} (c : Competition) (h : Arena.reading call.stage = true) :
    call.settles = false ∧ ({ call with stage := call.next c } : SubmitCall).settles = false := by
  constructor
  · unfold SubmitCall.settles
    cases hstage : call.stage <;> first | rfl | (rw [hstage] at h; cases h)
  · unfold SubmitCall.settles
    rcases next_select c h with ⟨-, -, hnext⟩ | ⟨_, -, hnext⟩ | ⟨_, -, -, hnext⟩ |
      ⟨verdict, _, -, hverdict, -, hnext⟩
    · rw [hnext]
    · rw [hnext]
    · rw [hnext]
    · rw [hnext]
      cases verdict <;> first | rfl | exact absurd rfl hverdict

/-- A select lets a call through only if it counts, the competition runs, and there is room. -/
theorem claims_select {call : SubmitCall} (c : Competition) (h : Arena.reading call.stage = true)
    (hclaims : ({ call with stage := call.next c } : SubmitCall).claims = true) :
    call.claims = true ∨
      call.stage = .counting ∧ call.competitionState = .running ∧
        (c.attemptsUsed call.team.id call.challenge.id : Int) < call.challenge.maxAttempts := by
  unfold SubmitCall.claims at hclaims ⊢
  rcases next_select c h with ⟨hstage, hrunning, hnext⟩ | ⟨used, hstage, hnext⟩ |
    ⟨used, hstage, hroom, -⟩ | ⟨_, _, -, -, -, hnext⟩
  · rw [hnext] at hclaims
    exact .inr ⟨hstage, hrunning, of_decide_eq_true hclaims⟩
  · rw [hnext] at hclaims
    rw [hstage]
    exact .inl hclaims
  · rw [hstage]
    exact .inl (decide_eq_true hroom)
  · rw [hnext] at hclaims
    cases hclaims

/-- A comparison settles a call. -/
theorem settles_compare (call : SubmitCall) (c : Competition) {used : Nat}
    (hstage : call.stage = .comparing used) :
    ({ call with stage := call.next c } : SubmitCall).claims = false ∧
      ({ call with stage := call.next c } : SubmitCall).settles = true := by
  unfold SubmitCall.claims SubmitCall.settles
  rcases next_compare c hstage with hnext | hnext
  · rw [hnext]
    exact ⟨rfl, rfl⟩
  · rw [hnext]
    exact ⟨rfl, rfl⟩

/-- A call that was opened before the start records that. -/
theorem waiting_select {call : SubmitCall} (c : Competition) (h : call.Waiting)
    (hreading : Arena.reading call.stage = true) :
    ({ call with stage := call.next c } : SubmitCall).Waiting := by
  refine ⟨h.1, .inr ?_⟩
  rcases h.2 with hstage | ⟨remaining, hstage⟩
  · unfold SubmitCall.next
    rw [hstage]
    exact ⟨_, if_pos h.1⟩
  · rw [hstage] at hreading
    cases hreading

end

/-! ## Every reachable state -/

namespace Arena

section
variable [Unicode] {board : Board}

/-- What keeps the comparisons of one team and one challenge within the attempts. -/
structure Within (board : Board) (teamId : Str) (challenge : CompetitionChallenge)
    (arena : Arena) : Prop extends Sound board arena where
  /-- every comparison has its row, or a call that is about to commit it -/
  recorded : ∀ c, arena.range.competition = some c →
    arena.compared.count (teamId, challenge.id) ≤ c.attemptsUsed teamId challenge.id +
      among arena.calls (teamId, challenge.id) SubmitCall.settles
  /-- the comparisons made and the ones let through are within the attempts -/
  bounded : (arena.compared.count (teamId, challenge.id) +
    among arena.calls (teamId, challenge.id) SubmitCall.claims : Int) ≤ challenge.maxAttempts
  /-- before the competition has started there are none -/
  unopened : (∀ c, arena.range.competition = some c → c.state = .draft) →
    arena.compared = [] ∧ ∀ call ∈ arena.calls, call.Waiting

variable {teamId : Str} {challenge : CompetitionChallenge} {arena arena' : Arena}

/-- The other transactions keep the bound. -/
theorem Within.ledgerStep (h : Within board teamId challenge arena) {clears : Bool}
    {range' : RangeInstance}
    (hstep : LedgerStep clears arena.range.competition range'.competition) :
    Within board teamId challenge
      ⟨range', arena.calls, if clears then [] else arena.compared⟩ where
  ledger := hstep.ledger h.ledger
  calls := h.calls
  recorded := by
    intro c' hc'
    rcases hstep.rows hc' teamId challenge.id with rfl | hdraft | ⟨c, hc, hrows⟩
    · exact Nat.zero_le _
    · show (if clears = true then [] else arena.compared).count _ ≤ _
      rw [(h.unopened hdraft).1, ite_self]
      exact Nat.zero_le _
    · rw [hrows]
      refine Nat.le_trans ?_ (h.recorded c hc)
      cases clears
      · exact Nat.le_refl _
      · exact Nat.zero_le _
  bounded := by
    refine Int.le_trans ?_ h.bounded
    cases clears
    · exact Int.le_refl _
    · show ((0 : Nat) : Int) + (among arena.calls (teamId, challenge.id) SubmitCall.claims : Int) ≤ _
      omega
  unopened := by
    intro hdraft
    obtain ⟨hcompared, hcalls⟩ := h.unopened (hstep.unopened hdraft)
    refine ⟨?_, hcalls⟩
    show (if clears = true then [] else arena.compared) = []
    rw [hcompared, ite_self]

/-- A select takes no more than the call had, unless it is the count. -/
theorem share_select {call : SubmitCall} (c : Competition) (h : reading call.stage = true)
    (pair : Str × Str) :
    share { call with stage := call.next c } pair SubmitCall.claims ≤
        share call pair SubmitCall.claims ∨
      call.pair = pair ∧ call.stage = .counting ∧ call.competitionState = .running ∧
        (c.attemptsUsed call.team.id call.challenge.id : Int) < call.challenge.maxAttempts := by
  let call' : SubmitCall := { call with stage := call.next c }
  have hsame : call'.pair = call.pair := rfl
  by_cases hpair : call.pair = pair
  · cases hclaims : call'.claims with
    | false =>
        left
        rw [share_of_false hclaims]
        exact Nat.zero_le _
    | true =>
        rcases claims_select c h hclaims with hbefore | hcounts
        · left
          rw [share_of_true (hsame.trans hpair) hclaims, share_of_true hpair hbefore]
        · exact .inr ⟨hpair, hcounts⟩
  · left
    have hpair' : call'.pair ≠ pair := by rw [hsame]; exact hpair
    rw [share_of_ne hpair']
    exact Nat.zero_le _

omit [Unicode] in
/-- A call that was opened before the start is neither compared nor about to be. -/
theorem not_waiting {call : SubmitCall} (h : call.claims = true ∨ call.settles = true) :
    ¬call.Waiting := by
  intro hwaiting
  obtain ⟨hclaims, hsettles⟩ := hwaiting.idle
  rcases h with h | h
  · rw [hclaims] at h
    cases h
  · rw [hsettles] at h
    cases h

/-- A call that commits its row keeps the bound. -/
theorem Within.leave {range range' : RangeInstance} {before after : List SubmitCall}
    {call : SubmitCall} {compared : List (Str × Str)}
    (h : Within board teamId challenge ⟨range, before ++ call :: after, compared⟩)
    (hsound : Sound board ⟨range', before ++ after, compared⟩) (write : Competition → Competition)
    (hwrite : range'.competition = range.competition.map write)
    (hstate : ∀ c, (write c).state = c.state)
    (hrows : ∀ c, (write c).attemptsUsed teamId challenge.id =
      c.attemptsUsed teamId challenge.id +
        if call.pair = (teamId, challenge.id) then 1 else 0) :
    Within board teamId challenge ⟨range', before ++ after, compared⟩ := by
  refine ⟨hsound, ?_, ?_, ?_⟩
  · intro c' hc'
    have hc' : range'.competition = some c' := hc'
    rw [hwrite] at hc'
    obtain ⟨c, hc, rfl⟩ := Option.map_eq_some_iff.mp hc'
    have hrecorded := h.recorded c hc
    have hshare := share_le call (teamId, challenge.id) SubmitCall.settles
    simp only [among_cons] at hrecorded ⊢
    rw [hrows]
    omega
  · have hbounded := h.bounded
    simp only [among_cons] at hbounded ⊢
    omega
  · intro hdraft
    have hbefore : ∀ c, range.competition = some c → c.state = .draft := by
      intro c hc
      have hafter : range'.competition = some (write c) := by
        rw [hwrite, hc]
        rfl
      exact (hstate c).symm.trans (hdraft _ hafter)
    obtain ⟨hcompared, hcalls⟩ := h.unopened hbefore
    exact ⟨hcompared, forall_calls_remove hcalls⟩

/-- A step that meets the condition keeps the bound. -/
theorem Within.step {move : Move} (h : Within board teamId challenge arena)
    (hchallenge : challenge ∈ board.challenges) (hspaced : Spaced arena move)
    (hstep : Step board arena move arena') : Within board teamId challenge arena' := by
  have hsound := h.toSound.step hstep
  cases hstep with
  | act action => exact h.ledgerStep (ledgerStep_act _ action)
  | resetScores hreset => exact h.ledgerStep (ledgerStep_reset hreset)
  | resetScoresForRange => exact h.ledgerStep (ledgerStep_resetScores _)
  | @submit range calls compared principal team challengeId value call hopen =>
      obtain ⟨⟨c, hc, hstate, -⟩, -, -, -, -, hstage⟩ := openSubmission_spec hopen
      have hclaims : share call (teamId, challenge.id) SubmitCall.claims = 0 :=
        share_of_false (by unfold SubmitCall.claims; rw [hstage])
      have hsettles : share call (teamId, challenge.id) SubmitCall.settles = 0 :=
        share_of_false (by unfold SubmitCall.settles; rw [hstage])
      refine ⟨hsound, ?_, ?_, ?_⟩
      · show ∀ c, range.competition = some c → compared.count _ ≤
          c.attemptsUsed teamId challenge.id + among (calls ++ [call]) _ _
        rw [among_concat, hsettles]
        exact h.recorded
      · show (compared.count _ + among (calls ++ [call]) _ _ : Int) ≤ _
        rw [among_concat, hclaims]
        exact h.bounded
      · intro hdraft
        obtain ⟨hcompared, hcalls⟩ := h.unopened hdraft
        refine ⟨hcompared, fun other hother => ?_⟩
        rcases List.mem_append.mp hother with hother | hother
        · exact hcalls other hother
        · obtain rfl := List.mem_singleton.mp hother
          refine ⟨?_, .inl hstage⟩
          rw [hstate, hdraft c hc]
          decide
  | @select range compared c before call after hc hreading =>
      obtain ⟨hsettles, hsettles'⟩ := settles_select c hreading
      have hrecorded := h.recorded c hc
      have hbounded := h.bounded
      simp only [among_cons, share_of_false hsettles] at hrecorded hbounded
      refine ⟨hsound, ?_, ?_, ?_⟩
      · intro c' hc'
        obtain rfl := Option.some.inj (hc.symm.trans hc')
        simp only [among_cons, share_of_false hsettles']
        exact hrecorded
      · simp only [among_cons]
        rcases share_select c hreading (teamId, challenge.id) with hless |
          ⟨hpair, hcounting, hrunning, hroom⟩
        · omega
        · -- the call is let through: there was room for it and for the ones before it
          obtain ⟨hteam, hid⟩ := Prod.mk.inj hpair
          have hsame := Board.eq_of_id hchallenge
            (h.calls call (List.mem_append_right _ List.mem_cons_self)).1 hid
          have hone := share_le { call with stage := call.next c } (teamId, challenge.id)
            SubmitCall.claims
          rw [if_pos (show ({ call with stage := call.next c } : SubmitCall).pair = _ from hpair)]
            at hone
          have hwas : share call (teamId, challenge.id) SubmitCall.claims = 0 :=
            share_of_false (by unfold SubmitCall.claims; rw [hcounting])
          have hcondition := hspaced hcounting hrunning c hc
          rw [hpair, hteam, hid, hsame] at hcondition
          rw [hteam, hid, hsame] at hroom
          simp only [among_cons, share_of_false hsettles] at hcondition
          omega
      · intro hdraft
        obtain ⟨hcompared, hcalls⟩ := h.unopened hdraft
        exact ⟨hcompared, forall_calls_replace hcalls (waiting_select c
          (hcalls call (List.mem_append_right _ List.mem_cons_self)) hreading)⟩
  | @compare range compared c used before call after hc hstage =>
      obtain ⟨hclaims', hsettles'⟩ := settles_compare call c hstage
      have hclaims : call.claims = true := by unfold SubmitCall.claims; rw [hstage]
      have hrecorded := h.recorded c hc
      have hbounded := h.bounded
      simp only [among_cons] at hrecorded hbounded
      have hcounted : (call.pair :: compared).count (teamId, challenge.id) +
          share call (teamId, challenge.id) SubmitCall.settles ≤
            compared.count (teamId, challenge.id) +
              share { call with stage := call.next c } (teamId, challenge.id) SubmitCall.settles ∧
          (call.pair :: compared).count (teamId, challenge.id) ≤
            compared.count (teamId, challenge.id) +
              share call (teamId, challenge.id) SubmitCall.claims := by
        have hsettles : call.settles = false := by unfold SubmitCall.settles; rw [hstage]
        rw [List.count_cons, share_of_false hsettles]
        by_cases hpair : call.pair = (teamId, challenge.id)
        · have hpair' : ({ call with stage := call.next c } : SubmitCall).pair = _ := hpair
          rw [share_of_true hpair' hsettles', share_of_true hpair hclaims, hpair]
          simp
        · have hpair' : ({ call with stage := call.next c } : SubmitCall).pair ≠ _ := hpair
          rw [share_of_ne hpair, share_of_ne hpair']
          simp [hpair]
      refine ⟨hsound, ?_, ?_, ?_⟩
      · intro c' hc'
        obtain rfl := Option.some.inj (hc.symm.trans hc')
        simp only [among_cons]
        omega
      · simp only [among_cons, share_of_false hclaims']
        omega
      · intro hdraft
        have hwaiting := (h.unopened hdraft).2 call (List.mem_append_right _ List.mem_cons_self)
        exact absurd hwaiting (not_waiting (.inl hclaims))
  | @record range compared verdict before call after hstage =>
      refine h.leave hsound _ rfl (fun _ => rfl) fun c => ?_
      exact attemptsUsed_append c c.scores (call.submission verdict 0) teamId challenge.id
  | @award range compared c remaining before call after now hc hstage hunique =>
      refine h.leave hsound _ (competition_award range call now) (fun _ => rfl) fun c => ?_
      exact attemptsUsed_append c _ (call.submission .accepted call.challenge.points) teamId
        challenge.id
  | @downgrade range compared c remaining before call after hc hstage hheld =>
      have hsettles : call.settles = true := by unfold SubmitCall.settles; rw [hstage]
      have hclaims : call.claims = false := by unfold SubmitCall.claims; rw [hstage]
      have hrecorded := h.recorded c hc
      have hbounded := h.bounded
      simp only [among_cons, share_of_false hclaims] at hrecorded hbounded
      have hshare : share { call with stage := .downgrading remaining } (teamId, challenge.id)
          SubmitCall.settles = share call (teamId, challenge.id) SubmitCall.settles := by
        unfold share
        rw [hsettles]
        rfl
      have hnone : share { call with stage := .downgrading remaining } (teamId, challenge.id)
          SubmitCall.claims = 0 := share_of_false rfl
      refine ⟨hsound, ?_, ?_, ?_⟩
      · intro c' hc'
        obtain rfl := Option.some.inj (hc.symm.trans hc')
        simp only [among_cons, hshare]
        exact hrecorded
      · simp only [among_cons, hnone]
        exact hbounded
      · intro hdraft
        have hwaiting := (h.unopened hdraft).2 call (List.mem_append_right _ List.mem_cons_self)
        exact absurd hwaiting (not_waiting (.inr hsettles))
  | @fail range compared before call after =>
      have hsettles : call.settles = false := hspaced
      refine ⟨hsound, ?_, ?_, ?_⟩
      · intro c hc
        have hrecorded := h.recorded c hc
        simp only [among_cons, share_of_false hsettles] at hrecorded
        exact hrecorded
      · have hbounded := h.bounded
        simp only [among_cons] at hbounded ⊢
        omega
      · intro hdraft
        obtain ⟨hcompared, hcalls⟩ := h.unopened hdraft
        exact ⟨hcompared, forall_calls_remove hcalls⟩

theorem within_start {range : RangeInstance} (hnone : range.competition = none)
    (hchallenge : challenge ∈ board.challenges) :
    Within board teamId challenge (start range) := by
  refine ⟨sound_start hnone, ?_, ?_, ?_⟩
  · intro c hc
    exact Nat.zero_le _
  · have hmax := (Board.challenge_spec hchallenge).2
    show ((0 : Nat) + (0 : Nat) : Int) ≤ _
    omega
  · intro _
    exact ⟨rfl, fun call hcall => by cases hcall⟩

/-- Between two resets of the scores no more submissions of a team are compared with the flags of a
challenge than it has attempts, in every state of a run whose steps meet the condition. -/
theorem attempts_bounded {principal : Principal} {template : RangeTemplate} {name : Option Str}
    {id : Str} {range : RangeInstance} (hcreate : createRange principal template name id = .ok range)
    (hsteps : Steps board Spaced (start range) arena) (hchallenge : challenge ∈ board.challenges)
    (teamId : Str) :
    (arena.compared.count (teamId, challenge.id) : Int) ≤ challenge.maxAttempts := by
  have hwithin : Within board teamId challenge arena := by
    induction hsteps with
    | refl => exact within_start (createRange_spec hcreate).2.2.2 hchallenge
    | tail _ hlast ih =>
        obtain ⟨move, hspaced, hstep⟩ := hlast
        exact ih.step hchallenge hspaced hstep
  have hbounded := hwithin.bounded
  omega

/-! ## Calls that all count before any of them commits -/

variable {range : RangeInstance} {competition : Competition}
  {principal : Principal} {challengeId value : Str} {call : SubmitCall}

/-- While nothing is recorded, a call that opens is compared. -/
theorem steps_compared (P : Arena → Move → Prop)
    (hcompetition : range.competition = some competition) (hrunning : competition.state = .running) (hsubmissions : competition.submissions = [])
    (hscores : competition.scores = [])
    (hopen : openSubmission board range principal teamId challengeId value = .ok call)
    (calls : List SubmitCall) (compared : List (Str × Str))
    (hsubmit : ∀ arena, P arena (.submit principal teamId challengeId value))
    (hcount : P ⟨range, calls ++ [call], compared⟩ (.advance call))
    (hadvance : ∀ arena (call : SubmitCall), call.stage ≠ .counting → P arena (.advance call)) :
    ∃ call' : SubmitCall, call'.settles = true ∧
      Steps board P ⟨range, calls, compared⟩
        ⟨range, calls ++ [call'], (teamId, challengeId) :: compared⟩ := by
  obtain ⟨⟨c, hc, hloaded, -⟩, hchallenge, hteam, hid, -, hstage⟩ := openSubmission_spec hopen
  obtain rfl := Option.some.inj (hcompetition.symm.trans hc)
  have hused : competition.attemptsUsed call.team.id call.challenge.id = 0 := by
    unfold Competition.attemptsUsed Competition.submissionsOf
    rw [hsubmissions]
    rfl
  have hcounted : call.next competition = .lookingForAward 0 := by
    rw [SubmitCall.next, hstage, ← hused]
    exact if_neg (by rw [hloaded, hrunning]; simp)
  have hsearched : ({ call with stage := .lookingForAward 0 } : SubmitCall).next competition =
      .lookingForDuplicate 0 := by
    refine if_neg ?_
    unfold Competition.awarded
    rw [hscores]
    exact Bool.false_ne_true
  have hallowed : ({ call with stage := .lookingForDuplicate 0 } : SubmitCall).next competition =
      .comparing 0 := by
    refine (if_neg ?_).trans (if_neg ?_)
    · unfold Competition.tried Competition.submissionsOf
      rw [hsubmissions]
      exact Bool.false_ne_true
    · have hmax := (Board.challenge_spec hchallenge).2
      show ¬(call.challenge.maxAttempts ≤ _)
      omega
  have hselect : ∀ (call : SubmitCall) (stage : SubmitStage), reading call.stage = true →
      call.next competition = stage → P ⟨range, calls ++ [call], compared⟩ (.advance call) →
        Steps board P ⟨range, calls ++ [call], compared⟩
          ⟨range, calls ++ [{ call with stage := stage }], compared⟩ := by
    intro call stage hreading hnext hP
    subst hnext
    exact .cons hP (.select calls call [] hcompetition hreading) .refl
  let comparing : SubmitCall := { call with stage := .comparing 0 }
  refine ⟨{ comparing with stage := comparing.next competition },
    (settles_compare comparing competition rfl).2, ?_⟩
  refine .cons (hsubmit _) (.submit hopen) ?_
  refine (hselect call _ (by rw [hstage]; rfl) hcounted hcount).trans ?_
  refine (hselect _ _ rfl hsearched (hadvance _ _ (by simp))).trans ?_
  refine (hselect _ _ rfl hallowed (hadvance _ _ (by simp))).trans ?_
  have hcompare : Step board ⟨range, calls ++ [comparing], compared⟩ (.advance comparing) _ :=
    .compare calls comparing [] hcompetition rfl
  have hpair : comparing.pair = (teamId, challengeId) := Prod.ext hteam hid
  rw [hpair] at hcompare
  exact Steps.cons (hadvance _ _ (by simp [comparing])) hcompare .refl

/-- So any number of calls may be compared before the first one commits. -/
theorem steps_overlapping (hcompetition : range.competition = some competition)
    (hrunning : competition.state = .running) (hsubmissions : competition.submissions = [])
    (hscores : competition.scores = [])
    (hopen : openSubmission board range principal teamId challengeId value = .ok call) (n : Nat) :
    ∃ calls : List SubmitCall, (∀ call ∈ calls, call.settles = true) ∧
      Steps board Anything (start range)
        ⟨range, calls, List.replicate n (teamId, challengeId)⟩ := by
  induction n with
  | zero => exact ⟨[], fun call hcall => (by cases hcall), .refl⟩
  | succ n ih =>
      obtain ⟨calls, hcalls, hsteps⟩ := ih
      obtain ⟨call', hcall', hmore⟩ := steps_compared Anything hcompetition hrunning
        hsubmissions hscores hopen calls (List.replicate n (teamId, challengeId))
        (fun _ => trivial) trivial fun _ _ _ => trivial
      refine ⟨calls ++ [call'], fun call hcall => ?_, hsteps.trans hmore⟩
      rcases List.mem_append.mp hcall with hcall | hcall
      · exact hcalls call hcall
      · obtain rfl := List.mem_singleton.mp hcall
        exact hcall'

omit [Unicode] in
/-- The competition of a range stays when a submission is recorded. -/
theorem competition_recordSubmission (hcompetition : range.competition = some competition)
    (row : CompetitionSubmission) :
    (range.recordSubmission row).competition =
      some { competition with submissions := competition.submissions ++ [row] } := by
  show range.competition.map _ = _
  rw [hcompetition]
  rfl

/-- Whatever was compared commits its row. -/
theorem steps_commit {calls : List SubmitCall} (compared : List (Str × Str))
    (hcompetition : range.competition = some competition)
    (hcalls : ∀ call ∈ calls, call.settles = true) :
    ∃ range', Steps board Anything ⟨range, calls, compared⟩ ⟨range', [], compared⟩ := by
  induction calls generalizing range competition with
  | nil => exact ⟨range, .refl⟩
  | cons call rest ih =>
      have hrest : ∀ call ∈ rest, call.settles = true :=
        fun call hcall => hcalls call (List.mem_cons_of_mem _ hcall)
      suffices hone : ∃ range' competition', range'.competition = some competition' ∧
          Steps board Anything ⟨range, call :: rest, compared⟩ ⟨range', rest, compared⟩ by
        obtain ⟨range', competition', hcompetition', hone⟩ := hone
        obtain ⟨range'', hmore⟩ := ih hcompetition' hrest
        exact ⟨range'', hone.trans hmore⟩
      have hsettles := hcalls call List.mem_cons_self
      have hrecord : ∀ (call : SubmitCall) (verdict : SubmissionVerdict),
          pendingVerdict call.stage = some verdict →
            ∃ range' competition', range'.competition = some competition' ∧
              Steps board Anything ⟨range, call :: rest, compared⟩ ⟨range', rest, compared⟩ := by
        intro call verdict hstage
        exact ⟨_, _, competition_recordSubmission hcompetition _,
          .cons trivial (.record [] call rest hstage) .refl⟩
      unfold SubmitCall.settles at hsettles
      cases hstage : call.stage with
      | recording verdict remaining =>
          exact hrecord call verdict (by rw [hstage]; rfl)
      | downgrading remaining => exact hrecord call .alreadySolved (by rw [hstage]; rfl)
      | awarding remaining =>
          cases hheld : competition.awarded call.team.id call.challenge.id with
          | false =>
              have hawarded := competition_award range call sampleClock
              rw [hcompetition] at hawarded
              exact ⟨_, _, hawarded,
                .cons trivial (.award [] call rest sampleClock hcompetition hstage hheld) .refl⟩
          | true =>
              obtain ⟨range', competition', hcompetition', hone⟩ :=
                hrecord { call with stage := .downgrading remaining } .alreadySolved rfl
              exact ⟨range', competition', hcompetition',
                .cons trivial (.downgrade [] call rest hcompetition hstage hheld) hone⟩
      | counting =>
          rw [hstage] at hsettles
          cases hsettles
      | lookingForAward used =>
          rw [hstage] at hsettles
          cases hsettles
      | lookingForDuplicate used =>
          rw [hstage] at hsettles
          cases hsettles
      | comparing used =>
          rw [hstage] at hsettles
          cases hsettles

end

end Arena

/-! ### One call more than there are attempts -/

theorem playedRange_opens :
    (@openSubmission Unicode.ascii sampleBoard playedRange sampleOperator (str "t1") (natStr 0)
      (str "guess")).isOk = true := by
  with_unfolding_all decide

/-- A single submission is compared and stays within the attempts. -/
theorem playedRange_attempts_bounded :
    ∃ arena : Arena, arena.compared = [(str "t1", natStr 0)] ∧
      ∀ challenge ∈ @Board.challenges Unicode.ascii sampleBoard,
        (arena.compared.count (str "t1", challenge.id) : Int) ≤ challenge.maxAttempts := by
  let _ := Unicode.ascii
  obtain ⟨call, hopen⟩ := exists_of_isOk playedRange_opens
  have hacts := Arena.steps_acts sampleBoard Arena.Spaced (fun _ _ => trivial) sampleRange
    deployAndPlay
  have hspaced : Arena.Spaced ⟨playedRange, [] ++ [call], []⟩ (.advance call) := by
    intro hcounting _ competition hcompetition
    obtain rfl := Option.some.inj (playedRange_competition.symm.trans hcompetition)
    have hclaims : call.claims = false := by unfold SubmitCall.claims; rw [hcounting]
    have hsettles : call.settles = false := by unfold SubmitCall.settles; rw [hcounting]
    obtain ⟨-, hchallenge, -⟩ := openSubmission_spec hopen
    have hmax := (Board.challenge_spec hchallenge).2
    right
    rw [Arena.among_concat, Arena.among_concat, Arena.share_of_false hclaims,
      Arena.share_of_false hsettles]
    show ((0 : Nat) + ((0 + 0 : Nat) : Int) + ((0 + 0 : Nat) : Int)) < call.challenge.maxAttempts
    omega
  obtain ⟨call', -, hsteps⟩ := Arena.steps_compared Arena.Spaced playedRange_competition rfl rfl rfl
    hopen [] [] (fun _ => trivial) hspaced fun _ _ hstage hcounting => absurd hcounting hstage
  refine ⟨⟨playedRange, [call'], [(str "t1", natStr 0)]⟩, rfl, fun challenge hchallenge => ?_⟩
  exact Arena.attempts_bounded sampleRange_created (hacts.trans hsteps) hchallenge (str "t1")

/-- Twenty-six submissions that all count before any of them commits are all compared, where the
challenge has twenty-five attempts. -/
theorem playedRange_attempts_exceeded :
    @createRange Unicode.ascii sampleOperator sampleTemplate none (str "r1") = .ok sampleRange ∧
      ∃ arena : Arena,
        @Arena.Steps Unicode.ascii sampleBoard Arena.Anything (.start sampleRange) arena ∧
          arena.calls = [] ∧ ∃ challenge ∈ @Board.challenges Unicode.ascii sampleBoard,
            challenge.maxAttempts < arena.compared.count (str "t1", challenge.id) := by
  let _ := Unicode.ascii
  refine ⟨sampleRange_created, ?_⟩
  obtain ⟨call, hopen⟩ := exists_of_isOk playedRange_opens
  obtain ⟨calls, hcalls, hsteps⟩ :=
    Arena.steps_overlapping playedRange_competition rfl rfl rfl hopen 26
  obtain ⟨range', hcommit⟩ := Arena.steps_commit
    (List.replicate 26 (str "t1", natStr 0)) playedRange_competition hcalls
  obtain ⟨-, hchallenge, -, hid, -⟩ := openSubmission_spec hopen
  have hacts := Arena.steps_acts sampleBoard Arena.Anything (fun _ _ => trivial) sampleRange
    deployAndPlay
  refine ⟨_, (hacts.trans hsteps).trans hcommit, rfl, call.challenge, hchallenge, ?_⟩
  have hmax := (Board.challenge_spec hchallenge).2
  show call.challenge.maxAttempts < ((List.replicate 26 (str "t1", natStr 0)).count _ : Nat)
  rw [hid, List.count_replicate_self, hmax]
  decide

end Secp.Range
