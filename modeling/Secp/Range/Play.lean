import Secp.Range.Lifecycle

/-!
# Competitions and the state of their range

A competition makes its range active when it starts and ready again when it stops, but whatever ends
an operation writes the state of the range without looking at the competition. A running competition
has an active range, between operations, exactly as long as no operation comes to its end while the
competition runs.
-/

namespace Secp.Range

open Secp.Python Secp.Logic

/-! ## Competitions are untouched by operations -/

/-- The competition of the range is running. -/
def RangeInstance.Playing (range : RangeInstance) : Prop :=
  range.competition.map Competition.state = some .running

theorem playing_iff {range : RangeInstance} :
    range.Playing ↔ ∃ c, range.competition = some c ∧ c.state = .running := by
  unfold RangeInstance.Playing
  rw [Option.map_eq_some_iff]

/-- What a commit of a worker does to the competition is no more than to reset its scores. -/
theorem Commit.competition_apply (c : Commit) (operationId : Str) (range : RangeInstance) :
    (c.apply operationId range).competition.map Competition.state =
      range.competition.map Competition.state := by
  cases c with
  | broughtUp result reset now =>
      show (range.runBringUp operationId result reset now).competition.map Competition.state = _
      unfold RangeInstance.runBringUp
      cases result.ok <;> cases reset
      · rfl
      · exact Option.map_map _ _ _
      · rfl
      · exact Option.map_map _ _ _
  | tornDown result now =>
      show (range.runDestroy operationId result now).competition.map Competition.state = _
      rw [competition_runDestroy]
  | _ => rfl

theorem competition_applyCommits (operationId : Str) (range : RangeInstance)
    (commits : List Commit) :
    (applyCommits operationId range commits).competition.map Competition.state =
      range.competition.map Competition.state := by
  induction commits generalizing range with
  | nil => rfl
  | cons c rest ih => exact (ih _).trans (c.competition_apply operationId range)

/-! ## Ending an operation -/

/-- The execution gets to a commit after which the operation is over. -/
def endsExecution (range : RangeInstance) (operationId : Str) (expected : Expected)
    (attempt : Attempt) : Bool :=
  match resolveOperation range operationId expected with
  | .ok op => (attempt.commits op).any Commit.final
  | .error _ => false

/-- The transaction brings the operation in flight to its end. -/
def endsOperation (range : RangeInstance) : Action → Bool
  | .execute operationId expected attempt => endsExecution range operationId expected attempt
  | .abandon principal operationId force now =>
      (abandonOperation range principal operationId force now).isOk
  | _ => false

/-- A running competition has an active range, unless an operation is in flight. -/
def ActiveWhilePlaying (range : RangeInstance) : Prop :=
  range.Playing → (∀ op ∈ range.operations, op.inFlight = false) → range.state = .active

/-- Executing an operation that was resolved ends it or leaves it in flight. -/
theorem Executing.ends_cases {range : RangeInstance} {operationId : Str}
    (h : Executing range operationId) (attempt : Attempt) (op : Operation) :
    ((attempt.commits op).any Commit.final = true ∧
        (applyCommits operationId range (attempt.commits op)).state ∈ restingStates) ∨
      (attempt.commits op).any Commit.final = false ∧
        Executing (applyCommits operationId range (attempt.commits op)) operationId := by
  obtain ⟨interim, last, hcommits, hinterim, hlast⟩ := commits_split attempt op
  have hexecuting := h.interims hinterim
  have hnone : interim.any Commit.final = false :=
    List.any_eq_false.mpr fun c hc => by simp [hinterim c hc]
  rw [hcommits, List.any_append, hnone, Bool.false_or]
  rcases hlast with rfl | ⟨c, rfl, hfinal⟩
  · right
    rw [List.append_nil]
    exact ⟨rfl, hexecuting⟩
  · left
    refine ⟨by simp [hfinal], ?_⟩
    rw [applyCommits, List.foldl_append]
    obtain ⟨f, -, -, ⟨hnot, -⟩ | ⟨-, -, hstate⟩⟩ :=
      c.apply_cases operationId (applyCommits operationId range interim)
    · rw [hfinal] at hnot
      cases hnot
    · exact hstate

/-! ## One transaction -/

section
variable [Unicode] {range : RangeInstance}

omit [Unicode] in
theorem not_playing_of_none (h : range.competition = none) : ¬range.Playing := by
  intro hplaying
  rw [RangeInstance.Playing, h] at hplaying
  cases hplaying

omit [Unicode] in
theorem playing_congr {range' : RangeInstance}
    (h : range'.competition.map Competition.state = range.competition.map Competition.state) :
    range'.Playing ↔ range.Playing := by
  rw [RangeInstance.Playing, RangeInstance.Playing, h]

omit [Unicode] in
/-- A state of rest is not active, and nothing is in flight in it. -/
theorem activeWhilePlaying_of_resting (h : Lifecycle range) (hstate : range.state ∈ restingStates) :
    ActiveWhilePlaying range ↔ ¬range.Playing := by
  have hnone := h.none_in_flight (inFlightKind_of_resting hstate)
  constructor
  · intro hactive hplaying
    rw [hactive hplaying hnone] at hstate
    simp [restingStates] at hstate
  · intro hnot hplaying
    exact absurd hplaying hnot

omit [Unicode] in
/-- Nothing is asked while an operation is in flight. -/
theorem activeWhilePlaying_of_inFlight {op : Operation} (hop : op ∈ range.operations)
    (hflight : op.inFlight = true) : ActiveWhilePlaying range := by
  intro _ hnone
  rw [hnone op hop] at hflight
  cases hflight

omit [Unicode] in
/-- The part of a transaction's effect that the property looks at. -/
theorem activeWhilePlaying_congr {range' : RangeInstance} (hactive : ActiveWhilePlaying range)
    (hoperations : range'.operations = range.operations) (hstate : range'.state = range.state)
    (hplaying : range'.Playing → range.Playing) : ActiveWhilePlaying range' := by
  intro hplays hnone
  rw [hoperations] at hnone
  exact hstate.trans (hactive (hplaying hplays) hnone)

/-- A transaction keeps the property exactly if it does not end an operation during play. -/
theorem activeWhilePlaying_act_iff (h : Lifecycle range) (hactive : ActiveWhilePlaying range)
    (action : Action) :
    ActiveWhilePlaying (range.act action) ↔
      (endsOperation range action = true → ¬range.Playing) := by
  have hafter := h.act action
  cases action with
  | start principal kind operationId now =>
      refine iff_of_true ?_ fun hends => by cases hends
      refine commitOr_cases hactive fun _ hok => ?_
      obtain ⟨-, -, -, -, rfl⟩ := startOperation_spec hok
      exact activeWhilePlaying_of_inFlight (List.mem_append_right _ List.mem_cons_self) rfl
  | execute operationId expected attempt =>
      show ActiveWhilePlaying (executeRangeOperation range operationId expected attempt).1 ↔
        (endsExecution range operationId expected attempt = true → _)
      have hafter : Lifecycle (executeRangeOperation range operationId expected attempt).1 := hafter
      unfold executeRangeOperation at hafter ⊢
      unfold endsExecution
      cases hresolve : resolveOperation range operationId expected with
      | error e =>
          refine iff_of_true hactive fun hends => ?_
          cases hends
      | ok op =>
          simp only [hresolve] at hafter
          obtain ⟨hop, hflight⟩ := resolveOperation_spec hresolve
          have hexecuting : Executing range operationId := ⟨h, op, hop, hflight⟩
          have hplaying := playing_congr
            (competition_applyCommits operationId range (attempt.commits op))
          rcases hexecuting.ends_cases attempt op with ⟨hends, hstate⟩ | ⟨hends, hstill⟩
          · rw [activeWhilePlaying_of_resting hafter hstate, hplaying]
            exact ⟨fun hnot _ => hnot, fun hnot => hnot hends⟩
          · refine iff_of_true ?_ fun hfinal => ?_
            · obtain ⟨op', hop', hflight'⟩ := hstill.found
              exact activeWhilePlaying_of_inFlight (operation?_mem hop').1 hflight'
            · simp [hends] at hfinal
  | abandon principal operationId force now =>
      show ActiveWhilePlaying (range.commitOr (abandonOperation range principal operationId force
        now)) ↔ ((abandonOperation range principal operationId force now).isOk = true → _)
      have hafter : Lifecycle (range.commitOr (abandonOperation range principal operationId force
        now)) := hafter
      cases habandon : abandonOperation range principal operationId force now with
      | error e => exact iff_of_true hactive fun hends => by cases hends
      | ok range' =>
          rw [habandon] at hafter
          obtain ⟨op, -, -, rfl⟩ := abandonOperation_spec habandon
          have hafter : Lifecycle (range.abandoned op now) := hafter
          show ActiveWhilePlaying (range.abandoned op now) ↔ _
          have hplaying : (range.abandoned op now).Playing ↔ range.Playing := playing_congr rfl
          rw [activeWhilePlaying_of_resting hafter recoveryRequired_resting, hplaying]
          exact ⟨fun hnot _ => hnot, fun hnot => hnot rfl⟩
  | createCompetition principal id name challenges =>
      refine iff_of_true ?_ fun hends => by cases hends
      refine commitOr_cases hactive fun _ hok => ?_
      obtain ⟨hoperations, hstate, -, -, c, hc, hdraft⟩ := createCompetition_spec hok
      refine activeWhilePlaying_congr hactive hoperations hstate fun hplays => ?_
      obtain ⟨c', hc', hrunning⟩ := playing_iff.mp hplays
      obtain rfl := Option.some.inj (hc.symm.trans hc')
      rw [hdraft] at hrunning
      cases hrunning
  | createTeam principal id name =>
      refine iff_of_true ?_ fun hends => by cases hends
      refine commitOr_cases hactive fun _ hok => ?_
      obtain ⟨hoperations, hstate, -, hplays⟩ := createTeam_spec hok
      exact activeWhilePlaying_congr hactive hoperations hstate (playing_congr hplays).mp
  | deleteTeam principal teamId =>
      refine iff_of_true ?_ fun hends => by cases hends
      refine commitOr_cases hactive fun _ hok => ?_
      obtain ⟨hoperations, hstate, -, hplays⟩ := deleteTeam_spec hok
      exact activeWhilePlaying_congr hactive hoperations hstate (playing_congr hplays).mp
  | startCompetition principal now =>
      refine iff_of_true ?_ fun hends => by cases hends
      refine commitOr_cases hactive fun _ hok => ?_
      rcases startCompetition_spec hok with ⟨rfl, -⟩ | ⟨-, hstate, -⟩
      · exact hactive
      · exact fun _ _ => hstate
  | stopCompetition principal now =>
      refine iff_of_true ?_ fun hends => by cases hends
      refine commitOr_cases hactive fun _ hok => ?_
      obtain ⟨-, -, hstopped, -⟩ := stopCompetition_spec hok
      intro hplays
      obtain ⟨c, hc, hrunning⟩ := playing_iff.mp hplays
      exact absurd hrunning (hstopped c hc)

/-! ## Whole runs -/

omit [Unicode] in
theorem activeWhilePlaying_of_none (h : range.competition = none) : ActiveWhilePlaying range :=
  fun hplaying => absurd hplaying (not_playing_of_none h)

/-- In every state of a run a running competition has an active range, unless an operation is in
flight, exactly if no step of the run ends an operation while the competition runs. -/
theorem activeWhilePlaying_run_iff {principal : Principal} {template : RangeTemplate}
    {name : Option Str} {id : Str} (hcreate : createRange principal template name id = .ok range)
    (actions : List Action) :
    (∀ k, ActiveWhilePlaying (range.run (actions.take k))) ↔
      ∀ k (hk : k < actions.length),
        endsOperation (range.run (actions.take k)) actions[k] = true →
          ¬(range.run (actions.take k)).Playing := by
  have hlifecycle := fun before => (lifecycle_createRange hcreate).run before
  have hnext : ∀ k (hk : k < actions.length), range.run (actions.take (k + 1)) =
      (range.run (actions.take k)).act actions[k] := by
    intro k hk
    rw [List.take_succ_eq_append_getElem hk]
    exact List.foldl_append ..
  constructor
  · intro hall k hk
    have hafter := hall (k + 1)
    rw [hnext k hk] at hafter
    exact (activeWhilePlaying_act_iff (hlifecycle _) (hall k) _).mp hafter
  · intro hsteps k
    induction k with
    | zero => exact activeWhilePlaying_of_none (createRange_spec hcreate).2.2.2
    | succ k ih =>
        by_cases hk : k < actions.length
        · rw [hnext k hk]
          exact (activeWhilePlaying_act_iff (hlifecycle _) ih _).mpr (hsteps k hk)
        · -- the run is over
          rw [List.take_of_length_le (by omega)] at ih ⊢
          exact ih

end

/-! ### A reset during play -/

/-- A deployed range whose competition is started. -/
def deployAndPlay : List Action :=
  [.start sampleOperator .deploy (str "op1") sampleClock, .execute (str "op1") {} sampleAttempt,
    .createCompetition sampleOperator (str "c1") none 1,
    .createTeam sampleOperator (str "t1") (str "Red"),
    .startCompetition sampleOperator sampleClock]

/-- The competition is stopped before the range is reset. -/
def stopAndReset : List Action :=
  [.stopCompetition sampleOperator sampleClock,
    .start sampleOperator .reset (str "op2") sampleClock, .execute (str "op2") {} sampleAttempt]

/-- The range is reset while the competition runs. -/
def resetDuringPlay : List Action :=
  [.start sampleOperator .reset (str "op2") sampleClock, .execute (str "op2") {} sampleAttempt]

instance (range : RangeInstance) : Decidable range.Playing :=
  inferInstanceAs (Decidable (_ = _))

theorem stopAndReset_active :
    @createRange Unicode.ascii sampleOperator sampleTemplate none (str "r1") = .ok sampleRange ∧
      ∀ k, ActiveWhilePlaying (@RangeInstance.run Unicode.ascii sampleRange
        ((deployAndPlay ++ stopAndReset).take k)) := by
  let _ := Unicode.ascii
  refine ⟨sampleRange_created, (activeWhilePlaying_run_iff sampleRange_created _).mpr ?_⟩
  with_unfolding_all decide

/-- After a reset during play the competition still runs and the range is ready. -/
theorem resetDuringPlay_not_active :
    @createRange Unicode.ascii sampleOperator sampleTemplate none (str "r1") = .ok sampleRange ∧
      ¬ActiveWhilePlaying
        (@RangeInstance.run Unicode.ascii sampleRange (deployAndPlay ++ resetDuringPlay)) := by
  let _ := Unicode.ascii
  refine ⟨sampleRange_created, fun h => ?_⟩
  have hplaying : (sampleRange.run (deployAndPlay ++ resetDuringPlay)).Playing := by
    with_unfolding_all decide
  have hnone : ∀ op ∈ (sampleRange.run (deployAndPlay ++ resetDuringPlay)).operations,
      op.inFlight = false := by
    with_unfolding_all decide
  have hready : (sampleRange.run (deployAndPlay ++ resetDuringPlay)).state = .ready := by
    with_unfolding_all decide
  rw [h hplaying hnone] at hready
  cases hready

end Secp.Range
