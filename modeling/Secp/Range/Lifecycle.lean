import Secp.Logic.StateExcept
import Secp.Range.Destroy

/-!
# The lifecycle of a range

Whatever sequence of services and executions a range goes through, it has an operation in flight
exactly while its state says so, that operation is of the kind the state names, and there is only
one. A destroyed range stays destroyed. Each service and each commit of a worker is inverted once;
the invariant is read off these inversions.
-/

namespace Secp.Range

open Secp.Python Secp.Logic

/-! ## What the services write -/

section
variable {range range' : RangeInstance} {principal : Principal} {operationId : Str} {now : Datetime}

/-- An operation is started from a state its kind allows, with nothing in flight. -/
theorem startOperation_spec {kind : RangeOperationKind}
    (h : startOperation range principal kind operationId now = .ok range') :
    range.state ∉ terminalStates ∧ range.state ∈ kind.allowedFrom ∧
      (∀ op ∈ range.operations, op.inFlight = false) ∧ range.operation? operationId = none ∧
      range' = range.withOperation (newOperation range principal kind operationId now) := by
  unfold startOperation at h
  simp only [except_unit_bind_eq_ok, raiseIf_eq_ok_iff, decide_eq_false_iff_not, not_not] at h
  obtain ⟨-, -, hterminal, hallowed, h⟩ := h
  cases hfind : range.operations.find? Operation.inFlight with
  | some op =>
      rw [hfind] at h
      cases h
  | none =>
      simp only [hfind, except_unit_bind_eq_ok, raiseIf_eq_ok_iff, Option.isSome_eq_false_iff,
        Option.isNone_iff_eq_none] at h
      have hnone : ∀ op ∈ range.operations, op.inFlight = false := by
        simpa using List.find?_eq_none.mp hfind
      exact ⟨hterminal, hallowed, hnone, h.1, (Except.ok.inj h.2).symm⟩

/-- Only an operation in flight is abandoned. -/
theorem abandonOperation_spec {force : Bool}
    (h : abandonOperation range principal operationId force now = .ok range') :
    ∃ op, range.operation? operationId = some op ∧ op.inFlight = true ∧
      range' = range.abandoned op now := by
  unfold abandonOperation at h
  obtain ⟨op, hop, h⟩ := except_bind_eq_ok.mp h
  simp only [except_unit_bind_eq_ok, raiseIf_eq_ok_iff, Bool.not_eq_false'] at h
  obtain ⟨-, hflight, -, h⟩ := h
  refine ⟨op, ?_, hflight, (Except.ok.inj h).symm⟩
  unfold getOperation at hop
  obtain ⟨-, hop⟩ := except_unit_bind_eq_ok.mp hop
  cases hget : range.operation? operationId with
  | none =>
      rw [hget] at hop
      cases hop
  | some found =>
      rw [hget] at hop
      exact congrArg some (Except.ok.inj (except_unit_bind_eq_ok.mp hop).2)

theorem getCompetition_spec {competition : Competition}
    (h : getCompetition range principal = .ok competition) :
    range.competition = some competition := by
  unfold getCompetition at h
  obtain ⟨-, h⟩ := except_unit_bind_eq_ok.mp h
  cases hget : range.competition with
  | none =>
      rw [hget] at h
      cases h
  | some found =>
      rw [hget] at h
      exact congrArg some (Except.ok.inj (except_unit_bind_eq_ok.mp h).2)

/-- A competition starts on a ready or active range and makes it active, or runs already. -/
theorem startCompetition_spec (h : startCompetition range principal now = .ok range') :
    range' = range ∧ (∃ c, range.competition = some c ∧ c.state = .running) ∨
      (range.state = .ready ∨ range.state = .active) ∧ range'.state = .active ∧
        range'.operations = range.operations ∧ range'.resources = range.resources ∧
        ∃ c, range'.competition = some c ∧ c.state = .running := by
  unfold startCompetition at h
  obtain ⟨competition, hget, h⟩ := except_bind_eq_ok.mp h
  have hcompetition := getCompetition_spec hget
  split at h
  · next hrunning => exact .inl ⟨(Except.ok.inj h).symm, competition, hcompetition, hrunning⟩
  · right
    simp only [except_unit_bind_eq_ok, raiseIf_eq_ok_iff] at h
    obtain ⟨hstate, -, h⟩ := h
    have hstate : range.state = .ready ∨ range.state = .active := by
      cases hs : range.state <;> simp_all
    cases h
    exact ⟨hstate, rfl, rfl, rfl, _, rfl, rfl⟩

/-- A competition that stops leaves an active range ready. -/
theorem stopCompetition_spec (h : stopCompetition range principal now = .ok range') :
    range'.operations = range.operations ∧ range'.resources = range.resources ∧
      (∀ c, range'.competition = some c → c.state ≠ .running) ∧
      (range'.state = range.state ∨ range.state = .active ∧ range'.state = .ready) := by
  unfold stopCompetition at h
  obtain ⟨competition, hget, h⟩ := except_bind_eq_ok.mp h
  have hcompetition := getCompetition_spec hget
  split at h
  · next hnot =>
      cases h
      refine ⟨rfl, rfl, fun c hc => ?_, .inl rfl⟩
      rw [hcompetition] at hc
      cases hc
      exact hnot
  · split at h
    · next hactive =>
        cases h
        refine ⟨rfl, rfl, fun c hc => ?_, .inr ⟨hactive, rfl⟩⟩
        cases hc
        exact fun h => by cases h
    · cases h
      refine ⟨rfl, rfl, fun c hc => ?_, .inl rfl⟩
      cases hc
      exact fun h => by cases h

end

/-! ## What a commit writes -/

/-- The kind of operation a state is in flight for. -/
def RangeState.inFlightKind : RangeState → Option RangeOperationKind
  | .deploying => some .deploy
  | .resetting => some .reset
  | .destroying => some .destroy
  | _ => none

@[simp] theorem inFlightKind_inFlight (kind : RangeOperationKind) :
    kind.inFlight.inFlightKind = some kind := by cases kind <;> rfl

/-- The states an operation leaves a range in. -/
def restingStates : List RangeState := [.ready, .failed, .recoveryRequired, .destroyed]

theorem ready_resting : RangeState.ready ∈ restingStates := by decide

theorem failed_resting : RangeState.failed ∈ restingStates := by decide

theorem recoveryRequired_resting : RangeState.recoveryRequired ∈ restingStates := by decide

theorem destroyed_resting : RangeState.destroyed ∈ restingStates := by decide

theorem inFlightKind_of_resting {state : RangeState} (h : state ∈ restingStates) :
    state.inFlightKind = none := by
  cases state <;> simp_all [restingStates, RangeState.inFlightKind]

/-- The commits after which a worker is done. -/
def Commit.final : Commit → Bool
  | .leaseExpired _ _ => true
  | .broughtUp _ _ _ => true
  | .tornDown _ _ => true
  | .failedUnexpectedly _ _ _ => true
  | _ => false

/-- A rewriting of operations that keeps which operation it is. -/
def KeepsIdentity (f : Operation → Operation) : Prop := ∀ op, (f op).id = op.id ∧ (f op).kind = op.kind

/-- The rows of an operation after a rewriting of the one with an id. -/
def rewriteOperation (operationId : Str) (f : Operation → Operation) (ops : List Operation) :
    List Operation := ops.map fun op => if op.id = operationId then f op else op

section
variable {range : RangeInstance} {operationId : Str} {now : Datetime}

theorem concludeDestroy_spec (range : RangeInstance) (operationId : Str) (removed : Nat)
    (reason : Option Str) (now : Datetime) (verdict : Secp.Worker.ResidueVerdict) :
    ∃ f, (range.concludeDestroy operationId removed reason now verdict).operations =
        rewriteOperation operationId f range.operations ∧
      KeepsIdentity f ∧ (∀ op, (f op).inFlight = false) ∧
      (range.concludeDestroy operationId removed reason now verdict).state ∈ restingStates := by
  cases verdict with
  | clean => exact ⟨_, rfl, fun _ => ⟨rfl, rfl⟩, fun _ => rfl, destroyed_resting⟩
  | residue => exact ⟨_, rfl, fun _ => ⟨rfl, rfl⟩, fun _ => rfl, recoveryRequired_resting⟩
  | unproven => exact ⟨_, rfl, fun _ => ⟨rfl, rfl⟩, fun _ => rfl, recoveryRequired_resting⟩

theorem runBringUp_spec (range : RangeInstance) (operationId : Str) (result : DeployResult)
    (reset : Bool) (now : Datetime) :
    ∃ f, (range.runBringUp operationId result reset now).operations =
        rewriteOperation operationId f range.operations ∧
      KeepsIdentity f ∧ (∀ op, (f op).inFlight = false) ∧
      (range.runBringUp operationId result reset now).state ∈ restingStates := by
  unfold RangeInstance.runBringUp
  cases result.ok <;> cases reset
  · exact ⟨_, rfl, fun _ => ⟨rfl, rfl⟩, fun _ => rfl, failed_resting⟩
  · exact ⟨_, rfl, fun _ => ⟨rfl, rfl⟩, fun _ => rfl, failed_resting⟩
  · exact ⟨_, rfl, fun _ => ⟨rfl, rfl⟩, fun _ => rfl, ready_resting⟩
  · exact ⟨_, rfl, fun _ => ⟨rfl, rfl⟩, fun _ => rfl, ready_resting⟩

/-- Abandoning ends the operation as unproven. -/
theorem abandoned_spec (range : RangeInstance) (op : Operation) (now : Datetime) :
    ∃ f, (range.abandoned op now).operations = rewriteOperation op.id f range.operations ∧
      KeepsIdentity f ∧ (∀ op, (f op).status = .unproven) ∧
      (range.abandoned op now).state = .recoveryRequired :=
  ⟨_, rfl, fun _ => ⟨rfl, rfl⟩, fun _ => rfl, rfl⟩

/-- A commit touches the worker's own operation only. A last commit ends the operation and moves the
range to a state of rest; any other leaves an operation in flight in flight and the state alone. -/
theorem Commit.apply_cases (c : Commit) (operationId : Str) (range : RangeInstance) :
    ∃ f, (c.apply operationId range).operations =
        rewriteOperation operationId f range.operations ∧
      KeepsIdentity f ∧
      (c.final = false ∧ (∀ op, op.inFlight = true → (f op).inFlight = true) ∧
          (c.apply operationId range).state = range.state ∨
        c.final = true ∧ (∀ op, (f op).inFlight = false) ∧
          (c.apply operationId range).state ∈ restingStates) := by
  cases c with
  | leaseExpired op now =>
      exact ⟨_, rfl, fun _ => ⟨rfl, rfl⟩, .inr ⟨rfl, fun _ => rfl, recoveryRequired_resting⟩⟩
  | planned steps => exact ⟨_, rfl, fun _ => ⟨rfl, rfl⟩, .inl ⟨rfl, fun _ h => h, rfl⟩⟩
  | started => exact ⟨_, rfl, fun _ => ⟨rfl, rfl⟩, .inl ⟨rfl, fun _ _ => rfl, rfl⟩⟩
  | progress current phase now =>
      exact ⟨_, rfl, fun _ => ⟨rfl, rfl⟩, .inl ⟨rfl, fun _ _ => rfl, rfl⟩⟩
  | event kind message level data =>
      refine ⟨id, ?_, fun _ => ⟨rfl, rfl⟩, .inl ⟨rfl, fun _ h => h, rfl⟩⟩
      show range.operations = range.operations.map fun op => if op.id = operationId then op else op
      simp
  | broughtUp result reset now =>
      obtain ⟨f, hoperations, hf, hdone, hstate⟩ :=
        runBringUp_spec range operationId result reset now
      exact ⟨f, hoperations, hf, .inr ⟨rfl, hdone, hstate⟩⟩
  | tornDown result now =>
      obtain ⟨f, hoperations, hf, hdone, hstate⟩ :=
        concludeDestroy_spec _ operationId _ _ now _
      exact ⟨f, hoperations, hf, .inr ⟨rfl, hdone, hstate⟩⟩
  | failedUnexpectedly kind exception now =>
      exact ⟨_, rfl, fun _ => ⟨rfl, rfl⟩, .inr ⟨rfl, fun _ => rfl, failed_resting⟩⟩

end

/-! ## The invariant -/

/-- The operations in flight are the one the state is in flight for, and operations are told apart by
their ids. -/
structure Lifecycle (range : RangeInstance) : Prop where
  ids : (range.operations.map Operation.id).Nodup
  in_flight : (range.operations.filter Operation.inFlight).map Operation.kind =
    range.state.inFlightKind.toList

section
variable {range : RangeInstance} {operationId : Str} {op : Operation}

theorem operation?_mem (h : range.operation? operationId = some op) :
    op ∈ range.operations ∧ op.id = operationId :=
  ⟨List.mem_of_find?_eq_some h, by simpa using List.find?_some h⟩

/-- There is nothing in flight in a state of rest. -/
theorem Lifecycle.none_in_flight (h : Lifecycle range) (hstate : range.state.inFlightKind = none) :
    ∀ op ∈ range.operations, op.inFlight = false := by
  have hempty := h.in_flight
  rw [hstate, Option.toList_none, List.map_eq_nil_iff, List.filter_eq_nil_iff] at hempty
  simpa using hempty

/-- An operation in flight is the only one, and the state is in flight for its kind. -/
theorem Lifecycle.unique (h : Lifecycle range) (hop : op ∈ range.operations)
    (hflight : op.inFlight = true) :
    range.state.inFlightKind = some op.kind ∧
      range.operations.filter Operation.inFlight = [op] := by
  have hmem : op ∈ range.operations.filter Operation.inFlight := List.mem_filter.mpr ⟨hop, hflight⟩
  have hkinds := h.in_flight
  cases hstate : range.state.inFlightKind with
  | none => exact absurd hflight (by simp [h.none_in_flight hstate op hop])
  | some kind =>
      rw [hstate, Option.toList_some] at hkinds
      obtain ⟨other, hother⟩ : ∃ other, range.operations.filter Operation.inFlight = [other] := by
        refine List.length_eq_one_iff.mp ?_
        rw [← List.length_map Operation.kind, hkinds, List.length_singleton]
      rw [hother] at hmem hkinds
      obtain rfl := List.mem_singleton.mp hmem
      exact ⟨congrArg some (List.singleton_inj.mp hkinds).symm, hother⟩

theorem ids_rewriteOperation {f : Operation → Operation} (hf : KeepsIdentity f)
    (ops : List Operation) :
    (rewriteOperation operationId f ops).map Operation.id = ops.map Operation.id := by
  rw [rewriteOperation, List.map_map]
  refine List.map_congr_left fun op _ => ?_
  show (if op.id = operationId then f op else op).id = op.id
  split
  · exact (hf op).1
  · rfl

/-- An ended operation was the one in flight. -/
theorem filter_rewriteOperation_done {f : Operation → Operation} {ops : List Operation}
    (hdone : ∀ op, (f op).inFlight = false)
    (honly : ∀ op ∈ ops, op.inFlight = true → op.id = operationId) :
    (rewriteOperation operationId f ops).filter Operation.inFlight = [] := by
  refine List.filter_eq_nil_iff.mpr fun op hop => ?_
  obtain ⟨old, hold, rfl⟩ := List.mem_map.mp hop
  by_cases hid : old.id = operationId
  · simp [hid, hdone]
  · have hrest : old.inFlight = false := by
      by_contra hflight
      exact hid (honly old hold (by simpa using hflight))
    simp [hid, hrest]

/-- A worker is inside the one operation in flight. -/
structure Executing (range : RangeInstance) (operationId : Str) : Prop extends Lifecycle range where
  found : ∃ op, range.operation? operationId = some op ∧ op.inFlight = true

/-- Only the operation being executed is in flight. -/
theorem Executing.only (h : Executing range operationId) :
    ∀ op ∈ range.operations, op.inFlight = true → op.id = operationId := by
  intro other hother hflight
  obtain ⟨op, hop, hopflight⟩ := h.found
  obtain ⟨hmem, hid⟩ := operation?_mem hop
  have hlist := (h.unique hmem hopflight).2
  have hotherMem := List.mem_filter.mpr ⟨hother, hflight⟩
  rw [hlist, List.mem_singleton] at hotherMem
  rw [hotherMem]
  exact hid

/-- An operation that keeps its id keeps being found. -/
theorem operation?_rewriteOperation {range' : RangeInstance} {f : Operation → Operation}
    (hoperations : range'.operations = rewriteOperation operationId f range.operations)
    (hf : KeepsIdentity f) (h : range.operation? operationId = some op) :
    range'.operation? operationId = some (f op) := by
  obtain ⟨hmem, hid⟩ := operation?_mem h
  unfold RangeInstance.operation? at h ⊢
  rw [hoperations, rewriteOperation, List.find?_map]
  have hcongr : ((fun op : Operation => decide (op.id = operationId)) ∘
      fun op => if op.id = operationId then f op else op) =
      fun op : Operation => decide (op.id = operationId) := by
    funext op
    by_cases hop : op.id = operationId <;> simp [hop, (hf op).1]
  rw [hcongr, h]
  simp [hid]

/-- A commit before the last leaves the worker inside. -/
theorem Executing.interim (h : Executing range operationId) {c : Commit} (hc : c.final = false) :
    Executing (c.apply operationId range) operationId := by
  obtain ⟨f, hoperations, hf, ⟨-, hkeeps, hstate⟩ | ⟨hfinal, -⟩⟩ :=
    c.apply_cases operationId range
  · obtain ⟨op, hop, hflight⟩ := h.found
    obtain ⟨hmem, hid⟩ := operation?_mem hop
    refine ⟨⟨?_, ?_⟩, f op, operation?_rewriteOperation hoperations hf hop, hkeeps op hflight⟩
    · rw [hoperations, ids_rewriteOperation hf]
      exact h.ids
    · -- rewriting changes neither which operations are in flight nor their kinds
      have hsame : ∀ o ∈ range.operations,
          (if o.id = operationId then f o else o).inFlight = o.inFlight ∧
            (if o.id = operationId then f o else o).kind = o.kind := by
        intro o ho
        by_cases hoid : o.id = operationId
        · obtain rfl : o = op := List.inj_on_of_nodup_map h.ids ho hmem (hoid.trans hid.symm)
          rw [if_pos hoid]
          exact ⟨(hkeeps o hflight).trans hflight.symm, (hf o).2⟩
        · rw [if_neg hoid]
          exact ⟨rfl, rfl⟩
      rw [hoperations, hstate, ← h.in_flight, rewriteOperation, List.filter_map, List.map_map]
      have hfilter : range.operations.filter
          (Operation.inFlight ∘ fun o => if o.id = operationId then f o else o) =
          range.operations.filter Operation.inFlight :=
        List.filter_congr fun o ho => (hsame o ho).1
      rw [hfilter]
      exact List.map_congr_left fun o ho => (hsame o (List.mem_filter.mp ho).1).2
  · rw [hc] at hfinal
    cases hfinal

/-- A last commit ends the operation. -/
theorem Executing.final (h : Executing range operationId) {c : Commit} (hc : c.final = true) :
    Lifecycle (c.apply operationId range) := by
  obtain ⟨f, hoperations, hf, ⟨hnot, -⟩ | ⟨-, hdone, hstate⟩⟩ := c.apply_cases operationId range
  · rw [hc] at hnot
    cases hnot
  · refine ⟨?_, ?_⟩
    · rw [hoperations, ids_rewriteOperation hf]
      exact h.ids
    · rw [hoperations, filter_rewriteOperation_done hdone h.only, inFlightKind_of_resting hstate]
      rfl

/-- Once the provider is called, the last commit is what became of the call. -/
theorem commits_called {attempt : Attempt} {op : Operation} {steps : List RecordedStep}
    (hlease : (operationStaleness op attempt.pickedUpAt).stale = false)
    (hprepared : attempt.prepared = .ok steps) :
    ∃ interim, attempt.commits op = interim ++ attempt.ending op.kind ∧
      ∀ c ∈ interim, c.final = false := by
  unfold Attempt.commits
  rw [hlease, hprepared]
  refine ⟨_, rfl, fun c hc => ?_⟩
  simp only [List.mem_append, List.mem_singleton, List.mem_map] at hc
  rcases hc with (hc | rfl) | ⟨report, -, rfl⟩
  · split at hc
    · rw [List.mem_singleton.mp hc]
      rfl
    · cases hc
  · rfl
  · cases report <;> rfl

/-- A call that comes to an end leaves one last commit, a crash none. -/
theorem ending_cases (attempt : Attempt) (kind : RangeOperationKind) :
    attempt.ending kind = [] ∨ ∃ c, attempt.ending kind = [c] ∧ c.final = true := by
  unfold Attempt.ending
  cases kind with
  | destroy =>
      cases attempt.teardown with
      | returned result => exact .inr ⟨_, rfl, rfl⟩
      | raised exception => exact .inr ⟨_, rfl, rfl⟩
      | crashed => exact .inl rfl
  | deploy | reset =>
      cases attempt.bringUp with
      | returned result => exact .inr ⟨_, rfl, rfl⟩
      | raised exception => exact .inr ⟨_, rfl, rfl⟩
      | crashed => exact .inl rfl

/-- The commits of an execution end with at most one that is a last one. -/
theorem commits_split (attempt : Attempt) (op : Operation) :
    ∃ interim last, attempt.commits op = interim ++ last ∧ (∀ c ∈ interim, c.final = false) ∧
      (last = [] ∨ ∃ c, last = [c] ∧ c.final = true) := by
  cases hlease : (operationStaleness op attempt.pickedUpAt).stale with
  | true =>
      refine ⟨[], [.leaseExpired op attempt.pickedUpAt], ?_, fun _ h => absurd h List.not_mem_nil,
        .inr ⟨_, rfl, rfl⟩⟩
      rw [Attempt.commits, if_pos hlease]
      rfl
  | false =>
      cases hprepared : attempt.prepared with
      | error exception =>
          refine ⟨[], [], ?_, fun _ h => absurd h List.not_mem_nil, .inl rfl⟩
          simp [Attempt.commits, hlease, hprepared]
      | ok steps =>
          obtain ⟨interim, hcommits, hinterim⟩ := commits_called hlease hprepared
          exact ⟨interim, _, hcommits, hinterim, ending_cases attempt op.kind⟩

theorem Executing.interims (h : Executing range operationId) {commits : List Commit}
    (hinterim : ∀ c ∈ commits, c.final = false) :
    Executing (applyCommits operationId range commits) operationId := by
  induction commits generalizing range with
  | nil => exact h
  | cons c rest ih =>
      exact ih (h.interim (hinterim c List.mem_cons_self))
        fun d hd => hinterim d (List.mem_cons_of_mem _ hd)

/-- An execution, however it ends, keeps the lifecycle. -/
theorem Executing.execute (h : Executing range operationId) (attempt : Attempt) (op : Operation) :
    Lifecycle (applyCommits operationId range (attempt.commits op)) := by
  obtain ⟨interim, last, hcommits, hinterim, hlast⟩ := commits_split attempt op
  have hexecuting := h.interims hinterim
  rw [hcommits, applyCommits, List.foldl_append]
  rcases hlast with rfl | ⟨c, rfl, hfinal⟩
  · exact hexecuting.toLifecycle
  · exact hexecuting.final hfinal

theorem resolveOperation_spec {expected : Expected}
    (h : resolveOperation range operationId expected = .ok op) :
    range.operation? operationId = some op ∧ op.inFlight = true := by
  unfold resolveOperation at h
  cases hget : range.operation? operationId with
  | none =>
      rw [hget] at h
      cases h
  | some found =>
      simp only [hget] at h
      cases hmismatch : environmentMismatch found expected with
      | some mismatch =>
          rw [hmismatch] at h
          cases h
      | none =>
          simp only [hmismatch, except_unit_bind_eq_ok, raiseIf_eq_ok_iff, Bool.not_eq_false'] at h
          obtain ⟨hflight, h⟩ := h
          cases h
          exact ⟨rfl, hflight⟩

end

/-! ## Runs -/

/-- One transaction on a range. -/
inductive Action where
  | start (principal : Principal) (kind : RangeOperationKind) (operationId : Str) (now : Datetime)
  | execute (operationId : Str) (expected : Expected) (attempt : Attempt)
  | abandon (principal : Principal) (operationId : Str) (force : Bool) (now : Datetime)
  | createCompetition (principal : Principal) (id : Str) (name : Option Str) (challenges : Nat)
  | createTeam (principal : Principal) (id name : Str)
  | deleteTeam (principal : Principal) (teamId : Str)
  | startCompetition (principal : Principal) (now : Datetime)
  | stopCompetition (principal : Principal) (now : Datetime)

/-- A service that raises is rolled back. -/
def RangeInstance.commitOr (range : RangeInstance) : Except DomainError RangeInstance → RangeInstance
  | .ok range' => range'
  | .error _ => range

theorem commitOr_cases {range : RangeInstance} {result : Except DomainError RangeInstance}
    {P : RangeInstance → Prop} (hrange : P range) (hok : ∀ range', result = .ok range' → P range') :
    P (range.commitOr result) := by
  cases result with
  | ok range' => exact hok range' rfl
  | error _ => exact hrange

section
variable [Unicode]

/-- What a transaction does to the rows. -/
def RangeInstance.act (range : RangeInstance) : Action → RangeInstance
  | .start principal kind operationId now =>
      range.commitOr (startOperation range principal kind operationId now)
  | .execute operationId expected attempt =>
      (executeRangeOperation range operationId expected attempt).1
  | .abandon principal operationId force now =>
      range.commitOr (abandonOperation range principal operationId force now)
  | .createCompetition principal id name challenges =>
      range.commitOr (createCompetition range principal id name challenges)
  | .createTeam principal id name => range.commitOr (createTeam range principal id name)
  | .deleteTeam principal teamId => range.commitOr (deleteTeam range principal teamId)
  | .startCompetition principal now => range.commitOr (startCompetition range principal now)
  | .stopCompetition principal now => range.commitOr (stopCompetition range principal now)

/-- A sequence of transactions. -/
def RangeInstance.run (range : RangeInstance) (actions : List Action) : RangeInstance :=
  actions.foldl RangeInstance.act range

/-- Services on the competition's own rows leave the lifecycle of the range alone. -/
theorem createCompetition_spec {range range' : RangeInstance} {principal : Principal} {id : Str}
    {name : Option Str} {challenges : Nat}
    (h : createCompetition range principal id name challenges = .ok range') :
    range'.operations = range.operations ∧ range'.state = range.state ∧
      range'.resources = range.resources ∧ range.competition = none ∧
      ∃ c, range'.competition = some c ∧ c.state = .draft := by
  unfold createCompetition at h
  simp only [except_unit_bind_eq_ok, raiseIf_eq_ok_iff, Option.isSome_eq_false_iff,
    Option.isNone_iff_eq_none] at h
  obtain ⟨-, hnone, h⟩ := h
  cases h
  exact ⟨rfl, rfl, rfl, hnone, _, rfl, rfl⟩

theorem createTeam_spec {range range' : RangeInstance} {principal : Principal} {id name : Str}
    (h : createTeam range principal id name = .ok range') :
    range'.operations = range.operations ∧ range'.state = range.state ∧
      range'.resources = range.resources ∧
      range'.competition.map Competition.state = range.competition.map Competition.state := by
  unfold createTeam at h
  obtain ⟨c, hget, h⟩ := except_bind_eq_ok.mp h
  simp only [except_unit_bind_eq_ok] at h
  obtain ⟨-, -, h⟩ := h
  cases h
  refine ⟨rfl, rfl, rfl, ?_⟩
  rw [getCompetition_spec hget]
  rfl

omit [Unicode] in
theorem deleteTeam_spec {range range' : RangeInstance} {principal : Principal} {teamId : Str}
    (h : deleteTeam range principal teamId = .ok range') :
    range'.operations = range.operations ∧ range'.state = range.state ∧
      range'.resources = range.resources ∧
      range'.competition.map Competition.state = range.competition.map Competition.state := by
  unfold deleteTeam at h
  obtain ⟨c, hget, h⟩ := except_bind_eq_ok.mp h
  simp only [except_unit_bind_eq_ok] at h
  obtain ⟨-, -, h⟩ := h
  cases h
  refine ⟨rfl, rfl, rfl, ?_⟩
  rw [getCompetition_spec hget]
  rfl

omit [Unicode] in
/-- What a transaction that leaves the operations alone must do to the state. -/
theorem Lifecycle.of_operations_eq {range range' : RangeInstance} (h : Lifecycle range)
    (hoperations : range'.operations = range.operations)
    (hstate : range'.state.inFlightKind = range.state.inFlightKind) : Lifecycle range' :=
  ⟨by rw [hoperations]; exact h.ids, by rw [hoperations, hstate]; exact h.in_flight⟩

omit [Unicode] in
theorem Lifecycle.start {range range' : RangeInstance} (h : Lifecycle range) {principal : Principal}
    {kind : RangeOperationKind} {operationId : Str} {now : Datetime}
    (hstart : startOperation range principal kind operationId now = .ok range') :
    Lifecycle range' := by
  obtain ⟨-, -, hnone, hfresh, rfl⟩ := startOperation_spec hstart
  refine ⟨?_, ?_⟩
  · show ((range.operations ++ [newOperation range principal kind operationId now]).map
      Operation.id).Nodup
    rw [List.map_append, List.map_singleton]
    refine List.nodup_append'.mpr ⟨h.ids, List.nodup_singleton _, ?_⟩
    intro id hid hnew
    obtain ⟨op, hop, rfl⟩ := List.mem_map.mp hid
    have hne := List.find?_eq_none.mp hfresh op hop
    have hid : op.id = operationId := List.mem_singleton.mp hnew
    simp [hid] at hne
  · show ((range.operations ++ [newOperation range principal kind operationId now]).filter
      Operation.inFlight).map Operation.kind = kind.inFlight.inFlightKind.toList
    have hempty : range.operations.filter Operation.inFlight = [] :=
      List.filter_eq_nil_iff.mpr fun op hop => by simp [hnone op hop]
    rw [List.filter_append, hempty, inFlightKind_inFlight]
    rfl

omit [Unicode] in
theorem Lifecycle.abandon {range range' : RangeInstance} (h : Lifecycle range)
    {principal : Principal} {operationId : Str} {force : Bool} {now : Datetime}
    (habandon : abandonOperation range principal operationId force now = .ok range') :
    Lifecycle range' := by
  obtain ⟨op, hop, hflight, rfl⟩ := abandonOperation_spec habandon
  obtain ⟨-, hid⟩ := operation?_mem hop
  have hexecuting : Executing range op.id := ⟨h, op, by rw [hid]; exact hop, hflight⟩
  obtain ⟨f, hoperations, hf, hstatus, hstate⟩ := abandoned_spec range op now
  have hdone : ∀ op, (f op).inFlight = false := by
    intro op
    rw [Operation.inFlight, hstatus]
    rfl
  refine ⟨?_, ?_⟩
  · rw [hoperations, ids_rewriteOperation hf]
    exact h.ids
  · rw [hoperations, filter_rewriteOperation_done hdone hexecuting.only, hstate]
    rfl

/-- Every transaction keeps the lifecycle. -/
theorem Lifecycle.act {range : RangeInstance} (h : Lifecycle range) (action : Action) :
    Lifecycle (range.act action) := by
  cases action with
  | start principal kind operationId now => exact commitOr_cases h fun _ hok => h.start hok
  | execute operationId expected attempt =>
      show Lifecycle (executeRangeOperation range operationId expected attempt).1
      unfold executeRangeOperation
      cases hresolve : resolveOperation range operationId expected with
      | error e => exact h
      | ok op =>
          obtain ⟨hop, hflight⟩ := resolveOperation_spec hresolve
          have hexecuting : Executing range operationId := ⟨h, op, hop, hflight⟩
          exact hexecuting.execute attempt op
  | abandon principal operationId force now => exact commitOr_cases h fun _ hok => h.abandon hok
  | createCompetition principal id name challenges =>
      refine commitOr_cases h fun _ hok => ?_
      obtain ⟨hoperations, hstate, -⟩ := createCompetition_spec hok
      exact h.of_operations_eq hoperations (by rw [hstate])
  | createTeam principal id name =>
      refine commitOr_cases h fun _ hok => ?_
      obtain ⟨hoperations, hstate, -⟩ := createTeam_spec hok
      exact h.of_operations_eq hoperations (by rw [hstate])
  | deleteTeam principal teamId =>
      refine commitOr_cases h fun _ hok => ?_
      obtain ⟨hoperations, hstate, -⟩ := deleteTeam_spec hok
      exact h.of_operations_eq hoperations (by rw [hstate])
  | startCompetition principal now =>
      refine commitOr_cases h fun _ hok => ?_
      rcases startCompetition_spec hok with ⟨rfl, -⟩ | ⟨hbefore, hafter, hoperations, -⟩
      · exact h
      · refine h.of_operations_eq hoperations ?_
        rcases hbefore with hbefore | hbefore
        · rw [hafter, hbefore]
          rfl
        · rw [hafter, hbefore]
  | stopCompetition principal now =>
      refine commitOr_cases h fun _ hok => ?_
      obtain ⟨hoperations, -, -, hstate⟩ := stopCompetition_spec hok
      refine h.of_operations_eq hoperations ?_
      rcases hstate with hstate | ⟨hbefore, hafter⟩
      · rw [hstate]
      · rw [hafter, hbefore]
        rfl

/-- A destroyed range stays destroyed. -/
theorem Lifecycle.destroyed_act {range : RangeInstance} (h : Lifecycle range)
    (hdestroyed : range.state = .destroyed) (action : Action) :
    (range.act action).state = .destroyed := by
  have hnone := h.none_in_flight (by rw [hdestroyed]; rfl)
  cases action with
  | start principal kind operationId now =>
      refine commitOr_cases (P := fun r => r.state = .destroyed) hdestroyed fun _ hok => ?_
      obtain ⟨hterminal, -⟩ := startOperation_spec hok
      exact absurd (by rw [hdestroyed]; decide) hterminal
  | execute operationId expected attempt =>
      show ((executeRangeOperation range operationId expected attempt).1).state = .destroyed
      unfold executeRangeOperation
      cases hresolve : resolveOperation range operationId expected with
      | error e => exact hdestroyed
      | ok op =>
          obtain ⟨hop, hflight⟩ := resolveOperation_spec hresolve
          rw [hnone op (operation?_mem hop).1] at hflight
          cases hflight
  | abandon principal operationId force now =>
      refine commitOr_cases (P := fun r => r.state = .destroyed) hdestroyed fun _ hok => ?_
      obtain ⟨op, hop, hflight, -⟩ := abandonOperation_spec hok
      rw [hnone op (operation?_mem hop).1] at hflight
      cases hflight
  | createCompetition principal id name challenges =>
      exact commitOr_cases (P := fun r => r.state = .destroyed) hdestroyed
        fun _ hok => (createCompetition_spec hok).2.1.trans hdestroyed
  | createTeam principal id name =>
      exact commitOr_cases (P := fun r => r.state = .destroyed) hdestroyed
        fun _ hok => (createTeam_spec hok).2.1.trans hdestroyed
  | deleteTeam principal teamId =>
      exact commitOr_cases (P := fun r => r.state = .destroyed) hdestroyed
        fun _ hok => (deleteTeam_spec hok).2.1.trans hdestroyed
  | startCompetition principal now =>
      refine commitOr_cases (P := fun r => r.state = .destroyed) hdestroyed fun _ hok => ?_
      rcases startCompetition_spec hok with ⟨rfl, -⟩ | ⟨hbefore, -⟩
      · exact hdestroyed
      · rw [hdestroyed] at hbefore
        rcases hbefore with hbefore | hbefore <;> cases hbefore
  | stopCompetition principal now =>
      refine commitOr_cases (P := fun r => r.state = .destroyed) hdestroyed fun _ hok => ?_
      obtain ⟨-, -, -, hstate | ⟨hbefore, -⟩⟩ := stopCompetition_spec hok
      · exact hstate.trans hdestroyed
      · rw [hdestroyed] at hbefore
        cases hbefore

theorem Lifecycle.run {range : RangeInstance} (h : Lifecycle range) (actions : List Action) :
    Lifecycle (range.run actions) := by
  induction actions generalizing range with
  | nil => exact h
  | cons action rest ih => exact ih (h.act action)

theorem Lifecycle.destroyed_run {range : RangeInstance} (h : Lifecycle range)
    (hdestroyed : range.state = .destroyed) (actions : List Action) :
    (range.run actions).state = .destroyed := by
  induction actions generalizing range with
  | nil => exact hdestroyed
  | cons action rest ih => exact ih (h.act action) (h.destroyed_act hdestroyed action)

/-- A new range has no operations. -/
theorem createRange_spec {range : RangeInstance} {principal : Principal} {template : RangeTemplate}
    {name : Option Str} {id : Str} (h : createRange principal template name id = .ok range) :
    range.state = .draft ∧ range.operations = [] ∧ range.resources = [] ∧
      range.competition = none := by
  unfold createRange at h
  obtain ⟨-, h⟩ := except_unit_bind_eq_ok.mp h
  cases h
  exact ⟨rfl, rfl, rfl, rfl⟩

theorem lifecycle_createRange {range : RangeInstance} {principal : Principal}
    {template : RangeTemplate} {name : Option Str} {id : Str}
    (h : createRange principal template name id = .ok range) : Lifecycle range := by
  obtain ⟨hstate, hoperations, -⟩ := createRange_spec h
  exact ⟨by rw [hoperations]; exact List.nodup_nil, by rw [hoperations, hstate]; rfl⟩

/-- In every state a range can reach, at most one operation is in flight, there is one exactly while
the state says so, it is of the kind the state names, and once destroyed the range stays so. -/
theorem range_lifecycle {range : RangeInstance} {principal : Principal} {template : RangeTemplate}
    {name : Option Str} {id : Str} (hcreate : createRange principal template name id = .ok range)
    (actions : List Action) :
    ((range.run actions).operations.filter Operation.inFlight).length ≤ 1 ∧
      ((∃ op ∈ (range.run actions).operations, op.inFlight = true) ↔
        (range.run actions).state = .deploying ∨ (range.run actions).state = .resetting ∨
          (range.run actions).state = .destroying) ∧
      (∀ op ∈ (range.run actions).operations, op.inFlight = true →
        (range.run actions).state = op.kind.inFlight) ∧
      ((range.run actions).state = .destroyed →
        ∀ more, ((range.run actions).run more).state = .destroyed) := by
  have h := (lifecycle_createRange hcreate).run actions
  generalize range.run actions = reached at h ⊢
  have hlength := congrArg List.length h.in_flight
  rw [List.length_map] at hlength
  refine ⟨?_, ?_, ?_, fun hdestroyed more => h.destroyed_run hdestroyed more⟩
  · rw [hlength]
    cases reached.state.inFlightKind <;> simp
  · constructor
    · rintro ⟨op, hop, hflight⟩
      have hkind := (h.unique hop hflight).1
      cases hstate : reached.state <;> simp_all [RangeState.inFlightKind]
    · intro hstate
      have hpos : 0 < (reached.operations.filter Operation.inFlight).length := by
        rw [hlength]
        rcases hstate with hstate | hstate | hstate <;> simp [hstate, RangeState.inFlightKind]
      obtain ⟨op, hop⟩ := List.exists_mem_of_length_pos hpos
      exact ⟨op, List.mem_filter.mp hop⟩
  · intro op hop hflight
    have hkind := (h.unique hop hflight).1
    cases hstate : reached.state <;> cases hop' : op.kind <;>
      simp_all [RangeState.inFlightKind, RangeOperationKind.inFlight]

end

/-! ### One deployment -/

/-- An operator of the sample organization. -/
def sampleOperator : Principal :=
  { userId := str "u1", organizationId := str "o1"
    permissions := [.exerciseOperate, .exerciseApply, .exerciseReset, .exerciseDestroy] }

def sampleTemplate : RangeTemplate :=
  { slug := str "lab", name := str "Lab", provider := str "local_docker" }

/-- A provider that creates nothing and takes no time. -/
def sampleAttempt : Attempt :=
  { pickedUpAt := sampleClock, prepared := .ok [], reports := []
    bringUp := .returned { ok := true }, teardown := .returned { probeReachable := true }
    endedAt := sampleClock }

/-- A deployment and a destroy, one after the other. -/
def deployAndDestroy : List Action :=
  [.start sampleOperator .deploy (str "op1") sampleClock, .execute (str "op1") {} sampleAttempt,
    .start sampleOperator .destroy (str "op2") sampleClock, .execute (str "op2") {} sampleAttempt]

/-- The sample range, newly created. -/
def sampleRange : RangeInstance :=
  RangeInstance.recordEvent
    { id := str "r1", organizationId := str "o1"
      name := @displayName Unicode.ascii none (str "Lab")
      provider := str "local_docker" }
    (str "range_created")
    (str "Range '" ++ @displayName Unicode.ascii none (str "Lab") ++ str "' created from template '" ++
      str "lab" ++ str "'")

theorem sampleRange_created :
    @createRange Unicode.ascii sampleOperator sampleTemplate none (str "r1") = .ok sampleRange := rfl

theorem deployAndDestroy_lifecycle :
    @createRange Unicode.ascii sampleOperator sampleTemplate none (str "r1") = .ok sampleRange ∧
      (@RangeInstance.run Unicode.ascii sampleRange deployAndDestroy).state = .destroyed ∧
      ∀ more, (@RangeInstance.run Unicode.ascii
        (@RangeInstance.run Unicode.ascii sampleRange deployAndDestroy) more).state =
          .destroyed := by
  let _ := Unicode.ascii
  have hdestroyed : (sampleRange.run deployAndDestroy).state = .destroyed := by with_unfolding_all decide
  exact ⟨sampleRange_created, hdestroyed,
    (range_lifecycle sampleRange_created deployAndDestroy).2.2.2 hdestroyed⟩

end Secp.Range
