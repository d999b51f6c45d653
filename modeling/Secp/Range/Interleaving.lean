import Mathlib.Logic.Relation
import Secp.Range.Lifecycle

/-!
# Workers and operators at the same time

A worker looks at the status of its operation once, when it picks the operation up, and commits
several times after that; services commit in between. An operation that is abandoned is left alone by
its workers exactly if none was inside `execute_range_operation` for it at that moment: a worker that
comes later is refused, and a worker that was inside writes at its next commit.
-/

namespace Secp.Range

open Secp.Python Secp.Logic

/-! ## Steps -/

/-- How far a worker inside `execute_range_operation` has come. -/
inductive Stage where
  /-- The operation was found in flight; its lease is still to be checked. -/
  | resolved (op : Operation)
  /-- The steps are planned. -/
  | prepared (kind : RangeOperationKind)
  /-- The provider has been called. -/
  | running (kind : RangeOperationKind)

structure Inside where
  operationId : Str
  stage : Stage

/-- The committed rows of a range and the workers inside an operation of it. -/
structure System where
  range : RangeInstance
  workers : List Inside

/-- What a worker does next: at most one commit, and the stage it goes to, or nothing when it leaves.
It may leave at any time without a commit, by an exception before the provider is called or because
its process dies. -/
inductive Advance : Stage → Option Commit → Option Stage → Prop
  | expire {op now} (hstale : (operationStaleness op now).stale = true) :
      Advance (.resolved op) (some (.leaseExpired op now)) none
  | plan {op now} (steps : List RecordedStep) (hlease : (operationStaleness op now).stale = false)
      (hempty : op.steps = []) : Advance (.resolved op) (some (.planned steps)) (some (.prepared op.kind))
  | keepPlan {op now} (hlease : (operationStaleness op now).stale = false) (hsteps : op.steps ≠ []) :
      Advance (.resolved op) none (some (.prepared op.kind))
  | start {kind} : Advance (.prepared kind) (some .started) (some (.running kind))
  | report {kind} (report : Report) :
      Advance (.running kind) (some report.commit) (some (.running kind))
  | bringUp {kind result now} (hkind : kind ≠ .destroy) :
      Advance (.running kind) (some (.broughtUp result (kind = .reset) now)) none
  | tearDown {result now} : Advance (.running .destroy) (some (.tornDown result now)) none
  | raise {kind exception now} :
      Advance (.running kind) (some (.failedUnexpectedly kind exception now)) none
  | leave {stage} : Advance stage none none

/-- The transactions of the services. -/
def Action.isService : Action → Bool
  | .execute _ _ _ => false
  | _ => true

section
variable [Unicode]

/-- One step: of a service, or of a worker of the operation that labels it. -/
inductive Step : System → Option Str → System → Prop
  | service {range workers} (action : Action) (hservice : action.isService = true) :
      Step ⟨range, workers⟩ none ⟨range.act action, workers⟩
  | enter {range workers operationId expected op}
      (hresolve : resolveOperation range operationId expected = .ok op) :
      Step ⟨range, workers⟩ (some operationId) ⟨range, workers ++ [⟨operationId, .resolved op⟩]⟩
  | advance {range before worker after commit next} (hadvance : Advance worker.stage commit next) :
      Step ⟨range, before ++ worker :: after⟩ (some worker.operationId)
        ⟨applyCommits worker.operationId range commit.toList,
          before ++ next.toList.map (Inside.mk worker.operationId) ++ after⟩

/-- Some number of steps, of anyone. -/
def Steps : System → System → Prop :=
  Relation.ReflTransGen fun system system' => ∃ label, Step system label system'

/-- The status an operation is recorded with. -/
def RangeInstance.statusOf (range : RangeInstance) (operationId : Str) :
    Option RangeOperationStatus := (range.operation? operationId).map Operation.status

/-- Whatever happens from here on, no step of a worker of the operation moves its status from
unproven or changes the state of the range. -/
def Silenced (system : System) (operationId : Str) : Prop :=
  ∀ reached next, Steps system reached → Step reached (some operationId) next →
    next.range.statusOf operationId = some .unproven ∧ next.range.state = reached.range.state

/-! ## No worker inside -/

omit [Unicode] in
theorem statusOf_rewriteOperation {range range' : RangeInstance} {operationId other : Str}
    {f : Operation → Operation} (hother : operationId ≠ other)
    (hoperations : range'.operations = rewriteOperation other f range.operations)
    (hf : KeepsIdentity f) : range'.statusOf operationId = range.statusOf operationId := by
  unfold RangeInstance.statusOf RangeInstance.operation?
  rw [hoperations, rewriteOperation, List.find?_map]
  have hcongr : ((fun op : Operation => decide (op.id = operationId)) ∘
      fun op => if op.id = other then f op else op) =
      fun op : Operation => decide (op.id = operationId) := by
    funext op
    by_cases hop : op.id = other <;> simp [hop, (hf op).1]
  rw [hcongr]
  cases hfind : range.operations.find? fun op => decide (op.id = operationId) with
  | none => rfl
  | some op =>
      have hid : op.id = operationId := by simpa using List.find?_some hfind
      have hne : op.id ≠ other := by rwa [hid]
      simp [hne]

omit [Unicode] in
theorem statusOf_applyCommits {range : RangeInstance} {operationId other : Str}
    (hother : operationId ≠ other) (commits : List Commit) :
    (applyCommits other range commits).statusOf operationId = range.statusOf operationId := by
  induction commits generalizing range with
  | nil => rfl
  | cons c rest ih =>
      obtain ⟨f, hoperations, hf, -⟩ := c.apply_cases other range
      exact ih.trans (statusOf_rewriteOperation hother hoperations hf)

omit [Unicode] in
theorem statusOf_congr {range range' : RangeInstance}
    (hoperations : range'.operations = range.operations) (operationId : Str) :
    range'.statusOf operationId = range.statusOf operationId := by
  unfold RangeInstance.statusOf RangeInstance.operation?
  rw [hoperations]

/-- No service touches an operation that is over. -/
theorem statusOf_service {range : RangeInstance} {operationId : Str} {action : Action}
    (hservice : action.isService = true) (hstatus : range.statusOf operationId = some .unproven) :
    (range.act action).statusOf operationId = some .unproven := by
  cases action with
  | execute operationId expected attempt => cases hservice
  | start principal kind newId now =>
      refine commitOr_cases (P := fun r => r.statusOf operationId = some .unproven) hstatus
        fun _ hok => ?_
      obtain ⟨-, -, -, hfresh, rfl⟩ := startOperation_spec hok
      obtain ⟨op, hop, hopstatus⟩ := Option.map_eq_some_iff.mp hstatus
      unfold RangeInstance.statusOf
      have hfind : (range.withOperation (newOperation range principal kind newId now)).operation?
          operationId = some op := by
        show (range.operations ++ [newOperation range principal kind newId now]).find?
          (fun op => op.id = operationId) = some op
        rw [List.find?_append]
        have hold : range.operations.find? (fun op => op.id = operationId) = some op := hop
        rw [hold]
        rfl
      rw [hfind, Option.map_some, hopstatus]
  | abandon principal other force now =>
      refine commitOr_cases (P := fun r => r.statusOf operationId = some .unproven) hstatus
        fun _ hok => ?_
      obtain ⟨op, hop, hflight, rfl⟩ := abandonOperation_spec hok
      obtain ⟨-, hid⟩ := operation?_mem hop
      have hother : operationId ≠ op.id := by
        rintro rfl
        rw [hid, RangeInstance.statusOf, hop] at hstatus
        have hunproven : op.status = .unproven := Option.some.inj hstatus
        rw [Operation.inFlight, hunproven] at hflight
        cases hflight
      obtain ⟨f, hoperations, hf, -⟩ := abandoned_spec range op now
      rwa [statusOf_rewriteOperation hother hoperations hf]
  | createCompetition principal id name challenges =>
      exact commitOr_cases (P := fun r => r.statusOf operationId = some .unproven) hstatus
        fun _ hok => (statusOf_congr (createCompetition_spec hok).1 _).trans hstatus
  | createTeam principal id name =>
      exact commitOr_cases (P := fun r => r.statusOf operationId = some .unproven) hstatus
        fun _ hok => (statusOf_congr (createTeam_spec hok).1 _).trans hstatus
  | deleteTeam principal teamId =>
      exact commitOr_cases (P := fun r => r.statusOf operationId = some .unproven) hstatus
        fun _ hok => (statusOf_congr (deleteTeam_spec hok).1 _).trans hstatus
  | startCompetition principal now =>
      refine commitOr_cases (P := fun r => r.statusOf operationId = some .unproven) hstatus
        fun _ hok => ?_
      rcases startCompetition_spec hok with ⟨rfl, -⟩ | ⟨-, -, hoperations, -⟩
      · exact hstatus
      · rwa [statusOf_congr hoperations]
  | stopCompetition principal now =>
      exact commitOr_cases (P := fun r => r.statusOf operationId = some .unproven) hstatus
        fun _ hok => (statusOf_congr (stopCompetition_spec hok).1 _).trans hstatus

/-- The operation is over and no worker is inside it. -/
structure Left (system : System) (operationId : Str) : Prop where
  closed : system.range.statusOf operationId = some .unproven
  outside : ∀ worker ∈ system.workers, worker.operationId ≠ operationId

omit [Unicode] in
/-- An operation that is over is not picked up. -/
theorem Left.not_resolved {range : RangeInstance} {workers : List Inside} {operationId : Str}
    (h : Left ⟨range, workers⟩ operationId) {expected : Expected} {op : Operation} :
    resolveOperation range operationId expected ≠ .ok op := by
  intro hresolve
  obtain ⟨hop, hflight⟩ := resolveOperation_spec hresolve
  have hclosed := h.closed
  rw [RangeInstance.statusOf, hop] at hclosed
  have hstatus : op.status = .unproven := Option.some.inj hclosed
  rw [Operation.inFlight, hstatus] at hflight
  cases hflight

/-- No step is a step of a worker of the operation, and every step keeps it so. -/
theorem Left.step {system system' : System} {operationId : Str} {label : Option Str}
    (h : Left system operationId) (hstep : Step system label system') :
    label ≠ some operationId ∧ Left system' operationId := by
  cases hstep with
  | service action hservice =>
      refine ⟨fun hlabel => ?_, statusOf_service hservice h.closed, h.outside⟩
      cases hlabel
  | @enter range workers other expected op hresolve =>
      have hother : other ≠ operationId := by
        rintro rfl
        exact h.not_resolved hresolve
      refine ⟨fun hlabel => hother (Option.some.inj hlabel), h.closed, fun worker hworker => ?_⟩
      rcases List.mem_append.mp hworker with hworker | hworker
      · exact h.outside worker hworker
      · rw [List.mem_singleton.mp hworker]
        exact hother
  | @advance range before worker after commit next hadvance =>
      have hother : worker.operationId ≠ operationId :=
        h.outside worker (List.mem_append_right _ List.mem_cons_self)
      refine ⟨fun hlabel => hother (Option.some.inj hlabel), ?_, fun other hworker => ?_⟩
      · exact (statusOf_applyCommits (Ne.symm hother) _).trans h.closed
      · rcases List.mem_append.mp hworker with hworker | hworker
        · rcases List.mem_append.mp hworker with hworker | hworker
          · exact h.outside other (List.mem_append_left _ hworker)
          · obtain ⟨stage, -, rfl⟩ := List.mem_map.mp hworker
            exact hother
        · exact h.outside other (List.mem_append_right _ (List.mem_cons_of_mem _ hworker))

theorem Left.steps {system system' : System} {operationId : Str} (h : Left system operationId)
    (hsteps : Steps system system') : Left system' operationId := by
  induction hsteps with
  | refl => exact h
  | tail _ hlast ih =>
      obtain ⟨label, hstep⟩ := hlast
      exact (ih.step hstep).2

/-- Silence is not broken later either. -/
theorem Silenced.step {system system' : System} {operationId : Str} {label : Option Str}
    (h : Silenced system operationId) (hstep : Step system label system') :
    Silenced system' operationId := fun reached next hsteps hnext =>
  h reached next (Relation.ReflTransGen.head ⟨label, hstep⟩ hsteps) hnext

end

/-! ### A deployment that outlives its lease -/

end Secp.Range
