import Secp.Commands.Admission
import Secp.Range.Lifecycle

/-!
# Accepting a command

A command that returns was either answered from the log, in which case nothing changed, or it was
accepted anew: every check passed, no command had used its key, and one record was appended, behind the
start of its operation where there is one.
-/

namespace Secp.Commands

open Secp.Python Secp.Logic Secp.Range

section
variable [Unicode] {planner : Planner} {rows rows' : ControlPlane} {range : RangeInstance}
  {principal : Principal} {kind : CommandKind} {envelope : CommandEnvelope}
  {compiled : CompiledRangePlan} {worker : Option WorkerAssertion} {now : Datetime}

/-! ## The checks -/

/-- The scope a command names is the scope of the plan. -/
structure InScope (envelope : CommandEnvelope) (compiled : CompiledRangePlan)
    (range : RangeInstance) : Prop where
  target : envelope.targetId = compiled.recorded.binding.observation.identity.targetId
  cluster : envelope.clusterFingerprint =
    compiled.recorded.binding.observation.identity.clusterFingerprint
  organization : compiled.plan.workload.topology.ownership.organizationId = range.organizationId
  generation :
    envelope.operationGeneration = compiled.plan.workload.topology.ownership.operationGeneration

theorem checkScope_eq_ok_iff :
    checkScope envelope compiled range = .ok () ↔ InScope envelope compiled range := by
  unfold checkScope
  simp only [except_unit_bind_eq_ok, raiseIf_eq_ok_iff, decide_eq_false_iff_not, not_not]
  constructor
  · rintro ⟨htarget, hcluster, horganization, hgeneration⟩
    exact ⟨htarget, hcluster, horganization, hgeneration⟩
  · intro h
    exact ⟨h.target, h.cluster, h.organization, h.generation⟩

/-- A worker has one enrollment in the range's organization, a healthy one of that release. -/
def Serves (rows : ControlPlane) (worker : WorkerAssertion) : Prop :=
  ∃ row, (rows.workers.filter fun row =>
      row.organizationId = rows.range.organizationId ∧
        row.workerInstallationId = worker.workerInstallationId) = [row] ∧
    row.state = str "healthy" ∧ row.releaseDigest = worker.releaseDigest

omit [Unicode] in
theorem checkWorker_eq_ok_iff {worker : WorkerAssertion} :
    checkWorker rows worker = .ok () ↔ Serves rows worker := by
  unfold checkWorker Serves
  split
  · next hrows =>
      rw [hrows]
      simp [throw, throwThe, MonadExceptOf.throw]
  · next row hrows =>
      rw [hrows]
      simp only [except_unit_bind_eq_ok, raiseIf_eq_ok_iff, decide_eq_false_iff_not, not_not]
      constructor
      · rintro ⟨hstate, hrelease⟩
        exact ⟨row, rfl, hstate, hrelease⟩
      · rintro ⟨_, hsame, hstate, hrelease⟩
        cases hsame
        exact ⟨hstate, hrelease⟩
  · next hnone hone =>
      constructor
      · intro h
        cases h
      · rintro ⟨row, hrow, -⟩
        exact absurd hrow (hone row)

/-- No operation is in the way of the newest. -/
def Idle (range : RangeInstance) : Prop :=
  ∀ op, currentOperation range = some op → op.inFlight = false

omit [Unicode] in
theorem checkNoOperationInFlight_eq_ok_iff :
    checkNoOperationInFlight range now = .ok () ↔ Idle range := by
  unfold checkNoOperationInFlight Idle
  cases currentOperation range with
  | none => simp [Pure.pure, Except.pure]
  | some op =>
      cases hflight : op.inFlight with
      | false => simp [hflight, Pure.pure, Except.pure]
      | true =>
          simp only [Option.some.injEq, forall_eq', hflight, Bool.true_eq_false, iff_false]
          intro h
          rw [Bool.not_true, if_neg Bool.false_ne_true] at h
          split at h <;> cases h

/-- The last steps of the preflight. -/
structure Ready (rows : ControlPlane) (kind : CommandKind) (recorded : RecordedBinding)
    (worker : Option WorkerAssertion) (now : Datetime) : Prop where
  state : rows.range.state ∈ kind.allowedRangeStates
  fresh : kind.operationKind.isSome = true → recorded.freshness now = .fresh
  idle : kind.operationKind.isSome = true → Idle rows.range
  worker : ∀ assertion, worker = some assertion → Serves rows assertion

theorem checkReady_eq_ok_iff {recorded : RecordedBinding} :
    checkReady rows kind recorded worker now = .ok () ↔ Ready rows kind recorded worker now := by
  have hfresh : checkFreshness recorded kind now = .ok () ↔
      (kind.operationKind.isSome = true → recorded.freshness now = .fresh) := by
    unfold checkFreshness
    cases kind.operationKind with
    | none => simp [Pure.pure, Except.pure]
    | some operation => simp [raiseIf_eq_ok_iff]
  have hidle : checkIdle rows kind now = .ok () ↔
      (kind.operationKind.isSome = true → Idle rows.range) := by
    unfold checkIdle
    cases kind.operationKind with
    | none => simp [Pure.pure, Except.pure]
    | some operation => simp [checkNoOperationInFlight_eq_ok_iff]
  unfold checkReady checkLifecycle
  simp only [except_unit_bind_eq_ok, raiseIf_eq_ok_iff, decide_eq_false_iff_not, not_not, hfresh,
    hidle]
  cases worker with
  | none =>
      constructor
      · rintro ⟨hstate, hfresh, hidle, -⟩
        exact ⟨hstate, hfresh, hidle, fun _ h => by cases h⟩
      · intro h
        exact ⟨h.state, h.fresh, h.idle, rfl⟩
  | some worker =>
      simp only [checkWorker_eq_ok_iff]
      constructor
      · rintro ⟨hstate, hfresh, hidle, hserves⟩
        exact ⟨hstate, hfresh, hidle, fun _ h => by cases h; exact hserves⟩
      · intro h
        exact ⟨h.state, h.fresh, h.idle, h.worker worker rfl⟩

/-! ## The preflight -/

/-- Steps 1 to 7 of the preflight. -/
structure Identified (planner : Planner) (range : RangeInstance) (principal : Principal)
    (kind : CommandKind) (envelope : CommandEnvelope) (declaredHash : Option Str)
    (compiled : CompiledRangePlan) : Prop where
  readable : getRange range principal = .ok ()
  permitted : principal.require kind.permission = .ok ()
  provider : range.provider = proxmoxProvider
  compiles : compilePlan planner range = .ok (.plan compiled)
  declared : ∀ hash, declaredHash = some hash → hash = subjectHashFor kind compiled.plan
  scope : InScope envelope compiled range
  version : envelope.expectedVersion = range.eventSequence

/-- What the digest of a request is taken over, once its subject is known. -/
def contentsOf (kind : CommandKind) (envelope : CommandEnvelope)
    (worker : Option WorkerAssertion) (subjectHash : Str) : RequestContents :=
  ⟨kind, subjectHash, envelope.operationGeneration, envelope.targetId,
    envelope.clusterFingerprint, worker⟩

/-- The hash a command is identified by. -/
def subjectOf (kind : CommandKind) (compiled : CompiledRangePlan) : Str :=
  subjectHashFor kind compiled.plan

/-- What a handler is given. -/
def checkedOf (kind : CommandKind) (envelope : CommandEnvelope) (worker : Option WorkerAssertion)
    (compiled : CompiledRangePlan) : Preflight where
  compiled := compiled
  subjectHash := subjectOf kind compiled
  requestDigest := (contentsOf kind envelope worker (subjectOf kind compiled)).digest

omit [Unicode] in
theorem checkVersion_eq_ok_iff :
    checkVersion envelope range = .ok () ↔ envelope.expectedVersion = range.eventSequence := by
  unfold checkVersion
  rw [raiseIf_eq_ok_iff, decide_eq_false_iff_not, not_not]

omit [Unicode] in
theorem checkIdentity_eq_ok_iff {declaredHash : Option Str} {subjectHash : Str} :
    checkIdentity kind declaredHash subjectHash = .ok () ↔
      ∀ hash, declaredHash = some hash → hash = subjectHash := by
  unfold checkIdentity
  cases declaredHash with
  | none => simp [Pure.pure, Except.pure]
  | some declared => simp [raiseIf_eq_ok_iff]

/-- A request passes the preflight by being found in the log, or by being new and ready. -/
theorem preflight_eq_ok_iff {declaredHash : Option Str} {outcome : PreflightOutcome} :
    preflight planner rows principal kind envelope declaredHash worker now = .ok outcome ↔
      ∃ compiled, Identified planner rows.range principal kind envelope declaredHash compiled ∧
        ((∃ record, outcome = .replay record ∧
            findReplay rows.range kind envelope
              (checkedOf kind envelope worker compiled).requestDigest = .ok (some record)) ∨
          keyHolders rows.range envelope.idempotencyKey = [] ∧
            Ready rows kind compiled.recorded worker now ∧
            outcome = .checked (checkedOf kind envelope worker compiled)) := by
  unfold preflight
  simp only [except_unit_bind_eq_ok, refusing_eq_ok_iff, raiseIf_eq_ok_iff, decide_eq_false_iff_not,
    not_not]
  constructor
  · rintro ⟨hrange, hpermission, hprovider, h⟩
    obtain ⟨compiled, hcompiled, h⟩ := except_bind_eq_ok.mp h
    simp only [except_unit_bind_eq_ok, checkIdentity_eq_ok_iff, checkScope_eq_ok_iff,
      checkVersion_eq_ok_iff] at h
    obtain ⟨hdeclared, hscope, hversion, h⟩ := h
    obtain ⟨found, hfound, h⟩ := except_bind_eq_ok.mp h
    refine ⟨compiled, ⟨hrange, hpermission, hprovider,
      requireCompiledForCommand_eq_ok_iff.mp hcompiled, hdeclared, hscope, hversion⟩, ?_⟩
    cases found with
    | some record =>
        cases h
        exact .inl ⟨record, rfl, hfound⟩
    | none =>
        obtain ⟨hready, h⟩ := except_unit_bind_eq_ok.mp h
        cases h
        exact .inr ⟨findReplay_eq_none_iff.mp hfound, checkReady_eq_ok_iff.mp hready, rfl⟩
  · rintro ⟨compiled, hidentified, hcases⟩
    refine ⟨hidentified.readable, hidentified.permitted, hidentified.provider,
      except_bind_eq_ok.mpr
        ⟨compiled, requireCompiledForCommand_eq_ok_iff.mpr hidentified.compiles, ?_⟩⟩
    simp only [except_unit_bind_eq_ok, checkIdentity_eq_ok_iff, checkScope_eq_ok_iff,
      checkVersion_eq_ok_iff]
    refine ⟨hidentified.declared, hidentified.scope, hidentified.version, ?_⟩
    rcases hcases with ⟨record, rfl, hfound⟩ | ⟨hnew, hready, rfl⟩
    · exact except_bind_eq_ok.mpr ⟨some record, hfound, rfl⟩
    · refine except_bind_eq_ok.mpr ⟨none, findReplay_eq_none_iff.mpr hnew, ?_⟩
      exact except_unit_bind_eq_ok.mpr ⟨checkReady_eq_ok_iff.mpr hready, rfl⟩

/-! ## What an acceptance writes -/

variable {command : Command} {checked : Preflight} {operationId : Str} {record : CommandRecord}

/-- A command that enqueues nothing appends its record. -/
theorem Command.conclude_record (hkind : command.kind.operationKind = none) :
    command.conclude rows principal checked operationId now =
      .ok ({ rows with range := (command.accept rows.range principal checked none now).1 },
        command.record rows.range principal checked none) := by
  unfold Command.conclude
  rw [hkind]
  rfl

/-- A command that enqueues starts an operation, appends its record and hands the operation over. -/
theorem Command.conclude_enqueue {operation : RangeOperationKind}
    (hkind : command.kind.operationKind = some operation) :
    command.conclude rows principal checked operationId now = .ok (rows', record) ↔
      ∃ started, startOperation rows.range principal operation operationId now = .ok started ∧
        rows' = { rows with
          range := (command.accept started principal checked (some operationId) now).1
          outbox := rows.outbox ++ [operationId] } ∧
        record = command.record started principal checked (some operationId) := by
  unfold Command.conclude
  rw [hkind]
  simp only [except_bind_eq_ok, refusing_eq_ok_iff]
  constructor
  · rintro ⟨started, hstarted, h⟩
    cases h
    exact ⟨started, hstarted, rfl, rfl⟩
  · rintro ⟨started, hstarted, rfl, rfl⟩
    exact ⟨started, hstarted, rfl⟩

/-- A command was accepted anew. -/
structure Command.Accepted (command : Command) (planner : Planner) (rows : ControlPlane)
    (principal : Principal) (operationId : Str) (now : Datetime) (compiled : CompiledRangePlan)
    (rows' : ControlPlane) (record : CommandRecord) : Prop where
  identified : Identified planner rows.range principal command.kind command.envelope
    command.declaredHash compiled
  unused : keyHolders rows.range command.envelope.idempotencyKey = []
  ready : Ready rows command.kind compiled.recorded command.worker now
  chain : command.chain rows.range
    (checkedOf command.kind command.envelope command.worker compiled) = .ok ()
  written : command.conclude rows principal
    (checkedOf command.kind command.envelope command.worker compiled) operationId now =
      .ok (rows', record)

/-- A command was answered from the log. -/
structure Command.Answered (command : Command) (planner : Planner) (rows : ControlPlane)
    (principal : Principal) (compiled : CompiledRangePlan) (record : CommandRecord) : Prop where
  identified : Identified planner rows.range principal command.kind command.envelope
    command.declaredHash compiled
  found : findReplay rows.range command.kind command.envelope
    (checkedOf command.kind command.envelope command.worker compiled).requestDigest =
      .ok (some record)

/-- A record read back as a replay is marked as one. -/
theorem recordFromEvent_deduplicated {range : RangeInstance} {kind : CommandKind}
    {event : LifecycleEvent} {deduplicated : Bool} {record : CommandRecord}
    (h : recordFromEvent range kind event deduplicated = .ok record) :
    record.deduplicated = deduplicated := by
  unfold recordFromEvent at h
  obtain ⟨_, -, h⟩ := except_bind_eq_ok.mp h
  obtain ⟨_, -, h⟩ := except_bind_eq_ok.mp h
  obtain ⟨_, -, h⟩ := except_bind_eq_ok.mp h
  cases h
  rfl

theorem Command.Answered.deduplicated
    (h : command.Answered planner rows principal compiled record) : record.deduplicated = true := by
  obtain ⟨_, _, -, -, hrecord⟩ := findReplay_eq_some_iff.mp h.found
  exact recordFromEvent_deduplicated hrecord

/-- A command returns by being answered from the log or by being accepted anew. -/
theorem Command.submit_eq_ok_iff :
    command.submit planner rows principal operationId now = .ok (rows', record) ↔
      ∃ compiled, rows' = rows ∧ command.Answered planner rows principal compiled record ∨
        command.Accepted planner rows principal operationId now compiled rows' record := by
  unfold Command.submit
  simp only [except_bind_eq_ok, preflight_eq_ok_iff]
  constructor
  · rintro ⟨outcome, ⟨compiled, hidentified, ⟨found, rfl, hfound⟩ | ⟨hnew, hready, rfl⟩⟩, h⟩
    · cases h
      exact ⟨compiled, .inl ⟨rfl, hidentified, hfound⟩⟩
    · obtain ⟨hchain, h⟩ := except_unit_bind_eq_ok.mp h
      exact ⟨compiled, .inr ⟨hidentified, hnew, hready, hchain, h⟩⟩
  · rintro ⟨compiled, ⟨rfl, h⟩ | h⟩
    · exact ⟨.replay record, ⟨compiled, h.identified, .inl ⟨record, rfl, h.found⟩⟩, rfl⟩
    · exact ⟨_, ⟨compiled, h.identified, .inr ⟨h.unused, h.ready, rfl⟩⟩,
        except_unit_bind_eq_ok.mpr ⟨h.chain, h.written⟩⟩

/-- What an acceptance leaves: the record behind the start of its operation, if any. -/
theorem Command.Accepted.effect (h : command.Accepted planner rows principal operationId now compiled
    rows' record) :
    let checked := checkedOf command.kind command.envelope command.worker compiled
    (command.kind.operationKind = none ∧
      rows' = { rows with range := (command.accept rows.range principal checked none now).1 } ∧
      record = command.record rows.range principal checked none) ∨
    ∃ operation, command.kind.operationKind = some operation ∧
      ∃ started, startOperation rows.range principal operation operationId now = .ok started ∧
        rows' = { rows with
          range := (command.accept started principal checked (some operationId) now).1
          outbox := rows.outbox ++ [operationId] } ∧
        record = command.record started principal checked (some operationId) := by
  cases hkind : command.kind.operationKind with
  | none =>
      have hwritten := h.written
      rw [Command.conclude_record hkind] at hwritten
      cases hwritten
      exact .inl ⟨rfl, rfl, rfl⟩
  | some operation => exact .inr ⟨operation, rfl, (Command.conclude_enqueue hkind).mp h.written⟩

/-- An acceptance is no replay. -/
theorem Command.Accepted.deduplicated (h : command.Accepted planner rows principal operationId now
    compiled rows' record) : record.deduplicated = false := by
  rcases h.effect with ⟨-, -, rfl⟩ | ⟨_, -, _, -, -, rfl⟩
  · rfl
  · rfl

end

end Secp.Commands
