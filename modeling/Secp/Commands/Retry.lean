import Secp.Commands.Runs

/-!
# Sending a request again

A request answered from the log is answered again. A request that was accepted has moved the version of
the range, and the version is compared before the log is searched: the same bytes sent again are a
version conflict, and it takes the new version to be answered with the record of the first time.
-/

namespace Secp.Commands

open Secp.Python Secp.Logic Secp.Range

section
variable [Unicode] {planner : Planner} {rows rows' : ControlPlane} {command : Command}
  {principal : Principal} {operationId operationId' : Str} {now now' : Datetime}
  {compiled : CompiledRangePlan} {record : CommandRecord}

/-! ## What an acceptance leaves behind -/

/-- An acceptance appends its record last, perhaps behind the start of its operation. -/
theorem Command.Accepted.events (h : command.Accepted planner rows principal operationId now compiled
    rows' record) :
    ∃ started event, Records command (checkedOf command.kind command.envelope command.worker compiled)
      started rows'.range (command.kind.operationKind.map fun _ => operationId) event ∧
      (command.kind.operationKind = none ∧ started = rows.range ∨
        ∃ operation line, command.kind.operationKind = some operation ∧
          Starts rows.range started operation operationId line) := by
  rcases h.records with ⟨hkind, event, hrecords⟩ |
    ⟨operation, hkind, started, hstarted, event, hrecords⟩
  · rw [hkind]
    exact ⟨rows.range, event, hrecords, .inl ⟨rfl, rfl⟩⟩
  · obtain ⟨line, hstarts⟩ := starts_of_startOperation hstarted
    rw [hkind]
    exact ⟨started, event, hrecords, .inr ⟨operation, line, rfl, hstarts⟩⟩

/-- An acceptance leaves the plan as it was. -/
theorem Command.Accepted.samePlan (h : command.Accepted planner rows principal operationId now compiled
    rows' record) : SamePlan rows.range rows'.range := by
  obtain ⟨started, event, hrecords, ⟨-, rfl⟩ | ⟨operation, line, -, hstarts⟩⟩ := h.events
  · exact hrecords.samePlan (hrecords.kind_event ▸ CommandKind.event_ne_eventObservation _)
  · have hstart := hstarts.samePlan (hstarts.kind_event ▸ startedEvent_ne_eventObservation _)
    have hrecord := hrecords.samePlan (hrecords.kind_event ▸ CommandKind.event_ne_eventObservation _)
    exact ⟨hrecord.id.trans hstart.id, hrecord.organizationId.trans hstart.organizationId,
      hrecord.name.trans hstart.name, hrecord.provider.trans hstart.provider,
      hrecord.observation.trans hstart.observation⟩

/-- An acceptance moves the version. -/
theorem Command.Accepted.version_lt (h : command.Accepted planner rows principal operationId now
    compiled rows' record) : rows.range.eventSequence < rows'.range.eventSequence := by
  rcases h.effect with ⟨-, rfl, -⟩ | ⟨_, -, started, hstarted, rfl, -⟩
  · exact Nat.lt_succ_self _
  · obtain ⟨-, -, -, -, rfl⟩ := startOperation_spec hstarted
    show rows.range.eventSequence < rows.range.eventSequence + 1 + 1
    omega

/-- The key of an acceptance is held by its record alone. -/
theorem Command.Accepted.keyHolders (h : command.Accepted planner rows principal operationId now
    compiled rows' record) : ∃ event rest,
      Commands.keyHolders rows'.range command.envelope.idempotencyKey =
        (command.kind, event) :: rest ∧ ∃ started,
      Records command (checkedOf command.kind command.envelope command.worker compiled) started
        rows'.range (command.kind.operationKind.map fun _ => operationId) event := by
  obtain ⟨started, event, hrecords, hstarted⟩ := h.events
  have hmem : (command.kind, event) ∈
      Commands.keyHolders rows'.range command.envelope.idempotencyKey := by
    refine mem_keyHolders.mpr ⟨?_, hrecords.kind_event, hrecords.key⟩
    rw [hrecords.events]
    exact List.mem_append_right _ List.mem_cons_self
  have hold : ∀ holder ∈ Commands.keyHolders rows'.range command.envelope.idempotencyKey,
      holder = (command.kind, event) := by
    rintro ⟨other, line⟩ hline
    obtain ⟨hin, hkind, hkey⟩ := mem_keyHolders.mp hline
    -- it is not one that stood in the log before, and not the start of the operation
    have hbefore : line ∉ rows.range.events := by
      intro hin
      have hheld := mem_keyHolders.mpr ⟨hin, hkind, hkey⟩
      rw [h.unused] at hheld
      exact absurd hheld List.not_mem_nil
    rw [hrecords.events] at hin
    rcases List.mem_append.mp hin with hin | hin
    · rcases hstarted with ⟨-, rfl⟩ | ⟨operation, start, -, hstarts⟩
      · exact absurd hin hbefore
      · rw [hstarts.events] at hin
        rcases List.mem_append.mp hin with hin | hin
        · exact absurd hin hbefore
        · rw [List.mem_singleton.mp hin, hstarts.kind_event] at hkind
          exact absurd hkind (startedEvent_ne_event operation other)
    · obtain rfl := List.mem_singleton.mp hin
      rw [CommandKind.event_injective (hkind.symm.trans hrecords.kind_event)]
  cases hholders : Commands.keyHolders rows'.range command.envelope.idempotencyKey with
  | nil =>
      rw [hholders] at hmem
      exact absurd hmem List.not_mem_nil
  | cons first rest =>
      have hfirst := hold first (hholders ▸ List.mem_cons_self)
      exact ⟨event, rest, by rw [hfirst], started, hrecords⟩

/-! ## The same bytes again -/

omit [Unicode] in
theorem getRange_congr {range range' : RangeInstance}
    (h : range'.organizationId = range.organizationId) :
    getRange range' principal = getRange range principal := by
  unfold getRange
  rw [h]

theorem InScope.congr {envelope : CommandEnvelope} {range range' : RangeInstance}
    (h : InScope envelope compiled range) (hsame : SamePlan range range') :
    InScope envelope compiled range' :=
  ⟨h.target, h.cluster, h.organization.trans hsame.organizationId.symm, h.generation⟩

/-- A request that was in order is in order again at the new version. -/
theorem Identified.reread {range range' : RangeInstance} {kind : CommandKind}
    {envelope : CommandEnvelope} {declaredHash : Option Str}
    (h : Identified planner range principal kind envelope declaredHash compiled)
    (hsame : SamePlan range range') :
    Identified planner range' principal kind
      { envelope with expectedVersion := range'.eventSequence } declaredHash compiled where
  readable := (getRange_congr hsame.organizationId).trans h.readable
  permitted := h.permitted
  provider := hsame.provider.trans h.provider
  compiles := (compilePlan_congr hsame).trans h.compiles
  declared := h.declared
  scope := ⟨h.scope.target, h.scope.cluster,
    h.scope.organization.trans hsame.organizationId.symm, h.scope.generation⟩
  version := rfl

/-- A request that was in order is refused once the version has moved. -/
theorem preflight_of_moved {kind : CommandKind} {envelope : CommandEnvelope}
    {declaredHash : Option Str} {worker : Option WorkerAssertion}
    (h : Identified planner rows.range principal kind envelope declaredHash compiled)
    (hsame : SamePlan rows.range rows'.range)
    (hmoved : envelope.expectedVersion ≠ rows'.range.eventSequence) : ∃ message,
    preflight planner rows' principal kind envelope declaredHash worker now =
      .error (RefusalCode.versionConflict.refuse message) := by
  have hreread := h.reread hsame
  unfold preflight
  dsimp only
  rw [except_bind_of_ok (refusing_eq_ok_iff.mpr hreread.readable),
    except_bind_of_ok (refusing_eq_ok_iff.mpr hreread.permitted),
    except_bind_of_ok (raiseIf_eq_ok_iff.mpr (by simp [hreread.provider])),
    except_bind_of_ok (requireCompiledForCommand_eq_ok_iff.mpr hreread.compiles),
    except_bind_of_ok (checkIdentity_eq_ok_iff.mpr h.declared),
    except_bind_of_ok (checkScope_eq_ok_iff.mpr (h.scope.congr hsame))]
  unfold checkVersion raiseIf
  rw [if_pos (decide_eq_true hmoved)]
  exact ⟨_, rfl⟩

variable {request : Request}

/-- An accepted request sent again as it was is a version conflict. -/
theorem Command.Accepted.conflicts (h : command.Accepted planner rows principal operationId now
    compiled rows' record) : ∃ message,
    command.submit planner rows' principal operationId' now' =
      .error (RefusalCode.versionConflict.refuse message) := by
  have hmoved : command.envelope.expectedVersion ≠ rows'.range.eventSequence := by
    rw [h.identified.version]
    have := h.version_lt
    omega
  obtain ⟨message, hpreflight⟩ := preflight_of_moved h.identified h.samePlan hmoved
  refine ⟨message, ?_⟩
  unfold Command.submit
  rw [hpreflight]
  rfl

/-- Sent again as it was, the request returns the record of the first time and changes nothing: no
event, no operation, nothing in the outbox. -/
def RetryAnswered (planner : Planner) (request : Request) (principal : Principal)
    (rows : ControlPlane) (record : CommandRecord) : Prop :=
  ∀ operationId now, request.submit planner rows principal operationId now =
    .ok (rows, { record with deduplicated := true })

/-- A request answered from the log is answered again. -/
theorem Command.Answered.submit (h : command.Answered planner rows principal compiled record) :
    command.submit planner rows principal operationId' now' =
      .ok (rows, { record with deduplicated := true }) := by
  have hrecord : { record with deduplicated := true } = record := by
    rw [← h.deduplicated]
  rw [hrecord]
  exact Command.submit_eq_ok_iff.mpr ⟨compiled, .inl ⟨rfl, h⟩⟩

/-- A request that returned is answered with its record when it is sent again if, and only if, its key
was held before: it was not the first of its key. -/
theorem exact_retry_answered_iff
    (h : request.submit planner rows principal operationId now = .ok (rows', record)) :
    RetryAnswered planner request principal rows' record ↔
      keyHolders rows.range request.command.envelope.idempotencyKey ≠ [] := by
  obtain ⟨compiled, ⟨rfl, hanswered⟩ | haccepted⟩ := Command.submit_eq_ok_iff.mp h
  · obtain ⟨event, rest, hholders, -⟩ := findReplay_eq_some_iff.mp hanswered.found
    refine iff_of_true (fun operationId' now' => hanswered.submit) ?_
    rw [hholders]
    exact List.cons_ne_nil _ _
  · refine iff_of_false (fun hretry => ?_) (not_not.mpr haccepted.unused)
    obtain ⟨message, hconflict⟩ := @Command.Accepted.conflicts _ _ _ _ _ _ _ operationId _ now _ _
      haccepted
    have hboth := hconflict.symm.trans (hretry operationId now)
    cases hboth

/-! ## The new version -/

omit [Unicode] in
/-- Every code is found under its value. -/
theorem readReason_value (code : RefusalCode) : readReason (some code.value) = .ok (some code) := by
  have hfound : RefusalCode.members.find? (fun other => other.value = code.value) = some code := by
    cases code <;>
      simp only [RefusalCode.members, RefusalCode.value, List.find?_cons, str_inj, String.reduceEq,
        decide_true, decide_false]
  unfold readReason
  dsimp only
  rw [hfound]

theorem intOrZero_int (n : Int) : intOrZero (.int n) = .ok n := by
  unfold intOrZero Json.truthy
  by_cases hn : n = 0
  · subst hn
    rfl
  · simp [hn, Json.toInt, Json.toInt?]

theorem textOrEmpty_str (text : Str) : textOrEmpty (.str text) = text := by
  cases text <;> rfl

omit [Unicode] in
theorem textField_optionalText {payload : Json} {key : Str} {text : Option Str}
    (h : payload.field key = optionalText text) : textField payload key = text := by
  unfold textField
  rw [h]
  cases text <;> rfl

/-- What a command wrote reads back as the record it returned. -/
theorem Command.recordFromEvent_data {range range' : RangeInstance} {checked : Preflight}
    {started : Option Str} {event : LifecycleEvent} (hid : range'.id = range.id)
    (horganization : range'.organizationId = range.organizationId)
    (hdata : event.data = command.data range principal checked started now)
    (hsequence : event.sequence = range.eventSequence + 1) (deduplicated : Bool) :
    recordFromEvent range' command.kind event deduplicated =
      .ok { command.record range principal checked started with deduplicated := deduplicated } := by
  have hfield : ∀ key value, (command.data range principal checked started now).field key = value →
      event.data.field key = value := by
    intro key value h
    rw [hdata, h]
  have hsubject := hfield (str "subject_hash") (.str checked.subjectHash)
    (by simp [Command.data, Json.field, Json.get?, Dict.get?])
  have hkey := hfield (str "idempotency_key") (.str command.envelope.idempotencyKey)
    (by simp [Command.data, Json.field, Json.get?, Dict.get?])
  have hversion := hfield (str "accepted_version") (.int range.eventSequence)
    (by simp [Command.data, Json.field, Json.get?, Dict.get?])
  have hgeneration := hfield (str "operation_generation") (.int command.envelope.operationGeneration)
    (by simp [Command.data, Json.field, Json.get?, Dict.get?])
  have htarget := hfield (str "target_id") (.str command.envelope.targetId)
    (by simp [Command.data, Json.field, Json.get?, Dict.get?])
  have hcluster := hfield (str "cluster_fingerprint") (.str command.envelope.clusterFingerprint)
    (by simp [Command.data, Json.field, Json.get?, Dict.get?])
  have hrequested := hfield (str "requested_by") (.str principal.userId)
    (by simp [Command.data, Json.field, Json.get?, Dict.get?])
  have henqueued := hfield (str "enqueued") (.bool started.isSome)
    (by simp [Command.data, Json.field, Json.get?, Dict.get?])
  have hoperation := textField_optionalText (hfield (str "operation_id") (optionalText started)
    (by simp [Command.data, Json.field, Json.get?, Dict.get?]))
  have hreason := textField_optionalText (hfield (str "not_enqueued_reason")
    (optionalText (command.notEnqueuedReason.map RefusalCode.value))
    (by simp [Command.data, Json.field, Json.get?, Dict.get?]))
  have hread : readReason (command.notEnqueuedReason.map RefusalCode.value) =
      .ok command.notEnqueuedReason := by
    cases command.notEnqueuedReason with
    | none => rfl
    | some code => exact readReason_value code
  unfold recordFromEvent
  dsimp only
  rw [hversion, hgeneration, hreason, hread, intOrZero_int, intOrZero_int, hsubject, hkey, htarget,
    hcluster, henqueued, hoperation, textField_eq_some_iff.mpr hrequested, textOrEmpty_str,
    textOrEmpty_str, textOrEmpty_str, hid, horganization, hsequence]
  rfl

/-- The last event behind a record is the record's. -/
theorem Command.last_of_accept {range : RangeInstance} {checked : Preflight} {started : Option Str}
    {event : LifecycleEvent}
    (h : (command.accept range principal checked started now).1.events.getLast? = some event) :
    event.data = command.data range principal checked started now ∧
      event.sequence = range.eventSequence + 1 := by
  have hlast : (command.accept range principal checked started now).1.events.getLast? =
      some ⟨range.eventSequence + 1, command.kind.event, command.level, command.message checked,
        command.data range principal checked started now, started⟩ := List.getLast?_concat
  obtain rfl := Option.some.inj (hlast.symm.trans h)
  exact ⟨rfl, rfl⟩

/-- The record an acceptance returned stands at the end of the log. -/
theorem Command.Accepted.recordFromEvent {event : LifecycleEvent}
    (h : command.Accepted planner rows principal operationId now compiled rows' record)
    (hlast : rows'.range.events.getLast? = some event) :
    Commands.recordFromEvent rows'.range command.kind event true =
      .ok { record with deduplicated := true } := by
  rcases h.effect with ⟨-, rfl, rfl⟩ | ⟨_, -, started, -, rfl, rfl⟩
  · obtain ⟨hdata, hsequence⟩ := Command.last_of_accept hlast
    exact Command.recordFromEvent_data rfl rfl hdata hsequence true
  · obtain ⟨hdata, hsequence⟩ := Command.last_of_accept hlast
    exact Command.recordFromEvent_data rfl rfl hdata hsequence true

/-- A command with the version read again. -/
def Command.reread (command : Command) (range : RangeInstance) : Command :=
  { command with envelope := { command.envelope with expectedVersion := range.eventSequence } }

/-- An accepted request sent again with the new version is answered with its record. -/
theorem Command.Accepted.reread_answered
    (h : command.Accepted planner rows principal operationId now compiled rows' record) :
    (command.reread rows'.range).submit planner rows' principal operationId' now' =
      .ok (rows', { record with deduplicated := true }) := by
  obtain ⟨event, rest, hholders, started, hrecords⟩ := h.keyHolders
  have hlast : rows'.range.events.getLast? = some event := by
    rw [hrecords.events]
    exact List.getLast?_concat
  refine Command.submit_eq_ok_iff.mpr ⟨compiled, .inl ⟨rfl, h.identified.reread h.samePlan, ?_⟩⟩
  -- the version is no part of what the digest is taken over
  exact findReplay_eq_some_iff.mpr
    ⟨event, rest, hholders, hrecords.digest, h.recordFromEvent hlast⟩

end

/-! ## A topology, twice -/

/-- The lab once it was observed, without a worker. -/
def observedRows : ControlPlane := { range := observedRange }

def topologyRequest : Request := .compileTopology ⟨str "k", 2, 1, str "t", str "f"⟩

/-- The topology of the observed lab is recorded. -/
theorem topologyRequest_accepted : ∃ compiled rows' record,
    @Command.Accepted Unicode.ascii (@Request.command Unicode.ascii topologyRequest) samplePlanner
      observedRows labOperator (str "op1") sampleClock compiled rows' record := by
  let _ := Unicode.ascii
  obtain ⟨plan, hplan⟩ := observedRange_compiles
  have hcompiles := hplan observedRange ⟨rfl, rfl, rfl, rfl, rfl⟩
  obtain ⟨horganization, hgeneration⟩ := ownership_of_compilePlan hcompiles
  refine ⟨⟨sampleRecorded, plan⟩, _, _, ⟨labOperator_readable rfl, labOperator_permitted _, rfl,
    hcompiles, ?_, ⟨rfl, rfl, horganization, hgeneration.symm⟩, rfl⟩, ?_, ?_, rfl,
    Command.conclude_record rfl⟩
  · intro hash hdeclared
    cases hdeclared
  · exact List.isEmpty_iff.mp (by with_unfolding_all decide)
  · refine ⟨List.mem_cons_self, ?_, ?_, ?_⟩
    · intro hkind
      cases hkind
    · intro hkind
      cases hkind
    · intro assertion hworker
      cases hworker

theorem topologyRequest_retry : ∃ rows' record,
    @Request.submit Unicode.ascii topologyRequest samplePlanner observedRows labOperator (str "op1")
        sampleClock = .ok (rows', record) ∧
      ¬@RetryAnswered Unicode.ascii samplePlanner topologyRequest labOperator rows' record := by
  let _ := Unicode.ascii
  obtain ⟨compiled, rows', record, haccepted⟩ := topologyRequest_accepted
  have hsubmit := Command.submit_eq_ok_iff.mpr ⟨compiled, .inr haccepted⟩
  refine ⟨rows', record, hsubmit, fun hretry => ?_⟩
  exact (exact_retry_answered_iff hsubmit).mp hretry haccepted.unused

/-- The topology of the observed lab is recorded as asked for, and the same request sent again on the
rows it left is a version conflict. -/
theorem topologyRequest_refused : ∃ rows' record message,
    @Request.submit Unicode.ascii topologyRequest samplePlanner observedRows labOperator (str "op1")
        sampleClock = .ok (rows', record) ∧ record.deduplicated = false ∧
      @Request.submit Unicode.ascii topologyRequest samplePlanner rows' labOperator (str "op1")
        sampleClock = .error (RefusalCode.versionConflict.refuse message) ∧
      ¬@RetryAnswered Unicode.ascii samplePlanner topologyRequest labOperator rows' record := by
  let _ := Unicode.ascii
  obtain ⟨compiled, rows', record, haccepted⟩ := topologyRequest_accepted
  obtain ⟨message, hconflict⟩ := @Command.Accepted.conflicts _ _ _ _ _ _ _ (str "op1") _ sampleClock
    _ _ haccepted
  refine ⟨rows', record, message, Command.submit_eq_ok_iff.mpr ⟨compiled, .inr haccepted⟩,
    haccepted.deduplicated, hconflict, fun hretry => ?_⟩
  have hboth := hconflict.symm.trans (hretry (str "op1") sampleClock)
  cases hboth

end Secp.Commands
