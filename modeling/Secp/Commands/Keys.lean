import Secp.Commands.Families
import Secp.Commands.Retry

/-!
# One key, one effect

Over every run a key stands on one command record at most, and the records of the commands that enqueue
name, one by one, the operations that commands started. A key that was used is never used again: a
request that carries it is answered with the record it holds or refused.
-/

namespace Secp.Commands

open Secp.Python Secp.Logic Secp.Range

/-! ## The records in a timeline -/

/-- The records commands left. -/
def commandLog (events : List LifecycleEvent) : List LifecycleEvent :=
  events.filter fun event => event.kind ∈ CommandKind.members.map CommandKind.event

/-- The commands that enqueue. -/
def enqueuing : List CommandKind :=
  CommandKind.members.filter fun kind => kind.operationKind.isSome

/-- The records of the commands that enqueue. -/
def enqueuedLog (events : List LifecycleEvent) : List LifecycleEvent :=
  events.filter fun event => event.kind ∈ enqueuing.map CommandKind.event

/-- The key a record stands under. -/
def keyOf (event : LifecycleEvent) : Json := event.data.field (str "idempotency_key")

/-- The operation a record names. -/
def operationOf (event : LifecycleEvent) : Json := event.data.field (str "operation_id")

theorem mem_commandLog {events : List LifecycleEvent} {event : LifecycleEvent} :
    event ∈ commandLog events ↔ event ∈ events ∧ ∃ kind : CommandKind, event.kind = kind.event := by
  unfold commandLog
  rw [List.mem_filter, decide_eq_true_eq, List.mem_map]
  refine and_congr_right fun _ => ?_
  constructor
  · rintro ⟨kind, -, hkind⟩
    exact ⟨kind, hkind.symm⟩
  · rintro ⟨kind, hkind⟩
    exact ⟨kind, kind.mem_members, hkind.symm⟩

theorem mem_enqueuing {kind : CommandKind} : kind ∈ enqueuing ↔ kind.operationKind.isSome = true := by
  unfold enqueuing
  rw [List.mem_filter]
  exact and_iff_right kind.mem_members

theorem event_mem_enqueuing {kind : CommandKind} :
    kind.event ∈ enqueuing.map CommandKind.event ↔ kind.operationKind.isSome = true := by
  rw [List.mem_map, ← mem_enqueuing]
  constructor
  · rintro ⟨other, hother, hevent⟩
    rw [← CommandKind.event_injective hevent]
    exact hother
  · intro h
    exact ⟨kind, h, rfl⟩

section
variable {events added : List LifecycleEvent} {event : LifecycleEvent}

theorem commandLog_append_of_none (h : ∀ e ∈ added, ∀ kind : CommandKind, e.kind ≠ kind.event) :
    commandLog (events ++ added) = commandLog events := by
  have hnone : commandLog added = [] := by
    refine List.eq_nil_iff_forall_not_mem.mpr fun e he => ?_
    obtain ⟨hmem, kind, hkind⟩ := mem_commandLog.mp he
    exact h e hmem kind hkind
  show (events ++ added).filter _ = _
  rw [List.filter_append]
  exact (congrArg _ hnone).trans (List.append_nil _)

theorem enqueuedLog_append_of_none (h : ∀ e ∈ added, ∀ kind : CommandKind, e.kind ≠ kind.event) :
    enqueuedLog (events ++ added) = enqueuedLog events := by
  have hnone : enqueuedLog added = [] := by
    refine List.eq_nil_iff_forall_not_mem.mpr fun e he => ?_
    rw [enqueuedLog, List.mem_filter, decide_eq_true_eq, List.mem_map] at he
    obtain ⟨hmem, kind, -, hkind⟩ := he
    exact h e hmem kind hkind.symm
  show (events ++ added).filter _ = _
  rw [List.filter_append]
  exact (congrArg _ hnone).trans (List.append_nil _)

theorem commandLog_snoc {kind : CommandKind} (h : event.kind = kind.event) :
    commandLog (events ++ [event]) = commandLog events ++ [event] := by
  have hmem : event.kind ∈ CommandKind.members.map CommandKind.event := by
    rw [h]
    exact List.mem_map_of_mem kind.mem_members
  unfold commandLog
  rw [List.filter_append, List.filter_singleton, decide_eq_true hmem]
  rfl

theorem enqueuedLog_snoc {kind : CommandKind} (h : event.kind = kind.event) :
    enqueuedLog (events ++ [event]) =
      enqueuedLog events ++ if kind.operationKind.isSome then [event] else [] := by
  unfold enqueuedLog
  rw [List.filter_append, List.filter_singleton, h, decide_eq_decide.mpr event_mem_enqueuing]
  by_cases hkind : kind.operationKind.isSome = true
  · rw [decide_eq_true hkind, if_pos hkind]
    rfl
  · rw [decide_eq_false hkind, if_neg hkind]
    rfl

end

/-! ## The operations commands start -/

section
variable [Unicode] {planner : Planner} {rows rows' : ControlPlane} {started : List Str}

/-- The operations a move adds, if it is a command. -/
def startedByCommand (rows rows' : ControlPlane) : Move → List Str
  | .submit _ _ _ _ => (rows'.range.operations.map Operation.id).filter fun id =>
      id ∉ rows.range.operations.map Operation.id
  | _ => []

/-- The operations the commands of a run start. -/
def startedByCommands (planner : Planner) : ControlPlane → List Move → List Str
  | _, [] => []
  | rows, move :: rest =>
      startedByCommand rows (rows.step planner move) move ++
        startedByCommands planner (rows.step planner move) rest

omit [Unicode] in
theorem startedByCommand_eq_nil {move : Move}
    (h : rows'.range.operations.map Operation.id = rows.range.operations.map Operation.id) :
    startedByCommand rows rows' move = [] := by
  cases move with
  | submit principal request operationId now =>
      refine List.filter_eq_nil_iff.mpr fun id hid => ?_
      rw [h] at hid
      simp [hid]
  | _ => rfl

omit [Unicode] in
theorem startedByCommand_submit {principal : Principal} {request : Request} {operationId id : Str}
    {now : Datetime} (hfresh : id ∉ rows.range.operations.map Operation.id)
    (h : rows'.range.operations.map Operation.id = rows.range.operations.map Operation.id ++ [id]) :
    startedByCommand rows rows' (.submit principal request operationId now) = [id] := by
  show (rows'.range.operations.map Operation.id).filter _ = [id]
  have hold : (rows.range.operations.map Operation.id).filter
      (fun other => decide (other ∉ rows.range.operations.map Operation.id)) = [] :=
    List.filter_eq_nil_iff.mpr fun other hother => by simp [hother]
  rw [h, List.filter_append, hold, List.filter_singleton, decide_eq_true hfresh]
  rfl

/-! ## The invariant -/

omit [Unicode] in
/-- The start of an operation holds no key. -/
theorem keyHolders_of_starts {range range' : RangeInstance} {kind : RangeOperationKind}
    {operationId key : Str} {event : LifecycleEvent} (h : Starts range range' kind operationId event)
    (hunused : keyHolders range key = []) : keyHolders range' key = [] := by
  refine List.eq_nil_iff_forall_not_mem.mpr fun holder hholder => ?_
  obtain ⟨other, line⟩ := holder
  obtain ⟨hmem, hkind, hkey⟩ := mem_keyHolders.mp hholder
  rw [h.events] at hmem
  rcases List.mem_append.mp hmem with hmem | hmem
  · have hheld := mem_keyHolders.mpr ⟨hmem, hkind, hkey⟩
    rw [hunused] at hheld
    exact absurd hheld List.not_mem_nil
  · rw [List.mem_singleton.mp hmem, h.kind_event] at hkind
    exact startedEvent_ne_event kind other hkind

/-- Keys are used once, and the records name the operations that commands started. -/
structure OneEffect (rows : ControlPlane) (started : List Str) : Prop where
  keys : ((commandLog rows.range.events).map keyOf).Nodup
  named : (enqueuedLog rows.range.events).map operationOf = started.map Json.str
  known : ∀ id ∈ started, id ∈ rows.range.operations.map Operation.id
  nodup : started.Nodup

omit [Unicode] in
/-- Events of no command and a timeline that only loses no operation keep the invariant. -/
theorem OneEffect.of_append {added : List LifecycleEvent} (h : OneEffect rows started)
    (hevents : rows'.range.events = rows.range.events ++ added)
    (hadded : ∀ e ∈ added, ∀ kind : CommandKind, e.kind ≠ kind.event)
    (hoperations : ∀ id ∈ rows.range.operations.map Operation.id,
      id ∈ rows'.range.operations.map Operation.id) : OneEffect rows' started := by
  refine ⟨?_, ?_, fun id hid => hoperations id (h.known id hid), h.nodup⟩
  · rw [hevents, commandLog_append_of_none hadded]
    exact h.keys
  · rw [hevents, enqueuedLog_append_of_none hadded]
    exact h.named

/-- A record under a new key keeps the invariant, with the operation it names. -/
theorem OneEffect.of_records {command : Command} {checked : Preflight} {range : RangeInstance}
    {operationId : Option Str} {event : LifecycleEvent}
    (h : OneEffect { rows with range := range } started)
    (hrecords : Records command checked range rows'.range operationId event)
    (hunused : keyHolders range command.envelope.idempotencyKey = [])
    (hoperation : operationId.isSome = command.kind.operationKind.isSome)
    (hknown : ∀ id ∈ operationId.toList, id ∈ range.operations.map Operation.id ∧ id ∉ started) :
    OneEffect rows' (started ++ operationId.toList) := by
  constructor
  · rw [hrecords.events, commandLog_snoc hrecords.kind_event, List.map_append]
    refine List.nodup_append.mpr ⟨h.keys, List.nodup_singleton _, ?_⟩
    intro key hkey other hother
    obtain ⟨line, hline, rfl⟩ := List.mem_map.mp hkey
    obtain ⟨hmem, kind, hkind⟩ := mem_commandLog.mp hline
    rw [List.map_singleton, List.mem_singleton] at hother
    rw [hother, show keyOf event = _ from hrecords.key]
    intro hsame
    have hheld : (kind, line) ∈ keyHolders range command.envelope.idempotencyKey :=
      mem_keyHolders.mpr ⟨hmem, hkind, hsame⟩
    rw [hunused] at hheld
    exact absurd hheld List.not_mem_nil
  · rw [hrecords.events, enqueuedLog_snoc hrecords.kind_event, ← hoperation, List.map_append,
      List.map_append]
    refine congrArg₂ (· ++ ·) h.named ?_
    cases operationId with
    | none => rfl
    | some id => exact congrArg (fun value => [value]) hrecords.operation_id
  · intro id hid
    rw [hrecords.operations]
    rcases List.mem_append.mp hid with hid | hid
    · exact h.known id hid
    · exact (hknown id hid).1
  · refine List.nodup_append.mpr ⟨h.nodup, ?_, ?_⟩
    · cases operationId with
      | none => exact List.nodup_nil
      | some id => exact List.nodup_singleton id
    · intro id hid other hother hsame
      exact (hknown other hother).2 (hsame ▸ hid)

/-- Every move keeps the invariant. -/
theorem OneEffect.step (h : OneEffect rows started) (move : Move) :
    OneEffect (rows.step planner move)
      (started ++ startedByCommand rows (rows.step planner move) move) := by
  have heffect := effect_step planner rows move
  generalize rows.step planner move = rows' at heffect ⊢
  cases heffect with
  | quiet hquiet =>
      obtain ⟨added, hevents, hadded⟩ := hquiet.events
      rw [startedByCommand_eq_nil hquiet.operations, List.append_nil]
      refine h.of_append hevents (fun e he kind hkind => ?_) fun id hid => ?_
      · exact hadded e he (hkind ▸ event_mem_endpointKinds kind)
      · rw [hquiet.operations]
        exact hid
  | @acted kind principal declared range' record hact =>
      obtain ⟨-, -, rfl⟩ := Act.perform_spec hact
      rw [show startedByCommand rows _ _ = [] from rfl, List.append_nil]
      refine h.of_append rfl (fun e he command hcommand => ?_) fun id hid => hid
      rw [List.mem_singleton.mp he] at hcommand
      exact event_act_ne_event kind command hcommand
  | @started principal kind operationId now range' hauthorized hstart =>
      obtain ⟨line, hstarts⟩ := starts_of_startOperation hstart
      rw [show startedByCommand rows _ _ = [] from rfl, List.append_nil]
      refine h.of_append hstarts.events (fun e he command hcommand => ?_) fun id hid => ?_
      · rw [List.mem_singleton.mp he, hstarts.kind_event] at hcommand
        exact startedEvent_ne_event kind command hcommand
      · rw [hstarts.operations]
        exact List.mem_append_left _ hid
  | @submitted principal request operationId now compiled rows' record haccepted =>
      obtain ⟨range, event, hrecords, ⟨hkind, rfl⟩ | ⟨operation, line, hkind, hstarts⟩⟩ :=
        haccepted.events
      · rw [hkind] at hrecords
        rw [startedByCommand_eq_nil (congrArg _ hrecords.operations)]
        refine OneEffect.of_records h hrecords haccepted.unused (by rw [hkind]; rfl) ?_
        intro id hid
        cases hid
      · rw [hkind] at hrecords
        have hoperations : rows'.range.operations.map Operation.id =
            rows.range.operations.map Operation.id ++ [operationId] :=
          (congrArg _ hrecords.operations).trans hstarts.operations
        rw [startedByCommand_submit hstarts.fresh hoperations]
        refine @OneEffect.of_records _ rows rows' started _ _ range _ event ?_ hrecords ?_
          (by rw [hkind]; rfl) ?_
        · refine h.of_append hstarts.events (fun e he command hcommand => ?_) fun id hid => ?_
          · rw [List.mem_singleton.mp he, hstarts.kind_event] at hcommand
            exact startedEvent_ne_event operation command hcommand
          · show id ∈ range.operations.map Operation.id
            rw [hstarts.operations]
            exact List.mem_append_left _ hid
        · exact keyHolders_of_starts hstarts haccepted.unused
        · intro id hid
          obtain rfl := List.mem_singleton.mp hid
          rw [hstarts.operations]
          exact ⟨List.mem_append_right _ List.mem_cons_self,
            fun hstarted => hstarts.fresh (h.known _ hstarted)⟩

theorem OneEffect.run (h : OneEffect rows started) (moves : List Move) :
    OneEffect (rows.run planner moves) (started ++ startedByCommands planner rows moves) := by
  induction moves generalizing rows started with
  | nil =>
      rw [show startedByCommands planner rows [] = [] from rfl, List.append_nil]
      exact h
  | cons move rest ih =>
      have hrest := ih (@OneEffect.step _ planner _ _ h move)
      rw [List.append_assoc] at hrest
      exact hrest

theorem Created.oneEffect (h : Created rows) : OneEffect rows [] := by
  obtain ⟨event, hevents, hkind, hoperations⟩ := h.events
  have hnone : ∀ e ∈ [event], ∀ kind : CommandKind, e.kind ≠ kind.event := by
    intro e he kind hcommand
    rw [List.mem_singleton.mp he] at hcommand
    exact hkind (hcommand ▸ event_mem_endpointKinds kind)
  refine ⟨?_, ?_, fun id hid => absurd hid List.not_mem_nil, List.nodup_nil⟩
  · rw [hevents, ← List.nil_append [event], commandLog_append_of_none hnone]
    exact List.nodup_nil
  · rw [hevents, ← List.nil_append [event], enqueuedLog_append_of_none hnone]
    rfl

/-! ## A key that was used -/

/-- What a request's digest is taken over when the range compiles to a plan. -/
def Request.contents (request : Request) (compiled : CompiledRangePlan) : RequestContents :=
  contentsOf request.command.kind request.command.envelope request.command.worker
    (subjectOf request.command.kind compiled)

/-- Timelines only grow. -/
theorem mem_events_step {event : LifecycleEvent} (h : event ∈ rows.range.events) (move : Move) :
    event ∈ (rows.step planner move).range.events := by
  have heffect := effect_step planner rows move
  generalize rows.step planner move = rows' at heffect ⊢
  cases heffect with
  | quiet hquiet =>
      obtain ⟨added, hevents, -⟩ := hquiet.events
      rw [hevents]
      exact List.mem_append_left _ h
  | acted hact =>
      obtain ⟨-, -, rfl⟩ := Act.perform_spec hact
      exact List.mem_append_left _ h
  | started hauthorized hstart =>
      obtain ⟨line, hstarts⟩ := starts_of_startOperation hstart
      rw [hstarts.events]
      exact List.mem_append_left _ h
  | submitted haccepted =>
      obtain ⟨range, line, hrecords, ⟨-, rfl⟩ | ⟨operation, start, -, hstarts⟩⟩ := haccepted.events
      · rw [hrecords.events]
        exact List.mem_append_left _ h
      · rw [hrecords.events, hstarts.events]
        exact List.mem_append_left _ (List.mem_append_left _ h)

theorem mem_events_run {event : LifecycleEvent} (h : event ∈ rows.range.events) (moves : List Move) :
    event ∈ (rows.run planner moves).range.events := by
  induction moves generalizing rows with
  | nil => exact h
  | cons move rest ih => exact ih (mem_events_step h move)

omit [Unicode] in
/-- A key is held by its record alone. -/
theorem OneEffect.holder_eq {key : Str} {kind other : CommandKind} {event line : LifecycleEvent}
    (h : OneEffect rows started) (hevent : (kind, event) ∈ keyHolders rows.range key)
    (hline : (other, line) ∈ keyHolders rows.range key) : other = kind ∧ line = event := by
  obtain ⟨hmem, hkind, hkey⟩ := mem_keyHolders.mp hevent
  obtain ⟨hmem', hkind', hkey'⟩ := mem_keyHolders.mp hline
  have hsame : line = event := List.inj_on_of_nodup_map h.keys
    (mem_commandLog.mpr ⟨hmem', other, hkind'⟩) (mem_commandLog.mpr ⟨hmem, kind, hkind⟩)
    (hkey'.trans hkey.symm)
  subst hsame
  exact ⟨CommandKind.event_injective (hkind'.symm.trans hkind), rfl⟩

/-- A request under a key whose record is of another kind or has another digest is refused, and nothing
changes. -/
theorem OneEffect.refuses {key : Str} {kind : CommandKind} {event : LifecycleEvent} {digest : Str}
    (h : OneEffect rows started) (hevent : (kind, event) ∈ keyHolders rows.range key)
    (hdigest : event.data.field (str "request_digest") = .str digest) {request : Request}
    (hkey : request.command.envelope.idempotencyKey = key)
    (hother : request.command.kind ≠ kind ∨
      ∀ compiled, compilePlan planner rows.range = .ok (.plan compiled) →
        (request.contents compiled).digest ≠ digest) (principal : Principal) (operationId : Str)
    (now : Datetime) :
    (∃ failure, request.submit planner rows principal operationId now = .error failure) ∧
      rows.step planner (.submit principal request operationId now) = rows := by
  subst hkey
  cases hsubmit : request.submit planner rows principal operationId now with
  | error failure =>
      exact ⟨⟨failure, rfl⟩, step_submit_of_error hsubmit⟩
  | ok result =>
      obtain ⟨rows', record⟩ := result
      obtain ⟨compiled, ⟨rfl, hanswered⟩ | haccepted⟩ := Command.submit_eq_ok_iff.mp hsubmit
      · obtain ⟨line, rest, hholders, hline, -⟩ := findReplay_eq_some_iff.mp hanswered.found
        obtain ⟨hkind, rfl⟩ := h.holder_eq hevent (hholders ▸ List.mem_cons_self)
        rcases hother with hother | hother
        · exact absurd hkind hother
        · have hsame := Json.str.inj (hline.symm.trans hdigest)
          exact absurd hsame (hother compiled hanswered.identified.compiles)
      · rw [haccepted.unused] at hevent
        exact absurd hevent List.not_mem_nil

/-- One key, one effect. In every state a run reaches, no two command records have one key; the records
of the commands that enqueue name, in order, the operations that commands started, and no two of them
the same. A request under the key of an accepted request of another kind, or of other contents that the
digest tells apart, is refused and changes nothing. -/
theorem one_key_one_effect (hcreated : Created rows) (moves : List Move) :
    ((commandLog (rows.run planner moves).range.events).map keyOf).Nodup ∧
      (enqueuedLog (rows.run planner moves).range.events).map operationOf =
        (startedByCommands planner rows moves).map Json.str ∧
      (startedByCommands planner rows moves).Nodup ∧
      ∀ (before after : List Move) (principal₁ principal₂ : Principal) (request₁ request₂ : Request)
        (operationId₁ operationId₂ : Str) (now₁ now₂ : Datetime) (compiled₁ : CompiledRangePlan)
        (rows₁ : ControlPlane) (record₁ : CommandRecord),
        moves = before ++ .submit principal₁ request₁ operationId₁ now₁ :: after →
        request₁.command.Accepted planner (rows.run planner before) principal₁ operationId₁ now₁
          compiled₁ rows₁ record₁ →
        request₂.command.envelope.idempotencyKey = request₁.command.envelope.idempotencyKey →
        (request₂.command.kind ≠ request₁.command.kind ∨
          ∀ compiled₂, compilePlan planner (rows.run planner moves).range = .ok (.plan compiled₂) →
            request₂.contents compiled₂ ≠ request₁.contents compiled₁ ∧
              ((request₂.contents compiled₂).digest = (request₁.contents compiled₁).digest →
                request₂.contents compiled₂ = request₁.contents compiled₁)) →
        (∃ failure, request₂.submit planner (rows.run planner moves) principal₂ operationId₂ now₂ =
          .error failure) ∧
          (rows.run planner moves).step planner (.submit principal₂ request₂ operationId₂ now₂) =
            rows.run planner moves := by
  have hrun : OneEffect (rows.run planner moves) (startedByCommands planner rows moves) :=
    hcreated.oneEffect.run moves
  refine ⟨hrun.keys, hrun.named, hrun.nodup, ?_⟩
  intro before after principal₁ principal₂ request₁ request₂ operationId₁ operationId₂ now₁ now₂
    compiled₁ rows₁ record₁ hmoves haccepted hkey hother
  obtain ⟨event, rest, hholders, range, hrecords⟩ := haccepted.keyHolders
  obtain ⟨hmem, hkind, hheld⟩ := mem_keyHolders.mp (hholders ▸ List.mem_cons_self)
  have hevent : event ∈ (rows.run planner moves).range.events := by
    have hstep : (rows.run planner before).step planner
        (.submit principal₁ request₁ operationId₁ now₁) = rows₁ :=
      step_submit (Command.submit_eq_ok_iff.mpr ⟨compiled₁, .inr haccepted⟩)
    have hsplit : rows.run planner moves = rows₁.run planner after := by
      rw [hmoves]
      unfold ControlPlane.run
      rw [List.foldl_append, List.foldl_cons]
      exact congrArg (fun state => after.foldl (ControlPlane.step planner) state) hstep
    rw [hsplit]
    exact mem_events_run hmem after
  refine hrun.refuses (mem_keyHolders.mpr ⟨hevent, hkind, hheld⟩) hrecords.digest hkey ?_
    principal₂ operationId₂ now₂
  rcases hother with hother | hother
  · exact .inl hother
  · refine .inr fun compiled₂ hcompiled hdigest => ?_
    obtain ⟨hdiffer, hcollision⟩ := hother compiled₂ hcompiled
    exact hdiffer (hcollision hdigest)

end

/-- The key of the lab's topology does not generate a plan. -/
theorem topologyRequest_key_taken :
    ∃ failure, @Request.submit Unicode.ascii (.generatePlan ⟨str "k", 3, 1, str "t", str "f"⟩ [])
      samplePlanner (@ControlPlane.run Unicode.ascii samplePlanner { range := labRange }
        [observe, .submit labOperator topologyRequest (str "op1") sampleClock])
      labOperator (str "op2") sampleClock = .error failure := by
  let _ := Unicode.ascii
  obtain ⟨compiled, rows₁, record, haccepted⟩ := topologyRequest_accepted
  have heffect := @one_key_one_effect _ samplePlanner _ (labRange_created [])
    [observe, .submit labOperator topologyRequest (str "op1") sampleClock]
  exact (heffect.2.2.2 [observe] [] labOperator labOperator topologyRequest
    (.generatePlan ⟨str "k", 3, 1, str "t", str "f"⟩ []) (str "op1") (str "op2") sampleClock
    sampleClock compiled rows₁ record rfl haccepted rfl (.inl (by decide))).1

end Secp.Commands
