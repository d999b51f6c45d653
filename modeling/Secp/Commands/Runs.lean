import Secp.Commands.Acceptance
import Secp.Commands.Binding

/-!
# Runs of a Proxmox range

Everything that happens to a range: what a worker records, the six acts, the eight commands, the plain
routes, executions and abandonments with any outcome, the competition, and the enrollment of workers.
The kinds of events the endpoints write are written by nothing else; a run is split by what each move
appends to the timeline.
-/

namespace Secp.Commands

open Secp.Python Secp.Logic Secp.Range

/-! ## Who writes what -/

/-- The event that starts an operation. -/
def startedEvent (kind : RangeOperationKind) : Str := kind.value ++ str "_requested"

def operationKinds : List RangeOperationKind := [.deploy, .reset, .destroy]

/-- The events only an endpoint writes: the acts, the commands and the starts of operations. -/
def endpointKinds : List Str :=
  operationKinds.map approvedEvent ++ operationKinds.map authorizedEvent ++
    CommandKind.members.map CommandKind.event ++ operationKinds.map startedEvent

/-- The events the services and the worker of the range write. -/
def serviceKinds : List Str :=
  [str "range_created", str "operation_abandoned", str "competition_created",
    str "competition_started", str "competition_stopped", str "operation_unresolvable",
    str "range_ready", str "range_failed", str "operation_failed", str "range_destroyed",
    str "range_residue", str "range_teardown_unproven"]

theorem serviceKinds_quiet : ∀ kind ∈ serviceKinds, kind ∉ endpointKinds := by with_unfolding_all decide

theorem eventObservation_quiet : eventObservation ∉ endpointKinds := by with_unfolding_all decide

theorem endpointKinds_nodup : endpointKinds.Nodup := by with_unfolding_all decide

/-! ## Telling the endpoints' events apart -/

theorem mem_operationKinds (kind : RangeOperationKind) : kind ∈ operationKinds := by
  cases kind <;> decide

theorem approvedEvent_mem_endpointKinds (kind : RangeOperationKind) :
    approvedEvent kind ∈ endpointKinds := by
  unfold endpointKinds
  refine List.mem_append_left _ (List.mem_append_left _ (List.mem_append_left _ ?_))
  exact List.mem_map_of_mem (mem_operationKinds kind)

theorem authorizedEvent_mem_endpointKinds (kind : RangeOperationKind) :
    authorizedEvent kind ∈ endpointKinds := by
  unfold endpointKinds
  refine List.mem_append_left _ (List.mem_append_left _ (List.mem_append_right _ ?_))
  exact List.mem_map_of_mem (mem_operationKinds kind)

theorem event_mem_endpointKinds (kind : CommandKind) : kind.event ∈ endpointKinds := by
  unfold endpointKinds
  refine List.mem_append_left _ (List.mem_append_right _ ?_)
  exact List.mem_map_of_mem kind.mem_members

theorem startedEvent_mem_endpointKinds (kind : RangeOperationKind) :
    startedEvent kind ∈ endpointKinds := by
  unfold endpointKinds
  exact List.mem_append_right _ (List.mem_map_of_mem (mem_operationKinds kind))

/-- No other event of an endpoint is the start of an operation. -/
theorem ne_startedEvent {event : Str} (kind : RangeOperationKind)
    (h : event ∈ operationKinds.map approvedEvent ++ operationKinds.map authorizedEvent ++
      CommandKind.members.map CommandKind.event) : event ≠ startedEvent kind :=
  (List.nodup_append.mp endpointKinds_nodup).2.2 event h _
    (List.mem_map_of_mem (mem_operationKinds kind))

/-- No event of an act is a command's. -/
theorem ne_event {event : Str} (command : CommandKind)
    (h : event ∈ operationKinds.map approvedEvent ++ operationKinds.map authorizedEvent) :
    event ≠ command.event :=
  (List.nodup_append.mp (List.nodup_append.mp endpointKinds_nodup).1).2.2 event h _
    (List.mem_map_of_mem command.mem_members)

theorem authorizedEvent_injective {kind other : RangeOperationKind}
    (h : authorizedEvent kind = authorizedEvent other) : kind = other := by
  have hnodup := (List.nodup_append.mp (List.nodup_append.mp (List.nodup_append.mp
    endpointKinds_nodup).1).1).2.1
  exact List.inj_on_of_nodup_map hnodup (mem_operationKinds kind) (mem_operationKinds other) h

theorem startedEvent_injective {kind other : RangeOperationKind}
    (h : startedEvent kind = startedEvent other) : kind = other :=
  List.inj_on_of_nodup_map (List.nodup_append.mp endpointKinds_nodup).2.1 (mem_operationKinds kind)
    (mem_operationKinds other) h

theorem authorizedEvent_ne_approvedEvent (kind other : RangeOperationKind) :
    authorizedEvent kind ≠ approvedEvent other := by
  have hapart := (List.nodup_append.mp (List.nodup_append.mp (List.nodup_append.mp
    endpointKinds_nodup).1).1).2.2
  exact (hapart _ (List.mem_map_of_mem (mem_operationKinds other)) _
    (List.mem_map_of_mem (mem_operationKinds kind))).symm

theorem approvedEvent_ne_startedEvent (kind other : RangeOperationKind) :
    approvedEvent kind ≠ startedEvent other :=
  ne_startedEvent other (List.mem_append_left _ (List.mem_append_left _
    (List.mem_map_of_mem (mem_operationKinds kind))))

theorem authorizedEvent_ne_startedEvent (kind other : RangeOperationKind) :
    authorizedEvent kind ≠ startedEvent other :=
  ne_startedEvent other (List.mem_append_left _ (List.mem_append_right _
    (List.mem_map_of_mem (mem_operationKinds kind))))

theorem startedEvent_ne_event (kind : RangeOperationKind) (command : CommandKind) :
    startedEvent kind ≠ command.event :=
  (ne_startedEvent kind (List.mem_append_right _ (List.mem_map_of_mem command.mem_members))).symm

theorem approvedEvent_ne_event (kind : RangeOperationKind) (command : CommandKind) :
    approvedEvent kind ≠ command.event :=
  ne_event command (List.mem_append_left _ (List.mem_map_of_mem (mem_operationKinds kind)))

theorem authorizedEvent_ne_event (kind : RangeOperationKind) (command : CommandKind) :
    authorizedEvent kind ≠ command.event :=
  ne_event command (List.mem_append_right _ (List.mem_map_of_mem (mem_operationKinds kind)))

theorem startedEvent_ne_eventObservation (kind : RangeOperationKind) :
    startedEvent kind ≠ eventObservation := by
  intro h
  exact eventObservation_quiet (h ▸ startedEvent_mem_endpointKinds kind)

theorem CommandKind.event_ne_eventObservation (kind : CommandKind) :
    kind.event ≠ eventObservation := by
  intro h
  exact eventObservation_quiet (h ▸ event_mem_endpointKinds kind)

theorem event_act_ne_startedEvent [Unicode] (kind : ApprovalKind) (other : RangeOperationKind) :
    kind.act.event ≠ startedEvent other := by
  rw [kind.event_act]
  split
  · exact authorizedEvent_ne_startedEvent kind.family other
  · exact approvedEvent_ne_startedEvent kind.family other

theorem event_act_ne_event [Unicode] (kind : ApprovalKind) (command : CommandKind) :
    kind.act.event ≠ command.event := by
  rw [kind.event_act]
  split
  · exact authorizedEvent_ne_event kind.family command
  · exact approvedEvent_ne_event kind.family command

/-- A report of a provider that writes no event of an endpoint. -/
def quietReport : Report → Bool
  | .change _ _ _ => true
  | .event kind _ _ _ => kind ∉ endpointKinds

/-- A transaction that starts nothing and whose provider keeps to its own events. -/
def quietAction : Action → Bool
  | .start _ _ _ _ => false
  | .execute _ _ attempt => attempt.reports.all quietReport
  | _ => true

/-! ## Moves -/

section
variable [Unicode]

inductive Move where
  | record (kind message : Str) (level : RangeEventLevel) (data : Json) (operationId : Option Str)
      (hkind : kind ∉ endpointKinds)
  | act (kind : ApprovalKind) (principal : Principal) (declared : Str)
  | submit (principal : Principal) (request : Request) (operationId : Str) (now : Datetime)
  | start (principal : Principal) (kind : RangeOperationKind) (operationId : Str) (now : Datetime)
  | service (action : Action) (hquiet : quietAction action = true)
  | enroll (workers : List EnrolledWorker)

/-- A request that does not return is rolled back. -/
def ControlPlane.step (planner : Planner) (rows : ControlPlane) : Move → ControlPlane
  | .record kind message level data operationId _ =>
      { rows with range := rows.range.recordEvent kind message level data operationId }
  | .act kind principal declared =>
      match kind.act.perform planner rows.range principal declared with
      | .ok (range, _) => { rows with range := range }
      | .error _ => rows
  | .submit principal request operationId now =>
      match request.submit planner rows principal operationId now with
      | .ok (rows', _) => rows'
      | .error _ => rows
  | .start principal kind operationId now =>
      match startRoute planner rows principal kind operationId now with
      | .ok rows' => rows'
      | .error _ => rows
  | .service action _ => { rows with range := rows.range.act action }
  | .enroll workers => { rows with workers := workers }

section
variable {planner : Planner} {rows rows' : ControlPlane} {principal : Principal} {now : Datetime}
  {operationId : Str}

theorem step_act {kind : ApprovalKind} {declared : Str} {range : RangeInstance}
    {record : ApprovalRecord}
    (h : kind.act.perform planner rows.range principal declared = .ok (range, record)) :
    rows.step planner (.act kind principal declared) = { rows with range := range } := by
  unfold ControlPlane.step
  dsimp only
  rw [h]

theorem step_act_of_error {kind : ApprovalKind} {declared : Str} {failure : Failure}
    (h : kind.act.perform planner rows.range principal declared = .error failure) :
    rows.step planner (.act kind principal declared) = rows := by
  unfold ControlPlane.step
  dsimp only
  rw [h]

theorem step_submit {request : Request} {record : CommandRecord}
    (h : request.submit planner rows principal operationId now = .ok (rows', record)) :
    rows.step planner (.submit principal request operationId now) = rows' := by
  unfold ControlPlane.step
  dsimp only
  rw [h]

theorem step_submit_of_error {request : Request} {failure : Failure}
    (h : request.submit planner rows principal operationId now = .error failure) :
    rows.step planner (.submit principal request operationId now) = rows := by
  unfold ControlPlane.step
  dsimp only
  rw [h]

theorem step_start {kind : RangeOperationKind}
    (h : startRoute planner rows principal kind operationId now = .ok rows') :
    rows.step planner (.start principal kind operationId now) = rows' := by
  unfold ControlPlane.step
  dsimp only
  rw [h]

theorem step_start_of_error {kind : RangeOperationKind} {failure : Failure}
    (h : startRoute planner rows principal kind operationId now = .error failure) :
    rows.step planner (.start principal kind operationId now) = rows := by
  unfold ControlPlane.step
  dsimp only
  rw [h]

end

def ControlPlane.run (planner : Planner) (rows : ControlPlane) (moves : List Move) : ControlPlane :=
  moves.foldl (ControlPlane.step planner) rows

/-- A range as it is created, in an organization with some workers. -/
structure Created (rows : ControlPlane) : Prop where
  range : ∃ principal template name id, createRange principal template name id = .ok rows.range
  outbox : rows.outbox = []

end

/-! ## Quiet moves -/

/-- The range stays the same one, keeps its operations apart from what becomes of them, and gets events
of no endpoint. -/
structure Quiet (range range' : RangeInstance) : Prop where
  id : range'.id = range.id
  organizationId : range'.organizationId = range.organizationId
  name : range'.name = range.name
  provider : range'.provider = range.provider
  operations : range'.operations.map Operation.id = range.operations.map Operation.id
  events : ∃ added, range'.events = range.events ++ added ∧
    ∀ event ∈ added, event.kind ∉ endpointKinds

namespace Quiet

variable {range range' range'' : RangeInstance}

theorem refl (range : RangeInstance) : Quiet range range :=
  ⟨rfl, rfl, rfl, rfl, rfl, [], (List.append_nil _).symm, fun _ h => absurd h List.not_mem_nil⟩

theorem trans (h : Quiet range range') (h' : Quiet range' range'') : Quiet range range'' := by
  obtain ⟨added, hadded, hquiet⟩ := h.events
  obtain ⟨more, hmore, hquiet'⟩ := h'.events
  refine ⟨h'.id.trans h.id, h'.organizationId.trans h.organizationId, h'.name.trans h.name,
    h'.provider.trans h.provider, h'.operations.trans h.operations, added ++ more, ?_, ?_⟩
  · rw [hmore, hadded, List.append_assoc]
  · intro event hevent
    rcases List.mem_append.mp hevent with hevent | hevent
    · exact hquiet event hevent
    · exact hquiet' event hevent

/-- The newest of the endpoints' events stays the newest. -/
theorem latestEvent {kind : Str} (h : Quiet range range') (hkind : kind ∈ endpointKinds) :
    Commands.latestEvent range' kind = Commands.latestEvent range kind := by
  obtain ⟨added, hadded, hquiet⟩ := h.events
  refine latestEvent_append_of_forall_ne hadded fun event hevent heq => ?_
  exact hquiet event hevent (heq ▸ hkind)

/-- Rows that keep what tells them apart, and one more event of no endpoint. -/
theorem of_recordEvent {kind message : Str} {level : RangeEventLevel} {data : Json}
    {operationId : Option Str} (hkind : kind ∉ endpointKinds) (hid : range'.id = range.id)
    (horganization : range'.organizationId = range.organizationId) (hname : range'.name = range.name)
    (hprovider : range'.provider = range.provider)
    (hoperations : range'.operations.map Operation.id = range.operations.map Operation.id)
    (hevents : range'.events = range.events) :
    Quiet range (range'.recordEvent kind message level data operationId) := by
  refine ⟨hid, horganization, hname, hprovider, hoperations,
    [⟨range'.eventSequence + 1, kind, level, message, data, operationId⟩], ?_, ?_⟩
  · show range'.events ++ [_] = range.events ++ [_]
    rw [hevents]
  · intro event hevent
    rw [List.mem_singleton.mp hevent]
    exact hkind

/-- Rows that keep what tells them apart. -/
theorem of_eq (hid : range'.id = range.id)
    (horganization : range'.organizationId = range.organizationId) (hname : range'.name = range.name)
    (hprovider : range'.provider = range.provider)
    (hoperations : range'.operations.map Operation.id = range.operations.map Operation.id)
    (hevents : range'.events = range.events) : Quiet range range' :=
  ⟨hid, horganization, hname, hprovider, hoperations, [], by rw [hevents, List.append_nil],
    fun _ h => absurd h List.not_mem_nil⟩

end Quiet

section
variable {range range' : RangeInstance} {operationId : Str}

/-- Rewriting the operation with an id tells no operation from another. -/
theorem ids_updateOperation {f : Operation → Operation} (hf : ∀ op, (f op).id = op.id) :
    (range.updateOperation operationId f).operations.map Operation.id =
      range.operations.map Operation.id := by
  show (range.operations.map _).map Operation.id = _
  rw [List.map_map]
  refine List.map_congr_left fun op _ => ?_
  show (if op.id = operationId then f op else op).id = op.id
  split
  · exact hf op
  · rfl

theorem mem_serviceKinds {kind : Str} (h : (serviceKinds.contains kind) = true) :
    kind ∉ endpointKinds :=
  serviceKinds_quiet kind (List.contains_iff_mem.mp h)

theorem quiet_failOperation {failureCode message : Str} {now : Datetime} :
    Quiet range (range.failOperation operationId failureCode message now) :=
  .of_recordEvent (mem_serviceKinds (by with_unfolding_all decide)) rfl rfl rfl rfl
    (ids_updateOperation fun _ => rfl) rfl

theorem quiet_runBringUp {result : DeployResult} {reset : Bool} {now : Datetime} :
    Quiet range (range.runBringUp operationId result reset now) := by
  unfold RangeInstance.runBringUp
  cases result.ok <;> cases reset
  · exact .of_recordEvent (mem_serviceKinds (by with_unfolding_all decide)) rfl rfl rfl rfl
      (ids_updateOperation fun _ => rfl) rfl
  · exact .of_recordEvent (mem_serviceKinds (by with_unfolding_all decide)) rfl rfl rfl rfl
      (ids_updateOperation fun _ => rfl) rfl
  · exact .of_recordEvent (mem_serviceKinds (by with_unfolding_all decide)) rfl rfl rfl rfl
      (ids_updateOperation fun _ => rfl) rfl
  · exact .of_recordEvent (mem_serviceKinds (by with_unfolding_all decide)) rfl rfl rfl rfl
      (ids_updateOperation fun _ => rfl) rfl

theorem quiet_runDestroy {result : TeardownResult} {now : Datetime} :
    Quiet range (range.runDestroy operationId result now) := by
  unfold RangeInstance.runDestroy
  dsimp only
  cases (sweepRows range.resources result now).verdict result.probeReachable with
  | clean =>
      exact .of_recordEvent (mem_serviceKinds (by with_unfolding_all decide)) rfl rfl rfl rfl
        (ids_updateOperation fun _ => rfl) rfl
  | residue =>
      exact .of_recordEvent (mem_serviceKinds (by with_unfolding_all decide)) rfl rfl rfl rfl
        (ids_updateOperation fun _ => rfl) rfl
  | unproven =>
      exact .of_recordEvent (mem_serviceKinds (by with_unfolding_all decide)) rfl rfl rfl rfl
        (ids_updateOperation fun _ => rfl) rfl

/-- A commit that writes no event of an endpoint. -/
def quietCommit : Commit → Bool
  | .event kind _ _ _ => kind ∉ endpointKinds
  | _ => true

theorem quiet_commit {c : Commit} (h : quietCommit c = true) :
    Quiet range (c.apply operationId range) := by
  cases c with
  | leaseExpired op now => exact quiet_failOperation
  | planned steps => exact .of_eq rfl rfl rfl rfl (ids_updateOperation fun _ => rfl) rfl
  | started => exact .of_eq rfl rfl rfl rfl (ids_updateOperation fun _ => rfl) rfl
  | progress current phase now =>
      exact .of_eq rfl rfl rfl rfl (ids_updateOperation fun _ => rfl) rfl
  | event kind message level data =>
      exact .of_recordEvent (by simpa [quietCommit] using h) rfl rfl rfl rfl rfl rfl
  | broughtUp result reset now => exact quiet_runBringUp
  | tornDown result now => exact quiet_runDestroy
  | failedUnexpectedly kind exception now =>
      exact .of_recordEvent (mem_serviceKinds (by with_unfolding_all decide)) rfl rfl rfl rfl
        (ids_updateOperation fun _ => rfl) rfl

theorem quiet_applyCommits {commits : List Commit} (h : ∀ c ∈ commits, quietCommit c = true) :
    Quiet range (applyCommits operationId range commits) := by
  induction commits generalizing range with
  | nil => exact .refl range
  | cons c rest ih =>
      exact (quiet_commit (h c List.mem_cons_self)).trans
        (ih fun d hd => h d (List.mem_cons_of_mem _ hd))

/-- The last commit of an execution is the worker's own. -/
theorem quiet_ending {attempt : Attempt} {kind : RangeOperationKind} :
    ∀ c ∈ attempt.ending kind, quietCommit c = true := by
  intro c hc
  rcases ending_cases attempt kind with hnone | ⟨last, hlast, hfinal⟩
  · rw [hnone] at hc
    cases hc
  · rw [hlast, List.mem_singleton] at hc
    rw [hc]
    cases last <;> first | rfl | cases hfinal

/-- An execution whose provider keeps to its own events. -/
theorem quiet_commits {attempt : Attempt} {op : Operation}
    (h : attempt.reports.all quietReport = true) :
    ∀ c ∈ attempt.commits op, quietCommit c = true := by
  intro c hc
  unfold Attempt.commits at hc
  split at hc
  · rw [List.mem_singleton.mp hc]
    rfl
  · cases hprepared : attempt.prepared with
    | error exception =>
        rw [hprepared] at hc
        cases hc
    | ok steps =>
        rw [hprepared] at hc
        simp only [List.mem_append, List.mem_singleton, List.mem_map] at hc
        rcases hc with ((hc | rfl) | ⟨report, hreport, rfl⟩) | hc
        · split at hc
          · rw [List.mem_singleton.mp hc]
            rfl
          · cases hc
        · rfl
        · have hquiet := List.all_eq_true.mp h report hreport
          cases report with
          | change current phase now => rfl
          | event kind message level data => exact hquiet
        · exact quiet_ending c hc

/-- A service that raises changes nothing. -/
theorem quiet_commitOr {result : Except DomainError RangeInstance}
    (h : ∀ range', result = .ok range' → Quiet range range') : Quiet range (range.commitOr result) :=
  commitOr_cases (.refl range) h

end

section
variable [Unicode] {range range' : RangeInstance}

/-- Whatever a quiet transaction does, it leaves the endpoints' events and the operations alone. -/
theorem quiet_act {action : Action} (h : quietAction action = true) :
    Quiet range (range.act action) := by
  cases action with
  | start principal kind operationId now => cases h
  | execute operationId expected attempt =>
      show Quiet range (executeRangeOperation range operationId expected attempt).1
      unfold executeRangeOperation
      cases resolveOperation range operationId expected with
      | error e => exact .refl range
      | ok op => exact quiet_applyCommits (quiet_commits h)
  | abandon principal operationId force now =>
      refine quiet_commitOr fun _ hok => ?_
      obtain ⟨op, -, -, rfl⟩ := abandonOperation_spec hok
      exact .of_recordEvent (mem_serviceKinds (by with_unfolding_all decide)) rfl rfl rfl rfl
        (ids_updateOperation fun _ => rfl) rfl
  | createCompetition principal id name challenges =>
      refine quiet_commitOr fun _ hok => ?_
      unfold createCompetition at hok
      simp only [except_unit_bind_eq_ok] at hok
      obtain ⟨-, -, hok⟩ := hok
      cases hok
      exact .of_recordEvent (mem_serviceKinds (by with_unfolding_all decide)) rfl rfl rfl rfl rfl rfl
  | createTeam principal id name =>
      refine quiet_commitOr fun _ hok => ?_
      unfold createTeam at hok
      obtain ⟨competition, -, hok⟩ := except_bind_eq_ok.mp hok
      simp only [except_unit_bind_eq_ok] at hok
      obtain ⟨-, -, hok⟩ := hok
      cases hok
      exact .of_eq rfl rfl rfl rfl rfl rfl
  | deleteTeam principal teamId =>
      refine quiet_commitOr fun _ hok => ?_
      unfold deleteTeam at hok
      obtain ⟨competition, -, hok⟩ := except_bind_eq_ok.mp hok
      simp only [except_unit_bind_eq_ok] at hok
      obtain ⟨-, -, hok⟩ := hok
      cases hok
      exact .of_eq rfl rfl rfl rfl rfl rfl
  | startCompetition principal now =>
      refine quiet_commitOr fun _ hok => ?_
      unfold startCompetition at hok
      obtain ⟨competition, -, hok⟩ := except_bind_eq_ok.mp hok
      split at hok
      · cases hok
        exact .refl range
      · simp only [except_unit_bind_eq_ok] at hok
        obtain ⟨-, -, hok⟩ := hok
        cases hok
        exact .of_recordEvent (mem_serviceKinds (by with_unfolding_all decide)) rfl rfl rfl rfl rfl rfl
  | stopCompetition principal now =>
      refine quiet_commitOr fun _ hok => ?_
      unfold stopCompetition at hok
      obtain ⟨competition, -, hok⟩ := except_bind_eq_ok.mp hok
      split at hok
      · cases hok
        exact .refl range
      · split at hok
        · cases hok
          exact .of_recordEvent (mem_serviceKinds (by with_unfolding_all decide)) rfl rfl rfl rfl rfl rfl
        · cases hok
          exact .of_eq rfl rfl rfl rfl rfl rfl

/-! ## What a move does -/

/-- The event an endpoint appends. -/
structure Appends (range range' : RangeInstance) (event : LifecycleEvent) : Prop where
  id : range'.id = range.id
  organizationId : range'.organizationId = range.organizationId
  name : range'.name = range.name
  provider : range'.provider = range.provider
  events : range'.events = range.events ++ [event]

omit [Unicode] in
/-- An event of another kind is not the newest of this one. -/
theorem Appends.latestEvent_of_ne {event : LifecycleEvent} {kind : Str}
    (h : Appends range range' event) (hkind : event.kind ≠ kind) :
    latestEvent range' kind = latestEvent range kind := by
  refine latestEvent_append_of_forall_ne h.events fun added hadded => ?_
  rw [List.mem_singleton.mp hadded]
  exact hkind

omit [Unicode] in
/-- Only an observation changes what a range compiles to. -/
theorem Appends.samePlan {event : LifecycleEvent} (h : Appends range range' event)
    (hkind : event.kind ≠ eventObservation) : SamePlan range range' :=
  ⟨h.id, h.organizationId, h.name, h.provider, h.latestEvent_of_ne hkind⟩

/-- A start appends its event and an operation of an id that was free. -/
structure Starts (range range' : RangeInstance) (kind : RangeOperationKind) (operationId : Str)
    (event : LifecycleEvent) : Prop extends Appends range range' event where
  kind_event : event.kind = startedEvent kind
  fresh : operationId ∉ range.operations.map Operation.id
  operations : range'.operations.map Operation.id =
    range.operations.map Operation.id ++ [operationId]

omit [Unicode] in
theorem starts_of_startOperation {principal : Principal} {kind : RangeOperationKind}
    {operationId : Str} {now : Datetime}
    (h : startOperation range principal kind operationId now = .ok range') :
    ∃ event, Starts range range' kind operationId event := by
  obtain ⟨-, -, -, hfresh, rfl⟩ := startOperation_spec h
  refine ⟨_, ⟨rfl, rfl, rfl, rfl, rfl⟩, rfl, ?_, ?_⟩
  · intro hmem
    obtain ⟨op, hop, hid⟩ := List.mem_map.mp hmem
    have hne := List.find?_eq_none.mp hfresh op hop
    simp [hid] at hne
  · show (range.operations ++ [newOperation range principal kind operationId now]).map _ = _
    rw [List.map_append]
    rfl

/-- A command appends its record, under its key and with what it enqueued. -/
structure Records (command : Command) (checked : Preflight) (range range' : RangeInstance)
    (operationId : Option Str) (event : LifecycleEvent) : Prop extends
    Appends range range' event where
  kind_event : event.kind = command.kind.event
  key : event.data.field (str "idempotency_key") = .str command.envelope.idempotencyKey
  digest : event.data.field (str "request_digest") = .str checked.requestDigest
  operation_id : event.data.field (str "operation_id") = optionalText operationId
  operations : range'.operations = range.operations

theorem Command.accept_records (command : Command) (range : RangeInstance) (principal : Principal)
    (checked : Preflight) (operationId : Option Str) (now : Datetime) :
    ∃ event, Records command checked range
      (command.accept range principal checked operationId now).1 operationId event := by
  refine ⟨_, ⟨rfl, rfl, rfl, rfl, rfl⟩, rfl, ?_, ?_, ?_, rfl⟩
  · simp [Command.data, Json.field, Json.get?, Dict.get?]
  · simp [Command.data, Json.field, Json.get?, Dict.get?]
  · simp [Command.data, Json.field, Json.get?, Dict.get?]

/-- An accepted command starts its operation, if it has one, and appends its record. -/
theorem Command.Accepted.records {command : Command} {planner : Planner} {rows rows' : ControlPlane}
    {principal : Principal} {operationId : Str} {now : Datetime} {compiled : CompiledRangePlan}
    {record : CommandRecord}
    (h : command.Accepted planner rows principal operationId now compiled rows' record) :
    let checked := checkedOf command.kind command.envelope command.worker compiled
    (command.kind.operationKind = none ∧
      ∃ event, Records command checked rows.range rows'.range none event) ∨
    ∃ operation, command.kind.operationKind = some operation ∧ ∃ started,
      startOperation rows.range principal operation operationId now = .ok started ∧
      ∃ event, Records command checked started rows'.range (some operationId) event := by
  rcases h.effect with ⟨hkind, rfl, -⟩ | ⟨operation, hkind, started, hstarted, rfl, -⟩
  · exact .inl ⟨hkind, command.accept_records ..⟩
  · exact .inr ⟨operation, hkind, started, hstarted, command.accept_records ..⟩

/-- What a move does to the range: nothing an endpoint would, an act, a command, or a start by a plain
route. -/
inductive Effect (planner : Planner) (rows : ControlPlane) : Move → ControlPlane → Prop
  | quiet {move rows'} (hquiet : Quiet rows.range rows'.range) : Effect planner rows move rows'
  | acted {kind principal declared range' record}
      (hact : kind.act.perform planner rows.range principal declared = .ok (range', record)) :
      Effect planner rows (.act kind principal declared) { rows with range := range' }
  | submitted {principal request operationId now compiled rows' record}
      (haccepted : request.command.Accepted planner rows principal operationId now compiled rows'
        record) :
      Effect planner rows (.submit principal request operationId now) rows'
  | started {principal kind operationId now range'}
      (hauthorized : requireOperationAuthorized planner rows.range kind = .ok ())
      (hstart : startOperation rows.range principal kind operationId now = .ok range') :
      Effect planner rows (.start principal kind operationId now)
        { rows with range := range', outbox := rows.outbox ++ [operationId] }

/-- Every move has one of the effects. -/
theorem effect_step (planner : Planner) (rows : ControlPlane) (move : Move) :
    Effect planner rows move (rows.step planner move) := by
  cases move with
  | record kind message level data operationId hkind =>
      exact .quiet (.of_recordEvent hkind rfl rfl rfl rfl rfl rfl)
  | act kind principal declared =>
      cases hact : kind.act.perform planner rows.range principal declared with
      | error failure =>
          rw [step_act_of_error hact]
          exact .quiet (.refl _)
      | ok result =>
          rw [step_act hact]
          exact .acted hact
  | submit principal request operationId now =>
      cases hsubmit : request.submit planner rows principal operationId now with
      | error failure =>
          rw [step_submit_of_error hsubmit]
          exact .quiet (.refl _)
      | ok result =>
          obtain ⟨rows', record⟩ := result
          rw [step_submit hsubmit]
          obtain ⟨compiled, ⟨rfl, -⟩ | haccepted⟩ := Command.submit_eq_ok_iff.mp hsubmit
          · exact .quiet (.refl _)
          · exact .submitted haccepted
  | start principal kind operationId now =>
      cases hstart : startRoute planner rows principal kind operationId now with
      | error failure =>
          rw [step_start_of_error hstart]
          exact .quiet (.refl _)
      | ok rows' =>
          rw [step_start hstart]
          unfold startRoute at hstart
          simp only [except_unit_bind_eq_ok] at hstart
          obtain ⟨-, hauthorized, hstart⟩ := hstart
          obtain ⟨range', hrange, hstart⟩ := except_bind_eq_ok.mp hstart
          cases hstart
          exact .started hauthorized (refusing_eq_ok_iff.mp hrange)
  | service action hquiet => exact .quiet (quiet_act hquiet)
  | enroll workers => exact .quiet (.refl _)

end

/-! ## A small run -/

def labOperator : Principal where
  userId := str "u"
  organizationId := str "o"
  permissions := [.exerciseOperate, .planGenerate, .planApprove, .exerciseApply, .exerciseReset,
    .exerciseDestroy]

def labTemplate : RangeTemplate := ⟨str "lab", str "Lab", str "proxmox"⟩

/-- The range of the lab, newly created. -/
def labRange : RangeInstance :=
  RangeInstance.recordEvent
    { id := str "r", organizationId := str "o"
      name := @displayName Unicode.ascii none (str "Lab")
      provider := proxmoxProvider }
    (str "range_created")
    (str "Range '" ++ @displayName Unicode.ascii none (str "Lab") ++ str "' created from template '" ++
      str "lab" ++ str "'")

theorem labRange_created (workers : List EnrolledWorker) :
    @Created Unicode.ascii { range := labRange, workers := workers } := by
  let _ := Unicode.ascii
  exact ⟨⟨labOperator, labTemplate, none, str "r", rfl⟩, rfl⟩

/-- What a worker records of the lab. -/
def observe : Move :=
  .record eventObservation (str "observed") .info samplePayload none eventObservation_quiet

/-- The range once the lab was observed. -/
def observedRange : RangeInstance :=
  labRange.recordEvent eventObservation (str "observed") .info samplePayload

/-- The lab's range compiles as long as nothing else is observed. -/
theorem observedRange_compiles : ∃ plan, ∀ range, SamePlan observedRange range →
    @compilePlan Unicode.ascii samplePlanner range =
      .ok (.plan (@CompiledRangePlan.mk Unicode.ascii sampleRecorded plan)) := by
  let _ := Unicode.ascii
  obtain ⟨plan, hplan, -⟩ := Proxmox.exists_of_plannedWith rfl Proxmox.sampleRange_planned
  refine ⟨plan, fun range hsame => ?_⟩
  rw [compilePlan_congr hsame]
  have hlatest : ∃ event, latestEvent observedRange eventObservation = some event ∧
      event.data = samplePayload := by
    refine ⟨⟨2, eventObservation, .info, str "observed", samplePayload, none⟩, ?_, rfl⟩
    exact latestEvent_eq_some_iff.mpr ⟨labRange.events, [], rfl, rfl, by simp⟩
  obtain ⟨event, hlatest, hdata⟩ := hlatest
  have hbinding : loadBinding samplePlanner observedRange = .ok (some sampleRecorded) := by
    unfold loadBinding
    rw [hlatest]
    show (readBinding event.data >>= fun recorded => pure (some recorded)) = _
    rw [hdata, samplePayload_reads]
    rfl
  exact compilePlan_eq_plan_iff.mpr ⟨rfl, Proxmox.sampleTemplate, rfl, hbinding, hplan⟩

theorem labOperator_permitted (permission : Permission) :
    labOperator.require permission = .ok () := by
  refine raiseIf_eq_ok_iff.mpr (decide_eq_false (not_not.mpr ?_))
  cases permission <;> decide

theorem labOperator_readable {range : RangeInstance} (h : range.organizationId = str "o") :
    getRange range labOperator = .ok () := by
  unfold getRange
  refine except_unit_bind_eq_ok.mpr ⟨labOperator_permitted _, ?_⟩
  exact raiseIf_eq_ok_iff.mpr (decide_eq_false (not_not.mpr h.symm))

/-- A worker's record, the approval of the lab's destroy plan and the authorization of its destroy. -/
def authorizeLab (hash : Str) : List Move :=
  [observe, .act .destroyPlanApproval labOperator hash, .act .destroyAuthorization labOperator hash]

def approvedRange (hash : Str) : RangeInstance :=
  @Act.recorded Unicode.ascii (@approveDestroyPlan Unicode.ascii) observedRange labOperator hash

/-- The lab's range with its destroy authorized. -/
def authorizedRange (hash : Str) : RangeInstance :=
  @Act.recorded Unicode.ascii (@authorizeDestroy Unicode.ascii) (approvedRange hash) labOperator hash

/-- The hash a range's plan has for an operation, if it compiles. -/
def currentHash [Unicode] (planner : Planner) (range : RangeInstance) (kind : RangeOperationKind) :
    Str :=
  match compilePlan planner range with
  | .ok (.plan compiled) => familyHash kind compiled.plan
  | _ => []

theorem currentHash_eq [Unicode] {planner : Planner} {range : RangeInstance}
    {compiled : CompiledRangePlan} (h : compilePlan planner range = .ok (.plan compiled))
    (kind : RangeOperationKind) : currentHash planner range kind = familyHash kind compiled.plan := by
  unfold currentHash
  rw [h]

/-- The hash of the lab's destroy plan, which nothing has to compute. -/
@[irreducible] def labHash : Str := @currentHash Unicode.ascii samplePlanner observedRange .destroy

section
variable {hash : Str}

theorem samePlan_approvedRange : SamePlan observedRange (approvedRange hash) :=
  ⟨rfl, rfl, rfl, rfl, latestEvent_recordEvent_of_ne (by with_unfolding_all decide)⟩

theorem samePlan_authorizedRange : SamePlan observedRange (authorizedRange hash) :=
  ⟨rfl, rfl, rfl, rfl, (latestEvent_recordEvent_of_ne (by with_unfolding_all decide)).trans
    samePlan_approvedRange.observation⟩

/-- The kinds of events the authorized lab has seen. -/
theorem kinds_authorizedRange : (authorizedRange hash).events.map LifecycleEvent.kind =
    [str "range_created", eventObservation, eventDestroyPlanApproved, eventDestroyAuthorized] := rfl

theorem names_destroyPlanApproval (hne : hash ≠ []) :
    ApprovalRecord.names (destroyPlanApproval (approvedRange hash)) hash = true := by
  refine names_readApproval_iff.mpr ⟨hne, _, latestEvent_eq_some_iff.mpr
    ⟨observedRange.events, [], rfl, rfl, fun _ h => absurd h List.not_mem_nil⟩, ?_⟩
  simp [approveDestroyPlan, Json.field, Json.get?, Dict.get?]

theorem names_destroyAuthorization (hne : hash ≠ []) :
    ApprovalRecord.names (destroyAuthorization (authorizedRange hash)) hash = true := by
  refine names_readApproval_iff.mpr ⟨hne, _, latestEvent_eq_some_iff.mpr
    ⟨(approvedRange hash).events, [], rfl, rfl, fun _ h => absurd h List.not_mem_nil⟩, ?_⟩
  simp [authorizeDestroy, Json.field, Json.get?, Dict.get?]

/-- With the hash the lab compiles to, its destroy is approved and authorized. -/
theorem run_authorizeLab {plan : @Proxmox.CompiledRangePlan Unicode.ascii}
    (hplan : ∀ range, SamePlan observedRange range → @compilePlan Unicode.ascii samplePlanner range =
      .ok (.plan (@CompiledRangePlan.mk Unicode.ascii sampleRecorded plan)))
    (hhash : @familyHash Unicode.ascii .destroy plan = hash) (hne : hash ≠ [])
    (workers : List EnrolledWorker) :
    @ControlPlane.run Unicode.ascii samplePlanner { range := labRange, workers := workers }
      (authorizeLab hash) = { range := authorizedRange hash, workers := workers } := by
  let _ := Unicode.ascii
  obtain ⟨approval, happroves⟩ : ∃ record, (ApprovalKind.destroyPlanApproval.act).perform
      samplePlanner observedRange labOperator hash = .ok (approvedRange hash, record) :=
    ⟨_, Act.perform_eq_ok_iff.mpr ⟨labOperator_readable rfl, rfl, labOperator_permitted _,
      ⟨_, hplan _ ⟨rfl, rfl, rfl, rfl, rfl⟩, hhash.symm⟩, rfl, rfl, rfl⟩⟩
  obtain ⟨authorization, hauthorizes⟩ : ∃ record, (ApprovalKind.destroyAuthorization.act).perform
      samplePlanner (approvedRange hash) labOperator hash = .ok (authorizedRange hash, record) :=
    ⟨_, Act.perform_eq_ok_iff.mpr ⟨labOperator_readable rfl, rfl, labOperator_permitted _,
      ⟨_, hplan _ samePlan_approvedRange, hhash.symm⟩,
      raiseIf_not_eq_ok_iff.mpr (names_destroyPlanApproval hne), rfl, rfl⟩⟩
  have hobserved : ControlPlane.step samplePlanner { range := labRange, workers := workers } observe =
    { range := observedRange, workers := workers } := rfl
  have happroved : ControlPlane.step samplePlanner { range := observedRange, workers := workers }
      (.act .destroyPlanApproval labOperator hash) =
        { range := approvedRange hash, workers := workers } := step_act happroves
  have hauthorized : ControlPlane.step samplePlanner { range := approvedRange hash, workers := workers }
      (.act .destroyAuthorization labOperator hash) =
        { range := authorizedRange hash, workers := workers } := step_act hauthorizes
  unfold ControlPlane.run authorizeLab
  rw [List.foldl_cons, hobserved, List.foldl_cons, happroved, List.foldl_cons, hauthorized,
    List.foldl_nil]

/-- The lab compiles to one plan, whose destroy hash is `labHash`. -/
theorem labHash_spec : ∃ plan : @Proxmox.CompiledRangePlan Unicode.ascii,
    @familyHash Unicode.ascii .destroy plan = labHash ∧ labHash ≠ [] ∧
      ∀ range, SamePlan observedRange range → @compilePlan Unicode.ascii samplePlanner range =
        .ok (.plan (@CompiledRangePlan.mk Unicode.ascii sampleRecorded plan)) := by
  let _ := Unicode.ascii
  obtain ⟨plan, hplan⟩ := observedRange_compiles
  have hcompiles := hplan observedRange ⟨rfl, rfl, rfl, rfl, rfl⟩
  have hhash : familyHash .destroy plan = labHash := by
    unfold labHash
    exact (currentHash_eq hcompiles .destroy).symm
  refine ⟨plan, hhash, ?_, hplan⟩
  rw [← hhash]
  exact familyHash_ne hcompiles .destroy

/-- The destroy of the lab is approved and authorized. -/
theorem authorized_run (workers : List EnrolledWorker) :
    @ControlPlane.run Unicode.ascii samplePlanner { range := labRange, workers := workers }
      (authorizeLab labHash) = { range := authorizedRange labHash, workers := workers } := by
  obtain ⟨plan, hhash, hne, hplan⟩ := labHash_spec
  exact run_authorizeLab hplan hhash hne workers

end

end Secp.Commands
