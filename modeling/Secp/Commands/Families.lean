import Secp.Commands.Runs
import Secp.Logic.Log

/-!
# The families of authorization

The apply, reset and destroy families share one timeline. An operation is admitted by the newest
authorization of its own family, which names the hash the range compiles to and stands behind an
approval of the same hash; what the other two families wrote makes no difference to the decision.
-/

namespace Secp.Commands

open Secp.Python Secp.Logic Secp.Range

/-! ## Authorizations stand behind approvals -/

/-- An authorization stands behind an approval of its family that names the same hash. -/
def ApprovedBefore (before : List LifecycleEvent) (event : LifecycleEvent) : Prop :=
  ∀ kind, event.kind = authorizedEvent kind →
    ∃ hash, event.data.field (hashField kind) = .str hash ∧
      ∃ approval ∈ before, approval.kind = approvedEvent kind ∧
        approval.data.field (hashField kind) = .str hash

theorem approvedBefore_of_ne {before : List LifecycleEvent} {event : LifecycleEvent}
    (h : ∀ kind, event.kind ≠ authorizedEvent kind) : ApprovedBefore before event := by
  intro kind hkind
  exact absurd hkind (h kind)

section
variable [Unicode] {planner : Planner} {rows rows' : ControlPlane} {move : Move}

omit [Unicode] in
theorem throughout_approvedBefore_of_quiet {range range' : RangeInstance} (h : Quiet range range')
    (hlog : Throughout ApprovedBefore range.events) : Throughout ApprovedBefore range'.events := by
  obtain ⟨added, hevents, hquiet⟩ := h.events
  rw [hevents]
  refine hlog.append fun event hevent before => approvedBefore_of_ne fun kind hkind => ?_
  exact hquiet event hevent (hkind ▸ authorizedEvent_mem_endpointKinds kind)

/-- The payload of an act carries the hash it names. -/
theorem field_act_data (act : ApprovalKind) (hash userId : Str) :
    (Json.obj [(act.act.field, .str hash), (str "approved_by", .str userId)]).field
      (hashField act.family) = .str hash := by
  rw [act.field_act]
  simp [Json.field, Json.get?, Dict.get?]

/-- An act keeps the rule: an authorization asked for the approval. -/
theorem throughout_approvedBefore_of_act {kind : ApprovalKind} {principal : Principal}
    {declared : Str} {range range' : RangeInstance} {record : ApprovalRecord}
    (hact : kind.act.perform planner range principal declared = .ok (range', record))
    (hlog : Throughout ApprovedBefore range.events) : Throughout ApprovedBefore range'.events := by
  obtain ⟨-, hrequires, rfl⟩ := Act.perform_spec hact
  refine throughout_snoc.mpr ⟨hlog, fun family hfamily => ?_⟩
  have hevent : kind.act.event = authorizedEvent family := hfamily
  rw [kind.event_act] at hevent
  cases hauthorizes : kind.authorizes with
  | false =>
      rw [hauthorizes] at hevent
      exact absurd hevent.symm (authorizedEvent_ne_approvedEvent _ _)
  | true =>
      rw [hauthorizes, if_pos rfl] at hevent
      obtain rfl := authorizedEvent_injective hevent
      obtain ⟨missing, hprerequisite⟩ := ApprovalKind.requires_act hauthorizes
      obtain ⟨-, approval, hlatest, hfield⟩ :=
        names_familyApproval_iff.mp (hrequires _ hprerequisite)
      obtain ⟨before, after, hsplit, hkind, -⟩ := latestEvent_eq_some_iff.mp hlatest
      exact ⟨declared, field_act_data kind declared principal.userId, approval,
        by simp [hsplit], hkind, hfield⟩

omit [Unicode] in
/-- A start keeps the rule. -/
theorem throughout_approvedBefore_of_start {kind : RangeOperationKind} {principal : Principal}
    {operationId : Str} {now : Datetime} {range range' : RangeInstance}
    (hstart : startOperation range principal kind operationId now = .ok range')
    (hlog : Throughout ApprovedBefore range.events) : Throughout ApprovedBefore range'.events := by
  obtain ⟨event, hstarts⟩ := starts_of_startOperation hstart
  rw [hstarts.events]
  refine throughout_snoc.mpr ⟨hlog, approvedBefore_of_ne fun family hfamily => ?_⟩
  rw [hstarts.kind_event] at hfamily
  exact authorizedEvent_ne_startedEvent family kind hfamily.symm

/-- Every move keeps the rule. -/
theorem throughout_approvedBefore_step (hlog : Throughout ApprovedBefore rows.range.events)
    (move : Move) : Throughout ApprovedBefore (rows.step planner move).range.events := by
  have heffect := effect_step planner rows move
  generalize rows.step planner move = rows' at heffect ⊢
  cases heffect with
  | quiet hquiet => exact throughout_approvedBefore_of_quiet hquiet hlog
  | acted hact => exact throughout_approvedBefore_of_act hact hlog
  | started hauthorized hstart => exact throughout_approvedBefore_of_start hstart hlog
  | submitted haccepted =>
      rcases haccepted.records with ⟨-, event, hrecords⟩ | ⟨_, -, started, hstarted, event, hrecords⟩
      · rw [hrecords.events]
        refine throughout_snoc.mpr ⟨hlog, approvedBefore_of_ne fun family hfamily => ?_⟩
        exact authorizedEvent_ne_event family _ (hfamily.symm.trans hrecords.kind_event)
      · rw [hrecords.events]
        refine throughout_snoc.mpr ⟨throughout_approvedBefore_of_start hstarted hlog,
          approvedBefore_of_ne fun family hfamily => ?_⟩
        exact authorizedEvent_ne_event family _ (hfamily.symm.trans hrecords.kind_event)

theorem throughout_approvedBefore_run (hlog : Throughout ApprovedBefore rows.range.events)
    (moves : List Move) : Throughout ApprovedBefore (rows.run planner moves).range.events := by
  induction moves generalizing rows with
  | nil => exact hlog
  | cons move rest ih => exact ih (throughout_approvedBefore_step hlog move)

/-- A new range has one event, of no endpoint. -/
theorem Created.events (h : Created rows) : ∃ event, rows.range.events = [event] ∧
    event.kind ∉ endpointKinds ∧ rows.range.operations = [] := by
  obtain ⟨principal, template, name, id, hcreate⟩ := h.range
  unfold createRange at hcreate
  obtain ⟨-, hcreate⟩ := except_unit_bind_eq_ok.mp hcreate
  have hrange := Except.ok.inj hcreate
  have hkind : str "range_created" ∉ endpointKinds := mem_serviceKinds (by with_unfolding_all decide)
  rw [← hrange]
  exact ⟨_, rfl, hkind, rfl⟩

theorem Created.throughout_approvedBefore (h : Created rows) :
    Throughout ApprovedBefore rows.range.events := by
  obtain ⟨event, hevents, hkind, -⟩ := h.events
  rw [hevents, ← List.nil_append [event]]
  refine throughout_snoc.mpr ⟨throughout_nil, approvedBefore_of_ne fun kind hevent => ?_⟩
  exact hkind (hevent ▸ authorizedEvent_mem_endpointKinds kind)

/-- The newest authorization of a family names a hash and stands behind an approval of the family that
does. -/
def StandsAuthorized (events : List LifecycleEvent) (kind : RangeOperationKind) (hash : Str) : Prop :=
  ∃ before authorization after, events = before ++ authorization :: after ∧
    authorization.kind = authorizedEvent kind ∧
    (∀ later ∈ after, later.kind ≠ authorizedEvent kind) ∧
    authorization.data.field (hashField kind) = .str hash ∧
    ∃ approval ∈ before, approval.kind = approvedEvent kind ∧
      approval.data.field (hashField kind) = .str hash

omit [Unicode] in
/-- Under the rule an authorization that names a hash was approved by it. -/
theorem standsAuthorized_of_names {range : RangeInstance} {kind : RangeOperationKind} {hash : Str}
    (hlog : Throughout ApprovedBefore range.events)
    (hnames : ApprovalRecord.names (familyAuthorization kind range) hash = true) :
    StandsAuthorized range.events kind hash := by
  obtain ⟨-, authorization, hlatest, hfield⟩ := names_familyAuthorization_iff.mp hnames
  obtain ⟨before, after, hsplit, hkind, hlast⟩ := latestEvent_eq_some_iff.mp hlatest
  obtain ⟨hash', hfield', approval, hmem, hevent, happroved⟩ :=
    hlog before authorization after hsplit kind hkind
  rw [hfield] at hfield'
  obtain rfl := Json.str.inj hfield'
  exact ⟨before, authorization, after, hsplit, hkind, hlast, hfield, approval, hmem, hevent,
    happroved⟩

end

/-! ## The timeline of one family -/

/-- The events the other two families write. -/
def otherFamilies (kind : RangeOperationKind) : List Str :=
  (operationKinds.filter fun other => other ≠ kind).flatMap fun other =>
    [approvedEvent other, authorizedEvent other]

/-- The range without the events of the other two families. -/
def withoutOtherFamilies (kind : RangeOperationKind) (range : RangeInstance) : RangeInstance :=
  { range with events := range.events.filter fun event => event.kind ∉ otherFamilies kind }

/-- The rows without the events of the other two families. -/
def ControlPlane.withoutOtherFamilies (kind : RangeOperationKind) (rows : ControlPlane) :
    ControlPlane := { rows with range := Commands.withoutOtherFamilies kind rows.range }

theorem eventObservation_notMem_otherFamilies (kind : RangeOperationKind) :
    eventObservation ∉ otherFamilies kind := by
  cases kind <;> with_unfolding_all decide

theorem event_notMem_otherFamilies (kind : RangeOperationKind) (command : CommandKind) :
    command.event ∉ otherFamilies kind := by
  cases kind <;> cases command <;> with_unfolding_all decide

theorem approvedEvent_notMem_otherFamilies (kind : RangeOperationKind) :
    approvedEvent kind ∉ otherFamilies kind := by
  cases kind <;> with_unfolding_all decide

theorem authorizedEvent_notMem_otherFamilies (kind : RangeOperationKind) :
    authorizedEvent kind ∉ otherFamilies kind := by
  cases kind <;> with_unfolding_all decide

theorem startedEvent_notMem_otherFamilies (kind other : RangeOperationKind) :
    startedEvent other ∉ otherFamilies kind := by
  cases kind <;> cases other <;> with_unfolding_all decide

section
variable {kind : RangeOperationKind} {range : RangeInstance} {event : Str}

theorem filter_withoutOtherFamilies (h : event ∉ otherFamilies kind) :
    (withoutOtherFamilies kind range).events.filter (fun e => e.kind = event) =
      range.events.filter fun e => e.kind = event := by
  show (range.events.filter _).filter _ = _
  rw [List.filter_filter]
  refine List.filter_congr fun e _ => ?_
  by_cases he : e.kind = event
  · simp [he, h]
  · simp [he]

theorem latestEvent_withoutOtherFamilies (h : event ∉ otherFamilies kind) :
    latestEvent (withoutOtherFamilies kind range) event = latestEvent range event :=
  latestEvent_congr (filter_withoutOtherFamilies h)

theorem samePlan_withoutOtherFamilies : SamePlan range (withoutOtherFamilies kind range) :=
  ⟨rfl, rfl, rfl, rfl, latestEvent_withoutOtherFamilies (eventObservation_notMem_otherFamilies kind)⟩

theorem commandEvents_withoutOtherFamilies (command : CommandKind) :
    commandEvents (withoutOtherFamilies kind range) command = commandEvents range command :=
  congrArg List.reverse (filter_withoutOtherFamilies (event_notMem_otherFamilies kind command))

theorem keyHolders_withoutOtherFamilies (key : Str) :
    keyHolders (withoutOtherFamilies kind range) key = keyHolders range key := by
  unfold keyHolders
  simp only [commandEvents_withoutOtherFamilies]

theorem familyApproval_withoutOtherFamilies :
    familyApproval kind (withoutOtherFamilies kind range) = familyApproval kind range :=
  familyApproval_congr (latestEvent_withoutOtherFamilies (approvedEvent_notMem_otherFamilies kind))

theorem familyAuthorization_withoutOtherFamilies :
    familyAuthorization kind (withoutOtherFamilies kind range) = familyAuthorization kind range :=
  familyAuthorization_congr
    (latestEvent_withoutOtherFamilies (authorizedEvent_notMem_otherFamilies kind))

variable [Unicode] {planner : Planner}

/-- The gate of the plain routes reads its own family only. -/
theorem requireOperationAuthorized_withoutOtherFamilies :
    requireOperationAuthorized planner (withoutOtherFamilies kind range) kind =
      requireOperationAuthorized planner range kind := by
  unfold requireOperationAuthorized
  rw [compilePlan_congr samePlan_withoutOtherFamilies]
  have hauthorization : familyAuthorization kind (withoutOtherFamilies kind range) =
      familyAuthorization kind range := familyAuthorization_withoutOtherFamilies
  cases kind with
  | deploy =>
      rw [show applyAuthorization (withoutOtherFamilies .deploy range) = _ from hauthorization]
      rfl
  | reset =>
      rw [show resetAuthorization (withoutOtherFamilies .reset range) = _ from hauthorization]
      rfl
  | destroy =>
      rw [show destroyAuthorization (withoutOtherFamilies .destroy range) = _ from hauthorization]
      rfl

theorem requireCompiledForCommand_withoutOtherFamilies :
    requireCompiledForCommand planner (withoutOtherFamilies kind range) =
      requireCompiledForCommand planner range := by
  unfold requireCompiledForCommand
  rw [compilePlan_congr samePlan_withoutOtherFamilies,
    loadBinding_congr samePlan_withoutOtherFamilies]

theorem findReplay_withoutOtherFamilies {command : CommandKind} {envelope : CommandEnvelope}
    {digest : Str} : findReplay (withoutOtherFamilies kind range) command envelope digest =
      findReplay range command envelope digest := by
  unfold findReplay
  rw [keyHolders_withoutOtherFamilies]
  rfl

theorem latestCommand_withoutOtherFamilies (command : CommandKind) :
    latestCommand (withoutOtherFamilies kind range) command = latestCommand range command := by
  unfold latestCommand
  rw [commandEvents_withoutOtherFamilies]
  rfl

theorem preflight_withoutOtherFamilies {rows : ControlPlane} {principal : Principal}
    {command : CommandKind} {envelope : CommandEnvelope} {declaredHash : Option Str}
    {worker : Option WorkerAssertion} {now : Datetime} :
    preflight planner (rows.withoutOtherFamilies kind) principal command envelope declaredHash worker
        now =
      preflight planner rows principal command envelope declaredHash worker now := by
  unfold preflight
  dsimp only [ControlPlane.withoutOtherFamilies]
  rw [requireCompiledForCommand_withoutOtherFamilies]
  simp only [findReplay_withoutOtherFamilies]
  rfl

theorem requireGeneration_withoutOtherFamilies {checked : Preflight} {command : CommandKind}
    {missing : RefusalCode} {what : Str} :
    requireGeneration (withoutOtherFamilies kind range) checked command missing what =
      requireGeneration range checked command missing what := by
  unfold requireGeneration
  rw [latestCommand_withoutOtherFamilies]

theorem requireUnchanged_withoutOtherFamilies {checked : Preflight} {command : CommandKind}
    {what : Str} : requireUnchanged (withoutOtherFamilies kind range) checked command what =
      requireUnchanged range checked command what := by
  unfold requireUnchanged checkAllocationsUnchanged
  rw [requireGeneration_withoutOtherFamilies, commandEvents_withoutOtherFamilies]

theorem requireSubmission_withoutOtherFamilies {checked : Preflight} :
    requireSubmission (withoutOtherFamilies kind range) checked =
      requireSubmission range checked := by
  unfold requireSubmission
  rw [latestCommand_withoutOtherFamilies]

/-- The records a request depends on are of its own family. -/
theorem chain_withoutOtherFamilies {request : Request} {checked : Preflight}
    (hkind : request.command.kind.operationKind = some kind) :
    request.command.chain (withoutOtherFamilies kind range) checked =
      request.command.chain range checked := by
  have happroval : familyApproval kind (withoutOtherFamilies kind range) =
      familyApproval kind range := familyApproval_withoutOtherFamilies
  have hauthorization : familyAuthorization kind (withoutOtherFamilies kind range) =
      familyAuthorization kind range := familyAuthorization_withoutOtherFamilies
  cases request with
  | requestExecution envelope planHash worker =>
      cases hkind
      have happroval : planApproval (withoutOtherFamilies .deploy range) = planApproval range :=
        happroval
      have hauthorization : applyAuthorization (withoutOtherFamilies .deploy range) =
          applyAuthorization range := hauthorization
      show (do
        requireUnchanged (withoutOtherFamilies .deploy range) checked .generatePlan (str "plan")
        requireSubmission (withoutOtherFamilies .deploy range) checked
        requireNamed (planApproval (withoutOtherFamilies .deploy range)) checked _ _
        requireNamed (applyAuthorization (withoutOtherFamilies .deploy range)) checked _ _) = _
      rw [requireUnchanged_withoutOtherFamilies, requireSubmission_withoutOtherFamilies, happroval,
        hauthorization]
      rfl
  | requestReset envelope resetHash worker =>
      cases hkind
      have happroval : resetPlanApproval (withoutOtherFamilies .reset range) =
          resetPlanApproval range := happroval
      have hauthorization : resetAuthorization (withoutOtherFamilies .reset range) =
          resetAuthorization range := hauthorization
      show (do
        requireNamed (resetPlanApproval (withoutOtherFamilies .reset range)) checked _ _
        requireNamed (resetAuthorization (withoutOtherFamilies .reset range)) checked _ _) = _
      rw [happroval, hauthorization]
      rfl
  | requestDestroyExecution envelope destroyHash worker =>
      cases hkind
      have happroval : destroyPlanApproval (withoutOtherFamilies .destroy range) =
          destroyPlanApproval range := happroval
      have hauthorization : destroyAuthorization (withoutOtherFamilies .destroy range) =
          destroyAuthorization range := hauthorization
      show (do
        requireGeneration (withoutOtherFamilies .destroy range) checked .generateDestroyPlan _ _
        requireNamed (destroyPlanApproval (withoutOtherFamilies .destroy range)) checked _ _
        requireNamed (destroyAuthorization (withoutOtherFamilies .destroy range)) checked _ _) = _
      rw [requireGeneration_withoutOtherFamilies, happroval, hauthorization]
      rfl
  | compileTopology envelope => cases hkind
  | generatePlan envelope planHash => cases hkind
  | submitPlanForReview envelope planHash => cases hkind
  | requestReconciliation envelope => cases hkind
  | generateDestroyPlan envelope destroyHash => cases hkind

omit [Unicode] in
/-- An event of its own family, of a command or of a start stays in the timeline of a family. -/
theorem recordEvent_withoutOtherFamilies {message : Str} {level : RangeEventLevel} {data : Json}
    {operationId : Option Str} (h : event ∉ otherFamilies kind) :
    (withoutOtherFamilies kind range).recordEvent event message level data operationId =
      withoutOtherFamilies kind (range.recordEvent event message level data operationId) := by
  have hevents : ∀ line : LifecycleEvent, line.kind = event →
      (range.events ++ [line]).filter (fun e => decide (e.kind ∉ otherFamilies kind)) =
        range.events.filter (fun e => decide (e.kind ∉ otherFamilies kind)) ++ [line] := by
    intro line hline
    rw [List.filter_append, List.filter_singleton, hline]
    simp [h]
  unfold RangeInstance.recordEvent withoutOtherFamilies
  dsimp only
  rw [hevents _ rfl]

omit [Unicode] in
theorem startOperation_withoutOtherFamilies {principal : Principal}
    {operation : RangeOperationKind} {operationId : Str} {now : Datetime} :
    startOperation (withoutOtherFamilies kind range) principal operation operationId now =
      (startOperation range principal operation operationId now).map
        (withoutOtherFamilies kind) := by
  have hops : (withoutOtherFamilies kind range).operations = range.operations := rfl
  unfold startOperation
  simp only [except_map_bind, hops]
  cases range.operations.find? Operation.inFlight with
  | some op => rfl
  | none =>
      dsimp only
      simp only [except_map_bind]
      have hwritten : (withoutOtherFamilies kind range).withOperation
          (newOperation (withoutOtherFamilies kind range) principal operation operationId now) =
          withoutOtherFamilies kind
            (range.withOperation (newOperation range principal operation operationId now)) :=
        @recordEvent_withoutOtherFamilies kind
          { range with
            operations := range.operations ++
              [newOperation range principal operation operationId now]
            state := operation.inFlight
            stateReason := none } _ _ _ _ _ (startedEvent_notMem_otherFamilies kind operation)
      rw [hwritten]
      rfl

variable {rows : ControlPlane} {principal : Principal} {operationId : Str} {now : Datetime}

theorem accept_withoutOtherFamilies {command : Command} {checked : Preflight}
    {started : Option Str} :
    command.accept (withoutOtherFamilies kind range) principal checked started now =
      (withoutOtherFamilies kind (command.accept range principal checked started now).1,
        (command.accept range principal checked started now).2) := by
  unfold Command.accept
  rw [recordEvent_withoutOtherFamilies (event_notMem_otherFamilies kind command.kind)]
  rfl

theorem conclude_withoutOtherFamilies {command : Command} {checked : Preflight} :
    command.conclude (rows.withoutOtherFamilies kind) principal checked operationId now =
      (command.conclude rows principal checked operationId now).map
        fun result => (result.1.withoutOtherFamilies kind, result.2) := by
  unfold Command.conclude
  dsimp only [ControlPlane.withoutOtherFamilies]
  cases command.kind.operationKind with
  | none =>
      dsimp only
      rw [accept_withoutOtherFamilies]
      rfl
  | some operation =>
      dsimp only
      rw [startOperation_withoutOtherFamilies]
      cases startOperation rows.range principal operation operationId now with
      | error error => rfl
      | ok started =>
          show Except.ok _ = Except.ok _
          rw [accept_withoutOtherFamilies]

/-- A request for an operation is decided by the timeline of its own family, and writes there what it
writes to the whole. -/
theorem submit_withoutOtherFamilies {request : Request}
    (hkind : request.command.kind.operationKind = some kind) :
    request.submit planner (rows.withoutOtherFamilies kind) principal operationId now =
      (request.submit planner rows principal operationId now).map
        fun result => (result.1.withoutOtherFamilies kind, result.2) := by
  unfold Request.submit Command.submit
  rw [preflight_withoutOtherFamilies]
  cases preflight planner rows principal request.command.kind request.command.envelope
      request.command.declaredHash request.command.worker now with
  | error failure => rfl
  | ok outcome =>
      cases outcome with
      | replay record => rfl
      | checked checked =>
          show (do
            request.command.chain (withoutOtherFamilies kind rows.range) checked
            request.command.conclude (rows.withoutOtherFamilies kind) principal checked operationId
              now) = _
          rw [chain_withoutOtherFamilies hkind, conclude_withoutOtherFamilies]
          show _ = (request.command.chain rows.range checked >>= fun _ => _).map _
          rw [except_map_bind]

end

/-! ## Admission -/

section
variable [Unicode] {planner : Planner} {rows rows' : ControlPlane}

/-- A request that starts an operation found the authorization of its family. -/
theorem Command.Accepted.authorized {request : Request} {kind : RangeOperationKind}
    {principal : Principal} {operationId : Str} {now : Datetime} {compiled : CompiledRangePlan}
    {record : CommandRecord} (hkind : request.command.kind.operationKind = some kind)
    (h : request.command.Accepted planner rows principal operationId now compiled rows' record) :
    ApprovalRecord.names (familyAuthorization kind rows.range)
      (familyHash kind compiled.plan) = true := by
  have hchain := h.chain
  cases request with
  | requestExecution envelope planHash worker =>
      cases hkind
      simp only [Request.command, requestExecution, except_unit_bind_eq_ok, requireNamed,
        raiseIf_not_eq_ok_iff] at hchain
      exact hchain.2.2.2
  | requestReset envelope resetHash worker =>
      cases hkind
      simp only [Request.command, requestReset, except_unit_bind_eq_ok, requireNamed,
        raiseIf_not_eq_ok_iff] at hchain
      exact hchain.2
  | requestDestroyExecution envelope destroyHash worker =>
      cases hkind
      simp only [Request.command, requestDestroyExecution, except_unit_bind_eq_ok, requireNamed,
        raiseIf_not_eq_ok_iff] at hchain
      exact hchain.2.2
  | compileTopology envelope => cases hkind
  | generatePlan envelope planHash => cases hkind
  | submitPlanForReview envelope planHash => cases hkind
  | requestReconciliation envelope => cases hkind
  | generateDestroyPlan envelope destroyHash => cases hkind

/-- An operation is admitted: by the gate of the plain routes, or as a request of its kind that is
accepted anew. -/
def Admitted (planner : Planner) (rows : ControlPlane) (kind : RangeOperationKind) : Prop :=
  requireOperationAuthorized planner rows.range kind = .ok () ∨
    ∃ (request : Request) (principal : Principal) (operationId : Str) (now : Datetime)
      (rows' : ControlPlane) (record : CommandRecord),
      request.command.kind.operationKind = some kind ∧
      request.submit planner rows principal operationId now = .ok (rows', record) ∧
      record.deduplicated = false

/-- An admitted operation is authorized for the hash the range compiles to. -/
theorem Admitted.names {kind : RangeOperationKind} (hprovider : rows.range.provider = proxmoxProvider)
    (h : Admitted planner rows kind) :
    ∃ compiled, compilePlan planner rows.range = .ok (.plan compiled) ∧
      ApprovalRecord.names (familyAuthorization kind rows.range)
        (familyHash kind compiled.plan) = true := by
  rcases h with hgate | ⟨request, principal, operationId, now, rows', record, hkind, hsubmit, hfresh⟩
  · exact (requireOperationAuthorized_eq_ok_iff hprovider).mp hgate
  · obtain ⟨compiled, ⟨-, hanswered⟩ | haccepted⟩ := Command.submit_eq_ok_iff.mp hsubmit
    · rw [hanswered.deduplicated] at hfresh
      cases hfresh
    · exact ⟨compiled, haccepted.identified.compiles, haccepted.authorized hkind⟩

/-- Authorization families never cross. In every state a run reaches, an operation of a Proxmox range
is admitted only if the newest authorization of its own family names the hash the range compiles to,
behind an approval of that family that names it too; and neither gate decides differently on the
timeline without the events of the other two families. -/
theorem families_never_cross (hcreated : Created rows) (moves : List Move) (kind : RangeOperationKind)
    (hprovider : (rows.run planner moves).range.provider = proxmoxProvider) :
    (Admitted planner (rows.run planner moves) kind →
      ∃ compiled, compilePlan planner (rows.run planner moves).range = .ok (.plan compiled) ∧
        StandsAuthorized (rows.run planner moves).range.events kind
          (familyHash kind compiled.plan)) ∧
      requireOperationAuthorized planner
          (withoutOtherFamilies kind (rows.run planner moves).range) kind =
        requireOperationAuthorized planner (rows.run planner moves).range kind ∧
      ∀ (request : Request) (principal : Principal) (operationId : Str) (now : Datetime),
        request.command.kind.operationKind = some kind →
        request.submit planner ((rows.run planner moves).withoutOtherFamilies kind) principal
            operationId now =
          (request.submit planner (rows.run planner moves) principal operationId now).map
            fun result => (result.1.withoutOtherFamilies kind, result.2) := by
  refine ⟨fun hadmitted => ?_, requireOperationAuthorized_withoutOtherFamilies,
    fun _ _ _ _ hkind => submit_withoutOtherFamilies hkind⟩
  obtain ⟨compiled, hcompiled, hnames⟩ := hadmitted.names hprovider
  have hlog : Throughout ApprovedBefore (rows.run planner moves).range.events :=
    throughout_approvedBefore_run hcreated.throughout_approvedBefore moves
  exact ⟨compiled, hcompiled, standsAuthorized_of_names hlog hnames⟩

end

/-- Once its destroy is authorized, the lab's range admits a destroy, and so does the timeline without
the events of the other families. -/
theorem authorizedRange_never_crosses :
    @requireOperationAuthorized Unicode.ascii samplePlanner
        (withoutOtherFamilies .destroy (@ControlPlane.run Unicode.ascii samplePlanner
          { range := labRange } (authorizeLab labHash)).range) .destroy = .ok () ∧
      StandsAuthorized (@ControlPlane.run Unicode.ascii samplePlanner { range := labRange }
        (authorizeLab labHash)).range.events .destroy labHash := by
  let _ := Unicode.ascii
  obtain ⟨plan, hhash, hne, hplan⟩ := labHash_spec
  have hrun := authorized_run []
  have hcompiles := hplan (authorizedRange labHash) samePlan_authorizedRange
  have hgate : requireOperationAuthorized samplePlanner
      (ControlPlane.run samplePlanner { range := labRange } (authorizeLab labHash)).range .destroy = .ok () := by
    rw [hrun]
    refine (requireOperationAuthorized_eq_ok_iff rfl).mpr ⟨_, hcompiles, ?_⟩
    rw [hhash]
    exact names_destroyAuthorization hne
  obtain ⟨hadmitted, hprojected, -⟩ := @families_never_cross _ samplePlanner _ (labRange_created [])
    (authorizeLab labHash) .destroy (by rw [hrun]; rfl)
  refine ⟨hprojected.trans hgate, ?_⟩
  obtain ⟨compiled, hcompiled, hstands⟩ := hadmitted (.inl hgate)
  rw [hrun] at hcompiled
  have hsame := hcompiled.symm.trans hcompiles
  cases hsame
  rw [hhash] at hstands
  exact hstands

end Secp.Commands
