import Secp.Commands.Runs

/-!
# The two ways to an operation

A deploy, a reset or a destroy is started by a plain route or by the command of its kind. Both start the
same operation; each path is inverted here once, into what it asks of the rows and of the request.
-/

namespace Secp.Commands

open Secp.Python Secp.Logic Secp.Range

/-! ## Starting an operation -/

/-- A requester may start an operation of a kind on a range, under a free id. -/
structure Startable (range : RangeInstance) (principal : Principal) (kind : RangeOperationKind)
    (operationId : Str) : Prop where
  readable : getRange range principal = .ok ()
  permitted : principal.require kind.permission = .ok ()
  state : range.state ∈ kind.allowedFrom
  idle : ∀ op ∈ range.operations, op.inFlight = false
  free : range.operation? operationId = none

/-- No operation is allowed from a terminal state. -/
theorem notMem_terminalStates {kind : RangeOperationKind} {state : RangeState}
    (h : state ∈ kind.allowedFrom) : state ∉ terminalStates := by
  revert h
  cases kind <;> cases state <;> decide

theorem startOperation_eq_ok_iff {range range' : RangeInstance} {principal : Principal}
    {kind : RangeOperationKind} {operationId : Str} {now : Datetime} :
    startOperation range principal kind operationId now = .ok range' ↔
      Startable range principal kind operationId ∧
        range' = range.withOperation (newOperation range principal kind operationId now) := by
  constructor
  · intro h
    obtain ⟨-, hstate, hidle, hfree, hrange⟩ := startOperation_spec h
    unfold startOperation at h
    simp only [except_unit_bind_eq_ok] at h
    exact ⟨⟨h.1, h.2.1, hstate, hidle, hfree⟩, hrange⟩
  · rintro ⟨h, rfl⟩
    have hterminal := notMem_terminalStates h.state
    have hfind : range.operations.find? Operation.inFlight = none :=
      List.find?_eq_none.mpr fun op hop => by simp [h.idle op hop]
    unfold startOperation
    rw [except_bind_of_ok h.readable, except_bind_of_ok h.permitted,
      except_bind_of_ok (raiseIf_eq_ok_iff.mpr (decide_eq_false hterminal)),
      except_bind_of_ok (raiseIf_eq_ok_iff.mpr (decide_eq_false (not_not.mpr h.state))), hfind]
    exact except_bind_of_ok (raiseIf_eq_ok_iff.mpr (by rw [h.free]; rfl))

/-- The newest operation of a range is one of its operations. -/
theorem currentOperation_mem {range : RangeInstance} {op : Operation}
    (h : currentOperation range = some op) : op ∈ range.operations := by
  have hfold : ∀ (ops : List Operation) (latest : Option Operation),
      ops.foldl (fun latest op =>
        if latest.any fun other => op.startedAt.micros < other.startedAt.micros then latest
        else some op) latest = some op → latest = some op ∨ op ∈ ops := by
    intro ops
    induction ops with
    | nil => exact fun latest h => .inl h
    | cons first rest ih =>
        intro latest h
        rw [List.foldl_cons] at h
        rcases ih _ h with h | h
        · split at h
          · exact .inl h
          · exact .inr (Option.some.inj h ▸ List.mem_cons_self)
        · exact .inr (List.mem_cons_of_mem _ h)
  rcases hfold range.operations none h with h | h
  · cases h
  · exact h

theorem Startable.idle_newest {range : RangeInstance} {principal : Principal}
    {kind : RangeOperationKind} {operationId : Str}
    (h : Startable range principal kind operationId) : Idle range :=
  fun op hop => h.idle op (currentOperation_mem hop)

/-! ## The command of a kind -/

/-- The command that asks for an operation. -/
def operationCommand : RangeOperationKind → CommandKind
  | .deploy => .requestExecution
  | .reset => .requestReset
  | .destroy => .requestDestroyExecution

/-- The request for an operation. -/
def operationRequest (kind : RangeOperationKind) (envelope : CommandEnvelope) (hash : Str)
    (worker : WorkerAssertion) : Request :=
  match kind with
  | .deploy => .requestExecution envelope hash worker
  | .reset => .requestReset envelope hash worker
  | .destroy => .requestDestroyExecution envelope hash worker

section
variable {kind : RangeOperationKind}

theorem operationKind_operationCommand (kind : RangeOperationKind) :
    (operationCommand kind).operationKind = some kind := by
  cases kind <;> rfl

theorem permission_operationCommand (kind : RangeOperationKind) :
    (operationCommand kind).permission = kind.permission := by
  cases kind <;> rfl

theorem allowedRangeStates_operationCommand (kind : RangeOperationKind) :
    (operationCommand kind).allowedRangeStates = kind.allowedFrom := by
  cases kind <;> rfl

theorem subjectHashFor_operationCommand [Unicode] (kind : RangeOperationKind)
    (plan : Proxmox.CompiledRangePlan) :
    subjectHashFor (operationCommand kind) plan = familyHash kind plan := by
  cases kind <;> rfl

variable [Unicode] {envelope : CommandEnvelope} {hash : Str} {worker : WorkerAssertion}

theorem kind_operationRequest :
    (operationRequest kind envelope hash worker).command.kind = operationCommand kind := by
  cases kind <;> rfl

theorem envelope_operationRequest :
    (operationRequest kind envelope hash worker).command.envelope = envelope := by
  cases kind <;> rfl

theorem declaredHash_operationRequest :
    (operationRequest kind envelope hash worker).command.declaredHash = some hash := by
  cases kind <;> rfl

theorem worker_operationRequest :
    (operationRequest kind envelope hash worker).command.worker = some worker := by
  cases kind <;> rfl

/-- A request that starts operations of a kind is the request for them. -/
theorem exists_operationRequest {request : Request}
    (h : request.command.kind.operationKind = some kind) :
    ∃ envelope hash worker, request = operationRequest kind envelope hash worker := by
  cases request with
  | requestExecution envelope hash worker =>
      cases h
      exact ⟨envelope, hash, worker, rfl⟩
  | requestReset envelope hash worker =>
      cases h
      exact ⟨envelope, hash, worker, rfl⟩
  | requestDestroyExecution envelope hash worker =>
      cases h
      exact ⟨envelope, hash, worker, rfl⟩
  | compileTopology envelope => cases h
  | generatePlan envelope hash => cases h
  | submitPlanForReview envelope hash => cases h
  | requestReconciliation envelope => cases h
  | generateDestroyPlan envelope hash => cases h

end

/-! ## The records a command asks for -/

section
variable [Unicode] {planner : Planner} {range : RangeInstance} {compiled : CompiledRangePlan}

/-- The newest record of a command names a hash. -/
def Generated (range : RangeInstance) (kind : CommandKind) (hash : Str) : Prop :=
  ∃ record, latestCommand range kind = .ok (some record) ∧ record.subjectHash = .str hash

/-- The newest record of a command reserved what the plan reserves, if it says so. -/
def Reserved (range : RangeInstance) (kind : CommandKind) (compiled : CompiledRangePlan) : Prop :=
  ∀ event rest, commandEvents range kind = event :: rest →
    event.data.field (str "ledger_hash") = .null ∨
      event.data.field (str "ledger_hash") = .str (ledgerHash compiled)

/-- The records the command of a kind asks for: a deploy was generated with these reservations and
submitted for review, a destroy was generated, a reset needs none. -/
def Documented (kind : RangeOperationKind) (range : RangeInstance) (compiled : CompiledRangePlan) :
    Prop :=
  match kind with
  | .deploy => Generated range .generatePlan compiled.plan.planHash ∧
      Reserved range .generatePlan compiled ∧
      Generated range .submitPlanForReview compiled.plan.planHash
  | .reset => True
  | .destroy => Generated range .generateDestroyPlan compiled.plan.destroyHash

theorem requireGeneration_eq_ok_iff {checked : Preflight} {kind : CommandKind}
    {missing : RefusalCode} {what : Str} :
    requireGeneration range checked kind missing what = .ok () ↔
      Generated range kind checked.subjectHash := by
  unfold requireGeneration Generated
  rw [except_bind_eq_ok]
  constructor
  · rintro ⟨latest, hlatest, h⟩
    cases latest with
    | none => cases h
    | some record =>
        have hsame := raiseIf_eq_ok_iff.mp h
        exact ⟨record, hlatest, by simpa using hsame⟩
  · rintro ⟨record, hlatest, hsame⟩
    exact ⟨some record, hlatest, raiseIf_eq_ok_iff.mpr (by simp [hsame])⟩

theorem checkAllocationsUnchanged_eq_ok_iff {checked : Preflight} {kind : CommandKind} :
    checkAllocationsUnchanged range checked kind = .ok () ↔
      Reserved range kind checked.compiled := by
  unfold checkAllocationsUnchanged Reserved
  cases commandEvents range kind with
  | nil => simp [Pure.pure, Except.pure]
  | cons event rest =>
      simp only [raiseIf_eq_ok_iff, List.cons.injEq, decide_eq_false_iff_not, not_and_or, not_not]
      constructor
      · rintro h _ _ ⟨rfl, rfl⟩
        exact h
      · intro h
        exact h event rest ⟨rfl, rfl⟩

theorem requireSubmission_eq_ok_iff {checked : Preflight} :
    requireSubmission range checked = .ok () ↔
      Generated range .submitPlanForReview checked.subjectHash := by
  unfold requireSubmission Generated
  rw [except_bind_eq_ok]
  constructor
  · rintro ⟨latest, hlatest, h⟩
    have hsame := raiseIf_not_eq_ok_iff.mp h
    cases latest with
    | none => cases hsame
    | some record => exact ⟨record, hlatest, by simpa using hsame⟩
  · rintro ⟨record, hlatest, hsame⟩
    exact ⟨some record, hlatest, raiseIf_not_eq_ok_iff.mpr (by simp [hsame])⟩

/-- Behind the preflight a request for an operation needs its records, its approval and its
authorization. -/
theorem chain_operationRequest_eq_ok_iff {kind : RangeOperationKind} {envelope : CommandEnvelope}
    {hash : Str} {worker : WorkerAssertion} :
    (operationRequest kind envelope hash worker).command.chain range
        (checkedOf (operationCommand kind) envelope (some worker) compiled) = .ok () ↔
      Documented kind range compiled ∧
        ApprovalRecord.names (familyApproval kind range) (familyHash kind compiled.plan) = true ∧
        ApprovalRecord.names (familyAuthorization kind range)
          (familyHash kind compiled.plan) = true := by
  cases kind with
  | deploy =>
      show (do
        requireUnchanged range _ .generatePlan _
        requireSubmission range _
        requireNamed (planApproval range) _ _ _
        requireNamed (applyAuthorization range) _ _ _) = _ ↔ _
      unfold requireUnchanged requireNamed
      simp only [except_unit_bind_eq_ok, requireGeneration_eq_ok_iff,
        checkAllocationsUnchanged_eq_ok_iff, requireSubmission_eq_ok_iff, raiseIf_not_eq_ok_iff]
      exact ⟨fun h => ⟨⟨h.1.1, h.1.2, h.2.1⟩, h.2.2⟩, fun h => ⟨⟨h.1.1, h.1.2.1⟩, h.1.2.2, h.2⟩⟩
  | reset =>
      show (do
        requireNamed (resetPlanApproval range) _ _ _
        requireNamed (resetAuthorization range) _ _ _) = _ ↔ _
      unfold requireNamed
      simp only [except_unit_bind_eq_ok, raiseIf_not_eq_ok_iff]
      exact ⟨fun h => ⟨trivial, h⟩, And.right⟩
  | destroy =>
      show (do
        requireGeneration range _ .generateDestroyPlan _ _
        requireNamed (destroyPlanApproval range) _ _ _
        requireNamed (destroyAuthorization range) _ _ _) = _ ↔ _
      unfold requireNamed
      simp only [except_unit_bind_eq_ok, requireGeneration_eq_ok_iff, raiseIf_not_eq_ok_iff]
      exact Iff.rfl

/-! ## Both paths -/

variable {rows rows' : ControlPlane} {principal : Principal} {kind : RangeOperationKind}
  {operationId : Str} {now : Datetime}

/-- A range that compiles to what its family authorized last. -/
def AuthorizedNow (planner : Planner) (range : RangeInstance) (kind : RangeOperationKind) : Prop :=
  ∃ compiled, compilePlan planner range = .ok (.plan compiled) ∧
    ApprovalRecord.names (familyAuthorization kind range) (familyHash kind compiled.plan) = true

/-- What a plain route asks for: the requester may start the operation and it is authorized. -/
structure Routed (planner : Planner) (range : RangeInstance) (principal : Principal)
    (kind : RangeOperationKind) (operationId : Str) : Prop where
  startable : Startable range principal kind operationId
  authorized : AuthorizedNow planner range kind

theorem startRoute_eq_ok_iff (hprovider : rows.range.provider = proxmoxProvider) :
    startRoute planner rows principal kind operationId now = .ok rows' ↔
      Routed planner rows.range principal kind operationId ∧
        rows' = { rows with
          range := rows.range.withOperation
            (newOperation rows.range principal kind operationId now)
          outbox := rows.outbox ++ [operationId] } := by
  unfold startRoute
  simp only [except_unit_bind_eq_ok, refusing_eq_ok_iff,
    requireOperationAuthorized_eq_ok_iff hprovider]
  constructor
  · rintro ⟨-, hauthorized, h⟩
    obtain ⟨started, hstarted, h⟩ := except_bind_eq_ok.mp h
    obtain ⟨hstartable, rfl⟩ := startOperation_eq_ok_iff.mp (refusing_eq_ok_iff.mp hstarted)
    cases h
    exact ⟨⟨hstartable, hauthorized⟩, rfl⟩
  · rintro ⟨h, rfl⟩
    have hstarted : startOperation rows.range principal kind operationId now = .ok _ :=
      startOperation_eq_ok_iff.mpr ⟨h.startable, rfl⟩
    exact ⟨h.startable.readable, h.authorized,
      except_bind_of_ok (refusing_eq_ok_iff.mpr hstarted)⟩

/-- What the command of a kind asks for. -/
structure Requested (planner : Planner) (rows : ControlPlane) (principal : Principal)
    (kind : RangeOperationKind) (envelope : CommandEnvelope) (hash : Str) (worker : WorkerAssertion)
    (operationId : Str) (now : Datetime) (compiled : CompiledRangePlan) : Prop where
  startable : Startable rows.range principal kind operationId
  provider : rows.range.provider = proxmoxProvider
  compiles : compilePlan planner rows.range = .ok (.plan compiled)
  declared : hash = familyHash kind compiled.plan
  scope : InScope envelope compiled rows.range
  version : envelope.expectedVersion = rows.range.eventSequence
  unused : keyHolders rows.range envelope.idempotencyKey = []
  fresh : compiled.recorded.freshness now = .fresh
  serves : Serves rows worker
  documented : Documented kind rows.range compiled
  approved : ApprovalRecord.names (familyApproval kind rows.range)
    (familyHash kind compiled.plan) = true
  authorized : ApprovalRecord.names (familyAuthorization kind rows.range)
    (familyHash kind compiled.plan) = true

variable {envelope : CommandEnvelope} {hash : Str} {worker : WorkerAssertion}

/-- A request for an operation is accepted exactly when all that is in place. -/
theorem accepted_operationRequest_iff :
    (∃ rows' record, (operationRequest kind envelope hash worker).command.Accepted planner rows
        principal operationId now compiled rows' record) ↔
      Requested planner rows principal kind envelope hash worker operationId now compiled := by
  constructor
  · rintro ⟨rows', record, h⟩
    have hidentified := h.identified
    have hready := h.ready
    have hchain := h.chain
    have hunused := h.unused
    rw [kind_operationRequest, envelope_operationRequest, declaredHash_operationRequest]
      at hidentified
    rw [kind_operationRequest, worker_operationRequest] at hready
    rw [kind_operationRequest, envelope_operationRequest, worker_operationRequest,
      chain_operationRequest_eq_ok_iff] at hchain
    rw [envelope_operationRequest] at hunused
    obtain ⟨operation, hoperation, started, hstarted, -⟩ : ∃ operation,
        (operationCommand kind).operationKind = some operation ∧ ∃ started,
          startOperation rows.range principal operation operationId now = .ok started ∧ True := by
      rcases h.effect with ⟨hnone, -⟩ | ⟨operation, hoperation, started, hstarted, -⟩
      · rw [kind_operationRequest, operationKind_operationCommand] at hnone
        cases hnone
      · rw [kind_operationRequest] at hoperation
        exact ⟨operation, hoperation, started, hstarted, trivial⟩
    rw [operationKind_operationCommand] at hoperation
    cases hoperation
    have hdeclared := hidentified.declared hash rfl
    rw [subjectHashFor_operationCommand] at hdeclared
    have hfresh := hready.fresh (by rw [operationKind_operationCommand]; rfl)
    exact ⟨(startOperation_eq_ok_iff.mp hstarted).1, hidentified.provider, hidentified.compiles,
      hdeclared, hidentified.scope, hidentified.version, hunused, hfresh, hready.worker worker rfl,
      hchain.1, hchain.2.1, hchain.2.2⟩
  · intro h
    have hstarted : startOperation rows.range principal kind operationId now = .ok _ :=
      startOperation_eq_ok_iff.mpr ⟨h.startable, rfl⟩
    refine ⟨_, _, ?_, ?_, ?_, ?_, (Command.conclude_enqueue ?_).mpr ⟨_, hstarted, rfl, rfl⟩⟩
    · rw [kind_operationRequest, envelope_operationRequest, declaredHash_operationRequest]
      refine ⟨h.startable.readable, ?_, h.provider, h.compiles, fun declared hdeclared => ?_, h.scope,
        h.version⟩
      · rw [permission_operationCommand]
        exact h.startable.permitted
      · rw [subjectHashFor_operationCommand, ← h.declared]
        exact (Option.some.inj hdeclared).symm
    · rw [envelope_operationRequest]
      exact h.unused
    · rw [kind_operationRequest, worker_operationRequest]
      refine ⟨?_, fun _ => h.fresh, fun _ => h.startable.idle_newest, fun assertion hassertion => ?_⟩
      · rw [allowedRangeStates_operationCommand]
        exact h.startable.state
      · rw [← Option.some.inj hassertion]
        exact h.serves
    · rw [kind_operationRequest, envelope_operationRequest, worker_operationRequest]
      exact chain_operationRequest_eq_ok_iff.mpr ⟨h.documented, h.approved, h.authorized⟩
    · rw [kind_operationRequest]
      exact operationKind_operationCommand kind

end

/-! ## The lab's destroy -/

theorem authorizedRange_startable {hash : Str} :
    Startable (authorizedRange hash) labOperator .destroy (str "op1") :=
  ⟨labOperator_readable rfl, labOperator_permitted _, List.mem_cons_self,
    fun _ h => absurd h List.not_mem_nil, rfl⟩

/-- The authorized destroy of the lab may be started. -/
theorem authorizedRange_routed : @Routed Unicode.ascii samplePlanner (authorizedRange labHash)
    labOperator .destroy (str "op1") := by
  let _ := Unicode.ascii
  obtain ⟨plan, hhash, hne, hplan⟩ := labHash_spec
  refine ⟨authorizedRange_startable, _, hplan _ samePlan_authorizedRange, ?_⟩
  rw [hhash]
  exact names_destroyAuthorization hne

end Secp.Commands
