import Secp.Commands.Requests
import Secp.Logic.StateExcept
import Secp.Proxmox.Rediscovery

/-!
# What it takes to be let through

Each reader, act, check and command is inverted once: when it succeeds, what it read and what it wrote.
Whether a plan compiles, and to what, depends on the range's identity and on its newest observation
only.
-/

namespace Secp.Commands

open Secp.Python Secp.Logic Secp.Range
open Secp.Proxmox (CompileOutcome)

/-- `if not condition: raise error`. -/
theorem raiseIf_not_eq_ok_iff {ε : Type} {condition : Bool} {error : ε} :
    raiseIf (!condition) error = .ok () ↔ condition = true := by
  rw [raiseIf_eq_ok_iff, Bool.not_eq_false']

/-! ## The newest event of a kind -/

section
variable {range range' : RangeInstance} {kind : Str} {event : LifecycleEvent}

/-- The newest event of a kind has none of its kind behind it. -/
theorem latestEvent_eq_some_iff : latestEvent range kind = some event ↔
    ∃ before after, range.events = before ++ event :: after ∧ event.kind = kind ∧
      ∀ later ∈ after, later.kind ≠ kind := by
  unfold latestEvent
  rw [List.getLast?_eq_some_iff]
  constructor
  · rintro ⟨earlier, h⟩
    obtain ⟨before, rest, hsplit, -, hrest⟩ := List.filter_eq_append_iff.mp h
    obtain ⟨skipped, after, rfl, -, hkind, hnone⟩ := List.filter_eq_cons_iff.mp hrest
    refine ⟨before ++ skipped, after, by simp [hsplit], by simpa using hkind, fun later hlater => ?_⟩
    simpa using List.filter_eq_nil_iff.mp hnone later hlater
  · rintro ⟨before, after, hsplit, hkind, hnone⟩
    have hafter : after.filter (fun e => decide (e.kind = kind)) = [] :=
      List.filter_eq_nil_iff.mpr fun later hlater => by simpa using hnone later hlater
    refine ⟨before.filter fun e => e.kind = kind, ?_⟩
    rw [hsplit, List.filter_append, List.filter_cons_of_pos (by simpa using hkind), hafter]

theorem latestEvent_congr (h : range'.events.filter (fun event => event.kind = kind) =
    range.events.filter fun event => event.kind = kind) :
    latestEvent range' kind = latestEvent range kind := congrArg List.getLast? h

/-- Events of other kinds do not change which one of this kind is the newest. -/
theorem latestEvent_append_of_forall_ne {added : List LifecycleEvent}
    (hevents : range'.events = range.events ++ added) (h : ∀ event ∈ added, event.kind ≠ kind) :
    latestEvent range' kind = latestEvent range kind := by
  have hadded : added.filter (fun event => decide (event.kind = kind)) = [] :=
    List.filter_eq_nil_iff.mpr fun event hevent => by simpa using h event hevent
  refine latestEvent_congr ?_
  rw [hevents, List.filter_append, hadded, List.append_nil]

theorem latestEvent_recordEvent_of_ne {other message : Str} {level : RangeEventLevel} {data : Json}
    {operationId : Option Str} (h : other ≠ kind) :
    latestEvent (range.recordEvent other message level data operationId) kind =
      latestEvent range kind := by
  refine latestEvent_append_of_forall_ne rfl fun event hevent => ?_
  rw [List.mem_singleton.mp hevent]
  exact h

end

/-! ## Compiling -/

/-- Two states of one range that compile alike. -/
structure SamePlan (range range' : RangeInstance) : Prop where
  id : range'.id = range.id
  organizationId : range'.organizationId = range.organizationId
  name : range'.name = range.name
  provider : range'.provider = range.provider
  observation : latestEvent range' eventObservation = latestEvent range eventObservation

theorem SamePlan.trans {range range' range'' : RangeInstance} (h : SamePlan range range')
    (h' : SamePlan range' range'') : SamePlan range range'' :=
  ⟨h'.id.trans h.id, h'.organizationId.trans h.organizationId, h'.name.trans h.name,
    h'.provider.trans h.provider, h'.observation.trans h.observation⟩

section
variable [Unicode] {planner : Planner} {range range' : RangeInstance} {compiled : CompiledRangePlan}

theorem loadBinding_congr (h : SamePlan range range') :
    loadBinding planner range' = loadBinding planner range := by
  unfold loadBinding
  rw [h.observation]

theorem compilePlan_congr (h : SamePlan range range') :
    compilePlan planner range' = compilePlan planner range := by
  unfold compilePlan requireProxmox
  rw [loadBinding_congr h, h.id, h.organizationId, h.name, h.provider]

/-- A plan compiles for a Proxmox range whose template is in the catalog, from its newest observation. -/
theorem compilePlan_eq_plan_iff : compilePlan planner range = .ok (.plan compiled) ↔
    range.provider = proxmoxProvider ∧ ∃ template, planner.template = some template ∧
      loadBinding planner range = .ok (some compiled.recorded) ∧
      Proxmox.compilePlan ⟨range.id, range.organizationId⟩ template
        (some compiled.recorded.binding) = .ok (.plan compiled.plan) := by
  unfold compilePlan requireProxmox
  simp only [except_unit_bind_eq_ok, raiseIf_eq_ok_iff, decide_eq_false_iff_not, not_not]
  refine and_congr_right fun _ => ?_
  cases planner.template with
  | none => simp [throw, throwThe, MonadExceptOf.throw]
  | some template =>
      simp only [except_bind_eq_ok, Option.some.injEq]
      constructor
      · rintro ⟨binding, hbinding, h⟩
        cases binding with
        | none => cases h
        | some recorded =>
            obtain ⟨outcome, houtcome, h⟩ := except_bind_eq_ok.mp h
            cases outcome with
            | blocked refusal => cases h
            | plan plan =>
                cases h
                exact ⟨template, rfl, hbinding, raising_eq_ok_iff.mp houtcome⟩
      · rintro ⟨_, rfl, hbinding, hplan⟩
        refine ⟨some compiled.recorded, hbinding, ?_⟩
        simp only [except_bind_eq_ok, raising_eq_ok_iff]
        exact ⟨_, hplan, rfl⟩

theorem requireCompiled_eq_ok_iff :
    requireCompiled planner range = .ok compiled ↔
      compilePlan planner range = .ok (.plan compiled) := by
  unfold requireCompiled
  rw [except_bind_eq_ok]
  constructor
  · rintro ⟨outcome, houtcome, h⟩
    cases outcome with
    | plan plan =>
        cases h
        exact houtcome
    | blocked refusal => cases h
  · intro h
    exact ⟨_, h, rfl⟩

theorem requireCompiledForCommand_eq_ok_iff :
    requireCompiledForCommand planner range = .ok compiled ↔
      compilePlan planner range = .ok (.plan compiled) := by
  unfold requireCompiledForCommand
  rw [except_bind_eq_ok]
  constructor
  · rintro ⟨binding, -, h⟩
    cases binding with
    | none => cases h
    | some recorded =>
        obtain ⟨outcome, houtcome, h⟩ := except_bind_eq_ok.mp h
        cases outcome with
        | plan plan =>
            cases h
            exact houtcome
        | blocked refusal => cases h
  · intro h
    obtain ⟨-, _, -, hbinding, -⟩ := compilePlan_eq_plan_iff.mp h
    exact ⟨_, hbinding, except_bind_eq_ok.mpr ⟨_, h, rfl⟩⟩

/-- A plan is stamped with its range's organization and the generation of its binding. -/
theorem ownership_of_compilePlan (h : compilePlan planner range = .ok (.plan compiled)) :
    compiled.plan.workload.topology.ownership.organizationId = range.organizationId ∧
      compiled.plan.workload.topology.ownership.operationGeneration =
        compiled.recorded.binding.generation := by
  obtain ⟨-, template, -, -, hplan⟩ := compilePlan_eq_plan_iff.mp h
  obtain ⟨_, _, _, workload, _, _, -, -, hworkload, hcompiled, hassembled⟩ :=
    Proxmox.compilePlan_eq_plan.mp hplan
  obtain ⟨-, _, _, ownership, -, -, -, hownership, hbuilt⟩ :=
    Proxmox.compileWorkload_eq_plan.mp hcompiled
  obtain ⟨-, hassembled⟩ := except_unit_bind_eq_ok.mp hassembled
  have hplan := Except.ok.inj hassembled
  obtain ⟨horganization, -, -, -, hgeneration, -, -⟩ := Proxmox.Ownership.make_eq_ok hownership
  have hrequest : workload.organizationId = range.organizationId ∧
      workload.operationGeneration = compiled.recorded.binding.generation := by
    unfold Proxmox.workloadRequest at hworkload
    split at hworkload
    · split at hworkload
      · split at hworkload
        · cases hworkload
          exact ⟨rfl, rfl⟩
        · cases hworkload
      · cases hworkload
    · cases hworkload
  rw [← hplan, ← hbuilt]
  exact ⟨horganization.trans hrequest.1, hgeneration.trans hrequest.2⟩

end

/-! ## Approvals -/

section
variable {range range' : RangeInstance}

theorem textField_eq_some_iff {payload : Json} {key text : Str} :
    textField payload key = some text ↔ payload.field key = .str text := by
  unfold textField
  cases payload.field key <;> simp

theorem readApproval_congr {kind field : Str} {act : ApprovalKind}
    (h : latestEvent range' kind = latestEvent range kind) :
    readApproval range' kind field act = readApproval range kind field act := by
  unfold readApproval
  rw [h]

/-- An approval names a hash when the newest event of its kind carries it. -/
theorem names_readApproval_iff {kind field hash : Str} {act : ApprovalKind} :
    ApprovalRecord.names (readApproval range kind field act) hash = true ↔
      hash ≠ [] ∧ ∃ event, latestEvent range kind = some event ∧ event.data.field field = .str hash := by
  unfold readApproval ApprovalRecord.names
  cases hevent : latestEvent range kind with
  | none => simp
  | some event =>
      simp only [Option.some.injEq, exists_eq_left', ← textField_eq_some_iff]
      cases textField event.data field with
      | none => simp
      | some text =>
          simp only [Option.some.injEq]
          cases hempty : text.isEmpty with
          | true =>
              obtain rfl := List.isEmpty_iff.mp hempty
              simp [eq_comm]
          | false =>
              have hne : text ≠ [] := by simpa [List.isEmpty_iff] using hempty
              simp only [Bool.false_eq_true, if_false, Option.any_some, decide_eq_true_eq]
              constructor
              · rintro rfl
                exact ⟨hne, rfl⟩
              · exact And.right

end

/-! ## The three families -/

/-- The event that approves the document of an operation. -/
def approvedEvent : RangeOperationKind → Str
  | .deploy => eventPlanApproved
  | .reset => eventResetPlanApproved
  | .destroy => eventDestroyPlanApproved

/-- The event that authorizes an operation. -/
def authorizedEvent : RangeOperationKind → Str
  | .deploy => eventApplyAuthorized
  | .reset => eventResetAuthorized
  | .destroy => eventDestroyAuthorized

/-- The field a family's events carry their hash in. -/
def hashField : RangeOperationKind → Str
  | .deploy => str "plan_hash"
  | .reset => str "reset_hash"
  | .destroy => str "destroy_hash"

/-- The hash of the document an operation is approved by. -/
def familyHash [Unicode] (kind : RangeOperationKind) (plan : Proxmox.CompiledRangePlan) : Str :=
  match kind with
  | .deploy => plan.planHash
  | .reset => plan.resetHash
  | .destroy => plan.destroyHash

/-- The approval of an operation's document. -/
def familyApproval (kind : RangeOperationKind) (range : RangeInstance) : Option ApprovalRecord :=
  match kind with
  | .deploy => planApproval range
  | .reset => resetPlanApproval range
  | .destroy => destroyPlanApproval range

/-- The authorization of an operation. -/
def familyAuthorization (kind : RangeOperationKind) (range : RangeInstance) :
    Option ApprovalRecord :=
  match kind with
  | .deploy => applyAuthorization range
  | .reset => resetAuthorization range
  | .destroy => destroyAuthorization range

/-- Every hash of a compiled plan has its algorithm in front. -/
theorem familyHash_ne [Unicode] {planner : Planner} {range : RangeInstance}
    {compiled : CompiledRangePlan} (h : compilePlan planner range = .ok (.plan compiled))
    (kind : RangeOperationKind) : familyHash kind compiled.plan ≠ [] := by
  obtain ⟨-, template, -, -, hplan⟩ := compilePlan_eq_plan_iff.mp h
  obtain ⟨_, _, _, _, _, _, -, -, -, -, hassembled⟩ := Proxmox.compilePlan_eq_plan.mp hplan
  obtain ⟨-, hassembled⟩ := except_unit_bind_eq_ok.mp hassembled
  have hplan := Except.ok.inj hassembled
  rw [← hplan]
  cases kind <;> exact List.append_ne_nil_of_left_ne_nil (by simp) _

section
variable {kind : RangeOperationKind} {range range' : RangeInstance} {hash : Str}

theorem names_familyAuthorization_iff :
    ApprovalRecord.names (familyAuthorization kind range) hash = true ↔
      hash ≠ [] ∧ ∃ event, latestEvent range (authorizedEvent kind) = some event ∧
        event.data.field (hashField kind) = .str hash := by
  cases kind <;> exact names_readApproval_iff

theorem names_familyApproval_iff :
    ApprovalRecord.names (familyApproval kind range) hash = true ↔
      hash ≠ [] ∧ ∃ event, latestEvent range (approvedEvent kind) = some event ∧
        event.data.field (hashField kind) = .str hash := by
  cases kind <;> exact names_readApproval_iff

theorem familyAuthorization_congr
    (h : latestEvent range' (authorizedEvent kind) = latestEvent range (authorizedEvent kind)) :
    familyAuthorization kind range' = familyAuthorization kind range := by
  cases kind <;> exact readApproval_congr h

theorem familyApproval_congr
    (h : latestEvent range' (approvedEvent kind) = latestEvent range (approvedEvent kind)) :
    familyApproval kind range' = familyApproval kind range := by
  cases kind <;> exact readApproval_congr h

variable [Unicode] {planner : Planner}

/-- The gate of the plain routes lets an operation through when its own family authorized the hash the
range compiles to. -/
theorem requireOperationAuthorized_eq_ok_iff (hprovider : range.provider = proxmoxProvider) :
    requireOperationAuthorized planner range kind = .ok () ↔
      ∃ compiled, compilePlan planner range = .ok (.plan compiled) ∧
        ApprovalRecord.names (familyAuthorization kind range)
          (familyHash kind compiled.plan) = true := by
  unfold requireOperationAuthorized
  rw [if_neg (not_not.mpr hprovider), except_bind_eq_ok]
  constructor
  · rintro ⟨outcome, houtcome, h⟩
    cases outcome with
    | blocked refusal => cases h
    | plan compiled =>
        refine ⟨compiled, houtcome, ?_⟩
        cases kind <;> exact raiseIf_not_eq_ok_iff.mp h
  · rintro ⟨compiled, hcompiled, hnames⟩
    refine ⟨_, hcompiled, ?_⟩
    cases kind <;> exact raiseIf_not_eq_ok_iff.mpr hnames

end

/-! ## The acts -/

/-- The operation an act belongs to. -/
def ApprovalKind.family : ApprovalKind → RangeOperationKind
  | .planApproval => .deploy
  | .applyAuthorization => .deploy
  | .resetPlanApproval => .reset
  | .resetAuthorization => .reset
  | .destroyPlanApproval => .destroy
  | .destroyAuthorization => .destroy

/-- Whether an act is the second of its family. -/
def ApprovalKind.authorizes : ApprovalKind → Bool
  | .planApproval => false
  | .applyAuthorization => true
  | .resetPlanApproval => false
  | .resetAuthorization => true
  | .destroyPlanApproval => false
  | .destroyAuthorization => true

section
variable [Unicode]

/-- What an act writes. -/
def Act.recorded (act : Act) (range : RangeInstance) (principal : Principal) (hash : Str) :
    RangeInstance :=
  range.recordEvent act.event (act.message hash) act.level
    (.obj [(act.field, .str hash), (str "approved_by", .str principal.userId)])

theorem ApprovalKind.event_act (kind : ApprovalKind) :
    kind.act.event =
      if kind.authorizes then authorizedEvent kind.family else approvedEvent kind.family := by
  cases kind <;> rfl

theorem ApprovalKind.field_act (kind : ApprovalKind) : kind.act.field = hashField kind.family := by
  cases kind <;> rfl

theorem ApprovalKind.hash_act (kind : ApprovalKind) : kind.act.hash = familyHash kind.family := by
  cases kind <;> rfl

/-- An authorization asks for the approval of its own family. -/
theorem ApprovalKind.requires_act {kind : ApprovalKind} (h : kind.authorizes = true) :
    ∃ missing, kind.act.requires = some ⟨familyApproval kind.family, missing⟩ := by
  cases kind with
  | planApproval | resetPlanApproval | destroyPlanApproval => cases h
  | applyAuthorization | resetAuthorization | destroyAuthorization => exact ⟨_, rfl⟩

variable {planner : Planner} {range range' : RangeInstance} {principal : Principal} {declared : Str}

/-- An act goes through for a requester who may perform it, on a Proxmox range that compiles to the
declared hash; an authorization needs its approval. -/
theorem Act.perform_eq_ok_iff {act : Act} {record : ApprovalRecord} :
    act.perform planner range principal declared = .ok (range', record) ↔
      getRange range principal = .ok () ∧ range.provider = proxmoxProvider ∧
        principal.require act.permission = .ok () ∧
        (∃ compiled, compilePlan planner range = .ok (.plan compiled) ∧
          declared = act.hash compiled.plan) ∧
        act.checkApproved range declared = .ok () ∧ range' = act.recorded range principal declared ∧
        record = ⟨act.operationKind, declared, some principal.userId, range.eventSequence + 1⟩ := by
  unfold Act.perform requireProxmox
  simp only [except_unit_bind_eq_ok, refusing_eq_ok_iff, raiseIf_eq_ok_iff, decide_eq_false_iff_not,
    not_not]
  refine and_congr_right fun _ => and_congr_right fun _ => and_congr_right fun _ => ?_
  rw [except_bind_eq_ok]
  simp only [requireCompiled_eq_ok_iff, except_unit_bind_eq_ok, raiseIf_eq_ok_iff,
    decide_eq_false_iff_not, not_not]
  constructor
  · rintro ⟨compiled, hcompiled, rfl, happroved, h⟩
    cases h
    exact ⟨⟨compiled, hcompiled, rfl⟩, happroved, rfl, rfl⟩
  · rintro ⟨⟨compiled, hcompiled, rfl⟩, happroved, rfl, rfl⟩
    exact ⟨compiled, hcompiled, rfl, happroved, rfl⟩

/-- What stands before an authorization. -/
theorem Act.checkApproved_eq_ok_iff {act : Act} {hash : Str} :
    act.checkApproved range hash = .ok () ↔ ∀ prerequisite, act.requires = some prerequisite →
      ApprovalRecord.names (prerequisite.approval range) hash = true := by
  unfold Act.checkApproved
  cases act.requires with
  | none => simp [Pure.pure, Except.pure]
  | some prerequisite => simp only [raiseIf_not_eq_ok_iff, Option.some.injEq, forall_eq']

/-- An act names the hash the range compiles to and appends one event. -/
theorem Act.perform_spec {act : Act} {record : ApprovalRecord}
    (h : act.perform planner range principal declared = .ok (range', record)) :
    (∃ compiled, compilePlan planner range = .ok (.plan compiled) ∧
      declared = act.hash compiled.plan) ∧
      (∀ prerequisite, act.requires = some prerequisite →
        ApprovalRecord.names (prerequisite.approval range) declared = true) ∧
      range' = act.recorded range principal declared := by
  obtain ⟨-, -, -, hcompiled, happroved, hrecorded, -⟩ := Act.perform_eq_ok_iff.mp h
  exact ⟨hcompiled, Act.checkApproved_eq_ok_iff.mp happroved, hrecorded⟩

end

/-! ## The key lookup -/

section
variable {range : RangeInstance} {kind : CommandKind} {key : Str}

theorem CommandKind.mem_members (kind : CommandKind) : kind ∈ members := by
  cases kind <;> decide

/-- The commands write events of different kinds. -/
theorem CommandKind.event_injective {kind other : CommandKind} (h : kind.event = other.event) :
    kind = other := by
  cases kind <;> cases other <;>
    first
      | rfl
      | simp only [event, str_inj, String.reduceEq] at h

theorem mem_commandEvents {event : LifecycleEvent} :
    event ∈ commandEvents range kind ↔ event ∈ range.events ∧ event.kind = kind.event := by
  simp [commandEvents]

/-- An event stands under a key when a command wrote it with that key. -/
theorem mem_keyHolders {event : LifecycleEvent} : (kind, event) ∈ keyHolders range key ↔
    event ∈ range.events ∧ event.kind = kind.event ∧
      event.data.field (str "idempotency_key") = .str key := by
  unfold keyHolders
  simp only [List.mem_flatMap, List.mem_map, List.mem_filter, mem_commandEvents, decide_eq_true_eq,
    Prod.mk.injEq]
  constructor
  · rintro ⟨_, -, _, ⟨⟨hmem, hkind⟩, hkey⟩, rfl, rfl⟩
    exact ⟨hmem, hkind, hkey⟩
  · rintro ⟨hmem, hkind, hkey⟩
    exact ⟨kind, kind.mem_members, event, ⟨⟨hmem, hkind⟩, hkey⟩, rfl, rfl⟩

variable [Unicode] {envelope : CommandEnvelope} {digest : Str} {record : CommandRecord}

/-- A request is new when no command was recorded under its key. -/
theorem findReplay_eq_none_iff : findReplay range kind envelope digest = .ok none ↔
    keyHolders range envelope.idempotencyKey = [] := by
  unfold findReplay
  cases hholders : keyHolders range envelope.idempotencyKey with
  | nil => simp [Pure.pure, Except.pure]
  | cons first rest =>
      obtain ⟨other, event⟩ := first
      simp only [reduceCtorEq, iff_false]
      intro h
      split at h
      · obtain ⟨_, -, h⟩ := except_bind_eq_ok.mp h
        cases h
      · cases h

/-- A request is answered from the log when the first event under its key is of its kind and has its
digest. -/
theorem findReplay_eq_some_iff : findReplay range kind envelope digest = .ok (some record) ↔
    ∃ event rest, keyHolders range envelope.idempotencyKey = (kind, event) :: rest ∧
      event.data.field (str "request_digest") = .str digest ∧
      recordFromEvent range kind event true = .ok record := by
  unfold findReplay
  cases hholders : keyHolders range envelope.idempotencyKey with
  | nil => simp [Pure.pure, Except.pure]
  | cons first rest =>
      obtain ⟨other, event⟩ := first
      dsimp only
      constructor
      · intro h
        split at h
        · next hsame =>
            obtain ⟨rfl, hdigest⟩ := hsame
            obtain ⟨found, hfound, h⟩ := except_bind_eq_ok.mp h
            cases h
            exact ⟨event, rest, rfl, hdigest, hfound⟩
        · cases h
      · rintro ⟨_, _, hcons, hdigest, hrecord⟩
        cases hcons
        rw [if_pos ⟨rfl, hdigest⟩]
        exact except_bind_eq_ok.mpr ⟨record, hrecord, rfl⟩

end

end Secp.Commands
