import Secp.Proxmox.Lifecycle
import Secp.Python.Payload
import Secp.Range.Service

/-!
# Approving and authorizing a Proxmox plan

The plan of a range is compiled from the newest recorded observation. Six acts refer to it by hash: in
each of the families apply, reset and destroy a document is approved and then its operation is
authorized. An act appends one event to the timeline and stops; which approval stands is read back off
the newest event of its kind. `requireOperationAuthorized` is the gate of the plain routes.
-/

namespace Secp.Commands

open Secp.Python Secp.Range
open Secp.Proxmox (CompileOutcome)

/-! ## Why a request does not return -/

inductive Failure where
  | refused (error : DomainError)
  /-- An exception of the compiler no service handles. -/
  | raised (exception : Proxmox.Raised)
  /-- A value in the timeline that does not read back. -/
  | unreadable (exception : PayloadError)
  /-- More rows than a query may return. -/
  | multipleResults

/-- A service of the range that is called on the way. -/
def refusing {α : Type} : Except DomainError α → Except Failure α
  | .ok a => .ok a
  | .error error => .error (.refused error)

/-- A compiler that is called on the way. -/
def raising {α : Type} : Except Proxmox.Raised α → Except Failure α
  | .ok a => .ok a
  | .error exception => .error (.raised exception)

/-- A value read out of the timeline. -/
def reading {α : Type} : Except PayloadError α → Except Failure α
  | .ok a => .ok a
  | .error exception => .error (.unreadable exception)

@[simp] theorem refusing_eq_ok_iff {α : Type} {result : Except DomainError α} {a : α} :
    refusing result = .ok a ↔ result = .ok a := by
  cases result <;> simp [refusing]

@[simp] theorem raising_eq_ok_iff {α : Type} {result : Except Proxmox.Raised α} {a : α} :
    raising result = .ok a ↔ result = .ok a := by
  cases result <;> simp [raising]

/-- `ProxmoxNotApplicableError`. -/
def notApplicableError (message : Str) : DomainError := ⟨409, str "range_not_proxmox", message⟩

/-- `ProxmoxPlanBlockedError`. -/
def planBlockedError (message : Str) : DomainError := ⟨409, str "proxmox_plan_blocked", message⟩

/-- `ProxmoxHashMismatchError`. -/
def hashMismatchError (message : Str) : DomainError :=
  ⟨409, str "proxmox_plan_hash_mismatch", message⟩

/-- `ProxmoxApprovalMissingError`. -/
def approvalMissingError (message : Str) : DomainError :=
  ⟨409, str "proxmox_approval_missing", message⟩

/-! ## The timeline -/

def eventObservation : Str := str "proxmox_observation_recorded"

def eventPlanApproved : Str := str "proxmox_plan_approved"

def eventApplyAuthorized : Str := str "proxmox_apply_authorized"

def eventDestroyPlanApproved : Str := str "proxmox_destroy_plan_approved"

def eventDestroyAuthorized : Str := str "proxmox_destroy_authorized"

def eventResetPlanApproved : Str := str "proxmox_reset_plan_approved"

def eventResetAuthorized : Str := str "proxmox_reset_authorized"

/-- `_latest_event`. -/
def latestEvent (range : RangeInstance) (kind : Str) : Option LifecycleEvent :=
  (range.events.filter fun event => event.kind = kind).getLast?

/-! ## Compiling -/

def proxmoxProvider : Str := str "proxmox"

section
variable [Unicode]

/-- A binding as it was recorded, with what the compiler does not read of it. -/
structure RecordedBinding where
  binding : Proxmox.ProxmoxBinding
  snapshotId : Option Str
  observedAt : Option Int

/-- `OBSERVATION_FRESHNESS_SECONDS`. -/
def observationFreshnessSeconds : Int := 3600

inductive ObservationFreshness where
  | fresh
  | stale
  | undetermined
  | absent
  deriving DecidableEq

def ObservationFreshness.value : ObservationFreshness → Str
  | .fresh => str "fresh"
  | .stale => str "stale"
  | .undetermined => str "undetermined"
  | .absent => str "absent"

/-- How far a recorded observation can still be relied on. -/
def RecordedBinding.freshness (recorded : RecordedBinding) (now : Datetime) : ObservationFreshness :=
  match recorded.observedAt with
  | none => .undetermined
  | some observedAt =>
      if (now.micros : Int) - observedAt ≤ observationFreshnessSeconds * microsPerSecond then .fresh
      else .stale

/-- What compiling a range reads besides its rows: the slug of its template, what the shipped catalog
has under that slug, and `read_binding`. -/
structure Planner where
  slug : Str
  template : Option Proxmox.CatalogTemplate
  readBinding : Json → Except Failure RecordedBinding

/-- A compiled plan with the recorded binding it was compiled from. -/
structure CompiledRangePlan where
  recorded : RecordedBinding
  plan : Proxmox.CompiledRangePlan

variable (planner : Planner) (range : RangeInstance)

/-- `load_binding`. -/
def loadBinding : Except Failure (Option RecordedBinding) :=
  match latestEvent range eventObservation with
  | none => pure none
  | some event => do
      let recorded ← planner.readBinding event.data
      pure (some recorded)

/-- `require_proxmox`. -/
def requireProxmox : Except Failure Unit :=
  raiseIf (range.provider ≠ proxmoxProvider) (.refused (notApplicableError
    (str "range '" ++ range.name ++ str "' runs on provider '" ++ range.provider ++
      str "', which has no Proxmox lifecycle. The Proxmox plan, apply authorization, destroy " ++
      str "authorization and residue proof exist only for ranges created from a Proxmox template.")))

/-- `compile_plan`. -/
def compilePlan : Except Failure (CompileOutcome CompiledRangePlan) := do
  requireProxmox range
  match planner.template with
  | none => throw (.refused (planBlockedError
      (str "template '" ++ planner.slug ++ str "' is no longer in the shipped catalog; the plan " ++
        str "cannot be recompiled from a definition this build does not have")))
  | some template => do
      match ← loadBinding planner range with
      | none => pure (.blocked Proxmox.noObservationBlock)
      | some recorded => do
          match ← raising (Proxmox.compilePlan ⟨range.id, range.organizationId⟩ template
              (some recorded.binding)) with
          | .blocked refusal => pure (.blocked refusal)
          | .plan plan => pure (.plan ⟨recorded, plan⟩)

/-- `BlockedPlan.describe`. -/
def describe (refusal : Proxmox.BlockedPlan) : Str :=
  join ['\n']
    ((str "cannot compile: " ++ natStr refusal.missing.length ++ str " unmet prerequisite(s)") ::
      (sortedBy (fun item : Proxmox.MissingPrerequisite => (item.reasonId, item.observation))
        refusal.missing).map fun item =>
          str "  - [" ++ item.reasonId ++ str "] " ++ item.detail ++ str " (needs observation: " ++
            item.observation ++ str ")")

/-- `_require_compiled` of the authorization acts. -/
def requireCompiled : Except Failure CompiledRangePlan := do
  match ← compilePlan planner range with
  | .plan compiled => pure compiled
  | .blocked refusal => throw (.refused (planBlockedError
      (str "this range's plan does not compile, so there is nothing to authorize: " ++
        describe refusal)))

end

/-! ## Approvals -/

inductive ApprovalKind where
  | planApproval
  | applyAuthorization
  | resetPlanApproval
  | resetAuthorization
  | destroyPlanApproval
  | destroyAuthorization
  deriving DecidableEq

/-- One recorded approval or authorization. -/
structure ApprovalRecord where
  operationKind : ApprovalKind
  approvedHash : Str
  approvedBy : Option Str
  sequence : Nat

/-- A field that holds a text. -/
def textField (payload : Json) (key : Str) : Option Str :=
  match payload.field key with
  | .str text => some text
  | _ => none

/-- `_read_approval`. -/
def readApproval (range : RangeInstance) (kind field : Str) (act : ApprovalKind) :
    Option ApprovalRecord :=
  match latestEvent range kind with
  | none => none
  | some event =>
      match textField event.data field with
      | none => none
      | some hash =>
          if hash.isEmpty then none
          else some ⟨act, hash, textField event.data (str "approved_by"), event.sequence⟩

def planApproval (range : RangeInstance) : Option ApprovalRecord :=
  readApproval range eventPlanApproved (str "plan_hash") .planApproval

def applyAuthorization (range : RangeInstance) : Option ApprovalRecord :=
  readApproval range eventApplyAuthorized (str "plan_hash") .applyAuthorization

def resetPlanApproval (range : RangeInstance) : Option ApprovalRecord :=
  readApproval range eventResetPlanApproved (str "reset_hash") .resetPlanApproval

def resetAuthorization (range : RangeInstance) : Option ApprovalRecord :=
  readApproval range eventResetAuthorized (str "reset_hash") .resetAuthorization

def destroyPlanApproval (range : RangeInstance) : Option ApprovalRecord :=
  readApproval range eventDestroyPlanApproved (str "destroy_hash") .destroyPlanApproval

def destroyAuthorization (range : RangeInstance) : Option ApprovalRecord :=
  readApproval range eventDestroyAuthorized (str "destroy_hash") .destroyAuthorization

/-- `record is not None and record.approved_hash == hash`. -/
def ApprovalRecord.names (record : Option ApprovalRecord) (hash : Str) : Bool :=
  record.any fun record => record.approvedHash = hash

/-! ## The six acts -/

section
variable [Unicode]

/-- What an authorization asks for first, and the refusal without it. -/
structure Prerequisite where
  approval : RangeInstance → Option ApprovalRecord
  missing : Str → Str

/-- One of the six acts: the document it names by hash, the event it appends, its texts. -/
structure Act where
  operationKind : ApprovalKind
  permission : Permission
  hash : Proxmox.CompiledRangePlan → Str
  mismatch : Str → Str → Str
  requires : Option Prerequisite := none
  event : Str
  field : Str
  message : Str → Str
  level : RangeEventLevel := .info

/-- An authorization needs the approval of the same hash; an approval needs nothing. -/
def Act.checkApproved (act : Act) (range : RangeInstance) (hash : Str) : Except Failure Unit :=
  match act.requires with
  | none => pure ()
  | some prerequisite =>
      raiseIf (!ApprovalRecord.names (prerequisite.approval range) hash)
        (.refused (approvalMissingError (prerequisite.missing hash)))

/-- The steps every act takes. -/
def Act.perform (act : Act) (planner : Planner) (range : RangeInstance) (principal : Principal)
    (declared : Str) : Except Failure (RangeInstance × ApprovalRecord) := do
  refusing (getRange range principal)
  requireProxmox range
  refusing (principal.require act.permission)
  let compiled ← requireCompiled planner range
  let hash := act.hash compiled.plan
  raiseIf (declared ≠ hash) (.refused (hashMismatchError (act.mismatch declared hash)))
  act.checkApproved range hash
  let recorded := range.recordEvent act.event (act.message hash) act.level
    (.obj [(act.field, .str hash), (str "approved_by", .str principal.userId)])
  pure (recorded, ⟨act.operationKind, hash, some principal.userId, recorded.eventSequence⟩)

/-- `approve_plan`. -/
def approvePlan : Act where
  operationKind := .planApproval
  permission := .exerciseApply
  hash := Proxmox.CompiledRangePlan.planHash
  mismatch declared hash :=
    str "the plan has changed since it was read: you approved " ++ declared ++
      str ", the current plan is " ++ hash ++
      str ". Re-read the plan and approve the document you actually saw."
  event := eventPlanApproved
  field := str "plan_hash"
  message hash := str "Proxmox plan " ++ hash ++ str " approved"

/-- `authorize_apply`. -/
def authorizeApply : Act where
  operationKind := .applyAuthorization
  permission := .exerciseApply
  hash := Proxmox.CompiledRangePlan.planHash
  mismatch declared hash :=
    str "the plan has changed since it was approved: you authorized " ++ declared ++
      str ", the current plan is " ++ hash
  requires := some {
    approval := planApproval
    missing := fun hash =>
      str "this plan has not been approved, so apply cannot be authorized. Approve the plan (" ++
        hash ++ str ") first; approval and apply authorization are separate acts." }
  event := eventApplyAuthorized
  field := str "plan_hash"
  message hash := str "Apply authorized for Proxmox plan " ++ hash

/-- `approve_reset_plan`. -/
def approveResetPlan : Act where
  operationKind := .resetPlanApproval
  permission := .exerciseReset
  hash := Proxmox.CompiledRangePlan.resetHash
  mismatch declared hash :=
    str "the reset scope has changed since it was read: you approved " ++ declared ++
      str ", the current reset scope is " ++ hash
  event := eventResetPlanApproved
  field := str "reset_hash"
  message hash := str "Proxmox reset plan " ++ hash ++ str " approved"
  level := .warning

/-- `authorize_reset`. -/
def authorizeReset : Act where
  operationKind := .resetAuthorization
  permission := .exerciseReset
  hash := Proxmox.CompiledRangePlan.resetHash
  mismatch declared hash :=
    str "the reset scope has changed since it was approved: you authorized " ++ declared ++
      str ", the current reset scope is " ++ hash
  requires := some {
    approval := resetPlanApproval
    missing := fun hash =>
      str "this reset plan has not been approved, so a reset cannot be authorized. Approve the " ++
        str "reset scope (" ++ hash ++
        str ") first; it names the guests that will be destroyed." }
  event := eventResetAuthorized
  field := str "reset_hash"
  message hash := str "Reset authorized for Proxmox reset plan " ++ hash
  level := .warning

/-- `approve_destroy_plan`. -/
def approveDestroyPlan : Act where
  operationKind := .destroyPlanApproval
  permission := .exerciseDestroy
  hash := Proxmox.CompiledRangePlan.destroyHash
  mismatch declared hash :=
    str "the destroy plan has changed since it was read: you approved " ++ declared ++
      str ", the current destroy plan is " ++ hash
  event := eventDestroyPlanApproved
  field := str "destroy_hash"
  message hash := str "Proxmox destroy plan " ++ hash ++ str " approved"

/-- `authorize_destroy`. -/
def authorizeDestroy : Act where
  operationKind := .destroyAuthorization
  permission := .exerciseDestroy
  hash := Proxmox.CompiledRangePlan.destroyHash
  mismatch declared hash :=
    str "the destroy plan has changed since it was approved: you authorized " ++ declared ++
      str ", the current destroy plan is " ++ hash
  requires := some {
    approval := destroyPlanApproval
    missing := fun hash =>
      str "this destroy plan has not been approved, so destroy cannot be authorized. Approve the " ++
        str "destroy plan (" ++ hash ++ str ") first." }
  event := eventDestroyAuthorized
  field := str "destroy_hash"
  message hash := str "Destroy authorized for Proxmox destroy plan " ++ hash
  level := .warning

def ApprovalKind.act : ApprovalKind → Act
  | .planApproval => approvePlan
  | .applyAuthorization => authorizeApply
  | .resetPlanApproval => approveResetPlan
  | .resetAuthorization => authorizeReset
  | .destroyPlanApproval => approveDestroyPlan
  | .destroyAuthorization => authorizeDestroy

/-! ## The gate of the plain routes -/

/-- The refusal of an operation its family has not authorized. -/
def notAuthorized (kind : RangeOperationKind) (hash : Str) : Str :=
  match kind with
  | .deploy =>
      str "apply is not authorized for this range's current plan (" ++ hash ++
        str "). Approving a plan and authorizing its apply are separate acts. Neither a reset nor " ++
        str "a destroy authorization authorizes an apply."
  | .reset =>
      str "reset is not authorized for this range's current reset scope (" ++ hash ++
        str "). A reset DESTROYS every guest in this range and rebuilds it, so it needs an " ++
        str "approval naming the guests that will be destroyed. An apply authorization permits " ++
        str "creating them; it does not permit destroying them."
  | .destroy =>
      str "destroy is not authorized for this range's current destroy plan (" ++ hash ++
        str "). Approve the destroy plan and then authorize destroy; neither an apply nor a reset " ++
        str "authorization authorizes a destroy."

/-- `require_operation_authorized`. -/
def requireOperationAuthorized (planner : Planner) (range : RangeInstance)
    (kind : RangeOperationKind) : Except Failure Unit :=
  if range.provider ≠ proxmoxProvider then pure ()
  else do
    match ← compilePlan planner range with
    | .blocked refusal => throw (.refused (planBlockedError
        (str "this Proxmox range has no compilable plan, so no " ++ kind.value ++
          str " can be enqueued: " ++ describe refusal)))
    | .plan compiled =>
        match kind with
        | .deploy =>
            raiseIf (!ApprovalRecord.names (applyAuthorization range) compiled.plan.planHash)
              (.refused (approvalMissingError (notAuthorized kind compiled.plan.planHash)))
        | .reset =>
            raiseIf (!ApprovalRecord.names (resetAuthorization range) compiled.plan.resetHash)
              (.refused (approvalMissingError (notAuthorized kind compiled.plan.resetHash)))
        | .destroy =>
            raiseIf (!ApprovalRecord.names (destroyAuthorization range) compiled.plan.destroyHash)
              (.refused (approvalMissingError (notAuthorized kind compiled.plan.destroyHash)))

end

end Secp.Commands
