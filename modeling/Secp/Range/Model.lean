import Secp.Python.Datetime
import Secp.Python.Json
import Secp.Worker.Residue

/-!
# Ranges, operations and resources

The rows one range owns: the instance itself, its operations, its provider resources, the lifecycle
events, the teardown evidence and the competition. Rows are never deleted, so a resource row is
identified by its place in the table. A session that raises is rolled back: every operation below
returns the rows it would commit.
-/

namespace Secp.Range

open Secp.Python
open Secp.Worker (TeardownResourceOutcome ResidueVerdict)

/-! ## Vocabularies -/

inductive RangeState where
  | draft
  | deploying
  | ready
  | active
  | resetting
  | recoveryRequired
  | failed
  | destroying
  | destroyed
  deriving DecidableEq

def RangeState.value : RangeState → Str
  | .draft => str "draft"
  | .deploying => str "deploying"
  | .ready => str "ready"
  | .active => str "active"
  | .resetting => str "resetting"
  | .recoveryRequired => str "recovery_required"
  | .failed => str "failed"
  | .destroying => str "destroying"
  | .destroyed => str "destroyed"

/-- `RANGE_TERMINAL_STATES`. -/
def terminalStates : List RangeState := [.destroyed]

inductive RangeOperationKind where
  | deploy
  | reset
  | destroy
  deriving DecidableEq

def RangeOperationKind.value : RangeOperationKind → Str
  | .deploy => str "deploy"
  | .reset => str "reset"
  | .destroy => str "destroy"

/-- The value with a capital. -/
def RangeOperationKind.capitalized : RangeOperationKind → Str
  | .deploy => str "Deploy"
  | .reset => str "Reset"
  | .destroy => str "Destroy"

/-- `_ALLOWED_FROM`: the states each operation may start from. -/
def RangeOperationKind.allowedFrom : RangeOperationKind → List RangeState
  | .deploy => [.draft, .failed]
  | .reset => [.ready, .active, .failed]
  | .destroy => [.draft, .ready, .active, .failed, .recoveryRequired]

/-- `_IN_FLIGHT`: the state of a range while the operation runs. -/
def RangeOperationKind.inFlight : RangeOperationKind → RangeState
  | .deploy => .deploying
  | .reset => .resetting
  | .destroy => .destroying

inductive RangeOperationStatus where
  | pending
  | running
  | succeeded
  | failed
  | unproven
  deriving DecidableEq

def RangeOperationStatus.value : RangeOperationStatus → Str
  | .pending => str "pending"
  | .running => str "running"
  | .succeeded => str "succeeded"
  | .failed => str "failed"
  | .unproven => str "unproven"

/-- `_IN_FLIGHT_OPERATION_STATUSES`. -/
def inFlightStatuses : List RangeOperationStatus := [.pending, .running]

inductive RangeStepStatus where
  | pending
  | running
  | succeeded
  | failed
  | unproven
  deriving DecidableEq

inductive RangeResourceKind where
  | network
  | container
  | virtualMachine
  | lxcContainer
  | sdnZone
  | vnet
  | subnet
  | firewallGroup
  | ipSet
  | egressGateway
  deriving DecidableEq

def RangeResourceKind.value : RangeResourceKind → Str
  | .network => str "network"
  | .container => str "container"
  | .virtualMachine => str "virtual_machine"
  | .lxcContainer => str "lxc_container"
  | .sdnZone => str "sdn_zone"
  | .vnet => str "vnet"
  | .subnet => str "subnet"
  | .firewallGroup => str "firewall_group"
  | .ipSet => str "ip_set"
  | .egressGateway => str "egress_gateway"

inductive RangeResourceState where
  | pending
  | creating
  | created
  | verified
  | removing
  | removed
  | unproven
  | failed
  deriving DecidableEq

inductive RangeEventLevel where
  | info
  | warning
  | error
  deriving DecidableEq

inductive CompetitionState where
  | draft
  | running
  | stopped
  deriving DecidableEq

/-- The permissions the range services ask for. -/
inductive Permission where
  | exerciseOperate
  | planGenerate
  | planApprove
  | exerciseApply
  | exerciseReset
  | exerciseDestroy
  deriving DecidableEq

def Permission.value : Permission → Str
  | .exerciseOperate => str "exercise:operate"
  | .planGenerate => str "plan:generate"
  | .planApprove => str "plan:approve"
  | .exerciseApply => str "exercise:apply"
  | .exerciseReset => str "exercise:reset"
  | .exerciseDestroy => str "exercise:destroy"

/-- `_KIND_PERMISSION`. -/
def RangeOperationKind.permission : RangeOperationKind → Permission
  | .deploy => .exerciseApply
  | .reset => .exerciseReset
  | .destroy => .exerciseDestroy

/-! ## Refusals -/

structure DomainError where
  httpStatus : Nat
  code : Str
  message : Str
  deriving DecidableEq

def authorizationError (message : Str) : DomainError := ⟨403, str "forbidden", message⟩

def notFoundError (message : Str) : DomainError := ⟨404, str "not_found", message⟩

def validationFailedError (message : Str) : DomainError := ⟨422, str "validation_failed", message⟩

def rangeInvalidTransitionError (message : Str) : DomainError :=
  ⟨409, str "range_invalid_transition", message⟩

def rangeOperationNotStaleError (message : Str) : DomainError :=
  ⟨409, str "range_operation_not_stale", message⟩

/-- A row that breaks a unique constraint; no service catches it. -/
def integrityError : DomainError := ⟨500, str "integrity_error", []⟩

/-- `if condition: raise error`. -/
def raiseIf {ε : Type} (condition : Bool) (error : ε) : Except ε Unit :=
  if condition then .error error else .ok ()

theorem raiseIf_eq_ok_iff {ε : Type} {condition : Bool} {error : ε} :
    raiseIf condition error = .ok () ↔ condition = false := by
  unfold raiseIf
  cases condition <;> simp

structure Principal where
  userId : Str
  organizationId : Str
  permissions : List Permission
  deriving DecidableEq

def Principal.require (principal : Principal) (permission : Permission) :
    Except DomainError Unit :=
  raiseIf (permission ∉ principal.permissions)
    (authorizationError (str "missing required permission '" ++ permission.value ++ str "'"))

def Principal.requireOrg (principal : Principal) (organizationId : Str) :
    Except DomainError Unit :=
  raiseIf (principal.organizationId ≠ organizationId)
    (authorizationError (str "cross-organization access is not permitted"))

/-! ## Rows -/

/-- One step of an operation, as the provider declared it. -/
structure RecordedStep where
  key : Str
  label : Str
  status : RangeStepStatus := .pending
  detail : Option Str := none
  stampedAt : Option Str := none
  deriving DecidableEq

structure Operation where
  id : Str
  organizationId : Str
  rangeInstanceId : Str
  kind : RangeOperationKind
  status : RangeOperationStatus := .pending
  phase : Option Str := none
  completedSteps : Nat := 0
  totalSteps : Nat := 0
  steps : List RecordedStep := []
  failureCode : Option Str := none
  failureMessage : Option Str := none
  requestedBy : Str
  startedAt : Datetime
  finishedAt : Option Datetime := none
  deriving DecidableEq

/-- Pending or running. -/
def Operation.inFlight (op : Operation) : Bool := op.status ∈ inFlightStatuses

/-- One resource as the provider observed it. -/
structure ResourceObservation where
  kind : RangeResourceKind
  name : Str
  componentKey : Option Str := none
  externalId : Option Str := none
  image : Option Str := none
  imageDigest : Option Str := none
  ownerLabel : Str := []
  hostPort : Option Int := none
  verified : Bool := false
  detail : Json := .obj []

/-- One resource the provider created for the range. -/
structure ResourceRow where
  kind : RangeResourceKind
  provider : Str
  name : Str
  componentKey : Option Str := none
  externalId : Option Str := none
  image : Option Str := none
  imageDigest : Option Str := none
  ownerLabel : Str
  state : RangeResourceState := .pending
  hostPort : Option Int := none
  detail : Json := .obj []
  removedAt : Option Datetime := none

/-- Not known to be gone. -/
def ResourceRow.live (row : ResourceRow) : Bool := row.removedAt.isNone

/-- `_observation_of`. -/
def ResourceRow.observation (row : ResourceRow) : ResourceObservation where
  kind := row.kind
  name := row.name
  componentKey := row.componentKey
  externalId := row.externalId
  image := row.image
  imageDigest := row.imageDigest
  ownerLabel := row.ownerLabel
  hostPort := row.hostPort
  verified := row.state = .verified
  detail := row.detail

/-- One line of the append-only timeline. -/
structure LifecycleEvent where
  sequence : Nat
  kind : Str
  level : RangeEventLevel
  message : Str
  data : Json
  operationId : Option Str

/-- What the evidence says about one resource. -/
structure EvidenceResource where
  kind : RangeResourceKind
  name : Str
  externalId : Option Str
  verdict : TeardownResourceOutcome
  detail : Option Str

/-- What a teardown proved. -/
structure TeardownEvidence where
  operationId : Str
  verdict : ResidueVerdict
  probeReachable : Bool
  expectedCount : Nat
  removedConfirmed : Nat
  stillPresent : Nat
  unprovenCount : Nat
  reason : Option Str
  resources : List EvidenceResource

structure CompetitionTeam where
  id : Str
  name : Str
  slug : Str
  deriving DecidableEq

/-- The solve a team holds. -/
structure CompetitionScore where
  teamId : Str
  challengeId : Str
  points : Int
  awardedAt : Datetime
  deriving DecidableEq

inductive SubmissionVerdict where
  | accepted
  | incorrect
  | duplicate
  | alreadySolved
  | notOpen
  | attemptsExhausted
  deriving DecidableEq

structure CompetitionSubmission where
  teamId : Str
  challengeId : Str
  verdict : SubmissionVerdict
  pointsAwarded : Int
  valueFingerprint : Str
  deriving DecidableEq

structure Competition where
  id : Str
  organizationId : Str
  name : Str
  state : CompetitionState := .draft
  startedAt : Option Datetime := none
  stoppedAt : Option Datetime := none
  teams : List CompetitionTeam := []
  scores : List CompetitionScore := []
  submissions : List CompetitionSubmission := []
  deriving DecidableEq

/-- A range instance with every row that refers to it. -/
structure RangeInstance where
  id : Str
  organizationId : Str
  name : Str
  provider : Str
  state : RangeState := .draft
  stateReason : Option Str := none
  deployedAt : Option Datetime := none
  destroyedAt : Option Datetime := none
  residueVerdict : Option ResidueVerdict := none
  eventSequence : Nat := 0
  operations : List Operation := []
  resources : List ResourceRow := []
  events : List LifecycleEvent := []
  evidence : List TeardownEvidence := []
  competition : Option Competition := none

/-! ## Reading and writing rows -/

namespace RangeInstance

/-- The operation with an id. -/
def operation? (range : RangeInstance) (id : Str) : Option Operation :=
  range.operations.find? fun op => op.id = id

def updateOperation (range : RangeInstance) (id : Str) (f : Operation → Operation) :
    RangeInstance :=
  { range with operations := range.operations.map fun op => if op.id = id then f op else op }

/-- `_live_resources`. -/
def liveResources (range : RangeInstance) : List ResourceRow :=
  range.resources.filter ResourceRow.live

/-- `record_event`. -/
def recordEvent (range : RangeInstance) (kind message : Str)
    (level : RangeEventLevel := .info) (data : Json := .obj []) (operationId : Option Str := none) :
    RangeInstance :=
  { range with
    eventSequence := range.eventSequence + 1
    events := range.events ++ [⟨range.eventSequence + 1, kind, level, message, data, operationId⟩] }

end RangeInstance

end Secp.Range
