import Secp.Range.Model

/-!
# The control half of the range lifecycle

The services validate a transition, write the rows and stop; whatever reaches a provider is the
worker's. An operation is leased: it is stale once nothing has stamped a step of it for the length
of the lease. A competition moves its range between ready and active when it starts and stops.
-/

namespace Secp.Range

open Secp.Python

/-! ## Leases -/

/-- `OPERATION_LEASE_SECONDS`, in microseconds. -/
def operationLease : Int := 900 * microsPerSecond

/-- An instant in ISO notation. The years a `datetime` cannot hold are left out. -/
def isoInstant (t : Int) : Str :=
  if h : t.toNat < maxOrdinal * microsPerDay then Datetime.isoformat ⟨t.toNat, h⟩ else []

structure OperationStaleness where
  lastProgressAt : Int
  expiresAt : Int
  stale : Bool
  reason : Option Str

/-- `_parse_step_at`. -/
def RecordedStep.progressAt (step : RecordedStep) : Option Int :=
  step.stampedAt.bind Datetime.fromIsoformat

/-- The newest evidence that an operation was alive. -/
def Operation.lastProgressAt (op : Operation) : Int :=
  (op.steps.filterMap RecordedStep.progressAt).foldl max op.startedAt.micros

/-- Why a stale operation is stale. -/
def Operation.staleReason (op : Operation) (now : Datetime) : Str :=
  let elapsed := ((now.micros : Int) - op.lastProgressAt) / microsPerSecond
  str "the " ++ op.kind.value ++ str " operation has made no observable progress for " ++
    natStr (elapsed / 60).toNat ++ str " minute(s): " ++
    if op.status = .pending then
      str "it was never picked up by a worker — the queue may have no worker on it, or the " ++
        str "worker that took it is connected to a different database"
    else str "the worker running it stopped reporting progress"

/-- `operation_staleness`. -/
def operationStaleness (op : Operation) (now : Datetime) : OperationStaleness :=
  let expiresAt := op.lastProgressAt + operationLease
  if !op.inFlight || (now.micros : Int) ≤ expiresAt then ⟨op.lastProgressAt, expiresAt, false, none⟩
  else ⟨op.lastProgressAt, expiresAt, true, some (op.staleReason now)⟩

/-! ## Starting an operation -/

/-- `name or fallback`, cleaned for a column of 200 characters. -/
def displayName [Unicode] (name : Option Str) (fallback : Str) : Str :=
  (strip (match name with
    | some name => if name.isEmpty then fallback else name
    | none => fallback)).take 200

/-- The template a range is created from. -/
structure RangeTemplate where
  slug : Str
  name : Str
  provider : Str

/-- `create_range`. -/
def createRange [Unicode] (principal : Principal) (template : RangeTemplate) (name : Option Str)
    (id : Str) : Except DomainError RangeInstance := do
  principal.require .exerciseOperate
  let name := displayName name template.name
  pure (RangeInstance.recordEvent
    { id := id
      organizationId := principal.organizationId
      name := name
      provider := template.provider }
    (str "range_created")
    (str "Range '" ++ name ++ str "' created from template '" ++ template.slug ++ str "'"))

/-- `get_range`. -/
def getRange (range : RangeInstance) (principal : Principal) : Except DomainError Unit := do
  principal.require .exerciseOperate
  principal.requireOrg range.organizationId

/-- What a blocked operator is told about the operation in the way. -/
def blockedMessage (op : Operation) (now : Datetime) : Str :=
  match (operationStaleness op now).reason with
  | some reason =>
      str "a " ++ op.kind.value ++ str " operation is stuck on this range: " ++ reason ++
        str ". Abandon it (POST /api/v1/range-operations/" ++ op.id ++
        str "/abandon) to move the range to recovery_required, then destroy it."
  | none => str "a " ++ op.kind.value ++ str " operation is already running on this range"

/-- The row a new operation gets. -/
def newOperation (range : RangeInstance) (principal : Principal) (kind : RangeOperationKind)
    (operationId : Str) (now : Datetime) : Operation where
  id := operationId
  organizationId := range.organizationId
  rangeInstanceId := range.id
  kind := kind
  requestedBy := principal.userId
  startedAt := now

/-- What `start_operation` writes. -/
def RangeInstance.withOperation (range : RangeInstance) (op : Operation) : RangeInstance :=
  RangeInstance.recordEvent
    { range with
      operations := range.operations ++ [op]
      state := op.kind.inFlight
      stateReason := none }
    (op.kind.value ++ str "_requested") (op.kind.capitalized ++ str " requested") .info (.obj [])
    (some op.id)

/-- `start_operation`. -/
def startOperation (range : RangeInstance) (principal : Principal) (kind : RangeOperationKind)
    (operationId : Str) (now : Datetime) : Except DomainError RangeInstance := do
  getRange range principal
  principal.require kind.permission
  raiseIf (range.state ∈ terminalStates) (rangeInvalidTransitionError
    (str "a " ++ range.state.value ++ str " range cannot " ++ kind.value))
  raiseIf (range.state ∉ kind.allowedFrom) (rangeInvalidTransitionError
    (str "cannot " ++ kind.value ++ str " a range in state '" ++ range.state.value ++ str "'"))
  match range.operations.find? Operation.inFlight with
  | some op => throw (rangeInvalidTransitionError (blockedMessage op now))
  | none => do
      -- the primary key of the operations table
      raiseIf (range.operation? operationId).isSome integrityError
      pure (range.withOperation (newOperation range principal kind operationId now))

/-! ## Abandoning an operation -/

/-- `retain_resources_as_unproven`, on one row. -/
def ResourceRow.retained (row : ResourceRow) : ResourceRow :=
  if row.live && row.state ≠ .failed then { row with state := .unproven } else row

/-- `retain_resources_as_unproven`. -/
def RangeInstance.retainResourcesAsUnproven (range : RangeInstance) : RangeInstance :=
  { range with resources := range.resources.map ResourceRow.retained }

/-- `get_operation`. -/
def getOperation (range : RangeInstance) (principal : Principal) (operationId : Str) :
    Except DomainError Operation := do
  principal.require .exerciseOperate
  match range.operation? operationId with
  | none => throw (notFoundError (str "range operation not found"))
  | some op => do
      principal.requireOrg op.organizationId
      pure op

/-- What `abandon_operation` writes. -/
def RangeInstance.abandoned (range : RangeInstance) (op : Operation) (now : Datetime) :
    RangeInstance :=
  let staleness := operationStaleness op now
  let reason := staleness.reason.getD
    (str "the " ++ op.kind.value ++ str " operation was abandoned by an operator while in flight")
  let released := range.updateOperation op.id fun op =>
    { op with
      status := .unproven
      failureCode :=
        some (if staleness.stale then str "abandoned_stale" else str "abandoned_by_operator")
      failureMessage := some reason
      finishedAt := some now }
  RangeInstance.recordEvent
    { released.retainResourcesAsUnproven with
      state := .recoveryRequired
      stateReason := some reason }
    (str "operation_abandoned")
    (str "The " ++ op.kind.value ++ str " operation was abandoned: " ++ reason ++
      str ". This is NOT a failure and NOT a rollback — what the operation did or did not do is " ++
      str "unknown. " ++ natStr range.liveResources.length ++
      str " resource(s) remain recorded as this range's to clean up; none were marked absent, " ++
      str "because nothing observed them absent. Destroy the range to sweep them, which will " ++
      str "prove each one gone or report that it could not.")
    .warning (.obj []) (some op.id)

/-- `abandon_operation`. -/
def abandonOperation (range : RangeInstance) (principal : Principal) (operationId : Str)
    (force : Bool) (now : Datetime) : Except DomainError RangeInstance := do
  let op ← getOperation range principal operationId
  principal.require op.kind.permission
  raiseIf (!op.inFlight) (rangeInvalidTransitionError
    (str "operation is already " ++ op.status.value ++ str "; there is nothing to abandon"))
  raiseIf (!(operationStaleness op now).stale && !force) (rangeOperationNotStaleError
    (str "the " ++ op.kind.value ++ str " operation is still within its lease until " ++
      isoInstant (operationStaleness op now).expiresAt ++
      str "; it may still be running. Abandon it anyway with force=true only if you have " ++
      str "confirmed no worker is executing it."))
  pure (range.abandoned op now)

/-! ## Competitions -/

/-- `create_competition`, without the challenges it seeds. -/
def createCompetition [Unicode] (range : RangeInstance) (principal : Principal) (id : Str)
    (name : Option Str) (challenges : Nat) : Except DomainError RangeInstance := do
  getRange range principal
  raiseIf range.competition.isSome
    (rangeInvalidTransitionError (str "this range already has a competition"))
  let name := displayName name (range.name ++ str " competition")
  pure (RangeInstance.recordEvent
    { range with
      competition := some { id := id, organizationId := range.organizationId, name := name } }
    (str "competition_created")
    (str "Competition '" ++ name ++ str "' created with " ++ natStr challenges ++ str " challenges"))

/-- `get_competition`. -/
def getCompetition (range : RangeInstance) (principal : Principal) :
    Except DomainError Competition := do
  principal.require .exerciseOperate
  match range.competition with
  | none => throw (notFoundError (str "competition not found"))
  | some competition => do
      principal.requireOrg competition.organizationId
      pure competition

/-- Every run of characters outside the slug alphabet becomes one dash. -/
def dashRuns (inRun : Bool) : Str → Str
  | [] => []
  | c :: rest =>
      if isAsciiLower c || isAsciiDigit c then c :: dashRuns false rest
      else if inRun then dashRuns true rest
      else '-' :: dashRuns true rest

/-- `_slugify`. -/
def slugify [Unicode] (value : Str) : Str :=
  let slug := stripChar '-' (dashRuns false (lower value))
  (if slug.isEmpty then str "team" else slug).take 63

/-- `create_team`. -/
def createTeam [Unicode] (range : RangeInstance) (principal : Principal) (id name : Str) :
    Except DomainError RangeInstance := do
  let competition ← getCompetition range principal
  let cleaned := strip name
  raiseIf cleaned.isEmpty (validationFailedError (str "a team needs a name"))
  let slug := slugify cleaned
  raiseIf (competition.teams.any fun team => team.slug = slug)
    (validationFailedError (str "a team named '" ++ cleaned ++ str "' already exists"))
  pure { range with
    competition := some { competition with
      teams := competition.teams ++ [⟨id, cleaned.take 120, slug⟩] } }

/-- `delete_team`. -/
def deleteTeam (range : RangeInstance) (principal : Principal) (teamId : Str) :
    Except DomainError RangeInstance := do
  let competition ← getCompetition range principal
  raiseIf (competition.state ≠ .draft)
    (rangeInvalidTransitionError (str "teams cannot be removed once the competition has started"))
  raiseIf (competition.teams.all fun team => team.id ≠ teamId)
    (notFoundError (str "team not found"))
  pure { range with
    competition := some { competition with
      submissions := competition.submissions.filter fun s => s.teamId ≠ teamId
      scores := competition.scores.filter fun s => s.teamId ≠ teamId
      teams := competition.teams.filter fun team => team.id ≠ teamId } }

/-- `start_competition`. -/
def startCompetition (range : RangeInstance) (principal : Principal) (now : Datetime) :
    Except DomainError RangeInstance := do
  let competition ← getCompetition range principal
  if competition.state = .running then pure range
  else do
    raiseIf (range.state ≠ .ready && range.state ≠ .active)
      (rangeInvalidTransitionError (str "the range must be ready before its competition can start"))
    raiseIf competition.teams.isEmpty
      (rangeInvalidTransitionError (str "a competition needs at least one team to start"))
    pure (RangeInstance.recordEvent
      { range with
        state := .active
        competition := some { competition with
          state := .running
          startedAt := some (competition.startedAt.getD now)
          stoppedAt := none } }
      (str "competition_started")
      (str "Competition '" ++ competition.name ++ str "' started with " ++
        natStr competition.teams.length ++ str " team(s)"))

/-- `stop_competition`. -/
def stopCompetition (range : RangeInstance) (principal : Principal) (now : Datetime) :
    Except DomainError RangeInstance := do
  let competition ← getCompetition range principal
  if competition.state ≠ .running then pure range
  else
    let stopped : RangeInstance := { range with
      competition := some { competition with state := .stopped, stoppedAt := some now } }
    if range.state = .active then
      pure (RangeInstance.recordEvent { stopped with state := .ready } (str "competition_stopped")
        (str "Competition '" ++ competition.name ++ str "' stopped"))
    else pure stopped

/-- `reset_scores_for_range`. -/
def RangeInstance.resetScores (range : RangeInstance) : RangeInstance :=
  { range with
    competition := range.competition.map fun c => { c with scores := [], submissions := [] } }

end Secp.Range
