import Secp.Enrollment.Contract
import Secp.Python.JsonLoads

/-!
# The enrollment repository

The tables of worker enrollment and what reads and writes them. A head row is only handed out after it
was checked against its digest, its invitation and the append-only history; a transition is written by
appending its revision and swapping the head on the revision and the digest it was read with.
-/

namespace Secp.Enrollment

open Secp.Python Secp.Logic

/-- What a call of the repository raises: its own refusal, one of the contract, a violated constraint, or
more than one row where there may be one. -/
inductive StoreError where
  | refusal (reasonCode : Str)
  | contract (error : ContractError)
  | integrity
  | multipleResults
  deriving DecidableEq

def stateCorrupt : StoreError := .refusal (str "enrollment_state_corrupt")

def historyInconsistent : StoreError := .refusal (str "enrollment_history_inconsistent")

def revisionConflict : StoreError := .refusal (str "enrollment_revision_conflict")

/-! ## The tables -/

structure InvitationRow where
  organizationId : Str
  deploymentSiteLabel : Str
  invitationId : Str
  enrollmentId : Str
  controllerInstallationId : Str
  controllerKeyId : Str
  controllerTrustAnchorHex : Str
  controllerOrigin : Str
  releaseDigest : Str
  transactionId : Str
  invitationCreatedAt : Str
  expiresAt : Str
  expiresAtTs : Int
  consumed : Bool
  revoked : Bool
  deriving DecidableEq

/-- The head row. A constraint keeps its `state` to the closed states. -/
structure StateRow where
  enrollmentId : Str
  organizationId : Str
  deploymentSiteLabel : Str
  contractVersion : Str
  state : EnrollmentPhase
  revision : Int
  sequence : Int
  predecessorDigest : Str
  controllerInstallationId : Str
  controllerKeyId : Str
  workerInstallationId : Str
  workerKeyId : Str
  releaseDigest : Str
  transactionId : Str
  offerDigest : Str
  resultDigest : Str
  expiresAt : Str
  updatedAt : Str
  refusalReason : Str
  stateDigest : Str
  expiresAtTs : Int
  deriving DecidableEq

structure RevisionRow where
  enrollmentId : Str
  revision : Int
  state : EnrollmentPhase
  stateDigest : Str
  predecessorDigest : Str
  stateSnapshot : Option Str
  deriving DecidableEq

/-- The steps the receipt table accepts. -/
inductive Step where
  | bindWorkerIdentity
  | recordControllerOffer
  | recordWorkerResult
  | markVerified
  | markHealthy
  deriving DecidableEq

def Step.value : Step → Str
  | bindWorkerIdentity => str "bind_worker_identity"
  | recordControllerOffer => str "record_controller_offer"
  | recordWorkerResult => str "record_worker_result"
  | markVerified => str "mark_verified"
  | markHealthy => str "mark_healthy"

structure ReceiptRow where
  enrollmentId : Str
  step : Step
  inputDigest : Str
  resultingRevision : Int
  resultingStateDigest : Str
  deriving DecidableEq

structure EnrollmentDb where
  invitations : List InvitationRow
  states : List StateRow
  revisions : List RevisionRow
  receipts : List ReceiptRow
  deriving DecidableEq

def EnrollmentDb.empty : EnrollmentDb := ⟨[], [], [], []⟩

/-- A checked enrollment with its tenancy and the coordinates its head was read at. -/
structure LoadedEnrollment where
  state : EnrollmentState
  organizationId : Str
  deploymentSiteLabel : Str
  expectedRevision : Int
  expectedStateDigest : Str
  deriving DecidableEq

/-- `scalar_one_or_none`. -/
def scalarOneOrNone {α : Type} : List α → Except StoreError (Option α)
  | [] => .ok none
  | [row] => .ok (some row)
  | _ => .error .multipleResults

/-- What the contract raises passes through. -/
def viaContract {α : Type} : Except ContractError α → Except StoreError α
  | .ok a => .ok a
  | .error error => .error (.contract error)

/-! ## Timestamps -/

/-- `parse_canonical_utc`. -/
def parseCanonicalUtc (value : Str) : Option Int := readUtc 64 value

/-- `_parse_utc`. -/
def parseUtc (value : Str) : Except StoreError Int :=
  match parseCanonicalUtc value with
  | some instant => .ok instant
  | none => .error stateCorrupt

/-- `_same_instant`. -/
def sameInstant (canonicalText : Str) (shadow : Int) : Except StoreError Bool := do
  pure (decide ((← parseUtc canonicalText) = shadow))

/-- `_shadow_of`. -/
def shadowOf (canonicalText : Str) : Except StoreError Int := parseUtc canonicalText

/-! ## Rehydration -/

/-- `_rehydrate_state`. -/
def rehydrateState (row : StateRow) : EnrollmentState where
  contractVersion := row.contractVersion
  enrollmentId := row.enrollmentId
  state := row.state
  revision := row.revision
  sequence := row.sequence
  predecessorDigest := row.predecessorDigest
  controllerInstallationId := row.controllerInstallationId
  controllerKeyId := row.controllerKeyId
  workerInstallationId := row.workerInstallationId
  workerKeyId := row.workerKeyId
  releaseDigest := row.releaseDigest
  transactionId := row.transactionId
  offerDigest := row.offerDigest
  resultDigest := row.resultDigest
  expiresAt := row.expiresAt
  updatedAt := row.updatedAt
  refusalReason := row.refusalReason
  deploymentSiteLabel := row.deploymentSiteLabel

/-- `_digest_or_empty_ok`. -/
def digestOrEmptyOk (value : Str) : Bool := value.isEmpty || isSha256Digest value

def workerFields : List (EnrollmentState → Str) := [
  EnrollmentState.workerInstallationId, EnrollmentState.workerKeyId]

/-- `_PIPELINE_SHAPE`: the fields a state must and must not hold. -/
def pipelineShape :
    EnrollmentPhase → Option (List (EnrollmentState → Str) × List (EnrollmentState → Str))
  | .invited => some ([], workerFields ++ [EnrollmentState.offerDigest, EnrollmentState.resultDigest])
  | .workerBound => some (workerFields, [EnrollmentState.offerDigest, EnrollmentState.resultDigest])
  | .offerTransported =>
      some (workerFields ++ [EnrollmentState.offerDigest], [EnrollmentState.resultDigest])
  | .resultTransported =>
      some (workerFields ++ [EnrollmentState.offerDigest, EnrollmentState.resultDigest], [])
  | .verified =>
      some (workerFields ++ [EnrollmentState.offerDigest, EnrollmentState.resultDigest], [])
  | .healthy =>
      some (workerFields ++ [EnrollmentState.offerDigest, EnrollmentState.resultDigest], [])
  | _ => none

/-- Whether the fields of a state are those of its place in the pipeline. -/
def hasPipelineShape (state : EnrollmentState) : Bool :=
  match pipelineShape state.state with
  | none => true
  | some (requiredPresent, requiredEmpty) =>
      (requiredPresent.all fun field => !(field state).isEmpty) &&
        requiredEmpty.all fun field => (field state).isEmpty

section
variable [Unicode]

/-- `_validate_rehydrated`. -/
def validateRehydrated (state : EnrollmentState) (row : StateRow) : Except StoreError Unit := do
  ensure (state.contractVersion = enrollmentContractVersion) stateCorrupt
  ensure (0 ≤ state.revision) stateCorrupt
  ensure (0 ≤ state.sequence) stateCorrupt
  -- only the first revision is invited and without a predecessor
  ensure ((state.revision = 0) = (state.state = .invited) &&
    (state.revision = 0) = (state.predecessorDigest.isEmpty = true)) stateCorrupt
  ensure (isSha256Digest state.enrollmentId) stateCorrupt
  ensure (isSha256Digest state.controllerKeyId) stateCorrupt
  ensure (isSha256Digest state.releaseDigest) stateCorrupt
  ensure ([state.predecessorDigest, state.workerKeyId, state.offerDigest, state.resultDigest].all
    digestOrEmptyOk) stateCorrupt
  ensure (installationIdRe.fullmatch state.controllerInstallationId) stateCorrupt
  ensure (state.workerInstallationId.isEmpty ||
    installationIdRe.fullmatch state.workerInstallationId) stateCorrupt
  ensure (isDeploymentSiteLabel row.deploymentSiteLabel) stateCorrupt
  ensure (state.workerKeyId.isEmpty || state.workerKeyId ≠ state.controllerKeyId) stateCorrupt
  ensure (state.workerInstallationId.isEmpty ||
    state.workerInstallationId ≠ state.controllerInstallationId) stateCorrupt
  ensure (state.refusalReason.isEmpty || (reasonCodeRe.fullmatch state.refusalReason &&
    state.state ∈ [EnrollmentPhase.refused, .recoveryRequired])) stateCorrupt
  ensure (hasPipelineShape state) stateCorrupt
  let _ ← parseUtc state.updatedAt
  ensure (← sameInstant state.expiresAt row.expiresAtTs) stateCorrupt
  ensure (state.digest = row.stateDigest) stateCorrupt

/-- The invitation a row holds. -/
def InvitationRow.invitation (row : InvitationRow) : WorkerEnrollmentInvitation where
  contractVersion := enrollmentContractVersion
  invitationId := row.invitationId
  controllerInstallationId := row.controllerInstallationId
  controllerKeyId := row.controllerKeyId
  controllerTrustAnchorHex := row.controllerTrustAnchorHex
  controllerOrigin := row.controllerOrigin
  releaseDigest := row.releaseDigest
  transactionId := row.transactionId
  sequence := 0
  createdAt := row.invitationCreatedAt
  expiresAt := row.expiresAt

/-- `_cross_check_invitation`. -/
def crossCheckInvitation (db : EnrollmentDb) (row : StateRow) (state : EnrollmentState) :
    Except StoreError Unit := do
  match ← scalarOneOrNone (db.invitations.filter fun i => i.enrollmentId = row.enrollmentId) with
  | none => .error stateCorrupt
  | some invitationRow =>
      ensure (invitationRow.organizationId = row.organizationId) stateCorrupt
      ensure (invitationRow.deploymentSiteLabel = row.deploymentSiteLabel) stateCorrupt
      ensure (← sameInstant invitationRow.expiresAt invitationRow.expiresAtTs) stateCorrupt
      let invitation := invitationRow.invitation
      ensure (invitation.validate = .ok ()) stateCorrupt
      ensure (invitation.digest = state.enrollmentId) stateCorrupt
      ensure (state.controllerInstallationId = invitation.controllerInstallationId &&
        state.controllerKeyId = invitation.controllerKeyId &&
        state.transactionId = invitation.transactionId &&
        state.releaseDigest = invitation.releaseDigest &&
        state.expiresAt = invitation.expiresAt) stateCorrupt

/-- `_build_loaded`. -/
def buildLoaded (db : EnrollmentDb) (row : StateRow) : Except StoreError LoadedEnrollment := do
  let state := rehydrateState row
  validateRehydrated state row
  crossCheckInvitation db row state
  pure ⟨state, row.organizationId, row.deploymentSiteLabel, row.revision, row.stateDigest⟩

omit [Unicode] in
/-- The rows of an enrollment's history, by revision. -/
def EnrollmentDb.history (db : EnrollmentDb) (enrollmentId : Str) : List RevisionRow :=
  sortedBy RevisionRow.revision (db.revisions.filter fun r => r.enrollmentId = enrollmentId)

omit [Unicode] in
/-- `verify_history_consistent`. -/
def verifyHistoryConsistent (db : EnrollmentDb) (enrollmentId : Str) (state : EnrollmentState) :
    Except StoreError Unit :=
  let rows := db.history enrollmentId
  match rows.head?, rows.getLast? with
  | some first, some head => do
      ensure (rows.map RevisionRow.revision = (List.range rows.length).map Int.ofNat)
        historyInconsistent
      ensure (head.revision = state.revision && head.stateDigest = state.digest) historyInconsistent
      ensure (head.state = state.state && head.predecessorDigest = state.predecessorDigest)
        historyInconsistent
      ensure (first.revision = 0 && first.predecessorDigest.isEmpty) historyInconsistent
      ensure ((rows.zip rows.tail).all fun pair => pair.2.predecessorDigest = pair.1.stateDigest)
        historyInconsistent
  | _, _ => .error historyInconsistent

omit [Unicode] in
/-- `session.get`, by the primary key. -/
def EnrollmentDb.getState (db : EnrollmentDb) (enrollmentId : Str) : Option StateRow :=
  db.states.find? fun row => row.enrollmentId = enrollmentId

/-- `load_for_update`, and `load_read_only`, which takes no lock. -/
def loadForUpdate (db : EnrollmentDb) (enrollmentId : Str) :
    Except StoreError (Option LoadedEnrollment) :=
  match db.getState enrollmentId with
  | none => .ok none
  | some row => do pure (some (← buildLoaded db row))

omit [Unicode] in
/-- `load_invitation_for_update`. -/
def loadInvitationForUpdate (db : EnrollmentDb) (enrollmentId : Str) :
    Except StoreError (Option InvitationRow) :=
  scalarOneOrNone (db.invitations.filter fun i => i.enrollmentId = enrollmentId)

end

/-! ## Creation -/

/-- What `_insert_state_row` inserts. -/
def stateRow (organizationId deploymentSiteLabel : Str) (state : EnrollmentState)
    (expiresShadow : Int) : StateRow where
  enrollmentId := state.enrollmentId
  organizationId := organizationId
  deploymentSiteLabel := deploymentSiteLabel
  contractVersion := state.contractVersion
  state := state.state
  revision := state.revision
  sequence := state.sequence
  predecessorDigest := state.predecessorDigest
  controllerInstallationId := state.controllerInstallationId
  controllerKeyId := state.controllerKeyId
  workerInstallationId := state.workerInstallationId
  workerKeyId := state.workerKeyId
  releaseDigest := state.releaseDigest
  transactionId := state.transactionId
  offerDigest := state.offerDigest
  resultDigest := state.resultDigest
  expiresAt := state.expiresAt
  updatedAt := state.updatedAt
  refusalReason := state.refusalReason
  stateDigest := state.digest
  expiresAtTs := expiresShadow

/-- What `_insert_revision_row` inserts. -/
def revisionRow (state : EnrollmentState) : RevisionRow where
  enrollmentId := state.enrollmentId
  revision := state.revision
  state := state.state
  stateDigest := state.digest
  predecessorDigest := state.predecessorDigest
  stateSnapshot := some (state.canonical.dumps true)

/-- `_insert_revision_row`, under `UNIQUE(enrollment_id, revision)`. -/
def insertRevisionRow (db : EnrollmentDb) (state : EnrollmentState) :
    Except StoreError EnrollmentDb := do
  ensure (db.revisions.all fun r =>
    !(r.enrollmentId = state.enrollmentId && r.revision = state.revision)) .integrity
  pure { db with revisions := db.revisions ++ [revisionRow state] }

/-- The invitation row of a creation. -/
def invitationRow (organizationId deploymentSiteLabel : Str)
    (invitation : WorkerEnrollmentInvitation) (enrollmentId : Str) (expiresShadow : Int) :
    InvitationRow where
  organizationId := organizationId
  deploymentSiteLabel := deploymentSiteLabel
  invitationId := invitation.invitationId
  enrollmentId := enrollmentId
  controllerInstallationId := invitation.controllerInstallationId
  controllerKeyId := invitation.controllerKeyId
  controllerTrustAnchorHex := invitation.controllerTrustAnchorHex
  controllerOrigin := invitation.controllerOrigin
  releaseDigest := invitation.releaseDigest
  transactionId := invitation.transactionId
  invitationCreatedAt := invitation.createdAt
  expiresAt := invitation.expiresAt
  expiresAtTs := expiresShadow
  consumed := false
  revoked := false

/-- `create_invitation_and_open`, under `UNIQUE(invitation_id)` and the primary key of the head. -/
def createInvitationAndOpen [Unicode] (db : EnrollmentDb) (organizationId : Str)
    (invitation : WorkerEnrollmentInvitation) (deploymentSiteLabel now : Str) :
    Except StoreError (LoadedEnrollment × EnrollmentDb) := do
  viaContract invitation.validate
  let state ← viaContract (openEnrollment invitation now deploymentSiteLabel)
  ensure (invitation.digest = state.enrollmentId) (.refusal (str "enrollment_internal_failure"))
  let expiresShadow ← shadowOf state.expiresAt
  let invitationShadow ← shadowOf invitation.expiresAt
  ensure ((db.invitations.all fun i => i.invitationId ≠ invitation.invitationId) &&
    db.states.all fun row => row.enrollmentId ≠ state.enrollmentId) .integrity
  let db ← insertRevisionRow
    { db with
      invitations := db.invitations ++ [invitationRow organizationId deploymentSiteLabel invitation
        state.enrollmentId invitationShadow]
      states := db.states ++ [stateRow organizationId deploymentSiteLabel state expiresShadow] } state
  pure (⟨state, organizationId, deploymentSiteLabel, state.revision, state.digest⟩, db)

/-! ## The snapshots -/

def textField (data : Json) (key : Str) : Except StoreError Str :=
  match data.get? key with
  | some (.str s) => .ok s
  | _ => .error stateCorrupt

def intField (data : Json) (key : Str) : Except StoreError Int :=
  match data.get? key with
  | some (.int n) => .ok n
  | _ => .error stateCorrupt

/-- The closed state of a text. -/
def phaseOf (value : Str) : Except StoreError EnrollmentPhase :=
  match EnrollmentPhase.members.find? fun phase => phase.value = value with
  | some phase => .ok phase
  | none => .error stateCorrupt

/-- `_rehydrate_revision_snapshot`. -/
def rehydrateRevisionSnapshot (row : RevisionRow) : Except StoreError EnrollmentState := do
  let data ← match row.stateSnapshot.bind Json.loads with
    | some (.obj fields) => .ok (Json.obj fields)
    | _ => .error stateCorrupt
  pure { contractVersion := ← textField data (str "contract_version")
         enrollmentId := ← textField data (str "enrollment_id")
         state := ← phaseOf (← textField data (str "state"))
         revision := ← intField data (str "revision")
         sequence := ← intField data (str "sequence")
         predecessorDigest := ← textField data (str "predecessor_digest")
         controllerInstallationId := ← textField data (str "controller_installation_id")
         controllerKeyId := ← textField data (str "controller_key_id")
         workerInstallationId := ← textField data (str "worker_installation_id")
         workerKeyId := ← textField data (str "worker_key_id")
         releaseDigest := ← textField data (str "release_digest")
         transactionId := ← textField data (str "transaction_id")
         offerDigest := ← textField data (str "offer_digest")
         resultDigest := ← textField data (str "result_digest")
         expiresAt := ← textField data (str "expires_at")
         updatedAt := ← textField data (str "updated_at")
         refusalReason := ← textField data (str "refusal_reason") }

/-- `load_revision_row`, `revision_row`. -/
def loadRevisionRow (db : EnrollmentDb) (enrollmentId : Str) (revision : Int) :
    Except StoreError (Option RevisionRow) :=
  scalarOneOrNone (db.revisions.filter fun r => r.enrollmentId = enrollmentId && r.revision = revision)

/-- `load_revision_state`. -/
def loadRevisionState (db : EnrollmentDb) (enrollmentId : Str) (revision : Int) :
    Except StoreError (Option EnrollmentState) := do
  match ← loadRevisionRow db enrollmentId revision with
  | none => pure none
  | some row =>
      let state ← rehydrateRevisionSnapshot row
      ensure (state.contractVersion = enrollmentContractVersion) stateCorrupt
      ensure (isSha256Digest state.enrollmentId && state.enrollmentId = enrollmentId) stateCorrupt
      ensure (state.state = row.state && state.revision = row.revision &&
        state.revision = revision && state.predecessorDigest = row.predecessorDigest) stateCorrupt
      ensure (state.digest = row.stateDigest) stateCorrupt
      pure (some state)

/-! ## Writing a transition -/

/-- `_append_history`. -/
def appendHistory (db : EnrollmentDb) (newState : EnrollmentState) : Except StoreError EnrollmentDb :=
  match insertRevisionRow db newState with
  | .ok db => .ok db
  | .error _ => .error revisionConflict

/-- The row a head is swapped for. -/
def StateRow.moved (row : StateRow) (newState : EnrollmentState) (expiresShadow : Int) : StateRow :=
  { row with
    state := newState.state
    revision := newState.revision
    sequence := newState.sequence
    predecessorDigest := newState.predecessorDigest
    workerInstallationId := newState.workerInstallationId
    workerKeyId := newState.workerKeyId
    offerDigest := newState.offerDigest
    resultDigest := newState.resultDigest
    updatedAt := newState.updatedAt
    refusalReason := newState.refusalReason
    stateDigest := newState.digest
    expiresAtTs := expiresShadow }

/-- A head that stands where it was read. -/
def LoadedEnrollment.isAt (prior : LoadedEnrollment) (row : StateRow) : Bool :=
  row.enrollmentId = prior.state.enrollmentId && row.revision = prior.expectedRevision &&
    row.stateDigest = prior.expectedStateDigest

/-- `_cas_head`. -/
def casHead (db : EnrollmentDb) (prior : LoadedEnrollment) (newState : EnrollmentState) :
    Except StoreError EnrollmentDb := do
  let expiresShadow ← shadowOf newState.expiresAt
  ensure ((db.states.filter prior.isAt).length = 1) revisionConflict
  pure { db with
         states := db.states.map fun row =>
           if prior.isAt row then row.moved newState expiresShadow else row }

/-- Insert a receipt, under `UNIQUE(enrollment_id, step, input_digest)`. -/
def insertReceipt (db : EnrollmentDb) (receipt : ReceiptRow) : Except StoreError EnrollmentDb := do
  ensure (db.receipts.all fun r => !(r.enrollmentId = receipt.enrollmentId &&
    r.step = receipt.step && r.inputDigest = receipt.inputDigest)) .integrity
  pure { db with receipts := db.receipts ++ [receipt] }

/-- `_write_step_receipt`. -/
def writeStepReceipt (db : EnrollmentDb) (enrollmentId : Str) (step : Option Step)
    (inputDigest : Option Str) (newState : EnrollmentState) : Except StoreError EnrollmentDb :=
  match step with
  | none => .ok db
  | some step =>
      match inputDigest with
      | none => .error (.refusal (str "enrollment_internal_failure"))
      | some inputDigest =>
          insertReceipt db ⟨enrollmentId, step, inputDigest, newState.revision, newState.digest⟩

/-- `commit_transition`. -/
def commitTransition (db : EnrollmentDb) (prior : LoadedEnrollment) (newState : EnrollmentState)
    (step : Option Step) (inputDigest : Option Str) : Except StoreError EnrollmentDb := do
  let db ← appendHistory db newState
  let db ← casHead db prior newState
  writeStepReceipt db prior.state.enrollmentId step inputDigest newState

/-- `consume_invitation`. -/
def consumeInvitation (db : EnrollmentDb) (enrollmentId : Str) : Except StoreError EnrollmentDb := do
  let isOpen (row : InvitationRow) : Bool :=
    row.enrollmentId = enrollmentId && !row.consumed && !row.revoked
  ensure ((db.invitations.filter isOpen).length = 1)
    (.refusal (str "enrollment_invitation_conflict"))
  pure { db with
         invitations := db.invitations.map fun row =>
           if isOpen row then { row with consumed := true } else row }

/-- `find_receipt`. -/
def findReceipt (db : EnrollmentDb) (enrollmentId : Str) (step : Step) (inputDigest : Str) :
    Except StoreError (Option ReceiptRow) :=
  scalarOneOrNone (db.receipts.filter fun r => r.enrollmentId = enrollmentId && r.step = step &&
    r.inputDigest = inputDigest)

end Secp.Enrollment
