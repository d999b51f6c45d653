import Secp.Enrollment.Repository

/-!
# The enrollment service

What is asked of the service: to create an invitation and open its enrollment, to take one of the five
steps of the worker protocol, to end an enrollment, and to sweep one that has run out of time. A step
leaves a receipt for its input, and a later delivery of the same input is served from the receipt. A
request is one transaction: it is done as a whole or it changes nothing.
-/

namespace Secp.Enrollment

open Secp.Python Secp.Logic

/-! ## Errors -/

/-- `WorkerEnrollmentErrorCode`. -/
def errorCodes : List Str := [
  str "enrollment_schema_unavailable", str "enrollment_not_found", str "enrollment_forbidden",
  str "enrollment_scope_mismatch", str "enrollment_site_label_invalid",
  str "enrollment_site_label_forbidden_shape", str "enrollment_revision_conflict",
  str "enrollment_state_corrupt", str "enrollment_history_inconsistent",
  str "enrollment_receipt_conflict", str "enrollment_invitation_not_found",
  str "enrollment_invitation_consumed", str "enrollment_invitation_revoked",
  str "enrollment_invitation_expired", str "enrollment_invitation_conflict",
  str "enrollment_creation_conflict", str "enrollment_internal_failure",
  str "enrollment_invitation_invalid", str "enrollment_trust_anchor_invalid",
  str "enrollment_origin_not_https", str "enrollment_time_invalid", str "enrollment_state_invalid",
  str "enrollment_wrong_state", str "enrollment_expired", str "enrollment_worker_mismatch",
  str "enrollment_controller_mismatch", str "enrollment_installation_mismatch",
  str "enrollment_transaction_mismatch", str "enrollment_already_bound",
  str "enrollment_handoff_invalid", str "enrollment_replay", str "enrollment_release_mismatch",
  str "enrollment_reason_code_invalid", str "enrollment_controller_identity_unavailable",
  str "enrollment_identity_conflict", str "enrollment_identity_invalid",
  str "enrollment_idempotency_conflict", str "enrollment_progression_sealed",
  str "enrollment_pop_invalid", str "enrollment_signed_offer_conflict",
  str "enrollment_cursor_invalid", str "enrollment_page_integrity",
  str "enrollment_signer_unavailable", str "enrollment_health_incomplete"]

/-- What a call of the service raises: one of its codes, a missing permission, or an exception it does
not catch. -/
inductive ServiceError where
  | refused (code : Str)
  | permission
  | unexpected
  deriving DecidableEq

/-- The code of `_surface`. -/
def surface (code : Str) : Str :=
  if code ∈ errorCodes then code else str "enrollment_internal_failure"

/-- What the repository raises, as the service hands it on. -/
def surfaced {α : Type} (onIntegrity : ServiceError) : Except StoreError α → Except ServiceError α
  | .ok a => .ok a
  | .error (.refusal code) => .error (.refused (surface code))
  | .error (.contract (.closed code)) => .error (.refused (surface code))
  | .error (.contract (.descriptor _)) => .error .unexpected
  | .error .integrity => .error onIntegrity
  | .error .multipleResults => .error .unexpected

/-- `_run_pure`. -/
def runPure {α : Type} (result : Except ContractError α) : Except ServiceError α :=
  surfaced .unexpected (viaContract result)

/-! ## Who asks, and for what -/

inductive Permission where
  | enrollmentRead
  | enrollmentManage
  | enrollmentProgress
  deriving DecidableEq

structure Principal where
  organizationId : Str
  permissions : List Permission
  deriving DecidableEq

def Principal.require (actor : Principal) (permission : Permission) : Except ServiceError Unit :=
  ensure (permission ∈ actor.permissions) .permission

/-- `ExchangeAuthority`: a principal, or an exchange actor whose evidence was verified. -/
inductive ExchangeAuthority where
  | principal (actor : Principal)
  | verified (organizationId : Str)
  deriving DecidableEq

def ExchangeAuthority.organizationId : ExchangeAuthority → Str
  | principal actor => actor.organizationId
  | verified organizationId => organizationId

/-- `_require_progress`. -/
def requireProgress : ExchangeAuthority → Except ServiceError Unit
  | .principal actor => actor.require .enrollmentProgress
  | .verified _ => .ok ()

structure ClaimedScope where
  organizationId : Option Str
  deploymentSiteLabel : Option Str
  transactionId : Option Str
  deriving DecidableEq

structure ExpectedRevision where
  revision : Int
  stateDigest : Str
  sequence : Int
  predecessorDigest : Str
  deriving DecidableEq

structure TransitionOutcome where
  state : EnrollmentState
  committedRevision : Int
  deduplicated : Bool
  deriving DecidableEq

/-! ## What is asked -/

/-- The input of a step. -/
inductive StepInput where
  | bindWorkerIdentity (workerInstallationId workerKeyId transactionId : Str)
  | recordControllerOffer (facts : HandoffFacts)
  | recordWorkerResult (facts : HandoffFacts)
  | markVerified (releaseDigest : Str)
  | markHealthy
  deriving DecidableEq

def StepInput.step : StepInput → Step
  | bindWorkerIdentity _ _ _ => .bindWorkerIdentity
  | recordControllerOffer _ => .recordControllerOffer
  | recordWorkerResult _ => .recordWorkerResult
  | markVerified _ => .markVerified
  | markHealthy => .markHealthy

/-- A delivery of a step. -/
structure StepRequest where
  actor : ExchangeAuthority
  enrollmentId : Str
  input : StepInput
  now : Str
  expectedRevision : Int
  claimed : Option ClaimedScope
  deriving DecidableEq

inductive Request where
  | openInvitation (actor : Principal) (invitation : WorkerEnrollmentInvitation)
      (deploymentSiteLabel now : Str)
  | step (request : StepRequest)
  | refuseEnrollment (actor : Principal) (enrollmentId reason : Str) (expected : ExpectedRevision)
      (claimed : Option ClaimedScope)
  | recoverEnrollment (actor : Principal) (enrollmentId reason : Str) (expected : ExpectedRevision)
      (claimed : Option ClaimedScope)
  | revokeEnrollment (actor : Principal) (enrollmentId : Str) (expectedRevision : Int)
      (claimed : Option ClaimedScope)
  | markRecoveryRequired (actor : Principal) (enrollmentId : Str) (expectedRevision : Int)
      (claimed : Option ClaimedScope)
  | recoverOne (organizationId enrollmentId now : Str)

/-! ## Checks -/

/-- `_authorize`. -/
def authorize (organizationId : Str) (loaded : LoadedEnrollment) : Except ServiceError Unit :=
  ensure (organizationId = loaded.organizationId) (.refused (str "enrollment_forbidden"))

/-- A claim that is not made, or is true. -/
def agrees (claim : Option Str) (value : Str) : Bool := claim.all fun c => c = value

/-- `_check_scope`. -/
def checkScope (loaded : LoadedEnrollment) : Option ClaimedScope → Except ServiceError Unit
  | none => .ok ()
  | some claimed => do
      let mismatch := ServiceError.refused (str "enrollment_scope_mismatch")
      ensure (agrees claimed.organizationId loaded.organizationId) mismatch
      ensure (agrees claimed.deploymentSiteLabel loaded.deploymentSiteLabel) mismatch
      ensure (agrees claimed.transactionId loaded.state.transactionId) mismatch

/-- `_verify_expected`. -/
def verifyExpected (loaded : LoadedEnrollment) (expected : ExpectedRevision) :
    Except ServiceError Unit :=
  ensure (expected.revision = loaded.state.revision &&
    expected.stateDigest = loaded.expectedStateDigest &&
    expected.sequence = loaded.state.sequence &&
    expected.predecessorDigest = loaded.state.predecessorDigest)
    (.refused (str "enrollment_revision_conflict"))

/-- `_verify_expected_revision`. -/
def verifyExpectedRevision (loaded : LoadedEnrollment) (expectedRevision : Int) :
    Except ServiceError Unit :=
  ensure (expectedRevision = loaded.state.revision) (.refused (str "enrollment_revision_conflict"))

/-- `_assert_invitation_unexpired`. -/
def assertInvitationUnexpired (invitation : InvitationRow) (now : Str) :
    Except ServiceError Unit := do
  match parseCanonicalUtc now with
  | none => .error (.refused (str "enrollment_time_invalid"))
  | some instant =>
      match parseCanonicalUtc invitation.expiresAt with
      | none => .error (.refused (str "enrollment_state_corrupt"))
      | some expires =>
          ensure (instant < expires) (.refused (str "enrollment_invitation_expired"))

section
variable [Unicode]

/-- `_load_authorized`. -/
def loadAuthorized (db : EnrollmentDb) (organizationId enrollmentId : Str)
    (claimed : Option ClaimedScope) : Except ServiceError LoadedEnrollment := do
  match ← surfaced .unexpected (loadForUpdate db enrollmentId) with
  | none => .error (.refused (str "enrollment_not_found"))
  | some loaded => do
      authorize organizationId loaded
      checkScope loaded claimed
      surfaced .unexpected (verifyHistoryConsistent db enrollmentId loaded.state)
      pure loaded

/-! ## Creation -/

/-- `create_invitation_and_open` of the service. -/
def openInvitation (db : EnrollmentDb) (actor : Principal) (invitation : WorkerEnrollmentInvitation)
    (deploymentSiteLabel now : Str) : Except ServiceError (TransitionOutcome × EnrollmentDb) := do
  actor.require .enrollmentManage
  match deploymentSiteLabelRefusal deploymentSiteLabel with
  | some code => .error (.refused code)
  | none => do
      let (loaded, db) ← surfaced (.refused (str "enrollment_creation_conflict"))
        (createInvitationAndOpen db actor.organizationId invitation deploymentSiteLabel now)
      pure (⟨loaded.state, 0, false⟩, db)

/-! ## Steps -/

omit [Unicode] in
/-- `_input_digest`. -/
def inputDigest (step : Step) (payload : List (Str × Json)) : Str :=
  sha256Digest (.obj ((str "step", .str step.value) :: payload))

omit [Unicode] in
/-- `_serve_receipt`. -/
def serveReceipt (db : EnrollmentDb) (loaded : LoadedEnrollment) (step : Step) (digest : Str) :
    Except ServiceError (Option TransitionOutcome) := do
  match ← surfaced .unexpected (findReceipt db loaded.state.enrollmentId step digest) with
  | none => pure none
  | some receipt =>
      let corrupt := ServiceError.refused (str "enrollment_state_corrupt")
      match ← surfaced .unexpected
          (loadRevisionState db loaded.state.enrollmentId receipt.resultingRevision) with
      | none => .error corrupt
      | some historical => do
          ensure (historical.digest = receipt.resultingStateDigest) corrupt
          ensure (receipt.resultingRevision ≤ loaded.state.revision)
            (.refused (str "enrollment_history_inconsistent"))
          -- the snapshot is canonical material and has no label
          pure (some ⟨{ historical with deploymentSiteLabel := loaded.deploymentSiteLabel },
            receipt.resultingRevision, true⟩)

omit [Unicode] in
/-- `_commit`. -/
def commit (db : EnrollmentDb) (loaded : LoadedEnrollment) (newState : EnrollmentState)
    (step : Option Step) (digest : Option Str) : Except ServiceError EnrollmentDb :=
  surfaced (.refused (str "enrollment_revision_conflict"))
    (commitTransition db loaded newState step digest)

omit [Unicode] in
/-- `_ensure_receipt`. -/
def ensureReceipt (db : EnrollmentDb) (loaded : LoadedEnrollment) (step : Step) (digest : Str) :
    Except ServiceError EnrollmentDb := do
  match ← surfaced .unexpected (findReceipt db loaded.state.enrollmentId step digest) with
  | some _ => pure db
  | none =>
      surfaced (.refused (str "enrollment_revision_conflict")) (insertReceipt db
        ⟨loaded.state.enrollmentId, step, digest, loaded.state.revision, loaded.state.digest⟩)

/-- `bind_worker`. -/
def bindWorker (db : EnrollmentDb) (actor : ExchangeAuthority)
    (enrollmentId workerInstallationId workerKeyId transactionId now : Str) (expectedRevision : Int)
    (claimed : Option ClaimedScope) : Except ServiceError (TransitionOutcome × EnrollmentDb) := do
  requireProgress actor
  let step := Step.bindWorkerIdentity
  let digest := inputDigest step [
    (str "worker_installation_id", .str workerInstallationId),
    (str "worker_key_id", .str workerKeyId),
    (str "transaction_id", .str transactionId)]
  let loaded ← loadAuthorized db actor.organizationId enrollmentId claimed
  match ← serveReceipt db loaded step digest with
  | some served => pure (served, db)
  | none => do
      verifyExpectedRevision loaded expectedRevision
      match ← surfaced .unexpected (loadInvitationForUpdate db enrollmentId) with
      | none => .error (.refused (str "enrollment_invitation_not_found"))
      | some invitation => do
          ensure (!invitation.revoked) (.refused (str "enrollment_invitation_revoked"))
          ensure (!invitation.consumed) (.refused (str "enrollment_invitation_consumed"))
          assertInvitationUnexpired invitation now
          ensure (invitation.enrollmentId = enrollmentId &&
            invitation.transactionId = loaded.state.transactionId)
            (.refused (str "enrollment_scope_mismatch"))
          let newState ← runPure
            (bindWorkerIdentity loaded.state workerInstallationId workerKeyId transactionId now)
          if newState = loaded.state then do
            let db ← ensureReceipt db loaded step digest
            pure (⟨loaded.state, loaded.state.revision, true⟩, db)
          else do
            let db ← surfaced .unexpected (consumeInvitation db enrollmentId)
            let db ← commit db loaded newState (some step) (some digest)
            pure (⟨newState, newState.revision, false⟩, db)

/-- `_advance_step`. -/
def advanceStep (db : EnrollmentDb) (actor : ExchangeAuthority) (enrollmentId : Str) (step : Step)
    (payload : List (Str × Json)) (transition : EnrollmentState → Except ContractError EnrollmentState)
    (expectedRevision : Int) (claimed : Option ClaimedScope) :
    Except ServiceError (TransitionOutcome × EnrollmentDb) := do
  requireProgress actor
  let digest := inputDigest step payload
  let loaded ← loadAuthorized db actor.organizationId enrollmentId claimed
  match ← serveReceipt db loaded step digest with
  | some served => pure (served, db)
  | none => do
      verifyExpectedRevision loaded expectedRevision
      let newState ← runPure (transition loaded.state)
      if newState = loaded.state then do
        let db ← ensureReceipt db loaded step digest
        pure (⟨loaded.state, loaded.state.revision, true⟩, db)
      else do
        let db ← commit db loaded newState (some step) (some digest)
        pure (⟨newState, newState.revision, false⟩, db)

omit [Unicode] in
def handoffPayload (facts : HandoffFacts) : List (Str × Json) := [
  (str "kind", .str facts.kind), (str "digest", .str facts.digest),
  (str "transaction_id", .str facts.transactionId), (str "signer_key_id", .str facts.signerKeyId)]

def recordOffer (db : EnrollmentDb) (actor : ExchangeAuthority) (enrollmentId : Str)
    (facts : HandoffFacts) (now : Str) (expectedRevision : Int) (claimed : Option ClaimedScope) :
    Except ServiceError (TransitionOutcome × EnrollmentDb) :=
  advanceStep db actor enrollmentId .recordControllerOffer (handoffPayload facts)
    (fun state => recordControllerOffer state facts now) expectedRevision claimed

def recordResult (db : EnrollmentDb) (actor : ExchangeAuthority) (enrollmentId : Str)
    (facts : HandoffFacts) (now : Str) (expectedRevision : Int) (claimed : Option ClaimedScope) :
    Except ServiceError (TransitionOutcome × EnrollmentDb) :=
  advanceStep db actor enrollmentId .recordWorkerResult (handoffPayload facts)
    (fun state => recordWorkerResult state facts now) expectedRevision claimed

def verifyRelease (db : EnrollmentDb) (actor : ExchangeAuthority) (enrollmentId releaseDigest now : Str)
    (expectedRevision : Int) (claimed : Option ClaimedScope) :
    Except ServiceError (TransitionOutcome × EnrollmentDb) :=
  advanceStep db actor enrollmentId .markVerified [(str "release_digest", .str releaseDigest)]
    (fun state => markVerified state releaseDigest now) expectedRevision claimed

def markEnrollmentHealthy (db : EnrollmentDb) (actor : ExchangeAuthority) (enrollmentId now : Str)
    (expectedRevision : Int) (claimed : Option ClaimedScope) :
    Except ServiceError (TransitionOutcome × EnrollmentDb) :=
  advanceStep db actor enrollmentId .markHealthy [] (fun state => markHealthy state now)
    expectedRevision claimed

/-! ## Ends -/

omit [Unicode] in
/-- `max_revision`. -/
def maxRevision (db : EnrollmentDb) (enrollmentId : Str) : Option Int :=
  ((db.revisions.filter fun r => r.enrollmentId = enrollmentId).map RevisionRow.revision).max?

omit [Unicode] in
/-- `_serve_lifecycle_retry`. -/
def serveLifecycleRetry (db : EnrollmentDb) (loaded : LoadedEnrollment) (target : EnrollmentPhase)
    (reason : Str) (expected : ExpectedRevision) : Except ServiceError (Option TransitionOutcome) := do
  let current := loaded.state
  let inconsistent := ServiceError.refused (str "enrollment_history_inconsistent")
  if current.state ≠ target || current.refusalReason ≠ reason ||
      current.revision ≠ expected.revision + 1 ||
      current.predecessorDigest ≠ expected.stateDigest then pure none
  else
    match ← surfaced .unexpected (loadRevisionRow db current.enrollmentId expected.revision) with
    | none => .error inconsistent
    | some priorRow =>
        if priorRow.revision ≠ expected.revision || priorRow.stateDigest ≠ expected.stateDigest ||
            priorRow.predecessorDigest ≠ expected.predecessorDigest then pure none
        else
          match ← surfaced .unexpected
              (loadRevisionRow db current.enrollmentId current.revision) with
          | none => .error inconsistent
          | some currentRow => do
              ensure (currentRow.stateDigest = current.digest && currentRow.state = current.state &&
                currentRow.predecessorDigest = current.predecessorDigest) inconsistent
              if maxRevision db current.enrollmentId ≠ some current.revision then pure none
              else pure (some ⟨current, current.revision, true⟩)

/-- `_lifecycle`. -/
def lifecycle (db : EnrollmentDb) (actor : Principal) (enrollmentId : Str)
    (transition : EnrollmentState → Except ContractError EnrollmentState) (target : EnrollmentPhase)
    (reason : Str) (expected : ExpectedRevision) (claimed : Option ClaimedScope) :
    Except ServiceError (TransitionOutcome × EnrollmentDb) := do
  actor.require .enrollmentManage
  let loaded ← loadAuthorized db actor.organizationId enrollmentId claimed
  match ← serveLifecycleRetry db loaded target reason expected with
  | some served => pure (served, db)
  | none => do
      verifyExpected loaded expected
      let newState ← runPure (transition loaded.state)
      if newState = loaded.state then pure (⟨loaded.state, loaded.state.revision, true⟩, db)
      else do
        let db ← commit db loaded newState none none
        pure (⟨newState, newState.revision, false⟩, db)

def refuseEnrollment (db : EnrollmentDb) (actor : Principal) (enrollmentId reason : Str)
    (expected : ExpectedRevision) (claimed : Option ClaimedScope) :
    Except ServiceError (TransitionOutcome × EnrollmentDb) :=
  lifecycle db actor enrollmentId (fun state => refuse state reason) .refused reason expected claimed

def recoverEnrollment (db : EnrollmentDb) (actor : Principal) (enrollmentId reason : Str)
    (expected : ExpectedRevision) (claimed : Option ClaimedScope) :
    Except ServiceError (TransitionOutcome × EnrollmentDb) :=
  lifecycle db actor enrollmentId (fun state => requireRecovery state reason) .recoveryRequired reason
    expected claimed

/-- What `revoke_enrollment` and `mark_recovery_required` share: an operator's end of an enrollment that
has none yet. -/
def endByOperator (db : EnrollmentDb) (actor : Principal) (enrollmentId : Str)
    (transition : EnrollmentState → Except ContractError EnrollmentState) (expectedRevision : Int)
    (claimed : Option ClaimedScope) : Except ServiceError (TransitionOutcome × EnrollmentDb) := do
  actor.require .enrollmentManage
  let loaded ← loadAuthorized db actor.organizationId enrollmentId claimed
  let state := loaded.state
  if state.state ∈ [EnrollmentPhase.refused, .recoveryRequired] then
    pure (⟨state, state.revision, true⟩, db)
  else do
    verifyExpectedRevision loaded expectedRevision
    let newState ← runPure (transition state)
    if newState = state then pure (⟨state, state.revision, true⟩, db)
    else do
      let db ← commit db loaded newState none none
      pure (⟨newState, newState.revision, false⟩, db)

def revokeEnrollment (db : EnrollmentDb) (actor : Principal) (enrollmentId : Str)
    (expectedRevision : Int) (claimed : Option ClaimedScope) :
    Except ServiceError (TransitionOutcome × EnrollmentDb) :=
  endByOperator db actor enrollmentId (fun state => refuse state (str "operator_revoked"))
    expectedRevision claimed

def markRecoveryRequired (db : EnrollmentDb) (actor : Principal) (enrollmentId : Str)
    (expectedRevision : Int) (claimed : Option ClaimedScope) :
    Except ServiceError (TransitionOutcome × EnrollmentDb) :=
  endByOperator db actor enrollmentId
    (fun state => requireRecovery state (str "operator_recovery_required")) expectedRevision claimed

/-! ## The sweep -/

omit [Unicode] in
/-- `_is_due`. -/
def isDue (expiresAt now : Str) : Except ServiceError Bool :=
  match parseCanonicalUtc expiresAt with
  | none => .error (.refused (str "enrollment_state_corrupt"))
  | some expires =>
      match parseCanonicalUtc now with
      | none => .error (.refused (str "enrollment_time_invalid"))
      | some instant => .ok (decide (expires ≤ instant))

/-- `lock_and_load_sweep_candidate`. -/
def lockAndLoadSweepCandidate (db : EnrollmentDb) (enrollmentId organizationId : Str) :
    Except StoreError (Option LoadedEnrollment) := do
  match ← scalarOneOrNone (db.states.filter fun row => row.enrollmentId = enrollmentId &&
      row.organizationId = organizationId && row.state ∈ EnrollmentPhase.active) with
  | none => pure none
  | some row => do pure (some (← buildLoaded db row))

omit [Unicode] in
/-- `invitation_is_revoked`. -/
def invitationIsRevoked (db : EnrollmentDb) (enrollmentId : Str) : Except StoreError Bool := do
  match ← scalarOneOrNone (db.invitations.filter fun i => i.enrollmentId = enrollmentId) with
  | none => pure false
  | some row => pure row.revoked

/-- `_recover_one`: the tables after it, or none when the candidate is skipped. -/
def recoverOne (db : EnrollmentDb) (organizationId enrollmentId now : Str) :
    Except ServiceError (Option EnrollmentDb) := do
  match ← surfaced .unexpected (lockAndLoadSweepCandidate db enrollmentId organizationId) with
  | none => pure none
  | some loaded => do
      if ← surfaced .unexpected (invitationIsRevoked db enrollmentId) then pure none
      else do
        surfaced .unexpected (verifyHistoryConsistent db enrollmentId loaded.state)
        if ← isDue loaded.state.expiresAt now then do
          let newState ← runPure (requireRecovery loaded.state (str "expiry_recovery"))
          if newState = loaded.state then pure none
          else do
            let db ← surfaced .unexpected (commitTransition db loaded newState none none)
            pure (some db)
        else pure none

/-! ## Requests -/

/-- Each step has its own function. -/
def StepRequest.serve (request : StepRequest) (db : EnrollmentDb) :
    Except ServiceError (TransitionOutcome × EnrollmentDb) :=
  match request.input with
  | .bindWorkerIdentity workerInstallationId workerKeyId transactionId =>
      bindWorker db request.actor request.enrollmentId workerInstallationId workerKeyId transactionId
        request.now request.expectedRevision request.claimed
  | .recordControllerOffer facts =>
      recordOffer db request.actor request.enrollmentId facts request.now request.expectedRevision
        request.claimed
  | .recordWorkerResult facts =>
      recordResult db request.actor request.enrollmentId facts request.now request.expectedRevision
        request.claimed
  | .markVerified releaseDigest =>
      verifyRelease db request.actor request.enrollmentId releaseDigest request.now
        request.expectedRevision request.claimed
  | .markHealthy =>
      markEnrollmentHealthy db request.actor request.enrollmentId request.now
        request.expectedRevision request.claimed

/-- What a request returns: an outcome, where it has one, and the tables. -/
def Request.serve (db : EnrollmentDb) :
    Request → Except ServiceError (Option TransitionOutcome × EnrollmentDb)
  | .openInvitation actor invitation label now =>
      (Enrollment.openInvitation db actor invitation label now).map (Prod.map some id)
  | .step request => (request.serve db).map (Prod.map some id)
  | .refuseEnrollment actor enrollmentId reason expected claimed =>
      (Enrollment.refuseEnrollment db actor enrollmentId reason expected claimed).map
        (Prod.map some id)
  | .recoverEnrollment actor enrollmentId reason expected claimed =>
      (Enrollment.recoverEnrollment db actor enrollmentId reason expected claimed).map
        (Prod.map some id)
  | .revokeEnrollment actor enrollmentId expectedRevision claimed =>
      (Enrollment.revokeEnrollment db actor enrollmentId expectedRevision claimed).map
        (Prod.map some id)
  | .markRecoveryRequired actor enrollmentId expectedRevision claimed =>
      (Enrollment.markRecoveryRequired db actor enrollmentId expectedRevision claimed).map
        (Prod.map some id)
  | .recoverOne organizationId enrollmentId now =>
      (Enrollment.recoverOne db organizationId enrollmentId now).map fun swept =>
        (none, swept.getD db)

/-- The tables after a request; one that raises is rolled back. -/
def EnrollmentDb.after (db : EnrollmentDb) (request : Request) : EnrollmentDb :=
  match request.serve db with
  | .ok (_, db') => db'
  | .error _ => db

/-- The tables after a history of requests. -/
def EnrollmentDb.served (db : EnrollmentDb) (requests : List Request) : EnrollmentDb :=
  requests.foldl EnrollmentDb.after db

end

end Secp.Enrollment
