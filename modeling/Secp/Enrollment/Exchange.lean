import Secp.Enrollment.Attestation
import Secp.Enrollment.Service

/-!
# The signed exchange

How a worker is enrolled in production: it binds itself with a proof of possession, is answered with an
offer that the signer of the controller signs, and reports with a signed result. An enrollment has one
offer, which is stored with the binding it answers; a binding that is sent again is answered with what
was stored. The steps themselves are sealed, so nothing else moves an enrollment towards health.
-/

namespace Secp.Enrollment

open Secp.Python Secp.Logic

/-! ## The table of offers -/

structure SignedOfferRow where
  enrollmentId : Str
  organizationId : Str
  offerRevision : Int
  signerKeyId : Str
  signedOffer : Str
  responseDigest : Str
  bindInputDigest : Option Str
  offerClaimDigest : Option Str
  resultingRevision : Option Int
  resultingStateDigest : Option Str
  workerInstallationId : Option Str
  workerKeyId : Option Str
  responseJson : Option Str
  responseJsonDigest : Option Str
  deriving DecidableEq

structure ExchangeDb where
  enrollments : EnrollmentDb
  offers : List SignedOfferRow
  deriving DecidableEq

def ExchangeDb.empty : ExchangeDb := ⟨EnrollmentDb.empty, []⟩

structure SignedOfferRecord where
  envelope : Str
  bindInputDigest : Str
  offerClaimDigest : Str
  resultingRevision : Int
  resultingStateDigest : Str
  workerInstallationId : Str
  workerKeyId : Str
  responseJson : Str
  deriving DecidableEq

/-- `sha256_bytes` of the UTF-8 of a text. -/
def sha256Bytes (text : Str) : Str := str "sha256:" ++ Sha256.hexdigest (Sha256.encode text)

/-- `persist_signed_offer`. -/
def persistSignedOffer (db : ExchangeDb) (enrollmentId organizationId : Str) (offerRevision : Int)
    (signerKeyId signedOffer : Str) (bindInputDigest offerClaimDigest : Option Str)
    (resultingRevision : Option Int)
    (resultingStateDigest workerInstallationId workerKeyId responseJson : Option Str) :
    Except StoreError ExchangeDb := do
  ensure (signedOffer.length ≤ 8192 && isSha256Digest signerKeyId) stateCorrupt
  ensure (responseJson.all fun text => text.length ≤ 16384) stateCorrupt
  ensure (db.offers.all fun row => row.enrollmentId ≠ enrollmentId)
    (.refusal (str "enrollment_signed_offer_conflict"))
  pure { db with
         offers := db.offers ++ [{
           enrollmentId := enrollmentId
           organizationId := organizationId
           offerRevision := offerRevision
           signerKeyId := signerKeyId
           signedOffer := signedOffer
           responseDigest := sha256Bytes signedOffer
           bindInputDigest := bindInputDigest
           offerClaimDigest := offerClaimDigest
           resultingRevision := resultingRevision
           resultingStateDigest := resultingStateDigest
           workerInstallationId := workerInstallationId
           workerKeyId := workerKeyId
           responseJson := responseJson
           responseJsonDigest := responseJson.map sha256Bytes }] }

/-- A binding of an offer, which no stored offer lacks. -/
def present {α : Type} : Option α → Except StoreError α
  | some a => .ok a
  | none => .error stateCorrupt

/-- The integrity of the envelope of a row. -/
def SignedOfferRow.checkEnvelope (row : SignedOfferRow) : Except StoreError Unit := do
  ensure (row.signedOffer.length ≤ 8192 && isSha256Digest row.responseDigest) stateCorrupt
  ensure (sha256Bytes row.signedOffer = row.responseDigest) stateCorrupt

/-- `load_signed_offer`. -/
def loadSignedOffer (db : ExchangeDb) (enrollmentId : Str) : Except StoreError (Option Str) := do
  match ← scalarOneOrNone (db.offers.filter fun row => row.enrollmentId = enrollmentId) with
  | none => pure none
  | some row => do
      row.checkEnvelope
      pure (some row.signedOffer)

/-- What a row is read as whose digests all agree. -/
def SignedOfferRow.verified (row : SignedOfferRow) : Except StoreError SignedOfferRecord := do
  row.checkEnvelope
  let bindInputDigest ← present row.bindInputDigest
  let offerClaimDigest ← present row.offerClaimDigest
  let resultingRevision ← present row.resultingRevision
  let resultingStateDigest ← present row.resultingStateDigest
  let workerInstallationId ← present row.workerInstallationId
  let workerKeyId ← present row.workerKeyId
  let responseJson ← present row.responseJson
  let responseJsonDigest ← present row.responseJsonDigest
  ensure (isSha256Digest bindInputDigest && isSha256Digest offerClaimDigest &&
    isSha256Digest resultingStateDigest && isSha256Digest workerKeyId &&
    isSha256Digest responseJsonDigest) stateCorrupt
  ensure (responseJson.length ≤ 16384) stateCorrupt
  ensure (sha256Bytes responseJson = responseJsonDigest) stateCorrupt
  pure { envelope := row.signedOffer
         bindInputDigest := bindInputDigest
         offerClaimDigest := offerClaimDigest
         resultingRevision := resultingRevision
         resultingStateDigest := resultingStateDigest
         workerInstallationId := workerInstallationId
         workerKeyId := workerKeyId
         responseJson := responseJson }

/-- `load_signed_offer_record`. -/
def loadSignedOfferRecord (db : ExchangeDb) (enrollmentId : Str) :
    Except StoreError (Option SignedOfferRecord) := do
  match ← scalarOneOrNone (db.offers.filter fun row => row.enrollmentId = enrollmentId) with
  | none => pure none
  | some row => do pure (some (← row.verified))

/-- `revision_state_digest`. -/
def revisionStateDigest (db : EnrollmentDb) (enrollmentId : Str) (revision : Int) :
    Except StoreError (Option Str) := do
  pure ((← loadRevisionRow db enrollmentId revision).map RevisionRow.stateDigest)

/-! ## The signer -/

def hasControl (value : Str) : Bool := value.any fun c => c.toNat < 32 || c.toNat = 127

section
variable [Unicode]

/-- What `AuthorizedControllerOfferContext` proves of its fields. -/
def ControllerOfferClaim.authorized (fields : ControllerOfferClaim) : Bool :=
  isSha256Digest fields.enrollmentId && isSha256Digest fields.invitationId &&
    installationIdRe.fullmatch fields.controllerInstallationId &&
    isSha256Digest fields.controllerKeyId &&
    (fields.controllerOrigin.length ≤ 269 && httpsOriginRe.fullmatch fields.controllerOrigin &&
      !hasControl fields.controllerOrigin) &&
    (1 ≤ fields.controllerTransactionId.length && fields.controllerTransactionId.length ≤ 512 &&
      !hasControl fields.controllerTransactionId) &&
    installationIdRe.fullmatch fields.workerInstallationId && isSha256Digest fields.workerKeyId &&
    isSha256Digest fields.releaseDigest && (readUtc 40 fields.expiresAt).isSome &&
    isSha256Digest fields.predecessorDigest &&
    scanForbidden (.obj [
      (str "enrollment_id", .str fields.enrollmentId),
      (str "invitation_id", .str fields.invitationId),
      (str "controller_installation_id", .str fields.controllerInstallationId),
      (str "controller_key_id", .str fields.controllerKeyId),
      (str "controller_origin", .str fields.controllerOrigin),
      (str "controller_transaction_id", .str fields.controllerTransactionId),
      (str "worker_installation_id", .str fields.workerInstallationId),
      (str "worker_key_id", .str fields.workerKeyId),
      (str "release_digest", .str fields.releaseDigest),
      (str "expires_at", .str fields.expiresAt),
      (str "predecessor_digest", .str fields.predecessorDigest)]) = .ok ()

/-- The context of an offer that may be signed. -/
structure AuthorizedControllerOfferContext where
  fields : ControllerOfferClaim
  authorized : fields.authorized = true

end

/-- How the signer fails: with a code of the service, or otherwise. -/
inductive SignerFailure where
  | refused (code : Str)
  | other
  deriving DecidableEq

/-- `EnrollmentOfferSignerClient`: what the broker answers for a context. -/
abbrev EnrollmentOfferSignerClient [Unicode] :=
  AuthorizedControllerOfferContext → Str → Except SignerFailure DetachedAttestation

/-! ## What the controller verifies -/

def popInvalid : ServiceError := .refused (str "enrollment_pop_invalid")

def signerUnavailable : ServiceError := .refused (str "enrollment_signer_unavailable")

structure VerifiedWorkerBinding where
  workerKeyId : Str
  workerInstallationId : Str
  deriving DecidableEq

/-- The binding claim for an invitation. -/
def WorkerEnrollmentInvitation.bindingClaim (invitation : WorkerEnrollmentInvitation)
    (enrollmentId workerInstallationId workerKeyId : Str) : WorkerBindingClaim where
  enrollmentId := enrollmentId
  invitationId := invitation.invitationId
  controllerInstallationId := invitation.controllerInstallationId
  controllerKeyId := invitation.controllerKeyId
  controllerTransactionId := invitation.transactionId
  workerInstallationId := workerInstallationId
  workerKeyId := workerKeyId
  releaseDigest := invitation.releaseDigest
  expiresAt := invitation.expiresAt

/-- The offer claim for an invitation and the state it answers. -/
def WorkerEnrollmentInvitation.offerClaim (invitation : WorkerEnrollmentInvitation)
    (enrollmentId workerInstallationId workerKeyId predecessorDigest : Str) :
    ControllerOfferClaim where
  enrollmentId := enrollmentId
  invitationId := invitation.invitationId
  controllerInstallationId := invitation.controllerInstallationId
  controllerKeyId := invitation.controllerKeyId
  controllerOrigin := invitation.controllerOrigin
  controllerTransactionId := invitation.transactionId
  workerInstallationId := workerInstallationId
  workerKeyId := workerKeyId
  releaseDigest := invitation.releaseDigest
  expiresAt := invitation.expiresAt
  predecessorDigest := predecessorDigest

/-- A failed verification of the worker is a refusal. -/
def asPopInvalid {α : Type} : Except Str α → Except ServiceError α
  | .ok a => .ok a
  | .error _ => .error popInvalid

/-- A failed verification of the offer is the fault of the signer. -/
def asSignerUnavailable {α : Type} : Except Str α → Except ServiceError α
  | .ok a => .ok a
  | .error _ => .error signerUnavailable

/-- `_key_id_for`. -/
def workerKeyIdFor (publicKeyHex : Str) : Except ServiceError Str :=
  match keyIdFor publicKeyHex with
  | some keyId => .ok keyId
  | none => .error popInvalid

section
variable [Unicode] [Ed25519]

/-- `verify_worker_binding_pop`. -/
def verifyWorkerBindingPop (invitation : WorkerEnrollmentInvitation)
    (enrollmentId workerInstallationId workerPublicKeyHex : Str)
    (attestation : DetachedAttestation) : Except ServiceError VerifiedWorkerBinding := do
  let workerKeyId ← workerKeyIdFor workerPublicKeyHex
  let claim := invitation.bindingClaim enrollmentId workerInstallationId workerKeyId
  asPopInvalid (verifyDetached attestation workerKeyId enrollmentAttestationDomain popKind
    (claimDigest (workerBindingClaim claim)))
  pure ⟨workerKeyId, workerInstallationId⟩

/-- `verify_worker_result`. -/
def verifyWorkerResult (claim : WorkerResultClaim) (boundWorkerKeyId workerPublicKeyHex : Str)
    (attestation : DetachedAttestation) : Except ServiceError Unit := do
  let workerKeyId ← workerKeyIdFor workerPublicKeyHex
  ensure (workerKeyId = boundWorkerKeyId) popInvalid
  asPopInvalid (verifyDetached attestation workerKeyId enrollmentAttestationDomain resultKind
    (claimDigest (workerResultClaim { claim with workerKeyId := workerKeyId })))

/-- `verify_controller_offer`, which returns the claim it verified. -/
def verifyControllerOffer (attestation : DetachedAttestation) (claim : ControllerOfferClaim) :
    Except ServiceError Json := do
  asSignerUnavailable (verifyDetached attestation claim.controllerKeyId enrollmentAttestationDomain
    offerKind (claimDigest (controllerOfferClaim claim)))
  pure (controllerOfferClaim claim)

end

/-! ## The binding -/

/-- A proof of possession that is sent to bind a worker. -/
structure BindExchange where
  enrollmentId : Str
  workerInstallationId : Str
  workerPublicKeyHex : Str
  popAttestation : DetachedAttestation
  expectedRevision : Int
  now : Str
  claimedScope : Option ClaimedScope
  deriving DecidableEq

structure ExchangeOutcome where
  signedOffer : Json
  status : Json
  deduplicated : Bool

/-- `_offer_envelope`. -/
def offerEnvelope (claim : Json) (attestation : DetachedAttestation) : Json := .obj [
  (str "claim", claim),
  (str "attestation", .obj [
    (str "algorithm", .str attestation.algorithm),
    (str "key_id", .str attestation.keyId),
    (str "public_key_hex", .str attestation.publicKeyHex),
    (str "signature", .str attestation.signature)])]

/-- What a binding is answered with. -/
def bindResponse (envelope status : Json) : Json := .obj [
  (str "signed_offer", envelope), (str "enrollment", status)]

/-- `_bind_input_digest`. -/
def bindInputDigest (request : BindExchange) (invitation : WorkerEnrollmentInvitation)
    (workerKeyId : Str) : Str :=
  sha256Digest (.obj [
    (str "step", .str (str "bind_exchange")),
    (str "enrollment_id", .str request.enrollmentId),
    (str "invitation_id", .str invitation.invitationId),
    (str "worker_installation_id", .str request.workerInstallationId),
    (str "worker_key_id", .str workerKeyId),
    (str "pop_claim_digest", .str (claimDigest (workerBindingClaim
      (invitation.bindingClaim request.enrollmentId request.workerInstallationId workerKeyId)))),
    (str "attestation_key_id", .str request.popAttestation.keyId),
    (str "attestation_public_key_hex", .str request.popAttestation.publicKeyHex),
    (str "attestation_signature", .str request.popAttestation.signature),
    (str "expected_revision", .int request.expectedRevision),
    (str "controller_transaction_id", .str invitation.transactionId),
    (str "release_digest", .str invitation.releaseDigest)])

/-- A dictionary under a key of a dictionary. -/
def dictItem (payload : Json) (key : Str) : Except ServiceError Json :=
  match payload.get? key with
  | some (.obj fields) => .ok (.obj fields)
  | _ => .error (.refused (str "enrollment_state_corrupt"))

/-- `_replay_bind_record`. -/
def replayBindRecord (db : ExchangeDb) (record : SignedOfferRecord)
    (enrollmentId digest workerInstallationId workerKeyId : Str) :
    Except ServiceError ExchangeOutcome := do
  let corrupt := ServiceError.refused (str "enrollment_state_corrupt")
  ensure (digest = record.bindInputDigest && workerInstallationId = record.workerInstallationId &&
    workerKeyId = record.workerKeyId) (.refused (str "enrollment_idempotency_conflict"))
  match Json.loads record.envelope, Json.loads record.responseJson with
  | some envelope, some response => do
      let claim ← dictItem envelope (str "claim")
      ensure (claimDigest claim = record.offerClaimDigest) corrupt
      let history ← surfaced .unexpected
        (revisionStateDigest db.enrollments enrollmentId record.resultingRevision)
      ensure (history = some record.resultingStateDigest) corrupt
      let signedOffer ← dictItem response (str "signed_offer")
      let enrollment ← dictItem response (str "enrollment")
      pure ⟨signedOffer, enrollment, true⟩
  | _, _ => .error corrupt

section
variable [Unicode]

/-- `_load_for_exchange`: the organization is taken from the row. -/
def loadForExchange (db : EnrollmentDb) (enrollmentId : Str) (claimed : Option ClaimedScope) :
    Except ServiceError LoadedEnrollment := do
  match ← surfaced .unexpected (loadForUpdate db enrollmentId) with
  | none => .error (.refused (str "enrollment_not_found"))
  | some loaded => do
      checkScope loaded claimed
      surfaced .unexpected (verifyHistoryConsistent db enrollmentId loaded.state)
      pure loaded

/-- The projection of a state; its refusal is not caught. -/
def statusView (state : EnrollmentState) : Except ServiceError Json :=
  match state.publicView with
  | .ok view => .ok view
  | .error _ => .error .unexpected

/-- What the signer answers, as the service hands it on. -/
def signOffer (signer : EnrollmentOfferSignerClient) (claim : ControllerOfferClaim) (now : Str) :
    Except ServiceError DetachedAttestation :=
  if h : claim.authorized = true then
    match signer ⟨claim, h⟩ now with
    | .ok attestation => .ok attestation
    | .error (.refused code) => .error (.refused code)
    | .error .other => .error signerUnavailable
  else .error .unexpected

variable [Ed25519]

/-- The part of `bind_worker_exchange` that no earlier offer has settled. -/
def offerToWorker (db : ExchangeDb) (signer : EnrollmentOfferSignerClient)
    (loaded : LoadedEnrollment) (invitation : WorkerEnrollmentInvitation) (workerKeyId : Str)
    (request : BindExchange) : Except ServiceError (ExchangeOutcome × ExchangeDb) := do
  let actor := ExchangeAuthority.verified loaded.organizationId
  let (bound, enrollments) ← bindWorker db.enrollments actor request.enrollmentId
    request.workerInstallationId workerKeyId invitation.transactionId request.now
    request.expectedRevision request.claimedScope
  let claim := invitation.offerClaim request.enrollmentId request.workerInstallationId workerKeyId
    bound.state.digest
  let attestation ← signOffer signer claim request.now
  let offerClaim ← verifyControllerOffer attestation claim
  let (recorded, enrollments) ← recordOffer enrollments actor request.enrollmentId
    ⟨str "controller-offer", claimDigest offerClaim, invitation.transactionId, attestation.keyId⟩
    request.now bound.committedRevision request.claimedScope
  let envelope := offerEnvelope offerClaim attestation
  let status ← statusView recorded.state
  let response := bindResponse envelope status
  let db ← surfaced .unexpected (persistSignedOffer { db with enrollments := enrollments }
    request.enrollmentId loaded.organizationId recorded.committedRevision attestation.keyId
    (envelope.dumps true) (some (bindInputDigest request invitation workerKeyId))
    (some (claimDigest offerClaim)) (some recorded.committedRevision) (some recorded.state.digest)
    (some request.workerInstallationId) (some workerKeyId) (some (response.dumps true)))
  pure (⟨envelope, status, false⟩, db)

/-- `bind_worker_exchange`. -/
def bindWorkerExchange (db : ExchangeDb) (signer : EnrollmentOfferSignerClient)
    (request : BindExchange) : Except ServiceError (ExchangeOutcome × ExchangeDb) := do
  let loaded ← loadForExchange db.enrollments request.enrollmentId request.claimedScope
  match ← surfaced .unexpected (loadInvitationForUpdate db.enrollments request.enrollmentId) with
  | none => .error (.refused (str "enrollment_invitation_not_found"))
  | some row => do
      let invitation := row.invitation
      let verified ← verifyWorkerBindingPop invitation request.enrollmentId
        request.workerInstallationId request.workerPublicKeyHex request.popAttestation
      ensure (verified.workerKeyId ≠ invitation.controllerKeyId) popInvalid
      match ← surfaced .unexpected (loadSignedOfferRecord db request.enrollmentId) with
      | some record => do
          let outcome ← replayBindRecord db record request.enrollmentId
            (bindInputDigest request invitation verified.workerKeyId) request.workerInstallationId
            verified.workerKeyId
          pure (outcome, db)
      | none => offerToWorker db signer loaded invitation verified.workerKeyId request

/-! ## The result -/

/-- A signed result of a worker. -/
structure ResultExchange where
  enrollmentId : Str
  workerPublicKeyHex : Str
  outcome : Str
  attestation : DetachedAttestation
  healthEvidence : Dict Str Bool
  expectedRevision : Int
  now : Str
  claimedScope : Option ClaimedScope
  deriving DecidableEq

structure ResultExchangeOutcome where
  status : Json
  deduplicated : Bool

omit [Unicode] [Ed25519] in
/-- `_persisted_offer_bindings`: the predecessor, the generation and the challenge of a result. -/
def persistedOfferBindings (db : ExchangeDb) (enrollmentId : Str) :
    Except ServiceError (Str × Str × Json) := do
  let corrupt := ServiceError.refused (str "enrollment_state_corrupt")
  -- a refusal of the repository is not caught here
  match loadSignedOffer db enrollmentId with
  | .error _ => .error .unexpected
  | .ok none => .error (.refused (str "enrollment_wrong_state"))
  | .ok (some persisted) =>
      match Json.loads persisted with
      | none => .error corrupt
      | some envelope =>
          match envelope.get? (str "claim"), envelope.get? (str "attestation") with
          | some claim, some attestation =>
              match attestation.get? (str "key_id"), attestation.get? (str "signature") with
              | some generation, some challenge =>
                  match claim, generation with
                  | .obj fields, .str generation => pure (claimDigest (.obj fields), generation, challenge)
                  | _, _ => .error corrupt
              | _, _ => .error corrupt
          | _, _ => .error corrupt

/-- The claim of a result, rebuilt from the bound state. -/
def EnrollmentState.resultClaim (state : EnrollmentState) (request : ResultExchange)
    (predecessorDigest generation : Str) (challenge : Json) : WorkerResultClaim where
  enrollmentId := request.enrollmentId
  controllerTransactionId := state.transactionId
  workerKeyId := state.workerKeyId
  predecessorDigest := predecessorDigest
  releaseDigest := state.releaseDigest
  outcome := request.outcome
  healthEvidenceDigest := sha256Digest (Enrollment.healthEvidence request.healthEvidence)
  generation := generation
  challenge := challenge

/-- The three steps of a verified result. -/
def advanceToHealthy (db : EnrollmentDb) (actor : ExchangeAuthority) (state : EnrollmentState)
    (resultDigest : Str) (request : ResultExchange) : Except ServiceError (Bool × EnrollmentDb) := do
  let (recorded, db) ← recordResult db actor request.enrollmentId
    ⟨str "worker-result", resultDigest, state.transactionId, state.workerKeyId⟩ request.now
    request.expectedRevision request.claimedScope
  let (verified, db) ← verifyRelease db actor request.enrollmentId state.releaseDigest request.now
    recorded.committedRevision request.claimedScope
  let (healthy, db) ← markEnrollmentHealthy db actor request.enrollmentId request.now
    verified.committedRevision request.claimedScope
  pure (recorded.deduplicated && verified.deduplicated && healthy.deduplicated, db)

/-- `record_worker_result_exchange`. -/
def recordWorkerResultExchange (db : ExchangeDb) (request : ResultExchange) :
    Except ServiceError (ResultExchangeOutcome × ExchangeDb) := do
  let loaded ← loadForExchange db.enrollments request.enrollmentId request.claimedScope
  let state := loaded.state
  ensure (!state.workerKeyId.isEmpty) (.refused (str "enrollment_wrong_state"))
  match ← surfaced .unexpected (loadInvitationForUpdate db.enrollments request.enrollmentId) with
  | none => .error (.refused (str "enrollment_invitation_not_found"))
  | some _ => do
      let (predecessorDigest, generation, challenge) ←
        persistedOfferBindings db request.enrollmentId
      let claim := state.resultClaim request predecessorDigest generation challenge
      verifyWorkerResult claim state.workerKeyId request.workerPublicKeyHex request.attestation
      ensure (request.outcome = workerResultOutcomeHealthy &&
        healthEvidenceComplete request.healthEvidence) (.refused (str "enrollment_health_incomplete"))
      let (deduplicated, enrollments) ← advanceToHealthy db.enrollments
        (.verified loaded.organizationId) state (claimDigest (workerResultClaim claim)) request
      let head ← loadForExchange enrollments request.enrollmentId request.claimedScope
      let status ← statusView head.state
      pure (⟨status, deduplicated⟩, { db with enrollments := enrollments })

/-! ## Requests -/

/-- What is asked of the controller in production. -/
inductive ExchangeRequest where
  | bind (signer : EnrollmentOfferSignerClient) (request : BindExchange)
  | result (request : ResultExchange)
  | enrollment (request : Request)

/-- What a request leaves; the steps themselves are sealed. -/
def ExchangeRequest.serve (db : ExchangeDb) : ExchangeRequest → Except ServiceError ExchangeDb
  | .bind signer request => (bindWorkerExchange db signer request).map Prod.snd
  | .result request => (recordWorkerResultExchange db request).map Prod.snd
  | .enrollment (.step _) => .error (.refused (str "enrollment_progression_sealed"))
  | .enrollment request =>
      (request.serve db.enrollments).map fun served => { db with enrollments := served.2 }

/-- The tables after a request; one that raises is rolled back. -/
def ExchangeDb.after (db : ExchangeDb) (request : ExchangeRequest) : ExchangeDb :=
  match request.serve db with
  | .ok db' => db'
  | .error _ => db

/-- The tables after a history of requests. -/
def ExchangeDb.served (db : ExchangeDb) (requests : List ExchangeRequest) : ExchangeDb :=
  requests.foldl ExchangeDb.after db

end

end Secp.Enrollment
