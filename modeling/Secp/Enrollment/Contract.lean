import Secp.Enrollment.Scan
import Secp.Python.Datetime
import Secp.Python.IpaddressText
import Secp.Python.Sha256

/-!
# The enrollment contract

The pure transition contract of worker enrollment: the invitation, the enrollment state with its
canonical form and its public view, and the seven transitions. A transition returns the next state or
raises one bounded reason code; the two terminals can be reached from anywhere.
-/

namespace Secp.Enrollment

open Secp.Python Secp.Logic

def enrollmentContractVersion : Str := str "secp.management-enrollment/v1alpha1"

def invitationSchema : Str := str "secp.management.worker-enrollment-invitation/v1"

def stateSchema : Str := str "secp.management.enrollment-state/v1"

/-- A refusal of the contract, or of the scan of an invitation. -/
inductive ContractError where
  | closed (reasonCode : Str)
  | descriptor (reason : Str)
  deriving DecidableEq

/-! ## Field grammars -/

def hex64Re : Re := .many (fun c => isAsciiDigit c || (97 ≤ c.toNat && c.toNat ≤ 102)) 64 (some 64)

def isInstallationIdChar (c : Char) : Bool := isAsciiLower c || isAsciiDigit c || c = '-'

def installationIdRe : Re := .all [.char fun c => isAsciiLower c || isAsciiDigit c,
  .many isInstallationIdChar 7 (some 63)]

def httpsOriginRe : Re := .all [.word (str "https://"),
  .many (fun c => isAsciiLower c || isAsciiDigit c || c = '.' || c = '-') 1 (some 253),
  .alt .empty (.all [.char fun c => c = ':', .char fun c => isAsciiDigit c && c ≠ '0',
    .many isAsciiDigit 0 (some 4)])]

def isReasonChar (c : Char) : Bool := isAsciiLower c || isAsciiDigit c || c = '_'

def reasonCodeRe : Re := .all [.char isAsciiLower, .many isReasonChar 0 (some 63)]

def deploymentSiteLabelRe : Re := .all [.char isAsciiAlnum,
  .many (fun c => isAsciiAlnum c || c = '.' || c = '_' || c = '-') 0 (some 119)]

/-- `is_sha256_digest`. -/
def isSha256Digest (value : Str) : Bool :=
  startsWith value (str "sha256:") &&
    (let hexpart := value.drop 7
     hexpart.length = 64 &&
      hexpart.all fun c => isAsciiDigit c || (97 ≤ c.toNat && c.toNat ≤ 102))

/-- `sha256_digest`: the content address of a payload. -/
def sha256Digest (payload : Json) : Str :=
  str "sha256:" ++ Sha256.hexdigest (Sha256.encode (payload.dumps true))

/-- `bytes.fromhex` of pairs of digits. -/
def fromhex : Str → List Nat
  | a :: b :: rest => (hexValue a * 16 + hexValue b) :: fromhex rest
  | _ => []

def sha256DigestOfHex (hexValue : Str) : Str :=
  str "sha256:" ++ Sha256.hexdigest (fromhex hexValue)

/-- The instant of a UTC timestamp of bounded length. -/
def readUtc (maxLength : Nat) (value : Str) : Option Int :=
  let text := replaceChar 'Z' (str "+00:00") value
  if 1 ≤ value.length && value.length ≤ maxLength then
    match Datetime.fromIsoformat text with
    | some instant => if Datetime.utcoffset text = some 0 then some instant else none
    | none => none
  else none

/-- `_parse_ts`. -/
def parseTs (value reason : Str) : Except ContractError Int :=
  match readUtc 40 value with
  | some instant => .ok instant
  | none => .error (.closed reason)

section
variable [Unicode]

/-- `_short_field` without a pattern. -/
def shortField (value reason : Str) : Except ContractError Unit :=
  ensure (1 ≤ value.length && value.length ≤ 512) (.closed reason)

/-- `_short_field` with a pattern. -/
def shortFieldMatching (pattern : Re) (value reason : Str) : Except ContractError Unit := do
  shortField value reason
  ensure (pattern.fullmatch value) (.closed reason)

/-- `_reason_code`. -/
def reasonCode (reason : Str) : Except ContractError Unit :=
  shortFieldMatching reasonCodeRe reason (str "enrollment_reason_code_invalid")

end

/-- `_assert_participants_separated`. -/
def assertParticipantsSeparated (controllerKeyId workerKeyId : Str) : Except ContractError Unit :=
  ensure (workerKeyId ≠ controllerKeyId) (.closed (str "enrollment_worker_mismatch"))

/-! ## The site label -/

def siteLabelInvalid : Str := str "enrollment_site_label_invalid"

def siteLabelForbiddenShape : Str := str "enrollment_site_label_forbidden_shape"

/-- `_is_ip_literal`. -/
def isIpLiteral (value : Str) : Bool := (Ip.ipAddress value).isSome

/-- `deployment_site_label_refusal`. -/
def deploymentSiteLabelRefusal [Unicode] (value : Str) : Option Str :=
  if !deploymentSiteLabelRe.fullmatch value then some siteLabelInvalid
  else if isIpLiteral value then some siteLabelInvalid
  else if !survivesProjectionScan value then some siteLabelForbiddenShape
  else none

/-- `is_deployment_site_label`. -/
def isDeploymentSiteLabel [Unicode] (value : Str) : Bool :=
  deploymentSiteLabelRefusal value = none

/-! ## Invitations -/

structure WorkerEnrollmentInvitation where
  contractVersion : Str
  invitationId : Str
  controllerInstallationId : Str
  controllerKeyId : Str
  controllerTrustAnchorHex : Str
  controllerOrigin : Str
  releaseDigest : Str
  transactionId : Str
  sequence : Int
  createdAt : Str
  expiresAt : Str
  deriving DecidableEq

namespace WorkerEnrollmentInvitation

variable (invitation : WorkerEnrollmentInvitation)

def canonical : Json := .obj [
  (str "schema", .str invitationSchema),
  (str "contract_version", .str invitation.contractVersion),
  (str "invitation_id", .str invitation.invitationId),
  (str "controller_installation_id", .str invitation.controllerInstallationId),
  (str "controller_key_id", .str invitation.controllerKeyId),
  (str "controller_trust_anchor_hex", .str invitation.controllerTrustAnchorHex),
  (str "controller_origin", .str invitation.controllerOrigin),
  (str "release_digest", .str invitation.releaseDigest),
  (str "transaction_id", .str invitation.transactionId),
  (str "sequence", .int invitation.sequence),
  (str "created_at", .str invitation.createdAt),
  (str "expires_at", .str invitation.expiresAt)]

def digest : Str := sha256Digest invitation.canonical

def scan [Unicode] : Except ContractError Unit :=
  match scanForbidden invitation.canonical with
  | .ok () => .ok ()
  | .error reason => .error (.descriptor reason)

def validate [Unicode] : Except ContractError Unit := do
  let invalid := str "enrollment_invitation_invalid"
  let anchorInvalid := str "enrollment_trust_anchor_invalid"
  ensure (invitation.contractVersion = enrollmentContractVersion) (.closed invalid)
  ensure (isSha256Digest invitation.invitationId) (.closed invalid)
  shortFieldMatching installationIdRe invitation.controllerInstallationId invalid
  ensure (isSha256Digest invitation.controllerKeyId) (.closed invalid)
  ensure (hex64Re.fullmatch invitation.controllerTrustAnchorHex) (.closed anchorInvalid)
  ensure (sha256DigestOfHex invitation.controllerTrustAnchorHex = invitation.controllerKeyId)
    (.closed anchorInvalid)
  ensure (invitation.controllerOrigin.length ≤ 253 + 16 &&
    httpsOriginRe.fullmatch invitation.controllerOrigin) (.closed (str "enrollment_origin_not_https"))
  ensure (isSha256Digest invitation.releaseDigest) (.closed invalid)
  shortField invitation.transactionId invalid
  ensure (invitation.sequence = 0) (.closed invalid)
  let created ← parseTs invitation.createdAt invalid
  let expires ← parseTs invitation.expiresAt invalid
  let ttl := expires - created
  ensure (1 * microsPerSecond ≤ ttl && ttl ≤ 24 * 3600 * microsPerSecond)
    (.closed invalid)
  invitation.scan

def assertFresh (now : Str) : Except ContractError Unit := do
  let instant ← parseTs now (str "enrollment_time_invalid")
  let created ← parseTs invitation.createdAt (str "enrollment_invitation_invalid")
  let expires ← parseTs invitation.expiresAt (str "enrollment_invitation_invalid")
  ensure (created ≤ instant && instant < expires) (.closed (str "enrollment_invitation_expired"))

end WorkerEnrollmentInvitation

/-! ## States -/

inductive EnrollmentPhase where
  | invited
  | workerBound
  | offerTransported
  | resultTransported
  | verified
  | healthy
  | refused
  | recoveryRequired
  deriving DecidableEq

namespace EnrollmentPhase

def value : EnrollmentPhase → Str
  | invited => str "invited"
  | workerBound => str "worker_bound"
  | offerTransported => str "offer_transported"
  | resultTransported => str "result_transported"
  | verified => str "verified"
  | healthy => str "healthy"
  | refused => str "refused"
  | recoveryRequired => str "recovery_required"

/-- `ALL_STATES`. -/
def members : List EnrollmentPhase :=
  [invited, workerBound, offerTransported, resultTransported, verified, healthy, refused,
    recoveryRequired]

/-- `ACTIVE`. -/
def active : List EnrollmentPhase :=
  [invited, workerBound, offerTransported, resultTransported, verified]

/-- `ADVANCE`: the state a forward edge requires. -/
def predecessor : EnrollmentPhase → Option EnrollmentPhase
  | workerBound => some invited
  | offerTransported => some workerBound
  | resultTransported => some offerTransported
  | verified => some resultTransported
  | healthy => some verified
  | _ => none

end EnrollmentPhase

/-- The facts bound from a verified signed handoff. -/
structure HandoffFacts where
  kind : Str
  digest : Str
  transactionId : Str
  signerKeyId : Str
  deriving DecidableEq

structure EnrollmentState where
  contractVersion : Str
  enrollmentId : Str
  state : EnrollmentPhase
  revision : Int
  sequence : Int
  predecessorDigest : Str
  controllerInstallationId : Str
  controllerKeyId : Str
  workerInstallationId : Str
  workerKeyId : Str
  releaseDigest : Str
  transactionId : Str
  offerDigest : Str
  resultDigest : Str
  expiresAt : Str
  updatedAt : Str
  refusalReason : Str
  deploymentSiteLabel : Str := []
  deriving DecidableEq

/-- `_fingerprint`: the first twelve characters of a digest or key id, behind its colon. -/
def fingerprint [Unicode] (value : Str) : Str :=
  if value.isEmpty then []
  else
    let tail := if value.contains ':' then (value.dropWhile (· ≠ ':')).drop 1 else value
    if hex64Re.fullmatch tail || 12 ≤ tail.length then tail.take 12 else []

namespace EnrollmentState

variable (state : EnrollmentState)

def canonical : Json := .obj [
  (str "schema", .str stateSchema),
  (str "contract_version", .str state.contractVersion),
  (str "enrollment_id", .str state.enrollmentId),
  (str "state", .str state.state.value),
  (str "revision", .int state.revision),
  (str "sequence", .int state.sequence),
  (str "predecessor_digest", .str state.predecessorDigest),
  (str "controller_installation_id", .str state.controllerInstallationId),
  (str "controller_key_id", .str state.controllerKeyId),
  (str "worker_installation_id", .str state.workerInstallationId),
  (str "worker_key_id", .str state.workerKeyId),
  (str "release_digest", .str state.releaseDigest),
  (str "transaction_id", .str state.transactionId),
  (str "offer_digest", .str state.offerDigest),
  (str "result_digest", .str state.resultDigest),
  (str "expires_at", .str state.expiresAt),
  (str "updated_at", .str state.updatedAt),
  (str "refusal_reason", .str state.refusalReason)]

def digest : Str := sha256Digest state.canonical

/-- The projection before it is scanned. -/
def view [Unicode] : Json := .obj [
  (str "enrollment_id", .str state.enrollmentId),
  (str "state", .str state.state.value),
  (str "revision", .int state.revision),
  (str "controller_installation_id", .str state.controllerInstallationId),
  (str "controller_key_fingerprint", .str (fingerprint state.controllerKeyId)),
  (str "worker_installation_id", .str state.workerInstallationId),
  (str "worker_key_fingerprint", .str (fingerprint state.workerKeyId)),
  (str "release_fingerprint", .str (fingerprint state.releaseDigest)),
  (str "offer_fingerprint", .str (fingerprint state.offerDigest)),
  (str "result_fingerprint", .str (fingerprint state.resultDigest)),
  (str "deployment_site_label", .str state.deploymentSiteLabel),
  (str "expires_at", .str state.expiresAt),
  (str "updated_at", .str state.updatedAt),
  (str "refusal_reason", .str state.refusalReason)]

def publicView [Unicode] : Except ContractError Json :=
  match scanForbidden state.view with
  | .ok () => .ok state.view
  | .error _ => .error (.closed (str "enrollment_state_corrupt"))

end EnrollmentState

/-! ## Transitions -/

section
variable [Unicode]

def openEnrollment (invitation : WorkerEnrollmentInvitation) (now : Str)
    (deploymentSiteLabel : Str := []) : Except ContractError EnrollmentState := do
  invitation.validate
  invitation.assertFresh now
  let _ ← parseTs now (str "enrollment_time_invalid")
  pure { contractVersion := enrollmentContractVersion
         enrollmentId := invitation.digest
         state := .invited
         revision := 0
         sequence := 0
         predecessorDigest := []
         controllerInstallationId := invitation.controllerInstallationId
         controllerKeyId := invitation.controllerKeyId
         workerInstallationId := []
         workerKeyId := []
         releaseDigest := invitation.releaseDigest
         transactionId := invitation.transactionId
         offerDigest := []
         resultDigest := []
         expiresAt := invitation.expiresAt
         updatedAt := now
         refusalReason := []
         deploymentSiteLabel := deploymentSiteLabel }

/-- What every forward edge sets, before the changes of the edge itself. -/
def EnrollmentState.advanced (state : EnrollmentState) (target : EnrollmentPhase) (now : Str) :
    EnrollmentState :=
  { state with
    state := target
    revision := state.revision + 1
    sequence := state.sequence + 1
    predecessorDigest := state.digest
    updatedAt := now
    refusalReason := [] }

/-- What a terminal sets. -/
def EnrollmentState.stopped (state : EnrollmentState) (target : EnrollmentPhase) (reason : Str) :
    EnrollmentState :=
  { state with
    state := target
    revision := state.revision + 1
    predecessorDigest := state.digest
    refusalReason := reason }

omit [Unicode] in
/-- `_advance`. -/
def advance (state : EnrollmentState) (target : EnrollmentPhase) (now : Str)
    (changes : EnrollmentState → EnrollmentState := id) : Except ContractError EnrollmentState := do
  assertParticipantsSeparated state.controllerKeyId state.workerKeyId
  ensure (state.state ∈ EnrollmentPhase.active) (.closed (str "enrollment_wrong_state"))
  ensure (some state.state = target.predecessor) (.closed (str "enrollment_wrong_state"))
  let instant ← parseTs now (str "enrollment_time_invalid")
  let expires ← parseTs state.expiresAt (str "enrollment_state_invalid")
  ensure (instant < expires) (.closed (str "enrollment_expired"))
  pure (changes (state.advanced target now))

def bindWorkerIdentity (state : EnrollmentState) (workerInstallationId workerKeyId transactionId now :
    Str) : Except ContractError EnrollmentState := do
  shortFieldMatching installationIdRe workerInstallationId (str "enrollment_worker_mismatch")
  ensure (isSha256Digest workerKeyId) (.closed (str "enrollment_worker_mismatch"))
  ensure (transactionId = state.transactionId) (.closed (str "enrollment_transaction_mismatch"))
  ensure (workerInstallationId ≠ state.controllerInstallationId)
    (.closed (str "enrollment_installation_mismatch"))
  assertParticipantsSeparated state.controllerKeyId workerKeyId
  assertParticipantsSeparated state.controllerKeyId state.workerKeyId
  if state.state = .workerBound then do
    ensure (state.workerInstallationId = workerInstallationId && state.workerKeyId = workerKeyId)
      (.closed (str "enrollment_already_bound"))
    pure state
  else advance state .workerBound now fun state =>
    { state with workerInstallationId := workerInstallationId, workerKeyId := workerKeyId }

def recordControllerOffer (state : EnrollmentState) (facts : HandoffFacts) (now : Str) :
    Except ContractError EnrollmentState := do
  assertParticipantsSeparated state.controllerKeyId state.workerKeyId
  ensure (facts.kind = str "controller-offer") (.closed (str "enrollment_handoff_invalid"))
  ensure (facts.signerKeyId = state.controllerKeyId) (.closed (str "enrollment_controller_mismatch"))
  ensure (facts.transactionId = state.transactionId)
    (.closed (str "enrollment_transaction_mismatch"))
  ensure (isSha256Digest facts.digest) (.closed (str "enrollment_handoff_invalid"))
  if state.state = .offerTransported then do
    ensure (state.offerDigest = facts.digest) (.closed (str "enrollment_replay"))
    pure state
  else advance state .offerTransported now fun state => { state with offerDigest := facts.digest }

def recordWorkerResult (state : EnrollmentState) (facts : HandoffFacts) (now : Str) :
    Except ContractError EnrollmentState := do
  assertParticipantsSeparated state.controllerKeyId state.workerKeyId
  ensure (facts.kind = str "worker-result") (.closed (str "enrollment_handoff_invalid"))
  ensure (facts.signerKeyId = state.workerKeyId) (.closed (str "enrollment_worker_mismatch"))
  ensure (facts.transactionId = state.transactionId)
    (.closed (str "enrollment_transaction_mismatch"))
  ensure (isSha256Digest facts.digest) (.closed (str "enrollment_handoff_invalid"))
  if state.state = .resultTransported then do
    ensure (state.resultDigest = facts.digest) (.closed (str "enrollment_replay"))
    pure state
  else advance state .resultTransported now fun state => { state with resultDigest := facts.digest }

def markVerified (state : EnrollmentState) (releaseDigest now : Str) :
    Except ContractError EnrollmentState := do
  assertParticipantsSeparated state.controllerKeyId state.workerKeyId
  ensure (releaseDigest = state.releaseDigest) (.closed (str "enrollment_release_mismatch"))
  if state.state = .verified then pure state else advance state .verified now

def markHealthy (state : EnrollmentState) (now : Str) : Except ContractError EnrollmentState := do
  assertParticipantsSeparated state.controllerKeyId state.workerKeyId
  if state.state = .healthy then pure state else advance state .healthy now

def refuse (state : EnrollmentState) (reason : Str) : Except ContractError EnrollmentState := do
  reasonCode reason
  if state.state ∈ [EnrollmentPhase.refused, .recoveryRequired] then pure state
  else pure (state.stopped .refused reason)

def requireRecovery (state : EnrollmentState) (reason : Str) :
    Except ContractError EnrollmentState := do
  reasonCode reason
  if state.state = .recoveryRequired then pure state
  else pure (state.stopped .recoveryRequired reason)

end

/-- A call of one of the seven transitions. -/
inductive Call where
  | bindWorkerIdentity (workerInstallationId workerKeyId transactionId now : Str)
  | recordControllerOffer (facts : HandoffFacts) (now : Str)
  | recordWorkerResult (facts : HandoffFacts) (now : Str)
  | markVerified (releaseDigest now : Str)
  | markHealthy (now : Str)
  | refuse (reason : Str)
  | requireRecovery (reason : Str)
  deriving DecidableEq

def Call.apply [Unicode] : Call → EnrollmentState → Except ContractError EnrollmentState
  | .bindWorkerIdentity installationId keyId transactionId now, state =>
      Enrollment.bindWorkerIdentity state installationId keyId transactionId now
  | .recordControllerOffer facts now, state => Enrollment.recordControllerOffer state facts now
  | .recordWorkerResult facts now, state => Enrollment.recordWorkerResult state facts now
  | .markVerified releaseDigest now, state => Enrollment.markVerified state releaseDigest now
  | .markHealthy now, state => Enrollment.markHealthy state now
  | .refuse reason, state => Enrollment.refuse state reason
  | .requireRecovery reason, state => Enrollment.requireRecovery state reason

/-- A call on a forward edge. -/
def Call.advancing : Call → Bool
  | .refuse _ => false
  | .requireRecovery _ => false
  | _ => true

end Secp.Enrollment
