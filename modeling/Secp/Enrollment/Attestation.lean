import Secp.Enrollment.Records

/-!
# Detached attestations

The signatures of the worker exchange. What is signed is never a record but the digest of a claim, in an
envelope that names the exchange and the kind of the claim. A key is named by the digest of its raw
bytes, so an attestation can be checked against a pinned key id with public material alone.
-/

namespace Secp.Enrollment

open Secp.Python Secp.Logic

/-- `Ed25519PublicKey.verify`: whether a signature of a message verifies under a raw public key. -/
class Ed25519 where
  verify : List Nat → List Nat → List Nat → Bool

/-! ## Key ids -/

/-- What `bytes.fromhex` skips between two bytes. -/
def isFromhexSpace (c : Char) : Bool := c = ' ' || (9 ≤ c.toNat && c.toNat ≤ 13)

/-- `bytes.fromhex` of any text. -/
def bytesFromhex : Str → Option (List Nat)
  | [] => some []
  | [c] => if isFromhexSpace c then some [] else none
  | c :: d :: rest =>
      if isFromhexSpace c then bytesFromhex (d :: rest)
      else if isHexDigit c && isHexDigit d then
        (bytesFromhex rest).map fun bytes => (hexValue c * 16 + hexValue d) :: bytes
      else none

/-- `key_id_for`: the digest of the raw bytes of a key, where the text has any. -/
def keyIdFor (publicKeyHex : Str) : Option Str :=
  (bytesFromhex publicKeyHex).map fun raw => str "sha256:" ++ Sha256.hexdigest raw

/-! ## Attestations -/

def enrollmentAttestationDomain : Str := str "secp.worker-enrollment.exchange/v1"

def popKind : Str := str "worker-enrollment-binding-pop"

def offerKind : Str := str "worker-enrollment-controller-offer"

def resultKind : Str := str "worker-enrollment-result"

def hex128Re : Re := .many (fun c => isAsciiDigit c || (97 ≤ c.toNat && c.toNat ≤ 102)) 128 (some 128)

structure DetachedAttestation where
  algorithm : Str
  keyId : Str
  publicKeyHex : Str
  signature : Str
  deriving DecidableEq

/-- `attestation_message`: the bytes that are signed. -/
def attestationMessage (domain kind digest : Str) : List Nat :=
  Sha256.encode (Json.dumps true (.obj [
    (str "domain", .str domain), (str "kind", .str kind), (str "digest", .str digest)])) ++ [10]

section
variable [Unicode] [Ed25519]

/-- `verify_detached`, with the reason code of a refusal. -/
def verifyDetached (attestation : DetachedAttestation) (expectedKeyId domain kind digest : Str) :
    Except Str Unit := do
  ensure (attestation.algorithm = str "Ed25519") (str "attestation_algorithm_invalid")
  ensure (isSha256Digest expectedKeyId && isSha256Digest attestation.keyId)
    (str "attestation_signer_not_pinned")
  ensure (attestation.keyId = expectedKeyId) (str "attestation_signer_not_pinned")
  ensure (hex64Re.fullmatch attestation.publicKeyHex && hex128Re.fullmatch attestation.signature)
    (str "attestation_invalid")
  ensure (keyIdFor attestation.publicKeyHex = some attestation.keyId)
    (str "attestation_key_id_mismatch")
  ensure (isSha256Digest digest) (str "attestation_digest_invalid")
  ensure (Ed25519.verify (fromhex attestation.publicKeyHex) (fromhex attestation.signature)
    (attestationMessage domain kind digest)) (str "attestation_signature_invalid")

/-- What an attestation that verifies is: a signature of the digest, by the key the id is pinned to. -/
structure Attests (attestation : DetachedAttestation) (keyId kind digest : Str) : Prop where
  algorithm : attestation.algorithm = str "Ed25519"
  pinned : isSha256Digest keyId = true
  signer : attestation.keyId = keyId
  publicKeyHex : hex64Re.fullmatch attestation.publicKeyHex = true
  signature : hex128Re.fullmatch attestation.signature = true
  derived : keyIdFor attestation.publicKeyHex = some keyId
  addressed : isSha256Digest digest = true
  verified : Ed25519.verify (fromhex attestation.publicKeyHex) (fromhex attestation.signature)
    (attestationMessage enrollmentAttestationDomain kind digest) = true

theorem verifyDetached_eq_ok_iff {attestation : DetachedAttestation} {keyId kind digest : Str} :
    verifyDetached attestation keyId enrollmentAttestationDomain kind digest = .ok () ↔
      Attests attestation keyId kind digest := by
  unfold verifyDetached
  simp only [except_unit_bind_eq_ok, ensure_eq_ok_iff, Bool.and_eq_true, decide_eq_true_eq]
  constructor
  · rintro ⟨halgorithm, ⟨hpinned, -⟩, hkeyId, ⟨hkey, hsignature⟩, hderived, hdigest, hverified⟩
    exact ⟨halgorithm, hpinned, hkeyId, hkey, hsignature, hkeyId ▸ hderived, hdigest, hverified⟩
  · intro h
    exact ⟨h.algorithm, ⟨h.pinned, h.signer.symm ▸ h.pinned⟩, h.signer, ⟨h.publicKeyHex, h.signature⟩,
      h.signer.symm ▸ h.derived, h.addressed, h.verified⟩

end

/-! ## Claims -/

def bindingSchema : Str := str "secp.worker-enrollment.binding/v1"

def offerSchema : Str := str "secp.worker-enrollment.offer/v1"

def resultSchema : Str := str "secp.worker-enrollment.result/v1"

/-- What the proof of possession of a worker names. -/
structure WorkerBindingClaim where
  enrollmentId : Str
  invitationId : Str
  controllerInstallationId : Str
  controllerKeyId : Str
  controllerTransactionId : Str
  workerInstallationId : Str
  workerKeyId : Str
  releaseDigest : Str
  expiresAt : Str
  deriving DecidableEq

/-- What an offer of the controller names. -/
structure ControllerOfferClaim where
  enrollmentId : Str
  invitationId : Str
  controllerInstallationId : Str
  controllerKeyId : Str
  controllerOrigin : Str
  controllerTransactionId : Str
  workerInstallationId : Str
  workerKeyId : Str
  releaseDigest : Str
  expiresAt : Str
  predecessorDigest : Str
  deriving DecidableEq

/-- What a result of a worker names. -/
structure WorkerResultClaim where
  enrollmentId : Str
  controllerTransactionId : Str
  workerKeyId : Str
  predecessorDigest : Str
  releaseDigest : Str
  outcome : Str
  healthEvidenceDigest : Str
  generation : Str
  challenge : Json

/-- `worker_binding_claim`. -/
def workerBindingClaim (claim : WorkerBindingClaim) : Json := .obj [
  (str "schema", .str bindingSchema),
  (str "enrollment_id", .str claim.enrollmentId),
  (str "invitation_id", .str claim.invitationId),
  (str "controller_installation_id", .str claim.controllerInstallationId),
  (str "controller_key_id", .str claim.controllerKeyId),
  (str "controller_transaction_id", .str claim.controllerTransactionId),
  (str "worker_installation_id", .str claim.workerInstallationId),
  (str "worker_key_id", .str claim.workerKeyId),
  (str "release_digest", .str claim.releaseDigest),
  (str "expires_at", .str claim.expiresAt)]

/-- `controller_offer_claim`. -/
def controllerOfferClaim (claim : ControllerOfferClaim) : Json := .obj [
  (str "schema", .str offerSchema),
  (str "enrollment_id", .str claim.enrollmentId),
  (str "invitation_id", .str claim.invitationId),
  (str "controller_installation_id", .str claim.controllerInstallationId),
  (str "controller_key_id", .str claim.controllerKeyId),
  (str "controller_origin", .str claim.controllerOrigin),
  (str "controller_transaction_id", .str claim.controllerTransactionId),
  (str "worker_installation_id", .str claim.workerInstallationId),
  (str "worker_key_id", .str claim.workerKeyId),
  (str "release_digest", .str claim.releaseDigest),
  (str "expires_at", .str claim.expiresAt),
  (str "predecessor_digest", .str claim.predecessorDigest)]

/-- `worker_result_claim`. -/
def workerResultClaim (claim : WorkerResultClaim) : Json := .obj [
  (str "schema", .str resultSchema),
  (str "enrollment_id", .str claim.enrollmentId),
  (str "controller_transaction_id", .str claim.controllerTransactionId),
  (str "worker_key_id", .str claim.workerKeyId),
  (str "predecessor_digest", .str claim.predecessorDigest),
  (str "release_digest", .str claim.releaseDigest),
  (str "outcome", .str claim.outcome),
  (str "health_evidence_digest", .str claim.healthEvidenceDigest),
  (str "generation", .str claim.generation),
  (str "challenge", claim.challenge)]

/-- `claim_digest`. -/
def claimDigest (claim : Json) : Str := sha256Digest claim

/-! ## Health evidence -/

def workerResultOutcomeHealthy : Str := str "healthy"

/-- `REQUIRED_HEALTH_CHECKS`. -/
def requiredHealthChecks : List Str := [
  str "invitation_and_offer_verified", str "controller_key_pinned", str "expected_transaction",
  str "expected_predecessor", str "exact_release", str "worker_enrollment_key_protected",
  str "local_enrollment_state_present", str "operator_worker_disabled", str "no_provider_contact",
  str "no_opentofu_execution", str "no_controlled_live_submission"]

/-- `health_evidence_complete`. -/
def healthEvidenceComplete (evidence : Dict Str Bool) : Bool :=
  requiredHealthChecks.all fun check => evidence.get? check = some true

/-- The evidence as it is digested. -/
def healthEvidence (evidence : Dict Str Bool) : Json :=
  .obj (evidence.map fun entry => (entry.1, .bool entry.2))

end Secp.Enrollment
