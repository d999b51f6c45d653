import Secp.Enrollment.Exchange
import Secp.Enrollment.Tables

/-!
# Stored offers

An offer is stored as texts: the signed envelope, and the answer the binding was given. What is read back
of them is what was stored, up to the order of keys, which no digest sees.
-/

namespace Secp.Enrollment

open Secp.Python Secp.Logic

section
variable [Unicode]

/-! ## Rows -/

/-- The claim a worker proves the possession of its key on. -/
def Record.bindingClaim (record : Record) (bound : EnrollmentState) : Json :=
  workerBindingClaim (record.invitation.bindingClaim record.id bound.workerInstallationId
    bound.workerKeyId)

/-- The claim of the offer that answers a bound state. -/
def Record.offerClaim (record : Record) (bound : EnrollmentState) : ControllerOfferClaim :=
  record.invitation.offerClaim record.id bound.workerInstallationId bound.workerKeyId bound.digest

/-- The envelope of the offer that answers a bound state. -/
def Record.offerEnvelope (record : Record) (bound : EnrollmentState)
    (attestation : DetachedAttestation) : Json :=
  Enrollment.offerEnvelope (controllerOfferClaim (record.offerClaim bound)) attestation

/-- What the binding of a worker was answered with. -/
def Record.bindResponse (record : Record) (bound offered : EnrollmentState)
    (attestation : DetachedAttestation) : Json :=
  Enrollment.bindResponse (record.offerEnvelope bound attestation) offered.view

/-- The row of an offer, with all that the binding it answers is known by. -/
def Record.offerRow (record : Record) (request : BindExchange) (bound offered : EnrollmentState)
    (attestation : DetachedAttestation) : SignedOfferRow where
  enrollmentId := record.id
  organizationId := record.organizationId
  offerRevision := offered.revision
  signerKeyId := attestation.keyId
  signedOffer := (record.offerEnvelope bound attestation).dumps true
  responseDigest := sha256Bytes ((record.offerEnvelope bound attestation).dumps true)
  bindInputDigest := some (bindInputDigest request record.invitation bound.workerKeyId)
  offerClaimDigest := some (claimDigest (controllerOfferClaim (record.offerClaim bound)))
  resultingRevision := some offered.revision
  resultingStateDigest := some offered.digest
  workerInstallationId := some bound.workerInstallationId
  workerKeyId := some bound.workerKeyId
  responseJson := some ((record.bindResponse bound offered attestation).dumps true)
  responseJsonDigest := some (sha256Bytes ((record.bindResponse bound offered attestation).dumps true))

/-! ## Texts -/

omit [Unicode] in
theorem claimDigest_sortKeys (claim : Json) : claimDigest claim.sortKeys = claimDigest claim := by
  unfold claimDigest sha256Digest
  rw [Json.dumps_sortKeys]

omit [Unicode] in
theorem isSha256Digest_sha256Bytes (payload : Json) :
    isSha256Digest (sha256Bytes (payload.dumps true)) = true :=
  isSha256Digest_sha256Digest payload

omit [Unicode] in
theorem exists_sortKeys_obj (fields : List (Str × Json)) :
    ∃ fields', (Json.obj fields).sortKeys = .obj fields' := by
  rw [Json.sortKeys]
  exact ⟨_, rfl⟩

omit [Unicode] in
theorem distinctKeys_controllerOfferClaim (claim : ControllerOfferClaim) :
    Json.DistinctKeys (controllerOfferClaim claim) := by
  refine ⟨?_, ?_⟩
  · show [str "schema", str "enrollment_id", str "invitation_id", str "controller_installation_id",
      str "controller_key_id", str "controller_origin", str "controller_transaction_id",
      str "worker_installation_id", str "worker_key_id", str "release_digest", str "expires_at",
      str "predecessor_digest"].Nodup
    with_unfolding_all decide
  · simp only [Json.DistinctKeysFields, Json.DistinctKeys, and_self]

/-- The fields of the attestation of an envelope. -/
def DetachedAttestation.fields (attestation : DetachedAttestation) : List (Str × Json) := [
  (str "algorithm", .str attestation.algorithm), (str "key_id", .str attestation.keyId),
  (str "public_key_hex", .str attestation.publicKeyHex),
  (str "signature", .str attestation.signature)]

omit [Unicode] in
theorem distinctKeys_attestation (attestation : DetachedAttestation) :
    Json.DistinctKeys (.obj attestation.fields) := by
  refine ⟨?_, ?_⟩
  · show [str "algorithm", str "key_id", str "public_key_hex", str "signature"].Nodup
    with_unfolding_all decide
  · simp only [DetachedAttestation.fields, Json.DistinctKeysFields, Json.DistinctKeys, and_self]

omit [Unicode] in
theorem distinctKeys_offerEnvelope {claim : Json} (hclaim : Json.DistinctKeys claim)
    (attestation : DetachedAttestation) :
    Json.DistinctKeys (offerEnvelope claim attestation) := by
  refine ⟨?_, hclaim, distinctKeys_attestation attestation, trivial⟩
  show [str "claim", str "attestation"].Nodup
  with_unfolding_all decide

theorem distinctKeys_view (state : EnrollmentState) : Json.DistinctKeys state.view := by
  refine ⟨?_, ?_⟩
  · show [str "enrollment_id", str "state", str "revision", str "controller_installation_id",
      str "controller_key_fingerprint", str "worker_installation_id", str "worker_key_fingerprint",
      str "release_fingerprint", str "offer_fingerprint", str "result_fingerprint",
      str "deployment_site_label", str "expires_at", str "updated_at", str "refusal_reason"].Nodup
    with_unfolding_all decide
  · simp only [Json.DistinctKeysFields, Json.DistinctKeys, and_self]

omit [Unicode] in
theorem distinctKeys_bindResponse {envelope status : Json} (henvelope : Json.DistinctKeys envelope)
    (hstatus : Json.DistinctKeys status) : Json.DistinctKeys (bindResponse envelope status) := by
  refine ⟨?_, henvelope, hstatus, trivial⟩
  show [str "signed_offer", str "enrollment"].Nodup
  with_unfolding_all decide

omit [Unicode] in
/-- What is under a key of a stored object is what was stored, its keys in order. -/
theorem get?_of_stored {fields : List (Str × Json)} (hdistinct : Json.DistinctKeys (.obj fields))
    {key : Str} {value : Json} (hvalue : Dict.get? fields key = some value) :
    (Json.obj fields).sortKeys.get? key = some value.sortKeys := by
  rw [Json.get?_sortKeys_obj hdistinct.1, hvalue]
  rfl

variable {record : Record} {request : BindExchange} {bound offered : EnrollmentState}
  {attestation : DetachedAttestation} {db : ExchangeDb} {enrollmentId : Str}

omit [Unicode] in
/-- A stored envelope is read back with its claim and its attestation. -/
theorem loads_offerEnvelope {claim : Json} (hclaim : Json.DistinctKeys claim)
    (attestation : DetachedAttestation) : ∃ envelope fields,
      Json.loads ((offerEnvelope claim attestation).dumps true) = some envelope ∧
        envelope.get? (str "claim") = some claim.sortKeys ∧
        envelope.get? (str "attestation") = some fields ∧
        fields.get? (str "key_id") = some (.str attestation.keyId) ∧
        fields.get? (str "signature") = some (.str attestation.signature) := by
  have hdistinct := distinctKeys_offerEnvelope hclaim attestation
  have hfields := distinctKeys_attestation attestation
  have hkeyId : Dict.get? attestation.fields (str "key_id") = some (.str attestation.keyId) := by
    simp [DetachedAttestation.fields, Dict.get?]
  have hsignature : Dict.get? attestation.fields (str "signature") =
      some (.str attestation.signature) := by
    simp [DetachedAttestation.fields, Dict.get?]
  refine ⟨_, (Json.obj attestation.fields).sortKeys, Json.loads_dumps hdistinct, ?_, ?_, ?_, ?_⟩
  · exact get?_of_stored hdistinct (by simp [Dict.get?])
  · exact get?_of_stored hdistinct (by simp [Dict.get?, DetachedAttestation.fields])
  · exact get?_of_stored hfields hkeyId
  · exact get?_of_stored hfields hsignature

/-! ## Reading a row -/

theorem checkEnvelope_offerRow
    (hbounded : ((record.offerEnvelope bound attestation).dumps true).length ≤ 8192) :
    (record.offerRow request bound offered attestation).checkEnvelope = .ok () := by
  unfold SignedOfferRow.checkEnvelope
  refine except_unit_bind_eq_ok.mpr ⟨ensure_eq_ok_iff.mpr ?_, ensure_eq_ok_iff.mpr ?_⟩
  · exact Bool.and_eq_true_iff.mpr ⟨decide_eq_true hbounded, isSha256Digest_sha256Bytes _⟩
  · exact decide_eq_true rfl

omit [Unicode] in
theorem exists_claim_obj (claim : ControllerOfferClaim) :
    ∃ fields, (controllerOfferClaim claim).sortKeys = .obj fields :=
  exists_sortKeys_obj _

/-- The bindings of a result are those of the stored offer. -/
theorem persistedOfferBindings_eq_ok
    (hrow : (db.offers.filter fun row => row.enrollmentId = enrollmentId) =
      [record.offerRow request bound offered attestation])
    (hbounded : ((record.offerEnvelope bound attestation).dumps true).length ≤ 8192) :
    persistedOfferBindings db enrollmentId = .ok
      (claimDigest (controllerOfferClaim (record.offerClaim bound)), attestation.keyId,
        .str attestation.signature) := by
  have hload : loadSignedOffer db enrollmentId =
      .ok (some ((record.offerEnvelope bound attestation).dumps true)) := by
    unfold loadSignedOffer
    rw [hrow]
    refine (except_bind_of_ok rfl).trans ?_
    exact except_bind_of_ok (checkEnvelope_offerRow hbounded)
  obtain ⟨envelope, fields, hloads, hclaim, hattestation, hkeyId, hsignature⟩ :=
    loads_offerEnvelope (distinctKeys_controllerOfferClaim (record.offerClaim bound)) attestation
  obtain ⟨sorted, hsorted⟩ := exists_claim_obj (record.offerClaim bound)
  have hdigest := claimDigest_sortKeys (controllerOfferClaim (record.offerClaim bound))
  unfold persistedOfferBindings
  rw [hload]
  dsimp only
  rw [show Json.loads ((record.offerEnvelope bound attestation).dumps true) = _ from hloads]
  dsimp only
  rw [hclaim, hattestation]
  dsimp only
  rw [hkeyId, hsignature]
  dsimp only
  rw [hsorted] at hdigest ⊢
  rw [← hdigest]
  rfl

end

end Secp.Enrollment
