import Secp.Enrollment.Handshake

/-!
# Bindings that are sent again

A worker that has lost the answer to its binding sends the binding again. Whatever has become of the
enrollment by then, and whatever the signer would answer, it is given the document it was given the first
time, and the tables are left alone. No other binding of the enrollment is ever accepted.
-/

namespace Secp.Enrollment

open Secp.Python Secp.Logic

section
variable [Unicode] [Ed25519] {record : Record} {shadow : Int} {signer : EnrollmentOfferSignerClient}
  {binding : BindExchange} {bound offered : EnrollmentState} {attestation : DetachedAttestation}
  {db : ExchangeDb}

/-- What a stored offer is read as. -/
def Record.offerRecord (record : Record) (binding : BindExchange) (bound offered : EnrollmentState)
    (attestation : DetachedAttestation) : SignedOfferRecord where
  envelope := (record.offerEnvelope bound attestation).dumps true
  bindInputDigest := bindInputDigest binding record.invitation bound.workerKeyId
  offerClaimDigest := claimDigest (controllerOfferClaim (record.offerClaim bound))
  resultingRevision := offered.revision
  resultingStateDigest := offered.digest
  workerInstallationId := bound.workerInstallationId
  workerKeyId := bound.workerKeyId
  responseJson := (record.bindResponse bound offered attestation).dumps true

/-- A certified offer passes every check that is made when it is read. -/
theorem Certificate.load {offer : SignedOfferRow}
    (h : Certificate record signer binding bound offered attestation offer)
    (hrow : (db.offers.filter fun row => row.enrollmentId = record.id) =
      [record.offerRow binding bound offered attestation]) :
    loadSignedOfferRecord db record.id =
      .ok (some (record.offerRecord binding bound offered attestation)) := by
  have hverified : (record.offerRow binding bound offered attestation).verified =
      .ok (record.offerRecord binding bound offered attestation) := by
    have haddressed : (isSha256Digest (bindInputDigest binding record.invitation bound.workerKeyId) &&
        isSha256Digest (claimDigest (controllerOfferClaim (record.offerClaim bound))) &&
        isSha256Digest offered.digest && isSha256Digest bound.workerKeyId &&
        isSha256Digest (sha256Bytes ((record.bindResponse bound offered attestation).dumps true))) =
          true := by
      simp only [Bool.and_eq_true]
      exact ⟨⟨⟨⟨isSha256Digest_sha256Digest _, isSha256Digest_sha256Digest _⟩,
        isSha256Digest_sha256Digest _⟩, h.proven.pinned⟩, isSha256Digest_sha256Bytes _⟩
    unfold SignedOfferRow.verified
    rw [except_bind_of_ok (checkEnvelope_offerRow h.envelope_bounded)]
    show (do
      ensure _ stateCorrupt
      ensure _ stateCorrupt
      ensure _ stateCorrupt
      pure (record.offerRecord binding bound offered attestation)) = _
    refine except_unit_bind_eq_ok.mpr ⟨ensure_eq_ok_iff.mpr haddressed, ?_⟩
    refine except_unit_bind_eq_ok.mpr
      ⟨ensure_eq_ok_iff.mpr (decide_eq_true h.response_bounded), ?_⟩
    exact except_unit_bind_eq_ok.mpr ⟨ensure_eq_ok_iff.mpr (decide_eq_true rfl), rfl⟩
  unfold loadSignedOfferRecord
  rw [hrow]
  refine (except_bind_of_ok rfl).trans ?_
  exact except_bind_of_ok hverified

/-- The winning binding is answered with what is stored, its keys in order. -/
theorem Certificate.replay {offer : SignedOfferRow}
    (h : Certificate record signer binding bound offered attestation offer)
    (hheld : Holds db.enrollments record shadow) :
    replayBindRecord db (record.offerRecord binding bound offered attestation) record.id
      (bindInputDigest binding record.invitation bound.workerKeyId) binding.workerInstallationId
      bound.workerKeyId =
        .ok ⟨(record.offerEnvelope bound attestation).sortKeys, offered.view.sortKeys, true⟩ := by
  obtain ⟨envelope, fields, hloads, hclaim, -, -, -⟩ :=
    loads_offerEnvelope (distinctKeys_controllerOfferClaim (record.offerClaim bound)) attestation
  have hdistinct : Json.DistinctKeys (record.bindResponse bound offered attestation) :=
    distinctKeys_bindResponse
      (distinctKeys_offerEnvelope (distinctKeys_controllerOfferClaim _) _) (distinctKeys_view _)
  have hresponse := @Json.loads_dumps true _ hdistinct
  have hsigned : (record.bindResponse bound offered attestation).sortKeys.get? (str "signed_offer") =
      some (record.offerEnvelope bound attestation).sortKeys :=
    get?_of_stored hdistinct (by simp [Dict.get?])
  have hstatus : (record.bindResponse bound offered attestation).sortKeys.get? (str "enrollment") =
      some offered.view.sortKeys :=
    get?_of_stored hdistinct (by simp [Dict.get?])
  have hitem : ∀ {payload : Json} {key : Str} {value : List (Str × Json)},
      payload.get? key = some (Json.obj value).sortKeys →
        dictItem payload key = .ok (Json.obj value).sortKeys := by
    intro payload key value hget
    obtain ⟨sorted, hsorted⟩ := exists_sortKeys_obj value
    unfold dictItem
    rw [hget, hsorted]
  have hhistory : revisionStateDigest db.enrollments record.id offered.revision =
      .ok (some offered.digest) := by
    unfold revisionStateDigest
    exact except_bind_of_ok (hheld.loadRevisionRow h.offered_mem)
  unfold replayBindRecord
  refine except_unit_bind_eq_ok.mpr ⟨ensure_eq_ok_iff.mpr ?_, ?_⟩
  · exact Bool.and_eq_true_iff.mpr ⟨Bool.and_eq_true_iff.mpr
      ⟨decide_eq_true rfl, decide_eq_true h.installationId⟩, decide_eq_true rfl⟩
  · rw [show Json.loads (record.offerRecord binding bound offered attestation).envelope = _ from hloads,
      show Json.loads (record.offerRecord binding bound offered attestation).responseJson = _ from
        hresponse]
    dsimp only
    rw [except_bind_of_ok (hitem hclaim), claimDigest_sortKeys]
    refine except_unit_bind_eq_ok.mpr ⟨ensure_eq_ok_iff.mpr (decide_eq_true rfl), ?_⟩
    refine (except_bind_of_ok (surfaced_eq_ok_iff.mpr hhistory)).trans ?_
    refine except_unit_bind_eq_ok.mpr ⟨ensure_eq_ok_iff.mpr (decide_eq_true rfl), ?_⟩
    rw [except_bind_of_ok (hitem hsigned), except_bind_of_ok (hitem hstatus)]
    rfl

theorem Certificate.possessed {offer : SignedOfferRow}
    (h : Certificate record signer binding bound offered attestation offer)
    (hscope : checkScope record.loaded binding.claimedScope = .ok ()) :
    Possessed record binding bound.workerKeyId := by
  refine ⟨h.enrollmentId, hscope, h.possession, ?_⟩
  rw [h.installationId]
  exact h.proven

/-- The binding a stored offer answers is served from it, at any time and by any signer. -/
theorem Certificate.serve {offer : SignedOfferRow} {signer' : EnrollmentOfferSignerClient}
    (h : Certificate record signer binding bound offered attestation offer)
    (hheld : Holds db.enrollments record shadow)
    (hrow : (db.offers.filter fun row => row.enrollmentId = record.id) =
      [record.offerRow binding bound offered attestation])
    (hscope : checkScope record.loaded binding.claimedScope = .ok ()) (now : Str) :
    bindWorkerExchange db signer' { binding with now := now } =
      .ok (⟨(record.offerEnvelope bound attestation).sortKeys, offered.view.sortKeys, true⟩, db) := by
  obtain ⟨row, hread, hinvitation⟩ := hheld.loadInvitation
  have hload := hheld.loadForExchange hscope
  have hverified := (h.possessed hscope).verified
  have hreplay := h.replay hheld
  -- the time a binding is sent at is no part of what it is known by
  have hdigest : bindInputDigest { binding with now := now } record.invitation bound.workerKeyId =
      bindInputDigest binding record.invitation bound.workerKeyId := by
    unfold bindInputDigest
    rfl
  rw [h.enrollmentId] at hdigest
  unfold bindWorkerExchange
  dsimp only
  rw [h.enrollmentId, except_bind_of_ok hload,
    except_bind_of_ok (surfaced_eq_ok_iff.mpr hread)]
  dsimp only
  rw [hinvitation, except_bind_of_ok hverified]
  refine except_unit_bind_eq_ok.mpr ⟨ensure_eq_ok_iff.mpr (decide_eq_true ?_), ?_⟩
  · exact h.separated
  · rw [except_bind_of_ok (surfaced_eq_ok_iff.mpr (h.load hrow))]
    dsimp only
    rw [hdigest, except_bind_of_ok hreplay]
    rfl

omit [Unicode] [Ed25519] in
theorem deduplicated_of_replayBindRecord {stored : SignedOfferRecord}
    {enrollmentId digest workerInstallationId workerKeyId : Str} {result : ExchangeOutcome}
    (h : replayBindRecord db stored enrollmentId digest workerInstallationId workerKeyId =
      .ok result) : result.deduplicated = true := by
  unfold replayBindRecord at h
  obtain ⟨-, h⟩ := except_unit_bind_eq_ok.mp h
  split at h
  · obtain ⟨claim, -, h⟩ := except_bind_eq_ok.mp h
    obtain ⟨-, h⟩ := except_unit_bind_eq_ok.mp h
    obtain ⟨history, -, h⟩ := except_bind_eq_ok.mp h
    obtain ⟨-, h⟩ := except_unit_bind_eq_ok.mp h
    obtain ⟨signedOffer, -, h⟩ := except_bind_eq_ok.mp h
    obtain ⟨enrollment, -, h⟩ := except_bind_eq_ok.mp h
    cases h
    rfl
  · cases h

/-- A worker that was bound is answered, whenever it sends its binding again and whatever the signer has
become, with the document it was answered with first, its keys in order; nothing is changed by that. And
no binding of the enrollment changes anything any more. -/
theorem exact_replay {requests : List ExchangeRequest} {result : ExchangeOutcome}
    (h : bindWorkerExchange (ExchangeDb.empty.served requests) signer binding = .ok (result, db))
    (hnew : result.deduplicated = false) (later : List ExchangeRequest) :
    (∀ (signer' : EnrollmentOfferSignerClient) (now : Str),
      bindWorkerExchange (db.served later) signer' { binding with now := now } =
        .ok (⟨result.signedOffer.sortKeys, result.status.sortKeys, true⟩, db.served later)) ∧
    ∀ (signer' : EnrollmentOfferSignerClient) (binding' : BindExchange),
      binding'.enrollmentId = binding.enrollmentId →
        (db.served later).after (.bind signer' binding') = db.served later := by
  have hbefore : Accounted (fun _ => True) (ExchangeDb.empty.served requests) :=
    (accounted_empty.run requests fun _ _ => trivial).1
  obtain ⟨haccounted, -⟩ := hbefore.bind trivial h
  obtain ⟨hlater, hgrown⟩ := haccounted.run later fun _ _ => trivial
  obtain ⟨record, shadow, keyId, hheld, hpossessed, hcase⟩ :=
    exists_of_bindWorkerExchange hbefore.consistent h
  rcases hcase with ⟨stored, -, hreplayed, -⟩ | ⟨hnone, hoffer⟩
  · rw [deduplicated_of_replayBindRecord hreplayed] at hnew
    cases hnew
  · have hfree := (hbefore.settled record shadow hheld).free (offers_eq_nil_of_load hnone)
    obtain ⟨record', bound, attestation, hoffered⟩ := newlyOffered_of_offerToWorker hbefore.consistent
      hbefore.receipted hheld hfree hpossessed.enrollmentId hpossessed.possession hpossessed.proven
      hoffer
    obtain ⟨last, hextends, hlast⟩ := hgrown.records hoffered.turn.turned
    have hcertificate := hoffered.certificate.extend hextends
    have hmem : record'.offerRow binding bound record'.head attestation ∈ (db.served later).offers := by
      refine hgrown.offers _ ?_
      rw [hoffered.offers]
      exact List.mem_append_right _ List.mem_cons_self
    rw [hcertificate.row] at hmem
    have hrow : ((db.served later).offers.filter fun row => row.enrollmentId = last.id) = _ :=
      filter_eq_singleton hlater.unique hmem
    have hadmits : Admits record record.organizationId binding.claimedScope :=
      ⟨rfl, hpossessed.scope⟩
    have hscope := (hadmits.extends (hoffered.turn.extends_to.trans hextends)).2
    refine ⟨fun signer' now => ?_, fun signer' binding' hsame => ?_⟩
    · rw [hcertificate.serve hlast hrow hscope now, hoffered.result_eq, hextends.offerEnvelope]
    · unfold ExchangeDb.after ExchangeRequest.serve
      dsimp only
      cases hserve : bindWorkerExchange (db.served later) signer' binding' with
      | error error => rfl
      | ok served =>
          obtain ⟨other, shadow', keyId', hother, hpossessed', hcase⟩ :=
            exists_of_bindWorkerExchange hlater.consistent hserve
          have hid : other.id = last.id :=
            hpossessed'.enrollmentId.symm.trans (hsame.trans hcertificate.enrollmentId)
          obtain rfl := hlast.unique hother hid
          rcases hcase with ⟨-, -, -, hdb⟩ | ⟨hnone', -⟩
          · exact hdb
          · exact absurd rfl (offers_eq_nil_of_load hnone' _ hmem)

end

/-- The binding of the sample, sent again a year later after the operator has revoked the enrollment. -/
theorem exact_replay_sample : ∃ result db,
    @bindWorkerExchange Unicode.ascii Ed25519.accepting sampleTables sampleSigner sampleBindExchange =
      .ok (result, db) ∧
    @bindWorkerExchange Unicode.ascii Ed25519.accepting
      (@ExchangeDb.served Unicode.ascii Ed25519.accepting db
        [@ExchangeRequest.enrollment Unicode.ascii
          (.revokeEnrollment sampleManager sampleInvitation.digest 2 none)])
      (fun _ _ => .error .other) { sampleBindExchange with now := str "2031-01-01T00:00:00Z" } =
        .ok (⟨result.signedOffer.sortKeys, result.status.sortKeys, true⟩,
          @ExchangeDb.served Unicode.ascii Ed25519.accepting db
            [@ExchangeRequest.enrollment Unicode.ascii
              (.revokeEnrollment sampleManager sampleInvitation.digest 2 none)]) := by
  let _ := Unicode.ascii
  let _ := Ed25519.accepting
  obtain ⟨record, shadow, hheld, hsigns, hbindable⟩ := bindable_sample
  have hbefore : Accounted (fun _ => True) sampleTables :=
    (accounted_empty.run sampleHistory fun _ _ => trivial).1
  obtain ⟨offered, bound, attestation, result, db, hserve, hoffered⟩ :=
    exists_offer hbefore hheld hsigns hbindable
  have hnew : result.deduplicated = false := by rw [hoffered.result_eq]
  exact ⟨result, db, hserve, (@exact_replay _ _ _ _ _ sampleHistory _ hserve hnew _).1 _ _⟩

end Secp.Enrollment
