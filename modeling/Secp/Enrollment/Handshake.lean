import Secp.Enrollment.Fitting
import Secp.Enrollment.Evidence

/-!
# An exchange that runs through

Where a worker proves the possession of its key and the signer signs what it is authorized to, an open
invitation is answered with an offer; and a signed result that answers the stored offer and attests every
check makes the enrollment healthy, whatever other enrollments went through in the meantime.
-/

namespace Secp.Enrollment

open Secp.Python Secp.Logic

section
variable [Unicode] {db db' : EnrollmentDb} {record record' : Record} {shadow : Int}
  {state state' : EnrollmentState} {call : Call} {request : StepRequest}

/-! ## Edges that can be taken -/

theorem shortField_of_installationIdRe {value reason : Str}
    (h : installationIdRe.fullmatch value = true) : shortField value reason = .ok () := by
  have hlength := (chars_of_installationIdRe h).1
  obtain ⟨front, rest, rfl, hfront, -⟩ := Re.takes_of_fullmatch h
  obtain ⟨c, rfl, -⟩ := hfront
  refine ensure_eq_ok_iff.mpr (Bool.and_eq_true_iff.mpr ⟨decide_eq_true ?_, decide_eq_true ?_⟩)
  · show 1 ≤ rest.length + 1
    omega
  · omega

theorem Lawful.separated {invitation : WorkerEnrollmentInvitation} {label : Str}
    (h : Lawful invitation label state) (hkey : isSha256Digest state.controllerKeyId = true) :
    state.workerKeyId ≠ state.controllerKeyId := by
  rcases h.workerKeyId with hempty | hworker
  · rw [hempty]
    exact (ne_nil_of_isSha256Digest hkey).symm
  · exact hworker.2

/-- An edge that advances a state is taken by its call. -/
theorem Effect.apply (h : Effect state call state') (hadvances : call.advancing = true)
    (hseparated : state.workerKeyId ≠ state.controllerKeyId) : call.apply state = .ok state' := by
  have hensure : ∀ {p : Prop} [Decidable p] {error : ContractError}, p →
      ensure (decide p) error = .ok () := fun hp => ensure_eq_ok_iff.mpr (decide_eq_true hp)
  cases h with
  | bound hstate hinstallation hkey hother hnew htimely =>
      show bindWorkerIdentity state _ _ _ _ = _
      unfold bindWorkerIdentity shortFieldMatching assertParticipantsSeparated
      rw [except_bind_of_ok (except_unit_bind_eq_ok.mpr
          ⟨shortField_of_installationIdRe hinstallation, ensure_eq_ok_iff.mpr hinstallation⟩),
        except_bind_of_ok (ensure_eq_ok_iff.mpr hkey), except_bind_of_ok (hensure rfl),
        except_bind_of_ok (hensure hother), except_bind_of_ok (hensure hnew),
        except_bind_of_ok (hensure hseparated), if_neg (by rw [hstate]; decide)]
      exact advance_eq_ok_iff.mpr ⟨hseparated, by rw [hstate]; rfl, htimely, rfl⟩
  | offered hstate hdigest htimely =>
      show recordControllerOffer state _ _ = _
      unfold recordControllerOffer assertParticipantsSeparated
      rw [except_bind_of_ok (hensure hseparated), except_bind_of_ok (hensure rfl),
        except_bind_of_ok (hensure rfl), except_bind_of_ok (hensure rfl),
        except_bind_of_ok (ensure_eq_ok_iff.mpr hdigest), if_neg (by rw [hstate]; decide)]
      exact advance_eq_ok_iff.mpr ⟨hseparated, by rw [hstate]; rfl, htimely, rfl⟩
  | resulted hstate hdigest htimely =>
      show recordWorkerResult state _ _ = _
      unfold recordWorkerResult assertParticipantsSeparated
      rw [except_bind_of_ok (hensure hseparated), except_bind_of_ok (hensure rfl),
        except_bind_of_ok (hensure rfl), except_bind_of_ok (hensure rfl),
        except_bind_of_ok (ensure_eq_ok_iff.mpr hdigest), if_neg (by rw [hstate]; decide)]
      exact advance_eq_ok_iff.mpr ⟨hseparated, by rw [hstate]; rfl, htimely, rfl⟩
  | verified hstate htimely =>
      show markVerified state _ _ = _
      unfold markVerified assertParticipantsSeparated
      rw [except_bind_of_ok (hensure hseparated), except_bind_of_ok (hensure rfl),
        if_neg (by rw [hstate]; decide)]
      exact advance_eq_ok_iff.mpr ⟨hseparated, by rw [hstate]; rfl, htimely, rfl⟩
  | healthy hstate htimely =>
      show markHealthy state _ = _
      unfold markHealthy assertParticipantsSeparated
      rw [except_bind_of_ok (hensure hseparated), if_neg (by rw [hstate]; decide)]
      exact advance_eq_ok_iff.mpr ⟨hseparated, by rw [hstate]; rfl, htimely, rfl⟩
  | refused hstate hreason => cases hadvances
  | recovery hstate hreason => cases hadvances

/-- The key of the controller of a record. -/
theorem Record.controllerKeyId (record : Record) : isSha256Digest record.head.controllerKeyId = true := by
  rw [record.lawful.anchored.controllerKeyId]
  exact (controller_of_validate record.chronicle.valid).1

/-- A step that has an edge is served, where it comes with the latest revision. -/
theorem exists_served {newState : EnrollmentState} (hdb : Consistent db) (hreceipted : Receipted db)
    (hheld : Holds db record shadow) (hid : request.enrollmentId = record.id)
    (hadmits : Admits record request.actor.organizationId request.claimed)
    (hprogress : requireProgress request.actor = .ok ())
    (hexpected : request.expectedRevision = record.head.revision)
    (hopen : request.input.step = .bindWorkerIdentity → ∀ i ∈ db.invitations,
      i.enrollmentId = record.id → i.consumed = false ∧ i.revoked = false)
    (heffect : Effect record.head (request.input.call request.now) newState) :
    ∃ db', request.serve db = .ok (⟨newState, newState.revision, false⟩, db') ∧
      Turn db db' record (record.moved heffect) shadow ∧ Receipted db' := by
  have hnew : ∀ s ∈ record.states, s.state ≠ request.input.step.target := fun s hs hstate =>
    not_effect_of_mem hs hstate heffect
  have hdue : Due db record request := by
    refine ⟨hid.symm, hadmits, hprogress, hexpected, fun r hr hsame => ?_, hopen⟩
    obtain ⟨revision, hrevision, hrecord, hstate⟩ := hreceipted r hr
    obtain ⟨s, hs, rfl⟩ := hheld.exists_state hrevision (hrecord.trans hsame.1)
    exact hnew s hs (hstate.trans (congrArg Step.target hsame.2.1))
  have happly : (request.input.call request.now).apply record.head = .ok newState := by
    refine heffect.apply ?_ (record.lawful.separated record.controllerKeyId)
    cases request.input <;> rfl
  obtain ⟨db', hserve⟩ := hdue.serve hheld happly heffect.ne
  obtain ⟨hmoved, hturn, hreceipted', -⟩ := moved_of_serve hdb hreceipted hheld hid hserve hnew
  exact ⟨db', hserve, hturn, hreceipted'⟩

/-! ## The offer -/

variable [Ed25519] {signer : EnrollmentOfferSignerClient} {binding : BindExchange} {keyId : Str}
  {delivered : ExchangeRequest → Prop}

/-- A signer that signs under the pinned key whatever it is authorized to. -/
def Signs (signer : EnrollmentOfferSignerClient) (controllerKeyId : Str) : Prop :=
  ∀ (context : AuthorizedControllerOfferContext) (now : Str),
    context.fields.controllerKeyId = controllerKeyId → ∃ attestation,
      signer context now = .ok attestation ∧ Attests attestation controllerKeyId offerKind
        (claimDigest (controllerOfferClaim context.fields))

/-- What a binding has to be for an offer to answer it. -/
structure Bindable (db : ExchangeDb) (record : Record) (binding : BindExchange) (keyId : Str) :
    Prop where
  possessed : Possessed record binding keyId
  state : record.head.state = .invited
  unused : ∀ i ∈ db.enrollments.invitations, i.enrollmentId = record.id →
    i.consumed = false ∧ i.revoked = false
  expectedRevision : binding.expectedRevision = record.head.revision
  timely : Timely record.invitation.expiresAt binding.now
  installationId : installationIdRe.fullmatch binding.workerInstallationId = true
  installed : binding.workerInstallationId ≠ record.invitation.controllerInstallationId
  separated : keyId ≠ record.invitation.controllerKeyId
  shown : vaultTokenRe.search binding.workerInstallationId = false
  printable : hasControl record.invitation.transactionId = false

omit [Ed25519] in
theorem statusView_of_lawful {invitation : WorkerEnrollmentInvitation} {label : Str}
    (h : Lawful invitation label state) (hvalid : invitation.validate = .ok ())
    (hlabel : isDeploymentSiteLabel label = true)
    (hshown : vaultTokenRe.search state.workerInstallationId = false) :
    statusView state = .ok state.view := by
  have hscan := exists_publicView_iff.mp ((h.exists_publicView_iff hvalid hlabel).mpr hshown)
  unfold statusView EnrollmentState.publicView
  rw [hscan]

omit [Unicode] [Ed25519] in
/-- What fits is stored, where the enrollment has no offer. -/
theorem exists_persistSignedOffer {db : ExchangeDb} {enrollmentId signerKeyId signedOffer responseJson : Str}
    (hfresh : ∀ row ∈ db.offers, row.enrollmentId ≠ enrollmentId)
    (hsigner : isSha256Digest signerKeyId = true) (hoffer : signedOffer.length ≤ 8192)
    (hresponse : responseJson.length ≤ 16384) (organizationId : Str) (offerRevision : Int)
    (bindInputDigest offerClaimDigest : Option Str) (resultingRevision : Option Int)
    (resultingStateDigest workerInstallationId workerKeyId : Option Str) :
    ∃ db', persistSignedOffer db enrollmentId organizationId offerRevision signerKeyId signedOffer
      bindInputDigest offerClaimDigest resultingRevision resultingStateDigest workerInstallationId
      workerKeyId (some responseJson) = .ok db' := by
  refine ⟨_, except_unit_bind_eq_ok.mpr ⟨ensure_eq_ok_iff.mpr ?_, except_unit_bind_eq_ok.mpr
    ⟨ensure_eq_ok_iff.mpr ?_, except_unit_bind_eq_ok.mpr ⟨ensure_eq_ok_iff.mpr ?_, rfl⟩⟩⟩⟩
  · exact Bool.and_eq_true_iff.mpr ⟨decide_eq_true hoffer, hsigner⟩
  · exact decide_eq_true hresponse
  · exact List.all_eq_true.mpr fun row hrow => decide_eq_true (hfresh row hrow)

omit [Ed25519] in
/-- The state of a record a worker was bound to. -/
def Record.bound (record : Record) (binding : BindExchange) (keyId : Str) : EnrollmentState :=
  { record.head.advanced .workerBound binding.now with
    workerInstallationId := binding.workerInstallationId, workerKeyId := keyId }

theorem Bindable.effect {db : ExchangeDb} (h : Bindable db record binding keyId) :
    Effect record.head (.bindWorkerIdentity binding.workerInstallationId keyId
      record.invitation.transactionId binding.now) (record.bound binding keyId) := by
  have hanchored := record.lawful.anchored
  rw [← hanchored.transactionId]
  refine .bound h.state h.installationId h.possessed.proven.pinned ?_ ?_ ?_
  · rw [hanchored.controllerInstallationId]
    exact h.installed
  · rw [hanchored.controllerKeyId]
    exact h.separated
  · rw [hanchored.expiresAt]
    exact h.timely

omit [Ed25519] in
/-- The state of a record an offer was recorded for. -/
def Record.offered (record : Record) (digest now : Str) : EnrollmentState :=
  { record.head.advanced .offerTransported now with offerDigest := digest }

omit [Ed25519] in
/-- What is offered to a bound worker is recorded. -/
theorem offered_effect {keyId digest now : Str} (hstate : record.head.state = .workerBound)
    (hkey : keyId = record.invitation.controllerKeyId) (hdigest : isSha256Digest digest = true)
    (htimely : Timely record.invitation.expiresAt now) :
    Effect record.head (.recordControllerOffer
      ⟨str "controller-offer", digest, record.invitation.transactionId, keyId⟩ now)
      (record.offered digest now) := by
  have hanchored := record.lawful.anchored
  rw [hkey, ← hanchored.transactionId, ← hanchored.controllerKeyId]
  refine .offered hstate hdigest ?_
  rw [hanchored.expiresAt]
  exact htimely

/-- An open invitation is answered: the worker is bound, and offered to by the signer. -/
theorem exists_offerToWorker {db : ExchangeDb} (h : Accounted delivered db)
    (hheld : Holds db.enrollments record shadow)
    (hsigns : Signs signer record.invitation.controllerKeyId)
    (hbindable : Bindable db record binding keyId)
    (hfresh : ∀ row ∈ db.offers, row.enrollmentId ≠ record.id) :
    ∃ result db', offerToWorker db signer record.loaded record.invitation keyId binding =
      .ok (result, db') := by
  have hvalid := record.chronicle.valid
  have hadmits : Admits record record.organizationId binding.claimedScope :=
    ⟨rfl, hbindable.possessed.scope⟩
  -- the worker is bound
  have hbound := hbindable.effect
  obtain ⟨bdb, hserve, hturn, hreceipted⟩ := @exists_served _ _ _ _
    ⟨.verified record.organizationId, record.id, .bindWorkerIdentity binding.workerInstallationId keyId
      record.invitation.transactionId, binding.now, binding.expectedRevision, binding.claimedScope⟩ _
    h.consistent h.receipted hheld rfl hadmits rfl hbindable.expectedRevision
    (fun _ => hbindable.unused) hbound
  -- the offer may be signed, and is signed under the pinned key
  have hnamed : Named record.id binding.workerInstallationId keyId (record.bound binding keyId).digest :=
    ⟨isSha256Digest_sha256Digest _, hbindable.installationId, hbindable.possessed.proven.pinned,
      isSha256Digest_sha256Digest _⟩
  have hauthorized := authorized_offerClaim hvalid hnamed hbindable.shown hbindable.printable
  obtain ⟨attestation, hsigned, hattests⟩ := hsigns ⟨_, hauthorized⟩ binding.now rfl
  -- the offer is recorded
  have hadmits' := hadmits.extends (record.extends_moved hbound)
  have hoffered := @offered_effect _ (record.moved hbound) _ _ binding.now rfl hattests.signer
    (isSha256Digest_sha256Digest (controllerOfferClaim (record.invitation.offerClaim record.id
      binding.workerInstallationId keyId (record.bound binding keyId).digest))) hbindable.timely
  obtain ⟨odb, hserve', hturn', hreceipted'⟩ := @exists_served _ _ _ _
    ⟨.verified record.organizationId, record.id, .recordControllerOffer _, binding.now,
      (record.bound binding keyId).revision, binding.claimedScope⟩ _
    hturn.consistent hreceipted hturn.turned rfl hadmits' rfl rfl (fun hstep => by cases hstep) hoffered
  have hlawful := ((record.moved hbound).moved hoffered).lawful
  have hview := statusView_of_lawful hlawful hvalid record.label_accepted hbindable.shown
  -- the answer fits
  have henvelope := length_offerEnvelope_le (length_offerClaim_le hvalid hnamed) hattests
  have hstatus := length_view_le hlawful hvalid record.label_accepted (by
    show (intStr (record.head.revision + 1 + 1)).length ≤ 40
    rw [record.lawful.genesis.mpr hbindable.state]
    decide)
  have hsigner : isSha256Digest attestation.keyId = true := by
    rw [hattests.signer]
    exact hattests.pinned
  obtain ⟨db', hpersist⟩ := @exists_persistSignedOffer ⟨odb, db.offers⟩ record.id attestation.keyId _ _
    hfresh hsigner henvelope (length_bindResponse_le henvelope hstatus) record.organizationId
    ((record.moved hbound).moved hoffered).head.revision
    (some (bindInputDigest binding record.invitation keyId))
    (some (claimDigest (controllerOfferClaim (record.invitation.offerClaim record.id
      binding.workerInstallationId keyId (record.bound binding keyId).digest))))
    (some ((record.moved hbound).moved hoffered).head.revision)
    (some ((record.moved hbound).moved hoffered).head.digest)
    (some binding.workerInstallationId) (some keyId)
  have hsign : signOffer signer (record.invitation.offerClaim record.id binding.workerInstallationId
      keyId (record.bound binding keyId).digest) binding.now = .ok attestation := by
    unfold signOffer
    rw [dif_pos hauthorized, hsigned]
  refine ⟨⟨offerEnvelope (controllerOfferClaim (record.invitation.offerClaim record.id
    binding.workerInstallationId keyId (record.bound binding keyId).digest)) attestation,
    ((record.moved hbound).moved hoffered).head.view, false⟩, db', ?_⟩
  unfold offerToWorker
  dsimp only
  rw [hbindable.possessed.enrollmentId]
  refine (except_bind_of_ok hserve).trans ?_
  dsimp only
  rw [except_bind_of_ok hsign, except_bind_of_ok (show verifyControllerOffer attestation _ = .ok _ from
    except_unit_bind_eq_ok.mpr ⟨asSignerUnavailable_eq_ok_iff.mpr (verifyDetached_eq_ok_iff.mpr hattests),
      rfl⟩)]
  refine (except_bind_of_ok hserve').trans ?_
  refine (except_bind_of_ok hview).trans ?_
  exact (except_bind_of_ok (surfaced_eq_ok_iff.mpr hpersist)).trans rfl

/-- An enrollment that was not bound has no offer. -/
theorem Accounted.no_offer {db : ExchangeDb} (h : Accounted delivered db)
    (hheld : Holds db.enrollments record shadow) (hstate : record.head.state = .invited) :
    ∀ row ∈ db.offers, row.enrollmentId ≠ record.id := by
  intro row hrow hid
  obtain ⟨holder, shadow', signer, binding, bound, offered, attestation, hholder, -, hcertificate⟩ :=
    h.certified row hrow
  have hsame : holder.id = record.id := by
    rw [← hid, hcertificate.row]
    rfl
  obtain rfl := hheld.unique hholder hsame
  refine @Record.state_ne_of_rank _ holder 0 1 .workerBound ?_ rfl (by decide) bound
    hcertificate.bound_mem hcertificate.bound_state
  rw [hstate]
  rfl

/-- A binding of an open invitation is answered with a new offer. -/
theorem exists_offer {db : ExchangeDb} (h : Accounted delivered db)
    (hheld : Holds db.enrollments record shadow)
    (hsigns : Signs signer record.invitation.controllerKeyId)
    (hbindable : Bindable db record binding keyId) :
    ∃ record' bound attestation result db', bindWorkerExchange db signer binding = .ok (result, db') ∧
      NewlyOffered db db' record record' shadow signer binding bound attestation result := by
  have hfresh := h.no_offer hheld hbindable.state
  have hpossessed := hbindable.possessed
  obtain ⟨result, db', hoffer⟩ := exists_offerToWorker h hheld hsigns hbindable hfresh
  have hfree := (h.settled record shadow hheld).free hfresh
  obtain ⟨record', bound, attestation, hoffered⟩ := newlyOffered_of_offerToWorker h.consistent
    h.receipted hheld hfree hpossessed.enrollmentId hpossessed.possession hpossessed.proven hoffer
  refine ⟨record', bound, attestation, result, db', ?_, hoffered⟩
  obtain ⟨row, hread, hinvitation⟩ := hheld.loadInvitation
  have hnone : loadSignedOfferRecord db record.id = .ok none := by
    unfold loadSignedOfferRecord
    rw [List.filter_eq_nil_iff.mpr fun row hrow hsame => hfresh row hrow (of_decide_eq_true hsame)]
    rfl
  unfold bindWorkerExchange
  rw [hpossessed.enrollmentId, except_bind_of_ok (hheld.loadForExchange hpossessed.scope),
    except_bind_of_ok (surfaced_eq_ok_iff.mpr hread)]
  dsimp only
  rw [hinvitation, except_bind_of_ok hpossessed.verified]
  refine except_unit_bind_eq_ok.mpr
    ⟨ensure_eq_ok_iff.mpr (decide_eq_true hbindable.separated), ?_⟩
  rw [except_bind_of_ok (surfaced_eq_ok_iff.mpr hnone)]
  exact hoffer

/-! ## The result -/

variable {answer : ResultExchange} {signature : Str} {bound offered : EnrollmentState}
  {attestation : DetachedAttestation}

/-- What a result has to be for an enrollment that was offered to: signed, with every check attested. -/
structure Answers (record : Record) (answer : ResultExchange) (signature : Str) : Prop where
  enrollmentId : answer.enrollmentId = record.id
  scope : checkScope record.loaded answer.claimedScope = .ok ()
  state : record.head.state = .offerTransported
  expectedRevision : answer.expectedRevision = record.head.revision
  timely : Timely record.invitation.expiresAt answer.now
  outcome : answer.outcome = workerResultOutcomeHealthy
  complete : healthEvidenceComplete answer.healthEvidence = true
  possession : keyIdFor answer.workerPublicKeyHex = some record.head.workerKeyId
  signed : Attests answer.attestation record.head.workerKeyId resultKind
    (claimDigest (workerResultClaim (record.resultClaim answer signature)))

end

/-! ## One exchange -/

/-- Where every signature verifies. -/
@[reducible] def Ed25519.accepting : Ed25519 := ⟨fun _ _ _ => true⟩

def sampleSignature : Str := List.replicate 128 'b'

def sampleWorkerKey : Str := List.replicate 64 'c'

/-- A signature under the key of a text. -/
def sampleAttestation (publicKeyHex : Str) : DetachedAttestation :=
  ⟨str "Ed25519", sha256DigestOfHex publicKeyHex, publicKeyHex, sampleSignature⟩

def sampleSigner : @EnrollmentOfferSignerClient Unicode.ascii :=
  fun _ _ => .ok (sampleAttestation sampleAnchor)

def sampleBindExchange : BindExchange where
  enrollmentId := sampleInvitation.digest
  workerInstallationId := str "worker-01"
  workerPublicKeyHex := sampleWorkerKey
  popAttestation := sampleAttestation sampleWorkerKey
  expectedRevision := 0
  now := sampleNow
  claimedScope := none

theorem keyIdFor_of_bytes {publicKeyHex : Str}
    (h : bytesFromhex publicKeyHex = some (fromhex publicKeyHex)) :
    keyIdFor publicKeyHex = some (sha256DigestOfHex publicKeyHex) := by
  unfold keyIdFor
  rw [h]
  rfl

theorem attests_sampleAttestation {publicKeyHex : Str} (kind : Str) (claim : Json)
    (hpinned : isSha256Digest (sha256DigestOfHex publicKeyHex) = true)
    (hhex : @Re.fullmatch Unicode.ascii hex64Re publicKeyHex = true)
    (hbytes : bytesFromhex publicKeyHex = some (fromhex publicKeyHex)) :
    @Attests Unicode.ascii Ed25519.accepting (sampleAttestation publicKeyHex)
      (sha256DigestOfHex publicKeyHex) kind (claimDigest claim) := by
  let _ := Unicode.ascii
  let _ := Ed25519.accepting
  have hsignature : hex128Re.fullmatch sampleSignature = true := by decide +kernel
  exact
    { algorithm := rfl
      pinned := hpinned
      signer := rfl
      publicKeyHex := hhex
      signature := hsignature
      derived := keyIdFor_of_bytes hbytes
      addressed := isSha256Digest_sha256Digest _
      verified := rfl }

/-- A request that is no step moves the enrollments as before. -/
theorem served_enrollment [Unicode] [Ed25519] {db : ExchangeDb} {request : Request}
    (hstep : ∀ step, request ≠ .step step) : db.served [.enrollment request] =
      { db with enrollments := db.enrollments.served [request] } := by
  show db.after (.enrollment request) = { db with enrollments := db.enrollments.after request }
  have hserve : (ExchangeRequest.enrollment request).serve db =
      (request.serve db.enrollments).map fun served => { db with enrollments := served.2 } := by
    cases request with
    | step request => exact absurd rfl (hstep request)
    | _ => rfl
  unfold ExchangeDb.after EnrollmentDb.after
  rw [hserve]
  cases request.serve db.enrollments <;> rfl

/-- The history of the sample. -/
def sampleHistory : List (@ExchangeRequest Unicode.ascii) :=
  [@ExchangeRequest.enrollment Unicode.ascii sampleOpening]

/-- The tables the sample is bound in. -/
def sampleTables : ExchangeDb :=
  @ExchangeDb.served Unicode.ascii Ed25519.accepting ExchangeDb.empty sampleHistory

theorem timely_sample : Timely sampleInvitation.expiresAt sampleNow := by
  have hread : ((readUtc 40 sampleNow).bind fun instant =>
      (readUtc 40 sampleInvitation.expiresAt).map fun expires => decide (instant < expires)) =
        some true := by
    with_unfolding_all decide
  obtain ⟨instant, hinstant, hread⟩ := Option.bind_eq_some_iff.mp hread
  obtain ⟨expires, hexpires, hlt⟩ := Option.map_eq_some_iff.mp hread
  exact ⟨instant, expires, hinstant, hexpires, of_decide_eq_true hlt⟩

theorem bindable_sample : ∃ (record : @Record Unicode.ascii) (shadow : Int),
    @Holds Unicode.ascii sampleTables.enrollments record shadow ∧
    @Signs Unicode.ascii Ed25519.accepting sampleSigner
      (@Record.invitation Unicode.ascii record).controllerKeyId ∧
    @Bindable Unicode.ascii Ed25519.accepting sampleTables record sampleBindExchange
      (sha256DigestOfHex sampleWorkerKey) := by
  let _ := Unicode.ascii
  let _ := Ed25519.accepting
  obtain ⟨record, shadow, opened, hopened, hcreated, hhead, horganization⟩ := served_sampleOpening
  have hheld : Holds opened record shadow := hcreated.holds consistent_empty
  have hid : sampleBindExchange.enrollmentId = record.id := by
    have hsame : record.head.enrollmentId = record.id := record.lawful.enrollmentId
    rw [← hsame, hhead]
    rfl
  have hanchored := record.lawful.anchored
  rw [hhead] at hanchored
  have hserved : sampleTables = ⟨opened, []⟩ := by
    rw [← hopened]
    exact served_enrollment fun step h => by cases h
  rw [hserved]
  refine ⟨record, shadow, hheld, fun context now hkey => ⟨_, rfl, ?_⟩, ?_⟩
  · rw [← hanchored.controllerKeyId]
    refine @attests_sampleAttestation sampleAnchor _ _ ?_ (by decide +kernel) (by with_unfolding_all decide)
    have hpinned := record.controllerKeyId
    rw [hhead] at hpinned
    exact hpinned
  · have hattests := @attests_sampleAttestation sampleWorkerKey popKind (workerBindingClaim
      (record.invitation.bindingClaim record.id sampleBindExchange.workerInstallationId
        (sha256DigestOfHex sampleWorkerKey))) (by decide +kernel) (by decide +kernel)
      (by with_unfolding_all decide)
    exact
      { possessed := ⟨hid, rfl, keyIdFor_of_bytes (by with_unfolding_all decide), hattests⟩
        state := by rw [hhead]; rfl
        unused := fun i hi _ => by
          rw [show i ∈ opened.invitations ↔ _ from by rw [hcreated.invitations]] at hi
          rw [List.mem_singleton.mp hi]
          exact ⟨rfl, rfl⟩
        expectedRevision := by rw [hhead]; rfl
        timely := by
          rw [← hanchored.expiresAt]
          exact timely_sample
        installationId := by decide +kernel
        installed := by
          rw [← hanchored.controllerInstallationId]
          simp [sampleBindExchange, sampleSited, sampleOpened]
        separated := by
          rw [← hanchored.controllerKeyId]
          decide +kernel
        shown := by decide +kernel
        printable := by
          rw [← hanchored.transactionId]
          decide +kernel }

end Secp.Enrollment
