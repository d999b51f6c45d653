import Secp.Enrollment.Moves
import Secp.Enrollment.Offers

/-!
# What an enrollment rests on

Over any history of exchanges every offer in the table has a proof of possession that was sent and a
signature under the key the invitation pins, a worker is bound exactly where there is such an offer, and
an enrollment has a result only where a signed one was sent that attests every check. Between two
requests no enrollment stands at a step in between.
-/

namespace Secp.Enrollment

open Secp.Python Secp.Logic

section
variable [Unicode] {db db' : EnrollmentDb} {record record' : Record} {shadow : Int}
  {state state' : EnrollmentState} {request : StepRequest} {outcome : TransitionOutcome}

/-! ## The edges of an exchange -/

theorem Effect.of_bindWorkerIdentity {installationId keyId transactionId now : Str}
    (h : Effect state (.bindWorkerIdentity installationId keyId transactionId now) state') :
    state.state = .invited ∧ keyId ≠ state.controllerKeyId ∧ state' =
      { state.advanced .workerBound now with
        workerInstallationId := installationId, workerKeyId := keyId } := by
  cases h with
  | bound hstate hinstallation hkey hother hseparated htimely => exact ⟨hstate, hseparated, rfl⟩

theorem Effect.of_recordControllerOffer {facts : HandoffFacts} {now : Str}
    (h : Effect state (.recordControllerOffer facts now) state') : state.state = .workerBound ∧
      state' = { state.advanced .offerTransported now with offerDigest := facts.digest } := by
  cases h with
  | offered hstate hdigest htimely => exact ⟨hstate, rfl⟩

theorem Effect.of_recordWorkerResult {facts : HandoffFacts} {now : Str}
    (h : Effect state (.recordWorkerResult facts now) state') : state.state = .offerTransported ∧
      state' = { state.advanced .resultTransported now with resultDigest := facts.digest } := by
  cases h with
  | resulted hstate hdigest htimely => exact ⟨hstate, rfl⟩

theorem Effect.of_markVerified {releaseDigest now : Str}
    (h : Effect state (.markVerified releaseDigest now) state') :
    state.state = .resultTransported ∧ state' = state.advanced .verified now := by
  cases h with
  | verified hstate htimely => exact ⟨hstate, rfl⟩

theorem Effect.of_markHealthy {now : Str} (h : Effect state (.markHealthy now) state') :
    state.state = .verified ∧ state' = state.advanced .healthy now := by
  cases h with
  | healthy hstate htimely => exact ⟨hstate, rfl⟩

theorem Effect.of_ends {call : Call} (hends : call.Ends) (h : Effect state call state') :
    ∃ target reason, target ∈ [EnrollmentPhase.refused, .recoveryRequired] ∧
      state' = state.stopped target reason := by
  rcases hends with ⟨reason, rfl⟩ | ⟨reason, rfl⟩
  · cases h with
    | refused hstate hreason => exact ⟨_, _, List.mem_cons_self, rfl⟩
  · cases h with
    | recovery hstate hreason =>
        exact ⟨_, _, List.mem_cons_of_mem _ List.mem_cons_self, rfl⟩

/-! ## Steps that must move, and steps that cannot -/

/-- A step the record has not taken moves it. -/
theorem moved_of_serve (hdb : Consistent db) (hreceipted : Receipted db)
    (hheld : Holds db record shadow) (hid : request.enrollmentId = record.id)
    (h : request.serve db = .ok (outcome, db'))
    (hnew : ∀ s ∈ record.states, s.state ≠ request.input.step.target) :
    ∃ heffect : Effect record.head (request.input.call request.now) outcome.state,
      Turn db db' record (record.moved heffect) shadow ∧ Receipted db' ∧
        outcome.committedRevision = outcome.state.revision := by
  obtain ⟨other, turned, shadow', hother, -, hstepped, hturn, hreceipted'⟩ :=
    stepped_of_serve hdb hreceipted h
  obtain rfl := hheld.unique hturn.held (hother.trans hid)
  cases hheld.expires.symm.trans hturn.held.expires
  cases hstepped with
  | stayed hs hstate => exact absurd hstate (hnew _ hs)
  | moved heffect => exact ⟨heffect, hturn, hreceipted', rfl⟩

/-- A step for which the record has no edge leaves it. -/
theorem stayed_of_serve (hdb : Consistent db) (hreceipted : Receipted db)
    (hheld : Holds db record shadow) (hid : request.enrollmentId = record.id)
    (h : request.serve db = .ok (outcome, db'))
    (hnone : ∀ newState, ¬Effect record.head (request.input.call request.now) newState) :
    Turn db db' record record shadow ∧ Receipted db' := by
  obtain ⟨other, turned, shadow', hother, -, hstepped, hturn, hreceipted'⟩ :=
    stepped_of_serve hdb hreceipted h
  obtain rfl := hheld.unique hturn.held (hother.trans hid)
  cases hheld.expires.symm.trans hturn.held.expires
  cases hstepped with
  | stayed hs hstate => exact ⟨hturn, hreceipted'⟩
  | moved heffect => exact absurd heffect (hnone _)

/-- On the pipeline no later place has been reached. -/
theorem Record.state_ne_of_rank {n m : Nat} {target : EnrollmentPhase}
    (hrank : record.head.state.rank = some n) (htarget : target.rank = some m) (hlt : n < m) :
    ∀ s ∈ record.states, s.state ≠ target := by
  refine List.forall_mem_cons.mpr ⟨?_, fun s hs => ?_⟩
  · rintro rfl
    cases hrank.symm.trans htarget
    exact absurd hlt (Nat.lt_irrefl _)
  · obtain ⟨k, hk, hrank'⟩ := record.chronicle.rank hrank s hs
    rintro rfl
    cases hrank'.symm.trans htarget
    exact absurd (hk.trans hlt) (Nat.lt_irrefl _)

/-- A record without a worker was never bound. -/
theorem Record.never_bound (hfree : record.head.workerKeyId = []) :
    ∀ s ∈ record.states, s.state ≠ .workerBound := by
  intro s hs hstate
  have hshaped := (record.chronicle.lawful s hs).shaped
  obtain ⟨-, hkey, -, -⟩ := hshaped 1 (by rw [hstate]; rfl)
  have hne : s.workerKeyId ≠ [] := fun hnil => absurd (hkey.mp hnil) (by decide)
  have hkept := (record.chronicle.kept s hs).workerKeyId hne
  exact hne (hkept.symm.trans hfree)

/-! ## Offers -/

variable [Ed25519] {signer : EnrollmentOfferSignerClient} {binding : BindExchange}
  {bound offered : EnrollmentState} {attestation : DetachedAttestation} {offer : SignedOfferRow}

/-- What a stored offer rests on. -/
structure Certificate (record : Record) (signer : EnrollmentOfferSignerClient)
    (binding : BindExchange) (bound offered : EnrollmentState) (attestation : DetachedAttestation)
    (offer : SignedOfferRow) : Prop where
  enrollmentId : binding.enrollmentId = record.id
  installationId : binding.workerInstallationId = bound.workerInstallationId
  bound_mem : bound ∈ record.states
  bound_state : bound.state = .workerBound
  offered_mem : offered ∈ record.states
  offered_state : offered.state = .offerTransported
  offerDigest : offered.offerDigest = claimDigest (controllerOfferClaim (record.offerClaim bound))
  possession : keyIdFor binding.workerPublicKeyHex = some bound.workerKeyId
  separated : bound.workerKeyId ≠ record.invitation.controllerKeyId
  proven : Attests binding.popAttestation bound.workerKeyId popKind
    (claimDigest (record.bindingClaim bound))
  answered : signOffer signer (record.offerClaim bound) binding.now = .ok attestation
  signed : Attests attestation record.invitation.controllerKeyId offerKind
    (claimDigest (controllerOfferClaim (record.offerClaim bound)))
  row : offer = record.offerRow binding bound offered attestation
  envelope_bounded : ((record.offerEnvelope bound attestation).dumps true).length ≤ 8192
  response_bounded : ((record.bindResponse bound offered attestation).dumps true).length ≤ 16384

omit [Ed25519] in
theorem statusView_eq_ok {view : Json} (h : statusView state = .ok view) : view = state.view := by
  unfold statusView EnrollmentState.publicView at h
  cases hscan : scanForbidden state.view with
  | error reason =>
      rw [hscan] at h
      cases h
  | ok done =>
      rw [hscan] at h
      exact (Except.ok.inj h).symm

omit [Unicode] [Ed25519] in
theorem persistSignedOffer_eq_ok {db db' : ExchangeDb} {enrollmentId organizationId : Str}
    {offerRevision : Int} {signerKeyId signedOffer : Str} {bindInputDigest offerClaimDigest : Option Str}
    {resultingRevision : Option Int}
    {resultingStateDigest workerInstallationId workerKeyId : Option Str} {responseJson : Str}
    (h : persistSignedOffer db enrollmentId organizationId offerRevision signerKeyId signedOffer
      bindInputDigest offerClaimDigest resultingRevision resultingStateDigest workerInstallationId
      workerKeyId (some responseJson) = .ok db') :
    signedOffer.length ≤ 8192 ∧ responseJson.length ≤ 16384 ∧
      (∀ row ∈ db.offers, row.enrollmentId ≠ enrollmentId) ∧ db' = { db with
        offers := db.offers ++ [⟨enrollmentId, organizationId, offerRevision, signerKeyId,
          signedOffer, sha256Bytes signedOffer, bindInputDigest, offerClaimDigest,
          resultingRevision, resultingStateDigest, workerInstallationId, workerKeyId,
          some responseJson, some (sha256Bytes responseJson)⟩] } := by
  unfold persistSignedOffer at h
  simp only [except_unit_bind_eq_ok, ensure_eq_ok_iff, Bool.and_eq_true, decide_eq_true_eq,
    List.all_eq_true, Option.all_some] at h
  obtain ⟨⟨hbounded, -⟩, hresponse, hfresh, h⟩ := h
  cases h
  exact ⟨hbounded, hresponse, hfresh, rfl⟩

omit [Ed25519] in
/-- An authority that was verified is that of the record. -/
theorem Holds.bindWorker {db db' : EnrollmentDb} (hdb : Consistent db) (hreceipted : Receipted db)
    (hheld : Holds db record shadow) (hfree : record.head.workerKeyId = [])
    {installationId keyId transactionId now : Str} {expected : Int} {claimed : Option ClaimedScope}
    (h : bindWorker db (.verified record.organizationId) record.id installationId keyId transactionId
      now expected claimed = .ok (outcome, db')) :
    ∃ heffect : Effect record.head (.bindWorkerIdentity installationId keyId transactionId now)
        outcome.state, Turn db db' record (record.moved heffect) shadow ∧ Receipted db' := by
  have hserve : StepRequest.serve ⟨.verified record.organizationId, record.id,
      .bindWorkerIdentity installationId keyId transactionId, now, expected, claimed⟩ db =
        .ok (outcome, db') := h
  obtain ⟨heffect, hturn, hreceipted', -⟩ :=
    moved_of_serve hdb hreceipted hheld rfl hserve (record.never_bound hfree)
  exact ⟨heffect, hturn, hreceipted'⟩

omit [Ed25519] in
theorem Holds.recordOffer {db db' : EnrollmentDb} (hdb : Consistent db) (hreceipted : Receipted db)
    (hheld : Holds db record shadow) (hstate : record.head.state = .workerBound)
    {facts : HandoffFacts} {now : Str} {expected : Int} {claimed : Option ClaimedScope}
    (h : recordOffer db (.verified record.organizationId) record.id facts now expected claimed =
      .ok (outcome, db')) :
    ∃ heffect : Effect record.head (.recordControllerOffer facts now) outcome.state,
      Turn db db' record (record.moved heffect) shadow ∧ Receipted db' ∧
        outcome.committedRevision = outcome.state.revision := by
  have hserve : StepRequest.serve ⟨.verified record.organizationId, record.id,
      .recordControllerOffer facts, now, expected, claimed⟩ db = .ok (outcome, db') := h
  refine moved_of_serve hdb hreceipted hheld rfl hserve ?_
  exact @Record.state_ne_of_rank _ record 1 2 _ (by rw [hstate]; rfl) rfl (by decide)

omit [Unicode] [Ed25519] in
theorem asSignerUnavailable_eq_ok_iff {α : Type} {verdict : Except Str α} {a : α} :
    asSignerUnavailable verdict = .ok a ↔ verdict = .ok a := by
  cases verdict <;> simp [asSignerUnavailable]

omit [Unicode] [Ed25519] in
theorem asPopInvalid_eq_ok_iff {α : Type} {verdict : Except Str α} {a : α} :
    asPopInvalid verdict = .ok a ↔ verdict = .ok a := by
  cases verdict <;> simp [asPopInvalid]

/-- What a binding leaves that is answered with a new offer. -/
structure NewlyOffered (db db' : ExchangeDb) (record record' : Record) (shadow : Int)
    (signer : EnrollmentOfferSignerClient) (binding : BindExchange) (bound : EnrollmentState)
    (attestation : DetachedAttestation) (result : ExchangeOutcome) : Prop where
  turn : Turn db.enrollments db'.enrollments record record' shadow
  receipted : Receipted db'.enrollments
  certificate : Certificate record' signer binding bound record'.head attestation
    (record'.offerRow binding bound record'.head attestation)
  fresh : ∀ row ∈ db.offers, row.enrollmentId ≠ record.id
  offers : db'.offers = db.offers ++ [record'.offerRow binding bound record'.head attestation]
  state : record'.head.state = .offerTransported
  workerKeyId : record'.head.workerKeyId = bound.workerKeyId
  workerInstallationId : record'.head.workerInstallationId = bound.workerInstallationId
  resultDigest : record'.head.resultDigest = record.head.resultDigest
  result_eq : result = ⟨record'.offerEnvelope bound attestation, record'.head.view, false⟩

theorem newlyOffered_of_offerToWorker {db db' : ExchangeDb} {keyId : Str} {result : ExchangeOutcome}
    (hdb : Consistent db.enrollments) (hreceipted : Receipted db.enrollments)
    (hheld : Holds db.enrollments record shadow) (hfree : record.head.workerKeyId = [])
    (hid : binding.enrollmentId = record.id)
    (hpossession : keyIdFor binding.workerPublicKeyHex = some keyId)
    (hproven : Attests binding.popAttestation keyId popKind (claimDigest (workerBindingClaim
      (record.invitation.bindingClaim record.id binding.workerInstallationId keyId))))
    (h : offerToWorker db signer record.loaded record.invitation keyId binding = .ok (result, db')) :
    ∃ record' bound attestation,
      NewlyOffered db db' record record' shadow signer binding bound attestation result := by
  unfold offerToWorker at h
  dsimp only at h
  rw [hid] at h
  obtain ⟨⟨first, bdb⟩, hbound, h⟩ := except_bind_eq_ok.mp h
  obtain ⟨hedge, hturn, hreceipted'⟩ := hheld.bindWorker hdb hreceipted hfree hbound
  obtain ⟨-, hseparated, hfirst⟩ := hedge.of_bindWorkerIdentity
  have hstate : first.state.state = .workerBound := by rw [hfirst]; rfl
  have hinstallation : first.state.workerInstallationId = binding.workerInstallationId := by
    rw [hfirst]
  have hkey : first.state.workerKeyId = keyId := by rw [hfirst]
  have hresult : first.state.resultDigest = record.head.resultDigest := by rw [hfirst]; rfl
  obtain ⟨attestation, hsigned, h⟩ := except_bind_eq_ok.mp h
  obtain ⟨claim, hclaim, h⟩ := except_bind_eq_ok.mp h
  -- the offer is verified under the key the invitation pins
  unfold verifyControllerOffer at hclaim
  obtain ⟨hverified, hclaim⟩ := except_unit_bind_eq_ok.mp hclaim
  cases hclaim
  have hsame : record.invitation.offerClaim record.id binding.workerInstallationId keyId
      first.state.digest = record.offerClaim first.state := by
    unfold Record.offerClaim
    rw [hinstallation, hkey]
  dsimp only at h
  rw [hsame] at hsigned hverified h
  obtain ⟨⟨second, odb⟩, hoffered, h⟩ := except_bind_eq_ok.mp h
  obtain ⟨hedge', hturn', hreceipted'', hrevision⟩ :=
    hturn.turned.recordOffer hturn.consistent hreceipted' hstate hoffered
  obtain ⟨-, hsecond⟩ := hedge'.of_recordControllerOffer
  have hstate' : second.state.state = .offerTransported := by rw [hsecond]; rfl
  have hinstallation' : second.state.workerInstallationId = first.state.workerInstallationId := by
    rw [hsecond]
    rfl
  have hkey' : second.state.workerKeyId = first.state.workerKeyId := by rw [hsecond]; rfl
  have hdigest : second.state.offerDigest =
      claimDigest (controllerOfferClaim (record.offerClaim first.state)) := by
    rw [hsecond]
  have hresult' : second.state.resultDigest = first.state.resultDigest := by rw [hsecond]; rfl
  obtain ⟨view, hview, h⟩ := except_bind_eq_ok.mp h
  have hview := statusView_eq_ok hview
  subst hview
  obtain ⟨stored, hstored, h⟩ := except_bind_eq_ok.mp h
  cases h
  obtain ⟨henvelope, hresponse, hfresh, hdb'⟩ :=
    persistSignedOffer_eq_ok (surfaced_eq_ok_iff.mp hstored)
  refine ⟨(record.moved hedge).moved hedge', first.state, attestation, ?_⟩
  exact
    { turn := by
        rw [hdb']
        exact hturn.trans hturn'
      receipted := by
        rw [hdb']
        exact hreceipted''
      certificate :=
        { enrollmentId := hid
          installationId := hinstallation.symm
          bound_mem := List.mem_cons_of_mem _ List.mem_cons_self
          bound_state := hstate
          offered_mem := List.mem_cons_self
          offered_state := hstate'
          offerDigest := hdigest
          possession := hkey ▸ hpossession
          separated := by
            rw [hkey]
            exact record.lawful.anchored.controllerKeyId ▸ hseparated
          proven := by
            show Attests _ _ _ (claimDigest (record.bindingClaim first.state))
            unfold Record.bindingClaim
            rw [hinstallation, hkey]
            exact hproven
          answered := hsigned
          signed := verifyDetached_eq_ok_iff.mp (asSignerUnavailable_eq_ok_iff.mp hverified)
          row := rfl
          envelope_bounded := henvelope
          response_bounded := hresponse }
      fresh := hfresh
      offers := by
        rw [hdb', hrevision]
        unfold Record.offerRow
        rw [hinstallation, hkey]
        rfl
      state := hstate'
      workerKeyId := hkey'
      workerInstallationId := hinstallation'
      resultDigest := hresult'.trans hresult
      result_eq := rfl }

/-! ## Results -/

/-- The claim of a result that answers the offer of a record. -/
def Record.resultClaim (record : Record) (request : ResultExchange) (signature : Str) :
    WorkerResultClaim :=
  record.head.resultClaim request record.head.offerDigest record.invitation.controllerKeyId
    (.str signature)

/-- What a result rests on: a signed claim that answers the stored offer and attests every check. -/
structure Answered (delivered : ExchangeRequest → Prop) (offers : List SignedOfferRow)
    (record : Record) (request : ResultExchange) (signature : Str) : Prop where
  delivered_result : delivered (.result request)
  enrollmentId : request.enrollmentId = record.id
  outcome : request.outcome = workerResultOutcomeHealthy
  complete : healthEvidenceComplete request.healthEvidence = true
  possession : keyIdFor request.workerPublicKeyHex = some record.head.workerKeyId
  signed : Attests request.attestation record.head.workerKeyId resultKind
    (claimDigest (workerResultClaim (record.resultClaim request signature)))
  resultDigest : record.head.resultDigest =
    claimDigest (workerResultClaim (record.resultClaim request signature))
  offered : isSha256Digest record.head.offerDigest = true
  challenge : ∃ offer ∈ offers, ∃ bound attestation, offer.enrollmentId = record.id ∧
    offer.signedOffer = (record.offerEnvelope bound attestation).dumps true ∧
      attestation.signature = signature

omit [Ed25519] in
/-- The steps of a result move an enrollment that was offered to, through to health, and leave any other
that rests. -/
theorem moved_of_advanceToHealthy {db db' : EnrollmentDb} {answer : ResultExchange}
    {resultDigest : Str} {deduplicated : Bool} (hdb : Consistent db) (hreceipted : Receipted db)
    (hheld : Holds db record shadow) (hid : answer.enrollmentId = record.id)
    (hresult : record.head.state ≠ .resultTransported) (hverified : record.head.state ≠ .verified)
    (h : advanceToHealthy db (.verified record.organizationId) record.head resultDigest answer =
      .ok (deduplicated, db')) :
    Turn db db' record record shadow ∧ Receipted db' ∨
      ∃ record', Turn db db' record record' shadow ∧ Receipted db' ∧
        record.head.state = .offerTransported ∧ record'.head.state = .healthy ∧
          record'.head.workerKeyId = record.head.workerKeyId ∧
          record'.head.workerInstallationId = record.head.workerInstallationId ∧
          record'.head.offerDigest = record.head.offerDigest ∧
          record'.head.resultDigest = resultDigest := by
  unfold advanceToHealthy at h
  rw [hid] at h
  obtain ⟨⟨first, db₁⟩, hfirst, h⟩ := except_bind_eq_ok.mp h
  obtain ⟨⟨second, db₂⟩, hsecond, h⟩ := except_bind_eq_ok.mp h
  obtain ⟨⟨third, db₃⟩, hthird, h⟩ := except_bind_eq_ok.mp h
  cases h
  have hfirst : StepRequest.serve ⟨.verified record.organizationId, record.id, .recordWorkerResult _,
    answer.now, answer.expectedRevision, answer.claimedScope⟩ db = .ok (first, db₁) := hfirst
  have hsecond : StepRequest.serve ⟨.verified record.organizationId, record.id, .markVerified _,
    answer.now, first.committedRevision, answer.claimedScope⟩ db₁ = .ok (second, db₂) := hsecond
  have hthird : StepRequest.serve ⟨.verified record.organizationId, record.id, .markHealthy,
    answer.now, second.committedRevision, answer.claimedScope⟩ db₂ = .ok (third, db') := hthird
  by_cases hstate : record.head.state = .offerTransported
  · right
    obtain ⟨hedge₁, hturn₁, hreceipted₁, -⟩ := moved_of_serve hdb hreceipted hheld rfl hfirst
      (@Record.state_ne_of_rank _ record 2 3 _ (by rw [hstate]; rfl) rfl (by decide))
    obtain ⟨-, hhead₁⟩ := hedge₁.of_recordWorkerResult
    have hstate₁ : first.state.state = .resultTransported := by rw [hhead₁]; rfl
    obtain ⟨hedge₂, hturn₂, hreceipted₂, -⟩ := moved_of_serve hturn₁.consistent hreceipted₁
      hturn₁.turned rfl hsecond
      (@Record.state_ne_of_rank _ (record.moved hedge₁) 3 4 _
        (by rw [show (record.moved hedge₁).head = first.state from rfl, hstate₁]; rfl) rfl (by decide))
    obtain ⟨-, hhead₂⟩ := hedge₂.of_markVerified
    have hstate₂ : second.state.state = .verified := by rw [hhead₂]; rfl
    obtain ⟨hedge₃, hturn₃, hreceipted₃, -⟩ := moved_of_serve hturn₂.consistent hreceipted₂
      hturn₂.turned rfl hthird
      (@Record.state_ne_of_rank _ ((record.moved hedge₁).moved hedge₂) 4 5 _
        (by rw [show ((record.moved hedge₁).moved hedge₂).head = second.state from rfl, hstate₂]; rfl)
        rfl (by decide))
    obtain ⟨-, hhead₃⟩ := hedge₃.of_markHealthy
    have hhead : third.state = ((first.state.advanced .verified answer.now).advanced .healthy
        answer.now) := by
      rw [hhead₃]
      show second.state.advanced .healthy answer.now = _
      rw [hhead₂]
      rfl
    refine ⟨_, hturn₁.trans (hturn₂.trans hturn₃), hreceipted₃, hstate, ?_, ?_, ?_, ?_, ?_⟩
    · show third.state.state = _
      rw [hhead]
      rfl
    · show third.state.workerKeyId = _
      rw [hhead, hhead₁]
      rfl
    · show third.state.workerInstallationId = _
      rw [hhead, hhead₁]
      rfl
    · show third.state.offerDigest = _
      rw [hhead, hhead₁]
      rfl
    · show third.state.resultDigest = _
      rw [hhead, hhead₁]
      rfl
  · left
    obtain ⟨hturn₁, hreceipted₁⟩ := stayed_of_serve hdb hreceipted hheld rfl hfirst
      fun newState hedge => hstate hedge.of_recordWorkerResult.1
    obtain ⟨hturn₂, hreceipted₂⟩ := stayed_of_serve hturn₁.consistent hreceipted₁ hturn₁.turned rfl
      hsecond fun newState hedge => hresult hedge.of_markVerified.1
    obtain ⟨hturn₃, hreceipted₃⟩ := stayed_of_serve hturn₂.consistent hreceipted₂ hturn₂.turned rfl
      hthird fun newState hedge => hverified hedge.of_markHealthy.1
    exact ⟨hturn₁.trans (hturn₂.trans hturn₃), hreceipted₃⟩

/-! ## The account of the tables -/

omit [Unicode] [Ed25519] in
/-- The phases an enrollment stands at between two requests. -/
def EnrollmentPhase.resting : List EnrollmentPhase :=
  [.invited, .offerTransported, .healthy, .refused, .recoveryRequired]

/-- A record that stands at no step in between, with an offer where it has a worker and an answer where
it has a result. -/
structure Settled (delivered : ExchangeRequest → Prop) (offers : List SignedOfferRow)
    (record : Record) : Prop where
  resting : record.head.state ∈ EnrollmentPhase.resting
  bound : record.head.workerKeyId ≠ [] → ∃ offer ∈ offers, offer.enrollmentId = record.id
  answered : record.head.resultDigest ≠ [] →
    ∃ request signature, Answered delivered offers record request signature

/-- The tables, accounted for by what was delivered. -/
structure Accounted (delivered : ExchangeRequest → Prop) (db : ExchangeDb) : Prop where
  consistent : Consistent db.enrollments
  receipted : Receipted db.enrollments
  unique : (db.offers.map SignedOfferRow.enrollmentId).Nodup
  certified : ∀ offer ∈ db.offers, ∃ record shadow signer binding bound offered attestation,
    Holds db.enrollments record shadow ∧ delivered (.bind signer binding) ∧
      Certificate record signer binding bound offered attestation offer
  settled : ∀ record shadow, Holds db.enrollments record shadow → Settled delivered db.offers record

variable {delivered : ExchangeRequest → Prop} {offers offers' : List SignedOfferRow}
  {answer : ResultExchange} {signature : Str}

omit [Ed25519] in
theorem Record.Extends.offerClaim (h : record.Extends record') :
    record'.offerClaim bound = record.offerClaim bound := by
  unfold Record.offerClaim
  rw [h.id, h.invitation]

omit [Ed25519] in
theorem Record.Extends.offerEnvelope (h : record.Extends record') :
    record'.offerEnvelope bound attestation = record.offerEnvelope bound attestation := by
  unfold Record.offerEnvelope
  rw [h.offerClaim]

theorem Certificate.extend (h : Certificate record signer binding bound offered attestation offer)
    (hextends : record.Extends record') :
    Certificate record' signer binding bound offered attestation offer := by
  have hid := hextends.id
  have hinvitation := hextends.invitation
  have hclaim : record'.offerClaim bound = record.offerClaim bound := hextends.offerClaim
  have henvelope : record'.offerEnvelope bound attestation = record.offerEnvelope bound attestation :=
    hextends.offerEnvelope
  have hresponse : record'.bindResponse bound offered attestation =
      record.bindResponse bound offered attestation := by
    unfold Record.bindResponse
    rw [henvelope]
  have hrow : record'.offerRow binding bound offered attestation =
      record.offerRow binding bound offered attestation := by
    unfold Record.offerRow
    rw [hid, hinvitation, hextends.organizationId, henvelope, hresponse, hclaim]
  exact
    { enrollmentId := h.enrollmentId.trans hid.symm
      installationId := h.installationId
      bound_mem := hextends.states.subset h.bound_mem
      bound_state := h.bound_state
      offered_mem := hextends.states.subset h.offered_mem
      offered_state := h.offered_state
      offerDigest := by
        rw [hclaim]
        exact h.offerDigest
      possession := h.possession
      separated := by
        rw [hinvitation]
        exact h.separated
      proven := by
        unfold Record.bindingClaim
        rw [hid, hinvitation]
        exact h.proven
      answered := by
        rw [hclaim]
        exact h.answered
      signed := by
        rw [hinvitation, hclaim]
        exact h.signed
      row := h.row.trans hrow.symm
      envelope_bounded := by
        rw [henvelope]
        exact h.envelope_bounded
      response_bounded := by
        rw [hresponse]
        exact h.response_bounded }

/-- The offer that is stored is the one the head names. -/
theorem Certificate.head_offerDigest
    (h : Certificate record signer binding bound offered attestation offer) :
    record.head.offerDigest = claimDigest (controllerOfferClaim (record.offerClaim bound)) := by
  have hnamed : offered.offerDigest ≠ [] := by
    rw [h.offerDigest]
    exact ne_nil_of_isSha256Digest (isSha256Digest_sha256Digest _)
  exact ((record.chronicle.kept _ h.offered_mem).offerDigest hnamed).trans h.offerDigest

omit [Ed25519] in
/-- The claim of a result is fixed by what the head keeps. -/
theorem Record.Extends.resultClaim (h : record.Extends record')
    (hkey : record'.head.workerKeyId = record.head.workerKeyId)
    (hoffer : record'.head.offerDigest = record.head.offerDigest) :
    record'.resultClaim answer signature = record.resultClaim answer signature := by
  have htransaction : record'.head.transactionId = record.head.transactionId := by
    rw [record'.lawful.anchored.transactionId, h.invitation, record.lawful.anchored.transactionId]
  have hrelease : record'.head.releaseDigest = record.head.releaseDigest := by
    rw [record'.lawful.anchored.releaseDigest, h.invitation, record.lawful.anchored.releaseDigest]
  unfold Record.resultClaim EnrollmentState.resultClaim
  rw [htransaction, hrelease, hkey, hoffer, h.invitation]

theorem Answered.extend (h : Answered delivered offers record answer signature)
    (hextends : record.Extends record') (hoffers : ∀ offer ∈ offers, offer ∈ offers') :
    Answered delivered offers' record' answer signature := by
  have hkept := hextends.kept
  have hinvitation := hextends.invitation
  have hkey := hkept.workerKeyId (ne_nil_of_isSha256Digest h.signed.pinned)
  have hoffer := hkept.offerDigest (ne_nil_of_isSha256Digest h.offered)
  have haddressed : isSha256Digest record.head.resultDigest = true := by
    rw [h.resultDigest]
    exact isSha256Digest_sha256Digest _
  have hresult := hkept.resultDigest (ne_nil_of_isSha256Digest haddressed)
  have hclaim : record'.resultClaim answer signature = record.resultClaim answer signature :=
    hextends.resultClaim hkey hoffer
  obtain ⟨offer, hmem, bound, attestation, hofferId, hsigned, hsignature⟩ := h.challenge
  exact
    { delivered_result := h.delivered_result
      enrollmentId := h.enrollmentId.trans hextends.id.symm
      outcome := h.outcome
      complete := h.complete
      possession := by
        rw [hkey]
        exact h.possession
      signed := by
        rw [hkey, hclaim]
        exact h.signed
      resultDigest := by
        rw [hresult, hclaim]
        exact h.resultDigest
      offered := by
        rw [hoffer]
        exact h.offered
      challenge := by
        refine ⟨offer, hoffers offer hmem, bound, attestation, hofferId.trans hextends.id.symm,
          ?_, hsignature⟩
        rw [hextends.offerEnvelope]
        exact hsigned }

/-- Records go on and offers stay. -/
structure Grown (db db' : ExchangeDb) : Prop where
  records : ∀ {record : Record} {shadow : Int}, Holds db.enrollments record shadow →
    ∃ record', record.Extends record' ∧ Holds db'.enrollments record' shadow
  offers : ∀ offer ∈ db.offers, offer ∈ db'.offers

omit [Ed25519] in
theorem Grown.refl (db : ExchangeDb) : Grown db db :=
  ⟨fun hheld => ⟨_, .refl _, hheld⟩, fun _ hoffer => hoffer⟩

omit [Ed25519] in
theorem Grown.trans {db db' db'' : ExchangeDb} (h : Grown db db') (h' : Grown db' db'') :
    Grown db db'' := by
  refine ⟨fun hheld => ?_, fun offer hoffer => h'.offers offer (h.offers offer hoffer)⟩
  obtain ⟨record', hextends, hheld'⟩ := h.records hheld
  obtain ⟨record'', hextends', hheld''⟩ := h'.records hheld'
  exact ⟨record'', hextends.trans hextends', hheld''⟩

omit [Ed25519] in
theorem Turn.grown {db : ExchangeDb} {enrollments : EnrollmentDb}
    (h : Turn db.enrollments enrollments record record' shadow)
    (hoffers : ∀ offer ∈ db.offers, offer ∈ offers') : Grown db ⟨enrollments, offers'⟩ := by
  refine ⟨fun {other shadow'} hother => ?_, hoffers⟩
  by_cases hid : other.id = record.id
  · obtain rfl := h.held.unique hother hid
    cases h.held.expires.symm.trans hother.expires
    exact ⟨record', h.extends_to, h.turned⟩
  · exact ⟨other, .refl _, h.others hid hother⟩

/-- One turn keeps the account when the record it turned is settled and new offers are certified. -/
theorem Accounted.turn {db : ExchangeDb} {enrollments : EnrollmentDb} (h : Accounted delivered db)
    (hturn : Turn db.enrollments enrollments record record' shadow)
    (hreceipted : Receipted enrollments) (hoffers : ∀ offer ∈ db.offers, offer ∈ offers')
    (hunique : (offers'.map SignedOfferRow.enrollmentId).Nodup)
    (hnew : ∀ offer ∈ offers', offer ∈ db.offers ∨ ∃ signer binding bound offered attestation,
      delivered (.bind signer binding) ∧
        Certificate record' signer binding bound offered attestation offer)
    (hsettled : Settled delivered offers' record') :
    Accounted delivered ⟨enrollments, offers'⟩ ∧ Grown db ⟨enrollments, offers'⟩ := by
  refine ⟨?_, hturn.grown hoffers⟩
  refine ⟨hturn.consistent, hreceipted, hunique, fun offer hoffer => ?_, fun other shadow' hother => ?_⟩
  · rcases hnew offer hoffer with hold | ⟨signer, binding, bound, offered, attestation, hcertified⟩
    · obtain ⟨holder, shadow', signer, binding, bound, offered, attestation, hheld, hdelivered,
        hcertificate⟩ := h.certified offer hold
      by_cases hid : holder.id = record.id
      · obtain rfl := hturn.held.unique hheld hid
        exact ⟨record', shadow, signer, binding, bound, offered, attestation, hturn.turned,
          hdelivered, hcertificate.extend hturn.extends_to⟩
      · exact ⟨holder, shadow', signer, binding, bound, offered, attestation,
          hturn.others hid hheld, hdelivered, hcertificate⟩
    · exact ⟨record', shadow, signer, binding, bound, offered, attestation, hturn.turned, hcertified⟩
  · rcases hturn.holds h.consistent hother with rfl | ⟨-, hheld⟩
    · exact hsettled
    · have hbefore := h.settled other shadow' hheld
      refine ⟨hbefore.resting, fun hkey => ?_, fun hresult => ?_⟩
      · obtain ⟨offer, hoffer, hid⟩ := hbefore.bound hkey
        exact ⟨offer, hoffers offer hoffer, hid⟩
      · obtain ⟨request, signature, hanswered⟩ := hbefore.answered hresult
        exact ⟨request, signature, hanswered.extend (.refl _) hoffers⟩

/-! ## Requests keep the account -/

omit [Ed25519] in
theorem exists_of_loadForExchange {db : EnrollmentDb} {enrollmentId : Str}
    {claimed : Option ClaimedScope} {loaded : LoadedEnrollment} (hdb : Consistent db)
    (h : loadForExchange db enrollmentId claimed = .ok loaded) : ∃ record shadow,
      record.id = enrollmentId ∧ Holds db record shadow ∧ loaded = record.loaded ∧
        checkScope record.loaded claimed = .ok () := by
  unfold loadForExchange at h
  obtain ⟨found, hfound, h⟩ := except_bind_eq_ok.mp h
  split at h
  · cases h
  · obtain ⟨record, shadow, hid, hheld, rfl⟩ :=
      exists_of_loadForUpdate hdb (surfaced_eq_ok_iff.mp hfound)
    obtain ⟨hscope, h⟩ := except_unit_bind_eq_ok.mp h
    obtain ⟨-, h⟩ := except_unit_bind_eq_ok.mp h
    cases h
    exact ⟨record, shadow, hid, hheld, rfl, hscope⟩

omit [Ed25519] in
/-- The invitation of a held record is the one that is found. -/
theorem Holds.invitation_eq {db : EnrollmentDb} {row : InvitationRow} (h : Holds db record shadow)
    (hrow : loadInvitationForUpdate db record.id = .ok (some row)) :
    row.invitation = record.invitation := by
  obtain ⟨found, hfound, hinvitation⟩ := h.invitation
  unfold loadInvitationForUpdate at hrow
  rw [hfound] at hrow
  cases hrow
  exact hinvitation.invitation

omit [Unicode] [Ed25519] in
theorem workerKeyIdFor_eq_ok_iff {publicKeyHex keyId : Str} :
    workerKeyIdFor publicKeyHex = .ok keyId ↔ keyIdFor publicKeyHex = some keyId := by
  unfold workerKeyIdFor
  cases keyIdFor publicKeyHex <;> simp

/-- What is known once a proof of possession was verified. -/
structure Possessed (record : Record) (binding : BindExchange) (keyId : Str) : Prop where
  enrollmentId : binding.enrollmentId = record.id
  scope : checkScope record.loaded binding.claimedScope = .ok ()
  possession : keyIdFor binding.workerPublicKeyHex = some keyId
  proven : Attests binding.popAttestation keyId popKind (claimDigest (workerBindingClaim
    (record.invitation.bindingClaim record.id binding.workerInstallationId keyId)))

theorem Possessed.verified {keyId : Str} (h : Possessed record binding keyId) :
    verifyWorkerBindingPop record.invitation record.id binding.workerInstallationId
      binding.workerPublicKeyHex binding.popAttestation =
        .ok ⟨keyId, binding.workerInstallationId⟩ := by
  unfold verifyWorkerBindingPop
  rw [except_bind_of_ok (workerKeyIdFor_eq_ok_iff.mpr h.possession)]
  exact except_unit_bind_eq_ok.mpr
    ⟨asPopInvalid_eq_ok_iff.mpr (verifyDetached_eq_ok_iff.mpr h.proven), rfl⟩

omit [Ed25519] in
/-- A held record is loaded where its scope is claimed. -/
theorem Holds.loadForExchange {db : EnrollmentDb} {claimed : Option ClaimedScope}
    (h : Holds db record shadow) (hscope : checkScope record.loaded claimed = .ok ()) :
    loadForExchange db record.id claimed = .ok record.loaded := by
  unfold Enrollment.loadForExchange
  refine (except_bind_of_ok (surfaced_eq_ok_iff.mpr h.load)).trans ?_
  refine except_unit_bind_eq_ok.mpr ⟨hscope, ?_⟩
  exact except_unit_bind_eq_ok.mpr ⟨surfaced_eq_ok_iff.mpr h.verified, rfl⟩

omit [Ed25519] in
theorem Holds.loadInvitation {db : EnrollmentDb} (h : Holds db record shadow) :
    ∃ row, loadInvitationForUpdate db record.id = .ok (some row) ∧
      row.invitation = record.invitation := by
  obtain ⟨row, hfound, hinvitation⟩ := h.invitation
  refine ⟨row, ?_, hinvitation.invitation⟩
  unfold loadInvitationForUpdate
  rw [hfound]
  rfl

/-- A binding that returns was proven, and is then answered from the stored offer or with a new one. -/
theorem exists_of_bindWorkerExchange {db db' : ExchangeDb} {result : ExchangeOutcome}
    (hdb : Consistent db.enrollments) (h : bindWorkerExchange db signer binding = .ok (result, db')) :
    ∃ record shadow keyId, Holds db.enrollments record shadow ∧ Possessed record binding keyId ∧
      ((∃ stored, loadSignedOfferRecord db record.id = .ok (some stored) ∧
        replayBindRecord db stored record.id (bindInputDigest binding record.invitation keyId)
          binding.workerInstallationId keyId = .ok result ∧ db' = db) ∨
      (loadSignedOfferRecord db record.id = .ok none ∧
        offerToWorker db signer record.loaded record.invitation keyId binding =
          .ok (result, db'))) := by
  unfold bindWorkerExchange at h
  obtain ⟨loaded, hloaded, h⟩ := except_bind_eq_ok.mp h
  obtain ⟨record, shadow, hid, hheld, rfl, hscope⟩ := exists_of_loadForExchange hdb hloaded
  obtain ⟨found, hfound, h⟩ := except_bind_eq_ok.mp h
  rw [← hid] at hfound h
  split at h
  · cases h
  · have hinvitation := hheld.invitation_eq (surfaced_eq_ok_iff.mp hfound)
    dsimp only at h
    rw [hinvitation] at h
    obtain ⟨verified, hverified, h⟩ := except_bind_eq_ok.mp h
    unfold verifyWorkerBindingPop at hverified
    obtain ⟨keyId, hkey, hverified⟩ := except_bind_eq_ok.mp hverified
    obtain ⟨hproven, hverified⟩ := except_unit_bind_eq_ok.mp hverified
    cases hverified
    obtain ⟨-, h⟩ := except_unit_bind_eq_ok.mp h
    refine ⟨record, shadow, keyId, hheld, ⟨hid.symm, hscope, workerKeyIdFor_eq_ok_iff.mp hkey,
      verifyDetached_eq_ok_iff.mp (asPopInvalid_eq_ok_iff.mp hproven)⟩, ?_⟩
    obtain ⟨stored, hstored, h⟩ := except_bind_eq_ok.mp h
    split at h
    · next stored =>
        obtain ⟨outcome, houtcome, h⟩ := except_bind_eq_ok.mp h
        cases h
        exact .inl ⟨stored, surfaced_eq_ok_iff.mp hstored, houtcome, rfl⟩
    · exact .inr ⟨surfaced_eq_ok_iff.mp hstored, h⟩

omit [Unicode] [Ed25519] in
/-- Where no offer is read there is none. -/
theorem offers_eq_nil_of_load {db : ExchangeDb} {enrollmentId : Str}
    (h : loadSignedOfferRecord db enrollmentId = .ok none) :
    ∀ row ∈ db.offers, row.enrollmentId ≠ enrollmentId := by
  unfold loadSignedOfferRecord at h
  obtain ⟨found, hfound, h⟩ := except_bind_eq_ok.mp h
  have hnone : found = none := by
    cases found with
    | none => rfl
    | some row =>
        obtain ⟨stored, -, h⟩ := except_bind_eq_ok.mp h
        cases h
  subst hnone
  intro row hrow hid
  have hmem : row ∈ db.offers.filter fun row => row.enrollmentId = enrollmentId :=
    List.mem_filter.mpr ⟨hrow, decide_eq_true hid⟩
  revert hfound hmem
  generalize db.offers.filter (fun row => row.enrollmentId = enrollmentId) = rows
  rcases rows with _ | ⟨first, _ | ⟨second, rest⟩⟩ <;> simp [scalarOneOrNone]

/-- A worker without an offer is not bound. -/
theorem Settled.free (h : Settled delivered offers record)
    (hnone : ∀ row ∈ offers, row.enrollmentId ≠ record.id) : record.head.workerKeyId = [] := by
  by_contra hbound
  obtain ⟨offer, hoffer, hid⟩ := h.bound hbound
  exact hnone offer hoffer hid

theorem Accounted.bind {db db' : ExchangeDb} {result : ExchangeOutcome} (h : Accounted delivered db)
    (hdelivered : delivered (.bind signer binding))
    (hserve : bindWorkerExchange db signer binding = .ok (result, db')) :
    Accounted delivered db' ∧ Grown db db' := by
  obtain ⟨record, shadow, keyId, hheld, hpossessed, ⟨-, -, -, rfl⟩ | ⟨hnone, hoffer⟩⟩ :=
    exists_of_bindWorkerExchange h.consistent hserve
  · exact ⟨h, .refl _⟩
  · have hfree := (h.settled record shadow hheld).free (offers_eq_nil_of_load hnone)
    obtain ⟨record', bound, attestation, hnew⟩ := newlyOffered_of_offerToWorker h.consistent
      h.receipted hheld hfree hpossessed.enrollmentId hpossessed.possession hpossessed.proven hoffer
    have hid := hnew.turn.extends_to.id
    have hmem : record'.offerRow binding bound record'.head attestation ∈ db'.offers := by
      rw [hnew.offers]
      exact List.mem_append_right _ List.mem_cons_self
    have hresult := (h.settled record shadow hheld).answered
    show Accounted delivered ⟨db'.enrollments, db'.offers⟩ ∧ Grown db ⟨db'.enrollments, db'.offers⟩
    refine h.turn hnew.turn hnew.receipted ?_ ?_ ?_ ?_
    · intro offer hold
      rw [hnew.offers]
      exact List.mem_append_left _ hold
    · rw [hnew.offers, List.map_append]
      refine List.nodup_append.mpr ⟨h.unique, List.nodup_singleton _, ?_⟩
      intro id hold id' hnewid hsame
      obtain ⟨row, hrow, rfl⟩ := List.mem_map.mp hold
      rw [List.map_singleton, List.mem_singleton] at hnewid
      exact hnew.fresh row hrow (hsame.trans (hnewid.trans hid))
    · intro offer hoffer
      rw [hnew.offers] at hoffer
      rcases List.mem_append.mp hoffer with hold | hlast
      · exact .inl hold
      · rw [List.mem_singleton.mp hlast]
        exact .inr ⟨signer, binding, bound, _, attestation, hdelivered, hnew.certificate⟩
    · refine ⟨?_, fun _ => ⟨_, hmem, rfl⟩, fun hanswered => ?_⟩
      · rw [hnew.state]
        decide
      · -- a record without a worker has no result to answer
        rw [hnew.resultDigest] at hanswered
        obtain ⟨answer, signature, hbefore⟩ := hresult hanswered
        exact absurd hfree (ne_nil_of_isSha256Digest hbefore.signed.pinned)

/-- The offer of a bound worker is the only one of its enrollment, and certified. -/
theorem Accounted.offer_of_bound {db : ExchangeDb} (h : Accounted delivered db)
    (hheld : Holds db.enrollments record shadow) (hbound : record.head.workerKeyId ≠ []) :
    ∃ signer binding bound offered attestation, delivered (.bind signer binding) ∧
      Certificate record signer binding bound offered attestation
        (record.offerRow binding bound offered attestation) ∧
      (db.offers.filter fun row => row.enrollmentId = record.id) =
        [record.offerRow binding bound offered attestation] := by
  obtain ⟨offer, hoffer, hid⟩ := (h.settled record shadow hheld).bound hbound
  obtain ⟨holder, shadow', signer, binding, bound, offered, attestation, hholder, hdelivered,
    hcertificate⟩ := h.certified offer hoffer
  have hsame : holder.id = record.id := by
    rw [← hid, hcertificate.row]
    rfl
  obtain rfl := hheld.unique hholder hsame
  have hrow := hcertificate.row
  subst hrow
  refine ⟨signer, binding, bound, offered, attestation, hdelivered, hcertificate, ?_⟩
  exact filter_eq_singleton h.unique hoffer

theorem Accounted.result {db db' : ExchangeDb} {result : ResultExchangeOutcome}
    (h : Accounted delivered db) (hdelivered : delivered (.result answer))
    (hserve : recordWorkerResultExchange db answer = .ok (result, db')) :
    Accounted delivered db' ∧ Grown db db' := by
  unfold recordWorkerResultExchange at hserve
  obtain ⟨loaded, hloaded, hserve⟩ := except_bind_eq_ok.mp hserve
  obtain ⟨record, shadow, hid, hheld, rfl, -⟩ := exists_of_loadForExchange h.consistent hloaded
  dsimp only at hserve
  obtain ⟨hkey, hserve⟩ := except_unit_bind_eq_ok.mp hserve
  obtain ⟨found, hfound, hserve⟩ := except_bind_eq_ok.mp hserve
  split at hserve
  · cases hserve
  · obtain ⟨⟨predecessorDigest, generation, challenge⟩, hbindings, hserve⟩ :=
      except_bind_eq_ok.mp hserve
    obtain ⟨hverified, hserve⟩ := except_unit_bind_eq_ok.mp hserve
    obtain ⟨hcomplete, hserve⟩ := except_unit_bind_eq_ok.mp hserve
    obtain ⟨⟨deduplicated, enrollments⟩, hadvanced, hserve⟩ := except_bind_eq_ok.mp hserve
    obtain ⟨head, -, hserve⟩ := except_bind_eq_ok.mp hserve
    obtain ⟨view, -, hserve⟩ := except_bind_eq_ok.mp hserve
    cases hserve
    have hsettled := h.settled record shadow hheld
    have hbound : record.head.workerKeyId ≠ [] := by
      have hempty := ensure_eq_ok_iff.mp hkey
      rintro hnil
      rw [show record.loaded.state = record.head from rfl, hnil] at hempty
      cases hempty
    have hresting := hsettled.resting
    have hrests : ∀ phase ∉ EnrollmentPhase.resting, record.head.state ≠ phase := by
      rintro phase hphase rfl
      exact hphase hresting
    rcases moved_of_advanceToHealthy h.consistent h.receipted hheld hid.symm
      (hrests _ (by decide)) (hrests _ (by decide)) hadvanced with
      ⟨hturn, hreceipted⟩ | ⟨record', hturn, hreceipted, hstate, hhealthy, hworker, -, hoffer, hresult⟩
    · exact h.turn hturn hreceipted (fun _ hoffer => hoffer) h.unique (fun _ hoffer => .inl hoffer)
        hsettled
    · refine h.turn hturn hreceipted (fun _ hoffer => hoffer) h.unique (fun _ hoffer => .inl hoffer) ?_
      obtain ⟨signer, binding, bound, offered, attestation, -, hcertificate, hrow⟩ :=
        h.offer_of_bound hheld hbound
      rw [← hid, persistedOfferBindings_eq_ok hrow hcertificate.envelope_bounded] at hbindings
      cases hbindings
      have hdigest := hcertificate.head_offerDigest
      have hclaim : record.head.resultClaim answer
          (claimDigest (controllerOfferClaim (record.offerClaim bound))) attestation.keyId
            (.str attestation.signature) = record'.resultClaim answer attestation.signature := by
        rw [hturn.extends_to.resultClaim hworker hoffer, ← hdigest, hcertificate.signed.signer]
        rfl
      unfold verifyWorkerResult at hverified
      obtain ⟨keyId, hpossession, hverified⟩ := except_bind_eq_ok.mp hverified
      obtain ⟨hsame, hverified⟩ := except_unit_bind_eq_ok.mp hverified
      have hsame : keyId = record.head.workerKeyId := of_decide_eq_true (ensure_eq_ok_iff.mp hsame)
      have hpossession := workerKeyIdFor_eq_ok_iff.mp hpossession
      have hattests := verifyDetached_eq_ok_iff.mp (asPopInvalid_eq_ok_iff.mp hverified)
      subst hsame
      have hsigned : Attests answer.attestation record.head.workerKeyId resultKind (claimDigest
          (workerResultClaim (record'.resultClaim answer attestation.signature))) :=
        hclaim ▸ hattests
      obtain ⟨houtcome, hevidence⟩ := Bool.and_eq_true_iff.mp (ensure_eq_ok_iff.mp hcomplete)
      have hfilter : record.offerRow binding bound offered attestation ∈
          db.offers.filter fun row => row.enrollmentId = record.id := by
        rw [hrow]
        exact List.mem_singleton_self _
      refine ⟨by rw [hhealthy]; decide, fun _ => ?_, fun _ => ⟨answer, attestation.signature, ?_⟩⟩
      · obtain ⟨offer, hmem, hofferId⟩ := hsettled.bound hbound
        exact ⟨offer, hmem, hofferId.trans hturn.extends_to.id.symm⟩
      · exact
          { delivered_result := hdelivered
            enrollmentId := hid.symm.trans hturn.extends_to.id.symm
            outcome := of_decide_eq_true houtcome
            complete := hevidence
            possession := hworker ▸ hpossession
            signed := by
              rw [hworker]
              exact hsigned
            resultDigest := by
              rw [hresult, ← hclaim]
              rfl
            offered := by
              rw [hoffer, hdigest]
              exact isSha256Digest_sha256Digest _
            challenge := by
              refine ⟨_, List.mem_of_mem_filter hfilter, bound, attestation,
                hturn.extends_to.id.symm, ?_, rfl⟩
              show (record.offerEnvelope bound attestation).dumps true = _
              rw [hturn.extends_to.offerEnvelope] }

/-- An enrollment that was just opened has neither a worker nor a result. -/
theorem Accounted.opened {db : ExchangeDb} {enrollments : EnrollmentDb} (h : Accounted delivered db)
    (hcreated : Created db.enrollments record shadow enrollments) (hreceipted : Receipted enrollments) :
    Accounted delivered ⟨enrollments, db.offers⟩ ∧ Grown db ⟨enrollments, db.offers⟩ := by
  refine ⟨?_, fun hheld => ⟨_, .refl _, hcreated.keeps hheld⟩, fun _ hoffer => hoffer⟩
  have hheld := hcreated.holds h.consistent
  have hinvited : record.head.state = .invited := by
    refine record.lawful.genesis.mp ?_
    rw [record.chronicle.revision, hcreated.past]
    rfl
  obtain ⟨-, hkey, -, hresult⟩ := record.lawful.shaped 0 (by rw [hinvited]; rfl)
  refine ⟨hcreated.consistent h.consistent, hreceipted, h.unique, fun offer hoffer => ?_,
    fun other shadow' hother => ?_⟩
  · obtain ⟨holder, shadow', signer, binding, bound, offered, attestation, hholder, hcertified⟩ :=
      h.certified offer hoffer
    exact ⟨holder, shadow', signer, binding, bound, offered, attestation, hcreated.keeps hholder,
      hcertified⟩
  · have hrow := hother.mem_states
    rw [hcreated.states] at hrow
    rcases List.mem_append.mp hrow with hrow | hrow
    · obtain ⟨before, shadow'', hid, hbefore⟩ := h.consistent.states _ hrow
      have hsame := (hcreated.keeps hbefore).unique hother
        (other.lawful.enrollmentId.symm.trans hid.symm)
      subst hsame
      exact h.settled _ shadow'' hbefore
    · have hid : other.id = record.id := by
        have hsame := congrArg StateRow.enrollmentId (List.mem_singleton.mp hrow)
        exact other.lawful.enrollmentId.symm.trans (hsame.trans record.lawful.enrollmentId)
      obtain rfl := hheld.unique hother hid
      refine ⟨?_, fun hbound => absurd (hkey.mpr rfl) hbound,
        fun hanswered => absurd (hresult.mpr (by decide)) hanswered⟩
      rw [hinvited]
      decide

theorem Accounted.operated {db : ExchangeDb} {enrollments : EnrollmentDb} (h : Accounted delivered db)
    (hoperated : Operated db.enrollments enrollments) (hreceipted : Receipted enrollments) :
    Accounted delivered ⟨enrollments, db.offers⟩ ∧ Grown db ⟨enrollments, db.offers⟩ := by
  cases hoperated with
  | unchanged => exact ⟨h, .refl _⟩
  | opened hcreated => exact h.opened hcreated hreceipted
  | @ended record shadow call newState _ hends heffect hturn =>
      obtain ⟨target, reason, htarget, hstopped⟩ := heffect.of_ends hends
      have hbefore := h.settled record shadow hturn.held
      refine h.turn hturn hreceipted (fun _ hoffer => hoffer) h.unique (fun _ hoffer => .inl hoffer) ?_
      have hkey : newState.workerKeyId = record.head.workerKeyId := by
        rw [hstopped]
        rfl
      have hresult : newState.resultDigest = record.head.resultDigest := by
        rw [hstopped]
        rfl
      refine ⟨?_, fun hbound => ?_, fun hanswered => ?_⟩
      · show newState.state ∈ EnrollmentPhase.resting
        rw [hstopped]
        show target ∈ EnrollmentPhase.resting
        rcases List.mem_cons.mp htarget with rfl | htarget
        · decide
        · rw [List.mem_singleton.mp htarget]
          decide
      · exact hbefore.bound (hkey ▸ hbound)
      · obtain ⟨answer, signature, hbefore⟩ := hbefore.answered (hresult ▸ hanswered)
        exact ⟨answer, signature, hbefore.extend hturn.extends_to fun _ hoffer => hoffer⟩

/-- Every request keeps the account. -/
theorem Accounted.after {db : ExchangeDb} {request : ExchangeRequest} (h : Accounted delivered db)
    (hdelivered : delivered request) :
    Accounted delivered (db.after request) ∧ Grown db (db.after request) := by
  unfold ExchangeDb.after
  split
  · next db' hserve =>
      cases request with
      | bind signer binding =>
          obtain ⟨⟨result, after⟩, hresult, hafter⟩ := except_map_eq_ok.mp hserve
          cases hafter
          exact h.bind hdelivered hresult
      | result answer =>
          obtain ⟨⟨result, after⟩, hresult, hafter⟩ := except_map_eq_ok.mp hserve
          cases hafter
          exact h.result hdelivered hresult
      | enrollment request =>
          cases request with
          | step request => cases hserve
          | _ =>
              obtain ⟨⟨result, after⟩, hresult, hafter⟩ := except_map_eq_ok.mp hserve
              cases hafter
              obtain ⟨hoperated, hreceipted⟩ := operated_of_serve h.consistent h.receipted
                (fun step hstep => by cases hstep) hresult
              exact h.operated hoperated hreceipted
  · exact ⟨h, .refl _⟩

theorem Accounted.run {db : ExchangeDb} (h : Accounted delivered db) (requests : List ExchangeRequest)
    (hdelivered : ∀ request ∈ requests, delivered request) :
    Accounted delivered (db.served requests) ∧ Grown db (db.served requests) := by
  induction requests generalizing db with
  | nil => exact ⟨h, .refl _⟩
  | cons request rest ih =>
      obtain ⟨hfirst, hgrown⟩ := h.after (hdelivered request List.mem_cons_self)
      obtain ⟨hrest, hgrown'⟩ := ih hfirst fun r hr => hdelivered r (List.mem_cons_of_mem _ hr)
      exact ⟨hrest, hgrown.trans hgrown'⟩

theorem accounted_empty : Accounted delivered ExchangeDb.empty := by
  refine ⟨consistent_empty, List.forall_mem_nil _, List.nodup_nil, List.forall_mem_nil _,
    fun record shadow hheld => ?_⟩
  have hhead := hheld.head
  cases hhead

/-- Every history leaves tables that are accounted for by what was sent. -/
theorem accounted_of_history (requests : List ExchangeRequest) :
    Accounted (fun request => request ∈ requests) (ExchangeDb.empty.served requests) :=
  (accounted_empty.run requests fun _ hrequest => hrequest).1

end

end Secp.Enrollment
