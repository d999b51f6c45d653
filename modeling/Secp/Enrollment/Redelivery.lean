import Secp.Enrollment.Requests
import Secp.Enrollment.Snapshots

/-!
# Steps that are delivered again

A committed step is in the history for good, with the one receipt for its input. So a later delivery of
the input is served the state the step led to, whatever has become of the enrollment since. And no step
is committed twice, for an enrollment does not come back to where it was.
-/

namespace Secp.Enrollment

open Secp.Python Secp.Logic

section
variable [Unicode] {db db' : EnrollmentDb} {record : Record} {shadow : Int} {step : Step}
  {digest : Str} {state : EnrollmentState}

/-! ## Receipts -/

/-- A committed step: its state is one of a held record, and there is one receipt for its input. -/
structure Recorded (db : EnrollmentDb) (record : Record) (shadow : Int) (step : Step) (digest : Str)
    (state : EnrollmentState) : Prop where
  held : Holds db record shadow
  mem : state ∈ record.states
  receipt : (db.receipts.filter fun r => r.enrollmentId = record.id && r.step = step &&
    r.inputDigest = digest) = [⟨record.id, step, digest, state.revision, state.digest⟩]

theorem Record.Extends.id {record record' : Record} (h : record.Extends record') :
    record'.id = record.id := by
  unfold Record.id
  rw [h.invitation]

/-- A write keeps what is recorded. -/
theorem Recorded.write (h : Recorded db record shadow step digest state) (hwrite : Write db db') :
    ∃ record', record.Extends record' ∧ Recorded db' record' shadow step digest state := by
  obtain ⟨record', hextends, hheld⟩ := hwrite.keeps h.held
  refine ⟨record', hextends, hheld, hextends.states.mem h.mem, ?_⟩
  rw [hextends.id]
  rcases hwrite.receipts with hsame | ⟨receipt, hnew, hfresh⟩
  · rw [hsame]
    exact h.receipt
  · -- the new receipt is for another input
    have hone : (⟨record.id, step, digest, state.revision, state.digest⟩ : ReceiptRow) ∈
        db.receipts := by
      refine List.mem_of_mem_filter (h.receipt ▸ List.mem_singleton_self _)
    have hother : ¬(receipt.enrollmentId = record.id ∧ receipt.step = step ∧
        receipt.inputDigest = digest) := by
      rintro ⟨hid, hstep, hdigest⟩
      exact hfresh _ hone ⟨hid.symm, hstep.symm, hdigest.symm⟩
    rw [hnew, List.filter_append, h.receipt, List.filter_cons_of_neg, List.filter_nil,
      List.append_nil]
    simpa [and_assoc] using hother

theorem Recorded.writes (h : Recorded db record shadow step digest state) (hwrites : Writes db db') :
    ∃ record', record.Extends record' ∧ Recorded db' record' shadow step digest state := by
  induction hwrites with
  | refl => exact ⟨record, .refl _, h⟩
  | tail hwrites hwrite ih =>
      obtain ⟨middle, hextends, hmiddle⟩ := ih
      obtain ⟨record', hextends', hrecorded⟩ := hmiddle.write hwrite
      exact ⟨record', hextends.trans hextends', hrecorded⟩

/-- A receipt is served with the state it was made for. -/
theorem Recorded.served (h : Recorded db record shadow step digest state) :
    serveReceipt db record.loaded step digest = .ok (some ⟨state, state.revision, true⟩) := by
  have hid : record.loaded.state.enrollmentId = record.id := record.lawful.enrollmentId
  have hfind : findReceipt db record.id step digest =
      .ok (some ⟨record.id, step, digest, state.revision, state.digest⟩) := by
    unfold findReceipt
    rw [h.receipt]
    rfl
  have hlabel : { state.unlabelled with deploymentSiteLabel := record.loaded.deploymentSiteLabel } =
      state := by
    rw [show record.loaded.deploymentSiteLabel = state.deploymentSiteLabel from
      (record.chronicle.lawful state h.mem).label.symm]
    rfl
  unfold serveReceipt
  rw [hid, except_bind_of_ok (surfaced_eq_ok_iff.mpr hfind)]
  dsimp only
  rw [except_bind_of_ok (surfaced_eq_ok_iff.mpr (h.held.loadRevisionState h.mem))]
  dsimp only
  rw [hlabel]
  refine except_unit_bind_eq_ok.mpr
    ⟨ensure_eq_ok_iff.mpr (decide_eq_true (digest_unlabelled state)), ?_⟩
  exact except_unit_bind_eq_ok.mpr ⟨ensure_eq_ok_iff.mpr
    (decide_eq_true (record.chronicle.revision_le state h.mem)), rfl⟩

variable {request : StepRequest} {outcome : TransitionOutcome}

omit [Unicode] in
theorem deduplicated_of_serveReceipt {loaded : LoadedEnrollment}
    (h : serveReceipt db loaded step digest = .ok (some outcome)) : outcome.deduplicated = true := by
  unfold serveReceipt at h
  obtain ⟨found, -, h⟩ := except_bind_eq_ok.mp h
  split at h
  · cases h
  · dsimp only at h
    obtain ⟨historical, -, h⟩ := except_bind_eq_ok.mp h
    split at h
    · cases h
    · simp only [except_unit_bind_eq_ok] at h
      obtain ⟨-, -, h⟩ := h
      cases h
      rfl

/-- What a committed step leaves is recorded. -/
theorem recorded_of_commit {ready : EnrollmentDb}
    {call : Call} {newState : EnrollmentState} (hheld : Holds ready record shadow)
    (heffect : Effect record.head call newState)
    (h : commitTransition ready record.loaded newState (some step) (some digest) = .ok db') :
    Recorded db' (record.moved heffect) shadow step digest newState := by
  have hcommitted := committed_of_commitTransition h
  have hid : record.loaded.state.enrollmentId = record.id := record.lawful.enrollmentId
  refine ⟨hcommitted.holds hheld rfl record.faithful heffect, List.mem_cons_self, ?_⟩
  rcases hcommitted.receipts with ⟨hnone, -⟩ | ⟨s, d, hs, hd, hfresh, hreceipts⟩
  · cases hnone
  · cases hs
    cases hd
    rw [hreceipts, hid]
    rw [hid] at hfresh
    rw [List.filter_append, List.filter_eq_nil_iff.mpr, List.nil_append]
    · exact List.filter_cons_of_pos (by simp [Record.moved, Record.id])
    · intro r hr hsame
      simp only [Bool.and_eq_true, decide_eq_true_eq, and_assoc] at hsame
      exact hfresh r hr hsame

/-! ## Redelivery -/

/-- A receipt is served before anything else is looked at. -/
theorem serve_of_receipt {loaded : LoadedEnrollment}
    (hprogress : requireProgress request.actor = .ok ())
    (hloaded : loadAuthorized db request.actor.organizationId request.enrollmentId request.claimed =
      .ok loaded)
    (hserved : serveReceipt db loaded request.input.step request.input.digest = .ok (some outcome)) :
    request.serve db = .ok (outcome, db) := by
  have hstep : ∀ {step payload transition}, request.input.step = step →
      request.input.payload = payload →
        advanceStep db request.actor request.enrollmentId step payload transition
          request.expectedRevision request.claimed = .ok (outcome, db) := by
    rintro step payload transition rfl rfl
    unfold advanceStep
    dsimp only
    rw [except_bind_of_ok hprogress, except_bind_of_ok hloaded]
    refine (except_bind_of_ok hserved).trans ?_
    rfl
  unfold StepRequest.serve
  split
  · next workerInstallationId workerKeyId transactionId hinput =>
      rw [hinput] at hserved
      unfold bindWorker
      dsimp only
      rw [except_bind_of_ok hprogress, except_bind_of_ok hloaded]
      refine (except_bind_of_ok hserved).trans ?_
      rfl
  · next facts hinput => exact hstep (by rw [hinput]; rfl) (by rw [hinput]; rfl)
  · next facts hinput => exact hstep (by rw [hinput]; rfl) (by rw [hinput]; rfl)
  · next releaseDigest hinput => exact hstep (by rw [hinput]; rfl) (by rw [hinput]; rfl)
  · next hinput => exact hstep (by rw [hinput]; rfl) (by rw [hinput]; rfl)

/-- A delivery of the same input for the same organization, by an actor who may take the step. -/
structure Redelivers (request request' : StepRequest) : Prop where
  enrollmentId : request'.enrollmentId = request.enrollmentId
  input : request'.input = request.input
  claimed : request'.claimed = request.claimed
  organizationId : request'.actor.organizationId = request.actor.organizationId
  progress : requireProgress request'.actor = .ok ()

theorem Admits.extends {record record' : Record} {organizationId : Str}
    {claimed : Option ClaimedScope} (h : Admits record organizationId claimed)
    (hextends : record.Extends record') : Admits record' organizationId claimed := by
  refine ⟨h.1.trans hextends.organizationId.symm, ?_⟩
  have hscope := h.2
  have htransaction : record'.loaded.state.transactionId = record.loaded.state.transactionId := by
    show record'.head.transactionId = record.head.transactionId
    rw [record'.lawful.anchored.transactionId, hextends.invitation,
      record.lawful.anchored.transactionId]
  unfold checkScope at hscope ⊢
  rw [htransaction, show record'.loaded.organizationId = record.loaded.organizationId from
    hextends.organizationId, show record'.loaded.deploymentSiteLabel =
      record.loaded.deploymentSiteLabel from hextends.label]
  exact hscope

/-! ## No way back -/

/-- An edge that stays on the pipeline goes one place on. -/
theorem Effect.rank {state state' : EnrollmentState} {call : Call} (h : Effect state call state')
    {n : Nat} (hn : state'.state.rank = some n) : ∃ m, m < n ∧ state.state.rank = some m := by
  cases h with
  | bound hstate =>
      cases hn
      exact ⟨0, by decide, by rw [hstate]; rfl⟩
  | offered hstate =>
      cases hn
      exact ⟨1, by decide, by rw [hstate]; rfl⟩
  | resulted hstate =>
      cases hn
      exact ⟨2, by decide, by rw [hstate]; rfl⟩
  | verified hstate =>
      cases hn
      exact ⟨3, by decide, by rw [hstate]; rfl⟩
  | healthy hstate =>
      cases hn
      exact ⟨4, by decide, by rw [hstate]; rfl⟩
  | refused => cases hn
  | recovery => cases hn

/-- On the pipeline every state stands before the ones after it. -/
theorem Chronicle.rank {invitation : WorkerEnrollmentInvitation} {label : Str}
    {past : List EnrollmentState} (h : Chronicle invitation label (state :: past)) {n : Nat}
    (hn : state.state.rank = some n) : ∀ s ∈ past, ∃ m, m < n ∧ s.state.rank = some m := by
  induction past generalizing state n with
  | nil => exact fun s hs => by cases hs
  | cons previous past ih =>
      cases h with
      | moved h heffect =>
          obtain ⟨m, hlt, hm⟩ := heffect.rank hn
          refine List.forall_mem_cons.mpr ⟨⟨m, hlt, hm⟩, fun s hs => ?_⟩
          obtain ⟨k, hk, hrank⟩ := ih h hm s hs
          exact ⟨k, hk.trans hlt, hrank⟩

/-- The state a step leads to. -/
def Step.target : Step → EnrollmentPhase
  | bindWorkerIdentity => .workerBound
  | recordControllerOffer => .offerTransported
  | recordWorkerResult => .resultTransported
  | markVerified => .verified
  | markHealthy => .healthy

theorem Effect.state_of_call {state state' : EnrollmentState} {input : StepInput} {now : Str}
    (h : Effect state (input.call now) state') : state'.state = input.step.target := by
  cases input <;> cases h <;> rfl

/-- A record is moved to the place of a step only once. -/
theorem not_effect_of_mem {record : Record} {input : StepInput} {now : Str}
    {newState : EnrollmentState} (hmem : state ∈ record.states)
    (htarget : state.state = input.step.target) : ¬Effect record.head (input.call now) newState := by
  intro heffect
  have hnew := heffect.state_of_call
  obtain ⟨n, hn⟩ : ∃ n, input.step.target.rank = some n := by
    cases input.step <;> exact ⟨_, rfl⟩
  have hrank : newState.state.rank = some n := by rw [hnew, hn]
  obtain ⟨m, hlt, hm⟩ := (record.chronicle.moved heffect).rank hrank state hmem
  rw [htarget, hn] at hm
  cases hm
  exact absurd hlt (Nat.lt_irrefl _)

/-- A committed step, delivered again after any further history, returns the state it led to and changes
nothing; and it is never committed again, on any input. -/
theorem delayed_retry {requests : List Request}
    (h : request.serve (EnrollmentDb.empty.served requests) = .ok (outcome, db))
    (hcommitted : outcome.deduplicated = false) (later : List Request) :
    (∀ request', Redelivers request request' → request'.serve (db.served later) =
      .ok (⟨outcome.state, outcome.committedRevision, true⟩, db.served later)) ∧
    ∀ (request' : StepRequest) (outcome' : TransitionOutcome) (db' : EnrollmentDb),
      request'.enrollmentId = request.enrollmentId → request'.input.step = request.input.step →
        request'.serve (db.served later) = .ok (outcome', db') → outcome'.deduplicated = true := by
  have hconsistent := consistent_served requests
  obtain ⟨record, shadow, hid, hheld, hadmits, hserved⟩ := served_of_serve hconsistent h
  have hdb := (hserved.writes hheld).consistent hconsistent
  have hwrites := writes_served hdb later
  cases hserved with
  | receipt hreceipt =>
      rw [deduplicated_of_serveReceipt hreceipt] at hcommitted
      cases hcommitted
  | repeated hensured => cases hcommitted
  | @committed ready _ newState hready heffect hcommit =>
      have hrecorded := recorded_of_commit (holds_of_ready hready hheld) heffect hcommit
      obtain ⟨record', hextends, hrecorded'⟩ := hrecorded.writes hwrites
      have hextends' := (record.extends_moved heffect).trans hextends
      refine ⟨fun request' hredelivers => ?_, fun request' outcome' db' hsame hstep hserve => ?_⟩
      · have hadmits' := hadmits.extends hextends'
        rw [← hredelivers.organizationId, ← hredelivers.claimed] at hadmits'
        have hloaded := loadAuthorized_eq_ok hrecorded'.held hadmits'
        rw [hextends'.id, hid, ← hredelivers.enrollmentId] at hloaded
        refine serve_of_receipt hredelivers.progress hloaded ?_
        rw [hredelivers.input]
        exact hrecorded'.served
      · obtain ⟨other, shadow', hid', hother, -, hserved'⟩ :=
          served_of_serve (hwrites.consistent hdb) hserve
        have hhead : other.head = record'.head := hrecorded'.held.head_unique hother
          (hid'.trans (hsame.trans (hid.symm.trans hextends'.id.symm)))
        cases hserved' with
        | receipt hreceipt => exact deduplicated_of_serveReceipt hreceipt
        | repeated hensured => rfl
        | committed hready' heffect' hcommit' =>
            rw [hhead] at heffect'
            refine absurd heffect' (not_effect_of_mem hrecorded'.mem ?_)
            rw [heffect.state_of_call, hstep]

end

/-! ## One delivery -/

def sampleSite : Str := str "site-a"

def sampleManager : Principal := ⟨str "organization-1", [.enrollmentManage]⟩

def sampleOpening : Request := .openInvitation sampleManager sampleInvitation sampleSite sampleNow

def sampleSited : EnrollmentState := { sampleOpened with deploymentSiteLabel := sampleSite }

theorem openEnrollment_sampleSite :
    @openEnrollment Unicode.ascii sampleInvitation sampleNow sampleSite = .ok sampleSited := by
  let _ := Unicode.ascii
  obtain ⟨hvalid, hfresh, ⟨instant, htime⟩, -⟩ := openEnrollment_spec openEnrollment_sample
  unfold openEnrollment
  rw [except_bind_of_ok hvalid, except_bind_of_ok hfresh,
    except_bind_of_ok (parseTs_eq_ok_iff.mpr htime)]
  rfl

/-- What the opening leaves. -/
theorem served_sampleOpening : ∃ (record : @Record Unicode.ascii) (shadow : Int) (db : EnrollmentDb),
    @EnrollmentDb.served Unicode.ascii EnrollmentDb.empty [sampleOpening] = db ∧
      @Created Unicode.ascii EnrollmentDb.empty record shadow db ∧
        @Record.head Unicode.ascii record = sampleSited ∧
          @Record.organizationId Unicode.ascii record = sampleManager.organizationId := by
  let _ := Unicode.ascii
  have hlabel : isDeploymentSiteLabel sampleSite = true := by with_unfolding_all decide
  have hexpires : (parseCanonicalUtc sampleInvitation.expiresAt).isSome = true := by with_unfolding_all decide
  obtain ⟨shadow, hexpires⟩ := Option.isSome_iff_exists.mp hexpires
  obtain ⟨db, hcreate⟩ := @exists_createInvitationAndOpen _ EnrollmentDb.empty
    sampleManager.organizationId sampleSite sampleNow _ _ shadow openEnrollment_sampleSite hexpires
    (List.forall_mem_nil _) (List.forall_mem_nil _) (List.forall_mem_nil _)
  obtain ⟨record, shadow', hcreated, hloaded, -⟩ := created_of_createInvitationAndOpen hcreate hlabel
  refine ⟨record, shadow', db, ?_, hcreated, ?_, ?_⟩
  · have hserve : sampleOpening.serve EnrollmentDb.empty = .ok (some ⟨sampleSited, 0, false⟩, db) := by
      have hrefusal : deploymentSiteLabelRefusal sampleSite = none := of_decide_eq_true hlabel
      have hmanage : sampleManager.require .enrollmentManage = .ok () := rfl
      unfold sampleOpening Request.serve openInvitation
      dsimp only
      rw [except_bind_of_ok hmanage, hrefusal]
      dsimp only
      rw [except_bind_of_ok (surfaced_eq_ok_iff.mpr hcreate)]
      rfl
    exact served_singleton hserve
  · exact (congrArg LoadedEnrollment.state hloaded).symm
  · exact (congrArg LoadedEnrollment.organizationId hloaded).symm

def sampleBinding : StepRequest where
  actor := .verified (str "organization-1")
  enrollmentId := sampleInvitation.digest
  input := .bindWorkerIdentity (str "worker-01") (sampleDigest '2') (str "transaction-1")
  now := sampleNow
  expectedRevision := 0
  claimed := none

/-- The binding again, later and with a revision that is long past. -/
def sampleRetry : StepRequest where
  actor := .verified (str "organization-1")
  enrollmentId := sampleInvitation.digest
  input := .bindWorkerIdentity (str "worker-01") (sampleDigest '2') (str "transaction-1")
  now := str "2031-01-01T00:00:00Z"
  expectedRevision := 7
  claimed := none

/-- The history in between: the operator revokes the enrollment. -/
def sampleRevocation : List Request :=
  [.revokeEnrollment sampleManager sampleInvitation.digest 1 none]

theorem delayed_retry_sample : ∃ outcome db,
    @StepRequest.serve Unicode.ascii sampleBinding
      (@EnrollmentDb.served Unicode.ascii EnrollmentDb.empty [sampleOpening]) = .ok (outcome, db) ∧
    outcome.deduplicated = false ∧
    @StepRequest.serve Unicode.ascii sampleRetry
      (@EnrollmentDb.served Unicode.ascii db sampleRevocation) =
        .ok (⟨outcome.state, outcome.committedRevision, true⟩,
          @EnrollmentDb.served Unicode.ascii db sampleRevocation) := by
  let _ := Unicode.ascii
  obtain ⟨record, shadow, opened, hopened, hcreated, hhead, horganization⟩ := served_sampleOpening
  have hheld : Holds opened record shadow := hcreated.holds consistent_empty
  have hid : record.id = sampleInvitation.digest := by
    have hsame : record.head.enrollmentId = record.id := record.lawful.enrollmentId
    rw [← hsame, hhead]
    rfl
  have hdue : Due opened record sampleBinding := by
    refine ⟨hid, ⟨horganization.symm, rfl⟩, rfl, by rw [hhead]; rfl, ?_, ?_⟩
    · rw [hcreated.receipts]
      exact List.forall_mem_nil _
    · intro hstep i hi hsame
      rw [hcreated.invitations] at hi
      rw [List.mem_singleton.mp hi]
      exact ⟨rfl, rfl⟩
  have hbound : ((sampleBinding.input.call sampleBinding.now).apply sampleSited).toOption.any
      (fun state => state.state = .workerBound) = true := by decide +kernel
  obtain ⟨state, happly, hstate⟩ := exists_of_toOption_any hbound
  have hne : state ≠ sampleSited := by
    rintro rfl
    cases of_decide_eq_true hstate
  rw [← hhead] at happly hne
  obtain ⟨db, hserve⟩ := hdue.serve hheld happly hne
  rw [← hopened] at hserve
  exact ⟨_, db, hserve, rfl,
    (delayed_retry hserve rfl sampleRevocation).1 sampleRetry ⟨rfl, rfl, rfl, rfl, rfl⟩⟩

end Secp.Enrollment
