import Mathlib.Logic.Relation
import Secp.Enrollment.Service
import Secp.Enrollment.Writes

/-!
# What a request does

A step is served from a receipt, repeats what the head shows already, or commits the one edge it is for.
Whatever a request does, it does by writes, so over any history the tables stay consistent and what is
held only grows.
-/

namespace Secp.Enrollment

open Secp.Python Secp.Logic

section
variable [Unicode] {db db' : EnrollmentDb} {record : Record} {shadow : Int}
  {loaded : LoadedEnrollment} {organizationId enrollmentId : Str} {claimed : Option ClaimedScope}

omit [Unicode] in
theorem surfaced_eq_ok_iff {α : Type} {error : ServiceError} {result : Except StoreError α} {a : α} :
    surfaced error result = .ok a ↔ result = .ok a := by
  cases result with
  | ok b => simp [surfaced]
  | error e =>
      rcases e with code | (code | reason) | _ | _ <;> simp [surfaced]

omit [Unicode] in
theorem runPure_eq_ok_iff {α : Type} {result : Except ContractError α} {a : α} :
    runPure result = .ok a ↔ result = .ok a :=
  surfaced_eq_ok_iff.trans viaContract_eq_ok_iff

/-! ## Loading -/

/-- An enrollment that loads is a held record. -/
theorem exists_of_buildLoaded (hdb : Consistent db) {row : StateRow} (hrow : row ∈ db.states)
    (h : buildLoaded db row = .ok loaded) : ∃ record shadow, record.id = row.enrollmentId ∧
      Holds db record shadow ∧ loaded = record.loaded := by
  obtain ⟨record, shadow, hid, hheld⟩ := hdb.states row hrow
  refine ⟨record, shadow, hid, hheld, ?_⟩
  have hload := hheld.load
  unfold loadForUpdate at hload
  rw [hheld.getState, ← hheld.eq_of_id hrow hid.symm] at hload
  dsimp only at hload
  rw [except_bind_of_ok h] at hload
  exact Option.some.inj (Except.ok.inj hload)

theorem exists_of_loadForUpdate (hdb : Consistent db)
    (h : loadForUpdate db enrollmentId = .ok (some loaded)) : ∃ record shadow,
      record.id = enrollmentId ∧ Holds db record shadow ∧ loaded = record.loaded := by
  unfold loadForUpdate at h
  split at h
  · cases h
  · next row hrow =>
      obtain ⟨entry, hentry, h⟩ := except_bind_eq_ok.mp h
      cases h
      have hfound : db.states.find? (fun row => row.enrollmentId = enrollmentId) = some row := hrow
      have hid : row.enrollmentId = enrollmentId := by simpa using List.find?_some hfound
      obtain ⟨record, shadow, hrecord, hheld, heq⟩ :=
        exists_of_buildLoaded hdb (List.mem_of_find?_eq_some hrow) hentry
      exact ⟨record, shadow, hrecord.trans hid, hheld, heq⟩

omit [Unicode] in
theorem mem_of_scalarOneOrNone {α : Type} {p : α → Bool} {rows : List α} {row : α}
    (h : scalarOneOrNone (rows.filter p) = .ok (some row)) : row ∈ rows := by
  have hone : rows.filter p = [row] := by
    revert h
    rcases rows.filter p with _ | ⟨first, _ | ⟨second, rest⟩⟩ <;> simp [scalarOneOrNone]
  exact List.mem_of_mem_filter (hone ▸ List.mem_singleton_self row)

/-- An actor of the organization, with claims that are true. -/
def Admits (record : Record) (organizationId : Str) (claimed : Option ClaimedScope) : Prop :=
  organizationId = record.organizationId ∧ checkScope record.loaded claimed = .ok ()

theorem loadAuthorized_eq_ok (hheld : Holds db record shadow)
    (hadmits : Admits record organizationId claimed) :
    loadAuthorized db organizationId record.id claimed = .ok record.loaded := by
  unfold loadAuthorized
  rw [except_bind_of_ok (surfaced_eq_ok_iff.mpr hheld.load)]
  refine except_unit_bind_eq_ok.mpr ⟨ensure_eq_ok_iff.mpr (decide_eq_true hadmits.1), ?_⟩
  refine except_unit_bind_eq_ok.mpr ⟨hadmits.2, ?_⟩
  exact except_unit_bind_eq_ok.mpr ⟨surfaced_eq_ok_iff.mpr hheld.verified, rfl⟩

theorem exists_of_loadAuthorized (hdb : Consistent db)
    (h : loadAuthorized db organizationId enrollmentId claimed = .ok loaded) : ∃ record shadow,
      record.id = enrollmentId ∧ Holds db record shadow ∧ loaded = record.loaded ∧
        Admits record organizationId claimed := by
  unfold loadAuthorized at h
  obtain ⟨entry, hentry, h⟩ := except_bind_eq_ok.mp h
  split at h
  · cases h
  · next found =>
      obtain ⟨record, shadow, hid, hheld, rfl⟩ :=
        exists_of_loadForUpdate hdb (surfaced_eq_ok_iff.mp hentry)
      obtain ⟨horganization, h⟩ := except_unit_bind_eq_ok.mp h
      obtain ⟨hscope, h⟩ := except_unit_bind_eq_ok.mp h
      obtain ⟨-, h⟩ := except_unit_bind_eq_ok.mp h
      cases h
      exact ⟨record, shadow, hid, hheld, rfl,
        of_decide_eq_true (ensure_eq_ok_iff.mp horganization), hscope⟩

theorem Record.faithful (record : Record) : record.loaded.Faithful := ⟨rfl, rfl⟩

/-- An edge of a record is committed by one write. -/
theorem write_of_commit {call : Call} {newState : EnrollmentState} {step : Option Step}
    {digest : Option Str} (hheld : Holds db record shadow)
    (heffect : Effect record.head call newState)
    (h : commitTransition db record.loaded newState step digest = .ok db') : Write db db' :=
  .committed hheld List.mem_cons_self record.faithful heffect h

/-- A call that returns another state takes its edge. -/
theorem effect_of_apply_ne {state state' : EnrollmentState} {call : Call}
    (h : call.apply state = .ok state') (hne : state' ≠ state) : Effect state call state' :=
  (apply_spec h).resolve_left fun hsame => hne hsame.1

/-! ## Steps -/

omit [Unicode] in
def StepInput.payload : StepInput → List (Str × Json)
  | bindWorkerIdentity workerInstallationId workerKeyId transactionId => [
      (str "worker_installation_id", .str workerInstallationId),
      (str "worker_key_id", .str workerKeyId), (str "transaction_id", .str transactionId)]
  | recordControllerOffer facts => handoffPayload facts
  | recordWorkerResult facts => handoffPayload facts
  | markVerified releaseDigest => [(str "release_digest", .str releaseDigest)]
  | markHealthy => []

omit [Unicode] in
/-- What the receipt of a step names its input by. -/
def StepInput.digest (input : StepInput) : Str := inputDigest input.step input.payload

omit [Unicode] in
/-- The transition of a step. -/
def StepInput.call (now : Str) : StepInput → Call
  | bindWorkerIdentity workerInstallationId workerKeyId transactionId =>
      .bindWorkerIdentity workerInstallationId workerKeyId transactionId now
  | recordControllerOffer facts => .recordControllerOffer facts now
  | recordWorkerResult facts => .recordWorkerResult facts now
  | markVerified releaseDigest => .markVerified releaseDigest now
  | markHealthy => .markHealthy now

/-- What a delivered step does to the record it is for. -/
inductive Served (db : EnrollmentDb) (record : Record) (request : StepRequest) :
    TransitionOutcome → EnrollmentDb → Prop where
  | receipt {outcome : TransitionOutcome} (h : serveReceipt db record.loaded request.input.step
      request.input.digest = .ok (some outcome)) : Served db record request outcome db
  | repeated {db' : EnrollmentDb} (h : ensureReceipt db record.loaded request.input.step
      request.input.digest = .ok db') :
      Served db record request ⟨record.head, record.head.revision, true⟩ db'
  | committed {ready db' : EnrollmentDb} {newState : EnrollmentState}
      (hready : ready = db ∨ consumeInvitation db record.id = .ok ready)
      (heffect : Effect record.head (request.input.call request.now) newState)
      (h : commitTransition ready record.loaded newState (some request.input.step)
        (some request.input.digest) = .ok db') :
      Served db record request ⟨newState, newState.revision, false⟩ db'

variable {request : StepRequest} {outcome : TransitionOutcome}

theorem served_of_bindWorker (hdb : Consistent db)
    {workerInstallationId workerKeyId transactionId : Str}
    (hinput : request.input =
      .bindWorkerIdentity workerInstallationId workerKeyId transactionId)
    (h : request.serve db = .ok (outcome, db')) : ∃ record shadow,
      record.id = request.enrollmentId ∧ Holds db record shadow ∧
        Admits record request.actor.organizationId request.claimed ∧
          Served db record request outcome db' := by
  unfold StepRequest.serve at h
  rw [hinput] at h
  dsimp only at h
  unfold bindWorker at h
  dsimp only at h
  obtain ⟨-, h⟩ := except_unit_bind_eq_ok.mp h
  obtain ⟨loaded, hloaded, h⟩ := except_bind_eq_ok.mp h
  obtain ⟨record, shadow, hid, hheld, rfl, hadmits⟩ := exists_of_loadAuthorized hdb hloaded
  refine ⟨record, shadow, hid, hheld, hadmits, ?_⟩
  obtain ⟨receipt, hreceipt, h⟩ := except_bind_eq_ok.mp h
  have hdigest : inputDigest .bindWorkerIdentity [
      (str "worker_installation_id", .str workerInstallationId),
      (str "worker_key_id", .str workerKeyId), (str "transaction_id", .str transactionId)] =
        request.input.digest := by
    rw [hinput]
    rfl
  have hstep : Step.bindWorkerIdentity = request.input.step := by
    rw [hinput]
    rfl
  rw [hdigest, hstep] at hreceipt h
  split at h
  · cases h
    exact .receipt hreceipt
  · obtain ⟨-, h⟩ := except_unit_bind_eq_ok.mp h
    obtain ⟨invitation, hinvitation, h⟩ := except_bind_eq_ok.mp h
    split at h
    · cases h
    · simp only [except_unit_bind_eq_ok] at h
      obtain ⟨-, -, -, -, h⟩ := h
      obtain ⟨newState, hnew, h⟩ := except_bind_eq_ok.mp h
      split at h
      · obtain ⟨ensured, hensured, h⟩ := except_bind_eq_ok.mp h
        cases h
        exact .repeated hensured
      · next hne =>
          obtain ⟨ready, hready, h⟩ := except_bind_eq_ok.mp h
          obtain ⟨committed, hcommitted, h⟩ := except_bind_eq_ok.mp h
          cases h
          have heffect : Effect record.head (request.input.call request.now) newState := by
            rw [hinput]
            exact effect_of_apply_ne (runPure_eq_ok_iff.mp hnew) hne
          refine .committed (.inr ?_) heffect (surfaced_eq_ok_iff.mp hcommitted)
          rw [hid]
          exact surfaced_eq_ok_iff.mp hready

theorem served_of_advanceStep (hdb : Consistent db) {step : Step} {payload : List (Str × Json)}
    {transition : EnrollmentState → Except ContractError EnrollmentState}
    (hstep : request.input.step = step) (hpayload : request.input.payload = payload)
    (htransition : ∀ state, transition state = (request.input.call request.now).apply state)
    (h : advanceStep db request.actor request.enrollmentId step payload transition
      request.expectedRevision request.claimed = .ok (outcome, db')) : ∃ record shadow,
      record.id = request.enrollmentId ∧ Holds db record shadow ∧
        Admits record request.actor.organizationId request.claimed ∧
          Served db record request outcome db' := by
  subst hstep hpayload
  unfold advanceStep at h
  dsimp only at h
  obtain ⟨-, h⟩ := except_unit_bind_eq_ok.mp h
  obtain ⟨loaded, hloaded, h⟩ := except_bind_eq_ok.mp h
  obtain ⟨record, shadow, hid, hheld, rfl, hadmits⟩ := exists_of_loadAuthorized hdb hloaded
  refine ⟨record, shadow, hid, hheld, hadmits, ?_⟩
  obtain ⟨receipt, hreceipt, h⟩ := except_bind_eq_ok.mp h
  split at h
  · cases h
    exact .receipt hreceipt
  · obtain ⟨-, h⟩ := except_unit_bind_eq_ok.mp h
    obtain ⟨newState, hnew, h⟩ := except_bind_eq_ok.mp h
    split at h
    · obtain ⟨ensured, hensured, h⟩ := except_bind_eq_ok.mp h
      cases h
      exact .repeated hensured
    · next hne =>
        obtain ⟨committed, hcommitted, h⟩ := except_bind_eq_ok.mp h
        cases h
        have hnew := runPure_eq_ok_iff.mp hnew
        rw [htransition] at hnew
        exact .committed (.inl rfl) (effect_of_apply_ne hnew hne) (surfaced_eq_ok_iff.mp hcommitted)

/-- What a step does that returns. -/
theorem served_of_serve (hdb : Consistent db) (h : request.serve db = .ok (outcome, db')) :
    ∃ record shadow, record.id = request.enrollmentId ∧ Holds db record shadow ∧
      Admits record request.actor.organizationId request.claimed ∧
        Served db record request outcome db' := by
  cases hinput : request.input with
  | bindWorkerIdentity workerInstallationId workerKeyId transactionId =>
      exact served_of_bindWorker hdb hinput h
  | recordControllerOffer facts =>
      unfold StepRequest.serve at h
      rw [hinput] at h
      exact served_of_advanceStep hdb (by rw [hinput]; rfl) (by rw [hinput]; rfl)
        (fun state => by rw [hinput]; rfl) h
  | recordWorkerResult facts =>
      unfold StepRequest.serve at h
      rw [hinput] at h
      exact served_of_advanceStep hdb (by rw [hinput]; rfl) (by rw [hinput]; rfl)
        (fun state => by rw [hinput]; rfl) h
  | markVerified releaseDigest =>
      unfold StepRequest.serve at h
      rw [hinput] at h
      exact served_of_advanceStep hdb (by rw [hinput]; rfl) (by rw [hinput]; rfl)
        (fun state => by rw [hinput]; rfl) h
  | markHealthy =>
      unfold StepRequest.serve at h
      rw [hinput] at h
      exact served_of_advanceStep hdb (by rw [hinput]; rfl) (by rw [hinput]; rfl)
        (fun state => by rw [hinput]; rfl) h

/-! ## Histories -/

/-- The tables are changed by writes. -/
abbrev Writes : EnrollmentDb → EnrollmentDb → Prop := Relation.ReflTransGen Write

theorem holds_of_ready {ready : EnrollmentDb}
    (hready : ready = db ∨ consumeInvitation db enrollmentId = .ok ready)
    (hheld : Holds db record shadow) : Holds ready record shadow := by
  rcases hready with rfl | hready
  · exact hheld
  · exact holds_of_consumeInvitation hready hheld

theorem Served.writes (hheld : Holds db record shadow) (h : Served db record request outcome db') :
    Writes db db' := by
  cases h with
  | receipt h => exact .refl
  | repeated h =>
      unfold ensureReceipt at h
      obtain ⟨found, -, h⟩ := except_bind_eq_ok.mp h
      split at h
      · cases h
        exact .refl
      · exact .single (.receipted (surfaced_eq_ok_iff.mp h))
  | committed hready heffect h =>
      have hwrite := write_of_commit (holds_of_ready hready hheld) heffect h
      rcases hready with rfl | hready
      · exact .single hwrite
      · exact .tail (.single (.consumed hready)) hwrite

theorem writes_of_commit {call : Call} {newState : EnrollmentState}
    (hheld : Holds db record shadow) (happly : call.apply record.head = .ok newState)
    (hne : newState ≠ record.head) {error : ServiceError}
    (h : surfaced error (commitTransition db record.loaded newState none none) = .ok db') :
    Writes db db' :=
  .single (write_of_commit hheld (effect_of_apply_ne happly hne) (surfaced_eq_ok_iff.mp h))

theorem writes_of_lifecycle (hdb : Consistent db) {actor : Principal} {call : Call}
    {target : EnrollmentPhase} {reason : Str} {expected : ExpectedRevision}
    (h : lifecycle db actor enrollmentId call.apply target reason expected claimed =
      .ok (outcome, db')) : Writes db db' := by
  unfold lifecycle at h
  obtain ⟨-, h⟩ := except_unit_bind_eq_ok.mp h
  obtain ⟨loaded, hloaded, h⟩ := except_bind_eq_ok.mp h
  obtain ⟨record, shadow, -, hheld, rfl, -⟩ := exists_of_loadAuthorized hdb hloaded
  obtain ⟨served, -, h⟩ := except_bind_eq_ok.mp h
  split at h
  · cases h
    exact .refl
  · obtain ⟨-, h⟩ := except_unit_bind_eq_ok.mp h
    obtain ⟨newState, hnew, h⟩ := except_bind_eq_ok.mp h
    split at h
    · cases h
      exact .refl
    · next hne =>
        obtain ⟨committed, hcommitted, h⟩ := except_bind_eq_ok.mp h
        cases h
        exact writes_of_commit hheld (runPure_eq_ok_iff.mp hnew) hne hcommitted

theorem writes_of_endByOperator (hdb : Consistent db) {actor : Principal} {call : Call}
    {expectedRevision : Int}
    (h : endByOperator db actor enrollmentId call.apply expectedRevision claimed =
      .ok (outcome, db')) : Writes db db' := by
  unfold endByOperator at h
  dsimp only at h
  obtain ⟨-, h⟩ := except_unit_bind_eq_ok.mp h
  obtain ⟨loaded, hloaded, h⟩ := except_bind_eq_ok.mp h
  obtain ⟨record, shadow, -, hheld, rfl, -⟩ := exists_of_loadAuthorized hdb hloaded
  split at h
  · cases h
    exact .refl
  · obtain ⟨-, h⟩ := except_unit_bind_eq_ok.mp h
    obtain ⟨newState, hnew, h⟩ := except_bind_eq_ok.mp h
    split at h
    · cases h
      exact .refl
    · next hne =>
        obtain ⟨committed, hcommitted, h⟩ := except_bind_eq_ok.mp h
        cases h
        exact writes_of_commit hheld (runPure_eq_ok_iff.mp hnew) hne hcommitted

theorem writes_of_recoverOne (hdb : Consistent db) {now : Str} {swept : Option EnrollmentDb}
    (h : recoverOne db organizationId enrollmentId now = .ok swept) : Writes db (swept.getD db) := by
  unfold recoverOne at h
  obtain ⟨candidate, hcandidate, h⟩ := except_bind_eq_ok.mp h
  split at h
  · cases h
    exact .refl
  · next loaded =>
      have hcandidate := surfaced_eq_ok_iff.mp hcandidate
      unfold lockAndLoadSweepCandidate at hcandidate
      obtain ⟨found, hfound, hcandidate⟩ := except_bind_eq_ok.mp hcandidate
      split at hcandidate
      · cases hcandidate
      · next row =>
          obtain ⟨entry, hentry, hcandidate⟩ := except_bind_eq_ok.mp hcandidate
          cases hcandidate
          have hrow : row ∈ db.states := mem_of_scalarOneOrNone hfound
          obtain ⟨record, shadow, -, hheld, rfl⟩ := exists_of_buildLoaded hdb hrow hentry
          obtain ⟨revoked, -, h⟩ := except_bind_eq_ok.mp h
          split at h
          · cases h
            exact .refl
          · obtain ⟨-, h⟩ := except_unit_bind_eq_ok.mp h
            obtain ⟨due, -, h⟩ := except_bind_eq_ok.mp h
            split at h
            · obtain ⟨newState, hnew, h⟩ := except_bind_eq_ok.mp h
              split at h
              · cases h
                exact .refl
              · next hne =>
                  obtain ⟨committed, hcommitted, h⟩ := except_bind_eq_ok.mp h
                  cases h
                  have happly : (Call.requireRecovery (str "expiry_recovery")).apply record.head =
                      .ok newState := runPure_eq_ok_iff.mp hnew
                  exact writes_of_commit hheld happly hne hcommitted
            · cases h
              exact .refl

theorem writes_of_openInvitation {actor : Principal} {invitation : WorkerEnrollmentInvitation}
    {label now : Str} (h : openInvitation db actor invitation label now = .ok (outcome, db')) :
    Writes db db' := by
  unfold openInvitation at h
  obtain ⟨-, h⟩ := except_unit_bind_eq_ok.mp h
  split at h
  · cases h
  · next hlabel =>
      obtain ⟨⟨loaded, created⟩, hcreated, h⟩ := except_bind_eq_ok.mp h
      cases h
      exact .single (.created (surfaced_eq_ok_iff.mp hcreated) (decide_eq_true hlabel))

/-- What a request does is done by writes. -/
theorem writes_of_serve (hdb : Consistent db) {request : Request} {result : Option TransitionOutcome}
    (h : request.serve db = .ok (result, db')) : Writes db db' := by
  have hmap : ∀ {response : Except ServiceError (TransitionOutcome × EnrollmentDb)},
      response.map (Prod.map some id) = .ok (result, db') → ∃ outcome,
        response = .ok (outcome, db') := by
    intro response hresponse
    cases response with
    | error e => cases hresponse
    | ok pair =>
        cases hresponse
        exact ⟨pair.1, rfl⟩
  cases request with
  | openInvitation actor invitation label now =>
      obtain ⟨outcome, h⟩ := hmap h
      exact writes_of_openInvitation h
  | step request =>
      obtain ⟨outcome, h⟩ := hmap h
      obtain ⟨record, shadow, -, hheld, -, hserved⟩ := served_of_serve hdb h
      exact hserved.writes hheld
  | refuseEnrollment actor enrollmentId reason expected claimed =>
      obtain ⟨outcome, h⟩ := hmap h
      exact @writes_of_lifecycle _ _ _ _ _ _ hdb actor (.refuse reason) _ _ _ h
  | recoverEnrollment actor enrollmentId reason expected claimed =>
      obtain ⟨outcome, h⟩ := hmap h
      exact @writes_of_lifecycle _ _ _ _ _ _ hdb actor (.requireRecovery reason) _ _ _ h
  | revokeEnrollment actor enrollmentId expectedRevision claimed =>
      obtain ⟨outcome, h⟩ := hmap h
      exact @writes_of_endByOperator _ _ _ _ _ _ hdb actor (.refuse (str "operator_revoked")) _ h
  | markRecoveryRequired actor enrollmentId expectedRevision claimed =>
      obtain ⟨outcome, h⟩ := hmap h
      exact @writes_of_endByOperator _ _ _ _ _ _ hdb actor
        (.requireRecovery (str "operator_recovery_required")) _ h
  | recoverOne organizationId enrollmentId now =>
      cases hswept : recoverOne db organizationId enrollmentId now with
      | error e =>
          rw [Request.serve, hswept] at h
          cases h
      | ok swept =>
          rw [Request.serve, hswept] at h
          cases h
          exact writes_of_recoverOne hdb hswept

theorem writes_after (hdb : Consistent db) (request : Request) : Writes db (db.after request) := by
  unfold EnrollmentDb.after
  split
  · next h => exact writes_of_serve hdb h
  · exact .refl

theorem Writes.consistent (h : Writes db db') (hdb : Consistent db) : Consistent db' := by
  induction h with
  | refl => exact hdb
  | tail hwrites hwrite ih => exact hwrite.consistent ih

/-- What is held is held on over any history. -/
theorem Writes.keeps (h : Writes db db') (hheld : Holds db record shadow) :
    ∃ record', record.Extends record' ∧ Holds db' record' shadow := by
  induction h with
  | refl => exact ⟨record, .refl _, hheld⟩
  | tail hwrites hwrite ih =>
      obtain ⟨middle, hextends, hmiddle⟩ := ih
      obtain ⟨record', hextends', hheld'⟩ := hwrite.keeps hmiddle
      exact ⟨record', hextends.trans hextends', hheld'⟩

theorem served_singleton {request : Request} {result : Option TransitionOutcome}
    (h : request.serve db = .ok (result, db')) : db.served [request] = db' := by
  show db.after request = db'
  unfold EnrollmentDb.after
  rw [h]

theorem writes_served (hdb : Consistent db) (requests : List Request) :
    Writes db (db.served requests) := by
  induction requests generalizing db with
  | nil => exact .refl
  | cons request rest ih =>
      have hwrites := writes_after hdb request
      exact hwrites.trans (ih (hwrites.consistent hdb))

/-- Every history leaves consistent tables. -/
theorem consistent_served (requests : List Request) :
    Consistent (EnrollmentDb.empty.served requests) :=
  (writes_served consistent_empty requests).consistent consistent_empty

/-! ## Steps that are due -/

/-- What lets a step through: an actor who may take it, the revision it expects, an input without a
receipt, and for a bind an invitation that is still open. -/
structure Due (db : EnrollmentDb) (record : Record) (request : StepRequest) : Prop where
  enrollmentId : record.id = request.enrollmentId
  admits : Admits record request.actor.organizationId request.claimed
  progress : requireProgress request.actor = .ok ()
  expectedRevision : request.expectedRevision = record.head.revision
  receipts : ∀ r ∈ db.receipts, ¬(r.enrollmentId = record.id ∧ r.step = request.input.step ∧
    r.inputDigest = request.input.digest)
  invitation : request.input.step = .bindWorkerIdentity → ∀ i ∈ db.invitations,
    i.enrollmentId = record.id → i.consumed = false ∧ i.revoked = false

theorem Due.serveReceipt (h : Due db record request) :
    serveReceipt db record.loaded request.input.step request.input.digest = .ok none := by
  have hid : record.loaded.state.enrollmentId = record.id := record.lawful.enrollmentId
  have hnone : findReceipt db record.id request.input.step request.input.digest = .ok none := by
    unfold findReceipt
    rw [List.filter_eq_nil_iff.mpr]
    · rfl
    · intro r hr hsame
      simp only [Bool.and_eq_true, decide_eq_true_eq, and_assoc] at hsame
      exact h.receipts r hr hsame
  unfold Enrollment.serveReceipt
  rw [hid, except_bind_of_ok (surfaced_eq_ok_iff.mpr hnone)]
  rfl

theorem Due.loadAuthorized (h : Due db record request) (hheld : Holds db record shadow) :
    loadAuthorized db request.actor.organizationId request.enrollmentId request.claimed =
      .ok record.loaded := by
  rw [← h.enrollmentId]
  exact loadAuthorized_eq_ok hheld h.admits

theorem Due.verifyExpected (h : Due db record request) :
    verifyExpectedRevision record.loaded request.expectedRevision = .ok () :=
  ensure_eq_ok_iff.mpr (decide_eq_true h.expectedRevision)

theorem Due.exists_commit (h : Due db record request) {ready : EnrollmentDb}
    (hheld : Holds ready record shadow) (hreceipts : ready.receipts = db.receipts) {call : Call}
    {newState : EnrollmentState} (heffect : Effect record.head call newState) :
    ∃ db', commit ready record.loaded newState (some request.input.step)
      (some request.input.digest) = .ok db' := by
  have hfresh : ∀ r ∈ ready.receipts, ¬(r.enrollmentId = record.head.enrollmentId ∧
      r.step = request.input.step ∧ r.inputDigest = request.input.digest) := by
    rw [hreceipts, record.lawful.enrollmentId]
    exact h.receipts
  obtain ⟨db', hcommit⟩ := exists_commitTransition hheld heffect hfresh
  exact ⟨db', surfaced_eq_ok_iff.mpr hcommit⟩

theorem Due.advanceStep (h : Due db record request) (hheld : Holds db record shadow)
    {newState : EnrollmentState} {step : Step} {payload : List (Str × Json)}
    {transition : EnrollmentState → Except ContractError EnrollmentState}
    (hstep : request.input.step = step) (hpayload : request.input.payload = payload)
    (happly : transition record.head = .ok newState)
    (heffect : Effect record.head (request.input.call request.now) newState) : ∃ db',
      advanceStep db request.actor request.enrollmentId step payload transition
        request.expectedRevision request.claimed = .ok (⟨newState, newState.revision, false⟩, db') := by
  subst hstep hpayload
  obtain ⟨db', hcommit⟩ := h.exists_commit hheld rfl heffect
  refine ⟨db', ?_⟩
  unfold Enrollment.advanceStep
  dsimp only
  rw [except_bind_of_ok h.progress, except_bind_of_ok (h.loadAuthorized hheld)]
  refine (except_bind_of_ok h.serveReceipt).trans ?_
  dsimp only
  rw [except_bind_of_ok h.verifyExpected]
  refine (except_bind_of_ok (runPure_eq_ok_iff.mpr happly)).trans ?_
  refine (if_neg heffect.ne).trans ?_
  exact (except_bind_of_ok hcommit).trans rfl

omit [Unicode] in
theorem assertInvitationUnexpired_of_timely {invitation : InvitationRow} {now : Str}
    (h : Timely invitation.expiresAt now) : assertInvitationUnexpired invitation now = .ok () := by
  obtain ⟨instant, expires, hinstant, hexpires, hlt⟩ := h
  have hnow : parseCanonicalUtc now = some instant := readUtc_mono (by decide) hinstant
  have hend : parseCanonicalUtc invitation.expiresAt = some expires :=
    readUtc_mono (by decide) hexpires
  unfold assertInvitationUnexpired
  rw [hnow]
  dsimp only
  rw [hend]
  exact ensure_eq_ok_iff.mpr (decide_eq_true hlt)

omit [Unicode] in
/-- An open invitation can be consumed, once. -/
theorem exists_consumeInvitation {row : InvitationRow}
    (hrow : (db.invitations.filter fun i => i.enrollmentId = enrollmentId) = [row])
    (hopen : row.consumed = false ∧ row.revoked = false) :
    ∃ ready, consumeInvitation db enrollmentId = .ok ready ∧ ready.receipts = db.receipts := by
  have hone : db.invitations.filter (fun i => i.enrollmentId = enrollmentId && !i.consumed &&
      !i.revoked) = [row] := by
    have hsplit : (fun i : InvitationRow => decide (i.enrollmentId = enrollmentId) && !i.consumed &&
        !i.revoked) = fun i => (!i.consumed && !i.revoked) && decide (i.enrollmentId = enrollmentId) := by
      funext i
      rw [Bool.and_assoc, Bool.and_comm]
    rw [hsplit, ← List.filter_filter, hrow]
    exact List.filter_cons_of_pos (by rw [hopen.1, hopen.2]; rfl)
  unfold consumeInvitation
  dsimp only
  rw [hone]
  exact ⟨_, rfl, rfl⟩

theorem Due.bindWorker (h : Due db record request) (hheld : Holds db record shadow)
    {newState : EnrollmentState} {workerInstallationId workerKeyId transactionId : Str}
    (hinput : request.input = .bindWorkerIdentity workerInstallationId workerKeyId transactionId)
    (happly : (request.input.call request.now).apply record.head = .ok newState)
    (heffect : Effect record.head (request.input.call request.now) newState) : ∃ db',
      request.serve db = .ok (⟨newState, newState.revision, false⟩, db') := by
  obtain ⟨row, hrow, hinvitation⟩ := hheld.invitation
  have hmem : row ∈ db.invitations ∧ row.enrollmentId = record.id := by
    have hfilter := List.mem_filter.mp (hrow ▸ List.mem_singleton_self row)
    exact ⟨hfilter.1, of_decide_eq_true hfilter.2⟩
  have hopen := h.invitation (by rw [hinput]; rfl) row hmem.1 hmem.2
  obtain ⟨ready, hready, hreceipts⟩ := exists_consumeInvitation hrow hopen
  obtain ⟨db', hcommit⟩ :=
    h.exists_commit (holds_of_consumeInvitation hready hheld) hreceipts heffect
  have htimely : Timely row.expiresAt request.now := by
    rw [show row.expiresAt = row.invitation.expiresAt from rfl, hinvitation.invitation,
      ← record.lawful.anchored.expiresAt]
    rw [hinput] at heffect
    cases heffect
    assumption
  have htransaction : row.transactionId = record.head.transactionId := by
    rw [show row.transactionId = row.invitation.transactionId from rfl, hinvitation.invitation]
    exact record.lawful.anchored.transactionId.symm
  have hserve := h.serveReceipt
  have hload : loadInvitationForUpdate db request.enrollmentId = .ok (some row) := by
    unfold loadInvitationForUpdate
    rw [← h.enrollmentId, hrow]
    rfl
  have hsame : (decide (row.enrollmentId = request.enrollmentId) &&
      decide (row.transactionId = record.loaded.state.transactionId)) = true := by
    simp only [Bool.and_eq_true, decide_eq_true_eq]
    exact ⟨hmem.2.trans h.enrollmentId, htransaction⟩
  refine ⟨db', ?_⟩
  rw [hinput] at happly hserve hcommit
  rw [h.enrollmentId] at hready
  unfold StepRequest.serve
  rw [hinput]
  dsimp only
  unfold Enrollment.bindWorker
  dsimp only
  rw [except_bind_of_ok h.progress, except_bind_of_ok (h.loadAuthorized hheld)]
  refine (except_bind_of_ok hserve).trans ?_
  dsimp only
  rw [except_bind_of_ok h.verifyExpected, except_bind_of_ok (surfaced_eq_ok_iff.mpr hload)]
  dsimp only
  rw [hopen.1, hopen.2, Bool.not_false, except_bind_of_ok (ensure_eq_ok_iff.mpr rfl),
    except_bind_of_ok (ensure_eq_ok_iff.mpr rfl),
    except_bind_of_ok (assertInvitationUnexpired_of_timely htimely),
    except_bind_of_ok (ensure_eq_ok_iff.mpr hsame)]
  refine (except_bind_of_ok (runPure_eq_ok_iff.mpr happly)).trans ?_
  refine (if_neg heffect.ne).trans ?_
  rw [except_bind_of_ok (surfaced_eq_ok_iff.mpr hready)]
  exact (except_bind_of_ok hcommit).trans rfl

/-- A step that is due is committed. -/
theorem Due.serve (h : Due db record request) (hheld : Holds db record shadow)
    {newState : EnrollmentState}
    (happly : (request.input.call request.now).apply record.head = .ok newState)
    (hne : newState ≠ record.head) : ∃ db',
      request.serve db = .ok (⟨newState, newState.revision, false⟩, db') := by
  have heffect := effect_of_apply_ne happly hne
  cases hinput : request.input with
  | bindWorkerIdentity workerInstallationId workerKeyId transactionId =>
      exact h.bindWorker hheld hinput happly heffect
  | recordControllerOffer facts =>
      unfold StepRequest.serve
      rw [hinput] at happly ⊢
      exact h.advanceStep hheld (by rw [hinput]; rfl) (by rw [hinput]; rfl) happly heffect
  | recordWorkerResult facts =>
      unfold StepRequest.serve
      rw [hinput] at happly ⊢
      exact h.advanceStep hheld (by rw [hinput]; rfl) (by rw [hinput]; rfl) happly heffect
  | markVerified releaseDigest =>
      unfold StepRequest.serve
      rw [hinput] at happly ⊢
      exact h.advanceStep hheld (by rw [hinput]; rfl) (by rw [hinput]; rfl) happly heffect
  | markHealthy =>
      unfold StepRequest.serve
      rw [hinput] at happly ⊢
      exact h.advanceStep hheld (by rw [hinput]; rfl) (by rw [hinput]; rfl) happly heffect

end

end Secp.Enrollment
