import Secp.Enrollment.Redelivery

/-!
# How a request moves the records

The tables determine the records they hold. A request leaves all records but one as they are; that one
stays where it is or goes on along edges, and what a receipt is for is always in the history.
-/

namespace Secp.Enrollment

open Secp.Python Secp.Logic

/-! ## The record of the tables -/

theorem eq_of_map_eq {α β : Type} {f : α → β} {xs ys : List α} (h : xs.map f = ys.map f)
    (hinj : ∀ x ∈ xs, ∀ y ∈ ys, f x = f y → x = y) : xs = ys := by
  induction xs generalizing ys with
  | nil => exact (List.map_eq_nil_iff.mp h.symm).symm
  | cons x xs ih =>
      cases ys with
      | nil => cases h
      | cons y ys =>
          obtain ⟨hhead, htail⟩ := List.cons.inj h
          have hxy := hinj x List.mem_cons_self y List.mem_cons_self hhead
          rw [hxy, ih htail fun a ha b hb =>
            hinj a (List.mem_cons_of_mem _ ha) b (List.mem_cons_of_mem _ hb)]

/-- A state is known from its revision, up to the label. -/
theorem revisionRow_inj {s t : EnrollmentState} (h : revisionRow s = revisionRow t)
    (hlabel : s.deploymentSiteLabel = t.deploymentSiteLabel) : s = t := by
  have hread := rehydrateRevisionSnapshot_revisionRow s
  rw [h, rehydrateRevisionSnapshot_revisionRow t] at hread
  have hsame : t.unlabelled = s.unlabelled := Except.ok.inj hread
  cases s
  cases t
  cases hlabel
  simp only [EnrollmentState.unlabelled, EnrollmentState.mk.injEq] at hsame ⊢
  grind

section
variable [Unicode] {db db' : EnrollmentDb} {record record' : Record} {shadow shadow' : Int}

/-- Records held under one id are one record. -/
theorem Holds.unique (h : Holds db record shadow) (h' : Holds db record' shadow')
    (hid : record'.id = record.id) : record' = record := by
  obtain ⟨row, hrow, hinvitation⟩ := h.invitation
  obtain ⟨row', hrow', hinvitation'⟩ := h'.invitation
  rw [hid, hrow] at hrow'
  cases hrow'
  have hhead := h'.head
  have hhistory := h'.history
  rw [hid, h.head] at hhead
  rw [hid, h.history] at hhistory
  have hrow := (List.cons.inj hhead).1
  have hlabel : record'.label = record.label := (congrArg StateRow.deploymentSiteLabel hrow).symm
  have horganization : record'.organizationId = record.organizationId :=
    (congrArg StateRow.organizationId hrow).symm
  have hsame : record'.invitation = record.invitation :=
    hinvitation'.invitation.symm.trans hinvitation.invitation
  have hstates : record.states = record'.states := by
    rw [List.map_reverse, List.map_reverse] at hhistory
    refine eq_of_map_eq (List.reverse_injective hhistory) fun s hs t ht hst => ?_
    exact revisionRow_inj hst ((record.chronicle.lawful s hs).label.trans
      (hlabel.symm.trans (record'.chronicle.lawful t ht).label.symm))
  obtain ⟨hhead, hpast⟩ := List.cons.inj hstates
  cases record
  cases record'
  cases hlabel
  cases horganization
  cases hsame
  cases hhead
  cases hpast
  rfl

/-- What the revisions show of a held record is in its states. -/
theorem Holds.exists_state (h : Holds db record shadow) {revision : RevisionRow}
    (hrevision : revision ∈ db.revisions) (hid : revision.enrollmentId = record.id) :
    ∃ s ∈ record.states, revision = revisionRow s := by
  have hmem : revision ∈ record.states.reverse.map revisionRow :=
    h.history ▸ List.mem_filter.mpr ⟨hrevision, decide_eq_true hid⟩
  obtain ⟨s, hs, hrow⟩ := List.mem_map.mp hmem
  exact ⟨s, List.mem_reverse.mp hs, hrow.symm⟩

theorem Holds.mem_revisions (h : Holds db record shadow) {s : EnrollmentState}
    (hs : s ∈ record.states) : revisionRow s ∈ db.revisions := by
  have hmem : revisionRow s ∈ db.revisions.filter fun r => r.enrollmentId = record.id := by
    rw [h.history]
    exact List.mem_map_of_mem (List.mem_reverse.mpr hs)
  exact List.mem_of_mem_filter hmem

/-- What was set at a state is set at the latest one. -/
theorem Chronicle.kept {invitation : WorkerEnrollmentInvitation} {label : Str}
    {past : List EnrollmentState} {state : EnrollmentState}
    (h : Chronicle invitation label (state :: past)) : ∀ s ∈ state :: past, Kept s state := by
  induction past generalizing state with
  | nil =>
      intro s hs
      rw [List.mem_singleton.mp hs]
      exact .refl _
  | cons previous past ih =>
      cases h with
      | moved h heffect =>
          have hshaped := (h.lawful previous List.mem_cons_self).shaped
          refine List.forall_mem_cons.mpr ⟨.refl _, fun s hs => ?_⟩
          exact (ih h s hs).trans (Kept.of_effect hshaped heffect)

theorem Record.Extends.kept (h : record.Extends record') : Kept record.head record'.head :=
  record'.chronicle.kept _ (h.states.mem List.mem_cons_self)

/-! ## Turns -/

/-- One record went on, and the others stand where they stood. -/
structure Turn (db db' : EnrollmentDb) (record record' : Record) (shadow : Int) : Prop where
  held : Holds db record shadow
  turned : Holds db' record' shadow
  extends_to : record.Extends record'
  others : ∀ {other : Record} {shadow' : Int}, other.id ≠ record.id → Holds db other shadow' →
    Holds db' other shadow'
  rows : ∀ row' ∈ db'.states, ∃ row ∈ db.states, row.enrollmentId = row'.enrollmentId
  consistent : Consistent db'

theorem Turn.refl (hdb : Consistent db) (h : Holds db record shadow) :
    Turn db db record record shadow :=
  ⟨h, h, .refl _, fun _ hother => hother, fun row hrow => ⟨row, hrow, rfl⟩, hdb⟩

theorem Turn.trans {db'' : EnrollmentDb} {record'' : Record} (h : Turn db db' record record' shadow)
    (h' : Turn db' db'' record' record'' shadow) : Turn db db'' record record'' shadow := by
  refine ⟨h.held, h'.turned, h.extends_to.trans h'.extends_to, fun hne hother => ?_, ?_,
    h'.consistent⟩
  · exact h'.others (by rw [h.extends_to.id]; exact hne) (h.others hne hother)
  · intro row'' hrow''
    obtain ⟨row', hrow', hid'⟩ := h'.rows row'' hrow''
    obtain ⟨row, hrow, hid⟩ := h.rows row' hrow'
    exact ⟨row, hrow, hid.trans hid'⟩

/-- After a turn the tables hold what was turned and what was held before. -/
theorem Turn.holds (h : Turn db db' record record' shadow) (hdb : Consistent db) {other : Record}
    (hother : Holds db' other shadow') :
    other = record' ∨ other.id ≠ record.id ∧ Holds db other shadow' := by
  by_cases hid : other.id = record.id
  · exact .inl (h.turned.unique hother (hid.trans h.extends_to.id.symm))
  · obtain ⟨row, hrow, hsame⟩ := h.rows _ hother.mem_states
    have hrowid : row.enrollmentId = other.id := hsame.trans other.lawful.enrollmentId
    obtain ⟨before, shadow'', hbefore, hheld⟩ := hdb.states row hrow
    have hkept := h.others (by rw [hbefore, hrowid]; exact hid) hheld
    have hone := hkept.unique hother (hrowid.symm.trans hbefore.symm)
    cases hone
    cases hkept.expires.symm.trans hother.expires
    exact .inr ⟨hid, hheld⟩

theorem turn_of_commit {call : Call} {newState : EnrollmentState} {step : Option Step}
    {digest : Option Str} (hdb : Consistent db) (hheld : Holds db record shadow)
    (heffect : Effect record.head call newState)
    (h : commitTransition db record.loaded newState step digest = .ok db') :
    Turn db db' record (record.moved heffect) shadow := by
  have hcommitted := committed_of_commitTransition h
  have hfaithful := record.faithful
  refine ⟨hheld, hcommitted.holds hheld rfl hfaithful heffect, record.extends_moved heffect,
    fun hne hother => hcommitted.keeps hheld rfl hfaithful heffect hother hne, ?_,
    hcommitted.consistent hdb hheld rfl hfaithful heffect⟩
  intro row' hrow'
  rw [hcommitted.states_eq hheld rfl hfaithful heffect] at hrow'
  obtain ⟨row, hrow, rfl⟩ := List.mem_map.mp hrow'
  refine ⟨row, hrow, ?_⟩
  by_cases hid : row.enrollmentId = record.id
  · rw [if_pos hid, hid]
    exact (heffect.enrollmentId.trans record.lawful.enrollmentId).symm
  · rw [if_neg hid]

theorem turn_of_consumeInvitation {enrollmentId : Str} (hdb : Consistent db)
    (hheld : Holds db record shadow) (h : consumeInvitation db enrollmentId = .ok db') :
    Turn db db' record record shadow := by
  have hconsistent := consistent_of_consumeInvitation hdb h
  have hkept : ∀ {other : Record} {shadow' : Int}, Holds db other shadow' →
      Holds db' other shadow' := fun hother => holds_of_consumeInvitation h hother
  unfold consumeInvitation at h
  obtain ⟨-, h⟩ := except_unit_bind_eq_ok.mp h
  cases h
  exact ⟨hheld, hkept hheld, .refl _, fun _ hother => hkept hother,
    fun row hrow => ⟨row, hrow, rfl⟩, hconsistent⟩

theorem turn_of_insertReceipt {receipt : ReceiptRow} (hdb : Consistent db)
    (hheld : Holds db record shadow) (h : insertReceipt db receipt = .ok db') :
    Turn db db' record record shadow := by
  have hconsistent := (Write.receipted h).consistent hdb
  obtain ⟨-, rfl⟩ := insertReceipt_eq_ok_iff.mp h
  exact ⟨hheld, ⟨hheld.1, hheld.2, hheld.3, hheld.4⟩, .refl _,
    fun _ hother => ⟨hother.1, hother.2, hother.3, hother.4⟩, fun row hrow => ⟨row, hrow, rfl⟩,
    hconsistent⟩

/-! ## Receipts -/

/-- Every receipt is for a step that the history shows. -/
def Receipted (db : EnrollmentDb) : Prop :=
  ∀ receipt ∈ db.receipts, ∃ revision ∈ db.revisions,
    revision.enrollmentId = receipt.enrollmentId ∧ revision.state = receipt.step.target

theorem Receipted.commit {call : Call} {newState : EnrollmentState} {step : Option Step}
    {digest : Option Str} (h : Receipted db) (heffect : Effect record.head call newState)
    (htarget : ∀ s, step = some s → newState.state = s.target)
    (hcommit : commitTransition db record.loaded newState step digest = .ok db') :
    Receipted db' := by
  have hcommitted := committed_of_commitTransition hcommit
  have hkept : ∀ receipt ∈ db.receipts, ∃ revision ∈ db'.revisions,
      revision.enrollmentId = receipt.enrollmentId ∧ revision.state = receipt.step.target := by
    intro receipt hreceipt
    obtain ⟨revision, hrevision, hshows⟩ := h receipt hreceipt
    rw [hcommitted.revisions]
    exact ⟨revision, List.mem_append_left _ hrevision, hshows⟩
  intro receipt hreceipt
  rcases hcommitted.receipts with ⟨-, hsame⟩ | ⟨s, digest, hs, -, -, hnew⟩
  · rw [hsame] at hreceipt
    exact hkept receipt hreceipt
  · rw [hnew] at hreceipt
    rcases List.mem_append.mp hreceipt with hreceipt | hreceipt
    · exact hkept receipt hreceipt
    · rw [List.mem_singleton.mp hreceipt]
      refine ⟨revisionRow newState, ?_, heffect.enrollmentId, htarget s hs⟩
      rw [hcommitted.revisions]
      exact List.mem_append_right _ List.mem_cons_self

omit [Unicode] in
theorem Receipted.consume {enrollmentId : Str} (h : Receipted db)
    (hconsume : consumeInvitation db enrollmentId = .ok db') : Receipted db' := by
  unfold consumeInvitation at hconsume
  obtain ⟨-, hconsume⟩ := except_unit_bind_eq_ok.mp hconsume
  cases hconsume
  exact h

/-! ## Steps -/

variable {request : StepRequest} {outcome : TransitionOutcome}

/-- What a step that returns has shown: the record was at the target before, or takes the one edge. -/
inductive Stepped (record : Record) (request : StepRequest) : TransitionOutcome → Record → Prop where
  | stayed {outcome : TransitionOutcome} {s : EnrollmentState} (hs : s ∈ record.states)
      (hstate : s.state = request.input.step.target) : Stepped record request outcome record
  | moved {newState : EnrollmentState}
      (heffect : Effect record.head (request.input.call request.now) newState) :
      Stepped record request ⟨newState, newState.revision, false⟩ (record.moved heffect)

omit [Unicode] in
/-- A call that repeats finds the state it would lead to. -/
theorem target_of_repeats {state : EnrollmentState} {input : StepInput} {now : Str}
    (h : Repeats state (input.call now)) : state.state = input.step.target := by
  cases input with
  | bindWorkerIdentity workerInstallationId workerKeyId transactionId => exact h.1
  | recordControllerOffer facts => exact h.1
  | recordWorkerResult facts => exact h.1
  | markVerified releaseDigest => exact h.1
  | markHealthy => exact h

/-- A step that returns was served from a receipt, or its call was made. -/
inductive Taken (db : EnrollmentDb) (loaded : LoadedEnrollment) (request : StepRequest)
    (outcome : TransitionOutcome) (db' : EnrollmentDb) : Prop where
  | receipt (h : serveReceipt db loaded request.input.step request.input.digest =
      .ok (some outcome)) (hsame : db' = db)
  | called {newState : EnrollmentState}
      (happly : (request.input.call request.now).apply loaded.state = .ok newState)
      (hdedup : outcome.deduplicated = true → newState = loaded.state)

theorem taken_of_bindWorker {loaded : LoadedEnrollment}
    {workerInstallationId workerKeyId transactionId : Str}
    (hinput : request.input = .bindWorkerIdentity workerInstallationId workerKeyId transactionId)
    (hloaded : loadAuthorized db request.actor.organizationId request.enrollmentId request.claimed =
      .ok loaded)
    (h : bindWorker db request.actor request.enrollmentId workerInstallationId workerKeyId
      transactionId request.now request.expectedRevision request.claimed = .ok (outcome, db')) :
    Taken db loaded request outcome db' := by
  unfold bindWorker at h
  dsimp only at h
  obtain ⟨-, h⟩ := except_unit_bind_eq_ok.mp h
  rw [except_bind_of_ok hloaded] at h
  obtain ⟨receipt, hreceipt, h⟩ := except_bind_eq_ok.mp h
  split at h
  · cases h
    refine .receipt ?_ rfl
    rw [hinput]
    exact hreceipt
  · obtain ⟨-, h⟩ := except_unit_bind_eq_ok.mp h
    obtain ⟨invitation, -, h⟩ := except_bind_eq_ok.mp h
    split at h
    · cases h
    · simp only [except_unit_bind_eq_ok] at h
      obtain ⟨-, -, -, -, h⟩ := h
      obtain ⟨newState, hnew, h⟩ := except_bind_eq_ok.mp h
      refine @Taken.called _ _ _ _ _ _ newState ?_ fun hdedup => ?_
      · rw [hinput]
        exact runPure_eq_ok_iff.mp hnew
      · split at h
        · next hsame => exact hsame
        · obtain ⟨ready, -, h⟩ := except_bind_eq_ok.mp h
          obtain ⟨committed, -, h⟩ := except_bind_eq_ok.mp h
          cases h
          cases hdedup

theorem taken_of_advanceStep {loaded : LoadedEnrollment} {step : Step} {payload : List (Str × Json)}
    {transition : EnrollmentState → Except ContractError EnrollmentState}
    (hstep : request.input.step = step) (hpayload : request.input.payload = payload)
    (htransition : ∀ state, transition state = (request.input.call request.now).apply state)
    (hloaded : loadAuthorized db request.actor.organizationId request.enrollmentId request.claimed =
      .ok loaded)
    (h : advanceStep db request.actor request.enrollmentId step payload transition
      request.expectedRevision request.claimed = .ok (outcome, db')) :
    Taken db loaded request outcome db' := by
  subst hstep hpayload
  unfold advanceStep at h
  dsimp only at h
  obtain ⟨-, h⟩ := except_unit_bind_eq_ok.mp h
  rw [except_bind_of_ok hloaded] at h
  obtain ⟨receipt, hreceipt, h⟩ := except_bind_eq_ok.mp h
  split at h
  · cases h
    exact .receipt hreceipt rfl
  · obtain ⟨-, h⟩ := except_unit_bind_eq_ok.mp h
    obtain ⟨newState, hnew, h⟩ := except_bind_eq_ok.mp h
    refine @Taken.called _ _ _ _ _ _ newState ?_ fun hdedup => ?_
    · rw [← htransition]
      exact runPure_eq_ok_iff.mp hnew
    · split at h
      · next hsame => exact hsame
      · obtain ⟨committed, -, h⟩ := except_bind_eq_ok.mp h
        cases h
        cases hdedup

theorem taken_of_serve {loaded : LoadedEnrollment}
    (hloaded : loadAuthorized db request.actor.organizationId request.enrollmentId request.claimed =
      .ok loaded) (h : request.serve db = .ok (outcome, db')) :
    Taken db loaded request outcome db' := by
  unfold StepRequest.serve at h
  split at h
  · next workerInstallationId workerKeyId transactionId hinput =>
      exact taken_of_bindWorker hinput hloaded h
  all_goals
    next hinput =>
      exact taken_of_advanceStep (by rw [hinput]; rfl) (by rw [hinput]; rfl)
        (fun state => by rw [hinput]; rfl) hloaded h

/-- A receipt is served for a step the record has taken. -/
theorem exists_of_serveReceipt {step : Step} {digest : Str} (hreceipted : Receipted db)
    (hheld : Holds db record shadow)
    (h : serveReceipt db record.loaded step digest = .ok (some outcome)) :
    ∃ s ∈ record.states, s.state = step.target := by
  unfold serveReceipt at h
  obtain ⟨found, hfound, -⟩ := except_bind_eq_ok.mp h
  cases found with
  | none =>
      rw [except_bind_of_ok hfound] at h
      cases h
  | some receipt =>
      have hfilter := surfaced_eq_ok_iff.mp hfound
      unfold findReceipt at hfilter
      have hone : receipt ∈ db.receipts.filter fun r => r.enrollmentId = record.head.enrollmentId &&
          r.step = step && r.inputDigest = digest := by
        revert hfilter
        show scalarOneOrNone (db.receipts.filter fun r => r.enrollmentId = record.head.enrollmentId &&
          r.step = step && r.inputDigest = digest) = _ → _
        generalize db.receipts.filter (fun r => r.enrollmentId = record.head.enrollmentId &&
          r.step = step && r.inputDigest = digest) = rows
        rcases rows with _ | ⟨first, _ | ⟨second, rest⟩⟩ <;> simp [scalarOneOrNone]
        exact Eq.symm
      obtain ⟨hmem, hkey⟩ := List.mem_filter.mp hone
      simp only [Bool.and_eq_true, decide_eq_true_eq] at hkey
      obtain ⟨revision, hrevision, hid, hstate⟩ := hreceipted receipt hmem
      have hrecord : revision.enrollmentId = record.id :=
        hid.trans (hkey.1.1.trans record.lawful.enrollmentId)
      obtain ⟨s, hs, rfl⟩ := hheld.exists_state hrevision hrecord
      exact ⟨s, hs, hstate.trans (congrArg Step.target hkey.1.2)⟩

/-- What a step does that returns: the record is past it, or goes on by it. -/
theorem stepped_of_serve (hdb : Consistent db) (hreceipted : Receipted db)
    (h : request.serve db = .ok (outcome, db')) : ∃ record record' shadow,
      record.id = request.enrollmentId ∧
        Admits record request.actor.organizationId request.claimed ∧
          Stepped record request outcome record' ∧ Turn db db' record record' shadow ∧
            Receipted db' := by
  obtain ⟨record, shadow, hid, hheld, hadmits, hserved⟩ := served_of_serve hdb h
  have hloaded := loadAuthorized_eq_ok hheld hadmits
  rw [hid] at hloaded
  have htaken := taken_of_serve hloaded h
  have hreceipt : serveReceipt db record.loaded request.input.step request.input.digest =
      .ok (some outcome) → db' = db → ∃ record record' shadow, record.id = request.enrollmentId ∧
        Admits record request.actor.organizationId request.claimed ∧
          Stepped record request outcome record' ∧ Turn db db' record record' shadow ∧
            Receipted db' := by
    rintro hreceipt rfl
    obtain ⟨s, hs, hstate⟩ := exists_of_serveReceipt hreceipted hheld hreceipt
    exact ⟨record, record, shadow, hid, hadmits, .stayed hs hstate, .refl hdb hheld, hreceipted⟩
  cases hserved with
  | receipt hserved => exact hreceipt hserved rfl
  | repeated hensured =>
      cases htaken with
      | receipt hserved hsame => exact hreceipt hserved hsame
      | called happly hdedup =>
          -- the state a repeated call returns is the one it was made on
          have htarget : record.head.state = request.input.step.target := by
            rcases apply_spec happly with ⟨-, hrepeats⟩ | heffect
            · exact target_of_repeats hrepeats
            · exact absurd (hdedup rfl) heffect.ne
          refine ⟨record, record, shadow, hid, hadmits, .stayed List.mem_cons_self htarget, ?_⟩
          unfold ensureReceipt at hensured
          obtain ⟨found, -, hensured⟩ := except_bind_eq_ok.mp hensured
          split at hensured
          · cases hensured
            exact ⟨.refl hdb hheld, hreceipted⟩
          · have hinsert := surfaced_eq_ok_iff.mp hensured
            refine ⟨turn_of_insertReceipt hdb hheld hinsert, ?_⟩
            obtain ⟨-, rfl⟩ := insertReceipt_eq_ok_iff.mp hinsert
            refine List.forall_mem_append.mpr ⟨hreceipted, List.forall_mem_singleton.mpr ?_⟩
            exact ⟨_, hheld.mem_revisions List.mem_cons_self, rfl, htarget⟩
  | @committed ready _ newState hready heffect hcommit =>
      have htarget : ∀ s, some request.input.step = some s → newState.state = s.target := by
        intro s hs
        rw [← Option.some.inj hs]
        exact heffect.state_of_call
      rcases hready with rfl | hconsume
      · exact ⟨record, record.moved heffect, shadow, hid, hadmits, .moved heffect,
          turn_of_commit hdb hheld heffect hcommit, hreceipted.commit heffect htarget hcommit⟩
      · have hturn := turn_of_consumeInvitation hdb hheld hconsume
        exact ⟨record, record.moved heffect, shadow, hid, hadmits, .moved heffect,
          hturn.trans (turn_of_commit hturn.consistent hturn.turned heffect hcommit),
          (hreceipted.consume hconsume).commit heffect htarget hcommit⟩

/-! ## What is left to the operator -/

omit [Unicode] in
/-- The calls that end an enrollment. -/
def Call.Ends (call : Call) : Prop :=
  (∃ reason, call = .refuse reason) ∨ ∃ reason, call = .requireRecovery reason

/-- What a request that is no step does. -/
inductive Operated (db : EnrollmentDb) : EnrollmentDb → Prop where
  | unchanged : Operated db db
  | opened {record : Record} {shadow : Int} {db' : EnrollmentDb}
      (h : Created db record shadow db') : Operated db db'
  | ended {record : Record} {shadow : Int} {call : Call} {newState : EnrollmentState}
      {db' : EnrollmentDb} (hends : call.Ends) (heffect : Effect record.head call newState)
      (hturn : Turn db db' record (record.moved heffect) shadow) : Operated db db'

theorem operated_of_commit {call : Call} {newState : EnrollmentState} {error : ServiceError}
    (hdb : Consistent db) (hreceipted : Receipted db) (hheld : Holds db record shadow)
    (hends : call.Ends) (happly : call.apply record.head = .ok newState)
    (hne : newState ≠ record.head)
    (h : surfaced error (commitTransition db record.loaded newState none none) = .ok db') :
    Operated db db' ∧ Receipted db' := by
  have heffect := effect_of_apply_ne happly hne
  have hcommit := surfaced_eq_ok_iff.mp h
  exact ⟨.ended hends heffect (turn_of_commit hdb hheld heffect hcommit),
    hreceipted.commit heffect (fun s hs => by cases hs) hcommit⟩

variable {enrollmentId organizationId : Str} {claimed : Option ClaimedScope}

theorem operated_of_lifecycle (hdb : Consistent db) (hreceipted : Receipted db) {actor : Principal}
    {call : Call} (hends : call.Ends) {target : EnrollmentPhase} {reason : Str}
    {expected : ExpectedRevision}
    (h : lifecycle db actor enrollmentId call.apply target reason expected claimed =
      .ok (outcome, db')) : Operated db db' ∧ Receipted db' := by
  unfold lifecycle at h
  obtain ⟨-, h⟩ := except_unit_bind_eq_ok.mp h
  obtain ⟨loaded, hloaded, h⟩ := except_bind_eq_ok.mp h
  obtain ⟨record, shadow, -, hheld, rfl, -⟩ := exists_of_loadAuthorized hdb hloaded
  obtain ⟨served, -, h⟩ := except_bind_eq_ok.mp h
  split at h
  · cases h
    exact ⟨.unchanged, hreceipted⟩
  · obtain ⟨-, h⟩ := except_unit_bind_eq_ok.mp h
    obtain ⟨newState, hnew, h⟩ := except_bind_eq_ok.mp h
    split at h
    · cases h
      exact ⟨.unchanged, hreceipted⟩
    · next hne =>
        obtain ⟨committed, hcommitted, h⟩ := except_bind_eq_ok.mp h
        cases h
        exact operated_of_commit hdb hreceipted hheld hends (runPure_eq_ok_iff.mp hnew) hne
          hcommitted

theorem operated_of_endByOperator (hdb : Consistent db) (hreceipted : Receipted db)
    {actor : Principal} {call : Call} (hends : call.Ends) {expectedRevision : Int}
    (h : endByOperator db actor enrollmentId call.apply expectedRevision claimed =
      .ok (outcome, db')) : Operated db db' ∧ Receipted db' := by
  unfold endByOperator at h
  dsimp only at h
  obtain ⟨-, h⟩ := except_unit_bind_eq_ok.mp h
  obtain ⟨loaded, hloaded, h⟩ := except_bind_eq_ok.mp h
  obtain ⟨record, shadow, -, hheld, rfl, -⟩ := exists_of_loadAuthorized hdb hloaded
  split at h
  · cases h
    exact ⟨.unchanged, hreceipted⟩
  · obtain ⟨-, h⟩ := except_unit_bind_eq_ok.mp h
    obtain ⟨newState, hnew, h⟩ := except_bind_eq_ok.mp h
    split at h
    · cases h
      exact ⟨.unchanged, hreceipted⟩
    · next hne =>
        obtain ⟨committed, hcommitted, h⟩ := except_bind_eq_ok.mp h
        cases h
        exact operated_of_commit hdb hreceipted hheld hends (runPure_eq_ok_iff.mp hnew) hne
          hcommitted

theorem operated_of_recoverOne (hdb : Consistent db) (hreceipted : Receipted db) {now : Str}
    {swept : Option EnrollmentDb} (h : recoverOne db organizationId enrollmentId now = .ok swept) :
    Operated db (swept.getD db) ∧ Receipted (swept.getD db) := by
  unfold recoverOne at h
  obtain ⟨candidate, hcandidate, h⟩ := except_bind_eq_ok.mp h
  split at h
  · cases h
    exact ⟨.unchanged, hreceipted⟩
  · next loaded =>
      have hcandidate := surfaced_eq_ok_iff.mp hcandidate
      unfold lockAndLoadSweepCandidate at hcandidate
      obtain ⟨found, hfound, hcandidate⟩ := except_bind_eq_ok.mp hcandidate
      split at hcandidate
      · cases hcandidate
      · next row =>
          obtain ⟨entry, hentry, hcandidate⟩ := except_bind_eq_ok.mp hcandidate
          cases hcandidate
          have hrow : row ∈ db.states := mem_of_scalarOneOrNone hfound
          obtain ⟨record, shadow, -, hheld, rfl⟩ := exists_of_buildLoaded hdb hrow hentry
          obtain ⟨revoked, -, h⟩ := except_bind_eq_ok.mp h
          split at h
          · cases h
            exact ⟨.unchanged, hreceipted⟩
          · obtain ⟨-, h⟩ := except_unit_bind_eq_ok.mp h
            obtain ⟨due, -, h⟩ := except_bind_eq_ok.mp h
            split at h
            · obtain ⟨newState, hnew, h⟩ := except_bind_eq_ok.mp h
              split at h
              · cases h
                exact ⟨.unchanged, hreceipted⟩
              · next hne =>
                  obtain ⟨committed, hcommitted, h⟩ := except_bind_eq_ok.mp h
                  cases h
                  exact operated_of_commit hdb hreceipted hheld (.inr ⟨_, rfl⟩)
                    (runPure_eq_ok_iff.mp hnew) hne hcommitted
            · cases h
              exact ⟨.unchanged, hreceipted⟩

theorem operated_of_openInvitation (hreceipted : Receipted db) {actor : Principal}
    {invitation : WorkerEnrollmentInvitation} {label now : Str}
    (h : openInvitation db actor invitation label now = .ok (outcome, db')) :
    Operated db db' ∧ Receipted db' := by
  unfold openInvitation at h
  obtain ⟨-, h⟩ := except_unit_bind_eq_ok.mp h
  split at h
  · cases h
  · next hlabel =>
      obtain ⟨⟨loaded, created⟩, hcreated, h⟩ := except_bind_eq_ok.mp h
      cases h
      obtain ⟨record, shadow, hcreated, -⟩ := created_of_createInvitationAndOpen
        (surfaced_eq_ok_iff.mp hcreated) (decide_eq_true hlabel)
      refine ⟨.opened hcreated, fun receipt hreceipt => ?_⟩
      rw [hcreated.receipts] at hreceipt
      obtain ⟨revision, hrevision, hshows⟩ := hreceipted receipt hreceipt
      rw [hcreated.revisions]
      exact ⟨revision, List.mem_append_left _ hrevision, hshows⟩

/-- What a request does that is no step. -/
theorem operated_of_serve {request : Request} {result : Option TransitionOutcome}
    (hdb : Consistent db) (hreceipted : Receipted db) (hstep : ∀ step, request ≠ .step step)
    (h : request.serve db = .ok (result, db')) : Operated db db' ∧ Receipted db' := by
  have hmap : ∀ {response : Except ServiceError (TransitionOutcome × EnrollmentDb)},
      response.map (Prod.map some id) = .ok (result, db') → ∃ outcome,
        response = .ok (outcome, db') := by
    intro response hresponse
    cases response with
    | error e => cases hresponse
    | ok pair =>
        cases hresponse
        exact ⟨pair.1, rfl⟩
  cases request with
  | step request => exact absurd rfl (hstep request)
  | openInvitation actor invitation label now =>
      obtain ⟨outcome, h⟩ := hmap h
      exact operated_of_openInvitation hreceipted h
  | refuseEnrollment actor enrollmentId reason expected claimed =>
      obtain ⟨outcome, h⟩ := hmap h
      exact @operated_of_lifecycle _ _ _ _ _ _ hdb hreceipted _ (.refuse reason) (.inl ⟨_, rfl⟩) _ _ _ h
  | recoverEnrollment actor enrollmentId reason expected claimed =>
      obtain ⟨outcome, h⟩ := hmap h
      exact @operated_of_lifecycle _ _ _ _ _ _ hdb hreceipted _ (.requireRecovery reason) (.inr ⟨_, rfl⟩)
        _ _ _ h
  | revokeEnrollment actor enrollmentId expectedRevision claimed =>
      obtain ⟨outcome, h⟩ := hmap h
      exact @operated_of_endByOperator _ _ _ _ _ _ hdb hreceipted _ (.refuse (str "operator_revoked"))
        (.inl ⟨_, rfl⟩) _ h
  | markRecoveryRequired actor enrollmentId expectedRevision claimed =>
      obtain ⟨outcome, h⟩ := hmap h
      exact @operated_of_endByOperator _ _ _ _ _ _ hdb hreceipted _
        (.requireRecovery (str "operator_recovery_required")) (.inr ⟨_, rfl⟩) _ h
  | recoverOne organizationId enrollmentId now =>
      cases hswept : recoverOne db organizationId enrollmentId now with
      | error e =>
          rw [Request.serve, hswept] at h
          cases h
      | ok swept =>
          rw [Request.serve, hswept] at h
          cases h
          exact operated_of_recoverOne hdb hreceipted hswept

end

end Secp.Enrollment
