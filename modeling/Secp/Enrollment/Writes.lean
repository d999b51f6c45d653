import Secp.Enrollment.Tables

/-!
# What a write does to the tables

A creation adds the rows of a new record, a committed transition appends a state to one record, and a
consumed invitation or a receipt changes no record. So every write keeps what is held, and the records
only grow.
-/

namespace Secp.Enrollment

open Secp.Python Secp.Logic

section
variable [Unicode] {db db' : EnrollmentDb} {record : Record} {shadow : Int}

/-! ## Creation -/

omit [Unicode] in
theorem insertRevisionRow_eq_ok_iff {state : EnrollmentState} :
    insertRevisionRow db state = .ok db' ↔
      (∀ r ∈ db.revisions, ¬(r.enrollmentId = state.enrollmentId ∧ r.revision = state.revision)) ∧
        db' = { db with revisions := db.revisions ++ [revisionRow state] } := by
  unfold insertRevisionRow
  simp only [except_unit_bind_eq_ok, ensure_eq_ok_iff, List.all_eq_true, Bool.not_eq_true',
    Bool.and_eq_false_iff, decide_eq_false_iff_not, not_and_or]
  constructor
  · rintro ⟨hfresh, h⟩
    cases h
    exact ⟨hfresh, rfl⟩
  · rintro ⟨hfresh, rfl⟩
    exact ⟨hfresh, rfl⟩

/-- What a creation leaves: the rows of a record that was opened. -/
structure Created (db : EnrollmentDb) (record : Record) (shadow : Int) (db' : EnrollmentDb) : Prop where
  past : record.past = []
  fresh : ∀ row ∈ db.states, row.enrollmentId ≠ record.id
  expires : parseCanonicalUtc record.invitation.expiresAt = some shadow
  invitations : db'.invitations = db.invitations ++
    [invitationRow record.organizationId record.label record.invitation record.id shadow]
  states : db'.states = db.states ++
    [stateRow record.organizationId record.label record.head shadow]
  revisions : db'.revisions = db.revisions ++ [revisionRow record.head]
  receipts : db'.receipts = db.receipts

omit [Unicode] in
theorem viaContract_eq_ok_iff {α : Type} {result : Except ContractError α} {a : α} :
    viaContract result = .ok a ↔ result = .ok a := by
  cases result <;> simp [viaContract]

theorem created_of_createInvitationAndOpen {organizationId label now : Str}
    {invitation : WorkerEnrollmentInvitation} {loaded : LoadedEnrollment}
    (h : createInvitationAndOpen db organizationId invitation label now = .ok (loaded, db'))
    (hlabel : isDeploymentSiteLabel label = true) : ∃ record shadow,
      Created db record shadow db' ∧ loaded = record.loaded ∧
        openEnrollment invitation now label = .ok record.head := by
  unfold createInvitationAndOpen at h
  obtain ⟨-, h⟩ := except_unit_bind_eq_ok.mp h
  obtain ⟨state, hopen, h⟩ := except_bind_eq_ok.mp h
  obtain ⟨-, h⟩ := except_unit_bind_eq_ok.mp h
  obtain ⟨expiresShadow, hexpires, h⟩ := except_bind_eq_ok.mp h
  obtain ⟨invitationShadow, hinvitation, h⟩ := except_bind_eq_ok.mp h
  obtain ⟨hunique, h⟩ := except_unit_bind_eq_ok.mp h
  obtain ⟨db'', hrevision, h⟩ := except_bind_eq_ok.mp h
  cases h
  have hopen := viaContract_eq_ok_iff.mp hopen
  obtain ⟨-, rfl⟩ := insertRevisionRow_eq_ok_iff.mp hrevision
  have hspec := openEnrollment_spec hopen
  have hid : state.enrollmentId = invitation.digest := by rw [hspec.2.2.2]
  have hsame : state.expiresAt = invitation.expiresAt := by rw [hspec.2.2.2]
  rw [hsame] at hexpires
  cases hexpires.symm.trans hinvitation
  have hfresh : ∀ row ∈ db.states, row.enrollmentId ≠ invitation.digest := by
    have hall := (Bool.and_eq_true_iff.mp (ensure_eq_ok_iff.mp hunique)).2
    intro row hrow
    have hne := List.all_eq_true.mp hall row hrow
    rw [← hid]
    exact of_decide_eq_true hne
  refine ⟨⟨organizationId, label, invitation, state, [], hlabel, .opened hopen⟩, expiresShadow, ?_,
    rfl, hopen⟩
  exact ⟨rfl, hfresh, parseUtc_eq_ok_iff.mp hexpires, by rw [hid]; rfl, rfl, rfl, rfl⟩

/-- An invitation that opens is stored when neither it nor its enrollment is. -/
theorem exists_createInvitationAndOpen {organizationId label now : Str}
    {invitation : WorkerEnrollmentInvitation} {state : EnrollmentState} {shadow : Int}
    (hopen : openEnrollment invitation now label = .ok state)
    (hexpires : parseCanonicalUtc invitation.expiresAt = some shadow)
    (hinvitations : ∀ i ∈ db.invitations, i.invitationId ≠ invitation.invitationId)
    (hstates : ∀ row ∈ db.states, row.enrollmentId ≠ invitation.digest)
    (hrevisions : ∀ r ∈ db.revisions, r.enrollmentId ≠ invitation.digest) : ∃ db',
      createInvitationAndOpen db organizationId invitation label now =
        .ok (⟨state, organizationId, label, state.revision, state.digest⟩, db') := by
  have hspec := openEnrollment_spec hopen
  have hid : state.enrollmentId = invitation.digest := by rw [hspec.2.2.2]
  have hsame : state.expiresAt = invitation.expiresAt := by rw [hspec.2.2.2]
  have hshadow : shadowOf invitation.expiresAt = .ok shadow := parseUtc_eq_ok_iff.mpr hexpires
  have hunique : ((db.invitations.all fun i => i.invitationId ≠ invitation.invitationId) &&
      db.states.all fun row => row.enrollmentId ≠ invitation.digest) = true := by
    simp only [Bool.and_eq_true, List.all_eq_true, decide_eq_true_eq]
    exact ⟨hinvitations, hstates⟩
  have hinsert : ∀ db' : EnrollmentDb, db'.revisions = db.revisions →
      ∃ db'', insertRevisionRow db' state = .ok db'' := by
    intro db' hrevisions'
    refine ⟨_, insertRevisionRow_eq_ok_iff.mpr ⟨?_, rfl⟩⟩
    rintro r hr ⟨hr', -⟩
    rw [hrevisions'] at hr
    exact hrevisions r hr (hr'.trans hid)
  unfold createInvitationAndOpen
  rw [except_bind_of_ok (viaContract_eq_ok_iff.mpr hspec.1),
    except_bind_of_ok (viaContract_eq_ok_iff.mpr hopen), hsame, hid,
    except_bind_of_ok (ensure_eq_ok_iff.mpr (decide_eq_true rfl)), except_bind_of_ok hshadow,
    except_bind_of_ok hshadow, except_bind_of_ok (ensure_eq_ok_iff.mpr hunique)]
  obtain ⟨db', hdb'⟩ := hinsert { db with
    invitations := db.invitations ++
      [invitationRow organizationId label invitation invitation.digest shadow]
    states := db.states ++ [stateRow organizationId label state shadow] } rfl
  exact ⟨db', (except_bind_of_ok hdb').trans rfl⟩

omit [Unicode] in
theorem filter_eq_nil {α : Type} {key : α → Str} {rows : List α} {id : Str}
    (h : ∀ row ∈ rows, key row ≠ id) : (rows.filter fun row => key row = id) = [] :=
  List.filter_eq_nil_iff.mpr fun row hrow => by simpa using h row hrow

omit [Unicode] in
/-- Of appended rows a lookup finds the one it asks for. -/
theorem filter_append_new {α : Type} {key : α → Str} {rows : List α} {row : α} {id : Str}
    (h : ∀ r ∈ rows, key r ≠ id) (hrow : key row = id) :
    ((rows ++ [row]).filter fun r => key r = id) = [row] := by
  rw [List.filter_append, filter_eq_nil h, List.nil_append]
  simp [hrow]

omit [Unicode] in
theorem filter_append_other {α : Type} (key : α → Str) {rows : List α} {row : α} {id : Str}
    (hrow : key row ≠ id) :
    ((rows ++ [row]).filter fun r => key r = id) = rows.filter fun r => key r = id := by
  rw [List.filter_append]
  simp [hrow]

theorem Created.holds (hdb : Consistent db) (h : Created db record shadow db') :
    Holds db' record shadow := by
  have hfresh : ∀ {id : Str}, (∃ row ∈ db.states, row.enrollmentId = id) → id ≠ record.id := by
    rintro id ⟨row, hrow, rfl⟩
    exact h.fresh row hrow
  refine ⟨h.expires, ⟨invitationRow record.organizationId record.label record.invitation record.id
    shadow, ?_, ⟨rfl, rfl, invitation_invitationRow record.chronicle.valid, rfl⟩⟩, ?_, ?_⟩
  · rw [h.invitations]
    exact filter_append_new (fun i hi => hfresh (hdb.invitations i hi)) rfl
  · rw [h.states]
    exact filter_append_new (fun row hrow => hfresh ⟨row, hrow, rfl⟩) record.lawful.enrollmentId
  · rw [h.revisions, Record.states, h.past]
    exact filter_append_new (fun r hr => hfresh (hdb.revisions r hr)) record.lawful.enrollmentId

/-- A creation keeps what is held. -/
theorem Created.keeps (h : Created db record shadow db') {other : Record} {shadow' : Int}
    (hother : Holds db other shadow') : Holds db' other shadow' := by
  have hne : record.id ≠ other.id := by
    intro hsame
    exact h.fresh _ hother.mem_states (other.lawful.enrollmentId.trans hsame.symm)
  have hhead : record.head.enrollmentId ≠ other.id := record.lawful.enrollmentId ▸ hne
  refine ⟨hother.expires, ?_, ?_, ?_⟩
  · rw [h.invitations, filter_append_other InvitationRow.enrollmentId]
    · exact hother.invitation
    · exact hne
  · rw [h.states, filter_append_other StateRow.enrollmentId]
    · exact hother.head
    · exact hhead
  · rw [h.revisions, filter_append_other RevisionRow.enrollmentId]
    · exact hother.history
    · exact hhead

theorem Created.consistent (hdb : Consistent db) (h : Created db record shadow db') :
    Consistent db' := by
  have hstates : ∀ {id : Str}, (∃ row ∈ db.states, row.enrollmentId = id) ∨ id = record.id →
      ∃ row ∈ db'.states, row.enrollmentId = id := by
    rw [h.states]
    rintro id (⟨row, hrow, hid⟩ | rfl)
    · exact ⟨row, List.mem_append_left _ hrow, hid⟩
    · exact ⟨_, List.mem_append_right _ List.mem_cons_self, record.lawful.enrollmentId⟩
  constructor
  · intro row hrow
    rw [h.states] at hrow
    rcases List.mem_append.mp hrow with hrow | hrow
    · obtain ⟨other, shadow', hid, hother⟩ := hdb.states row hrow
      exact ⟨other, shadow', hid, h.keeps hother⟩
    · rw [List.mem_singleton.mp hrow]
      exact ⟨record, shadow, record.lawful.enrollmentId.symm, h.holds hdb⟩
  · intro i hi
    rw [h.invitations] at hi
    rcases List.mem_append.mp hi with hi | hi
    · exact hstates (.inl (hdb.invitations i hi))
    · rw [List.mem_singleton.mp hi]
      exact hstates (.inr rfl)
  · intro r hr
    rw [h.revisions] at hr
    rcases List.mem_append.mp hr with hr | hr
    · exact hstates (.inl (hdb.revisions r hr))
    · rw [List.mem_singleton.mp hr]
      exact hstates (.inr record.lawful.enrollmentId)

/-! ## Committed transitions -/

/-- What a committed transition leaves. -/
structure Committed (db : EnrollmentDb) (prior : LoadedEnrollment) (newState : EnrollmentState)
    (step : Option Step) (inputDigest : Option Str) (db' : EnrollmentDb) : Prop where
  fresh : ∀ r ∈ db.revisions,
    ¬(r.enrollmentId = newState.enrollmentId ∧ r.revision = newState.revision)
  swapped : (db.states.filter prior.isAt).length = 1
  states : ∃ shadow, parseCanonicalUtc newState.expiresAt = some shadow ∧
    db'.states = db.states.map fun row => if prior.isAt row then row.moved newState shadow else row
  invitations : db'.invitations = db.invitations
  revisions : db'.revisions = db.revisions ++ [revisionRow newState]
  receipts : step = none ∧ db'.receipts = db.receipts ∨ ∃ s digest,
    step = some s ∧ inputDigest = some digest ∧
      (∀ r ∈ db.receipts, ¬(r.enrollmentId = prior.state.enrollmentId ∧ r.step = s ∧
        r.inputDigest = digest)) ∧
      db'.receipts = db.receipts ++
        [⟨prior.state.enrollmentId, s, digest, newState.revision, newState.digest⟩]

omit [Unicode] in
theorem insertReceipt_eq_ok_iff {receipt : ReceiptRow} : insertReceipt db receipt = .ok db' ↔
    (∀ r ∈ db.receipts, ¬(r.enrollmentId = receipt.enrollmentId ∧ r.step = receipt.step ∧
      r.inputDigest = receipt.inputDigest)) ∧
        db' = { db with receipts := db.receipts ++ [receipt] } := by
  unfold insertReceipt
  simp only [except_unit_bind_eq_ok, ensure_eq_ok_iff, List.all_eq_true, Bool.not_eq_true',
    Bool.and_eq_false_iff, decide_eq_false_iff_not, not_and_or, or_assoc]
  constructor
  · rintro ⟨hfresh, h⟩
    cases h
    exact ⟨hfresh, rfl⟩
  · rintro ⟨hfresh, rfl⟩
    exact ⟨hfresh, rfl⟩

omit [Unicode] in
theorem committed_of_commitTransition {prior : LoadedEnrollment} {newState : EnrollmentState}
    {step : Option Step} {inputDigest : Option Str}
    (h : commitTransition db prior newState step inputDigest = .ok db') :
    Committed db prior newState step inputDigest db' := by
  unfold commitTransition at h
  obtain ⟨appended, happend, h⟩ := except_bind_eq_ok.mp h
  obtain ⟨swapped, hcas, h⟩ := except_bind_eq_ok.mp h
  unfold appendHistory at happend
  split at happend
  case h_2 => cases happend
  next inserted hinserted =>
    cases happend
    obtain ⟨hfresh, rfl⟩ := insertRevisionRow_eq_ok_iff.mp hinserted
    unfold casHead at hcas
    obtain ⟨expires, hexpires, hcas⟩ := except_bind_eq_ok.mp hcas
    obtain ⟨hone, hcas⟩ := except_unit_bind_eq_ok.mp hcas
    cases hcas
    have hstates := parseUtc_eq_ok_iff.mp hexpires
    have hone := of_decide_eq_true (ensure_eq_ok_iff.mp hone)
    cases step with
    | none =>
        cases h
        exact ⟨hfresh, hone, ⟨expires, hstates, rfl⟩, rfl, rfl, .inl ⟨rfl, rfl⟩⟩
    | some s =>
        cases inputDigest with
        | none => cases h
        | some digest =>
            obtain ⟨hunique, rfl⟩ := insertReceipt_eq_ok_iff.mp h
            exact ⟨hfresh, hone, ⟨expires, hstates, rfl⟩, rfl, rfl,
              .inr ⟨s, digest, rfl, rfl, hunique, rfl⟩⟩

variable {call : Call} {newState : EnrollmentState} {step : Option Step} {inputDigest : Option Str}

theorem Effect.expiresAt {state state' : EnrollmentState} (h : Effect state call state') :
    state'.expiresAt = state.expiresAt := by
  cases h <;> rfl

theorem Effect.enrollmentId {state state' : EnrollmentState} (h : Effect state call state') :
    state'.enrollmentId = state.enrollmentId := by
  cases h <;> rfl

/-- A head row that is moved along an edge is the head row of the state it leads to. -/
theorem moved_stateRow {organizationId label : Str} {state state' : EnrollmentState}
    (heffect : Effect state call state') :
    (stateRow organizationId label state shadow).moved state' shadow =
      stateRow organizationId label state' shadow := by
  cases heffect <;> rfl

/-- A transition is only committed from the latest state. -/
theorem Committed.current {prior : LoadedEnrollment} (hheld : Holds db record shadow)
    (hprior : prior.state ∈ record.states) (heffect : Effect prior.state call newState)
    (h : Committed db prior newState step inputDigest db') : prior.state = record.head := by
  have hlawful := record.chronicle.lawful _ hprior
  have hle := record.chronicle.revision_le _ hprior
  refine record.chronicle.eq_of_revision hprior List.mem_cons_self (Int.le_antisymm hle ?_)
  by_contra hbehind
  -- the revision after it is in the history already
  have hnonneg := hlawful.revision
  obtain ⟨s, hs, hrevision⟩ := record.chronicle.exists_revision
    (show 0 ≤ newState.revision by rw [heffect.revision]; omega)
    (by rw [heffect.revision]; omega)
  have hmem : revisionRow s ∈ db.revisions.filter fun r => r.enrollmentId = record.id := by
    rw [hheld.history]
    exact List.mem_map_of_mem (List.mem_reverse.mpr hs)
  refine h.fresh _ (List.mem_of_mem_filter hmem) ⟨?_, hrevision⟩
  exact (record.enrollmentId_of_mem hs).trans
    (heffect.enrollmentId.trans hlawful.enrollmentId).symm

/-- The coordinates a state is read at. -/
def LoadedEnrollment.Faithful (prior : LoadedEnrollment) : Prop :=
  prior.expectedRevision = prior.state.revision ∧ prior.expectedStateDigest = prior.state.digest

/-- The one row a commit swaps is the head of its record. -/
theorem isAt_iff {prior : LoadedEnrollment} (hheld : Holds db record shadow)
    (hcurrent : prior.state = record.head) (hprior : prior.Faithful) {row : StateRow}
    (hrow : row ∈ db.states) : prior.isAt row = true ↔ row.enrollmentId = record.id := by
  have hid := record.lawful.enrollmentId
  unfold LoadedEnrollment.isAt
  rw [hprior.1, hprior.2, hcurrent]
  simp only [Bool.and_eq_true, decide_eq_true_eq]
  constructor
  · rintro ⟨⟨hsame, -⟩, -⟩
    exact hsame.trans hid
  · intro hsame
    rw [hheld.eq_of_id hrow hsame]
    exact ⟨⟨rfl, rfl⟩, rfl⟩

theorem Committed.states_eq {prior : LoadedEnrollment} (hheld : Holds db record shadow)
    (hcurrent : prior.state = record.head) (hprior : prior.Faithful)
    (heffect : Effect record.head call newState)
    (h : Committed db prior newState step inputDigest db') :
    db'.states = db.states.map fun row => if row.enrollmentId = record.id then
      stateRow record.organizationId record.label newState shadow else row := by
  obtain ⟨shadow', hshadow, hstates⟩ := h.states
  have hexpires : newState.expiresAt = record.invitation.expiresAt :=
    heffect.expiresAt.trans record.lawful.anchored.expiresAt
  rw [hexpires] at hshadow
  cases hheld.expires.symm.trans hshadow
  rw [hstates]
  refine List.map_congr_left fun row hrow => ?_
  by_cases hid : row.enrollmentId = record.id
  · rw [if_pos ((isAt_iff hheld hcurrent hprior hrow).mpr hid), if_pos hid, hheld.eq_of_id hrow hid,
      moved_stateRow heffect]
  · rw [if_neg fun hat => hid ((isAt_iff hheld hcurrent hprior hrow).mp hat), if_neg hid]

/-- What a commit leaves of the record it was made on. -/
theorem Committed.holds {prior : LoadedEnrollment} (hheld : Holds db record shadow)
    (hcurrent : prior.state = record.head) (hprior : prior.Faithful)
    (heffect : Effect record.head call newState)
    (h : Committed db prior newState step inputDigest db') :
    Holds db' (record.moved heffect) shadow := by
  have hid : newState.enrollmentId = record.id :=
    heffect.enrollmentId.trans record.lawful.enrollmentId
  obtain ⟨row, hrow, hinvitation⟩ := hheld.invitation
  refine ⟨hheld.expires, ⟨row, ?_, ?_⟩, ?_, ?_⟩
  · rw [h.invitations]
    exact hrow
  · exact ⟨hinvitation.1, hinvitation.2, hinvitation.3, hinvitation.4⟩
  · -- a swapped row stands under the id it stood under
    have hkey : ∀ row : StateRow, ((if row.enrollmentId = record.id then
        stateRow record.organizationId record.label newState shadow else row).enrollmentId =
          record.id) = (row.enrollmentId = record.id) := by
      intro row
      by_cases hrow : row.enrollmentId = record.id
      · rw [if_pos hrow]
        exact propext (iff_of_true hid hrow)
      · rw [if_neg hrow]
    show (db'.states.filter fun row => row.enrollmentId = record.id) = _
    rw [h.states_eq hheld hcurrent hprior heffect, List.filter_map]
    simp only [Function.comp_def, hkey]
    rw [hheld.head, List.map_singleton]
    exact congrArg (fun row => [row]) (if_pos record.lawful.enrollmentId)
  · have hstates : (record.moved heffect).states.reverse = record.states.reverse ++ [newState] :=
      List.reverse_cons
    show (db'.revisions.filter fun r => r.enrollmentId = record.id) = _
    rw [h.revisions, List.filter_append, hheld.history, hstates, List.map_append, List.map_singleton]
    refine congrArg (List.map revisionRow record.states.reverse ++ ·) ?_
    exact List.filter_eq_self.mpr (List.forall_mem_singleton.mpr (decide_eq_true hid))

/-- A commit keeps what else is held. -/
theorem Committed.keeps {prior : LoadedEnrollment} (hheld : Holds db record shadow)
    (hcurrent : prior.state = record.head) (hprior : prior.Faithful)
    (heffect : Effect record.head call newState)
    (h : Committed db prior newState step inputDigest db') {other : Record} {shadow' : Int}
    (hother : Holds db other shadow') (hne : other.id ≠ record.id) : Holds db' other shadow' := by
  have hid : newState.enrollmentId = record.id :=
    heffect.enrollmentId.trans record.lawful.enrollmentId
  refine ⟨hother.expires, ?_, ?_, ?_⟩
  · rw [h.invitations]
    exact hother.invitation
  · have hkey : ∀ row : StateRow, ((if row.enrollmentId = record.id then
        stateRow record.organizationId record.label newState shadow else row).enrollmentId =
          other.id) = (row.enrollmentId = other.id) := by
      intro row
      by_cases hrow : row.enrollmentId = record.id
      · rw [if_pos hrow]
        exact propext (iff_of_false (fun hsame => hne (hsame.symm.trans hid))
          fun hsame => hne (hsame.symm.trans hrow))
      · rw [if_neg hrow]
    rw [h.states_eq hheld hcurrent hprior heffect, List.filter_map]
    simp only [Function.comp_def, hkey]
    rw [hother.head, List.map_singleton]
    exact congrArg (fun row => [row]) (if_neg fun hsame =>
      hne (other.lawful.enrollmentId.symm.trans hsame))
  · rw [h.revisions, filter_append_other RevisionRow.enrollmentId]
    · exact hother.history
    · exact fun hsame => hne (hsame.symm.trans hid)

theorem Committed.consistent (hdb : Consistent db) {prior : LoadedEnrollment}
    (hheld : Holds db record shadow) (hcurrent : prior.state = record.head) (hprior : prior.Faithful)
    (heffect : Effect record.head call newState)
    (h : Committed db prior newState step inputDigest db') : Consistent db' := by
  have hstates := h.states_eq hheld hcurrent hprior heffect
  have hid : newState.enrollmentId = record.id :=
    heffect.enrollmentId.trans record.lawful.enrollmentId
  -- the heads stand under the ids they stood under
  have hkey : ∀ id, (∃ row ∈ db.states, row.enrollmentId = id) →
      ∃ row ∈ db'.states, row.enrollmentId = id := by
    rintro id ⟨row, hrow, rfl⟩
    rw [hstates]
    refine ⟨_, List.mem_map_of_mem hrow, ?_⟩
    by_cases hsame : row.enrollmentId = record.id
    · rw [if_pos hsame, hsame]
      exact hid
    · rw [if_neg hsame]
  constructor
  · intro row' hrow'
    rw [hstates] at hrow'
    obtain ⟨row, hrow, rfl⟩ := List.mem_map.mp hrow'
    by_cases hsame : row.enrollmentId = record.id
    · rw [if_pos hsame]
      exact ⟨record.moved heffect, shadow, hid.symm, h.holds hheld hcurrent hprior heffect⟩
    · obtain ⟨other, shadow', hother, hholds⟩ := hdb.states row hrow
      rw [if_neg hsame]
      exact ⟨other, shadow', hother,
        h.keeps hheld hcurrent hprior heffect hholds fun heq => hsame (hother.symm.trans heq)⟩
  · intro i hi
    rw [h.invitations] at hi
    exact hkey _ (hdb.invitations i hi)
  · intro r hr
    rw [h.revisions] at hr
    rcases List.mem_append.mp hr with hr | hr
    · exact hkey _ (hdb.revisions r hr)
    · rw [List.mem_singleton.mp hr]
      exact hkey _ ⟨_, hheld.mem_states, heffect.enrollmentId.symm⟩

/-- An edge of a held record can be committed, under an input without a receipt. -/
theorem exists_commitTransition (hheld : Holds db record shadow)
    (heffect : Effect record.head call newState) {s : Step} {digest : Str}
    (hfresh : ∀ r ∈ db.receipts, ¬(r.enrollmentId = record.head.enrollmentId ∧ r.step = s ∧
      r.inputDigest = digest)) :
    ∃ db', commitTransition db record.loaded newState (some s) (some digest) = .ok db' := by
  have hid : newState.enrollmentId = record.id :=
    heffect.enrollmentId.trans record.lawful.enrollmentId
  have hnew : ∀ r ∈ db.revisions,
      ¬(r.enrollmentId = newState.enrollmentId ∧ r.revision = newState.revision) := by
    rintro r hr ⟨hsame, hrevision⟩
    have hmem : r ∈ db.revisions.filter fun r => r.enrollmentId = record.id :=
      List.mem_filter.mpr ⟨hr, decide_eq_true (hsame.trans hid)⟩
    rw [hheld.history] at hmem
    obtain ⟨t, ht, rfl⟩ := List.mem_map.mp hmem
    have hle := record.chronicle.revision_le t (List.mem_reverse.mp ht)
    have hnext := heffect.revision
    replace hrevision : t.revision = newState.revision := hrevision
    omega
  have hexpires : parseUtc newState.expiresAt = .ok shadow := by
    rw [heffect.expiresAt, record.lawful.anchored.expiresAt]
    exact parseUtc_eq_ok_iff.mpr hheld.expires
  have hone : (db.states.filter record.loaded.isAt).length = 1 := by
    have hfilter : db.states.filter record.loaded.isAt =
        db.states.filter fun row => row.enrollmentId = record.id := by
      refine List.filter_congr fun row hrow => ?_
      rw [Bool.eq_iff_iff, isAt_iff hheld rfl ⟨rfl, rfl⟩ hrow, decide_eq_true_eq]
    rw [hfilter, hheld.head]
    rfl
  have happend : appendHistory db newState =
      .ok { db with revisions := db.revisions ++ [revisionRow newState] } := by
    unfold appendHistory
    rw [insertRevisionRow_eq_ok_iff.mpr ⟨hnew, rfl⟩]
  unfold commitTransition
  rw [except_bind_of_ok happend]
  unfold casHead shadowOf
  simp only [hexpires]
  exact ⟨_, except_bind_eq_ok.mpr ⟨_, except_bind_eq_ok.mpr ⟨_, rfl, except_unit_bind_eq_ok.mpr
    ⟨ensure_eq_ok_iff.mpr (decide_eq_true hone), rfl⟩⟩, insertReceipt_eq_ok_iff.mpr ⟨hfresh, rfl⟩⟩⟩

/-! ## Consumed invitations -/

/-- A consumed invitation is the invitation it was. -/
theorem holds_of_consumeInvitation {enrollmentId : Str}
    (h : consumeInvitation db enrollmentId = .ok db') (hheld : Holds db record shadow) :
    Holds db' record shadow := by
  unfold consumeInvitation at h
  dsimp only at h
  obtain ⟨-, h⟩ := except_unit_bind_eq_ok.mp h
  cases h
  obtain ⟨row, hrow, hinvitation⟩ := hheld.invitation
  refine ⟨hheld.expires, ?_, hheld.head, hheld.history⟩
  dsimp only
  rw [List.filter_map]
  simp only [Function.comp_def, apply_ite InvitationRow.enrollmentId, ite_self]
  rw [hrow, List.map_singleton]
  refine ⟨_, rfl, ?_⟩
  split
  · exact ⟨hinvitation.1, hinvitation.2, hinvitation.3, hinvitation.4⟩
  · exact hinvitation

theorem consistent_of_consumeInvitation {enrollmentId : Str} (hdb : Consistent db)
    (h : consumeInvitation db enrollmentId = .ok db') : Consistent db' := by
  have hkeeps : ∀ {record : Record} {shadow : Int}, Holds db record shadow →
      Holds db' record shadow := fun hheld => holds_of_consumeInvitation h hheld
  unfold consumeInvitation at h
  dsimp only at h
  obtain ⟨-, h⟩ := except_unit_bind_eq_ok.mp h
  cases h
  refine ⟨fun row hrow => ?_, fun i hi => ?_, hdb.revisions⟩
  · obtain ⟨record, shadow, hid, hheld⟩ := hdb.states row hrow
    exact ⟨record, shadow, hid, hkeeps hheld⟩
  · obtain ⟨j, hj, rfl⟩ := List.mem_map.mp hi
    simp only [apply_ite InvitationRow.enrollmentId, ite_self]
    exact hdb.invitations j hj

/-! ## Writes -/

/-- The writes of the service. A transition is committed from any state the enrollment was in when it
was read. -/
inductive Write (db : EnrollmentDb) : EnrollmentDb → Prop where
  | created {organizationId label now : Str} {invitation : WorkerEnrollmentInvitation}
      {loaded : LoadedEnrollment} {db' : EnrollmentDb}
      (h : createInvitationAndOpen db organizationId invitation label now = .ok (loaded, db'))
      (hlabel : isDeploymentSiteLabel label = true) : Write db db'
  | consumed {enrollmentId : Str} {db' : EnrollmentDb}
      (h : consumeInvitation db enrollmentId = .ok db') : Write db db'
  | committed {record : Record} {shadow : Int} {prior : LoadedEnrollment} {call : Call}
      {newState : EnrollmentState} {step : Option Step} {inputDigest : Option Str}
      {db' : EnrollmentDb} (hheld : Holds db record shadow) (hmem : prior.state ∈ record.states)
      (hprior : prior.Faithful) (heffect : Effect prior.state call newState)
      (h : commitTransition db prior newState step inputDigest = .ok db') : Write db db'
  | receipted {receipt : ReceiptRow} {db' : EnrollmentDb} (h : insertReceipt db receipt = .ok db') :
      Write db db'

/-- A write keeps the tables consistent. -/
theorem Write.consistent (h : Write db db') (hdb : Consistent db) : Consistent db' := by
  cases h with
  | created h hlabel =>
      obtain ⟨record, shadow, hcreated, -⟩ := created_of_createInvitationAndOpen h hlabel
      exact hcreated.consistent hdb
  | consumed h => exact consistent_of_consumeInvitation hdb h
  | @committed record shadow prior call newState step inputDigest _ hheld hmem hprior heffect h =>
      have hcommitted := committed_of_commitTransition h
      have hcurrent := hcommitted.current hheld hmem heffect
      exact hcommitted.consistent hdb hheld hcurrent hprior (hcurrent ▸ heffect)
  | receipted h =>
      obtain ⟨-, rfl⟩ := insertReceipt_eq_ok_iff.mp h
      refine ⟨fun row hrow => ?_, hdb.invitations, hdb.revisions⟩
      obtain ⟨record, shadow, hid, hheld⟩ := hdb.states row hrow
      exact ⟨record, shadow, hid, ⟨hheld.expires, hheld.invitation, hheld.head, hheld.history⟩⟩

/-- What is held is held on, and only grows. -/
theorem Write.keeps (h : Write db db') (hheld : Holds db record shadow) :
    ∃ record', record.Extends record' ∧ Holds db' record' shadow := by
  cases h with
  | created h hlabel =>
      obtain ⟨other, shadow', hcreated, -⟩ := created_of_createInvitationAndOpen h hlabel
      exact ⟨record, .refl _, hcreated.keeps hheld⟩
  | consumed h => exact ⟨record, .refl _, holds_of_consumeInvitation h hheld⟩
  | @committed other shadow' prior call newState step inputDigest _ hother hmem hprior heffect h =>
      have hcommitted := committed_of_commitTransition h
      have hcurrent := hcommitted.current hother hmem heffect
      by_cases hid : record.id = other.id
      · have hhead : prior.state = record.head :=
          hcurrent.trans (hheld.head_unique hother hid.symm)
        exact ⟨record.moved (hhead ▸ heffect), record.extends_moved _,
          hcommitted.holds hheld hhead hprior (hhead ▸ heffect)⟩
      · exact ⟨record, .refl _,
          hcommitted.keeps hother hcurrent hprior (hcurrent ▸ heffect) hheld hid⟩
  | receipted h =>
      obtain ⟨-, rfl⟩ := insertReceipt_eq_ok_iff.mp h
      exact ⟨record, .refl _, ⟨hheld.expires, hheld.invitation, hheld.head, hheld.history⟩⟩

/-- Receipts for one input of one step. -/
def ReceiptRow.Same (r receipt : ReceiptRow) : Prop :=
  r.enrollmentId = receipt.enrollmentId ∧ r.step = receipt.step ∧ r.inputDigest = receipt.inputDigest

/-- Receipts are only added, and each for an input without one. -/
theorem Write.receipts (h : Write db db') : db'.receipts = db.receipts ∨
    ∃ receipt, db'.receipts = db.receipts ++ [receipt] ∧ ∀ r ∈ db.receipts, ¬r.Same receipt := by
  cases h with
  | created h hlabel =>
      obtain ⟨other, shadow', hcreated, -⟩ := created_of_createInvitationAndOpen h hlabel
      exact .inl hcreated.receipts
  | consumed h =>
      unfold consumeInvitation at h
      dsimp only at h
      obtain ⟨-, h⟩ := except_unit_bind_eq_ok.mp h
      cases h
      exact .inl rfl
  | committed hheld hmem hprior heffect h =>
      rcases (committed_of_commitTransition h).receipts with ⟨-, hsame⟩ | hnew
      · exact .inl hsame
      · obtain ⟨s, digest, -, -, hfresh, hreceipts⟩ := hnew
        exact .inr ⟨_, hreceipts, hfresh⟩
  | receipted h =>
      obtain ⟨hfresh, rfl⟩ := insertReceipt_eq_ok_iff.mp h
      exact .inr ⟨_, rfl, hfresh⟩

end

end Secp.Enrollment
