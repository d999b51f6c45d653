import Mathlib.Data.List.Chain
import Secp.Enrollment.Records

/-!
# What the tables hold

The tables hold a record by its rows: the invitation, the head and the revisions. The head of a held
record loads, and its history is found consistent.
-/

namespace Secp.Enrollment

open Secp.Python Secp.Logic

section
variable [Unicode]

/-! ## Records -/

/-- An enrollment of a tenant: its invitation and its states, the latest first. -/
structure Record where
  organizationId : Str
  label : Str
  invitation : WorkerEnrollmentInvitation
  head : EnrollmentState
  past : List EnrollmentState
  label_accepted : isDeploymentSiteLabel label = true
  chronicle : Chronicle invitation label (head :: past)

namespace Record

def id (record : Record) : Str := record.invitation.digest

def states (record : Record) : List EnrollmentState := record.head :: record.past

/-- What loading the record returns. -/
def loaded (record : Record) : LoadedEnrollment :=
  ⟨record.head, record.organizationId, record.label, record.head.revision, record.head.digest⟩

/-- The record behind an edge. -/
def moved (record : Record) {call : Call} {state' : EnrollmentState}
    (heffect : Effect record.head call state') : Record :=
  { record with
    head := state'
    past := record.head :: record.past
    chronicle := record.chronicle.moved heffect }

theorem lawful (record : Record) : Lawful record.invitation record.label record.head :=
  record.chronicle.lawful _ List.mem_cons_self

theorem enrollmentId_of_mem (record : Record) {s : EnrollmentState} (hs : s ∈ record.states) :
    s.enrollmentId = record.id :=
  (record.chronicle.lawful s hs).enrollmentId

/-- A record that went on from another one. -/
structure Extends (record record' : Record) : Prop where
  organizationId : record'.organizationId = record.organizationId
  label : record'.label = record.label
  invitation : record'.invitation = record.invitation
  states : record.states <:+ record'.states

theorem Extends.refl (record : Record) : Extends record record :=
  ⟨rfl, rfl, rfl, List.suffix_refl _⟩

theorem Extends.trans {record record' record'' : Record} (h : Extends record record')
    (h' : Extends record' record'') : Extends record record'' :=
  ⟨h'.organizationId.trans h.organizationId, h'.label.trans h.label,
    h'.invitation.trans h.invitation, h.states.trans h'.states⟩

theorem extends_moved (record : Record) {call : Call} {state' : EnrollmentState}
    (heffect : Effect record.head call state') : Extends record (record.moved heffect) :=
  ⟨rfl, rfl, rfl, List.suffix_cons _ _⟩

end Record

/-- A row for the invitation of a record, used or not. -/
structure IsInvitation (record : Record) (shadow : Int) (row : InvitationRow) : Prop where
  organizationId : row.organizationId = record.organizationId
  label : row.deploymentSiteLabel = record.label
  invitation : row.invitation = record.invitation
  expires : row.expiresAtTs = shadow

/-- The tables hold the invitation, the head and the revisions of a record. -/
structure Holds (db : EnrollmentDb) (record : Record) (shadow : Int) : Prop where
  expires : parseCanonicalUtc record.invitation.expiresAt = some shadow
  invitation : ∃ row, (db.invitations.filter fun i => i.enrollmentId = record.id) = [row] ∧
    IsInvitation record shadow row
  head : (db.states.filter fun row => row.enrollmentId = record.id) =
    [stateRow record.organizationId record.label record.head shadow]
  history : (db.revisions.filter fun r => r.enrollmentId = record.id) =
    record.states.reverse.map revisionRow

variable {db db' : EnrollmentDb} {record : Record} {shadow : Int}

/-! ## A held record loads -/

theorem Holds.history_eq (h : Holds db record shadow) :
    db.history record.id = record.states.reverse.map revisionRow := by
  have hordered : (record.states.reverse.map EnrollmentState.revision).Pairwise (· ≤ ·) := by
    rw [Record.states, record.chronicle.revisions]
    exact List.pairwise_map.mpr (List.pairwise_le_range.imp fun hle => Int.ofNat_le.mpr hle)
  unfold EnrollmentDb.history sortedBy
  rw [h.history]
  refine List.Pairwise.insertionSort_eq (List.pairwise_map.mpr ?_)
  exact (List.pairwise_map.mp hordered).imp fun hle => Int.isLE_compare.mpr hle

theorem Holds.getState (h : Holds db record shadow) : db.getState record.id =
    some (stateRow record.organizationId record.label record.head shadow) := by
  unfold EnrollmentDb.getState
  rw [← List.head?_filter, h.head, List.head?_cons]

/-- The invitation of a row is the invitation it was made of. -/
theorem invitation_invitationRow {invitation : WorkerEnrollmentInvitation}
    {organizationId label enrollmentId : Str} (hvalid : invitation.validate = .ok ()) :
    (invitationRow organizationId label invitation enrollmentId shadow).invitation = invitation := by
  unfold WorkerEnrollmentInvitation.validate at hvalid
  simp only [except_unit_bind_eq_ok, ensure_eq_ok_iff, decide_eq_true_eq] at hvalid
  obtain ⟨hversion, -, -, -, -, -, -, -, -, hsequence, -⟩ := hvalid
  cases invitation
  cases hversion
  cases hsequence
  rfl

theorem Holds.crossChecked (h : Holds db record shadow) :
    crossCheckInvitation db (stateRow record.organizationId record.label record.head shadow)
      record.head = .ok () := by
  obtain ⟨row, hrow, hinvitation⟩ := h.invitation
  have hanchored := record.lawful.anchored
  have hid : (stateRow record.organizationId record.label record.head shadow).enrollmentId =
      record.id := record.lawful.enrollmentId
  have hone : scalarOneOrNone [row] = .ok (some row) := rfl
  have hexpires : sameInstant row.expiresAt row.expiresAtTs = .ok true := by
    rw [show row.expiresAt = row.invitation.expiresAt from rfl, hinvitation.invitation,
      hinvitation.expires]
    exact sameInstant_eq_ok_true h.expires
  unfold crossCheckInvitation
  rw [hid, hrow, except_bind_of_ok hone]
  dsimp only
  rw [hinvitation.invitation]
  refine except_unit_bind_eq_ok.mpr
    ⟨ensure_eq_ok_iff.mpr (decide_eq_true hinvitation.organizationId), ?_⟩
  refine except_unit_bind_eq_ok.mpr ⟨ensure_eq_ok_iff.mpr (decide_eq_true hinvitation.label), ?_⟩
  rw [except_bind_of_ok hexpires]
  refine except_unit_bind_eq_ok.mpr ⟨ensure_eq_ok_iff.mpr rfl, ?_⟩
  refine except_unit_bind_eq_ok.mpr
    ⟨ensure_eq_ok_iff.mpr (decide_eq_true record.chronicle.valid), ?_⟩
  refine except_unit_bind_eq_ok.mpr
    ⟨ensure_eq_ok_iff.mpr (decide_eq_true record.lawful.enrollmentId.symm), ?_⟩
  refine ensure_eq_ok_iff.mpr ?_
  simp only [Bool.and_eq_true, decide_eq_true_eq]
  exact ⟨⟨⟨⟨hanchored.controllerInstallationId, hanchored.controllerKeyId⟩, hanchored.transactionId⟩,
    hanchored.releaseDigest⟩, hanchored.expiresAt⟩

omit [Unicode] in
/-- Neighbours in a chain are related. -/
theorem rel_of_mem_zip_tail {α : Type} {R : α → α → Prop} {xs : List α} (h : xs.IsChain R) :
    ∀ pair ∈ xs.zip xs.tail, R pair.1 pair.2 := by
  induction xs with
  | nil => exact fun pair hpair => by cases hpair
  | cons x rest ih =>
      cases rest with
      | nil => exact fun pair hpair => by cases hpair
      | cons y rest =>
          obtain ⟨hxy, hrest⟩ := List.isChain_cons_cons.mp h
          exact List.forall_mem_cons.mpr ⟨hxy, ih hrest⟩

theorem Holds.verified (h : Holds db record shadow) :
    verifyHistoryConsistent db record.id record.head = .ok () := by
  have hrevisions : (record.states.reverse.map revisionRow).map RevisionRow.revision =
      (List.range (record.states.reverse.map revisionRow).length).map Int.ofNat := by
    rw [List.map_map, List.length_map, List.length_reverse]
    exact record.chronicle.revisions
  have hchained : (record.states.reverse.map revisionRow).IsChain
      fun earlier later => later.predecessorDigest = earlier.stateDigest := by
    rw [List.isChain_map, List.isChain_reverse]
    exact record.chronicle.chained
  have hlast : (record.states.reverse.map revisionRow).getLast? = some (revisionRow record.head) := by
    rw [List.getLast?_map, List.getLast?_reverse]
    rfl
  -- the first state is the one that was opened
  obtain ⟨first, hfirst⟩ : ∃ first, record.states.reverse.head? = some first := by
    cases hhead : record.states.reverse.head? with
    | none =>
        have hnil := List.reverse_eq_nil_iff.mp (List.head?_eq_none_iff.mp hhead)
        exact absurd hnil (List.cons_ne_nil _ _)
    | some first => exact ⟨first, rfl⟩
  have hlawful := record.chronicle.lawful first (List.mem_reverse.mp (List.mem_of_head? hfirst))
  have hopened : first.revision = 0 := by
    have hhead := congrArg List.head? record.chronicle.revisions
    rw [List.head?_map, show (record.head :: record.past).reverse.head? = _ from hfirst] at hhead
    have hzero : ((List.range (record.head :: record.past).length).map Int.ofNat).head? = some 0 := by
      simp [List.head?_range]
    exact Option.some.inj (hhead.trans hzero)
  unfold verifyHistoryConsistent
  rw [h.history_eq]
  simp only [List.head?_map, hfirst, hlast, Option.map_some]
  refine except_unit_bind_eq_ok.mpr ⟨ensure_eq_ok_iff.mpr (decide_eq_true hrevisions), ?_⟩
  refine except_unit_bind_eq_ok.mpr ⟨ensure_eq_ok_iff.mpr (by simp [revisionRow]), ?_⟩
  refine except_unit_bind_eq_ok.mpr ⟨ensure_eq_ok_iff.mpr (by simp [revisionRow]), ?_⟩
  refine except_unit_bind_eq_ok.mpr ⟨ensure_eq_ok_iff.mpr ?_, ensure_eq_ok_iff.mpr ?_⟩
  · simp [revisionRow, hopened, hlawful.predecessor.mp hopened]
  · exact List.all_eq_true.mpr fun pair hpair =>
      decide_eq_true (rel_of_mem_zip_tail hchained pair hpair)

theorem Holds.validated (h : Holds db record shadow) : validateRehydrated record.head
    (stateRow record.organizationId record.label record.head shadow) = .ok () :=
  validateRehydrated_of_lawful record.lawful record.chronicle.valid record.label_accepted h.expires

theorem Holds.load (h : Holds db record shadow) :
    loadForUpdate db record.id = .ok (some record.loaded) := by
  unfold loadForUpdate buildLoaded
  rw [h.getState]
  dsimp only
  rw [rehydrateState_stateRow record.lawful.label, except_bind_of_ok h.validated,
    except_bind_of_ok h.crossChecked]
  rfl

/-! ## Consistent tables -/

/-- Every head stands for a record, and no other row is without a head. -/
structure Consistent (db : EnrollmentDb) : Prop where
  states : ∀ row ∈ db.states, ∃ record shadow, record.id = row.enrollmentId ∧ Holds db record shadow
  invitations : ∀ i ∈ db.invitations, ∃ row ∈ db.states, row.enrollmentId = i.enrollmentId
  revisions : ∀ r ∈ db.revisions, ∃ row ∈ db.states, row.enrollmentId = r.enrollmentId

theorem consistent_empty : Consistent EnrollmentDb.empty :=
  ⟨List.forall_mem_nil _, List.forall_mem_nil _, List.forall_mem_nil _⟩

/-- The row of a held record is the one with its id. -/
theorem Holds.eq_of_id (h : Holds db record shadow) {row : StateRow} (hrow : row ∈ db.states)
    (hid : row.enrollmentId = record.id) :
    row = stateRow record.organizationId record.label record.head shadow := by
  have hmem : row ∈ db.states.filter fun row => row.enrollmentId = record.id :=
    List.mem_filter.mpr ⟨hrow, decide_eq_true hid⟩
  rw [h.head] at hmem
  exact List.mem_singleton.mp hmem

theorem Holds.mem_states (h : Holds db record shadow) :
    stateRow record.organizationId record.label record.head shadow ∈ db.states := by
  have hmem : stateRow record.organizationId record.label record.head shadow ∈
      db.states.filter fun row => row.enrollmentId = record.id := by
    rw [h.head]
    exact List.mem_singleton_self _
  exact List.mem_of_mem_filter hmem

/-- Records held under one id have one head. -/
theorem Holds.head_unique {record' : Record} {shadow' : Int} (h : Holds db record shadow)
    (h' : Holds db record' shadow') (hid : record'.id = record.id) : record'.head = record.head := by
  have hrow := h.eq_of_id h'.mem_states (record'.lawful.enrollmentId.trans hid)
  have hstate := congrArg rehydrateState hrow
  rw [rehydrateState_stateRow record'.lawful.label, rehydrateState_stateRow record.lawful.label]
    at hstate
  exact hstate

end

end Secp.Enrollment
