import Secp.Enrollment.Projection
import Secp.Enrollment.Redelivery
import Secp.Logic.Run

/-!
# What is written is read back

A store is driven by openings, loads and commits; what was loaded may be committed on at any later time.
Whatever the order, every head row passes the checks of a load and agrees with its invitation and its
history. It is shown as well when no worker is bound under the name of a token header.
-/

namespace Secp.Enrollment

open Secp.Python Secp.Logic

/-- The tables, with what was loaded of them. -/
structure Store where
  db : EnrollmentDb
  loads : List LoadedEnrollment

def Store.empty : Store := ⟨EnrollmentDb.empty, []⟩

/-- A use of the repository. -/
inductive Move where
  | create (organizationId : Str) (invitation : WorkerEnrollmentInvitation)
      (deploymentSiteLabel now : Str)
  | load (enrollmentId : Str)
  | commit (prior : LoadedEnrollment) (call : Call) (step : Option Step) (inputDigest : Option Str)

section
variable [Unicode]

def Store.use (store : Store) : Move → Except StoreError Store
  | .create organizationId invitation deploymentSiteLabel now => do
      let (loaded, db) ← createInvitationAndOpen store.db organizationId invitation
        deploymentSiteLabel now
      pure ⟨db, loaded :: store.loads⟩
  | .load enrollmentId => do
      match ← loadForUpdate store.db enrollmentId with
      | none => pure store
      | some loaded => pure { store with loads := loaded :: store.loads }
  | .commit prior call step inputDigest => do
      let newState ← viaContract (call.apply prior.state)
      let db ← commitTransition store.db prior newState step inputDigest
      pure { store with db := db }

/-- A use that is refused is rolled back. -/
def Store.after (store : Store) (move : Move) : Store :=
  match store.use move with
  | .ok store' => store'
  | .error _ => store

/-- An opening is under an accepted label, and a commit is on what was loaded. -/
def Store.Admits (store : Store) : Move → Prop
  | .create _ _ deploymentSiteLabel _ => deploymentSiteLabelRefusal deploymentSiteLabel = none
  | .load _ => True
  | .commit prior _ _ _ => prior ∈ store.loads

/-- A head row that is read back and shown. -/
structure ReadBack (db : EnrollmentDb) (row : StateRow) : Prop where
  valid : validateRehydrated (rehydrateState row) row = .ok ()
  crossChecked : crossCheckInvitation db row (rehydrateState row) = .ok ()
  history : verifyHistoryConsistent db row.enrollmentId (rehydrateState row) = .ok ()
  shown : ∃ view, (rehydrateState row).publicView = .ok view

/-- No worker is bound under the name of a token header. -/
def Move.NamesNoToken : Move → Prop
  | .commit _ (.bindWorkerIdentity workerInstallationId _ _ _) _ _ =>
      vaultTokenRe.search workerInstallationId = false
  | _ => True

/-! ## Consistent tables are read back -/

variable {db db' : EnrollmentDb} {store : Store} {row : StateRow} {move : Move}

theorem readBack_iff (hdb : Consistent db) (hrow : row ∈ db.states) :
    ReadBack db row ↔ vaultTokenRe.search row.workerInstallationId = false := by
  obtain ⟨record, shadow, hid, hheld⟩ := hdb.states row hrow
  have heq := hheld.eq_of_id hrow hid.symm
  have hstate : rehydrateState row = record.head := by
    rw [heq]
    exact rehydrateState_stateRow record.lawful.label
  have hshown := record.lawful.exists_publicView_iff record.chronicle.valid record.label_accepted
  have hworker : row.workerInstallationId = record.head.workerInstallationId :=
    congrArg StateRow.workerInstallationId heq
  rw [hworker, ← hshown]
  constructor
  · intro h
    exact hstate ▸ h.shown
  · intro h
    constructor
    · rw [hstate, heq]
      exact hheld.validated
    · rw [hstate, heq]
      exact hheld.crossChecked
    · rw [hstate, ← hid]
      exact hheld.verified
    · rw [hstate]
      exact h

/-! ## What a use leaves -/

theorem after_create {organizationId label now : Str} {invitation : WorkerEnrollmentInvitation}
    {loaded : LoadedEnrollment}
    (h : createInvitationAndOpen store.db organizationId invitation label now = .ok (loaded, db)) :
    store.after (.create organizationId invitation label now) = ⟨db, loaded :: store.loads⟩ := by
  have huse : store.use (.create organizationId invitation label now) =
      .ok ⟨db, loaded :: store.loads⟩ := by
    unfold Store.use
    exact except_bind_of_ok h
  unfold Store.after
  rw [huse]

theorem after_commit {prior : LoadedEnrollment} {call : Call} {newState : EnrollmentState}
    {step : Option Step} {inputDigest : Option Str} (happly : call.apply prior.state = .ok newState)
    (h : commitTransition store.db prior newState step inputDigest = .ok db) :
    store.after (.commit prior call step inputDigest) = ⟨db, store.loads⟩ := by
  have huse : store.use (.commit prior call step inputDigest) = .ok ⟨db, store.loads⟩ := by
    unfold Store.use
    exact (except_bind_of_ok (viaContract_eq_ok_iff.mpr happly)).trans (except_bind_of_ok h)
  unfold Store.after
  rw [huse]

/-- The tables are consistent, and what was loaded is a state that an enrollment was in. -/
structure Store.Sound (store : Store) : Prop where
  consistent : Consistent store.db
  loads : ∀ loaded ∈ store.loads, ∃ record shadow, Holds store.db record shadow ∧
    loaded.state ∈ record.states ∧ loaded.Faithful

theorem sound_empty : Store.empty.Sound := ⟨consistent_empty, List.forall_mem_nil _⟩

/-- A write keeps what was loaded. -/
theorem Store.Sound.write (h : store.Sound) (hwrite : Write store.db db') :
    Store.Sound { store with db := db' } := by
  refine ⟨hwrite.consistent h.consistent, fun loaded hloaded => ?_⟩
  obtain ⟨record, shadow, hheld, hmem, hfaithful⟩ := h.loads loaded hloaded
  obtain ⟨record', hextends, hheld'⟩ := hwrite.keeps hheld
  exact ⟨record', shadow, hheld', hextends.states.subset hmem, hfaithful⟩

variable {record : Record} {shadow : Int} {prior : LoadedEnrollment} {call : Call}
  {newState : EnrollmentState} {step : Option Step} {inputDigest : Option Str}

/-- A state is not committed twice. -/
theorem Committed.ne_prior (hheld : Holds db record shadow) (hmem : prior.state ∈ record.states)
    (h : Committed db prior newState step inputDigest db') : newState ≠ prior.state := by
  rintro rfl
  have hrow : revisionRow prior.state ∈ db.revisions.filter fun r => r.enrollmentId = record.id := by
    rw [hheld.history]
    exact List.mem_map_of_mem (List.mem_reverse.mpr hmem)
  exact h.fresh _ (List.mem_of_mem_filter hrow) ⟨rfl, rfl⟩

/-- What a commit writes is an edge. -/
theorem effect_of_commit (hheld : Holds db record shadow) (hmem : prior.state ∈ record.states)
    (happly : call.apply prior.state = .ok newState)
    (h : commitTransition db prior newState step inputDigest = .ok db') :
    Effect prior.state call newState :=
  effect_of_apply_ne happly ((committed_of_commitTransition h).ne_prior hheld hmem)

theorem Store.Sound.use {store' : Store} (h : store.Sound) (hadmits : store.Admits move)
    (huse : store.use move = .ok store') : store'.Sound := by
  cases move with
  | create organizationId invitation label now =>
      unfold Store.use at huse
      obtain ⟨⟨loaded, db'⟩, hcreate, huse⟩ := except_bind_eq_ok.mp huse
      cases huse
      have hlabel : isDeploymentSiteLabel label = true := decide_eq_true hadmits
      obtain ⟨record, shadow, hcreated, rfl, -⟩ := created_of_createInvitationAndOpen hcreate hlabel
      have hwritten := h.write (.created hcreate hlabel)
      refine ⟨hwritten.consistent, List.forall_mem_cons.mpr ⟨?_, hwritten.loads⟩⟩
      exact ⟨record, shadow, hcreated.holds h.consistent, List.mem_cons_self, record.faithful⟩
  | load enrollmentId =>
      unfold Store.use at huse
      obtain ⟨found, hload, huse⟩ := except_bind_eq_ok.mp huse
      cases found with
      | none =>
          cases huse
          exact h
      | some loaded =>
          cases huse
          obtain ⟨record, shadow, -, hheld, rfl⟩ := exists_of_loadForUpdate h.consistent hload
          refine ⟨h.consistent, List.forall_mem_cons.mpr ⟨?_, h.loads⟩⟩
          exact ⟨record, shadow, hheld, List.mem_cons_self, record.faithful⟩
  | commit prior call step inputDigest =>
      unfold Store.use at huse
      obtain ⟨newState, happly, huse⟩ := except_bind_eq_ok.mp huse
      obtain ⟨db', hcommit, huse⟩ := except_bind_eq_ok.mp huse
      cases huse
      obtain ⟨record, shadow, hheld, hmem, hfaithful⟩ := h.loads prior hadmits
      have heffect := effect_of_commit hheld hmem (viaContract_eq_ok_iff.mp happly) hcommit
      exact h.write (.committed hheld hmem hfaithful heffect hcommit)

/-- No head stands for a worker with the name of a token header. -/
def NoTokenNames (db : EnrollmentDb) : Prop :=
  ∀ row ∈ db.states, vaultTokenRe.search row.workerInstallationId = false

/-- An edge names a worker only where it binds one. -/
theorem Effect.noTokenName {state : EnrollmentState} (heffect : Effect state call newState)
    (hnames : (Move.commit prior call step inputDigest).NamesNoToken)
    (h : vaultTokenRe.search state.workerInstallationId = false) :
    vaultTokenRe.search newState.workerInstallationId = false := by
  cases heffect with
  | bound => exact hnames
  | offered => exact h
  | resulted => exact h
  | verified => exact h
  | healthy => exact h
  | refused => exact h
  | recovery => exact h

theorem NoTokenNames.use {store' : Store} (h : NoTokenNames store.db) (hsound : store.Sound)
    (hadmits : store.Admits move) (hnames : move.NamesNoToken)
    (huse : store.use move = .ok store') : NoTokenNames store'.db := by
  cases move with
  | create organizationId invitation label now =>
      unfold Store.use at huse
      obtain ⟨⟨loaded, db'⟩, hcreate, huse⟩ := except_bind_eq_ok.mp huse
      cases huse
      obtain ⟨record, shadow, hcreated, rfl, hopen⟩ :=
        created_of_createInvitationAndOpen hcreate (decide_eq_true hadmits)
      obtain ⟨-, -, -, hhead⟩ := openEnrollment_spec hopen
      intro row hrow
      have hrow : row ∈ db'.states := hrow
      rw [hcreated.states] at hrow
      rcases List.mem_append.mp hrow with hrow | hrow
      · exact h row hrow
      · have hworker : row.workerInstallationId = [] := by
          rw [List.mem_singleton.mp hrow, hhead]
          rfl
        rw [hworker]
        exact vaultTokenRe_search_nil
  | load enrollmentId =>
      unfold Store.use at huse
      obtain ⟨found, -, huse⟩ := except_bind_eq_ok.mp huse
      cases found with
      | none =>
          cases huse
          exact h
      | some loaded =>
          cases huse
          exact h
  | commit prior call step inputDigest =>
      unfold Store.use at huse
      obtain ⟨newState, happly, huse⟩ := except_bind_eq_ok.mp huse
      obtain ⟨db', hcommit, huse⟩ := except_bind_eq_ok.mp huse
      cases huse
      obtain ⟨record, shadow, hheld, hmem, hfaithful⟩ := hsound.loads prior hadmits
      have heffect := effect_of_commit hheld hmem (viaContract_eq_ok_iff.mp happly) hcommit
      have hcommitted := committed_of_commitTransition hcommit
      have hcurrent := hcommitted.current hheld hmem heffect
      rw [hcurrent] at heffect
      have hnew := heffect.noTokenName hnames (h _ hheld.mem_states)
      intro row hrow
      have hrow : row ∈ db'.states := hrow
      rw [hcommitted.states_eq hheld hcurrent hfaithful heffect] at hrow
      obtain ⟨before, hbefore, rfl⟩ := List.mem_map.mp hrow
      -- the head of the enrollment is swapped, the others stay
      by_cases hid : before.enrollmentId = record.id
      · rw [if_pos hid]
        exact hnew
      · rw [if_neg hid]
        exact h before hbefore

/-! ## What a run leaves -/

theorem Store.Sound.after (h : store.Sound) (hadmits : store.Admits move) :
    (store.after move).Sound := by
  unfold Store.after
  cases huse : store.use move with
  | error e => exact h
  | ok store' => exact h.use hadmits huse

theorem NoTokenNames.after (h : NoTokenNames store.db) (hsound : store.Sound)
    (hadmits : store.Admits move) (hnames : move.NamesNoToken) :
    NoTokenNames (store.after move).db := by
  unfold Store.after
  cases huse : store.use move with
  | error e => exact h
  | ok store' => exact h.use hsound hadmits hnames huse

/-- After every run a head row is read back and shown exactly when its worker has no name of a token
header; where no step names one, every head row is. -/
theorem readBack_of_run {moves : List Move} (h : Along Store.after Store.Admits Store.empty moves) :
    (∀ row ∈ (moves.foldl Store.after Store.empty).db.states,
      ReadBack (moves.foldl Store.after Store.empty).db row ↔
        vaultTokenRe.search row.workerInstallationId = false) ∧
    ((∀ move ∈ moves, move.NamesNoToken) →
      ∀ row ∈ (moves.foldl Store.after Store.empty).db.states,
        ReadBack (moves.foldl Store.after Store.empty).db row) := by
  have hsound : (moves.foldl Store.after Store.empty).Sound :=
    h.invariant (fun store move hstore hadmits => hstore.after hadmits) sound_empty
  have hread : ∀ row ∈ (moves.foldl Store.after Store.empty).db.states,
      ReadBack (moves.foldl Store.after Store.empty).db row ↔
        vaultTokenRe.search row.workerInstallationId = false :=
    fun row hrow => readBack_iff hsound.consistent hrow
  refine ⟨hread, fun hnames row hrow => ?_⟩
  have hstep : ∀ (store : Store) (move : Move), store.Sound ∧ NoTokenNames store.db →
      store.Admits move ∧ move.NamesNoToken →
        (store.after move).Sound ∧ NoTokenNames (store.after move).db := by
    intro store move hstore hmove
    exact ⟨hstore.1.after hmove.1, hstore.2.after hstore.1 hmove.1 hmove.2⟩
  have hall := (h.and (along_of_forall hnames)).invariant hstep
    ⟨sound_empty, List.forall_mem_nil _⟩
  exact (hread row hrow).mpr (hall.2 row hrow)

end

/-! ## One binding -/

def sampleLoaded : LoadedEnrollment :=
  ⟨sampleSited, str "organization-1", sampleSite, sampleSited.revision, sampleSited.digest⟩

/-- An invitation is opened and a worker is bound. -/
def bindingOf (workerInstallationId : Str) : List Move := [
  .create (str "organization-1") sampleInvitation sampleSite sampleNow,
  .commit sampleLoaded
    (.bindWorkerIdentity workerInstallationId (sampleDigest '2') (str "transaction-1") sampleNow)
    (some .bindWorkerIdentity) (some (sampleDigest '5'))]

/-- The binding of a worker that the contract accepts is committed. -/
theorem bindingOf_spec {workerInstallationId : Str} (hid : workerInstallationId ≠ [])
    (hbound : (@Call.apply Unicode.ascii (.bindWorkerIdentity workerInstallationId (sampleDigest '2')
      (str "transaction-1") sampleNow) sampleSited).toOption.any
        (fun state => state.workerInstallationId = workerInstallationId) = true) :
    @Along Store Move (@Store.after Unicode.ascii) (@Store.Admits Unicode.ascii) Store.empty
        (bindingOf workerInstallationId) ∧
      ∃ row ∈ ((bindingOf workerInstallationId).foldl (@Store.after Unicode.ascii) Store.empty).db.states,
        row.workerInstallationId = workerInstallationId := by
  let _ := Unicode.ascii
  have hlabel : isDeploymentSiteLabel sampleSite = true := by with_unfolding_all decide
  have hexpires : (parseCanonicalUtc sampleInvitation.expiresAt).isSome = true := by with_unfolding_all decide
  obtain ⟨shadow, hexpires⟩ := Option.isSome_iff_exists.mp hexpires
  obtain ⟨db, hcreate⟩ := @exists_createInvitationAndOpen _ EnrollmentDb.empty (str "organization-1")
    sampleSite sampleNow _ _ shadow openEnrollment_sampleSite hexpires
    (List.forall_mem_nil _) (List.forall_mem_nil _) (List.forall_mem_nil _)
  obtain ⟨record, shadow', hcreated, hloaded, -⟩ :=
    created_of_createInvitationAndOpen hcreate hlabel
  have hhead : record.head = sampleSited := (congrArg LoadedEnrollment.state hloaded).symm
  have hopened : Store.empty.after (.create (str "organization-1") sampleInvitation sampleSite
      sampleNow) = ⟨db, [sampleLoaded]⟩ := after_create hcreate
  obtain ⟨state, happly, hworker⟩ := exists_of_toOption_any hbound
  have hworker : state.workerInstallationId = workerInstallationId := of_decide_eq_true hworker
  have hne : state ≠ sampleSited := by
    rintro rfl
    exact hid hworker.symm
  have heffect := effect_of_apply_ne happly hne
  rw [← hhead] at heffect
  have hfresh : ∀ r ∈ db.receipts, ¬(r.enrollmentId = record.head.enrollmentId ∧
      r.step = .bindWorkerIdentity ∧ r.inputDigest = sampleDigest '5') := by
    rw [hcreated.receipts]
    exact List.forall_mem_nil _
  obtain ⟨bound, hcommit⟩ :=
    exists_commitTransition (hcreated.holds consistent_empty) heffect hfresh
  have hcommitted := committed_of_commitTransition hcommit
  have hmoved := hcommitted.holds (hcreated.holds consistent_empty) rfl record.faithful heffect
  rw [show record.loaded = sampleLoaded from hloaded.symm] at hcommit
  have hbinding := @after_commit _ _ ⟨db, [sampleLoaded]⟩ sampleLoaded _ _ _ _ happly hcommit
  have hrefusal : deploymentSiteLabelRefusal sampleSite = none := of_decide_eq_true hlabel
  refine ⟨⟨hrefusal, ?_, trivial⟩, ?_⟩
  · rw [hopened]
    exact List.mem_cons_self
  · rw [bindingOf, List.foldl_cons, List.foldl_cons, List.foldl_nil, hopened, hbinding]
    exact ⟨_, hmoved.mem_states, hworker⟩

theorem boundWorker_readBack :
    (∃ row ∈ ((bindingOf (str "worker-01")).foldl (@Store.after Unicode.ascii) Store.empty).db.states,
      row.workerInstallationId = str "worker-01") ∧
    ∀ row ∈ ((bindingOf (str "worker-01")).foldl (@Store.after Unicode.ascii) Store.empty).db.states,
      @ReadBack Unicode.ascii
        ((bindingOf (str "worker-01")).foldl (@Store.after Unicode.ascii) Store.empty).db row := by
  let _ := Unicode.ascii
  obtain ⟨hadmitted, hbound⟩ := @bindingOf_spec (str "worker-01")
    (by simp) (by decide +kernel)
  have hname : vaultTokenRe.search (str "worker-01") = false := by with_unfolding_all decide
  refine ⟨hbound, (readBack_of_run hadmitted).2 ?_⟩
  exact List.forall_mem_cons.mpr ⟨trivial, List.forall_mem_singleton.mpr hname⟩

/-- A worker with the name of a token header is bound, and its enrollment is not shown again. -/
theorem tokenWorker_not_readBack :
    @Along Store Move (@Store.after Unicode.ascii) (@Store.Admits Unicode.ascii) Store.empty
        (bindingOf (str "x-vault-token")) ∧
      ∃ row ∈ ((bindingOf (str "x-vault-token")).foldl (@Store.after Unicode.ascii)
        Store.empty).db.states, ¬@ReadBack Unicode.ascii
          ((bindingOf (str "x-vault-token")).foldl (@Store.after Unicode.ascii) Store.empty).db row := by
  let _ := Unicode.ascii
  obtain ⟨hadmitted, row, hrow, hbound⟩ := @bindingOf_spec
    (str "x-vault-token") (by simp) (by decide +kernel)
  have hname : vaultTokenRe.search (str "x-vault-token") = true := by with_unfolding_all decide
  refine ⟨hadmitted, row, hrow, fun h => ?_⟩
  have hsound : ((bindingOf (str "x-vault-token")).foldl Store.after Store.empty).Sound :=
    hadmitted.invariant (fun store move hstore hadmits => hstore.after hadmits) sound_empty
  have hshown := (readBack_iff hsound.consistent hrow).mp h
  rw [hbound, hname] at hshown
  cases hshown

end Secp.Enrollment
