import Mathlib.Data.List.Forall2
import Mathlib.Data.List.Nodup
import Secp.Leases.PlanExecution
import Secp.Logic.Run

/-!
# A recovery-required operation

The calls on the rows of one operation, in any order and from any number of workers. A row that left
`active` never comes back to it, so a lease that is recovery-required refuses every later acquisition.
The recovery of an attempt is final for its operation exactly as far as it reaches a lease: when the
lease of the attempt was given up before, only the attempt is marked.
-/

namespace Secp.Leases

open Secp.Python Secp.Logic

/-- A call on one operation; the binding of the caller is that of the operation up to the
authorization. -/
inductive LeaseCall where
  | acquire (authorizationId : Str) (authorizationVersion : Int) (request : LeaseRequest)
  | beginAttempt (leaseId authorizationId : Str) (authorizationVersion : Int) (id : Str) (now : Int)
  | failAttempt (leaseId attemptId reasonCode : Str)
  | requireRecovery (leaseId attemptId reasonCode : Str)
  | consumeLease (leaseId attemptId : Str) (resultId : Option Str) (now : Int)

/-- A call is committed, or it raises and leaves nothing. -/
def LeaseTables.step (fingerprint : Str) (db : LeaseTables) : LeaseCall → LeaseTables
  | .acquire authorizationId authorizationVersion request =>
      match acquireExecutionLease db ⟨authorizationId, authorizationVersion, fingerprint⟩ request with
      | some (_, db') => db'
      | none => db
  | .beginAttempt leaseId authorizationId authorizationVersion id now =>
      (beginExecution db leaseId ⟨authorizationId, authorizationVersion, fingerprint⟩ id now).getD db
  | .failAttempt leaseId attemptId reasonCode =>
      (Leases.failAttempt db leaseId attemptId reasonCode).getD db
  | .requireRecovery leaseId attemptId reasonCode =>
      (Leases.requireRecovery db leaseId attemptId reasonCode).getD db
  | .consumeLease leaseId attemptId resultId now =>
      (Leases.consumeLease db leaseId attemptId resultId now).getD db

def LeaseTables.run (fingerprint : Str) (db : LeaseTables) (calls : List LeaseCall) : LeaseTables :=
  calls.foldl (LeaseTables.step fingerprint) db

variable {fingerprint id : Str} {db db' : LeaseTables} {leases kept : List ExecutionLease}
  {binding : ExecutionBinding} {request : LeaseRequest}

/-! ## Rows grow old -/

/-- What a call may make of a row. -/
structure Older (lease lease' : ExecutionLease) : Prop where
  id : lease'.id = lease.id
  operation : lease'.binding.operationFingerprint = lease.binding.operationFingerprint
  status : lease.status ≠ .active → lease'.status = lease.status

theorem Older.refl (lease : ExecutionLease) : Older lease lease := ⟨rfl, rfl, fun _ => rfl⟩

theorem Older.trans {lease lease' lease'' : ExecutionLease} (h : Older lease lease')
    (h' : Older lease' lease'') : Older lease lease'' := by
  refine ⟨h'.id.trans h.id, h'.operation.trans h.operation, fun hleft => ?_⟩
  have hstatus := h.status hleft
  exact (h'.status (hstatus.symm ▸ hleft)).trans hstatus

/-- Every row of a table is found again, older. -/
def Ages (leases leases' : List ExecutionLease) : Prop := List.Forall₂ Older leases leases'

theorem ages_refl (leases : List ExecutionLease) : Ages leases leases :=
  List.forall₂_same.mpr fun lease _ => .refl lease

theorem ages_setLease {write : ExecutionLease → ExecutionLease}
    (hwrite : ∀ lease ∈ db.leases, lease.id = id → Older lease (write lease)) :
    Ages db.leases (db.setLease id write).leases := by
  refine List.forall₂_map_right_iff.mpr (List.forall₂_same.mpr fun lease hlease => ?_)
  split
  · next hid => exact hwrite lease hlease hid
  · exact .refl lease

theorem Ages.ids (h : Ages leases kept) :
    kept.map ExecutionLease.id = leases.map ExecutionLease.id := by
  induction h with
  | nil => rfl
  | cons hrow _ ih => rw [List.map_cons, List.map_cons, hrow.id, ih]

/-- The row behind an older one. -/
theorem Ages.exists_of_mem (h : Ages leases kept) {lease' : ExecutionLease} (hmem : lease' ∈ kept) :
    ∃ lease ∈ leases, Older lease lease' := by
  induction h with
  | nil => cases hmem
  | @cons lease older leases kept hrow _ ih =>
      cases hmem with
      | head => exact ⟨lease, List.mem_cons_self, hrow⟩
      | tail _ hmem =>
          obtain ⟨lease, hlease, hold⟩ := ih hmem
          exact ⟨lease, List.mem_cons_of_mem _ hlease, hold⟩

theorem Ages.mem (h : Ages leases kept) {lease : ExecutionLease} (hmem : lease ∈ leases) :
    ∃ lease' ∈ kept, Older lease lease' := by
  induction h with
  | nil => cases hmem
  | @cons lease older leases kept hrow _ ih =>
      cases hmem with
      | head => exact ⟨older, List.mem_cons_self, hrow⟩
      | tail _ hmem =>
          obtain ⟨lease', hlease', hold⟩ := ih hmem
          exact ⟨lease', List.mem_cons_of_mem _ hlease', hold⟩

/-- A row with its status changed away from active. -/
theorem older_of_active {lease lease' : ExecutionLease} (hid : lease'.id = lease.id)
    (hbinding : lease'.binding = lease.binding) (hactive : lease.status = .active) :
    Older lease lease' :=
  ⟨hid, by rw [hbinding], fun h => absurd hactive h⟩

/-! ## The operation -/

def ExecutionLease.isActive (lease : ExecutionLease) : Bool := lease.status = .active

/-- The rows of one operation: distinct, and one of them active at most. -/
structure OneActive (fingerprint : Str) (leases : List ExecutionLease) : Prop where
  ids : (leases.map ExecutionLease.id).Nodup
  operation : ∀ lease ∈ leases, lease.binding.operationFingerprint = fingerprint
  single : (leases.filter ExecutionLease.isActive).length ≤ 1

theorem Ages.active_le (h : Ages leases kept) :
    (kept.filter ExecutionLease.isActive).length ≤
      (leases.filter ExecutionLease.isActive).length := by
  induction h with
  | nil => exact Nat.le_refl _
  | @cons lease older leases kept hrow _ ih =>
      rw [List.filter_cons, List.filter_cons]
      by_cases hactive : lease.isActive = true
      · rw [if_pos hactive]
        split
        · exact Nat.succ_le_succ ih
        · exact Nat.le_succ_of_le ih
      · have hstatus := hrow.status fun h => hactive (decide_eq_true h)
        have hleft : ¬older.isActive = true := by
          show ¬decide (older.status = .active) = true
          rw [hstatus]
          exact hactive
        rw [if_neg hactive, if_neg hleft]
        exact ih

theorem OneActive.ages (h : OneActive fingerprint leases) (hages : Ages leases kept) :
    OneActive fingerprint kept := by
  refine ⟨hages.ids ▸ h.ids, fun lease' hmem => ?_, hages.active_le.trans h.single⟩
  obtain ⟨lease, hlease, hold⟩ := hages.exists_of_mem hmem
  exact hold.operation.trans (h.operation lease hlease)

/-- What a call does to the leases: the rows grow older, and a row is added where none is active. -/
def Advances (fingerprint : Str) (leases leases' : List ExecutionLease) : Prop :=
  ∃ kept, Ages leases kept ∧
    (leases' = kept ∨ ∃ lease, leases' = kept ++ [lease] ∧
      lease.binding.operationFingerprint = fingerprint ∧
      ∀ other ∈ kept, other.id ≠ lease.id ∧
        ¬(other.binding.operationFingerprint = fingerprint ∧ other.status = .active))

theorem Ages.advances (h : Ages leases kept) : Advances fingerprint leases kept :=
  ⟨kept, h, .inl rfl⟩

theorem OneActive.advances (h : OneActive fingerprint leases) {leases' : List ExecutionLease}
    (hadvances : Advances fingerprint leases leases') : OneActive fingerprint leases' := by
  obtain ⟨kept, hages, rfl | ⟨lease, rfl, hoperation, hfree⟩⟩ := hadvances
  · exact h.ages hages
  · have hkept := h.ages hages
    refine ⟨?_, fun other hmem => ?_, ?_⟩
    · rw [List.map_append, List.nodup_append]
      refine ⟨hkept.ids, List.nodup_singleton _, fun a ha b hb => ?_⟩
      obtain ⟨other, hother, rfl⟩ := List.mem_map.mp ha
      rw [List.map_singleton, List.mem_singleton] at hb
      rw [hb]
      exact (hfree other hother).1
    · rcases List.mem_append.mp hmem with hmem | hmem
      · exact hkept.operation other hmem
      · rw [List.mem_singleton.mp hmem]
        exact hoperation
    · have hnone : kept.filter ExecutionLease.isActive = [] := by
        rw [List.filter_eq_nil_iff]
        intro other hother hactive
        exact (hfree other hother).2 ⟨hkept.operation other hother, of_decide_eq_true hactive⟩
      rw [List.filter_append, hnone, List.nil_append]
      exact (List.length_filter_le _ _).trans (Nat.le_refl 1)

/-! ## Calls -/

theorem setLease_lease? {write : ExecutionLease → ExecutionLease} {lease : ExecutionLease}
    (hids : (db.leases.map ExecutionLease.id).Nodup) (hlease : db.lease? id = some lease)
    (hwrite : Older lease (write lease)) : Ages db.leases (db.setLease id write).leases := by
  obtain ⟨hmem, hid⟩ := mem_of_lease? hlease
  refine ages_setLease fun other hother hsame => ?_
  rw [List.inj_on_of_nodup_map hids hother hmem (hsame.trans hid.symm)]
  exact hwrite

theorem advances_insertLease (hbinding : binding.operationFingerprint = fingerprint) :
    Advances fingerprint db.leases (insertLease db binding request).2.leases := by
  unfold insertLease
  split
  · exact (ages_refl _).advances
  · dsimp only
    split
    · exact (ages_refl _).advances
    · next hfree =>
        refine ⟨db.leases, ages_refl _, .inr ⟨_, rfl, hbinding, fun other hother => ?_⟩⟩
        have hconflicts : ¬Conflicts
            (request.lease binding (nextLeaseEpoch db.leases binding)) other := by
          intro hconflicts
          exact hfree (List.any_eq_true.mpr ⟨other, hother, decide_eq_true hconflicts⟩)
        refine ⟨fun hid => hconflicts (.inl hid), fun hactive => hconflicts (.inr (.inl ?_))⟩
        exact ⟨hactive.1.trans hbinding.symm, hactive.2⟩

theorem Ages.trans_advances {leases' : List ExecutionLease} (h : Ages leases kept)
    (hadvances : Advances fingerprint kept leases') : Advances fingerprint leases leases' := by
  obtain ⟨later, hages, hlater⟩ := hadvances
  refine ⟨later, ?_, hlater⟩
  exact List.forall₂_iff_get.mpr ⟨by rw [h.length_eq, hages.length_eq], fun i hi hi' =>
    (h.get hi (h.length_eq ▸ hi)).trans (hages.get (h.length_eq ▸ hi) hi')⟩

theorem advances_acquire (hone : OneActive fingerprint db.leases)
    (hbinding : binding.operationFingerprint = fingerprint)
    {outcome : Except LeaseRefusal ExecutionLease}
    (h : acquireExecutionLease db binding request = some (outcome, db')) :
    Advances fingerprint db.leases db'.leases := by
  unfold acquireExecutionLease at h
  split at h
  · cases h
    exact (ages_refl _).advances
  · split at h
    · show Advances fingerprint db.leases (outcome, db').2.leases
      rw [← Option.some.inj h]
      exact advances_insertLease hbinding
    · next existing hactive =>
        split at h
        · cases h
          exact (ages_refl _).advances
        · show Advances fingerprint db.leases (outcome, db').2.leases
          rw [← Option.some.inj h]
          have hmem : existing ∈ activeLeases db.leases binding :=
            hactive ▸ List.mem_singleton_self existing
          obtain ⟨hexisting, hstatus⟩ := List.mem_filter.mp hmem
          have hages : Ages db.leases (db.setLease existing.id expire).leases := by
            refine ages_setLease fun lease hlease hid => ?_
            rw [List.inj_on_of_nodup_map hone.ids hlease hexisting hid]
            exact older_of_active rfl rfl (of_decide_eq_true hstatus).2
          exact hages.trans_advances (advances_insertLease hbinding)
    · cases h

theorem advances_beginExecution (hone : OneActive fingerprint db.leases) {leaseId : Str} {now : Int}
    (h : beginExecution db leaseId binding id now = some db') :
    Advances fingerprint db.leases db'.leases := by
  unfold beginExecution at h
  split at h
  · cases h
  · next lease hlease =>
      split at h
      · cases h
      · split at h
        · cases h
        · cases h
          exact (setLease_lease? hone.ids hlease ⟨rfl, rfl, fun _ => rfl⟩).advances

theorem advances_endExecution (hone : OneActive fingerprint db.leases) {leaseId attemptId : Str}
    {status : PlanGenerationAttemptStatus} {writeAttempt : GenerationAttempt → GenerationAttempt}
    {writeLease : ExecutionLease → ExecutionLease} {legal : Bool}
    (h : endExecution db leaseId attemptId status writeAttempt writeLease legal = some db')
    (hwrite : ∀ lease, (writeLease lease).id = lease.id ∧ (writeLease lease).binding = lease.binding) :
    Advances fingerprint db.leases db'.leases := by
  obtain ⟨lease, attempt, hlease, -, -, hleases⟩ := endExecution_eq_some h
  rw [hleases]
  split
  · next hactive =>
      exact (setLease_lease? hone.ids hlease
        (older_of_active (hwrite lease).1 (hwrite lease).2 hactive)).advances
  · exact (ages_refl _).advances

/-- A call that may raise advances the leases when it does not. -/
theorem advances_getD {result : Option LeaseTables}
    (h : ∀ db', result = some db' → Advances fingerprint db.leases db'.leases) :
    Advances fingerprint db.leases (result.getD db).leases := by
  cases result with
  | none => exact (ages_refl _).advances
  | some db' => exact h db' rfl

theorem OneActive.advances_step (hone : OneActive fingerprint db.leases) (call : LeaseCall) :
    Advances fingerprint db.leases (db.step fingerprint call).leases := by
  cases call with
  | acquire authorizationId authorizationVersion request =>
      unfold LeaseTables.step
      dsimp only
      split
      · next outcome db' hacquire => exact advances_acquire hone rfl hacquire
      · exact (ages_refl _).advances
  | beginAttempt leaseId authorizationId authorizationVersion id now =>
      exact advances_getD fun db' h => advances_beginExecution hone h
  | failAttempt leaseId attemptId reasonCode =>
      exact advances_getD fun db' h => advances_endExecution hone h fun _ => ⟨rfl, rfl⟩
  | requireRecovery leaseId attemptId reasonCode =>
      exact advances_getD fun db' h => advances_endExecution hone h fun _ => ⟨rfl, rfl⟩
  | consumeLease leaseId attemptId resultId now =>
      exact advances_getD fun db' h => advances_endExecution hone h fun _ => ⟨rfl, rfl⟩

theorem OneActive.step (hone : OneActive fingerprint db.leases) (call : LeaseCall) :
    OneActive fingerprint (db.step fingerprint call).leases :=
  hone.advances (hone.advances_step call)

theorem OneActive.run (hone : OneActive fingerprint db.leases) (calls : List LeaseCall) :
    OneActive fingerprint (db.run fingerprint calls).leases := by
  induction calls generalizing db with
  | nil => exact hone
  | cons call calls ih => exact ih (hone.step call)

theorem oneActive_empty : OneActive fingerprint LeaseTables.empty.leases :=
  ⟨List.nodup_nil, fun _ h => absurd h List.not_mem_nil, Nat.zero_le 1⟩

/-! ## A status that was left is left for good -/

theorem Advances.mem {leases' : List ExecutionLease} (h : Advances fingerprint leases leases')
    {lease : ExecutionLease} (hmem : lease ∈ leases) : ∃ lease' ∈ leases', Older lease lease' := by
  obtain ⟨kept, hages, rfl | ⟨added, rfl, -, -⟩⟩ := h
  · exact hages.mem hmem
  · obtain ⟨lease', hlease', hold⟩ := hages.mem hmem
    exact ⟨lease', List.mem_append_left _ hlease', hold⟩

theorem OneActive.mem_run (hone : OneActive fingerprint db.leases) (calls : List LeaseCall)
    {lease : ExecutionLease} (hmem : lease ∈ db.leases) :
    ∃ lease' ∈ (db.run fingerprint calls).leases, Older lease lease' := by
  induction calls generalizing db lease with
  | nil => exact ⟨lease, hmem, .refl lease⟩
  | cons call calls ih =>
      obtain ⟨lease', hlease', hold⟩ := (hone.advances_step call).mem hmem
      obtain ⟨lease'', hlease'', hold'⟩ := ih (hone.step call) hlease'
      exact ⟨lease'', hlease'', hold.trans hold'⟩

theorem OneActive.status_run (hone : OneActive fingerprint db.leases) (calls : List LeaseCall)
    {lease lease' : ExecutionLease} (hmem : lease ∈ db.leases) (hleft : lease.status ≠ .active)
    (hmem' : lease' ∈ (db.run fingerprint calls).leases) (hid : lease'.id = lease.id) :
    lease'.status = lease.status := by
  obtain ⟨older, holder, hold⟩ := hone.mem_run calls hmem
  rw [List.inj_on_of_nodup_map (hone.run calls).ids hmem' holder (hid.trans hold.id.symm)]
  exact hold.status hleft

/-! ## Recovery -/

/-- Some lease of the operation is recovery-required. -/
def Closed (leases : List ExecutionLease) : Prop :=
  ∃ lease ∈ leases, lease.status = .recoveryRequired

theorem OneActive.closed_run (hone : OneActive fingerprint db.leases) (calls : List LeaseCall)
    (h : Closed db.leases) : Closed (db.run fingerprint calls).leases := by
  obtain ⟨lease, hlease, hstatus⟩ := h
  obtain ⟨lease', hlease', hold⟩ := hone.mem_run calls hlease
  refine ⟨lease', hlease', (hold.status fun hactive => ?_).trans hstatus⟩
  rw [hstatus] at hactive
  cases hactive

/-- A recovery-required lease refuses every acquisition of its operation. -/
theorem acquire_ne_of_closed (hone : OneActive fingerprint db.leases) (h : Closed db.leases)
    (hbinding : binding.operationFingerprint = fingerprint) (lease : ExecutionLease)
    (db' : LeaseTables) : acquireExecutionLease db binding request ≠ some (.ok lease, db') := by
  obtain ⟨closed, hclosed, hstatus⟩ := h
  have hrecovery : hasRecoveryRequiredLease db.leases binding = true := by
    refine List.any_eq_true.mpr ⟨closed, hclosed, decide_eq_true ⟨?_, hstatus⟩⟩
    rw [hone.operation closed hclosed, hbinding]
  unfold acquireExecutionLease
  rw [if_pos hrecovery]
  intro hacquired
  cases hacquired

/-- Some attempt is recorded as recovery-required. -/
def Marked (db : LeaseTables) : Prop :=
  ∃ attempt ∈ db.attempts, attempt.status = .recoveryRequired

/-- A recovery is required of a lease that is still active, or of an operation that is closed. -/
def RecoversHeld (db : LeaseTables) : LeaseCall → Prop
  | .requireRecovery leaseId _ _ =>
      (∀ lease, db.lease? leaseId = some lease → lease.status = .active) ∨ Closed db.leases
  | _ => True

theorem closed_of_requireRecovery {leaseId attemptId reasonCode : Str}
    (h : requireRecovery db leaseId attemptId reasonCode = some db')
    (hheld : ∀ lease, db.lease? leaseId = some lease → lease.status = .active) :
    Closed db'.leases := by
  obtain ⟨lease, attempt, hlease, -, -, hleases⟩ := endExecution_eq_some h
  obtain ⟨hmem, hid⟩ := mem_of_lease? hlease
  rw [hleases, if_pos (hheld lease hlease)]
  refine ⟨_, List.mem_map_of_mem hmem, ?_⟩
  rw [if_pos hid]

/-- A terminal call marks no attempt when its status is another one. -/
theorem attempts_endExecution {leaseId attemptId : Str} {status : PlanGenerationAttemptStatus}
    {writeAttempt : GenerationAttempt → GenerationAttempt}
    {writeLease : ExecutionLease → ExecutionLease} {legal : Bool}
    (h : endExecution db leaseId attemptId status writeAttempt writeLease legal = some db')
    (hstatus : status ≠ .recoveryRequired) (hmarked : Marked db') : Marked db := by
  obtain ⟨-, -, -, -, hattempts, -⟩ := endExecution_eq_some h
  obtain ⟨attempt', hmem, hrecovery⟩ := hmarked
  rw [hattempts] at hmem
  obtain ⟨attempt, hattempt, heq⟩ := List.mem_map.mp hmem
  refine ⟨attempt, hattempt, ?_⟩
  split at heq
  · rw [← heq] at hrecovery
    exact absurd hrecovery hstatus
  · rw [heq]
    exact hrecovery

theorem attempts_insertLease : (insertLease db binding request).2.attempts = db.attempts := by
  unfold insertLease
  split
  · rfl
  · dsimp only
    split <;> rfl

theorem attempts_acquire {outcome : Except LeaseRefusal ExecutionLease}
    (h : acquireExecutionLease db binding request = some (outcome, db')) :
    db'.attempts = db.attempts := by
  unfold acquireExecutionLease at h
  show (outcome, db').2.attempts = db.attempts
  split at h
  · rw [← Option.some.inj h]
  · split at h
    · rw [← Option.some.inj h]
      exact attempts_insertLease
    · split at h
      · rw [← Option.some.inj h]
      · rw [← Option.some.inj h]
        exact attempts_insertLease
    · cases h

theorem marked_beginExecution {leaseId : Str} {now : Int}
    (h : beginExecution db leaseId binding id now = some db') (hmarked : Marked db') :
    Marked db := by
  unfold beginExecution at h
  split at h
  · cases h
  · split at h
    · cases h
    · split at h
      · cases h
      · cases h
        obtain ⟨attempt, hmem, hstatus⟩ := hmarked
        rcases List.mem_append.mp hmem with hmem | hmem
        · exact ⟨attempt, hmem, hstatus⟩
        · rw [List.mem_singleton.mp hmem] at hstatus
          cases hstatus

/-- A call that may raise marks nothing by raising. -/
theorem marked_getD {result : Option LeaseTables} (hmarked : Marked (result.getD db)) :
    Marked db ∨ ∃ db', result = some db' ∧ Marked db' := by
  cases result with
  | none => exact .inl hmarked
  | some db' => exact .inr ⟨db', rfl, hmarked⟩

/-- What marks an attempt: it was marked, or a recovery was required. -/
theorem marked_step (call : LeaseCall) (h : Marked (db.step fingerprint call)) : Marked db ∨
    ∃ leaseId attemptId reasonCode db', call = .requireRecovery leaseId attemptId reasonCode ∧
      requireRecovery db leaseId attemptId reasonCode = some db' := by
  cases call with
  | acquire authorizationId authorizationVersion request =>
      unfold LeaseTables.step at h
      dsimp only at h
      split at h
      · next outcome db' hacquire =>
          unfold Marked at h
          rw [attempts_acquire hacquire] at h
          exact .inl h
      · exact .inl h
  | beginAttempt leaseId authorizationId authorizationVersion id now =>
      rcases marked_getD h with h | ⟨db', hresult, h⟩
      · exact .inl h
      · exact .inl (marked_beginExecution hresult h)
  | failAttempt leaseId attemptId reasonCode =>
      rcases marked_getD h with h | ⟨db', hresult, h⟩
      · exact .inl h
      · exact .inl (attempts_endExecution hresult (by decide) h)
  | requireRecovery leaseId attemptId reasonCode =>
      rcases marked_getD h with h | ⟨db', hresult, h⟩
      · exact .inl h
      · exact .inr ⟨leaseId, attemptId, reasonCode, db', rfl, hresult⟩
  | consumeLease leaseId attemptId resultId now =>
      rcases marked_getD h with h | ⟨db', hresult, h⟩
      · exact .inl h
      · exact .inl (attempts_endExecution hresult (by decide) h)

/-- Along recoveries that are held, a marked attempt has closed the operation. -/
theorem closed_of_marked_step (hone : OneActive fingerprint db.leases) {call : LeaseCall}
    (hheld : RecoversHeld db call) (h : Marked db → Closed db.leases)
    (hmarked : Marked (db.step fingerprint call)) :
    Closed (db.step fingerprint call).leases := by
  have hlater : Closed db.leases → Closed (db.step fingerprint call).leases :=
    hone.closed_run [call]
  rcases marked_step call hmarked with hbefore | ⟨leaseId, attemptId, reasonCode, db', rfl, hresult⟩
  · exact hlater (h hbefore)
  · rcases hheld with hactive | hclosed
    · show Closed ((requireRecovery db leaseId attemptId reasonCode).getD db).leases
      rw [hresult]
      exact closed_of_requireRecovery hresult hactive
    · exact hlater hclosed

/-- In every interleaving one lease at most is active, and a lease that left `active` never returns to
it. When each recovery is required of a lease that is still active, or of an operation that is closed
already, no acquisition succeeds once an attempt is recorded as recovery-required. -/
theorem recovery_is_final (fingerprint : Str) (calls : List LeaseCall) :
    let db := LeaseTables.empty.run fingerprint calls
    (db.leases.filter ExecutionLease.isActive).length ≤ 1 ∧
    (∀ later, ∀ lease ∈ db.leases, ∀ lease' ∈ (db.run fingerprint later).leases,
      lease.status ≠ .active → lease'.id = lease.id → lease'.status ≠ .active) ∧
    (Along (LeaseTables.step fingerprint) RecoversHeld LeaseTables.empty calls → Marked db →
      ∀ later binding request lease db', binding.operationFingerprint = fingerprint →
        acquireExecutionLease (db.run fingerprint later) binding request
          ≠ some (.ok lease, db')) := by
  intro db
  have hone : OneActive fingerprint db.leases := oneActive_empty.run calls
  refine ⟨hone.single, fun later lease hmem lease' hmem' hleft hid => ?_, fun hheld hmarked => ?_⟩
  · rw [hone.status_run later hmem hleft hmem' hid]
    exact hleft
  · have hinvariant : OneActive fingerprint db.leases ∧ (Marked db → Closed db.leases) := by
      refine @Along.invariant _ _ _ _
        (fun db => OneActive fingerprint db.leases ∧ (Marked db → Closed db.leases)) _ _
        (fun db call h hheld => ?_) ⟨oneActive_empty, fun h => ?_⟩ hheld
      · exact ⟨h.1.step call, closed_of_marked_step h.1 hheld h.2⟩
      · obtain ⟨attempt, hattempt, -⟩ := h
        cases hattempt
    have hclosed := hinvariant.2 hmarked
    intro later binding request lease db' hbinding
    exact acquire_ne_of_closed (hone.run later) (hone.closed_run later hclosed) hbinding lease db'

/-! ## A recovery that comes after the lease was taken over -/

def sampleRequest (id : Str) (now : Int) : LeaseRequest := ⟨id, str "worker", now, 10⟩

/-- A lease is held while its attempt is recovered. -/
def heldRecovery : List LeaseCall :=
  [.acquire [] 1 (sampleRequest (str "a") 0), .beginAttempt (str "a") [] 1 (str "x") 1,
    .requireRecovery (str "a") (str "x") (str "cleanup_residue")]

theorem recovery_is_final_held : ∀ lease db',
    acquireExecutionLease (LeaseTables.empty.run [] heldRecovery) ⟨[], 1, []⟩
      (sampleRequest (str "b") 20) ≠ some (.ok lease, db') := by
  have hheld : Along (LeaseTables.step []) RecoversHeld LeaseTables.empty heldRecovery := by
    refine ⟨trivial, trivial, .inl fun lease hlease => ?_, trivial⟩
    have hactive : ((((LeaseTables.empty.step [] (.acquire [] 1 (sampleRequest (str "a") 0))).step []
        (.beginAttempt (str "a") [] 1 (str "x") 1)).lease? (str "a")).all
          ExecutionLease.isActive) = true := by
      with_unfolding_all decide
    rw [hlease] at hactive
    exact of_decide_eq_true hactive
  have hmarked : Marked (LeaseTables.empty.run [] heldRecovery) := by
    show ∃ attempt ∈ _, _ = _
    with_unfolding_all decide
  intro lease db'
  exact (recovery_is_final [] heldRecovery).2.2 hheld hmarked [] ⟨[], 1, []⟩
    (sampleRequest (str "b") 20) lease db' rfl

/-- The lease of an attempt expires, is taken over and consumed; then its attempt is recovered. -/
def lateRecovery : List LeaseCall :=
  [.acquire [] 1 (sampleRequest (str "a") 0), .beginAttempt (str "a") [] 1 (str "x") 1,
    .acquire [] 1 (sampleRequest (str "b") 20), .beginAttempt (str "b") [] 1 (str "y") 21,
    .requireRecovery (str "a") (str "x") (str "uncertain_process_termination"),
    .consumeLease (str "b") (str "y") none 22]

/-- A recovery that comes late closes nothing: the operation is leased again. -/
theorem late_recovery_not_final : ¬∀ (fingerprint : Str) (calls later : List LeaseCall),
    Marked (LeaseTables.empty.run fingerprint calls) →
      ∀ binding request lease db', binding.operationFingerprint = fingerprint →
        acquireExecutionLease ((LeaseTables.empty.run fingerprint calls).run fingerprint later)
          binding request ≠ some (.ok lease, db') := by
  intro h
  have hmarked : Marked (LeaseTables.empty.run [] lateRecovery) := by
    show ∃ attempt ∈ _, _ = _
    with_unfolding_all decide
  have hnever := h [] lateRecovery [] hmarked ⟨[], 1, []⟩ (sampleRequest (str "c") 40)
  have hacquired : (acquireExecutionLease (LeaseTables.empty.run [] lateRecovery) ⟨[], 1, []⟩
      (sampleRequest (str "c") 40)).any (fun outcome => outcome.1.toOption.isSome) = true := by
    with_unfolding_all decide
  revert hnever hacquired
  show (∀ lease db', _ → acquireExecutionLease (LeaseTables.empty.run [] lateRecovery) ⟨[], 1, []⟩
      (sampleRequest (str "c") 40) ≠ some (.ok lease, db')) → _
  generalize acquireExecutionLease (LeaseTables.empty.run [] lateRecovery) ⟨[], 1, []⟩
      (sampleRequest (str "c") 40) = outcome
  intro hnever hacquired
  cases outcome with
  | none => cases hacquired
  | some outcome =>
      obtain ⟨result, db'⟩ := outcome
      cases result with
      | error refusal => cases hacquired
      | ok lease => exact hnever lease db' rfl rfl

end Secp.Leases
