import Mathlib.Algebra.BigOperators.Group.List.Basic
import Secp.Leases.Executions
import Secp.Logic.Run

/-!
# How often credentials are resolved

The attempt of an execution is counted inside its own transaction, so the count is only as durable as the
execution: one that resolved its credentials and is rolled back leaves no trace. While none is, and while
no lease is inserted on a count that is no longer the committed one, the budget bounds the resolutions.
-/

namespace Secp.Leases

open Secp.Python Secp.Logic

variable {binding : ExecutionBinding} {db db' : LeaseTables} {tx : Transaction}
  {lease : ExecutionLease} {id : Str}

/-! ## Counting -/

theorem priorUsed_append (leases added : List ExecutionLease) (binding : ExecutionBinding) :
    priorUsed (leases ++ added) binding = priorUsed leases binding + priorUsed added binding := by
  unfold priorUsed
  rw [List.filter_append, List.map_append, List.sum_append]

theorem priorUsed_singleton (hbinding : lease.binding = binding) :
    priorUsed [lease] binding = lease.attemptsUsed := by
  simp [priorUsed, hbinding]

/-- A write that leaves the count of a row leaves the count of the operation. -/
theorem priorUsed_setLease {write : ExecutionLease → ExecutionLease}
    (hwrite : ∀ lease, (write lease).binding = lease.binding ∧
      (write lease).attemptsUsed = lease.attemptsUsed) :
    priorUsed (db.setLease id write).leases binding = priorUsed db.leases binding := by
  show priorUsed (db.leases.map fun lease => if lease.id = id then write lease else lease) binding = _
  induction db.leases with
  | nil => rfl
  | cons lease leases ih =>
      rw [List.map_cons, ← List.singleton_append, ← @List.singleton_append _ _ leases,
        priorUsed_append, priorUsed_append, ih]
      congr 1
      split
      · simp only [priorUsed, List.filter_cons, (hwrite lease).1]
        split
        · simp [(hwrite lease).2]
        · rfl
      · rfl

theorem priorUsed_expire :
    priorUsed (db.setLease id expire).leases binding = priorUsed db.leases binding :=
  priorUsed_setLease fun _ => ⟨rfl, rfl⟩

theorem priorUsed_endExecution {leaseId attemptId : Str} {status : PlanGenerationAttemptStatus}
    {writeAttempt : GenerationAttempt → GenerationAttempt}
    {writeLease : ExecutionLease → ExecutionLease} {legal : Bool}
    (h : endExecution db leaseId attemptId status writeAttempt writeLease legal = some db')
    (hwrite : ∀ lease, (writeLease lease).binding = lease.binding ∧
      (writeLease lease).attemptsUsed = lease.attemptsUsed) :
    priorUsed db'.leases binding = priorUsed db.leases binding := by
  obtain ⟨_, _, -, -, -, hleases⟩ := endExecution_eq_some h
  rw [hleases]
  split
  · exact priorUsed_setLease hwrite
  · rfl

theorem priorUsed_view : priorUsed (tx.view db).leases binding =
    priorUsed db.leases binding + priorUsed tx.lease.toList binding := by
  show priorUsed (_ ++ _) binding = _
  rw [priorUsed_append]
  cases tx.expired with
  | none => rfl
  | some id => rw [priorUsed_expire]

/-! ## Rows of one worker -/

/-- The ids of the rows. -/
def LeaseTables.ids (db : LeaseTables) : List Str × List Str :=
  (db.leases.map ExecutionLease.id, db.attempts.map GenerationAttempt.id)

theorem ids_expire : (db.setLease id expire).ids = db.ids := by
  refine Prod.ext ?_ rfl
  show (db.leases.map fun lease => if lease.id = id then expire lease else lease).map _ = _
  rw [List.map_map]
  refine List.map_congr_left fun lease _ => ?_
  show (if lease.id = id then expire lease else lease).id = lease.id
  split <;> rfl

theorem ids_view (hlease : tx.lease = none) (hattempt : tx.attempt = none) :
    (tx.view db).ids = db.ids := by
  unfold Transaction.view LeaseTables.ids
  rw [hlease, hattempt]
  simp only [Option.toList_none, List.append_nil]
  cases tx.expired with
  | none => rfl
  | some id => exact ids_expire

/-- The lease an execution holds: its own row, with a count of its own. -/
def Execution.Leased (binding : ExecutionBinding) (db : LeaseTables) (attemptsUsed : Int)
    (execution : Execution) : Prop :=
  ∃ lease, execution.tx.lease = some lease ∧ lease.binding = binding ∧
    lease.attemptsUsed = attemptsUsed ∧ lease.id ∉ db.ids.1

def Execution.Running (db : LeaseTables) (execution : Execution) : Prop :=
  ∃ attempt, execution.tx.attempt = some attempt ∧ attempt.id = execution.request.attemptId ∧
    attempt.status = .running ∧ attempt.id ∉ db.ids.2

/-- A phase at which nothing was inserted. -/
def Phase.rowless : Phase → Bool
  | .leased | .begun | .resolved => false
  | _ => true

theorem ne_resolved_of_rowless {phase : Phase} (h : phase.rowless = true) : phase ≠ .resolved := by
  intro hphase
  rw [hphase] at h
  cases h

/-- What the transaction of an execution has written at each of its phases. -/
def Execution.Holds (binding : ExecutionBinding) (db : LeaseTables) (execution : Execution) : Prop :=
  match execution.phase with
  | .leased => execution.Leased binding db 0 ∧ execution.tx.attempt = none
  | .begun => execution.Leased binding db 1 ∧ execution.Running db
  | .resolved => execution.Leased binding db 1 ∧ execution.Running db
  | _ => execution.tx.lease = none ∧ execution.tx.attempt = none

variable {execution : Execution}

theorem Execution.Holds.congr (h : execution.Holds binding db) (hids : db'.ids = db.ids) :
    execution.Holds binding db' := by
  unfold Execution.Holds Execution.Leased Execution.Running at h ⊢
  rw [hids]
  exact h

/-- An execution without rows of its own does not depend on the tables. -/
theorem Execution.Holds.of_none (h : execution.Holds binding db) (hlease : execution.tx.lease = none) :
    execution.Holds binding db' := by
  unfold Execution.Holds at h ⊢
  cases hphase : execution.phase with
  | leased =>
      rw [hphase] at h
      obtain ⟨⟨lease, hsome, -⟩, -⟩ := h
      exact absurd (hlease.symm.trans hsome) (by simp)
  | begun =>
      rw [hphase] at h
      obtain ⟨⟨lease, hsome, -⟩, -⟩ := h
      exact absurd (hlease.symm.trans hsome) (by simp)
  | resolved =>
      rw [hphase] at h
      obtain ⟨⟨lease, hsome, -⟩, -⟩ := h
      exact absurd (hlease.symm.trans hsome) (by simp)
  | _ =>
      rw [hphase] at h
      exact h

theorem holds_idle : Execution.idle.Holds binding db := ⟨rfl, rfl⟩

/-! ## Terminal calls on a view -/

theorem lease?_view (hlease : tx.lease = some lease) (hfresh : lease.id ∉ db.ids.1) :
    (tx.view db).lease? lease.id = some lease := by
  have hrest : ∀ db' : LeaseTables, db'.ids = db.ids →
      db'.leases.find? (fun other => other.id = lease.id) = none := by
    intro db' hids
    rw [List.find?_eq_none]
    intro other hother hid
    refine hfresh (hids ▸ List.mem_map.mpr ⟨other, hother, of_decide_eq_true hid⟩)
  unfold LeaseTables.lease? Transaction.view
  rw [hlease]
  simp only [Option.toList_some, List.find?_append]
  cases tx.expired with
  | none => rw [hrest db rfl]; simp
  | some id => rw [hrest _ ids_expire]; simp

theorem attempt?_view {attempt : GenerationAttempt} (hattempt : tx.attempt = some attempt)
    (hfresh : attempt.id ∉ db.ids.2) : (tx.view db).attempt? attempt.id = some attempt := by
  have hrest : db.attempts.find? (fun other => other.id = attempt.id) = none := by
    rw [List.find?_eq_none]
    intro other hother hid
    exact hfresh (List.mem_map.mpr ⟨other, hother, of_decide_eq_true hid⟩)
  unfold LeaseTables.attempt? Transaction.view
  rw [hattempt]
  simp only [Option.toList_some, List.find?_append]
  rw [hrest]
  simp

/-- A legal terminal call on a running attempt goes through. -/
theorem exists_endExecution {leaseId attemptId : Str} {attempt : GenerationAttempt}
    {status : PlanGenerationAttemptStatus} {writeAttempt : GenerationAttempt → GenerationAttempt}
    {writeLease : ExecutionLease → ExecutionLease} (hlease : db.lease? leaseId = some lease)
    (hattempt : db.attempt? attemptId = some attempt) (hmay : MayBecome attempt.status status) :
    ∃ db', endExecution db leaseId attemptId status writeAttempt writeLease true = some db' := by
  unfold endExecution
  rw [hlease, hattempt]
  dsimp only
  rw [if_neg (not_not.mpr hmay)]
  split
  · exact ⟨_, if_pos rfl⟩
  · exact ⟨_, rfl⟩

/-! ## The invariant -/

/-- One lease at most is uncommitted, and with it the count stays within the budget; every resolution is
counted in a committed row or by the execution that holds that lease. -/
structure Within (binding : ExecutionBinding) {ω : Type} (s : Executions ω) : Prop where
  holds : ∀ w, (s.worker w).Holds binding s.db
  inserting : ∀ w lease, (s.worker w).tx.lease = some lease → s.inserting = some w
  free : s.inserting = none →
    s.resolutions ≤ priorUsed s.db.leases binding ∧
      priorUsed s.db.leases binding ≤ planExecutionAttemptBudget
  held : ∀ w, s.inserting = some w →
    priorUsed s.db.leases binding + 1 ≤ planExecutionAttemptBudget ∧
      s.resolutions ≤ priorUsed s.db.leases binding +
        if (s.worker w).phase = .resolved then 1 else 0

variable {ω : Type} {s : Executions ω} {worker : ω}

theorem within_start : Within binding (Executions.start : Executions ω) := by
  refine ⟨fun _ => holds_idle, fun w lease hlease => ?_, fun _ => ?_, fun w hw => ?_⟩
  · cases hlease
  · refine ⟨Int.le_refl 0, ?_⟩
    show (0 : Int) ≤ 3
    omega
  · cases hw

/-- The execution of a worker that holds no rows. -/
theorem Within.tx_none (h : Within binding s)
    (hphase : (s.worker worker).phase.rowless = true) :
    (s.worker worker).tx.lease = none ∧ (s.worker worker).tx.attempt = none := by
  have hholds := h.holds worker
  unfold Execution.Holds at hholds
  cases hcase : (s.worker worker).phase with
  | leased =>
      rw [hcase] at hphase
      cases hphase
  | begun =>
      rw [hcase] at hphase
      cases hphase
  | resolved =>
      rw [hcase] at hphase
      cases hphase
  | _ =>
      rw [hcase] at hholds
      exact hholds

/-- Committed rows with the same ids and the same count. -/
theorem Within.tables (h : Within binding s) (hids : db'.ids = s.db.ids)
    (hused : priorUsed db'.leases binding = priorUsed s.db.leases binding) :
    Within binding { s with db := db' } := by
  refine ⟨fun w => (h.holds w).congr hids, h.inserting, ?_, ?_⟩
  · show s.inserting = none → _ ≤ priorUsed db'.leases binding ∧ priorUsed db'.leases binding ≤ _
    rw [hused]
    exact h.free
  · show ∀ w, s.inserting = some w →
      priorUsed db'.leases binding + 1 ≤ _ ∧ _ ≤ priorUsed db'.leases binding + _
    rw [hused]
    exact h.held

variable [DecidableEq ω]

/-- A worker goes on without a new row. -/
theorem Within.set (h : Within binding s) {execution : Execution}
    (hholds : execution.Holds binding s.db)
    (hlease : execution.tx.lease ≠ none → (s.worker worker).tx.lease ≠ none)
    (hphase : (s.worker worker).phase ≠ .resolved) (hphase' : execution.phase ≠ .resolved) :
    Within binding (s.set worker execution) := by
  refine ⟨fun w => ?_, fun w lease hw => ?_, h.free, fun w hw => ?_⟩
  · by_cases heq : w = worker
    · subst heq
      show (Function.update s.worker w execution w).Holds binding s.db
      rw [Function.update_self]
      exact hholds
    · show (Function.update s.worker worker execution w).Holds binding s.db
      rw [Function.update_of_ne heq]
      exact h.holds w
  · by_cases heq : w = worker
    · subst heq
      replace hw : (Function.update s.worker w execution w).tx.lease = some lease := hw
      rw [Function.update_self] at hw
      obtain ⟨own, hown⟩ := Option.ne_none_iff_exists'.mp (hlease (by rw [hw]; simp))
      exact h.inserting w own hown
    · replace hw : (Function.update s.worker worker execution w).tx.lease = some lease := hw
      rw [Function.update_of_ne heq] at hw
      exact h.inserting w lease hw
  · have hheld := h.held w hw
    refine ⟨hheld.1, ?_⟩
    show _ ≤ _ + if (Function.update s.worker worker execution w).phase = .resolved then 1 else 0
    by_cases heq : w = worker
    · subst heq
      rw [Function.update_self, if_neg hphase']
      rw [if_neg hphase] at hheld
      exact hheld.2
    · rw [Function.update_of_ne heq]
      exact hheld.2

theorem release_eq_some {lock : Option ω} {w : ω} :
    release worker lock = some w ↔ lock = some w ∧ w ≠ worker := by
  unfold release
  split
  · next hown =>
      subst hown
      simp [eq_comm]
  · next hother =>
      constructor
      · intro hlock
        exact ⟨hlock, fun heq => hother (heq ▸ hlock)⟩
      · exact And.left

theorem release_eq_none {lock : Option ω} :
    release worker lock = none ↔ lock = none ∨ lock = some worker := by
  unfold release
  split
  · next hown => simp [hown]
  · next hother => simp [hother]

/-- An execution that has not resolved credentials may be rolled back. -/
theorem Within.rollback (h : Within binding s) (hphase : (s.worker worker).phase ≠ .resolved) :
    Within binding (s.rollback worker) := by
  refine ⟨fun w => ?_, fun w lease hw => ?_, fun hfree => ?_, fun w hw => ?_⟩
  · show (Function.update s.worker worker Execution.idle w).Holds binding s.db
    by_cases heq : w = worker
    · subst heq
      rw [Function.update_self]
      exact holds_idle
    · rw [Function.update_of_ne heq]
      exact h.holds w
  · replace hw : (Function.update s.worker worker Execution.idle w).tx.lease = some lease := hw
    by_cases heq : w = worker
    · subst heq
      rw [Function.update_self] at hw
      cases hw
    · rw [Function.update_of_ne heq] at hw
      exact release_eq_some.mpr ⟨h.inserting w lease hw, heq⟩
  · show s.resolutions ≤ priorUsed s.db.leases binding ∧
      priorUsed s.db.leases binding ≤ planExecutionAttemptBudget
    rcases release_eq_none.mp hfree with hnone | hown
    · exact h.free hnone
    · have hheld := h.held worker hown
      rw [if_neg hphase] at hheld
      omega
  · obtain ⟨hother, heq⟩ := release_eq_some.mp hw
    have hheld := h.held w hother
    refine ⟨hheld.1, ?_⟩
    show _ ≤ _ + if (Function.update s.worker worker Execution.idle w).phase = .resolved then 1 else 0
    rw [Function.update_of_ne heq]
    exact hheld.2

/-- A refused acquisition commits no row of its own. -/
theorem Within.refuse (h : Within binding s)
    (hphase : (s.worker worker).phase.rowless = true) : Within binding (s.refuse worker) := by
  obtain ⟨hlease, hattempt⟩ := h.tx_none hphase
  refine (h.rollback (ne_resolved_of_rowless hphase)).tables (ids_view hlease hattempt) ?_
  rw [priorUsed_view, hlease]
  exact Int.add_zero _

/-- The commit of the execution that holds the lease counts its attempt. -/
theorem Within.commit (h : Within binding s) (hinserting : s.inserting = some worker)
    (hused : priorUsed db'.leases binding = priorUsed s.db.leases binding + 1) :
    Within binding (s.commit worker db') := by
  have hothers : ∀ w, w ≠ worker → (s.worker w).tx.lease = none := by
    intro w hw
    cases hlease : (s.worker w).tx.lease with
    | none => rfl
    | some lease =>
        have hown := h.inserting w lease hlease
        rw [hinserting] at hown
        exact absurd (Option.some.inj hown).symm hw
  have hheld := h.held worker hinserting
  have hresolutions : (s.resolutions : Int) ≤ priorUsed s.db.leases binding + 1 := by
    split at hheld <;> omega
  refine ⟨fun w => ?_, fun w lease hw => ?_, fun _ => ?_, fun w hw => ?_⟩
  · show (Function.update s.worker worker Execution.idle w).Holds binding db'
    by_cases heq : w = worker
    · subst heq
      rw [Function.update_self]
      exact holds_idle
    · rw [Function.update_of_ne heq]
      exact (h.holds w).of_none (hothers w heq)
  · replace hw : (Function.update s.worker worker Execution.idle w).tx.lease = some lease := hw
    by_cases heq : w = worker
    · subst heq
      rw [Function.update_self] at hw
      cases hw
    · rw [Function.update_of_ne heq, hothers w heq] at hw
      cases hw
  · show s.resolutions ≤ priorUsed db'.leases binding ∧
      priorUsed db'.leases binding ≤ planExecutionAttemptBudget
    rw [hused]
    exact ⟨hresolutions, hheld.1⟩
  · have hlocked := release_eq_some.mp hw
    rw [hinserting] at hlocked
    exact absurd (Option.some.inj hlocked.1).symm hlocked.2

/-! ## Steps -/

/-- No execution that has resolved credentials is rolled back, and a lease is inserted only while the
committed attempts are below the budget. -/
def Steady (binding : ExecutionBinding) (s : Executions ω) : Progress ω → Prop
  | .start _ _ => True
  | .proceed worker => ∀ leaseEpoch, (s.worker worker).phase = .numbered leaseEpoch →
      priorUsed s.db.leases binding < planExecutionAttemptBudget
  | .finish worker outcome => outcome = .uncertain → (s.worker worker).phase ≠ .resolved
  | .crash worker => (s.worker worker).phase ≠ .resolved

/-- A worker without rows goes to a phase without rows. -/
theorem Within.advance (h : Within binding s) {phase : Phase}
    (hphase : (s.worker worker).phase.rowless = true)
    (hnext : phase.rowless = true) (request : ExecutionRequest)
    (expired : Option Str) :
    Within binding (s.set worker
      ⟨phase, request, { (s.worker worker).tx with expired := expired }⟩) := by
  obtain ⟨hlease, hattempt⟩ := h.tx_none hphase
  refine h.set ?_ id (ne_resolved_of_rowless hphase) (ne_resolved_of_rowless hnext)
  cases phase with
  | leased => cases hnext
  | begun => cases hnext
  | resolved => cases hnext
  | _ => exact ⟨hlease, hattempt⟩

theorem Within.insert (h : Within binding s) {leaseEpoch : Int}
    (hphase : (s.worker worker).phase = .numbered leaseEpoch)
    (hbudget : priorUsed s.db.leases binding < planExecutionAttemptBudget)
    (hlock : s.inserting = none ∨ s.inserting = some worker)
    (hfree : ¬(((s.worker worker).tx.view s.db).leases.any fun other =>
      Conflicts ((s.worker worker).request.lease.lease binding leaseEpoch) other) = true) :
    Within binding
      { s.set worker
          { s.worker worker with
            phase := .leased
            tx :=
              { (s.worker worker).tx with
                lease := some ((s.worker worker).request.lease.lease binding leaseEpoch) } } with
        inserting := some worker } := by
  have hrowless := congrArg Phase.rowless hphase
  obtain ⟨hlease, hattempt⟩ := h.tx_none hrowless
  have hresolutions : s.resolutions ≤ priorUsed s.db.leases binding := by
    rcases hlock with hnone | hown
    · exact (h.free hnone).1
    · have hheld := h.held worker hown
      rw [if_neg (ne_resolved_of_rowless hrowless)] at hheld
      omega
  have hfresh : ((s.worker worker).request.lease.lease binding leaseEpoch).id ∉ s.db.ids.1 := by
    rw [← ids_view hlease hattempt]
    intro hmem
    obtain ⟨other, hother, hid⟩ := List.mem_map.mp hmem
    exact hfree (List.any_eq_true.mpr ⟨other, hother, decide_eq_true (.inl hid)⟩)
  have hothers : ∀ w own, w ≠ worker → (s.worker w).tx.lease ≠ some own := by
    intro w own hw hown
    have hinserting := h.inserting w own hown
    rcases hlock with hnone | hmine
    · rw [hnone] at hinserting
      cases hinserting
    · rw [hmine] at hinserting
      exact hw (Option.some.inj hinserting).symm
  refine ⟨fun w => ?_, fun w own hw => ?_, fun hnone => ?_, fun w hw => ?_⟩
  · show (Function.update s.worker worker _ w).Holds binding s.db
    by_cases heq : w = worker
    · subst heq
      rw [Function.update_self]
      exact ⟨⟨_, rfl, rfl, rfl, hfresh⟩, hattempt⟩
    · rw [Function.update_of_ne heq]
      exact h.holds w
  · by_cases heq : w = worker
    · rw [heq]
    · replace hw : (Function.update s.worker worker _ w).tx.lease = some own := hw
      rw [Function.update_of_ne heq] at hw
      exact absurd hw (hothers w own heq)
  · cases hnone
  · cases hw
    refine ⟨hbudget, ?_⟩
    show _ ≤ _ + if (Function.update s.worker worker _ worker).phase = .resolved then 1 else 0
    rw [Function.update_self]
    show (s.resolutions : Int) ≤ priorUsed s.db.leases binding + 0
    omega

theorem Within.begin (h : Within binding s) (hphase : (s.worker worker).phase = .leased)
    (hlease : (s.worker worker).tx.lease = some lease)
    (hbegun : beginExecution ((s.worker worker).tx.view s.db) lease.id binding
      (s.worker worker).request.attemptId (s.worker worker).request.lease.now = some db') :
    Within binding (s.set worker
      { s.worker worker with
        phase := .begun
        tx :=
          { (s.worker worker).tx with
            lease := some lease.begun
            attempt := some (runningAttempt (s.worker worker).request.attemptId binding
              (s.worker worker).request.lease.now) } }) := by
  have hholds := h.holds worker
  unfold Execution.Holds at hholds
  rw [hphase] at hholds
  obtain ⟨⟨own, hown, hbinding, hused, hfresh⟩, hattempt⟩ := hholds
  cases hown.symm.trans hlease
  refine h.set ?_ (fun _ => by rw [hlease]; simp) (by rw [hphase]; simp) (by simp)
  refine ⟨⟨lease.begun, rfl, hbinding, ?_, hfresh⟩, ⟨_, rfl, rfl, rfl, ?_⟩⟩
  · show lease.attemptsUsed + 1 = 1
    omega
  · unfold beginExecution at hbegun
    split at hbegun
    · cases hbegun
    · split at hbegun
      · cases hbegun
      · split at hbegun
        · cases hbegun
        · next hnew =>
            intro hmem
            obtain ⟨other, hother, hid⟩ := List.mem_map.mp hmem
            refine hnew (List.any_eq_true.mpr ⟨other, ?_, decide_eq_true hid⟩)
            exact List.mem_append_left _ hother

theorem Within.resolve (h : Within binding s) (hphase : (s.worker worker).phase = .begun) :
    Within binding { s.set worker { s.worker worker with phase := .resolved } with
      resolutions := s.resolutions + 1 } := by
  have hholds := h.holds worker
  unfold Execution.Holds at hholds
  rw [hphase] at hholds
  obtain ⟨⟨own, hown, howns⟩, hrunning⟩ := hholds
  have hinserting := h.inserting worker own hown
  have hheld := h.held worker hinserting
  rw [hphase, if_neg (by simp)] at hheld
  refine ⟨fun w => ?_, fun w lease hw => ?_, fun hnone => ?_, fun w hw => ?_⟩
  · show (Function.update s.worker worker _ w).Holds binding s.db
    by_cases heq : w = worker
    · subst heq
      rw [Function.update_self]
      exact ⟨⟨own, hown, howns⟩, hrunning⟩
    · rw [Function.update_of_ne heq]
      exact h.holds w
  · replace hw : (Function.update s.worker worker _ w).tx.lease = some lease := hw
    by_cases heq : w = worker
    · rw [heq]
      exact hinserting
    · rw [Function.update_of_ne heq] at hw
      exact h.inserting w lease hw
  · exact absurd (hinserting.symm.trans hnone) (by simp)
  · cases hinserting.symm.trans hw
    refine ⟨hheld.1, ?_⟩
    show _ ≤ _ + if (Function.update s.worker worker _ worker).phase = .resolved then 1 else 0
    rw [Function.update_self, if_pos rfl]
    show ((s.resolutions + 1 : Nat) : Int) ≤ priorUsed s.db.leases binding + 1
    push_cast
    omega

theorem Within.proceed (h : Within binding s) (hsteady : Steady binding s (.proceed worker)) :
    Within binding (s.proceed binding worker) := by
  unfold Executions.proceed
  dsimp only
  split
  · exact h
  · next hphase =>
      have hrowless := congrArg Phase.rowless hphase
      split
      · exact h.refuse hrowless
      · exact h.advance hrowless rfl _ _
  · next hphase =>
      have hrowless := congrArg Phase.rowless hphase
      split
      · exact h.advance hrowless rfl _ _
      · split
        · exact h.refuse hrowless
        · exact h.advance hrowless rfl _ _
      · exact h.rollback (ne_resolved_of_rowless hrowless)
  · next id hphase =>
      have hrowless := congrArg Phase.rowless hphase
      split
      · have hset : Within binding (s.set worker ⟨.freed, (s.worker worker).request, _⟩) :=
          h.advance hrowless rfl _ (some id)
        exact ⟨hset.holds, hset.inserting, hset.free, hset.held⟩
      · exact h
  · next hphase =>
      have hrowless := congrArg Phase.rowless hphase
      split
      · exact h.refuse hrowless
      · exact h.advance hrowless rfl _ _
  · next hphase =>
      have hrowless := congrArg Phase.rowless hphase
      exact h.advance hrowless rfl _ _
  · next leaseEpoch hphase =>
      have hrowless := congrArg Phase.rowless hphase
      split
      · next hlock =>
          split
          · exact h.refuse hrowless
          · next hfree => exact h.insert hphase (hsteady leaseEpoch hphase) hlock hfree
      · exact h
  · next hphase =>
      split
      · exact h
      · next lease hlease =>
          split
          · exact h.rollback (by rw [hphase]; simp)
          · next db' hbegun => exact h.begin hphase hlease hbegun
  · next hphase => exact h.resolve hphase
  · exact h

/-- The rows of an execution behind its begun attempt. -/
structure Open (binding : ExecutionBinding) (db : LeaseTables) (execution : Execution)
    (lease : ExecutionLease) (attempt : GenerationAttempt) : Prop where
  own : execution.tx.lease = some lease
  used : priorUsed (execution.tx.view db).leases binding = priorUsed db.leases binding + 1
  foundLease : (execution.tx.view db).lease? lease.id = some lease
  foundAttempt : (execution.tx.view db).attempt? execution.request.attemptId = some attempt
  running : attempt.status = .running

omit [DecidableEq ω] in
theorem Within.open (h : Within binding s) (hlease : (s.worker worker).tx.lease = some lease)
    (hphase : (s.worker worker).phase = .begun ∨ (s.worker worker).phase = .resolved) :
    ∃ attempt, Open binding s.db (s.worker worker) lease attempt := by
  have hholds : (s.worker worker).Leased binding s.db 1 ∧ (s.worker worker).Running s.db := by
    have hholds := h.holds worker
    unfold Execution.Holds at hholds
    rcases hphase with hphase | hphase
    · rw [hphase] at hholds
      exact hholds
    · rw [hphase] at hholds
      exact hholds
  obtain ⟨⟨own, hown, hbinding, hused, hfresh⟩, attempt, hattempt, hid, hstatus, hnew⟩ := hholds
  cases hown.symm.trans hlease
  refine ⟨attempt, hlease, ?_, lease?_view hlease hfresh, ?_, hstatus⟩
  · rw [priorUsed_view, hlease]
    show _ + priorUsed [lease] binding = _
    rw [priorUsed_singleton hbinding, hused]
  · rw [← hid]
    exact attempt?_view hattempt hnew

/-- A terminal call that goes through counts the attempt. -/
theorem Within.conclude (h : Within binding s) (hinserting : s.inserting = some worker)
    {attempt : GenerationAttempt} (hopen : Open binding s.db (s.worker worker) lease attempt)
    {leaseId attemptId : Str} {status : PlanGenerationAttemptStatus}
    {writeAttempt : GenerationAttempt → GenerationAttempt}
    {writeLease : ExecutionLease → ExecutionLease} {legal : Bool}
    (hended : endExecution ((s.worker worker).tx.view s.db) leaseId attemptId status writeAttempt
      writeLease legal = some db')
    (hwrite : ∀ lease, (writeLease lease).binding = lease.binding ∧
      (writeLease lease).attemptsUsed = lease.attemptsUsed) :
    Within binding (s.commit worker db') := by
  refine h.commit hinserting ?_
  rw [priorUsed_endExecution hended hwrite]
  exact hopen.used

theorem Within.finish (h : Within binding s) {outcome : Outcome}
    (hlease : (s.worker worker).tx.lease = some lease)
    (hphase : (s.worker worker).phase = .begun ∨ (s.worker worker).phase = .resolved)
    (hsteady : outcome = .uncertain → (s.worker worker).phase ≠ .resolved) :
    Within binding (s.finish worker lease outcome) := by
  obtain ⟨attempt, hopen⟩ := h.open hlease hphase
  have hinserting := h.inserting worker lease hlease
  have hmay : ∀ {status : PlanGenerationAttemptStatus},
      (PlanGenerationAttemptStatus.running, status) ∈ attemptTransitions →
        MayBecome attempt.status status := by
    intro status hedge
    rw [hopen.running]
    exact .inr hedge
  unfold Executions.finish
  dsimp only
  cases outcome with
  | failed reasonCode =>
      have hfailed : ∃ db', failAttempt ((s.worker worker).tx.view s.db) lease.id
          (s.worker worker).request.attemptId reasonCode = some db' :=
        exists_endExecution hopen.foundLease hopen.foundAttempt (hmay (by decide))
      obtain ⟨db', hended⟩ := hfailed
      dsimp only
      rw [hended]
      exact h.conclude hinserting hopen hended fun _ => ⟨rfl, rfl⟩
  | uncertain =>
      dsimp only
      unfold Executions.conclude
      split
      · next db' hended => exact h.conclude hinserting hopen hended fun _ => ⟨rfl, rfl⟩
      · exact h.rollback (hsteady rfl)
  | completed resultId =>
      have hconsumed : ∃ db', consumeLease ((s.worker worker).tx.view s.db) lease.id
          (s.worker worker).request.attemptId (some resultId)
          (s.worker worker).request.lease.now = some db' :=
        exists_endExecution hopen.foundLease hopen.foundAttempt (hmay (by decide))
      obtain ⟨db', hended⟩ := hconsumed
      dsimp only
      rw [hended]
      split
      · exact h.commit hinserting hopen.used
      · next hnone hsome =>
          cases hsome
          have hcommit := h.conclude hinserting hopen hended fun _ => ⟨rfl, rfl⟩
          exact ⟨hcommit.holds, hcommit.inserting, hcommit.free, hcommit.held⟩
      · next hnone hraised => cases hraised
  | testOnly =>
      have hconsumed : ∃ db', consumeLease ((s.worker worker).tx.view s.db) lease.id
          (s.worker worker).request.attemptId none (s.worker worker).request.lease.now
            = some db' :=
        exists_endExecution hopen.foundLease hopen.foundAttempt (hmay (by decide))
      obtain ⟨db', hended⟩ := hconsumed
      dsimp only
      rw [hended]
      exact h.conclude hinserting hopen hended fun _ => ⟨rfl, rfl⟩

theorem Within.step (h : Within binding s) (input : Progress ω) (hsteady : Steady binding s input) :
    Within binding (s.step binding input) := by
  cases input with
  | start worker request =>
      unfold Executions.step
      dsimp only
      split
      · next hidle =>
          obtain ⟨hlease, hattempt⟩ := h.tx_none (congrArg Phase.rowless hidle.1)
          refine h.set ⟨rfl, rfl⟩ (fun hown => absurd rfl hown) ?_ (by simp)
          rw [hidle.1]
          simp
      · exact h
  | proceed worker => exact h.proceed hsteady
  | finish worker outcome =>
      unfold Executions.step
      dsimp only
      split
      · exact h
      · next lease hlease =>
          split
          · next hphase =>
              refine h.finish hlease ?_ hsteady
              rcases hphase with hresolved | ⟨hbegun, -⟩
              · exact .inr hresolved
              · exact .inl hbegun
          · exact h
  | crash worker => exact h.rollback hsteady

/-- While no execution that resolved credentials is rolled back and no lease is inserted on a count that
has been overtaken, the budget bounds the executions that resolve credentials. -/
theorem resolutions_le_budget (binding : ExecutionBinding) (inputs : List (Progress ω))
    (h : Along (Executions.step binding) (Steady binding) Executions.start inputs) :
    ((Executions.start.run binding inputs).resolutions : Int) ≤ planExecutionAttemptBudget := by
  have hwithin : Within binding ((Executions.start : Executions ω).run binding inputs) :=
    h.invariant (fun s input hwithin hsteady => hwithin.step input hsteady) within_start
  cases hinserting : (Executions.start.run binding inputs).inserting with
  | none =>
      have hfree := hwithin.free hinserting
      omega
  | some worker =>
      have hheld := hwithin.held worker hinserting
      split at hheld <;> omega

/-! ## Executions that are rolled back -/

def sampleBinding : ExecutionBinding := ⟨str "authorization", 1, str "fingerprint"⟩

def sampleExecution : ExecutionRequest := ⟨⟨str "lease", str "worker", 0, 10⟩, str "attempt"⟩

/-- An execution up to the resolved credentials. -/
def untilResolved : List (Progress Unit) :=
  [.start () sampleExecution, .proceed (), .proceed (), .proceed (), .proceed (), .proceed (),
    .proceed (), .proceed ()]

theorem resolutions_le_budget_failed :
    (Executions.start.run sampleBinding
      (untilResolved ++ [.finish () (.failed (str "plan_failed"))])).resolutions = 1 ∧
    ((Executions.start.run sampleBinding
      (untilResolved ++ [.finish () (.failed (str "plan_failed"))])).resolutions : Int)
        ≤ planExecutionAttemptBudget := by
  refine ⟨by with_unfolding_all decide, resolutions_le_budget sampleBinding _ ?_⟩
  have hlow : ∀ prior : Int, prior = 0 → prior < planExecutionAttemptBudget := by
    intro prior hprior
    rw [hprior]
    decide
  refine ⟨trivial, fun _ _ => hlow _ ?_, fun _ _ => hlow _ ?_, fun _ _ => hlow _ ?_,
    fun _ _ => hlow _ ?_, fun _ _ => hlow _ ?_, fun _ _ => hlow _ ?_, fun _ _ => hlow _ ?_,
    fun huncertain => ?_, trivial⟩
  all_goals first | with_unfolding_all decide | cases huncertain

/-- Four executions resolve their credentials when each crashes behind it. -/
theorem resolutions_gt_budget : ¬∀ inputs : List (Progress Unit),
    ((Executions.start.run sampleBinding inputs).resolutions : Int) ≤ planExecutionAttemptBudget := by
  intro h
  have hfour := h (List.replicate 4 (untilResolved ++ [.crash ()])).flatten
  have hcount : (Executions.start.run sampleBinding
      (List.replicate 4 (untilResolved ++ [.crash ()])).flatten).resolutions = 4 := by
    with_unfolding_all decide
  rw [hcount] at hfour
  exact absurd hfour (by decide)

end Secp.Leases
