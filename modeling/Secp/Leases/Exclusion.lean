import Mathlib.Algebra.Order.Ring.Int
import Secp.Leases.Resolution

/-!
# One operation, one holder, one success

Every transition is a swap on the revision the caller read, so it acts on the row as it is or not at all.
From that, over any interleaving: the row counts the attempts that were begun, no more than the budget;
one worker at most has a copy it can act on; and there is at most one success, behind which nothing moves.
-/

namespace Secp.Leases

open Secp.Python Secp.Logic

variable {ω : Type} {stored : Option ResolutionLease} {row new : ResolutionLease}
  {values : ResolutionLease → ResolutionLease} {answer : Answer}

/-! ## What an answer is -/

theorem cas_eq_some_iff {expectedRevision : Int} : cas stored row expectedRevision values = some new ↔
    ∃ current, stored = some current ∧ current.id = row.id ∧ current.revision = expectedRevision ∧
      new = { values current with revision := expectedRevision + 1 } := by
  unfold cas
  cases stored with
  | none => simp
  | some current =>
      simp only [Option.ite_none_right_eq_some, Option.some.injEq, Bool.and_eq_true, decide_eq_true_eq]
      constructor
      · rintro ⟨⟨hid, hrevision⟩, rfl⟩
        exact ⟨current, rfl, hid, hrevision, rfl⟩
      · rintro ⟨current, rfl, hid, hrevision, rfl⟩
        exact ⟨⟨hid, hrevision⟩, rfl⟩

/-- The row behind a swap. -/
def ResolutionLease.next (current : ResolutionLease) (values : ResolutionLease → ResolutionLease) :
    ResolutionLease :=
  { values current with revision := current.revision + 1 }

@[simp] theorem revision_next (current : ResolutionLease)
    (values : ResolutionLease → ResolutionLease) :
    (current.next values).revision = current.revision + 1 := rfl

/-- What a call does to a row: it refuses, it finds the budget spent, or it swaps the row it was made
on, in a state it may be swapped in. -/
inductive Answers (stored : Option ResolutionLease) (row : ResolutionLease)
    (values : ResolutionLease → ResolutionLease) (may : Prop) : Answer → Prop where
  | refused {reason : ResolutionLeaseReason} : Answers stored row values may (refused stored row reason)
  | exhausted {current : ResolutionLease} (hstored : stored = some current)
      (hrevision : row.revision = current.revision) (hstatus : row.status ≠ .consumed) :
      Answers stored row values may
        ⟨.error .retryBoundExceeded, some (current.next exhaust), current.next exhaust⟩
  | swapped {current : ResolutionLease} (hstored : stored = some current)
      (hrevision : row.revision = current.revision) (hmay : may) :
      Answers stored row values may
        ⟨.ok (current.next values), some (current.next values), current.next values⟩

variable {may : Prop}

/-- A call that returns swapped the latest row. -/
theorem Answers.of_ok (h : Answers stored row values may answer) (hok : answer.result = .ok new) :
    may ∧ ∃ current, stored = some current ∧ row.revision = current.revision := by
  cases h with
  | refused => cases hok
  | exhausted => cases hok
  | @swapped current hstored hrevision hmay => exact ⟨hmay, current, hstored, hrevision⟩

theorem answers_swapped (hmay : may) : Answers stored row values may (swapped stored row values) := by
  unfold swapped
  split
  · next new hcas =>
      obtain ⟨current, hstored, -, hrevision, rfl⟩ := cas_eq_some_iff.mp hcas
      rw [← hrevision]
      exact .swapped hstored hrevision.symm hmay
  · exact .refused

theorem answers_markExhausted (hstatus : row.status ≠ .consumed) :
    Answers stored row values may (markExhausted stored row) := by
  unfold markExhausted
  split
  · next new hcas =>
      obtain ⟨current, hstored, -, hrevision, rfl⟩ := cas_eq_some_iff.mp hcas
      rw [← hrevision]
      exact .exhausted hstored hrevision.symm hstatus
  · exact .refused

theorem answers_reacquireExisting (call : Acquisition) : Answers stored row (reissue call)
    (row.status = .active) (reacquireExisting stored row call) := by
  unfold reacquireExisting
  split
  · exact .refused
  · next hconsumed =>
      split
      · exact answers_markExhausted hconsumed
      · next hspent =>
          split
          · exact .refused
          · refine answers_swapped ?_
            cases hstatus : row.status with
            | active => rfl
            | consumed => exact absurd hstatus hconsumed
            | exhausted => exact absurd (by rw [hstatus]; rfl) hspent

theorem answers_beginAttempt (now : Int) :
    Answers stored row (fun current => { current with attemptCount := row.attemptCount + 1 })
      (row.status = .active ∧ row.attemptCount < retryBudget) (beginAttempt stored row now) := by
  unfold beginAttempt
  split
  · exact .refused
  · next hconsumed =>
      split
      · exact .refused
      · next hactive =>
          split
          · exact .refused
          · split
            · exact answers_markExhausted hconsumed
            · next hspent =>
                exact answers_swapped ⟨not_not.mp hactive, not_le.mp hspent⟩

theorem answers_markConsumed (now : Int) : Answers stored row
    (fun current => { current with status := .consumed, consumedAt := some now })
    (row.status = .active) (markConsumed stored row now) := by
  unfold markConsumed
  split
  · exact .refused
  · next hactive => exact answers_swapped (not_not.mp hactive)

/-! ## The invariant -/

/-- The row accounts for the attempts and for the success. -/
structure Accounts (row : ResolutionLease) (begun consumed : Nat) : Prop where
  attempts : row.attemptCount = begun
  budget : (begun : Int) ≤ retryBudget
  success : consumed ≤ 1
  status : row.status = .consumed ↔ consumed = 1

structure Operation.Safe (s : Operation ω) : Prop where
  loaded : Copied ResolutionLease.revision s.row s.loaded
  snapshot : Copied ResolutionLease.revision s.row s.snapshot
  exclusive : Exclusive ResolutionLease.revision s.row s.snapshot
  accounts : ∀ row, s.row = some row → Accounts row s.begun s.consumed
  fresh : s.row = none → s.begun = 0 ∧ s.consumed = 0

theorem safe_start : (Operation.start : Operation ω).Safe := by
  have hnone : ∀ copy : ω → Option ResolutionLease, (∀ w, copy w = none) →
      Copied ResolutionLease.revision none copy := by
    intro copy hcopy w r hr
    rw [hcopy w] at hr
    cases hr
  refine ⟨hnone _ fun _ => rfl, hnone _ fun _ => rfl, fun v w r s hr => ?_, fun row hrow => ?_,
    fun _ => ⟨rfl, rfl⟩⟩
  · cases hr
  · cases hrow

theorem Accounts.exhaust {begun consumed : Nat} (h : Accounts row begun consumed)
    (hstatus : row.status ≠ .consumed) : Accounts (row.next exhaust) begun consumed := by
  refine ⟨h.attempts, h.budget, h.success, ?_⟩
  exact iff_of_false (fun h => by cases h) fun hone => hstatus (h.status.mpr hone)

variable [DecidableEq ω] {s : Operation ω} {worker : ω}

/-- The object of a call is held; a swap leaves every other copy behind. -/
theorem Operation.Safe.answered (h : s.Safe) (hcopy : s.snapshot worker = some row)
    (hanswers : Answers s.row row values may answer) {begun consumed : Nat}
    (hrefused : ∀ reason, answer.result = .error reason → begun = s.begun ∧ consumed = s.consumed)
    (hswapped : ∀ current, s.row = some current → row = current → may →
      answer.result = .ok (current.next values) →
        Accounts (current.next values) begun consumed) :
    ({ s.answered worker answer with begun := begun, consumed := consumed } : Operation ω).Safe := by
  cases hanswers with
  | refused =>
      obtain ⟨rfl, rfl⟩ := hrefused _ rfl
      have hsame : Function.update s.snapshot worker (some row) = s.snapshot := by
        rw [← hcopy, Function.update_eq_self]
      refine ⟨h.loaded, ?_, ?_, h.accounts, h.fresh⟩
      · show Copied _ s.row (Function.update s.snapshot worker (some row))
        rw [hsame]
        exact h.snapshot
      · show Exclusive _ s.row (Function.update s.snapshot worker (some row))
        rw [hsame]
        exact h.exclusive
  | exhausted hstored hrevision hstatus =>
      obtain ⟨rfl, rfl⟩ := hrefused _ rfl
      obtain ⟨current, hcurrent, -, heq⟩ := h.snapshot worker row hcopy
      cases hstored.symm.trans hcurrent
      cases heq hrevision
      have hlt : row.revision < (row.next exhaust).revision := Int.lt_succ _
      have hloaded := h.loaded
      have hsnapshot := h.snapshot
      rw [hstored] at hloaded hsnapshot
      refine ⟨hloaded.swap hlt, (hsnapshot.swap hlt).take rfl, Exclusive.hand hsnapshot hlt, ?_, ?_⟩
      · intro row' hrow'
        cases hrow'
        exact (h.accounts row hstored).exhaust hstatus
      · intro hnone
        cases hnone
  | swapped hstored hrevision hmay =>
      obtain ⟨current, hcurrent, -, heq⟩ := h.snapshot worker row hcopy
      cases hstored.symm.trans hcurrent
      cases heq hrevision
      have hlt : row.revision < (row.next values).revision := Int.lt_succ _
      have hloaded := h.loaded
      have hsnapshot := h.snapshot
      rw [hstored] at hloaded hsnapshot
      refine ⟨hloaded.swap hlt, (hsnapshot.swap hlt).take rfl, Exclusive.hand hsnapshot hlt, ?_, ?_⟩
      · intro row' hrow'
        cases hrow'
        exact hswapped row hstored rfl hmay rfl
      · intro hnone
        cases hnone

theorem Operation.Safe.beginAttempt (h : s.Safe) (now : Int) :
    (s.step (.beginAttempt worker now)).Safe := by
  unfold Operation.step
  dsimp only
  split
  · exact h
  · next row hcopy =>
      have hanswers := @answers_beginAttempt s.row row now
      split
      · next new hok =>
          refine @Operation.Safe.answered _ _ _ _ _ _ _ _ h hcopy hanswers (s.begun + 1) s.consumed
            (fun reason herror => ?_) (fun current hrow heq hmay hresult => ?_)
          · rw [hok] at herror
            cases herror
          · subst heq
            have haccounts := h.accounts row hrow
            refine ⟨?_, ?_, haccounts.success, haccounts.status⟩
            · show row.attemptCount + 1 = _
              rw [haccounts.attempts]
              rfl
            · have hlt := hmay.2
              rw [haccounts.attempts] at hlt
              push_cast
              omega
      · next reason herror =>
          refine @Operation.Safe.answered _ _ _ _ _ _ _ _ h hcopy hanswers s.begun s.consumed
            (fun _ _ => ⟨rfl, rfl⟩) (fun current hrow heq hmay hresult => ?_)
          rw [herror] at hresult
          cases hresult

theorem Operation.Safe.markConsumed (h : s.Safe) (now : Int) :
    (s.step (.markConsumed worker now)).Safe := by
  unfold Operation.step
  dsimp only
  split
  · exact h
  · next row hcopy =>
      have hanswers := @answers_markConsumed s.row row now
      split
      · next new hok =>
          refine @Operation.Safe.answered _ _ _ _ _ _ _ _ h hcopy hanswers s.begun (s.consumed + 1)
            (fun reason herror => ?_) (fun current hrow heq hmay hresult => ?_)
          · rw [hok] at herror
            cases herror
          · subst heq
            have haccounts := h.accounts row hrow
            have hnone : s.consumed = 0 := by
              have hne : s.consumed ≠ 1 := by
                intro hone
                have hconsumed := haccounts.status.mpr hone
                rw [hmay] at hconsumed
                cases hconsumed
              have hle := haccounts.success
              omega
            refine ⟨haccounts.attempts, haccounts.budget, ?_, ?_⟩
            · omega
            · exact iff_of_true rfl (by omega)
      · next reason herror =>
          refine @Operation.Safe.answered _ _ _ _ _ _ _ _ h hcopy hanswers s.begun s.consumed
            (fun _ _ => ⟨rfl, rfl⟩) (fun current hrow heq hmay hresult => ?_)
          rw [herror] at hresult
          cases hresult

theorem Operation.Safe.load (h : s.Safe) : (s.step (.load worker)).Safe := by
  refine ⟨?_, h.snapshot, h.exclusive, h.accounts, h.fresh⟩
  show Copied _ s.row (Function.update s.loaded worker s.row)
  cases hrow : s.row with
  | none => exact (hrow ▸ h.loaded).drop
  | some row => exact (hrow ▸ h.loaded).take rfl

theorem accounts_newLease (call : Acquisition) : Accounts (newLease call) 0 0 := by
  refine ⟨rfl, ?_, by omega, ?_⟩
  · show (0 : Int) ≤ 3
    omega
  · exact iff_of_false (fun h => by cases h) (by omega)

theorem Operation.Safe.insert (h : s.Safe) (call : Acquisition) :
    (s.step (.insert worker call)).Safe := by
  unfold Operation.step
  dsimp only
  split
  · exact h
  · split
    · next row hrow =>
        have hloaded := h.loaded
        rw [hrow] at hloaded
        refine ⟨?_, h.snapshot, h.exclusive, h.accounts, h.fresh⟩
        show Copied _ s.row (Function.update s.loaded worker (some row))
        rw [hrow]
        exact hloaded.take rfl
    · next hrow =>
        have hloaded := h.loaded
        have hsnapshot := h.snapshot
        rw [hrow] at hloaded hsnapshot
        obtain ⟨hbegun, hconsumed⟩ := h.fresh hrow
        have hfirst : ∀ {copy : ω → Option ResolutionLease},
            Copied ResolutionLease.revision none copy →
              Copied ResolutionLease.revision (some (newLease call)) copy := by
          intro copy hcopy v r hr
          rw [hcopy.eq_none v] at hr
          cases hr
        refine ⟨hfirst hloaded, (hfirst hsnapshot).take rfl, exclusive_first hsnapshot.eq_none,
          fun row hinserted => ?_, fun hnone => by cases hnone⟩
        cases hinserted
        show Accounts _ s.begun s.consumed
        rw [hbegun, hconsumed]
        exact accounts_newLease call

theorem Operation.Safe.reacquire (h : s.Safe) (call : Acquisition) :
    (s.step (.reacquire worker call)).Safe := by
  unfold Operation.step
  dsimp only
  split
  · exact h
  · split
    · exact h
    · next row hloaded =>
        have hanswers := @answers_reacquireExisting s.row row call
        revert hanswers
        generalize reacquireExisting s.row row call = answer
        intro hanswers
        cases hanswers with
        | refused => exact ⟨h.loaded.drop, h.snapshot, h.exclusive, h.accounts, h.fresh⟩
        | @exhausted current hstored hrevision hstatus =>
            obtain ⟨current, hcurrent, -, heq⟩ := h.loaded worker row hloaded
            cases hstored.symm.trans hcurrent
            cases heq hrevision
            have hlt : row.revision < (row.next exhaust).revision := Int.lt_succ _
            have hloads := h.loaded
            have hsnapshot := h.snapshot
            rw [hstored] at hloads hsnapshot
            refine ⟨(hloads.swap hlt).drop, hsnapshot.swap hlt, Exclusive.swap hsnapshot hlt,
              fun row' hrow' => ?_, fun hnone => by cases hnone⟩
            cases hrow'
            exact (h.accounts row hstored).exhaust hstatus
        | @swapped current hstored hrevision hmay =>
            obtain ⟨current, hcurrent, -, heq⟩ := h.loaded worker row hloaded
            cases hstored.symm.trans hcurrent
            cases heq hrevision
            have hlt : row.revision < (row.next (reissue call)).revision := Int.lt_succ _
            have hloads := h.loaded
            have hsnapshot := h.snapshot
            rw [hstored] at hloads hsnapshot
            refine ⟨(hloads.swap hlt).drop, (hsnapshot.swap hlt).take rfl,
              Exclusive.hand hsnapshot hlt, fun row' hrow' => ?_, fun hnone => by cases hnone⟩
            cases hrow'
            have haccounts := h.accounts row hstored
            refine ⟨haccounts.attempts, haccounts.budget, haccounts.success, ?_⟩
            rw [← haccounts.status]
            refine iff_of_false (fun h => by cases h) ?_
            rw [hmay]
            exact fun h => by cases h

/-- Every call, whatever the other workers did since the caller's copy, keeps the operation safe. -/
theorem Operation.Safe.step (h : s.Safe) (call : Transition ω) : (s.step call).Safe := by
  cases call with
  | load worker => exact h.load
  | insert worker call => exact h.insert call
  | reacquire worker call => exact h.reacquire call
  | beginAttempt worker now => exact h.beginAttempt now
  | markConsumed worker now => exact h.markConsumed now

theorem Operation.Safe.run (h : s.Safe) (calls : List (Transition ω)) : (s.run calls).Safe := by
  induction calls generalizing s with
  | nil => exact h
  | cons call calls ih => exact ih (h.step call)

/-! ## The holder -/

omit [DecidableEq ω] in
theorem Operation.CanAct.latest (hact : s.CanAct worker) : ∃ row current,
    s.snapshot worker = some row ∧ s.row = some current ∧ row.revision = current.revision := by
  obtain ⟨row, now, new, hcopy, hok | hok⟩ := hact
  · obtain ⟨-, current, hrow, hrevision⟩ := (answers_beginAttempt now).of_ok hok
    exact ⟨row, current, hcopy, hrow, hrevision⟩
  · obtain ⟨-, current, hrow, hrevision⟩ := (answers_markConsumed now).of_ok hok
    exact ⟨row, current, hcopy, hrow, hrevision⟩

omit [DecidableEq ω] in
theorem Operation.Safe.eq_of_canAct (h : s.Safe) {other : ω} (hact : s.CanAct worker)
    (hother : s.CanAct other) : worker = other := by
  obtain ⟨row, current, hcopy, hrow, hrevision⟩ := hact.latest
  obtain ⟨row', current', hcopy', hrow', hrevision'⟩ := hother.latest
  cases hrow.symm.trans hrow'
  exact h.exclusive worker other row row' hcopy hcopy' current hrow hrevision hrevision'

/-! ## Behind the success -/

omit [DecidableEq ω] in
theorem Operation.Safe.status_of_consumed (h : s.Safe) (hconsumed : 0 < s.consumed)
    {current : ResolutionLease} (hrow : s.row = some current) : current.status = .consumed := by
  have haccounts := h.accounts current hrow
  have hle := haccounts.success
  exact haccounts.status.mpr (by omega)

/-- How often calls returned. -/
def Operation.returned (s : Operation ω) : Nat × Nat × Nat := (s.acquired, s.begun, s.consumed)

omit [DecidableEq ω] in
/-- A call that may only return on an active row does not return behind the success. -/
theorem Operation.Safe.not_ok (h : s.Safe) (hconsumed : 0 < s.consumed)
    {copy : ω → Option ResolutionLease} (hcopied : Copied ResolutionLease.revision s.row copy)
    (hcopy : copy worker = some row) (hanswers : Answers s.row row values may answer)
    (hmay : may → row.status = .active) : answer.result ≠ .ok new := by
  intro hok
  obtain ⟨hactive, current, hrow, hrevision⟩ := hanswers.of_ok hok
  obtain ⟨current', hcurrent', -, heq⟩ := hcopied worker row hcopy
  cases hrow.symm.trans hcurrent'
  cases heq hrevision
  have hstatus := h.status_of_consumed hconsumed hrow
  rw [hmay hactive] at hstatus
  cases hstatus

theorem Operation.Safe.returned_step (h : s.Safe) (hconsumed : 0 < s.consumed)
    (call : Transition ω) : (s.step call).returned = s.returned := by
  cases call with
  | load worker => rfl
  | insert worker call =>
      unfold Operation.step
      dsimp only
      split
      · rfl
      · split
        · rfl
        · next hrow => exact absurd (h.fresh hrow).2 hconsumed.ne'
  | reacquire worker call =>
      unfold Operation.step
      dsimp only
      split
      · rfl
      · split
        · rfl
        · next row hcopy =>
            split
            · next new hok =>
                exact absurd hok
                  (h.not_ok hconsumed h.loaded hcopy (answers_reacquireExisting call) id)
            · rfl
  | beginAttempt worker now =>
      unfold Operation.step
      dsimp only
      split
      · rfl
      · next row hcopy =>
          split
          · next new hok =>
              exact absurd hok
                (h.not_ok hconsumed h.snapshot hcopy (answers_beginAttempt now) And.left)
          · rfl
  | markConsumed worker now =>
      unfold Operation.step
      dsimp only
      split
      · rfl
      · next row hcopy =>
          split
          · next new hok =>
              exact absurd hok (h.not_ok hconsumed h.snapshot hcopy (answers_markConsumed now) id)
          · rfl

theorem Operation.Safe.returned_run (h : s.Safe) (hconsumed : 0 < s.consumed)
    (calls : List (Transition ω)) : (s.run calls).returned = s.returned := by
  induction calls generalizing s with
  | nil => rfl
  | cons call calls ih =>
      have hstep := h.returned_step hconsumed call
      have hlater : 0 < (s.step call).consumed := by
        have hsame : (s.step call).consumed = s.consumed := congrArg (fun n => n.2.2) hstep
        rwa [hsame]
      exact (ih (h.step call) hlater).trans hstep

/-- In every interleaving the row counts the attempts that were begun, at most the budget; two workers
never both hold a copy they can act on; success is reported once; and behind it no acquisition and no
attempt returns. -/
theorem exclusive_single_use (calls : List (Transition ω)) :
    let s := (Operation.start : Operation ω).run calls
    ((s.row = none ∧ s.begun = 0 ∨ ∃ row, s.row = some row ∧ row.attemptCount = s.begun) ∧
      (s.begun : Int) ≤ retryBudget) ∧
    (∀ v w, s.CanAct v → s.CanAct w → v = w) ∧
    s.consumed ≤ 1 ∧
    (s.consumed = 1 → ∀ later,
      (s.run later).acquired = s.acquired ∧ (s.run later).begun = s.begun) := by
  intro s
  have hsafe : s.Safe := safe_start.run calls
  refine ⟨?_, fun v w hv hw => hsafe.eq_of_canAct hv hw, ?_, fun hone later => ?_⟩
  · cases hrow : s.row with
    | none =>
        have hfresh := hsafe.fresh hrow
        refine ⟨.inl ⟨rfl, hfresh.1⟩, ?_⟩
        rw [hfresh.1]
        decide
    | some row =>
        have haccounts := hsafe.accounts row hrow
        exact ⟨.inr ⟨row, rfl, haccounts.attempts⟩, haccounts.budget⟩
  · cases hrow : s.row with
    | none =>
        have hfresh := hsafe.fresh hrow
        omega
    | some row => exact (hsafe.accounts row hrow).success
  · have hreturned := hsafe.returned_run (by omega) later
    exact ⟨congrArg (fun n => n.1) hreturned, congrArg (fun n => n.2.1) hreturned⟩

end Secp.Leases
