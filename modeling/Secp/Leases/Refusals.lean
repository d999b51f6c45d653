import Secp.Leases.Resolution

/-!
# What a refused acquisition leaves

An acquisition tests the retry budget before it looks at who holds the lease, and the budget test writes.
So a refusal leaves the holder of a valid lease alone as long as an attempt is left to begin.
-/

namespace Secp.Leases

open Secp.Python

/-- `acquire_lease`, with nothing between its read and what it makes of it. -/
def acquireLease (stored : Option ResolutionLease) (call : Acquisition) :
    Except ResolutionLeaseReason ResolutionLease × Option ResolutionLease :=
  if call.expiry ≤ call.now then (.error .authorizationExpired, stored)
  else
    match stored with
    | none => (.ok (newLease call), some (newLease call))
    | some row =>
        let answer := reacquireExisting stored row call
        (answer.result, answer.stored)

/-- The lease was issued and has not run out. -/
structure ResolutionLease.HeldAt (row : ResolutionLease) (now : Int) : Prop where
  active : row.status = .active
  unexpired : now < row.leaseExpiresAt

/-- The call is refused, the row is as it was, and whatever the holder does next is answered as if there
had been no call. -/
structure LeavesHolder (row : ResolutionLease) (call : Acquisition) : Prop where
  refused : ∃ reason, (acquireLease (some row) call).1 = .error reason
  stored : (acquireLease (some row) call).2 = some row
  consumed : ∀ later, markConsumed (acquireLease (some row) call).2 row later =
    markConsumed (some row) row later
  begun : ∀ later, beginAttempt (acquireLease (some row) call).2 row later =
    beginAttempt (some row) row later

section
variable {row : ResolutionLease} {call : Acquisition}

/-- The two halves of an acquisition, run back to back. -/
theorem row_load_reacquire {ω : Type} [DecidableEq ω] (s : Operation ω) (worker : ω)
    (hrow : s.row = some row) :
    ((s.step (.load worker)).step (.reacquire worker call)).row = (acquireLease s.row call).2 := by
  have hloaded : (s.step (.load worker)).loaded worker = some row := by
    show Function.update s.loaded worker s.row worker = some row
    rw [Function.update_self, hrow]
  have hsame : (s.step (.load worker)).row = some row := hrow
  rw [hrow]
  unfold acquireLease
  show Operation.row (if call.expiry ≤ call.now then s.step (.load worker) else _) = _
  by_cases hexpired : call.expiry ≤ call.now
  · rw [if_pos hexpired, if_pos hexpired]
    exact hrow
  · rw [if_neg hexpired, if_neg hexpired, hloaded]
    dsimp only
    rw [hsame]
    cases (reacquireExisting (some row) row call).result with
    | ok new => rfl
    | error reason => rfl

/-- A valid lease with an attempt left: the call is told that it is held. -/
theorem acquireLease_held (h : row.HeldAt call.now) (hleft : row.attemptCount < retryBudget) :
    acquireLease (some row) call = (.error .leaseHeld, some row) ∨
      acquireLease (some row) call = (.error .authorizationExpired, some row) := by
  unfold acquireLease
  by_cases hexpired : call.expiry ≤ call.now
  · right
    rw [if_pos hexpired]
  · left
    have hstatus : ¬(row.status = .exhausted || decide (retryBudget ≤ row.attemptCount)) = true := by
      simp [h.active, hleft]
    rw [if_neg hexpired]
    dsimp only
    rw [reacquireExisting, if_neg (by simp [h.active]), if_neg hstatus, if_pos h.unexpired]
    rfl

/-- A valid lease on its last attempt: the call takes the operation away. -/
theorem acquireLease_spent (h : row.HeldAt call.now) (hvalid : call.now < call.expiry)
    (hspent : retryBudget ≤ row.attemptCount) :
    acquireLease (some row) call = (.error .retryBoundExceeded,
      some { exhaust row with revision := row.revision + 1 }) := by
  have hcas : cas (some row) row row.revision exhaust =
      some { exhaust row with revision := row.revision + 1 } := by
    simp [cas]
  unfold acquireLease
  rw [if_neg (by omega)]
  dsimp only
  rw [reacquireExisting, if_neg (by simp [h.active]), if_pos (by simp [hspent]), markExhausted, hcas]

/-- Then the holder can no longer report that its attempt succeeded. -/
theorem markConsumed_spent (hactive : row.status = .active) (later : Int) :
    (markConsumed (some { exhaust row with revision := row.revision + 1 }) row later).result =
        .error .leaseHeld ∧
      ∃ new, (markConsumed (some row) row later).result = .ok new := by
  unfold markConsumed
  rw [if_neg (by simp [hactive]), if_neg (by simp [hactive])]
  constructor
  · have hbehind : ∀ values, cas (some { exhaust row with revision := row.revision + 1 }) row
        row.revision values = none := by
      intro values
      have hne : row.revision + 1 ≠ row.revision := by omega
      simp [cas, hne]
    rw [swapped, hbehind]
    rfl
  · simp [swapped, cas]

/-- A call on a lease that somebody holds leaves the holder alone exactly if the holder has an attempt
left to begin, or the authorization of the caller is over. -/
theorem leavesHolder_iff (h : row.HeldAt call.now) :
    LeavesHolder row call ↔ row.attemptCount < retryBudget ∨ call.expiry ≤ call.now := by
  constructor
  · intro hleaves
    by_contra hnot
    obtain ⟨hspent, hvalid⟩ := not_or.mp hnot
    have hrow := hleaves.stored
    rw [acquireLease_spent h (by omega) (by omega), Option.some.injEq] at hrow
    have hrevision := congrArg ResolutionLease.revision hrow
    dsimp only at hrevision
    omega
  · intro hcase
    have hanswer : ∃ reason, acquireLease (some row) call = (.error reason, some row) := by
      rcases hcase with hleft | hexpired
      · rcases acquireLease_held h hleft with hheld | hover
        · exact ⟨_, hheld⟩
        · exact ⟨_, hover⟩
      · refine ⟨.authorizationExpired, ?_⟩
        rw [acquireLease, if_pos hexpired]
    obtain ⟨reason, hanswer⟩ := hanswer
    exact ⟨⟨reason, by rw [hanswer]⟩, by rw [hanswer], fun later => by rw [hanswer],
      fun later => by rw [hanswer]⟩

end

/-! ### A second worker -/

/-- The first worker's acquisition of an operation nobody has leased yet. -/
def firstCall : Acquisition := ⟨0, defaultLeaseTtl * 2, defaultLeaseTtl, str "a", str "i", str "l"⟩

/-- The second worker's, one microsecond later. -/
def secondCall : Acquisition := ⟨1, defaultLeaseTtl * 2, defaultLeaseTtl, str "b", str "j", str "m"⟩

/-- The lease of the first worker with some attempts begun. -/
def begunLease (attempts : Int) : ResolutionLease :=
  { newLease firstCall with attemptCount := attempts, revision := attempts }

theorem begunLease_heldAt (attempts : Int) : (begunLease attempts).HeldAt secondCall.now :=
  ⟨rfl, show (1 : Int) < min (0 + defaultLeaseTtl) (defaultLeaseTtl * 2) by decide⟩

/-- During the second attempt the second worker is told that the lease is held, and no more. -/
theorem second_attempt_leaves_holder :
    (begunLease 2).HeldAt secondCall.now ∧ LeavesHolder (begunLease 2) secondCall :=
  ⟨begunLease_heldAt 2, (leavesHolder_iff (begunLease_heldAt 2)).mpr (.inl (by decide))⟩

/-- The first worker acquires the operation and begins three attempts; the second worker's call then
exhausts it, and the success of the third attempt cannot be reported any more. -/
theorem third_attempt_taken_away :
    ((Operation.start.run [.load true, .insert true firstCall, .beginAttempt true 0,
        .beginAttempt true 0, .beginAttempt true 0] : Operation Bool).row = some (begunLease 3) ∧
      (begunLease 3).HeldAt secondCall.now ∧
      (begunLease 3).workerIdentityId ≠ secondCall.workerIdentityId) ∧
    (acquireLease (some (begunLease 3)) secondCall).2 ≠ some (begunLease 3) ∧
    (∃ new, (markConsumed (some (begunLease 3)) (begunLease 3) 2).result = .ok new) ∧
    (markConsumed (acquireLease (some (begunLease 3)) secondCall).2 (begunLease 3) 2).result =
      .error .leaseHeld := by
  have hheld := begunLease_heldAt 3
  have hspent := @acquireLease_spent (begunLease 3) secondCall hheld (by decide) (by decide)
  obtain ⟨hlost, hreported⟩ := @markConsumed_spent (begunLease 3) rfl 2
  refine ⟨⟨by with_unfolding_all decide, hheld, by simp [begunLease, newLease, firstCall, secondCall]⟩, ?_, hreported, ?_⟩
  · rw [hspent]
    intro hsame
    have hrevision := congrArg ResolutionLease.revision (Option.some.inj hsame)
    exact absurd hrevision (by decide)
  · rw [hspent]
    exact hlost

end Secp.Leases
