import Mathlib.Order.Basic

/-!
# Bounded search walks

A walk visits the candidates `candidate step`, `candidate (step + 1)`, … and stops at the first
one that is free. It is how every allocator that must be deterministic chooses: a fixed starting
point and a fixed step, with conflicts skipped.

`firstFree_eq_some_iff` describes the result exactly. `firstFree_stable` is the relational fact:
making more candidates unavailable does not move a walk whose result stays available.
-/

namespace Secp.Logic

variable {α : Type} {candidate : Nat → α} {free free' : α → Bool} {a : α}

/-- The first free candidate among `fuel` of them, starting at `step`. -/
def firstFree (candidate : Nat → α) (free : α → Bool) : Nat → Nat → Option α
  | 0, _ => none
  | fuel + 1, step =>
      if free (candidate step) then some (candidate step)
      else firstFree candidate free fuel (step + 1)

/-- The result is a free candidate, and every candidate before it is taken. -/
theorem firstFree_eq_some_iff {fuel step : Nat} :
    firstFree candidate free fuel step = some a ↔
      ∃ i < fuel, candidate (step + i) = a ∧ free a = true ∧
        ∀ j < i, free (candidate (step + j)) = false := by
  induction fuel generalizing step with
  | zero => simp [firstFree]
  | succ fuel ih =>
      rw [firstFree]
      split
      · rename_i hfree
        constructor
        · intro h
          obtain rfl := Option.some.inj h
          exact ⟨0, by omega, rfl, hfree, fun j hj => absurd hj (Nat.not_lt_zero j)⟩
        · rintro ⟨i, hi, rfl, hlast, hbefore⟩
          cases i with
          | zero => rfl
          | succ i => exact absurd (hbefore 0 (Nat.succ_pos i)) (by simp [hfree])
      · rename_i htaken
        rw [ih]
        constructor
        · rintro ⟨i, hi, hcandidate, hlast, hbefore⟩
          refine ⟨i + 1, by omega, ?_, hlast, ?_⟩
          · rw [← hcandidate]
            congr 1
            omega
          · intro j hj
            cases j with
            | zero => simpa using htaken
            | succ j =>
                have := hbefore j (by omega)
                rwa [Nat.add_assoc, Nat.add_comm 1 j] at this
        · rintro ⟨i, hi, hcandidate, hlast, hbefore⟩
          cases i with
          | zero =>
              rw [Nat.add_zero] at hcandidate
              rw [← hcandidate] at hlast
              exact absurd hlast htaken
          | succ i =>
              refine ⟨i, by omega, ?_, hlast, ?_⟩
              · rw [← hcandidate]
                congr 1
                omega
              · intro j hj
                have := hbefore (j + 1) (by omega)
                rwa [Nat.add_comm j 1, ← Nat.add_assoc] at this

/-- A walk ends on a candidate that is free. -/
theorem firstFree_sound {fuel step : Nat} (h : firstFree candidate free fuel step = some a) :
    free a = true ∧ ∃ i, candidate i = a := by
  obtain ⟨i, _, hcandidate, hfree, _⟩ := firstFree_eq_some_iff.mp h
  exact ⟨hfree, step + i, hcandidate⟩

/-- Making further candidates unavailable does not move a walk whose result is still free. -/
theorem firstFree_stable {fuel step : Nat} (h : firstFree candidate free fuel step = some a)
    (hless : ∀ b, free' b = true → free b = true) (ha : free' a = true) :
    firstFree candidate free' fuel step = some a := by
  obtain ⟨i, hi, hcandidate, _, hbefore⟩ := firstFree_eq_some_iff.mp h
  refine firstFree_eq_some_iff.mpr ⟨i, hi, hcandidate, ha, fun j hj => ?_⟩
  have htaken := hbefore j hj
  cases hfree : free' (candidate (step + j)) with
  | false => rfl
  | true => rw [hless _ hfree] at htaken; cases htaken

/-! ## Walking a list -/

/-- The first free item of a list, starting at an index and wrapping around once. -/
def walkList (items : List α) (free : α → Bool) (start : Nat) : Option α :=
  (firstFree (fun step => items[(start + step) % items.length]?) (fun item => item.any free)
    items.length 0).join

/-- The item found is in the list and free. -/
theorem walkList_sound {items : List α} {start : Nat} (h : walkList items free start = some a) :
    a ∈ items ∧ free a = true := by
  obtain ⟨hfree, i, hi⟩ := firstFree_sound (Option.join_eq_some_iff.mp h)
  exact ⟨List.mem_of_getElem? hi, by simpa using hfree⟩

theorem walkList_stable {items : List α} {start : Nat} (h : walkList items free start = some a)
    (hless : ∀ b, free' b = true → free b = true) (ha : free' a = true) :
    walkList items free' start = some a := by
  refine Option.join_eq_some_iff.mpr ?_
  refine firstFree_stable (Option.join_eq_some_iff.mp h) (fun item hitem => ?_) (by simpa using ha)
  cases item with
  | none => cases hitem
  | some b => exact hless b hitem

/-- A walk finds nothing only when every candidate on it is taken. -/
theorem firstFree_eq_none_iff {fuel step : Nat} :
    firstFree candidate free fuel step = none ↔ ∀ i < fuel, free (candidate (step + i)) = false := by
  induction fuel generalizing step with
  | zero => simp [firstFree]
  | succ fuel ih =>
      rw [firstFree]
      split
      · next hfree =>
          refine iff_of_false (fun h => by cases h) fun h => ?_
          rw [show free (candidate step) = false from h 0 (Nat.succ_pos fuel)] at hfree
          cases hfree
      · next htaken =>
          rw [ih]
          constructor
          · intro h i hi
            cases i with
            | zero => simpa using htaken
            | succ i =>
                have hlater := h i (by omega)
                rwa [Nat.add_assoc, Nat.add_comm 1 i] at hlater
          · intro h i hi
            have hlater := h (i + 1) (by omega)
            rwa [Nat.add_comm i 1, ← Nat.add_assoc] at hlater

/-- A full turn passes every place. -/
theorem exists_turn {span place : Nat} (start : Nat) (h : place < span) :
    ∃ i < span, (start + i) % span = place := by
  have hstart := Nat.mod_lt start (Nat.lt_of_le_of_lt (Nat.zero_le place) h)
  have hdiv := Nat.div_add_mod start span
  refine ⟨(place + (span - start % span)) % span, Nat.mod_lt _ (by omega), ?_⟩
  rw [Nat.add_mod_mod]
  have hsum : start + (place + (span - start % span)) = place + span * (start / span + 1) := by
    rw [Nat.mul_add, Nat.mul_one]
    omega
  rw [hsum, Nat.add_mul_mod_self_left, Nat.mod_eq_of_lt h]

/-- A walk around a list that has a free item finds one. -/
theorem exists_walkList {items : List α} (ha : a ∈ items) (hfree : free a = true) (start : Nat) :
    ∃ b, walkList items free start = some b := by
  obtain ⟨place, hplace, rfl⟩ := List.getElem_of_mem ha
  obtain ⟨i, hi, hturn⟩ := exists_turn start hplace
  unfold walkList
  cases hwalk : firstFree (fun step => items[(start + step) % items.length]?)
      (fun item => item.any free) items.length 0 with
  | none =>
      have hmissed := firstFree_eq_none_iff.mp hwalk i hi
      rw [Nat.zero_add, hturn, List.getElem?_eq_getElem hplace] at hmissed
      rw [show (some items[place]).any free = free items[place] from rfl, hfree] at hmissed
      cases hmissed
  | some found =>
      obtain ⟨hfound, -⟩ := firstFree_sound hwalk
      cases found with
      | none => cases hfound
      | some b => exact ⟨b, rfl⟩

end Secp.Logic
