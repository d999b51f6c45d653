import Secp.Enrollment.Tables

/-!
# The states behind the head

The snapshot of a revision is the canonical text of its state. Of a held record every state is read back
from the history, but for the label, which is no canonical material.
-/

namespace Secp.Enrollment

open Secp.Python Secp.Logic

/-- What a snapshot keeps of a state. -/
def EnrollmentState.unlabelled (state : EnrollmentState) : EnrollmentState :=
  { state with deploymentSiteLabel := [] }

theorem digest_unlabelled (state : EnrollmentState) : state.unlabelled.digest = state.digest := rfl

theorem phaseOf_value (phase : EnrollmentPhase) : phaseOf phase.value = .ok phase := by
  have hfind : (EnrollmentPhase.members.find? fun p => p.value = phase.value) = some phase := by
    cases phase <;> with_unfolding_all decide
  unfold phaseOf
  rw [hfind]

/-- Of keys that differ a lookup finds its own. -/
theorem filter_eq_singleton {α κ : Type} [DecidableEq κ] {key : α → κ} {xs : List α}
    (hnodup : (xs.map key).Nodup) {x : α} (hx : x ∈ xs) : xs.filter (fun y => key y = key x) = [x] := by
  induction xs with
  | nil => cases hx
  | cons y rest ih =>
      obtain ⟨hy, hrest⟩ := List.nodup_cons.mp hnodup
      rcases List.mem_cons.mp hx with rfl | hx
      · rw [List.filter_cons_of_pos (by simp)]
        refine congrArg (x :: ·) (List.filter_eq_nil_iff.mpr fun z hz => ?_)
        intro hsame
        exact hy (List.mem_map.mpr ⟨z, hz, of_decide_eq_true hsame⟩)
      · have hne : key y ≠ key x := fun hsame => hy (List.mem_map.mpr ⟨x, hx, hsame.symm⟩)
        rw [List.filter_cons_of_neg (by simpa using hne), ih hrest hx]

/-! ## Snapshots -/

theorem distinctKeys_canonical (state : EnrollmentState) : Json.DistinctKeys state.canonical := by
  refine ⟨?_, ?_⟩
  · show [str "schema", str "contract_version", str "enrollment_id", str "state", str "revision",
      str "sequence", str "predecessor_digest", str "controller_installation_id",
      str "controller_key_id", str "worker_installation_id", str "worker_key_id",
      str "release_digest", str "transaction_id", str "offer_digest", str "result_digest",
      str "expires_at", str "updated_at", str "refusal_reason"].Nodup
    with_unfolding_all decide
  · simp only [Json.DistinctKeysFields, Json.DistinctKeys, and_self]

theorem exists_sortKeys_canonical (state : EnrollmentState) :
    ∃ fields, state.canonical.sortKeys = .obj fields := by
  have hobject : ∀ fields, ∃ fields', (Json.obj fields).sortKeys = .obj fields' := by
    intro fields
    rw [Json.sortKeys]
    exact ⟨_, rfl⟩
  exact hobject _

/-- A field of a canonical text is the field of the state. -/
theorem get?_canonical (state : EnrollmentState) (key : Str) :
    state.canonical.sortKeys.get? key = (state.canonical.get? key).map Json.sortKeys :=
  Json.get?_sortKeys_obj (distinctKeys_canonical state).1 key

/-- The fields of a canonical text, by their place. -/
theorem get?_canonical_of_place (state : EnrollmentState) (place : Nat) {key : Str} {value : Json}
    (h : ∃ fields, state.canonical = .obj fields ∧ fields[place]? = some (key, value)) :
    state.canonical.sortKeys.get? key = some value.sortKeys := by
  obtain ⟨fields, hfields, hplace⟩ := h
  have hnodup := distinctKeys_canonical state
  rw [get?_canonical, hfields]
  rw [hfields] at hnodup
  exact congrArg (Option.map Json.sortKeys)
    (Dict.get?_of_mem hnodup.1 (List.mem_of_getElem? hplace))

theorem textField_canonical (state : EnrollmentState) (place : Nat) {key s : Str}
    (h : ∃ fields, state.canonical = .obj fields ∧ fields[place]? = some (key, .str s)) :
    textField state.canonical.sortKeys key = .ok s := by
  unfold textField
  rw [get?_canonical_of_place state place h]
  rfl

theorem intField_canonical (state : EnrollmentState) (place : Nat) {key : Str} {n : Int}
    (h : ∃ fields, state.canonical = .obj fields ∧ fields[place]? = some (key, .int n)) :
    intField state.canonical.sortKeys key = .ok n := by
  unfold intField
  rw [get?_canonical_of_place state place h]
  rfl

/-- A state is read back from its snapshot. -/
theorem rehydrateRevisionSnapshot_revisionRow (state : EnrollmentState) :
    rehydrateRevisionSnapshot (revisionRow state) = .ok state.unlabelled := by
  have hread : (revisionRow state).stateSnapshot.bind Json.loads =
      some state.canonical.sortKeys := by
    rw [show (revisionRow state).stateSnapshot = some (state.canonical.dumps true) from rfl,
      Option.bind_some]
    exact Json.loads_dumps (distinctKeys_canonical state)
  obtain ⟨fields, hfields⟩ := exists_sortKeys_canonical state
  unfold rehydrateRevisionSnapshot
  rw [hread, hfields]
  dsimp only
  rw [except_bind_of_ok rfl, ← hfields]
  have htext := textField_canonical state
  have hint := intField_canonical state
  rw [except_bind_of_ok (htext 1 ⟨_, rfl, rfl⟩), except_bind_of_ok (htext 2 ⟨_, rfl, rfl⟩),
    except_bind_of_ok (htext 3 ⟨_, rfl, rfl⟩), except_bind_of_ok (phaseOf_value state.state),
    except_bind_of_ok (hint 4 ⟨_, rfl, rfl⟩), except_bind_of_ok (hint 5 ⟨_, rfl, rfl⟩),
    except_bind_of_ok (htext 6 ⟨_, rfl, rfl⟩), except_bind_of_ok (htext 7 ⟨_, rfl, rfl⟩),
    except_bind_of_ok (htext 8 ⟨_, rfl, rfl⟩), except_bind_of_ok (htext 9 ⟨_, rfl, rfl⟩),
    except_bind_of_ok (htext 10 ⟨_, rfl, rfl⟩), except_bind_of_ok (htext 11 ⟨_, rfl, rfl⟩),
    except_bind_of_ok (htext 12 ⟨_, rfl, rfl⟩), except_bind_of_ok (htext 13 ⟨_, rfl, rfl⟩),
    except_bind_of_ok (htext 14 ⟨_, rfl, rfl⟩), except_bind_of_ok (htext 15 ⟨_, rfl, rfl⟩),
    except_bind_of_ok (htext 16 ⟨_, rfl, rfl⟩), except_bind_of_ok (htext 17 ⟨_, rfl, rfl⟩)]
  rfl

/-! ## The states of a held record -/

section
variable [Unicode] {db : EnrollmentDb} {record : Record} {shadow : Int} {state : EnrollmentState}

/-- Every state of a held record has its one row. -/
theorem Holds.loadRevisionRow (h : Holds db record shadow) (hmem : state ∈ record.states) :
    loadRevisionRow db record.id state.revision = .ok (some (revisionRow state)) := by
  have hnodup : (record.states.map EnrollmentState.revision).Nodup := by
    rw [← List.nodup_reverse, ← List.map_reverse, Record.states, record.chronicle.revisions]
    exact List.nodup_range.map fun m n => Int.ofNat.inj
  have hone : (record.states.reverse.map revisionRow).filter
      (fun r => r.revision = state.revision) = [revisionRow state] := by
    rw [List.filter_map]
    have hfilter : record.states.reverse.filter
        ((fun r : RevisionRow => decide (r.revision = state.revision)) ∘ revisionRow) = [state] := by
      rw [← List.nodup_reverse, ← List.map_reverse] at hnodup
      exact filter_eq_singleton hnodup (List.mem_reverse.mpr hmem)
    rw [hfilter, List.map_singleton]
  unfold Enrollment.loadRevisionRow
  rw [show (db.revisions.filter fun r => r.enrollmentId = record.id && r.revision = state.revision) =
    (db.revisions.filter fun r => r.enrollmentId = record.id).filter
      fun r => r.revision = state.revision by
        rw [List.filter_filter]
        simp only [Bool.and_comm], h.history, hone]
  rfl

theorem Holds.loadRevisionState (h : Holds db record shadow) (hmem : state ∈ record.states) :
    loadRevisionState db record.id state.revision = .ok (some state.unlabelled) := by
  have hlawful := record.chronicle.lawful state hmem
  have hid := record.enrollmentId_of_mem hmem
  have hdigest : isSha256Digest state.enrollmentId = true := by
    rw [hlawful.enrollmentId]
    exact isSha256Digest_sha256Digest _
  unfold Enrollment.loadRevisionState
  rw [except_bind_of_ok (h.loadRevisionRow hmem)]
  dsimp only
  rw [except_bind_of_ok (rehydrateRevisionSnapshot_revisionRow state)]
  refine except_unit_bind_eq_ok.mpr
    ⟨ensure_eq_ok_iff.mpr (decide_eq_true hlawful.contractVersion), ?_⟩
  refine except_unit_bind_eq_ok.mpr ⟨ensure_eq_ok_iff.mpr ?_, ?_⟩
  · exact Bool.and_eq_true_iff.mpr ⟨hdigest, decide_eq_true hid⟩
  refine except_unit_bind_eq_ok.mpr ⟨ensure_eq_ok_iff.mpr ?_, ?_⟩
  · simp [EnrollmentState.unlabelled, revisionRow]
  exact except_unit_bind_eq_ok.mpr ⟨ensure_eq_ok_iff.mpr (decide_eq_true rfl), rfl⟩

end

end Secp.Enrollment
