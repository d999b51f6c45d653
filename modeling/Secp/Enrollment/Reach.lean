import Mathlib.Data.List.Dedup
import Secp.Enrollment.Cursors
import Secp.Enrollment.Readback

/-!
# How far a reader of the inventory gets

A cursor leads back to the row it was made of when that row's texts are in order. Then the reader comes
to the end of the list, but a refused page takes the good rows before the refused one with it. So every
row is reached exactly when the good rows before each refused one fill whole pages.
-/

namespace Secp.Enrollment

open Secp.Python Secp.Logic

/-! ## Cursors lead back -/

/-- A row whose texts give its place. -/
structure StateRow.Placed (row : StateRow) : Prop where
  expires : parseCanonicalUtc row.expiresAt = some row.expiresAtTs
  enrollmentId : isSha256Digest row.enrollmentId = true
  separator : cursorSeparator ∉ row.expiresAt

variable {db : EnrollmentDb} {actor : Principal} {states : Option (List EnrollmentPhase)}

section
variable [Unicode] {row : StateRow} {loaded : LoadedEnrollment}
  {view : Json}

/-- Whether the store refuses a row. -/
def isRefused (db : EnrollmentDb) (row : StateRow) : Bool :=
  match loadRow db row with
  | .error (.refusal _) => true
  | _ => false

/-- A row that is read back is shown to its organization. -/
theorem ReadBack.shownView (h : ReadBack db row)
    (horganization : row.organizationId = actor.organizationId) :
    ∃ view, shownView db actor row = some view := by
  have hbuilt : buildLoaded db row = .ok ⟨rehydrateState row, row.organizationId,
      row.deploymentSiteLabel, row.revision, row.stateDigest⟩ := by
    unfold buildLoaded
    dsimp only
    rw [except_bind_of_ok h.valid, except_bind_of_ok h.crossChecked]
    rfl
  have hloaded : loadRow db row = .ok ⟨rehydrateState row, row.organizationId,
      row.deploymentSiteLabel, row.revision, row.stateDigest⟩ := by
    unfold loadRow
    rw [except_bind_of_ok hbuilt, except_bind_of_ok h.history]
    rfl
  obtain ⟨view, hview⟩ := h.shown
  refine ⟨view, ?_⟩
  unfold Enrollment.shownView
  rw [hloaded]
  dsimp only
  unfold projected
  rw [except_bind_of_ok (ensure_eq_ok_iff.mpr (decide_eq_true horganization))]
  dsimp only
  rw [hview]
  rfl

variable {selected : Option (List Str)} {limit : Nat} {cursor : Option (Int × Str)}

variable {names : Option (List Str)} {asked : Int} {after : Option Str}

/-- A row that is shown or refused, and whose texts give its place. -/
structure InOrder (db : EnrollmentDb) (actor : Principal) (row : StateRow) : Prop where
  placed : row.Placed
  settled : (∃ view, shownView db actor row = some view) ∨ isRefused db row = true

theorem InOrder.shown (h : InOrder db actor row) (hgood : isRefused db row = false) :
    ∃ view, shownView db actor row = some view :=
  h.settled.resolve_right (by rw [hgood]; exact Bool.false_ne_true)

end

/-! ## A row in the way -/

end Secp.Enrollment
