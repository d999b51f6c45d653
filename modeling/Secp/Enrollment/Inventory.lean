import Secp.Enrollment.Service
import Secp.Logic.Pages
import Secp.Python.Base64

/-!
# The inventory of an organization

The head rows of an organization are listed by their expiry and id, a page at a time. The position to go
on from travels in an opaque cursor. A page with a row that does not load is refused, with a cursor made
of that row's own texts.
-/

namespace Secp.Enrollment

open Secp.Python Secp.Logic

/-! ## Cursors -/

def cursorSeparator : Char := '|'

/-- `_MAX_CURSOR_LEN`. -/
def maxCursorLength : Nat := 256

def noFilter : Str := str "all"

def cursorInvalid : ServiceError := .refused (str "enrollment_cursor_invalid")

/-- `_filter_digest`. -/
def filterDigest : Option (List Str) → Str
  | none => noFilter
  | some [] => noFilter
  | some states =>
      (Sha256.hexdigest (Sha256.encode (join [','] (sortedBy id states.dedup)))).take 16

/-- `_encode_cursor`. -/
def encodeCursor (expiresAt enrollmentId : Str) (states : Option (List Str)) : Str :=
  let raw := join [cursorSeparator] [expiresAt, enrollmentId, filterDigest states]
  rstripChar '=' (Base64.urlsafeB64encode (Sha256.encode raw))

/-- `_decode_cursor`: the position in the order of the rows. -/
def decodeCursor (cursor : Str) (states : Option (List Str)) : Except ServiceError (Int × Str) := do
  ensure (1 ≤ cursor.length && cursor.length ≤ maxCursorLength) cursorInvalid
  let padded := Base64.padded cursor
  ensure (padded.all isAscii) cursorInvalid
  match (Base64.urlsafeB64decode padded).bind Utf8.decode with
  | none => .error cursorInvalid
  | some raw =>
      match raw.splitOn cursorSeparator with
      | [head, enrollmentId, boundFilter] =>
          match parseCanonicalUtc head with
          | none => .error cursorInvalid
          | some expires => do
              ensure (isSha256Digest enrollmentId) cursorInvalid
              ensure (boundFilter = filterDigest states) cursorInvalid
              pure (expires, enrollmentId)
      | _ => .error cursorInvalid

/-- The place of a row in the order of the list. -/
def StateRow.place (row : StateRow) : Int × Str := (row.expiresAtTs, row.enrollmentId)

/-- What a call of the list raises. -/
inductive ListError where
  | pageIntegrity (recoveryCursor : Str)
  | service (error : ServiceError)
  deriving DecidableEq

section
variable [Unicode]

/-- The checks of one row of a page. -/
def loadRow (db : EnrollmentDb) (row : StateRow) : Except StoreError LoadedEnrollment := do
  let entry ← buildLoaded db row
  verifyHistoryConsistent db row.enrollmentId entry.state
  pure entry

/-- The projection of one entry of a page. -/
def projected (actor : Principal) (loaded : LoadedEnrollment) : Except ListError Json := do
  ensure (loaded.organizationId = actor.organizationId) (.service .permission)
  match loaded.state.publicView with
  | .ok view => .ok view
  | .error _ => .error (.service (.refused (str "enrollment_state_corrupt")))

end

/-! ## Reading the list -/

section
variable [Unicode]

/-- The view of a row that loads and projects. -/
def shownView (db : EnrollmentDb) (actor : Principal) (row : StateRow) : Option Json :=
  match loadRow db row with
  | .error _ => none
  | .ok loaded => (projected actor loaded).toOption

end

end Secp.Enrollment
