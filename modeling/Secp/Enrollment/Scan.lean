import Secp.Logic.StateExcept
import Secp.Python.Json
import Secp.Python.Re

/-!
# The scan for secrets

`scan_forbidden` walks a value and refuses secret-like field names, secret-shaped keys and
secret-shaped texts. An object is let through exactly when every key and every value under it is, so what
decides is a text at a time.
-/

namespace Secp.Enrollment

open Secp.Python Secp.Logic

def forbiddenFieldFragments : List Str := [
  str "password", str "passwd", str "passphrase", str "secret", str "token", str "credential",
  str "private_key", str "privatekey", str "priv_key", str "api_key", str "apikey",
  str "access_key", str "secret_key", str "signing_key", str "ssh_key", str "host_key",
  str "tls_key", str "ca_key", str "vault", str "openbao", str "state_key", str "statekey",
  str "bearer", str "cookie", str "session_token", str "client_secret", str "auth_token",
  str "provider_credential"]

def isAsciiAlnum (c : Char) : Bool := isAsciiLower c || isAsciiUpper c || isAsciiDigit c

/-- `[A-Za-z0-9._-]` under `re.IGNORECASE`. -/
def isTokenChar (c : Char) : Bool :=
  isAsciiAlnum c || c = '.' || c = '_' || c = '-' ||
    c.toNat ∈ [0x130, 0x131, 0x17F, 0x212A]

/-- `[A-Za-z0-9_-]`. -/
def isJwtChar (c : Char) : Bool := isAsciiAlnum c || c = '_' || c = '-'

section
variable [Unicode]

/-! ## The patterns -/

def privateKeyRe : Re := .all [.word (str "-----BEGIN "),
  .many (fun c => isAsciiUpper c || isAsciiDigit c || c = ' ') 0 none,
  .word (str "PRIVATE KEY-----")]

def sshKeyRe : Re := .all [.boundary, .word (str "ssh-"),
  .alt (.word (str "rsa")) (.alt (.word (str "ed25519")) (.word (str "dss"))),
  .many isSpace 1 none, .word (str "AAAA")]

def vaultRe : Re := .all [.boundary, .wordIgnoringCase (str "vault:")]

def openbaoRe : Re := .all [.boundary, .wordIgnoringCase (str "openbao:")]

def bearerRe : Re := .all [.boundary, .wordIgnoringCase (str "bearer"), .many isSpace 1 none,
  .many isTokenChar 8 none]

def authorizationRe : Re := .all [.boundary, .wordIgnoringCase (str "authorization"),
  .many isSpace 0 none, .char fun c => c = ':']

def awsKeyRe : Re := .all [.boundary, .word (str "AKIA"),
  .many (fun c => isAsciiDigit c || isAsciiUpper c) 16 (some 16), .boundary]

def jwtRe : Re := .all [.boundary, .word (str "eyJ"), .many isJwtChar 8 none,
  .char fun c => c = '.', .many isJwtChar 8 none, .char fun c => c = '.']

def vaultTokenRe : Re := .all [.boundary, .wordIgnoringCase (str "x-vault-token"), .boundary]

/-- `_FORBIDDEN_VALUE_RES`. -/
def forbiddenValueRes : List Re := [privateKeyRe, sshKeyRe, vaultRe, openbaoRe, bearerRe,
  authorizationRe, awsKeyRe, jwtRe, vaultTokenRe]

/-! ## The scan -/

/-- Whether a text has a secret-shaped part. -/
def hasForbiddenValue (s : Str) : Bool := forbiddenValueRes.any fun rx => rx.search s

/-- The checks of one key: a fragment of the fixed list, then the patterns. -/
def scanKey (key : Str) : Except Str Unit :=
  match forbiddenFieldFragments.find? fun fragment => contains fragment (lower key) with
  | some fragment => .error (str "forbidden_secret_field:" ++ fragment)
  | none => ensure (!hasForbiddenValue key) (str "forbidden_secret_key")

def scanText (s : Str) : Except Str Unit := do
  ensure (s.length ≤ 200 * 8) (str "descriptor_value_too_long")
  ensure (!hasForbiddenValue s) (str "forbidden_secret_value")

mutual

/-- `scan_forbidden`, with the reason code of its refusal. -/
def scanForbidden : Json → Except Str Unit
  | .obj fields => do
      ensure (fields.length ≤ 256) (str "descriptor_too_many_fields")
      scanFields fields
  | .arr items => do
      ensure (items.length ≤ 512) (str "descriptor_list_too_long")
      scanItems items
  | .str s => scanText s
  | _ => .ok ()

def scanFields : List (Str × Json) → Except Str Unit
  | [] => .ok ()
  | (key, value) :: rest => do
      scanKey key
      scanForbidden value
      scanFields rest

def scanItems : List Json → Except Str Unit
  | [] => .ok ()
  | item :: rest => do
      scanForbidden item
      scanItems rest

end

/-- `_survives_projection_scan`. -/
def survivesProjectionScan (value : Str) : Bool := (scanForbidden (.str value)).isOk

/-! ## What is let through -/

variable {s : Str} {fields : List (Str × Json)}

theorem scanForbidden_str_eq_ok_iff :
    scanForbidden (.str s) = .ok () ↔ survivesProjectionScan s = true :=
  except_isOk_iff.symm

theorem survivesProjectionScan_iff :
    survivesProjectionScan s = true ↔ s.length ≤ 200 * 8 ∧ hasForbiddenValue s = false := by
  rw [← scanForbidden_str_eq_ok_iff, show scanForbidden (.str s) = scanText s from rfl]
  unfold scanText
  simp only [except_unit_bind_eq_ok, ensure_eq_ok_iff, decide_eq_true_eq, Bool.not_eq_true']

theorem scanFields_eq_ok_iff : scanFields fields = .ok () ↔
    ∀ field ∈ fields, scanKey field.1 = .ok () ∧ scanForbidden field.2 = .ok () := by
  induction fields with
  | nil => simp [scanFields]
  | cons field rest ih =>
      obtain ⟨key, value⟩ := field
      unfold scanFields
      simp only [except_unit_bind_eq_ok, ih, List.forall_mem_cons, and_assoc]

/-- An object is let through when it is small and each of its fields is. -/
theorem scanForbidden_obj_eq_ok_iff : scanForbidden (.obj fields) = .ok () ↔
    fields.length ≤ 256 ∧
      ∀ field ∈ fields, scanKey field.1 = .ok () ∧ scanForbidden field.2 = .ok () := by
  rw [scanForbidden, except_unit_bind_eq_ok, ensure_eq_ok_iff, scanFields_eq_ok_iff,
    decide_eq_true_eq]

/-! ## Texts without secrets -/

/-- A text is let through when each pattern needs a character it does not have. -/
theorem survives_of_needs (hlength : s.length ≤ 200 * 8)
    (h : ∀ rx ∈ forbiddenValueRes, ∃ p ∈ rx.needs, ∀ c ∈ s, p c = false) :
    survivesProjectionScan s = true := by
  refine survivesProjectionScan_iff.mpr ⟨hlength, ?_⟩
  refine List.any_eq_false.mpr fun rx hrx => ?_
  obtain ⟨p, hp, hs⟩ := h rx hrx
  rw [Re.search_eq_false hp hs]
  exact Bool.false_ne_true

end

end Secp.Enrollment
