import Secp.Enrollment.Contract

/-!
# What a transition does

Each of the seven transitions is inverted here once: a call that returns either finds its own effect in
the state and gives the state back, or takes the one edge it is for.
-/

namespace Secp.Enrollment

open Secp.Python Secp.Logic

/-- A time is read and comes before an expiry. -/
def Timely (expiresAt now : Str) : Prop :=
  ∃ instant expires, readUtc 40 now = some instant ∧ readUtc 40 expiresAt = some expires ∧
    instant < expires

theorem parseTs_eq_ok_iff {value reason : Str} {instant : Int} :
    parseTs value reason = .ok instant ↔ readUtc 40 value = some instant := by
  unfold parseTs
  cases readUtc 40 value <;> simp

namespace EnrollmentPhase

/-- How far along the pipeline a state is; the terminals are not on it. -/
def rank : EnrollmentPhase → Option Nat
  | invited => some 0
  | workerBound => some 1
  | offerTransported => some 2
  | resultTransported => some 3
  | verified => some 4
  | healthy => some 5
  | refused => none
  | recoveryRequired => none

theorem mem_active_of_predecessor {target state : EnrollmentPhase}
    (h : some state = target.predecessor) : state ∈ active := by
  revert h
  cases target <;> cases state <;> decide

theorem value_injective {a b : EnrollmentPhase} (h : a.value = b.value) : a = b := by
  cases a <;> cases b <;>
    first
      | rfl
      | simp only [value, str_inj, String.reduceEq] at h

theorem mem_members (state : EnrollmentPhase) : state ∈ members := by
  cases state <;> decide

end EnrollmentPhase

theorem advance_eq_ok_iff {state state' : EnrollmentState} {target : EnrollmentPhase} {now : Str}
    {changes : EnrollmentState → EnrollmentState} :
    advance state target now changes = .ok state' ↔ state.workerKeyId ≠ state.controllerKeyId ∧
      some state.state = target.predecessor ∧ Timely state.expiresAt now ∧
        state' = changes (state.advanced target now) := by
  unfold advance assertParticipantsSeparated
  simp only [except_unit_bind_eq_ok, ensure_eq_ok_iff, decide_eq_true_eq]
  constructor
  · rintro ⟨hseparated, -, hpredecessor, h⟩
    obtain ⟨instant, hinstant, h⟩ := except_bind_eq_ok.mp h
    obtain ⟨expires, hexpires, h⟩ := except_bind_eq_ok.mp h
    obtain ⟨hbefore, h⟩ := except_unit_bind_eq_ok.mp h
    cases h
    exact ⟨hseparated, hpredecessor, ⟨instant, expires, parseTs_eq_ok_iff.mp hinstant,
      parseTs_eq_ok_iff.mp hexpires, of_decide_eq_true (ensure_eq_ok_iff.mp hbefore)⟩, rfl⟩
  · rintro ⟨hseparated, hpredecessor, ⟨instant, expires, hinstant, hexpires, hbefore⟩, rfl⟩
    refine ⟨hseparated, EnrollmentPhase.mem_active_of_predecessor hpredecessor, hpredecessor, ?_⟩
    rw [except_bind_of_ok (parseTs_eq_ok_iff.mpr hinstant),
      except_bind_of_ok (parseTs_eq_ok_iff.mpr hexpires)]
    exact except_bind_of_ok (ensure_eq_ok_iff.mpr (decide_eq_true hbefore))

section
variable [Unicode] {state state' : EnrollmentState}

/-- The edge a call takes. -/
inductive Effect (state : EnrollmentState) : Call → EnrollmentState → Prop where
  | bound {installationId keyId now : Str} (hstate : state.state = .invited)
      (hinstallation : installationIdRe.fullmatch installationId = true)
      (hkey : isSha256Digest keyId = true)
      (hother : installationId ≠ state.controllerInstallationId)
      (hseparated : keyId ≠ state.controllerKeyId) (htimely : Timely state.expiresAt now) :
      Effect state (.bindWorkerIdentity installationId keyId state.transactionId now)
        { state.advanced .workerBound now with
          workerInstallationId := installationId, workerKeyId := keyId }
  | offered {digest now : Str} (hstate : state.state = .workerBound)
      (hdigest : isSha256Digest digest = true) (htimely : Timely state.expiresAt now) :
      Effect state (.recordControllerOffer
        ⟨str "controller-offer", digest, state.transactionId, state.controllerKeyId⟩ now)
        { state.advanced .offerTransported now with offerDigest := digest }
  | resulted {digest now : Str} (hstate : state.state = .offerTransported)
      (hdigest : isSha256Digest digest = true) (htimely : Timely state.expiresAt now) :
      Effect state (.recordWorkerResult
        ⟨str "worker-result", digest, state.transactionId, state.workerKeyId⟩ now)
        { state.advanced .resultTransported now with resultDigest := digest }
  | verified {now : Str} (hstate : state.state = .resultTransported)
      (htimely : Timely state.expiresAt now) :
      Effect state (.markVerified state.releaseDigest now) (state.advanced .verified now)
  | healthy {now : Str} (hstate : state.state = .verified) (htimely : Timely state.expiresAt now) :
      Effect state (.markHealthy now) (state.advanced .healthy now)
  | refused {reason : Str} (hstate : state.state ∉ [EnrollmentPhase.refused, .recoveryRequired])
      (hreason : reasonCodeRe.fullmatch reason = true) :
      Effect state (.refuse reason) (state.stopped .refused reason)
  | recovery {reason : Str} (hstate : state.state ≠ .recoveryRequired)
      (hreason : reasonCodeRe.fullmatch reason = true) :
      Effect state (.requireRecovery reason) (state.stopped .recoveryRequired reason)

/-- A call whose effect the state shows already. -/
def Repeats (state : EnrollmentState) : Call → Prop
  | .bindWorkerIdentity installationId keyId transactionId _ =>
      state.state = .workerBound ∧ state.workerInstallationId = installationId ∧
        state.workerKeyId = keyId ∧ state.transactionId = transactionId
  | .recordControllerOffer facts _ =>
      state.state = .offerTransported ∧ facts.kind = str "controller-offer" ∧
        state.offerDigest = facts.digest ∧ facts.transactionId = state.transactionId ∧
          facts.signerKeyId = state.controllerKeyId
  | .recordWorkerResult facts _ =>
      state.state = .resultTransported ∧ facts.kind = str "worker-result" ∧
        state.resultDigest = facts.digest ∧ facts.transactionId = state.transactionId ∧
          facts.signerKeyId = state.workerKeyId
  | .markVerified releaseDigest _ => state.state = .verified ∧ releaseDigest = state.releaseDigest
  | .markHealthy _ => state.state = .healthy
  | .refuse _ => state.state ∈ [EnrollmentPhase.refused, .recoveryRequired]
  | .requireRecovery _ => state.state = .recoveryRequired

theorem fullmatch_of_reasonCode {reason : Str} (h : reasonCode reason = .ok ()) :
    reasonCodeRe.fullmatch reason = true := by
  unfold reasonCode shortFieldMatching at h
  exact ensure_eq_ok_iff.mp (except_unit_bind_eq_ok.mp h).2

/-- A call that returns repeats itself or takes its edge. -/
theorem apply_spec {call : Call} (h : call.apply state = .ok state') :
    (state' = state ∧ Repeats state call) ∨ Effect state call state' := by
  cases call with
  | bindWorkerIdentity installationId keyId transactionId now =>
      replace h : bindWorkerIdentity state installationId keyId transactionId now = .ok state' := h
      unfold bindWorkerIdentity shortFieldMatching assertParticipantsSeparated at h
      simp only [except_unit_bind_eq_ok, ensure_eq_ok_iff, decide_eq_true_eq] at h
      obtain ⟨⟨-, hinstallation⟩, hkey, rfl, hother, hseparated, -, h⟩ := h
      split at h
      · next hstate =>
          simp only [except_unit_bind_eq_ok, ensure_eq_ok_iff, Bool.and_eq_true,
            decide_eq_true_eq] at h
          obtain ⟨⟨hsame, hsame'⟩, h⟩ := h
          cases h
          exact .inl ⟨rfl, hstate, hsame, hsame', rfl⟩
      · obtain ⟨-, hpredecessor, htimely, rfl⟩ := advance_eq_ok_iff.mp h
        exact .inr (.bound (Option.some.inj hpredecessor) hinstallation hkey hother hseparated htimely)
  | recordControllerOffer facts now =>
      obtain ⟨kind, digest, transactionId, signer⟩ := facts
      replace h : recordControllerOffer state ⟨kind, digest, transactionId, signer⟩ now = .ok state' := h
      unfold recordControllerOffer assertParticipantsSeparated at h
      simp only [except_unit_bind_eq_ok, ensure_eq_ok_iff, decide_eq_true_eq] at h
      obtain ⟨-, rfl, rfl, rfl, hdigest, h⟩ := h
      split at h
      · next hstate =>
          simp only [except_unit_bind_eq_ok, ensure_eq_ok_iff, decide_eq_true_eq] at h
          obtain ⟨hsame, h⟩ := h
          cases h
          exact .inl ⟨rfl, hstate, rfl, hsame, rfl, rfl⟩
      · obtain ⟨-, hpredecessor, htimely, rfl⟩ := advance_eq_ok_iff.mp h
        exact .inr (.offered (Option.some.inj hpredecessor) hdigest htimely)
  | recordWorkerResult facts now =>
      obtain ⟨kind, digest, transactionId, signer⟩ := facts
      replace h : recordWorkerResult state ⟨kind, digest, transactionId, signer⟩ now = .ok state' := h
      unfold recordWorkerResult assertParticipantsSeparated at h
      simp only [except_unit_bind_eq_ok, ensure_eq_ok_iff, decide_eq_true_eq] at h
      obtain ⟨-, rfl, rfl, rfl, hdigest, h⟩ := h
      split at h
      · next hstate =>
          simp only [except_unit_bind_eq_ok, ensure_eq_ok_iff, decide_eq_true_eq] at h
          obtain ⟨hsame, h⟩ := h
          cases h
          exact .inl ⟨rfl, hstate, rfl, hsame, rfl, rfl⟩
      · obtain ⟨-, hpredecessor, htimely, rfl⟩ := advance_eq_ok_iff.mp h
        exact .inr (.resulted (Option.some.inj hpredecessor) hdigest htimely)
  | markVerified releaseDigest now =>
      replace h : markVerified state releaseDigest now = .ok state' := h
      unfold markVerified assertParticipantsSeparated at h
      simp only [except_unit_bind_eq_ok, ensure_eq_ok_iff, decide_eq_true_eq] at h
      obtain ⟨-, rfl, h⟩ := h
      split at h
      · next hstate =>
          cases h
          exact .inl ⟨rfl, hstate, rfl⟩
      · obtain ⟨-, hpredecessor, htimely, rfl⟩ := advance_eq_ok_iff.mp h
        exact .inr (.verified (Option.some.inj hpredecessor) htimely)
  | markHealthy now =>
      replace h : markHealthy state now = .ok state' := h
      unfold markHealthy at h
      obtain ⟨-, h⟩ := except_unit_bind_eq_ok.mp h
      split at h
      · next hstate =>
          cases h
          exact .inl ⟨rfl, hstate⟩
      · obtain ⟨-, hpredecessor, htimely, rfl⟩ := advance_eq_ok_iff.mp h
        exact .inr (.healthy (Option.some.inj hpredecessor) htimely)
  | refuse reason =>
      replace h : refuse state reason = .ok state' := h
      unfold refuse at h
      obtain ⟨hreason, h⟩ := except_unit_bind_eq_ok.mp h
      split at h
      · next hstate =>
          cases h
          exact .inl ⟨rfl, hstate⟩
      · next hstate =>
          cases h
          exact .inr (.refused hstate (fullmatch_of_reasonCode hreason))
  | requireRecovery reason =>
      replace h : requireRecovery state reason = .ok state' := h
      unfold requireRecovery at h
      obtain ⟨hreason, h⟩ := except_unit_bind_eq_ok.mp h
      split at h
      · next hstate =>
          cases h
          exact .inl ⟨rfl, hstate⟩
      · next hstate =>
          cases h
          exact .inr (.recovery hstate (fullmatch_of_reasonCode hreason))

/-- An edge moves on to the next revision, and to a state whose predecessor is this one. -/
theorem Effect.revision {call : Call} (h : Effect state call state') :
    state'.revision = state.revision + 1 := by
  cases h <;> rfl

theorem Effect.ne {call : Call} (h : Effect state call state') : state' ≠ state := by
  rintro rfl
  have hrevision := h.revision
  omega

end

end Secp.Enrollment
