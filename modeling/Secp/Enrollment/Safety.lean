import Secp.Enrollment.Transitions
import Secp.Logic.Run

/-!
# Two-party enrollment

A healthy enrollment was bound once, offered once, answered once and verified once, in this order and in
time, by two parties that are not one. The calls that change the state are the trail of a run; on the
pipeline the trail is fixed by how far the state has come.
-/

namespace Secp.Enrollment

open Secp.Python Secp.Logic

/-! ## Runs -/

/-- A refused call leaves the state alone. -/
def settle [Unicode] (state : EnrollmentState) (call : Call) : EnrollmentState :=
  match call.apply state with
  | .ok state' => state'
  | .error _ => state

def run [Unicode] (state : EnrollmentState) (calls : List Call) : EnrollmentState :=
  calls.foldl settle state

/-- The calls of a run that changed the state. -/
def trail [Unicode] (state : EnrollmentState) (calls : List Call) : List Call :=
  effects settle state calls

section
variable [Unicode] {invitation : WorkerEnrollmentInvitation} {state state' : EnrollmentState}
  {call : Call}

theorem settle_of_ok (h : call.apply state = .ok state') : settle state call = state' := by
  unfold settle
  rw [h]

theorem settle_of_error {error : ContractError} (h : call.apply state = .error error) :
    settle state call = state := by
  unfold settle
  rw [h]

/-- A call that changes the state takes its edge. -/
theorem effect_of_settle_ne (h : settle state call ≠ state) :
    Effect state call (settle state call) := by
  cases happly : call.apply state with
  | error error => exact absurd (settle_of_error happly) h
  | ok state' =>
      rw [settle_of_ok happly] at h ⊢
      rcases apply_spec happly with ⟨hsame, -⟩ | heffect
      · exact absurd hsame h
      · exact heffect

/-! ## What the pipeline fixes -/

/-- What a state carries of its invitation. -/
structure Anchored (invitation : WorkerEnrollmentInvitation) (state : EnrollmentState) : Prop where
  controllerInstallationId :
    state.controllerInstallationId = invitation.controllerInstallationId
  controllerKeyId : state.controllerKeyId = invitation.controllerKeyId
  releaseDigest : state.releaseDigest = invitation.releaseDigest
  transactionId : state.transactionId = invitation.transactionId
  expiresAt : state.expiresAt = invitation.expiresAt

theorem Anchored.effect (h : Anchored invitation state) (heffect : Effect state call state') :
    Anchored invitation state' := by
  cases heffect <;> exact ⟨h.1, h.2, h.3, h.4, h.5⟩

/-- The fields that stand in a state on the pipeline are those of the steps behind it. -/
def Shaped (state : EnrollmentState) : Prop :=
  ∀ n, state.state.rank = some n →
    (state.workerInstallationId = [] ↔ n = 0) ∧ (state.workerKeyId = [] ↔ n = 0) ∧
      (state.offerDigest = [] ↔ n < 2) ∧ (state.resultDigest = [] ↔ n < 3)

omit [Unicode] in
theorem ne_nil_of_isSha256Digest {value : Str} (h : isSha256Digest value = true) : value ≠ [] := by
  rintro rfl
  revert h
  with_unfolding_all decide

theorem ne_nil_of_installationId {value : Str} (h : installationIdRe.fullmatch value = true) :
    value ≠ [] := by
  obtain ⟨u, v, rfl, ⟨c, rfl, -⟩, -⟩ := Re.takes_of_fullmatch h
  exact List.cons_ne_nil _ _

theorem Shaped.effect (h : Shaped state) (heffect : Effect state call state') : Shaped state' := by
  intro n hn
  cases heffect with
  | bound hstate hinstallation hkey hother hseparated htimely =>
      obtain ⟨-, -, hoffer, hresult⟩ := h 0 (by rw [hstate]; rfl)
      cases hn
      exact ⟨iff_of_false (ne_nil_of_installationId hinstallation) (by decide),
        iff_of_false (ne_nil_of_isSha256Digest hkey) (by decide),
        iff_of_true (hoffer.mpr (by decide)) (by decide),
        iff_of_true (hresult.mpr (by decide)) (by decide)⟩
  | offered hstate hdigest htimely =>
      obtain ⟨hinstallation, hkey, -, hresult⟩ := h 1 (by rw [hstate]; rfl)
      cases hn
      exact ⟨hinstallation.trans (by decide), hkey.trans (by decide),
        iff_of_false (ne_nil_of_isSha256Digest hdigest) (by decide), hresult.trans (by decide)⟩
  | resulted hstate hdigest htimely =>
      obtain ⟨hinstallation, hkey, hoffer, -⟩ := h 2 (by rw [hstate]; rfl)
      cases hn
      exact ⟨hinstallation.trans (by decide), hkey.trans (by decide), hoffer.trans (by decide),
        iff_of_false (ne_nil_of_isSha256Digest hdigest) (by decide)⟩
  | verified hstate htimely =>
      obtain ⟨hinstallation, hkey, hoffer, hresult⟩ := h 3 (by rw [hstate]; rfl)
      cases hn
      exact ⟨hinstallation.trans (by decide), hkey.trans (by decide), hoffer.trans (by decide),
        hresult.trans (by decide)⟩
  | healthy hstate htimely =>
      obtain ⟨hinstallation, hkey, hoffer, hresult⟩ := h 4 (by rw [hstate]; rfl)
      cases hn
      exact ⟨hinstallation.trans (by decide), hkey.trans (by decide), hoffer.trans (by decide),
        hresult.trans (by decide)⟩
  | refused hstate hreason => cases hn
  | recovery hstate hreason => cases hn

/-- What is set stays set. -/
structure Kept (state state' : EnrollmentState) : Prop where
  workerInstallationId : state.workerInstallationId ≠ [] →
    state'.workerInstallationId = state.workerInstallationId
  workerKeyId : state.workerKeyId ≠ [] → state'.workerKeyId = state.workerKeyId
  offerDigest : state.offerDigest ≠ [] → state'.offerDigest = state.offerDigest
  resultDigest : state.resultDigest ≠ [] → state'.resultDigest = state.resultDigest

omit [Unicode] in
theorem Kept.refl (state : EnrollmentState) : Kept state state :=
  ⟨fun _ => rfl, fun _ => rfl, fun _ => rfl, fun _ => rfl⟩

omit [Unicode] in
theorem Kept.trans {state'' : EnrollmentState} (h : Kept state state') (h' : Kept state' state'') :
    Kept state state'' := by
  refine ⟨fun hne => ?_, fun hne => ?_, fun hne => ?_, fun hne => ?_⟩
  · have hsame := h.workerInstallationId hne
    exact (h'.workerInstallationId (hsame.symm ▸ hne)).trans hsame
  · have hsame := h.workerKeyId hne
    exact (h'.workerKeyId (hsame.symm ▸ hne)).trans hsame
  · have hsame := h.offerDigest hne
    exact (h'.offerDigest (hsame.symm ▸ hne)).trans hsame
  · have hsame := h.resultDigest hne
    exact (h'.resultDigest (hsame.symm ▸ hne)).trans hsame

theorem Kept.of_effect (h : Shaped state) (heffect : Effect state call state') :
    Kept state state' := by
  cases heffect with
  | bound hstate hinstallation hkey hother hseparated htimely =>
      obtain ⟨hinstallation, hkey, -, -⟩ := h 0 (by rw [hstate]; rfl)
      exact ⟨fun hne => absurd (hinstallation.mpr rfl) hne, fun hne => absurd (hkey.mpr rfl) hne,
        fun _ => rfl, fun _ => rfl⟩
  | offered hstate hdigest htimely =>
      obtain ⟨-, -, hoffer, -⟩ := h 1 (by rw [hstate]; rfl)
      exact ⟨fun _ => rfl, fun _ => rfl, fun hne => absurd (hoffer.mpr (by decide)) hne, fun _ => rfl⟩
  | resulted hstate hdigest htimely =>
      obtain ⟨-, -, -, hresult⟩ := h 2 (by rw [hstate]; rfl)
      exact ⟨fun _ => rfl, fun _ => rfl, fun _ => rfl, fun hne => absurd (hresult.mpr (by decide)) hne⟩
  | verified hstate htimely => exact ⟨fun _ => rfl, fun _ => rfl, fun _ => rfl, fun _ => rfl⟩
  | healthy hstate htimely => exact ⟨fun _ => rfl, fun _ => rfl, fun _ => rfl, fun _ => rfl⟩
  | refused hstate hreason => exact ⟨fun _ => rfl, fun _ => rfl, fun _ => rfl, fun _ => rfl⟩
  | recovery hstate hreason => exact ⟨fun _ => rfl, fun _ => rfl, fun _ => rfl, fun _ => rfl⟩

/-! ## The trail -/

/-- The calls that lead to a healthy state, each for what the state holds. -/
def stages (state : EnrollmentState) : List (Call → Prop) := [
  fun call => ∃ now, call = .bindWorkerIdentity state.workerInstallationId state.workerKeyId
      state.transactionId now ∧
    state.workerInstallationId ≠ state.controllerInstallationId ∧
    state.workerKeyId ≠ state.controllerKeyId ∧ Timely state.expiresAt now,
  fun call => ∃ now, call = .recordControllerOffer
      ⟨str "controller-offer", state.offerDigest, state.transactionId, state.controllerKeyId⟩ now ∧
    Timely state.expiresAt now,
  fun call => ∃ now, call = .recordWorkerResult
      ⟨str "worker-result", state.resultDigest, state.transactionId, state.workerKeyId⟩ now ∧
    Timely state.expiresAt now,
  fun call => ∃ now, call = .markVerified state.releaseDigest now ∧ Timely state.expiresAt now,
  fun call => ∃ now, call = .markHealthy now ∧ Timely state.expiresAt now]

/-- On the pipeline the trail is one call for each stage behind the state. -/
def Trailed (state : EnrollmentState) (log : List Call) : Prop :=
  ∀ n, state.state.rank = some n →
    List.Forall₂ (fun stage call => stage call) ((stages state).take n) log

theorem Trailed.effect {log : List Call} (h : Trailed state log)
    (heffect : Effect state call state') : Trailed state' (log ++ [call]) := by
  intro n hn
  cases heffect with
  | bound hstate hinstallation hkey hother hseparated htimely =>
      obtain _ | _ := h 0 (by rw [hstate]; rfl)
      cases hn
      exact .cons ⟨_, rfl, hother, hseparated, htimely⟩ .nil
  | offered hstate hdigest htimely =>
      obtain _ | ⟨hbind, _ | _⟩ := h 1 (by rw [hstate]; rfl)
      cases hn
      exact .cons hbind (.cons ⟨_, rfl, htimely⟩ .nil)
  | resulted hstate hdigest htimely =>
      obtain _ | ⟨hbind, _ | ⟨hoffer, _ | _⟩⟩ := h 2 (by rw [hstate]; rfl)
      cases hn
      exact .cons hbind (.cons hoffer (.cons ⟨_, rfl, htimely⟩ .nil))
  | verified hstate htimely =>
      obtain _ | ⟨hbind, _ | ⟨hoffer, _ | ⟨hresult, _ | _⟩⟩⟩ := h 3 (by rw [hstate]; rfl)
      cases hn
      exact .cons hbind (.cons hoffer (.cons hresult (.cons ⟨_, rfl, htimely⟩ .nil)))
  | healthy hstate htimely =>
      obtain _ | ⟨hbind, _ | ⟨hoffer, _ | ⟨hresult, _ | ⟨hverify, _ | _⟩⟩⟩⟩ :=
        h 4 (by rw [hstate]; rfl)
      cases hn
      exact .cons hbind (.cons hoffer (.cons hresult (.cons hverify (.cons ⟨_, rfl, htimely⟩ .nil))))
  | refused hstate hreason => cases hn
  | recovery hstate hreason => cases hn

/-! ## Every run -/

/-- What is true of an enrollment and its trail. -/
structure Sound (invitation : WorkerEnrollmentInvitation) (state : EnrollmentState)
    (log : List Call) : Prop where
  anchored : Anchored invitation state
  shaped : Shaped state
  trailed : Trailed state log

theorem openEnrollment_spec {now label : Str} (h : openEnrollment invitation now label = .ok state) :
    invitation.validate = .ok () ∧ invitation.assertFresh now = .ok () ∧
      (∃ instant, readUtc 40 now = some instant) ∧
      state = { contractVersion := enrollmentContractVersion
                enrollmentId := invitation.digest
                state := .invited
                revision := 0
                sequence := 0
                predecessorDigest := []
                controllerInstallationId := invitation.controllerInstallationId
                controllerKeyId := invitation.controllerKeyId
                workerInstallationId := []
                workerKeyId := []
                releaseDigest := invitation.releaseDigest
                transactionId := invitation.transactionId
                offerDigest := []
                resultDigest := []
                expiresAt := invitation.expiresAt
                updatedAt := now
                refusalReason := []
                deploymentSiteLabel := label } := by
  unfold openEnrollment at h
  obtain ⟨hvalid, h⟩ := except_unit_bind_eq_ok.mp h
  obtain ⟨hfresh, h⟩ := except_unit_bind_eq_ok.mp h
  obtain ⟨instant, hinstant, h⟩ := except_bind_eq_ok.mp h
  cases h
  exact ⟨hvalid, hfresh, ⟨instant, parseTs_eq_ok_iff.mp hinstant⟩, rfl⟩

theorem sound_of_openEnrollment {now label : Str}
    (h : openEnrollment invitation now label = .ok state) : Sound invitation state [] := by
  obtain ⟨-, -, -, rfl⟩ := openEnrollment_spec h
  refine ⟨⟨rfl, rfl, rfl, rfl, rfl⟩, fun n hn => ?_, fun n hn => ?_⟩
  · cases hn
    exact ⟨iff_of_true rfl rfl, iff_of_true rfl rfl, iff_of_true rfl (by decide),
      iff_of_true rfl (by decide)⟩
  · cases hn
    exact .nil

theorem Sound.run {log : List Call} (h : Sound invitation state log) (calls : List Call) :
    Sound invitation (run state calls) (log ++ trail state calls) := by
  refine effects_invariant (fun state log call h hne => ?_) h
  have heffect := effect_of_settle_ne hne
  exact ⟨h.anchored.effect heffect, h.shaped.effect heffect, h.trailed.effect heffect⟩

theorem Kept.run (h : Shaped state) (calls : List Call) : Kept state (run state calls) := by
  have hrun : Shaped (Enrollment.run state calls) ∧ Kept state (Enrollment.run state calls) := by
    refine @effects_invariant _ _ settle state _ (fun state' _ => Shaped state' ∧ Kept state state')
      (fun state' log call h hne => ?_) [] calls ⟨h, Kept.refl state⟩
    have heffect := effect_of_settle_ne hne
    exact ⟨h.1.effect heffect, h.2.trans (.of_effect h.1 heffect)⟩
  exact hrun.2

theorem run_append (state : EnrollmentState) (first second : List Call) :
    Enrollment.run state (first ++ second) = Enrollment.run (Enrollment.run state first) second :=
  List.foldl_append

/-! ## Accepted calls -/

/-- A state holds what a call was for. -/
def Carries (state : EnrollmentState) : Call → Prop
  | .bindWorkerIdentity installationId keyId transactionId _ =>
      installationId ≠ [] ∧ state.workerInstallationId = installationId ∧
        keyId ≠ [] ∧ state.workerKeyId = keyId ∧ state.transactionId = transactionId
  | .recordControllerOffer facts _ =>
      facts.digest ≠ [] ∧ state.offerDigest = facts.digest ∧
        state.transactionId = facts.transactionId ∧ state.controllerKeyId = facts.signerKeyId
  | .recordWorkerResult facts _ =>
      facts.digest ≠ [] ∧ state.resultDigest = facts.digest ∧
        state.transactionId = facts.transactionId ∧
          state.workerKeyId ≠ [] ∧ state.workerKeyId = facts.signerKeyId
  | .markVerified releaseDigest _ => state.releaseDigest = releaseDigest
  | _ => True

/-- A call that returns, an exact retry included, returns a state that holds what it was for. -/
theorem carries_of_apply (hshaped : Shaped state) (h : call.apply state = .ok state') :
    Carries state' call := by
  rcases apply_spec h with ⟨rfl, hrepeats⟩ | heffect
  · cases call with
    | bindWorkerIdentity installationId keyId transactionId now =>
        obtain ⟨hstate, rfl, rfl, rfl⟩ := hrepeats
        obtain ⟨hinstallation, hkey, -, -⟩ := hshaped 1 (by rw [hstate]; rfl)
        exact ⟨fun hnil => Nat.one_ne_zero (hinstallation.mp hnil), rfl,
          fun hnil => Nat.one_ne_zero (hkey.mp hnil), rfl, rfl⟩
    | recordControllerOffer facts now =>
        obtain ⟨hstate, -, hdigest, htransaction, hsigner⟩ := hrepeats
        obtain ⟨-, -, hoffer, -⟩ := hshaped 2 (by rw [hstate]; rfl)
        exact ⟨fun hnil => absurd (hoffer.mp (hdigest.trans hnil)) (by decide), hdigest,
          htransaction.symm, hsigner.symm⟩
    | recordWorkerResult facts now =>
        obtain ⟨hstate, -, hdigest, htransaction, hsigner⟩ := hrepeats
        obtain ⟨-, hkey, -, hresult⟩ := hshaped 3 (by rw [hstate]; rfl)
        exact ⟨fun hnil => absurd (hresult.mp (hdigest.trans hnil)) (by decide), hdigest,
          htransaction.symm, fun hnil => absurd (hkey.mp hnil) (by decide), hsigner.symm⟩
    | markVerified releaseDigest now => exact hrepeats.2.symm
    | markHealthy now => trivial
    | refuse reason => trivial
    | requireRecovery reason => trivial
  · cases heffect with
    | bound hstate hinstallation hkey hother hseparated htimely =>
        exact ⟨ne_nil_of_installationId hinstallation, rfl, ne_nil_of_isSha256Digest hkey, rfl, rfl⟩
    | offered hstate hdigest htimely =>
        exact ⟨ne_nil_of_isSha256Digest hdigest, rfl, rfl, rfl⟩
    | resulted hstate hdigest htimely =>
        obtain ⟨-, hkey, -, -⟩ := hshaped 2 (by rw [hstate]; rfl)
        exact ⟨ne_nil_of_isSha256Digest hdigest, rfl, rfl,
          fun hnil => absurd (hkey.mp hnil) (by decide), rfl⟩
    | verified hstate htimely => rfl
    | healthy hstate htimely => trivial
    | refused hstate hreason => trivial
    | recovery hstate hreason => trivial

omit [Unicode] in
/-- What a state holds is held on. -/
theorem Carries.kept (h : Carries state call) (hkept : Kept state state')
    (hanchored : Anchored invitation state) (hanchored' : Anchored invitation state') :
    Carries state' call := by
  have htransaction := hanchored'.transactionId.trans hanchored.transactionId.symm
  have hcontroller := hanchored'.controllerKeyId.trans hanchored.controllerKeyId.symm
  have hrelease := hanchored'.releaseDigest.trans hanchored.releaseDigest.symm
  cases call with
  | bindWorkerIdentity installationId keyId transactionId now =>
      obtain ⟨hne, rfl, hne', rfl, rfl⟩ := h
      exact ⟨hne, hkept.workerInstallationId hne, hne', hkept.workerKeyId hne', htransaction⟩
  | recordControllerOffer facts now =>
      obtain ⟨hne, hdigest, htransaction', hsigner⟩ := h
      exact ⟨hne, (hkept.offerDigest (hdigest ▸ hne)).trans hdigest,
        htransaction.trans htransaction', hcontroller.trans hsigner⟩
  | recordWorkerResult facts now =>
      obtain ⟨hne, hdigest, htransaction', hkey, hsigner⟩ := h
      have hsame := hkept.workerKeyId hkey
      exact ⟨hne, (hkept.resultDigest (hdigest ▸ hne)).trans hdigest,
        htransaction.trans htransaction', hsame ▸ hkey, hsame.trans hsigner⟩
  | markVerified releaseDigest now => exact hrelease.trans h
  | markHealthy now => trivial
  | refuse reason => trivial
  | requireRecovery reason => trivial

/-- No forward call is let through on a terminal. -/
theorem exists_error_of_terminal (hstate : state.state ∈ [EnrollmentPhase.refused, .recoveryRequired])
    (hcall : call.advancing = true) : ∃ error, call.apply state = .error error := by
  cases happly : call.apply state with
  | error error => exact ⟨error, rfl⟩
  | ok state' =>
      have hrank : state.state.rank = none := by
        rcases List.mem_cons.mp hstate with h | h
        · rw [h]
          rfl
        · rw [List.mem_singleton.mp h]
          rfl
      rcases apply_spec happly with ⟨-, hrepeats⟩ | heffect
      · cases call with
        | bindWorkerIdentity => exact absurd hrank (by rw [hrepeats.1]; decide)
        | recordControllerOffer => exact absurd hrank (by rw [hrepeats.1]; decide)
        | recordWorkerResult => exact absurd hrank (by rw [hrepeats.1]; decide)
        | markVerified => exact absurd hrank (by rw [hrepeats.1]; decide)
        | markHealthy => exact absurd hrank (by rw [show state.state = _ from hrepeats]; decide)
        | refuse => cases hcall
        | requireRecovery => cases hcall
      · cases heffect with
        | bound hstate => exact absurd hrank (by rw [hstate]; decide)
        | offered hstate => exact absurd hrank (by rw [hstate]; decide)
        | resulted hstate => exact absurd hrank (by rw [hstate]; decide)
        | verified hstate => exact absurd hrank (by rw [hstate]; decide)
        | healthy hstate => exact absurd hrank (by rw [hstate]; decide)
        | refused => cases hcall
        | recovery => cases hcall

/-! ## Safety -/

/-- The one exchange behind a healthy state: a bind, an offer, a result, a verification and the last
step, in this order, each in time, between two parties. -/
structure Exchange (invitation : WorkerEnrollmentInvitation) (state : EnrollmentState)
    (log : List Call) : Prop where
  installations : state.workerInstallationId ≠ invitation.controllerInstallationId
  keys : state.workerKeyId ≠ invitation.controllerKeyId
  calls : ∃ bindTime offerTime resultTime verifyTime healthyTime,
    log = [
      .bindWorkerIdentity state.workerInstallationId state.workerKeyId invitation.transactionId bindTime,
      .recordControllerOffer ⟨str "controller-offer", state.offerDigest, invitation.transactionId,
        invitation.controllerKeyId⟩ offerTime,
      .recordWorkerResult ⟨str "worker-result", state.resultDigest, invitation.transactionId,
        state.workerKeyId⟩ resultTime,
      .markVerified invitation.releaseDigest verifyTime,
      .markHealthy healthyTime] ∧
    ∀ time ∈ [bindTime, offerTime, resultTime, verifyTime, healthyTime],
      Timely invitation.expiresAt time

omit [Unicode] in
/-- The trail of a healthy state is the exchange. -/
theorem Sound.exchange {log : List Call} (h : Sound invitation state log)
    (hhealthy : state.state = .healthy) : Exchange invitation state log := by
  obtain ⟨hinstallation, hkey, hrelease, htransaction, hexpires⟩ := h.anchored
  obtain _ | ⟨hbind, _ | ⟨hoffer, _ | ⟨hresult, _ | ⟨hverify, _ | ⟨hlast, _ | _⟩⟩⟩⟩⟩ :=
    h.trailed 5 (by rw [hhealthy]; rfl)
  obtain ⟨bindTime, rfl, hother, hseparated, hbound⟩ := hbind
  obtain ⟨offerTime, rfl, hoffered⟩ := hoffer
  obtain ⟨resultTime, rfl, hresulted⟩ := hresult
  obtain ⟨verifyTime, rfl, hverified⟩ := hverify
  obtain ⟨healthyTime, rfl, hhealthy⟩ := hlast
  rw [hexpires] at hbound hoffered hresulted hverified hhealthy
  refine ⟨hinstallation ▸ hother, hkey ▸ hseparated, bindTime, offerTime, resultTime, verifyTime,
    healthyTime, ?_, ?_⟩
  · rw [htransaction, hkey, hrelease]
  · simp only [List.forall_mem_cons, List.not_mem_nil, false_implies, implies_true, and_true]
    exact ⟨hbound, hoffered, hresulted, hverified, hhealthy⟩

/-- Two-party enrollment. In every run from an opened enrollment: a healthy state has exactly one
exchange behind it, and every call that was accepted on the way, the retries included, was for what the
state holds; what is set never changes; and no forward call gets past a terminal. -/
theorem two_party_safety {now label : Str} (hopen : openEnrollment invitation now label = .ok state)
    (calls : List Call) :
    ((run state calls).state = .healthy →
      Exchange invitation (run state calls) (trail state calls) ∧
        ∀ before call after, calls = before ++ call :: after →
          (∃ state', call.apply (run state before) = .ok state') → Carries (run state calls) call) ∧
      (∀ more, Kept (run state calls) (run state (calls ++ more))) ∧
        ((run state calls).state ∈ [EnrollmentPhase.refused, .recoveryRequired] →
          ∀ call : Call, call.advancing = true → ∃ error, call.apply (run state calls) = .error error) := by
  have hsound : ∀ calls, Sound invitation (run state calls) (trail state calls) :=
    fun calls => (sound_of_openEnrollment hopen).run calls
  refine ⟨fun hhealthy => ⟨(hsound calls).exchange hhealthy, ?_⟩, fun more => ?_,
    fun hstate call hcall => exists_error_of_terminal hstate hcall⟩
  · rintro before call after rfl ⟨state', happly⟩
    have hbefore := hsound before
    have hcarries : Carries (run state (before ++ [call])) call := by
      rw [run_append, show run (run state before) [call] = state' from settle_of_ok happly]
      exact carries_of_apply hbefore.shaped happly
    have hrest : run state (before ++ call :: after) = run (run state (before ++ [call])) after := by
      rw [← run_append, List.append_assoc]
      rfl
    exact hcarries.kept (hrest ▸ Kept.run (hsound (before ++ [call])).shaped after)
      (hsound (before ++ [call])).anchored (hsound (before ++ call :: after)).anchored
  · rw [run_append]
    exact Kept.run (hsound calls).shaped more

end

/-! ## One enrollment -/

def sampleAnchor : Str := List.replicate 64 'a'

def sampleDigest (c : Char) : Str := str "sha256:" ++ List.replicate 64 c

def sampleInvitation : WorkerEnrollmentInvitation where
  contractVersion := enrollmentContractVersion
  invitationId := sampleDigest '0'
  controllerInstallationId := str "controller-a"
  controllerKeyId := sha256DigestOfHex sampleAnchor
  controllerTrustAnchorHex := sampleAnchor
  controllerOrigin := str "https://controller.example"
  releaseDigest := sampleDigest '1'
  transactionId := str "transaction-1"
  sequence := 0
  createdAt := str "2030-01-01T00:00:00Z"
  expiresAt := str "2030-01-01T01:00:00Z"

/-- A time within the invitation. -/
def sampleNow : Str := str "2030-01-01T00:30:00Z"

def sampleOpened : EnrollmentState where
  contractVersion := enrollmentContractVersion
  enrollmentId := sampleInvitation.digest
  state := .invited
  revision := 0
  sequence := 0
  predecessorDigest := []
  controllerInstallationId := str "controller-a"
  controllerKeyId := sha256DigestOfHex sampleAnchor
  workerInstallationId := []
  workerKeyId := []
  releaseDigest := sampleDigest '1'
  transactionId := str "transaction-1"
  offerDigest := []
  resultDigest := []
  expiresAt := str "2030-01-01T01:00:00Z"
  updatedAt := sampleNow
  refusalReason := []

theorem openEnrollment_sample :
    @openEnrollment Unicode.ascii sampleInvitation sampleNow [] = .ok sampleOpened := by
  let _ := Unicode.ascii
  have hvalid : sampleInvitation.validate = .ok () := by decide +kernel
  have hfresh : sampleInvitation.assertFresh sampleNow = .ok () := by with_unfolding_all decide
  have htime : (readUtc 40 sampleNow).isSome = true := by with_unfolding_all decide
  obtain ⟨instant, htime⟩ := Option.isSome_iff_exists.mp htime
  unfold openEnrollment
  rw [except_bind_of_ok hvalid, except_bind_of_ok hfresh,
    except_bind_of_ok (parseTs_eq_ok_iff.mpr htime)]
  rfl

/-- The exchange, with a replay of the offer and a foreign result on the way. -/
def sampleCalls : List Call := [
  .bindWorkerIdentity (str "worker-01") (sampleDigest '2') (str "transaction-1") sampleNow,
  .recordControllerOffer ⟨str "controller-offer", sampleDigest '3', str "transaction-1",
    sampleInvitation.controllerKeyId⟩ sampleNow,
  .recordControllerOffer ⟨str "controller-offer", sampleDigest '3', str "transaction-1",
    sampleInvitation.controllerKeyId⟩ sampleNow,
  .recordWorkerResult ⟨str "worker-result", sampleDigest '4', str "transaction-1",
    sampleDigest '9'⟩ sampleNow,
  .recordWorkerResult ⟨str "worker-result", sampleDigest '4', str "transaction-1",
    sampleDigest '2'⟩ sampleNow,
  .markVerified (sampleDigest '1') sampleNow,
  .markHealthy sampleNow]

theorem two_party_safety_sample :
    (@run Unicode.ascii sampleOpened sampleCalls).state = .healthy ∧
      Exchange sampleInvitation (@run Unicode.ascii sampleOpened sampleCalls)
        (@trail Unicode.ascii sampleOpened sampleCalls) := by
  let _ := Unicode.ascii
  have hhealthy : (run sampleOpened sampleCalls).state = .healthy := by decide +kernel
  exact ⟨hhealthy, ((two_party_safety openEnrollment_sample sampleCalls).1 hhealthy).1⟩

end Secp.Enrollment
