import Mathlib.Data.List.Basic
import Secp.Enrollment.Repository
import Secp.Enrollment.Safety

/-!
# What an enrollment went through

An enrollment is its invitation and the states it went through, one behind the other. The tables hold
a record when they hold its invitation, its latest state as the head and each of its states as a
revision. Every state of a record is lawful, and the head of a record that is held loads.
-/

namespace Secp.Enrollment

open Secp.Python Secp.Logic

/-! ## Digests and times -/

theorem isSha256Digest_append {hex : Str} (hlength : hex.length = 64)
    (hhex : ∀ c ∈ hex, (isAsciiDigit c || (97 ≤ c.toNat && c.toNat ≤ 102)) = true) :
    isSha256Digest (str "sha256:" ++ hex) = true := by
  have hdrop : (str "sha256:" ++ hex).drop 7 = hex := by
    have hseven : (str "sha256:").length = 7 := by with_unfolding_all decide
    exact hseven ▸ List.drop_left
  unfold isSha256Digest startsWith
  simp only [hdrop, hlength, decide_true, Bool.true_and, Bool.and_eq_true, List.all_eq_true]
  refine ⟨List.isPrefixOf_iff_prefix.mpr (List.prefix_append _ _), fun c hc => ?_⟩
  simpa using hhex c hc

theorem length_hexdigest (bytes : List Nat) : (Sha256.hexdigest bytes).length = 64 := by
  have hpairs : ∀ bytes : List Nat, (bytes.flatMap hex2).length = 2 * bytes.length := by
    intro bytes
    induction bytes with
    | nil => rfl
    | cons n rest ih =>
        rw [List.flatMap_cons, List.length_append, ih, List.length_cons]
        show 2 + 2 * rest.length = _
        omega
  unfold Sha256.hexdigest Sha256.digest
  rw [hpairs]
  generalize Sha256.hashWords bytes = words
  rfl

theorem isSha256Digest_sha256Digest (payload : Json) :
    isSha256Digest (sha256Digest payload) = true := by
  have hdigit : ∀ m < 16, (isAsciiDigit (hexDigit m) ||
      (97 ≤ (hexDigit m).toNat && (hexDigit m).toNat ≤ 102)) = true := by
    decide
  refine isSha256Digest_append (length_hexdigest _) fun c hc => ?_
  obtain ⟨n, -, hc⟩ := List.mem_flatMap.mp hc
  rcases List.mem_cons.mp hc with rfl | hc
  · exact hdigit _ (Nat.mod_lt _ (by decide))
  · rw [List.mem_singleton.mp hc]
    exact hdigit _ (Nat.mod_lt _ (by decide))

/-- A time within one bound is read within a wider one. -/
theorem readUtc_mono {m n : Nat} {value : Str} {instant : Int} (hle : m ≤ n)
    (h : readUtc m value = some instant) : readUtc n value = some instant := by
  unfold readUtc at h ⊢
  split at h
  · next hlength =>
      rw [if_pos]
      · exact h
      · simp only [Bool.and_eq_true, decide_eq_true_eq] at hlength ⊢
        exact ⟨hlength.1, hlength.2.trans hle⟩
  · cases h

theorem parseUtc_eq_ok_iff {value : Str} {instant : Int} :
    parseUtc value = .ok instant ↔ parseCanonicalUtc value = some instant := by
  unfold parseUtc
  cases parseCanonicalUtc value <;> simp

theorem parseUtc_of_readUtc {value : Str} {instant : Int} (h : readUtc 40 value = some instant) :
    parseUtc value = .ok instant :=
  parseUtc_eq_ok_iff.mpr (readUtc_mono (by decide) h)

section
variable [Unicode] {invitation : WorkerEnrollmentInvitation} {label : Str}
  {state state' : EnrollmentState} {call : Call}

/-! ## Lawful states -/

/-- A field that is empty or meets its grammar. -/
def EmptyOr (grammar : Str → Prop) (value : Str) : Prop := value = [] ∨ grammar value

/-- What every state of an enrollment is. -/
structure Lawful (invitation : WorkerEnrollmentInvitation) (label : Str) (state : EnrollmentState) :
    Prop where
  anchored : Anchored invitation state
  shaped : Shaped state
  contractVersion : state.contractVersion = enrollmentContractVersion
  enrollmentId : state.enrollmentId = invitation.digest
  label : state.deploymentSiteLabel = label
  revision : 0 ≤ state.revision
  sequence : 0 ≤ state.sequence
  genesis : state.revision = 0 ↔ state.state = .invited
  predecessor : state.revision = 0 ↔ state.predecessorDigest = []
  predecessorDigest : EmptyOr (isSha256Digest · = true) state.predecessorDigest
  workerInstallationId : EmptyOr (fun value => installationIdRe.fullmatch value = true ∧
    value ≠ state.controllerInstallationId) state.workerInstallationId
  workerKeyId : EmptyOr (fun value => isSha256Digest value = true ∧ value ≠ state.controllerKeyId)
    state.workerKeyId
  offerDigest : EmptyOr (isSha256Digest · = true) state.offerDigest
  resultDigest : EmptyOr (isSha256Digest · = true) state.resultDigest
  refusalReason : EmptyOr (fun value => reasonCodeRe.fullmatch value = true ∧
    state.state ∈ [EnrollmentPhase.refused, .recoveryRequired]) state.refusalReason
  updatedAt : ∃ instant, readUtc 40 state.updatedAt = some instant

theorem lawful_of_openEnrollment {now : Str} (h : openEnrollment invitation now label = .ok state) :
    Lawful invitation label state := by
  have hsound := sound_of_openEnrollment h
  obtain ⟨-, -, hnow, rfl⟩ := openEnrollment_spec h
  exact
    { anchored := hsound.anchored
      shaped := hsound.shaped
      contractVersion := rfl
      enrollmentId := rfl
      label := rfl
      revision := Int.le_refl 0
      sequence := Int.le_refl 0
      genesis := iff_of_true rfl rfl
      predecessor := iff_of_true rfl rfl
      predecessorDigest := .inl rfl
      workerInstallationId := .inl rfl
      workerKeyId := .inl rfl
      offerDigest := .inl rfl
      resultDigest := .inl rfl
      refusalReason := .inl rfl
      updatedAt := hnow }

/-- No edge leads back to the start. -/
theorem Effect.state_ne_invited (h : Effect state call state') : state'.state ≠ .invited := by
  intro hstate
  cases h <;> cases hstate

/-- What an edge leaves to be shown of the state it leads to. -/
theorem Lawful.of_edge (h : Lawful invitation label state) (heffect : Effect state call state')
    (hversion : state'.contractVersion = state.contractVersion)
    (hid : state'.enrollmentId = state.enrollmentId)
    (hlabel : state'.deploymentSiteLabel = state.deploymentSiteLabel)
    (hsequence : 0 ≤ state'.sequence)
    (hpredecessor : state'.predecessorDigest = state.digest)
    (hinstallation : EmptyOr (fun value => installationIdRe.fullmatch value = true ∧
      value ≠ state.controllerInstallationId) state'.workerInstallationId)
    (hkey : EmptyOr (fun value => isSha256Digest value = true ∧ value ≠ state.controllerKeyId)
      state'.workerKeyId)
    (hoffer : EmptyOr (isSha256Digest · = true) state'.offerDigest)
    (hresult : EmptyOr (isSha256Digest · = true) state'.resultDigest)
    (hreason : EmptyOr (fun value => reasonCodeRe.fullmatch value = true ∧
      state'.state ∈ [EnrollmentPhase.refused, .recoveryRequired]) state'.refusalReason)
    (hupdated : ∃ instant, readUtc 40 state'.updatedAt = some instant) :
    Lawful invitation label state' := by
  have hanchored := h.anchored.effect heffect
  have hrevision := heffect.revision
  have hnonneg := h.revision
  have hdigest : isSha256Digest state'.predecessorDigest = true :=
    hpredecessor ▸ isSha256Digest_sha256Digest _
  have hcontroller : state'.controllerInstallationId = state.controllerInstallationId :=
    hanchored.controllerInstallationId.trans h.anchored.controllerInstallationId.symm
  have hcontrollerKey : state'.controllerKeyId = state.controllerKeyId :=
    hanchored.controllerKeyId.trans h.anchored.controllerKeyId.symm
  exact
    { anchored := hanchored
      shaped := h.shaped.effect heffect
      contractVersion := hversion.trans h.contractVersion
      enrollmentId := hid.trans h.enrollmentId
      label := hlabel.trans h.label
      revision := by omega
      sequence := hsequence
      genesis := iff_of_false (by omega) heffect.state_ne_invited
      predecessor := iff_of_false (by omega) (ne_nil_of_isSha256Digest hdigest)
      predecessorDigest := .inr hdigest
      workerInstallationId := hcontroller ▸ hinstallation
      workerKeyId := hcontrollerKey ▸ hkey
      offerDigest := hoffer
      resultDigest := hresult
      refusalReason := hreason
      updatedAt := hupdated }

omit [Unicode] in
theorem exists_readUtc {expiresAt now : Str} (h : Timely expiresAt now) :
    ∃ instant, readUtc 40 now = some instant := by
  obtain ⟨instant, -, hinstant, -⟩ := h
  exact ⟨instant, hinstant⟩

/-- An edge leads from a lawful state to a lawful one. -/
theorem Lawful.effect (h : Lawful invitation label state) (heffect : Effect state call state') :
    Lawful invitation label state' := by
  have hsequence := h.sequence
  have hnext : 0 ≤ state.sequence + 1 := by omega
  cases heffect with
  | bound hstate hinstallation hkey hother hseparated htimely =>
      exact h.of_edge (.bound hstate hinstallation hkey hother hseparated htimely) rfl rfl rfl hnext
        rfl (.inr ⟨hinstallation, hother⟩) (.inr ⟨hkey, hseparated⟩) h.offerDigest h.resultDigest
        (.inl rfl) (exists_readUtc htimely)
  | offered hstate hdigest htimely =>
      exact h.of_edge (.offered hstate hdigest htimely) rfl rfl rfl hnext rfl h.workerInstallationId
        h.workerKeyId (.inr hdigest) h.resultDigest (.inl rfl) (exists_readUtc htimely)
  | resulted hstate hdigest htimely =>
      exact h.of_edge (.resulted hstate hdigest htimely) rfl rfl rfl hnext rfl
        h.workerInstallationId h.workerKeyId h.offerDigest (.inr hdigest) (.inl rfl)
        (exists_readUtc htimely)
  | verified hstate htimely =>
      exact h.of_edge (.verified hstate htimely) rfl rfl rfl hnext rfl h.workerInstallationId
        h.workerKeyId h.offerDigest h.resultDigest (.inl rfl) (exists_readUtc htimely)
  | healthy hstate htimely =>
      exact h.of_edge (.healthy hstate htimely) rfl rfl rfl hnext rfl h.workerInstallationId
        h.workerKeyId h.offerDigest h.resultDigest (.inl rfl) (exists_readUtc htimely)
  | refused hstate hreason =>
      exact h.of_edge (.refused hstate hreason) rfl rfl rfl hsequence rfl h.workerInstallationId
        h.workerKeyId h.offerDigest h.resultDigest (.inr ⟨hreason, List.mem_cons_self⟩) h.updatedAt
  | recovery hstate hreason =>
      exact h.of_edge (.recovery hstate hreason) rfl rfl rfl hsequence rfl h.workerInstallationId
        h.workerKeyId h.offerDigest h.resultDigest
        (.inr ⟨hreason, List.mem_cons_of_mem _ List.mem_cons_self⟩) h.updatedAt
/-! ## What lawful states pass -/

omit [Unicode] in
theorem hasPipelineShape_of_shaped (h : Shaped state) : hasPipelineShape state = true := by
  unfold hasPipelineShape
  cases hstate : state.state with
  | invited =>
      obtain ⟨hinstallation, hkey, hoffer, hresult⟩ := h 0 (by rw [hstate]; rfl)
      simp [pipelineShape, workerFields, hinstallation, hkey, hoffer, hresult]
  | workerBound =>
      obtain ⟨hinstallation, hkey, hoffer, hresult⟩ := h 1 (by rw [hstate]; rfl)
      simp [pipelineShape, workerFields, hinstallation, hkey, hoffer, hresult]
  | offerTransported =>
      obtain ⟨hinstallation, hkey, hoffer, hresult⟩ := h 2 (by rw [hstate]; rfl)
      simp [pipelineShape, workerFields, hinstallation, hkey, hoffer, hresult]
  | resultTransported =>
      obtain ⟨hinstallation, hkey, hoffer, hresult⟩ := h 3 (by rw [hstate]; rfl)
      simp [pipelineShape, workerFields, hinstallation, hkey, hoffer, hresult]
  | verified =>
      obtain ⟨hinstallation, hkey, hoffer, hresult⟩ := h 4 (by rw [hstate]; rfl)
      simp [pipelineShape, workerFields, hinstallation, hkey, hoffer, hresult]
  | healthy =>
      obtain ⟨hinstallation, hkey, hoffer, hresult⟩ := h 5 (by rw [hstate]; rfl)
      simp [pipelineShape, workerFields, hinstallation, hkey, hoffer, hresult]
  | refused => rfl
  | recoveryRequired => rfl

omit [Unicode] in
theorem digestOrEmptyOk_of {value : Str} (h : EmptyOr (isSha256Digest · = true) value) :
    digestOrEmptyOk value = true := by
  unfold digestOrEmptyOk
  rcases h with rfl | h
  · rfl
  · rw [h, Bool.or_true]

omit [Unicode] in
theorem sameInstant_eq_ok_true {value : Str} {shadow : Int}
    (h : parseCanonicalUtc value = some shadow) : sameInstant value shadow = .ok true := by
  unfold sameInstant
  rw [except_bind_of_ok (parseUtc_eq_ok_iff.mpr h), decide_eq_true rfl]
  rfl

/-- The controller of a valid invitation is well formed. -/
theorem controller_of_validate (h : invitation.validate = .ok ()) :
    isSha256Digest invitation.controllerKeyId = true ∧
      isSha256Digest invitation.releaseDigest = true ∧
      installationIdRe.fullmatch invitation.controllerInstallationId = true := by
  unfold WorkerEnrollmentInvitation.validate shortFieldMatching at h
  simp only [except_unit_bind_eq_ok, ensure_eq_ok_iff] at h
  obtain ⟨-, -, ⟨-, hinstallation⟩, hkey, -, -, -, hrelease, -⟩ := h
  exact ⟨hkey, hrelease, hinstallation⟩

omit [Unicode] in
/-- A head row holds its state. -/
theorem rehydrateState_stateRow {organizationId : Str} {shadow : Int}
    (hlabel : state.deploymentSiteLabel = label) :
    rehydrateState (stateRow organizationId label state shadow) = state := by
  subst hlabel
  rfl

/-- The head row of a lawful state is valid. -/
theorem validateRehydrated_of_lawful {organizationId : Str} {shadow : Int}
    (h : Lawful invitation label state) (hvalid : invitation.validate = .ok ())
    (hlabel : isDeploymentSiteLabel label = true)
    (hshadow : parseCanonicalUtc invitation.expiresAt = some shadow) :
    validateRehydrated state (stateRow organizationId label state shadow) = .ok () := by
  obtain ⟨hkey, hrelease, hinstallation⟩ := controller_of_validate hvalid
  obtain ⟨instant, hupdated⟩ := h.updatedAt
  have hdigests : ([state.predecessorDigest, state.workerKeyId, state.offerDigest,
      state.resultDigest].all digestOrEmptyOk) = true := by
    have hworker : EmptyOr (isSha256Digest · = true) state.workerKeyId :=
      h.workerKeyId.imp_right And.left
    simp [digestOrEmptyOk_of h.predecessorDigest, digestOrEmptyOk_of hworker,
      digestOrEmptyOk_of h.offerDigest, digestOrEmptyOk_of h.resultDigest]
  have hgenesis : ((state.revision = 0) = (state.state = .invited)) ∧
      (state.revision = 0) = (state.predecessorDigest.isEmpty = true) :=
    ⟨propext h.genesis, propext (h.predecessor.trans List.isEmpty_iff.symm)⟩
  unfold validateRehydrated
  simp only [except_unit_bind_eq_ok, ensure_eq_ok_iff, decide_eq_true_eq, Bool.and_eq_true,
    Bool.or_eq_true, List.isEmpty_iff]
  refine ⟨h.contractVersion, h.revision, h.sequence, ?_,
    h.enrollmentId ▸ isSha256Digest_sha256Digest _,
    h.anchored.controllerKeyId ▸ hkey, h.anchored.releaseDigest ▸ hrelease, hdigests,
    h.anchored.controllerInstallationId ▸ hinstallation, h.workerInstallationId.imp_right And.left,
    hlabel, h.workerKeyId.imp_right And.right, h.workerInstallationId.imp_right And.right,
    h.refusalReason, hasPipelineShape_of_shaped h.shaped, ?_⟩
  · simpa only [Bool.decide_iff, decide_eq_true_eq, List.isEmpty_iff] using hgenesis
  · rw [except_bind_of_ok (parseUtc_of_readUtc hupdated), h.anchored.expiresAt]
    show (do ensure (← sameInstant invitation.expiresAt shadow) stateCorrupt; _) = _
    rw [except_bind_of_ok (sameInstant_eq_ok_true hshadow)]
    exact except_unit_bind_eq_ok.mpr
      ⟨ensure_eq_ok_iff.mpr rfl, ensure_eq_ok_iff.mpr (decide_eq_true rfl)⟩

/-! ## Chronicles -/

/-- The states of an enrollment, the latest first. -/
inductive Chronicle (invitation : WorkerEnrollmentInvitation) (label : Str) :
    List EnrollmentState → Prop
  | opened {now : Str} {state : EnrollmentState}
      (hopen : openEnrollment invitation now label = .ok state) : Chronicle invitation label [state]
  | moved {past : List EnrollmentState} {state state' : EnrollmentState} {call : Call}
      (h : Chronicle invitation label (state :: past)) (heffect : Effect state call state') :
      Chronicle invitation label (state' :: state :: past)

variable {past : List EnrollmentState}

theorem Chronicle.valid {states : List EnrollmentState} (h : Chronicle invitation label states) :
    invitation.validate = .ok () := by
  induction h with
  | opened hopen => exact (openEnrollment_spec hopen).1
  | moved h heffect ih => exact ih

theorem Chronicle.lawful {states : List EnrollmentState} (h : Chronicle invitation label states) :
    ∀ state ∈ states, Lawful invitation label state := by
  induction h with
  | opened hopen =>
      intro state hstate
      rw [List.mem_singleton.mp hstate]
      exact lawful_of_openEnrollment hopen
  | moved h heffect ih =>
      exact List.forall_mem_cons.mpr ⟨(ih _ List.mem_cons_self).effect heffect, ih⟩

/-- A state is as many revisions along as states stand behind it. -/
theorem Chronicle.revision (h : Chronicle invitation label (state :: past)) :
    state.revision = past.length := by
  induction past generalizing state with
  | nil =>
      cases h with
      | opened hopen =>
          obtain ⟨-, -, -, rfl⟩ := openEnrollment_spec hopen
          rfl
  | cons previous past ih =>
      cases h with
      | moved h heffect =>
          rw [heffect.revision, ih h, List.length_cons]
          rfl

/-- The revisions of the states are counted from none. -/
theorem Chronicle.revisions {states : List EnrollmentState} (h : Chronicle invitation label states) :
    states.reverse.map EnrollmentState.revision = (List.range states.length).map Int.ofNat := by
  induction h with
  | opened hopen =>
      obtain ⟨-, -, -, rfl⟩ := openEnrollment_spec hopen
      rfl
  | @moved past state state' call h heffect ih =>
      have hrange : List.range (state' :: state :: past).length =
          List.range (state :: past).length ++ [(state :: past).length] := List.range_succ
      rw [List.reverse_cons, List.map_append, ih, hrange, List.map_append, List.map_singleton,
        (h.moved heffect).revision]
      rfl

/-- Every state names the digest of the one before it. -/
theorem Chronicle.chained {states : List EnrollmentState} (h : Chronicle invitation label states) :
    states.IsChain fun later earlier => later.predecessorDigest = earlier.digest := by
  induction h with
  | opened hopen => exact .singleton _
  | moved h heffect ih => exact .cons_cons (by cases heffect <;> rfl) ih

/-- States of one revision are one. -/
theorem Chronicle.eq_of_revision {states : List EnrollmentState}
    (h : Chronicle invitation label states) {s t : EnrollmentState} (hs : s ∈ states)
    (ht : t ∈ states) (hrevision : s.revision = t.revision) : s = t := by
  have hnodup : (states.reverse.map EnrollmentState.revision).Nodup := by
    rw [h.revisions]
    exact List.nodup_range.map fun m n => Int.ofNat.inj
  exact List.inj_on_of_nodup_map hnodup (List.mem_reverse.mpr hs) (List.mem_reverse.mpr ht) hrevision

/-- The latest state is behind none. -/
theorem Chronicle.revision_le (h : Chronicle invitation label (state :: past)) :
    ∀ s ∈ state :: past, s.revision ≤ state.revision := by
  intro s hs
  have hmem : s.revision ∈ (state :: past).reverse.map EnrollmentState.revision :=
    List.mem_map_of_mem (List.mem_reverse.mpr hs)
  rw [h.revisions] at hmem
  obtain ⟨n, hn, hrevision⟩ := List.mem_map.mp hmem
  have hlt := List.mem_range.mp hn
  rw [h.revision, ← hrevision]
  rw [List.length_cons] at hlt
  exact Int.ofNat_le.mpr (Nat.lt_succ_iff.mp hlt)

/-- Up to the latest state every revision has its state. -/
theorem Chronicle.exists_revision (h : Chronicle invitation label (state :: past)) {n : Int}
    (hn : 0 ≤ n) (hle : n ≤ state.revision) : ∃ s ∈ state :: past, s.revision = n := by
  have hmem : n ∈ (state :: past).reverse.map EnrollmentState.revision := by
    rw [h.revisions]
    rw [h.revision] at hle
    refine List.mem_map.mpr ⟨n.toNat, List.mem_range.mpr ?_, Int.toNat_of_nonneg hn⟩
    rw [List.length_cons]
    omega
  obtain ⟨s, hs, hrevision⟩ := List.mem_map.mp hmem
  exact ⟨s, List.mem_reverse.mp hs, hrevision⟩

end

end Secp.Enrollment
