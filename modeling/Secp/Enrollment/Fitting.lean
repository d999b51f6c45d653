import Secp.Enrollment.Offers
import Secp.Enrollment.Projection
import Secp.Python.JsonSize

/-!
# Offers that can be signed and stored

The offer of a valid invitation to a worker whose installation id is well formed may be signed, unless the
id names the header of a token or the transaction id has a control character in it. Whatever the texts of
the invitation are, the envelope and the answer stay within the bounds of the table.
-/

namespace Secp.Enrollment

open Secp.Python Secp.Logic

/-! ## Plain texts -/

section
variable {s : Str} {c : Char}

theorem isPlain_of_isGraph (hgraph : isGraph c = true) (hquote : c ≠ '"') (hslash : c ≠ '\\') :
    Json.isPlain c = true := by
  unfold isGraph at hgraph
  unfold Json.isPlain
  simp only [Bool.and_eq_true, decide_eq_true_eq] at hgraph ⊢
  exact ⟨⟨⟨by omega, hgraph.2⟩, hquote⟩, hslash⟩

theorem isPlain_of_isDigestChar (h : isDigestChar c = true) : Json.isPlain c = true := by
  refine isPlain_of_isGraph (isGraph_of_isDigestChar c h) ?_ ?_
  · rintro rfl
    cases h
  · rintro rfl
    cases h

theorem isPlain_of_isInstallationIdChar (h : isInstallationIdChar c = true) :
    Json.isPlain c = true := by
  refine isPlain_of_isGraph (isGraph_of_isInstallationIdChar c h) ?_ ?_
  · rintro rfl
    cases h
  · rintro rfl
    cases h

theorem isPlain_of_isReasonChar (h : isReasonChar c = true) : Json.isPlain c = true := by
  refine isPlain_of_isGraph (isGraph_of_isReasonChar c h) ?_ ?_
  · rintro rfl
    cases h
  · rintro rfl
    cases h

/-- A name is written as it is. -/
theorem length_quoted_of_isReasonChar (h : s.all isReasonChar = true) :
    (Json.quoted true s).length = s.length + 2 :=
  Json.length_quoted_of_isPlain fun c hc => isPlain_of_isReasonChar (List.all_eq_true.mp h c hc)

theorem length_quoted_of_isSha256Digest (h : isSha256Digest s = true) :
    (Json.quoted true s).length ≤ 73 := by
  obtain ⟨hlength, hchars⟩ := isDigestChar_of_isSha256Digest h
  rw [Json.length_quoted_of_isPlain fun c hc => isPlain_of_isDigestChar (hchars c hc)]
  omega

end

section
variable [Unicode] {s : Str}

theorem chars_of_installationIdRe (h : installationIdRe.fullmatch s = true) :
    s.length ≤ 64 ∧ ∀ c ∈ s, isInstallationIdChar c = true := by
  refine chars_of_fullmatch (fun c hc => ?_) h
  unfold isInstallationIdChar
  rw [hc]
  rfl

theorem length_quoted_of_installationIdRe (h : installationIdRe.fullmatch s = true) :
    (Json.quoted true s).length ≤ 66 := by
  obtain ⟨hlength, hchars⟩ := chars_of_installationIdRe h
  rw [Json.length_quoted_of_isPlain fun c hc => isPlain_of_isInstallationIdChar (hchars c hc)]
  omega

/-- A text of so many hexadecimal digits. -/
theorem length_quoted_of_hex {n : Nat}
    (h : (Re.many (fun c => isAsciiDigit c || (97 ≤ c.toNat && c.toNat ≤ 102)) n (some n)).fullmatch s =
      true) : (Json.quoted true s).length ≤ n + 2 := by
  obtain ⟨-, hmost, hchars⟩ := Re.takes_of_fullmatch h
  have hlength := hmost n rfl
  rw [Json.length_quoted_of_isPlain fun c hc => isPlain_of_isDigestChar ?_]
  · omega
  · unfold isDigestChar
    exact Bool.or_eq_true_iff.mpr (.inl (hchars c hc))

/-- The characters of an origin. -/
def isOriginChar (c : Char) : Bool :=
  isAsciiLower c || isAsciiDigit c || c ∈ ['.', '-', ':', '/']

omit [Unicode] in
theorem isGraph_of_isOriginChar {c : Char} (h : isOriginChar c = true) : isGraph c = true := by
  have hmarks : ∀ d ∈ ['.', '-', ':', '/'], isGraph d = true := List.all_eq_true.mp (by decide)
  rcases Bool.or_eq_true_iff.mp h with h | h
  · simp only [isAsciiLower, isAsciiDigit, Bool.or_eq_true, Bool.and_eq_true, decide_eq_true_eq] at h
    unfold isGraph
    rw [Bool.and_eq_true, decide_eq_true_eq, decide_eq_true_eq]
    omega
  · exact hmarks c (of_decide_eq_true h)

omit [Unicode] in
theorem isPlain_of_isOriginChar {c : Char} (h : isOriginChar c = true) : Json.isPlain c = true := by
  refine isPlain_of_isGraph (isGraph_of_isOriginChar h) ?_ ?_
  · rintro rfl
    cases h
  · rintro rfl
    cases h

theorem chars_of_httpsOriginRe (h : httpsOriginRe.fullmatch s = true) :
    ∀ c ∈ s, isOriginChar c = true := by
  intro c hc
  have hallowed := (Re.takes_of_fullmatch h).allows hc
  unfold isOriginChar
  simp [httpsOriginRe, Re.all, Re.word, Re.allows, str] at hallowed ⊢
  rcases hallowed with hletter | (hclass | rfl) | rfl | hdigit | hdigit
  · rcases hletter with rfl | rfl | rfl | rfl | rfl | rfl <;> simp [isAsciiLower]
  · rcases hclass with (hlower | hdigit) | rfl <;> simp [*]
  all_goals simp [*]

theorem length_quoted_of_httpsOriginRe (hlength : s.length ≤ 269)
    (h : httpsOriginRe.fullmatch s = true) : (Json.quoted true s).length ≤ 271 := by
  rw [Json.length_quoted_of_isPlain fun c hc => isPlain_of_isOriginChar (chars_of_httpsOriginRe h c hc)]
  omega

end

/-! ## Valid invitations -/

section
variable [Unicode] {invitation : WorkerEnrollmentInvitation}

/-- What the texts of a valid invitation are. -/
structure Texts (invitation : WorkerEnrollmentInvitation) : Prop where
  invitationId : isSha256Digest invitation.invitationId = true
  controllerInstallationId : installationIdRe.fullmatch invitation.controllerInstallationId = true
  controllerKeyId : isSha256Digest invitation.controllerKeyId = true
  originLength : invitation.controllerOrigin.length ≤ 269
  controllerOrigin : httpsOriginRe.fullmatch invitation.controllerOrigin = true
  releaseDigest : isSha256Digest invitation.releaseDigest = true
  transactionId : 1 ≤ invitation.transactionId.length ∧ invitation.transactionId.length ≤ 512
  expiresAt : ∃ instant, readUtc 40 invitation.expiresAt = some instant
  scanned : scanForbidden invitation.canonical = .ok ()

theorem texts_of_validate (h : invitation.validate = .ok ()) : Texts invitation := by
  unfold WorkerEnrollmentInvitation.validate shortFieldMatching shortField at h
  simp only [except_unit_bind_eq_ok, ensure_eq_ok_iff, Bool.and_eq_true, decide_eq_true_eq] at h
  obtain ⟨-, hid, ⟨-, hinstallation⟩, hkey, -, -, ⟨hlength, horigin⟩, hrelease, htransaction, -, h⟩ := h
  obtain ⟨created, -, h⟩ := except_bind_eq_ok.mp h
  obtain ⟨expires, hexpires, h⟩ := except_bind_eq_ok.mp h
  obtain ⟨-, h⟩ := except_unit_bind_eq_ok.mp h
  have hscan : scanForbidden invitation.canonical = .ok () := by
    unfold WorkerEnrollmentInvitation.scan at h
    cases hscan : scanForbidden invitation.canonical with
    | ok u => rfl
    | error reason =>
        rw [hscan] at h
        cases h
  exact ⟨hid, hinstallation, hkey, hlength, horigin, hrelease, htransaction,
    ⟨expires, parseTs_eq_ok_iff.mp hexpires⟩, hscan⟩

variable {enrollmentId installationId keyId predecessor : Str}

/-- What an offer names besides the invitation. -/
structure Named (enrollmentId installationId keyId predecessor : Str) : Prop where
  enrollmentId : isSha256Digest enrollmentId = true
  installationId : installationIdRe.fullmatch installationId = true
  keyId : isSha256Digest keyId = true
  predecessor : isSha256Digest predecessor = true

/-- The keys of an offer that neither an invitation nor a view has. -/
def offerKeys : List Str := [
  str "controller_transaction_id", str "worker_key_id", str "predecessor_digest"]

theorem scanKey_offerKeys {key : Str} (h : key ∈ offerKeys) : scanKey key = .ok () := by
  have hkeys : ∀ key ∈ offerKeys, (key.all isReasonChar && (forbiddenFieldFragments.find?
      fun fragment => contains fragment key).isNone) = true :=
    List.all_eq_true.mp (by with_unfolding_all decide)
  obtain ⟨hall, hnone⟩ := Bool.and_eq_true_iff.mp (hkeys key h)
  have hchars : ∀ c ∈ key, isReasonChar c = true := List.all_eq_true.mp hall
  have hfragment := Option.isNone_iff_eq_none.mp hnone
  unfold scanKey
  rw [lower_of_isReasonChar hchars, hfragment]
  exact ensure_eq_ok_iff.mpr (by rw [hasForbiddenValue_of_isReasonChar hchars]; rfl)

omit [Unicode] in
theorem hasControl_of_isGraph {s : Str} (h : ∀ c ∈ s, isGraph c = true) : hasControl s = false := by
  refine List.any_eq_false.mpr fun c hc => ?_
  have hgraph := h c hc
  unfold isGraph at hgraph
  simp only [Bool.and_eq_true, decide_eq_true_eq, Bool.or_eq_true] at hgraph ⊢
  omega

/-- The offer of a valid invitation may be signed. -/
theorem authorized_offerClaim (hvalid : invitation.validate = .ok ())
    (hnamed : Named enrollmentId installationId keyId predecessor)
    (hshown : vaultTokenRe.search installationId = false)
    (hprintable : hasControl invitation.transactionId = false) :
    (invitation.offerClaim enrollmentId installationId keyId predecessor).authorized = true := by
  have htexts := texts_of_validate hvalid
  obtain ⟨instant, hexpires⟩ := htexts.expiresAt
  obtain ⟨-, hfields⟩ := scanForbidden_obj_eq_ok_iff.mp htexts.scanned
  simp only [List.forall_mem_cons] at hfields
  obtain ⟨-, -, hid, hcontroller, hkey, -, horigin, hrelease, htransaction, -, -, hexpiry, -⟩ := hfields
  have hdigest : ∀ {s : Str}, isSha256Digest s = true → scanForbidden (.str s) = .ok () := fun h =>
    scanForbidden_str_eq_ok_iff.mpr (survives_of_isSha256Digest h)
  have hworker : scanForbidden (.str installationId) = .ok () :=
    scanForbidden_str_eq_ok_iff.mpr ((survives_installationId_iff hnamed.installationId).mpr hshown)
  have hcontrol := hasControl_of_isGraph fun c hc =>
    isGraph_of_isOriginChar (chars_of_httpsOriginRe htexts.controllerOrigin c hc)
  have hkeys : ∀ key ∈ offerKeys, scanKey key = .ok () := fun key hkey => scanKey_offerKeys hkey
  have hviews : ∀ key ∈ viewKeys, scanKey key = .ok () := fun key hkey => scanKey_viewKeys hkey
  simp only [offerKeys, viewKeys, List.forall_mem_cons] at hkeys hviews
  unfold ControllerOfferClaim.authorized WorkerEnrollmentInvitation.offerClaim
  dsimp only
  simp only [Bool.and_eq_true, decide_eq_true_eq, Bool.not_eq_true']
  refine ⟨⟨⟨⟨⟨⟨⟨⟨⟨⟨⟨hnamed.enrollmentId, htexts.invitationId⟩, htexts.controllerInstallationId⟩,
    htexts.controllerKeyId⟩, ⟨htexts.originLength, htexts.controllerOrigin⟩, hcontrol⟩,
    htexts.transactionId, hprintable⟩, hnamed.installationId⟩, hnamed.keyId⟩, htexts.releaseDigest⟩,
    ?_⟩, hnamed.predecessor⟩, ?_⟩
  · rw [hexpires]
    rfl
  · refine scanForbidden_obj_eq_ok_iff.mpr ⟨?_, ?_⟩
    · show 11 ≤ 256
      omega
    · simp only [List.forall_mem_cons, hkeys, hviews, true_and]
      exact ⟨hdigest hnamed.enrollmentId, hid, hcontroller.2, hkey, horigin, htransaction.2, hworker,
        hdigest hnamed.keyId, hrelease, hexpiry.2, hdigest hnamed.predecessor, List.forall_mem_nil _⟩

/-! ## Sizes -/

omit [Unicode] in
theorem length_quoted_of_readUtc {s : Str} {instant : Int} (h : readUtc 40 s = some instant) :
    (Json.quoted true s).length ≤ 482 := by
  have hlength := (marked_of_readUtc h).1
  have hquoted := Json.length_quoted_le true s
  omega

/-- The keys of the claim of an offer. -/
def claimKeys : List Str := [
  str "schema", str "enrollment_id", str "invitation_id", str "controller_installation_id",
  str "controller_key_id", str "controller_origin", str "controller_transaction_id",
  str "worker_installation_id", str "worker_key_id", str "release_digest", str "expires_at",
  str "predecessor_digest"]

/-- The claim of an offer is short, even where its texts are all escaped. -/
theorem length_offerClaim_le (hvalid : invitation.validate = .ok ())
    (hnamed : Named enrollmentId installationId keyId predecessor) :
    ((controllerOfferClaim (invitation.offerClaim enrollmentId installationId keyId
      predecessor)).dumps true).length ≤ 7800 := by
  have htexts := texts_of_validate hvalid
  obtain ⟨instant, hexpires⟩ := htexts.expiresAt
  have hchars : ∀ field ∈ claimKeys, field.all isReasonChar = true :=
    List.all_eq_true.mp (by with_unfolding_all decide)
  have hkeys : ∀ key ∈ claimKeys, (Json.quoted true key).length = key.length + 2 := fun key hkey =>
    length_quoted_of_isReasonChar (hchars key hkey)
  have hnames : (claimKeys.map List.length).sum = 194 := by simp [claimKeys, str]
  have hschema : (Json.quoted true offerSchema).length = 33 := by
    simp [offerSchema, str, Json.quoted, Json.escapeChar]
  simp only [claimKeys, List.forall_mem_cons, List.map_cons, List.map_nil, List.sum_cons,
    List.sum_nil] at hkeys hnames
  have hdigests := length_quoted_of_isSha256Digest hnamed.enrollmentId
  have hdigests' := length_quoted_of_isSha256Digest htexts.invitationId
  have hcontroller := length_quoted_of_installationIdRe htexts.controllerInstallationId
  have hcontrollerKey := length_quoted_of_isSha256Digest htexts.controllerKeyId
  have horigin := length_quoted_of_httpsOriginRe htexts.originLength htexts.controllerOrigin
  have htransaction := Json.length_quoted_le true invitation.transactionId
  have hbounded := htexts.transactionId.2
  have hworker := length_quoted_of_installationIdRe hnamed.installationId
  have hkey := length_quoted_of_isSha256Digest hnamed.keyId
  have hrelease := length_quoted_of_isSha256Digest htexts.releaseDigest
  have htime := length_quoted_of_readUtc hexpires
  have hpredecessor := length_quoted_of_isSha256Digest hnamed.predecessor
  refine Nat.le_trans (Json.length_dumps_obj_le true _) ?_
  unfold WorkerEnrollmentInvitation.offerClaim
  simp only [List.map_cons, List.map_nil, List.sum_cons, List.sum_nil, Json.fieldLength, Json.dumps]
  omega

variable [Ed25519] {claim : Json} {attestation : DetachedAttestation} {controllerKeyId digest : Str}

theorem length_attestation_le (h : Attests attestation controllerKeyId offerKind digest) :
    ((Json.obj attestation.fields).dumps true).length ≤ 360 := by
  have hkeys : (Json.quoted true (str "algorithm")).length = 11 ∧
      (Json.quoted true (str "key_id")).length = 8 ∧
      (Json.quoted true (str "public_key_hex")).length = 16 ∧
      (Json.quoted true (str "signature")).length = 11 ∧
      (Json.quoted true (str "Ed25519")).length = 9 := by
    simp [str, Json.quoted, Json.escapeChar]
  have hkeyId : isSha256Digest attestation.keyId = true := by
    rw [h.signer]
    exact h.pinned
  have hsigner := length_quoted_of_isSha256Digest hkeyId
  have hkey := length_quoted_of_hex h.publicKeyHex
  have hsignature := length_quoted_of_hex h.signature
  refine Nat.le_trans (Json.length_dumps_obj_le true _) ?_
  unfold DetachedAttestation.fields
  simp only [List.map_cons, List.map_nil, List.sum_cons, List.sum_nil, Json.fieldLength, Json.dumps]
  rw [h.algorithm]
  omega

/-- An envelope adds little to its claim. -/
theorem length_offerEnvelope_le (hclaim : (claim.dumps true).length ≤ 7800)
    (h : Attests attestation controllerKeyId offerKind digest) :
    ((offerEnvelope claim attestation).dumps true).length ≤ 8192 := by
  have hkeys : (Json.quoted true (str "claim")).length = 7 ∧
      (Json.quoted true (str "attestation")).length = 13 := by
    simp [str, Json.quoted, Json.escapeChar]
  have hattestation := length_attestation_le h
  unfold DetachedAttestation.fields at hattestation
  refine Nat.le_trans (Json.length_dumps_obj_le true _) ?_
  simp only [List.map_cons, List.map_nil, List.sum_cons, List.sum_nil, Json.fieldLength]
  omega

end

/-! ## The answer -/

section
variable [Unicode] {invitation : WorkerEnrollmentInvitation} {label : Str} {state : EnrollmentState}

theorem length_fingerprint_le (s : Str) : (Json.quoted true (fingerprint s)).length ≤ 146 := by
  have hshort : (fingerprint s).length ≤ 12 := by
    unfold fingerprint
    dsimp only
    split_ifs <;>
      first
        | exact Nat.zero_le _
        | exact List.length_take_le _ _
  have hquoted := Json.length_quoted_le true (fingerprint s)
  omega

theorem length_label_le (h : isDeploymentSiteLabel label = true) : label.length ≤ 120 := by
  have hrefusal : deploymentSiteLabelRefusal label = none := of_decide_eq_true h
  unfold deploymentSiteLabelRefusal at hrefusal
  split at hrefusal
  · cases hrefusal
  · next hmatches =>
      rw [Bool.not_eq_true, Bool.not_eq_false'] at hmatches
      refine (chars_of_fullmatch (fun c hc => ?_) hmatches).1
      rw [hc]
      rfl

/-- What a lawful state shows is short while its revision is. -/
theorem length_view_le (h : Lawful invitation label state) (hvalid : invitation.validate = .ok ())
    (hlabel : isDeploymentSiteLabel label = true) (hrevision : (intStr state.revision).length ≤ 40) :
    (state.view.dumps true).length ≤ 8000 := by
  have htexts := texts_of_validate hvalid
  obtain ⟨instant, hexpires⟩ := htexts.expiresAt
  obtain ⟨updated, hupdated⟩ := h.updatedAt
  have hchars : ∀ key ∈ viewKeys, key.all isReasonChar = true :=
    List.all_eq_true.mp (by with_unfolding_all decide)
  have hkeys : ∀ key ∈ viewKeys, (Json.quoted true key).length = key.length + 2 := fun key hkey =>
    length_quoted_of_isReasonChar (hchars key hkey)
  have hnames : (viewKeys.map List.length).sum = 231 := by simp [viewKeys, str]
  simp only [viewKeys, List.forall_mem_cons, List.map_cons, List.map_nil, List.sum_cons,
    List.sum_nil] at hkeys hnames
  have hsite := length_label_le hlabel
  have hlabelled := Json.length_quoted_le true state.deploymentSiteLabel
  have hphase : (Json.quoted true state.state.value).length ≤ 218 := by
    cases state.state <;> with_unfolding_all decide
  have hid : (Json.quoted true state.enrollmentId).length ≤ 73 := by
    rw [h.enrollmentId]
    exact length_quoted_of_isSha256Digest (isSha256Digest_sha256Digest _)
  have hcontroller : (Json.quoted true state.controllerInstallationId).length ≤ 66 := by
    rw [h.anchored.controllerInstallationId]
    exact length_quoted_of_installationIdRe htexts.controllerInstallationId
  have hworker : (Json.quoted true state.workerInstallationId).length ≤ 66 := by
    rcases h.workerInstallationId with hempty | hworker
    · rw [hempty]
      decide
    · exact length_quoted_of_installationIdRe hworker.1
  have hkey := length_fingerprint_le state.controllerKeyId
  have hworkerKey := length_fingerprint_le state.workerKeyId
  have hrelease := length_fingerprint_le state.releaseDigest
  have hoffer := length_fingerprint_le state.offerDigest
  have hresult := length_fingerprint_le state.resultDigest
  have htime : (Json.quoted true state.expiresAt).length ≤ 482 := by
    rw [h.anchored.expiresAt]
    exact length_quoted_of_readUtc hexpires
  have hlast := length_quoted_of_readUtc hupdated
  have hreason : (Json.quoted true state.refusalReason).length ≤ 770 := by
    have hlength : state.refusalReason.length ≤ 64 := by
      rcases h.refusalReason with hempty | hreason
      · rw [hempty]
        exact Nat.zero_le _
      · refine (chars_of_fullmatch (fun c hc => ?_) hreason.1).1
        unfold isReasonChar
        rw [hc]
        rfl
    have hquoted := Json.length_quoted_le true state.refusalReason
    omega
  refine Nat.le_trans (Json.length_dumps_obj_le true _) ?_
  simp only [List.map_cons, List.map_nil, List.sum_cons, List.sum_nil, Json.fieldLength, Json.dumps]
  rw [h.label] at hlabelled ⊢
  omega

omit [Unicode] in
theorem length_bindResponse_le {envelope status : Json} (henvelope : (envelope.dumps true).length ≤ 8192)
    (hstatus : (status.dumps true).length ≤ 8000) :
    ((bindResponse envelope status).dumps true).length ≤ 16384 := by
  have hkeys : (Json.quoted true (str "signed_offer")).length = 14 ∧
      (Json.quoted true (str "enrollment")).length = 12 := by
    simp [str, Json.quoted, Json.escapeChar]
  refine Nat.le_trans (Json.length_dumps_obj_le true _) ?_
  simp only [List.map_cons, List.map_nil, List.sum_cons, List.sum_nil, Json.fieldLength]
  omega

end

end Secp.Enrollment
