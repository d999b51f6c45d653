import Mathlib.Data.List.Dedup
import Secp.Enrollment.Inventory
import Secp.Enrollment.Projection
import Secp.Enrollment.Safety
import Secp.Python.Separated

/-!
# Cursors of the inventory

A cursor is an expiry, an id and the digest of a filter, joined and put in base64. Reading it takes the
text apart where a separator stands. An id and a digest hold none, but the grammar of a timestamp leaves
the character between the day and the time of the day open. So a cursor leads back exactly when that
character is not the separator, and never under another filter.
-/

namespace Secp.Enrollment

open Secp.Python Secp.Logic

variable {s : Str}

/-- A time has at most one character outside ASCII. -/
theorem length_filter_of_readUtc {bound : Nat} {instant : Int} (h : readUtc bound s = some instant) :
    (s.filter fun c => !isAscii c).length ≤ 1 := by
  have hreplaced : ∀ s : Str, (replaceChar 'Z' (str "+00:00") s).filter (fun c => !isAscii c) =
      s.filter fun c => !isAscii c := by
    intro s
    induction s with
    | nil => rfl
    | cons c rest ih =>
        show ((if c = 'Z' then str "+00:00" else [c]) ++ replaceChar 'Z' (str "+00:00") rest).filter
          (fun c => !isAscii c) = _
        rw [List.filter_append, ih, List.filter_cons]
        by_cases hz : c = 'Z'
        · rw [if_pos hz, hz]
          simp [str, isAscii]
        · rw [if_neg hz, List.filter_cons]
          split
          · rfl
          · rfl
  have hmarked : ∀ {s : Str}, Datetime.Marked s → s.filter (fun c => !isAscii c) = [] := by
    intro s hs
    refine List.filter_eq_nil_iff.mpr fun c hc => ?_
    have hgraph := isGraph_of_isIsoChar c (hs c hc)
    unfold isGraph at hgraph
    rw [Bool.and_eq_true, decide_eq_true_eq, decide_eq_true_eq] at hgraph
    have hascii : isAscii c = true := decide_eq_true (by omega)
    rw [hascii]
    exact Bool.false_ne_true
  unfold readUtc at h
  dsimp only at h
  split at h
  · cases hread : Datetime.fromIsoformat (replaceChar 'Z' (str "+00:00") s) with
    | none =>
        rw [hread] at h
        cases h
    | some t =>
        obtain ⟨n, hfront, hback⟩ := Datetime.marked_around hread
        rw [← hreplaced, ← List.take_append_drop n (replaceChar 'Z' (str "+00:00") s),
          List.filter_append, hmarked hfront, List.nil_append]
        rw [← List.drop_drop] at hback
        cases htail : (replaceChar 'Z' (str "+00:00") s).drop n with
        | nil => exact Nat.zero_le 1
        | cons c tail =>
            rw [htail, List.drop_one, List.tail_cons] at hback
            rw [List.filter_cons, hmarked hback]
            split
            · exact Nat.le_refl 1
            · exact Nat.zero_le 1
  · cases h

/-- A printed digest is made of digits. -/
theorem isDigestChar_of_mem_hexdigest {bytes : List Nat} {c : Char}
    (h : c ∈ Sha256.hexdigest bytes) : isDigestChar c = true := by
  have hdigit : ∀ m < 16, isDigestChar (hexDigit m) = true := by decide
  obtain ⟨n, -, hc⟩ := List.mem_flatMap.mp h
  rcases List.mem_cons.mp hc with rfl | hc
  · exact hdigit _ (Nat.mod_lt _ (by omega))
  · rw [List.mem_singleton.mp hc]
    exact hdigit _ (Nat.mod_lt _ (by omega))

theorem filterDigest_spec (states : Option (List Str)) :
    (filterDigest states).length ≤ 16 ∧ ∀ c ∈ filterDigest states, isReasonChar c = true ∨
      isDigestChar c = true := by
  have hnone : noFilter.length ≤ 16 ∧ ∀ c ∈ noFilter, isReasonChar c = true :=
    ⟨by with_unfolding_all decide, List.all_eq_true.mp (by with_unfolding_all decide)⟩
  have hall : noFilter.length ≤ 16 ∧ ∀ c ∈ noFilter, isReasonChar c = true ∨
      isDigestChar c = true := ⟨hnone.1, fun c hc => .inl (hnone.2 c hc)⟩
  cases states with
  | none => exact hall
  | some names =>
      cases names with
      | nil => exact hall
      | cons name names =>
          unfold filterDigest
          exact ⟨List.length_take_le _ _, fun c hc =>
            .inr (isDigestChar_of_mem_hexdigest (List.mem_of_mem_take hc))⟩

theorem length_rstripChar_le (c : Char) (s : Str) : (rstripChar c s).length ≤ s.length := by
  unfold rstripChar
  rw [List.length_reverse, ← @List.length_reverse _ s]
  exact (List.dropWhile_suffix _).length_le

/-! ## The text inside a cursor -/

/-- The text inside a cursor. -/
def cursorText (expiresAt enrollmentId : Str) (states : Option (List Str)) : Str :=
  join [cursorSeparator] [expiresAt, enrollmentId, filterDigest states]

/-- What is read of the text inside a cursor. -/
def readPosition (raw : Str) (states : Option (List Str)) : Except ServiceError (Int × Str) :=
  match raw.splitOn cursorSeparator with
  | [head, enrollmentId, boundFilter] =>
      match parseCanonicalUtc head with
      | none => .error cursorInvalid
      | some expires => do
          ensure (isSha256Digest enrollmentId) cursorInvalid
          ensure (boundFilter = filterDigest states) cursorInvalid
          pure (expires, enrollmentId)
  | _ => .error cursorInvalid

/-- A short text is read as it was before it was put in a cursor. -/
theorem decodeCursor_encoded {raw : Str} (hne : raw ≠ [])
    (hshort : (Sha256.encode raw).length ≤ 192) (states : Option (List Str)) :
    decodeCursor (rstripChar '=' (Base64.urlsafeB64encode (Sha256.encode raw))) states =
      readPosition raw states := by
  have hbytes : ∀ b ∈ Sha256.encode raw, b < 256 := fun b hb => Utf8.lt_of_mem_encode hb
  have hpadded := Base64.padded_rstripChar hbytes
  have hdecoded := Base64.urlsafeB64decode_encode hbytes
  have hnonempty : rstripChar '=' (Base64.urlsafeB64encode (Sha256.encode raw)) ≠ [] := by
    intro hnil
    rw [hnil] at hpadded
    rw [← hpadded] at hdecoded
    have htext := Utf8.decode_encode raw
    rw [← Option.some.inj hdecoded] at htext
    exact hne (Option.some.inj htext).symm
  have hbounded : ensure (1 ≤ (rstripChar '=' (Base64.urlsafeB64encode (Sha256.encode raw))).length &&
      (rstripChar '=' (Base64.urlsafeB64encode (Sha256.encode raw))).length ≤ maxCursorLength)
      cursorInvalid = .ok () := by
    have hle := length_rstripChar_le '=' (Base64.urlsafeB64encode (Sha256.encode raw))
    rw [Base64.length_urlsafeB64encode] at hle
    have hpos := List.length_pos_iff.mpr hnonempty
    rw [ensure_eq_ok_iff, Bool.and_eq_true, decide_eq_true_eq, decide_eq_true_eq]
    unfold maxCursorLength
    omega
  have hascii : ensure ((Base64.urlsafeB64encode (Sha256.encode raw)).all isAscii) cursorInvalid =
      .ok () := by
    obtain ⟨body, k, hbody, -, hascii, -, -⟩ := Base64.exists_padding hbytes
    rw [ensure_eq_ok_iff, hbody]
    refine List.all_eq_true.mpr fun c hc => ?_
    rcases List.mem_append.mp hc with hc | hc
    · exact hascii c hc
    · rw [List.eq_of_mem_replicate hc]
      rfl
  unfold decodeCursor
  rw [except_bind_of_ok hbounded]
  dsimp only
  rw [hpadded, except_bind_of_ok hascii, hdecoded, Option.bind_some, Utf8.decode_encode]
  rfl

/-- A character of an id or of a filter is no separator, and one byte long. -/
theorem plain_of_cursorChar {c : Char} (h : isReasonChar c = true ∨ isDigestChar c = true) :
    isAscii c = true ∧ c ≠ cursorSeparator := by
  have hgraph : isGraph c = true := h.elim (isGraph_of_isReasonChar c) (isGraph_of_isDigestChar c)
  constructor
  · unfold isGraph at hgraph
    rw [Bool.and_eq_true, decide_eq_true_eq, decide_eq_true_eq] at hgraph
    exact decide_eq_true (by omega)
  · rintro rfl
    revert h
    decide

variable {expiresAt enrollmentId : Str} {instant : Int}

theorem separator_notMem_id (hid : isSha256Digest enrollmentId = true) :
    cursorSeparator ∉ enrollmentId := by
  obtain ⟨-, hchars⟩ := isDigestChar_of_isSha256Digest hid
  exact fun hc => (plain_of_cursorChar (.inr (hchars _ hc))).2 rfl

theorem separator_notMem_filterDigest (states : Option (List Str)) :
    cursorSeparator ∉ filterDigest states := by
  obtain ⟨-, hchars⟩ := filterDigest_spec states
  exact fun hc => (plain_of_cursorChar (hchars _ hc)).2 rfl

theorem cursorText_eq (states : Option (List Str)) :
    cursorText expiresAt enrollmentId states = expiresAt ++ cursorSeparator ::
      (enrollmentId ++ cursorSeparator :: filterDigest states) := by
  simp [cursorText, join, List.intercalate_cons_cons]

/-- The text inside a cursor is short: only the expiry may hold a wide character, and only one. -/
theorem length_encode_cursorText (hexpires : parseCanonicalUtc expiresAt = some instant)
    (hid : isSha256Digest enrollmentId = true) (states : Option (List Str)) :
    (Sha256.encode (cursorText expiresAt enrollmentId states)).length ≤ 192 := by
  obtain ⟨hidLength, hidChars⟩ := isDigestChar_of_isSha256Digest hid
  obtain ⟨hfilterLength, hfilterChars⟩ := filterDigest_spec states
  obtain ⟨hexpiresLength, -⟩ := marked_of_readUtc hexpires
  have hexpiresWide := length_filter_of_readUtc hexpires
  have hnone : ∀ {s : Str}, (∀ c ∈ s, isReasonChar c = true ∨ isDigestChar c = true) →
      s.filter (fun c => !isAscii c) = [] := by
    intro s hs
    refine List.filter_eq_nil_iff.mpr fun c hc => ?_
    rw [(plain_of_cursorChar (hs c hc)).1]
    exact Bool.false_ne_true
  have hseparator : ∀ s : Str, (cursorSeparator :: s).filter (fun c => !isAscii c) =
      s.filter fun c => !isAscii c := fun s => rfl
  have hle := Utf8.length_encode_le (cursorText expiresAt enrollmentId states)
  rw [cursorText_eq, List.filter_append, hseparator, List.filter_append,
    hnone fun c hc => .inr (hidChars c hc), hseparator, hnone hfilterChars, List.append_nil,
    List.append_nil, List.length_append, List.length_cons, List.length_append, List.length_cons,
    ← cursorText_eq] at hle
  omega

/-- A cursor is read as the text inside it. -/
theorem decodeCursor_encodeCursor_eq (hexpires : parseCanonicalUtc expiresAt = some instant)
    (hid : isSha256Digest enrollmentId = true) (states other : Option (List Str)) :
    decodeCursor (encodeCursor expiresAt enrollmentId states) other =
      readPosition (cursorText expiresAt enrollmentId states) other := by
  refine decodeCursor_encoded ?_ (length_encode_cursorText hexpires hid states) other
  rw [cursorText_eq]
  exact List.append_ne_nil_of_right_ne_nil _ (List.cons_ne_nil _ _)

/-- Without a separator in the expiry the three parts are found again. -/
theorem readPosition_cursorText (hexpires : parseCanonicalUtc expiresAt = some instant)
    (hid : isSha256Digest enrollmentId = true) (hseparator : cursorSeparator ∉ expiresAt)
    (states other : Option (List Str)) :
    readPosition (cursorText expiresAt enrollmentId states) other =
      if filterDigest states = filterDigest other then .ok (instant, enrollmentId)
      else .error cursorInvalid := by
  have hsplit : (cursorText expiresAt enrollmentId states).splitOn cursorSeparator =
      [expiresAt, enrollmentId, filterDigest states] := by
    refine List.splitOn_intercalate cursorSeparator ?_ (List.cons_ne_nil _ _)
    exact List.forall_mem_cons.mpr ⟨hseparator, List.forall_mem_cons.mpr
      ⟨separator_notMem_id hid, List.forall_mem_singleton.mpr (separator_notMem_filterDigest states)⟩⟩
  unfold readPosition
  rw [hsplit]
  dsimp only
  rw [hexpires, hid]
  by_cases hsame : filterDigest states = filterDigest other
  · rw [if_pos hsame, decide_eq_true hsame]
    rfl
  · rw [if_neg hsame, decide_eq_false hsame]
    rfl

/-- With a separator in the expiry there are more than three parts. -/
theorem readPosition_of_separator (h : cursorSeparator ∈ expiresAt)
    (states other : Option (List Str)) :
    readPosition (cursorText expiresAt enrollmentId states) other = .error cursorInvalid := by
  obtain ⟨day, time, rfl⟩ := List.append_of_mem h
  have hsplit : (cursorText (day ++ cursorSeparator :: time) enrollmentId states).splitOn
      cursorSeparator = day.splitOn cursorSeparator ++ (time.splitOn cursorSeparator ++
        (enrollmentId.splitOn cursorSeparator ++ (filterDigest states).splitOn cursorSeparator)) := by
    rw [cursorText_eq, List.append_assoc, List.cons_append, List.splitOn_append_cons_self,
      List.splitOn_append_cons_self, List.splitOn_append_cons_self]
  have hpos : ∀ s : Str, 1 ≤ (s.splitOn cursorSeparator).length := fun s =>
    List.length_pos_iff.mpr (List.splitOn_ne_nil _ s)
  have hmany : 4 ≤ ((cursorText (day ++ cursorSeparator :: time) enrollmentId states).splitOn
      cursorSeparator).length := by
    have hday := hpos day
    have htime := hpos time
    have hid := hpos enrollmentId
    have hfilter := hpos (filterDigest states)
    rw [hsplit, List.length_append, List.length_append, List.length_append]
    omega
  unfold readPosition
  generalize (cursorText (day ++ cursorSeparator :: time) enrollmentId states).splitOn
    cursorSeparator = parts at hmany ⊢
  rcases parts with _ | ⟨a, _ | ⟨b, _ | ⟨c, _ | ⟨d, rest⟩⟩⟩⟩
  · rfl
  · rfl
  · rfl
  · exact absurd hmany (by simp)
  · rfl

/-! ## Cursors and filters -/

/-- Two filters select the same states; no filter is the empty one. -/
def SameStates (states other : Option (List Str)) : Prop :=
  ∀ name, name ∈ states.getD [] ↔ name ∈ other.getD []

/-- The order and the repetitions of a filter do not reach its digest. -/
theorem filterDigest_eq_of_same {states other : Option (List Str)} (h : SameStates states other) :
    filterDigest states = filterDigest other := by
  have hempty : ∀ states : Option (List Str), states.getD [] = [] → filterDigest states = noFilter := by
    intro states hstates
    cases states with
    | none => rfl
    | some names =>
        rw [show names = [] from hstates]
        rfl
  have hnames : ∀ states : Option (List Str), states.getD [] ≠ [] → filterDigest states =
      (Sha256.hexdigest (Sha256.encode
        (join [','] (sortedBy id (states.getD []).dedup)))).take 16 := by
    intro states hstates
    cases states with
    | none => exact absurd rfl hstates
    | some names =>
        cases names with
        | nil => exact absurd rfl hstates
        | cons name names => rfl
  by_cases hnil : states.getD [] = []
  · have hother : other.getD [] = [] := by
      refine List.eq_nil_iff_forall_not_mem.mpr fun name hname => ?_
      have hmem := (h name).mpr hname
      rw [hnil] at hmem
      cases hmem
    rw [hempty states hnil, hempty other hother]
  · have hother : other.getD [] ≠ [] := by
      intro hother
      refine hnil (List.eq_nil_iff_forall_not_mem.mpr fun name hname => ?_)
      have hmem := (h name).mp hname
      rw [hother] at hmem
      cases hmem
    have hperm : (states.getD []).dedup.Perm (other.getD []).dedup :=
      (List.perm_ext_iff_of_nodup (List.nodup_dedup _) (List.nodup_dedup _)).mpr fun name => by
        rw [List.mem_dedup, List.mem_dedup]
        exact h name
    have hsorted : sortedBy id (states.getD []).dedup = sortedBy id (other.getD []).dedup :=
      sortedBy_eq_of_perm (fun _ _ _ _ hkey => hkey) hperm
    rw [hnames states hnil, hnames other hother, hsorted]

/-- A cursor leads back under every spelling of its filter. -/
theorem decodeCursor_of_same {expiresAt enrollmentId : Str} {instant : Int}
    {states other : Option (List Str)} (hexpires : parseCanonicalUtc expiresAt = some instant)
    (hid : isSha256Digest enrollmentId = true) (hseparator : cursorSeparator ∉ expiresAt)
    (h : SameStates states other) :
    decodeCursor (encodeCursor expiresAt enrollmentId states) other = .ok (instant, enrollmentId) := by
  rw [decodeCursor_encodeCursor_eq hexpires hid, readPosition_cursorText hexpires hid hseparator,
    if_pos (filterDigest_eq_of_same h)]

/-- A cursor of an admitted expiry and id leads back under its filter and is refused under another
one exactly when the expiry holds no separator. Two filters are taken to differ in their digests when
they differ in their states. -/
theorem cursor_bound_iff {expiresAt enrollmentId reason : Str} {instant : Int}
    {states other : Option (List Str)} (hexpires : parseTs expiresAt reason = .ok instant)
    (hid : isSha256Digest enrollmentId = true)
    (hdigest : filterDigest states = filterDigest other → SameStates states other) :
    (decodeCursor (encodeCursor expiresAt enrollmentId states) states = .ok (instant, enrollmentId) ∧
      (¬SameStates states other →
        decodeCursor (encodeCursor expiresAt enrollmentId states) other = .error cursorInvalid)) ↔
      cursorSeparator ∉ expiresAt := by
  have hutc : parseCanonicalUtc expiresAt = some instant :=
    readUtc_mono (by decide) (parseTs_eq_ok_iff.mp hexpires)
  constructor
  · rintro ⟨hback, -⟩ hseparator
    rw [decodeCursor_encodeCursor_eq hutc hid, readPosition_of_separator hseparator] at hback
    cases hback
  · intro hseparator
    refine ⟨decodeCursor_of_same hutc hid hseparator fun name => Iff.rfl, fun hother => ?_⟩
    rw [decodeCursor_encodeCursor_eq hutc hid, readPosition_cursorText hutc hid hseparator,
      if_neg fun hsame => hother (hdigest hsame)]

theorem cursor_bound_sample :
    (decodeCursor (encodeCursor (str "2026-01-01T00:00:00Z") (sampleDigest '0') none) none =
        .ok (63902822400000000, sampleDigest '0') ∧
      (¬SameStates none (some [str "healthy"]) →
        decodeCursor (encodeCursor (str "2026-01-01T00:00:00Z") (sampleDigest '0') none)
          (some [str "healthy"]) = .error cursorInvalid)) ∧
      ¬SameStates none (some [str "healthy"]) := by
  have hread : readUtc 40 (str "2026-01-01T00:00:00Z") = some 63902822400000000 := by with_unfolding_all decide
  have hid : isSha256Digest (sampleDigest '0') = true := by with_unfolding_all decide
  have hdigests : filterDigest none ≠ filterDigest (some [str "healthy"]) := by with_unfolding_all decide
  have hseparator : cursorSeparator ∉ str "2026-01-01T00:00:00Z" := by with_unfolding_all decide
  have hexpires : parseTs (str "2026-01-01T00:00:00Z") [] = .ok 63902822400000000 :=
    parseTs_eq_ok_iff.mpr hread
  refine ⟨(cursor_bound_iff hexpires hid fun hsame => absurd hsame hdigests).mpr hseparator,
    fun hsame => ?_⟩
  exact List.not_mem_nil ((hsame (str "healthy")).mpr (List.mem_singleton_self _))

/-- An invitation whose expiry sets the day off from the time by the separator of a cursor. -/
def barredInvitation : WorkerEnrollmentInvitation :=
  { sampleInvitation with expiresAt := str "2030-01-01|01:00:00Z" }

/-- Its enrollment is opened, and the cursor of that enrollment is refused. -/
theorem cursor_not_bound :
    ∃ state, @openEnrollment Unicode.ascii barredInvitation sampleNow [] = .ok state ∧
      decodeCursor (encodeCursor state.expiresAt state.enrollmentId none) none =
        .error cursorInvalid := by
  let _ := Unicode.ascii
  have hvalid : barredInvitation.validate = .ok () := by decide +kernel
  have hfresh : barredInvitation.assertFresh sampleNow = .ok () := by with_unfolding_all decide
  have htime : (readUtc 40 sampleNow).isSome = true := by with_unfolding_all decide
  have hexpires : (readUtc 40 barredInvitation.expiresAt).isSome = true := by with_unfolding_all decide
  have hseparator : cursorSeparator ∈ barredInvitation.expiresAt := by with_unfolding_all decide
  obtain ⟨now, htime⟩ := Option.isSome_iff_exists.mp htime
  obtain ⟨instant, hexpires⟩ := Option.isSome_iff_exists.mp hexpires
  have hopen : ∃ state, openEnrollment barredInvitation sampleNow [] = .ok state := by
    unfold openEnrollment
    rw [except_bind_of_ok hvalid, except_bind_of_ok hfresh,
      except_bind_of_ok (parseTs_eq_ok_iff.mpr htime)]
    exact ⟨_, rfl⟩
  obtain ⟨state, hstate⟩ := hopen
  obtain ⟨-, -, -, hfields⟩ := openEnrollment_spec hstate
  have hid : isSha256Digest barredInvitation.digest = true := isSha256Digest_sha256Digest _
  refine ⟨state, hstate, ?_⟩
  rw [hfields]
  show decodeCursor (encodeCursor barredInvitation.expiresAt barredInvitation.digest none) none = _
  rw [decodeCursor_encodeCursor_eq (readUtc_mono (by decide) hexpires) hid,
    readPosition_of_separator hseparator]

end Secp.Enrollment
