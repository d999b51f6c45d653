import Secp.Logic.StateExcept
import Secp.Proxmox.Manifest
import Secp.Python.JsonText
import Secp.Worker.Bundle
import Secp.Worker.Observation

/-!
# Ownership stamps as provider tags

A guest carries its ownership as provider tags, which are lowercase and hold few other characters,
and a later teardown reads them back and compares them with the ownership as it was. What the tags
hold is the stamp itself exactly when the stamp's texts are made of what a tag may hold.
-/

namespace Secp.Worker

open Secp.Python Secp.Logic Secp.Proxmox

/-! ## Reading tags back -/

/-- A tag read back: what stands before its first `=`, and what stands after it. -/
def readTag (item : Str) : Str × Str :=
  (item.takeWhile (· ≠ '='), (item.dropWhile (· ≠ '=')).drop 1)

/-- The tag map of an observed object. -/
def readTags (items : List Str) : Dict Str Str := Dict.ofPairs (items.map readTag)

theorem readTag_append {key value : Str} (h : '=' ∉ key) :
    readTag (key ++ str "=" ++ value) = (key, value) := by
  have hsign : str "=" = ['='] := by with_unfolding_all decide
  have hkey : ∀ c ∈ key, decide (c ≠ '=') = true := by
    intro c hc
    rw [decide_eq_true_eq]
    rintro rfl
    exact h hc
  have hstop : (['='] ++ value).takeWhile (· ≠ '=') = [] ∧
      (['='] ++ value).dropWhile (· ≠ '=') = '=' :: value := by simp
  rw [readTag, hsign, List.append_assoc, List.takeWhile_append_of_pos hkey,
    List.dropWhile_append_of_pos hkey, hstop.1, hstop.2, List.append_nil]
  rfl

/-- What is read out of a tag is a part of it. -/
theorem mem_of_mem_readTag {item : Str} {c : Char} (h : c ∈ (readTag item).2) : c ∈ item :=
  (List.dropWhile_sublist _).subset ((List.drop_sublist _ _).subset h)

/-! ## Texts that fit -/

/-- A text that a tag holds as it is. -/
def TagText (s : Str) : Prop := ∀ c ∈ s, isTagChar c = true

instance (s : Str) : Decidable (TagText s) := List.decidableBAll (fun c => isTagChar c = true) s

theorem tagText_append {a b : Str} : TagText (a ++ b) ↔ TagText a ∧ TagText b :=
  List.forall_mem_append

/-- The texts of a stamp fit into tags. -/
structure FitsTags (o : Ownership) : Prop where
  organization : TagText o.organizationId
  target : TagText o.targetId
  range : TagText o.rangeId
  team : ∀ team ∈ o.teamRef, TagText team

theorem asciiLower_of_isTagChar {c : Char} (h : isTagChar c = true) :
    isAscii c = true ∧ asciiLower c = c := by
  have hcases : isAsciiLower c = true ∨ isAsciiDigit c = true ∨ c = '_' ∨ c = '.' ∨ c = '=' ∨
      c = '-' := by simpa [isTagChar, or_assoc] using h
  rcases hcases with hlower | hdigit | rfl | rfl | rfl | rfl
  · simp only [isAsciiLower, Bool.and_eq_true, decide_eq_true_eq] at hlower
    simp only [isAscii, asciiLower, isAsciiUpper]
    refine ⟨decide_eq_true (by omega), if_neg ?_⟩
    simp
    omega
  · simp only [isAsciiDigit, Bool.and_eq_true, decide_eq_true_eq] at hdigit
    simp only [isAscii, asciiLower, isAsciiUpper]
    refine ⟨decide_eq_true (by omega), if_neg ?_⟩
    simp
    omega
  all_goals exact ⟨rfl, rfl⟩

theorem tagText_natStr (n : Nat) : TagText (natStr n) := by
  intro c hc
  have hdigit : isAsciiDigit c = true := isAsciiDigit_of_mem_natStr hc
  simp [isTagChar, hdigit]

theorem tagText_intStr (n : Int) : TagText (intStr n) := by
  cases n with
  | ofNat n => exact tagText_natStr n
  | negSucc n =>
      intro c hc
      rcases List.mem_cons.mp hc with rfl | hc
      · rfl
      · exact tagText_natStr (n + 1) c hc

/-! ## The tags of a stamp -/

theorem mem_asTags_iff {o : Ownership} {tag : Str × Str} :
    tag ∈ o.asTags ↔ tag = (str "secp.org", o.organizationId) ∨
      tag = (str "secp.target", o.targetId) ∨ tag = (str "secp.range", o.rangeId) ∨
      tag = (str "secp.generation", intStr o.generation) ∨
      tag = (str "secp.operation_generation", intStr o.operationGeneration) ∨
      tag = (str "secp.kind", o.resourceKind.value) ∨
      ∃ team ∈ o.teamRef, tag = (str "secp.team", team) := by
  unfold Ownership.asTags
  rw [mem_sortedBy]
  cases o.teamRef <;> simp

theorem asTags_ne_nil (o : Ownership) : o.asTags ≠ [] :=
  List.ne_nil_of_mem (mem_asTags_iff.mpr (.inl rfl))

theorem nodup_keys_asTags (o : Ownership) : (o.asTags.map Prod.fst).Nodup := by
  refine ((sortedBy_perm _ _).map Prod.fst).nodup_iff.mpr ?_
  cases o.teamRef <;> simp

theorem get?_asTags (o : Ownership) :
    o.asTags.get? (str "secp.org") = some o.organizationId ∧
    o.asTags.get? (str "secp.target") = some o.targetId ∧
    o.asTags.get? (str "secp.range") = some o.rangeId ∧
    o.asTags.get? (str "secp.generation") = some (intStr o.generation) ∧
    o.asTags.get? (str "secp.team") = o.teamRef := by
  have hnodup := nodup_keys_asTags o
  refine ⟨Dict.get?_of_mem hnodup (mem_asTags_iff.mpr (by simp)),
    Dict.get?_of_mem hnodup (mem_asTags_iff.mpr (by simp)),
    Dict.get?_of_mem hnodup (mem_asTags_iff.mpr (by simp)),
    Dict.get?_of_mem hnodup (mem_asTags_iff.mpr (by simp)), ?_⟩
  cases hteam : o.teamRef with
  | none =>
      rw [Dict.get?_eq_none_iff]
      intro hkey
      obtain ⟨tag, htag, hkey⟩ := List.mem_map.mp hkey
      simp only [mem_asTags_iff, hteam, Option.mem_def, reduceCtorEq, false_and, exists_false,
        or_false] at htag
      rcases htag with rfl | rfl | rfl | rfl | rfl | rfl
      all_goals simp at hkey
  | some team => exact Dict.get?_of_mem hnodup (mem_asTags_iff.mpr (by simp [hteam]))

/-- The keys of a stamp fit into tags, and none holds the sign that ends it. -/
theorem tagText_of_mem_asTags {o : Ownership} {tag : Str × Str} (htag : tag ∈ o.asTags) :
    TagText tag.1 ∧ '=' ∉ tag.1 := by
  have hkeys : ∀ key ∈ [str "secp.org", str "secp.target", str "secp.range",
      str "secp.generation", str "secp.operation_generation", str "secp.kind", str "secp.team"],
      TagText key ∧ '=' ∉ key := by with_unfolding_all decide
  rcases mem_asTags_iff.mp htag with rfl | rfl | rfl | rfl | rfl | rfl | ⟨_, _, rfl⟩
  all_goals exact hkeys _ (by simp)

theorem tagText_kind (kind : RangeResourceKind) : TagText kind.value := by
  cases kind <;> with_unfolding_all decide

/-- Every text of a stamp that fits is one that a tag holds as it is. -/
theorem FitsTags.tagText {o : Ownership} (h : FitsTags o) {tag : Str × Str}
    (htag : tag ∈ o.asTags) : TagText tag.2 := by
  rcases mem_asTags_iff.mp htag with rfl | rfl | rfl | rfl | rfl | rfl | ⟨team, hteam, rfl⟩
  · exact h.organization
  · exact h.target
  · exact h.range
  · exact tagText_intStr o.generation
  · exact tagText_intStr o.operationGeneration
  · exact tagText_kind o.resourceKind
  · exact h.team team hteam

section
variable [Unicode]

/-! ## Reading an ownership -/

/-- Tags are those of an ownership exactly when the five of its scope say so. -/
theorem isOwnedBySecp_eq_secpOwned_iff {tags : Dict Str Str} {o : Ownership} :
    isOwnedBySecp (some tags) o = .secpOwned ↔
      tags.get? (str "secp.org") = some o.organizationId ∧
      tags.get? (str "secp.target") = some o.targetId ∧
      tags.get? (str "secp.range") = some o.rangeId ∧
      (tags.get? (str "secp.generation")).bind intOf = some o.generation ∧
      tags.get? (str "secp.team") = o.teamRef := by
  cases tags with
  | nil => simp [isOwnedBySecp, Dict.get?]
  | cons tag rest =>
      unfold isOwnedBySecp
      dsimp only
      split
      · rename_i hmissing
        -- a missing key leaves one of the readings empty
        obtain ⟨key, hkey, hnone⟩ := List.any_eq_true.mp hmissing
        have hget : Dict.get? (tag :: rest) key = none := by
          simpa [Dict.hasKey] using hnone
        refine iff_of_false (by split <;> simp) fun h => ?_
        obtain ⟨horg, htarget, hrange, hgeneration, _⟩ := h
        simp only [requiredTags, List.mem_cons, List.not_mem_nil, or_false] at hkey
        rcases hkey with rfl | rfl | rfl | rfl
        · simp [hget] at horg
        · simp [hget] at htarget
        · simp [hget] at hrange
        · simp [hget] at hgeneration
      · cases hgeneration : (Dict.get? (tag :: rest) (str "secp.generation")).bind intOf with
        | none => simp
        | some generation => simp

/-! ## Rendering -/

/-- A tag as it is rendered. -/
def renderTag (item : Str) : Str := subChars (fun c => !isTagChar c) '-' (lower item)

/-- Whatever a stamp holds, its tags hold only what a tag may. -/
theorem tagText_renderTag (item : Str) : TagText (renderTag item) := by
  intro c hc
  obtain ⟨d, _, rfl⟩ := List.mem_map.mp hc
  by_cases hd : isTagChar d = true
  · simp [hd]
  · simp only [hd]
    rfl

theorem renderTag_of_tagText {item : Str} (h : TagText item) : renderTag item = item := by
  have hascii : item.all isAscii = true :=
    List.all_eq_true.mpr fun c hc => (asciiLower_of_isTagChar (h c hc)).1
  have hlower : item.map asciiLower = item :=
    (List.map_congr_left fun c hc => (asciiLower_of_isTagChar (h c hc)).2).trans (List.map_id item)
  rw [renderTag, lower, if_pos hascii, hlower]
  refine (List.map_congr_left fun c hc => ?_).trans (List.map_id item)
  simp [h c hc]

theorem ownershipItems_payload (o : Ownership) :
    ownershipItems (ownershipPayload o) =
      .ok (o.asTags.map fun tag => tag.1 ++ str "=" ++ tag.2) := by
  have hget : (ownershipPayload o).getOr (str "tags") .null =
      .ok (.obj (o.asTags.map fun tag => (tag.1, .str tag.2))) := by
    simp [ownershipPayload, Json.getOr, Dict.get?]
  have htruthy : (Json.obj (o.asTags.map fun tag => (tag.1, .str tag.2))).truthy = true := by
    simp [Json.truthy, asTags_ne_nil o]
  unfold ownershipItems
  rw [hget, except_bind_of_ok rfl, Json.orElse, if_pos htruthy]
  show Except.ok _ = _
  rw [Json.sortedBy_map_snd, List.map_map]
  unfold Ownership.asTags
  rw [sortedBy_sortedBy]
  rfl

theorem ownershipTagList_payload (o : Ownership) :
    ownershipTagList (ownershipPayload o) =
      .ok (o.asTags.map fun tag => renderTag (tag.1 ++ str "=" ++ tag.2)) := by
  unfold ownershipTagList
  rw [ownershipItems_payload, except_bind_of_ok rfl]
  show Except.ok _ = _
  rw [List.map_map]
  rfl

/-- The tags a guest carries for its stamp, read back. -/
def observedTags (o : Ownership) : Dict Str Str :=
  readTags (o.asTags.map fun tag => renderTag (tag.1 ++ str "=" ++ tag.2))

/-- What is read back fits into tags, whatever the stamp holds. -/
theorem tagText_of_observedTags {o : Ownership} {key value : Str}
    (h : (observedTags o).get? key = some value) : TagText value := by
  have hmem := Dict.mem_of_get?_ofPairs h
  rw [List.map_map] at hmem
  obtain ⟨tag, _, htag⟩ := List.mem_map.mp hmem
  intro c hc
  have hvalue : (readTag (renderTag (tag.1 ++ str "=" ++ tag.2))).2 = value :=
    congrArg Prod.snd htag
  rw [← hvalue] at hc
  exact tagText_renderTag _ c (mem_of_mem_readTag hc)

/-- A stamp that fits is read back as it is. -/
theorem observedTags_of_fitsTags {o : Ownership} (h : FitsTags o) : observedTags o = o.asTags := by
  have hsame : (o.asTags.map fun tag => renderTag (tag.1 ++ str "=" ++ tag.2)).map readTag =
      o.asTags := by
    rw [List.map_map]
    refine (List.map_congr_left fun tag htag => ?_).trans (List.map_id _)
    obtain ⟨hkey, hsign⟩ := tagText_of_mem_asTags htag
    have hitem : TagText (tag.1 ++ str "=" ++ tag.2) := by
      have hequals : TagText (str "=") := by with_unfolding_all decide
      exact tagText_append.mpr ⟨tagText_append.mpr ⟨hkey, hequals⟩, h.tagText htag⟩
    show readTag (renderTag (tag.1 ++ str "=" ++ tag.2)) = tag
    rw [renderTag_of_tagText hitem, readTag_append hsign]
  rw [observedTags, readTags, hsame, Dict.ofPairs_of_nodup (nodup_keys_asTags o)]

/-- The tags of a stamp are those of every ownership of the same scope and team, and of no other. -/
theorem isOwnedBySecp_asTags_iff {o expected : Ownership} :
    isOwnedBySecp (some o.asTags) expected = .secpOwned ↔
      o.organizationId = expected.organizationId ∧ o.targetId = expected.targetId ∧
      o.rangeId = expected.rangeId ∧ o.generation = expected.generation ∧
      o.teamRef = expected.teamRef := by
  obtain ⟨horg, htarget, hrange, hgeneration, hteam⟩ := get?_asTags o
  rw [isOwnedBySecp_eq_secpOwned_iff, horg, htarget, hrange, hgeneration, hteam]
  simp [int_of_text_of_int]

/-- The tags a guest is rendered with are read back as its stamp, and as the stamp of no other
scope, exactly when the texts of the stamp fit into tags. -/
theorem stamp_survives_iff (o : Ownership) :
    ∃ items, ownershipTagList (ownershipPayload o) = .ok items ∧
      (isOwnedBySecp (some (readTags items)) o = .secpOwned ∧
          (∀ other : Ownership, other.scopeKey ≠ o.scopeKey →
            isOwnedBySecp (some (readTags items)) other ≠ .secpOwned) ↔
        FitsTags o) := by
  refine ⟨_, ownershipTagList_payload o, ⟨fun h => ?_, fun h => ?_⟩⟩
  · obtain ⟨horg, htarget, hrange, _, hteam⟩ := isOwnedBySecp_eq_secpOwned_iff.mp h.1
    exact ⟨tagText_of_observedTags horg, tagText_of_observedTags htarget,
      tagText_of_observedTags hrange, fun team hmem => tagText_of_observedTags (hteam.trans hmem)⟩
  · have hread := observedTags_of_fitsTags h
    unfold observedTags at hread
    rw [hread]
    refine ⟨isOwnedBySecp_asTags_iff.mpr ⟨rfl, rfl, rfl, rfl, rfl⟩, fun other hscope howned => ?_⟩
    obtain ⟨horg, htarget, hrange, hgeneration, hteam⟩ := isOwnedBySecp_asTags_iff.mp howned
    apply hscope
    unfold Ownership.scopeKey
    rw [horg, htarget, hrange, hgeneration, hteam]

end

/-- A stamp of a team with an upper-case name, and the stamp of the team its tags name. -/
def upperCaseStamp : Ownership :=
  ⟨str "lab-org", str "lab-target", str "lab-range", 2, 3, .virtualMachine, some (str "RED"),
    by simp, by simp, by simp, by decide⟩

def lowerCaseStamp : Ownership := { upperCaseStamp with teamRef := some (str "red") }

/-- The tags of the first are not read as its own, but as those of the second. -/
theorem upperCaseStamp_lost : ∃ items,
    @ownershipTagList Unicode.ascii (ownershipPayload upperCaseStamp) = .ok items ∧
    @isOwnedBySecp Unicode.ascii (some (readTags items)) upperCaseStamp = .secpForeignScope ∧
    lowerCaseStamp.scopeKey ≠ upperCaseStamp.scopeKey ∧
    @isOwnedBySecp Unicode.ascii (some (readTags items)) lowerCaseStamp = .secpOwned := by
  refine ⟨_, @ownershipTagList_payload Unicode.ascii upperCaseStamp, ?_⟩
  with_unfolding_all decide

end Secp.Worker
