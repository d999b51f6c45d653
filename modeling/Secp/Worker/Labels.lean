import Secp.Proxmox.ObjectNames
import Secp.Proxmox.WellPlaced
import Secp.Worker.Addresses

/-!
# Labels of a compiled range

A label shows the ASCII letters and digits of a text and an underscore for everything else. The names of a
compiled network are drawn from so few other characters that their labels tell them apart; team references
and workload keys are not.
-/

namespace Secp.Worker

open Secp.Python Secp.Logic Secp.Proxmox

/-! ## Texts that look alike -/

/-- The characters look alike in a label. -/
def BlursWith (c d : Char) : Prop := c = d ∨ isAsciiAlnum c = false ∧ isAsciiAlnum d = false

/-- The texts agree wherever either has an ASCII letter or digit. -/
def LooksLike (v w : Str) : Prop := List.Forall₂ BlursWith v w

theorem isLabelChar_eq (c : Char) : isLabelChar c = (isAsciiAlnum c || decide (c = '_')) := rfl

theorem blursWith_iff {c d : Char} :
    (if isLabelChar c then c else '_') = (if isLabelChar d then d else '_') ↔ BlursWith c d := by
  have hunderscore : isAsciiAlnum '_' = false := by decide
  have hblur : ∀ c, isAsciiAlnum c = false → (if isLabelChar c then c else '_') = '_' := by
    intro c hc
    rw [isLabelChar_eq, hc, Bool.false_or]
    split
    · next hsame => exact of_decide_eq_true hsame
    · rfl
  have hshow : ∀ c, isAsciiAlnum c = true → (if isLabelChar c then c else '_') = c := by
    intro c hc
    rw [isLabelChar_eq, hc]
    rfl
  unfold BlursWith
  cases hc : isAsciiAlnum c <;> cases hd : isAsciiAlnum d
  · rw [hblur c hc, hblur d hd]
    simp
  · rw [hblur c hc, hshow d hd]
    constructor
    · intro h
      rw [← h, hunderscore] at hd
      cases hd
    · intro h
      rcases h with rfl | h
      · rw [hc] at hd
        cases hd
      · cases h.2
  · rw [hshow c hc, hblur d hd]
    constructor
    · intro h
      rw [h, hunderscore] at hc
      cases hc
    · intro h
      rcases h with rfl | h
      · rw [hc] at hd
        cases hd
      · cases h.1
  · rw [hshow c hc, hshow d hd]
    simp

theorem labelText_eq_iff {v w : Str} : labelText v = labelText w ↔ LooksLike v w := by
  induction v generalizing w with
  | nil => cases w <;> simp [labelText, LooksLike]
  | cons c v ih =>
      cases w with
      | nil => simp [labelText, LooksLike]
      | cons d w =>
          show _ :: labelText v = _ :: labelText w ↔ _
          rw [List.cons.injEq, blursWith_iff, ih]
          exact List.forall₂_cons.symm

/-- A text with what a label puts before it. -/
def opened (value : Str) : Str := (if opensLabel value then [] else str "r_") ++ value

theorem hclLabel_eq_labelText (value : Str) : hclLabel value = labelText (opened value) := by
  have hprefix : labelText (str "r_") = str "r_" := by
    rw [str_ofList]
    decide
  rw [hclLabel_eq, opened, labelText, labelText, List.map_append]
  split
  · rfl
  · exact congrArg (· ++ _) hprefix.symm

/-- Labels are the same where the texts look alike, with what is put before them. -/
theorem hclLabel_eq_iff {v w : Str} : hclLabel v = hclLabel w ↔ LooksLike (opened v) (opened w) := by
  rw [hclLabel_eq_labelText, hclLabel_eq_labelText, labelText_eq_iff]

namespace LooksLike

variable {v w v' w' : Str} {c d : Char}

theorem refl (v : Str) : LooksLike v v := List.forall₂_same.mpr fun _ _ => .inl rfl

theorem symm (h : LooksLike v w) : LooksLike w v :=
  h.flip.imp fun _ _ hblur => hblur.imp Eq.symm And.symm

theorem append (h : LooksLike v w) (h' : LooksLike v' w') : LooksLike (v ++ v') (w ++ w') :=
  List.rel_append h h'

/-- What texts open with alike may be left out. -/
theorem append_left_iff : LooksLike (v ++ w) (v ++ w') ↔ LooksLike w w' := by
  induction v with
  | nil => rfl
  | cons c v ih =>
      rw [List.cons_append, List.cons_append, LooksLike, List.forall₂_cons]
      exact (and_iff_right (.inl rfl)).trans ih

/-- A letter or digit is shown. -/
theorem head_eq (h : LooksLike (c :: v) w) (hc : isAsciiAlnum c = true) :
    ∃ w', w = c :: w' ∧ LooksLike v w' := by
  cases h with
  | cons hblur hrest =>
      rcases hblur with rfl | hblur
      · exact ⟨_, rfl, hrest⟩
      · rw [hc] at hblur
        cases hblur.1

/-- Texts whose characters a label shows, but for one character, look alike only if they are the
same. -/
theorem eq (h : LooksLike v w) {other : Char} (hv : ∀ c ∈ v, isAsciiAlnum c = true ∨ c = other)
    (hw : ∀ c ∈ w, isAsciiAlnum c = true ∨ c = other) : v = w := by
  induction h with
  | nil => rfl
  | cons hblur _ ih =>
      obtain ⟨hc, hv⟩ := List.forall_mem_cons.mp hv
      obtain ⟨hd, hw⟩ := List.forall_mem_cons.mp hw
      rw [ih hv hw]
      rcases hblur with rfl | hblur
      · rfl
      · rw [hblur.1] at hc
        rw [hblur.2] at hd
        rw [hc.resolve_left Bool.false_ne_true, hd.resolve_left Bool.false_ne_true]

end LooksLike

/-- Lists related item by item that are split at an item: the splits stand beside each other, or one of
them goes on past the other. -/
theorem forall₂_split_iff {α : Type} {R : α → α → Prop} {a b c d : List α} {x y : α} :
    List.Forall₂ R (a ++ x :: b) (c ++ y :: d) ↔
      (List.Forall₂ R a c ∧ R x y ∧ List.Forall₂ R b d) ∨
      (∃ u z m, c = u ++ z :: m ∧ List.Forall₂ R a u ∧ R x z ∧ List.Forall₂ R b (m ++ y :: d)) ∨
      ∃ u z m, a = u ++ z :: m ∧ List.Forall₂ R u c ∧ R z y ∧ List.Forall₂ R (m ++ x :: b) d := by
  constructor
  · intro h
    induction a generalizing c with
    | nil =>
        cases c with
        | nil =>
            obtain ⟨hxy, hbd⟩ := List.forall₂_cons.mp h
            exact .inl ⟨.nil, hxy, hbd⟩
        | cons z c =>
            obtain ⟨hxz, hb⟩ := List.forall₂_cons.mp h
            exact .inr (.inl ⟨[], z, c, rfl, .nil, hxz, hb⟩)
    | cons w a ih =>
        cases c with
        | nil =>
            obtain ⟨hwy, ha⟩ := List.forall₂_cons.mp h
            exact .inr (.inr ⟨[], w, a, rfl, .nil, hwy, ha⟩)
        | cons z c =>
            obtain ⟨hwz, hrest⟩ := List.forall₂_cons.mp h
            rcases ih hrest with hbeside | hpast | hbefore
            · exact .inl ⟨.cons hwz hbeside.1, hbeside.2⟩
            · obtain ⟨u, z', m, rfl, hu, hrest⟩ := hpast
              exact .inr (.inl ⟨z :: u, z', m, rfl, .cons hwz hu, hrest⟩)
            · obtain ⟨u, z', m, rfl, hu, hrest⟩ := hbefore
              exact .inr (.inr ⟨w :: u, z', m, rfl, .cons hwz hu, hrest⟩)
  · intro h
    rcases h with hbeside | hpast | hbefore
    · exact List.rel_append hbeside.1 (.cons hbeside.2.1 hbeside.2.2)
    · obtain ⟨u, z, m, rfl, hu, hxz, hb⟩ := hpast
      rw [List.append_assoc, List.cons_append]
      exact List.rel_append hu (.cons hxz hb)
    · obtain ⟨u, z, m, rfl, hu, hzy, hd⟩ := hbefore
      rw [List.append_assoc, List.cons_append]
      exact List.rel_append hu (.cons hzy hd)

/-! ## Teams and keys -/

/-- A team's reference opens with ASCII letters and digits, as far as the name of its IPSet shows it. -/
def ShownTeam (team : Str) : Prop := team ≠ [] ∧ ∀ c ∈ team.take 15, isAsciiAlnum c = true

/-- One team's reference goes on past another's, and what it goes on with may be part of a key. -/
def RunsOn (team key team' key' : Str) : Prop :=
  ∃ u c m, team' = u ++ c :: m ∧ LooksLike team u ∧ isAsciiAlnum c = false ∧
    LooksLike key (m ++ '/' :: key')

/-- The labels of a range's teams, and those of the references of its guests, are told apart. -/
structure LabelsApart (teams keys : List Str) : Prop where
  teamRefs : teams.Pairwise fun team team' => ¬LooksLike team team'
  workloadKeys : keys.Pairwise fun key key' => ¬LooksLike key key'
  /-- No key stands for the rest of a longer team reference and a key. -/
  refs : ∀ team ∈ teams, ∀ team' ∈ teams, ∀ key ∈ keys, ∀ key' ∈ keys, ¬RunsOn team key team' key'
  /-- Beside a team `r` no key looks like a reference that a label opens with `r_`. -/
  led : str "r" ∈ teams → ∀ team ∈ teams, opensLabel team = false → ∀ key ∈ keys, ∀ key' ∈ keys,
    ¬LooksLike key (team ++ '/' :: key')

section
variable {team team' key key' : Str}

theorem ShownTeam.exists_head (h : ShownTeam team) :
    ∃ c rest, team = c :: rest ∧ isAsciiAlnum c = true ∧ ∀ d rest', rest = d :: rest' → isAsciiAlnum d = true := by
  obtain ⟨hne, hshown⟩ := h
  cases team with
  | nil => exact absurd rfl hne
  | cons c rest =>
      refine ⟨c, rest, rfl, hshown c (by simp), fun d rest' hrest => hshown d ?_⟩
      rw [hrest]
      simp

theorem opened_of_opensLabel (h : opensLabel team = true) : opened team = team := by
  rw [opened, if_pos h, List.nil_append]

theorem opened_of_not (h : opensLabel team = false) : opened team = 'r' :: '_' :: team := by
  rw [opened, if_neg (by rw [h]; exact Bool.false_ne_true), str_ofList ['r', '_']]
  rfl

/-- No reference of a team looks like one with `r_` before it. -/
theorem ShownTeam.not_led (h : ShownTeam team) {rest : Str} : ¬LooksLike team ('r' :: '_' :: rest) := by
  obtain ⟨c, tail, rfl, hc, htail⟩ := h.exists_head
  intro hlike
  obtain ⟨rest', hrest', hlike⟩ := hlike.head_eq hc
  cases hrest'
  cases hlike with
  | @cons d _ v _ hblur _ =>
      have hd := htail d v rfl
      rcases hblur with rfl | hblur
      · cases hd
      · rw [hd] at hblur
        cases hblur.1

/-- Texts that look alike open alike. -/
theorem ShownTeam.opensLabel_eq (h : ShownTeam team) {rest : Str} (hlike : LooksLike team team') :
    opensLabel (team' ++ rest) = opensLabel team := by
  obtain ⟨c, tail, rfl, hc, -⟩ := h.exists_head
  obtain ⟨rest', rfl, -⟩ := hlike.head_eq hc
  rfl

theorem looksLike_opened_iff (h : ShownTeam team) (h' : ShownTeam team') :
    LooksLike (opened team) (opened team') ↔ LooksLike team team' := by
  have hopens : LooksLike team team' → opensLabel team' = opensLabel team := by
    intro hlike
    have hsame := @ShownTeam.opensLabel_eq _ _ h [] hlike
    rwa [List.append_nil] at hsame
  cases ht : opensLabel team <;> cases ht' : opensLabel team'
  · rw [opened_of_not ht, opened_of_not ht']
    exact @LooksLike.append_left_iff ['r', '_'] team team'
  · rw [opened_of_not ht, opened_of_opensLabel ht']
    refine iff_of_false (fun hlike => h'.not_led hlike.symm) fun hlike => ?_
    rw [hopens hlike, ht] at ht'
    cases ht'
  · rw [opened_of_opensLabel ht, opened_of_not ht']
    refine iff_of_false h.not_led fun hlike => ?_
    rw [hopens hlike, ht] at ht'
    cases ht'
  · rw [opened_of_opensLabel ht, opened_of_opensLabel ht']

/-- With what labels put before them, a reference runs on past another as it does without, or past `r`. -/
theorem runsOn_opened_iff (h : ShownTeam team) (h' : ShownTeam team') :
    RunsOn (opened team) key (opened team') key' ↔ RunsOn team key team' key' ∨
      (team = str "r" ∧ opensLabel team' = false ∧ LooksLike key (team' ++ '/' :: key')) := by
  have hletter : str "r" = ['r'] := str_ofList ['r']
  have hopens : RunsOn team key team' key' → opensLabel team' = opensLabel team := by
    intro hruns
    obtain ⟨u, c, m, rfl, hlike, -⟩ := hruns
    exact h.opensLabel_eq hlike
  cases ht : opensLabel team <;> cases ht' : opensLabel team'
  · rw [opened_of_not ht, opened_of_not ht']
    constructor
    · intro hruns
      obtain ⟨u, c, m, hsplit, hlike, hrest⟩ := hruns
      cases hlike with
      | cons hr hlike =>
          cases hlike with
          | cons hunderscore hlike =>
              cases hsplit
              exact .inl ⟨_, c, m, rfl, hlike, hrest⟩
    · intro hruns
      rcases hruns with hruns | hled
      · obtain ⟨u, c, m, rfl, hlike, hrest⟩ := hruns
        exact ⟨'r' :: '_' :: u, c, m, rfl, (@LooksLike.append_left_iff ['r', '_'] team u).mpr hlike, hrest⟩
      · rw [hled.1, hletter] at ht
        cases ht
  · rw [opened_of_not ht, opened_of_opensLabel ht']
    refine iff_of_false (fun hruns => ?_) fun hruns => ?_
    · -- the longer reference would have an underscore in second place
      obtain ⟨u, c, m, rfl, hlike, -⟩ := hruns
      refine @ShownTeam.not_led _ h' (team ++ c :: m) ?_
      exact hlike.symm.append (LooksLike.refl (c :: m))
    · rcases hruns with hruns | hled
      · rw [hopens hruns, ht] at ht'
        cases ht'
      · cases hled.2.1
  · rw [opened_of_opensLabel ht, opened_of_not ht']
    constructor
    · intro hruns
      obtain ⟨u, c, m, hsplit, hlike, -, hrest⟩ := hruns
      obtain ⟨d, tail, rfl, hd, -⟩ := h.exists_head
      obtain ⟨u', rfl, htail⟩ := hlike.head_eq hd
      cases u' with
      | nil =>
          cases htail
          cases hsplit
          exact .inr ⟨hletter.symm, rfl, hrest⟩
      | cons e u' =>
          cases hsplit
          exact absurd hlike h.not_led
    · intro hruns
      rcases hruns with hruns | hled
      · rw [hopens hruns, ht] at ht'
        cases ht'
      · obtain ⟨rfl, -, hrest⟩ := hled
        rw [hletter]
        exact ⟨['r'], '_', team', rfl, LooksLike.refl _, by decide, hrest⟩
  · rw [opened_of_opensLabel ht, opened_of_opensLabel ht']
    refine (or_iff_left fun hled => ?_).symm
    cases hled.2.1

/-- The reference of a guest opens as its team's does. -/
theorem opened_guestRef (h : ShownTeam team) : opened (guestRef team key) = opened team ++ '/' :: key := by
  obtain ⟨c, rest, rfl, -⟩ := h.exists_head
  rw [opened, opened, guestRef, List.append_assoc, List.append_assoc]
  rfl

/-- References of guests of one team have one label where their keys look alike. -/
theorem label_guestRef_iff (h : ShownTeam team) :
    hclLabel (guestRef team key) = hclLabel (guestRef team key') ↔ LooksLike key key' := by
  rw [hclLabel_eq_iff, opened_guestRef h, opened_guestRef h, LooksLike.append_left_iff]
  exact @LooksLike.append_left_iff ['/'] key key'

/-- References of guests of teams that do not look alike have one label where one runs on past the
other. -/
theorem label_guestRef_iff_runsOn (h : ShownTeam team) (h' : ShownTeam team')
    (hapart : ¬LooksLike (opened team) (opened team')) :
    hclLabel (guestRef team key) = hclLabel (guestRef team' key') ↔
      RunsOn (opened team) key (opened team') key' ∨ RunsOn (opened team') key' (opened team) key := by
  have hslash : ∀ c, BlursWith '/' c ↔ isAsciiAlnum c = false := by
    intro c
    have hplain : isAsciiAlnum '/' = false := by decide
    constructor
    · intro hblur
      rcases hblur with rfl | hblur
      · exact hplain
      · exact hblur.2
    · exact fun hc => .inr ⟨hplain, hc⟩
  have hswap : ∀ c, BlursWith c '/' ↔ isAsciiAlnum c = false := by
    intro c
    rw [← hslash]
    exact ⟨fun hblur => hblur.imp Eq.symm And.symm, fun hblur => hblur.imp Eq.symm And.symm⟩
  rw [hclLabel_eq_iff, opened_guestRef h, opened_guestRef h', LooksLike, forall₂_split_iff,
    or_iff_right fun hbeside => hapart hbeside.1]
  refine or_congr ?_ ?_
  · simp only [RunsOn, LooksLike, hslash]
  · simp only [RunsOn, hswap]
    constructor
    · intro hruns
      obtain ⟨u, z, m, hsplit, hlike, hz, hrest⟩ := hruns
      exact ⟨u, z, m, hsplit, LooksLike.symm hlike, hz, LooksLike.symm hrest⟩
    · intro hruns
      obtain ⟨u, z, m, hsplit, hlike, hz, hrest⟩ := hruns
      exact ⟨u, z, m, hsplit, LooksLike.symm hlike, hz, LooksLike.symm hrest⟩

/-! ## The references of a range's guests -/

variable {teams keys : List Str}

/-- No text is a longer one. -/
theorem RunsOn.ne (h : RunsOn team key team' key') : team ≠ team' := by
  obtain ⟨u, c, m, rfl, hlike, -⟩ := h
  intro hsame
  have hlength := hlike.length_eq
  rw [hsame, List.length_append, List.length_cons] at hlength
  omega

theorem distinctLabels_iff_pairwise (hshown : ∀ team ∈ teams, ShownTeam team) :
    DistinctLabels teams ↔ teams.Pairwise fun team team' => ¬LooksLike team team' := by
  unfold DistinctLabels List.Nodup
  rw [List.pairwise_map]
  refine List.Pairwise.iff_of_mem fun {team team'} hteam hteam' => not_congr ?_
  rw [hclLabel_eq_iff, looksLike_opened_iff (hshown team hteam) (hshown team' hteam')]

/-- The references that the teams and keys make. -/
def refsOf (teams keys : List Str) : List Str := teams.flatMap fun team => keys.map (guestRef team)

/-- They have different labels if those of each team have, and those of any two teams. -/
theorem distinctLabels_refsOf_iff : DistinctLabels (refsOf teams keys) ↔
    (∀ team ∈ teams, DistinctLabels (keys.map (guestRef team))) ∧
      teams.Pairwise fun team team' => ∀ key ∈ keys, ∀ key' ∈ keys,
        hclLabel (guestRef team key) ≠ hclLabel (guestRef team' key') := by
  unfold DistinctLabels refsOf
  rw [List.map_flatMap, List.nodup_flatMap]
  refine and_congr_right' (List.Pairwise.iff fun team team' => ?_)
  simp only [Function.onFun, List.disjoint_left, List.mem_map, List.map_map, Function.comp_apply,
    not_exists, not_and, forall_exists_index, and_imp, forall_apply_eq_imp_iff₂]
  exact forall₄_congr fun _ _ _ _ => ne_comm

theorem distinctLabels_keys_iff (h : ShownTeam team) : DistinctLabels (keys.map (guestRef team)) ↔
    keys.Pairwise fun key key' => ¬LooksLike key key' := by
  unfold DistinctLabels List.Nodup
  rw [List.map_map, List.pairwise_map]
  exact List.Pairwise.iff fun _ _ => not_congr (label_guestRef_iff h)

/-- The labels of teams and references are different exactly when they are told apart. -/
theorem labelsApart_iff (hshown : ∀ team ∈ teams, ShownTeam team) (hsome : ∃ team, team ∈ teams) :
    DistinctLabels teams ∧ DistinctLabels (refsOf teams keys) ↔ LabelsApart teams keys := by
  rw [distinctLabels_iff_pairwise hshown, distinctLabels_refsOf_iff]
  constructor
  · intro h
    obtain ⟨hteams, hkeys, hpairs⟩ := h
    have hsymm : Std.Symm fun team team' : Str => ∀ key ∈ keys, ∀ key' ∈ keys,
        hclLabel (guestRef team key) ≠ hclLabel (guestRef team' key') :=
      ⟨fun _ _ h key hkey key' hkey' => (h key' hkey' key hkey).symm⟩
    -- what runs on past another reference, opened or not, shares its label
    have hruns : ∀ team ∈ teams, ∀ team' ∈ teams, ∀ key ∈ keys, ∀ key' ∈ keys,
        ¬RunsOn (opened team) key (opened team') key' := by
      intro team hteam team' hteam' key hkey key' hkey' hrun
      have hne : team ≠ team' := fun hsame => hrun.ne (congrArg opened hsame)
      have hopened : ¬LooksLike (opened team) (opened team') := by
        intro hlike
        obtain ⟨u, c, m, hsplit, hu, -⟩ := hrun
        have hlength := hlike.length_eq.symm.trans hu.length_eq
        rw [hsplit, List.length_append, List.length_cons] at hlength
        omega
      exact hpairs.forall hteam hteam' hne key hkey key' hkey'
        ((label_guestRef_iff_runsOn (hshown team hteam) (hshown team' hteam') hopened).mpr (.inl hrun))
    obtain ⟨team, hteam⟩ := hsome
    refine ⟨hteams, (distinctLabels_keys_iff (hshown team hteam)).mp (hkeys team hteam), ?_, ?_⟩
    · intro team hteam team' hteam' key hkey key' hkey' hrun
      exact hruns team hteam team' hteam' key hkey key' hkey'
        ((runsOn_opened_iff (hshown team hteam) (hshown team' hteam')).mpr (.inl hrun))
    · intro hr team hteam hdigit key hkey key' hkey' hlike
      exact hruns (str "r") hr team hteam key hkey key' hkey'
        ((runsOn_opened_iff (hshown _ hr) (hshown team hteam)).mpr (.inr ⟨rfl, hdigit, hlike⟩))
  · intro h
    refine ⟨h.teamRefs, fun team hteam => (distinctLabels_keys_iff (hshown team hteam)).mpr h.workloadKeys,
      h.teamRefs.imp_of_mem fun {team team'} hteam hteam' hapart key hkey key' hkey' hsame => ?_⟩
    have hnot : ∀ team ∈ teams, ∀ team' ∈ teams, ∀ key ∈ keys, ∀ key' ∈ keys,
        ¬RunsOn (opened team) key (opened team') key' := by
      intro team hteam team' hteam' key hkey key' hkey' hrun
      rcases (runsOn_opened_iff (hshown team hteam) (hshown team' hteam')).mp hrun with hrun | hled
      · exact h.refs team hteam team' hteam' key hkey key' hkey' hrun
      · obtain ⟨rfl, hdigit, hlike⟩ := hled
        exact h.led hteam team' hteam' hdigit key hkey key' hkey' hlike
    have hopened : ¬LooksLike (opened team) (opened team') :=
      fun hlike => hapart ((looksLike_opened_iff (hshown team hteam) (hshown team' hteam')).mp hlike)
    rcases (label_guestRef_iff_runsOn (hshown team hteam) (hshown team' hteam') hopened).mp hsame with
      hrun | hrun
    · exact hnot team hteam team' hteam' key hkey key' hkey' hrun
    · exact hnot team' hteam' team hteam key' hkey' key hkey hrun

/-! ## The names of a compiled network -/

/-- Names that open with no digit have different labels where names that look alike are the same. -/
theorem distinctLabels_of {names : List Str} (hnodup : names.Nodup)
    (hopens : ∀ name ∈ names, opensLabel name = true)
    (h : ∀ v ∈ names, ∀ w ∈ names, LooksLike v w → v = w) : DistinctLabels names := by
  refine List.Nodup.map_on (fun v hv w hw hsame => h v hv w hw ?_) hnodup
  rwa [hclLabel_eq_iff, opened_of_opensLabel (hopens v hv), opened_of_opensLabel (hopens w hw)] at hsame

theorem distinctLabels_vnets [Unicode] {network : SegregatedNetworkPlan} (h : NamesDrawn network) :
    DistinctLabels (network.vnets.map VNetSpec.name) := by
  have hvalid : ∀ name ∈ network.vnets.map VNetSpec.name, isSdnName name = true := by
    intro name hname
    obtain ⟨v, -, rfl⟩ := List.mem_map.mp hname
    exact v.name_valid
  refine distinctLabels_of h.vnets_nodup (fun name hname => ?_) fun v hv w hw hlike => ?_
  · obtain ⟨c, rest, rfl, hlower⟩ := head_of_isSdnName (hvalid name hname)
    have hdigit : isAsciiDigit c = false := by
      simp [isAsciiLower, isAsciiDigit] at hlower ⊢
      omega
    rw [opensLabel, hdigit]
    rfl
  · exact hlike.eq (chars_of_isSdnName (hvalid v hv)) (chars_of_isSdnName (hvalid w hw))

theorem distinctLabels_ipSets [Unicode] {network : SegregatedNetworkPlan} (h : NamesDrawn network) :
    DistinctLabels (network.ipSets.map IpSetSpec.name) := by
  have hopening : str "secp-team-" = "secp-team-".toList ∧ str "secp-mgmt" = "secp-mgmt".toList ∧
      str "secp-ctlplane" = "secp-ctlplane".toList := ⟨by simp [str], by simp [str], by simp [str]⟩
  have hplain : ∀ text : Str, (text.all fun c => isAsciiAlnum c || decide (c = '-')) = true →
      ∀ c ∈ text, isAsciiAlnum c = true ∨ c = '-' := by
    intro text htext c hc
    simpa using List.all_eq_true.mp htext c hc
  have hshape : ∀ name ∈ network.ipSets.map IpSetSpec.name,
      opensLabel name = true ∧ ∀ c ∈ name, isAsciiAlnum c = true ∨ c = '-' := by
    intro name hname
    obtain ⟨item, hitem, rfl⟩ := List.mem_map.mp hname
    rcases h.ipSets item hitem with (hreserved | hreserved) | hteam
    · rw [hreserved, ipsetManagement, hopening.2.1]
      exact ⟨rfl, hplain _ (by decide)⟩
    · rw [hreserved, ipsetControlPlane, hopening.2.2]
      exact ⟨rfl, hplain _ (by decide)⟩
    · obtain ⟨rest, hname, hrest⟩ := hteam
      rw [hname, hopening.1]
      refine ⟨rfl, fun c hc => ?_⟩
      rcases List.mem_append.mp hc with hc | hc
      · exact hplain _ (by decide) c hc
      · exact .inl (hrest c hc)
  refine distinctLabels_of h.ipSets_nodup (fun name hname => (hshape name hname).1) fun v hv w hw hlike => ?_
  exact hlike.eq (hshape v hv).2 (hshape w hw).2

theorem distinctLabels_groups [Unicode] {network : SegregatedNetworkPlan} (h : NamesDrawn network) :
    DistinctLabels (network.securityGroups.map SecurityGroupSpec.name) := by
  have hopening : str "secp-sg-" = "secp-sg-".toList := by simp [str]
  have hshape : ∀ name ∈ network.securityGroups.map SecurityGroupSpec.name, ∃ rest,
      name = str "secp-sg-" ++ rest ∧ ∀ c ∈ rest, isAsciiAlnum c = true ∨ c = '\n' := by
    intro name hname
    obtain ⟨group, hgroup, rfl⟩ := List.mem_map.mp hname
    exact h.groups group hgroup
  refine distinctLabels_of h.groups_nodup (fun name hname => ?_) fun v hv w hw hlike => ?_
  · obtain ⟨rest, rfl, -⟩ := hshape name hname
    rw [hopening]
    rfl
  · obtain ⟨rest, rfl, hrest⟩ := hshape v hv
    obtain ⟨rest', rfl, hrest'⟩ := hshape w hw
    rw [(LooksLike.append_left_iff.mp hlike).eq hrest hrest']

end

/-! ## The desired state of a compiled range -/

section
variable [Unicode]

theorem textsAt_map {α : Type} {payload : α → Json} {key : String} {text : α → Str}
    (h : ∀ a, textAt (payload a) key = .ok (text a)) (items : List α) :
    textsAt (items.map payload) key = items.map text := by
  induction items with
  | nil => rfl
  | cons a rest ih => rw [List.map_cons, textsAt_cons (h a), ih, List.map_cons]

omit [Unicode] in
/-- A segment is listed under its team, or under a name that no team has. -/
theorem segmentTeam_vnetPayload {v : VNetSpec} (h : v.ownership.teamRef ≠ some []) :
    segmentTeam (vnetPayload v) = .ok (v.ownership.teamRef.getD (str "_shared")) := by
  have howner : ownershipOf (vnetPayload v) = .ok (ownershipPayload v.ownership) := by
    simp [ownershipOf, vnetPayload, Json.getOr, Dict.get?]
  have hteam : (ownershipPayload v.ownership).getOr (str "team_ref") .null =
      .ok (optionalText v.ownership.teamRef) := by
    simp [ownershipPayload, Json.getOr, Dict.get?]
  unfold segmentTeam
  rw [howner, except_bind_of_ok rfl, hteam, except_bind_of_ok rfl]
  cases hread : v.ownership.teamRef with
  | none => rfl
  | some team =>
      cases team with
      | nil => exact absurd hread h
      | cons c rest => rfl

omit [Unicode] in
theorem mem_teamsOf {vnets : List VNetSpec} (h : ∀ v ∈ vnets, v.ownership.teamRef ≠ some []) {team : Str} :
    team ∈ teamsOf (vnets.map vnetPayload) ↔
      ∃ v ∈ vnets, v.ownership.teamRef.getD (str "_shared") = team := by
  unfold teamsOf
  rw [List.mem_filterMap]
  constructor
  · intro hmem
    obtain ⟨payload, hpayload, hteam⟩ := hmem
    obtain ⟨v, hv, rfl⟩ := List.mem_map.mp hpayload
    rw [segmentTeam_vnetPayload (h v hv)] at hteam
    exact ⟨v, hv, Option.some.inj hteam⟩
  · intro hmem
    obtain ⟨v, hv, rfl⟩ := hmem
    refine ⟨_, List.mem_map_of_mem hv, ?_⟩
    rw [segmentTeam_vnetPayload (h v hv)]
    rfl

omit [Unicode] in
/-- No team is listed where the segments of none are. -/
theorem ShownTeam.label_ne_shared {team : Str} (h : ShownTeam team) :
    hclLabel team ≠ hclLabel (str "_shared") := by
  have hshared : str "_shared" = '_' :: "shared".toList := by simp [str]
  intro hsame
  rw [hclLabel_eq_iff, hshared, @opened_of_opensLabel ('_' :: _) rfl] at hsame
  have hletter : ∃ c rest, opened team = c :: rest ∧ isAsciiAlnum c = true := by
    obtain ⟨c, rest, rfl, hc, -⟩ := h.exists_head
    cases hopens : opensLabel (c :: rest)
    · rw [opened_of_not hopens]
      exact ⟨_, _, rfl, by decide⟩
    · rw [opened_of_opensLabel hopens]
      exact ⟨c, rest, rfl, hc⟩
  obtain ⟨c, rest, hopened, hc⟩ := hletter
  rw [hopened] at hsame
  obtain ⟨rest', hrest, -⟩ := hsame.head_eq hc
  cases hrest
  cases hc

variable {request : WebBreachLabRequest} {workload : WorkloadRequest} {network : SegregatedNetworkPlan}
  {o : TargetObservation} {plan : WorkloadPlan} {ledger ledger' : AllocationLedger}

/-- The teams of a compiled range show their first characters. -/
theorem shownTeam_of_compiled
    (hnetwork : compileWebBreachLab request o AllocationLedger.empty = .ok (.plan network, ledger))
    (hworkload : compileWorkload workload network o ledger = .ok (.plan plan, ledger')) :
    ∀ team ∈ workload.teamRefs, ShownTeam team := by
  intro team hteam
  obtain ⟨v, hv, hvteam⟩ := (mem_teamRefs_of_compiled hworkload).mp hteam
  exact (namesDrawn_of_compileWebBreachLab hnetwork).teams v hv team hvteam

/-- The teams of the segments have different labels where the teams of the range have. -/
theorem distinctLabels_teamsOf_iff
    (hnetwork : compileWebBreachLab request o AllocationLedger.empty = .ok (.plan network, ledger))
    (hworkload : compileWorkload workload network o ledger = .ok (.plan plan, ledger')) :
    DistinctLabels (teamsOf ((sortedBy VNetSpec.name network.vnets).map vnetPayload)).dedup ↔
      DistinctLabels workload.teamRefs := by
  have hshown := shownTeam_of_compiled hnetwork hworkload
  have hmem : ∀ team, team ∈ (teamsOf ((sortedBy VNetSpec.name network.vnets).map vnetPayload)).dedup ↔
      ∃ v ∈ network.vnets, v.ownership.teamRef.getD (str "_shared") = team := by
    intro team
    rw [List.mem_dedup, mem_teamsOf]
    · simp only [mem_sortedBy]
    · intro v hv hnil
      exact ((namesDrawn_of_compileWebBreachLab hnetwork).teams v (mem_sortedBy.mp hv) [] hnil).1 rfl
  have hcases : ∀ v ∈ network.vnets, v.ownership.teamRef.getD (str "_shared") = str "_shared" ∨
      v.ownership.teamRef.getD (str "_shared") ∈ workload.teamRefs := by
    intro v hv
    cases hteam : v.ownership.teamRef with
    | none => exact .inl rfl
    | some team => exact .inr ((mem_teamRefs_of_compiled hworkload).mpr ⟨v, hv, hteam⟩)
  unfold DistinctLabels
  rw [List.nodup_map_iff_inj_on (List.nodup_dedup _), List.nodup_map_iff_inj_on workload.teamRefs_nodup]
  constructor
  · intro h team hteam team' hteam' hsame
    obtain ⟨v, hv, hvteam⟩ := (mem_teamRefs_of_compiled hworkload).mp hteam
    obtain ⟨v', hv', hvteam'⟩ := (mem_teamRefs_of_compiled hworkload).mp hteam'
    exact h team ((hmem team).mpr ⟨v, hv, by rw [hvteam]; rfl⟩) team'
      ((hmem team').mpr ⟨v', hv', by rw [hvteam']; rfl⟩) hsame
  · intro h team hteam team' hteam' hsame
    obtain ⟨v, hv, rfl⟩ := (hmem team).mp hteam
    obtain ⟨v', hv', rfl⟩ := (hmem team').mp hteam'
    rcases hcases v hv with hshared | hown <;> rcases hcases v' hv' with hshared' | hown'
    · rw [hshared, hshared']
    · rw [hshared] at hsame
      exact absurd hsame.symm (hshown _ hown').label_ne_shared
    · rw [hshared'] at hsame
      exact absurd hsame (hshown _ hown).label_ne_shared
    · exact h _ hown _ hown' hsame

/-- The references of the guests are made of the range's teams and keys. -/
theorem distinctLabels_guests_iff
    (hnetwork : compileWebBreachLab request o AllocationLedger.empty = .ok (.plan network, ledger))
    (hworkload : compileWorkload workload network o ledger = .ok (.plan plan, ledger')) :
    DistinctLabels (plan.topology.guests.map GuestSpec.guestRef) ↔
      DistinctLabels (refsOf workload.teamRefs (perTeamKeys workload)) := by
  obtain ⟨guests, hslotted⟩ := slotted_of_compileWorkload hnetwork hworkload
  refine distinctLabels_perm ((hslotted.perm.map GuestSpec.guestRef).trans ?_)
  rw [hslotted.guestRefs_eq, slots, List.map_flatMap]
  simp only [List.map_map]
  exact (sortedBy_perm id workload.teamRefs).flatMap_right _

omit [Unicode] in
theorem listAt_of_getOr {payload : Json} {key : String} {items : List Json}
    (h : payload.getOr (str key) (.arr []) = .ok (.arr items)) : listAt payload key = .ok items := by
  unfold listAt
  rw [h]
  rfl

omit [Unicode] in
/-- What the renderer reads of a manifest. -/
theorem reads_toManifestPayload (topology : CompiledTopology) (record : Option AllocationLedger) :
    (toManifestPayload topology record).getOr (str "network") .null =
        .ok (networkPayload topology.network) ∧
      listAt (toManifestPayload topology record) "guests" =
        .ok ((sortedBy GuestSpec.guestRef topology.guests).map guestPayload) := by
  cases record with
  | none =>
      exact ⟨by simp [toManifestPayload, Json.getOr, Dict.get?],
        listAt_of_getOr (by simp [toManifestPayload, Json.getOr, Dict.get?])⟩
  | some ledger =>
      exact ⟨by simp [toManifestPayload, Json.getOr, Dict.get?],
        listAt_of_getOr (by simp [toManifestPayload, Json.getOr, Dict.get?])⟩

omit [Unicode] in
theorem reads_networkPayload (network : SegregatedNetworkPlan) :
    listAt (networkPayload network) "vnets" =
        .ok ((sortedBy VNetSpec.name network.vnets).map vnetPayload) ∧
      listAt (networkPayload network) "ip_sets" =
        .ok ((sortedBy IpSetSpec.name network.ipSets).map ipSetPayload) ∧
      listAt (networkPayload network) "security_groups" =
        .ok ((sortedBy SecurityGroupSpec.name network.securityGroups).map securityGroupPayload) :=
  ⟨listAt_of_getOr (by simp [networkPayload, Json.getOr, Dict.get?]),
    listAt_of_getOr (by simp [networkPayload, Json.getOr, Dict.get?]),
    listAt_of_getOr (by simp [networkPayload, Json.getOr, Dict.get?])⟩

theorem textAt_of_get? {payload : Json} {key : String} {text : Str}
    (h : payload.get? (str key) = some (.str text)) : textAt payload key = .ok text := by
  unfold textAt
  rw [Json.getItem_eq_ok_iff.mpr h]
  rfl

/-- The names and references of sorted payloads, whose order makes no difference to their labels. -/
theorem distinctLabels_textsAt {α κ : Type} [Ord κ] {payload : α → Json} {key : String} {text : α → Str}
    (h : ∀ a, textAt (payload a) key = .ok (text a)) (sortKey : α → κ) (items : List α) :
    DistinctLabels (textsAt ((sortedBy sortKey items).map payload) key) ↔
      DistinctLabels (items.map text) := by
  rw [textsAt_map h]
  exact distinctLabels_perm ((sortedBy_perm sortKey items).map text)

/-- The addresses of a compiled range are unique exactly when its team references and workload keys
are told apart. -/
theorem uniqueAddresses_iff_labelsApart
    (hnetwork : compileWebBreachLab request o AllocationLedger.empty = .ok (.plan network, ledger))
    (hworkload : compileWorkload workload network o ledger = .ok (.plan plan, ledger'))
    {record : Option AllocationLedger} {profile : Json} {texts : List (Str × Str)}
    (hrender : renderBundle (toManifestPayload plan.topology record) profile = .ok texts) :
    ∃ files, renderWorkspace (toManifestPayload plan.topology record) profile = .ok files ∧
      (files.map fun file => (file.1, printItems 0 file.2)) = texts ∧
      (UniqueAddresses files ↔ LabelsApart workload.teamRefs (perTeamKeys workload)) := by
  obtain ⟨files, hfiles, htexts⟩ := renderBundle_eq_ok.mp hrender
  refine ⟨files, hfiles, htexts, ?_⟩
  have hdrawn := namesDrawn_of_compileWebBreachLab hnetwork
  have hshown := shownTeam_of_compiled hnetwork hworkload
  obtain ⟨hread, hguests⟩ := reads_toManifestPayload plan.topology record
  obtain ⟨hvnets, hipSets, hgroups⟩ := reads_networkPayload network
  rw [network_of_compileWorkload hworkload] at hread
  refine (uniqueAddresses_iff hread hvnets hipSets hgroups hguests files hfiles).trans ?_
  -- the names of the network never share a label, so the teams and references decide
  rw [@distinctLabels_textsAt _ VNetSpec _ _ vnetPayload "name" VNetSpec.name
      fun v => textAt_of_get? (by simp [vnetPayload, Dict.get?]),
    @distinctLabels_textsAt _ IpSetSpec _ _ ipSetPayload "name" IpSetSpec.name
      fun i => textAt_of_get? (by simp [ipSetPayload, Dict.get?]),
    @distinctLabels_textsAt _ SecurityGroupSpec _ _ securityGroupPayload "name" SecurityGroupSpec.name
      fun g => textAt_of_get? (by simp [securityGroupPayload, Dict.get?]),
    @distinctLabels_textsAt _ GuestSpec _ _ guestPayload "guest_ref" GuestSpec.guestRef
      fun g => textAt_of_get? (by simp [guestPayload, Dict.get?]),
    distinctLabels_teamsOf_iff hnetwork hworkload, distinctLabels_guests_iff hnetwork hworkload,
    and_iff_right (distinctLabels_vnets hdrawn), and_iff_right (distinctLabels_ipSets hdrawn),
    and_iff_right (distinctLabels_groups hdrawn)]
  exact labelsApart_iff hshown (Slotted.exists_team workload)

end

/-- The sample range renders, and its references decide whether its addresses are unique. -/
theorem sample_uniqueAddresses_iff_labelsApart : ∃ network ledger plan ledger' files,
    @compileWebBreachLab Unicode.ascii (sampleRequest none) equippedObservation
      AllocationLedger.empty = .ok (.plan network, ledger) ∧
    @compileWorkload Unicode.ascii sampleWorkload network equippedObservation ledger =
      .ok (.plan plan, ledger') ∧
    @renderWorkspace Unicode.ascii (toManifestPayload plan.topology (some ledger'))
      sampleProfile = .ok files ∧
    (UniqueAddresses files ↔
      LabelsApart (@WorkloadRequest.teamRefs Unicode.ascii sampleWorkload)
        (@perTeamKeys Unicode.ascii sampleWorkload)) := by
  let _ := Unicode.ascii
  obtain ⟨network, ledger, plan, ledger', texts, hnetwork, hworkload, htexts⟩ :=
    exists_of_renderedRange sampleRange_renders
  obtain ⟨files, hfiles, -, hunique⟩ := uniqueAddresses_iff_labelsApart hnetwork hworkload htexts
  exact ⟨network, ledger, plan, ledger', files, hnetwork, hworkload, hfiles, hunique⟩

end Secp.Worker
