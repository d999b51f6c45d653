import Secp.Range.Execution

/-!
# What a teardown removes from the live set

A resource row is recorded under its kind and name, but a teardown matches its observations to rows
through a dictionary keyed by name alone, and writes the removal before it looks at the health of
the probe. The exact condition under which a row leaves the live set on proof only is stated over
the rows and the result of the provider.
-/

namespace Secp.Range

open Secp.Python
open Secp.Worker (TeardownResourceOutcome ResidueVerdict)

/-! ## The row that stands for a name -/

/-- The last live row of its name. -/
def StandsFor (rows : List ResourceRow) (place : Nat) (row : ResourceRow) : Prop :=
  rows[place]? = some row ∧ row.live = true ∧
    ∀ later other, place < later → rows[later]? = some other → other.live = true →
      other.name ≠ row.name

theorem liveByName_append (rows : List ResourceRow) (row : ResourceRow) :
    liveByName (rows ++ [row]) =
      if row.live then (liveByName rows).set row.name rows.length else liveByName rows := by
  unfold liveByName Dict.ofPairs
  rw [List.zipIdx_append, List.filter_append, List.map_append, List.foldl_append]
  cases hlive : row.live <;> simp [hlive]

theorem standsFor_append {rows : List ResourceRow} {last row : ResourceRow} {place : Nat} :
    StandsFor (rows ++ [last]) place row ↔
      place = rows.length ∧ last = row ∧ last.live = true ∨
        StandsFor rows place row ∧ (last.live = true → last.name ≠ row.name) := by
  have hlast : (rows ++ [last])[rows.length]? = some last := by simp
  constructor
  · rintro ⟨hget, hlive, hlater⟩
    by_cases hplace : place < rows.length
    · right
      rw [List.getElem?_append_left hplace] at hget
      refine ⟨⟨hget, hlive, fun later other hlt hother => ?_⟩, fun h =>
        hlater rows.length last hplace hlast h⟩
      obtain ⟨hlen, -⟩ := List.getElem?_eq_some_iff.mp hother
      exact hlater later other hlt (by rwa [List.getElem?_append_left hlen])
    · left
      obtain ⟨hlen, -⟩ := List.getElem?_eq_some_iff.mp hget
      rw [List.length_append, List.length_singleton] at hlen
      obtain rfl : place = rows.length := by omega
      rw [hlast] at hget
      obtain rfl := Option.some.inj hget
      exact ⟨rfl, rfl, hlive⟩
  · rintro (⟨rfl, rfl, hlive⟩ | ⟨⟨hget, hlive, hlater⟩, hnot⟩)
    · refine ⟨hlast, hlive, fun later other hlt hother => ?_⟩
      obtain ⟨hlen, -⟩ := List.getElem?_eq_some_iff.mp hother
      rw [List.length_append, List.length_singleton] at hlen
      omega
    · obtain ⟨hplace, -⟩ := List.getElem?_eq_some_iff.mp hget
      refine ⟨by rwa [List.getElem?_append_left hplace], hlive, fun later other hlt hother hl => ?_⟩
      by_cases hlen : later < rows.length
      · rw [List.getElem?_append_left hlen] at hother
        exact hlater later other hlt hother hl
      · obtain ⟨hlen', -⟩ := List.getElem?_eq_some_iff.mp hother
        rw [List.length_append, List.length_singleton] at hlen'
        obtain rfl : later = rows.length := by omega
        rw [hlast] at hother
        obtain rfl := Option.some.inj hother
        exact hnot hl

/-- The dictionary holds exactly the rows that stand for their names. -/
theorem get?_liveByName_iff {rows : List ResourceRow} {name : Str} {place : Nat} :
    (liveByName rows).get? name = some place ↔
      ∃ row, StandsFor rows place row ∧ row.name = name := by
  induction rows using List.reverseRecOn with
  | nil => simp [liveByName, Dict.ofPairs, StandsFor]
  | append_singleton rows last ih =>
      rw [liveByName_append]
      simp only [standsFor_append]
      by_cases hlive : last.live = true
      · rw [if_pos hlive, Dict.get?_set]
        by_cases hname : last.name = name
        · rw [if_pos hname]
          constructor
          · intro h
            obtain rfl := Option.some.inj h
            exact ⟨last, .inl ⟨rfl, rfl, hlive⟩, hname⟩
          · rintro ⟨row, ⟨rfl, rfl, -⟩ | ⟨-, hnot⟩, hrow⟩
            · rfl
            · exact absurd (hname.trans hrow.symm) (hnot hlive)
        · rw [if_neg hname, ih]
          constructor
          · rintro ⟨row, hstands, hrow⟩
            exact ⟨row, .inr ⟨hstands, fun _ h => hname (h.trans hrow)⟩, hrow⟩
          · rintro ⟨row, ⟨-, rfl, -⟩ | ⟨hstands, -⟩, hrow⟩
            · exact absurd hrow hname
            · exact ⟨row, hstands, hrow⟩
      · rw [if_neg hlive, ih]
        constructor
        · rintro ⟨row, hstands, hrow⟩
          exact ⟨row, .inr ⟨hstands, fun h => absurd h hlive⟩, hrow⟩
        · rintro ⟨row, ⟨-, rfl, h⟩ | ⟨hstands, -⟩, hrow⟩
          · exact absurd h hlive
          · exact ⟨row, hstands, hrow⟩

/-- A live name has a row that stands for it. -/
theorem mem_keys_liveByName {rows : List ResourceRow} {name : Str} :
    name ∈ (liveByName rows).map Prod.fst ↔ ∃ row ∈ rows, row.live = true ∧ row.name = name := by
  induction rows using List.reverseRecOn with
  | nil => simp [liveByName, Dict.ofPairs]
  | append_singleton rows last ih =>
      rw [liveByName_append]
      simp only [List.mem_append, List.mem_singleton]
      by_cases hlive : last.live = true
      · rw [if_pos hlive, Dict.mem_keys_set, ih]
        constructor
        · rintro (rfl | ⟨row, hrow, h⟩)
          · exact ⟨last, .inr rfl, hlive, rfl⟩
          · exact ⟨row, .inl hrow, h⟩
        · rintro ⟨row, hrow | rfl, h⟩
          · exact .inr ⟨row, hrow, h⟩
          · exact .inl h.2.symm
      · rw [if_neg hlive, ih]
        constructor
        · rintro ⟨row, hrow, h⟩
          exact ⟨row, .inl hrow, h⟩
        · rintro ⟨row, hrow | rfl, h⟩
          · exact ⟨row, hrow, h⟩
          · exact absurd h.1 hlive

/-! ## The sweep -/

/-- The row at a place is marked as gone. -/
def GoneAt (rows : List ResourceRow) (place : Nat) : Prop :=
  ∃ row, rows[place]? = some row ∧ row.live = false

section
variable {byName : Dict Str Nat} {now : Datetime} {sweep : Sweep} {name : Str} {place : Nat}
  {f : ResourceRow → ResourceRow}

@[simp] theorem length_touch : (sweep.touch byName name f).length = sweep.rows.length := by
  unfold Sweep.touch
  cases byName.get? name <;> simp

/-- A rewriting that keeps rows live or gone. -/
theorem goneAt_touch_of_keeps (hf : ∀ row, (f row).live = row.live) :
    GoneAt (sweep.touch byName name f) place ↔ GoneAt sweep.rows place := by
  unfold GoneAt Sweep.touch
  cases byName.get? name with
  | none => rfl
  | some held =>
      simp only [List.getElem?_modify]
      by_cases hheld : held = place
      · simp [hheld, hf]
      · simp [hheld]

/-- A rewriting that marks a row as gone. -/
theorem goneAt_touch_of_gone (hf : ∀ row, (f row).live = false)
    (hplaces : ∀ name place, byName.get? name = some place → place < sweep.rows.length) :
    GoneAt (sweep.touch byName name f) place ↔
      GoneAt sweep.rows place ∨ byName.get? name = some place := by
  unfold GoneAt Sweep.touch
  cases hget : byName.get? name with
  | none => simp
  | some held =>
      simp only [List.getElem?_modify]
      by_cases hheld : held = place
      · subst hheld
        have hlen := hplaces name held hget
        simp [hf, List.getElem?_eq_getElem hlen]
      · simp [hheld]

@[simp] theorem length_sweepObservation (o : TeardownObservation) :
    (sweepObservation byName now sweep o).rows.length = sweep.rows.length := by
  unfold sweepObservation
  cases o.outcome <;> simp

/-- One observation marks a row as gone exactly if it says so of the name the row stands for. -/
theorem goneAt_sweepObservation (o : TeardownObservation)
    (hplaces : ∀ name place, byName.get? name = some place → place < sweep.rows.length) :
    GoneAt (sweepObservation byName now sweep o).rows place ↔
      GoneAt sweep.rows place ∨ byName.get? o.name = some place ∧ o.outcome = .removed := by
  unfold sweepObservation
  cases houtcome : o.outcome with
  | removed => simp [goneAt_touch_of_gone (f := fun row =>
      { row with state := .removed, removedAt := some now }) (fun _ => rfl) hplaces]
  | present => simp [goneAt_touch_of_keeps (f := fun row => { row with state := .failed })
      (fun _ => rfl)]
  | unproven => simp [goneAt_touch_of_keeps (f := fun row => { row with state := .unproven })
      (fun _ => rfl)]

/-- All observations of a teardown. -/
theorem goneAt_foldl_sweepObservation (observations : List TeardownObservation)
    (hplaces : ∀ name place, byName.get? name = some place → place < sweep.rows.length) :
    GoneAt (observations.foldl (sweepObservation byName now) sweep).rows place ↔
      GoneAt sweep.rows place ∨
        ∃ o ∈ observations, byName.get? o.name = some place ∧ o.outcome = .removed := by
  induction observations generalizing sweep with
  | nil => simp
  | cons o rest ih =>
      rw [List.foldl_cons, ih (by simpa using hplaces), goneAt_sweepObservation o hplaces]
      simp only [List.mem_cons, exists_eq_or_imp, or_assoc]

/-- A name the teardown is silent about leaves every row in the live set. -/
theorem goneAt_foldl_sweepSilent (names : List Str) :
    GoneAt (names.foldl (sweepSilent byName) sweep).rows place ↔ GoneAt sweep.rows place := by
  induction names generalizing sweep with
  | nil => rfl
  | cons name rest ih =>
      rw [List.foldl_cons, ih]
      exact goneAt_touch_of_keeps fun _ => rfl

/-! ## Counting -/

theorem counts_sweepObservation (byName : Dict Str Nat) (now : Datetime) (sweep : Sweep)
    (observations : List TeardownObservation) :
    let swept := observations.foldl (sweepObservation byName now) sweep
    swept.present = sweep.present + observations.countP (fun o => o.outcome = .present) ∧
      swept.unproven = sweep.unproven + observations.countP (fun o => o.outcome = .unproven) := by
  induction observations generalizing sweep with
  | nil => simp
  | cons o rest ih =>
      rw [List.foldl_cons]
      obtain ⟨hpresent, hunproven⟩ := ih (sweepObservation byName now sweep o)
      simp only [hpresent, hunproven, List.countP_cons]
      unfold sweepObservation
      cases o.outcome <;> simp <;> omega

theorem counts_sweepSilent (byName : Dict Str Nat) (sweep : Sweep) (names : List Str) :
    let swept := names.foldl (sweepSilent byName) sweep
    swept.present = sweep.present ∧ swept.unproven = sweep.unproven + names.length := by
  induction names generalizing sweep with
  | nil => simp
  | cons name rest ih =>
      obtain ⟨hpresent, hunproven⟩ := ih (sweepSilent byName sweep name)
      refine ⟨hpresent, ?_⟩
      rw [List.foldl_cons, hunproven]
      show sweep.unproven + 1 + rest.length = _
      rw [List.length_cons]
      omega

end

section
variable {rows : List ResourceRow} {result : TeardownResult} {now : Datetime}

theorem place_lt_of_liveByName {name : Str} {place : Nat}
    (h : (liveByName rows).get? name = some place) : place < rows.length := by
  obtain ⟨row, ⟨hget, -⟩, -⟩ := get?_liveByName_iff.mp h
  exact (List.getElem?_eq_some_iff.mp hget).1

/-- A row leaves the live set when it stands for a name that some observation reports removed. -/
theorem goneAt_sweepRows_iff (now : Datetime) {place : Nat} {row : ResourceRow} (hget : rows[place]? = some row)
    (hlive : row.live = true) :
    GoneAt (sweepRows rows result now).rows place ↔
      StandsFor rows place row ∧
        ∃ o ∈ result.observations, o.name = row.name ∧ o.outcome = .removed := by
  have hnot : ¬GoneAt rows place := by
    rintro ⟨other, hother, hgone⟩
    obtain rfl : other = row := Option.some.inj (hother.symm.trans hget)
    rw [hlive] at hgone
    cases hgone
  have hplaces : ∀ name place, (liveByName rows).get? name = some place →
      place < (Sweep.rows { rows := rows }).length := fun _ _ => place_lt_of_liveByName
  unfold sweepRows
  rw [goneAt_foldl_sweepSilent, goneAt_foldl_sweepObservation _ hplaces]
  constructor
  · rintro (h | ⟨o, ho, hname, houtcome⟩)
    · exact absurd h hnot
    · obtain ⟨other, hstands, hother⟩ := get?_liveByName_iff.mp hname
      obtain rfl : other = row := Option.some.inj (hstands.1.symm.trans hget)
      exact ⟨hstands, o, ho, hother.symm, houtcome⟩
  · rintro ⟨hstands, o, ho, hname, houtcome⟩
    exact .inr ⟨o, ho, get?_liveByName_iff.mpr ⟨row, hstands, hname.symm⟩, houtcome⟩

/-- The verdict is clean when a healthy probe reported removed throughout and was silent about no
live name. -/
theorem verdict_sweepRows_clean_iff :
    (sweepRows rows result now).verdict result.probeReachable = .clean ↔
      result.probeReachable = true ∧ (∀ o ∈ result.observations, o.outcome = .removed) ∧
        ∀ row ∈ rows, row.live = true → ∃ o ∈ result.observations, o.name = row.name := by
  have hcounts := counts_sweepObservation (liveByName rows) now { rows := rows }
    result.observations
  have hsilent := counts_sweepSilent (liveByName rows)
    (result.observations.foldl (sweepObservation (liveByName rows) now) { rows := rows })
    (silentNames (liveByName rows) result.observations)
  have hpresent : (sweepRows rows result now).present =
      result.observations.countP fun o => o.outcome = .present := by
    rw [sweepRows, hsilent.1, hcounts.1]
    exact Nat.zero_add _
  have hunproven : (sweepRows rows result now).unproven =
      result.observations.countP (fun o => o.outcome = .unproven) +
        (silentNames (liveByName rows) result.observations).length := by
    rw [sweepRows, hsilent.2, hcounts.2]
    simp
  have hcovered : (silentNames (liveByName rows) result.observations).length = 0 ↔
      ∀ row ∈ rows, row.live = true → ∃ o ∈ result.observations, o.name = row.name := by
    rw [List.length_eq_zero_iff, silentNames, ← List.length_eq_zero_iff,
      (sortedBy_perm id _).length_eq, List.length_eq_zero_iff, List.filter_eq_nil_iff]
    constructor
    · intro h row hrow hlive
      have := h row.name (mem_keys_liveByName.mpr ⟨row, hrow, hlive, rfl⟩)
      simpa using this
    · intro h name hname
      obtain ⟨row, hrow, hlive, rfl⟩ := mem_keys_liveByName.mp hname
      simpa using h row hrow hlive
  have hall : (∀ o ∈ result.observations, o.outcome = .removed) ↔
      result.observations.countP (fun o => o.outcome = .present) = 0 ∧
        result.observations.countP (fun o => o.outcome = .unproven) = 0 := by
    rw [List.countP_eq_zero, List.countP_eq_zero, ← forall₂_and]
    refine forall₂_congr fun o _ => ?_
    cases o.outcome <;> simp
  rw [hall, ← hcovered]
  unfold Sweep.verdict
  rw [hpresent, hunproven]
  cases hprobe : result.probeReachable with
  | false => simp
  | true =>
      simp only [Bool.not_true, Bool.false_eq_true, if_false, true_and]
      split
      · next h => simp [h]
      · next h =>
          split
          · next h' =>
              simp only [reduceCtorEq, false_iff]
              omega
          · next h' =>
              simp only [true_iff]
              omega

end

/-! ## Leaving the live set on proof -/

section
variable {range : RangeInstance} {operationId : Str} {result : TeardownResult} {now : Datetime}

theorem resources_concludeDestroy (removed : Nat) (reason : Option Str) (verdict : ResidueVerdict) :
    (range.concludeDestroy operationId removed reason now verdict).resources = range.resources := by
  cases verdict <;> rfl

theorem state_concludeDestroy (removed : Nat) (reason : Option Str) (verdict : ResidueVerdict) :
    (range.concludeDestroy operationId removed reason now verdict).state =
      if verdict = .clean then .destroyed else .recoveryRequired := by
  cases verdict <;> rfl

theorem competition_concludeDestroy (removed : Nat) (reason : Option Str)
    (verdict : ResidueVerdict) :
    (range.concludeDestroy operationId removed reason now verdict).competition =
      range.competition := by
  cases verdict <;> rfl

theorem resources_runDestroy :
    (range.runDestroy operationId result now).resources =
      (sweepRows range.resources result now).rows :=
  resources_concludeDestroy _ _ _

theorem state_runDestroy :
    (range.runDestroy operationId result now).state =
      if (sweepRows range.resources result now).verdict result.probeReachable = .clean then
        .destroyed
      else .recoveryRequired :=
  state_concludeDestroy _ _ _

theorem competition_runDestroy :
    (range.runDestroy operationId result now).competition = range.competition :=
  competition_concludeDestroy _ _ _

end

/-- A healthy probe observed a resource of the row's own kind and name, and every time as removed. -/
def Proved (result : TeardownResult) (row : ResourceRow) : Prop :=
  result.probeReachable = true ∧
    (∃ o ∈ result.observations, o.kind = row.kind ∧ o.name = row.name) ∧
    ∀ o ∈ result.observations, o.kind = row.kind → o.name = row.name → o.outcome = .removed

/-- After a teardown a row that was live is gone only on proof, and a destroyed range has proof for
every row that was live. -/
def RemovedOnProof (range : RangeInstance) (operationId : Str) (result : TeardownResult)
    (now : Datetime) : Prop :=
  (∀ (place : Nat) (row : ResourceRow), range.resources[place]? = some row → row.live = true →
    ∀ after : ResourceRow,
      (range.runDestroy operationId result now).resources[place]? = some after →
      after.removedAt ≠ none → Proved result row) ∧
  ((range.runDestroy operationId result now).state = .destroyed →
    ∀ row ∈ range.resources, row.live = true → Proved result row)

/-- The rows leave the live set on proof exactly when the row that stands for a name reported as
removed has proof of its own, and when a healthy probe that reports everything removed and speaks of
every live name also speaks of every live row's own kind. -/
theorem removedOnProof_iff (range : RangeInstance) (operationId : Str) (result : TeardownResult)
    (now : Datetime) :
    RemovedOnProof range operationId result now ↔
      (∀ place row, StandsFor range.resources place row →
        (∃ o ∈ result.observations, o.name = row.name ∧ o.outcome = .removed) →
          Proved result row) ∧
      (result.probeReachable = true → (∀ o ∈ result.observations, o.outcome = .removed) →
        (∀ row ∈ range.resources, row.live = true →
          ∃ o ∈ result.observations, o.name = row.name) →
        ∀ row ∈ range.resources, row.live = true →
          ∃ o ∈ result.observations, o.kind = row.kind ∧ o.name = row.name) := by
  have hgone : ∀ (place : Nat) (row : ResourceRow), range.resources[place]? = some row →
      row.live = true →
      ((∃ after : ResourceRow,
        (range.runDestroy operationId result now).resources[place]? = some after ∧
          after.removedAt ≠ none) ↔
        StandsFor range.resources place row ∧
          ∃ o ∈ result.observations, o.name = row.name ∧ o.outcome = .removed) := by
    intro place row hget hlive
    rw [← goneAt_sweepRows_iff now hget hlive, resources_runDestroy]
    refine exists_congr fun after => and_congr_right fun _ => ?_
    rw [ResourceRow.live, Option.isNone_eq_false_iff, Option.isSome_iff_ne_none]
  refine and_congr ?_ ?_
  · constructor
    · intro h place row hstands hremoved
      obtain ⟨after, hafter, hset⟩ :=
        (hgone place row hstands.1 hstands.2.1).mpr ⟨hstands, hremoved⟩
      exact h place row hstands.1 hstands.2.1 after hafter hset
    · intro h place row hget hlive after hafter hset
      obtain ⟨hstands, hremoved⟩ := (hgone place row hget hlive).mp ⟨after, hafter, hset⟩
      exact h place row hstands hremoved
  · have hstate : (range.runDestroy operationId result now).state = .destroyed ↔
        (sweepRows range.resources result now).verdict result.probeReachable = .clean := by
      rw [state_runDestroy]
      split <;> simp [*]
    rw [hstate, verdict_sweepRows_clean_iff]
    constructor
    · intro h hprobe hall hnames row hrow hlive
      exact (h ⟨hprobe, hall, hnames⟩ row hrow hlive).2.1
    · rintro h ⟨hprobe, hall, hnames⟩ row hrow hlive
      exact ⟨hprobe, h hprobe hall hnames row hrow hlive, fun o ho _ _ => hall o ho⟩

/-! ### Two kinds under one name -/

def sampleRow (kind : RangeResourceKind) : ResourceRow :=
  { kind := kind, provider := str "local_docker", name := str "lab", ownerLabel := [] }

/-- A network and a container of one name. -/
def sameNameRange : RangeInstance :=
  { id := str "r1", organizationId := str "o1", name := str "Lab", provider := str "local_docker"
    state := .destroying
    resources := [sampleRow .network, sampleRow .container] }

theorem sampleMicros_lt : 738000 * microsPerDay < maxOrdinal * microsPerDay := by decide

def sampleClock : Datetime := ⟨738000 * microsPerDay, sampleMicros_lt⟩

/-- Only the network was observed. -/
def networkRemoved : TeardownResult :=
  { probeReachable := true
    observations := [{ kind := .network, name := str "lab", outcome := .removed }] }

/-- The container leaves the live set and the range is destroyed on the network's observation. -/
theorem sameNameRange_removed_unproved :
    (sameNameRange.runDestroy (str "op1") networkRemoved sampleClock).state = .destroyed ∧
      ¬RemovedOnProof sameNameRange (str "op1") networkRemoved sampleClock := by
  have hclean : (sweepRows sameNameRange.resources networkRemoved sampleClock).verdict true =
      .clean := by
    with_unfolding_all decide
  have hstate : (sameNameRange.runDestroy (str "op1") networkRemoved sampleClock).state =
      .destroyed := by
    rw [state_runDestroy]
    exact if_pos hclean
  refine ⟨hstate, fun h => ?_⟩
  have hrow : sampleRow .container ∈ sameNameRange.resources :=
    List.mem_cons_of_mem _ List.mem_cons_self
  obtain ⟨-, ⟨o, ho, hkind, -⟩, -⟩ := h.2 hstate (sampleRow .container) hrow rfl
  rw [List.mem_singleton.mp ho] at hkind
  cases hkind

end Secp.Range
