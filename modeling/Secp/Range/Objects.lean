import Secp.Logic.Run
import Secp.Range.Lifecycle

/-!
# What a provider holds and what the rows say of it

A bring-up creates its objects one after the other, and their rows are written only once the provider
has returned. A teardown is asked about the live rows and about nothing else. A destroyed range has
no object left as long as no bring-up leaves an object behind that it did not report, and no row
leaves the live set on the report about another.
-/

namespace Secp.Range

open Secp.Python Secp.Logic

/-! ## Objects -/

/-- `external_id or name`: what a provider addresses a resource by. -/
def referenceOf (externalId : Option Str) (name : Str) : Str :=
  match externalId with
  | some id => if id.isEmpty then name else id
  | none => name

/-- An object at the provider, under the id its creation returned. -/
structure OwnedObject where
  kind : RangeResourceKind
  name : Str
  externalId : Option Str := none
  deriving DecidableEq

def OwnedObject.reference (object : OwnedObject) : Str := referenceOf object.externalId object.name

/-- The observation is of the object. -/
def ResourceObservation.Describes (o : ResourceObservation) (object : OwnedObject) : Prop :=
  o.kind = object.kind ∧ o.name = object.name ∧ referenceOf o.externalId o.name = object.reference

/-- Some live row records the object. -/
def Recorded (rows : List ResourceRow) (object : OwnedObject) : Prop :=
  ∃ row ∈ rows, row.live = true ∧ row.observation.Describes object

/-- What a provider call does to the objects of the range. -/
inductive Effect where
  | create (object : OwnedObject)
  | remove (kind : RangeResourceKind) (reference : Str)

/-- A name is taken once for each kind: a second object is refused. -/
def Effect.apply (objects : List OwnedObject) : Effect → List OwnedObject
  | .create object =>
      if objects.any fun o => o.kind = object.kind && o.name = object.name then objects
      else objects ++ [object]
  | .remove kind reference =>
      objects.filter fun o => !(o.kind = kind && o.reference = reference)

def Effect.removes : Effect → Bool
  | .create _ => false
  | .remove _ _ => true

/-- Removing creates nothing. -/
theorem mem_of_foldl_apply {effects : List Effect} {objects : List OwnedObject}
    {object : OwnedObject} (hremoves : ∀ e ∈ effects, e.removes = true)
    (h : object ∈ effects.foldl Effect.apply objects) : object ∈ objects := by
  induction effects generalizing objects with
  | nil => exact h
  | cons e rest ih =>
      have hrest := ih (fun e he => hremoves e (List.mem_cons_of_mem _ he)) h
      cases e with
      | create object =>
          have hremove := hremoves _ List.mem_cons_self
          cases hremove
      | remove kind reference => exact List.mem_of_mem_filter hrest

/-! ## What rewriting the rows keeps -/

/-- The columns that tell which object a row records. -/
def ResourceRow.identity (row : ResourceRow) : RangeResourceKind × Str × Option Str :=
  (row.kind, row.name, row.externalId)

theorem describes_of_identity {row row' : ResourceRow} {object : OwnedObject}
    (hidentity : row'.identity = row.identity) (h : row.observation.Describes object) :
    row'.observation.Describes object := by
  obtain ⟨hkind, hname, hreference⟩ := h
  simp only [ResourceRow.identity, Prod.mk.injEq] at hidentity
  obtain ⟨hk, hn, he⟩ := hidentity
  refine ⟨hk.trans hkind, hn.trans hname, ?_⟩
  show referenceOf row'.externalId row'.name = object.reference
  rw [he, hn]
  exact hreference

section
variable {rows : List ResourceRow} {object : OwnedObject} {o : ResourceObservation} {provider : Str}

/-- Retaining the rows as unproven removes none from the live set. -/
theorem Recorded.retained (h : Recorded rows object) :
    Recorded (rows.map ResourceRow.retained) object := by
  obtain ⟨row, hrow, hlive, hdescribes⟩ := h
  refine ⟨row.retained, List.mem_map_of_mem hrow, ?_, ?_⟩
  · unfold ResourceRow.retained
    split
    · exact hlive
    · exact hlive
  · refine describes_of_identity ?_ hdescribes
    unfold ResourceRow.retained
    split <;> rfl

/-- An object that was observed is recorded. -/
theorem recorded_persistResource (h : o.Describes object) :
    Recorded (persistResource provider o rows) object := by
  induction rows with
  | nil => exact ⟨_, List.mem_cons_self, rfl, h⟩
  | cons row rest ih =>
      rw [persistResource]
      by_cases hmatch : (row.name = o.name && row.kind = o.kind) = true
      · rw [if_pos hmatch]
        simp only [Bool.and_eq_true, decide_eq_true_eq] at hmatch
        refine ⟨row.observed o, List.mem_cons_self, rfl, ?_⟩
        refine ⟨hmatch.2.trans h.1, hmatch.1.trans h.2.1, ?_⟩
        show referenceOf o.externalId row.name = object.reference
        rw [hmatch.1]
        exact h.2.2
      · rw [if_neg hmatch]
        obtain ⟨other, hother, hrest⟩ := ih
        exact ⟨other, List.mem_cons_of_mem _ hother, hrest⟩

/-- An observation that is right about an object keeps its record. -/
theorem Recorded.persistResource (h : Recorded rows object)
    (htrue : o.kind = object.kind → o.name = object.name → o.Describes object) :
    Recorded (persistResource provider o rows) object := by
  by_cases hsame : o.kind = object.kind ∧ o.name = object.name
  · exact recorded_persistResource (htrue hsame.1 hsame.2)
  · -- the row that is rewritten is not the one that records the object
    obtain ⟨row, hrow, hlive, hdescribes⟩ := h
    refine ⟨row, ?_, hlive, hdescribes⟩
    induction rows with
    | nil => cases hrow
    | cons first rest ih =>
        rw [Secp.Range.persistResource]
        by_cases hmatch : (first.name = o.name && first.kind = o.kind) = true
        · rw [if_pos hmatch]
          simp only [Bool.and_eq_true, decide_eq_true_eq] at hmatch
          rcases List.mem_cons.mp hrow with rfl | hrest
          · exact absurd ⟨hmatch.2.symm.trans hdescribes.1, hmatch.1.symm.trans hdescribes.2.1⟩ hsame
          · exact List.mem_cons_of_mem _ hrest
        · rw [if_neg hmatch]
          rcases List.mem_cons.mp hrow with rfl | hrest
          · exact List.mem_cons_self
          · exact List.mem_cons_of_mem _ (ih hrest)

/-- Persisting observations that are right about an object records it if it was recorded or
observed. -/
theorem recorded_persistResources {observations : List ResourceObservation}
    (htrue : ∀ o ∈ observations, o.kind = object.kind → o.name = object.name → o.Describes object)
    (h : Recorded rows object ∨ ∃ o ∈ observations, o.Describes object) :
    Recorded (observations.foldl (fun rows o => persistResource provider o rows) rows) object := by
  induction observations generalizing rows with
  | nil =>
      rcases h with h | ⟨o, ho, -⟩
      · exact h
      · cases ho
  | cons first rest ih =>
      refine ih (fun o ho => htrue o (List.mem_cons_of_mem _ ho)) ?_
      rcases h with h | ⟨o, ho, hdescribes⟩
      · exact .inl (h.persistResource (htrue first List.mem_cons_self))
      · rcases List.mem_cons.mp ho with rfl | hrest
        · exact .inl (recorded_persistResource hdescribes)
        · exact .inr ⟨o, hrest, hdescribes⟩

end

/-! ## What a sweep keeps -/

section
variable {byName : Dict Str Nat} {now : Datetime} {sweep : Sweep}

theorem identity_touch {name : Str} {f : ResourceRow → ResourceRow}
    (hf : ∀ row, (f row).identity = row.identity) :
    (sweep.touch byName name f).map ResourceRow.identity =
      sweep.rows.map ResourceRow.identity := by
  unfold Sweep.touch
  cases byName.get? name with
  | none => rfl
  | some place =>
      refine List.ext_getElem? fun i => ?_
      rw [List.getElem?_map, List.getElem?_map, List.getElem?_modify]
      by_cases hi : place = i
      · simp [hi, Function.comp_def, hf]
      · simp [hi]

theorem identity_sweepObservation (o : TeardownObservation) :
    (sweepObservation byName now sweep o).rows.map ResourceRow.identity =
      sweep.rows.map ResourceRow.identity := by
  unfold sweepObservation
  cases o.outcome with
  | removed => exact identity_touch fun _ => rfl
  | present => exact identity_touch fun _ => rfl
  | unproven => exact identity_touch fun _ => rfl

/-- A sweep changes the state of rows, never which objects they record. -/
theorem identity_sweepRows (rows : List ResourceRow) (result : TeardownResult) (now : Datetime) :
    (sweepRows rows result now).rows.map ResourceRow.identity =
      rows.map ResourceRow.identity := by
  have hobservations : ∀ (observations : List TeardownObservation) (sweep : Sweep),
      (observations.foldl (sweepObservation (liveByName rows) now) sweep).rows.map
        ResourceRow.identity = sweep.rows.map ResourceRow.identity := by
    intro observations
    induction observations with
    | nil => exact fun _ => rfl
    | cons o rest ih => exact fun sweep => (ih _).trans (identity_sweepObservation o)
  have hsilent : ∀ (names : List Str) (sweep : Sweep),
      (names.foldl (sweepSilent (liveByName rows)) sweep).rows.map ResourceRow.identity =
        sweep.rows.map ResourceRow.identity := by
    intro names
    induction names with
    | nil => exact fun _ => rfl
    | cons name rest ih => exact fun sweep => (ih _).trans (identity_touch fun _ => rfl)
  exact (hsilent _ _).trans (hobservations _ _)

end

/-! ## A truthful provider -/

/-- What a bring-up returns about an object that is there is right. -/
def DeployResult.Truthful (result : DeployResult) (objects : List OwnedObject) : Prop :=
  ∀ o ∈ result.resources, ∀ object ∈ objects,
    o.kind = object.kind → o.name = object.name → o.Describes object

/-- A teardown reports on every resource it was handed, and reports removed only what is gone. -/
structure TeardownResult.Truthful (result : TeardownResult) (handed : List ResourceRow)
    (objects : List OwnedObject) : Prop where
  covers : ∀ row ∈ handed, ∃ o ∈ result.observations,
    o.kind = row.kind ∧ o.name = row.name ∧ o.externalId = row.externalId
  removed : ∀ o ∈ result.observations, o.outcome = .removed → ∀ object ∈ objects,
    o.kind = object.kind → referenceOf o.externalId o.name ≠ object.reference

/-- Where a name is reported removed, the row that stands for the name has been reported removed
itself. -/
def TeardownResult.RemovesNoNamesake (result : TeardownResult) (rows : List ResourceRow) : Prop :=
  ∀ place row, StandsFor rows place row →
    (∃ o ∈ result.observations, o.name = row.name ∧ o.outcome = .removed) →
      ∀ o ∈ result.observations, o.kind = row.kind → o.name = row.name → o.outcome = .removed

section
variable {rows : List ResourceRow} {objects : List OwnedObject} {object : OwnedObject}
  {result : TeardownResult}

/-- Whatever is left of the objects after a teardown is still recorded. -/
theorem Recorded.sweepRows (h : Recorded rows object)
    (htruthful : result.Truthful (rows.filter ResourceRow.live) objects)
    (hnamesake : result.RemovesNoNamesake rows) (hobject : object ∈ objects) (now : Datetime) :
    Recorded (Secp.Range.sweepRows rows result now).rows object := by
  obtain ⟨row, hrow, hlive, hdescribes⟩ := h
  obtain ⟨place, hget⟩ := List.mem_iff_getElem?.mp hrow
  have hidentity := congrArg (fun l => l[place]?) (identity_sweepRows rows result now)
  simp only [List.getElem?_map, hget, Option.map_some, Option.map_eq_some_iff] at hidentity
  obtain ⟨after, hafter, hsame⟩ := hidentity
  refine ⟨after, List.mem_of_getElem? hafter, ?_, describes_of_identity hsame hdescribes⟩
  by_contra hgone
  -- the row left the live set, so it was reported removed itself
  obtain ⟨hstands, hremoved⟩ := (goneAt_sweepRows_iff now hget hlive).mp
    ⟨after, hafter, by simpa using hgone⟩
  obtain ⟨o, ho, hkind, hname, hid⟩ := htruthful.covers row (List.mem_filter.mpr ⟨hrow, hlive⟩)
  refine htruthful.removed o ho (hnamesake place row hstands hremoved o ho hkind hname) object
    hobject (hkind.trans hdescribes.1) ?_
  rw [hid, hname]
  exact hdescribes.2.2

/-- After a clean teardown nothing that was recorded is left. -/
theorem not_recorded_of_clean {now : Datetime}
    (hclean : (Secp.Range.sweepRows rows result now).verdict result.probeReachable = .clean)
    (htruthful : result.Truthful (rows.filter ResourceRow.live) objects)
    (hobject : object ∈ objects) : ¬Recorded rows object := by
  intro hrecorded
  obtain ⟨-, hall, -⟩ := verdict_sweepRows_clean_iff.mp hclean
  obtain ⟨row, hrow, hlive, hdescribes⟩ := hrecorded
  obtain ⟨o, ho, hkind, hname, hid⟩ := htruthful.covers row (List.mem_filter.mpr ⟨hrow, hlive⟩)
  refine htruthful.removed o ho (hall o ho) object hobject (hkind.trans hdescribes.1) ?_
  rw [hid, hname]
  exact hdescribes.2.2

end

/-! ## Calls of the provider -/

/-- The rows of a range and the objects of the range at its provider. -/
structure Site where
  range : RangeInstance
  objects : List OwnedObject := []

/-- A transaction, and what the provider did while it ran. An execution that is cut off has done
what it did until then. -/
structure Turn where
  action : Action
  effects : List Effect := []

/-- The call of the provider a transaction makes: the kind of the operation that is executed. -/
def providerCall (range : RangeInstance) : Action → Option (RangeOperationKind × Attempt)
  | .execute operationId expected attempt =>
      match resolveOperation range operationId expected, attempt.prepared with
      | .ok op, .ok _ =>
          if (operationStaleness op attempt.pickedUpAt).stale then none else some (op.kind, attempt)
      | _, _ => none
  | _ => none

section
variable [Unicode]

/-- One transaction. The provider is left alone where it is not called. -/
def Site.step (site : Site) (turn : Turn) : Site where
  range := site.range.act turn.action
  objects :=
    match providerCall site.range turn.action with
    | some _ => turn.effects.foldl Effect.apply site.objects
    | none => site.objects

/-- A sequence of transactions. -/
def Site.run (site : Site) (turns : List Turn) : Site := turns.foldl Site.step site

/-- What is documented of a provider: its results are right, and a teardown creates nothing. -/
def Turn.Truthful (site : Site) (turn : Turn) : Prop :=
  match providerCall site.range turn.action with
  | none => True
  | some (.destroy, attempt) =>
      (∀ e ∈ turn.effects, e.removes = true) ∧
        ∀ result, attempt.teardown = .returned result →
          result.Truthful site.range.liveResources (site.step turn).objects
  | some (_, attempt) =>
      ∀ result, attempt.bringUp = .returned result → result.Truthful (site.step turn).objects

/-- The resources a bring-up has reported when it is over. -/
def Ending.resources : Ending DeployResult → List ResourceObservation
  | .returned result => result.resources
  | _ => []

/-- A bring-up leaves no object behind that it did not report, and a teardown takes no row out of the
live set on the report about another. -/
def Turn.Accounted (site : Site) (turn : Turn) : Prop :=
  match providerCall site.range turn.action with
  | none => True
  | some (.destroy, attempt) =>
      ∀ result, attempt.teardown = .returned result →
        result.RemovesNoNamesake site.range.resources
  | some (_, attempt) =>
      ∀ object ∈ (site.step turn).objects, object ∉ site.objects →
        ∃ o ∈ attempt.bringUp.resources, o.Describes object

/-! ## One transaction -/

omit [Unicode] in
/-- Commits before the last touch neither the resources nor the state. -/
theorem rows_applyCommits_interim (operationId : Str) (range : RangeInstance)
    {commits : List Commit} (hinterim : ∀ c ∈ commits, c.final = false) :
    (applyCommits operationId range commits).resources = range.resources ∧
      (applyCommits operationId range commits).state = range.state := by
  induction commits generalizing range with
  | nil => exact ⟨rfl, rfl⟩
  | cons c rest ih =>
      obtain ⟨hresources, hstate⟩ := @ih (c.apply operationId range)
        fun d hd => hinterim d (List.mem_cons_of_mem _ hd)
      have hfinal := hinterim c List.mem_cons_self
      have hsame : (c.apply operationId range).resources = range.resources ∧
          (c.apply operationId range).state = range.state := by
        cases c with
        | planned | started | progress | event => exact ⟨rfl, rfl⟩
        | leaseExpired | broughtUp | tornDown | failedUnexpectedly => cases hfinal
      exact ⟨hresources.trans hsame.1, hstate.trans hsame.2⟩

/-- An execution that calls the provider commits what became of the call, after commits that leave
the resources and the state alone. -/
theorem providerCall_spec {range : RangeInstance} {action : Action} {kind : RangeOperationKind}
    {attempt : Attempt} (h : providerCall range action = some (kind, attempt)) :
    (∃ op ∈ range.operations, op.inFlight = true) ∧
      ∃ operationId before, before.resources = range.resources ∧ before.state = range.state ∧
        range.act action = applyCommits operationId before (attempt.ending kind) := by
  cases action with
  | execute operationId expected made =>
      unfold providerCall at h
      cases hresolve : resolveOperation range operationId expected with
      | error e => simp [hresolve] at h
      | ok op =>
          cases hprepared : made.prepared with
          | error exception => simp [hresolve, hprepared] at h
          | ok steps =>
              cases hlease : (operationStaleness op made.pickedUpAt).stale with
              | true => simp [hresolve, hprepared, hlease] at h
              | false =>
                  simp only [hresolve, hprepared, hlease, Bool.false_eq_true, if_false,
                    Option.some.injEq, Prod.mk.injEq] at h
                  obtain ⟨rfl, rfl⟩ := h
                  obtain ⟨hop, hflight⟩ := resolveOperation_spec hresolve
                  refine ⟨⟨op, (operation?_mem hop).1, hflight⟩, operationId, ?_⟩
                  obtain ⟨interim, hcommits, hinterim⟩ := commits_called hlease hprepared
                  obtain ⟨hresources, hstate⟩ :=
                    rows_applyCommits_interim operationId range hinterim
                  refine ⟨applyCommits operationId range interim, hresources, hstate, ?_⟩
                  show (executeRangeOperation range operationId expected made).1 = _
                  unfold executeRangeOperation
                  rw [hresolve]
                  show applyCommits operationId range (made.commits op) = _
                  rw [hcommits]
                  exact List.foldl_append ..
  | _ => cases h

/-- No provider is called for a destroyed range. -/
theorem Lifecycle.not_destroyed_of_call {range : RangeInstance} {action : Action}
    {call : RangeOperationKind × Attempt} (h : Lifecycle range)
    (hcall : providerCall range action = some call) : range.state ≠ .destroyed := by
  intro hdestroyed
  obtain ⟨⟨op, hop, hflight⟩, -⟩ := providerCall_spec hcall
  have hnone := h.none_in_flight (by rw [hdestroyed]; rfl) op hop
  rw [hnone] at hflight
  cases hflight

/-- Every record is kept, and the range is not destroyed. -/
structure KeepsRecords (range range' : RangeInstance) : Prop where
  recorded : ∀ object, Recorded range.resources object → Recorded range'.resources object
  destroyed : range'.state = .destroyed → range.state = .destroyed

omit [Unicode] in
theorem KeepsRecords.of_eq {range range' : RangeInstance} (hstate : range'.state = range.state)
    (hresources : range'.resources = range.resources) : KeepsRecords range range' :=
  ⟨fun object h => by rwa [hresources], fun h => by rwa [← hstate]⟩

/-- A transaction that does not call the provider keeps every record. -/
theorem keepsRecords_of_no_call {range : RangeInstance} {action : Action}
    (hcall : providerCall range action = none) : KeepsRecords range (range.act action) := by
  have hrange : KeepsRecords range range := .of_eq rfl rfl
  cases action with
  | start principal kind operationId now =>
      refine commitOr_cases (P := KeepsRecords range) hrange fun range' hok => ?_
      obtain ⟨-, -, -, -, rfl⟩ := startOperation_spec hok
      refine ⟨fun _ h => h, fun hdestroyed => ?_⟩
      have hstate : kind.inFlight = .destroyed := hdestroyed
      cases kind <;> cases hstate
  | execute operationId expected attempt =>
      show KeepsRecords range (executeRangeOperation range operationId expected attempt).1
      unfold providerCall at hcall
      unfold executeRangeOperation
      cases hresolve : resolveOperation range operationId expected with
      | error e => exact hrange
      | ok op =>
          show KeepsRecords range (applyCommits operationId range (attempt.commits op))
          unfold Attempt.commits
          cases hlease : (operationStaleness op attempt.pickedUpAt).stale with
          | true =>
              -- the operation is failed without a call, and the rows are retained
              refine ⟨fun object h => h.retained, fun hdestroyed => ?_⟩
              cases hdestroyed
          | false =>
              cases hprepared : attempt.prepared with
              | error exception => exact hrange
              | ok steps => simp [hresolve, hprepared, hlease] at hcall
  | abandon principal operationId force now =>
      refine commitOr_cases (P := KeepsRecords range) hrange fun range' hok => ?_
      obtain ⟨op, -, -, rfl⟩ := abandonOperation_spec hok
      refine ⟨fun object h => h.retained, fun hdestroyed => ?_⟩
      cases hdestroyed
  | createCompetition principal id name challenges =>
      refine commitOr_cases (P := KeepsRecords range) hrange fun range' hok => ?_
      obtain ⟨-, hstate, hresources, -⟩ := createCompetition_spec hok
      exact .of_eq hstate hresources
  | createTeam principal id name =>
      refine commitOr_cases (P := KeepsRecords range) hrange fun range' hok => ?_
      obtain ⟨-, hstate, hresources, -⟩ := createTeam_spec hok
      exact .of_eq hstate hresources
  | deleteTeam principal teamId =>
      refine commitOr_cases (P := KeepsRecords range) hrange fun range' hok => ?_
      obtain ⟨-, hstate, hresources, -⟩ := deleteTeam_spec hok
      exact .of_eq hstate hresources
  | startCompetition principal now =>
      refine commitOr_cases (P := KeepsRecords range) hrange fun range' hok => ?_
      rcases startCompetition_spec hok with ⟨rfl, -⟩ | ⟨-, hstate, -, hresources, -⟩
      · exact hrange
      · refine ⟨fun object h => by rwa [hresources], fun hdestroyed => ?_⟩
        rw [hstate] at hdestroyed
        cases hdestroyed
  | stopCompetition principal now =>
      refine commitOr_cases (P := KeepsRecords range) hrange fun range' hok => ?_
      obtain ⟨-, hresources, -, hstate | ⟨-, hstate⟩⟩ := stopCompetition_spec hok
      · exact .of_eq hstate hresources
      · refine ⟨fun object h => by rwa [hresources], fun hdestroyed => ?_⟩
        rw [hstate] at hdestroyed
        cases hdestroyed

omit [Unicode] in
theorem resources_runBringUp {range : RangeInstance} {operationId : Str} {now : Datetime}
    (result : DeployResult) (reset : Bool) :
    (range.runBringUp operationId result reset now).resources =
      (range.persistResources result.resources).resources := by
  unfold RangeInstance.runBringUp
  cases result.ok <;> cases reset <;> rfl

omit [Unicode] in
theorem state_runBringUp (range : RangeInstance) {operationId : Str} {now : Datetime}
    (result : DeployResult) (reset : Bool) :
    (range.runBringUp operationId result reset now).state =
      if result.ok then .ready else .failed := by
  unfold RangeInstance.runBringUp
  cases result.ok <;> cases reset <;> rfl

/-! ## The invariant -/

/-- Every object is recorded by a live row, and a destroyed range has none. -/
structure Site.Kept (site : Site) : Prop where
  lifecycle : Lifecycle site.range
  recorded : ∀ object ∈ site.objects, Recorded site.range.resources object
  cleared : site.range.state = .destroyed → site.objects = []

section
variable {site : Site} {turn : Turn} {attempt : Attempt}

/-- A bring-up that accounts for what it leaves behind keeps every object recorded. -/
theorem Site.Kept.bringUp {kind : RangeOperationKind} (h : site.Kept) (hkind : kind ≠ .destroy)
    (hcall : providerCall site.range turn.action = some (kind, attempt))
    (htruthful : ∀ result, attempt.bringUp = .returned result →
      result.Truthful (site.step turn).objects)
    (haccounted : ∀ object ∈ (site.step turn).objects, object ∉ site.objects →
      ∃ o ∈ attempt.bringUp.resources, o.Describes object) : (site.step turn).Kept := by
  obtain ⟨-, operationId, before, hresources, hstate, hact⟩ := providerCall_spec hcall
  have hnot := h.lifecycle.not_destroyed_of_call hcall
  have hbefore : ∀ object ∈ (site.step turn).objects, Recorded before.resources object ∨
      ∃ o ∈ attempt.bringUp.resources, o.Describes object := by
    intro object hobject
    by_cases hold : object ∈ site.objects
    · rw [hresources]
      exact .inl (h.recorded object hold)
    · exact .inr (haccounted object hobject hold)
  suffices hrows : (∀ object ∈ (site.step turn).objects,
      Recorded (site.range.act turn.action).resources object) ∧
      (site.range.act turn.action).state ≠ .destroyed from
    ⟨h.lifecycle.act turn.action, hrows.1, fun hdestroyed => absurd hdestroyed hrows.2⟩
  cases hended : attempt.bringUp with
  | returned result =>
      have hending : attempt.ending kind =
          [.broughtUp result (kind = .reset) attempt.endedAt] := by
        cases kind with
        | destroy => exact absurd rfl hkind
        | deploy | reset => simp only [Attempt.ending, hended]
      rw [hended] at hbefore
      rw [hact, hending]
      refine ⟨fun object hobject => ?_, fun hdestroyed => ?_⟩
      · show Recorded (before.runBringUp operationId result (kind = .reset)
          attempt.endedAt).resources object
        rw [resources_runBringUp]
        exact recorded_persistResources
          (fun o ho hk hn => htruthful result hended o ho object hobject hk hn)
          (hbefore object hobject)
      · have hstate := hdestroyed.symm.trans
          (state_runBringUp before result (kind = .reset))
        cases hok : result.ok <;> simp [hok] at hstate
  | raised exception =>
      have hending : attempt.ending kind =
          [.failedUnexpectedly kind exception attempt.endedAt] := by
        cases kind with
        | destroy => exact absurd rfl hkind
        | deploy | reset => simp only [Attempt.ending, hended]
      rw [hended] at hbefore
      rw [hact, hending]
      refine ⟨fun object hobject => ?_, fun hdestroyed => by cases hdestroyed⟩
      rcases hbefore object hobject with hrecorded | ⟨o, ho, -⟩
      · exact hrecorded
      · cases ho
  | crashed =>
      have hending : attempt.ending kind = [] := by
        cases kind with
        | destroy => exact absurd rfl hkind
        | deploy | reset => simp only [Attempt.ending, hended]
      rw [hended] at hbefore
      rw [hact, hending]
      refine ⟨fun object hobject => ?_, fun hdestroyed => hnot (hstate.symm.trans hdestroyed)⟩
      rcases hbefore object hobject with hrecorded | ⟨o, ho, -⟩
      · exact hrecorded
      · cases ho

/-- A teardown leaves the objects it did not remove recorded, and is clean only if there are none. -/
theorem Site.Kept.teardown (h : site.Kept)
    (hcall : providerCall site.range turn.action = some (.destroy, attempt))
    (hremoves : ∀ e ∈ turn.effects, e.removes = true)
    (htruthful : ∀ result, attempt.teardown = .returned result →
      result.Truthful site.range.liveResources (site.step turn).objects)
    (hnamesake : ∀ result, attempt.teardown = .returned result →
      result.RemovesNoNamesake site.range.resources) : (site.step turn).Kept := by
  obtain ⟨-, operationId, before, hresources, hstate, hact⟩ := providerCall_spec hcall
  have hnot := h.lifecycle.not_destroyed_of_call hcall
  have hobjects : (site.step turn).objects = turn.effects.foldl Effect.apply site.objects := by
    show (match providerCall site.range turn.action with
      | some _ => turn.effects.foldl Effect.apply site.objects
      | none => site.objects) = _
    rw [hcall]
  have hbefore : ∀ object ∈ (site.step turn).objects, Recorded before.resources object := by
    intro object hobject
    rw [hobjects] at hobject
    rw [hresources]
    exact h.recorded object (mem_of_foldl_apply hremoves hobject)
  suffices hrows : (∀ object ∈ (site.step turn).objects,
      Recorded (site.range.act turn.action).resources object) ∧
      ((site.range.act turn.action).state = .destroyed → (site.step turn).objects = []) from
    ⟨h.lifecycle.act turn.action, hrows.1, hrows.2⟩
  cases hended : attempt.teardown with
  | returned result =>
      have htruthful := htruthful result hended
      have hnamesake := hnamesake result hended
      rw [RangeInstance.liveResources, ← hresources] at htruthful
      rw [← hresources] at hnamesake
      have hact : site.range.act turn.action =
          before.runDestroy operationId result attempt.endedAt := by
        rw [hact, Attempt.ending, hended]
        rfl
      rw [hact, resources_runDestroy, state_runDestroy]
      refine ⟨fun object hobject =>
        (hbefore object hobject).sweepRows htruthful hnamesake hobject _, fun hdestroyed => ?_⟩
      split at hdestroyed
      · next hclean =>
          refine List.eq_nil_iff_forall_not_mem.mpr fun object hobject => ?_
          exact not_recorded_of_clean hclean htruthful hobject (hbefore object hobject)
      · cases hdestroyed
  | raised exception =>
      have hact : site.range.act turn.action =
          before.failUnexpectedly operationId .destroy exception attempt.endedAt := by
        rw [hact, Attempt.ending, hended]
        rfl
      rw [hact]
      exact ⟨hbefore, fun hdestroyed => by cases hdestroyed⟩
  | crashed =>
      have hact : site.range.act turn.action = before := by
        rw [hact, Attempt.ending, hended]
        rfl
      rw [hact]
      exact ⟨hbefore, fun hdestroyed => absurd (hstate.symm.trans hdestroyed) hnot⟩

/-- One transaction of a truthful provider that accounts for its objects. -/
theorem Site.Kept.step (h : site.Kept) (htruthful : turn.Truthful site)
    (haccounted : turn.Accounted site) : (site.step turn).Kept := by
  unfold Turn.Truthful at htruthful
  unfold Turn.Accounted at haccounted
  cases hcall : providerCall site.range turn.action with
  | none =>
      have hkeeps := keepsRecords_of_no_call hcall
      have hobjects : (site.step turn).objects = site.objects := by
        show (match providerCall site.range turn.action with
          | some _ => turn.effects.foldl Effect.apply site.objects
          | none => site.objects) = _
        rw [hcall]
      refine ⟨h.lifecycle.act turn.action, ?_, ?_⟩
      · intro object hobject
        rw [hobjects] at hobject
        exact hkeeps.recorded object (h.recorded object hobject)
      · intro hdestroyed
        rw [hobjects]
        exact h.cleared (hkeeps.destroyed hdestroyed)
  | some call =>
      obtain ⟨kind, attempt⟩ := call
      rw [hcall] at htruthful haccounted
      cases kind with
      | destroy => exact h.teardown hcall htruthful.1 htruthful.2 haccounted
      | deploy | reset => exact h.bringUp (by simp) hcall htruthful haccounted

end

/-! ## Whole runs -/

/-- A range with a truthful provider has no object left when it is destroyed, if in every transaction
no bring-up leaves an object behind that it did not report and no teardown takes a row out of the live
set on the report about another. -/
theorem no_object_outlives_destroy {range : RangeInstance} {principal : Principal}
    {template : RangeTemplate} {name : Option Str} {id : Str}
    (hcreate : createRange principal template name id = .ok range) (turns : List Turn)
    (htruthful : Along Site.step Turn.Truthful ⟨range, []⟩ turns)
    (haccounted : Along Site.step Turn.Accounted ⟨range, []⟩ turns)
    (hdestroyed : (Site.run ⟨range, []⟩ turns).range.state = .destroyed) :
    (Site.run ⟨range, []⟩ turns).objects = [] := by
  have hnew : Site.Kept ⟨range, []⟩ :=
    ⟨lifecycle_createRange hcreate, fun _ h => absurd h List.not_mem_nil, fun _ => rfl⟩
  have hkept : (Site.run ⟨range, []⟩ turns).Kept :=
    (htruthful.and haccounted).invariant (fun _ _ h hturn => h.step hturn.1 hturn.2) hnew
  exact hkept.cleared hdestroyed

end

/-! ### One network -/

instance (o : ResourceObservation) (object : OwnedObject) : Decidable (o.Describes object) :=
  inferInstanceAs (Decidable (_ ∧ _ ∧ _))

instance (result : DeployResult) (objects : List OwnedObject) :
    Decidable (result.Truthful objects) :=
  inferInstanceAs (Decidable (∀ o ∈ _, ∀ object ∈ _, _ → _ → _))

instance (result : TeardownResult) (handed : List ResourceRow) (objects : List OwnedObject) :
    Decidable (result.Truthful handed objects) :=
  decidable_of_iff
    ((∀ row ∈ handed, ∃ o ∈ result.observations,
        o.kind = row.kind ∧ o.name = row.name ∧ o.externalId = row.externalId) ∧
      ∀ o ∈ result.observations, o.outcome = .removed → ∀ object ∈ objects,
        o.kind = object.kind → referenceOf o.externalId o.name ≠ object.reference)
    ⟨fun h => ⟨h.1, h.2⟩, fun h => ⟨h.covers, h.removed⟩⟩

/-- The network of the sample range. -/
def sampleNetwork : OwnedObject := { kind := .network, name := str "lab" }

/-- A provider call that creates the network and reports it, or removes it. -/
def networkAttempt : Attempt :=
  { sampleAttempt with
    bringUp := .returned { ok := true, resources := [{ kind := .network, name := str "lab" }] }
    teardown := .returned networkRemoved }

/-- The network is deployed and destroyed. -/
def deployAndDestroyNetwork : List Turn :=
  [{ action := .start sampleOperator .deploy (str "op1") sampleClock },
    { action := .execute (str "op1") {} networkAttempt, effects := [.create sampleNetwork] },
    { action := .start sampleOperator .destroy (str "op2") sampleClock },
    { action := .execute (str "op2") {} networkAttempt
      effects := [.remove .network (str "lab")] }]

/-- A worker dies once the network is there; the operation is abandoned and the range destroyed. -/
def crashAndDestroy : List Turn :=
  [{ action := .start sampleOperator .deploy (str "op1") sampleClock },
    { action := .execute (str "op1") {} { sampleAttempt with bringUp := .crashed }
      effects := [.create sampleNetwork] },
    { action := .abandon sampleOperator (str "op1") true sampleClock },
    { action := .start sampleOperator .destroy (str "op2") sampleClock },
    { action := .execute (str "op2") {} sampleAttempt }]

/-- The call of an execution is its own attempt's. -/
theorem providerCall_execute {range : RangeInstance} {operationId : Str} {expected : Expected}
    {attempt : Attempt} {kind : RangeOperationKind}
    (h : (providerCall range (.execute operationId expected attempt)).map Prod.fst = some kind) :
    providerCall range (.execute operationId expected attempt) = some (kind, attempt) := by
  unfold providerCall at h ⊢
  cases hresolve : resolveOperation range operationId expected with
  | error e => simp [hresolve] at h
  | ok op =>
      cases hprepared : attempt.prepared with
      | error exception => simp [hresolve, hprepared] at h
      | ok steps =>
          cases hlease : (operationStaleness op attempt.pickedUpAt).stale with
          | true => simp [hresolve, hprepared, hlease] at h
          | false => simpa [hresolve, hprepared, hlease] using h

section
variable [Unicode] {site : Site} {operationId : Str} {expected : Expected} {attempt : Attempt}
  {effects : List Effect}

theorem truthful_deploy
    (hcall : (providerCall site.range (.execute operationId expected attempt)).map Prod.fst =
      some .deploy)
    (h : ∀ result, attempt.bringUp = .returned result →
      result.Truthful (site.step ⟨.execute operationId expected attempt, effects⟩).objects) :
    Turn.Truthful site ⟨.execute operationId expected attempt, effects⟩ := by
  unfold Turn.Truthful
  rw [providerCall_execute hcall]
  exact h

theorem truthful_destroy
    (hcall : (providerCall site.range (.execute operationId expected attempt)).map Prod.fst =
      some .destroy)
    (hremoves : ∀ e ∈ effects, e.removes = true)
    (h : ∀ result, attempt.teardown = .returned result → result.Truthful site.range.liveResources
      (site.step ⟨.execute operationId expected attempt, effects⟩).objects) :
    Turn.Truthful site ⟨.execute operationId expected attempt, effects⟩ := by
  unfold Turn.Truthful
  rw [providerCall_execute hcall]
  exact ⟨hremoves, h⟩

end

/-- The network is gone when the range is destroyed. -/
theorem deployAndDestroyNetwork_cleared :
    @createRange Unicode.ascii sampleOperator sampleTemplate none (str "r1") = .ok sampleRange ∧
      (@Site.run Unicode.ascii ⟨sampleRange, []⟩ (deployAndDestroyNetwork.take 2)).objects =
        [sampleNetwork] ∧
      (@Site.run Unicode.ascii ⟨sampleRange, []⟩ deployAndDestroyNetwork).objects = [] := by
  let _ := Unicode.ascii
  refine ⟨sampleRange_created, by with_unfolding_all decide, ?_⟩
  refine no_object_outlives_destroy sampleRange_created _ ⟨trivial, ?_, trivial, ?_, trivial⟩
    ⟨trivial, ?_, trivial, ?_, trivial⟩ (by with_unfolding_all decide)
  · refine truthful_deploy (by with_unfolding_all decide) fun result hresult => ?_
    obtain rfl := Ending.returned.inj hresult
    with_unfolding_all decide
  · refine truthful_destroy (by with_unfolding_all decide) (by with_unfolding_all decide) fun result hresult => ?_
    obtain rfl := Ending.returned.inj hresult
    with_unfolding_all decide
  · show Turn.Accounted _ ⟨.execute _ _ _, _⟩
    unfold Turn.Accounted
    rw [@providerCall_execute _ _ _ _ .deploy (by with_unfolding_all decide)]
    intro object hobject _
    refine ⟨{ kind := .network, name := str "lab" }, List.mem_singleton_self _, ?_⟩
    have hobjects : (Site.run ⟨sampleRange, []⟩ (deployAndDestroyNetwork.take 2)).objects =
        [sampleNetwork] := by with_unfolding_all decide
    have hobject : object ∈ [sampleNetwork] := hobjects ▸ hobject
    rw [List.mem_singleton.mp hobject]
    exact ⟨rfl, rfl, rfl⟩
  · show Turn.Accounted _ ⟨.execute _ _ _, _⟩
    unfold Turn.Accounted
    rw [@providerCall_execute _ _ _ _ .destroy (by with_unfolding_all decide)]
    intro result hresult place row _ _ o ho _ _
    obtain rfl := Ending.returned.inj hresult
    rw [List.mem_singleton.mp ho]

/-- The network outlives a clean destroy when the worker that created it was cut off. -/
theorem crashAndDestroy_leaves_network :
    @createRange Unicode.ascii sampleOperator sampleTemplate none (str "r1") = .ok sampleRange ∧
      @Along Site Turn (@Site.step Unicode.ascii) (@Turn.Truthful Unicode.ascii)
        ⟨sampleRange, []⟩ crashAndDestroy ∧
      (@Site.run Unicode.ascii ⟨sampleRange, []⟩ crashAndDestroy).range.state = .destroyed ∧
      (@Site.run Unicode.ascii ⟨sampleRange, []⟩ crashAndDestroy).objects = [sampleNetwork] := by
  let _ := Unicode.ascii
  refine ⟨sampleRange_created, ⟨trivial, ?_, trivial, trivial, ?_, trivial⟩, by with_unfolding_all decide,
    by with_unfolding_all decide⟩
  · refine truthful_deploy (by with_unfolding_all decide) fun result hresult => ?_
    cases hresult
  · refine truthful_destroy (by with_unfolding_all decide) (by with_unfolding_all decide) fun result hresult => ?_
    obtain rfl := Ending.returned.inj hresult
    with_unfolding_all decide

end Secp.Range
