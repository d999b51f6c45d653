import Secp.Commands.Paths

/-!
# The version on a record

A command's record carries the version of its range as it stands when the record is written. The
compare-and-swap of the preflight matched that version unless the command has started an operation in
between, which appends an event of its own.
-/

namespace Secp.Commands

open Secp.Python Secp.Logic Secp.Range

section
variable [Unicode] {planner : Planner} {rows rows' : ControlPlane} {command : Command}
  {principal : Principal} {operationId : Str} {now : Datetime} {compiled : CompiledRangePlan}
  {record : CommandRecord}

/-- The record that was returned and the event that was stored for it carry a version. -/
structure CarriesVersion (command : Command) (range : RangeInstance) (record : CommandRecord)
    (version : Int) : Prop where
  returned : record.acceptedVersion = version
  stored : ∃ event, range.events.getLast? = some event ∧ event.kind = command.kind.event ∧
    event.data.field (str "accepted_version") = .int version

/-- What is written is the version of the range the command is accepted on. -/
theorem carriesVersion_accept (command : Command) (range : RangeInstance) (principal : Principal)
    (checked : Preflight) (operationId : Option Str) (now : Datetime) :
    CarriesVersion command (command.accept range principal checked operationId now).1
      (command.record range principal checked operationId) range.eventSequence := by
  refine ⟨rfl, _, List.getLast?_concat, rfl, ?_⟩
  simp [Command.data, Json.field, Json.get?, Dict.get?]

theorem CarriesVersion.unique {range : RangeInstance} {version version' : Int}
    (h : CarriesVersion command range record version)
    (h' : CarriesVersion command range record version') : version = version' :=
  h.returned.symm.trans h'.returned

/-- An accepted command carries the version its envelope named, and one more if it has started an
operation. -/
theorem Command.Accepted.carriesVersion (h : command.Accepted planner rows principal operationId now
    compiled rows' record) :
    CarriesVersion command rows'.range record (command.envelope.expectedVersion +
      if command.kind.operationKind.isSome then 1 else 0) := by
  rw [h.identified.version]
  rcases h.effect with ⟨hkind, rfl, rfl⟩ | ⟨operation, hkind, started, hstarted, rfl, rfl⟩
  · rw [hkind]
    simpa using carriesVersion_accept command rows.range principal _ none now
  · -- the start of the operation is an event before the record
    obtain ⟨-, -, -, -, rfl⟩ := startOperation_spec hstarted
    rw [hkind]
    exact carriesVersion_accept command _ principal _ (some operationId) now

/-- The version of an acceptance is the one that was matched exactly when nothing was started. -/
theorem Command.Accepted.carriesVersion_iff (h : command.Accepted planner rows principal operationId
    now compiled rows' record) :
    CarriesVersion command rows'.range record command.envelope.expectedVersion ↔
      command.kind.operationKind = none := by
  have hcarries := h.carriesVersion
  cases hkind : command.kind.operationKind with
  | none =>
      rw [hkind] at hcarries
      simpa using hcarries
  | some operation =>
      rw [hkind] at hcarries
      simp only [reduceCtorEq, iff_false]
      intro hmatched
      have hsame : command.envelope.expectedVersion =
          command.envelope.expectedVersion + if (some operation).isSome then 1 else 0 :=
        hmatched.unique hcarries
      simp at hsame

/-! ## Runs -/

/-- If a move is a command that is accepted, its record carries the version its envelope named. -/
def RecordsMatched (planner : Planner) (rows : ControlPlane) : Move → Prop
  | .submit principal request operationId now => ∀ rows' record,
      request.submit planner rows principal operationId now = .ok (rows', record) →
      record.deduplicated = false →
      CarriesVersion request.command rows'.range record request.command.envelope.expectedVersion
  | _ => True

/-- If a move is a command that is accepted, it is of a kind that starts no operation. -/
def StartsNothing (planner : Planner) (rows : ControlPlane) : Move → Prop
  | .submit principal request operationId now => ∀ rows' record,
      request.submit planner rows principal operationId now = .ok (rows', record) →
      record.deduplicated = false → request.command.kind.operationKind = none
  | _ => True

theorem recordsMatched_iff (move : Move) :
    RecordsMatched planner rows move ↔ StartsNothing planner rows move := by
  cases move with
  | submit principal request operationId now =>
      refine forall_congr' fun rows' => forall_congr' fun record => forall_congr' fun hsubmit =>
        forall_congr' fun hnew => ?_
      obtain ⟨compiled, ⟨-, hanswered⟩ | haccepted⟩ := Command.submit_eq_ok_iff.mp hsubmit
      · rw [hanswered.deduplicated] at hnew
        cases hnew
      · exact haccepted.carriesVersion_iff
  | _ => exact Iff.rfl

/-- The recorded versions of a run are the versions that were matched exactly when none of its accepted
commands starts an operation. -/
theorem recorded_versions_iff (moves : List Move) :
    Along (ControlPlane.step planner) (RecordsMatched planner) rows moves ↔
      Along (ControlPlane.step planner) (StartsNothing planner) rows moves := by
  have hsame : RecordsMatched planner = StartsNothing planner := by
    funext rows move
    exact propext (recordsMatched_iff move)
  rw [hsame]

end

/-! ## The lab's destroy, generated and asked for -/

/-- The lab's destroy plan is to be generated. -/
def generateLab : Request := .generateDestroyPlan ⟨str "k1", 4, 1, str "t", str "f"⟩ labHash

/-- The lab's destroy is asked for, at the version its generation left. -/
def destroyLab : Request :=
  .requestDestroyExecution ⟨str "k2", 5, 1, str "t", str "f"⟩ labHash labAssertion

/-- What the generation is recorded with. -/
def generatedWith (plan : @Proxmox.CompiledRangePlan Unicode.ascii) : @Preflight Unicode.ascii :=
  @checkedOf Unicode.ascii .generateDestroyPlan ⟨str "k1", 4, 1, str "t", str "f"⟩ none
    (@CompiledRangePlan.mk Unicode.ascii sampleRecorded plan)

/-- The lab with its destroy plan generated. -/
def generatedRange (plan : @Proxmox.CompiledRangePlan Unicode.ascii) : RangeInstance :=
  (@Command.accept Unicode.ascii (@Request.command Unicode.ascii generateLab) (authorizedRange labHash)
    labOperator (generatedWith plan) none sampleClock).1

def generatedRows (plan : @Proxmox.CompiledRangePlan Unicode.ascii) : ControlPlane :=
  { range := generatedRange plan, workers := [labWorker] }

/-- No command holds a key in the authorized lab. -/
theorem keyHolders_authorizedRange (key : Str) : keyHolders (authorizedRange labHash) key = [] := by
  refine List.eq_nil_iff_forall_not_mem.mpr fun holder hholder => ?_
  obtain ⟨hmem, hkind, -⟩ := mem_keyHolders.mp hholder
  have hkinds := List.mem_map_of_mem (f := LifecycleEvent.kind) hmem
  rw [kinds_authorizedRange, hkind] at hkinds
  revert hkinds
  cases holder.1 <;> with_unfolding_all decide

section
variable {plan : @Proxmox.CompiledRangePlan Unicode.ascii}

theorem generateLab_accepted (hhash : @familyHash Unicode.ascii .destroy plan = labHash)
    (hplan : ∀ range, SamePlan observedRange range → @compilePlan Unicode.ascii samplePlanner range =
      .ok (.plan (@CompiledRangePlan.mk Unicode.ascii sampleRecorded plan))) :
    @Command.Accepted Unicode.ascii (@Request.command Unicode.ascii generateLab) samplePlanner
      authorizedRows labOperator (str "op0") sampleClock
      (@CompiledRangePlan.mk Unicode.ascii sampleRecorded plan) (generatedRows plan)
      (@Command.record Unicode.ascii (@Request.command Unicode.ascii generateLab)
        (authorizedRange labHash) labOperator (generatedWith plan) none) := by
  let _ := Unicode.ascii
  have hcompiles := hplan (authorizedRange labHash) samePlan_authorizedRange
  obtain ⟨horganization, hgeneration⟩ := ownership_of_compilePlan hcompiles
  refine ⟨⟨labOperator_readable rfl, labOperator_permitted _, rfl, hcompiles, ?_,
    ⟨rfl, rfl, horganization, hgeneration.symm⟩, rfl⟩, keyHolders_authorizedRange _, ?_, rfl,
    Command.conclude_record rfl⟩
  · intro hash hdeclared
    rw [← Option.some.inj hdeclared]
    exact hhash.symm
  · refine ⟨List.mem_cons_self, ?_, ?_, ?_⟩
    · intro hkind
      cases hkind
    · intro hkind
      cases hkind
    · intro assertion hworker
      cases hworker

/-- The record of the generation is the lab's newest event. -/
theorem generatedRange_generated (hhash : @familyHash Unicode.ascii .destroy plan = labHash) :
    @Generated Unicode.ascii (generatedRange plan) .generateDestroyPlan labHash := by
  let _ := Unicode.ascii
  obtain ⟨event, hrecords⟩ := generateLab.command.accept_records (authorizedRange labHash) labOperator
    (generatedWith plan) none sampleClock
  have hkind : event.kind = CommandKind.generateDestroyPlan.event := hrecords.kind_event
  have hevents : commandEvents (generatedRange plan) .generateDestroyPlan =
      event :: commandEvents (authorizedRange labHash) .generateDestroyPlan := by
    unfold commandEvents
    rw [show (generatedRange plan).events = _ from hrecords.events, List.filter_append,
      List.filter_cons, if_pos (decide_eq_true hkind), List.reverse_append]
    rfl
  have hlast : (generatedRange plan).events.getLast? = some event := by
    rw [show (generatedRange plan).events = _ from hrecords.events]
    exact List.getLast?_concat
  obtain ⟨hdata, hsequence⟩ := Command.last_of_accept hlast
  have hrecord : recordFromEvent (generatedRange plan) .generateDestroyPlan event false =
      .ok (generateLab.command.record (authorizedRange labHash) labOperator (generatedWith plan)
        none) :=
    Command.recordFromEvent_data rfl rfl hdata hsequence false
  refine ⟨generateLab.command.record (authorizedRange labHash) labOperator (generatedWith plan) none,
    ?_, congrArg Json.str hhash⟩
  unfold latestCommand
  rw [hevents]
  exact except_bind_of_ok hrecord

theorem destroyLab_requested (hhash : @familyHash Unicode.ascii .destroy plan = labHash)
    (hne : labHash ≠ [])
    (hplan : ∀ range, SamePlan observedRange range → @compilePlan Unicode.ascii samplePlanner range =
      .ok (.plan (@CompiledRangePlan.mk Unicode.ascii sampleRecorded plan))) :
    @Requested Unicode.ascii samplePlanner (generatedRows plan) labOperator .destroy
      ⟨str "k2", 5, 1, str "t", str "f"⟩ labHash labAssertion (str "op1") sampleClock
      (@CompiledRangePlan.mk Unicode.ascii sampleRecorded plan) := by
  let _ := Unicode.ascii
  have haccepted := generateLab_accepted hhash hplan
  have hsame : SamePlan observedRange (generatedRange plan) :=
    samePlan_authorizedRange.trans haccepted.samePlan
  have hcompiles := hplan _ hsame
  obtain ⟨horganization, hgeneration⟩ := ownership_of_compilePlan hcompiles
  obtain ⟨event, hrecords⟩ := generateLab.command.accept_records (authorizedRange labHash) labOperator
    (generatedWith plan) none sampleClock
  have hlatest : ∀ kind, event.kind ≠ kind →
      latestEvent (generatedRange plan) kind = latestEvent (authorizedRange labHash) kind :=
    fun kind hkind => hrecords.latestEvent_of_ne hkind
  have hkind : event.kind = CommandKind.generateDestroyPlan.event := hrecords.kind_event
  refine ⟨⟨labOperator_readable rfl, labOperator_permitted _, List.mem_cons_self,
    fun _ h => absurd h List.not_mem_nil, rfl⟩, rfl, hcompiles, hhash.symm,
    ⟨rfl, rfl, horganization, hgeneration.symm⟩, rfl, ?_, ?_, ?_, ?_, ?_, ?_⟩
  · refine List.eq_nil_iff_forall_not_mem.mpr fun holder hholder => ?_
    obtain ⟨hmem, hholderKind, hkey⟩ := mem_keyHolders.mp hholder
    rw [show (generatedRows plan).range.events = _ from hrecords.events] at hmem
    rcases List.mem_append.mp hmem with hmem | hmem
    · have hheld := mem_keyHolders.mpr ⟨hmem, hholderKind, hkey⟩
      rw [keyHolders_authorizedRange] at hheld
      exact absurd hheld List.not_mem_nil
    · rw [List.mem_singleton.mp hmem, hrecords.key] at hkey
      revert hkey
      with_unfolding_all decide
  · show RecordedBinding.freshness sampleRecorded sampleClock = .fresh
    decide
  · exact authorizedRows_serves
  · show Generated (generatedRange plan) .generateDestroyPlan (familyHash .destroy plan)
    rw [hhash]
    exact generatedRange_generated hhash
  · have happroval : familyApproval .destroy (generatedRange plan) =
        familyApproval .destroy (approvedRange labHash) := by
      refine familyApproval_congr ((hlatest _ ?_).trans (latestEvent_recordEvent_of_ne ?_))
      · rw [hkind]
        exact (approvedEvent_ne_event _ _).symm
      · exact authorizedEvent_ne_approvedEvent .destroy .destroy
    rw [hhash]
    exact (congrArg (ApprovalRecord.names · labHash) happroval).trans (names_destroyPlanApproval hne)
  · have hauthorization : familyAuthorization .destroy (generatedRange plan) =
        familyAuthorization .destroy (authorizedRange labHash) := by
      refine familyAuthorization_congr (hlatest _ ?_)
      rw [hkind]
      exact (authorizedEvent_ne_event _ _).symm
    rw [hhash]
    exact (congrArg (ApprovalRecord.names · labHash) hauthorization).trans
      (names_destroyAuthorization hne)

end

/-- The lab as its worker, its operator and the authorized destroy made it. -/
def generateThenDestroy : List Move :=
  authorizeLab labHash ++ [.submit labOperator generateLab (str "op0") sampleClock,
    .submit labOperator destroyLab (str "op1") sampleClock]

/-- The destroy of the lab is asked for at version 5 and recorded with version 6. -/
theorem destroyLab_version_moved :
    @Created Unicode.ascii { range := labRange, workers := [labWorker] } ∧
      ¬Along (@ControlPlane.step Unicode.ascii samplePlanner)
        (@RecordsMatched Unicode.ascii samplePlanner) { range := labRange, workers := [labWorker] }
        generateThenDestroy := by
  let _ := Unicode.ascii
  refine ⟨labRange_created _, fun hmatched => ?_⟩
  obtain ⟨plan, hhash, hne, hplan⟩ := labHash_spec
  have hgenerated := Command.submit_eq_ok_iff.mpr ⟨_, .inr (generateLab_accepted hhash hplan)⟩
  obtain ⟨rows', record, haccepted⟩ :=
    accepted_operationRequest_iff.mpr (destroyLab_requested hhash hne hplan)
  have hlast := (along_append.mp hmatched).2
  rw [show List.foldl _ _ (authorizeLab labHash) = authorizedRows from authorized_run [labWorker]]
    at hlast
  have hdestroy := hlast.2.1
  rw [show ControlPlane.step samplePlanner _ _ = generatedRows plan from step_submit hgenerated]
    at hdestroy
  have hcarries := hdestroy rows' record (Command.submit_eq_ok_iff.mpr ⟨_, .inr haccepted⟩)
    haccepted.deduplicated
  have hsame := hcarries.unique haccepted.carriesVersion
  revert hsame
  decide

end Secp.Commands
