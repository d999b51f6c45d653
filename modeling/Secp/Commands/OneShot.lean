import Secp.Commands.Families
import Secp.Commands.Operations
import Secp.Commands.Retry
import Secp.Logic.Run

/-!
# Authorizations that are used again

Admission compares the newest authorization's hash with the current one and consumes nothing. An
authorization admits one operation as long as nobody asks for a second one; asked for again on the same
hash, from a state that allows it, the second operation starts as well.
-/

namespace Secp.Commands

open Secp.Python Secp.Logic Secp.Range

/-! ## One operation for each authorization -/

/-- Between two operations of a kind there is an authorization of the kind. -/
def OneShot (kind : RangeOperationKind) (events : List LifecycleEvent) : Prop :=
  ∀ before first between second after, events = before ++ first :: between ++ second :: after →
    first.kind = startedEvent kind → second.kind = startedEvent kind →
    ∃ authorization ∈ between, authorization.kind = authorizedEvent kind

/-- The newest authorization of a kind has admitted an operation. -/
def Spent (kind : RangeOperationKind) (events : List LifecycleEvent) : Prop :=
  ∃ before started after, events = before ++ started :: after ∧
    started.kind = startedEvent kind ∧ ∀ later ∈ after, later.kind ≠ authorizedEvent kind

section
variable {kind : RangeOperationKind} {events added : List LifecycleEvent} {event : LifecycleEvent}

/-- No operation of a kind starts on a spent authorization. -/
theorem oneShot_iff : OneShot kind events ↔
    Throughout (fun before event => event.kind = startedEvent kind → ¬Spent kind before) events := by
  constructor
  · rintro h between second after hevents hsecond ⟨before, first, rest, rfl, hfirst, hnone⟩
    obtain ⟨authorization, hmem, hkind⟩ := h before first rest second after hevents hfirst hsecond
    exact hnone authorization hmem hkind
  · intro h before first between second after hevents hfirst hsecond
    by_contra hnone
    refine h (before ++ first :: between) second after hevents hsecond
      ⟨before, first, between, rfl, hfirst, fun later hlater hkind => ?_⟩
    exact hnone ⟨later, hlater, hkind⟩

theorem oneShot_append_iff (h : ∀ e ∈ added, e.kind ≠ startedEvent kind) :
    OneShot kind (events ++ added) ↔ OneShot kind events := by
  rw [oneShot_iff, oneShot_iff]
  exact throughout_append_iff fun e he before hkind => absurd hkind (h e he)

theorem oneShot_snoc_iff (h : event.kind = startedEvent kind) :
    OneShot kind (events ++ [event]) ↔ OneShot kind events ∧ ¬Spent kind events := by
  rw [oneShot_iff, oneShot_iff, throughout_snoc]
  exact and_congr_right fun _ => ⟨fun hspent => hspent h, fun hspent _ => hspent⟩

end

/-! ## Moves that start an operation -/

section
variable [Unicode] {planner : Planner} {rows rows' : ControlPlane} {kind : RangeOperationKind}
  {move : Move}

/-- A move asks for an operation of a kind and every check of its path lets it through: the route's, or
the command's. -/
def Admissible (planner : Planner) (rows : ControlPlane) (kind : RangeOperationKind) : Move → Prop
  | .start principal asked operationId _ =>
      asked = kind ∧ Routed planner rows.range principal kind operationId
  | .submit principal request operationId now =>
      ∃ envelope hash worker compiled, request = operationRequest kind envelope hash worker ∧
        Requested planner rows principal kind envelope hash worker operationId now compiled
  | _ => False

/-- A move that is let through starts an operation of its kind. -/
theorem events_of_admissible (hprovider : rows.range.provider = proxmoxProvider)
    (h : Admissible planner rows kind move) : ∃ started added,
    (rows.step planner move).range.events = rows.range.events ++ [started] ++ added ∧
      started.kind = startedEvent kind ∧ ∀ e ∈ added, e.kind ≠ startedEvent kind := by
  cases move with
  | start principal asked operationId now =>
      obtain ⟨rfl, hrouted⟩ := h
      have hstart : startRoute planner rows principal asked operationId now = .ok _ :=
        (startRoute_eq_ok_iff hprovider).mpr ⟨hrouted, rfl⟩
      rw [step_start hstart]
      exact ⟨_, [], (List.append_nil _).symm, rfl, fun e he => absurd he List.not_mem_nil⟩
  | submit principal request operationId now =>
      obtain ⟨envelope, hash, worker, compiled, rfl, hrequested⟩ := h
      obtain ⟨rows', record, haccepted⟩ := accepted_operationRequest_iff.mpr hrequested
      have hsubmit : (operationRequest kind envelope hash worker).submit planner rows principal
          operationId now = .ok (rows', record) :=
        Command.submit_eq_ok_iff.mpr ⟨compiled, .inr haccepted⟩
      rw [step_submit hsubmit]
      rcases haccepted.records with ⟨hnone, -⟩ | ⟨operation, hsome, started, hstarted, event, hrecords⟩
      · rw [kind_operationRequest, operationKind_operationCommand] at hnone
        cases hnone
      · rw [kind_operationRequest, operationKind_operationCommand] at hsome
        cases hsome
        obtain ⟨line, hstarts⟩ := starts_of_startOperation hstarted
        refine ⟨line, [event], ?_, hstarts.kind_event, fun e he => ?_⟩
        · rw [hrecords.events, hstarts.events]
        · rw [List.mem_singleton.mp he, hrecords.kind_event]
          exact (startedEvent_ne_event kind _).symm
  | _ => exact h.elim

/-- Any other move starts none. -/
theorem events_of_not_admissible (hprovider : rows.range.provider = proxmoxProvider)
    (h : ¬Admissible planner rows kind move) : ∃ added,
    (rows.step planner move).range.events = rows.range.events ++ added ∧
      ∀ e ∈ added, e.kind ≠ startedEvent kind := by
  have heffect := effect_step planner rows move
  generalize rows.step planner move = rows' at heffect ⊢
  cases heffect with
  | quiet hquiet =>
      obtain ⟨added, hevents, hadded⟩ := hquiet.events
      exact ⟨added, hevents, fun e he hkind =>
        hadded e he (hkind ▸ startedEvent_mem_endpointKinds kind)⟩
  | @acted act principal declared range' record hact =>
      obtain ⟨-, -, rfl⟩ := Act.perform_spec hact
      refine ⟨_, rfl, fun e he => ?_⟩
      rw [List.mem_singleton.mp he]
      exact event_act_ne_startedEvent act kind
  | @started principal asked operationId now range' hauthorized hstart =>
      obtain ⟨hstartable, rfl⟩ := startOperation_eq_ok_iff.mp hstart
      have hasked : asked ≠ kind := by
        rintro rfl
        exact h ⟨rfl, hstartable, (requireOperationAuthorized_eq_ok_iff hprovider).mp hauthorized⟩
      refine ⟨_, rfl, fun e he hkind => hasked ?_⟩
      rw [List.mem_singleton.mp he] at hkind
      exact startedEvent_injective hkind
  | @submitted principal request operationId now compiled rows' record haccepted =>
      rcases haccepted.records with ⟨-, event, hrecords⟩ |
        ⟨operation, hsome, started, hstarted, event, hrecords⟩
      · refine ⟨[event], hrecords.events, fun e he => ?_⟩
        rw [List.mem_singleton.mp he, hrecords.kind_event]
        exact (startedEvent_ne_event kind _).symm
      · obtain ⟨line, hstarts⟩ := starts_of_startOperation hstarted
        have hasked : operation ≠ kind := by
          rintro rfl
          obtain ⟨envelope, hash, worker, rfl⟩ := exists_operationRequest hsome
          exact h ⟨envelope, hash, worker, compiled, rfl,
            accepted_operationRequest_iff.mp ⟨rows', record, haccepted⟩⟩
        refine ⟨[line, event], ?_, fun e he => ?_⟩
        · rw [hrecords.events, hstarts.events, List.append_assoc]
          rfl
        · rcases List.mem_cons.mp he with rfl | he
          · rw [hstarts.kind_event]
            exact fun hkind => hasked (startedEvent_injective hkind)
          · rw [List.mem_singleton.mp he, hrecords.kind_event]
            exact (startedEvent_ne_event kind _).symm

/-- The provider of a range never changes. -/
theorem provider_step (move : Move) :
    (rows.step planner move).range.provider = rows.range.provider := by
  have heffect := effect_step planner rows move
  generalize rows.step planner move = rows' at heffect ⊢
  cases heffect with
  | quiet hquiet => exact hquiet.provider
  | acted hact =>
      obtain ⟨-, -, rfl⟩ := Act.perform_spec hact
      rfl
  | started hauthorized hstart =>
      obtain ⟨line, hstarts⟩ := starts_of_startOperation hstart
      exact hstarts.provider
  | submitted haccepted =>
      obtain ⟨range, line, hrecords, ⟨-, rfl⟩ | ⟨operation, start, -, hstarts⟩⟩ := haccepted.events
      · exact hrecords.provider
      · exact hrecords.provider.trans hstarts.provider

/-! ## Runs -/

/-- A move asks for an operation on an authorization that has admitted one already, and is let through:
the requester may start it, the range allows it and still compiles to the authorized hash. -/
def ReusesAuthorization (planner : Planner) (kind : RangeOperationKind) (rows : ControlPlane)
    (move : Move) : Prop :=
  Spent kind rows.range.events ∧ Admissible planner rows kind move

theorem oneShot_step_iff (hprovider : rows.range.provider = proxmoxProvider) :
    OneShot kind (rows.step planner move).range.events ↔
      OneShot kind rows.range.events ∧ ¬ReusesAuthorization planner kind rows move := by
  by_cases h : Admissible planner rows kind move
  · obtain ⟨started, added, hevents, hstarted, hadded⟩ := events_of_admissible hprovider h
    rw [hevents, oneShot_append_iff hadded, oneShot_snoc_iff hstarted]
    exact and_congr_right fun _ => not_congr ⟨fun hspent => ⟨hspent, h⟩, And.left⟩
  · obtain ⟨added, hevents, hadded⟩ := events_of_not_admissible hprovider h
    rw [hevents, oneShot_append_iff hadded]
    exact ⟨fun honce => ⟨honce, fun hreuses => h hreuses.2⟩, And.left⟩

theorem oneShot_run_iff (hprovider : rows.range.provider = proxmoxProvider) (moves : List Move) :
    OneShot kind (rows.run planner moves).range.events ↔ OneShot kind rows.range.events ∧
      Along (ControlPlane.step planner)
        (fun rows move => ¬ReusesAuthorization planner kind rows move) rows moves := by
  induction moves generalizing rows with
  | nil => exact (and_iff_left trivial).symm
  | cons move rest ih =>
      have hrest := @ih (rows.step planner move) ((provider_step move).trans hprovider)
      rw [oneShot_step_iff hprovider] at hrest
      exact hrest.trans and_assoc

/-- An authorization admits one operation in exactly the runs of a Proxmox range in which no move is let
through on an authorization that has admitted one already. -/
theorem authorization_one_shot_iff (hcreated : Created rows)
    (hprovider : rows.range.provider = proxmoxProvider) (kind : RangeOperationKind)
    (moves : List Move) :
    OneShot kind (rows.run planner moves).range.events ↔ Along (ControlPlane.step planner)
      (fun rows move => ¬ReusesAuthorization planner kind rows move) rows moves := by
  obtain ⟨event, hevents, hkind, -⟩ := hcreated.events
  have hnew : OneShot kind rows.range.events := by
    rw [hevents, ← List.nil_append [event], oneShot_append_iff fun e he hstarted => ?_]
    · exact oneShot_iff.mpr throughout_nil
    · rw [List.mem_singleton.mp he] at hstarted
      exact hkind (hstarted ▸ startedEvent_mem_endpointKinds kind)
  rw [oneShot_run_iff hprovider]
  exact and_iff_right hnew

end

/-! ## The lab, destroyed twice -/

/-- A worker whose teardown fails. -/
def failingAttempt : Attempt :=
  { pickedUpAt := sampleClock, prepared := .ok [], reports := [], bringUp := .crashed
    teardown := .raised (str "TimeoutError"), endedAt := sampleClock }

/-- The lab's destroy is authorized, asked for, and fails. -/
def failedDestroy : List Move :=
  authorizeLab labHash ++ [.start labOperator .destroy (str "op1") sampleClock,
    .service (.execute (str "op1") {} failingAttempt) rfl]

def destroyingRange : RangeInstance :=
  (authorizedRange labHash).withOperation
    (newOperation (authorizedRange labHash) labOperator .destroy (str "op1") sampleClock)

def failedRange : RangeInstance :=
  @RangeInstance.act Unicode.ascii destroyingRange (.execute (str "op1") {} failingAttempt)

theorem failedRange_quiet : Quiet destroyingRange failedRange := @quiet_act Unicode.ascii _ _ rfl

theorem failedRange_startable : Startable failedRange labOperator .destroy (str "op2") := by
  refine ⟨labOperator_readable failedRange_quiet.organizationId, labOperator_permitted _, ?_, ?_, ?_⟩
  · have hstate : failedRange.state = .failed := by with_unfolding_all decide
    rw [hstate]
    decide
  · have hidle : (failedRange.operations.all fun op => !op.inFlight) = true := by with_unfolding_all decide
    intro op hop
    simpa using List.all_eq_true.mp hidle op hop
  · exact Option.isNone_iff_eq_none.mp (by with_unfolding_all decide)

/-- The lab's destroy under way. -/
theorem destroyingRange_starts :
    ∃ event, Starts (authorizedRange labHash) destroyingRange .destroy (str "op1") event :=
  starts_of_startOperation (startOperation_eq_ok_iff.mpr ⟨authorizedRange_startable, rfl⟩)

/-- The authorization has admitted the destroy that failed. -/
theorem failedRange_spent : Spent .destroy failedRange.events := by
  obtain ⟨event, hstarts⟩ := destroyingRange_starts
  obtain ⟨added, hevents, hadded⟩ := failedRange_quiet.events
  refine ⟨(authorizedRange labHash).events, event, added, ?_, hstarts.kind_event,
    fun later hlater hkind => ?_⟩
  · rw [hevents, hstarts.events, List.append_assoc]
    rfl
  · exact hadded later hlater (hkind ▸ authorizedEvent_mem_endpointKinds .destroy)

/-- The failed teardown observes nothing. -/
theorem samePlan_failedRange : SamePlan destroyingRange failedRange := by
  obtain ⟨added, hevents, -⟩ := failedRange_quiet.events
  have hadded : added = failedRange.events.drop destroyingRange.events.length := by
    rw [hevents, List.drop_left]
  have hkinds : ((failedRange.events.drop 5).all fun event => event.kind ≠ eventObservation) = true := by
    with_unfolding_all decide
  refine ⟨failedRange_quiet.id, failedRange_quiet.organizationId, failedRange_quiet.name,
    failedRange_quiet.provider, latestEvent_append_of_forall_ne hevents fun event hmem => ?_⟩
  rw [hadded] at hmem
  simpa using List.all_eq_true.mp hkinds event hmem

/-- The range still compiles to what was authorized. -/
theorem failedRange_authorized : @AuthorizedNow Unicode.ascii samplePlanner failedRange .destroy := by
  let _ := Unicode.ascii
  obtain ⟨plan, hhash, hne, hplan⟩ := labHash_spec
  obtain ⟨event, hstarts⟩ := destroyingRange_starts
  have hstarted : event.kind ≠ eventObservation :=
    hstarts.kind_event ▸ startedEvent_ne_eventObservation .destroy
  have hsame : SamePlan observedRange failedRange :=
    (samePlan_authorizedRange.trans (hstarts.samePlan hstarted)).trans samePlan_failedRange
  have hlatest : latestEvent failedRange (authorizedEvent .destroy) =
      latestEvent (authorizedRange labHash) (authorizedEvent .destroy) := by
    refine (failedRange_quiet.latestEvent (authorizedEvent_mem_endpointKinds .destroy)).trans ?_
    exact hstarts.latestEvent_of_ne
      (hstarts.kind_event ▸ (authorizedEvent_ne_startedEvent .destroy .destroy).symm)
  refine ⟨_, hplan _ hsame, ?_⟩
  rw [hhash, familyAuthorization_congr hlatest]
  exact names_destroyAuthorization hne

theorem failedDestroy_run : @ControlPlane.run Unicode.ascii samplePlanner { range := labRange }
    failedDestroy = { range := failedRange, outbox := [str "op1"] } := by
  let _ := Unicode.ascii
  have hstart : startRoute samplePlanner { range := authorizedRange labHash } labOperator .destroy
      (str "op1") sampleClock = .ok { range := destroyingRange, outbox := [str "op1"] } :=
    (startRoute_eq_ok_iff rfl).mpr ⟨authorizedRange_routed, rfl⟩
  unfold failedDestroy ControlPlane.run
  rw [List.foldl_append, show List.foldl _ _ (authorizeLab labHash) = _ from authorized_run [],
    List.foldl_cons, List.foldl_cons, List.foldl_nil, step_start hstart]
  rfl

/-- The first destroy of the lab is the only one of its authorization. -/
theorem lab_destroyed_once : OneShot .destroy (@ControlPlane.run Unicode.ascii samplePlanner
    { range := labRange }
    (authorizeLab labHash ++ [.start labOperator .destroy (str "op1") sampleClock])).range.events := by
  let _ := Unicode.ascii
  refine (authorization_one_shot_iff (labRange_created []) rfl .destroy _).mpr ?_
  refine along_append.mpr ⟨⟨And.right, And.right, And.right, trivial⟩, ?_, trivial⟩
  rintro ⟨⟨before, started, after, hevents, hkind, -⟩, -⟩
  rw [show List.foldl _ _ (authorizeLab labHash) = _ from authorized_run []] at hevents
  have hmem : started ∈ (authorizedRange labHash).events := by
    rw [hevents]
    exact List.mem_append_right _ List.mem_cons_self
  have hnone : startedEvent .destroy ∉ (authorizedRange labHash).events.map LifecycleEvent.kind := by
    rw [kinds_authorizedRange]
    with_unfolding_all decide
  exact hnone (hkind ▸ List.mem_map_of_mem hmem)

/-- The lab's destroy is authorized once and started twice, the second time after the first failed. -/
theorem lab_destroyed_twice : @Created Unicode.ascii { range := labRange } ∧
    labRange.provider = proxmoxProvider ∧
    ¬OneShot .destroy (@ControlPlane.run Unicode.ascii samplePlanner { range := labRange }
      (failedDestroy ++ [.start labOperator .destroy (str "op2") sampleClock])).range.events := by
  let _ := Unicode.ascii
  refine ⟨labRange_created [], rfl, fun honce => ?_⟩
  unfold ControlPlane.run at honce
  rw [List.foldl_append, show List.foldl _ _ failedDestroy = _ from failedDestroy_run,
    List.foldl_cons, List.foldl_nil, oneShot_step_iff failedRange_quiet.provider] at honce
  exact honce.2 ⟨failedRange_spent, rfl, failedRange_startable, failedRange_authorized⟩

end Secp.Commands
