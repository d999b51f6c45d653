import Mathlib.Data.Fintype.EquivFin
import Mathlib.Data.Set.Finite.Basic
import Secp.Commands.OneShot
import Secp.Logic.Run

/-!
# What the plain routes let through

A plain route asks for an authorization that names the current hash. The command of the same operation
asks for more: a fresh observation, the records of the plan, a standing approval and a healthy worker. An
operation a route starts would have been admitted as a request exactly when those are in place.
-/

namespace Secp.Commands

open Secp.Python Secp.Logic Secp.Range

section
variable [Unicode] {planner : Planner} {rows rows' : ControlPlane} {principal : Principal}
  {kind : RangeOperationKind} {operationId : Str} {now : Datetime}

/-- The command of a kind would be accepted now, asked for in some way and for some worker. -/
def RequestAdmitted (planner : Planner) (rows : ControlPlane) (principal : Principal)
    (kind : RangeOperationKind) (now : Datetime) : Prop :=
  ∃ envelope hash worker operationId rows' record, Serves rows worker ∧
    (operationRequest kind envelope hash worker).submit planner rows principal operationId now =
      .ok (rows', record) ∧ record.deduplicated = false

/-- What the command asks for and the route does not. -/
structure CommandReady (planner : Planner) (rows : ControlPlane) (kind : RangeOperationKind)
    (now : Datetime) (compiled : CompiledRangePlan) : Prop where
  compiles : compilePlan planner rows.range = .ok (.plan compiled)
  fresh : compiled.recorded.freshness now = .fresh
  documented : Documented kind rows.range compiled
  approved : ApprovalRecord.names (familyApproval kind rows.range)
    (familyHash kind compiled.plan) = true
  worker : ∃ worker, Serves rows worker

omit [Unicode] in
/-- There is always a key that no command was recorded under. -/
theorem exists_unused_key (range : RangeInstance) : ∃ key, keyHolders range key = [] := by
  have hfinite : {key : Str | Json.str key ∈ range.events.map fun event =>
      event.data.field (str "idempotency_key")}.Finite :=
    Set.Finite.preimage (fun _ _ _ _ h => Json.str.inj h) (List.finite_toSet _)
  obtain ⟨key, hkey⟩ := hfinite.exists_notMem
  refine ⟨key, List.eq_nil_iff_forall_not_mem.mpr fun ⟨other, event⟩ hholder => hkey ?_⟩
  obtain ⟨hevent, -, hheld⟩ := mem_keyHolders.mp hholder
  exact List.mem_map.mpr ⟨event, hevent, hheld⟩

/-- An admitted request found everything in place. -/
theorem requested_of_requestAdmitted (h : RequestAdmitted planner rows principal kind now) :
    ∃ envelope hash worker operationId compiled, Requested planner rows principal kind envelope hash
      worker operationId now compiled := by
  obtain ⟨envelope, hash, worker, operationId, rows', record, -, hsubmit, hfresh⟩ := h
  obtain ⟨compiled, ⟨rfl, hanswered⟩ | haccepted⟩ := Command.submit_eq_ok_iff.mp hsubmit
  · rw [hanswered.deduplicated] at hfresh
    cases hfresh
  · exact ⟨envelope, hash, worker, operationId, compiled,
      accepted_operationRequest_iff.mp ⟨rows', record, haccepted⟩⟩

/-- Where a route starts an operation, the command of its kind would have been admitted if, and only if,
what it asks for beyond the route is in place. -/
theorem requestAdmitted_iff (hprovider : rows.range.provider = proxmoxProvider)
    (hstart : startRoute planner rows principal kind operationId now = .ok rows') :
    RequestAdmitted planner rows principal kind now ↔
      ∃ compiled, CommandReady planner rows kind now compiled := by
  obtain ⟨hrouted, -⟩ := (startRoute_eq_ok_iff hprovider).mp hstart
  constructor
  · intro h
    obtain ⟨envelope, hash, worker, operationId', compiled, hrequested⟩ :=
      requested_of_requestAdmitted h
    exact ⟨compiled, hrequested.compiles, hrequested.fresh, hrequested.documented,
      hrequested.approved, worker, hrequested.serves⟩
  · rintro ⟨compiled, hready⟩
    obtain ⟨key, hunused⟩ := exists_unused_key rows.range
    obtain ⟨worker, hserves⟩ := hready.worker
    obtain ⟨authorized, hcompiles, hauthorized⟩ := hrouted.authorized
    have hsame := hcompiles.symm.trans hready.compiles
    cases hsame
    obtain ⟨horganization, hgeneration⟩ := ownership_of_compilePlan hready.compiles
    -- the envelope an operator who has read the range would write
    let envelope : CommandEnvelope :=
      ⟨key, rows.range.eventSequence, compiled.recorded.binding.generation,
        compiled.recorded.binding.observation.identity.targetId,
        compiled.recorded.binding.observation.identity.clusterFingerprint⟩
    have hrequested : Requested planner rows principal kind envelope (familyHash kind compiled.plan)
        worker operationId now compiled :=
      { startable := hrouted.startable
        provider := hprovider
        compiles := hready.compiles
        declared := rfl
        scope := ⟨rfl, rfl, horganization, hgeneration.symm⟩
        version := rfl
        unused := hunused
        fresh := hready.fresh
        serves := hserves
        documented := hready.documented
        approved := hready.approved
        authorized := hauthorized }
    obtain ⟨rows', record, haccepted⟩ := accepted_operationRequest_iff.mpr hrequested
    exact ⟨envelope, _, worker, operationId, rows', record, hserves,
      Command.submit_eq_ok_iff.mpr ⟨compiled, .inr haccepted⟩, haccepted.deduplicated⟩

/-- If a move is a plain route that starts an operation, the rows it starts from meet a condition. -/
def StartedOn (planner : Planner)
    (condition : ControlPlane → Principal → RangeOperationKind → Datetime → Prop)
    (rows : ControlPlane) : Move → Prop
  | .start principal kind operationId now =>
      (∃ rows', startRoute planner rows principal kind operationId now = .ok rows') →
        condition rows principal kind now
  | _ => True

theorem startedOn_requestAdmitted_iff (hprovider : rows.range.provider = proxmoxProvider)
    {move : Move} :
    StartedOn planner (RequestAdmitted planner) rows move ↔
      StartedOn planner (fun rows _ kind now => ∃ compiled, CommandReady planner rows kind now compiled)
        rows move := by
  cases move with
  | start principal kind operationId now =>
      exact forall_congr' fun ⟨rows', hstart⟩ => requestAdmitted_iff hprovider hstart
  | _ => exact Iff.rfl

/-- In a run of a Proxmox range every operation the plain routes start would have been admitted as a
request, if, and only if, at every such start what the command asks for beyond the route is in place. -/
theorem routes_admitted_iff (hprovider : rows.range.provider = proxmoxProvider) (moves : List Move) :
    Along (ControlPlane.step planner) (StartedOn planner (RequestAdmitted planner)) rows moves ↔
      Along (ControlPlane.step planner) (StartedOn planner
        fun rows _ kind now => ∃ compiled, CommandReady planner rows kind now compiled) rows moves := by
  induction moves generalizing rows with
  | nil => exact Iff.rfl
  | cons move rest ih =>
      exact and_congr (startedOn_requestAdmitted_iff hprovider)
        (ih ((provider_step move).trans hprovider))

end

/-! ## The lab's destroy, never generated -/

def labWorker : EnrolledWorker := ⟨str "o", str "w", str "healthy", str "r"⟩

def labAssertion : WorkerAssertion := ⟨str "w", str "r"⟩

/-- The lab with its destroy authorized and a healthy worker of its organization. -/
def authorizedRows : ControlPlane := { range := authorizedRange labHash, workers := [labWorker] }

theorem authorizedRows_starts : ∃ rows', @startRoute Unicode.ascii samplePlanner authorizedRows
    labOperator .destroy (str "op1") sampleClock = .ok rows' := by
  let _ := Unicode.ascii
  exact ⟨_, (startRoute_eq_ok_iff rfl).mpr ⟨authorizedRange_routed, rfl⟩⟩

theorem authorizedRows_serves : Serves authorizedRows labAssertion := by
  refine ⟨labWorker, List.filter_eq_self.mpr fun row hrow => ?_, rfl, rfl⟩
  rw [List.mem_singleton.mp hrow]
  exact decide_eq_true ⟨rfl, rfl⟩

/-- Nobody generated the lab's destroy plan. -/
theorem authorizedRange_not_generated (hash : Str) :
    ¬@Generated Unicode.ascii (authorizedRange labHash) .generateDestroyPlan hash := by
  have hnone : commandEvents (authorizedRange labHash) .generateDestroyPlan = [] := by
    refine List.eq_nil_iff_forall_not_mem.mpr fun event hevent => ?_
    obtain ⟨hmem, hkind⟩ := mem_commandEvents.mp hevent
    have hkinds := List.mem_map_of_mem (f := LifecycleEvent.kind) hmem
    rw [kinds_authorizedRange, hkind] at hkinds
    revert hkinds
    with_unfolding_all decide
  rintro ⟨record, hlatest, -⟩
  unfold latestCommand at hlatest
  rw [hnone] at hlatest
  cases hlatest

/-- The route destroys the lab, though its destroy plan was never generated and the command would have
refused every request for it. -/
theorem lab_destroy_unrecorded : @Created Unicode.ascii { range := labRange, workers := [labWorker] } ∧
    (@ControlPlane.run Unicode.ascii samplePlanner { range := labRange, workers := [labWorker] }
      (authorizeLab labHash)) = authorizedRows ∧
    Serves authorizedRows labAssertion ∧
    (∃ rows', @startRoute Unicode.ascii samplePlanner authorizedRows labOperator .destroy (str "op1")
      sampleClock = .ok rows') ∧
    ¬@RequestAdmitted Unicode.ascii samplePlanner authorizedRows labOperator .destroy sampleClock := by
  let _ := Unicode.ascii
  refine ⟨labRange_created _, authorized_run _, authorizedRows_serves, authorizedRows_starts,
    fun hadmitted => ?_⟩
  obtain ⟨_, _, _, _, compiled, hrequested⟩ := requested_of_requestAdmitted hadmitted
  exact authorizedRange_not_generated _ hrequested.documented

/-- In the run that authorizes and starts the lab's destroy, the route let through what the command would
not have. -/
theorem lab_destroy_not_admitted : ¬Along (@ControlPlane.step Unicode.ascii samplePlanner)
    (@StartedOn Unicode.ascii samplePlanner (@RequestAdmitted Unicode.ascii samplePlanner))
    { range := labRange, workers := [labWorker] }
    (authorizeLab labHash ++ [.start labOperator .destroy (str "op1") sampleClock]) := by
  let _ := Unicode.ascii
  intro hadmitted
  have hready := along_append.mp ((routes_admitted_iff rfl _).mp hadmitted)
  obtain ⟨compiled, hcompiled⟩ := by
    have hlast := hready.2.1
    rw [show List.foldl _ _ (authorizeLab labHash) = _ from authorized_run [labWorker]] at hlast
    exact hlast authorizedRows_starts
  exact authorizedRange_not_generated _ hcompiled.documented

end Secp.Commands
