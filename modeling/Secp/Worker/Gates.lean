import Mathlib.Data.List.Dedup
import Secp.Logic.StateExcept
import Secp.Python.Collections

/-!
# The apply gate and the destroy gate

Each gate is a sequence of refusals over records that were loaded before, with an authorization at its
end. Both ask for the operator's role only of a worker that consumed the controlled-live queue, so what
they let through has everything they ask for and need not have come from that queue.
-/

namespace Secp.Worker

open Secp.Python Secp.Logic

/-- A coded refusal. -/
structure GateRefusal (κ : Type) where
  code : κ
  detail : Str

/-- Organization, target, range and generation. -/
abbrev OwnershipScope : Type := Str × Str × Str × Int

/-- `INFRASTRUCTURE_OPERATOR_ROLE`. -/
def infrastructureOperatorRole : Str := str "infrastructure_operator"

/-- Who is asking. -/
structure WorkerIdentity where
  workerId : Str
  role : Str
  release : Str
  queue : Str

/-- An ordinary worker that consumed the controlled-live queue. -/
def WorkerIdentity.intrudes (worker : WorkerIdentity) (controlledLiveQueue : Str) : Bool :=
  worker.queue = controlledLiveQueue && worker.role ≠ infrastructureOperatorRole

/-! ## The apply gate -/

inductive ApplyRefusalCode where
  | noPreparedPlan
  | changeSetHashMismatch
  | staleBinaryPlan
  | allocationDrift
  | desiredStateDrift
  | ownershipScopeMismatch
  | workerIdentityMismatch
  | workerReleaseMismatch
  | targetMismatch
  | remoteStateLockUnavailable
  | credentialUnresolvable
  | ordinaryWorkerOnControlledLivePath
  | discoveryStale
  | onboardingNotCurrent
  | eligibilityNotCurrent
  | reservationsNotPersisted
  deriving DecidableEq

/-- What a human approved. -/
structure ApprovedPlanBinding where
  changeSetHash : Str
  desiredStateHash : Str
  planDocumentHash : Str
  allocations : Dict Str Str
  ownershipScope : OwnershipScope
  targetId : Str
  clusterFingerprint : Str
  workerId : Str
  workerRelease : Str

/-- What regenerating the plan produced right now. -/
structure RegeneratedPlan where
  changeSetHash : Str
  desiredStateHash : Str
  allocations : Dict Str Str
  ownershipScope : OwnershipScope
  targetId : Str
  clusterFingerprint : Str
  binaryPlanPresent : Bool := true
  binaryPlanFingerprint : Str := []

/-- Prerequisites; `none` is a check that was never made. -/
structure AuthoritativeState where
  onboardingCurrent : Option Bool := none
  eligibilityPassing : Option Bool := none
  discoveryFresh : Option Bool := none
  reservationsPersisted : Option Bool := none
  remoteStateLockHeld : Option Bool := none
  credentialResolved : Option Bool := none

structure ApplyAuthorization where
  changeSetHash : Str
  desiredStateHash : Str
  ownershipScope : OwnershipScope
  checksPassed : List Str

/-- The keys under which two maps differ. -/
def differingKeys (a b : Dict Str Str) : List Str :=
  sortedBy id ((a.map Prod.fst ++ b.map Prod.fst).dedup.filter fun key => a.get? key ≠ b.get? key)

def prerequisiteRefusal (value : Option Bool) (code : ApplyRefusalCode) (label : Str) :
    GateRefusal ApplyRefusalCode :=
  ⟨code, label ++ str " is " ++
    if value = some false then str "not satisfied" else str "unknown (never checked)"⟩

section
variable [Unicode]

def ordinaryWorkerDetail (worker : WorkerIdentity) : Str :=
  str "worker role " ++ strRepr worker.role ++ str " consumed the controlled-live queue; only " ++
    strRepr infrastructureOperatorRole ++ str " may"

def releaseDetail (worker : WorkerIdentity) (approvedRelease : Str) : Str :=
  str "worker release " ++ strRepr worker.release ++ str " differs from the approved " ++
    strRepr approvedRelease

/-- `evaluate_apply_gate`. -/
def evaluateApplyGate (worker : WorkerIdentity) (approved : ApprovedPlanBinding)
    (regenerated : Option RegeneratedPlan) (state : AuthoritativeState)
    (controlledLiveQueue : Str) : Except (GateRefusal ApplyRefusalCode) ApplyAuthorization := do
  ensure (!worker.intrudes controlledLiveQueue)
    ⟨.ordinaryWorkerOnControlledLivePath, ordinaryWorkerDetail worker⟩
  ensure (worker.workerId = approved.workerId)
    ⟨.workerIdentityMismatch, str "this worker is not the worker the approved plan is bound to"⟩
  ensure (worker.release = approved.workerRelease)
    ⟨.workerReleaseMismatch, releaseDetail worker approved.workerRelease⟩
  ensure (state.onboardingCurrent = some true)
    (prerequisiteRefusal state.onboardingCurrent .onboardingNotCurrent (str "onboarding"))
  ensure (state.eligibilityPassing = some true)
    (prerequisiteRefusal state.eligibilityPassing .eligibilityNotCurrent (str "eligibility"))
  ensure (state.discoveryFresh = some true)
    (prerequisiteRefusal state.discoveryFresh .discoveryStale (str "discovery freshness"))
  ensure (state.reservationsPersisted = some true)
    (prerequisiteRefusal state.reservationsPersisted .reservationsNotPersisted
      (str "persisted reservations"))
  ensure (state.remoteStateLockHeld = some true)
    ⟨.remoteStateLockUnavailable,
      str "the remote-state lock is not held; a concurrent apply could corrupt state"⟩
  ensure (state.credentialResolved = some true)
    ⟨.credentialUnresolvable,
      str "the operation-specific provider credential could not be resolved"⟩
  match regenerated with
  | none =>
      throw ⟨.noPreparedPlan,
        str "no prepared plan was produced; there is nothing whose hash could be approved"⟩
  | some plan => do
      ensure plan.binaryPlanPresent
        ⟨.staleBinaryPlan, str ("the prepared binary plan is no longer present; re-plan and " ++
          "re-approve rather than applying a plan that cannot be shown to be the approved one")⟩
      ensure (plan.changeSetHash = approved.changeSetHash)
        ⟨.changeSetHashMismatch,
          str "the regenerated plan's canonical change set differs from the approved one"⟩
      -- equal actions on equal addresses may still have other attributes
      ensure (plan.desiredStateHash = approved.desiredStateHash)
        ⟨.desiredStateDrift, str ("the authoritative desired state differs from the reviewed plan " ++
          "even though the change set matches; the approved actions would create different " ++
          "resources")⟩
      let differing := differingKeys plan.allocations approved.allocations
      ensure differing.isEmpty
        ⟨.allocationDrift, natStr differing.length ++ str (" allocation(s) differ from the " ++
          "approved ledger (first: ") ++ differing.head?.getD (str "unknown") ++
          str "); a changed allocation requires a new plan and a new approval"⟩
      ensure (plan.ownershipScope = approved.ownershipScope)
        ⟨.ownershipScopeMismatch, str ("the ownership scope differs from the approved plan; " ++
          "objects created under a different scope would not be recognised as ours by a later " ++
          "teardown")⟩
      ensure (plan.targetId = approved.targetId)
        ⟨.targetMismatch, str "the resolved target is not the approved target"⟩
      ensure (plan.clusterFingerprint = approved.clusterFingerprint)
        ⟨.targetMismatch, str ("the target's cluster fingerprint differs from the approved plan; " ++
          "this is a different cluster")⟩
      pure
        { changeSetHash := plan.changeSetHash
          desiredStateHash := plan.desiredStateHash
          ownershipScope := plan.ownershipScope
          checksPassed := [str "authority", str "worker_identity", str "prerequisites",
            str "exclusive_access", str "change_set_binding", str "allocation_identity",
            str "ownership_and_target"] }

end

/-! ## The destroy gate -/

/-- `DESTROY_OPERATION_KIND`. -/
def destroyOperationKind : Str := str "destroy"

inductive DestroyRefusalCode where
  | approvalIsNotForDestroy
  | noDestroyApproval
  | approvalAlreadyConsumed
  | destroyChangeSetHashMismatch
  | preparedPlanIsNotADestroyPlan
  | staleBinaryDestroyPlan
  | deletionSetMismatch
  | ownershipNotVerified
  | discoveryStale
  | ownershipScopeMismatch
  | workerIdentityMismatch
  | workerReleaseMismatch
  | targetMismatch
  | remoteStateLockUnavailable
  | credentialUnresolvable
  | ordinaryWorkerOnControlledLivePath
  deriving DecidableEq

/-- What a human approved for a destroy, and for nothing else. -/
structure DestroyApproval where
  operationKind : Str
  changeSetHash : Str
  deletionSetHash : Str
  planDocumentHash : Str
  ownershipScope : OwnershipScope
  targetId : Str
  clusterFingerprint : Str
  workerId : Str
  workerRelease : Str
  approvalId : Str
  kind_destroy : operationKind = destroyOperationKind
  approvalId_ne : approvalId ≠ []

structure RegeneratedDestroyPlan where
  kind : Str
  changeSetHash : Str
  deletionSetHash : Str
  deletionAddresses : List Str
  ownershipScope : OwnershipScope
  targetId : Str
  clusterFingerprint : Str
  binaryPlanPresent : Bool := true

structure DestroyPreconditions where
  ownershipVerified : Option Bool := none
  discoveryFresh : Option Bool := none
  remoteStateLockHeld : Option Bool := none
  credentialResolved : Option Bool := none
  approvalAlreadyConsumed : Bool := false

structure DestroyAuthorization where
  changeSetHash : Str
  deletionSetHash : Str
  ownershipScope : OwnershipScope
  approvalId : Str
  checksPassed : List Str

section
variable [Unicode]

/-- `evaluate_destroy_gate`. -/
def evaluateDestroyGate (worker : WorkerIdentity) (approval : Option DestroyApproval)
    (regenerated : Option RegeneratedDestroyPlan) (preconditions : DestroyPreconditions)
    (controlledLiveQueue : Str) :
    Except (GateRefusal DestroyRefusalCode) DestroyAuthorization := do
  ensure (!worker.intrudes controlledLiveQueue)
    ⟨.ordinaryWorkerOnControlledLivePath, ordinaryWorkerDetail worker⟩
  match approval with
  | none =>
      throw ⟨.noDestroyApproval, str ("no destroy approval was presented; an apply approval does " ++
        "not authorize a destroy, and a destroy with no approval of its own is not authorized at all")⟩
  | some approval => do
      ensure (approval.operationKind = destroyOperationKind)
        ⟨.approvalIsNotForDestroy, str "the presented approval is for " ++
          strRepr approval.operationKind ++ str ", not " ++ strRepr destroyOperationKind⟩
      ensure (!preconditions.approvalAlreadyConsumed)
        ⟨.approvalAlreadyConsumed, str "destroy approval " ++ strRepr approval.approvalId ++
          str (" was already consumed; a replayable approval is a standing authorization to delete " ++
            "this range")⟩
      ensure (worker.workerId = approval.workerId)
        ⟨.workerIdentityMismatch,
          str "this worker is not the worker the destroy approval is bound to"⟩
      ensure (worker.release = approval.workerRelease)
        ⟨.workerReleaseMismatch, releaseDetail worker approval.workerRelease⟩
      ensure (preconditions.ownershipVerified = some true)
        ⟨.ownershipNotVerified, str "ownership was " ++
          (if preconditions.ownershipVerified = some false then
            str "not re-verified against live observation"
          else str "never checked (unknown)") ++
          str (" immediately before this destroy; an object can change hands between deploy and " ++
            "destroy, and a matching name has never been proof of ownership")⟩
      ensure (preconditions.discoveryFresh = some true)
        ⟨.discoveryStale, str "discovery is " ++
          (if preconditions.discoveryFresh = some false then str "stale" else str "of unknown age") ++
          str "; a destroy planned against stale discovery deletes what used to be there"⟩
      ensure (preconditions.remoteStateLockHeld = some true)
        ⟨.remoteStateLockUnavailable,
          str "the remote-state lock is not held; a concurrent operation could corrupt state"⟩
      ensure (preconditions.credentialResolved = some true)
        ⟨.credentialUnresolvable,
          str "the operation-specific provider credential could not be resolved"⟩
      match regenerated with
      | none =>
          throw ⟨.preparedPlanIsNotADestroyPlan, str ("no prepared destroy plan was produced; " ++
            "there is nothing whose hash could be approved")⟩
      | some plan => do
          ensure (plan.kind = destroyOperationKind)
            ⟨.preparedPlanIsNotADestroyPlan, str "the regenerated change set's kind is " ++
              strRepr plan.kind ++ str ", not " ++ strRepr destroyOperationKind ++
              str "; a destroy approval does not authorize a plan that creates resources"⟩
          ensure plan.binaryPlanPresent
            ⟨.staleBinaryDestroyPlan, str ("the prepared binary destroy plan is no longer present; " ++
              "re-plan and re-approve rather than destroying from a plan that cannot be shown to be " ++
              "the approved one")⟩
          ensure (plan.changeSetHash = approval.changeSetHash)
            ⟨.destroyChangeSetHashMismatch, str ("the regenerated destroy plan's canonical change " ++
              "set differs from the approved one")⟩
          ensure (plan.deletionSetHash = approval.deletionSetHash)
            ⟨.deletionSetMismatch, str "the plan would delete " ++
              natStr plan.deletionAddresses.length ++ str (" resource(s) whose set does not match " ++
              "the reviewed one; approving a destroy approves an exact list of resources, not a count")⟩
          ensure (plan.ownershipScope = approval.ownershipScope)
            ⟨.ownershipScopeMismatch, str ("the ownership scope of what would be deleted differs " ++
              "from the approved scope; deleting under a different scope means deleting objects this " ++
              "approval never covered")⟩
          ensure (plan.targetId = approval.targetId)
            ⟨.targetMismatch, str "the resolved target is not the approved target"⟩
          ensure (plan.clusterFingerprint = approval.clusterFingerprint)
            ⟨.targetMismatch, str ("the target's cluster fingerprint differs from the approved " ++
              "destroy; this is a different cluster")⟩
          pure
            { changeSetHash := plan.changeSetHash
              deletionSetHash := plan.deletionSetHash
              ownershipScope := plan.ownershipScope
              approvalId := approval.approvalId
              checksPassed := [str "authority", str "destroy_approval", str "worker_identity",
                str "freshness", str "exclusive_access", str "change_set_binding",
                str "deletion_set_binding", str "ownership_and_target"] }

end

/-! ## What the gates ask for -/

/-- The worker is the operator and took the task from the controlled-live queue. -/
structure Operates (worker : WorkerIdentity) (controlledLiveQueue : Str) : Prop where
  role : worker.role = infrastructureOperatorRole
  queue : worker.queue = controlledLiveQueue

/-- Everything an apply is bound to, apart from the authority of the worker. -/
structure ApplyBound (worker : WorkerIdentity) (approved : ApprovedPlanBinding)
    (regenerated : Option RegeneratedPlan) (state : AuthoritativeState) : Prop where
  workerId : worker.workerId = approved.workerId
  release : worker.release = approved.workerRelease
  onboarding : state.onboardingCurrent = some true
  eligibility : state.eligibilityPassing = some true
  discovery : state.discoveryFresh = some true
  reservations : state.reservationsPersisted = some true
  lock : state.remoteStateLockHeld = some true
  credential : state.credentialResolved = some true
  plan : ∃ plan, regenerated = some plan ∧ plan.binaryPlanPresent = true ∧
    plan.changeSetHash = approved.changeSetHash ∧
    plan.desiredStateHash = approved.desiredStateHash ∧
    (∀ key, plan.allocations.get? key = approved.allocations.get? key) ∧
    plan.ownershipScope = approved.ownershipScope ∧ plan.targetId = approved.targetId ∧
    plan.clusterFingerprint = approved.clusterFingerprint

/-- Everything a destroy is bound to, apart from the authority of the worker. -/
structure DestroyBound (worker : WorkerIdentity) (approval : Option DestroyApproval)
    (regenerated : Option RegeneratedDestroyPlan) (preconditions : DestroyPreconditions) : Prop where
  unconsumed : preconditions.approvalAlreadyConsumed = false
  ownership : preconditions.ownershipVerified = some true
  discovery : preconditions.discoveryFresh = some true
  lock : preconditions.remoteStateLockHeld = some true
  credential : preconditions.credentialResolved = some true
  plan : ∃ approved plan, approval = some approved ∧ regenerated = some plan ∧
    worker.workerId = approved.workerId ∧ worker.release = approved.workerRelease ∧
    plan.kind = destroyOperationKind ∧ plan.binaryPlanPresent = true ∧
    plan.changeSetHash = approved.changeSetHash ∧
    plan.deletionSetHash = approved.deletionSetHash ∧
    plan.ownershipScope = approved.ownershipScope ∧ plan.targetId = approved.targetId ∧
    plan.clusterFingerprint = approved.clusterFingerprint

theorem differingKeys_isEmpty_iff {a b : Dict Str Str} :
    (differingKeys a b).isEmpty = true ↔ ∀ key, a.get? key = b.get? key := by
  have hnone : ∀ {d : Dict Str Str} {key : Str}, key ∉ d.map Prod.fst → d.get? key = none :=
    fun h => Dict.get?_eq_none_iff.mpr h
  unfold differingKeys
  rw [List.isEmpty_iff, ← List.length_eq_zero_iff, (sortedBy_perm _ _).length_eq,
    List.length_eq_zero_iff, List.filter_eq_nil_iff]
  constructor
  · intro h key
    by_cases hkey : key ∈ a.map Prod.fst ++ b.map Prod.fst
    · simpa using h key (List.mem_dedup.mpr hkey)
    · rw [List.mem_append, not_or] at hkey
      rw [hnone hkey.1, hnone hkey.2]
  · intro h key _
    simp [h key]

section
variable [Unicode] {worker : WorkerIdentity} {controlledLiveQueue : Str}

omit [Unicode] in
theorem intrudes_eq_false_iff :
    worker.intrudes controlledLiveQueue = false ↔
      (worker.queue = controlledLiveQueue → worker.role = infrastructureOperatorRole) := by
  simp [WorkerIdentity.intrudes]

/-- An apply is authorized exactly when it is bound and the worker does not intrude. -/
theorem evaluateApplyGate_eq_ok_iff {approved : ApprovedPlanBinding}
    {regenerated : Option RegeneratedPlan} {state : AuthoritativeState} :
    (∃ authorization, evaluateApplyGate worker approved regenerated state controlledLiveQueue =
        .ok authorization) ↔
      worker.intrudes controlledLiveQueue = false ∧
        ApplyBound worker approved regenerated state := by
  constructor
  · rintro ⟨authorization, h⟩
    simp only [evaluateApplyGate, except_unit_bind_eq_ok, ensure_eq_ok_iff, decide_eq_true_eq,
      Bool.not_eq_true'] at h
    obtain ⟨hauthority, hid, hrelease, honboarding, heligibility, hdiscovery, hreservations,
      hlock, hcredential, h⟩ := h
    cases regenerated with
    | none => cases h
    | some plan =>
        simp only [except_unit_bind_eq_ok, ensure_eq_ok_iff, decide_eq_true_eq] at h
        obtain ⟨hpresent, hchange, hdesired, hallocations, hscope, htarget, hcluster, _⟩ := h
        exact ⟨hauthority, hid, hrelease, honboarding, heligibility, hdiscovery, hreservations,
          hlock, hcredential, plan, rfl, hpresent, hchange, hdesired,
          differingKeys_isEmpty_iff.mp hallocations, hscope, htarget, hcluster⟩
  · rintro ⟨hauthority, hbound⟩
    obtain ⟨plan, rfl, hpresent, hchange, hdesired, hallocations, hscope, htarget, hcluster⟩ :=
      hbound.plan
    apply Exists.intro
    simp only [evaluateApplyGate, except_unit_bind_eq_ok, ensure_eq_ok_iff, decide_eq_true_eq,
      Bool.not_eq_true']
    exact ⟨hauthority, hbound.workerId, hbound.release, hbound.onboarding, hbound.eligibility,
      hbound.discovery, hbound.reservations, hbound.lock, hbound.credential, hpresent, hchange,
      hdesired, differingKeys_isEmpty_iff.mpr hallocations, hscope, htarget, hcluster, rfl⟩

/-- A destroy is authorized exactly when it is bound and the worker does not intrude. -/
theorem evaluateDestroyGate_eq_ok_iff {approval : Option DestroyApproval}
    {regenerated : Option RegeneratedDestroyPlan} {preconditions : DestroyPreconditions} :
    (∃ authorization, evaluateDestroyGate worker approval regenerated preconditions
        controlledLiveQueue = .ok authorization) ↔
      worker.intrudes controlledLiveQueue = false ∧
        DestroyBound worker approval regenerated preconditions := by
  constructor
  · rintro ⟨authorization, h⟩
    simp only [evaluateDestroyGate, except_unit_bind_eq_ok, ensure_eq_ok_iff,
      Bool.not_eq_true'] at h
    obtain ⟨hauthority, h⟩ := h
    cases approval with
    | none => cases h
    | some approved =>
        simp only [except_unit_bind_eq_ok, ensure_eq_ok_iff, decide_eq_true_eq,
          Bool.not_eq_true'] at h
        obtain ⟨_, hconsumed, hid, hrelease, hownership, hdiscovery, hlock, hcredential, h⟩ := h
        cases regenerated with
        | none => cases h
        | some plan =>
            simp only [except_unit_bind_eq_ok, ensure_eq_ok_iff, decide_eq_true_eq] at h
            obtain ⟨hkind, hpresent, hchange, hset, hscope, htarget, hcluster, _⟩ := h
            exact ⟨hauthority, hconsumed, hownership, hdiscovery, hlock, hcredential, approved,
              plan, rfl, rfl, hid, hrelease, hkind, hpresent, hchange, hset, hscope, htarget,
              hcluster⟩
  · rintro ⟨hauthority, hbound⟩
    obtain ⟨approved, plan, rfl, rfl, hid, hrelease, hkind, hpresent, hchange, hset, hscope,
      htarget, hcluster⟩ := hbound.plan
    apply Exists.intro
    simp only [evaluateDestroyGate, except_unit_bind_eq_ok, ensure_eq_ok_iff, decide_eq_true_eq,
      Bool.not_eq_true']
    -- the approval says itself that it is one for a destroy
    exact ⟨hauthority, approved.kind_destroy, hbound.unconsumed, hid, hrelease, hbound.ownership,
      hbound.discovery, hbound.lock, hbound.credential, hkind, hpresent, hchange, hset, hscope,
      htarget, hcluster, rfl⟩

omit [Unicode] in
/-- Behind a gate stands an operator from the controlled-live queue, when what the gate is bound to
was only ever asked by a worker from that queue. -/
theorem operates_iff_of_gate {Bound Authorized : Prop}
    (hgate : Authorized ↔ worker.intrudes controlledLiveQueue = false ∧ Bound) :
    (Authorized → Operates worker controlledLiveQueue ∧ Bound) ↔
      (Bound → worker.queue = controlledLiveQueue) := by
  constructor
  · intro hsound hbound
    by_cases hqueue : worker.queue = controlledLiveQueue
    · exact hqueue
    · have hauthority : worker.intrudes controlledLiveQueue = false :=
        intrudes_eq_false_iff.mpr fun h => absurd h hqueue
      exact (hsound (hgate.mpr ⟨hauthority, hbound⟩)).1.queue
  · intro hqueue hauthorized
    obtain ⟨hauthority, hbound⟩ := hgate.mp hauthorized
    exact ⟨⟨intrudes_eq_false_iff.mp hauthority (hqueue hbound), hqueue hbound⟩, hbound⟩

end

/-- The apply and the destroy gate authorize only an operator from the controlled-live queue, with
everything that was approved, exactly when nothing else they are bound to is met by a worker from
another queue. -/
theorem gates_sound_iff [Unicode] (worker : WorkerIdentity) (controlledLiveQueue : Str)
    (approved : ApprovedPlanBinding) (regenerated : Option RegeneratedPlan)
    (state : AuthoritativeState) (approval : Option DestroyApproval)
    (regeneratedDestroy : Option RegeneratedDestroyPlan) (preconditions : DestroyPreconditions) :
    (((∃ authorization, evaluateApplyGate worker approved regenerated state controlledLiveQueue =
          .ok authorization) →
        Operates worker controlledLiveQueue ∧ ApplyBound worker approved regenerated state) ↔
      (ApplyBound worker approved regenerated state → worker.queue = controlledLiveQueue)) ∧
    (((∃ authorization, evaluateDestroyGate worker approval regeneratedDestroy preconditions
          controlledLiveQueue = .ok authorization) →
        Operates worker controlledLiveQueue ∧
          DestroyBound worker approval regeneratedDestroy preconditions) ↔
      (DestroyBound worker approval regeneratedDestroy preconditions →
        worker.queue = controlledLiveQueue)) :=
  ⟨operates_iff_of_gate evaluateApplyGate_eq_ok_iff,
    operates_iff_of_gate evaluateDestroyGate_eq_ok_iff⟩

/-- An ordinary worker that took the task from its own queue. -/
def ordinaryWorker : WorkerIdentity :=
  { workerId := str "w-1", role := str "ordinary_worker", release := str "1.0",
    queue := str "ordinary" }

def approvedBinding : ApprovedPlanBinding :=
  { changeSetHash := str "c", desiredStateHash := str "d", planDocumentHash := str "p"
    allocations := [(str "vmid/g", str "101")], ownershipScope := (str "o", str "t", str "r", 1)
    targetId := str "t", clusterFingerprint := str "f", workerId := str "w-1"
    workerRelease := str "1.0" }

def regeneratedAsApproved : RegeneratedPlan :=
  { changeSetHash := str "c", desiredStateHash := str "d"
    allocations := [(str "vmid/g", str "101")], ownershipScope := (str "o", str "t", str "r", 1)
    targetId := str "t", clusterFingerprint := str "f" }

def everythingChecked : AuthoritativeState :=
  ⟨some true, some true, some true, some true, some true, some true⟩

/-- The gate authorizes an ordinary worker from the ordinary queue. -/
theorem ordinaryWorker_authorized :
    ∃ (worker : WorkerIdentity) (approved : ApprovedPlanBinding)
      (regenerated : Option RegeneratedPlan) (state : AuthoritativeState)
      (controlledLiveQueue : Str) (authorization : ApplyAuthorization),
      @evaluateApplyGate Unicode.ascii worker approved regenerated state controlledLiveQueue =
          .ok authorization ∧
        ¬ Operates worker controlledLiveQueue := by
  let _ := Unicode.ascii
  have hqueue : ordinaryWorker.queue ≠ str "controlled-live" := by with_unfolding_all decide
  have hbound : ApplyBound ordinaryWorker approvedBinding (some regeneratedAsApproved)
      everythingChecked :=
    ⟨rfl, rfl, rfl, rfl, rfl, rfl, rfl, rfl, regeneratedAsApproved, rfl, rfl, rfl, rfl,
      fun _ => rfl, rfl, rfl, rfl⟩
  obtain ⟨authorization, h⟩ := (@evaluateApplyGate_eq_ok_iff Unicode.ascii ordinaryWorker
    (str "controlled-live") _ _ _).mpr
      ⟨intrudes_eq_false_iff.mpr fun h => absurd h hqueue, hbound⟩
  exact ⟨_, _, _, _, _, authorization, h, fun hoperates => hqueue hoperates.queue⟩

end Secp.Worker
