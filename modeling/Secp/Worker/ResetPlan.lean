import Secp.Logic.StateExcept
import Secp.Python.Payload
import Secp.Worker.Reset

/-!
# The plan of a reset

A reset recreates the disposable guests of a range and preserves the approved topology. The plan is the
approved desired state, or one that was proposed in its place, with every operation generation advanced,
and the fingerprint of the approved one.
-/

namespace Secp.Worker

open Secp.Python Secp.Proxmox Secp.Logic

inductive ResetRefusalCode where
  | noApprovedDesiredState
  | topologyChangeWithoutApproval
  | allocationLedgerDrift
  | ledgerNotSealed
  | operationGenerationNotAdvanced
  deriving DecidableEq

/-- What happens to one class of resource. -/
inductive ResetDisposition where
  | preserved
  | recreated
  | restored
  | cleared
  deriving DecidableEq

inductive ResetSubject where
  | rangeIdentity
  | sdnZone
  | vnets
  | subnetsAndVlans
  | firewallObjects
  | allocationLedger
  | guests
  | challengeState
  | teamMembership
  | scores
  deriving DecidableEq

/-- A coded refusal, or what reading an ill-typed payload raises. -/
inductive ResetFailure where
  | refused (code : ResetRefusalCode) (detail : Str)
  | raised (error : PayloadError)

structure ResetRequest where
  rangeId : Str
  operationGeneration : Int
  clearScores : Bool := false
  newTopologyApproved : Bool := false

structure ResetAction where
  subject : ResetSubject
  disposition : ResetDisposition
  detail : Str

structure ResetPlan where
  rangeId : Str
  operationGeneration : Int
  desiredState : Json
  actions : List ResetAction
  recreatedGuestRefs : List Str
  restoredMaterialRefs : List Str
  topologyFingerprint : Str

/-- What a reset is planned from. -/
structure ResetInputs where
  approvedDesiredState : Option (Dict Str Json)
  approvedLedger : Option (Dict Str Json)
  currentLedger : Option (Dict Str Json)
  proposedDesiredState : Option (Dict Str Json)
  materialRefs : List Str
  request : ResetRequest

/-- `_approved_operation_generation`: a boolean is an integer. -/
def approvedOperationGeneration (desiredState : Json) : Option Int :=
  match (desiredState.field (str "ownership")).get? operationGenerationKey with
  | some (.int n) => some n
  | some (.bool b) => some (if b then 1 else 0)
  | _ => none

/-- `len(value)`. -/
def payloadLength : Json → Except PayloadError Nat
  | .arr items => .ok items.length
  | .obj fields => .ok fields.length
  | .str s => .ok s.length
  | _ => .error .typeError

/-- A step that only reads a payload. -/
def reading {α : Type} (step : Except PayloadError α) : Except ResetFailure α :=
  step.mapError ResetFailure.raised

/-- The approved desired state. -/
def ResetInputs.approved (inputs : ResetInputs) : Json :=
  .obj (inputs.approvedDesiredState.getD [])

/-- The desired state that is restamped. -/
def ResetInputs.source (inputs : ResetInputs) : Json :=
  .obj (inputs.proposedDesiredState.getD (inputs.approvedDesiredState.getD []))

/-- The plan starts from an approved state and advances its generation. -/
def checkGeneration (inputs : ResetInputs) : Except ResetFailure Unit := do
  ensure (inputs.approved.truthy)
    (.refused .noApprovedDesiredState (str ("there is no approved desired state to reset this " ++
      "range back to; a reset that recompiles from scratch is a redeploy wearing a reset's name")))
  match approvedOperationGeneration inputs.approved with
  | none => pure ()
  | some approved =>
      ensure (approved < inputs.request.operationGeneration)
        (.refused .operationGenerationNotAdvanced (str "operation generation " ++
          intStr inputs.request.operationGeneration ++ str " does not advance past the approved " ++
          intStr approved ++ str ("; the reset's objects would carry the same stamp as the deploy's " ++
          "and could not be told apart")))

/-- The approved ledger is there, sealed, and the current one if there is one. -/
def checkLedger (inputs : ResetInputs) : Except ResetFailure Json := do
  let ledger := Json.obj (inputs.approvedLedger.getD [])
  ensure (ledger.field (str "allocations")).truthy
    (.refused .allocationLedgerDrift (str ("the approved allocation ledger is missing or empty; " ++
      "without it a reset cannot prove it is re-resolving the deploy's identifiers rather than " ++
      "inventing new ones")))
  ensure (ledger.field (str "sealed")).truthy
    (.refused .ledgerNotSealed (str ("the approved allocation ledger is not sealed; an open ledger " ++
      "would allocate fresh vmids and addresses for any guest whose record was lost, producing a " ++
      "renumbered range under the old range's name")))
  ensure (inputs.currentLedger.all fun current =>
      (Json.obj current).field (str "ledger_hash") = ledger.field (str "ledger_hash"))
    (.refused .allocationLedgerDrift (str ("the current allocation ledger does not hash to the " ++
      "approved one; identifiers would move and the reset would not restore this range")))
  pure ledger

/-- A proposed topology is the approved one, or was approved itself. -/
def checkTopology (inputs : ResetInputs) : Except ResetFailure Unit :=
  ensure (topologyFingerprint inputs.source = topologyFingerprint inputs.approved ||
      inputs.request.newTopologyApproved)
    (.refused .topologyChangeWithoutApproval (str ("the proposed reset would apply a different " ++
      "topology than the approved one; a reset preserves the approved topology, and changing it " ++
      "requires a new plan and a new approval rather than a reset")))

section
variable [Unicode]

/-- `tuple(sorted(str(guest.get("guest_ref")) for guest in guests))`. -/
def guestRefs (desiredState : Json) : Except PayloadError (List Str) := do
  let guests ← ((desiredState.field (str "guests")).orElse (.arr [])).elements
  let refs ← guests.mapM fun guest => guest.getOr (str "guest_ref") .null
  pure (sortedBy id (refs.map Json.text))

/-- The disposition of every subject. -/
def resetActions (request : ResetRequest) (vnets allocations guests materials : Nat) :
    List ResetAction :=
  [⟨.rangeIdentity, .preserved, str "range " ++ request.rangeId ++
      str " keeps its id, its generation and its ownership scope"⟩,
    ⟨.sdnZone, .preserved,
      str "the approved SDN zone is not recreated; recreating it would detach every guest"⟩,
    ⟨.vnets, .preserved, natStr vnets ++ str " segment(s) preserved"⟩,
    ⟨.subnetsAndVlans, .preserved,
      str "addressing and VLAN tags are re-resolved from the sealed ledger, not reissued"⟩,
    ⟨.firewallObjects, .preserved,
      str "the approved security groups and IPSets stay; isolation is re-PROVED, not re-authored"⟩,
    ⟨.allocationLedger, .preserved, natStr allocations ++ str " sealed allocation(s) re-resolved"⟩,
    ⟨.guests, .recreated, natStr guests ++ str (" disposable guest(s) rebuilt from the reviewed " ++
      "base image at their existing vmids, MACs and addresses")⟩,
    ⟨.challengeState, .restored, natStr materials ++ str (" material reference(s) replanted over " ++
      "the post-provisioning channel once the guests report ready")⟩,
    ⟨.teamMembership, .preserved, str ("teams and their members are competition state, not range " ++
      "state; a reset returns the environment and never the roster")⟩,
    ⟨.scores, if request.clearScores then .cleared else .preserved,
      if request.clearScores then str "the operator explicitly asked for scores to be cleared"
      else str "scores are kept; clearing them was not requested and is never implied"⟩]

/-- `plan_reset`. -/
def planReset (inputs : ResetInputs) : Except ResetFailure ResetPlan := do
  checkGeneration inputs
  let ledger ← checkLedger inputs
  checkTopology inputs
  let desiredState := restampOperationGeneration inputs.source inputs.request.operationGeneration
  let refs ← reading (guestRefs desiredState)
  let network := (desiredState.get? (str "network")).getD (.obj [])
  let vnets ← reading (network.getOr (str "vnets") (.arr []))
  let vnetCount ← reading (payloadLength vnets)
  let allocationCount ← reading (payloadLength (ledger.field (str "allocations")))
  pure
    { rangeId := inputs.request.rangeId
      operationGeneration := inputs.request.operationGeneration
      desiredState := desiredState
      actions := resetActions inputs.request vnetCount allocationCount refs.length
        inputs.materialRefs.length
      recreatedGuestRefs := refs
      restoredMaterialRefs := sortedBy id inputs.materialRefs
      topologyFingerprint := Worker.topologyFingerprint inputs.approved }

end

/-! ## Stamps and tags -/

/-- The tag that repeats an operation generation. -/
def operationGenerationTag : Str := str "secp.operation_generation"

theorem operationGenerationTag_ne : operationGenerationTag ≠ operationGenerationKey := by
  with_unfolding_all decide

mutual

/-- Every flattened operation generation in the value, at whatever depth, is the given one. -/
def EveryTag (generation : Int) : Json → Prop
  | .obj fields => EveryTagFields generation fields
  | .arr items => EveryTagItems generation items
  | _ => True

def EveryTagFields (generation : Int) : List (Str × Json) → Prop
  | [] => True
  | (key, value) :: rest =>
      (if key = operationGenerationTag then value = .str (intStr generation)
      else EveryTag generation value) ∧ EveryTagFields generation rest

def EveryTagItems (generation : Int) : List Json → Prop
  | [] => True
  | item :: rest => EveryTag generation item ∧ EveryTagItems generation rest

end

section
variable {g : Int}

mutual

/-- Restamping gives every stamp the generation. -/
theorem everyStamp_restamp (g : Int) : ∀ node : Json, EveryStamp g (restamp g node)
  | .obj fields => by
      rw [restamp, EveryStamp]
      exact everyStampFields_restampFields g fields
  | .arr items => by
      rw [restamp, EveryStamp]
      exact everyStampItems_restampItems g items
  | .null => by simp [EveryStamp]
  | .bool b => by simp [EveryStamp]
  | .int n => by simp [EveryStamp]
  | .str s => by simp [EveryStamp]

theorem everyStampFields_restampFields (g : Int) : ∀ fields : List (Str × Json),
    EveryStampFields g (restampFields g fields)
  | [] => by rw [restampFields, EveryStampFields]; trivial
  | (key, value) :: rest => by
      rw [restampFields, EveryStampFields]
      refine ⟨?_, everyStampFields_restampFields g rest⟩
      by_cases hkey : key = operationGenerationKey
      · rw [if_pos hkey, if_pos hkey]
      · rw [if_neg hkey, if_neg hkey]
        exact everyStamp_restamp g value

theorem everyStampItems_restampItems (g : Int) : ∀ items : List Json,
    EveryStampItems g (restampItems g items)
  | [] => by rw [restampItems, EveryStampItems]; trivial
  | item :: rest => by
      rw [restampItems, EveryStampItems]
      exact ⟨everyStamp_restamp g item, everyStampItems_restampItems g rest⟩

end

/-- Neither rewriting makes a text or changes one. -/
theorem restamp_eq_str_iff {node : Json} {s : Str} : restamp g node = .str s ↔ node = .str s := by
  cases node <;> simp [restamp]

theorem strip_eq_str_iff {node : Json} {s : Str} :
    stripOperationGeneration node = .str s ↔ node = .str s := by
  cases node <;> simp [stripOperationGeneration]

mutual

/-- Restamping moves no tag: it only hides those below a stamp, as stripping does. -/
theorem everyTag_restamp_iff (g : Int) : ∀ node : Json,
    EveryTag g (restamp g node) ↔ EveryTag g (stripOperationGeneration node)
  | .obj fields => by
      rw [restamp, stripOperationGeneration, EveryTag, EveryTag]
      exact everyTagFields_restamp_iff g fields
  | .arr items => by
      rw [restamp, stripOperationGeneration, EveryTag, EveryTag]
      exact everyTagItems_restamp_iff g items
  | .null => by simp [stripOperationGeneration]
  | .bool b => by simp [stripOperationGeneration]
  | .int n => by simp [stripOperationGeneration]
  | .str s => by simp [stripOperationGeneration]

theorem everyTagFields_restamp_iff (g : Int) : ∀ fields : List (Str × Json),
    EveryTagFields g (restampFields g fields) ↔ EveryTagFields g (stripFields fields)
  | [] => by rw [restampFields, stripFields]
  | (key, value) :: rest => by
      have hrest := everyTagFields_restamp_iff g rest
      rw [restampFields, stripFields, EveryTagFields, hrest]
      by_cases hstamp : key = operationGenerationKey
      · have htag : key ≠ operationGenerationTag := hstamp ▸ operationGenerationTag_ne.symm
        rw [if_pos hstamp, if_pos hstamp, if_neg htag]
        simp [EveryTag]
      · rw [if_neg hstamp, if_neg hstamp, EveryTagFields]
        by_cases htag : key = operationGenerationTag
        · rw [if_pos htag, if_pos htag, restamp_eq_str_iff, strip_eq_str_iff]
        · rw [if_neg htag, if_neg htag, everyTag_restamp_iff g value]

theorem everyTagItems_restamp_iff (g : Int) : ∀ items : List Json,
    EveryTagItems g (restampItems g items) ↔ EveryTagItems g (stripItems items)
  | [] => by rw [restampItems, stripItems]
  | item :: rest => by
      rw [restampItems, stripItems, EveryTagItems, EveryTagItems, everyTag_restamp_iff g item,
        everyTagItems_restamp_iff g rest]

end

end

/-! ## What a plan attests -/

/-- The plan applies the topology it attests, under the stamp of a later operation. -/
structure PlanAttested (inputs : ResetInputs) (plan : ResetPlan) : Prop where
  topology : topologyFingerprint plan.desiredState = plan.topologyFingerprint
  stamps : EveryStamp inputs.request.operationGeneration plan.desiredState
  tags : EveryTag inputs.request.operationGeneration plan.desiredState
  advanced : ∀ n, approvedOperationGeneration inputs.approved = some n →
    n < inputs.request.operationGeneration

theorem checkGeneration_eq_ok {inputs : ResetInputs} (h : checkGeneration inputs = .ok ()) {n : Int}
    (hn : approvedOperationGeneration inputs.approved = some n) :
    n < inputs.request.operationGeneration := by
  unfold checkGeneration at h
  rw [hn] at h
  simp only [except_unit_bind_eq_ok, ensure_eq_ok_iff, decide_eq_true_eq] at h
  exact h.2

section
variable [Unicode] {inputs : ResetInputs} {plan : ResetPlan}

/-- What a plan holds, of everything it attests. -/
theorem planReset_spec (h : planReset inputs = .ok plan) :
    plan.desiredState =
        restampOperationGeneration inputs.source inputs.request.operationGeneration ∧
      plan.topologyFingerprint = topologyFingerprint inputs.approved ∧
      ∀ n, approvedOperationGeneration inputs.approved = some n →
        n < inputs.request.operationGeneration := by
  unfold planReset at h
  obtain ⟨⟨⟩, hgeneration, h⟩ := except_bind_eq_ok.mp h
  obtain ⟨ledger, _, h⟩ := except_bind_eq_ok.mp h
  obtain ⟨⟨⟩, _, h⟩ := except_bind_eq_ok.mp h
  dsimp only at h
  obtain ⟨refs, _, h⟩ := except_bind_eq_ok.mp h
  obtain ⟨vnets, _, h⟩ := except_bind_eq_ok.mp h
  obtain ⟨vnetCount, _, h⟩ := except_bind_eq_ok.mp h
  obtain ⟨allocationCount, _, h⟩ := except_bind_eq_ok.mp h
  cases h
  exact ⟨rfl, rfl, fun n hn => checkGeneration_eq_ok hgeneration hn⟩

end

/-! ## Plans for what was compiled -/

/-- Below a field that is neither a stamp nor a tag the same holds. -/
theorem EveryTagFields.below {g : Int} {fields : List (Str × Json)}
    (h : EveryTagFields g (stripFields fields)) {key : Str} {value : Json}
    (hmem : (key, value) ∈ fields) (hstamp : key ≠ operationGenerationKey) :
    (key = operationGenerationTag → value = .str (intStr g)) ∧
      (key ≠ operationGenerationTag → EveryTag g (stripOperationGeneration value)) := by
  induction fields with
  | nil => cases hmem
  | cons field rest ih =>
      obtain ⟨other, otherValue⟩ := field
      rw [stripFields] at h
      rcases List.mem_cons.mp hmem with heq | hrest
      · obtain ⟨hkey, hvalue⟩ := Prod.mk.inj heq
        subst hkey hvalue
        rw [if_neg hstamp, EveryTagFields] at h
        constructor
        · intro htag
          exact strip_eq_str_iff.mp ((if_pos htag).mp h.1)
        · intro htag
          exact (if_neg htag).mp h.1
      · by_cases hother : other = operationGenerationKey
        · rw [if_pos hother] at h
          exact ih h hrest
        · rw [if_neg hother, EveryTagFields] at h
          exact ih h.2 hrest

theorem EveryTag.field {g : Int} {fields : List (Str × Json)}
    (h : EveryTag g (stripOperationGeneration (.obj fields))) : EveryTagFields g (stripFields fields) := by
  rwa [stripOperationGeneration, EveryTag] at h

/-- The tags of a compiled topology are those of its own operation. -/
theorem everyTag_toManifestPayload {g : Int} {topology : CompiledTopology}
    {ledger : Option AllocationLedger}
    (h : EveryTag g (stripOperationGeneration (toManifestPayload topology ledger))) :
    g = topology.ownership.operationGeneration := by
  have hroot : EveryTag g (stripOperationGeneration (ownershipPayload topology.ownership)) := by
    unfold toManifestPayload at h
    refine (@EveryTagFields.below _ _ h.field (str "ownership") _ ?_
      (by with_unfolding_all decide)).2 (by with_unfolding_all decide)
    cases ledger <;> simp
  have htags : EveryTag g (stripOperationGeneration
      (.obj (topology.ownership.asTags.map fun tag => (tag.1, .str tag.2)))) :=
    (@EveryTagFields.below _ _ hroot.field (str "tags") _ (by simp)
      (by with_unfolding_all decide)).2 (by with_unfolding_all decide)
  have htag : (operationGenerationTag, Json.str (intStr topology.ownership.operationGeneration)) ∈
      topology.ownership.asTags.map fun tag => (tag.1, Json.str tag.2) :=
    List.mem_map.mpr ⟨_, (mem_asTags topology.ownership _).mpr rfl, rfl⟩
  have hvalue := (htags.field.below htag operationGenerationTag_ne).1 rfl
  exact (intStr_injective (Json.str.inj hvalue)).symm

/-- No plan attests what it applies when it restamps a compiled topology of an earlier operation. -/
theorem planReset_compiled [Unicode] {inputs : ResetInputs} {plan : ResetPlan}
    (h : planReset inputs = .ok plan) {topology : CompiledTopology}
    {ledger : Option AllocationLedger} (hsource : inputs.source = toManifestPayload topology ledger)
    (hearlier : topology.ownership.operationGeneration < inputs.request.operationGeneration) :
    ¬ PlanAttested inputs plan := by
  intro hattested
  have htags := hattested.tags
  rw [(planReset_spec h).1, restampOperationGeneration, everyTag_restamp_iff, hsource] at htags
  have hsame := everyTag_toManifestPayload htags
  omega

/-! ### A range with one guest -/

end Secp.Worker
