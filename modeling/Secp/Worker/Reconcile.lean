import Mathlib.Data.List.Dedup
import Secp.Proxmox.ManifestReader
import Secp.Worker.Verification

/-!
# Whether an interrupted apply may be resumed

What is true and what may be done about it are decided apart: the outcome is one of the verification
vocabulary, and the action is to do nothing, to create what was proved absent, or to stop. The checks
run in the order of their severity and the first that fails stops everything; a resume is what is left
when none did.
-/

namespace Secp.Worker

open Secp.Python Secp.Proxmox Secp.Logic

/-! ## Decisions -/

/-- What the apply itself reported. -/
inductive ProviderOutcome where
  | succeeded
  | failed
  | unknown
  deriving DecidableEq

inductive ReconcileAction where
  | noAction
  | resumeApply
  | halt
  deriving DecidableEq

inductive ReconcileReason where
  | providerOutcomeUnknown
  | providerUnobservable
  | observationIncomplete
  | ledgerNotSealed
  | stateClaimsAbsentResource
  | resourceNotInSealedLedger
  | foreignObjectAtAllocatedId
  | isolationViolationObserved
  | resourcesProvedAbsent
  | converged
  deriving DecidableEq

/-- Only a resume carries resources to create. -/
structure ReconcileDecision where
  action : ReconcileAction
  outcome : VerificationOutcome
  reason : ReconcileReason
  detail : Str
  createVmids : List Int
  create_only : createVmids ≠ [] → action = .resumeApply
  deriving DecidableEq

/-- `_halt`. -/
def halt (outcome : VerificationOutcome) (reason : ReconcileReason) (detail : Str) :
    ReconcileDecision := ⟨.halt, outcome, reason, detail, [], fun h => absurd rfl h⟩

/-! ## Reading the desired state and the ledger -/

section
variable [Unicode]

/-- The guest id a record of the ledger holds, if it holds one that can be read. -/
def ledgerVmid (record : Json) : Except PayloadError (Option Int) := do
  let kind ← record.getOr (str "kind") .null
  if kind = .str (str "vmid") ∨ kind = .str (str "lxc_id") then
    pure ((record.get? (str "value")).bind Json.toInt?)
  else pure none

/-- `_ledger_vmids`. -/
def ledgerVmids (ledger : Json) : Except PayloadError (List Int) := do
  let records ← (← ledger.getOr (str "allocations") (.arr [])).elements
  let vmids ← records.mapM ledgerVmid
  pure (vmids.filterMap id)

/-- The stamp a guest must carry. A team reference that is no text is one that no tag equals. -/
structure ExpectedOwnership where
  ownership : Ownership
  team_is_text : Bool
  deriving DecidableEq

/-- The reading of the stamp, before its failures are gathered. -/
def expectedOwnershipFields (payload : Json) : Read ExpectedOwnership := do
  let organizationId ← textField payload (str "organization_id")
  let targetId ← textField payload (str "target_id")
  let rangeId ← textField payload (str "range_id")
  let generation ← intField payload (str "generation")
  let operationGeneration ← (← payload.getOr (str "operation_generation") (.int 0)).toInt
  let resourceKind ← RangeResourceKind.read (← payload.getOr (str "resource_kind")
    (.str RangeResourceKind.virtualMachine.value))
  let team := (← payload.getOr (str "team_ref") .null).orElse .null
  let (teamRef, isText) := match team with
    | .null => (none, true)
    | .str s => (some s, true)
    | _ => (none, false)
  let ownership ← Ownership.make organizationId targetId rangeId generation operationGeneration
    resourceKind teamRef
  pure ⟨ownership, isText⟩

/-- `_expected_ownership`. -/
def expectedOwnership (guest : Json) : Except PayloadError (Option ExpectedOwnership) := do
  let payload ← guest.getOr (str "ownership") .null
  if payload.isObject then
    match expectedOwnershipFields payload with
    | .ok expected => pure (some expected)
    | .error _ => pure none
  else pure none

/-- `is_owned_by_secp` against such a stamp. -/
def provenanceOf (tags : Option (Dict Str Str)) (expected : ExpectedOwnership) : ObjectProvenance :=
  match isOwnedBySecp tags expected.ownership with
  | .secpOwned => if expected.team_is_text then .secpOwned else .secpForeignScope
  | provenance => provenance

/-- `any(_expected_ownership(guest) is None for guest in desired_guests)`. -/
def anyUnstamped : List Json → Except PayloadError Bool
  | [] => .ok false
  | guest :: rest => do
      match ← expectedOwnership guest with
      | none => pure true
      | some _ => anyUnstamped rest

/-- `desired_state.get("guests") or []`. -/
def desiredGuestsOf (desiredState : Json) : Except PayloadError (List Json) := do
  ((← desiredState.getOr (str "guests") .null).orElse (.arr [])).elements

/-- `int(guest["vmid"])`. -/
def guestVmid (guest : Json) : Except PayloadError Int := do
  (← guest.getItem (str "vmid")).toInt

/-! ## The decision -/

/-- `observed_by_vmid`. -/
def observedByVmid (observed : ObservedInfrastructure) : Dict Int ObservedGuest :=
  Dict.ofPairs (observed.guests.map fun guest => (guest.vmid, guest))

/-- What is missing from the observation. -/
def observationGaps (observed : ObservedInfrastructure) (unstamped : Bool) : List Str :=
  let untagged := (observed.guests.filter fun guest => guest.tags.isNone).map ObservedGuest.vmid
  (if observed.tofuStateAddresses.isNone then [str "OpenTofu state was not read"] else []) ++
  (if observed.observedAddresses.isNone then
    [str "no provider-derived address list was collected"] else []) ++
  (if untagged.isEmpty then [] else
    [str "ownership tags were not read for vmid(s) " ++ intListText (sortedBy id untagged)]) ++
  (if unstamped then
    [str "the desired state does not carry a usable ownership stamp for every guest"] else [])

/-- What is wrong with the object at the id of one desired guest. -/
def foreignAt (byVmid : Dict Int ObservedGuest) (guest : Json) : Except PayloadError (List Str) := do
  let vmid ← guestVmid guest
  let expected ← expectedOwnership guest
  match byVmid.get? vmid, expected with
  | some live, some expected =>
      let provenance := provenanceOf live.tags expected
      if provenance = .secpOwned then pure []
      else pure [str "vmid " ++ intStr vmid ++ str ": " ++ provenance.value]
  | _, _ => pure []

/-- The ids nothing was observed at. -/
def absentVmids (byVmid : Dict Int ObservedGuest) (expectedVmids : List Int) : List Int :=
  sortedBy id (expectedVmids.filter fun vmid => !byVmid.hasKey vmid)

/-- The addresses in the state that the provider does not report. -/
def claimedButAbsentOf (observed : ObservedInfrastructure) : List Str :=
  sortedBy id (((observed.tofuStateAddresses.getD []).dedup).filter
    fun address => address ∉ observed.observedAddresses.getD [])

/-- `decide_reconciliation`. -/
def decideReconciliation (desiredState ledger : Json) (observed : ObservedInfrastructure)
    (providerOutcome : ProviderOutcome) (verification : Option VerificationReport) :
    Except PayloadError ReconcileDecision := do
  if providerOutcome = .unknown then
    return halt .recoveryRequired .providerOutcomeUnknown
      (str ("the apply's outcome was never established; the provider may have acted on a call " ++
        "whose result was never seen, so nothing may be re-applied until a human establishes " ++
        "what exists"))
  if !observed.reachable then
    return halt .recoveryRequired .providerUnobservable
      (str ("the provider could not be observed; resources may or may not exist and re-applying " ++
        "over an unknown state is how a second copy of the range gets built"))
  let desiredGuests ← desiredGuestsOf desiredState
  let gaps := observationGaps observed (← anyUnstamped desiredGuests)
  if !gaps.isEmpty then
    return halt .recoveryRequired .observationIncomplete
      (str ("the observation is partial and a partial observation is exactly the gap a duplicate " ++
        "is created in: ") ++ join (str "; ") gaps)
  if !(← ledger.getOr (str "sealed") .null).truthy then
    return halt .recoveryRequired .ledgerNotSealed
      (str ("the allocation ledger is not sealed; a resume would hand any missing guest a new vmid " ++
        "and a new address, silently allocating fresh identities during what is supposed to be " ++
        "a retry of an approved plan"))
  if verification.any fun report => report.outcome = .isolationFailed then
    return halt .isolationFailed .isolationViolationObserved
      (str ("a forbidden path was OBSERVED to work; this range must be torn down rather than " ++
        "reconciled forward"))
  let byVmid := observedByVmid observed
  let ledgerIds ← ledgerVmids ledger
  let foreign := (← desiredGuests.mapM (foreignAt byVmid)).flatten
  if !foreign.isEmpty then
    return halt .stateDisagreement .foreignObjectAtAllocatedId
      (str ("an object exists at an id this plan allocated but does not carry this range's " ++
        "ownership stamp (") ++ join (str "; ") (sortedBy id foreign) ++
        str "); it is neither adopted nor removed")
  let expectedVmids := (← desiredGuests.mapM guestVmid).dedup
  let absent := absentVmids byVmid expectedVmids
  let claimedButAbsent := claimedButAbsentOf observed
  if !claimedButAbsent.isEmpty then
    return halt .stateDisagreement .stateClaimsAbsentResource
      (str "OpenTofu state claims resources the provider does not report (" ++
        listRepr (claimedButAbsent.take 5) ++
        str ("); resuming would either duplicate them or fail on an address state already holds"))
  if absent.isEmpty then
    return ⟨.noAction, (verification.map VerificationReport.outcome).getD .verified, .converged,
      str "all " ++ natStr expectedVmids.length ++ str (" expected guest(s) are present and carry " ++
        "this range's ownership stamp"), [], fun h => absurd rfl h⟩
  let unledgered := sortedBy id (absent.filter fun vmid => vmid ∉ ledgerIds)
  if !unledgered.isEmpty then
    return halt .stateDisagreement .resourceNotInSealedLedger
      (str "the desired state expects vmid(s) " ++ intListText unledgered ++
        str (" that the sealed ledger does not record; resuming would create infrastructure no " ++
          "approved allocation covers"))
  return ⟨.resumeApply, .verificationFailed, .resourcesProvedAbsent,
    natStr absent.length ++ str (" guest(s) were proved absent by a complete observation and are " ++
      "recorded in the sealed ledger; they may be created at their existing identifiers"), absent,
    fun _ => rfl⟩

/-! ## What the checks establish -/

variable {desiredState ledger : Json} {observed : ObservedInfrastructure}
  {providerOutcome : ProviderOutcome} {verification : Option VerificationReport}
  {decision : ReconcileDecision}

/-- A guest of the desired state is observed, with the stamp it must carry. -/
def OwnedAt (guest : Json) (live : ObservedGuest) : Prop :=
  guestVmid guest = .ok live.vmid ∧ ∃ expected, expectedOwnership guest = .ok (some expected) ∧
    provenanceOf live.tags expected = .secpOwned

/-- The decision got past every check that comes before the comparison of ids. -/
structure Passed (desiredState ledger : Json) (observed : ObservedInfrastructure)
    (providerOutcome : ProviderOutcome) (verification : Option VerificationReport)
    (desiredGuests : List Json) (vmids ledgerIds : List Int) : Prop where
  outcome_known : providerOutcome ≠ .unknown
  reachable : observed.reachable = true
  guests : desiredGuestsOf desiredState = .ok desiredGuests
  complete : observationGaps observed false = []
  stamped : anyUnstamped desiredGuests = .ok false
  isSealed : ∃ value, ledger.getOr (str "sealed") .null = .ok value ∧ value.truthy = true
  not_violated : ∀ report ∈ verification, report.outcome ≠ .isolationFailed
  ledgered : ledgerVmids ledger = .ok ledgerIds
  owned : ∃ foreign, desiredGuests.mapM (foreignAt (observedByVmid observed)) = .ok foreign ∧
    foreign.flatten = []
  vmids : desiredGuests.mapM guestVmid = .ok vmids
  present : claimedButAbsentOf observed = []

omit [Unicode] in
theorem eq_nil_of_not_isEmpty {α : Type} {xs : List α} (h : ¬(!xs.isEmpty) = true) : xs = [] := by
  cases xs with
  | nil => rfl
  | cons x rest => exact absurd rfl h

omit [Unicode] in
theorem observationGaps_eq_nil {unstamped : Bool} (h : observationGaps observed unstamped = []) :
    observationGaps observed false = [] ∧ unstamped = false := by
  unfold observationGaps at h ⊢
  obtain ⟨hfront, hstamped⟩ := List.append_eq_nil_iff.mp h
  cases unstamped with
  | true => cases hstamped
  | false => exact ⟨h, rfl⟩

/-- What a decision is when it is not to stop. -/
theorem decided (h : decideReconciliation desiredState ledger observed providerOutcome verification =
      .ok decision) :
    (decision.action = .halt ∧ decision.createVmids = []) ∨
      ∃ desiredGuests vmids ledgerIds,
        Passed desiredState ledger observed providerOutcome verification desiredGuests vmids ledgerIds ∧
        (absentVmids (observedByVmid observed) vmids.dedup = [] ∧ decision.action = .noAction ∧
            decision.createVmids = [] ∨
          (∀ vmid ∈ absentVmids (observedByVmid observed) vmids.dedup, vmid ∈ ledgerIds) ∧
            decision.action = .resumeApply ∧
            decision.createVmids = absentVmids (observedByVmid observed) vmids.dedup) := by
  unfold decideReconciliation at h
  split at h
  · cases h
    exact .inl ⟨rfl, rfl⟩
  next houtcome =>
  split at h
  · cases h
    exact .inl ⟨rfl, rfl⟩
  next hreachable =>
  obtain ⟨desiredGuests, hguests, h⟩ := except_bind_eq_ok.mp h
  obtain ⟨unstamped, hstamped, h⟩ := except_bind_eq_ok.mp h
  dsimp only at h
  split at h
  · cases h
    exact .inl ⟨rfl, rfl⟩
  next hgaps =>
  obtain ⟨value, hsealed, h⟩ := except_bind_eq_ok.mp h
  split at h
  · cases h
    exact .inl ⟨rfl, rfl⟩
  next htruthy =>
  split at h
  · cases h
    exact .inl ⟨rfl, rfl⟩
  next hviolated =>
  obtain ⟨ledgerIds, hledger, h⟩ := except_bind_eq_ok.mp h
  obtain ⟨foreign, hforeign, h⟩ := except_bind_eq_ok.mp h
  split at h
  · cases h
    exact .inl ⟨rfl, rfl⟩
  next hflatten =>
  obtain ⟨vmids, hvmids, h⟩ := except_bind_eq_ok.mp h
  split at h
  · cases h
    exact .inl ⟨rfl, rfl⟩
  next hclaimed =>
  have hpassed : Passed desiredState ledger observed providerOutcome verification desiredGuests vmids
      ledgerIds := by
    obtain ⟨hcomplete, rfl⟩ := observationGaps_eq_nil (eq_nil_of_not_isEmpty hgaps)
    refine ⟨houtcome, by simpa using hreachable, hguests, hcomplete, hstamped,
      ⟨value, hsealed, by simpa using htruthy⟩, fun report hreport heq => hviolated ?_, hledger,
      ⟨foreign, hforeign, eq_nil_of_not_isEmpty hflatten⟩, hvmids, eq_nil_of_not_isEmpty hclaimed⟩
    rw [Option.mem_def.mp hreport]
    exact decide_eq_true heq
  split at h
  · next hempty =>
      cases h
      exact .inr ⟨desiredGuests, vmids, ledgerIds, hpassed,
        .inl ⟨List.isEmpty_iff.mp hempty, rfl, rfl⟩⟩
  next hsome =>
  split at h
  · cases h
    exact .inl ⟨rfl, rfl⟩
  next hledgered =>
  cases h
  refine .inr ⟨desiredGuests, vmids, ledgerIds, hpassed, .inr ⟨fun vmid hvmid => ?_, rfl, rfl⟩⟩
  by_contra hnot
  have hmem : vmid ∈ sortedBy id ((absentVmids (observedByVmid observed) vmids.dedup).filter
      fun vmid => vmid ∉ ledgerIds) :=
    mem_sortedBy.mpr (List.mem_filter.mpr ⟨hvmid, decide_eq_true hnot⟩)
  rw [eq_nil_of_not_isEmpty hledgered] at hmem
  cases hmem

/-! ## What a decision licenses -/

/-- An id the ledger records as a guest's. -/
def Recorded (ledger : Json) (vmid : Int) : Prop :=
  ∃ allocations records, ledger.getOr (str "allocations") (.arr []) = .ok allocations ∧
    allocations.elements = .ok records ∧ ∃ record ∈ records,
      (record.getOr (str "kind") .null = .ok (.str (str "vmid")) ∨
        record.getOr (str "kind") .null = .ok (.str (str "lxc_id"))) ∧
      (record.get? (str "value")).bind Json.toInt? = some vmid

theorem recorded_of_mem {ledgerIds : List Int} (h : ledgerVmids ledger = .ok ledgerIds) {vmid : Int}
    (hmem : vmid ∈ ledgerIds) : Recorded ledger vmid := by
  unfold ledgerVmids at h
  obtain ⟨allocations, hallocations, h⟩ := except_bind_eq_ok.mp h
  obtain ⟨records, hrecords, h⟩ := except_bind_eq_ok.mp h
  obtain ⟨vmids, hvmids, h⟩ := except_bind_eq_ok.mp h
  cases h
  obtain ⟨_, hread, rfl⟩ := List.mem_filterMap.mp hmem
  obtain ⟨record, hrecord, hread⟩ := forall₂_exists_left (mapM_eq_ok_iff.mp hvmids) hread
  unfold ledgerVmid at hread
  obtain ⟨kind, hkind, hread⟩ := except_bind_eq_ok.mp hread
  refine ⟨allocations, records, hallocations, hrecords, record, hrecord, ?_⟩
  split at hread
  · next hguest =>
      refine ⟨?_, Except.ok.inj hread⟩
      rcases hguest with rfl | rfl
      · exact .inl hkind
      · exact .inr hkind
  · cases hread

/-- Every desired guest has a readable id, and nothing else does. -/
theorem Passed.mem_vmids {desiredGuests : List Json} {vmids ledgerIds : List Int}
    (h : Passed desiredState ledger observed providerOutcome verification desiredGuests vmids ledgerIds)
    {vmid : Int} : vmid ∈ vmids ↔ ∃ guest ∈ desiredGuests, guestVmid guest = .ok vmid := by
  constructor
  · intro hmem
    exact forall₂_exists_left (mapM_eq_ok_iff.mp h.vmids) hmem
  · rintro ⟨guest, hguest, hvmid⟩
    obtain ⟨vmid', hmem, hread⟩ := exists_of_mapM_eq_ok h.vmids hguest
    cases hread.symm.trans hvmid
    exact hmem

theorem stamped_of_anyUnstamped {guests : List Json} (h : anyUnstamped guests = .ok false)
    {guest : Json} (hguest : guest ∈ guests) :
    ∃ expected, expectedOwnership guest = .ok (some expected) := by
  induction guests with
  | nil => cases hguest
  | cons first rest ih =>
      unfold anyUnstamped at h
      obtain ⟨expected, hexpected, h⟩ := except_bind_eq_ok.mp h
      cases expected with
      | none => cases h
      | some expected =>
          rcases List.mem_cons.mp hguest with rfl | hguest
          · exact ⟨expected, hexpected⟩
          · exact ih h hguest

omit [Unicode] in
/-- The guest found at an id is the one observed there. -/
theorem get?_observedByVmid (hdistinct : (observed.guests.map ObservedGuest.vmid).Nodup) {vmid : Int}
    {live : ObservedGuest} : (observedByVmid observed).get? vmid = some live ↔
      live ∈ observed.guests ∧ live.vmid = vmid := Dict.get?_index hdistinct

theorem Passed.ownedAt {desiredGuests : List Json} {vmids ledgerIds : List Int}
    (h : Passed desiredState ledger observed providerOutcome verification desiredGuests vmids ledgerIds)
    (hdistinct : (observed.guests.map ObservedGuest.vmid).Nodup) {guest : Json}
    (hguest : guest ∈ desiredGuests) {live : ObservedGuest} (hlive : live ∈ observed.guests)
    (hvmid : guestVmid guest = .ok live.vmid) : OwnedAt guest live := by
  obtain ⟨foreign, hforeign, hnone⟩ := h.owned
  obtain ⟨found, hfound, hread⟩ := exists_of_mapM_eq_ok hforeign hguest
  have hempty : found = [] := List.flatten_eq_nil_iff.mp hnone found hfound
  obtain ⟨expected, hexpected⟩ := stamped_of_anyUnstamped h.stamped hguest
  refine ⟨hvmid, expected, hexpected, ?_⟩
  unfold foreignAt at hread
  rw [except_bind_of_ok hvmid, except_bind_of_ok hexpected,
    (get?_observedByVmid hdistinct).mpr ⟨hlive, rfl⟩] at hread
  dsimp only at hread
  split at hread
  · next howned => exact howned
  · rw [← Except.ok.inj hread] at hempty
    cases hempty

omit [Unicode] in
/-- The ids a resume would create: the desired ones that nothing was observed at. -/
theorem mem_absentVmids (hdistinct : (observed.guests.map ObservedGuest.vmid).Nodup) {vmids : List Int}
    {vmid : Int} : vmid ∈ absentVmids (observedByVmid observed) vmids.dedup ↔
      vmid ∈ vmids ∧ ∀ live ∈ observed.guests, live.vmid ≠ vmid := by
  have hkey : (observedByVmid observed).hasKey vmid = false ↔
      ∀ live ∈ observed.guests, live.vmid ≠ vmid := by
    rw [Dict.hasKey, Option.isSome_eq_false_iff, Option.isNone_iff_eq_none,
      Option.eq_none_iff_forall_ne_some]
    simp only [ne_eq, get?_observedByVmid hdistinct, not_and]
  rw [absentVmids, mem_sortedBy, List.mem_filter, List.mem_dedup, Bool.not_eq_true', hkey]

/-- What must be so for a resume, and what it may create. -/
structure Resumable (desiredState ledger : Json) (observed : ObservedInfrastructure)
    (providerOutcome : ProviderOutcome) (verification : Option VerificationReport)
    (desiredGuests : List Json) (createVmids : List Int) : Prop where
  outcome_known : providerOutcome ≠ .unknown
  reachable : observed.reachable = true
  state_read : observed.tofuStateAddresses ≠ none
  provider_read : observed.observedAddresses ≠ none
  tags_read : ∀ live ∈ observed.guests, live.tags ≠ none
  isSealed : ∃ value, ledger.getOr (str "sealed") .null = .ok value ∧ value.truthy = true
  not_violated : ∀ report ∈ verification, report.outcome ≠ .isolationFailed
  owned : ∀ guest ∈ desiredGuests, ∀ live ∈ observed.guests, guestVmid guest = .ok live.vmid →
    OwnedAt guest live
  present : ∀ address ∈ observed.tofuStateAddresses.getD [],
    address ∈ observed.observedAddresses.getD []
  create : ∀ vmid, vmid ∈ createVmids ↔ (∃ guest ∈ desiredGuests, guestVmid guest = .ok vmid) ∧
    ∀ live ∈ observed.guests, live.vmid ≠ vmid
  create_once : createVmids.Nodup
  ledgered : ∀ vmid ∈ createVmids, Recorded ledger vmid

/-- A resume creates what was proved absent and nothing else, nothing but a resume creates anything, and
nothing is left to do only when every desired guest is there and ours. -/
structure Safe (desiredState ledger : Json) (observed : ObservedInfrastructure)
    (providerOutcome : ProviderOutcome) (verification : Option VerificationReport)
    (decision : ReconcileDecision) : Prop where
  resume : decision.action = .resumeApply → ∃ desiredGuests,
    desiredGuestsOf desiredState = .ok desiredGuests ∧
      Resumable desiredState ledger observed providerOutcome verification desiredGuests
        decision.createVmids
  create_only : decision.action ≠ .resumeApply → decision.createVmids = []
  converged : decision.action = .noAction → ∃ desiredGuests,
    desiredGuestsOf desiredState = .ok desiredGuests ∧
      ∀ guest ∈ desiredGuests, ∃ live ∈ observed.guests, OwnedAt guest live

omit [Unicode] in
/-- What a complete observation has. -/
theorem complete_of_observationGaps (h : observationGaps observed false = []) :
    observed.tofuStateAddresses ≠ none ∧ observed.observedAddresses ≠ none ∧
      ∀ live ∈ observed.guests, live.tags ≠ none := by
  unfold observationGaps at h
  obtain ⟨hfront, -⟩ := List.append_eq_nil_iff.mp h
  obtain ⟨hfront, htags⟩ := List.append_eq_nil_iff.mp hfront
  obtain ⟨hstate, hprovider⟩ := List.append_eq_nil_iff.mp hfront
  refine ⟨fun hnone => ?_, fun hnone => ?_, fun live hlive hnone => ?_⟩
  · rw [hnone] at hstate
    cases hstate
  · rw [hnone] at hprovider
    cases hprovider
  · split at htags
    · next hempty =>
        have hmem : live.vmid ∈ (observed.guests.filter fun guest => guest.tags.isNone).map
            ObservedGuest.vmid :=
          List.mem_map_of_mem (List.mem_filter.mpr ⟨hlive, by rw [hnone]; rfl⟩)
        rw [List.isEmpty_iff.mp hempty] at hmem
        cases hmem
    · cases htags

/-- Reconciliation never licenses a duplicate or an adoption. -/
theorem decideReconciliation_safe (hdistinct : (observed.guests.map ObservedGuest.vmid).Nodup)
    (h : decideReconciliation desiredState ledger observed providerOutcome verification =
      .ok decision) :
    Safe desiredState ledger observed providerOutcome verification decision := by
  rcases decided h with ⟨hhalt, hnone⟩ | ⟨desiredGuests, vmids, ledgerIds, hpassed, hrest⟩
  · refine ⟨fun hresume => ?_, fun _ => hnone, fun hdone => ?_⟩
    · rw [hhalt] at hresume
      cases hresume
    · rw [hhalt] at hdone
      cases hdone
  rcases hrest with ⟨habsent, hdone, hnone⟩ | ⟨hledgered, hresume, hcreate⟩
  · refine ⟨fun hresume => ?_, fun _ => hnone, fun _ => ⟨desiredGuests, hpassed.guests, ?_⟩⟩
    · rw [hdone] at hresume
      cases hresume
    · intro guest hguest
      obtain ⟨vmid, hmem, hvmid⟩ := exists_of_mapM_eq_ok hpassed.vmids hguest
      have hobserved : ∃ live ∈ observed.guests, live.vmid = vmid := by
        by_contra hnot
        push Not at hnot
        have habsent' := (mem_absentVmids hdistinct).mpr ⟨hmem, hnot⟩
        rw [habsent] at habsent'
        cases habsent'
      obtain ⟨live, hlive, rfl⟩ := hobserved
      exact ⟨live, hlive, hpassed.ownedAt hdistinct hguest hlive hvmid⟩
  · refine ⟨fun _ => ⟨desiredGuests, hpassed.guests, ?_⟩, fun hnot => absurd hresume hnot,
      fun hdone => ?_⟩
    · obtain ⟨hstate, hprovider, htags⟩ := complete_of_observationGaps hpassed.complete
      refine ⟨hpassed.outcome_known, hpassed.reachable, hstate, hprovider, htags, hpassed.isSealed,
        hpassed.not_violated, fun guest hguest live hlive => hpassed.ownedAt hdistinct hguest hlive,
        fun address haddress => ?_, fun vmid => ?_, ?_, fun vmid hvmid => ?_⟩
      · by_contra hnot
        have hmem : address ∈ claimedButAbsentOf observed :=
          mem_sortedBy.mpr (List.mem_filter.mpr ⟨List.mem_dedup.mpr haddress, decide_eq_true hnot⟩)
        rw [hpassed.present] at hmem
        cases hmem
      · rw [hcreate, mem_absentVmids hdistinct, hpassed.mem_vmids]
      · rw [hcreate]
        exact (sortedBy_perm _ _).nodup_iff.mpr ((List.nodup_dedup vmids).filter _)
      · rw [hcreate] at hvmid
        exact recorded_of_mem hpassed.ledgered (hledgered vmid hvmid)
    · rw [hresume] at hdone
      cases hdone

end

/-! ### A resume -/

/-- One guest at the id 9000. -/
def resumableState : Json :=
  .obj [(str "guests", .arr [.obj [
    (str "vmid", .int 9000),
    (str "ownership", .obj [
      (str "organization_id", .str (str "o")),
      (str "target_id", .str (str "t")),
      (str "range_id", .str (str "r")),
      (str "generation", .int 1),
      (str "operation_generation", .int 0),
      (str "resource_kind", .str (str "virtual_machine")),
      (str "team_ref", .str (str "red"))])]])]

def resumableLedger : Json :=
  .obj [(str "sealed", .bool true), (str "allocations", .arr [.obj [
    (str "kind", .str (str "vmid")), (str "value", .str (str "9000"))]])]

/-- Nothing is there. -/
def resumableObservation : ObservedInfrastructure :=
  { reachable := true, tofuStateAddresses := some [], observedAddresses := some [] }

theorem resumable_resumes : (resumableObservation.guests.map ObservedGuest.vmid).Nodup ∧
    ∃ decision, @decideReconciliation Unicode.ascii resumableState resumableLedger resumableObservation
        .failed none = .ok decision ∧ decision.action = .resumeApply ∧
      @Safe Unicode.ascii resumableState resumableLedger resumableObservation .failed none
        decision := by
  let _ := Unicode.ascii
  have hdistinct : (resumableObservation.guests.map ObservedGuest.vmid).Nodup := List.nodup_nil
  have hrun : (decideReconciliation resumableState resumableLedger resumableObservation .failed
      none).toOption.any (fun decision => decision.action = .resumeApply) = true := by
    with_unfolding_all decide
  obtain ⟨decision, hok, hresume⟩ := exists_of_toOption_any hrun
  exact ⟨hdistinct, decision, hok, of_decide_eq_true hresume,
    decideReconciliation_safe hdistinct hok⟩

end Secp.Worker
