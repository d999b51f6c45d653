import Secp.Python.Payload
import Secp.Worker.Observation

/-!
# Findings of a verification

A check that could not be run is not one that failed: a finding carries a verdict exactly when it was
observed, and a structure field says so. The outcome is decided over the findings in a fixed order of
severity. The checks of this module compare the approved desired state, an untyped payload, with the
observation; they conclude nothing about isolation.
-/

namespace Secp.Worker

open Secp.Python

/-! ## Findings -/

inductive VerificationOutcome where
  | verified
  | verificationFailed
  | isolationFailed
  | stateDisagreement
  | recoveryRequired
  deriving DecidableEq

inductive VerificationCheck where
  | guestInventory
  | guestNames
  | nodePlacement
  | disksAndStorage
  | nicsAndMacs
  | networkObjects
  | firewallObjects
  | ownershipTags
  | powerState
  | guestReadiness
  | requiredReachability
  | crossTeamDenial
  | managementDenial
  | protectedDenial
  | externalDenial
  | stateAgreement
  deriving DecidableEq

/-- `ISOLATION_CHECKS`. -/
def isolationChecks : List VerificationCheck :=
  [.crossTeamDenial, .managementDenial, .protectedDenial, .externalDenial]

/-- What a reachability probe established. -/
inductive ProbeVerdict where
  | reachable
  | blocked
  | unknown
  deriving DecidableEq

/-- One check's result. A verdict is there exactly when the check was observed. -/
structure CheckFinding where
  check : VerificationCheck
  observed : Bool
  ok : Option Bool
  detail : Str
  verdict_iff_observed : ok.isSome = observed
  deriving DecidableEq

/-- The check could not be run. -/
def CheckFinding.unobserved (check : VerificationCheck) (detail : Str) : CheckFinding :=
  ⟨check, false, none, detail, rfl⟩

/-- The check ran. -/
def CheckFinding.observedResult (check : VerificationCheck) (ok : Bool) (detail : Str) :
    CheckFinding := ⟨check, true, some ok, detail, rfl⟩

/-- Anything but an observed pass. -/
def CheckFinding.countsAsFailure (finding : CheckFinding) : Bool :=
  !(finding.observed && finding.ok = some true)

/-- The check ran and failed. -/
def CheckFinding.violated (finding : CheckFinding) : Bool :=
  finding.observed && finding.ok = some false

/-- `finding_from`: without an observation the verdict is discarded. -/
def findingFrom (check : VerificationCheck) (observed ok : Bool) (detail : Str) : CheckFinding :=
  if observed then .observedResult check ok detail else .unobserved check detail

@[simp] theorem check_findingFrom (check : VerificationCheck) (observed ok : Bool) (detail : Str) :
    (findingFrom check observed ok detail).check = check := by
  unfold findingFrom
  cases observed <;> rfl

@[simp] theorem violated_findingFrom (check : VerificationCheck) (observed ok : Bool)
    (detail : Str) :
    (findingFrom check observed ok detail).violated = (observed && !ok) := by
  cases observed <;> cases ok <;> rfl

@[simp] theorem countsAsFailure_findingFrom (check : VerificationCheck) (observed ok : Bool)
    (detail : Str) :
    (findingFrom check observed ok detail).countsAsFailure = !(observed && ok) := by
  cases observed <;> cases ok <;> rfl

structure VerificationReport where
  outcome : VerificationOutcome
  findings : List CheckFinding := []
  deriving DecidableEq

/-- `decide_outcome`. -/
def decideOutcome (findings : List CheckFinding) (providerReachable : Bool) :
    VerificationOutcome :=
  if !providerReachable then .recoveryRequired
  else if findings.any fun f => f.check ∈ isolationChecks && f.violated then .isolationFailed
  else if (findings.find? fun f => f.check = .stateAgreement).any CheckFinding.violated then
    .stateDisagreement
  else if findings.any CheckFinding.countsAsFailure then .verificationFailed
  else .verified

/-- A forbidden path that was proved to work outranks everything but a provider that could not be
observed. -/
theorem decideOutcome_eq_isolationFailed_iff {findings : List CheckFinding} :
    decideOutcome findings true = .isolationFailed ↔
      ∃ f ∈ findings, f.check ∈ isolationChecks ∧ f.violated = true := by
  unfold decideOutcome
  have hany : (findings.any fun f => f.check ∈ isolationChecks && f.violated) = true ↔
      ∃ f ∈ findings, f.check ∈ isolationChecks ∧ f.violated = true := by
    simp
  rw [← hany]
  cases findings.any fun f => f.check ∈ isolationChecks && f.violated with
  | true => simp
  | false =>
      simp only [Bool.not_true, Bool.false_eq_true, if_false, iff_false]
      split
      · simp
      · split <;> simp

/-- Only findings that all passed are verified. -/
theorem passed_of_decideOutcome_verified {findings : List CheckFinding}
    (h : decideOutcome findings true = .verified) : ∀ f ∈ findings, f.countsAsFailure = false := by
  unfold decideOutcome at h
  split at h
  · cases h
  · split at h
    · cases h
    · split at h
      · cases h
      · split at h
        · cases h
        · rename_i hnone
          intro f hf
          rw [Bool.not_eq_true, List.any_eq_false] at hnone
          exact Bool.eq_false_iff.mpr (hnone f hf)

/-! ## Texts -/

/-- A list of integers as an f-string shows it. -/
def intListText (items : List Int) : Str := ['['] ++ join (str ", ") (items.map intStr) ++ [']']

/-- `repr` of an optional text. -/
def optionRepr [Unicode] : Option Str → Str
  | none => str "None"
  | some s => strRepr s

def boolText (b : Bool) : Str := if b then str "True" else str "False"

/-- The detail of a check over many objects: what was not reported, else what is wrong, else that all
is well. -/
def sweepDetail (unobserved : Nat) (unobservedText : Str) (problems : List Str) (allText : Str) :
    Str :=
  if unobserved ≠ 0 then natStr unobserved ++ unobservedText
  else if problems.isEmpty then allText
  else join (str "; ") problems

/-! ## Guests -/

section
variable [Unicode]

/-- What a loop over the desired guests collects: how many live guests did not report, and what is
wrong with the others. A guest that is not there is skipped. -/
def sweepGuests (byVmid : Dict Int ObservedGuest)
    (look : Json → ObservedGuest → Except PayloadError (Option (List Str))) :
    List Json → Except PayloadError (Nat × List Str)
  | [] => .ok (0, [])
  | guest :: rest => do
      let vmid ← (← guest.getItem (str "vmid")).toInt
      match byVmid.get? vmid with
      | none => sweepGuests byVmid look rest
      | some live =>
          match ← look guest live with
          | none => do
              let (unobserved, problems) ← sweepGuests byVmid look rest
              pure (unobserved + 1, problems)
          | some found => do
              let (unobserved, problems) ← sweepGuests byVmid look rest
              pure (unobserved, found ++ problems)

/-- The finding of such a loop. -/
def guestFinding (byVmid : Dict Int ObservedGuest) (desiredGuests : List Json)
    (check : VerificationCheck) (unobservedText allText : Str)
    (look : Json → ObservedGuest → Except PayloadError (Option (List Str))) :
    Except PayloadError CheckFinding := do
  let (unobserved, problems) ← sweepGuests byVmid look desiredGuests
  pure (findingFrom check (unobserved = 0) problems.isEmpty
    (sweepDetail unobserved unobservedText problems allText))

/-- `f"vmid {guest['vmid']}"`. -/
def vmidText (guest : Json) : Except PayloadError Str := do
  pure (str "vmid " ++ (← guest.getItem (str "vmid")).text)

/-- `compare`: one attribute against one key. -/
def compareLook (read : ObservedGuest → Option Str) (expectedKey : Str) (guest : Json)
    (live : ObservedGuest) : Except PayloadError (Option (List Str)) :=
  match read live with
  | none => pure none
  | some actual => do
      let expected ← guest.getItem expectedKey
      if expected = .str actual then pure (some [])
      else pure (some [(← vmidText guest) ++ str ": " ++ strRepr actual ++ str " != " ++
        expected.reprText])

/-- One desired disk against the live one at its slot. -/
def diskProblems (guest : Json) (liveBySlot : Dict Str ObservedDisk) (disk : Json) :
    Except PayloadError (List Str) := do
  let slot ← disk.getItem (str "slot")
  if !slot.hashable then throw .typeError
  let live := match slot with
    | .str s => liveBySlot.get? s
    | _ => none
  match live with
  | none => pure [(← vmidText guest) ++ str ": no disk at " ++ slot.text]
  | some actual => do
      let storage ← match actual.storageId with
        | none => pure []
        | some storageId => do
            let expected ← disk.getItem (str "storage_id")
            if expected = .str storageId then pure []
            else pure [(← vmidText guest) ++ str " " ++ slot.text ++ str ": storage " ++
              strRepr storageId ++ str " != " ++ expected.reprText]
      let size ← match actual.sizeGb with
        | none => pure []
        | some sizeGb => do
            let expected ← disk.getItem (str "size_gb")
            if expected.eqInt sizeGb then pure []
            else pure [(← vmidText guest) ++ str " " ++ slot.text ++ str ": size " ++
              intStr sizeGb ++ str " != " ++ expected.text]
      pure (storage ++ size)

def diskLook (guest : Json) (live : ObservedGuest) :
    Except PayloadError (Option (List Str)) :=
  if live.disks.isEmpty then pure none
  else do
    let liveBySlot := Dict.ofPairs (live.disks.map fun disk => (disk.slot, disk))
    let disks ← (← guest.getOr (str "disks") (.arr [])).elements
    let problems ← disks.mapM (diskProblems guest liveBySlot)
    pure (some problems.flatten)

/-- Two lists with the same items. -/
def sameItems (xs ys : List Str) : Bool := xs.all (· ∈ ys) && ys.all (· ∈ xs)

def macLook (guest : Json) (live : ObservedGuest) : Except PayloadError (Option (List Str)) :=
  if live.macs.isEmpty then pure none
  else do
    let nics ← (← guest.getOr (str "nics") (.arr [])).elements
    let expected ← nics.mapM fun nic => do
      pure (upper (← nic.getItem (str "mac_address")).text)
    let actual := live.macs.map upper
    if sameItems expected actual then pure (some [])
    else pure (some [(← vmidText guest) ++ str ": " ++ listRepr (sortedBy id actual.dedup) ++
      str " != " ++ listRepr (sortedBy id expected.dedup)])

def tagLook (guest : Json) (live : ObservedGuest) : Except PayloadError (Option (List Str)) :=
  match live.tags with
  | none => pure none
  | some tags => do
      let ownership := (← guest.getOr (str "ownership") .null).orElse (.obj [])
      let expected ← ((← ownership.getOr (str "tags") .null).orElse (.obj [])).pairs
      let problems ← expected.mapM fun tag => do
        let actual := tags.get? tag.1
        if tag.2 = actual.elim .null .str then pure []
        else pure [(← vmidText guest) ++ str ": " ++ tag.1 ++ str "=" ++ optionRepr actual]
      pure (some problems.flatten)

def powerLook (guest : Json) (live : ObservedGuest) : Except PayloadError (Option (List Str)) :=
  match live.poweredOn with
  | none => pure none
  | some actual => do
      let expected ← guest.getOr (str "start_on_deploy") (.bool true)
      if actual = expected.truthy then pure (some [])
      else pure (some [(← vmidText guest) ++ str ": powered_on=" ++ boolText actual])

def readyLook (guest : Json) (live : ObservedGuest) : Except PayloadError (Option (List Str)) :=
  match live.ready with
  | none => pure none
  | some true => pure (some [])
  | some false => do pure (some [(← vmidText guest) ++ str ": not ready"])

/-- `_check_guests`. -/
def checkGuests (desiredGuests : List Json) (observed : ObservedInfrastructure) :
    Except PayloadError (List CheckFinding) := do
  let byVmid := Dict.ofPairs (observed.guests.map fun guest => (guest.vmid, guest))
  let expectedVmids ← desiredGuests.mapM fun guest => do
    (← guest.getItem (str "vmid")).toInt
  let liveVmids := byVmid.map Prod.fst
  let missing := sortedBy id (expectedVmids.dedup.filter (· ∉ liveVmids))
  let unexpected := sortedBy id (liveVmids.filter (· ∉ expectedVmids))
  let inventory := findingFrom .guestInventory true (missing.isEmpty && unexpected.isEmpty)
    (if missing.isEmpty && unexpected.isEmpty then
      natStr expectedVmids.dedup.length ++ str " guest(s) expected and observed"
    else str "missing vmids " ++ intListText missing ++ str ", unexpected vmids " ++
      intListText unexpected)
  let names ← guestFinding byVmid desiredGuests .guestNames
    (str " guest(s) did not report name") (str "all guests match on name")
    (compareLook ObservedGuest.name (str "name"))
  let nodes ← guestFinding byVmid desiredGuests .nodePlacement
    (str " guest(s) did not report node_name") (str "all guests match on node_name")
    (compareLook ObservedGuest.nodeName (str "node_name"))
  let disks ← guestFinding byVmid desiredGuests .disksAndStorage
    (str " guest(s) reported no disks") (str "all disks match") diskLook
  let macs ← guestFinding byVmid desiredGuests .nicsAndMacs
    (str " guest(s) reported no NICs") (str "all MACs match") macLook
  let tags ← guestFinding byVmid desiredGuests .ownershipTags
    (str " guest(s) reported no ownership tags") (str "every guest carries its ownership stamp")
    tagLook
  let power ← guestFinding byVmid desiredGuests .powerState
    (str " guest(s) did not report power state") (str "all guests match on power state") powerLook
  let ready ← guestFinding byVmid desiredGuests .guestReadiness
    (str " guest(s) did not report readiness") (str "all guests match on readiness") readyLook
  pure [inventory, names, nodes, disks, macs, tags, power, ready]

/-! ## The network and its firewall -/

/-- What the loop over the desired VNets collects. -/
def sweepVNets (liveVNets : Dict Str ObservedVNet) :
    List Json → Except PayloadError (Nat × List Str)
  | [] => .ok (0, [])
  | vnet :: rest => do
      let name := (← vnet.getItem (str "name"))
      match liveVNets.get? name.text with
      | none => do
          let (unobserved, problems) ← sweepVNets liveVNets rest
          pure (unobserved, (str "VNet " ++ name.reprText ++ str " not observed") :: problems)
      | some live =>
          match live.vlanTag, live.cidr with
          | some vlanTag, some cidr => do
              let expectedTag ← vnet.getItem (str "vlan_tag")
              let expectedCidr ← (← vnet.getItem (str "subnet")).getItem (str "cidr")
              let tagProblems :=
                if expectedTag.eqInt vlanTag then []
                else [str "VNet " ++ name.text ++ str ": vlan " ++ intStr vlanTag ++ str " != " ++
                  expectedTag.text]
              let cidrProblems :=
                if expectedCidr = .str cidr then []
                else [str "VNet " ++ name.text ++ str ": cidr " ++ cidr ++ str " != " ++
                  expectedCidr.text]
              let (unobserved, problems) ← sweepVNets liveVNets rest
              pure (unobserved, tagProblems ++ cidrProblems ++ problems)
          | _, _ => do
              let (unobserved, problems) ← sweepVNets liveVNets rest
              pure (unobserved + 1, problems)

/-- `_check_network`. -/
def checkNetwork (network : Json) (desiredVNets : List Json) (observed : ObservedInfrastructure) :
    Except PayloadError (List CheckFinding) := do
  let zone := (← network.getOr (str "zone") .null).orElse (.obj [])
  let zoneName ← zone.getOr (str "name") .null
  let zoneProblems :=
    if zoneName.truthy && observed.zones.all (fun zone => zoneName ≠ .str zone) then
      [str "SDN zone " ++ zoneName.reprText ++ str " not observed"]
    else []
  let liveVNets := Dict.ofPairs (observed.vnets.map fun vnet => (vnet.name, vnet))
  let (unobserved, vnetProblems) ← sweepVNets liveVNets desiredVNets
  let problems := zoneProblems ++ vnetProblems
  pure [findingFrom .networkObjects (unobserved = 0) problems.isEmpty
    (sweepDetail unobserved (str " VNet(s) did not report a tag or subnet") problems
      (str "zone and " ++ natStr desiredVNets.length ++ str " VNet(s) match"))]

/-- The names under a key of the network, as texts. -/
def namesUnder (network : Json) (key : Str) : Except PayloadError (List Str) := do
  let items ← (← network.getOr key (.arr [])).elements
  items.mapM fun item => do pure (← item.getItem (str "name")).text

/-- `_check_firewall`: the objects are there, which says nothing about isolation. -/
def checkFirewall (network : Json) (observed : ObservedInfrastructure) :
    Except PayloadError CheckFinding := do
  let expectedGroups ← namesUnder network (str "security_groups")
  let expectedSets ← namesUnder network (str "ip_sets")
  let missingGroups := sortedBy id (expectedGroups.dedup.filter (· ∉ observed.securityGroups))
  let missingSets := sortedBy id (expectedSets.dedup.filter (· ∉ observed.ipSets))
  let ok := missingGroups.isEmpty && missingSets.isEmpty
  pure (findingFrom .firewallObjects true ok
    (if ok then
      natStr expectedGroups.dedup.length ++ str " security group(s) and " ++
        natStr expectedSets.dedup.length ++ str " IPSet(s) present"
    else str "missing groups " ++ listRepr missingGroups ++ str ", missing ipsets " ++
      listRepr missingSets))

/-- `_check_state_agreement`. -/
def checkStateAgreement (observed : ObservedInfrastructure) : CheckFinding :=
  match observed.tofuStateAddresses, observed.observedAddresses with
  | some inState, some inProvider =>
      let onlyState := sortedBy id (inState.dedup.filter (· ∉ inProvider))
      let onlyProvider := sortedBy id (inProvider.dedup.filter (· ∉ inState))
      let ok := onlyState.isEmpty && onlyProvider.isEmpty
      findingFrom .stateAgreement true ok
        (if ok then
          str "state and provider agree on " ++ natStr inState.dedup.length ++ str " resource(s)"
        else str "in state only: " ++ listRepr onlyState ++ str "; on provider only: " ++
          listRepr onlyProvider)
  | _, _ => findingFrom .stateAgreement false false
      (str "OpenTofu state or the provider observation was not collected for comparison")

end

end Secp.Worker
