import Secp.Proxmox.Manifest
import Secp.Proxmox.Workload

/-!
# Compiling a range's plan

`compilePlan` compiles the network and then the workload of a range from its recorded binding, always
from an empty ledger and with the default pools, and derives the three documents an operator
approves by hash: the manifest, the deletion set of a destroy and the scope of a reset.
-/

namespace Secp.Proxmox

open Secp.Python Secp.Logic

/-! ## Durable secrets -/

def privateKeyMarkers : List Str := [str "PRIVATE KEY-----", str "PuTTY-User-Key-File"]

/-- Where a leak is reported. -/
def leakPath (path : Str) : Str := if path.isEmpty then ['/'] else path

/-- Whether a text carries key material or a declared secret. -/
def scanText (needles : List Str) (path s : Str) : Except Raised Unit :=
  if privateKeyMarkers.any fun marker => contains marker s then
    .error (.model (str "private key material would be written to OpenTofu state at " ++
      leakPath path))
  else if needles.any fun needle => contains needle s then
    .error (.model (str "a value the caller declared secret would be written to OpenTofu state at " ++
      leakPath path ++
      str ("; dynamic per-range and per-team values travel over the post-provisioning channel as a " ++
        "MaterialRef, never through the desired state")))
  else .ok ()

mutual

/-- `_scan`. -/
def scan (needles : List Str) (path : Str) : Json → Except Raised Unit
  | .obj fields => scanFields needles path fields
  | .arr items => scanItems needles path 0 items
  | .str s => scanText needles path s
  | _ => .ok ()

def scanFields (needles : List Str) (path : Str) : List (Str × Json) → Except Raised Unit
  | [] => .ok ()
  | (key, value) :: rest => do
      scan needles (path ++ ['/'] ++ key) value
      scanFields needles path rest

def scanItems (needles : List Str) (path : Str) (index : Nat) : List Json → Except Raised Unit
  | [] => .ok ()
  | item :: rest => do
      scan needles (path ++ ['['] ++ natStr index ++ [']']) item
      scanItems needles path (index + 1) rest

end

/-- A text the scan lets through. -/
def CleanText (needles : List Str) (s : Str) : Prop :=
  (∀ marker ∈ privateKeyMarkers, contains marker s = false) ∧
    ∀ needle ∈ needles, contains needle s = false

theorem scanText_eq_ok_iff {needles : List Str} {path s : Str} :
    scanText needles path s = .ok () ↔ CleanText needles s := by
  unfold scanText CleanText
  by_cases hmarker : (privateKeyMarkers.any fun marker => contains marker s) = true
  · rw [if_pos hmarker]
    obtain ⟨marker, hmem, hcontains⟩ := List.any_eq_true.mp hmarker
    simp only [reduceCtorEq, false_iff]
    exact fun h => absurd hcontains (by rw [h.1 marker hmem]; decide)
  · rw [if_neg hmarker]
    simp only [List.any_eq_true, not_exists, not_and, Bool.not_eq_true] at hmarker
    by_cases hneedle : (needles.any fun needle => contains needle s) = true
    · rw [if_pos hneedle]
      obtain ⟨needle, hmem, hcontains⟩ := List.any_eq_true.mp hneedle
      simp only [reduceCtorEq, false_iff]
      exact fun h => absurd hcontains (by rw [h.2 needle hmem]; decide)
    · rw [if_neg hneedle]
      simp only [List.any_eq_true, not_exists, not_and, Bool.not_eq_true] at hneedle
      exact ⟨fun _ => ⟨hmarker, hneedle⟩, fun _ => rfl⟩

mutual

/-- The scan passes exactly the payloads all of whose texts are clean. -/
theorem scan_eq_ok_iff {needles : List Str} : ∀ (path : Str) (payload : Json),
    scan needles path payload = .ok () ↔ ∀ s ∈ payload.strings, CleanText needles s
  | path, .obj fields => scanFields_eq_ok_iff path fields
  | path, .arr items => scanItems_eq_ok_iff path 0 items
  | path, .str s => by simp [scan, Json.strings, scanText_eq_ok_iff]
  | path, .null => by simp [scan, Json.strings]
  | path, .bool b => by simp [scan, Json.strings]
  | path, .int n => by simp [scan, Json.strings]

theorem scanFields_eq_ok_iff {needles : List Str} : ∀ (path : Str) (fields : List (Str × Json)),
    scanFields needles path fields = .ok () ↔
      ∀ s ∈ Json.stringsFields fields, CleanText needles s
  | path, [] => by simp [scanFields, Json.stringsFields]
  | path, (key, value) :: rest => by
      rw [scanFields, except_bind_eq_ok, Json.stringsFields]
      simp only [List.mem_append, or_imp, forall_and, scan_eq_ok_iff _ value,
        scanFields_eq_ok_iff path rest, exists_const]

theorem scanItems_eq_ok_iff {needles : List Str} : ∀ (path : Str) (index : Nat) (items : List Json),
    scanItems needles path index items = .ok () ↔
      ∀ s ∈ Json.stringsItems items, CleanText needles s
  | path, index, [] => by simp [scanItems, Json.stringsItems]
  | path, index, item :: rest => by
      rw [scanItems, except_bind_eq_ok, Json.stringsItems]
      simp only [List.mem_append, or_imp, forall_and, scan_eq_ok_iff _ item,
        scanItems_eq_ok_iff path (index + 1) rest, exists_const]

end

section
variable [Unicode]

def minAlphaNeedle : Nat := 16

/-- The declared values a substring search cannot prove absent. -/
def unsearchableValues (values : List Str) : List Str :=
  sortedBy id (values.filter fun value =>
    value.length < 4 || (strIsAlpha value && strIsLower value && value.length < minAlphaNeedle)).dedup

/-- Refuse a payload that carries a durable secret. -/
def assertNoDurableSecrets (payload : Json) (forbiddenValues : List Str) : Except Raised Unit :=
  scan (forbiddenValues.filter fun value => value ∉ unsearchableValues forbiddenValues) [] payload

/-- The values the guard searches for. -/
def searchedValues (forbiddenValues : List Str) : List Str :=
  forbiddenValues.filter fun value => value ∉ unsearchableValues forbiddenValues

theorem assertNoDurableSecrets_eq_ok_iff {payload : Json} {forbiddenValues : List Str} :
    assertNoDurableSecrets payload forbiddenValues = .ok () ↔
      ∀ s ∈ payload.strings, CleanText (searchedValues forbiddenValues) s :=
  scan_eq_ok_iff [] payload

/-- No text of a payload, value or key, holds a private-key marker or a declared value that is not
reported as unsearchable. -/
def NoDurableSecret (payload : Json) (forbiddenValues : List Str) : Prop :=
  ∀ s, s ∈ payload.strings ∨ s ∈ payload.keys →
    (∀ marker ∈ privateKeyMarkers, contains marker s = false) ∧
      ∀ value ∈ forbiddenValues, value ∉ unsearchableValues forbiddenValues → contains value s = false

theorem noDurableSecret_iff {payload : Json} {forbiddenValues : List Str} :
    NoDurableSecret payload forbiddenValues ↔
      (∀ s ∈ payload.strings, CleanText (searchedValues forbiddenValues) s) ∧
        ∀ key ∈ payload.keys, CleanText (searchedValues forbiddenValues) key := by
  have hclean : ∀ s, CleanText (searchedValues forbiddenValues) s ↔
      (∀ marker ∈ privateKeyMarkers, contains marker s = false) ∧
        ∀ value ∈ forbiddenValues, value ∉ unsearchableValues forbiddenValues →
          contains value s = false := by
    intro s
    unfold CleanText searchedValues
    simp only [List.mem_filter, decide_eq_true_eq, and_imp]
  unfold NoDurableSecret
  simp only [← hclean, or_imp, forall_and]

/-- What the guard lets through is free of durable secrets exactly when the keys of the payload are, or
the guard has a text to refuse: it reads values, never keys. -/
theorem noDurableSecret_of_assert_iff (payload : Json) (forbiddenValues : List Str) :
    (assertNoDurableSecrets payload forbiddenValues = .ok () →
        NoDurableSecret payload forbiddenValues) ↔
      (∀ key ∈ payload.keys, CleanText (searchedValues forbiddenValues) key) ∨
        ∃ s ∈ payload.strings, ¬CleanText (searchedValues forbiddenValues) s := by
  rw [assertNoDurableSecrets_eq_ok_iff, noDurableSecret_iff]
  constructor
  · intro h
    by_cases hvalues : ∀ s ∈ payload.strings, CleanText (searchedValues forbiddenValues) s
    · exact .inl (h hvalues).2
    · push Not at hvalues
      exact .inr hvalues
  · rintro (hkeys | ⟨s, hs, hunclean⟩) hvalues
    · exact ⟨hvalues, hkeys⟩
    · exact absurd (hvalues s hs) hunclean

end

/-- A payload that gives a flag away in a key. -/
def flagAsKey : Json := .obj [(str "services", .obj [(str "flag-7f3a9c", .bool true)])]

theorem flagAsKey_passes :
    ¬(@assertNoDurableSecrets Unicode.ascii flagAsKey [str "flag-7f3a9c"] = .ok () →
      @NoDurableSecret Unicode.ascii flagAsKey [str "flag-7f3a9c"]) := by
  let _ := Unicode.ascii
  intro h
  have hpasses : assertNoDurableSecrets flagAsKey [str "flag-7f3a9c"] = .ok () := by
    with_unfolding_all decide
  have hkey : str "flag-7f3a9c" ∈ flagAsKey.keys := by
    simp [flagAsKey, Json.keys, Json.keysFields]
  have hclean := (h hpasses _ (.inr hkey)).2 (str "flag-7f3a9c") List.mem_cons_self
    (by with_unfolding_all decide)
  revert hclean
  with_unfolding_all decide

section
variable [Unicode]

/-! ## Hashes -/

def planHashDomain : Str := str "secp-proxmox/plan/v1"

def destroyHashDomain : Str := str "secp-proxmox/destroy/v1"

def resetHashDomain : Str := str "secp-proxmox/reset/v1"

/-- `_hash`: the domain goes in ahead of the canonical payload. -/
def domainHash (domain : Str) (payload : Json) : Str :=
  str "sha256:" ++
    Sha256.hexdigest (Sha256.encode domain ++ 0 :: Sha256.encode (payload.dumps true))

/-! ## Scopes -/

def guestResourceKind (guest : Json) : Str :=
  if guest.field (str "kind") = .str GuestKind.lxc.value then
    RangeResourceKind.lxcContainer.value
  else RangeResourceKind.virtualMachine.value

/-- What both scopes say of a guest. -/
def guestEntry (guest : Json) : List (Str × Json) :=
  [(str "kind", .str (guestResourceKind guest)),
    (str "ref", guest.field (str "guest_ref")),
    (str "name", guest.field (str "name")),
    (str "vmid", guest.field (str "vmid")),
    (str "node", guest.field (str "node_name"))]

/-- What the deletion set says of a network object. -/
def namedEntry (kind : RangeResourceKind) (payload : Json) : Json :=
  .obj [
    (str "kind", .str kind.value),
    (str "ref", payload.field (str "name")),
    (str "name", payload.field (str "name"))]

/-- `(str(item["kind"]), str(item.get("ref") or ""))`. -/
def entrySortKey (entry : Json) : Str × Str :=
  let ref := entry.field (str "ref")
  ((entry.field (str "kind")).text, if ref.truthy then ref.text else [])

/-- `_deletion_set`: the owned objects a destroy would remove. -/
def deletionSet (manifest : Json) : List Json :=
  let network := manifest.field (str "network")
  let zone := network.field (str "zone")
  sortedBy entrySortKey (
    ((manifest.field (str "guests")).items.map fun guest => .obj (guestEntry guest)) ++
    (if zone.truthy then [namedEntry .sdnZone zone] else []) ++
    (network.field (str "vnets")).items.map (namedEntry .vnet) ++
    (network.field (str "security_groups")).items.map (namedEntry .firewallGroup) ++
    (network.field (str "ip_sets")).items.map (namedEntry .ipSet))

/-- `_reset_scope`: the guests a reset would rebuild, and what from. -/
def resetScope (manifest : Json) : List Json :=
  sortedBy entrySortKey ((manifest.field (str "guests")).items.map fun guest =>
    .obj (guestEntry guest ++ [(str "template_ref", guest.field (str "template_ref"))]))

/-! ## The plan -/

structure RangeInstance where
  id : Str
  organizationId : Str

/-- The recorded inputs a plan compiles from. -/
structure ProxmoxBinding where
  observation : TargetObservation
  teams : List TeamRequest
  images : List ReviewedGuestImage
  profiles : Dict WorkloadRole GuestProfile
  controlPlaneCidrs : List Str
  reviewedControlPlanePaths : List ControlPlaneReviewedPath
  scoringPort : Int
  generation : Int
  sshAuthorizedKeys : List Str

structure CompiledRangePlan where
  template : CatalogTemplate
  binding : ProxmoxBinding
  workload : WorkloadPlan
  ledger : AllocationLedger
  manifest : Json
  planHash : Str
  deletionSet : List Json
  destroyHash : Str
  resetScope : List Json
  resetHash : Str

/-- The network request of a range. -/
def networkRequest (range : RangeInstance) (binding : ProxmoxBinding) :
    Except Raised WebBreachLabRequest :=
  if hteams : 2 ≤ binding.teams.length then
    if hnodup : (binding.teams.map TeamRequest.teamRef).Nodup then
      .ok {
        organizationId := range.organizationId
        targetId := binding.observation.identity.targetId
        rangeId := range.id
        generation := binding.generation
        operationGeneration := binding.generation
        teams := binding.teams
        controlPlaneCidrs := binding.controlPlaneCidrs
        reviewedControlPlanePaths := binding.reviewedControlPlanePaths
        scoringPort := binding.scoringPort
        egress := none
        pools := IpamPools.default
        two_teams := hteams
        teamRefs_nodup := hnodup }
    else .error (.model (str "duplicate team_ref in request"))
  else .error (.model
    (str "a segregated lab needs at least two teams; with one there is nothing to segregate"))

/-- The workload request of a range, with the defaults of everything the binding does not say. -/
def workloadRequest (range : RangeInstance) (template : CatalogTemplate)
    (binding : ProxmoxBinding) : Except Raised WorkloadRequest :=
  if hteams : 2 ≤ (binding.teams.map TeamRequest.teamRef).length then
    if hnodup : (binding.teams.map TeamRequest.teamRef).Nodup then
      if himages : (binding.images.map ReviewedGuestImage.workloadKey).Nodup then
        .ok {
          organizationId := range.organizationId
          targetId := binding.observation.identity.targetId
          rangeId := range.id
          generation := binding.generation
          operationGeneration := binding.generation
          template := template
          teamRefs := binding.teams.map TeamRequest.teamRef
          images := binding.images
          profiles := binding.profiles
          cloudInitUser := str "secp"
          sshAuthorizedKeys := binding.sshAuthorizedKeys
          bootstrapOperations := []
          materialChannel := str "secp.post-provisioning.v1"
          placement := []
          bootstrapDeadlineSeconds := 900
          scoringPort := binding.scoringPort
          pools := IpamPools.default
          two_teams := hteams
          teamRefs_nodup := hnodup
          operations_bounded := Nat.zero_le _
          operations_nodup := List.nodup_nil
          images_nodup := himages }
      else .error (.model (str "duplicate workload_key in reviewed images"))
    else .error (.model (str "duplicate team_ref in workload request"))
  else .error (.model
    (str ("a two-team competition needs at least two teams; with one there is no opponent and " ++
      "cross-team isolation is not a property that can be exercised")))

/-- The refusal of a range without a recorded observation. -/
def noObservationBlock : BlockedPlan :=
  ⟨[⟨str "proxmox.no_observation_of_record",
    str "RangeLifecycleEvent[proxmox_observation_recorded]",
    str ("no discovery observation has been recorded for this range, so there is nothing to " ++
      "compile against. The compiler needs facts a live cluster scan proves — SDN support, " ++
      "cluster firewall support, the VMIDs, VLAN tags, MACs and subnets already in use, and the " ++
      "management CIDRs the scenario must not reach. None of those may be assumed: a guessed VMID " ++
      "collides with a real guest, and a guessed management CIDR is how a team segment ends up " ++
      "bridged onto the management plane. Run discovery against the target and record its " ++
      "observation before planning this range."), by simp, by simp⟩], List.cons_ne_nil _ _⟩

/-- The refusal of a request a compiler found structurally invalid. -/
def invalidRequest (reasonId observation detail : Str) (hreason : reasonId ≠ [])
    (hobservation : observation ≠ []) : BlockedPlan :=
  ⟨[⟨reasonId, observation, detail, hreason, hobservation⟩], List.cons_ne_nil _ _⟩

def flagValues (template : CatalogTemplate) : List Str :=
  template.challenges.flatMap CatalogChallenge.flags

/-- The plan around a compiled workload, once its manifest is found clean. -/
def assemblePlan (template : CatalogTemplate) (binding : ProxmoxBinding) (workload : WorkloadPlan)
    (ledger : AllocationLedger) : Except Raised CompiledRangePlan := do
  let manifest := toManifestPayload workload.topology (some ledger)
  assertNoDurableSecrets manifest (flagValues template)
  pure {
    template := template
    binding := binding
    workload := workload
    ledger := ledger
    manifest := manifest
    planHash := domainHash planHashDomain manifest
    deletionSet := deletionSet manifest
    destroyHash := domainHash destroyHashDomain (.arr (deletionSet manifest))
    resetScope := resetScope manifest
    resetHash := domainHash resetHashDomain (.arr (resetScope manifest)) }

/-- The second half of `compile_plan`: the workload on a compiled network. -/
def compileRangeWorkload (range : RangeInstance) (template : CatalogTemplate)
    (binding : ProxmoxBinding) (network : SegregatedNetworkPlan) (ledger : AllocationLedger) :
    Except Raised (CompileOutcome CompiledRangePlan) := do
  let request ← workloadRequest range template binding
  match compileWorkload request network binding.observation ledger with
  | .ok (.plan workload, ledger) => do
      let plan ← assemblePlan template binding workload ledger
      pure (.plan plan)
  | .ok (.blocked refusal, _) => pure (.blocked refusal)
  | .error (.model message) => pure (.blocked (invalidRequest
      (str "proxmox.workload_request_invalid") (str "WorkloadRequest") message (by simp)
      (by simp)))
  | .error e => .error e

/-- `compile_plan`, of a Proxmox range whose template and newest binding were looked up. -/
def compilePlan (range : RangeInstance) (template : CatalogTemplate) :
    Option ProxmoxBinding → Except Raised (CompileOutcome CompiledRangePlan)
  | none => .ok (.blocked noObservationBlock)
  | some binding => do
      let request ← networkRequest range binding
      -- every request starts from an empty ledger
      match compileWebBreachLab request binding.observation AllocationLedger.empty with
      | .ok (.plan network, ledger) => compileRangeWorkload range template binding network ledger
      | .ok (.blocked refusal, _) => pure (.blocked refusal)
      | .error (.model message) => pure (.blocked (invalidRequest
          (str "proxmox.network_request_invalid") (str "WebBreachLabRequest") message (by simp)
          (by simp)))
      | .error e => .error e

end

end Secp.Proxmox
