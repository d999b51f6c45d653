import Secp.Proxmox.Manifest

/-!
# Restamping a desired state

A reset advances the operation generation of the desired state the worker holds as JSON.
`restampOperationGeneration` rewrites it by key name; `withOperationGeneration` rewrites the typed
topology the payload was serialized from. The tag map inside each ownership block repeats the
generation under another key, which the first leaves alone and the second moves.
-/

namespace Secp.Worker

open Secp.Python Secp.Proxmox

def operationGenerationKey : Str := str "operation_generation"

/-! ## The worker's rewriting -/

mutual

/-- `_strip_operation_generation`. -/
def stripOperationGeneration : Json → Json
  | .obj fields => .obj (stripFields fields)
  | .arr items => .arr (stripItems items)
  | node => node

def stripFields : List (Str × Json) → List (Str × Json)
  | [] => []
  | (key, value) :: rest =>
      if key = operationGenerationKey then stripFields rest
      else (key, stripOperationGeneration value) :: stripFields rest

def stripItems : List Json → List Json
  | [] => []
  | item :: rest => stripOperationGeneration item :: stripItems rest

end

/-- `content_hash` of the scenario schema. -/
def contentHash (spec : Json) : Str :=
  str "sha256:" ++ Sha256.hexdigest (Sha256.encode (spec.dumps false))

/-- A hash of the desired state that ignores the operation generation. -/
def topologyFingerprint (desiredState : Json) : Str :=
  contentHash (stripOperationGeneration desiredState)

mutual

/-- `_restamp`. -/
def restamp (generation : Int) : Json → Json
  | .obj fields => .obj (restampFields generation fields)
  | .arr items => .arr (restampItems generation items)
  | node => node

def restampFields (generation : Int) : List (Str × Json) → List (Str × Json)
  | [] => []
  | (key, value) :: rest =>
      (key, if key = operationGenerationKey then .int generation else restamp generation value) ::
        restampFields generation rest

def restampItems (generation : Int) : List Json → List Json
  | [] => []
  | item :: rest => restamp generation item :: restampItems generation rest

end

/-- `restamp_operation_generation`, of a payload that is an object. -/
def restampOperationGeneration (desiredState : Json) (generation : Int) : Json :=
  restamp generation desiredState

/-! ## Rewriting node by node -/

section
variable {g : Int}

@[simp] theorem restamp_null : restamp g .null = .null := by simp [restamp]

@[simp] theorem restamp_bool (b : Bool) : restamp g (.bool b) = .bool b := by simp [restamp]

@[simp] theorem restamp_int (n : Int) : restamp g (.int n) = .int n := by simp [restamp]

@[simp] theorem restamp_str (s : Str) : restamp g (.str s) = .str s := by simp [restamp]

@[simp] theorem restamp_arr (items : List Json) :
    restamp g (.arr items) = .arr (items.map (restamp g)) := by
  have hitems : restampItems g items = items.map (restamp g) := by
    induction items with
    | nil => rfl
    | cons item rest ih => rw [restampItems, ih, List.map_cons]
  rw [restamp, hitems]

@[simp] theorem restamp_obj (fields : List (Str × Json)) :
    restamp g (.obj fields) = .obj (fields.map fun field =>
      (field.1, if field.1 = operationGenerationKey then .int g else restamp g field.2)) := by
  have hfields : restampFields g fields = fields.map fun field =>
      (field.1, if field.1 = operationGenerationKey then .int g else restamp g field.2) := by
    induction fields with
    | nil => rfl
    | cons field rest ih => rw [restampFields, ih, List.map_cons]
  rw [restamp, hfields]

mutual

/-- Every operation generation in the value, at whatever depth, is the given one. -/
def EveryStamp (generation : Int) : Json → Prop
  | .obj fields => EveryStampFields generation fields
  | .arr items => EveryStampItems generation items
  | _ => True

def EveryStampFields (generation : Int) : List (Str × Json) → Prop
  | [] => True
  | (key, value) :: rest =>
      (if key = operationGenerationKey then value = .int generation
      else EveryStamp generation value) ∧ EveryStampFields generation rest

def EveryStampItems (generation : Int) : List Json → Prop
  | [] => True
  | item :: rest => EveryStamp generation item ∧ EveryStampItems generation rest

end

mutual

/-- Restamping leaves exactly these values alone. -/
theorem restamp_eq_self_iff : ∀ node : Json, restamp g node = node ↔ EveryStamp g node
  | .obj fields => by
      rw [restamp, EveryStamp, Json.obj.injEq]
      exact restampFields_eq_self_iff fields
  | .arr items => by
      rw [restamp, EveryStamp, Json.arr.injEq]
      exact restampItems_eq_self_iff items
  | .null => by simp [EveryStamp]
  | .bool b => by simp [EveryStamp]
  | .int n => by simp [EveryStamp]
  | .str s => by simp [EveryStamp]

theorem restampFields_eq_self_iff : ∀ fields : List (Str × Json),
    restampFields g fields = fields ↔ EveryStampFields g fields
  | [] => by simp [restampFields, EveryStampFields]
  | (key, value) :: rest => by
      rw [restampFields, EveryStampFields, List.cons.injEq, restampFields_eq_self_iff rest,
        Prod.mk.injEq]
      by_cases hkey : key = operationGenerationKey
      · simp [hkey, eq_comm]
      · simp [hkey, restamp_eq_self_iff value]

theorem restampItems_eq_self_iff : ∀ items : List Json,
    restampItems g items = items ↔ EveryStampItems g items
  | [] => by simp [restampItems, EveryStampItems]
  | item :: rest => by
      rw [restampItems, EveryStampItems, List.cons.injEq, restamp_eq_self_iff item,
        restampItems_eq_self_iff rest]

end

end

mutual

/-- Stripping forgets what restamping wrote. -/
theorem strip_restamp (g : Int) : ∀ node : Json,
    stripOperationGeneration (restamp g node) = stripOperationGeneration node
  | .obj fields => by
      rw [restamp, stripOperationGeneration, stripOperationGeneration, stripFields_restampFields g]
  | .arr items => by
      rw [restamp, stripOperationGeneration, stripOperationGeneration, stripItems_restampItems g]
  | .null => by rw [restamp_null]
  | .bool b => by rw [restamp_bool]
  | .int n => by rw [restamp_int]
  | .str s => by rw [restamp_str]

theorem stripFields_restampFields (g : Int) : ∀ fields : List (Str × Json),
    stripFields (restampFields g fields) = stripFields fields
  | [] => rfl
  | (key, value) :: rest => by
      rw [restampFields, stripFields, stripFields, stripFields_restampFields g rest]
      by_cases hkey : key = operationGenerationKey
      · rw [if_pos hkey, if_pos hkey]
      · rw [if_neg hkey, if_neg hkey, if_neg hkey, strip_restamp g value]

theorem stripItems_restampItems (g : Int) : ∀ items : List Json,
    stripItems (restampItems g items) = stripItems items
  | [] => rfl
  | item :: rest => by
      rw [restampItems, stripItems, stripItems, strip_restamp g item,
        stripItems_restampItems g rest]

end

/-- On its own payloads the worker keeps the fingerprint, whatever they hold. -/
theorem topologyFingerprint_restamp (desiredState : Json) (g : Int) :
    topologyFingerprint (restampOperationGeneration desiredState g) =
      topologyFingerprint desiredState := by
  rw [topologyFingerprint, restampOperationGeneration, strip_restamp, topologyFingerprint]

/-! ## The two rewritings compared -/

section
variable {g : Int} (hg : 0 ≤ g)

@[simp] theorem restamp_optionalText (t : Option Str) :
    restamp g (optionalText t) = optionalText t := by
  cases t <;> simp [optionalText]

@[simp] theorem restamp_texts (items : List Str) : restamp g (texts items) = texts items := by
  simp [texts]

/-- A flat text map as JSON. -/
def textFields (entries : List (Str × Str)) : List (Str × Json) :=
  entries.map fun entry => (entry.1, .str entry.2)

theorem textFields_injective : Function.Injective textFields := by
  refine List.map_injective_iff.mpr fun a b h => ?_
  simpa [Prod.ext_iff] using h

/-- A flat text map survives unless it has the generation's own key. -/
theorem restamp_textFields_iff (entries : List (Str × Str)) :
    restamp g (.obj (textFields entries)) = .obj (textFields entries) ↔
      operationGenerationKey ∉ entries.map Prod.fst := by
  rw [restamp_obj, Json.obj.injEq, textFields, List.map_map, List.map_inj_left, List.mem_map]
  push Not
  refine forall₂_congr fun entry _ => ?_
  by_cases hkey : entry.1 = operationGenerationKey
  · simp [hkey]
  · simp [hkey]

theorem mem_asTags (o : Ownership) (value : Str) :
    (str "secp.operation_generation", value) ∈ o.asTags ↔ value = intStr o.operationGeneration := by
  unfold Ownership.asTags
  rw [mem_sortedBy]
  cases o.teamRef <;> simp

theorem key_notMem_asTags (o : Ownership) : operationGenerationKey ∉ o.asTags.map Prod.fst := by
  unfold Ownership.asTags operationGenerationKey
  simp only [List.mem_map, mem_sortedBy, not_exists, not_and]
  cases o.teamRef <;> simp

/-- The tags repeat the generation, so two stamps of one ownership agree only if it is the same. -/
theorem asTags_restamp_eq_iff (o : Ownership) :
    o.asTags = (o.restamp g hg).asTags ↔ o.operationGeneration = g := by
  constructor
  · intro h
    have hmem := (mem_asTags o _).mpr rfl
    rw [h, mem_asTags] at hmem
    exact intStr_injective hmem
  · rintro rfl
    rfl

/-- The worker's stamp of an ownership is the compiler's only if nothing moves. -/
theorem restamp_ownershipPayload_iff (o : Ownership) :
    restamp g (ownershipPayload o) = ownershipPayload (o.restamp g hg) ↔
      o.operationGeneration = g := by
  have htags : restamp g (.obj (o.asTags.map fun tag => (tag.1, .str tag.2))) =
      .obj (textFields o.asTags) := (restamp_textFields_iff _).mpr (key_notMem_asTags o)
  have hstamped : ownershipPayload (o.restamp g hg) = .obj [
      (str "organization_id", .str o.organizationId), (str "target_id", .str o.targetId),
      (str "range_id", .str o.rangeId), (str "generation", .int o.generation),
      (str "operation_generation", .int g), (str "resource_kind", .str o.resourceKind.value),
      (str "team_ref", optionalText o.teamRef),
      (str "tags", .obj (textFields (o.restamp g hg).asTags))] := rfl
  rw [← asTags_restamp_eq_iff hg, hstamped, ownershipPayload, restamp_obj]
  simp only [List.map_cons, htags]
  simp [operationGenerationKey, textFields_injective.eq_iff]

/-! ## Object by object -/

theorem restamp_zonePayload_iff (zone : SdnZoneSpec) :
    restamp g (zonePayload zone) =
      zonePayload { zone with ownership := zone.ownership.restamp g hg } ↔
      zone.ownership.operationGeneration = g := by
  rw [← restamp_ownershipPayload_iff hg]
  cases hmtu : zone.mtu <;> simp [zonePayload, operationGenerationKey, hmtu]

theorem restamp_vnetPayload_iff (vnet : VNetSpec) :
    restamp g (vnetPayload vnet) =
      vnetPayload { vnet with ownership := vnet.ownership.restamp g hg } ↔
      vnet.ownership.operationGeneration = g := by
  rw [← restamp_ownershipPayload_iff hg]
  simp [vnetPayload, operationGenerationKey]

theorem restamp_ipSetPayload_iff (ipSet : IpSetSpec) :
    restamp g (ipSetPayload ipSet) =
      ipSetPayload { ipSet with ownership := ipSet.ownership.restamp g hg } ↔
      ipSet.ownership.operationGeneration = g := by
  rw [← restamp_ownershipPayload_iff hg]
  simp [ipSetPayload, operationGenerationKey]

@[simp] theorem restamp_rulePayload (r : FirewallRuleSpec) :
    restamp g (rulePayload r) = rulePayload r := by
  simp [rulePayload, operationGenerationKey]

theorem restamp_securityGroupPayload_iff (group : SecurityGroupSpec) :
    restamp g (securityGroupPayload group) =
      securityGroupPayload { group with ownership := group.ownership.restamp g hg } ↔
      group.ownership.operationGeneration = g := by
  rw [← restamp_ownershipPayload_iff hg]
  simp [securityGroupPayload, operationGenerationKey, SecurityGroupSpec.orderedRules]

theorem restamp_egressPayload_iff (egress : EgressGatewaySpec) :
    restamp g (egressPayload egress) =
      egressPayload { egress with ownership := egress.ownership.restamp g hg } ↔
      egress.ownership.operationGeneration = g := by
  rw [← restamp_ownershipPayload_iff hg]
  simp [egressPayload, operationGenerationKey]

@[simp] theorem restamp_diskPayload (disk : DiskSpec) :
    restamp g (diskPayload disk) = diskPayload disk := by
  simp [diskPayload, operationGenerationKey]

@[simp] theorem restamp_nicPayload (nic : NicSpec) :
    restamp g (nicPayload nic) = nicPayload nic := by
  simp [nicPayload, operationGenerationKey]

@[simp] theorem restamp_cloudInitPayload (cloudInit : CloudInitSpec) :
    restamp g (cloudInitPayload cloudInit) = cloudInitPayload cloudInit := by
  simp [cloudInitPayload, operationGenerationKey]

theorem restamp_guestPayload_iff (guest : GuestSpec) :
    restamp g (guestPayload guest) =
      guestPayload { guest with ownership := guest.ownership.restamp g hg } ↔
      guest.ownership.operationGeneration = g := by
  rw [← restamp_ownershipPayload_iff hg]
  cases hinit : guest.cloudInit <;> simp [guestPayload, operationGenerationKey, hinit]

@[simp] theorem restamp_asDict (a : Allocation) : restamp g a.asDict = a.asDict := by
  simp [Allocation.asDict, operationGenerationKey]

@[simp] theorem restamp_toManifest (ledger : AllocationLedger) :
    restamp g ledger.toManifest = ledger.toManifest := by
  simp [AllocationLedger.toManifest, operationGenerationKey]

@[simp] theorem restamp_targetPayload (target : ProxmoxTargetIdentity) :
    restamp g (targetPayload target) = targetPayload target := by
  simp [targetPayload, operationGenerationKey]

/-- A collection, sorted by a key the stamp does not touch. -/
theorem restamp_sorted_iff {α : Type} (key : α → Str) {payload : α → Json} (stamp : α → α)
    {carries : α → Prop} (hkey : ∀ x, key (stamp x) = key x)
    (hpayload : ∀ x, restamp g (payload x) = payload (stamp x) ↔ carries x) (xs : List α) :
    restamp g (.arr ((sortedBy key xs).map payload)) =
      .arr ((sortedBy key (xs.map stamp)).map payload) ↔ ∀ x ∈ xs, carries x := by
  rw [sortedBy_map hkey, restamp_arr, Json.arr.injEq, List.map_map, List.map_map, List.map_inj_left]
  simp only [Function.comp_apply, hpayload, mem_sortedBy]

/-! ## The whole payload -/

/-- Every object of the network was stamped by the operation already. -/
structure NetworkStamped (network : SegregatedNetworkPlan) (g : Int) : Prop where
  zone : network.zone.ownership.operationGeneration = g
  vnets : ∀ v ∈ network.vnets, v.ownership.operationGeneration = g
  ipSets : ∀ i ∈ network.ipSets, i.ownership.operationGeneration = g
  securityGroups : ∀ s ∈ network.securityGroups, s.ownership.operationGeneration = g
  attachment : operationGenerationKey ∉ network.vnetSecurityGroup.map Prod.fst
  egress : ∀ e ∈ network.egress, e.ownership.operationGeneration = g

/-- The topology and its payload carry no other operation's stamp. -/
structure AlreadyStamped (t : CompiledTopology) (ledger : Option AllocationLedger) (g : Int) :
    Prop where
  ownership : t.ownership.operationGeneration = g
  network : NetworkStamped t.network g
  guests : ∀ guest ∈ t.guests, guest.ownership.operationGeneration = g
  allocations : ledger = none → ∀ a ∈ t.allocations, EveryStamp g a

theorem restamp_networkPayload_iff (t : CompiledTopology) :
    restamp g (networkPayload t.network) = networkPayload (t.restamp g hg).network ↔
      NetworkStamped t.network g := by
  have hvnets := restamp_sorted_iff VNetSpec.name
    (fun v => { v with ownership := v.ownership.restamp g hg }) (fun _ => rfl)
    (restamp_vnetPayload_iff hg) t.network.vnets
  have hipSets := restamp_sorted_iff IpSetSpec.name
    (fun i => { i with ownership := i.ownership.restamp g hg }) (fun _ => rfl)
    (restamp_ipSetPayload_iff hg) t.network.ipSets
  have hgroups := restamp_sorted_iff SecurityGroupSpec.name
    (fun s => { s with ownership := s.ownership.restamp g hg }) (fun _ => rfl)
    (restamp_securityGroupPayload_iff hg) t.network.securityGroups
  have hattachment := restamp_textFields_iff (g := g) (sortedBy id t.network.vnetSecurityGroup)
  have hkeys : operationGenerationKey ∉ (sortedBy id t.network.vnetSecurityGroup).map Prod.fst ↔
      operationGenerationKey ∉ t.network.vnetSecurityGroup.map Prod.fst := by
    simp only [List.mem_map, mem_sortedBy]
  have hegress : restamp g (optionalEgress t.network.egress) = optionalEgress
      (t.network.egress.map fun e => { e with ownership := e.ownership.restamp g hg }) ↔
      ∀ e ∈ t.network.egress, e.ownership.operationGeneration = g := by
    cases t.network.egress with
    | none => simp [optionalEgress]
    | some egress => simpa [optionalEgress] using restamp_egressPayload_iff hg egress
  have hfields : restamp g (networkPayload t.network) = networkPayload (t.restamp g hg).network ↔
      t.network.zone.ownership.operationGeneration = g ∧
      (∀ v ∈ t.network.vnets, v.ownership.operationGeneration = g) ∧
      (∀ i ∈ t.network.ipSets, i.ownership.operationGeneration = g) ∧
      (∀ s ∈ t.network.securityGroups, s.ownership.operationGeneration = g) ∧
      operationGenerationKey ∉ t.network.vnetSecurityGroup.map Prod.fst ∧
      ∀ e ∈ t.network.egress, e.ownership.operationGeneration = g := by
    rw [← restamp_zonePayload_iff hg, ← hvnets, ← hipSets, ← hgroups, ← hkeys,
      ← hattachment, ← hegress, networkPayload, networkPayload, restamp_obj]
    simp [operationGenerationKey, CompiledTopology.restamp, textFields]
  rw [hfields]
  constructor
  · intro h
    obtain ⟨hzone, hvnets, hipSets, hgroups, hattached, hegress⟩ := h
    exact ⟨hzone, hvnets, hipSets, hgroups, hattached, hegress⟩
  · intro h
    exact ⟨h.zone, h.vnets, h.ipSets, h.securityGroups, h.attachment, h.egress⟩

/-- The worker's rewriting of a payload is the payload of the compiler's exactly when no stamp
moves. -/
theorem restamp_toManifestPayload_iff (t : CompiledTopology) (ledger : Option AllocationLedger) :
    restamp g (toManifestPayload t ledger) = toManifestPayload (t.restamp g hg) ledger ↔
      AlreadyStamped t ledger g := by
  have hguests := restamp_sorted_iff GuestSpec.guestRef
    (fun guest => { guest with ownership := guest.ownership.restamp g hg }) (fun _ => rfl)
    (restamp_guestPayload_iff hg) t.guests
  have hallocations : t.allocations.map (restamp g) = t.allocations ↔
      ∀ a ∈ t.allocations, EveryStamp g a := by
    nth_rewrite 2 [← List.map_id t.allocations]
    rw [List.map_inj_left]
    exact forall₂_congr fun a _ => restamp_eq_self_iff a
  have hfields : restamp g (toManifestPayload t ledger) = toManifestPayload (t.restamp g hg) ledger ↔
      t.ownership.operationGeneration = g ∧ NetworkStamped t.network g ∧
      (∀ guest ∈ t.guests, guest.ownership.operationGeneration = g) ∧
      (ledger = none → ∀ a ∈ t.allocations, EveryStamp g a) := by
    rw [← restamp_ownershipPayload_iff hg, ← restamp_networkPayload_iff hg, ← hguests,
      ← hallocations]
    unfold toManifestPayload
    cases ledger with
    | none => simp [operationGenerationKey, CompiledTopology.restamp]
    | some ledger => simp [operationGenerationKey, CompiledTopology.restamp]
  rw [hfields]
  exact ⟨fun ⟨ho, hn, hs, ha⟩ => ⟨ho, hn, hs, ha⟩,
    fun h => ⟨h.ownership, h.network, h.guests, h.allocations⟩⟩

end

/-- The worker's restamp agrees with the compiler's: the payloads are equal, and the fingerprint of
both is that of the payload before. -/
def RestampAgrees (t : CompiledTopology) (ledger : Option AllocationLedger) (g : Int) : Prop :=
  ∃ t', withOperationGeneration t g = .ok t' ∧
    restampOperationGeneration (toManifestPayload t ledger) g = toManifestPayload t' ledger ∧
    topologyFingerprint (restampOperationGeneration (toManifestPayload t ledger) g) =
      topologyFingerprint (toManifestPayload t ledger) ∧
    topologyFingerprint (toManifestPayload t' ledger) =
      topologyFingerprint (toManifestPayload t ledger)

section
variable {g : Int}

theorem restamp_ownership_eq_self (hg : 0 ≤ g) {o : Ownership} (h : o.operationGeneration = g) :
    o.restamp g hg = o := by
  subst h
  rfl

theorem map_eq_self_of_forall {α : Type} {f : α → α} {xs : List α} (h : ∀ x ∈ xs, f x = x) :
    xs.map f = xs := (List.map_congr_left h).trans (List.map_id xs)

/-- A topology that was stamped by the operation is left as it is. -/
theorem AlreadyStamped.restamp_eq_self (hg : 0 ≤ g) {t : CompiledTopology}
    {ledger : Option AllocationLedger} (h : AlreadyStamped t ledger g) : t.restamp g hg = t := by
  have hvnets : t.network.vnets.map
      (fun v => { v with ownership := v.ownership.restamp g hg }) = t.network.vnets :=
    map_eq_self_of_forall fun v hv => by rw [restamp_ownership_eq_self hg (h.network.vnets v hv)]
  have hipSets : t.network.ipSets.map
      (fun i => { i with ownership := i.ownership.restamp g hg }) = t.network.ipSets :=
    map_eq_self_of_forall fun i hi => by rw [restamp_ownership_eq_self hg (h.network.ipSets i hi)]
  have hgroups : t.network.securityGroups.map
      (fun s => { s with ownership := s.ownership.restamp g hg }) = t.network.securityGroups :=
    map_eq_self_of_forall fun s hs => by
      rw [restamp_ownership_eq_self hg (h.network.securityGroups s hs)]
  have hegress : t.network.egress.map
      (fun e => { e with ownership := e.ownership.restamp g hg }) = t.network.egress := by
    cases hsome : t.network.egress with
    | none => rfl
    | some e => rw [Option.map_some, restamp_ownership_eq_self hg (h.network.egress e hsome)]
  have hguests : t.guests.map
      (fun guest => { guest with ownership := guest.ownership.restamp g hg }) = t.guests :=
    map_eq_self_of_forall fun guest hguest => by
      rw [restamp_ownership_eq_self hg (h.guests guest hguest)]
  unfold CompiledTopology.restamp
  simp only [hvnets, hipSets, hgroups, hegress, hguests, restamp_ownership_eq_self hg h.ownership,
    restamp_ownership_eq_self hg h.network.zone]

/-- The two rewritings agree exactly when there is nothing to rewrite. -/
theorem restampAgrees_iff (hg : 0 ≤ g) (t : CompiledTopology) (ledger : Option AllocationLedger) :
    RestampAgrees t ledger g ↔ AlreadyStamped t ledger g := by
  have hstamped : withOperationGeneration t g = .ok (t.restamp g hg) := dif_pos hg
  constructor
  · rintro ⟨t', ht', hpayload, _⟩
    rw [hstamped] at ht'
    cases ht'
    exact (restamp_toManifestPayload_iff hg t ledger).mp hpayload
  · intro h
    have hself := h.restamp_eq_self hg
    have hpayload := (restamp_toManifestPayload_iff hg t ledger).mpr h
    exact ⟨t.restamp g hg, hstamped, hpayload, topologyFingerprint_restamp _ g, by rw [hself]⟩

end

/-! ## A small topology -/

theorem deployGenerations_nonneg : 0 ≤ (1 : Int) ∧ 0 ≤ (0 : Int) := by decide

theorem deployIds_ne : str "o" ≠ [] ∧ str "t" ≠ [] ∧ str "r" ≠ [] := by simp

def deployOwnership : Ownership :=
  ⟨str "o", str "t", str "r", 1, 0, .network, none, deployIds_ne.1, deployIds_ne.2.1,
    deployIds_ne.2.2, deployGenerations_nonneg⟩

def deployCidrs : List Str := [str "192.0.2.0/24"]

theorem deployCidrs_ne : deployCidrs ≠ [] := by decide

theorem deployCidrs_valid : ∀ cidr ∈ deployCidrs, (Ip.ipNetwork true cidr).isSome = true := by
  with_unfolding_all decide

/-- A zone on one node, deployed by operation zero. -/
def deployedTopology : CompiledTopology where
  target := ⟨str "t", str "c", str "f", deployCidrs, [], deployCidrs_ne, deployCidrs_valid⟩
  ownership := deployOwnership
  network := {
    zone := ⟨str "z", str "b", [str "n"], deployOwnership, none, by with_unfolding_all decide,
      by decide⟩
    vnets := []
    securityGroups := []
    ipSets := []
    vnetSecurityGroup := []
    egress := none }
  guests := []
  allocations := []

theorem deployedTopology_restamp_agrees : 0 ≤ (0 : Int) ∧ RestampAgrees deployedTopology none 0 := by
  refine ⟨by decide, (restampAgrees_iff (by decide) deployedTopology none).mpr ?_⟩
  constructor
  case ownership => rfl
  case network => constructor <;> simp [deployedTopology, deployOwnership]
  case guests => simp [deployedTopology]
  case allocations => simp [deployedTopology]

/-- A reset that advances to operation one: the tags disagree. -/
theorem deployedTopology_restamp_disagrees : 0 ≤ (1 : Int) ∧ ¬RestampAgrees deployedTopology none 1 := by
  refine ⟨by decide, ?_⟩
  rintro ⟨t', ht', hpayload, _⟩
  cases ht'
  have hstamped := (restamp_toManifestPayload_iff (by decide) deployedTopology none).mp hpayload
  exact absurd hstamped.ownership (by decide)

end Secp.Worker
