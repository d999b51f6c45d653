import Secp.Proxmox.Evaluation
import Secp.Proxmox.Exclusivity
import Secp.Proxmox.ManifestReader

/-!
# The manifest payload and what is read from it

What is read back from the payload of a topology is the topology with its collections in the order of
the payload and with the records of the ledger beside it. Written again it is the same payload, and its
network decides every flow as the one that was compiled.
-/

namespace Secp.Proxmox

open Secp.Python Secp.Logic

/-! ## Steps that succeed -/

section
variable {α β : Type}

@[simp] theorem lift_payload_ok (a : α) :
    (liftM (Except.ok a : Except PayloadError α) : Read α) = .ok a := rfl

@[simp] theorem lift_raised_ok (a : α) :
    (liftM (Except.ok a : Except Raised α) : Read α) = .ok a := rfl

@[simp] theorem read_bind_ok {ε : Type} (a : α) (f : α → Except ε β) : (Except.ok a >>= f) = f a := rfl

theorem mapM_map_ok {ε γ : Type} {read : β → Except ε γ} {write : α → β} {f : α → γ} {xs : List α}
    (h : ∀ x ∈ xs, read (write x) = .ok (f x)) : (xs.map write).mapM read = .ok (xs.map f) := by
  rw [mapM_eq_ok_iff, List.forall₂_map_left_iff, List.forall₂_map_right_iff]
  exact List.forall₂_same.mpr h

end

/-! ## The order of the payload -/

theorem ne_nil_of_perm {α : Type} {xs ys : List α} (h : ys.Perm xs) (hne : xs ≠ []) : ys ≠ [] := by
  rintro rfl
  exact hne h.nil_eq.symm

def ProxmoxTargetIdentity.ordered (target : ProxmoxTargetIdentity) : ProxmoxTargetIdentity :=
  { target with
    managementCidrs := sortedBy id target.managementCidrs
    managementBridges := sortedBy id target.managementBridges
    managementCidrs_ne := ne_nil_of_perm (sortedBy_perm _ _) target.managementCidrs_ne
    managementCidrs_valid := fun cidr hcidr =>
      target.managementCidrs_valid cidr (mem_sortedBy.mp hcidr) }

def SdnZoneSpec.ordered (zone : SdnZoneSpec) : SdnZoneSpec :=
  { zone with
    nodes := sortedBy id zone.nodes
    nodes_ne := ne_nil_of_perm (sortedBy_perm _ _) zone.nodes_ne }

def IpSetSpec.ordered (ipSet : IpSetSpec) : IpSetSpec :=
  { ipSet with
    cidrs := sortedBy id ipSet.cidrs
    cidrs_valid := fun cidr hcidr => ipSet.cidrs_valid cidr (mem_sortedBy.mp hcidr) }

def SecurityGroupSpec.ordered (group : SecurityGroupSpec) : SecurityGroupSpec :=
  { group with
    rules := group.orderedRules
    positions_nodup :=
      ((List.perm_insertionSort _ _).map FirewallRuleSpec.position).nodup_iff.mpr
        group.positions_nodup }

def EgressGatewaySpec.ordered (egress : EgressGatewaySpec) : EgressGatewaySpec :=
  { egress with
    allowedDestinations := sortedBy id egress.allowedDestinations
    allowedPorts := sortedBy id egress.allowedPorts
    allowedDestinations_ne := ne_nil_of_perm (sortedBy_perm _ _) egress.allowedDestinations_ne
    allowedDestinations_valid := fun dest hdest =>
      egress.allowedDestinations_valid dest (mem_sortedBy.mp hdest) }

def GuestSpec.ordered (guest : GuestSpec) : GuestSpec :=
  { guest with
    disks := sortedBy DiskSpec.slot guest.disks
    nics := guest.nics.insertionSort fun a b => a.index ≤ b.index
    nics_ne := ne_nil_of_perm (List.perm_insertionSort _ _) guest.nics_ne
    nics_nodup :=
      ((List.perm_insertionSort _ _).map NicSpec.index).nodup_iff.mpr guest.nics_nodup }

def SegregatedNetworkPlan.ordered (network : SegregatedNetworkPlan) : SegregatedNetworkPlan where
  zone := network.zone.ordered
  vnets := sortedBy VNetSpec.name network.vnets
  securityGroups := (sortedBy SecurityGroupSpec.name network.securityGroups).map
    SecurityGroupSpec.ordered
  ipSets := (sortedBy IpSetSpec.name network.ipSets).map IpSetSpec.ordered
  vnetSecurityGroup := sortedBy id network.vnetSecurityGroup
  egress := network.egress.map EgressGatewaySpec.ordered

/-- A topology in the order of its payload, with the records of a ledger. -/
def CompiledTopology.approved (topology : CompiledTopology) (ledger : AllocationLedger) :
    CompiledTopology where
  target := topology.target.ordered
  ownership := topology.ownership
  network := topology.network.ordered
  guests := (sortedBy GuestSpec.guestRef topology.guests).map GuestSpec.ordered
  allocations := ledger.all.map Allocation.asDict

/-! ## Reading each record -/

section
variable [Unicode]

omit [Unicode] in
@[simp] theorem textsOf_texts (items : List Str) : textsOf (texts items) = .ok items := by
  have hitems : (items.map Json.str).mapM textOf = .ok (items.map id) := mapM_map_ok fun _ _ => rfl
  rw [List.map_id] at hitems
  rw [textsOf, texts, Json.elements, read_bind_ok, hitems]

omit [Unicode] in
@[simp] theorem optionalTextOf_optionalText (value : Option Str) :
    optionalTextOf (optionalText value) = .ok value := by
  cases value <;> rfl

omit [Unicode] in
@[simp] theorem RangeResourceKind.read_value (kind : RangeResourceKind) :
    RangeResourceKind.read (.str kind.value) = .ok kind := by
  cases kind <;> simp [RangeResourceKind.read, memberOf, RangeResourceKind.value]

theorem ownershipFrom_payload (o : Ownership) : ownershipFrom (ownershipPayload o) = .ok o := by
  have hmake : Ownership.make o.organizationId o.targetId o.rangeId o.generation o.operationGeneration
      o.resourceKind o.teamRef = .ok o := by
    unfold Ownership.make
    rw [dif_neg o.organizationId_ne, dif_neg o.targetId_ne, dif_neg o.rangeId_ne,
      dif_pos o.generations_nonneg]
  have hfields : ownershipFields (ownershipPayload o) = .ok o := by
    simp only [ownershipFields, ownershipPayload, textField, intField, Json.getItem, Dict.get?, str_inj,
      String.reduceEq, if_true, if_false, read_bind_ok, lift_payload_ok, Json.text, Json.toInt,
      Json.toInt?, RangeResourceKind.read_value, optionalTextOf_optionalText, hmake, pure, Except.pure,
      lift_raised_ok]
  rw [ownershipFrom, hfields]

omit [Unicode] in
@[simp] theorem SegmentRole.read_value (role : SegmentRole) :
    SegmentRole.read (.str role.value) = .ok role := by
  cases role <;> simp [SegmentRole.read, memberOf, SegmentRole.value]

omit [Unicode] in
@[simp] theorem GuestKind.read_value (kind : GuestKind) : GuestKind.read (.str kind.value) = .ok kind := by
  cases kind <;> simp [GuestKind.read, memberOf, GuestKind.value]

omit [Unicode] in
@[simp] theorem CloneStrategy.read_value (strategy : CloneStrategy) :
    CloneStrategy.read (.str strategy.value) = .ok strategy := by
  cases strategy <;> simp [CloneStrategy.read, memberOf, CloneStrategy.value]

omit [Unicode] in
@[simp] theorem FirewallVerdict.read_value (verdict : FirewallVerdict) :
    FirewallVerdict.read (.str verdict.value) = .ok verdict := by
  cases verdict <;> simp [FirewallVerdict.read, memberOf, FirewallVerdict.value]

omit [Unicode] in
@[simp] theorem FirewallDirection.read_value (direction : FirewallDirection) :
    FirewallDirection.read (.str direction.value) = .ok direction := by
  cases direction <;> simp [FirewallDirection.read, memberOf, FirewallDirection.value]

theorem ruleFrom_payload (r : FirewallRuleSpec) : ruleFrom (rulePayload r) = .ok r := by
  have hmake : FirewallRuleSpec.make r.position r.direction r.verdict r.comment r.source r.dest r.proto
      r.dport r.enabled = .ok r := by
    rw [FirewallRuleSpec.make, dif_pos r.position_nonneg, dif_pos r.comment_ne]
  simp only [ruleFrom, rulePayload, textField, intField, boolField, Json.getItem, Json.getOr, Dict.get?,
    str_inj, String.reduceEq, if_true, if_false, read_bind_ok, lift_payload_ok, Json.text, Json.toInt,
    Json.toInt?, Json.truthy, FirewallVerdict.read_value, FirewallDirection.read_value,
    optionalTextOf_optionalText, Option.getD_some, hmake, pure, Except.pure, lift_raised_ok]

theorem diskFrom_payload (disk : DiskSpec) : diskFrom (diskPayload disk) = .ok disk := by
  have hmake : DiskSpec.make disk.slot disk.sizeGb disk.storageId disk.discard disk.ssdEmulation =
      .ok disk := by
    rw [DiskSpec.make, dif_pos disk.sizeGb_pos]
  simp only [diskFrom, diskPayload, textField, intField, boolField, Json.getItem, Json.getOr, Dict.get?,
    str_inj, String.reduceEq, if_true, if_false, read_bind_ok, lift_payload_ok, Json.text, Json.toInt,
    Json.toInt?, Json.truthy, Option.getD_some, hmake, pure, Except.pure, lift_raised_ok]

theorem nicFrom_payload (nic : NicSpec) : nicFrom (nicPayload nic) = .ok nic := by
  have hmake : NicSpec.make nic.index nic.vnetName nic.macAddress nic.model nic.firewall = .ok nic := by
    rw [NicSpec.make, dif_pos nic.index_nonneg, dif_pos nic.macAddress_valid]
  simp only [nicFrom, nicPayload, textField, intField, boolField, Json.getItem, Json.getOr, Dict.get?,
    str_inj, String.reduceEq, if_true, if_false, read_bind_ok, lift_payload_ok, Json.text, Json.toInt,
    Json.toInt?, Json.truthy, Option.getD_some, hmake, pure, Except.pure, lift_raised_ok]

theorem vnetFrom_payload (vnet : VNetSpec) : vnetFrom (vnetPayload vnet) = .ok vnet := by
  have hsubnet : SubnetSpec.make vnet.subnet.cidr vnet.subnet.gateway vnet.subnet.routed =
      .ok vnet.subnet := by
    rw [SubnetSpec.make, dif_pos vnet.subnet.gateway_inside]
  have hmake : VNetSpec.make vnet.name vnet.zoneName vnet.vlanTag vnet.subnet vnet.role vnet.ownership
      vnet.vnetAlias = .ok vnet := by
    rw [VNetSpec.make, dif_pos vnet.name_valid, dif_pos vnet.vlanTag_bounds]
  simp only [vnetFrom, vnetPayload, subnetFrom, textField, intField, boolField, Json.getItem, Json.getOr,
    Dict.get?, str_inj, String.reduceEq, if_true, if_false, read_bind_ok, lift_payload_ok, Json.text,
    Json.toInt, Json.toInt?, Json.truthy, Option.getD_some, SegmentRole.read_value,
    ownershipFrom_payload, hsubnet, hmake, pure, Except.pure, lift_raised_ok]

theorem ipSetFrom_payload (ipSet : IpSetSpec) : ipSetFrom (ipSetPayload ipSet) = .ok ipSet.ordered := by
  have hmake : IpSetSpec.make ipSet.name ipSet.ordered.cidrs ipSet.ownership ipSet.comment =
      .ok ipSet.ordered := by
    rw [IpSetSpec.make, dif_pos ipSet.name_valid, dif_pos ipSet.ordered.cidrs_valid]
    rfl
  rw [IpSetSpec.ordered] at hmake
  simp only [ipSetFrom, ipSetPayload, textField, Json.getItem, Json.getOr, Dict.get?, str_inj,
    String.reduceEq, if_true, if_false, read_bind_ok, lift_payload_ok, Json.text, Option.getD_some,
    textsOf_texts, ownershipFrom_payload, hmake, pure, Except.pure, lift_raised_ok, IpSetSpec.ordered]

omit [Unicode] in
theorem recordsFrom_fields {α β : Type} {fields : List (Str × Json)} {key : Str} {xs : List α}
    {write : α → Json} {read : Json → Read β} {f : α → β}
    (hfield : Dict.get? fields key = some (.arr (xs.map write)))
    (hread : ∀ x ∈ xs, read (write x) = .ok (f x)) :
    recordsFrom (.obj fields) key read = .ok (xs.map f) := by
  rw [recordsFrom, Json.getOr, hfield, Option.getD_some, lift_payload_ok, read_bind_ok, Json.elements,
    lift_payload_ok, read_bind_ok]
  exact mapM_map_ok hread

theorem securityGroupFrom_payload (group : SecurityGroupSpec) :
    securityGroupFrom (securityGroupPayload group) = .ok group.ordered := by
  have hrules : recordsFrom (securityGroupPayload group) (str "rules") ruleFrom =
      .ok (group.orderedRules.map id) := by
    refine @recordsFrom_fields _ _ _ _ _ rulePayload _ id ?_ fun r _ => ruleFrom_payload r
    simp only [Dict.get?, str_inj, String.reduceEq, if_true, if_false]
  have hmake : SecurityGroupSpec.make group.name group.ordered.rules group.ownership group.comment =
      .ok group.ordered := by
    rw [SecurityGroupSpec.make, dif_pos group.name_valid, dif_pos group.ordered.positions_nodup]
    rfl
  rw [List.map_id] at hrules
  rw [securityGroupFrom, hrules]
  simp only [securityGroupPayload, textField, Json.getItem, Json.getOr, Dict.get?, str_inj,
    String.reduceEq, if_true, if_false, read_bind_ok, lift_payload_ok, Json.text, Option.getD_some,
    ownershipFrom_payload, pure, Except.pure]
  exact congrArg liftM hmake

theorem egressFrom_payload (egress : Option EgressGatewaySpec) :
    egressFrom (optionalEgress egress) = .ok (egress.map EgressGatewaySpec.ordered) := by
  cases egress with
  | none => rfl
  | some egress =>
      have hmake : EgressGatewaySpec.make egress.vnetName egress.ordered.allowedDestinations
          egress.ordered.allowedPorts egress.ownership egress.approvalReference = .ok egress.ordered := by
        rw [EgressGatewaySpec.make, dif_pos egress.approvalReference_ne,
          dif_pos egress.ordered.allowedDestinations_ne,
          dif_pos egress.ordered.allowedDestinations_valid]
        rfl
      rw [EgressGatewaySpec.ordered] at hmake
      simp only [egressFrom, optionalEgress, egressPayload, textField, Json.getItem, Dict.get?, str_inj,
        String.reduceEq, if_true, if_false, read_bind_ok, lift_payload_ok, Json.text, textsOf_texts,
        ownershipFrom_payload, hmake, lift_raised_ok, pure, Except.pure, Option.map_some,
        EgressGatewaySpec.ordered]

theorem targetFrom_payload (target : ProxmoxTargetIdentity) :
    targetFrom (targetPayload target) = .ok target.ordered := by
  have hmake : ProxmoxTargetIdentity.make target.targetId target.clusterName target.clusterFingerprint
      target.ordered.managementCidrs target.ordered.managementBridges = .ok target.ordered := by
    rw [ProxmoxTargetIdentity.make, dif_pos target.ordered.managementCidrs_ne,
      dif_pos target.ordered.managementCidrs_valid]
    rfl
  rw [ProxmoxTargetIdentity.ordered] at hmake
  simp only [targetFrom, targetPayload, textField, Json.getItem, Json.getOr, Dict.get?, str_inj,
    String.reduceEq, if_true, if_false, read_bind_ok, lift_payload_ok, Json.text, Option.getD_some,
    textsOf_texts, hmake, lift_raised_ok, pure, Except.pure, ProxmoxTargetIdentity.ordered]

theorem zoneFrom_payload (zone : SdnZoneSpec) : zoneFrom (zonePayload zone) = .ok zone.ordered := by
  have hmake : SdnZoneSpec.make zone.name zone.bridge zone.ordered.nodes zone.ownership =
      .ok { zone.ordered with mtu := none } := by
    rw [SdnZoneSpec.make, dif_pos zone.name_valid, dif_pos zone.ordered.nodes_ne]
    rfl
  rw [SdnZoneSpec.ordered] at hmake
  simp only [zoneFrom, zonePayload, textField, Json.getItem, Json.getOr, Dict.get?, str_inj,
    String.reduceEq, if_true, if_false, read_bind_ok, lift_payload_ok, Json.text, Option.getD_some,
    textsOf_texts, ownershipFrom_payload, hmake, lift_raised_ok, pure, Except.pure,
    SdnZoneSpec.ordered]
  cases zone.mtu <;> rfl

theorem cloudInitFrom_payload (cloudInit : CloudInitSpec) :
    cloudInitFrom (cloudInitPayload cloudInit) = .ok (some cloudInit) := by
  have hmake : CloudInitSpec.make cloudInit.user cloudInit.sshAuthorizedKeys cloudInit.nameservers
      cloudInit.searchDomain cloudInit.gateway = .ok cloudInit := by
    rw [CloudInitSpec.make, dif_pos cloudInit.sshAuthorizedKeys_public]
  simp only [cloudInitFrom, cloudInitPayload, textField, Json.getItem, Json.getOr, Dict.get?,
    str_inj, String.reduceEq, if_true, if_false, read_bind_ok, lift_payload_ok, Json.text,
    Option.getD_some, textsOf_texts, optionalTextOf_optionalText, hmake, lift_raised_ok, pure,
    Except.pure]

theorem guestFrom_payload (guest : GuestSpec) : guestFrom (guestPayload guest) = .ok guest.ordered := by
  have hdisks : recordsFrom (guestPayload guest) (str "disks") diskFrom =
      .ok ((sortedBy DiskSpec.slot guest.disks).map id) := by
    refine @recordsFrom_fields _ _ _ _ _ diskPayload _ id ?_ fun disk _ => diskFrom_payload disk
    simp only [Dict.get?, str_inj, String.reduceEq, if_true, if_false]
  have hnics : recordsFrom (guestPayload guest) (str "nics") nicFrom =
      .ok ((guest.nics.insertionSort fun a b => a.index ≤ b.index).map id) := by
    refine @recordsFrom_fields _ _ _ _ _ nicPayload _ id ?_ fun nic _ => nicFrom_payload nic
    simp only [Dict.get?, str_inj, String.reduceEq, if_true, if_false]
  have haddress : GuestAddress.make guest.address.publishedAddress guest.address.probeAddress =
      .ok guest.address := by
    rw [GuestAddress.make, dif_pos ⟨guest.address.publishedAddress_valid,
      guest.address.probeAddress_valid⟩]
  have hmake : GuestSpec.make ⟨guest.guestRef, guest.name, guest.kind, guest.vmid, guest.nodeName,
      guest.templateRef, guest.cloneStrategy, guest.cpuCores, guest.memoryMb, guest.ordered.disks,
      guest.ordered.nics, guest.address, guest.ownership, guest.cloudInit, guest.startOnDeploy,
      guest.readinessTimeoutSeconds⟩ = .ok guest.ordered := by
    rw [GuestSpec.make, dif_pos guest.name_valid, dif_pos guest.vmid_bounds,
      dif_pos guest.resources_pos, dif_pos guest.ordered.nics_ne, dif_pos guest.ordered.nics_nodup]
    rfl
  rw [List.map_id] at hdisks hnics
  rw [guestFrom, hdisks, hnics]
  simp only [guestPayload, addressFrom, textField, intField, boolField, Json.getItem, Json.getOr,
    Dict.get?, str_inj, String.reduceEq, if_true, if_false, read_bind_ok, lift_payload_ok, Json.text,
    Json.toInt, Json.toInt?, Json.truthy, Option.getD_some, GuestKind.read_value,
    CloneStrategy.read_value, optionalTextOf_optionalText, ownershipFrom_payload, haddress,
    lift_raised_ok, pure, Except.pure]
  cases hcloud : guest.cloudInit with
  | none =>
      rw [hcloud] at hmake
      exact congrArg (liftM : Except Raised GuestSpec → Read GuestSpec) hmake
  | some cloudInit =>
      rw [hcloud] at hmake
      simp only [cloudInitFrom_payload, read_bind_ok]
      exact congrArg (liftM : Except Raised GuestSpec → Read GuestSpec) hmake

/-! ## Reading the whole payload -/

omit [Unicode] in
theorem textDictOf_texts (entries : Dict Str Str) :
    textDictOf (.obj (entries.map fun entry => (entry.1, .str entry.2))) = .ok entries := by
  have hentries : (entries.map fun entry => (entry.1, Json.str entry.2)).mapM
      (fun field => do pure (field.1, ← textOf field.2)) = .ok (entries.map id) :=
    mapM_map_ok fun _ _ => rfl
  rw [textDictOf, hentries, List.map_id]

theorem networkFrom_payload (network : SegregatedNetworkPlan) :
    networkFrom network.zone.ordered (networkPayload network) = .ok network.ordered := by
  have hvnets : recordsFrom (networkPayload network) (str "vnets") vnetFrom =
      .ok ((sortedBy VNetSpec.name network.vnets).map id) := by
    refine @recordsFrom_fields _ _ _ _ _ vnetPayload _ id ?_ fun vnet _ => vnetFrom_payload vnet
    simp only [Dict.get?, str_inj, String.reduceEq, if_true, if_false]
  have hipSets : recordsFrom (networkPayload network) (str "ip_sets") ipSetFrom =
      .ok ((sortedBy IpSetSpec.name network.ipSets).map IpSetSpec.ordered) := by
    refine @recordsFrom_fields _ _ _ _ _ ipSetPayload _ _ ?_ fun ipSet _ => ipSetFrom_payload ipSet
    simp only [Dict.get?, str_inj, String.reduceEq, if_true, if_false]
  have hgroups : recordsFrom (networkPayload network) (str "security_groups") securityGroupFrom =
      .ok ((sortedBy SecurityGroupSpec.name network.securityGroups).map SecurityGroupSpec.ordered) := by
    refine @recordsFrom_fields _ _ _ _ _ securityGroupPayload _ _ ?_ fun group _ =>
      securityGroupFrom_payload group
    simp only [Dict.get?, str_inj, String.reduceEq, if_true, if_false]
  rw [List.map_id] at hvnets
  rw [networkFrom, hvnets, hipSets, hgroups]
  simp only [networkPayload, Json.getOr, Dict.get?, str_inj, String.reduceEq, if_true, if_false,
    read_bind_ok, lift_payload_ok, Option.getD_some, egressFrom_payload, textDictOf_texts, pure,
    Except.pure]
  rfl

/-- What is read from the payload of a topology is the topology in the order of the payload. -/
theorem fromManifestPayload_toManifestPayload (topology : CompiledTopology)
    (ledger : AllocationLedger) :
    fromManifestPayload (toManifestPayload topology (some ledger)) =
      .ok (topology.approved ledger) := by
  have hguests : recordsFrom (toManifestPayload topology (some ledger)) (str "guests") guestFrom =
      .ok ((sortedBy GuestSpec.guestRef topology.guests).map GuestSpec.ordered) := by
    refine @recordsFrom_fields _ _ _ _ _ guestPayload _ _ ?_ fun guest _ => guestFrom_payload guest
    simp only [List.cons_append, Dict.get?, str_inj, String.reduceEq, if_true, if_false]
  have htarget : required (toManifestPayload topology (some ledger)) (str "target") =
      .ok (targetPayload topology.target) := by
    simp only [required, toManifestPayload, List.cons_append, Json.getItem, Dict.get?, str_inj,
      String.reduceEq, if_true, if_false]
  have hnetwork : required (toManifestPayload topology (some ledger)) (str "network") =
      .ok (networkPayload topology.network) := by
    simp only [required, toManifestPayload, List.cons_append, Json.getItem, Dict.get?, str_inj,
      String.reduceEq, if_true, if_false]
  have hzone : required (networkPayload topology.network) (str "zone") =
      .ok (zonePayload topology.network.zone) := by
    simp only [required, networkPayload, Json.getItem, Dict.get?, if_true]
  rw [fromManifestPayload, hguests, htarget, hnetwork]
  simp only [toManifestPayload, List.cons_append, Json.isObject, Json.field, Json.get?_obj,
    Json.getItem, Json.getOr, Dict.get?, str_inj, String.reduceEq, if_true, if_false, Option.getD_some,
    Bool.not_true, Bool.false_eq_true, desiredStateVersion, Json.eqInt, decide_true, read_bind_ok,
    lift_payload_ok, hzone, targetFrom_payload, zoneFrom_payload, networkFrom_payload,
    ownershipFrom_payload, Json.elements, pure, Except.pure]
  rfl

end

/-! ## Writing it again -/

theorem orderedRules_ordered (group : SecurityGroupSpec) :
    group.ordered.orderedRules = group.orderedRules :=
  (List.pairwise_insertionSort (fun a b : FirewallRuleSpec => a.position ≤ b.position)
    group.rules).insertionSort_eq

theorem ipSetPayload_ordered (ipSet : IpSetSpec) : ipSetPayload ipSet.ordered = ipSetPayload ipSet := by
  rw [ipSetPayload, IpSetSpec.ordered, sortedBy_sortedBy, ipSetPayload]

theorem securityGroupPayload_ordered (group : SecurityGroupSpec) :
    securityGroupPayload group.ordered = securityGroupPayload group := by
  rw [securityGroupPayload, orderedRules_ordered]
  rfl

theorem guestPayload_ordered (guest : GuestSpec) : guestPayload guest.ordered = guestPayload guest := by
  have hnics : guest.ordered.nics.insertionSort (fun a b => a.index ≤ b.index) =
      guest.nics.insertionSort fun a b => a.index ≤ b.index :=
    (List.pairwise_insertionSort (fun a b : NicSpec => a.index ≤ b.index) guest.nics).insertionSort_eq
  have hdisks : sortedBy DiskSpec.slot guest.ordered.disks = sortedBy DiskSpec.slot guest.disks :=
    sortedBy_sortedBy _ _
  rw [guestPayload, hnics, hdisks]
  rfl

theorem targetPayload_ordered (target : ProxmoxTargetIdentity) :
    targetPayload target.ordered = targetPayload target := by
  simp only [targetPayload, ProxmoxTargetIdentity.ordered, sortedBy_sortedBy]

theorem optionalEgress_ordered (egress : Option EgressGatewaySpec) :
    optionalEgress (egress.map EgressGatewaySpec.ordered) = optionalEgress egress := by
  cases egress with
  | none => rfl
  | some egress =>
      simp only [Option.map_some, optionalEgress, egressPayload, EgressGatewaySpec.ordered,
        sortedBy_sortedBy]

/-- Sorting again what was sorted and mapped. -/
theorem sortedBy_map_sortedBy {α κ : Type} [Ord κ] [Std.TransOrd κ] {key : α → κ} {f : α → α}
    (hkey : ∀ x, key (f x) = key x) (xs : List α) :
    sortedBy key ((sortedBy key xs).map f) = (sortedBy key xs).map f := by
  rw [sortedBy_map hkey, sortedBy_sortedBy]

theorem networkPayload_ordered (network : SegregatedNetworkPlan) :
    networkPayload network.ordered = networkPayload network := by
  have hipSets : (sortedBy IpSetSpec.name network.ordered.ipSets).map ipSetPayload =
      (sortedBy IpSetSpec.name network.ipSets).map ipSetPayload := by
    rw [show sortedBy IpSetSpec.name network.ordered.ipSets = network.ordered.ipSets from
      @sortedBy_map_sortedBy _ _ _ _ IpSetSpec.name IpSetSpec.ordered (fun _ => rfl) network.ipSets, SegregatedNetworkPlan.ordered, List.map_map]
    exact List.map_congr_left fun ipSet _ => ipSetPayload_ordered ipSet
  have hgroups : (sortedBy SecurityGroupSpec.name network.ordered.securityGroups).map
      securityGroupPayload =
      (sortedBy SecurityGroupSpec.name network.securityGroups).map securityGroupPayload := by
    rw [show sortedBy SecurityGroupSpec.name network.ordered.securityGroups =
        network.ordered.securityGroups from
      @sortedBy_map_sortedBy _ _ _ _ SecurityGroupSpec.name SecurityGroupSpec.ordered (fun _ => rfl)
        network.securityGroups, SegregatedNetworkPlan.ordered,
      List.map_map]
    exact List.map_congr_left fun group _ => securityGroupPayload_ordered group
  rw [networkPayload, hipSets, hgroups, networkPayload]
  simp only [SegregatedNetworkPlan.ordered, sortedBy_sortedBy, optionalEgress_ordered, zonePayload,
    SdnZoneSpec.ordered]

theorem toManifestPayload_approved (topology : CompiledTopology) (ledger : AllocationLedger) :
    toManifestPayload (topology.approved ledger) (some ledger) =
      toManifestPayload topology (some ledger) := by
  have hguests : (sortedBy GuestSpec.guestRef (topology.approved ledger).guests).map guestPayload =
      (sortedBy GuestSpec.guestRef topology.guests).map guestPayload := by
    rw [show sortedBy GuestSpec.guestRef (topology.approved ledger).guests =
        (topology.approved ledger).guests from
      @sortedBy_map_sortedBy _ _ _ _ GuestSpec.guestRef GuestSpec.ordered (fun _ => rfl)
        topology.guests, CompiledTopology.approved, List.map_map]
    exact List.map_congr_left fun guest _ => guestPayload_ordered guest
  rw [toManifestPayload, hguests, toManifestPayload]
  simp only [CompiledTopology.approved, targetPayload_ordered, networkPayload_ordered]

/-! ## Deciding flows -/

/-- Sorting keeps the items of one key in their order. -/
theorem filter_insertionSort {α : Type} {le : α → α → Prop} [DecidableRel le] {p : α → Bool}
    (h : ∀ a b, p a = true → p b = true → le a b) (xs : List α) :
    (xs.insertionSort le).filter p = xs.filter p := by
  have hinsert : ∀ (a : α) (ys : List α),
      (ys.orderedInsert le a).filter p = (a :: ys).filter p := by
    intro a ys
    induction ys with
    | nil => rfl
    | cons b rest ih =>
        by_cases hle : le a b
        · rw [List.orderedInsert_cons_of_le _ _ hle]
        · -- an item that is passed over has another key
          rw [List.orderedInsert_of_not_le _ _ hle, List.filter_cons, ih]
          cases ha : p a with
          | false => simp [ha, List.filter_cons]
          | true =>
              have hb : p b = false := Bool.eq_false_iff.mpr fun hb => hle (h a b ha hb)
              simp [ha, hb]
  induction xs with
  | nil => rfl
  | cons a rest ih => rw [List.insertionSort_cons, hinsert, List.filter_cons, List.filter_cons, ih]

theorem filter_sortedBy {α κ : Type} [Ord κ] [Std.TransOrd κ] [DecidableEq κ] (key : α → κ)
    (k : κ) (xs : List α) : (sortedBy key xs).filter (fun a => key a = k) =
      xs.filter fun a => key a = k := by
  refine filter_insertionSort (fun a b ha hb => ?_) xs
  rw [of_decide_eq_true ha, of_decide_eq_true hb]
  exact Std.ReflCmp.isLE_rfl

/-- The first item of a key is the first after sorting. -/
theorem find?_sortedBy {α κ : Type} [Ord κ] [Std.TransOrd κ] [DecidableEq κ] (key : α → κ) (k : κ)
    (xs : List α) : (sortedBy key xs).find? (fun a => key a = k) = xs.find? fun a => key a = k := by
  rw [← List.head?_filter, ← List.head?_filter, filter_sortedBy]

section
variable {network : SegregatedNetworkPlan}

/-- The set of a name has the same CIDRs in another order. -/
theorem ipSetCidrs_ordered (name : Str) :
    (ipSetCidrs network.ordered).get? name =
      ((ipSetCidrs network).get? name).map (sortedBy id) := by
  have hget : ∀ ipSets : List IpSetSpec,
      (Dict.ofPairs (ipSets.map fun item => (item.name, item.cidrs))).get? name =
        ((ipSets.filter fun item => item.name = name).getLast?).map IpSetSpec.cidrs := by
    intro ipSets
    rw [Dict.get?_ofPairs, ← List.map_reverse, List.find?_map, Option.map_map, ← List.head?_filter,
      List.filter_reverse, List.head?_reverse]
    rfl
  rw [ipSetCidrs, ipSetCidrs, hget, hget, SegregatedNetworkPlan.ordered, List.filter_map,
    show ((fun item : IpSetSpec => decide (item.name = name)) ∘ IpSetSpec.ordered) =
      fun item => decide (item.name = name) from rfl,
    filter_sortedBy, List.getLast?_map, Option.map_map, Option.map_map]
  rfl

/-- A rule field matches the same addresses. -/
theorem addressMatches_ordered (address : Str) (token : Option Str) :
    addressMatches address (resolve token (ipSetCidrs network.ordered)) =
      addressMatches address (resolve token (ipSetCidrs network)) := by
  unfold resolve
  split
  · rfl
  · next name =>
      -- an IPSet, whose CIDRs all parse, so that their order does not show
      have hcidrs : ((ipSetCidrs network.ordered).get? name).getD [] =
          sortedBy id (((ipSetCidrs network).get? name).getD []) := by
        rw [ipSetCidrs_ordered]
        cases (ipSetCidrs network).get? name <;> rfl
      have hvalid := readable_ipSet network name _ rfl
      have hsame : ∀ x, anyContains x (sortedBy id (((ipSetCidrs network).get? name).getD [])) =
          anyContains x (((ipSetCidrs network).get? name).getD []) := by
        intro x
        rw [anyContains_eq hvalid,
          anyContains_eq fun cidr hcidr => hvalid cidr (mem_sortedBy.mp hcidr)]
        refine congrArg _ (Bool.eq_iff_iff.mpr ?_)
        rw [inCidrs_iff, inCidrs_iff]
        simp only [mem_sortedBy]
      rw [hcidrs]
      unfold addressMatches
      exact congrArg _ (funext hsame)
  · rfl

theorem firstVerdict_ordered (flow : Flow) (rules : List FirewallRuleSpec) :
    firstVerdict (ipSetCidrs network.ordered) flow rules =
      firstVerdict (ipSetCidrs network) flow rules := by
  induction rules with
  | nil => rfl
  | cons r rest ih =>
      unfold firstVerdict
      rw [addressMatches_ordered, ih]

/-- The order of the payload decides every flow alike. -/
theorem evaluateFlow_ordered [Unicode] (hkeys : (network.vnetSecurityGroup.map Prod.fst).Nodup)
    (fromVnet : Str) (flow : Flow) :
    evaluateFlow network.ordered fromVnet flow = evaluateFlow network fromVnet flow := by
  have hattached : network.ordered.vnetSecurityGroup.get? fromVnet =
      network.vnetSecurityGroup.get? fromVnet := Dict.get?_of_perm (sortedBy_perm _ _) hkeys fromVnet
  have hgroup : ∀ name, network.ordered.securityGroups.find? (fun group => group.name = name) =
      (network.securityGroups.find? fun group => group.name = name).map SecurityGroupSpec.ordered := by
    intro name
    rw [SegregatedNetworkPlan.ordered, List.find?_map]
    exact congrArg _ (find?_sortedBy SecurityGroupSpec.name name network.securityGroups)
  unfold evaluateFlow
  rw [hattached]
  split
  · rfl
  · next groupName _ =>
      rw [hgroup]
      cases network.securityGroups.find? fun group => group.name = groupName with
      | none => rfl
      | some group =>
          show firstVerdict _ flow group.ordered.orderedRules = firstVerdict _ flow group.orderedRules
          rw [orderedRules_ordered, firstVerdict_ordered]

end

/-! ## The round trip -/

/-- What becomes of an approved desired state and of its ledger between the payload and its readers. -/
structure RoundTrip [Unicode] (topology : CompiledTopology) (ledger : AllocationLedger) : Prop where
  topology_read : ∃ topology',
    fromManifestPayload (toManifestPayload topology (some ledger)) = .ok topology' ∧
      toManifestPayload topology' (some ledger) = toManifestPayload topology (some ledger) ∧
      ∀ fromVnet flow, evaluateFlow topology'.network fromVnet flow =
        evaluateFlow topology.network fromVnet flow
  ledger_read : ∃ payload ledger',
    (toManifestPayload topology (some ledger)).getItem (str "allocation_ledger") = .ok payload ∧
      AllocationLedger.fromManifest payload = .ok ledger' ∧
      ledger'.records.Perm ledger.records ∧ ledger'.isSealed = ledger.isSealed

/-- Every desired state survives its payload. The dictionary of a network has each of its keys once. -/
theorem manifest_roundTrip [Unicode] (topology : CompiledTopology) (ledger : AllocationLedger)
    (hkeys : (topology.network.vnetSecurityGroup.map Prod.fst).Nodup) :
    RoundTrip topology ledger where
  topology_read := ⟨topology.approved ledger, fromManifestPayload_toManifestPayload topology ledger,
    toManifestPayload_approved topology ledger, evaluateFlow_ordered hkeys⟩
  ledger_read := by
    obtain ⟨ledger', hread, hrecords, hsealed⟩ := AllocationLedger.fromManifest_toManifest ledger
    refine ⟨ledger.toManifest, ledger', ?_, hread, ?_, hsealed⟩
    · simp only [toManifestPayload, List.cons_append, List.nil_append, Json.getItem, Dict.get?, str_inj,
        String.reduceEq, if_true, if_false]
    · rw [hrecords]
      exact sortedBy_perm _ _

/-! ### One segment -/

theorem segmentZone_name : isSdnName (str "zred") = true := by with_unfolding_all decide

theorem segmentCidrs_valid : ∀ cidr ∈ [str "198.51.100.0/24", str "192.0.2.0/24"],
    (Ip.ipNetwork true cidr).isSome = true := by with_unfolding_all decide

theorem segmentGroup_name : isFirewallName (str "secp-red") = true := by with_unfolding_all decide

/-- A zone with one security group, which drops everything. -/
def segmentNetwork : SegregatedNetworkPlan where
  zone := ⟨str "zred", str "vmbr9", [str "pve-b", str "pve-a"], sampleOwnership, some 1450,
    segmentZone_name, List.cons_ne_nil _ _⟩
  vnets := []
  securityGroups := [⟨str "secp-red", [⟨7, .outbound, .drop, str "default deny", none, none, none, none,
    true, Int.natCast_nonneg 7, by simp⟩], sampleOwnership, [], segmentGroup_name,
    List.nodup_singleton _⟩]
  ipSets := []
  vnetSecurityGroup := [(str "vred", str "secp-red")]
  egress := none

def segmentTopology : CompiledTopology where
  target := ⟨str "t", str "c", str "f", [str "198.51.100.0/24", str "192.0.2.0/24"], [str "vmbr0"],
    List.cons_ne_nil _ _, segmentCidrs_valid⟩
  ownership := sampleOwnership
  network := segmentNetwork
  guests := []
  allocations := []

theorem segmentTopology_roundTrip :
    (segmentTopology.network.vnetSecurityGroup.map Prod.fst).Nodup ∧
      @RoundTrip Unicode.ascii segmentTopology AllocationLedger.empty.sealLedger :=
  let _ := Unicode.ascii
  have hkeys := List.nodup_singleton _
  ⟨hkeys, manifest_roundTrip segmentTopology AllocationLedger.empty.sealLedger hkeys⟩

end Secp.Proxmox
