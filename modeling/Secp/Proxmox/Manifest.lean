import Secp.Proxmox.Ipam

/-!
# The manifest payload

`toManifestPayload` serializes a compiled topology, with every collection in an explicit order, into
the JSON document the worker renders from. `withOperationGeneration` stamps every ownership of a
topology for a new lifecycle operation.
-/

namespace Secp.Proxmox

open Secp.Python

def desiredStateVersion : Int := 1

def optionalText : Option Str → Json
  | none => .null
  | some s => .str s

def texts (items : List Str) : Json := .arr (items.map .str)

/-- The stamp with its flat tag form beside its fields. -/
def ownershipPayload (ownership : Ownership) : Json :=
  .obj [
    (str "organization_id", .str ownership.organizationId),
    (str "target_id", .str ownership.targetId),
    (str "range_id", .str ownership.rangeId),
    (str "generation", .int ownership.generation),
    (str "operation_generation", .int ownership.operationGeneration),
    (str "resource_kind", .str ownership.resourceKind.value),
    (str "team_ref", optionalText ownership.teamRef),
    (str "tags", .obj (ownership.asTags.map fun tag => (tag.1, .str tag.2)))]

def rulePayload (r : FirewallRuleSpec) : Json :=
  .obj [
    (str "position", .int r.position),
    (str "direction", .str r.direction.value),
    (str "verdict", .str r.verdict.value),
    (str "comment", .str r.comment),
    (str "source", optionalText r.source),
    (str "dest", optionalText r.dest),
    (str "proto", optionalText r.proto),
    (str "dport", optionalText r.dport),
    (str "enabled", .bool r.enabled)]

def diskPayload (disk : DiskSpec) : Json :=
  .obj [
    (str "slot", .str disk.slot),
    (str "size_gb", .int disk.sizeGb),
    (str "storage_id", .str disk.storageId),
    (str "discard", .bool disk.discard),
    (str "ssd_emulation", .bool disk.ssdEmulation)]

def nicPayload (nic : NicSpec) : Json :=
  .obj [
    (str "index", .int nic.index),
    (str "vnet_name", .str nic.vnetName),
    (str "mac_address", .str nic.macAddress),
    (str "model", .str nic.model),
    (str "firewall", .bool nic.firewall)]

def cloudInitPayload (cloudInit : CloudInitSpec) : Json :=
  .obj [
    (str "user", .str cloudInit.user),
    (str "ssh_authorized_keys", texts cloudInit.sshAuthorizedKeys),
    (str "nameservers", texts cloudInit.nameservers),
    (str "search_domain", optionalText cloudInit.searchDomain),
    (str "gateway", optionalText cloudInit.gateway)]

def guestPayload (guest : GuestSpec) : Json :=
  .obj [
    (str "guest_ref", .str guest.guestRef),
    (str "name", .str guest.name),
    (str "kind", .str guest.kind.value),
    (str "vmid", .int guest.vmid),
    (str "node_name", .str guest.nodeName),
    (str "template_ref", .str guest.templateRef),
    (str "clone_strategy", .str guest.cloneStrategy.value),
    (str "cpu_cores", .int guest.cpuCores),
    (str "memory_mb", .int guest.memoryMb),
    (str "start_on_deploy", .bool guest.startOnDeploy),
    (str "readiness_timeout_seconds", .int guest.readinessTimeoutSeconds),
    (str "disks", .arr ((sortedBy DiskSpec.slot guest.disks).map diskPayload)),
    (str "nics", .arr ((guest.nics.insertionSort fun a b => a.index ≤ b.index).map nicPayload)),
    (str "address", .obj [
      (str "published_address", .str guest.address.publishedAddress),
      (str "probe_address", optionalText guest.address.probeAddress)]),
    (str "cloud_init", match guest.cloudInit with
      | none => .null
      | some cloudInit => cloudInitPayload cloudInit),
    (str "ownership", ownershipPayload guest.ownership)]

def targetPayload (target : ProxmoxTargetIdentity) : Json :=
  .obj [
    (str "target_id", .str target.targetId),
    (str "cluster_name", .str target.clusterName),
    (str "cluster_fingerprint", .str target.clusterFingerprint),
    (str "management_cidrs", texts (sortedBy id target.managementCidrs)),
    (str "management_bridges", texts (sortedBy id target.managementBridges))]

def zonePayload (zone : SdnZoneSpec) : Json :=
  .obj [
    (str "name", .str zone.name),
    (str "bridge", .str zone.bridge),
    (str "nodes", texts (sortedBy id zone.nodes)),
    (str "mtu", match zone.mtu with
      | none => .null
      | some mtu => .int mtu),
    (str "ownership", ownershipPayload zone.ownership)]

def vnetPayload (vnet : VNetSpec) : Json :=
  .obj [
    (str "name", .str vnet.name),
    (str "zone_name", .str vnet.zoneName),
    (str "vlan_tag", .int vnet.vlanTag),
    (str "role", .str vnet.role.value),
    (str "alias", .str vnet.vnetAlias),
    (str "subnet", .obj [
      (str "cidr", .str vnet.subnet.cidr),
      (str "gateway", .str vnet.subnet.gateway),
      (str "routed", .bool vnet.subnet.routed)]),
    (str "ownership", ownershipPayload vnet.ownership)]

def ipSetPayload (ipSet : IpSetSpec) : Json :=
  .obj [
    (str "name", .str ipSet.name),
    (str "cidrs", texts (sortedBy id ipSet.cidrs)),
    (str "comment", .str ipSet.comment),
    (str "ownership", ownershipPayload ipSet.ownership)]

/-- The rules go out in the order the evaluator and the renderer use. -/
def securityGroupPayload (group : SecurityGroupSpec) : Json :=
  .obj [
    (str "name", .str group.name),
    (str "comment", .str group.comment),
    (str "ownership", ownershipPayload group.ownership),
    (str "rules", .arr (group.orderedRules.map rulePayload))]

def egressPayload (egress : EgressGatewaySpec) : Json :=
  .obj [
    (str "vnet_name", .str egress.vnetName),
    (str "allowed_destinations", texts (sortedBy id egress.allowedDestinations)),
    (str "allowed_ports", texts (sortedBy id egress.allowedPorts)),
    (str "approval_reference", .str egress.approvalReference),
    (str "ownership", ownershipPayload egress.ownership)]

def optionalEgress : Option EgressGatewaySpec → Json
  | none => .null
  | some egress => egressPayload egress

def networkPayload (network : SegregatedNetworkPlan) : Json :=
  .obj [
    (str "zone", zonePayload network.zone),
    (str "vnets", .arr ((sortedBy VNetSpec.name network.vnets).map vnetPayload)),
    (str "ip_sets", .arr ((sortedBy IpSetSpec.name network.ipSets).map ipSetPayload)),
    (str "security_groups",
      .arr ((sortedBy SecurityGroupSpec.name network.securityGroups).map securityGroupPayload)),
    (str "vnet_security_group",
      .obj ((sortedBy id network.vnetSecurityGroup).map fun entry => (entry.1, .str entry.2))),
    (str "egress", optionalEgress network.egress)]

/-- `to_manifest_payload`. Without a ledger the allocations are the topology's own. -/
def toManifestPayload (topology : CompiledTopology) (ledger : Option AllocationLedger) : Json :=
  let fields := [
    (str "desired_state_version", .int desiredStateVersion),
    (str "target", targetPayload topology.target),
    (str "ownership", ownershipPayload topology.ownership),
    (str "network", networkPayload topology.network),
    (str "guests", .arr ((sortedBy GuestSpec.guestRef topology.guests).map guestPayload)),
    (str "allocations", .arr (match ledger with
      | none => topology.allocations
      | some ledger => ledger.all.map Allocation.asDict))]
  .obj (match ledger with
    | none => fields
    | some ledger => fields ++ [(str "allocation_ledger", ledger.toManifest)])

/-! ## A new lifecycle operation -/

/-- The stamp of another operation. -/
def Ownership.restamp (generation : Int) (h : 0 ≤ generation) (ownership : Ownership) : Ownership :=
  { ownership with
    operationGeneration := generation
    generations_nonneg := ⟨ownership.generations_nonneg.1, h⟩ }

/-- `with_operation_generation`, once the generation is known to be valid. -/
def CompiledTopology.restamp (generation : Int) (h : 0 ≤ generation)
    (topology : CompiledTopology) : CompiledTopology :=
  let stamp := Ownership.restamp generation h
  let network := topology.network
  { topology with
    ownership := stamp topology.ownership
    network := { network with
      zone := { network.zone with ownership := stamp network.zone.ownership }
      vnets := network.vnets.map fun v => { v with ownership := stamp v.ownership }
      ipSets := network.ipSets.map fun i => { i with ownership := stamp i.ownership }
      securityGroups := network.securityGroups.map fun g => { g with ownership := stamp g.ownership }
      egress := network.egress.map fun e => { e with ownership := stamp e.ownership } }
    guests := topology.guests.map fun g => { g with ownership := stamp g.ownership } }

/-- `with_operation_generation`: the first stamp refuses a negative generation. -/
def withOperationGeneration (topology : CompiledTopology) (generation : Int) :
    Except Raised CompiledTopology :=
  if h : 0 ≤ generation then .ok (topology.restamp generation h)
  else .error (.model (str "ownership generations must be non-negative"))

end Secp.Proxmox
