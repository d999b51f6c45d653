import Secp.Python.IpaddressText
import Secp.Worker.Hcl

/-!
# The rendered module bundle

`renderBundle` turns a desired state into the files a workspace is planned from. Every collection is
sorted again here, and nothing that is read is trusted to be there: what is missing or of the wrong
type raises, and what cannot be rendered faithfully is refused.
-/

namespace Secp.Worker

open Secp.Python Secp.Python.Ip

/-! ## Refusals -/

inductive RenderError where
  /-- `AdapterError`. -/
  | adapter (message : Str)
  | payload (error : PayloadError)
  deriving DecidableEq

abbrev Rendering := Except RenderError

instance : MonadLift (Except PayloadError) Rendering where
  monadLift
    | .ok value => .ok value
    | .error e => .error (.payload e)

/-! ## The bundle's identity -/

def bundleId : Str := str "secp-proxmox-range/bundle/v1"

def providerSource : Str := str "bpg/proxmox"

def providerAddress : Str := str "registry.opentofu.org/bpg/proxmox"

def providerVersion : Str := str "0.66.1"

def providerLocalName : Str := str "proxmox"

/-! `RESOURCE_TYPES`. -/

def sdnZoneType : Str := str "proxmox_virtual_environment_sdn_zone_vlan"

def sdnVNetType : Str := str "proxmox_virtual_environment_sdn_vnet"

def sdnSubnetType : Str := str "proxmox_virtual_environment_sdn_subnet"

def securityGroupType : Str :=
  str "proxmox_virtual_environment_cluster_firewall_security_group"

def ipSetType : Str := str "proxmox_virtual_environment_firewall_ipset"

def qemuGuestType : Str := str "proxmox_virtual_environment_vm"

def lxcGuestType : Str := str "proxmox_virtual_environment_container"

/-! ## Pieces -/

def isAsciiLetter (c : Char) : Bool := isAsciiLower c || isAsciiUpper c

/-- `_label`: an HCL resource label, never empty. -/
def hclLabel (value : Str) : Str :=
  let cleaned :=
    subChars (fun c => !(isAsciiLetter c || isAsciiDigit c || c = '_')) '_' value
  match cleaned with
  | c :: _ => if isAsciiLetter c || c = '_' then cleaned else str "r_" ++ cleaned
  | [] => str "r_"

def textAttribute (width : Nat) (key : String) (value : Str) : HclItem :=
  .attribute width (str key) (.scalar (.text value))

def numberAttribute (width : Nat) (key : String) (value : Int) : HclItem :=
  .attribute width (str key) (.scalar (.number value))

def flagAttribute (width : Nat) (key : String) (value : Bool) : HclItem :=
  .attribute width (str key) (.scalar (.flag value))

def listAttribute (width : Nat) (key : String) (values : List Str) : HclItem :=
  .attribute width (str key) (.list values)

def symbolAttribute (width : Nat) (key symbol : String) : HclItem :=
  .attribute width (str key) (.scalar (.symbol (str symbol)))

def nested (keyword : String) (body : List HclItem) : HclItem := .block (str keyword) [] body

def resource (type label : Str) (body : List HclItem) : HclItem :=
  .block (str "resource") [type, label] body

def comments (lines : List String) : List HclItem := lines.map fun line => .comment (str line)

def header : HclItem :=
  .comment (str "GENERATED by " ++ bundleId ++ str " — do not edit. Deterministic and secret-free.")

section
variable [Unicode]

/-- The text of a value in a literal: nothing for `None`. -/
def literal (value : Json) : Str :=
  match value with
  | .null => []
  | value => value.text

/-- `_s(payload[key])`. -/
def literalAt (payload : Json) (key : String) : Except PayloadError Str := do
  pure (literal (← payload.getItem (str key)))

/-- `int(payload[key])`. -/
def intAt (payload : Json) (key : String) : Except PayloadError Int := do
  (← payload.getItem (str key)).toInt

/-- `str(payload[key])`. -/
def textAt (payload : Json) (key : String) : Except PayloadError Str := do
  pure (← payload.getItem (str key)).text

/-- `payload.get(key, [])`, as a loop visits it. -/
def listAt (payload : Json) (key : String) : Except PayloadError (List Json) := do
  (← payload.getOr (str key) (.arr [])).elements

/-- `bool(payload.get(key, default))`. -/
def flagAt (payload : Json) (key : String) (default : Bool) : Except PayloadError Bool := do
  pure (← payload.getOr (str key) (.bool default)).truthy

/-- `sorted(items, key=…)`. -/
def sortedOn {κ : Type} [Ord κ] (key : Json → Except PayloadError κ) (items : List Json) :
    Except PayloadError (List Json) := do
  let keyed ← items.mapM fun item => do pure (← key item, item)
  pure ((sortedBy Prod.fst keyed).map Prod.snd)

/-- The key texts sort by, `none` where a value is no text. -/
def sortText : Json → Option Str
  | .str s => some s
  | _ => none

def sortNumber : Json → Option Int
  | .int n => some n
  | .bool b => some (if b then 1 else 0)
  | _ => none

/-- `sorted(items)` on values that are all texts or all numbers. -/
def sortedValues (items : List Json) : Except PayloadError (List Json) :=
  if items.all fun item => (sortText item).isSome then
    .ok (sortedBy (fun item => (sortText item).getD []) items)
  else if items.all fun item => (sortNumber item).isSome then
    .ok (sortedBy (fun item => (sortNumber item).getD 0) items)
  else if items.length ≤ 1 then .ok items
  else .error .typeError

/-- The tags of an ownership, by key, as `key=value`. -/
def ownershipItems (ownership : Json) : Except PayloadError (List Str) := do
  let tags ← ((← ownership.getOr (str "tags") .null).orElse (.obj [])).pairs
  pure ((sortedBy Prod.fst tags).map fun tag => tag.1 ++ str "=" ++ tag.2.text)

/-- `_ownership_comment`. -/
def ownershipComment (ownership : Json) : Except PayloadError Str := do
  pure (join (str " ") (← ownershipItems ownership))

/-- What a provider tag may hold. -/
def isTagChar (c : Char) : Bool :=
  isAsciiLower c || isAsciiDigit c || c = '_' || c = '.' || c = '=' || c = '-'

/-- `_ownership_tag_list`. -/
def ownershipTagList (ownership : Json) : Except PayloadError (List Str) := do
  pure ((← ownershipItems ownership).map fun item =>
    subChars (fun c => !isTagChar c) '-' (lower item))

/-- `payload.get("ownership", {})`. -/
def ownershipOf (payload : Json) : Except PayloadError Json :=
  payload.getOr (str "ownership") (.obj [])

/-- `_prefix_len`. -/
def prefixLen (cidr : Str) : Except PayloadError Nat :=
  match ipNetwork true cidr with
  | some network => .ok network.prefixlen
  | none => .error .valueError

/-! ## Fixed files -/

omit [Unicode] in
/-- `_render_versions`. -/
def renderVersions (opentofuVersion : Str) : List HclItem :=
  [header,
    nested "terraform" [
      .attribute 0 (str "required_version") (.scalar (.raw (str "= " ++ opentofuVersion))),
      nested "required_providers" [
        .object providerLocalName [
          textAttribute 7 "source" providerSource,
          .attribute 7 (str "version") (.scalar (.raw (str "= " ++ providerVersion)))]]]]

omit [Unicode] in
/-- `_render_variables`. -/
def renderVariables : List HclItem :=
  [header] ++
  comments ["Injected just-in-time in the worker at apply. Never persisted, never hashed,",
    "never logged, and never written into any rendered file."] ++
  [.block (str "variable") [str "pm_endpoint"] [
      symbolAttribute 11 "type" "string",
      textAttribute 11 "description" (str "Proxmox API endpoint; supplied at apply time only.")],
    .blank,
    .block (str "variable") [str "pm_api_token"] [
      symbolAttribute 11 "type" "string",
      flagAttribute 11 "sensitive" true,
      textAttribute 11 "description" (str "Proxmox API token; supplied at apply time only.")]]

omit [Unicode] in
/-- `_render_provider`. -/
def renderProvider : List HclItem :=
  [header,
    .block (str "provider") [providerLocalName] [
      symbolAttribute 0 "endpoint" "var.pm_endpoint",
      symbolAttribute 0 "api_token" "var.pm_api_token",
      flagAttribute 0 "insecure" false]]

/-! ## The network -/

def renderMtu (zone : Json) : Except PayloadError (List HclItem) := do
  match ← zone.getOr (str "mtu") .null with
  | .null => pure []
  | mtu => pure [numberAttribute 6 "mtu" (← mtu.toInt)]

/-- `_render_zone`. -/
def renderZone (zone : Json) : Except PayloadError (List HclItem) := do
  let label := hclLabel (← textAt zone "name")
  let name ← literalAt zone "name"
  let nodes ← sortedValues (← listAt zone "nodes")
  let bridge ← literalAt zone "bridge"
  let mtu ← renderMtu zone
  let stamp ← ownershipComment (← ownershipOf zone)
  pure ([header] ++
    comments ["The scenario SDN zone. Its bridge is chosen by the compiler from bridges observed on",
      "every online node, EXCLUDING declared management bridges, so the zone can never ride",
      "the management plane."] ++
    [resource sdnZoneType label ([
      textAttribute 6 "id" name,
      listAttribute 6 "nodes" (nodes.map literal),
      textAttribute 6 "bridge" bridge] ++ mtu ++ [.comment stamp])])

/-- One VNet and its subnet. -/
def renderVNet (vnet : Json) : Except PayloadError (List HclItem) := do
  let label := hclLabel (← textAt vnet "name")
  let subnet ← vnet.getItem (str "subnet")
  let name ← literalAt vnet "name"
  let zoneName ← literalAt vnet "zone_name"
  let tag ← intAt vnet "vlan_tag"
  let vnetAlias ← vnet.getOr (str "alias") .null
  let stamp ← ownershipComment (← ownershipOf vnet)
  let cidr ← literalAt subnet "cidr"
  let gateway ← literalAt subnet "gateway"
  let routed ← subnet.getOr (str "routed") .null
  pure [
    resource sdnVNetType label ([
      textAttribute 4 "id" name,
      textAttribute 4 "zone" zoneName,
      numberAttribute 4 "tag" tag] ++
      (if vnetAlias.truthy then [textAttribute 4 "alias" (literal vnetAlias)] else []) ++
      [.comment stamp]),
    .blank,
    resource sdnSubnetType label [
      .attribute 4 (str "vnet") (.scalar (.resource sdnVNetType label (str "id"))),
      textAttribute 4 "cidr" cidr,
      textAttribute 4 "gateway" gateway,
      flagAttribute 4 "snat" routed.truthy],
    .blank]

/-- `_render_vnets`. -/
def renderVNets (vnets : List Json) : Except PayloadError (List HclItem) := do
  let rendered ← vnets.mapM renderVNet
  pure ([header] ++
    comments ["One VNet per segment, each carrying its own VLAN tag, and one subnet per VNet.",
      "Subnets are unrouted by default: SECP provides no gateway off-segment unless an",
      "approved plan explicitly asked for egress."] ++
    [.blank] ++ rendered.flatten)

/-- The team a segment is listed under. Only a text can be made a label. -/
def segmentTeam (vnet : Json) : Except PayloadError Str := do
  let team ← (← ownershipOf vnet).getOr (str "team_ref") .null
  match team.orElse (.str (str "_shared")) with
  | .str team => pure team
  | _ => throw .typeError

/-- One segment of a team. -/
def renderSegment (vnet : Json) : Except PayloadError HclItem := do
  let role ← textAt vnet "role"
  let name ← literalAt vnet "name"
  let tag ← intAt vnet "vlan_tag"
  let cidr ← literalAt (← vnet.getItem (str "subnet")) "cidr"
  pure (.attribute 0 (hclLabel role) (.inline [
    (str "vnet", .text name), (str "vlan", .number tag), (str "cidr", .text cidr)]))

/-- `_render_segments`. -/
def renderSegments (vnets : List Json) : Except PayloadError (List HclItem) := do
  let byTeam ← vnets.mapM fun vnet => do pure (← segmentTeam vnet, vnet)
  let teams ← (sortedBy id (byTeam.map Prod.fst).dedup).mapM fun team => do
    let members := (byTeam.filter fun entry => entry.1 = team).map Prod.snd
    let segments ← (← sortedOn (fun vnet => textAt vnet "name") members).mapM renderSegment
    pure (HclItem.object (hclLabel team) segments)
  pure [header, nested "locals" [.object (str "secp_segments") teams]]

/-! ## The firewall -/

/-- A comment with the ownership stamp behind it. -/
def stampedComment (payload : Json) : Except PayloadError Str := do
  let comment := (← payload.getOr (str "comment") .null).orElse (.str [])
  let stamp ← ownershipComment (← ownershipOf payload)
  pure (strip (comment.text ++ str " [" ++ stamp ++ str "]"))

def renderIpSet (ipSet : Json) : Except PayloadError (List HclItem) := do
  let label := hclLabel (← textAt ipSet "name")
  let name ← literalAt ipSet "name"
  let comment ← stampedComment ipSet
  let cidrs ← sortedValues (← listAt ipSet "cidrs")
  pure [
    resource ipSetType label ([
      textAttribute 7 "name" name,
      textAttribute 7 "comment" comment] ++
      cidrs.map fun cidr => nested "cidr" [textAttribute 4 "name" (literal cidr)]),
    .blank]

/-- An attribute of a rule that is left out where the rule does not restrict it. -/
def optionalAt (rule : Json) (key : String) : Except PayloadError (List HclItem) := do
  let value ← rule.getOr (str key) .null
  pure (if value.truthy then [textAttribute 7 key (literal value)] else [])

def renderRule (rule : Json) : Except PayloadError (List HclItem) := do
  let direction ← textAt rule "direction"
  let verdict ← literalAt rule "verdict"
  let comment ← literalAt rule "comment"
  let source ← optionalAt rule "source"
  let dest ← optionalAt rule "dest"
  let proto ← optionalAt rule "proto"
  let dport ← optionalAt rule "dport"
  let enabled ← flagAt rule "enabled" true
  pure [
    .blank,
    nested "rule" ([
      textAttribute 7 "type" (lower direction),
      textAttribute 7 "action" verdict,
      textAttribute 7 "comment" comment] ++ source ++ dest ++ proto ++ dport ++
      [flagAttribute 7 "enabled" enabled])]

def renderSecurityGroup (group : Json) : Except PayloadError (List HclItem) := do
  let label := hclLabel (← textAt group "name")
  let name ← literalAt group "name"
  let comment ← stampedComment group
  let rules ← sortedOn (fun rule => intAt rule "position") (← listAt group "rules")
  let rendered ← rules.mapM renderRule
  pure [
    resource securityGroupType label ([
      textAttribute 7 "name" name,
      textAttribute 7 "comment" comment] ++ rendered.flatten),
    .blank]

/-- `_render_firewall`. -/
def renderFirewall (network : Json) : Except PayloadError (List HclItem) := do
  let ipSets ← sortedOn (fun ipSet => textAt ipSet "name") (← listAt network "ip_sets")
  let renderedSets ← ipSets.mapM renderIpSet
  let groups ← sortedOn (fun group => textAt group "name") (← listAt network "security_groups")
  let renderedGroups ← groups.mapM renderSecurityGroup
  pure ([header] ++
    comments ["Default deny with explicit allows. Rule ORDER is significant and is preserved exactly",
      "as the compiler emitted it: every deny precedes every allow, and the compiled order is",
      "what the isolation verifier evaluated. Reordering them invalidates that proof."] ++
    [.blank] ++ renderedSets.flatten ++ renderedGroups.flatten)

/-! ## Guests -/

/-- `_vnet_index`. -/
def vnetIndex (vnets : List Json) : Except PayloadError (Dict Str Json) := do
  pure (Dict.ofPairs (← vnets.mapM fun vnet => do pure (← textAt vnet "name", vnet)))

/-- The NICs of a guest by index. -/
def sortedNics (guest : Json) : Except PayloadError (List Json) := do
  sortedOn (fun nic => intAt nic "index") (← listAt guest "nics")

/-- The segment a NIC attaches to, which must be one of the bundle's. -/
def knownSegment (guest : Json) (index : Dict Str Json) (nic : Json) : Rendering Str := do
  let name ← textAt nic "vnet_name"
  if index.hasKey name then pure name
  else do
    let ref ← guest.getOr (str "guest_ref") .null
    throw (.adapter (str "guest " ++ ref.reprText ++ str " attaches to unknown segment " ++
      strRepr name))

/-- One NIC. The VNet carries the VLAN tag, so the device does not tag again. -/
def renderNetworkDevice (guest : Json) (index : Dict Str Json) (nic : Json) :
    Rendering HclItem := do
  let name ← knownSegment guest index nic
  let mac ← literalAt nic "mac_address"
  let model ← nic.getOr (str "model") (.str (str "virtio"))
  let firewall ← flagAt nic "firewall" true
  pure (nested "network_device" [
    textAttribute 11 "bridge" name,
    textAttribute 11 "mac_address" mac,
    textAttribute 11 "model" (literal model),
    flagAttribute 11 "firewall" firewall])

/-- `_render_network_devices`. -/
def renderNetworkDevices (guest : Json) (index : Dict Str Json) : Rendering (List HclItem) := do
  let nics ← sortedNics guest
  nics.mapM (renderNetworkDevice guest index)

def privateKeyMarker : Str := str "PRIVATE KEY"

/-- `"PRIVATE KEY" in key`. -/
def holdsPrivateKey (key : Json) : Except PayloadError Bool :=
  match key with
  | .str s => .ok (contains privateKeyMarker s)
  | .arr items => .ok (Json.str privateKeyMarker ∈ items)
  | .obj fields => .ok (privateKeyMarker ∈ fields.map Prod.fst)
  | _ => .error .typeError

def refusePrivateKeys : List Json → Rendering Unit
  | [] => pure ()
  | key :: rest => do
      if ← holdsPrivateKey key then
        throw (.adapter (str "cloud-init received private key material"))
      refusePrivateKeys rest

/-- The name servers, of an account that has any. -/
def renderServers (cloudInit : Json) (width : Nat) : Except PayloadError (List HclItem) := do
  let nameservers ← cloudInit.getOr (str "nameservers") .null
  if nameservers.truthy then do
    pure [listAttribute width "servers" ((← nameservers.elements).map literal)]
  else pure []

/-- `_render_cloud_init`. -/
def renderCloudInit (guest cloudInit : Json) (index : Dict Str Json) :
    Rendering (List HclItem) := do
  let keys ← listAt cloudInit "ssh_authorized_keys"
  refusePrivateKeys keys
  match ← sortedNics guest with
  | [] => do
      let ref ← guest.getOr (str "guest_ref") .null
      throw (.adapter (str "guest " ++ ref.reprText ++ str " has no NIC to address"))
  | nic :: _ => do
      let name ← textAt nic "vnet_name"
      let vnet ← (match index.get? name with
        | some vnet => .ok vnet
        | none => .error (.keyError name) : Except PayloadError Json)
      let subnet ← vnet.getItem (str "subnet")
      let published ← textAt (← guest.getItem (str "address")) "published_address"
      let address := published ++ str "/" ++ natStr (← prefixLen (← textAt subnet "cidr"))
      let searchDomain ← cloudInit.getOr (str "search_domain") .null
      let servers ← renderServers cloudInit 0
      let dns :=
        if searchDomain.truthy then
          [nested "dns" (textAttribute 0 "domain" (literal searchDomain) :: servers)]
        else if servers.isEmpty then []
        else [nested "dns" servers]
      let routed ← subnet.getOr (str "routed") .null
      let gateway ← cloudInit.getOr (str "gateway") .null
      let gatewayItems :=
        if routed.truthy && gateway.truthy then [textAttribute 0 "gateway" (literal gateway)] else []
      let user ← literalAt cloudInit "user"
      let sorted ← sortedValues keys
      pure [nested "initialization" (dns ++ [
        nested "ip_config" [nested "ipv4" (textAttribute 0 "address" address :: gatewayItems)],
        nested "user_account" [
          textAttribute 8 "username" user,
          listAttribute 8 "keys" (sorted.map literal)]])]

/-- The account of a guest that has one, behind a blank line. -/
def renderAccount (guest : Json) (index : Dict Str Json) : Rendering (List HclItem) := do
  let cloudInit ← guest.getOr (str "cloud_init") .null
  if cloudInit.truthy then pure (.blank :: (← renderCloudInit guest cloudInit index))
  else pure []

def renderDisk (disk : Json) : Except PayloadError HclItem := do
  let slot ← literalAt disk "slot"
  let storage ← literalAt disk "storage_id"
  let size ← intAt disk "size_gb"
  let discard ← flagAt disk "discard" true
  let ssd ← disk.getOr (str "ssd_emulation") .null
  pure (nested "disk" [
    textAttribute 12 "interface" slot,
    textAttribute 12 "datastore_id" storage,
    numberAttribute 12 "size" size,
    textAttribute 12 "discard" (if discard then str "on" else str "ignore"),
    flagAttribute 12 "ssd" ssd.truthy])

/-- The disks of a guest by slot. -/
def sortedDisks (guest : Json) : Except PayloadError (List Json) := do
  sortedOn (fun disk => textAt disk "slot") (← listAt guest "disks")

def renderDisks (guest : Json) : Except PayloadError (List HclItem) := do
  (← sortedDisks guest).mapM renderDisk

/-- One QEMU guest. -/
def renderQemuGuest (index : Dict Str Json) (guest : Json) : Rendering (List HclItem) := do
  let label := hclLabel (← textAt guest "guest_ref")
  let name ← literalAt guest "name"
  let vmid ← intAt guest "vmid"
  let nodeName ← literalAt guest "node_name"
  let started ← flagAt guest "start_on_deploy" true
  let ownership ← ownershipOf guest
  let tags ← ownershipTagList ownership
  let stamp ← ownershipComment ownership
  let template ← literalAt guest "template_ref"
  let strategy ← guest.getItem (str "clone_strategy")
  let cores ← intAt guest "cpu_cores"
  let memory ← intAt guest "memory_mb"
  let disks ← renderDisks guest
  let devices ← renderNetworkDevices guest index
  let account ← renderAccount guest index
  pure [
    resource qemuGuestType label ([
      textAttribute 9 "name" name,
      numberAttribute 9 "vm_id" vmid,
      textAttribute 9 "node_name" nodeName,
      flagAttribute 9 "started" started,
      listAttribute 9 "tags" tags,
      textAttribute 9 "description" stamp,
      .blank,
      nested "clone" [
        textAttribute 5 "vm_id" template,
        flagAttribute 5 "full" (strategy = .str (str "full"))],
      .blank,
      nested "cpu" [numberAttribute 0 "cores" cores],
      .blank,
      nested "memory" [numberAttribute 0 "dedicated" memory],
      .blank] ++ disks ++ [.blank] ++ devices ++ account),
    .blank]

/-- `_render_qemu_guests`. -/
def renderQemuGuests (guests vnets : List Json) : Rendering (List HclItem) := do
  let index ← vnetIndex vnets
  if guests.isEmpty then pure ([header] ++ comments ["No QEMU guests in this desired state."])
  else do
    let rendered ← guests.mapM (renderQemuGuest index)
    pure ([header] ++ rendered.flatten)

def renderLxcDisk (disk : Json) : Except PayloadError (List HclItem) := do
  let storage ← literalAt disk "storage_id"
  let size ← intAt disk "size_gb"
  pure [
    .blank,
    nested "disk" [textAttribute 12 "datastore_id" storage, numberAttribute 12 "size" size]]

def renderLxcDisks (guest : Json) : Except PayloadError (List HclItem) := do
  pure (← (← sortedDisks guest).mapM renderLxcDisk).flatten

def renderNetworkInterface (guest : Json) (index : Dict Str Json) (nic : Json) :
    Rendering HclItem := do
  let name ← knownSegment guest index nic
  let number ← textAt nic "index"
  let mac ← literalAt nic "mac_address"
  let firewall ← flagAt nic "firewall" true
  pure (nested "network_interface" [
    textAttribute 11 "name" (str "eth" ++ number),
    textAttribute 11 "bridge" name,
    textAttribute 11 "mac_address" mac,
    flagAttribute 11 "firewall" firewall])

/-- One LXC guest. -/
def renderLxcGuest (index : Dict Str Json) (guest : Json) : Rendering (List HclItem) := do
  let label := hclLabel (← textAt guest "guest_ref")
  let vmid ← intAt guest "vmid"
  let nodeName ← literalAt guest "node_name"
  let started ← flagAt guest "start_on_deploy" true
  let tags ← ownershipTagList (← ownershipOf guest)
  let template ← literalAt guest "template_ref"
  let cores ← intAt guest "cpu_cores"
  let memory ← intAt guest "memory_mb"
  let disks ← renderLxcDisks guest
  let nics ← sortedNics guest
  let interfaces ← nics.mapM (renderNetworkInterface guest index)
  pure [
    resource lxcGuestType label ([
      numberAttribute 9 "vm_id" vmid,
      textAttribute 9 "node_name" nodeName,
      flagAttribute 9 "started" started,
      listAttribute 9 "tags" tags,
      .blank,
      nested "clone" [textAttribute 5 "vm_id" template],
      .blank,
      nested "cpu" [numberAttribute 0 "cores" cores],
      .blank,
      nested "memory" [numberAttribute 0 "dedicated" memory]] ++
      disks ++ [.blank] ++ interfaces),
    .blank]

/-- `_render_lxc_guests`. -/
def renderLxcGuests (guests vnets : List Json) : Rendering (List HclItem) := do
  let index ← vnetIndex vnets
  let rendered ← guests.mapM (renderLxcGuest index)
  pure ([header] ++ rendered.flatten)

/-! ## Outputs -/

/-- The guests that have an address of a kind, by reference. -/
def addressesAt (guests : List Json) (key : String) : Except PayloadError (Dict Str Str) := do
  let found ← guests.mapM fun guest => do
    let address ← guest.getOr (str "address") (.obj [])
    if (← address.getOr (str key) .null).truthy then do
      pure [(← textAt guest "guest_ref", ← textAt (← guest.getItem (str "address")) key)]
    else pure []
  pure (Dict.ofPairs found.flatten)

omit [Unicode] in
/-- An output that maps the references of guests to their addresses. -/
def addressOutput (name : String) (addresses : Dict Str Str) : HclItem :=
  .block (str "output") [str name] [
    .object (str "value") ((sortedBy Prod.fst addresses).map fun entry =>
      .attribute 0 (hclLabel entry.1) (.scalar (.text entry.2)))]

/-- `_render_outputs`. -/
def renderOutputs (zone : Json) (guests : List Json) : Except PayloadError (List HclItem) := do
  let zoneName ← literalAt zone "name"
  let published ← addressesAt guests "published_address"
  let probe ← addressesAt guests "probe_address"
  let sorted ← sortedOn (fun guest => textAt guest "guest_ref") guests
  let ids ← sorted.mapM fun guest => do
    let label := hclLabel (← textAt guest "guest_ref")
    pure (HclItem.attribute 0 label (.scalar (.number (← intAt guest "vmid"))))
  pure ([header,
      .block (str "output") [str "secp_zone"] [textAttribute 0 "value" zoneName],
      .blank,
      .block (str "output") [str "secp_segments"] [symbolAttribute 0 "value" "local.secp_segments"],
      .blank,
      addressOutput "secp_published_addresses" published,
      .blank] ++
    comments ["Probe addresses are deliberately a separate output. A guest with no probe address",
      "appears in NEITHER map rather than falling back to its published address."] ++
    [addressOutput "secp_probe_addresses" probe,
      .blank,
      .block (str "output") [str "secp_guest_ids"] [.object (str "value") ids]])

/-! ## The bundle -/

/-- A pin of the profile that must be this bundle's own. -/
def requirePin (profile : Json) (field : String) (expected : Str) : Rendering Unit := do
  let declared := (← profile.getOr (str field) (.str [])).text
  if declared = expected then pure ()
  else throw (.adapter (str "toolchain profile pins " ++ str field ++ str " " ++ strRepr declared ++
    str " but this reviewed bundle targets " ++ strRepr expected ++
    str "; regenerate the plan with a matching profile"))

/-- What the profile must say before anything is rendered: the version to require. -/
def checkProfile (profile : Json) : Rendering Str := do
  let declaredBundle := (← profile.getOr (str "module_bundle_id") (.str [])).text
  if declaredBundle ≠ bundleId then
    throw (.adapter (str "toolchain profile pins module bundle " ++ strRepr declaredBundle ++
      str " but this renderer is " ++ strRepr bundleId ++
      str "; regenerate the plan with a matching profile"))
  let opentofuVersion := (← profile.getOr (str "opentofu_version") (.str [])).text
  if opentofuVersion.isEmpty then
    throw (.adapter (str "toolchain profile does not pin an OpenTofu version"))
  requirePin profile "provider_source" providerAddress
  requirePin profile "provider_version" providerVersion
  pure opentofuVersion

/-- The guests of one kind. -/
def guestsOfKind (guests : List Json) (kind : String) : Except PayloadError (List Json) := do
  let kinds ← guests.mapM fun guest => do
    pure (← guest.getOr (str "kind") .null, guest)
  pure ((kinds.filter fun entry => entry.1 = .str (str kind)).map Prod.snd)

/-- The file of the containers, when there is one. -/
def renderLxcFiles (lxc vnets : List Json) : Rendering (List (Str × List HclItem)) := do
  if lxc.isEmpty then pure []
  else pure [(str "guests_lxc.tf", ← renderLxcGuests lxc vnets)]

/-- `render_bundle`, as trees by path. -/
def renderWorkspace (desiredState profile : Json) : Rendering (List (Str × List HclItem)) := do
  if !desiredState.isObject then
    throw (.adapter (str "desired state payload must be an object"))
  let opentofuVersion ← checkProfile profile
  let network ← desiredState.getOr (str "network") .null
  if !network.isObject then throw (.adapter (str "desired state has no network section"))
  let zone ← network.getOr (str "zone") .null
  if !zone.isObject then throw (.adapter (str "desired state has no SDN zone"))
  let vnets ← sortedOn (fun vnet => textAt vnet "name") (← listAt network "vnets")
  if vnets.isEmpty then throw (.adapter (str "desired state declares no network segments"))
  let guests ← sortedOn (fun guest => textAt guest "guest_ref") (← listAt desiredState "guests")
  let foundation ← renderZone zone
  let range ← renderVNets vnets
  let segments ← renderSegments vnets
  let firewall ← renderFirewall network
  let outputs ← renderOutputs zone guests
  let qemu ← guestsOfKind guests "qemu"
  let lxc ← guestsOfKind guests "lxc"
  if qemu.isEmpty && lxc.isEmpty then throw (.adapter (str "desired state declares no guests"))
  let qemuFile ← renderQemuGuests qemu vnets
  let lxcFiles ← renderLxcFiles lxc vnets
  pure ([
    (str "versions.tf", renderVersions opentofuVersion),
    (str "variables.tf", renderVariables),
    (str "provider.tf", renderProvider),
    (str "network_foundation.tf", foundation),
    (str "network_range.tf", range),
    (str "network_segments.tf", segments),
    (str "firewall.tf", firewall),
    (str "outputs.tf", outputs),
    (str "guests_qemu.tf", qemuFile)] ++ lxcFiles)

/-- `render_bundle`. -/
def renderBundle (desiredState profile : Json) : Rendering (List (Str × Str)) := do
  pure ((← renderWorkspace desiredState profile).map fun file => (file.1, printItems 0 file.2))

end

end Secp.Worker
