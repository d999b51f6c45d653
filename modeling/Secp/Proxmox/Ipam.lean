import Secp.Logic.Walk
import Secp.Proxmox.Model
import Secp.Python.Json
import Secp.Python.Sha256

/-!
# The allocation ledger

Every identifier a compiled range needs is chosen here, recorded here and read back from here. An
allocator first looks for the value already recorded under its key; only when there is none does it
walk its pool from a digest-derived start, skipping what the ledger holds and what discovery
observed, and record what it found. All six allocators are `AllocationLedger.allocate` applied to
their own reader, choice and printer.
-/

namespace Secp.Proxmox

open Secp.Python Secp.Logic

/-! ## Records -/

inductive AllocationKind where
  | vmid
  | lxcId
  | mac
  | subnet
  | guestAddress
  | gatewayAddress
  | vlanTag
  | vnetName
  | zoneName
  | resourceName
  | firewallObjectName
  | remoteStateKey
  deriving DecidableEq, Repr

def AllocationKind.value : AllocationKind → Str
  | .vmid => str "vmid"
  | .lxcId => str "lxc_id"
  | .mac => str "mac"
  | .subnet => str "subnet"
  | .guestAddress => str "guest_address"
  | .gatewayAddress => str "gateway_address"
  | .vlanTag => str "vlan_tag"
  | .vnetName => str "vnet_name"
  | .zoneName => str "zone_name"
  | .resourceName => str "resource_name"
  | .firewallObjectName => str "firewall_object_name"
  | .remoteStateKey => str "remote_state_key"

def AllocationKind.all : List AllocationKind :=
  [.vmid, .lxcId, .mac, .subnet, .guestAddress, .gatewayAddress, .vlanTag, .vnetName, .zoneName,
    .resourceName, .firewallObjectName, .remoteStateKey]

/-- `AllocationKind(value)`. -/
def AllocationKind.ofValue (value : Str) : Option AllocationKind :=
  AllocationKind.all.find? fun kind => kind.value = value

@[simp] theorem AllocationKind.ofValue_value (kind : AllocationKind) :
    AllocationKind.ofValue kind.value = some kind := by
  cases kind <;> simp [AllocationKind.ofValue, AllocationKind.all, AllocationKind.value]

/-- One recorded identifier. -/
structure Allocation where
  kind : AllocationKind
  scope : Scope
  purpose : Str
  value : Str
  deriving DecidableEq

abbrev AllocationKey := Scope × AllocationKind × Str

instance instDecidableEqAllocationKey : DecidableEq AllocationKey := instDecidableEqProd

instance instLawfulBEqAllocationKey : LawfulBEq AllocationKey := inferInstance

def Allocation.key (a : Allocation) : AllocationKey := (a.scope, a.kind, a.purpose)

/-- `repr` of a scope tuple. -/
def scopeRepr [Unicode] (scope : Scope) : Str :=
  let (organizationId, targetId, rangeId, teamRef, generation) := scope
  str "(" ++ join (str ", ") [strRepr organizationId, strRepr targetId, strRepr rangeId,
    strRepr teamRef, intStr generation] ++ str ")"

def Allocation.asDict (a : Allocation) : Json :=
  let (organizationId, targetId, rangeId, teamRef, generation) := a.scope
  .obj [
    (str "kind", .str a.kind.value),
    (str "organization_id", .str organizationId),
    (str "target_id", .str targetId),
    (str "range_id", .str rangeId),
    (str "team_ref", .str teamRef),
    (str "generation", .int generation),
    (str "purpose", .str a.purpose),
    (str "value", .str a.value)]

section
variable [Unicode]

/-- `Allocation.from_dict`. Every failure is the one `AllocationError`, whose text quotes the
underlying exception and is left out. -/
def Allocation.fromDict (payload : Json) : Except Raised Allocation :=
  let fields : Option Allocation := do
    let kind ← payload.get? (str "kind")
    let kind ← match kind with
      | .str s => AllocationKind.ofValue s
      | _ => none
    let organizationId ← payload.get? (str "organization_id")
    let targetId ← payload.get? (str "target_id")
    let rangeId ← payload.get? (str "range_id")
    let teamRef ← payload.get? (str "team_ref")
    let generation ← payload.get? (str "generation")
    let generation ← generation.toInt?
    let purpose ← payload.get? (str "purpose")
    let value ← payload.get? (str "value")
    pure ⟨kind, (organizationId.text, targetId.text, rangeId.text, teamRef.text, generation),
      purpose.text, value.text⟩
  match fields with
  | some a => .ok a
  | none => .error (.model (str "malformed allocation record"))

end

/-! ## Pools -/

/-- The bounds within which identifiers may be allocated. The parsed supernet is kept beside its
text. -/
structure IpamPools where
  vmidMin : Int
  vmidMax : Int
  supernet : Str
  segmentPrefix : Nat
  vlanMin : Int
  vlanMax : Int
  network : Ip.Network
  vmid_bounds : Proxmox.vmidMin ≤ vmidMin ∧ vmidMin ≤ vmidMax ∧ vmidMax ≤ Proxmox.vmidMax
  vlan_bounds : Proxmox.vlanMin ≤ vlanMin ∧ vlanMin ≤ vlanMax ∧ vlanMax ≤ Proxmox.vlanMax
  supernet_valid : Ip.ipNetwork true supernet = some network
  supernet_v4 : network.version = .v4
  segment_longer : network.prefixlen < segmentPrefix
  segment_usable : segmentPrefix ≤ 30

/-- `IpamPools()`. -/
def IpamPools.default : IpamPools where
  vmidMin := 9000
  vmidMax := 9999
  supernet := str "10.80.0.0/12"
  segmentPrefix := 24
  vlanMin := 1000
  vlanMax := 1999
  network := ⟨.v4, 173015040, 12, by decide, by decide, by decide⟩
  vmid_bounds := by decide
  vlan_bounds := by decide
  supernet_valid := by with_unfolding_all decide
  supernet_v4 := rfl
  segment_longer := by decide
  segment_usable := by decide

theorem IpamPools.segmentPrefix_le (pools : IpamPools) :
    pools.segmentPrefix ≤ pools.network.version.bits := by
  rw [pools.supernet_v4]
  exact Nat.le_trans pools.segment_usable (by decide)

def IpamPools.candidateSubnets (pools : IpamPools) : List Ip.Network :=
  pools.network.subnets pools.segmentPrefix pools.segmentPrefix_le

/-- The digest-derived starting offset of a walk. -/
def digestOffset (scope : Scope) (purpose salt : Str) : Nat :=
  let (organizationId, targetId, rangeId, teamRef, generation) := scope
  Sha256.leadingInt (Sha256.encode (join [Char.ofNat 31]
    [organizationId, targetId, rangeId, teamRef, intStr generation, purpose, salt]))

/-! ## The ledger -/

/-- The recorded allocations of one range, at most one for each key. -/
structure AllocationLedger where
  records : List Allocation
  isSealed : Bool
  keys_nodup : (records.map Allocation.key).Nodup
  deriving DecidableEq

/-- A step that reads or extends the ledger. -/
abbrev Allocator (α : Type) := AllocationLedger → Except Raised (α × AllocationLedger)

namespace AllocationLedger

def empty : AllocationLedger := ⟨[], false, List.nodup_nil⟩

/-- Freeze the ledger. -/
def sealLedger (ledger : AllocationLedger) : AllocationLedger := { ledger with isSealed := true }

/-- Every allocation in a stable order. -/
def all (ledger : AllocationLedger) : List Allocation :=
  sortedBy (fun a => (a.kind.value, a.scope, a.purpose)) ledger.records

def get (ledger : AllocationLedger) (scope : Scope) (kind : AllocationKind) (purpose : Str) :
    Option Allocation :=
  ledger.records.find? fun a => a.key = (scope, kind, purpose)

/-- The values recorded under a kind. -/
def reserved (ledger : AllocationLedger) (kind : AllocationKind) : List Str :=
  ((ledger.records.filter fun a => a.kind = kind).map Allocation.value).dedup

/-- Add a record under a new key. -/
def insert (ledger : AllocationLedger) (a : Allocation)
    (h : a.key ∉ ledger.records.map Allocation.key) : AllocationLedger :=
  { ledger with
    records := ledger.records ++ [a]
    keys_nodup := by
      rw [List.map_append]
      exact List.nodup_append'.mpr ⟨ledger.keys_nodup, List.nodup_singleton _, by simpa using h⟩ }

section
variable [Unicode]

/-- `_record`: an existing key is left alone, and a sealed ledger refuses a new one. -/
def record (ledger : AllocationLedger) (a : Allocation) : Except Raised AllocationLedger :=
  if h : a.key ∈ ledger.records.map Allocation.key then .ok ledger
  else if ledger.isSealed then
    .error (.model (str "ledger is sealed: cannot allocate " ++ a.kind.value ++ str " for " ++
      strRepr a.purpose ++ str (". A changed allocation requires a new plan generation and a new " ++
        "approval.")))
  else .ok (ledger.insert a h)

/-- What every allocator does: return the recorded value, or choose one and record it. -/
def allocate {α : Type} (scope : Scope) (kind : AllocationKind) (purpose : Str)
    (read : Str → Except Raised α) (choose : AllocationLedger → Except Raised α)
    (text : α → Str) : Allocator α := fun ledger =>
  match ledger.get scope kind purpose with
  | some existing => do
      let value ← read existing.value
      pure (value, ledger)
  | none => do
      let value ← choose ledger
      let ledger ← ledger.record ⟨kind, scope, purpose, text value⟩
      pure (value, ledger)

/-- `{int(v) for v in self._reserved(kind)}`. -/
def reservedInts (ledger : AllocationLedger) (kind : AllocationKind) : Except Raised (List Int) :=
  (ledger.reserved kind).mapM fun value => orValueError (intOf value)

/-- The integer pool walked from `start`, one full turn. -/
def walkInts (low : Int) (span start : Nat) (taken : List Int) : Option Int :=
  firstFree (fun step => low + ((start + step) % span : Nat)) (fun candidate => candidate ∉ taken)
    span 0

def chooseInt (scope : Scope) (kind : AllocationKind) (purpose : Str) (low high : Int)
    (observed : List Int) (ledger : AllocationLedger) : Except Raised Int :=
  if high - low + 1 ≤ 0 then .error (.model (kind.value ++ str " pool is empty"))
  else do
    let span := (high - low + 1).toNat
    let held ← ledger.reservedInts kind
    let taken := held ++ observed
    match walkInts low span (digestOffset scope purpose kind.value % span) taken with
    | some candidate => .ok candidate
    | none => .error (.model (kind.value ++ str " pool " ++ intStr low ++ str "-" ++ intStr high ++
        str " is exhausted: " ++ natStr taken.dedup.length ++ str " of " ++ natStr span ++
        str " values are already in use or reserved"))

def allocateInt (ownership : Ownership) (kind : AllocationKind) (purpose : Str) (low high : Int)
    (observedInUse : Option (List Int)) (observationField reasonId : Str) : Allocator Int :=
  match observedInUse with
  | none => fun _ => .error (.blockedOn reasonId observationField
      (str "cannot allocate " ++ kind.value ++ str " for " ++ strRepr purpose ++
        str (": the set of values already in use on the target was never observed, so " ++
          "availability is unknown")))
  | some observed =>
      allocate ownership.scopeKey kind purpose (fun value => orValueError (intOf value))
        (chooseInt ownership.scopeKey kind purpose low high observed) intStr

/-- The kind a guest id is recorded under. -/
def guestIdKind (lxc : Bool) : AllocationKind := if lxc then .lxcId else .vmid

def chooseVmid (scope : Scope) (kind : AllocationKind) (purpose : Str) (pools : IpamPools)
    (observed : List Int) (ledger : AllocationLedger) : Except Raised Int := do
  -- both id kinds occupy one namespace on Proxmox
  let vmids ← ledger.reservedInts .vmid
  let lxcIds ← ledger.reservedInts .lxcId
  let taken := vmids ++ lxcIds ++ observed
  let span := (pools.vmidMax - pools.vmidMin + 1).toNat
  match walkInts pools.vmidMin span (digestOffset scope purpose kind.value % span) taken with
  | some candidate => .ok candidate
  | none => .error (.model (str "guest id pool " ++ intStr pools.vmidMin ++ str "-" ++
      intStr pools.vmidMax ++ str " is exhausted (" ++ natStr taken.dedup.length ++ str " of " ++
      natStr span ++ str " taken)"))

def allocateVmid (ownership : Ownership) (purpose : Str) (pools : IpamPools)
    (observedVmids : Option (List Int)) (lxc : Bool) : Allocator Int :=
  match observedVmids with
  | none => fun _ => .error (.blockedOn (str "proxmox.vmid_inventory_missing")
      (str "TargetObservation.vmids_in_use")
      (str "cannot allocate a guest id for " ++ strRepr purpose ++
        str (": the cluster's existing VM/CT ids were never observed, so a collision cannot be " ++
          "ruled out")))
  | some observed =>
      allocate ownership.scopeKey (guestIdKind lxc) purpose
        (fun value => orValueError (intOf value))
        (chooseVmid ownership.scopeKey (guestIdKind lxc) purpose pools observed) intStr

/-- The networks a new subnet may not overlap. -/
def blockedNetworks (observed managementCidrs : List Str) (ledger : AllocationLedger) :
    Except Raised (List Ip.Network) := do
  let inUse ← observed.mapM fun cidr => orValueError (Ip.ipNetwork false cidr)
  let management ← managementCidrs.mapM fun cidr => orValueError (Ip.ipNetwork true cidr)
  let held ← (ledger.reserved .subnet).mapM fun cidr => orValueError (Ip.ipNetwork true cidr)
  pure (inUse ++ management ++ held)

def chooseSubnet (scope : Scope) (purpose : Str) (pools : IpamPools)
    (observed managementCidrs : List Str) (ledger : AllocationLedger) :
    Except Raised Ip.Network := do
  let blocked ← blockedNetworks observed managementCidrs ledger
  let candidates := pools.candidateSubnets
  if candidates.length = 0 then .error (.model (str "subnet pool yields no candidates"))
  else
    match walkList candidates (fun candidate => !blocked.any candidate.overlaps)
        (digestOffset scope purpose AllocationKind.subnet.value % candidates.length) with
    | some candidate => .ok candidate
    | none => .error (.model (str "subnet pool " ++ pools.supernet ++ str " has no /" ++
        natStr pools.segmentPrefix ++ str " free of the " ++ natStr blocked.length ++
        str " networks already in use"))

def allocateSubnet (ownership : Ownership) (purpose : Str) (pools : IpamPools)
    (observedSubnets : Option (List Str)) (managementCidrs : List Str) : Allocator Ip.Network :=
  match observedSubnets with
  | none => fun _ => .error (.blockedOn (str "proxmox.subnet_inventory_missing")
      (str "TargetObservation.subnets_in_use")
      (str "cannot allocate a subnet for " ++ strRepr purpose ++
        str (": the networks already routed on the target were never observed, so an overlap " ++
          "cannot be ruled out")))
  | some observed =>
      allocate ownership.scopeKey .subnet purpose
        (fun value => orValueError (Ip.ipNetwork true value))
        (chooseSubnet ownership.scopeKey purpose pools observed managementCidrs) Ip.Network.text

/-- `hosts[offset]`, where a negative offset counts from the end. -/
def indexHost (hosts : List Ip.Address) (offset : Int) : Option Ip.Address :=
  if 0 ≤ offset then hosts[offset.toNat]?
  else if 0 ≤ hosts.length + offset then hosts[(hosts.length + offset).toNat]? else none

/-- The address texts recorded for guests and gateways. -/
def heldAddresses (ledger : AllocationLedger) : List Str :=
  (ledger.records.filter fun a => a.kind = .guestAddress || a.kind = .gatewayAddress).map
    Allocation.value

def chooseAddress (scope : Scope) (purpose : Str) (subnet : Ip.Network) (kind : AllocationKind)
    (offset : Option Int) (ledger : AllocationLedger) : Except Raised Ip.Address :=
  let hosts := subnet.hosts
  let taken := ledger.heldAddresses
  if hosts.isEmpty then
    .error (.model (str "subnet " ++ subnet.text ++ str " has no usable host addresses"))
  else
    match offset with
    | some offset =>
        if (hosts.length : Int) ≤ offset then
          .error (.model (str "offset " ++ intStr offset ++ str " outside subnet " ++ subnet.text))
        else
          match indexHost hosts offset with
          | none => .error .lookup
          | some chosen =>
              if chosen.text ∈ taken then
                .error (.model (str "address " ++ chosen.text ++ str " already allocated in " ++
                  subnet.text))
              else .ok chosen
    | none =>
        match walkList hosts (fun candidate => candidate.text ∉ taken)
            (digestOffset scope purpose kind.value % hosts.length) with
        | some chosen => .ok chosen
        | none => .error (.model (str "subnet " ++ subnet.text ++ str " is fully allocated"))

def allocateAddress (ownership : Ownership) (purpose : Str) (subnet : Ip.Network)
    (kind : AllocationKind) (offset : Option Int) : Allocator Ip.Address :=
  allocate ownership.scopeKey kind purpose (fun value => orValueError (Ip.ipAddress value))
    (chooseAddress ownership.scopeKey purpose subnet kind offset) Ip.Address.text

/-- The locally administered MAC with the given 24-bit suffix. -/
def macText (suffix : Nat) : Str :=
  join [':'] ([0x02, 0x53, 0x45, suffix / 65536 % 256, suffix / 256 % 256, suffix % 256].map
    hex2Upper)

def chooseMac (scope : Scope) (purpose : Str) (observed : List Str) (ledger : AllocationLedger) :
    Except Raised Str :=
  let taken := observed.map upper ++ ledger.reserved .mac
  let base := digestOffset scope purpose AllocationKind.mac.value
  match firstFree (fun step => macText ((base + step) % 16777216)) (fun mac => mac ∉ taken)
      1048576 0 with
  | some candidate => .ok candidate
  | none => .error (.model (str "MAC space exhausted for this scope"))

def allocateMac (ownership : Ownership) (purpose : Str) (observedMacs : Option (List Str)) :
    Allocator Str :=
  match observedMacs with
  | none => fun _ => .error (.blockedOn (str "proxmox.mac_inventory_missing")
      (str "TargetObservation.macs_in_use")
      (str "cannot allocate a MAC for " ++ strRepr purpose ++
        str (": existing guest MACs were never observed, so a layer-2 collision cannot be " ++
          "ruled out")))
  | some observed =>
      allocate ownership.scopeKey .mac purpose (fun value => .ok value)
        (chooseMac ownership.scopeKey purpose observed) id

/-- `s[:bound]`, where a negative bound counts from the end. -/
def takeInt (bound : Int) (s : Str) : Str :=
  if 0 ≤ bound then s.take bound.toNat else s.take (s.length + bound).toNat

/-- The proposed name cut to the length bound. -/
def boundName (candidate : Str) : Option Int → Str
  | none => candidate
  | some bound => if bound < candidate.length then takeInt bound candidate else candidate

/-- The name with the discriminator of one attempt, cut to the length bound. -/
def discriminated (base : Str) (maxLength : Option Int) (n : Nat) : Str :=
  match maxLength with
  | none => base ++ hex2 (n % 256)
  | some bound => takeInt (max 0 (bound - (hex2 (n % 256)).length)) base ++ hex2 (n % 256)

def chooseName (scope : Scope) (purpose : Str) (kind : AllocationKind) (candidate : Str)
    (observed : List Str) (maxLength : Option Int) (ledger : AllocationLedger) :
    Except Raised Str :=
  let taken := observed.map lower ++ (ledger.reserved kind).map lower
  let base := boundName candidate maxLength
  if lower base ∉ taken then .ok base
  else
    let digest := digestOffset scope purpose kind.value
    match firstFree (fun step => discriminated base maxLength (digest + step))
        (fun attempt => lower attempt ∉ taken) 256 0 with
    | some attempt => .ok attempt
    | none => .error (.model (str "could not find a free name near " ++ strRepr base))

def allocateName (ownership : Ownership) (purpose : Str) (kind : AllocationKind) (candidate : Str)
    (observedNames : Option (List Str)) (observationField reasonId : Str)
    (maxLength : Option Int) : Allocator Str :=
  match observedNames with
  | none => fun _ => .error (.blockedOn reasonId observationField
      (str "cannot allocate a name for " ++ strRepr purpose ++
        str (": existing object names on the target were never observed, so a collision cannot " ++
          "be ruled out")))
  | some observed =>
      allocate ownership.scopeKey kind purpose (fun value => .ok value)
        (chooseName ownership.scopeKey purpose kind candidate observed maxLength) id

/-- `^[a-z0-9][a-z0-9/_.-]{0,190}$`. -/
def isStateKey (s : Str) : Bool :=
  endsAt (fun
    | c :: rest =>
        (isAsciiLower c || isAsciiDigit c) && rest.length ≤ 190 &&
          rest.all fun c => isAsciiLower c || isAsciiDigit c || c = '/' || c = '_' || c = '.' ||
            c = '-'
    | [] => false) s

/-- The remote-state key spelled out from the scope. -/
def stateKey (scope : Scope) : Str :=
  let (organizationId, targetId, rangeId, teamRef, generation) := scope
  let parts := [str "secp", organizationId, targetId, rangeId] ++
    (if teamRef.isEmpty then [] else [teamRef]) ++ ['g' :: intStr generation]
  join ['/'] (parts.map fun part => replaceChar ' ' ['-'] (lower (strip part)))

def allocateRemoteStateKey (ownership : Ownership) (purpose : Str) : Allocator Str :=
  allocate ownership.scopeKey .remoteStateKey purpose (fun value => .ok value)
    (fun _ =>
      let key := stateKey ownership.scopeKey
      if isStateKey key then .ok key
      else .error (.model (str "derived remote-state key " ++ strRepr key ++
        str " is not a safe key")))
    id

/-- Remove one allocation whose absence was proved. -/
def release (scope : Scope) (kind : AllocationKind) (purpose : Str) (absenceProved : Bool)
    (proofDetail : Str) : Allocator Allocation := fun ledger =>
  match ledger.get scope kind purpose with
  | none => .error (.model (str "no allocation recorded for (" ++ scopeRepr scope ++ str ", " ++
      strRepr kind.value ++ str ", " ++ strRepr purpose ++ str ")"))
  | some allocation =>
      if absenceProved then
        .ok (allocation,
          { ledger with
            records := ledger.records.filter fun a => a.key ≠ (scope, kind, purpose)
            keys_nodup := List.Nodup.sublist (List.filter_sublist.map _) ledger.keys_nodup })
      else
        .error (.model (str "refusing to release " ++ kind.value ++ str " " ++
          strRepr allocation.value ++ str " for " ++ strRepr purpose ++
          str ": absence was not proved" ++
          (if proofDetail.isEmpty then [] else str " (" ++ proofDetail ++ str ")") ++
          str ". An unproven teardown keeps its allocations reserved."))

end

/-! ## Persistence -/

def contentHash (ledger : AllocationLedger) : Str :=
  Sha256.hexdigest (Sha256.encode ((Json.arr (ledger.all.map Allocation.asDict)).dumps true))

def toManifest (ledger : AllocationLedger) : Json :=
  .obj [
    (str "version", .int 1),
    (str "sealed", .bool ledger.isSealed),
    (str "allocations", .arr (ledger.all.map Allocation.asDict)),
    (str "ledger_hash", .str ledger.contentHash)]

/-- `AllocationLedger(allocations)`: a repeated key is refused. The refusal quotes the key, which
is left out. -/
def ofAllocations (allocations : List Allocation) : Except Raised AllocationLedger :=
  if h : (allocations.map Allocation.key).Nodup then .ok ⟨allocations, false, h⟩
  else .error (.model (str "duplicate allocation"))

def fromManifest [Unicode] (payload : Json) : Except Raised AllocationLedger :=
  match payload with
  | .obj _ =>
      if !((payload.get? (str "version")).getD .null).isOne then
        .error (.model (str "unsupported allocation ledger version " ++
          ((payload.get? (str "version")).getD .null).text))
      else
        match payload.get? (str "allocations") with
        | some (.arr records) => do
            let allocations ← records.mapM Allocation.fromDict
            let ledger ← ofAllocations allocations
            let expected := (payload.get? (str "ledger_hash")).getD .null
            if expected ≠ .null ∧ expected ≠ .str ledger.contentHash then
              .error (.model (str ("allocation ledger hash mismatch: the recorded allocations " ++
                "do not match the hash they were approved under")))
            else if ((payload.get? (str "sealed")).getD .null).truthy then pure ledger.sealLedger
            else pure ledger
        | _ => .error (.model (str "allocation ledger payload has no allocations list"))
  | _ => .error (.model (str "allocation ledger payload must be an object"))

end AllocationLedger

end Secp.Proxmox
