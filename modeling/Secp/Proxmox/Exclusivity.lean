import Mathlib.Data.List.Pairwise
import Mathlib.Logic.Relation
import Secp.Proxmox.IpamLemmas

/-!
# Exclusive identifiers

Two records conflict when they name the same thing on the target: one guest id, one MAC, one VLAN
tag, overlapping subnets, one address, one name up to case. `Sound` is the invariant of a ledger:
every address value is canonical and no two records conflict. Each operation keeps it, so it holds
in every ledger reachable from the empty one.
-/

namespace Secp.Proxmox

open Secp.Python Secp.Logic

/-! ## Conflicts -/

/-- The set of identifiers on a target that a kind of allocation draws from. -/
inductive IdentifierSpace where
  | guestId
  | mac
  | subnet
  | address
  | vlanTag
  | name (kind : AllocationKind)
  | stateKey

/-- Guest ids of both kinds share one space, and so do guest and gateway addresses. -/
def AllocationKind.space : AllocationKind → IdentifierSpace
  | .vmid => .guestId
  | .lxcId => .guestId
  | .mac => .mac
  | .subnet => .subnet
  | .guestAddress => .address
  | .gatewayAddress => .address
  | .vlanTag => .vlanTag
  | .vnetName => .name .vnetName
  | .zoneName => .name .zoneName
  | .resourceName => .name .resourceName
  | .firewallObjectName => .name .firewallObjectName
  | .remoteStateKey => .stateKey

theorem AllocationKind.space_eq_guestId {kind : AllocationKind} :
    kind.space = .guestId ↔ kind = .vmid ∨ kind = .lxcId := by
  cases kind <;> simp [AllocationKind.space]

theorem AllocationKind.space_eq_address {kind : AllocationKind} :
    kind.space = .address ↔ kind = .guestAddress ∨ kind = .gatewayAddress := by
  cases kind <;> simp [AllocationKind.space]

theorem AllocationKind.space_eq_mac {kind : AllocationKind} : kind.space = .mac ↔ kind = .mac := by
  cases kind <;> simp [AllocationKind.space]

theorem AllocationKind.space_eq_vlanTag {kind : AllocationKind} :
    kind.space = .vlanTag ↔ kind = .vlanTag := by
  cases kind <;> simp [AllocationKind.space]

theorem AllocationKind.space_eq_subnet {kind : AllocationKind} :
    kind.space = .subnet ↔ kind = .subnet := by
  cases kind <;> simp [AllocationKind.space]

theorem AllocationKind.eq_of_space_eq_name {kind kind' : AllocationKind}
    (h : kind.space = .name kind') : kind = kind' := by
  cases kind <;> cases h <;> rfl

/-- The kinds whose values are object names. -/
def AllocationKind.IsName (kind : AllocationKind) : Prop := kind.space = .name kind

section
variable [Unicode]

/-- The two values name one thing, or for subnets share an address. -/
def IdentifierSpace.Clash : IdentifierSpace → Str → Str → Prop
  | .guestId, a, b => intOf a = intOf b
  | .vlanTag, a, b => intOf a = intOf b
  | .mac, a, b => a = b
  | .subnet, a, b =>
      ∃ m n, Ip.ipNetwork true a = some m ∧ Ip.ipNetwork true b = some n ∧ m.overlaps n = true
  | .address, a, b => Ip.ipAddress a = Ip.ipAddress b
  | .name _, a, b => lower a = lower b
  | .stateKey, _, _ => False

/-- Two records that cannot both be in force on one target. -/
def Conflicts (a b : Allocation) : Prop :=
  a.kind.space = b.kind.space ∧ b.kind.space.Clash a.value b.value

theorem IdentifierSpace.Clash.symm {space : IdentifierSpace} {a b : Str} (h : space.Clash a b) :
    space.Clash b a := by
  cases space with
  | guestId => exact Eq.symm h
  | mac => exact Eq.symm h
  | subnet =>
      obtain ⟨m, n, hm, hn, hoverlap⟩ := h
      exact ⟨n, m, hn, hm, Ip.overlaps_comm hoverlap⟩
  | address => exact Eq.symm h
  | vlanTag => exact Eq.symm h
  | name kind => exact Eq.symm h
  | stateKey => exact h

theorem Conflicts.symm {a b : Allocation} (h : Conflicts a b) : Conflicts b a :=
  ⟨h.1.symm, h.1 ▸ h.2.symm⟩

/-! ## The invariant -/

/-- Integers, networks and addresses are recorded as they print, the latter two in version 4. -/
def IdentifierSpace.Canonical : IdentifierSpace → Str → Prop
  | .guestId, value => ∃ n : Int, value = intStr n
  | .vlanTag, value => ∃ n : Int, value = intStr n
  | .subnet, value => ∃ n : Ip.Network, n.version = .v4 ∧ value = n.text
  | .address, value => ∃ a : Ip.Address, a.version = .v4 ∧ value = a.text
  | .mac, _ => True
  | .name _, _ => True
  | .stateKey, _ => True

structure Sound (ledger : AllocationLedger) : Prop where
  canonical : ∀ a ∈ ledger.records, a.kind.space.Canonical a.value
  exclusive : ledger.records.Pairwise fun a b => ¬Conflicts a b

namespace Sound

variable {ledger : AllocationLedger}

theorem empty : Sound AllocationLedger.empty := ⟨fun _ h => (List.not_mem_nil h).elim, .nil⟩

/-- Distinct records of a sound ledger do not conflict. -/
theorem not_conflicts (h : Sound ledger) {a b : Allocation} (ha : a ∈ ledger.records)
    (hb : b ∈ ledger.records) (hne : a ≠ b) : ¬Conflicts a b := by
  have hsymm : Std.Symm fun a b : Allocation => ¬Conflicts a b :=
    ⟨fun _ _ hab hba => hab hba.symm⟩
  exact h.exclusive.forall ha hb hne

/-- Adding a canonical record that conflicts with none keeps the invariant. -/
theorem insert (h : Sound ledger) {a : Allocation}
    (hnew : a.key ∉ ledger.records.map Allocation.key)
    (hcanonical : a.kind.space.Canonical a.value)
    (hclear : ∀ b ∈ ledger.records, ¬Conflicts b a) : Sound (ledger.insert a hnew) := by
  refine ⟨fun b hb => ?_, List.pairwise_append.mpr ⟨h.exclusive, List.pairwise_singleton _ _, ?_⟩⟩
  · rcases List.mem_append.mp hb with hb | hb
    · exact h.canonical b hb
    · rwa [List.mem_singleton.mp hb]
  · intro b hb c hc
    rw [List.mem_singleton.mp hc]
    exact hclear b hb

/-- The invariant looks at the records only, in any order, and passes to a part of them. -/
theorem of_sublist_perm {ledger' : AllocationLedger} (h : Sound ledger) {part : List Allocation}
    (hpart : part.Sublist ledger.records) (hperm : ledger'.records.Perm part) : Sound ledger' := by
  refine ⟨fun a ha => h.canonical a (hpart.subset (hperm.mem_iff.mp ha)), ?_⟩
  refine (List.Perm.pairwise_iff ?_ hperm).mpr (h.exclusive.sublist hpart)
  exact fun hab hba => hab hba.symm

end Sound

/-! ## One allocation -/

namespace AllocationLedger

variable {ledger ledger' : AllocationLedger}

/-- An allocation keeps the invariant if its choice is canonical and clear of the records drawn
from the same space. -/
theorem allocate_sound {α : Type} {scope : Scope} {kind : AllocationKind} {purpose : Str}
    {read : Str → Except Raised α} {choose : AllocationLedger → Except Raised α} {text : α → Str}
    {value : α} (hsound : Sound ledger)
    (hcanonical : choose ledger = .ok value → kind.space.Canonical (text value))
    (hclear : choose ledger = .ok value → ∀ b ∈ ledger.records, b.kind.space = kind.space →
      ¬kind.space.Clash b.value (text value))
    (h : allocate scope kind purpose read choose text ledger = .ok (value, ledger')) :
    Sound ledger' := by
  rcases allocate_eq_ok_iff.mp h with ⟨_, _, _, rfl⟩ | ⟨hnew, hchoose, _, rfl⟩
  · exact hsound
  · refine hsound.insert (a := ⟨kind, scope, purpose, text value⟩) hnew (hcanonical hchoose) ?_
    exact fun b hb hconflict => hclear hchoose b hb hconflict.1 hconflict.2

variable {ownership : Ownership} {purpose : Str}

theorem allocateVmid_sound {pools : IpamPools} {observed : Option (List Int)} {lxc : Bool} {v : Int}
    (hsound : Sound ledger)
    (h : allocateVmid ownership purpose pools observed lxc ledger = .ok (v, ledger')) :
    Sound ledger' := by
  cases observed with
  | none => cases h
  | some observed =>
      rw [allocateVmid_some] at h
      have hspace : (guestIdKind lxc).space = .guestId := by cases lxc <;> rfl
      refine allocate_sound hsound (fun _ => ?_) (fun hchoose b hb hkind hclash => ?_) h
      · rw [hspace]
        exact ⟨v, rfl⟩
      · rw [hspace] at hkind hclash
        obtain ⟨_, _, _, hfree⟩ := chooseVmid_sound hchoose
        exact hfree b hb (AllocationKind.space_eq_guestId.mp hkind)
          (Eq.trans hclash (int_of_text_of_int v))

theorem allocateInt_sound {low high : Int} {observed : Option (List Int)} {field reason : Str}
    {v : Int} (hsound : Sound ledger)
    (h : allocateInt ownership .vlanTag purpose low high observed field reason ledger =
      .ok (v, ledger')) : Sound ledger' := by
  cases observed with
  | none => cases h
  | some observed =>
      rw [allocateInt_some] at h
      refine allocate_sound hsound (fun _ => ?_) (fun hchoose b hb hkind hclash => ?_) h
      · exact ⟨v, rfl⟩
      obtain ⟨_, _, _, hfree⟩ := chooseInt_sound hchoose
      exact hfree b hb (AllocationKind.space_eq_vlanTag.mp hkind)
        (Eq.trans hclash (int_of_text_of_int v))

theorem allocateSubnet_sound {pools : IpamPools} {observed : Option (List Str)}
    {management : List Str} {n : Ip.Network} (hsound : Sound ledger)
    (h : allocateSubnet ownership purpose pools observed management ledger = .ok (n, ledger')) :
    Sound ledger' := by
  cases observed with
  | none => cases h
  | some observed =>
      rw [allocateSubnet_some] at h
      refine allocate_sound hsound (fun hchoose => ?_) (fun hchoose b hb hkind hclash => ?_) h
      · exact ⟨n, candidateSubnets_v4 (chooseSubnet_sound hchoose).1, rfl⟩
      obtain ⟨hmem, _, _, hfree⟩ := chooseSubnet_sound hchoose
      obtain ⟨m, n', hm, hn, hoverlap⟩ := hclash
      rw [Ip.ipNetwork_text true (candidateSubnets_v4 hmem)] at hn
      obtain rfl := Option.some.inj hn
      obtain ⟨m', hm', hclear⟩ := hfree b hb (AllocationKind.space_eq_subnet.mp hkind)
      obtain rfl := Option.some.inj (hm.symm.trans hm')
      rw [Ip.overlaps_comm hoverlap] at hclear
      cases hclear

omit [Unicode] in
theorem chooseAddress_v4 {scope : Scope} {subnet : Ip.Network} {kind : AllocationKind}
    {offset : Option Int} {a : Ip.Address} (hsubnet : subnet.version = .v4)
    (h : chooseAddress scope purpose subnet kind offset ledger = .ok a) : a.version = .v4 :=
  (Ip.mem_iff.mp (Ip.mem_of_mem_hosts (chooseAddress_sound h).1)).1.trans hsubnet

theorem allocateAddress_sound {subnet : Ip.Network} {kind : AllocationKind} {offset : Option Int}
    {a : Ip.Address} (hsound : Sound ledger) (hsubnet : subnet.version = .v4)
    (hkind : kind.space = .address)
    (h : allocateAddress ownership purpose subnet kind offset ledger = .ok (a, ledger')) :
    Sound ledger' := by
  refine allocate_sound hsound (fun hchoose => ?_) (fun hchoose b hb hbkind hclash => ?_) h
  · rw [hkind]
    exact ⟨a, chooseAddress_v4 hsubnet hchoose, rfl⟩
  rw [hkind] at hbkind hclash
  obtain ⟨_, hfree⟩ := chooseAddress_sound hchoose
  have hcanonical := hsound.canonical b hb
  rw [hbkind] at hcanonical
  obtain ⟨address, hversion, htext⟩ := hcanonical
  change Ip.ipAddress b.value = Ip.ipAddress a.text at hclash
  rw [htext, Ip.ipAddress_text hversion, Ip.ipAddress_text (chooseAddress_v4 hsubnet hchoose)]
    at hclash
  obtain rfl := Option.some.inj hclash
  exact hfree (mem_heldAddresses.mpr ⟨b, hb, AllocationKind.space_eq_address.mp hbkind, htext⟩)

theorem allocateMac_sound {observed : Option (List Str)} {mac : Str} (hsound : Sound ledger)
    (h : allocateMac ownership purpose observed ledger = .ok (mac, ledger')) : Sound ledger' := by
  cases observed with
  | none => cases h
  | some observed =>
      rw [allocateMac_some] at h
      refine allocate_sound hsound (fun _ => ?_) (fun hchoose b hb hkind hclash => ?_) h
      · trivial
      obtain ⟨_, _, hfree⟩ := chooseMac_sound hchoose
      exact hfree b hb (AllocationKind.space_eq_mac.mp hkind) hclash

theorem allocateName_sound {kind : AllocationKind} {candidate : Str}
    {observed : Option (List Str)} {field reason : Str} {maxLength : Option Int} {name : Str}
    (hsound : Sound ledger) (hkind : kind.IsName)
    (h : allocateName ownership purpose kind candidate observed field reason maxLength ledger =
      .ok (name, ledger')) : Sound ledger' := by
  have hspace : kind.space = .name kind := hkind
  cases observed with
  | none => cases h
  | some observed =>
      rw [allocateName_some] at h
      refine allocate_sound hsound (fun _ => ?_) (fun hchoose b hb hbkind hclash => ?_) h
      · rw [hspace]
        trivial
      · rw [hspace] at hbkind hclash
        obtain ⟨_, _, hfree⟩ := chooseName_sound hchoose
        exact hfree b hb (AllocationKind.eq_of_space_eq_name hbkind) hclash

/-! ## Release and persistence -/

theorem release_sound {scope : Scope} {kind : AllocationKind} {proved : Bool} {detail : Str}
    {a : Allocation} (hsound : Sound ledger)
    (h : release scope kind purpose proved detail ledger = .ok (a, ledger')) : Sound ledger' := by
  unfold release at h
  split at h
  · cases h
  · split at h
    · cases h
      exact hsound.of_sublist_perm List.filter_sublist (List.Perm.refl _)
    · cases h

theorem fromDict_asDict (a : Allocation) : Allocation.fromDict a.asDict = .ok a := by
  obtain ⟨kind, ⟨organizationId, targetId, rangeId, teamRef, generation⟩, purpose, value⟩ := a
  simp [Allocation.fromDict, Allocation.asDict, Dict.get?, Json.text, Json.toInt?]

/-- The ledger read back from its own manifest: the same records, in sorted order. -/
theorem fromManifest_toManifest (ledger : AllocationLedger) :
    ∃ ledger', fromManifest ledger.toManifest = .ok ledger' ∧ ledger'.records = ledger.all ∧
      ledger'.isSealed = ledger.isSealed := by
  have hperm : ledger.all.Perm ledger.records := sortedBy_perm _ _
  have hnodup : (ledger.all.map Allocation.key).Nodup :=
    (hperm.map Allocation.key).nodup_iff.mpr ledger.keys_nodup
  have hread : (ledger.all.map Allocation.asDict).mapM Allocation.fromDict = .ok ledger.all := by
    rw [mapM_eq_ok_iff]
    generalize ledger.all = records
    induction records with
    | nil => exact .nil
    | cons a rest ih => exact .cons (fromDict_asDict a) ih
  have hhash : contentHash ⟨ledger.all, false, hnodup⟩ = ledger.contentHash := by
    simp [contentHash, all]
  have hopen : ofAllocations ledger.all = .ok ⟨ledger.all, false, hnodup⟩ := dif_pos hnodup
  have hfields : fromManifest ledger.toManifest =
      .ok (if ledger.isSealed then sealLedger ⟨ledger.all, false, hnodup⟩
        else ⟨ledger.all, false, hnodup⟩) := by
    simp only [fromManifest, toManifest, Json.get?_obj, Dict.get?, str_inj, String.reduceEq,
      ite_true, ite_false, Option.getD_some, Json.isOne, Json.truthy, hread, hopen, bind,
      Except.bind, hhash]
    cases ledger.isSealed <;> simp [pure, Except.pure]
  refine ⟨_, hfields, ?_⟩
  cases ledger.isSealed <;> exact ⟨rfl, rfl⟩

/-! ## Runs -/

/-- One operation on a ledger that returned. A refused operation leaves the ledger as it was. -/
inductive Step (ledger ledger' : AllocationLedger) : Prop where
  | allocateVmid (ownership : Ownership) (purpose : Str) (pools : IpamPools)
      (observed : Option (List Int)) (lxc : Bool) (v : Int)
      (h : allocateVmid ownership purpose pools observed lxc ledger = .ok (v, ledger'))
  | allocateVlan (ownership : Ownership) (purpose : Str) (low high : Int)
      (observed : Option (List Int)) (field reason : Str) (v : Int)
      (h : allocateInt ownership .vlanTag purpose low high observed field reason ledger =
        .ok (v, ledger'))
  | allocateSubnet (ownership : Ownership) (purpose : Str) (pools : IpamPools)
      (observed : Option (List Str)) (management : List Str) (n : Ip.Network)
      (h : allocateSubnet ownership purpose pools observed management ledger = .ok (n, ledger'))
  | allocateAddress (ownership : Ownership) (purpose : Str) (subnet : Ip.Network)
      (kind : AllocationKind) (offset : Option Int) (a : Ip.Address)
      (hsubnet : subnet.version = .v4) (hkind : kind.space = .address)
      (h : allocateAddress ownership purpose subnet kind offset ledger = .ok (a, ledger'))
  | allocateMac (ownership : Ownership) (purpose : Str) (observed : Option (List Str)) (mac : Str)
      (h : allocateMac ownership purpose observed ledger = .ok (mac, ledger'))
  | allocateName (ownership : Ownership) (purpose : Str) (kind : AllocationKind) (candidate : Str)
      (observed : Option (List Str)) (field reason : Str) (maxLength : Option Int) (name : Str)
      (hkind : kind.IsName)
      (h : allocateName ownership purpose kind candidate observed field reason maxLength ledger =
        .ok (name, ledger'))
  | sealLedger (h : ledger' = ledger.sealLedger)
  | release (scope : Scope) (kind : AllocationKind) (purpose : Str) (proved : Bool) (detail : Str)
      (a : Allocation) (h : release scope kind purpose proved detail ledger = .ok (a, ledger'))
  | reload (h : fromManifest ledger.toManifest = .ok ledger')

/-- Every operation keeps the invariant. -/
theorem Step.sound (hstep : Step ledger ledger') (hsound : Sound ledger) : Sound ledger' := by
  cases hstep with
  | allocateVmid _ _ _ _ _ _ h => exact allocateVmid_sound hsound h
  | allocateVlan _ _ _ _ _ _ _ _ h => exact allocateInt_sound hsound h
  | allocateSubnet _ _ _ _ _ _ h => exact allocateSubnet_sound hsound h
  | allocateAddress _ _ _ _ _ _ hsubnet hkind h =>
      exact allocateAddress_sound hsound hsubnet hkind h
  | allocateMac _ _ _ _ h => exact allocateMac_sound hsound h
  | allocateName _ _ _ _ _ _ _ _ _ hkind h => exact allocateName_sound hsound hkind h
  | sealLedger h => exact hsound.of_sublist_perm (List.Sublist.refl _) (h ▸ List.Perm.refl _)
  | release _ _ _ _ _ _ h => exact release_sound hsound h
  | reload h =>
      obtain ⟨_, hreload, hrecords, _⟩ := fromManifest_toManifest ledger
      cases hreload.symm.trans h
      refine hsound.of_sublist_perm (List.Sublist.refl _) ?_
      rw [hrecords]
      exact sortedBy_perm _ _

/-- The ledgers an arbitrary run of operations can produce. -/
def Reachable : AllocationLedger → Prop := Relation.ReflTransGen Step AllocationLedger.empty

theorem Reachable.sound (h : Reachable ledger) : Sound ledger := by
  induction h with
  | refl => exact Sound.empty
  | tail _ hstep ih => exact hstep.sound ih

/-- No two distinct records hold one identifier. -/
structure Exclusive (ledger : AllocationLedger) : Prop where
  guestIds : ∀ a ∈ ledger.records, ∀ b ∈ ledger.records, a ≠ b →
    a.kind = .vmid ∨ a.kind = .lxcId → b.kind = .vmid ∨ b.kind = .lxcId →
    intOf a.value ≠ intOf b.value
  macs : ∀ a ∈ ledger.records, ∀ b ∈ ledger.records, a ≠ b → a.kind = .mac → b.kind = .mac →
    a.value ≠ b.value
  vlanTags : ∀ a ∈ ledger.records, ∀ b ∈ ledger.records, a ≠ b → a.kind = .vlanTag →
    b.kind = .vlanTag → intOf a.value ≠ intOf b.value
  subnets : ∀ a ∈ ledger.records, ∀ b ∈ ledger.records, a ≠ b → a.kind = .subnet →
    b.kind = .subnet → ∀ m n, Ip.ipNetwork true a.value = some m →
    Ip.ipNetwork true b.value = some n → m.overlaps n = false
  addresses : ∀ a ∈ ledger.records, ∀ b ∈ ledger.records, a ≠ b →
    a.kind = .guestAddress ∨ a.kind = .gatewayAddress →
    b.kind = .guestAddress ∨ b.kind = .gatewayAddress →
    Ip.ipAddress a.value ≠ Ip.ipAddress b.value
  names : ∀ a ∈ ledger.records, ∀ b ∈ ledger.records, a ≠ b → a.kind.IsName → b.kind = a.kind →
    lower a.value ≠ lower b.value

/-- What an allocation that found no record of its key returns: a value of its pool that is clear
of the observation it was given. -/
structure PlacesNewValues (ledger : AllocationLedger) : Prop where
  vmid : ∀ ownership purpose pools observed lxc v ledger',
    allocateVmid ownership purpose pools (some observed) lxc ledger = .ok (v, ledger') →
    ledger.get ownership.scopeKey (guestIdKind lxc) purpose = none →
    pools.vmidMin ≤ v ∧ v ≤ pools.vmidMax ∧ v ∉ observed
  vlanTag : ∀ ownership purpose low high observed field reason v ledger',
    allocateInt ownership .vlanTag purpose low high (some observed) field reason ledger =
      .ok (v, ledger') →
    ledger.get ownership.scopeKey .vlanTag purpose = none →
    low ≤ v ∧ v ≤ high ∧ v ∉ observed
  subnet : ∀ ownership purpose pools observed management n ledger',
    allocateSubnet ownership purpose pools (some observed) management ledger = .ok (n, ledger') →
    ledger.get ownership.scopeKey .subnet purpose = none →
    n ∈ pools.candidateSubnets ∧
      (∀ cidr ∈ observed, ∃ m, Ip.ipNetwork false cidr = some m ∧ n.overlaps m = false) ∧
      ∀ cidr ∈ management, ∃ m, Ip.ipNetwork true cidr = some m ∧ n.overlaps m = false
  address : ∀ ownership purpose subnet kind offset a ledger',
    allocateAddress ownership purpose subnet kind offset ledger = .ok (a, ledger') →
    ledger.get ownership.scopeKey kind purpose = none → a ∈ subnet.hosts
  mac : ∀ ownership purpose observed mac ledger',
    allocateMac ownership purpose (some observed) ledger = .ok (mac, ledger') →
    ledger.get ownership.scopeKey .mac purpose = none →
    (∃ suffix < 16777216, mac = macText suffix) ∧ mac ∉ observed.map upper
  name : ∀ ownership purpose kind candidate observed field reason maxLength name ledger',
    allocateName ownership purpose kind candidate (some observed) field reason maxLength ledger =
      .ok (name, ledger') →
    ledger.get ownership.scopeKey kind purpose = none →
    (name = boundName candidate maxLength ∨
        ∃ digest, name = discriminated (boundName candidate maxLength) maxLength digest) ∧
      lower name ∉ observed.map lower

theorem exclusive_of_sound (h : Sound ledger) : Exclusive ledger where
  guestIds a ha b hb hne hakind hbkind hvalue := by
    have hbspace := AllocationKind.space_eq_guestId.mpr hbkind
    refine h.not_conflicts ha hb hne ⟨?_, ?_⟩
    · rw [hbspace, AllocationKind.space_eq_guestId.mpr hakind]
    · rw [hbspace]
      exact hvalue
  macs a ha b hb hne hakind hbkind hvalue := by
    refine h.not_conflicts ha hb hne ⟨by rw [hakind, hbkind], ?_⟩
    rw [hbkind]
    exact hvalue
  vlanTags a ha b hb hne hakind hbkind hvalue := by
    refine h.not_conflicts ha hb hne ⟨by rw [hakind, hbkind], ?_⟩
    rw [hbkind]
    exact hvalue
  subnets a ha b hb hne hakind hbkind m n hm hn := by
    refine Bool.eq_false_iff.mpr fun hoverlap => ?_
    refine h.not_conflicts ha hb hne ⟨by rw [hakind, hbkind], ?_⟩
    rw [hbkind]
    exact ⟨m, n, hm, hn, hoverlap⟩
  addresses a ha b hb hne hakind hbkind hvalue := by
    have hbspace := AllocationKind.space_eq_address.mpr hbkind
    refine h.not_conflicts ha hb hne ⟨?_, ?_⟩
    · rw [hbspace, AllocationKind.space_eq_address.mpr hakind]
    · rw [hbspace]
      exact hvalue
  names a ha b hb hne hakind hbkind hvalue := by
    have haspace : a.kind.space = .name a.kind := hakind
    refine h.not_conflicts ha hb hne ⟨by rw [hbkind], ?_⟩
    rw [hbkind, haspace]
    exact hvalue

/-- An allocation that finds no record of its key returns what it chose. -/
theorem choose_eq_ok_of_get_eq_none {α : Type} {scope : Scope} {kind : AllocationKind}
    {purpose : Str} {read : Str → Except Raised α} {choose : AllocationLedger → Except Raised α}
    {text : α → Str} {value : α}
    (h : allocate scope kind purpose read choose text ledger = .ok (value, ledger'))
    (hnone : ledger.get scope kind purpose = none) : choose ledger = .ok value := by
  rcases allocate_eq_ok_iff.mp h with ⟨a, hget, _, _⟩ | ⟨_, hchoose, _, _⟩
  · rw [hnone] at hget
    cases hget
  · exact hchoose

theorem placesNewValues (ledger : AllocationLedger) : PlacesNewValues ledger where
  vmid ownership purpose pools observed lxc v ledger' h hnone := by
    rw [allocateVmid_some] at h
    obtain ⟨hlow, hhigh, hfree, _⟩ := chooseVmid_sound (choose_eq_ok_of_get_eq_none h hnone)
    exact ⟨hlow, hhigh, hfree⟩
  vlanTag ownership purpose low high observed field reason v ledger' h hnone := by
    rw [allocateInt_some] at h
    obtain ⟨hlow, hhigh, hfree, _⟩ := chooseInt_sound (choose_eq_ok_of_get_eq_none h hnone)
    exact ⟨hlow, hhigh, hfree⟩
  subnet ownership purpose pools observed management n ledger' h hnone := by
    rw [allocateSubnet_some] at h
    obtain ⟨hmem, hobserved, hmanagement, _⟩ :=
      chooseSubnet_sound (choose_eq_ok_of_get_eq_none h hnone)
    exact ⟨hmem, hobserved, hmanagement⟩
  address ownership purpose subnet kind offset a ledger' h hnone :=
    (chooseAddress_sound (choose_eq_ok_of_get_eq_none h hnone)).1
  mac ownership purpose observed mac ledger' h hnone := by
    rw [allocateMac_some] at h
    obtain ⟨hpool, hfree, _⟩ := chooseMac_sound (choose_eq_ok_of_get_eq_none h hnone)
    exact ⟨hpool, hfree⟩
  name ownership purpose kind candidate observed field reason maxLength name ledger' h hnone := by
    rw [allocateName_some] at h
    obtain ⟨hpool, hfree, _⟩ := chooseName_sound (choose_eq_ok_of_get_eq_none h hnone)
    exact ⟨hpool, hfree⟩

/-- In every reachable ledger no two distinct records hold one identifier, and every allocation
made there places its new value in its pool and clear of the observation. -/
theorem reachable_exclusive (h : Reachable ledger) : Exclusive ledger ∧ PlacesNewValues ledger :=
  ⟨exclusive_of_sound h.sound, placesNewValues ledger⟩

end AllocationLedger

end

/-- A stamp to run the allocators with. -/
def sampleOwnership : Ownership :=
  ⟨['o'], ['t'], ['r'], 1, 0, .network, none, by decide, by decide, by decide, by decide⟩

open AllocationLedger in
/-- A VLAN tag and a zone name, allocated one after the other. -/
def sampleRun [Unicode] : Except Raised AllocationLedger := do
  let (_, ledger) ← allocateInt sampleOwnership .vlanTag ['a'] 10 12 (some [11]) ['f'] ['r'] empty
  let (_, ledger) ← allocateName sampleOwnership ['b'] .zoneName ['z'] (some [['Z']]) ['f'] ['r']
    (some 8) ledger
  pure ledger

open AllocationLedger in
theorem reachable_exclusive_after_two :
    ∃ ledger, ledger.records.length = 2 ∧ @Reachable Unicode.ascii ledger ∧
      @Exclusive Unicode.ascii ledger ∧ @PlacesNewValues Unicode.ascii ledger := by
  let _ := Unicode.ascii
  have hcount : sampleRun.toOption.map (fun ledger => ledger.records.length) = some 2 := by
    decide +kernel
  cases hrun : sampleRun with
  | error e => simp [hrun, Except.toOption] at hcount
  | ok ledger =>
      obtain ⟨⟨tag, first⟩, hfirst, hrest⟩ := except_bind_eq_ok.mp hrun
      obtain ⟨⟨name, second⟩, hsecond, hret⟩ := except_bind_eq_ok.mp hrest
      cases hret
      have hreach : Reachable ledger :=
        (Relation.ReflTransGen.single (.allocateVlan _ _ _ _ _ _ _ _ hfirst)).tail
          (.allocateName _ _ .zoneName _ _ _ _ _ _ rfl hsecond)
      exact ⟨ledger, by simpa [hrun, Except.toOption] using hcount, hreach,
        reachable_exclusive hreach⟩

end Secp.Proxmox
