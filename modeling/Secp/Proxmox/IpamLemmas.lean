import Mathlib.Data.List.Dedup
import Secp.Logic.StateExcept
import Secp.Proxmox.Ipam

/-!
# What the allocators do

`allocate_eq_ok_iff` says once what a successful allocation is: the recorded value read back with
the ledger unchanged, or a newly chosen value appended to an open ledger. The rest of the module
says what each choice guarantees: the value lies in its pool, conflicts with nothing observed and
with nothing the ledger holds.
-/

namespace Secp.Proxmox

open Secp.Python Secp.Logic

variable {ledger ledger' : AllocationLedger} {scope : Scope} {kind : AllocationKind} {purpose : Str}

namespace AllocationLedger

/-! ## Lookup -/

theorem get_eq_some_iff {a : Allocation} :
    ledger.get scope kind purpose = some a ↔
      a ∈ ledger.records ∧ a.key = (scope, kind, purpose) := by
  constructor
  · intro h
    exact ⟨List.mem_of_find?_eq_some h, by simpa using List.find?_some h⟩
  · rintro ⟨hmem, hkey⟩
    cases h : ledger.get scope kind purpose with
    | none =>
        have := List.find?_eq_none.mp h a hmem
        simp [hkey] at this
    | some b =>
        have hb : b ∈ ledger.records := List.mem_of_find?_eq_some h
        have hbkey : b.key = (scope, kind, purpose) := by simpa using List.find?_some h
        rw [List.inj_on_of_nodup_map ledger.keys_nodup hb hmem (hbkey.trans hkey.symm)]

/-- The record a lookup finds, spelled out. -/
theorem mem_of_get {a : Allocation} (h : ledger.get scope kind purpose = some a) :
    ⟨kind, scope, purpose, a.value⟩ ∈ ledger.records := by
  obtain ⟨hmem, hkey⟩ := get_eq_some_iff.mp h
  obtain ⟨kind', scope', purpose', value⟩ := a
  simp only [Allocation.key, Prod.mk.injEq] at hkey
  obtain ⟨rfl, rfl, rfl⟩ := hkey
  exact hmem

theorem get_eq_none_iff :
    ledger.get scope kind purpose = none ↔
      (scope, kind, purpose) ∉ ledger.records.map Allocation.key := by
  simp [get, List.find?_eq_none]

theorem mem_reserved {value : Str} :
    value ∈ ledger.reserved kind ↔ ∃ a ∈ ledger.records, a.kind = kind ∧ a.value = value := by
  simp [reserved, and_assoc]

theorem mem_heldAddresses {value : Str} :
    value ∈ ledger.heldAddresses ↔
      ∃ a ∈ ledger.records,
        (a.kind = .guestAddress ∨ a.kind = .gatewayAddress) ∧ a.value = value := by
  simp [heldAddresses, and_assoc]

/-! ## Growth -/

/-- Every record of the first ledger is a record of the second. -/
def Extends (ledger ledger' : AllocationLedger) : Prop := ledger.records ⊆ ledger'.records

theorem Extends.refl (ledger : AllocationLedger) : Extends ledger ledger := List.Subset.refl _

theorem Extends.trans {ledger'' : AllocationLedger} (h : Extends ledger ledger')
    (h' : Extends ledger' ledger'') : Extends ledger ledger'' := List.Subset.trans h h'

/-- A record survives into every extension. -/
theorem Extends.get {a : Allocation} (h : Extends ledger ledger')
    (ha : ledger.get scope kind purpose = some a) : ledger'.get scope kind purpose = some a := by
  obtain ⟨hmem, hkey⟩ := get_eq_some_iff.mp ha
  exact get_eq_some_iff.mpr ⟨h hmem, hkey⟩

section
variable [Unicode] {α : Type} {read : Str → Except Raised α}
  {choose : AllocationLedger → Except Raised α} {text : α → Str} {value : α}

/-- A successful `_record` under a new key appends to an open ledger. -/
theorem record_eq_ok_iff {a : Allocation} (hnew : a.key ∉ ledger.records.map Allocation.key) :
    ledger.record a = .ok ledger' ↔ ledger.isSealed = false ∧ ledger' = ledger.insert a hnew := by
  rw [record, dif_neg hnew]
  cases hs : ledger.isSealed with
  | true => simp
  | false => simp [eq_comm]

/-- A successful allocation either reads what is recorded or records what it chose. -/
theorem allocate_eq_ok_iff :
    allocate scope kind purpose read choose text ledger = .ok (value, ledger') ↔
      (∃ a, ledger.get scope kind purpose = some a ∧ read a.value = .ok value ∧
        ledger' = ledger) ∨
      (∃ hnew : (scope, kind, purpose) ∉ ledger.records.map Allocation.key,
        choose ledger = .ok value ∧ ledger.isSealed = false ∧
          ledger' = ledger.insert ⟨kind, scope, purpose, text value⟩ hnew) := by
  unfold allocate
  cases hget : ledger.get scope kind purpose with
  | some a =>
      have hold : (scope, kind, purpose) ∈ ledger.records.map Allocation.key := by
        by_contra hnew
        rw [get_eq_none_iff.mpr hnew] at hget
        cases hget
      simp only [except_bind_eq_ok, Option.some.injEq, exists_eq_left']
      constructor
      · rintro ⟨v, hread, hret⟩
        cases hret
        exact .inl ⟨hread, rfl⟩
      · rintro (⟨hread, rfl⟩ | ⟨hnew, _⟩)
        · exact ⟨value, hread, rfl⟩
        · exact absurd hold hnew
  | none =>
      have hnew := get_eq_none_iff.mp hget
      simp only [except_bind_eq_ok, reduceCtorEq, false_and, exists_false, false_or]
      constructor
      · rintro ⟨v, hchoose, l, hrecord, hret⟩
        cases hret
        obtain ⟨hopen, rfl⟩ := (record_eq_ok_iff hnew).mp hrecord
        exact ⟨hnew, hchoose, hopen, rfl⟩
      · rintro ⟨_, hchoose, hopen, rfl⟩
        exact ⟨value, hchoose, _, (record_eq_ok_iff hnew).mpr ⟨hopen, rfl⟩, rfl⟩

/-- An allocation keeps every record. -/
theorem allocate_extends
    (h : allocate scope kind purpose read choose text ledger = .ok (value, ledger')) :
    Extends ledger ledger' := by
  rcases allocate_eq_ok_iff.mp h with ⟨_, _, _, rfl⟩ | ⟨_, _, _, rfl⟩
  · exact Extends.refl _
  · exact List.subset_append_left _ _

/-- After an allocation the key holds a record from which the value is read. -/
theorem allocate_recorded (hread : choose ledger = .ok value → read (text value) = .ok value)
    (h : allocate scope kind purpose read choose text ledger = .ok (value, ledger')) :
    ∃ a, ledger'.get scope kind purpose = some a ∧ read a.value = .ok value := by
  rcases allocate_eq_ok_iff.mp h with ⟨a, hget, hvalue, rfl⟩ | ⟨_, hchoose, _, rfl⟩
  · exact ⟨a, hget, hvalue⟩
  · refine ⟨⟨kind, scope, purpose, text value⟩, get_eq_some_iff.mpr ⟨?_, rfl⟩, hread hchoose⟩
    exact List.mem_append_right _ List.mem_cons_self

end

/-! ## The allocators as instances -/

section
variable [Unicode] {ownership : Ownership}

theorem allocateInt_some {low high : Int} {observed : List Int} {field reason : Str} :
    allocateInt ownership kind purpose low high (some observed) field reason =
      allocate ownership.scopeKey kind purpose (fun value => orValueError (intOf value))
        (chooseInt ownership.scopeKey kind purpose low high observed) intStr := rfl

theorem allocateVmid_some {pools : IpamPools} {observed : List Int} {lxc : Bool} :
    allocateVmid ownership purpose pools (some observed) lxc =
      allocate ownership.scopeKey (guestIdKind lxc) purpose
        (fun value => orValueError (intOf value))
        (chooseVmid ownership.scopeKey (guestIdKind lxc) purpose pools observed) intStr := rfl

theorem allocateSubnet_some {pools : IpamPools} {observed management : List Str} :
    allocateSubnet ownership purpose pools (some observed) management =
      allocate ownership.scopeKey .subnet purpose
        (fun value => orValueError (Ip.ipNetwork true value))
        (chooseSubnet ownership.scopeKey purpose pools observed management) Ip.Network.text := rfl

theorem allocateMac_some {observed : List Str} :
    allocateMac ownership purpose (some observed) =
      allocate ownership.scopeKey .mac purpose (fun value => .ok value)
        (chooseMac ownership.scopeKey purpose observed) id := rfl

theorem allocateName_some {candidate field reason : Str} {observed : List Str}
    {maxLength : Option Int} :
    allocateName ownership purpose kind candidate (some observed) field reason maxLength =
      allocate ownership.scopeKey kind purpose (fun value => .ok value)
        (chooseName ownership.scopeKey purpose kind candidate observed maxLength) id := rfl

end

/-! ## Integers -/

section
variable [Unicode]

/-- The integers read off the reserved values include that of every record of the kind. -/
theorem mem_reservedInts {held : List Int} (h : ledger.reservedInts kind = .ok held)
    {a : Allocation} (ha : a ∈ ledger.records) (hkind : a.kind = kind) :
    ∃ n ∈ held, intOf a.value = some n := by
  obtain ⟨n, hn, hread⟩ := exists_of_mapM_eq_ok h (mem_reserved.mpr ⟨a, ha, hkind, rfl⟩)
  exact ⟨n, hn, orValueError_eq_ok.mp hread⟩

omit [Unicode] in
/-- A walk over an integer pool ends inside the pool on a value that is not taken. -/
theorem walkInts_sound {low high v : Int} {start : Nat} {taken : List Int} (hspan : low ≤ high)
    (h : walkInts low (high - low + 1).toNat start taken = some v) :
    low ≤ v ∧ v ≤ high ∧ v ∉ taken := by
  obtain ⟨hfree, i, rfl⟩ := firstFree_sound h
  have hlt : (start + i) % (high - low + 1).toNat < (high - low + 1).toNat :=
    Nat.mod_lt _ (by omega)
  refine ⟨by omega, by omega, by simpa using hfree⟩

variable {low high v : Int} {observed : List Int}

/-- What the choice of an integer guarantees. -/
theorem chooseInt_sound (h : chooseInt scope kind purpose low high observed ledger = .ok v) :
    low ≤ v ∧ v ≤ high ∧ v ∉ observed ∧
      ∀ a ∈ ledger.records, a.kind = kind → intOf a.value ≠ some v := by
  unfold chooseInt at h
  split at h
  · cases h
  · rename_i hspan
    obtain ⟨held, hheld, h⟩ := except_bind_eq_ok.mp h
    dsimp only at h
    split at h
    · rename_i candidate hwalk
      cases h
      obtain ⟨hlow, hhigh, hfree⟩ := walkInts_sound (by omega) hwalk
      simp only [List.mem_append, not_or] at hfree
      refine ⟨hlow, hhigh, hfree.2, fun a ha hkind hv => ?_⟩
      obtain ⟨n, hn, hread⟩ := mem_reservedInts hheld ha hkind
      rw [hread] at hv
      exact hfree.1 (Option.some.inj hv ▸ hn)
    · cases h

/-- What the choice of a guest id guarantees; the two guest-id kinds are one namespace. -/
theorem chooseVmid_sound {pools : IpamPools}
    (h : chooseVmid scope kind purpose pools observed ledger = .ok v) :
    pools.vmidMin ≤ v ∧ v ≤ pools.vmidMax ∧ v ∉ observed ∧
      ∀ a ∈ ledger.records, a.kind = .vmid ∨ a.kind = .lxcId → intOf a.value ≠ some v := by
  obtain ⟨vmids, hvmids, h⟩ := except_bind_eq_ok.mp h
  obtain ⟨lxcIds, hlxcIds, h⟩ := except_bind_eq_ok.mp h
  dsimp only at h
  split at h
  · rename_i candidate hwalk
    cases h
    obtain ⟨hlow, hhigh, hfree⟩ := walkInts_sound pools.vmid_bounds.2.1 hwalk
    simp only [List.mem_append, not_or] at hfree
    refine ⟨hlow, hhigh, hfree.2, fun a ha hkind hv => ?_⟩
    rcases hkind with hkind | hkind
    · obtain ⟨n, hn, hread⟩ := mem_reservedInts hvmids ha hkind
      rw [hread] at hv
      exact hfree.1.1 (Option.some.inj hv ▸ hn)
    · obtain ⟨n, hn, hread⟩ := mem_reservedInts hlxcIds ha hkind
      rw [hread] at hv
      exact hfree.1.2 (Option.some.inj hv ▸ hn)
  · cases h

end

/-! ## Subnets and addresses -/

theorem candidateSubnets_v4 {pools : IpamPools} {n : Ip.Network}
    (h : n ∈ pools.candidateSubnets) : n.version = .v4 :=
  (Ip.mem_subnets (Nat.le_of_lt pools.segment_longer) h).1.trans pools.supernet_v4

variable {pools : IpamPools} {cidrs management : List Str} {n : Ip.Network}

/-- What the choice of a subnet guarantees. -/
theorem chooseSubnet_sound
    (h : chooseSubnet scope purpose pools cidrs management ledger = .ok n) :
    n ∈ pools.candidateSubnets ∧
      (∀ cidr ∈ cidrs, ∃ m, Ip.ipNetwork false cidr = some m ∧ n.overlaps m = false) ∧
      (∀ cidr ∈ management, ∃ m, Ip.ipNetwork true cidr = some m ∧ n.overlaps m = false) ∧
      ∀ a ∈ ledger.records, a.kind = .subnet →
        ∃ m, Ip.ipNetwork true a.value = some m ∧ n.overlaps m = false := by
  obtain ⟨blocked, hblocked, h⟩ := except_bind_eq_ok.mp h
  obtain ⟨inUse, hinUse, hblocked⟩ := except_bind_eq_ok.mp hblocked
  obtain ⟨mgmt, hmgmt, hblocked⟩ := except_bind_eq_ok.mp hblocked
  obtain ⟨held, hheld, hblocked⟩ := except_bind_eq_ok.mp hblocked
  cases hblocked
  dsimp only at h
  split at h
  · cases h
  · split at h
    · rename_i candidate hwalk
      cases h
      obtain ⟨hmem, hfree⟩ := walkList_sound hwalk
      have hclear : ∀ m ∈ inUse ++ mgmt ++ held, n.overlaps m = false := by
        intro m hm
        cases ho : n.overlaps m with
        | false => rfl
        | true =>
            have : (inUse ++ mgmt ++ held).any n.overlaps = true :=
              List.any_eq_true.mpr ⟨m, hm, ho⟩
            rw [this] at hfree
            cases hfree
      refine ⟨hmem, fun cidr hcidr => ?_, fun cidr hcidr => ?_, fun a ha hkind => ?_⟩
      · obtain ⟨m, hm, hread⟩ := exists_of_mapM_eq_ok hinUse hcidr
        exact ⟨m, orValueError_eq_ok.mp hread, hclear m (by simp [hm])⟩
      · obtain ⟨m, hm, hread⟩ := exists_of_mapM_eq_ok hmgmt hcidr
        exact ⟨m, orValueError_eq_ok.mp hread, hclear m (by simp [hm])⟩
      · obtain ⟨m, hm, hread⟩ :=
          exists_of_mapM_eq_ok hheld (mem_reserved.mpr ⟨a, ha, hkind, rfl⟩)
        exact ⟨m, orValueError_eq_ok.mp hread, hclear m (by simp [hm])⟩
    · cases h

theorem indexHost_mem {hosts : List Ip.Address} {offset : Int} {a : Ip.Address}
    (h : indexHost hosts offset = some a) : a ∈ hosts := by
  unfold indexHost at h
  split at h
  · exact List.mem_of_getElem? h
  · split at h
    · exact List.mem_of_getElem? h
    · cases h

/-- What the choice of an address guarantees. -/
theorem chooseAddress_sound {offset : Option Int} {a : Ip.Address}
    (h : chooseAddress scope purpose n kind offset ledger = .ok a) :
    a ∈ n.hosts ∧ a.text ∉ ledger.heldAddresses := by
  unfold chooseAddress at h
  dsimp only at h
  split at h
  · cases h
  · cases offset with
    | some offset =>
        dsimp only at h
        split at h
        · cases h
        · split at h
          · cases h
          · rename_i chosen hindex
            split at h
            · cases h
            · rename_i hfree
              cases h
              exact ⟨indexHost_mem hindex, hfree⟩
    | none =>
        dsimp only at h
        split at h
        · rename_i chosen hwalk
          cases h
          obtain ⟨hmem, hfree⟩ := walkList_sound hwalk
          exact ⟨hmem, by simpa using hfree⟩
        · cases h

/-! ## Texts -/

section
variable [Unicode]


/-- What the choice of a MAC guarantees. -/
theorem chooseMac_sound {macs : List Str} {mac : Str}
    (h : chooseMac scope purpose macs ledger = .ok mac) :
    (∃ suffix < 16777216, mac = macText suffix) ∧ mac ∉ macs.map upper ∧
      ∀ a ∈ ledger.records, a.kind = .mac → a.value ≠ mac := by
  unfold chooseMac at h
  dsimp only at h
  split at h
  · rename_i candidate hwalk
    cases h
    obtain ⟨hfree, i, rfl⟩ := firstFree_sound hwalk
    simp only [decide_eq_true_eq, List.mem_append, not_or] at hfree
    refine ⟨⟨_, Nat.mod_lt _ (by decide), rfl⟩, hfree.1, fun a ha hkind hvalue => ?_⟩
    exact hfree.2 (mem_reserved.mpr ⟨a, ha, hkind, hvalue⟩)
  · cases h

/-- What the choice of a name guarantees: the proposed name cut to its bound, with a discriminator
if that one is taken. -/
theorem chooseName_sound {names : List Str} {maxLength : Option Int} {candidate name : Str}
    (h : chooseName scope purpose kind candidate names maxLength ledger = .ok name) :
    (name = boundName candidate maxLength ∨
        ∃ digest, name = discriminated (boundName candidate maxLength) maxLength digest) ∧
      lower name ∉ names.map lower ∧
      ∀ a ∈ ledger.records, a.kind = kind → lower a.value ≠ lower name := by
  unfold chooseName at h
  dsimp only at h
  have hclear : ∀ t : Str, lower t ∉ names.map lower ++ (ledger.reserved kind).map lower →
      lower t ∉ names.map lower ∧
        ∀ a ∈ ledger.records, a.kind = kind → lower a.value ≠ lower t := by
    intro t ht
    simp only [List.mem_append, not_or] at ht
    refine ⟨ht.1, fun a ha hkind hvalue => ht.2 ?_⟩
    rw [← hvalue]
    exact List.mem_map_of_mem (mem_reserved.mpr ⟨a, ha, hkind, rfl⟩)
  split at h
  · rename_i hfree
    cases h
    exact ⟨.inl rfl, hclear _ hfree⟩
  · split at h
    · rename_i attempt hwalk
      cases h
      obtain ⟨hfree, i, rfl⟩ := firstFree_sound hwalk
      exact ⟨.inr ⟨_, rfl⟩, hclear _ (by simpa using hfree)⟩
    · cases h

end

end AllocationLedger

end Secp.Proxmox
