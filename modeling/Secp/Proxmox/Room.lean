import Secp.Proxmox.FirewallSpec

/-!
# Room in the pools

An allocator that walks its pool once around finds a value as long as one is left. A ledger into which a
compilation has drawn no more values than it has segments leaves one, when the pool had more to begin
with.
-/

namespace Secp.Proxmox

open Secp.Python Secp.Logic AllocationLedger

/-- Two lists without repetition of which the longer has an item the other has not. -/
theorem exists_not_mem_of_length_lt {α : Type} {xs ys : List α} (hxs : xs.Nodup)
    (h : ys.length < xs.length) : ∃ x ∈ xs, x ∉ ys := by
  by_contra hall
  have hsubset : xs ⊆ ys := by
    intro x hx
    by_contra hy
    exact hall ⟨x, hx, hy⟩
  have hle := (List.subperm_of_subset hxs hsubset).length_le
  omega

/-! ## VLAN tags -/

/-- The tags of a pool. -/
def IpamPools.vlanTags (pools : IpamPools) : List Int :=
  (List.range (pools.vlanMax - pools.vlanMin + 1).toNat).map fun i : Nat => pools.vlanMin + (i : Int)

section
variable {pools : IpamPools} {ledger : AllocationLedger} {scope : Scope} {purpose : Str}

theorem nodup_vlanTags (pools : IpamPools) : pools.vlanTags.Nodup :=
  List.Nodup.map_on (fun i _ j _ h => by omega) List.nodup_range

theorem length_reserved_le (ledger : AllocationLedger) (kind : AllocationKind) :
    (ledger.reserved kind).length ≤ (ledger.records.filter fun a => a.kind = kind).length := by
  rw [AllocationLedger.reserved]
  refine (List.dedup_sublist _).length_le.trans ?_
  rw [List.length_map]

variable [Unicode]

theorem exists_chooseInt {inUse : List Int} (hsound : Sound ledger)
    (hroom : (ledger.records.filter fun a => a.kind = .vlanTag).length <
      (pools.vlanTags.filter fun tag => tag ∉ inUse).length) :
    ∃ tag, chooseInt scope .vlanTag purpose pools.vlanMin pools.vlanMax inUse ledger = .ok tag := by
  obtain ⟨-, hbounds, -⟩ := pools.vlan_bounds
  unfold chooseInt
  rw [if_neg (by omega)]
  obtain ⟨held, hheld⟩ : ∃ held, ledger.reservedInts .vlanTag = .ok held := by
    obtain ⟨held, hheld⟩ := @exists_forall₂ _ _
      (fun value n => orValueError (intOf value) = .ok n) (ledger.reserved .vlanTag) (fun value hvalue => by
        obtain ⟨a, ha, hkind, rfl⟩ := mem_reserved.mp hvalue
        obtain ⟨n, hn⟩ : IdentifierSpace.vlanTag.Canonical a.value := by
          have hcanonical := hsound.canonical a ha
          rwa [hkind] at hcanonical
        exact ⟨n, by rw [hn, int_of_text_of_int]; rfl⟩)
    exact ⟨held, mapM_eq_ok_iff.mpr hheld⟩
  have hlength : held.length = (ledger.reserved .vlanTag).length :=
    (mapM_eq_ok_iff.mp hheld).length_eq.symm
  have hfew := length_reserved_le ledger .vlanTag
  obtain ⟨tag, htag, hfresh⟩ : ∃ tag ∈ pools.vlanTags.filter fun tag => tag ∉ inUse, tag ∉ held :=
    exists_not_mem_of_length_lt ((nodup_vlanTags pools).filter _) (by omega)
  obtain ⟨hpool, hunused⟩ := List.mem_filter.mp htag
  obtain ⟨place, hplace, rfl⟩ := List.mem_map.mp hpool
  rw [except_bind_of_ok hheld]
  dsimp only
  cases hwalk : walkInts pools.vlanMin (pools.vlanMax - pools.vlanMin + 1).toNat
      (digestOffset scope purpose AllocationKind.vlanTag.value %
        (pools.vlanMax - pools.vlanMin + 1).toNat) (held ++ inUse) with
  | some tag => exact ⟨tag, rfl⟩
  | none =>
      obtain ⟨i, hi, hturn⟩ := exists_turn (digestOffset scope purpose AllocationKind.vlanTag.value %
        (pools.vlanMax - pools.vlanMin + 1).toNat) (List.mem_range.mp hplace)
      have hmissed := firstFree_eq_none_iff.mp hwalk i hi
      rw [Nat.zero_add, hturn, decide_eq_false_iff_not, not_not] at hmissed
      rcases List.mem_append.mp hmissed with hmem | hmem
      · exact absurd hmem hfresh
      · exact absurd hmem (of_decide_eq_true hunused)

/-! ## Subnets -/

/-- The networks of the target that a new subnet may not overlap. -/
def TargetObservation.networksInUse (observation : TargetObservation) (inUse : List Str) :
    List Ip.Network :=
  inUse.filterMap (Ip.ipNetwork false) ++
    observation.identity.managementCidrs.filterMap (Ip.ipNetwork true)

omit [Unicode] in
/-- Two candidates of one pool are one or apart. -/
theorem candidate_eq_of_overlaps {m n : Ip.Network} (hm : m ∈ pools.candidateSubnets)
    (hn : n ∈ pools.candidateSubnets) (h : m.overlaps n = true) : m = n := by
  obtain ⟨a, ham, han⟩ := Ip.overlaps_iff.mp h
  obtain ⟨hmv, hml, -⟩ := Ip.mem_subnets (Nat.le_of_lt pools.segment_longer) hm
  obtain ⟨hnv, hnl, -⟩ := Ip.mem_subnets (Nat.le_of_lt pools.segment_longer) hn
  have hsize : m.size = n.size := by rw [Ip.Network.size, Ip.Network.size, hmv, hml, hnv, hnl]
  obtain ⟨-, hbase⟩ := Ip.mem_def.mp ham
  obtain ⟨-, hbase'⟩ := Ip.mem_def.mp han
  exact Ip.Network.ext (hmv.trans hnv.symm) (hbase.symm.trans (hsize ▸ hbase')) (hml.trans hnl.symm)

omit [Unicode] in
theorem nodup_candidateSubnets (pools : IpamPools) : pools.candidateSubnets.Nodup := by
  have hle := Nat.le_of_lt pools.segment_longer
  refine List.nodup_iff_injective_getElem.mpr fun i j hij => ?_
  obtain ⟨-, -, -, hi⟩ := Ip.getElem?_subnets hle (List.getElem?_eq_getElem i.isLt)
  obtain ⟨-, -, -, hj⟩ := Ip.getElem?_subnets hle (List.getElem?_eq_getElem j.isLt)
  have hbase := hi.symm.trans ((congrArg Ip.Network.base hij).trans hj)
  have hstep : 0 < 2 ^ (pools.network.version.bits - pools.segmentPrefix) := Nat.two_pow_pos _
  exact Fin.ext (Nat.eq_of_mul_eq_mul_right hstep (Nat.add_left_cancel hbase))

omit [Unicode] in
theorem exists_chooseSubnet {observation : TargetObservation} {inUse : List Str}
    (hparse : ∀ cidr ∈ inUse, (Ip.ipNetwork false cidr).isSome = true)
    (hheld : ∀ a ∈ ledger.records, a.kind = .subnet → ∃ n ∈ pools.candidateSubnets, a.value = n.text)
    (hroom : (ledger.records.filter fun a => a.kind = .subnet).length <
      (pools.candidateSubnets.filter fun n => !(observation.networksInUse inUse).any n.overlaps).length) :
    ∃ n, chooseSubnet scope purpose pools inUse observation.identity.managementCidrs ledger = .ok n := by
  have hread : ∀ (strict : Bool) (cidrs : List Str),
      (∀ cidr ∈ cidrs, (Ip.ipNetwork strict cidr).isSome = true) →
        cidrs.mapM (fun cidr => orValueError (Ip.ipNetwork strict cidr)) =
          .ok (cidrs.filterMap (Ip.ipNetwork strict)) := by
    intro strict cidrs hall
    induction cidrs with
    | nil => rfl
    | cons cidr rest ih =>
        obtain ⟨hfirst, hrest⟩ := List.forall_mem_cons.mp hall
        obtain ⟨n, hn⟩ := Option.isSome_iff_exists.mp hfirst
        rw [List.mapM_cons, hn, ih hrest, List.filterMap_cons, hn]
        rfl
  have hreserved : ∀ cidr ∈ ledger.reserved .subnet, ∃ n ∈ pools.candidateSubnets, cidr = n.text := by
    intro cidr hcidr
    obtain ⟨a, ha, hkind, rfl⟩ := mem_reserved.mp hcidr
    exact hheld a ha hkind
  have hblocked : blockedNetworks inUse observation.identity.managementCidrs ledger =
      .ok (observation.networksInUse inUse ++ (ledger.reserved .subnet).filterMap (Ip.ipNetwork true)) := by
    unfold blockedNetworks
    rw [hread false inUse hparse, except_bind_of_ok rfl,
      hread true _ observation.identity.managementCidrs_valid, except_bind_of_ok rfl, hread true _ ?_]
    · rfl
    · intro cidr hcidr
      obtain ⟨n, hn, rfl⟩ := hreserved cidr hcidr
      rw [Ip.ipNetwork_text true (candidateSubnets_v4 hn)]
      rfl
  have hfew := length_reserved_le ledger .subnet
  have hlength := List.length_filterMap_le (Ip.ipNetwork true) (ledger.reserved .subnet)
  obtain ⟨n, hn, hfresh⟩ : ∃ n ∈ pools.candidateSubnets.filter fun n =>
      !(observation.networksInUse inUse).any n.overlaps,
      n ∉ (ledger.reserved .subnet).filterMap (Ip.ipNetwork true) :=
    exists_not_mem_of_length_lt ((nodup_candidateSubnets pools).filter _) (by omega)
  obtain ⟨hpool, hunused⟩ := List.mem_filter.mp hn
  have hfree : (!(observation.networksInUse inUse ++
      (ledger.reserved .subnet).filterMap (Ip.ipNetwork true)).any n.overlaps) = true := by
    rw [List.any_append, Bool.not_or, hunused, Bool.true_and, Bool.not_eq_true', List.any_eq_false]
    intro m hm hoverlap
    obtain ⟨cidr, hcidr, hread⟩ := List.mem_filterMap.mp hm
    obtain ⟨k, hk, rfl⟩ := hreserved cidr hcidr
    rw [Ip.ipNetwork_text true (candidateSubnets_v4 hk)] at hread
    obtain rfl : k = m := Option.some.inj hread
    exact hfresh (candidate_eq_of_overlaps hpool hk hoverlap ▸ hm)
  unfold chooseSubnet
  rw [except_bind_of_ok hblocked]
  dsimp only
  rw [if_neg (by
    have hlength := List.length_pos_of_mem hpool
    omega)]
  obtain ⟨m, hm⟩ : ∃ m, walkList pools.candidateSubnets (fun n => !(observation.networksInUse inUse ++
      (ledger.reserved .subnet).filterMap (Ip.ipNetwork true)).any n.overlaps)
      (digestOffset scope purpose AllocationKind.subnet.value % pools.candidateSubnets.length) = some m :=
    exists_walkList hpool hfree _
  rw [hm]
  exact ⟨m, rfl⟩

/-! ## Nothing missing -/

/-- A computation that does not end for want of an observation. -/
def Informed {α : Type} (c : Except Raised α) : Prop := ∀ prerequisite, c ≠ .error (.blocked prerequisite)

section
variable {α β : Type}

omit [Unicode] in
theorem Informed.ok (a : α) : Informed (.ok a : Except Raised α) := fun _ h => by cases h

omit [Unicode] in
theorem Informed.orValueError (o : Option α) : Informed (orValueError o) := by
  cases o <;> intro _ h <;> cases h

omit [Unicode] in
theorem Informed.bind {c : Except Raised α} {f : α → Except Raised β} (hc : Informed c)
    (hf : ∀ a, Informed (f a)) : Informed (c >>= f) := by
  cases c with
  | ok a => exact hf a
  | error e =>
      intro prerequisite h
      refine hc prerequisite (congrArg Except.error ?_)
      exact Except.error.inj (show (.error e : Except Raised β) = _ from h)

omit [Unicode] in
theorem Informed.mapM {f : α → Except Raised β} (hf : ∀ a, Informed (f a)) (xs : List α) :
    Informed (xs.mapM f) := by
  induction xs with
  | nil => exact Informed.ok []
  | cons x xs ih =>
      rw [List.mapM_cons]
      exact (hf x).bind fun y => ih.bind fun ys => Informed.ok (y :: ys)

/-- Only the observation an allocator is given can be missing. -/
theorem informed_allocate {kind : AllocationKind} {read : Str → Except Raised α}
    {choose : AllocationLedger → Except Raised α} {text : α → Str} (hread : ∀ value, Informed (read value))
    (hchoose : Informed (choose ledger)) :
    Informed (allocate scope kind purpose read choose text ledger) := by
  have hrecord : ∀ a, Informed (ledger.record a) := by
    intro a prerequisite
    unfold AllocationLedger.record
    split
    · simp
    · split <;> simp
  unfold allocate
  split
  · exact (hread _).bind fun value => Informed.ok (value, ledger)
  · exact hchoose.bind fun value => (hrecord _).bind fun ledger' => Informed.ok (value, ledger')

omit [Unicode] in
theorem informed_chooseSubnet {inUse management : List Str} :
    Informed (chooseSubnet scope purpose pools inUse management ledger) := by
  have hread : ∀ (strict : Bool) (cidrs : List Str),
      Informed (cidrs.mapM fun cidr => Proxmox.orValueError (Ip.ipNetwork strict cidr)) :=
    fun strict cidrs => .mapM (fun cidr => .orValueError _) cidrs
  have hblocked : Informed (blockedNetworks inUse management ledger) := by
    refine (hread false inUse).bind fun used => (hread true management).bind fun kept => ?_
    exact (hread true _).bind fun held => Informed.ok _
  refine hblocked.bind fun blocked prerequisite => ?_
  dsimp only
  split
  · simp
  · split <;> simp

end

/-! ## What a compilation has drawn -/

/-- A ledger that took at most one record of a kind. -/
def AddsOne (kind : AllocationKind) (ledger ledger' : AllocationLedger) : Prop :=
  ledger' = ledger ∨ ∃ a hkey, a.kind = kind ∧ ledger' = ledger.insert a hkey

section
variable {α : Type} {kind : AllocationKind} {read : Str → Except Raised α}
  {choose : AllocationLedger → Except Raised α} {text : α → Str} {ledger' : AllocationLedger}

theorem allocate_adds {value : α}
    (h : allocate scope kind purpose read choose text ledger = .ok (value, ledger')) :
    AddsOne kind ledger ledger' := by
  rcases allocate_eq_ok_iff.mp h with h | h
  · obtain ⟨a, -, -, hsame⟩ := h
    exact .inl hsame
  · obtain ⟨hnew, -, -, hinsert⟩ := h
    exact .inr ⟨⟨kind, scope, purpose, text value⟩, hnew, rfl, hinsert⟩

/-- An allocation from an open ledger succeeds when what is recorded can be read, and otherwise a value
can be chosen. -/
theorem exists_allocate (hopen : ledger.isSealed = false)
    (hread : ∀ a, ledger.get scope kind purpose = some a → ∃ value, read a.value = .ok value)
    (hchoose : ledger.get scope kind purpose = none → ∃ value, choose ledger = .ok value) :
    ∃ value ledger', allocate scope kind purpose read choose text ledger = .ok (value, ledger') := by
  cases hget : ledger.get scope kind purpose with
  | some a =>
      obtain ⟨value, hvalue⟩ := hread a hget
      exact ⟨value, ledger, allocate_eq_ok_iff.mpr (.inl ⟨a, hget, hvalue, rfl⟩)⟩
  | none =>
      obtain ⟨value, hvalue⟩ := hchoose hget
      have hnew := get_eq_none_iff.mp hget
      exact ⟨value, _, allocate_eq_ok_iff.mpr (.inr ⟨hnew, hvalue, hopen, rfl⟩)⟩

end

/-- An open ledger with at most so many VLAN tags and subnets, each of its pool, and no address but the
first host of a recorded subnet, kept under that subnet's purpose. -/
structure Roomy (pools : IpamPools) (tags nets : Nat) (ledger : AllocationLedger) : Prop where
  unsealed : ledger.isSealed = false
  tags : (ledger.records.filter fun a => a.kind = .vlanTag).length ≤ tags
  tagged : ∀ a ∈ ledger.records, a.kind = .vlanTag →
    ∃ tag, (pools.vlanMin ≤ tag ∧ tag ≤ pools.vlanMax) ∧ a.value = intStr tag
  nets : (ledger.records.filter fun a => a.kind = .subnet).length ≤ nets
  netted : ∀ a ∈ ledger.records, a.kind = .subnet → ∃ n ∈ pools.candidateSubnets, a.value = n.text
  gateways : ∀ a ∈ ledger.records, a.kind = .guestAddress ∨ a.kind = .gatewayAddress →
    a.kind = .gatewayAddress ∧ ∃ n ∈ pools.candidateSubnets, ∃ purpose,
      ⟨.subnet, a.scope, purpose, n.text⟩ ∈ ledger.records ∧ a.purpose = purpose ++ str "/gateway" ∧
        a.value = n.firstHost.text

omit [Unicode] in
theorem Roomy.empty (pools : IpamPools) : Roomy pools 0 0 AllocationLedger.empty where
  unsealed := rfl
  tags := Nat.le_refl 0
  tagged := fun _ ha => (List.not_mem_nil ha).elim
  nets := Nat.le_refl 0
  netted := fun _ ha => (List.not_mem_nil ha).elim
  gateways := fun _ ha => (List.not_mem_nil ha).elim

section
variable {tags nets : Nat} {ledger' : AllocationLedger}

omit [Unicode] in
theorem Roomy.mono (h : Roomy pools tags nets ledger) {tags' nets' : Nat} (htags : tags ≤ tags')
    (hnets : nets ≤ nets') : Roomy pools tags' nets' ledger :=
  ⟨h.unsealed, h.tags.trans htags, h.tagged, h.nets.trans hnets, h.netted, h.gateways⟩

omit [Unicode] in
theorem length_filter_insert (ledger : AllocationLedger) (a : Allocation)
    (hkey : a.key ∉ ledger.records.map Allocation.key) (kind : AllocationKind) :
    ((ledger.insert a hkey).records.filter fun b => b.kind = kind).length =
      (ledger.records.filter fun b => b.kind = kind).length + if a.kind = kind then 1 else 0 := by
  show ((ledger.records ++ [a]).filter _).length = _
  rw [List.filter_append, List.length_append, List.filter_singleton]
  by_cases h : a.kind = kind
  · rw [decide_eq_true h, if_pos h]
    rfl
  · rw [decide_eq_false h, if_neg h]
    rfl

omit [Unicode] in
/-- What a new record has to be, by its kind, for the ledger to stay in order. -/
theorem Roomy.insert (h : Roomy pools tags nets ledger) {a : Allocation}
    (hkey : a.key ∉ ledger.records.map Allocation.key)
    (htag : a.kind = .vlanTag →
      ∃ tag, (pools.vlanMin ≤ tag ∧ tag ≤ pools.vlanMax) ∧ a.value = intStr tag)
    (hnet : a.kind = .subnet → ∃ n ∈ pools.candidateSubnets, a.value = n.text)
    (haddress : a.kind = .guestAddress ∨ a.kind = .gatewayAddress →
      a.kind = .gatewayAddress ∧ ∃ n ∈ pools.candidateSubnets, ∃ purpose,
        ⟨.subnet, a.scope, purpose, n.text⟩ ∈ ledger.records ∧ a.purpose = purpose ++ str "/gateway" ∧
          a.value = n.firstHost.text) :
    Roomy pools (tags + if a.kind = .vlanTag then 1 else 0) (nets + if a.kind = .subnet then 1 else 0)
      (ledger.insert a hkey) := by
  have hmem : ∀ {b}, b ∈ (ledger.insert a hkey).records → b ∈ ledger.records ∨ b = a := by
    intro b hb
    rcases List.mem_append.mp hb with hb | hb
    · exact .inl hb
    · exact .inr (List.mem_singleton.mp hb)
  refine ⟨h.unsealed, ?_, fun b hb hkind => ?_, ?_, fun b hb hkind => ?_, fun b hb hkind => ?_⟩
  · rw [length_filter_insert]
    exact Nat.add_le_add_right h.tags _
  · rcases hmem hb with hb | rfl
    · exact h.tagged b hb hkind
    · exact htag hkind
  · rw [length_filter_insert]
    exact Nat.add_le_add_right h.nets _
  · rcases hmem hb with hb | rfl
    · exact h.netted b hb hkind
    · exact hnet hkind
  · have hfound : b.kind = .gatewayAddress ∧ ∃ n ∈ pools.candidateSubnets, ∃ purpose,
        ⟨.subnet, b.scope, purpose, n.text⟩ ∈ ledger.records ∧ b.purpose = purpose ++ str "/gateway" ∧
          b.value = n.firstHost.text := by
      rcases hmem hb with hb | rfl
      · exact h.gateways b hb hkind
      · exact haddress hkind
    obtain ⟨hgateway, n, hn, purpose, hsubnet, hrest⟩ := hfound
    exact ⟨hgateway, n, hn, purpose, List.mem_append_left _ hsubnet, hrest⟩

omit [Unicode] in
/-- A record of a kind that is neither counted nor an address. -/
theorem Roomy.adds {kind : AllocationKind} (h : Roomy pools tags nets ledger)
    (hadds : AddsOne kind ledger ledger')
    (hkind : kind ≠ .vlanTag ∧ kind ≠ .subnet ∧ kind ≠ .guestAddress ∧ kind ≠ .gatewayAddress) :
    Roomy pools tags nets ledger' := by
  obtain ⟨htag, hnet, hguest, hgateway⟩ := hkind
  rcases hadds with rfl | hinsert
  · exact h
  · obtain ⟨a, hkey, rfl, rfl⟩ := hinsert
    have hroomy := h.insert hkey (fun heq => absurd heq htag) (fun heq => absurd heq hnet)
      fun heq => (heq.elim hguest hgateway).elim
    rwa [if_neg htag, if_neg hnet] at hroomy

variable {ownership : Ownership} {field reason : Str}

/-- A VLAN tag can be drawn while the pool has more free tags than were drawn. -/
theorem Roomy.exists_vlan (h : Roomy pools tags nets ledger) (hsound : Sound ledger) {inUse : List Int}
    (hroom : tags < (pools.vlanTags.filter fun tag => tag ∉ inUse).length) :
    ∃ tag ledger', allocateInt ownership .vlanTag purpose pools.vlanMin pools.vlanMax (some inUse)
      field reason ledger = .ok (tag, ledger') := by
  rw [allocateInt_some]
  refine exists_allocate h.unsealed (fun a hget => ?_) fun _ => ?_
  · obtain ⟨tag, -, hvalue⟩ := h.tagged _ (mem_of_get hget) rfl
    exact ⟨tag, orValueError_eq_ok.mpr (by
      show intOf a.value = some tag
      rw [show a.value = intStr tag from hvalue, int_of_text_of_int])⟩
  · exact exists_chooseInt hsound (Nat.lt_of_le_of_lt h.tags hroom)

theorem Roomy.of_vlan (h : Roomy pools tags nets ledger) {inUse : List Int} {tag : Int}
    (hdrawn : allocateInt ownership .vlanTag purpose pools.vlanMin pools.vlanMax (some inUse) field
      reason ledger = .ok (tag, ledger')) :
    Roomy pools (tags + 1) nets ledger' ∧ pools.vlanMin ≤ tag ∧ tag ≤ pools.vlanMax := by
  rw [allocateInt_some] at hdrawn
  rcases allocate_eq_ok_iff.mp hdrawn with hold | hnew
  · obtain ⟨a, hget, hread, rfl⟩ := hold
    obtain ⟨drawn, hbounds, hvalue⟩ := h.tagged _ (mem_of_get hget) rfl
    have hread : intOf a.value = some tag := orValueError_eq_ok.mp hread
    rw [show a.value = intStr drawn from hvalue, int_of_text_of_int] at hread
    obtain rfl := Option.some.inj hread
    exact ⟨h.mono (Nat.le_succ _) (Nat.le_refl _), hbounds⟩
  · obtain ⟨hkey, hchosen, -, rfl⟩ := hnew
    obtain ⟨hlow, hhigh, -⟩ := chooseInt_sound hchosen
    exact ⟨h.insert (a := ⟨.vlanTag, ownership.scopeKey, purpose, intStr tag⟩) hkey
      (fun _ => ⟨tag, ⟨hlow, hhigh⟩, rfl⟩) (fun heq => by cases heq)
      (fun heq => by rcases heq with heq | heq <;> cases heq), hlow, hhigh⟩

/-- A subnet can be drawn while the pool has more free subnets than were drawn. -/
theorem Roomy.exists_subnet (h : Roomy pools tags nets ledger) {observation : TargetObservation}
    {inUse : List Str} (hparse : ∀ cidr ∈ inUse, (Ip.ipNetwork false cidr).isSome = true)
    (hroom : nets < (pools.candidateSubnets.filter fun n =>
      !(observation.networksInUse inUse).any n.overlaps).length) :
    ∃ n ledger', allocateSubnet ownership purpose pools (some inUse) observation.identity.managementCidrs
      ledger = .ok (n, ledger') := by
  rw [allocateSubnet_some]
  refine exists_allocate h.unsealed (fun a hget => ?_) fun _ => ?_
  · obtain ⟨n, hn, hvalue⟩ := h.netted _ (mem_of_get hget) rfl
    exact ⟨n, orValueError_eq_ok.mpr (by
      show Ip.ipNetwork true a.value = some n
      rw [show a.value = n.text from hvalue, Ip.ipNetwork_text true (candidateSubnets_v4 hn)])⟩
  · exact exists_chooseSubnet hparse h.netted (Nat.lt_of_le_of_lt h.nets hroom)

theorem Roomy.of_subnet (h : Roomy pools tags nets ledger) {inUse management : List Str}
    {n : Ip.Network}
    (hdrawn : allocateSubnet ownership purpose pools (some inUse) management ledger =
      .ok (n, ledger')) :
    Roomy pools tags (nets + 1) ledger' ∧ n ∈ pools.candidateSubnets ∧
      ⟨.subnet, ownership.scopeKey, purpose, n.text⟩ ∈ ledger'.records := by
  rw [allocateSubnet_some] at hdrawn
  rcases allocate_eq_ok_iff.mp hdrawn with hold | hnew
  · obtain ⟨a, hget, hread, rfl⟩ := hold
    have hmem := mem_of_get hget
    obtain ⟨m, hm, hvalue⟩ := h.netted _ hmem rfl
    have hread : Ip.ipNetwork true a.value = some n := orValueError_eq_ok.mp hread
    have hvalue : a.value = m.text := hvalue
    rw [hvalue, Ip.ipNetwork_text true (candidateSubnets_v4 hm)] at hread
    obtain rfl := Option.some.inj hread
    rw [hvalue] at hmem
    exact ⟨h.mono (Nat.le_refl _) (Nat.le_succ _), hm, hmem⟩
  · obtain ⟨hkey, hchosen, -, rfl⟩ := hnew
    have hn := (chooseSubnet_sound hchosen).1
    exact ⟨h.insert (a := ⟨.subnet, ownership.scopeKey, purpose, n.text⟩) hkey
      (fun heq => by cases heq) (fun _ => ⟨n, hn, rfl⟩)
      (fun heq => by rcases heq with heq | heq <;> cases heq), hn,
      List.mem_append_right _ List.mem_cons_self⟩

/-! ## Gateways -/

omit [Unicode] in
theorem firstHost_v4 {n : Ip.Network} (h : n ∈ pools.candidateSubnets) : n.firstHost.version = .v4 :=
  (Ip.mem_def.mp (Ip.firstHost_mem n)).1.trans (candidateSubnets_v4 h)

omit [Unicode] in
/-- The gateway kept under a purpose is the first host of the subnet recorded under that purpose. -/
theorem Roomy.gateway_eq (h : Roomy pools tags nets ledger) {n : Ip.Network}
    (hn : n ∈ pools.candidateSubnets)
    (hsubnet : ⟨.subnet, scope, purpose, n.text⟩ ∈ ledger.records) {a : Allocation}
    (hget : ledger.get scope .gatewayAddress (purpose ++ str "/gateway") = some a) :
    a.value = n.firstHost.text := by
  obtain ⟨-, m, hm, purpose', hsubnet', hpurpose, hvalue⟩ := h.gateways _ (mem_of_get hget) (.inr rfl)
  have hpurpose : purpose = purpose' := List.append_cancel_right hpurpose
  subst hpurpose
  have hsame : (⟨.subnet, scope, purpose, n.text⟩ : Allocation) = ⟨.subnet, scope, purpose, m.text⟩ :=
    List.inj_on_of_nodup_map ledger.keys_nodup hsubnet hsubnet' rfl
  injection hsame with _ _ _ htext
  have hread := Ip.ipNetwork_text true (candidateSubnets_v4 hm)
  rw [← htext, Ip.ipNetwork_text true (candidateSubnets_v4 hn)] at hread
  rw [show a.value = m.firstHost.text from hvalue, Option.some.inj hread]

/-- The first host of a recorded subnet is held by no other purpose. -/
theorem Roomy.firstHost_free (h : Roomy pools tags nets ledger) (hsound : Sound ledger) {n : Ip.Network}
    (hn : n ∈ pools.candidateSubnets)
    (hsubnet : ⟨.subnet, scope, purpose, n.text⟩ ∈ ledger.records)
    (hget : ledger.get scope .gatewayAddress (purpose ++ str "/gateway") = none) :
    n.firstHost.text ∉ ledger.heldAddresses := by
  intro hheld
  obtain ⟨a, ha, hkind, htext⟩ := mem_heldAddresses.mp hheld
  obtain ⟨hgateway, m, hm, purpose', hsubnet', hpurpose, hvalue⟩ := h.gateways a ha hkind
  have hhost : n.firstHost = m.firstHost :=
    Ip.text_injective (firstHost_v4 hn)
      (firstHost_v4 hm) (htext.symm.trans hvalue)
  -- two recorded subnets with a common address are one record
  have hsame : (⟨.subnet, scope, purpose, n.text⟩ : Allocation) =
      ⟨.subnet, a.scope, purpose', m.text⟩ := by
    by_contra hne
    refine hsound.not_conflicts hsubnet hsubnet' hne ⟨rfl, n, m,
      Ip.ipNetwork_text true (candidateSubnets_v4 hn), Ip.ipNetwork_text true (candidateSubnets_v4 hm), ?_⟩
    exact Ip.overlaps_iff.mpr ⟨n.firstHost, Ip.firstHost_mem n, hhost ▸ Ip.firstHost_mem m⟩
  injection hsame with _ hscope hpurpose' _
  refine get_eq_none_iff.mp hget (List.mem_map.mpr ⟨a, ha, ?_⟩)
  rw [Allocation.key, hgateway, hpurpose, hscope, hpurpose']

theorem Roomy.exists_gateway (h : Roomy pools tags nets ledger) (hsound : Sound ledger)
    {n : Ip.Network} (hn : n ∈ pools.candidateSubnets)
    (hsubnet : ⟨.subnet, ownership.scopeKey, purpose, n.text⟩ ∈ ledger.records) :
    ∃ x ledger', allocateAddress ownership (purpose ++ str "/gateway") n .gatewayAddress (some 0) ledger =
      .ok (x, ledger') := by
  refine exists_allocate h.unsealed (fun a hget => ?_) fun hget => ⟨n.firstHost, ?_⟩
  · rw [h.gateway_eq hn hsubnet hget]
    exact ⟨n.firstHost, orValueError_eq_ok.mpr (Ip.ipAddress_text (firstHost_v4 hn))⟩
  · have hfirst : n.hosts[0]? = some n.firstHost := by
      rw [← List.head?_eq_getElem?]
      exact Ip.head?_hosts n
    have hlength : 0 < n.hosts.length := (List.getElem?_eq_some_iff.mp hfirst).1
    have hindex : indexHost n.hosts 0 = some n.firstHost := hfirst
    unfold chooseAddress
    dsimp only
    rw [if_neg (by simpa using List.length_pos_iff.mp hlength), if_neg (by omega), hindex]
    exact if_neg (h.firstHost_free hsound hn hsubnet hget)

theorem Roomy.of_gateway (h : Roomy pools tags nets ledger) {n : Ip.Network}
    (hn : n ∈ pools.candidateSubnets)
    (hsubnet : ⟨.subnet, ownership.scopeKey, purpose, n.text⟩ ∈ ledger.records) {x : Ip.Address}
    (hdrawn : allocateAddress ownership (purpose ++ str "/gateway") n .gatewayAddress (some 0) ledger =
      .ok (x, ledger')) : Roomy pools tags nets ledger' ∧ x = n.firstHost := by
  rcases allocate_eq_ok_iff.mp hdrawn with hold | hnew
  · obtain ⟨a, hget, hread, rfl⟩ := hold
    have hread : Ip.ipAddress a.value = some x := orValueError_eq_ok.mp hread
    rw [h.gateway_eq hn hsubnet hget, Ip.ipAddress_text (firstHost_v4 hn)] at hread
    exact ⟨h, (Option.some.inj hread).symm⟩
  · obtain ⟨hkey, hchosen, -, rfl⟩ := hnew
    have hfirst : x = n.firstHost := by
      have hhead := Ip.head?_hosts n
      unfold chooseAddress at hchosen
      dsimp only at hchosen
      split at hchosen
      · cases hchosen
      · split at hchosen
        · cases hchosen
        · split at hchosen
          · cases hchosen
          · next chosen hindex =>
              split at hchosen
              · cases hchosen
              · obtain rfl := Except.ok.inj hchosen
                rw [indexHost, if_pos (by decide)] at hindex
                rw [List.head?_eq_getElem?] at hhead
                exact Option.some.inj (hindex.symm.trans hhead)
    subst hfirst
    exact ⟨h.insert (a := ⟨.gatewayAddress, ownership.scopeKey, purpose ++ str "/gateway",
      n.firstHost.text⟩) hkey (fun heq => by cases heq) (fun heq => by cases heq)
      fun _ => ⟨rfl, n, hn, purpose, hsubnet, rfl, rfl⟩, rfl⟩

end

end

end Secp.Proxmox
