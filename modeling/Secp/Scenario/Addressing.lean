import Secp.Scenario.Reconcilable

/-!
# Addresses of the simulator

What a plan hands out as addresses: one `/24` a network and team, carved from the base of the network,
and one host a node, numbered through the roles. The bases are not compared with each other, the hosts
are not counted against the network, and a base of one address is not carved at all. `addressed_iff` says
which definitions are addressed consistently in spite of this. That the teams are kept apart needs no
condition.
-/

namespace Secp.Scenario

open Secp.Python Secp.Logic

/-! ## Consistent addresses -/

/-- Two ranges have no address in common. -/
def CidrsApart (cidr cidr' : Str) : Prop :=
  ∃ m n, Ip.ipNetwork true cidr = some m ∧ Ip.ipNetwork true cidr' = some n ∧ m.overlaps n = false

/-- An address a host of the range can have. -/
def HostOf (cidr ip : Str) : Prop :=
  ∃ n a, Ip.ipNetwork true cidr = some n ∧ Ip.ipAddress ip = some a ∧ a ∈ n ∧
    a ≠ n.networkAddress ∧ a ≠ n.broadcastAddress

/-- The network a node is on, as the loop over the roles looks it up. -/
def InstanceTopology.networkOf (topology : InstanceTopology) (node : TopologyNode) :
    Option TopologyNetwork :=
  (Dict.ofPairs (topology.networks.map fun n => (n.ref, n))).get? node.networkRef

structure InstanceTopology.Addressed (topology : InstanceTopology) : Prop where
  networks : topology.networks.Pairwise fun m n => CidrsApart m.cidr n.cidr
  hosts : ∀ node ∈ topology.nodes, ∃ network, topology.networkOf node = some network ∧
    HostOf network.cidr node.ipAddress
  distinct : topology.nodes.Pairwise fun a b => a.networkRef = b.networkRef → a.ipAddress ≠ b.ipAddress

/-- The instances are each addressed, and their per-team networks are apart. -/
structure Addressed (instances : List InstancePlan) : Prop where
  each : ∀ planned ∈ instances, planned.desired.Addressed
  teams : instances.Pairwise fun planned planned' => ∀ m ∈ planned.desired.networks,
    ∀ n ∈ planned'.desired.networks, m.teamRef.isSome = true → n.teamRef.isSome = true →
      CidrsApart m.cidr n.cidr

/-! ## What a definition needs -/

/-- The base a network is carved from. -/
def Network.base (network : Network) : Option Ip.Network :=
  Ip.ipNetwork false (if (network.baseCidr.getD []).isEmpty then defaultBaseCidr
    else network.baseCidr.getD [])

/-- How many `/24` of the base are passed over for a team. -/
def Network.passed (network : Network) (teamIndex : Int) : Nat :=
  match network.cidrStrategy with
  | .shared => 0
  | .perTeam => teamIndex.toNat

/-- The parts of two bases are apart: single addresses that differ, or parts of `/24` that do. -/
def PartsApart (base base' : Ip.Network) (passed passed' : Nat) : Prop :=
  if base.prefixlen = 32 ∧ base'.prefixlen = 32 then base.base ≠ base'.base
  else base.base / 256 + passed ≠ base'.base / 256 + passed'

/-- The nodes of all roles on a network. -/
def Spec.nodesOn (spec : Spec) (name : Str) : Nat :=
  (spec.roles.map fun role => if role.network = name then role.count else 0).sum

/-- What the addresses of one team need of the definition. -/
structure Spec.Roomy (spec : Spec) (teamIndex : Int) : Prop where
  networks : spec.networks.Pairwise fun m n => ∀ base ∈ m.base, ∀ base' ∈ n.base,
    PartsApart base base' (m.passed teamIndex) (n.passed teamIndex)
  hosts : ∀ role ∈ spec.roles, spec.nodesOn role.network ≤ 245 ∧
    ∀ network, (Dict.ofPairs (spec.networks.map fun n => (n.name, n))).get? role.network = some network →
      ∀ base ∈ network.base, base.prefixlen ≠ 32

/-! ## Parts of a base -/

/-- What a network is given: its base when that is a single address, or the `/24` of the base at the
given place. -/
structure Carved (base : Ip.Network) (passed : Nat) (part : Ip.Network) : Prop where
  version : base.version = .v4
  part : base.prefixlen = 32 ∧ passed = 0 ∧ part = base ∨
    base.prefixlen ≤ 24 ∧ passed < 2 ^ (24 - base.prefixlen) ∧ part.version = .v4 ∧
      part.prefixlen = 24 ∧ part.base = base.base + 256 * passed

section
variable {base base' part part' : Ip.Network} {passed passed' : Nat}

theorem Carved.part_version (h : Carved base passed part) : part.version = .v4 := by
  rcases h.part with ⟨-, -, rfl⟩ | ⟨-, -, hversion, -⟩
  · exact h.version
  · exact hversion

/-- A base that has a `/24` starts at one. -/
theorem Carved.base_aligned (h : Carved base passed part) (hlen : base.prefixlen ≤ 24) :
    2 ^ (24 - base.prefixlen) ∣ base.base / 256 ∧ base.base = 256 * (base.base / 256) := by
  have hbits : base.version.bits - base.prefixlen = 8 + (24 - base.prefixlen) := by
    rw [h.version]
    show 32 - base.prefixlen = _
    omega
  have haligned := Nat.dvd_of_mod_eq_zero base.aligned
  rw [hbits, Nat.pow_add, show 2 ^ 8 = 256 from rfl] at haligned
  obtain ⟨k, hk⟩ := haligned
  have hquot : base.base / 256 = 2 ^ (24 - base.prefixlen) * k := by
    rw [hk, Nat.mul_assoc, Nat.mul_div_cancel_left _ (by decide)]
  exact ⟨⟨k, hquot⟩, by rw [hquot, hk, Nat.mul_assoc]⟩

/-- The size of a part, and the number of the `/24` it lies in. -/
theorem Carved.place (h : Carved base passed part) :
    part.base / 256 = base.base / 256 + passed ∧
      (base.prefixlen = 32 ∧ part.size = 1 ∧ part.base = base.base ∨
        base.prefixlen ≤ 24 ∧ part.size = 256 ∧ part.base % 256 = 0) := by
  rcases h.part with ⟨hlen, rfl, rfl⟩ | ⟨hlen, -, hversion, hpart, hbase⟩
  · have hsize : part.size = 1 := by
      rw [Ip.Network.size, h.version, hlen]
      rfl
    exact ⟨rfl, .inl ⟨hlen, hsize, rfl⟩⟩
  · have hsize : part.size = 256 := by
      rw [Ip.Network.size, hversion, hpart]
      rfl
    obtain ⟨-, haligned⟩ := h.base_aligned hlen
    exact ⟨by omega, .inr ⟨hlen, hsize, by omega⟩⟩

theorem Carved.apart_iff (h : Carved base passed part) (h' : Carved base' passed' part') :
    part.overlaps part' = false ↔ PartsApart base base' passed passed' := by
  rw [Ip.overlaps_eq_false_iff (h.part_version.trans h'.part_version.symm)]
  obtain ⟨hplace, hpart⟩ := h.place
  obtain ⟨hplace', hpart'⟩ := h'.place
  unfold PartsApart
  split
  · next hsingle => omega
  · next hsingle => omega

/-- Two bases that both have a part for each of two teams never give the two teams the same. -/
theorem Carved.teams_apart {other other' : Ip.Network} (hne : passed ≠ passed')
    (h : Carved base passed part) (hother : Carved base passed' other)
    (h' : Carved base' passed' part') (hother' : Carved base' passed other') :
    part.overlaps part' = false := by
  refine (h.apart_iff h').mpr ?_
  have hwide : ∀ {b p q : Ip.Network}, Carved b passed p → Carved b passed' q →
      b.prefixlen ≤ 24 ∧ passed < 2 ^ (24 - b.prefixlen) ∧ passed' < 2 ^ (24 - b.prefixlen) := by
    intro b p q hp hq
    rcases hp.part with ⟨hlen, hzero, -⟩ | ⟨hlen, hlt, -⟩
    · rcases hq.part with ⟨-, hzero', -⟩ | ⟨hlen', -⟩
      · exact absurd (hzero.trans hzero'.symm) hne
      · omega
    · rcases hq.part with ⟨hlen', -⟩ | ⟨-, hlt', -⟩
      · omega
      · exact ⟨hlen, hlt, hlt'⟩
  obtain ⟨hlen, hlt, hlt'⟩ := hwide h hother
  obtain ⟨hlen', hltb, hltb'⟩ := hwide hother' h'
  rw [PartsApart, if_neg (by omega)]
  obtain ⟨haligned, -⟩ := h.base_aligned hlen
  obtain ⟨haligned', -⟩ := h'.base_aligned hlen'
  -- both bases start at a multiple of the smaller of the two counts
  have hmod : ∀ d, d ∣ base.base / 256 → d ∣ base'.base / 256 → passed < d → passed' < d →
      base.base / 256 + passed ≠ base'.base / 256 + passed' := by
    intro d hd hd' hp hp' heq
    obtain ⟨i, hi⟩ := hd
    obtain ⟨j, hj⟩ := hd'
    have hrest := congrArg (· % d) heq
    simp only [hi, hj, Nat.mul_add_mod, Nat.mod_eq_of_lt hp, Nat.mod_eq_of_lt hp'] at hrest
    exact hne hrest
  rcases Nat.le_total base.prefixlen base'.prefixlen with hle | hle
  · exact hmod _ (Nat.dvd_trans (Nat.pow_dvd_pow 2 (by omega)) haligned) haligned' hltb hltb'
  · exact hmod _ haligned (Nat.dvd_trans (Nat.pow_dvd_pow 2 (by omega)) haligned') hlt hlt'

end

/-! ## What a plan hands out -/

section
variable [Unicode] {network : Network}

/-- A base an accepted network names is a version 4 network. -/
theorem version_of_accepted (h : network.accepted = true) {base : Ip.Network}
    (hbase : network.base = some base) : base.version = .v4 := by
  refine Ip.version_of_not_mem_colon ?_ hbase
  split
  · with_unfolding_all decide
  · next hgiven =>
      cases hcidr : network.baseCidr with
      | none => simp [hcidr] at hgiven
      | some cidr =>
          show ':' ∉ cidr
          have hmatch := (Bool.and_eq_true_iff.mp h).2
          rw [hcidr] at hmatch
          have hcolon : ∀ s : Str, baseCidrRe.fullmatch s = true → ':' ∉ s := by
            intro s hs hmem
            have hallows : baseCidrRe.allows ':' = true :=
              (Re.takes_of_fullmatch hs).allows hmem
            revert hallows
            decide
          rcases Bool.or_eq_true_iff.mp (show endsAt baseCidrRe.fullmatch cidr = true from hmatch) with
            hfull | hnewline
          · exact hcolon cidr hfull
          · -- the newline the schema lets pass is no colon either
            obtain ⟨hlast, hfull⟩ := Bool.and_eq_true_iff.mp hnewline
            have hlast := List.dropLast_append_getLast? _ (Option.mem_def.mpr (eq_of_beq hlast))
            rw [← hlast]
            simp [hcolon _ hfull]

end

section
variable {network : Network} {base : Ip.Network}

/-- The parts of a base, by their place. -/
theorem carved_of_subnets24 (hversion : base.version = .v4) {subnets : List Ip.Network}
    (h : subnets24 base = some subnets) {i : Nat} {part : Ip.Network} (hpart : subnets[i]? = some part) :
    Carved base i part := by
  refine ⟨hversion, ?_⟩
  have hbits : base.version.bits = 32 := by rw [hversion]; rfl
  unfold subnets24 at h
  split at h
  · next hlen =>
      cases h
      obtain ⟨hi, hget⟩ := List.getElem?_eq_some_iff.mp hpart
      have hzero : i = 0 := by simpa using hi
      subst hzero
      exact .inl ⟨hlen.trans hbits, rfl, hget.symm⟩
  · split at h
    · next hfits =>
        split at h
        · cases h
        · next hlen =>
            cases h
            have hle : base.prefixlen ≤ 24 := Nat.le_of_not_lt hlen
            obtain ⟨hpv, hpl, hi, hbase⟩ := Ip.getElem?_subnets hle hpart
            rw [hbits, Nat.mul_comm] at hbase
            exact .inr ⟨hle, hi, hpv.trans hversion, hpl, hbase⟩
    · cases h

/-- What is handed out is a part of the base. -/
theorem carved_of_allocateCidr {teamIndex : Int} {cidr : Str} 
    (hbase : network.base = some base) (hversion : base.version = .v4)
    (h : allocateCidr network teamIndex = some cidr) :
    ∃ part, Carved base (network.passed teamIndex) part ∧ cidr = part.text ∧
      (network.cidrStrategy = .perTeam → 0 ≤ teamIndex) := by
  unfold allocateCidr at h
  dsimp only at h
  obtain ⟨base', hbase', h⟩ := Option.bind_eq_some_iff.mp h
  obtain rfl : base = base' := Option.some.inj (hbase.symm.trans hbase')
  obtain ⟨subnets, hsubnets, h⟩ := Option.bind_eq_some_iff.mp h
  unfold Network.passed
  cases hstrategy : network.cidrStrategy with
  | shared =>
      rw [hstrategy] at h
      obtain ⟨part, hpart, h⟩ := Option.bind_eq_some_iff.mp h
      cases h
      exact ⟨part, carved_of_subnets24 hversion hsubnets (List.head?_eq_getElem?.symm.trans hpart), rfl,
        fun h => by cases h⟩
  | perTeam =>
      rw [hstrategy] at h
      dsimp only at h
      split at h
      · next hindex =>
          obtain ⟨part, hpart, h⟩ := Option.bind_eq_some_iff.mp h
          cases h
          exact ⟨part, carved_of_subnets24 hversion hsubnets hpart, rfl, fun _ => hindex⟩
      · cases h

end

/-- A planned network is given a part of its base. -/
structure Given (teamIndex : Int) (network : Network) (planned : TopologyNetwork) : Prop where
  ref : planned.ref = network.name
  teamRef : planned.teamRef.isSome = true ↔ network.cidrStrategy = .perTeam
  index : network.cidrStrategy = .perTeam → 0 ≤ teamIndex
  part : ∃ base part, network.base = some base ∧
    Carved base (network.passed teamIndex) part ∧ planned.cidr = part.text

/-- Two printed networks are apart when the networks are. -/
theorem cidrsApart_text {m n : Ip.Network} (hm : m.version = .v4) (hn : n.version = .v4) :
    CidrsApart m.text n.text ↔ m.overlaps n = false := by
  unfold CidrsApart
  simp only [Ip.ipNetwork_text true hm, Ip.ipNetwork_text true hn, Option.some.injEq,
    exists_eq_left', exists_and_left]

section
variable {spec : Spec} {target : TargetInstance} {network network' : Network}
  {planned planned' : TopologyNetwork} {teamIndex teamIndex' : Int}

theorem given_of_planNetwork [Unicode] (haccepted : network.accepted = true)
    (h : planNetwork spec target network = .ok planned) : Given target.teamIndex network planned := by
  unfold planNetwork at h
  obtain ⟨cidr, hcidr, h⟩ := except_bind_eq_ok.mp h
  cases h
  have hcidr := orRaise_eq_ok_iff.mp hcidr
  obtain ⟨base, hbase⟩ : ∃ base, network.base = some base := by
    obtain ⟨base, hbase, -⟩ := Option.bind_eq_some_iff.mp hcidr
    exact ⟨base, hbase⟩
  obtain ⟨part, hpart, htext, hindex⟩ :=
    carved_of_allocateCidr hbase (version_of_accepted haccepted hbase) hcidr
  refine ⟨rfl, ?_, hindex, base, part, hbase, hpart, htext⟩
  show (if network.cidrStrategy = .perTeam then some target.teamRef else none).isSome = true ↔ _
  split
  · next hteam => exact iff_of_true rfl hteam
  · next hteam => exact iff_of_false Bool.false_ne_true hteam

/-- Two networks of one team are apart exactly when their parts of the bases are. -/
theorem Given.apart_iff (h : Given teamIndex network planned) (h' : Given teamIndex network' planned') :
    CidrsApart planned.cidr planned'.cidr ↔ ∀ base ∈ network.base, ∀ base' ∈ network'.base,
      PartsApart base base' (network.passed teamIndex) (network'.passed teamIndex) := by
  obtain ⟨base, part, hbase, hpart, htext⟩ := h.part
  obtain ⟨base', part', hbase', hpart', htext'⟩ := h'.part
  rw [htext, htext', cidrsApart_text hpart.part_version hpart'.part_version, hpart.apart_iff hpart',
    hbase, hbase']
  simp

/-- Per-team networks that two teams both have are apart between the teams. -/
theorem Given.teams_apart (hne : teamIndex ≠ teamIndex') {other other' : TopologyNetwork}
    (h : Given teamIndex network planned) (hother : Given teamIndex' network other)
    (h' : Given teamIndex' network' planned') (hother' : Given teamIndex network' other')
    (hteam : planned.teamRef.isSome = true) (hteam' : planned'.teamRef.isSome = true) :
    CidrsApart planned.cidr planned'.cidr := by
  have hstrategy := h.teamRef.mp hteam
  have hstrategy' := h'.teamRef.mp hteam'
  have hpassed : ∀ n : Network, n.cidrStrategy = .perTeam → ∀ i, n.passed i = i.toNat := by
    intro n hn i
    rw [Network.passed, hn]
  obtain ⟨base, part, hbase, hpart, htext⟩ := h.part
  obtain ⟨base₁, other, hbase₁, hother, -⟩ := hother.part
  obtain ⟨base', part', hbase', hpart', htext'⟩ := h'.part
  obtain ⟨base₂, other', hbase₂, hother', -⟩ := hother'.part
  obtain rfl : base = base₁ := Option.some.inj (hbase.symm.trans hbase₁)
  obtain rfl : base' = base₂ := Option.some.inj (hbase'.symm.trans hbase₂)
  rw [hpassed network hstrategy] at hpart hother
  rw [hpassed network' hstrategy'] at hpart' hother'
  have hindex := h.index hstrategy
  have hindex' := h'.index hstrategy'
  rw [htext, htext', cidrsApart_text hpart.part_version hpart'.part_version]
  exact hpart.teams_apart (by omega) hother hpart' hother'

end

/-! ## Hosts -/

/-- The nodes on a network. -/
def nodesOn (name : Str) (nodes : List TopologyNode) : List TopologyNode :=
  nodes.filter fun n => n.networkRef = name

theorem nodesOn_append (name : Str) (nodes : List TopologyNode) (node : TopologyNode) :
    nodesOn name (nodes ++ [node]) =
      if node.networkRef = name then nodesOn name nodes ++ [node] else nodesOn name nodes := by
  unfold nodesOn
  rw [List.filter_append, List.filter_singleton]
  split
  · next h => rw [decide_eq_true h, cond_true]
  · next h => rw [decide_eq_false h, cond_false, List.append_nil]

/-- The nodes of every network are numbered from ten on, and the counter stands behind the last. -/
def Numbered (networksByName : Dict Str TopologyNetwork) (placing : Placing) : Prop :=
  ∀ name network, networksByName.get? name = some network →
    placing.hostCounter.get? name = some (10 + (nodesOn name placing.nodes).length) ∧
      (nodesOn name placing.nodes).map (fun n => some n.ipAddress) =
        (List.range (nodesOn name placing.nodes).length).map fun k => hostIp network.cidr (10 + k)

section
variable {spec : Spec} {target : TargetInstance} {networksByName : Dict Str TopologyNetwork}
  {role : Role} {placing placing' : Placing} {i : Nat}

theorem placeNode_numbered (hnumbered : Numbered networksByName placing)
    (h : placeNode target networksByName role placing i = .ok placing') :
    Numbered networksByName placing' := by
  obtain ⟨node, hplaced⟩ := placeNode_adds h
  obtain ⟨network, host, hnetwork, hhost, hip, hset⟩ := hplaced.host
  intro name other hother
  obtain ⟨hcounter, hips⟩ := hnumbered name other hother
  rw [hset, Dict.get?_set, hplaced.nodes, nodesOn_append, hplaced.networkRef]
  by_cases hname : role.network = name
  · subst hname
    obtain rfl : network = other := Option.some.inj (hnetwork.symm.trans hother)
    have hhost : host = 10 + (nodesOn role.network placing.nodes).length :=
      Option.some.inj (hhost.symm.trans hcounter)
    rw [if_pos rfl, if_pos rfl, List.length_append, List.map_append, List.length_singleton,
      List.range_succ, List.map_append, List.map_singleton, List.map_singleton, hips, ← hip, hhost]
    exact ⟨rfl, rfl⟩
  · rw [if_neg hname, if_neg hname]
    exact ⟨hcounter, hips⟩

/-- The loops number the nodes of every network. -/
theorem placed_numbered {roles : List Role} (hnumbered : Numbered networksByName placing)
    (h : roles.foldlM (placeRole target networksByName) placing = .ok placing') :
    Numbered networksByName placing' := by
  refine Returns.foldlM (fun placing role _ hplacing => ?_) hnumbered placing' h
  exact Returns.foldlM (fun placing i _ hplacing placing' h => placeNode_numbered hplacing h) hplacing

/-- How many nodes the roles place on a network. -/
theorem length_nodesOn {nodes : List TopologyNode} (h : links nodes = spec.roles.flatMap Role.links)
    (name : Str) : (nodesOn name nodes).length = spec.nodesOn name := by
  have hcount : (nodesOn name nodes).length = ((links nodes).filter fun link => link.2 = name).length := by
    rw [links, List.filter_map, List.length_map]
    rfl
  rw [hcount, h, List.filter_flatMap, List.length_flatMap, Spec.nodesOn]
  refine congrArg List.sum (List.map_congr_left fun role _ => ?_)
  rw [Role.links, List.filter_map, List.length_map]
  show ((List.range role.count).filter fun _ => decide (role.network = name)).length = _
  split
  · next hname =>
      rw [List.filter_eq_self.mpr fun _ _ => decide_eq_true hname, List.length_range]
  · next hname =>
      rw [List.filter_eq_nil_iff.mpr fun _ _ => by simpa using hname]
      rfl

end

section
variable {part : Ip.Network} {host : Nat} {ip : Str}

/-- The address of a host is that much behind the start of the network. -/
theorem address_of_hostIp (hversion : part.version = .v4) (h : hostIp part.text host = some ip) :
    ∃ a : Ip.Address, a.version = .v4 ∧ a.value = part.base + host ∧ ip = a.text := by
  unfold hostIp at h
  rw [Ip.ipNetwork_text false hversion] at h
  dsimp only [Option.bind_eq_bind, Option.bind_some] at h
  split at h
  · next hlt =>
      cases h
      exact ⟨.ofNat part.version (part.base + host), hversion, Nat.mod_eq_of_lt hlt, rfl⟩
  · cases h

/-- A host of a network lies strictly between its first and its last address. -/
theorem hostOf_iff (hversion : part.version = .v4) {a : Ip.Address} (ha : a.version = .v4) :
    HostOf part.text a.text ↔ part.base < a.value ∧ a.value + 1 < part.base + part.size := by
  have hsize := part.size_pos
  have hends : ∀ b : Ip.Address, b.version = part.version → (a ≠ b ↔ a.value ≠ b.value) := by
    intro b hb
    constructor
    · intro hne hvalue
      exact hne (Ip.Address.ext (ha.trans (hversion.symm.trans hb.symm)) hvalue)
    · intro hne heq
      exact hne (congrArg Ip.Address.value heq)
  unfold HostOf
  simp only [Ip.ipNetwork_text true hversion, Ip.ipAddress_text ha, Option.some.injEq, exists_eq_left',
    exists_and_left, hends part.networkAddress rfl, hends part.broadcastAddress rfl, Ip.mem_iff, ha,
    hversion, true_and]
  show (part.base ≤ a.value ∧ a.value < part.base + part.size) ∧ a.value ≠ part.base ∧
    a.value ≠ part.base + part.size - 1 ↔ _
  omega

/-- Hosts numbered from ten on are hosts of a part exactly when it is a `/24` with room for them. -/
theorem numbered_hostOf_iff {base : Ip.Network} {passed count : Nat} (h : Carved base passed part)
    {ips : List Str} (hips : ips.map some = (List.range count).map fun k => hostIp part.text (10 + k)) :
    (∀ ip ∈ ips, HostOf part.text ip) ↔ (0 < count → count ≤ 245 ∧ base.prefixlen ≠ 32) := by
  have hversion := h.part_version
  have hlen : ips.length = count := by simpa using congrArg List.length hips
  have hip : ∀ k (hk : k < ips.length), HostOf part.text ips[k] ↔ 10 + k + 1 < part.size := by
    intro k hk
    have hget := congrArg (fun l : List (Option Str) => l[k]?) hips
    simp only [List.getElem?_map, List.getElem?_eq_getElem hk, Option.map_some, List.getElem?_range,
      hlen ▸ hk] at hget
    obtain ⟨a, ha, hvalue, htext⟩ := address_of_hostIp hversion (Option.some.inj hget).symm
    rw [htext, hostOf_iff hversion ha, hvalue]
    omega
  obtain ⟨-, hplace⟩ := h.place
  constructor
  · intro hall hpos
    have hlast := (hip (count - 1) (by omega)).mp (hall _ (List.getElem_mem _))
    omega
  · intro hroom ip hmem
    obtain ⟨k, hk, rfl⟩ := List.getElem_of_mem hmem
    obtain ⟨hcount, hwide⟩ := hroom (by omega)
    exact (hip k hk).mpr (by omega)

/-- Hosts numbered from ten on have addresses of their own. -/
theorem numbered_nodup {count : Nat} (hversion : part.version = .v4) {ips : List Str}
    (hips : ips.map some = (List.range count).map fun k => hostIp part.text (10 + k)) : ips.Nodup := by
  refine List.Nodup.of_map some ?_
  rw [hips]
  refine List.Nodup.map_on (fun k hk k' hk' heq => ?_) List.nodup_range
  have hsome : ∀ k ∈ List.range count, ∃ ip, hostIp part.text (10 + k) = some ip := by
    intro k hk
    have hmem : hostIp part.text (10 + k) ∈ ips.map some := by
      rw [hips]
      exact List.mem_map_of_mem hk
    obtain ⟨ip, -, hip⟩ := List.mem_map.mp hmem
    exact ⟨ip, hip.symm⟩
  obtain ⟨ip, hip⟩ := hsome k hk
  obtain ⟨a, ha, hvalue, htext⟩ := address_of_hostIp hversion hip
  obtain ⟨a', ha', hvalue', htext'⟩ := address_of_hostIp hversion (heq.symm.trans hip)
  have haddress := congrArg Ip.Address.value (Ip.text_injective ha ha' (htext.symm.trans htext'))
  omega

end

/-! ## One instance -/

/-- What the loops leave of the addresses: a part for each network, and the nodes of a network numbered in
its part. -/
structure Laid (spec : Spec) (teamIndex : Int) (topology : InstanceTopology) : Prop where
  given : List.Forall₂ (Given teamIndex) spec.networks topology.networks
  numbered : ∀ name network,
    (Dict.ofPairs (topology.networks.map fun n => (n.ref, n))).get? name = some network →
      (nodesOn name topology.nodes).map (some ∘ TopologyNode.ipAddress) =
        (List.range (spec.nodesOn name)).map fun k => hostIp network.cidr (10 + k)
  attached : ∀ node ∈ topology.nodes, ∃ role ∈ spec.roles, node.networkRef = role.network

section
variable [Unicode] {spec : Spec} {target : TargetInstance} {planned : InstancePlan}

theorem laid_of_planInstance (haccepted : spec.accepted = true)
    (h : planInstance spec target = .ok planned) : Laid spec target.teamIndex planned.desired := by
  have hattached := (planned_of_planInstance h).attached
  obtain ⟨-, -, hnetworks, -⟩ := accepted_iff.mp haccepted
  unfold planInstance at h
  obtain ⟨networks, hplan, h⟩ := except_bind_eq_ok.mp h
  obtain ⟨placing, hplacing, h⟩ := except_bind_eq_ok.mp h
  cases h
  have hgiven : List.Forall₂ (Given target.teamIndex) spec.networks networks := by
    refine List.Forall₂.imp ?_ ((List.forall₂_and_left _ _).mpr ⟨hnetworks, mapM_eq_ok_iff.mp hplan⟩)
    intro network planned hplanned
    exact given_of_planNetwork hplanned.1 hplanned.2
  have hnames : networks.map TopologyNetwork.ref = spec.networks.map Network.name :=
    (map_eq_map_of_forall₂ hgiven fun _ _ hgiven => hgiven.ref.symm).symm
  have hstart : Numbered (Dict.ofPairs (networks.map fun n => (n.ref, n)))
      { hostCounter := Dict.ofPairs (spec.networks.map fun n => (n.name, 10)) } := by
    intro name network hnetwork
    obtain ⟨tnet, htnet, heq⟩ := List.mem_map.mp (Dict.mem_of_get?_ofPairs hnetwork)
    have hname : name ∈ spec.networks.map Network.name := by
      rw [← hnames, ← (Prod.mk.inj heq).1]
      exact List.mem_map_of_mem htnet
    obtain ⟨counter, hcounter⟩ : ∃ counter,
        (Dict.ofPairs (spec.networks.map fun n => (n.name, 10))).get? name = some counter := by
      refine Dict.exists_get?_ofPairs ?_
      rw [List.map_map]
      exact hname
    obtain ⟨n, -, hten⟩ := List.mem_map.mp (Dict.mem_of_get?_ofPairs hcounter)
    rw [← (Prod.mk.inj hten).2] at hcounter
    exact ⟨hcounter, rfl⟩
  refine ⟨hgiven, fun name network hnetwork => ?_, ?_⟩
  · obtain ⟨-, hips⟩ := placed_numbered hstart hplacing name network hnetwork
    rw [← length_nodesOn (links_placed hplacing)]
    exact hips
  · intro node hnode
    obtain ⟨role, hrole, hnetwork⟩ := List.mem_map.mp (hattached node hnode)
    exact ⟨role, hrole, hnetwork.symm⟩

omit [Unicode] in
theorem Laid.networks_iff {teamIndex : Int} {topology : InstanceTopology}
    (h : Laid spec teamIndex topology) :
    topology.networks.Pairwise (fun m n => CidrsApart m.cidr n.cidr) ↔
      spec.networks.Pairwise fun m n => ∀ base ∈ m.base, ∀ base' ∈ n.base,
        PartsApart base base' (m.passed teamIndex) (n.passed teamIndex) := by
  constructor
  · intro hapart
    exact forall₂_pairwise h.given.flip hapart fun _ _ _ _ hg hg' => (hg.apart_iff hg').mp
  · intro hapart
    exact forall₂_pairwise h.given hapart fun _ _ _ _ hg hg' => (hg.apart_iff hg').mpr

omit [Unicode] in
/-- A network that nodes are on, in the definition and in the topology. -/
theorem Laid.networkOf {teamIndex : Int} {topology : InstanceTopology} (h : Laid spec teamIndex topology)
    (name : Str) : Option.Rel (Given teamIndex)
      ((Dict.ofPairs (spec.networks.map fun n => (n.name, n))).get? name)
      ((Dict.ofPairs (topology.networks.map fun n => (n.ref, n))).get? name) :=
  Dict.rel_get?_ofPairs h.given (fun _ _ hg => hg.ref.symm) name

omit [Unicode] in
/-- The nodes on a network are hosts of it exactly when it has room for them. -/
theorem Laid.on_iff {teamIndex : Int} {topology : InstanceTopology} (h : Laid spec teamIndex topology)
    {name : Str} {network : Network} {tnet : TopologyNetwork} (hgiven : Given teamIndex network tnet)
    (htnet : (Dict.ofPairs (topology.networks.map fun n => (n.ref, n))).get? name = some tnet) :
    (∀ node ∈ nodesOn name topology.nodes, HostOf tnet.cidr node.ipAddress) ↔
      (0 < spec.nodesOn name →
        spec.nodesOn name ≤ 245 ∧ ∀ base ∈ network.base, base.prefixlen ≠ 32) := by
  obtain ⟨base, part, hbase, hpart, htext⟩ := hgiven.part
  have hips := h.numbered name tnet htnet
  rw [htext, ← List.map_map] at hips
  have hhosts := numbered_hostOf_iff hpart hips
  rw [htext, hbase]
  simpa [List.forall_mem_map] using hhosts

/-- Every role of an accepted definition is on a network, with at least one node. -/
theorem Laid.role_on {teamIndex : Int} {topology : InstanceTopology} (h : Laid spec teamIndex topology)
    (haccepted : spec.accepted = true) {role : Role} (hrole : role ∈ spec.roles) :
    0 < spec.nodesOn role.network ∧ ∃ network tnet, Given teamIndex network tnet ∧
      (Dict.ofPairs (spec.networks.map fun n => (n.name, n))).get? role.network = some network ∧
      (Dict.ofPairs (topology.networks.map fun n => (n.ref, n))).get? role.network = some tnet := by
  constructor
  · obtain ⟨-, -, -, hroles⟩ := accepted_iff.mp haccepted
    have hcount := hroles role hrole
    simp only [Role.accepted, Bool.and_eq_true, decide_eq_true_eq] at hcount
    refine List.sum_pos_iff_exists_pos_nat.mpr ⟨role.count, ?_, by omega⟩
    exact List.mem_map.mpr ⟨role, hrole, if_pos rfl⟩
  · have hrel := h.networkOf role.network
    obtain ⟨network, hnetwork⟩ : ∃ network,
        (Dict.ofPairs (spec.networks.map fun n => (n.name, n))).get? role.network = some network := by
      refine Dict.exists_get?_ofPairs ?_
      rw [List.map_map]
      exact network_mem haccepted hrole
    rw [hnetwork] at hrel
    cases htnet : (Dict.ofPairs (topology.networks.map fun n => (n.ref, n))).get? role.network with
    | none =>
        rw [htnet] at hrel
        cases hrel
    | some tnet =>
        rw [htnet] at hrel
        cases hrel with
        | some hgiven => exact ⟨network, tnet, hgiven, hnetwork, rfl⟩

/-- The nodes of an instance are hosts of their networks exactly when these have room for them. -/
theorem Laid.hosts_iff {teamIndex : Int} {topology : InstanceTopology} (h : Laid spec teamIndex topology)
    (haccepted : spec.accepted = true) :
    (∀ node ∈ topology.nodes, ∃ network, topology.networkOf node = some network ∧
      HostOf network.cidr node.ipAddress) ↔
      ∀ role ∈ spec.roles, spec.nodesOn role.network ≤ 245 ∧ ∀ network,
        (Dict.ofPairs (spec.networks.map fun n => (n.name, n))).get? role.network = some network →
          ∀ base ∈ network.base, base.prefixlen ≠ 32 := by
  have hnodesOn : ∀ {name node}, node ∈ nodesOn name topology.nodes ↔
      node ∈ topology.nodes ∧ node.networkRef = name := by
    intro name node
    rw [nodesOn, List.mem_filter, decide_eq_true_eq]
  constructor
  · intro hhosts role hrole
    obtain ⟨hpos, network, tnet, hgiven, hnetwork, htnet⟩ := h.role_on haccepted hrole
    have hroom := (h.on_iff hgiven htnet).mp ?_ hpos
    · refine ⟨hroom.1, fun other hother => ?_⟩
      obtain rfl : network = other := Option.some.inj (hnetwork.symm.trans hother)
      exact hroom.2
    · intro node hnode
      obtain ⟨hnode, hname⟩ := hnodesOn.mp hnode
      obtain ⟨other, hother, hhost⟩ := hhosts node hnode
      rw [InstanceTopology.networkOf, hname, htnet] at hother
      obtain rfl : tnet = other := Option.some.inj hother
      exact hhost
  · intro hroom node hnode
    obtain ⟨role, hrole, hname⟩ := h.attached node hnode
    obtain ⟨-, network, tnet, hgiven, hnetwork, htnet⟩ := h.role_on haccepted hrole
    obtain ⟨hcount, hwide⟩ := hroom role hrole
    refine ⟨tnet, by rw [InstanceTopology.networkOf, hname, htnet], ?_⟩
    exact (h.on_iff hgiven htnet).mpr (fun _ => ⟨hcount, hwide network hnetwork⟩) node
      (hnodesOn.mpr ⟨hnode, hname⟩)

/-- No two nodes of a network share an address. -/
theorem Laid.distinct {teamIndex : Int} {topology : InstanceTopology} (h : Laid spec teamIndex topology)
    (haccepted : spec.accepted = true) :
    topology.nodes.Pairwise fun a b => a.networkRef = b.networkRef → a.ipAddress ≠ b.ipAddress := by
  refine List.pairwise_iff_forall_sublist.mpr fun {a b} hsub hsame => ?_
  obtain ⟨role, hrole, hname⟩ := h.attached a (hsub.subset List.mem_cons_self)
  obtain ⟨-, network, tnet, hgiven, -, htnet⟩ := h.role_on haccepted hrole
  obtain ⟨base, part, -, hpart, htext⟩ := hgiven.part
  have hips := h.numbered role.network tnet htnet
  rw [htext, ← List.map_map] at hips
  have hnodup := numbered_nodup hpart.part_version hips
  have hon := (hsub.filter fun n => decide (n.networkRef = role.network)).map TopologyNode.ipAddress
  rw [List.filter_cons_of_pos (by simpa using hname), List.filter_cons_of_pos (by simpa [← hsame] using hname)]
    at hon
  simpa using hnodup.sublist hon

theorem planInstance_addressed_iff (haccepted : spec.accepted = true)
    (h : planInstance spec target = .ok planned) :
    planned.desired.Addressed ↔ spec.Roomy target.teamIndex := by
  have hlaid := laid_of_planInstance haccepted h
  constructor
  · intro haddressed
    exact ⟨hlaid.networks_iff.mp haddressed.networks, (hlaid.hosts_iff haccepted).mp haddressed.hosts⟩
  · intro hroomy
    exact ⟨hlaid.networks_iff.mpr hroomy.networks, (hlaid.hosts_iff haccepted).mpr hroomy.hosts,
      hlaid.distinct haccepted⟩

end

/-! ## The plan -/

section
variable [Unicode] {spec : Spec} {targets : List TargetInstance} {instances : List InstancePlan}

omit [Unicode] in
/-- The per-team networks of two instances are apart. -/
theorem teams_apart_of_laid {teamIndex teamIndex' : Int} (hne : teamIndex ≠ teamIndex')
    {topology topology' : InstanceTopology} (h : Laid spec teamIndex topology)
    (h' : Laid spec teamIndex' topology') {m n : TopologyNetwork} (hm : m ∈ topology.networks)
    (hn : n ∈ topology'.networks) (hteam : m.teamRef.isSome = true) (hteam' : n.teamRef.isSome = true) :
    CidrsApart m.cidr n.cidr := by
  obtain ⟨network, hnetwork, hgiven⟩ := forall₂_exists_left h.given hm
  obtain ⟨network', hnetwork', hgiven'⟩ := forall₂_exists_left h'.given hn
  obtain ⟨other, -, hother⟩ := forall₂_exists_right h'.given hnetwork
  obtain ⟨other', -, hother'⟩ := forall₂_exists_right h.given hnetwork'
  exact hgiven.teams_apart hne hother hgiven' hother' hteam hteam'

/-- A plan for teams of different indexes is addressed consistently exactly when the definition has room
for each team. -/
theorem plan_addressed_iff (hplan : plan spec targets = .ok instances)
    (hdistinct : (targets.map TargetInstance.teamIndex).Nodup) :
    Addressed instances ↔ ∀ target ∈ targets, spec.Roomy target.teamIndex := by
  unfold plan at hplan
  split at hplan
  · next haccepted =>
      have hinstances := mapM_eq_ok_iff.mp hplan
      constructor
      · intro haddressed target htarget
        obtain ⟨planned, hplanned, h⟩ := forall₂_exists_right hinstances (mem_sortedBy.mpr htarget)
        exact (planInstance_addressed_iff haccepted h).mp (haddressed.each planned hplanned)
      · intro hroomy
        refine ⟨fun planned hplanned => ?_, ?_⟩
        · obtain ⟨target, htarget, h⟩ := forall₂_exists_left hinstances hplanned
          exact (planInstance_addressed_iff haccepted h).mpr (hroomy target (mem_sortedBy.mp htarget))
        · have hindexes : (sortedBy TargetInstance.teamIndex targets).Pairwise
              fun t t' => t.teamIndex ≠ t'.teamIndex :=
            List.pairwise_map.mp (((sortedBy_perm _ _).map _).nodup_iff.mpr hdistinct)
          refine forall₂_pairwise hinstances hindexes fun t planned t' planned' h h' hne => ?_
          intro m hm n hn hteam hteam'
          exact teams_apart_of_laid hne (laid_of_planInstance haccepted h)
            (laid_of_planInstance haccepted h') hm hn hteam hteam'
  · cases hplan

end

/-! ## Samples -/

theorem roomy_sample : ∀ target ∈ [sampleTarget], (sampleSpec (str "web")).Roomy target.teamIndex := by
  intro target htarget
  refine ⟨List.pairwise_singleton _ _, fun role hrole => ?_⟩
  rw [List.mem_singleton.mp hrole]
  refine ⟨by with_unfolding_all decide, fun network hnetwork base hbase => ?_⟩
  have hwide : (do
      let network ← (Dict.ofPairs [(sampleNetwork.name, sampleNetwork)]).get? (str "dmz")
      let base ← network.base
      pure base.prefixlen) = some 24 := by
    with_unfolding_all decide
  obtain ⟨network', hnetwork', hwide⟩ := Option.bind_eq_some_iff.mp hwide
  obtain ⟨base', hbase', hlen⟩ := Option.bind_eq_some_iff.mp hwide
  obtain rfl : network = network' := Option.some.inj (hnetwork.symm.trans hnetwork')
  obtain rfl : base = base' := Option.some.inj (hbase.symm.trans hbase')
  have hlen : base.prefixlen = 24 := Option.some.inj hlen
  omega

theorem sample_addressed :
    @plan Unicode.ascii (sampleSpec (str "web")) [sampleTarget] = .ok [samplePlan (str "web")] ∧
      Addressed [samplePlan (str "web")] :=
  ⟨plan_sample, (@plan_addressed_iff Unicode.ascii _ _ _ plan_sample (List.nodup_singleton _)).mpr
    roomy_sample⟩

/-- A second network that names no base either. -/
def twoNetworks : Spec :=
  ⟨.strict, [⟨str "red", .perTeam, none, true⟩, ⟨str "blue", .perTeam, none, true⟩],
    [⟨str "web", .target, str "juice-shop", str "red", 1, []⟩]⟩

def twoNetworksPlan : InstancePlan :=
  ⟨str "i-1", str "lab-1", str "team-1",
    [⟨str "red", str "team-1-red", str "10.20.0.0/24", some (str "team-1"), true⟩,
      ⟨str "blue", str "team-1-blue", str "10.20.0.0/24", some (str "team-1"), true⟩],
    [⟨str "web", str "team-1-web", .target, str "web", str "juice-shop", str "red", str "10.20.0.10",
      [(str "team_ref", str "team-1"), (str "vulnerability_packs", [])]⟩],
    [⟨str "web", str "red", .network⟩]⟩

/-- A range is not apart from itself. -/
theorem not_cidrsApart_self (cidr : Str) : ¬CidrsApart cidr cidr := by
  intro h
  obtain ⟨m, n, hm, hn, hapart⟩ := h
  obtain rfl : m = n := Option.some.inj (hm.symm.trans hn)
  rw [Ip.overlaps_self] at hapart
  cases hapart

/-- Two isolated networks of one team that name no base are given the same addresses. -/
theorem twoNetworks_not_addressed :
    @plan Unicode.ascii twoNetworks [sampleTarget] = .ok [twoNetworksPlan] ∧
      ¬Addressed [twoNetworksPlan] := by
  refine ⟨by with_unfolding_all decide, fun h => ?_⟩
  have hnetworks := (h.each twoNetworksPlan List.mem_cons_self).networks
  exact not_cidrsApart_self _ (List.forall_mem_cons.mp (List.pairwise_cons.mp hnetworks).1).1

end Secp.Scenario
