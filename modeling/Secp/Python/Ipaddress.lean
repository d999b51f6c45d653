import Mathlib.Data.List.Basic
import Mathlib.Tactic.Ring
import Secp.Python.Text

/-!
# Internet addresses and networks

The arithmetic half of the `ipaddress` library: addresses of both versions, networks with no
host bits set, containment, overlap, equal-size subdivision and usable hosts. A network is a
structure whose fields say that its prefix fits the version and its base is aligned, so a
value that the library would refuse to build does not exist here.

The two facts used elsewhere are `mem_iff`, which reads containment as an interval, and
`overlaps_iff`, which says that the library's four-way endpoint test is exactly the existence
of a common address.
-/

namespace Secp.Python.Ip

inductive Version where
  | v4
  | v6
  deriving DecidableEq, Repr

/-- `max_prefixlen`. -/
def Version.bits : Version → Nat
  | .v4 => 32
  | .v6 => 128

structure Address where
  version : Version
  value : Nat
  value_lt : value < 2 ^ version.bits
  deriving DecidableEq

@[ext] theorem Address.ext {a b : Address} (hversion : a.version = b.version)
    (hvalue : a.value = b.value) : a = b := by
  cases a
  cases b
  cases hversion
  cases hvalue
  rfl

/-- The address with this integer value, reduced into the version's range. -/
def Address.ofNat (version : Version) (value : Nat) : Address :=
  ⟨version, value % 2 ^ version.bits, Nat.mod_lt _ (Nat.two_pow_pos _)⟩

/-- A network: a base address with no host bits, and a prefix length. -/
structure Network where
  version : Version
  base : Nat
  prefixlen : Nat
  prefixlen_le : prefixlen ≤ version.bits
  base_lt : base < 2 ^ version.bits
  aligned : base % 2 ^ (version.bits - prefixlen) = 0
  deriving DecidableEq

@[ext] theorem Network.ext {m n : Network} (hversion : m.version = n.version)
    (hbase : m.base = n.base) (hlen : m.prefixlen = n.prefixlen) : m = n := by
  cases m
  cases n
  cases hversion
  cases hbase
  cases hlen
  rfl

/-- `num_addresses`. -/
def Network.size (n : Network) : Nat := 2 ^ (n.version.bits - n.prefixlen)

theorem Network.size_pos (n : Network) : 0 < n.size := Nat.two_pow_pos _

/-- A size divides the size of the whole address space. -/
theorem Network.size_dvd (n : Network) : n.size ∣ 2 ^ n.version.bits :=
  pow_dvd_pow 2 (Nat.sub_le _ _)

/-- A network ends inside the address space. -/
theorem Network.base_add_size_le (n : Network) : n.base + n.size ≤ 2 ^ n.version.bits := by
  obtain ⟨k, hk⟩ := n.size_dvd
  obtain ⟨j, hj⟩ := Nat.dvd_of_mod_eq_zero n.aligned
  change n.base = n.size * j at hj
  have hlt : n.size * j < n.size * k := by
    rw [← hj, ← hk]
    exact n.base_lt
  have hjk : j + 1 ≤ k := Nat.lt_of_mul_lt_mul_left hlt
  calc
    n.base + n.size = n.size * (j + 1) := by rw [hj]; ring
    _ ≤ n.size * k := Nat.mul_le_mul_left _ hjk
    _ = 2 ^ n.version.bits := hk.symm

/-- `network_address`. -/
def Network.networkAddress (n : Network) : Address := ⟨n.version, n.base, n.base_lt⟩

/-- `broadcast_address`, the last address of the network. -/
def Network.broadcastAddress (n : Network) : Address :=
  ⟨n.version, n.base + n.size - 1, by
    have hle := n.base_add_size_le
    have hpos := n.size_pos
    omega⟩

/-- The network of the given prefix length around an address: host bits are cleared. -/
def Network.around (a : Address) (prefixlen : Nat) (h : prefixlen ≤ a.version.bits) : Network where
  version := a.version
  base := a.value / 2 ^ (a.version.bits - prefixlen) * 2 ^ (a.version.bits - prefixlen)
  prefixlen := prefixlen
  prefixlen_le := h
  base_lt := Nat.lt_of_le_of_lt (Nat.div_mul_le_self _ _) a.value_lt
  aligned := Nat.mul_mod_left _ _

/-- `a in n`: equal versions, and the address masked by the netmask is the base. -/
def Network.contains (n : Network) (a : Address) : Bool :=
  decide (a.version = n.version) && decide (a.value / n.size * n.size = n.base)

instance : Membership Address Network := ⟨fun n a => n.contains a = true⟩

instance (a : Address) (n : Network) : Decidable (a ∈ n) :=
  inferInstanceAs (Decidable (n.contains a = true))

theorem contains_eq_true_iff {n : Network} {a : Address} : n.contains a = true ↔ a ∈ n := Iff.rfl

theorem mem_def {n : Network} {a : Address} :
    a ∈ n ↔ a.version = n.version ∧ a.value / n.size * n.size = n.base := by
  rw [← contains_eq_true_iff]
  simp [Network.contains]

/-- Containment is an interval test. -/
theorem mem_iff {n : Network} {a : Address} :
    a ∈ n ↔ a.version = n.version ∧ n.base ≤ a.value ∧ a.value < n.base + n.size := by
  rw [mem_def]
  refine and_congr_right fun _ => ?_
  have hpos := n.size_pos
  obtain ⟨j, hj⟩ := Nat.dvd_of_mod_eq_zero n.aligned
  change n.base = n.size * j at hj
  constructor
  · intro h
    have hdiv := Nat.div_add_mod a.value n.size
    have hmod := Nat.mod_lt a.value hpos
    rw [Nat.mul_comm] at hdiv
    omega
  · rintro ⟨hle, hlt⟩
    have hq : a.value / n.size = j := by
      apply Nat.div_eq_of_lt_le
      · rw [Nat.mul_comm, ← hj]
        exact hle
      · rw [Nat.add_mul, Nat.mul_comm, ← hj, Nat.one_mul]
        exact hlt
    rw [hq, hj, Nat.mul_comm]

theorem networkAddress_mem (n : Network) : n.networkAddress ∈ n :=
  mem_iff.mpr ⟨rfl, Nat.le_refl _, Nat.lt_add_of_pos_right n.size_pos⟩

theorem broadcastAddress_mem (n : Network) : n.broadcastAddress ∈ n := by
  have hpos := n.size_pos
  refine mem_iff.mpr ⟨rfl, ?_, ?_⟩
  · change n.base ≤ n.base + n.size - 1
    omega
  · change n.base + n.size - 1 < n.base + n.size
    omega

/-! ## Overlap -/

/-- `m.overlaps(n)`: an endpoint of one network lies in the other. -/
def Network.overlaps (m n : Network) : Bool :=
  n.contains m.networkAddress || n.contains m.broadcastAddress ||
    m.contains n.networkAddress || m.contains n.broadcastAddress

theorem div_mul_div_mul_of_dvd {a s t : Nat} (hs : 0 < s) (h : s ∣ t) :
    a / s * s / t * t = a / t * t := by
  obtain ⟨k, rfl⟩ := h
  rw [Nat.mul_comm (a / s) s, Nat.mul_div_mul_left _ _ hs, Nat.div_div_eq_div_mul]

/-- If two networks share an address and the first is no larger, the second contains its base. -/
theorem networkAddress_mem_of_common {m n : Network} {a : Address} (hm : a ∈ m) (hn : a ∈ n)
    (h : m.size ∣ n.size) : m.networkAddress ∈ n := by
  obtain ⟨hmv, hmb⟩ := mem_def.mp hm
  obtain ⟨hnv, hnb⟩ := mem_def.mp hn
  refine mem_def.mpr ⟨hmv.symm.trans hnv, ?_⟩
  change m.base / n.size * n.size = n.base
  rw [← hmb, div_mul_div_mul_of_dvd m.size_pos h, hnb]

/-- Two networks overlap exactly when some address lies in both. -/
theorem overlaps_iff {m n : Network} : m.overlaps n = true ↔ ∃ a, a ∈ m ∧ a ∈ n := by
  constructor
  · intro h
    simp only [Network.overlaps, Bool.or_eq_true, contains_eq_true_iff] at h
    rcases h with ((h | h) | h) | h
    · exact ⟨_, networkAddress_mem m, h⟩
    · exact ⟨_, broadcastAddress_mem m, h⟩
    · exact ⟨_, h, networkAddress_mem n⟩
    · exact ⟨_, h, broadcastAddress_mem n⟩
  · rintro ⟨a, hm, hn⟩
    simp only [Network.overlaps, Bool.or_eq_true, contains_eq_true_iff]
    have hversion : m.version = n.version := (mem_iff.mp hm).1.symm.trans (mem_iff.mp hn).1
    -- sizes are powers of two, so one divides the other
    rcases Nat.le_total (m.version.bits - m.prefixlen) (n.version.bits - n.prefixlen) with h | h
    · exact .inl (.inl (.inl (networkAddress_mem_of_common hm hn (pow_dvd_pow 2 h))))
    · exact .inl (.inr (networkAddress_mem_of_common hn hm (pow_dvd_pow 2 h)))

theorem overlaps_comm {m n : Network} (h : m.overlaps n = true) : n.overlaps m = true := by
  obtain ⟨a, hm, hn⟩ := overlaps_iff.mp h
  exact overlaps_iff.mpr ⟨a, hn, hm⟩

theorem overlaps_self (n : Network) : n.overlaps n = true :=
  overlaps_iff.mpr ⟨n.networkAddress, networkAddress_mem n, networkAddress_mem n⟩

/-- Networks of one version are apart exactly when one ends before the other starts. -/
theorem overlaps_eq_false_iff {m n : Network} (hversion : m.version = n.version) :
    m.overlaps n = false ↔ m.base + m.size ≤ n.base ∨ n.base + n.size ≤ m.base := by
  have hm := m.size_pos
  have hn := n.size_pos
  constructor
  · intro h
    by_contra hmeet
    -- the greater of the two bases lies in both
    have hcommon : ∃ a : Address, a ∈ m ∧ a ∈ n := by
      rcases Nat.le_total m.base n.base with hle | hle
      · exact ⟨n.networkAddress, mem_iff.mpr ⟨hversion.symm, hle, by
          show n.base < m.base + m.size
          omega⟩, networkAddress_mem n⟩
      · exact ⟨m.networkAddress, networkAddress_mem m, mem_iff.mpr ⟨hversion, hle, by
          show m.base < n.base + n.size
          omega⟩⟩
    rw [overlaps_iff.mpr hcommon] at h
    cases h
  · intro h
    rw [← Bool.not_eq_true, overlaps_iff]
    intro hcommon
    obtain ⟨a, ha, hb⟩ := hcommon
    obtain ⟨-, hlow, hhigh⟩ := mem_iff.mp ha
    obtain ⟨-, hlow', hhigh'⟩ := mem_iff.mp hb
    omega

/-! ## Subdivision -/

/-- `n.subnets(new_prefix=p)`, in address order. -/
def Network.subnets (n : Network) (p : Nat) (h : p ≤ n.version.bits) : List Network :=
  (List.range (2 ^ (p - n.prefixlen))).map fun i =>
    Network.around (.ofNat n.version (n.base + i * 2 ^ (n.version.bits - p))) p h

/-- The number of subnets of length `p` times their size is the size of the network. -/
theorem subnet_count_mul_size {n : Network} {p : Nat} (hle : n.prefixlen ≤ p)
    (h : p ≤ n.version.bits) :
    2 ^ (p - n.prefixlen) * 2 ^ (n.version.bits - p) = n.size := by
  rw [← Nat.pow_add, Network.size]
  congr 1
  omega

/-- The subnet at a place starts as many steps after the base of its parent. -/
theorem getElem?_subnets {n s : Network} {p i : Nat} {h : p ≤ n.version.bits} (hle : n.prefixlen ≤ p)
    (hs : (n.subnets p h)[i]? = some s) :
    s.version = n.version ∧ s.prefixlen = p ∧ i < 2 ^ (p - n.prefixlen) ∧
      s.base = n.base + i * 2 ^ (n.version.bits - p) := by
  obtain ⟨hlen, hget⟩ := List.getElem?_eq_some_iff.mp hs
  have hi : i < 2 ^ (p - n.prefixlen) := by simpa [Network.subnets] using hlen
  have hs : s = Network.around (.ofNat n.version (n.base + i * 2 ^ (n.version.bits - p))) p h := by
    simpa [Network.subnets] using hget.symm
  subst hs
  refine ⟨rfl, rfl, hi, ?_⟩
  have hstep : 0 < 2 ^ (n.version.bits - p) := Nat.two_pow_pos _
  have hinside : n.base + i * 2 ^ (n.version.bits - p) < 2 ^ n.version.bits := by
    have hend := n.base_add_size_le
    have hcount := subnet_count_mul_size hle h
    have hlt : i * 2 ^ (n.version.bits - p) <
        2 ^ (p - n.prefixlen) * 2 ^ (n.version.bits - p) := Nat.mul_lt_mul_of_pos_right hi hstep
    omega
  have halign : 2 ^ (n.version.bits - p) ∣ n.base := by
    refine Nat.dvd_trans (pow_dvd_pow 2 ?_) (Nat.dvd_of_mod_eq_zero n.aligned)
    omega
  change (n.base + i * 2 ^ (n.version.bits - p)) % 2 ^ n.version.bits /
    2 ^ (n.version.bits - p) * 2 ^ (n.version.bits - p) = _
  rw [Nat.mod_eq_of_lt hinside]
  exact Nat.div_mul_cancel (Nat.dvd_add halign (Nat.dvd_mul_left _ _))

/-- A subnet starts a whole number of steps after the base of its parent. -/
theorem mem_subnets {n s : Network} {p : Nat} {h : p ≤ n.version.bits} (hle : n.prefixlen ≤ p)
    (hs : s ∈ n.subnets p h) :
    s.version = n.version ∧ s.prefixlen = p ∧
      ∃ i < 2 ^ (p - n.prefixlen), s.base = n.base + i * 2 ^ (n.version.bits - p) := by
  obtain ⟨i, hi⟩ := List.mem_iff_getElem?.mp hs
  obtain ⟨hversion, hlen, hlt, hbase⟩ := getElem?_subnets hle hi
  exact ⟨hversion, hlen, i, hlt, hbase⟩

/-- A subnet contains only addresses of its parent. -/
theorem mem_of_mem_subnet {n s : Network} {p : Nat} {h : p ≤ n.version.bits}
    (hle : n.prefixlen ≤ p) (hs : s ∈ n.subnets p h) {a : Address} (ha : a ∈ s) : a ∈ n := by
  obtain ⟨hversion, hlen, i, hi, hbase⟩ := mem_subnets hle hs
  obtain ⟨hav, hlow, hhigh⟩ := mem_iff.mp ha
  have hsize : s.size = 2 ^ (n.version.bits - p) := by rw [Network.size, hversion, hlen]
  have hcount := subnet_count_mul_size hle h
  have hend : (i + 1) * 2 ^ (n.version.bits - p) ≤ n.size := by
    rw [← hcount]
    exact Nat.mul_le_mul_right _ hi
  rw [Nat.add_mul, Nat.one_mul] at hend
  refine mem_iff.mpr ⟨hav.trans hversion, ?_, ?_⟩ <;> omega

/-! ## Hosts -/

/-- How many trailing addresses `hosts` leaves out: the broadcast address in version 4. -/
def Version.reserved : Version → Nat
  | .v4 => 2
  | .v6 => 1

/-- `list(n.hosts())`: the usable addresses, in order. -/
def Network.hosts (n : Network) : List Address :=
  if n.version.bits - n.prefixlen = 0 then [n.networkAddress]
  else if n.version.bits - n.prefixlen = 1 then [n.networkAddress, n.broadcastAddress]
  else (List.range (n.size - n.version.reserved)).map fun i =>
    Address.ofNat n.version (n.base + 1 + i)

/-- `next(iter(n.hosts()))`. -/
def Network.firstHost (n : Network) : Address :=
  if n.version.bits - n.prefixlen ≤ 1 then n.networkAddress
  else Address.ofNat n.version (n.base + 1)

/-- Four addresses at least, once two host bits are free. -/
theorem four_le_size {n : Network} (h : ¬n.version.bits - n.prefixlen ≤ 1) : 4 ≤ n.size := by
  calc
    4 = 2 ^ 2 := rfl
    _ ≤ n.size := Nat.pow_le_pow_right (by decide) (by omega)

/-- Every usable host lies in its network. -/
theorem mem_of_mem_hosts {n : Network} {a : Address} (h : a ∈ n.hosts) : a ∈ n := by
  unfold Network.hosts at h
  split at h
  · obtain rfl := List.mem_singleton.mp h
    exact networkAddress_mem n
  · split at h
    · rcases List.mem_cons.mp h with rfl | h
      · exact networkAddress_mem n
      · obtain rfl := List.mem_singleton.mp h
        exact broadcastAddress_mem n
    · obtain ⟨i, hi, rfl⟩ := List.mem_map.mp h
      have hi := List.mem_range.mp hi
      have hend := n.base_add_size_le
      have hreserved : 1 ≤ n.version.reserved := by cases n.version <;> decide
      have hvalue : (n.base + 1 + i) % 2 ^ n.version.bits = n.base + 1 + i :=
        Nat.mod_eq_of_lt (by omega)
      refine mem_iff.mpr ⟨rfl, ?_, ?_⟩ <;>
        simp only [Address.ofNat, hvalue] <;> omega

/-- The first host is the head of the host list. -/
theorem head?_hosts (n : Network) : n.hosts.head? = some n.firstHost := by
  unfold Network.hosts Network.firstHost
  by_cases h : n.version.bits - n.prefixlen ≤ 1
  · rcases Nat.le_one_iff_eq_zero_or_eq_one.mp h with h0 | h1
    · simp [h0]
    · simp [h1]
  · have hsize := four_le_size h
    have hreserved : n.version.reserved ≤ 2 := by cases n.version <;> decide
    have hcount : n.size - n.version.reserved ≠ 0 := by omega
    simp [h, show ¬n.version.bits - n.prefixlen = 0 by omega,
      show ¬n.version.bits - n.prefixlen = 1 by omega, List.head?_range, hcount]

theorem firstHost_mem (n : Network) : n.firstHost ∈ n :=
  mem_of_mem_hosts (List.mem_of_head? (head?_hosts n))

end Secp.Python.Ip
