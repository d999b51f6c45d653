import Secp.Proxmox.Exclusivity
import Secp.Proxmox.Network

/-!
# How a compilation moves its session

Each primitive step of a compilation is inverted once: what it did to the ledger and to the log of
missing prerequisites when it returned. From these, `Evolves` holds of every program built from
them: records are kept, a prerequisite once missing stays missing, and the ledger stays sound with
firewall names apart from the two reserved IPSet names.
-/

namespace Secp.Proxmox

open Secp.Python Secp.Logic AllocationLedger

variable {α : Type} {s t : Session}

/-! ## Primitive steps -/

theorem run_check_eq_ok {result : Except Raised α} {a : α} :
    (check result).run s = .ok (a, t) ↔ result = .ok a ∧ s = t := by
  cases result with
  | error e => simp [check, StateT.run]
  | ok b => simp [check, StateT.run]

theorem run_allocating_eq_ok {act : Allocator α} {a : α} :
    (allocating act).run s = .ok (a, t) ↔
      ∃ ledger, act s.ledger = .ok (a, ledger) ∧ { s with ledger := ledger } = t := by
  unfold allocating StateT.run
  dsimp only
  cases h : act s.ledger with
  | error e => simp
  | ok pair =>
      obtain ⟨b, ledger⟩ := pair
      constructor
      · intro hrun
        cases hrun
        exact ⟨ledger, rfl, rfl⟩
      · rintro ⟨l, hl, rfl⟩
        cases hl
        rfl

theorem noteBlocked_ne_nil (prerequisite : MissingPrerequisite)
    (blocked : List MissingPrerequisite) : noteBlocked prerequisite blocked ≠ [] := by
  unfold noteBlocked
  split
  · rename_i hmem
    exact List.ne_nil_of_mem hmem
  · simp

theorem run_logRun_eq_ok {act : Allocator α} {o : Option α} :
    (logRun act).run s = .ok (o, t) ↔
      (∃ a ledger, act s.ledger = .ok (a, ledger) ∧ some a = o ∧
        { s with ledger := ledger } = t) ∨
      (∃ prerequisite, act s.ledger = .error (.blocked prerequisite) ∧ none = o ∧
        { s with blocked := noteBlocked prerequisite s.blocked } = t) := by
  unfold logRun StateT.run
  dsimp only
  cases h : act s.ledger with
  | ok pair =>
      obtain ⟨b, ledger⟩ := pair
      constructor
      · intro hrun
        cases hrun
        exact .inl ⟨b, ledger, rfl, rfl, rfl⟩
      · rintro (⟨a, l, hl, rfl, rfl⟩ | ⟨_, hblocked, _⟩)
        · cases hl
          rfl
        · cases hblocked
  | error e =>
      cases e with
      | blocked prerequisite =>
          constructor
          · intro hrun
            cases hrun
            exact .inr ⟨prerequisite, rfl, rfl, rfl⟩
          · rintro (⟨_, _, hl, _⟩ | ⟨p, hblocked, rfl, rfl⟩)
            · cases hl
            · cases hblocked
              rfl
      | model message => simp
      | value => simp
      | lookup => simp

theorem run_logRun_some {act : Allocator α} {a : α} (hrun : (logRun act).run s = .ok (some a, t)) :
    ∃ ledger, act s.ledger = .ok (a, ledger) ∧ { s with ledger := ledger } = t := by
  rcases run_logRun_eq_ok.mp hrun with ⟨b, ledger, hledger, hb, ht⟩ | ⟨_, _, hnone, _⟩
  · cases hb
    exact ⟨ledger, hledger, ht⟩
  · cases hnone

/-- A logged allocation after which nothing is missing returned a value. -/
theorem run_logRun_of_unblocked {act : Allocator α} {o : Option α}
    (hrun : (logRun act).run s = .ok (o, t)) (hblocked : t.blocked = []) :
    ∃ a ledger, act s.ledger = .ok (a, ledger) ∧ some a = o ∧ { s with ledger := ledger } = t := by
  rcases run_logRun_eq_ok.mp hrun with h | ⟨prerequisite, _, _, rfl⟩
  · exact h
  · exact absurd hblocked (noteBlocked_ne_nil prerequisite s.blocked)

/-! ## Reserved names -/

section
variable [Unicode]

/-- The IPSet names the compiler uses without allocating them. -/
def ReservedIpset (name : Str) : Prop := name = ipsetManagement ∨ name = ipsetControlPlane

/-- A sound ledger whose firewall object names avoid the reserved ones. -/
structure Tidy (ledger : AllocationLedger) : Prop where
  sound : Sound ledger
  unreserved : ∀ a ∈ ledger.records, a.kind = .firewallObjectName → ¬ReservedIpset a.value

theorem Tidy.empty : Tidy AllocationLedger.empty :=
  ⟨Sound.empty, fun _ h => (List.not_mem_nil h).elim⟩

/-- How a compilation may move its session. -/
structure Evolves (s t : Session) : Prop where
  keeps : Extends s.ledger t.ledger
  unblocked : t.blocked = [] → s.blocked = []
  tidy : Tidy s.ledger → Tidy t.ledger

theorem Evolves.refl (s : Session) : Evolves s s := ⟨Extends.refl _, id, id⟩

theorem Evolves.trans (s t u : Session) (h : Evolves s t) (h' : Evolves t u) : Evolves s u :=
  ⟨h.keeps.trans h'.keeps, fun hu => h.unblocked (h'.unblocked hu), fun hs => h'.tidy (h.tidy hs)⟩

/-- An allocator under which a tidy ledger stays tidy. -/
structure Grows (act : Allocator α) : Prop where
  keeps : ∀ ledger a ledger', act ledger = .ok (a, ledger') → Extends ledger ledger'
  tidy : ∀ ledger a ledger', act ledger = .ok (a, ledger') → Tidy ledger → Tidy ledger'

theorem Grows.error (e : Raised) : Grows (fun _ => .error e : Allocator α) :=
  ⟨fun _ _ _ h => (nomatch h), fun _ _ _ h => (nomatch h)⟩

theorem keeps_check (result : Except Raised α) : Keeps Evolves (check result) := by
  intro s a t hrun
  obtain ⟨_, rfl⟩ := run_check_eq_ok.mp hrun
  exact Evolves.refl _

theorem keeps_allocating {act : Allocator α} (hact : Grows act) :
    Keeps Evolves (allocating act) := by
  intro s a t hrun
  obtain ⟨ledger, hledger, rfl⟩ := run_allocating_eq_ok.mp hrun
  exact ⟨hact.keeps _ _ _ hledger, id, hact.tidy _ _ _ hledger⟩

theorem keeps_logRun {act : Allocator α} (hact : Grows act) : Keeps Evolves (logRun act) := by
  intro s o t hrun
  rcases run_logRun_eq_ok.mp hrun with ⟨a, ledger, hledger, _, rfl⟩ | ⟨prerequisite, _, _, rfl⟩
  · exact ⟨hact.keeps _ _ _ hledger, id, hact.tidy _ _ _ hledger⟩
  · exact ⟨Extends.refl _, fun h => absurd h (noteBlocked_ne_nil prerequisite s.blocked), id⟩

/-! ## The allocators grow the ledger -/

/-- An allocation of another kind adds no firewall object name. -/
theorem unreserved_of_allocate {scope : Scope} {kind : AllocationKind} {purpose : Str}
    {read : Str → Except Raised α} {choose : AllocationLedger → Except Raised α} {text : α → Str}
    {value : α} {ledger ledger' : AllocationLedger}
    (hnew : choose ledger = .ok value → kind = .firewallObjectName → ¬ReservedIpset (text value))
    (h : allocate scope kind purpose read choose text ledger = .ok (value, ledger'))
    (hold : ∀ a ∈ ledger.records, a.kind = .firewallObjectName → ¬ReservedIpset a.value) :
    ∀ a ∈ ledger'.records, a.kind = .firewallObjectName → ¬ReservedIpset a.value := by
  rcases allocate_eq_ok_iff.mp h with ⟨_, _, _, rfl⟩ | ⟨_, hchoose, _, rfl⟩
  · exact hold
  · intro a ha hkind
    rcases List.mem_append.mp ha with ha | ha
    · exact hold a ha hkind
    · obtain rfl := List.mem_singleton.mp ha
      exact hnew hchoose hkind

variable {ownership : Ownership} {purpose : Str}

theorem grows_allocateInt (low high : Int) (observed : Option (List Int)) (field reason : Str) :
    Grows (allocateInt ownership .vlanTag purpose low high observed field reason) := by
  cases observed with
  | none => exact Grows.error _
  | some observed =>
      refine ⟨fun _ _ _ h => allocate_extends (allocateInt_some ▸ h), fun _ _ _ h htidy => ?_⟩
      exact ⟨allocateInt_sound htidy.sound h,
        unreserved_of_allocate (fun _ hkind => by cases hkind) (allocateInt_some ▸ h)
          htidy.unreserved⟩

theorem grows_allocateVmid (pools : IpamPools) (observed : Option (List Int)) (lxc : Bool) :
    Grows (allocateVmid ownership purpose pools observed lxc) := by
  cases observed with
  | none => exact Grows.error _
  | some observed =>
      refine ⟨fun _ _ _ h => allocate_extends (allocateVmid_some ▸ h), fun _ _ _ h htidy => ?_⟩
      refine ⟨allocateVmid_sound htidy.sound h,
        unreserved_of_allocate (fun _ hkind => ?_) (allocateVmid_some ▸ h) htidy.unreserved⟩
      cases lxc <;> cases hkind

theorem grows_allocateMac (observed : Option (List Str)) :
    Grows (allocateMac ownership purpose observed) := by
  cases observed with
  | none => exact Grows.error _
  | some observed =>
      refine ⟨fun _ _ _ h => allocate_extends (allocateMac_some ▸ h), fun _ _ _ h htidy => ?_⟩
      exact ⟨allocateMac_sound htidy.sound h,
        unreserved_of_allocate (fun _ hkind => by cases hkind) (allocateMac_some ▸ h)
          htidy.unreserved⟩

theorem grows_allocateSubnet (pools : IpamPools) (observed : Option (List Str))
    (management : List Str) :
    Grows (allocateSubnet ownership purpose pools observed management) := by
  cases observed with
  | none => exact Grows.error _
  | some observed =>
      refine ⟨fun _ _ _ h => allocate_extends (allocateSubnet_some ▸ h), fun _ _ _ h htidy => ?_⟩
      exact ⟨allocateSubnet_sound htidy.sound h,
        unreserved_of_allocate (fun _ hkind => by cases hkind) (allocateSubnet_some ▸ h)
          htidy.unreserved⟩

theorem grows_allocateName {kind : AllocationKind} (hkind : kind.IsName)
    (hother : kind ≠ .firewallObjectName) (candidate : Str) (observed : Option (List Str))
    (field reason : Str) (maxLength : Option Int) :
    Grows (allocateName ownership purpose kind candidate observed field reason maxLength) := by
  cases observed with
  | none => exact Grows.error _
  | some observed =>
      refine ⟨fun _ _ _ h => allocate_extends (allocateName_some ▸ h), fun _ _ _ h htidy => ?_⟩
      exact ⟨allocateName_sound htidy.sound hkind h,
        unreserved_of_allocate (fun _ hk => absurd hk hother) (allocateName_some ▸ h)
          htidy.unreserved⟩

/-- An address allocation in a version 4 subnet. -/
theorem grows_allocateAddress {subnet : Ip.Network} (hsubnet : subnet.version = .v4)
    {kind : AllocationKind} (hkind : kind.space = .address) (offset : Option Int) :
    Grows (allocateAddress ownership purpose subnet kind offset) := by
  refine ⟨fun _ _ _ h => allocate_extends h, fun _ _ _ h htidy => ?_⟩
  refine ⟨allocateAddress_sound htidy.sound hsubnet hkind h,
    unreserved_of_allocate (fun _ hk => ?_) h htidy.unreserved⟩
  rw [hk] at hkind
  cases hkind

/-! ## Firewall names keep their prefix -/

omit [Unicode] in
/-- Cutting a name to 27 characters, or to 25 and a discriminator, keeps a short prefix. -/
theorem take_of_prefix {p rest : Str} {n : Nat} (h : p.length ≤ n) :
    ∃ rest', (p ++ rest).take n = p ++ rest' := by
  rw [List.take_append, List.take_of_length_le h]
  exact ⟨_, rfl⟩

omit [Unicode] in
theorem firewallName_of_prefix {p rest name : Str} (hp : p.length ≤ 25)
    (h : name = boundName (p ++ rest) (some 27) ∨
      ∃ digest, name = discriminated (boundName (p ++ rest) (some 27)) (some 27) digest) :
    ∃ rest', name = p ++ rest' := by
  have hbound : ∃ rest', boundName (p ++ rest) (some 27) = p ++ rest' := by
    unfold boundName
    dsimp only
    split
    · exact take_of_prefix (n := 27) (by omega)
    · exact ⟨rest, rfl⟩
  obtain ⟨cut, hcut⟩ := hbound
  rcases h with rfl | ⟨digest, rfl⟩
  · exact ⟨cut, hcut⟩
  · rw [hcut]
    obtain ⟨rest', hrest'⟩ : ∃ rest', (p ++ cut).take 25 = p ++ rest' := take_of_prefix hp
    refine ⟨rest' ++ hex2 (digest % 256), ?_⟩
    have htake : takeInt (max 0 ((27 : Int) - (hex2 (digest % 256)).length)) (p ++ cut) =
        (p ++ cut).take 25 := rfl
    rw [discriminated, htake, hrest', List.append_assoc]

omit [Unicode] in
theorem append_ne_of_not_prefix {p rest name : Str} (h : ¬p <+: name) : p ++ rest ≠ name := by
  rintro rfl
  exact h (List.prefix_append p rest)

omit [Unicode] in
/-- The two prefixes the compiler proposes firewall names with. -/
theorem not_reserved_of_prefix {p rest : Str}
    (hp : p = str "secp-team-" ∨ p = str "secp-sg-") : ¬ReservedIpset (p ++ rest) := by
  have hmgmt : ipsetManagement = "secp-mgmt".toList := by simp [ipsetManagement, str]
  have hctl : ipsetControlPlane = "secp-ctlplane".toList := by simp [ipsetControlPlane, str]
  rintro (h | h)
  · rw [hmgmt] at h
    rcases hp with rfl | rfl <;> simp only [str] at h <;>
      exact append_ne_of_not_prefix (by decide) h
  · rw [hctl] at h
    rcases hp with rfl | rfl <;> simp only [str] at h <;>
      exact append_ne_of_not_prefix (by decide) h

theorem grows_allocateFirewallName (observation : TargetObservation) {p : Str}
    (hp : p = str "secp-team-" ∨ p = str "secp-sg-") (rest : Str) :
    Grows (allocateFirewallName observation ownership purpose (p ++ rest)) := by
  have hlength : p.length ≤ 25 := by
    rcases hp with rfl | rfl <;> simp [str]
  unfold allocateFirewallName
  cases observation.firewallNamesInUse with
  | none => exact Grows.error _
  | some observed =>
      refine ⟨fun _ _ _ h => allocate_extends (allocateName_some ▸ h), fun _ _ _ h htidy => ?_⟩
      refine ⟨allocateName_sound htidy.sound (show AllocationKind.IsName .firewallObjectName from rfl) h,
        unreserved_of_allocate (fun hchoose _ => ?_) (allocateName_some ▸ h) htidy.unreserved⟩
      obtain ⟨rest', hname⟩ := firewallName_of_prefix hlength (chooseName_sound hchoose).1
      rw [hname]
      exact not_reserved_of_prefix hp

end

end Secp.Proxmox
