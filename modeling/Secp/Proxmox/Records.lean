import Secp.Proxmox.Naming
import Secp.Proxmox.Recompile

/-!
# What a network compilation records

Every step of a network compilation adds at most one record to its ledger. So what is true of each record
that a step can add is true of all that a compilation records: none is the address of a guest, and each name
of a firewall object was drawn for the object it is recorded under.
-/

namespace Secp.Proxmox

open Secp.Python Secp.Logic AllocationLedger

/-! ## What steps and runs add -/

/-- What the allocator adds is of the kind. -/
def AddsOnly {α : Type} (kind : AllocationKind) (act : Allocator α) : Prop :=
  ∀ ledger v ledger', act ledger = .ok (v, ledger') →
    ∀ a ∈ ledger'.records, a ∈ ledger.records ∨ a.kind = kind

/-- What the allocator adds has the property. -/
def AddsSuch {α : Type} (P : Allocation → Prop) (act : Allocator α) : Prop :=
  ∀ ledger v ledger', act ledger = .ok (v, ledger') →
    ∀ a ∈ ledger'.records, a ∈ ledger.records ∨ P a

/-- What a run adds to the ledger has the property. -/
def Gains (P : Allocation → Prop) (s t : Session) : Prop :=
  ∀ a ∈ t.ledger.records, a ∈ s.ledger.records ∨ P a

section
variable {α β : Type} {P : Allocation → Prop}

theorem addsOnly_error (kind : AllocationKind) (e : Raised) :
    AddsOnly kind (fun _ => .error e : Allocator α) := fun _ _ _ h => by cases h

theorem AddsOnly.such {kind : AllocationKind} {act : Allocator α} (h : AddsOnly kind act)
    (hP : ∀ a : Allocation, a.kind = kind → P a) : AddsSuch P act := by
  intro ledger v ledger' hrun a ha
  exact (h ledger v ledger' hrun a ha).imp_right (hP a)

theorem Gains.refl (s : Session) : Gains P s s := fun _ ha => .inl ha

theorem Gains.trans (s t u : Session) (h : Gains P s t) (h' : Gains P t u) : Gains P s u :=
  fun a ha => (h' a ha).elim (h a) .inr

theorem gains_pure (a : α) : Keeps (Gains P) (pure a : Compile α) := Keeps.pure Gains.refl a

theorem gains_bind {c : Compile α} {f : α → Compile β} (hc : Keeps (Gains P) c)
    (hf : ∀ a, Keeps (Gains P) (f a)) : Keeps (Gains P) (c >>= f) := Keeps.bind Gains.trans hc hf

theorem gains_check (result : Except Raised α) : Keeps (Gains P) (check result) := by
  intro s a t hrun
  obtain ⟨_, rfl⟩ := run_check_eq_ok.mp hrun
  exact Gains.refl s

theorem gains_get : Keeps (Gains P) (get : Compile Session) := by
  intro s a t hrun
  obtain ⟨_, rfl⟩ := run_get_eq_ok.mp hrun
  exact Gains.refl s

theorem gains_logRun {act : Allocator α} (hact : AddsSuch P act) : Keeps (Gains P) (logRun act) := by
  intro s v t hrun
  rcases run_logRun_eq_ok.mp hrun with hvalue | hnote
  · obtain ⟨_, ledger, hledger, _, rfl⟩ := hvalue
    exact hact _ _ _ hledger
  · obtain ⟨_, _, _, rfl⟩ := hnote
    exact Gains.refl s

theorem gains_allocating {act : Allocator α} (hact : AddsSuch P act) :
    Keeps (Gains P) (allocating act) := by
  intro s v t hrun
  obtain ⟨ledger, hledger, rfl⟩ := run_allocating_eq_ok.mp hrun
  exact hact _ _ _ hledger

end

section
variable [Unicode]

/-! ## What a step may record -/

/-- The texts a firewall object's name is recorded under and drawn from: those of a team's IPSet or of a
VNet's security group. -/
def FirewallAsk (purpose candidate : Str) : Prop :=
  (∃ team, purpose = team ++ str "/ipset" ∧ candidate = str "secp-team-" ++ team) ∨
    ∃ v : VNetSpec, purpose = v.vnetAlias ++ str "/secgroup" ∧ candidate = str "secp-sg-" ++ v.name

/-- What a network compilation may record: no guest address, and as the name of a firewall object one that
was drawn for it. -/
structure OfNetwork (a : Allocation) : Prop where
  kind : a.kind ≠ .guestAddress
  drawn : a.kind = .firewallObjectName → ∃ candidate taken, FirewallAsk a.purpose candidate ∧
    freeName .firewallObjectName (some 27) ⟨a.scope, a.purpose, candidate⟩ taken = some a.value

/-- The property of every record that a step of a network compilation adds. -/
structure OfSteps (request : WebBreachLabRequest) (o : TargetObservation) (P : Allocation → Prop) :
    Prop where
  subnet : ∀ ownership purpose, AddsSuch P (allocateSegmentSubnet request o ownership purpose)
  firewallName : ∀ ownership purpose candidate, FirewallAsk purpose candidate →
    AddsSuch P (allocateFirewallName o ownership purpose candidate)
  other : ∀ a : Allocation, a.kind ∉
    [AllocationKind.guestAddress, .firewallObjectName, .subnet] → P a

section
variable {α : Type} {P : Allocation → Prop}

theorem addsSuch_allocate (scope : Scope) (kind : AllocationKind) (purpose : Str)
    (read : Str → Except Raised α) {choose : AllocationLedger → Except Raised α} {text : α → Str}
    (h : ∀ ledger v, choose ledger = .ok v → P ⟨kind, scope, purpose, text v⟩) :
    AddsSuch P (allocate scope kind purpose read choose text) := by
  intro ledger v ledger' hrun a ha
  rcases allocate_eq_ok_iff.mp hrun with hold | hnew
  · obtain ⟨_, _, _, rfl⟩ := hold
    exact .inl ha
  · obtain ⟨_, hchoose, _, rfl⟩ := hnew
    rcases List.mem_append.mp ha with ha | ha
    · exact .inl ha
    · rw [List.mem_singleton.mp ha]
      exact .inr (h ledger v hchoose)

theorem addsOnly_allocate (scope : Scope) (kind : AllocationKind) (purpose : Str)
    (read : Str → Except Raised α) (choose : AllocationLedger → Except Raised α) (text : α → Str) :
    AddsOnly kind (allocate scope kind purpose read choose text) :=
  addsSuch_allocate scope kind purpose read fun _ _ _ => rfl

theorem addsOnly_allocateName (ownership : Ownership) (purpose : Str) (kind : AllocationKind)
    (candidate : Str) (observed : Option (List Str)) (field reason : Str)
    (maxLength : Option Int) :
    AddsOnly kind
      (allocateName ownership purpose kind candidate observed field reason maxLength) := by
  cases observed with
  | none => exact addsOnly_error _ _
  | some observed =>
      rw [allocateName_some]
      exact addsOnly_allocate _ _ _ _ _ _

theorem addsSuch_allocateFirewallName (o : TargetObservation) (ownership : Ownership)
    {purpose candidate : Str} (hask : FirewallAsk purpose candidate) :
    AddsSuch OfNetwork (allocateFirewallName o ownership purpose candidate) := by
  unfold allocateFirewallName
  cases o.firewallNamesInUse with
  | none => exact fun _ _ _ h => by cases h
  | some inUse =>
      rw [allocateName_some]
      refine addsSuch_allocate _ _ _ _ fun ledger name hchoose =>
        ⟨AllocationKind.noConfusion, fun _ => ?_⟩
      have hfree := (@chooseName_eq_ok_iff _ _ _ ⟨ownership.scopeKey, purpose, candidate⟩ _ _ _).mp hchoose
      exact ⟨candidate, _, hask, hfree⟩

theorem addsOnly_allocateSegmentSubnet (request : WebBreachLabRequest) (o : TargetObservation)
    (ownership : Ownership) (purpose : Str) :
    AddsOnly .subnet (allocateSegmentSubnet request o ownership purpose) := by
  unfold allocateSegmentSubnet
  cases o.subnetsInUse with
  | none => exact addsOnly_error _ _
  | some cidrs =>
      rw [allocateSubnet_some]
      exact addsOnly_allocate _ _ _ _ _ _

theorem ofSteps_ofNetwork (request : WebBreachLabRequest) (o : TargetObservation) :
    OfSteps request o OfNetwork where
  subnet ownership purpose := (addsOnly_allocateSegmentSubnet request o ownership purpose).such
    fun a hkind => ⟨by simp [hkind], by simp [hkind]⟩
  firewallName ownership _ _ hask := addsSuch_allocateFirewallName o ownership hask
  other a hkind := by
    simp only [List.mem_cons, List.not_mem_nil, or_false, not_or] at hkind
    exact ⟨hkind.1, fun hname => absurd hname hkind.2.1⟩

end

/-! ## The compilation -/

section
variable {request : WebBreachLabRequest} {o : TargetObservation} {P : Allocation → Prop}
  (hP : OfSteps request o P)
include hP

theorem OfSteps.addsSuch {α : Type} {kind : AllocationKind} {act : Allocator α}
    (h : AddsOnly kind act)
    (hkind : kind ∉ [AllocationKind.guestAddress, .firewallObjectName, .subnet]) : AddsSuch P act :=
  h.such fun a ha => hP.other a (ha ▸ hkind)

theorem OfSteps.compileSegment (zoneName : Option Str) (compiled : Dict Str VNetSpec)
    (segment : Segment) :
    Keeps (Gains P) (compileSegment request o zoneName compiled segment) := by
  have hvlan : ∀ ownership purpose,
      AddsOnly .vlanTag (allocateVlan request o ownership purpose) := by
    intro ownership purpose
    unfold allocateVlan
    cases o.vlanTagsInUse with
    | none => exact addsOnly_error _ _
    | some tags =>
        rw [allocateInt_some]
        exact addsOnly_allocate _ _ _ _ _ _
  refine gains_bind (gains_check _) fun ownership => ?_
  refine gains_bind (gains_logRun (hP.addsSuch (addsOnly_allocateName _ _ _ _ _ _ _ _) (by decide)))
    fun name => ?_
  refine gains_bind (gains_logRun (hP.addsSuch (hvlan _ _) (by decide))) fun vlan => ?_
  refine gains_bind (gains_logRun (hP.subnet _ _)) fun subnet => ?_
  split
  · refine gains_bind ?_ fun vnet => gains_pure _
    refine gains_bind (gains_allocating (hP.addsSuch (addsOnly_allocate _ _ _ _ _ _) (by decide)))
      fun gateway => ?_
    exact gains_bind (gains_check _) fun spec => gains_check _
  · exact gains_pure _

/-- Each turn of the two loops draws the name of one object. -/
theorem OfSteps.compileFirewall (vnets : List VNetSpec) :
    Keeps (Gains P) (compileFirewall request o vnets) := by
  refine gains_bind (gains_check _) fun ownership => ?_
  refine gains_bind (gains_check _) fun shared => ?_
  refine gains_bind (Keeps.foldlM Gains.refl Gains.trans (fun ipSets item => ?_) _ _)
    fun ipSets => ?_
  · unfold compileTeamIpSet
    split
    · exact gains_pure _
    · next team members =>
        refine gains_bind (gains_check _) fun ownership => ?_
        refine gains_bind (gains_logRun (hP.firewallName ownership _ _ (.inl ⟨team, rfl, rfl⟩)))
          fun name => ?_
        cases name with
        | none => exact gains_pure _
        | some name => exact gains_bind (gains_check _) fun ipSet => gains_pure _
  · refine gains_bind (Keeps.foldlM Gains.refl Gains.trans (fun state vnet => ?_) _ _)
      fun groups => gains_pure _
    refine gains_bind (gains_logRun (hP.firewallName vnet.ownership _ _ (.inr ⟨vnet, rfl, rfl⟩)))
      fun name => ?_
    cases name with
    | none => exact gains_pure _
    | some name => exact gains_bind (gains_check _) fun group => gains_pure _

theorem OfSteps.compileNetwork : Keeps (Gains P) (compileNetwork request o) := by
  refine gains_bind (gains_check _) fun ownership => ?_
  refine gains_bind (gains_logRun (hP.addsSuch (addsOnly_allocateName _ _ _ _ _ _ _ _) (by decide)))
    fun zoneName => ?_
  refine gains_bind (Keeps.foldlM Gains.refl Gains.trans
    (hP.compileSegment zoneName) _ _) fun compiled => ?_
  refine gains_bind gains_get fun session => ?_
  unfold concludeNetwork
  split
  · refine gains_bind (gains_check _) fun zone => ?_
    refine gains_bind (hP.compileFirewall _) fun firewall => ?_
    exact gains_bind gains_get fun session => gains_pure _
  · exact gains_pure _

/-- Whatever a network compilation leaves in its ledger, it recorded itself. -/
theorem OfSteps.of_compileWebBreachLab {network : SegregatedNetworkPlan}
    {ledger : AllocationLedger}
    (h : compileWebBreachLab request o AllocationLedger.empty = .ok (.plan network, ledger)) :
    ∀ a ∈ ledger.records, P a := by
  obtain ⟨t, hrun, rfl⟩ := compileWebBreachLab_eq_ok.mp h
  exact fun a ha => (hP.compileNetwork _ _ _ hrun a ha).resolve_left List.not_mem_nil

end

theorem ofNetwork_of_compileWebBreachLab {request : WebBreachLabRequest} {o : TargetObservation}
    {network : SegregatedNetworkPlan} {ledger : AllocationLedger}
    (h : compileWebBreachLab request o AllocationLedger.empty = .ok (.plan network, ledger)) :
    ∀ a ∈ ledger.records, OfNetwork a :=
  (ofSteps_ofNetwork request o).of_compileWebBreachLab h

end

end Secp.Proxmox
