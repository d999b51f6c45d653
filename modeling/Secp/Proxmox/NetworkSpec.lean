import Secp.Proxmox.NetworkLemmas

/-!
# What a compiled network is

`Compiled` describes the plans `compileWebBreachLab` returns from an empty ledger, in terms of the
request and the observation alone: one VNet for each segment with pairwise disjoint subnets, IPSets
that resolve to the management plane, the control plane and each team's own subnets, and for each
VNet a group that holds exactly the authored rules in their bands.
-/

namespace Secp.Proxmox

open Secp.Python Secp.Logic AllocationLedger

section
variable [Unicode]

/-! ## Recorded values -/

variable {ledger ledger' : AllocationLedger} {ownership : Ownership} {purpose : Str}

theorem allocateName_recorded {kind : AllocationKind} {candidate : Str}
    {observed : Option (List Str)} {field reason : Str} {maxLength : Option Int} {name : Str}
    (h : allocateName ownership purpose kind candidate observed field reason maxLength ledger =
      .ok (name, ledger')) : ⟨kind, ownership.scopeKey, purpose, name⟩ ∈ ledger'.records := by
  cases observed with
  | none => cases h
  | some observed =>
      rw [allocateName_some] at h
      rcases allocate_eq_ok_iff.mp h with ⟨a, hget, hvalue, rfl⟩ | ⟨_, _, _, rfl⟩
      · cases hvalue
        exact mem_of_get hget
      · exact List.mem_append_right _ List.mem_cons_self

theorem allocateSubnet_recorded {pools : IpamPools} {observed : Option (List Str)}
    {management : List Str} {n : Ip.Network} (hsound : Sound ledger)
    (h : allocateSubnet ownership purpose pools observed management ledger = .ok (n, ledger')) :
    n.version = .v4 ∧ ⟨.subnet, ownership.scopeKey, purpose, n.text⟩ ∈ ledger'.records := by
  cases observed with
  | none => cases h
  | some observed =>
      rw [allocateSubnet_some] at h
      rcases allocate_eq_ok_iff.mp h with ⟨a, hget, hvalue, rfl⟩ | ⟨_, hchoose, _, rfl⟩
      · have hmem := mem_of_get hget
        obtain ⟨m, hversion, htext⟩ : IdentifierSpace.subnet.Canonical a.value :=
          hsound.canonical _ hmem
        rw [htext, Ip.ipNetwork_text true hversion] at hvalue
        cases hvalue
        rw [← htext]
        exact ⟨hversion, hmem⟩
      · exact ⟨candidateSubnets_v4 (chooseSubnet_sound hchoose).1,
          List.mem_append_right _ List.mem_cons_self⟩

/-! ## Segments -/

variable {request : WebBreachLabRequest} {observation : TargetObservation}

theorem ownershipOf_eq_ok {kind : RangeResourceKind} {team : Option Str}
    (h : ownershipOf request kind team = .ok ownership) :
    ownership.teamRef = team ∧ ownership.scopeKey =
      (request.organizationId, request.targetId, request.rangeId, team.getD [],
        request.generation) := by
  obtain ⟨horg, htarget, hrange, hgen, _, _, hteam⟩ := Ownership.make_eq_ok h
  exact ⟨hteam, by rw [Ownership.scopeKey, horg, htarget, hrange, hteam, hgen]⟩

/-- A VNet compiled for a segment, with its name and subnet recorded in the ledger. -/
structure SegmentVnet (request : WebBreachLabRequest) (ledger : AllocationLedger)
    (segment : Segment) (vnet : VNetSpec) : Prop where
  ownership : ownershipOf request .network segment.teamRef = .ok vnet.ownership
  role : vnet.role = segment.role
  vnetAlias : vnet.vnetAlias = segmentPurpose segment.teamRef segment.role
  name : ⟨.vnetName, vnet.ownership.scopeKey, vnet.vnetAlias, vnet.name⟩ ∈ ledger.records
  subnet : ∃ n : Ip.Network, n.version = .v4 ∧ vnet.subnet.cidr = n.text ∧
    ⟨.subnet, vnet.ownership.scopeKey, vnet.vnetAlias, n.text⟩ ∈ ledger.records

theorem SegmentVnet.mono {segment : Segment} {vnet : VNetSpec}
    (h : SegmentVnet request ledger segment vnet) (hext : Extends ledger ledger') :
    SegmentVnet request ledger' segment vnet := by
  obtain ⟨n, hversion, hcidr, hmem⟩ := h.subnet
  exact ⟨h.ownership, h.role, h.vnetAlias, hext h.name, n, hversion, hcidr, hext hmem⟩

omit [Unicode] in
theorem make_subnet_eq_ok {cidr gateway : Str} {routed : Bool} {spec : SubnetSpec}
    (h : SubnetSpec.make cidr gateway routed = .ok spec) : spec.cidr = cidr := by
  unfold SubnetSpec.make at h
  split at h
  · cases h
    rfl
  · split at h <;> cases h

theorem make_vnet_eq_ok {name zoneName : Str} {vlan : Int} {subnet : SubnetSpec}
    {role : SegmentRole} {vnetAlias : Str} {vnet : VNetSpec}
    (h : VNetSpec.make name zoneName vlan subnet role ownership vnetAlias = .ok vnet) :
    vnet.name = name ∧ vnet.subnet = subnet ∧ vnet.role = role ∧ vnet.ownership = ownership ∧
      vnet.vnetAlias = vnetAlias := by
  unfold VNetSpec.make at h
  split at h
  · split at h
    · cases h
      exact ⟨rfl, rfl, rfl, rfl, rfl⟩
    · cases h
  · cases h

variable {zoneName : Option Str} {segment : Segment} {s t : Session}

/-- Building a VNet around its identifiers. -/
theorem run_buildVnet {name : Str} {vlan : Int} {subnet : Ip.Network} {vnet : VNetSpec}
    (hrun : (buildVnet zoneName segment ownership name vlan subnet).run s = .ok (vnet, t)) :
    Extends s.ledger t.ledger ∧ t.blocked = s.blocked ∧
      (subnet.version = .v4 → Tidy s.ledger → Tidy t.ledger) ∧
      vnet.name = name ∧ vnet.subnet.cidr = subnet.text ∧ vnet.role = segment.role ∧
      vnet.ownership = ownership ∧
      vnet.vnetAlias = segmentPurpose segment.teamRef segment.role := by
  obtain ⟨gateway, s1, hgateway, hrun⟩ := run_bind_eq_ok.mp hrun
  obtain ⟨spec, s2, hspec, hrun⟩ := run_bind_eq_ok.mp hrun
  obtain ⟨ledger1, hledger1, rfl⟩ := run_allocating_eq_ok.mp hgateway
  obtain ⟨hmade, rfl⟩ := run_check_eq_ok.mp hspec
  obtain ⟨hvnet, rfl⟩ := run_check_eq_ok.mp hrun
  obtain ⟨hname, hsubnet, hrole, howner, halias⟩ := make_vnet_eq_ok hvnet
  refine ⟨allocate_extends hledger1, rfl, fun hversion htidy => ?_, hname, ?_, hrole, howner,
    halias⟩
  · exact (grows_allocateAddress hversion rfl (some 0)).tidy _ _ _ hledger1 htidy
  · rw [hsubnet]
    exact make_subnet_eq_ok hmade

/-- One turn of the segment loop. -/
theorem run_compileSegment {compiled compiled' : Dict Str VNetSpec}
    (hrun : (compileSegment request observation zoneName compiled segment).run s =
      .ok (compiled', t)) (htidy : Tidy s.ledger) :
    Evolves s t ∧ (t.blocked = [] → ∃ vnet, compiled' = compiled.set vnet.name vnet ∧
      SegmentVnet request t.ledger segment vnet) := by
  obtain ⟨ownership, s0, hcheck, hrun⟩ := run_bind_eq_ok.mp hrun
  obtain ⟨howner, rfl⟩ := run_check_eq_ok.mp hcheck
  obtain ⟨name, s1, hname, hrun⟩ := run_bind_eq_ok.mp hrun
  obtain ⟨vlan, s2, hvlan, hrun⟩ := run_bind_eq_ok.mp hrun
  obtain ⟨subnet, s3, hsubnet, hrun⟩ := run_bind_eq_ok.mp hrun
  have e1 : Evolves s s1 := keeps_logRun (grows_allocateName
    (show AllocationKind.IsName .vnetName from rfl) (by decide) _ _ _ _ _) _ _ _ hname
  have e2 : Evolves s1 s2 := keeps_logRun (grows_allocateInt _ _ _ _ _) _ _ _ hvlan
  have e3 : Evolves s2 s3 := keeps_logRun (grows_allocateSubnet _ _ _) _ _ _ hsubnet
  have e13 := Evolves.trans _ _ _ e1 (Evolves.trans _ _ _ e2 e3)
  -- a loop turn that misses an identifier leaves the session blocked
  have hskip : (name = none ∨ vlan = none ∨ subnet = none) → s3.blocked ≠ [] := by
    intro hnone hblocked
    obtain ⟨n, l3, _, rfl, _⟩ := run_logRun_of_unblocked hsubnet hblocked
    obtain ⟨v, l2, _, rfl, _⟩ := run_logRun_of_unblocked hvlan (e3.unblocked hblocked)
    obtain ⟨x, l1, _, rfl, _⟩ :=
      run_logRun_of_unblocked hname (e2.unblocked (e3.unblocked hblocked))
    simp at hnone
  have hpure : (pure compiled : Compile (Dict Str VNetSpec)).run s3 = .ok (compiled', t) →
      s3.blocked ≠ [] → Evolves s t ∧ (t.blocked = [] → ∃ vnet,
        compiled' = compiled.set vnet.name vnet ∧ SegmentVnet request t.ledger segment vnet) := by
    intro hrun hne
    obtain ⟨rfl, rfl⟩ := run_pure_eq_ok.mp hrun
    exact ⟨e13, fun hblocked => absurd hblocked hne⟩
  cases name with
  | none => exact hpure hrun (hskip (by simp))
  | some name =>
      cases vlan with
      | none => exact hpure hrun (hskip (by simp))
      | some vlan =>
          cases subnet with
          | none => exact hpure hrun (hskip (by simp))
          | some subnet =>
              obtain ⟨vnet, s4, hbuild, hrun⟩ := run_bind_eq_ok.mp hrun
              obtain ⟨rfl, rfl⟩ := run_pure_eq_ok.mp hrun
              obtain ⟨hext, hblocked, hkeep, hvname, hcidr, hrole, hvowner, halias⟩ :=
                run_buildVnet hbuild
              obtain ⟨l1, hl1, rfl⟩ := run_logRun_some hname
              obtain ⟨l3, hl3, rfl⟩ := run_logRun_some hsubnet
              have htidy2 := e2.tidy (e1.tidy htidy)
              obtain ⟨hversion, hrecorded⟩ := allocateSubnet_recorded htidy2.sound hl3
              have hnamed := allocateName_recorded hl1
              refine ⟨Evolves.trans _ _ _ e13 ⟨hext, fun h => hblocked ▸ h, hkeep hversion⟩,
                fun _ => ⟨vnet, by rw [hvname], ?_⟩⟩
              refine ⟨by rw [hvowner, howner], hrole, halias, ?_, subnet, hversion, hcidr, ?_⟩
              · rw [hvowner, halias, hvname]
                exact hext (e3.keeps (e2.keeps hnamed))
              · rw [hvowner, halias]
                exact hext hrecorded

/-! ## The segment loop -/

/-- What distinguishes the allocations of one segment from those of another. -/
def Segment.key (segment : Segment) : Str × Str :=
  (segment.teamRef.getD [], segmentPurpose segment.teamRef segment.role)

omit [Unicode] in
theorem role_value_injective {a b : SegmentRole} (h : a.value = b.value) : a = b := by
  cases a <;> cases b <;> simp [SegmentRole.value] at h <;> rfl

omit [Unicode] in
/-- Segments of one team have different purposes for different roles. -/
theorem key_ne_of_role_ne {a b : Segment} (hteam : a.teamRef = b.teamRef) (hrole : a.role ≠ b.role) :
    a.key ≠ b.key := by
  intro h
  have hpurpose := (Prod.mk.inj h).2
  rw [hteam] at hpurpose
  exact hrole (role_value_injective (List.append_cancel_left hpurpose))

omit [Unicode] in
theorem key_ne_of_team_ne {a b : Segment} (hteam : a.teamRef.getD [] ≠ b.teamRef.getD []) :
    a.key ≠ b.key := fun h => hteam (Prod.mk.inj h).1

/-- The segments one team contributes. -/
def teamSegments (entry : TeamRequest × Nat) : List Segment :=
  [⟨some entry.1.teamRef, .attacker, vnetName (some entry.2) .attacker⟩,
    ⟨some entry.1.teamRef, .vulnerable, vnetName (some entry.2) .vulnerable⟩] ++
  if entry.1.includeSensor then
    [⟨some entry.1.teamRef, .sensor, vnetName (some entry.2) .sensor⟩]
  else []

theorem segments_eq (request : WebBreachLabRequest) :
    segments request = ⟨none, .scoring, str "score"⟩ ::
      (request.teams.zipIdx 1).flatMap teamSegments := rfl

theorem teamRef_of_mem_teamSegments {entry : TeamRequest × Nat} {segment : Segment}
    (h : segment ∈ teamSegments entry) :
    segment.teamRef = some entry.1.teamRef ∧ segment.role ≠ .scoring := by
  unfold teamSegments at h
  split at h <;> simp only [List.cons_append, List.nil_append, List.append_nil, List.mem_cons,
    List.not_mem_nil, or_false] at h
  · rcases h with rfl | rfl | rfl <;> simp
  · rcases h with rfl | rfl <;> simp

/-- Every segment draws its allocations under its own key. -/
theorem segments_pairwise (request : WebBreachLabRequest) :
    (segments request).Pairwise fun a b => a.key ≠ b.key := by
  rw [segments_eq, List.pairwise_cons, List.pairwise_flatMap]
  refine ⟨fun segment hmem => ?_, fun entry _ => ?_, ?_⟩
  · obtain ⟨entry, _, hentry⟩ := List.mem_flatMap.mp hmem
    refine key_ne_of_team_ne ?_
    rw [(teamRef_of_mem_teamSegments hentry).1]
    exact Ne.symm entry.1.teamRef_valid.1
  · unfold teamSegments
    split <;> simp [key_ne_of_role_ne]
  · have hteams : (request.teams.zipIdx 1).Pairwise fun a b => a.1.teamRef ≠ b.1.teamRef := by
      have hnodup := request.teamRefs_nodup
      rw [← List.zipIdx_map_fst 1 request.teams, List.map_map] at hnodup
      exact List.pairwise_map.mp hnodup
    refine hteams.imp fun hne a ha b hb => key_ne_of_team_ne ?_
    rw [(teamRef_of_mem_teamSegments ha).1, (teamRef_of_mem_teamSegments hb).1]
    exact hne

section
variable {a b : Segment} {v w : VNetSpec}

/-- The records of two segments differ, since their keys do. -/
theorem SegmentVnet.record_ne (hv : SegmentVnet request ledger a v)
    (hw : SegmentVnet request ledger b w) (hkey : a.key ≠ b.key) (kind : AllocationKind)
    (x y : Str) :
    (⟨kind, v.ownership.scopeKey, v.vnetAlias, x⟩ : Allocation) ≠
      ⟨kind, w.ownership.scopeKey, w.vnetAlias, y⟩ := by
  intro h
  injection h with _ hscope hpurpose _
  rw [(ownershipOf_eq_ok hv.ownership).2, (ownershipOf_eq_ok hw.ownership).2] at hscope
  rw [hv.vnetAlias, hw.vnetAlias] at hpurpose
  simp only [Prod.mk.injEq] at hscope
  exact hkey (Prod.ext hscope.2.2.2.1 hpurpose)

theorem SegmentVnet.name_ne (hsound : Sound ledger) (hv : SegmentVnet request ledger a v)
    (hw : SegmentVnet request ledger b w) (hkey : a.key ≠ b.key) : v.name ≠ w.name := by
  intro hname
  exact hsound.not_conflicts hv.name hw.name (hv.record_ne hw hkey _ _ _)
    ⟨rfl, congrArg lower hname⟩

/-- No address lies in the subnets of two segments. -/
theorem SegmentVnet.disjoint (hsound : Sound ledger) (hv : SegmentVnet request ledger a v)
    (hw : SegmentVnet request ledger b w) (hkey : a.key ≠ b.key) {x : Ip.Address}
    (hx : v.subnet.Contains x) : ¬w.subnet.Contains x := by
  rintro ⟨n, hn, hxn⟩
  obtain ⟨m, hm, hxm⟩ := hx
  obtain ⟨m', hmversion, hmcidr, hmmem⟩ := hv.subnet
  obtain ⟨n', hnversion, hncidr, hnmem⟩ := hw.subnet
  rw [hmcidr] at hm
  rw [hncidr] at hn
  refine hsound.not_conflicts hmmem hnmem (hv.record_ne hw hkey _ _ _) ⟨rfl, m, n, hm, hn, ?_⟩
  exact Ip.overlaps_iff.mpr ⟨x, hxm, hxn⟩

end

/-- The dictionary of compiled VNets, one entry for each segment in order. -/
def SegmentEntries (request : WebBreachLabRequest) (ledger : AllocationLedger) :
    List Segment → Dict Str VNetSpec → Prop :=
  List.Forall₂ fun segment entry => entry.1 = entry.2.name ∧
    SegmentVnet request ledger segment entry.2

theorem SegmentEntries.mono {done : List Segment} {compiled : Dict Str VNetSpec}
    (h : SegmentEntries request ledger done compiled) (hext : Extends ledger ledger') :
    SegmentEntries request ledger' done compiled :=
  List.Forall₂.imp (fun _ _ hentry => ⟨hentry.1, hentry.2.mono hext⟩) h

/-- The segment loop compiles every segment, in order. -/
theorem run_segments {compiled : Dict Str VNetSpec} (htidy : Tidy s.ledger)
    (hrun : ((segments request).foldlM (compileSegment request observation zoneName) []).run s =
      .ok (compiled, t)) :
    Evolves s t ∧ (t.blocked = [] → SegmentEntries request t.ledger (segments request) compiled) := by
  refine Ensures.foldlM (fun done compiled t => Evolves s t ∧
    (t.blocked = [] → SegmentEntries request t.ledger done compiled)) ?_ [] s compiled t
    ⟨Evolves.refl s, fun _ => .nil⟩ hrun
  rintro done segment rest compiled hall m compiled' t ⟨hbefore, hdone⟩ hrun
  have htidy := hbefore.tidy htidy
  obtain ⟨hevolves, hresult⟩ := run_compileSegment hrun htidy
  refine ⟨Evolves.trans _ _ _ hbefore hevolves, fun hblocked => ?_⟩
  obtain ⟨vnet, rfl, hvnet⟩ := hresult hblocked
  have hbefore := (hdone (hevolves.unblocked hblocked)).mono hevolves.keeps
  -- the new name is none of those before it, so the dictionary grows at its end
  have hfresh : vnet.name ∉ compiled.map Prod.fst := by
    intro hmem
    obtain ⟨entry, hentry, hname⟩ := List.mem_map.mp hmem
    obtain ⟨other, hother, hentryName, hentryVnet⟩ := forall₂_exists_left hbefore hentry
    have hkey : other.key ≠ segment.key := by
      have hpairs := segments_pairwise request
      rw [hall] at hpairs
      exact (List.pairwise_append.mp hpairs).2.2 other hother segment List.mem_cons_self
    exact hentryVnet.name_ne (hevolves.tidy htidy).sound hvnet hkey (hentryName ▸ hname)
  rw [Dict.set_of_not_mem hfresh]
  exact List.rel_append hbefore (.cons ⟨rfl, hvnet⟩ .nil)

end

end Secp.Proxmox
