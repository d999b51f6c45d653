import Secp.Proxmox.Compiling

/-!
# When the firewall objects can be built

An IPSet and a security group are built when their name is one a firewall object may have, and a group when
its rules stand at positions of their own. The two loops over them return exactly when all are built.
-/

namespace Secp.Proxmox

open Secp.Python Secp.Logic AllocationLedger

section
variable [Unicode] {request : WebBreachLabRequest} {observation : TargetObservation}

/-! ## Names -/

/-- The name a team's IPSet asks for. -/
def teamAsk (request : WebBreachLabRequest) (team : Str) : NameAsk :=
  ⟨scopeOf request (some team), team ++ str "/ipset", str "secp-team-" ++ team⟩

/-- The name the security group of a VNet asks for, given the VNet's name and what that is recorded
under. -/
def groupAsk (entry : Str × Scope × Str) : NameAsk :=
  ⟨entry.2.1, entry.2.2 ++ str "/secgroup", str "secp-sg-" ++ entry.1⟩

/-- Every firewall object asked for finds a name it may have. -/
def ObjectsNamed (observation : TargetObservation) (asks : List NameAsk) : Prop :=
  ∀ inUse ∈ observation.firewallNamesInUse, ∃ names,
    drawNames .firewallObjectName (some 27) inUse [] asks = some names ∧
      ∀ name ∈ names, isFirewallName name = true

/-- The names in a ledger are those drawn for the firewall objects so far. -/
def ObjectsHeld (observation : TargetObservation) (asks : List NameAsk) (ledger : AllocationLedger) :
    Prop :=
  ∀ inUse ∈ observation.firewallNamesInUse, ∃ names,
    drawNames .firewallObjectName (some 27) inUse [] asks = some names ∧
      Holds .firewallObjectName asks names ledger

theorem ObjectsNamed.of_append {asks more : List NameAsk}
    (h : ObjectsNamed observation (asks ++ more)) : ObjectsNamed observation asks := by
  intro inUse hinUse
  obtain ⟨names, hnames, hvalid⟩ := h inUse hinUse
  obtain ⟨first, rest, hfirst, rfl⟩ := drawNames_of_append hnames
  exact ⟨first, hfirst, fun name hname => hvalid name (List.mem_append_left _ hname)⟩

/-- The name of a firewall object, and what it takes for it to be valid. -/
theorem returnsIff_allocateFirewallName {s : Session} {asks : List NameAsk} {ownership : Ownership}
    {purpose candidate : Str} (hheld : ObjectsHeld observation asks s.ledger)
    (hnamed : ObjectsNamed observation asks)
    (hnew : (ownership.scopeKey, purpose) ∉ asks.map NameAsk.key) :
    ReturnsIff (logRun (allocateFirewallName observation ownership purpose candidate)) s
      (∀ inUse ∈ observation.firewallNamesInUse, ∃ names, drawNames .firewallObjectName (some 27) inUse []
        (asks ++ [⟨ownership.scopeKey, purpose, candidate⟩]) = some names)
      fun o t => Logged observation.firewallNamesInUse s (fun name _ => isFirewallName name = true ↔
          ObjectsNamed observation (asks ++ [⟨ownership.scopeKey, purpose, candidate⟩])) o t ∧
        ObjectsHeld observation (asks ++ [⟨ownership.scopeKey, purpose, candidate⟩]) t.ledger := by
  have hdraw := @returnsIff_logRun_name _ s .firewallObjectName (some 27) observation.firewallNamesInUse
    asks ownership purpose candidate (str "TargetObservation.firewall_names_in_use")
    (str "proxmox.firewall_name_inventory_missing") ⟨by simp [str], by simp [str]⟩ hheld hnew
  refine hdraw.weaken fun o t _ hlogged => ?_
  rcases hlogged with hmissing | hvalue
  · refine ⟨.inl hmissing, fun inUse hinUse => ?_⟩
    rw [hmissing.1] at hinUse
    cases hinUse
  · obtain ⟨hobserved, hblocked, name, ho, -, hnames⟩ := hvalue
    refine ⟨.inr ⟨hobserved, hblocked, name, ho, fun hvalid inUse hinUse => ?_, fun hall => ?_⟩,
      fun inUse hinUse => ?_⟩
    · obtain ⟨names, hbefore, hafter, -⟩ := hnames inUse hinUse
      refine ⟨names ++ [name], hafter, fun other hother => ?_⟩
      obtain ⟨names', hnames', hvalid'⟩ := hnamed inUse hinUse
      obtain rfl : names' = names := Option.some.inj (hnames'.symm.trans hbefore)
      rcases List.mem_append.mp hother with hother | hother
      · exact hvalid' other hother
      · rw [List.mem_singleton.mp hother]
        exact hvalid
    · obtain ⟨inUse, hinUse⟩ := Option.ne_none_iff_exists'.mp hobserved
      obtain ⟨names, -, hafter, -⟩ := hnames inUse hinUse
      obtain ⟨names', hnames', hvalid⟩ := hall inUse hinUse
      obtain rfl : names' = names ++ [name] := Option.some.inj (hnames'.symm.trans hafter)
      exact hvalid name (List.mem_append_right _ (List.mem_singleton_self _))
    · obtain ⟨names, -, hafter, hholds⟩ := hnames inUse hinUse
      exact ⟨names ++ [name], hafter, hholds⟩

/-! ## IPSets -/

omit [Unicode] in
/-- A network that is read without host bits is read with them. -/
theorem ipNetwork_isSome_of_strict {cidr : Str} (h : (Ip.ipNetwork true cidr).isSome = true) :
    (Ip.ipNetwork false cidr).isSome = true := by
  have hnetwork : ∀ version v p, (Ip.networkOf true version v p).isSome = true →
      (Ip.networkOf false version v p).isSome = true := by
    intro version v p hsome
    unfold Ip.networkOf at hsome ⊢
    split at hsome
    · next hbounds =>
        rw [dif_pos hbounds, Bool.false_and, if_neg (by decide)]
        rfl
    · cases hsome
  unfold Ip.ipNetwork at h ⊢
  split at h
  · exact hnetwork _ _ _ h
  · split at h
    · exact hnetwork _ _ _ h
    · cases h

theorem exists_ipSet_iff {name comment : Str} {cidrs : List Str} {ownership : Ownership} :
    (∃ item, IpSetSpec.make name cidrs ownership comment = .ok item) ↔ isFirewallName name = true ∧
      ∀ cidr ∈ cidrs, (Ip.ipNetwork false cidr).isSome = true := by
  unfold IpSetSpec.make
  split
  · next hname =>
      split
      · next hcidrs => exact iff_of_true ⟨_, rfl⟩ ⟨hname, hcidrs⟩
      · next hcidrs => exact iff_of_false (fun h => (by obtain ⟨item, h⟩ := h; cases h)) fun h => hcidrs h.2
  · next hname => exact iff_of_false (fun h => (by obtain ⟨item, h⟩ := h; cases h)) fun h => hname h.1

theorem exists_group_iff {name comment : Str} {rules : List FirewallRuleSpec} {ownership : Ownership} :
    (∃ group, SecurityGroupSpec.make name (bandPositions rules) ownership comment = .ok group) ↔
      isFirewallName name = true ∧ (positions rules).Nodup := by
  unfold SecurityGroupSpec.make positions
  split
  · split <;> simp [*]
  · simp [*]

theorem exists_sharedIpSets_iff {ownership : Ownership} :
    (∃ shared, sharedIpSets request observation ownership = .ok shared) ↔
      ∀ cidr ∈ request.controlPlaneCidrs, (Ip.ipNetwork false cidr).isSome = true := by
  have hmanagement : ∀ comment, ∃ item, IpSetSpec.make ipsetManagement
      observation.identity.managementCidrs ownership comment = .ok item := by
    intro comment
    refine exists_ipSet_iff.mpr ⟨by simp [ipsetManagement, str]; decide, fun cidr hcidr => ?_⟩
    exact ipNetwork_isSome_of_strict (observation.identity.managementCidrs_valid cidr hcidr)
  have hname : isFirewallName ipsetControlPlane = true := by
    simp [ipsetControlPlane, str]
    decide
  unfold sharedIpSets
  obtain ⟨management, hm⟩ := hmanagement
    (str "Proxmox management plane. Never reachable from any scenario segment.")
  rw [except_bind_of_ok hm]
  split
  · next hempty =>
      refine iff_of_true ⟨[management], rfl⟩ fun cidr hcidr => ?_
      rw [List.isEmpty_iff.mp hempty] at hcidr
      cases hcidr
  · have hcontrol := @exists_ipSet_iff _ ipsetControlPlane
      (str "SECP controller/worker management interfaces.") request.controlPlaneCidrs ownership
    rw [and_iff_right hname] at hcontrol
    rw [← hcontrol]
    constructor
    · intro h
      obtain ⟨shared, hshared⟩ := h
      obtain ⟨item, hitem, -⟩ := except_bind_eq_ok.mp hshared
      exact ⟨item, hitem⟩
    · intro h
      obtain ⟨item, hitem⟩ := h
      exact ⟨[management, item], except_bind_of_ok hitem⟩

section
variable {s t : Session}

/-- The state of the loops over the firewall objects, which ask for names one after the other. -/
structure InObjects (observation : TargetObservation) (asks : List NameAsk) (s t : Session) : Prop where
  held : ObjectsHeld observation asks t.ledger
  blocked : observation.firewallNamesInUse ≠ none → t.blocked = s.blocked

/-- The names the IPSets of these groups ask for. -/
def teamAsks (request : WebBreachLabRequest) (items : List (Option Str × List VNetSpec)) : List NameAsk :=
  (items.filterMap teamItem).map fun team => teamAsk request team.1

/-- One turn of the IPSet loop. -/
theorem returnsIff_compileTeamIpSet {s0 : Session} {done : List (Option Str × List VNetSpec)}
    {item : Option Str × List VNetSpec} {ipSets : List IpSetSpec} (hstamped : Stamped request)
    (hcidrs : ∀ v ∈ item.2, (Ip.ipNetwork false v.subnet.cidr).isSome = true)
    (hnew : ∀ other ∈ done, other.1 ≠ item.1)
    (hnamed : ObjectsNamed observation (teamAsks request done))
    (h : InObjects observation (teamAsks request done) s0 s) :
    ReturnsIff (compileTeamIpSet request observation ipSets item) s
      (ObjectsNamed observation (teamAsks request (done ++ [item])))
      fun _ => InObjects observation (teamAsks request (done ++ [item])) s0 := by
  obtain ⟨team, vnets⟩ := item
  cases team with
  | none =>
      have hsame : teamAsks request (done ++ [(none, vnets)]) = teamAsks request done := by
        rw [teamAsks, List.filterMap_append]
        show (_ ++ []).map _ = _
        rw [List.append_nil]
        rfl
      rw [hsame]
      exact (ReturnsIff.pure (P := fun _ => InObjects observation (teamAsks request done) s0) h).congr
        (iff_of_true trivial hnamed)
  | some team =>
      have hnext : teamAsks request (done ++ [(some team, vnets)]) =
          teamAsks request done ++ [teamAsk request team] := by
        rw [teamAsks, List.filterMap_append, List.map_append]
        rfl
      have hfresh : (scopeOf request (some team), team ++ str "/ipset") ∉
          (teamAsks request done).map NameAsk.key := by
        intro hmem
        rw [teamAsks, List.map_map] at hmem
        obtain ⟨⟨other, members⟩, hother, hkey⟩ := List.mem_map.mp hmem
        obtain ⟨⟨key, members'⟩, hitem, hteam⟩ := List.mem_filterMap.mp hother
        have hsame : other = team := List.append_cancel_right (Prod.mk.inj hkey).2
        cases key with
        | none => cases hteam
        | some key =>
            obtain ⟨hkey, -⟩ := Prod.mk.inj (Option.some.inj hteam)
            exact hnew _ hitem (by rw [hkey, hsame])
      rw [hnext]
      have hcondition : ((∃ ownership, ownershipOf request .network (some team) = .ok ownership) ∧
          (∀ inUse ∈ observation.firewallNamesInUse, ∃ names, drawNames .firewallObjectName (some 27) inUse []
            (teamAsks request done ++ [teamAsk request team]) = some names) ∧
          ObjectsNamed observation (teamAsks request done ++ [teamAsk request team])) ↔
          ObjectsNamed observation (teamAsks request done ++ [teamAsk request team]) := by
        rw [and_iff_right (exists_ownershipOf_iff.mpr hstamped)]
        refine and_iff_right_of_imp fun hall inUse hinUse => ?_
        obtain ⟨names, hnames, -⟩ := hall inUse hinUse
        exact ⟨names, hnames⟩
      refine (ReturnsIff.bind returnsIff_check fun ownership s1 _ hcheck => ?_).congr hcondition
      obtain ⟨howner, rfl⟩ := hcheck
      have hscope : ownership.scopeKey = scopeOf request (some team) := (ownershipOf_eq_ok howner).2
      have hname := @returnsIff_allocateFirewallName _ observation s (teamAsks request done) ownership
        (team ++ str "/ipset") (str "secp-team-" ++ team) h.held hnamed (hscope ▸ hfresh)
      rw [hscope] at hname
      refine hname.bind fun name s2 hdrawn hlogged => ?_
      obtain ⟨hlogged, hheld⟩ := hlogged
      rcases hlogged with hmissing | hvalue
      · obtain ⟨hnone, rfl, -⟩ := hmissing
        refine (ReturnsIff.pure ⟨hheld, fun hobserved => absurd hnone hobserved⟩).congr
          (iff_of_true trivial fun inUse hinUse => ?_)
        rw [hnone] at hinUse
        cases hinUse
      · obtain ⟨hobserved, hblocked, name, rfl, hvalid⟩ := hvalue
        have hinvariant : InObjects observation (teamAsks request done ++ [teamAsk request team]) s0 s2 :=
          ⟨hheld, fun hobserved => hblocked.trans (h.blocked hobserved)⟩
        refine (ReturnsIff.bind (D := True) returnsIff_check fun ipSet s3 _ hmade => ?_).congr ?_
        · obtain ⟨-, rfl⟩ := hmade
          exact ReturnsIff.pure hinvariant
        · rw [and_true, exists_ipSet_iff, and_iff_left]
          · exact hvalid
          · intro cidr hcidr
            obtain ⟨v, hv, rfl⟩ := List.mem_map.mp hcidr
            exact hcidrs v hv

/-- The IPSet loop returns when every team's set finds a name it may have. -/
theorem returnsIff_teamIpSets {items : List (Option Str × List VNetSpec)} {shared : List IpSetSpec}
    (hstamped : Stamped request)
    (hcidrs : ∀ item ∈ items, ∀ v ∈ item.2, (Ip.ipNetwork false v.subnet.cidr).isSome = true)
    (hkeys : items.Pairwise fun a b => a.1 ≠ b.1) (h : Holds .firewallObjectName [] [] s.ledger) :
    ReturnsIff (items.foldlM (compileTeamIpSet request observation) shared) s
      (ObjectsNamed observation (teamAsks request items))
      fun _ => InObjects observation (teamAsks request items) s := by
  refine ReturnsIff.foldlM (C := fun done => ObjectsNamed observation (teamAsks request done))
    (fun done _ => InObjects observation (teamAsks request done) s) (fun done rest hboth => ?_)
    (fun done item rest ipSets t hall hdone hstate => ?_) (fun inUse _ => ⟨[], rfl, fun _ hname => by cases hname⟩)
    ⟨fun inUse _ => ⟨[], rfl, h⟩, fun _ => rfl⟩
  · rw [teamAsks, List.filterMap_append, List.map_append] at hboth
    exact hboth.of_append
  · refine returnsIff_compileTeamIpSet hstamped (hcidrs item ?_) (fun other hother => ?_) hdone hstate
    · rw [hall]
      exact List.mem_append_right _ List.mem_cons_self
    · rw [hall] at hkeys
      exact (List.pairwise_append.mp hkeys).2.2 other hother item List.mem_cons_self

/-! ## Security groups -/

/-- The name the group of a VNet asks for. -/
def vnetAsk (v : VNetSpec) : NameAsk := groupAsk (v.name, v.ownership.scopeKey, v.vnetAlias)

/-- The groups of these VNets find names and, where names are known, places for all their rules. -/
def GroupsBuild (request : WebBreachLabRequest) (observation : TargetObservation) (asks : List NameAsk)
    (teamIpset : Dict Str Str) (scoring done : List VNetSpec) : Prop :=
  ObjectsNamed observation (asks ++ done.map vnetAsk) ∧ (observation.firewallNamesInUse ≠ none →
    ∀ v ∈ done, (positions (segmentRules request teamIpset scoring v)).Nodup)

/-- One turn of the group loop. -/
theorem returnsIff_compileGroup {s0 : Session} {asks : List NameAsk} {teamIpset : Dict Str Str}
    {scoring done : List VNetSpec} {v : VNetSpec} {state : List SecurityGroupSpec × Dict Str Str}
    (hnew : (vnetAsk v).key ∉ (asks ++ done.map vnetAsk).map NameAsk.key)
    (hdone : GroupsBuild request observation asks teamIpset scoring done)
    (h : InObjects observation (asks ++ done.map vnetAsk) s0 s) :
    ReturnsIff (compileGroup request observation teamIpset scoring state v) s
      (GroupsBuild request observation asks teamIpset scoring (done ++ [v]))
      fun _ => InObjects observation (asks ++ (done ++ [v]).map vnetAsk) s0 := by
  have hnext : asks ++ (done ++ [v]).map vnetAsk = asks ++ done.map vnetAsk ++ [vnetAsk v] := by
    rw [List.map_append, List.append_assoc]
    rfl
  unfold GroupsBuild
  rw [hnext]
  have hname := @returnsIff_allocateFirewallName _ observation s (asks ++ done.map vnetAsk) v.ownership
    (v.vnetAlias ++ str "/secgroup") (str "secp-sg-" ++ v.name) h.held hdone.1 hnew
  have hcondition : ((∀ inUse ∈ observation.firewallNamesInUse, ∃ names,
      drawNames .firewallObjectName (some 27) inUse [] (asks ++ done.map vnetAsk ++ [vnetAsk v]) =
        some names) ∧ ObjectsNamed observation (asks ++ done.map vnetAsk ++ [vnetAsk v]) ∧
      (observation.firewallNamesInUse ≠ none →
        (positions (segmentRules request teamIpset scoring v)).Nodup)) ↔
      ObjectsNamed observation (asks ++ done.map vnetAsk ++ [vnetAsk v]) ∧
        (observation.firewallNamesInUse ≠ none →
          ∀ w ∈ done ++ [v], (positions (segmentRules request teamIpset scoring w)).Nodup) := by
    constructor
    · intro hall
      obtain ⟨-, hnamed, hnodup⟩ := hall
      refine ⟨hnamed, fun hobserved w hw => ?_⟩
      rcases List.mem_append.mp hw with hw | hw
      · exact hdone.2 hobserved w hw
      · rw [List.mem_singleton.mp hw]
        exact hnodup hobserved
    · intro hall
      obtain ⟨hnamed, hnodup⟩ := hall
      refine ⟨fun inUse hinUse => ?_, hnamed, fun hobserved =>
        hnodup hobserved v (List.mem_append_right _ (List.mem_singleton_self _))⟩
      obtain ⟨names, hnames, -⟩ := hnamed inUse hinUse
      exact ⟨names, hnames⟩
  refine (hname.bind fun name s1 _ hlogged => ?_).congr hcondition
  obtain ⟨hlogged, hheld⟩ := hlogged
  rcases hlogged with hmissing | hvalue
  · obtain ⟨hnone, rfl, -⟩ := hmissing
    refine (ReturnsIff.pure ⟨hheld, fun hobserved => absurd hnone hobserved⟩).congr
      (iff_of_true trivial ⟨fun inUse hinUse => ?_, fun hobserved => absurd hnone hobserved⟩)
    rw [hnone] at hinUse
    cases hinUse
  · obtain ⟨hobserved, hblocked, name, rfl, hvalid⟩ := hvalue
    refine (ReturnsIff.bind (D := True) returnsIff_check fun group s2 _ hmade => ?_).congr ?_
    · obtain ⟨-, rfl⟩ := hmade
      exact ReturnsIff.pure ⟨hheld, fun hobserved => hblocked.trans (h.blocked hobserved)⟩
    · rw [and_true, exists_group_iff, forall_prop_of_true hobserved]
      exact and_congr hvalid Iff.rfl

/-- The group loop returns when every group finds a name and its rules stand apart. -/
theorem returnsIff_groups {s0 : Session} {asks : List NameAsk} {teamIpset : Dict Str Str}
    {scoring vnets : List VNetSpec} (hkeys : ((asks ++ vnets.map vnetAsk).map NameAsk.key).Nodup)
    (hnamed : ObjectsNamed observation asks) (h : InObjects observation asks s0 s) :
    ReturnsIff (vnets.foldlM (compileGroup request observation teamIpset scoring) ([], [])) s
      (GroupsBuild request observation asks teamIpset scoring vnets)
      fun _ => InObjects observation (asks ++ vnets.map vnetAsk) s0 := by
  refine ReturnsIff.foldlM (C := GroupsBuild request observation asks teamIpset scoring)
    (fun done _ => InObjects observation (asks ++ done.map vnetAsk) s0) (fun done rest hboth => ?_)
    (fun done v rest state t hall hdone hstate => ?_) ⟨?_, fun _ v hv => by cases hv⟩ ?_
  · obtain ⟨hboth, hnodup⟩ := hboth
    rw [List.map_append, ← List.append_assoc] at hboth
    exact ⟨hboth.of_append, fun hobserved v hv => hnodup hobserved v (List.mem_append_left _ hv)⟩
  · refine returnsIff_compileGroup (fun hmem => ?_) hdone hstate
    have hsplit : asks ++ (done ++ v :: rest).map vnetAsk =
        (asks ++ done.map vnetAsk) ++ vnetAsk v :: rest.map vnetAsk := by
      rw [List.map_append, List.map_cons, List.append_assoc]
    rw [hall, hsplit, List.map_append, List.map_cons] at hkeys
    exact (List.nodup_append'.mp hkeys).2.2 hmem List.mem_cons_self
  · rwa [List.map_nil, List.append_nil]
  · rwa [List.map_nil, List.append_nil]

end

end

end Secp.Proxmox
