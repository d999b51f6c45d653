import Secp.Proxmox.Placement
import Secp.Worker.Reachability

/-!
# What a verified deployment was asked

The desired state of a compiled topology always has paths between its teams to ask about, so a verified
deployment was probed across teams. Whether it was probed towards the management, protected and
external networks is up to the caller, whose lists may be empty: no question is then asked, and the
check passes.
-/

namespace Secp.Worker

open Secp.Python Secp.Logic Secp.Proxmox

/-- Every isolation check was probed, every such probe came back blocked, and there is one from every
VNet into every VNet of another team. -/
structure ReallyProbed (topology : CompiledTopology) (log : List Asked) : Prop where
  asked : ∀ check ∈ isolationChecks, ∃ a ∈ log, a.check = check
  blocked : ∀ a ∈ log, a.check ∈ isolationChecks → a.verdict = .blocked
  across : ∀ v ∈ topology.network.vnets, ∀ w ∈ topology.network.vnets, ∀ team team',
    v.ownership.teamRef = some team → w.ownership.teamRef = some team' → team ≠ team' →
    ∃ a ∈ log, a.check = .crossTeamDenial ∧ a.fromSegment = v.name ∧
      ∃ x, Ip.ipAddress a.toAddress = some x ∧ w.subnet.Contains x

/-! ## Teams of the desired state -/

/-- A VNet of a team joins the VNets under its key. -/
theorem add_vnetPayload {v : VNetSpec} {team : Str} (hrole : v.role ≠ .scoring)
    (hteam : v.ownership.teamRef = some team) (hnamed : team ≠ []) (segments : Segments) :
    segments.add (vnetPayload v) = .ok { segments with
      teams := segments.teams.set (.text team)
        ((segments.teams.get? (.text team)).getD [] ++ [vnetPayload v]) } := by
  have howner : (vnetPayload v).getOr (str "ownership") .null =
      .ok (ownershipPayload v.ownership) := by
    simp [vnetPayload, Json.getOr, Dict.get?]
  have hreference : ((ownershipPayload v.ownership).orElse (.obj [])).getOr (str "team_ref") .null =
      .ok (.str team) := by
    rw [Json.orElse, if_pos (by rfl)]
    simp [ownershipPayload, Json.getOr, Dict.get?, hteam, optionalText]
  have hkind : (vnetPayload v).getOr (str "role") .null = .ok (.str v.role.value) := by
    simp [vnetPayload, Json.getOr, Dict.get?]
  have hother : Json.str v.role.value ≠ .str (str "scoring") := by
    cases hr : v.role
    case scoring => exact absurd hr hrole
    all_goals simp [SegmentRole.value]
  have htruthy : (Json.str team).truthy = true := by
    cases team with
    | nil => exact absurd rfl hnamed
    | cons c rest => rfl
  simp only [Segments.add, howner, hreference, hkind, bind, Except.bind, if_neg hother,
    if_pos htruthy, teamKey, pure, Except.pure]

/-- A turn of the loop over the VNets loses nothing. -/
theorem add_keeps {segments segments' : Segments} {vnet : Json}
    (h : segments.add vnet = .ok segments') (key : TeamKey) {x : Json}
    (hx : x ∈ (segments.teams.get? key).getD []) : x ∈ (segments'.teams.get? key).getD [] := by
  obtain ⟨_, _, h⟩ := except_bind_eq_ok.mp h
  obtain ⟨team, _, h⟩ := except_bind_eq_ok.mp h
  obtain ⟨role, _, h⟩ := except_bind_eq_ok.mp h
  split at h
  · cases h
    exact hx
  · split at h
    · obtain ⟨added, _, h⟩ := except_bind_eq_ok.mp h
      cases h
      dsimp only
      rw [Dict.get?_set]
      split
      · rename_i heq
        subst heq
        exact List.mem_append_left _ hx
      · exact hx
    · cases h
      exact hx

/-- Every VNet of a team is found under the team's key. -/
theorem mem_segmentsOf {vnets : List Json} {segments : Segments}
    (h : segmentsOf vnets = .ok segments) {v : VNetSpec} {team : Str} (hv : vnetPayload v ∈ vnets)
    (hrole : v.role ≠ .scoring) (hteam : v.ownership.teamRef = some team) (hnamed : team ≠ []) :
    vnetPayload v ∈ (segments.teams.get? (.text team)).getD [] := by
  -- the loop reaches the VNet, and keeps it from then on
  obtain ⟨before, after, rfl⟩ := List.append_of_mem hv
  rw [segmentsOf, List.foldlM_append] at h
  obtain ⟨reached, _, h⟩ := except_bind_eq_ok.mp h
  rw [List.foldlM_cons, add_vnetPayload hrole hteam hnamed] at h
  refine Returns.foldlM (Q := fun segments : Segments =>
    vnetPayload v ∈ (segments.teams.get? (.text team)).getD []) ?_ ?_ segments h
  · intro s x _ hs s' hadd
    exact add_keeps hadd _ hs
  · dsimp only
    rw [Dict.get?_set, if_pos rfl]
    exact List.mem_append_right _ List.mem_cons_self

section
variable [Unicode]

/-! ## Guests of the desired state -/

/-- An address found for a name: there is one at least, and each is that of a guest on the VNet. -/
def FoundAddresses (guests : List GuestSpec) (found : Dict Str (List Str)) : Prop :=
  ∀ name addresses, found.get? name = some addresses →
    addresses ≠ [] ∧ ∀ address ∈ addresses, ∃ g ∈ guests, ∃ nic ∈ g.nics,
      nic.vnetName = name ∧ g.address.publishedAddress = address

omit [Unicode] in
theorem FoundAddresses.set {guests : List GuestSpec} {found : Dict Str (List Str)}
    (h : FoundAddresses guests found) {g : GuestSpec} (hg : g ∈ guests) {nic : NicSpec}
    (hnic : nic ∈ g.nics) :
    FoundAddresses guests (found.set nic.vnetName
      ((found.get? nic.vnetName).getD [] ++ [g.address.publishedAddress])) := by
  intro name addresses hget
  rw [Dict.get?_set] at hget
  split at hget
  · rename_i heq
    subst heq
    cases hget
    refine ⟨by simp, fun address haddress => ?_⟩
    rcases List.mem_append.mp haddress with hold | hnew
    · cases hfound : found.get? nic.vnetName with
      | none => simp [hfound] at hold
      | some before =>
          rw [hfound] at hold
          exact (h _ _ hfound).2 address hold
    · exact ⟨g, hg, nic, hnic, rfl, (List.mem_singleton.mp hnew).symm⟩
  · exact h name addresses hget

theorem found_guestAddresses (guests : List GuestSpec) :
    Returns (guestAddresses (guests.map guestPayload)) (FoundAddresses guests) := by
  refine Returns.foldlM (fun found guest hguest hfound => ?_) fun name addresses hget => ?_
  · obtain ⟨g, hg, rfl⟩ := List.mem_map.mp hguest
    have hnics : (guestPayload g).getOr (str "nics") (.arr []) =
        .ok (.arr ((g.nics.insertionSort fun a b => a.index ≤ b.index).map nicPayload)) := by
      simp [guestPayload, Json.getOr, Dict.get?]
    have haddress : (guestPayload g).getItem (str "address") =
        .ok (.obj [(str "published_address", .str g.address.publishedAddress),
          (str "probe_address", optionalText g.address.probeAddress)]) := by
      simp [guestPayload, Json.getItem, Dict.get?]
    rw [hnics]
    refine Returns.foldlM (fun found nic hnic hfound => ?_) hfound
    obtain ⟨n, hn, rfl⟩ := List.mem_map.mp hnic
    have hpublished : (Json.obj [(str "published_address", .str g.address.publishedAddress),
        (str "probe_address", optionalText g.address.probeAddress)]).getItem
          (str "published_address") = .ok (.str g.address.publishedAddress) := by
      simp [Json.getItem, Dict.get?]
    have hname : (nicPayload n).getItem (str "vnet_name") = .ok (.str n.vnetName) := by
      simp [nicPayload, Json.getItem, Dict.get?]
    rw [hname, haddress]
    intro found' hset
    obtain ⟨_, hnamed, hset⟩ := except_bind_eq_ok.mp hset
    obtain ⟨_, hshown, hset⟩ := except_bind_eq_ok.mp hset
    obtain ⟨_, hread, hset⟩ := except_bind_eq_ok.mp hset
    cases hnamed
    cases hshown
    cases hpublished.symm.trans hread
    cases hset
    exact hfound.set hg ((List.mem_insertionSort _).mp hn)
  · cases hget

/-! ## Questions across teams -/

theorem nameOf_vnetPayload (v : VNetSpec) : nameOf (vnetPayload v) = .ok v.name := by
  simp [nameOf, vnetPayload, Json.getItem, Dict.get?, bind, Except.bind, Json.text, pure,
    Except.pure]

theorem firstHostOf_vnetPayload (v : VNetSpec) :
    firstHostOf (vnetPayload v) = firstHost v.subnet.cidr := by
  simp [firstHostOf, vnetPayload, Json.getItem, Dict.get?, bind, Except.bind, Json.text]

omit [Unicode] in
/-- The first host of a printed subnet lies in it. -/
theorem firstHost_contained {network : SegregatedNetworkPlan} (hsubnets : PrintedSubnets network)
    {w : VNetSpec} (hw : w ∈ network.vnets) {address : Str}
    (h : firstHost w.subnet.cidr = .ok address) :
    ∃ x, Ip.ipAddress address = some x ∧ w.subnet.Contains x := by
  obtain ⟨n, hversion, htext⟩ := hsubnets w hw
  unfold firstHost at h
  rw [htext, Ip.ipNetwork_text false hversion] at h
  cases h
  have hmem := Ip.firstHost_mem n
  refine ⟨n.firstHost, Ip.ipAddress_text ((Ip.mem_def.mp hmem).1.trans hversion), n, ?_, hmem⟩
  rw [htext, Ip.ipNetwork_text true hversion]

omit [Unicode] in
/-- Wherever the addresses for a VNet come from, there is one, and each lies in its subnet. -/
theorem addresses_contained {topology : CompiledTopology} (htopology : Segmented topology)
    {found : Dict Str (List Str)} {guests : List GuestSpec}
    (hguests : ∀ g ∈ guests, g ∈ topology.guests) (hfound : FoundAddresses guests found)
    {w : VNetSpec} (hw : w ∈ topology.network.vnets) {gateway : Str}
    (hgateway : firstHost w.subnet.cidr = .ok gateway) :
    ∃ address ∈ (found.get? w.name).getD [gateway],
      ∃ x, Ip.ipAddress address = some x ∧ w.subnet.Contains x := by
  cases hget : found.get? w.name with
  | none => exact ⟨gateway, by simp, firstHost_contained htopology.subnets hw hgateway⟩
  | some addresses =>
      obtain ⟨hsome, hall⟩ := hfound _ _ hget
      obtain ⟨address, hmem⟩ := List.exists_mem_of_ne_nil addresses hsome
      obtain ⟨g, hg, nic, hnic, hname, rfl⟩ := hall address hmem
      obtain ⟨v, hv, hvname, hinside⟩ := htopology.guests g (hguests g hg) nic hnic
      obtain rfl : v = w :=
        List.inj_on_of_nodup_map htopology.names_nodup hv hw (hvname.trans hname)
      exact ⟨_, hmem, hinside⟩

/-- The questions across teams lead from every VNet into every VNet of another team. -/
theorem exists_crossProbe {topology : CompiledTopology} (htopology : Segmented topology)
    {vnets : List Json} {guests : List GuestSpec} {segments : Segments}
    {found : Dict Str (List Str)} {teams : List (TeamKey × List Json)}
    {paths : List (Str × Str × Int)} (hvnets : ∀ v ∈ topology.network.vnets, vnetPayload v ∈ vnets)
    (hguests : ∀ g ∈ guests, g ∈ topology.guests) (hsegments : segmentsOf vnets = .ok segments)
    (hfound : FoundAddresses guests found) (hteams : sortedTeams segments.teams = .ok teams)
    (hpaths : crossProbes found teams = .ok paths) {v w : VNetSpec}
    (hv : v ∈ topology.network.vnets) (hw : w ∈ topology.network.vnets) {team team' : Str}
    (hteam : v.ownership.teamRef = some team) (hteam' : w.ownership.teamRef = some team')
    (hne : team ≠ team') :
    ∃ path ∈ paths, path.1 = v.name ∧
      ∃ x, Ip.ipAddress path.2.1 = some x ∧ w.subnet.Contains x := by
  have hsorted : teams = sortedBy Prod.fst segments.teams := by
    unfold sortedTeams at hteams
    split at hteams
    · cases hteams
      rfl
    · cases hteams
  have hentry : ∀ u ∈ topology.network.vnets, ∀ t, u.ownership.teamRef = some t →
      ∃ members, (TeamKey.text t, members) ∈ teams ∧ vnetPayload u ∈ members := by
    intro u hu t ht
    have hrole : u.role ≠ .scoring := by
      rw [ne_eq, htopology.scoring u hu, ht]
      simp
    have hnamed : t ≠ [] := fun hnil => htopology.teams_named u hu (hnil ▸ ht)
    have hmem := mem_segmentsOf hsegments (hvnets u hu) hrole ht hnamed
    cases hget : segments.teams.get? (.text t) with
    | none => simp [hget] at hmem
    | some members =>
        rw [hget] at hmem
        rw [hsorted]
        exact ⟨members, (sortedBy_perm _ _).mem_iff.mpr (Dict.mem_of_get? hget), hmem⟩
  obtain ⟨sources, hsources, hvmem⟩ := hentry v hv team hteam
  obtain ⟨dests, hdests, hwmem⟩ := hentry w hw team' hteam'
  -- down the comprehension: the team, the other team, the source and the destination
  obtain ⟨rows, hrows, hpaths⟩ := except_bind_eq_ok.mp hpaths
  cases hpaths
  obtain ⟨row, hrow, hrowOf⟩ := exists_of_mapM_eq_ok hrows hsources
  obtain ⟨others, hothers, hrowOf⟩ := except_bind_eq_ok.mp hrowOf
  cases hrowOf
  have hother : (TeamKey.text team', dests) ∈ teams.filter fun other => other.1 ≠ .text team :=
    List.mem_filter.mpr ⟨hdests, by simpa using Ne.symm hne⟩
  obtain ⟨other, hotherMem, hotherOf⟩ := exists_of_mapM_eq_ok hothers hother
  obtain ⟨bySource, hbySource, hotherOf⟩ := except_bind_eq_ok.mp hotherOf
  cases hotherOf
  obtain ⟨fromSource, hfromSource, hsourceOf⟩ := exists_of_mapM_eq_ok hbySource hvmem
  obtain ⟨byDest, hbyDest, hsourceOf⟩ := except_bind_eq_ok.mp hsourceOf
  cases hsourceOf
  obtain ⟨intoDest, hintoDest, hdestOf⟩ := exists_of_mapM_eq_ok hbyDest hwmem
  obtain ⟨name, hname, hdestOf⟩ := except_bind_eq_ok.mp hdestOf
  obtain ⟨gateway, hgateway, hdestOf⟩ := except_bind_eq_ok.mp hdestOf
  obtain ⟨segment, hsegment, hdestOf⟩ := except_bind_eq_ok.mp hdestOf
  rw [nameOf_vnetPayload] at hname hsegment
  rw [firstHostOf_vnetPayload] at hgateway
  cases hname
  cases hsegment
  cases hdestOf
  obtain ⟨address, haddress, hinside⟩ :=
    addresses_contained htopology hguests hfound hw hgateway
  refine ⟨(v.name, address, 80), ?_, rfl, hinside⟩
  refine List.mem_flatten_of_mem hrow (List.mem_flatten_of_mem hotherMem ?_)
  refine List.mem_flatten_of_mem hfromSource (List.mem_flatten_of_mem hintoDest ?_)
  exact List.mem_map_of_mem haddress

/-! ## Questions about networks -/

omit [Unicode] in
/-- A product of lists is empty only if one of them is. -/
theorem flatMap_map_eq_nil_iff {α β γ : Type} {xs : List α} {ys : List β} {f : α → β → γ} :
    (xs.flatMap fun x => ys.map (f x)) = [] ↔ xs = [] ∨ ys = [] := by
  cases xs with
  | nil => simp
  | cons x rest => cases ys <;> simp

omit [Unicode] in
/-- Nothing is asked about networks exactly if none is named. -/
theorem networkProbes_eq_nil_iff {names cidrs : List Str} {ports : List Int}
    {paths : List (Str × Str × Int)} (hnames : names ≠ []) (hports : ports ≠ [])
    (h : networkProbes names cidrs ports = .ok paths) : paths = [] ↔ cidrs = [] := by
  obtain ⟨rows, hrows, h⟩ := except_bind_eq_ok.mp h
  cases h
  have hrow : ∀ row ∈ rows, row = [] ↔ cidrs = [] := by
    intro row hmem
    obtain ⟨name, _, hname⟩ := forall₂_exists_left (mapM_eq_ok_iff.mp hrows) hmem
    obtain ⟨hosts, hhosts, hname⟩ := except_bind_eq_ok.mp hname
    cases hname
    rw [flatMap_map_eq_nil_iff, or_iff_left hports]
    rw [← List.length_eq_zero_iff, ← List.length_eq_zero_iff,
      (mapM_eq_ok_iff.mp hhosts).length_eq]
  have hlength := (mapM_eq_ok_iff.mp hrows).length_eq
  rw [List.flatten_eq_nil_iff]
  cases rows with
  | nil => exact absurd (List.length_eq_zero_iff.mp hlength) hnames
  | cons row rest =>
      constructor
      · exact fun hall => (hrow row List.mem_cons_self).mp (hall row List.mem_cons_self)
      · exact fun hnone other hmem => (hrow other hmem).mpr hnone

/-! ## Verified deployments -/

omit [Unicode] in
/-- What a verification reads off a manifest. -/
theorem read_manifest {topology : CompiledTopology} {recorded : Option AllocationLedger}
    {network : Json} {vnets guests : List Json}
    (hnetwork : (toManifestPayload topology recorded).getOr (str "network") .null = .ok network)
    (hvnets : listUnder (network.orElse (.obj [])) (str "vnets") = .ok vnets)
    (hguests : listUnder (toManifestPayload topology recorded) (str "guests") = .ok guests) :
    vnets = (sortedBy VNetSpec.name topology.network.vnets).map vnetPayload ∧
      guests = (sortedBy GuestSpec.guestRef topology.guests).map guestPayload := by
  have helements : ∀ items : List Json,
      ((Json.arr items).orElse (.arr [])).elements = .ok items := by
    intro items
    cases items <;> rfl
  have hread : (toManifestPayload topology recorded).getOr (str "network") .null =
      .ok (networkPayload topology.network) := by
    cases recorded <;> simp [toManifestPayload, Json.getOr, Dict.get?]
  cases hread.symm.trans hnetwork
  have hvnetsRead : (networkPayload topology.network).getOr (str "vnets") .null =
      .ok (.arr ((sortedBy VNetSpec.name topology.network.vnets).map vnetPayload)) := by
    simp [networkPayload, Json.getOr, Dict.get?]
  have hguestsRead : (toManifestPayload topology recorded).getOr (str "guests") .null =
      .ok (.arr ((sortedBy GuestSpec.guestRef topology.guests).map guestPayload)) := by
    cases recorded <;> simp [toManifestPayload, Json.getOr, Dict.get?]
  rw [Json.orElse, if_pos (by rfl)] at hvnets
  obtain ⟨_, hlist, hvnets⟩ := except_bind_eq_ok.mp hvnets
  cases hvnetsRead.symm.trans hlist
  obtain ⟨_, hlist', hguests⟩ := except_bind_eq_ok.mp hguests
  cases hguestsRead.symm.trans hlist'
  exact ⟨Except.ok.inj (hvnets.symm.trans (helements _)),
    Except.ok.inj (hguests.symm.trans (helements _))⟩

/-- The questions a compiled topology leads to: always some across teams, and elsewhere exactly if the
caller named something to ask about. -/
theorem paths_ne_nil_iff {topology : CompiledTopology} (htopology : Segmented topology)
    {vnets : List Json} {guests : List GuestSpec}
    {managementCidrs protectedCidrs externalProbeAddresses : List Str}
    (questions : Questions vnets (guests.map guestPayload) managementCidrs protectedCidrs
      externalProbeAddresses)
    (hvnets : ∀ v ∈ topology.network.vnets, vnetPayload v ∈ vnets)
    (hguests : ∀ g ∈ guests, g ∈ topology.guests) :
    (∀ check ∈ isolationChecks, questions.paths check ≠ []) ↔
      managementCidrs ≠ [] ∧ protectedCidrs ≠ [] ∧ externalProbeAddresses ≠ [] := by
  obtain ⟨v, hv, w, hw, team, team', hteam, hteam', hne⟩ := htopology.two_teams
  have hfound := found_guestAddresses guests _ questions.addresses_eq
  have hcross : questions.paths .crossTeamDenial ≠ [] := by
    obtain ⟨path, hpath, _⟩ := exists_crossProbe htopology hvnets hguests questions.segments_eq
      hfound questions.teams_eq questions.cross_eq hv hw hteam hteam' hne
    exact List.ne_nil_of_mem hpath
  have hnames : questions.names ≠ [] := by
    obtain ⟨names, hnames, hsorted⟩ := except_bind_eq_ok.mp questions.names_eq
    obtain ⟨name, hname, _⟩ := exists_of_mapM_eq_ok hnames (hvnets v hv)
    have hall : sortedBy id names.dedup = questions.names := Except.ok.inj hsorted
    rw [← hall]
    exact List.ne_nil_of_mem ((sortedBy_perm _ _).mem_iff.mpr (List.mem_dedup.mpr hname))
  have hmanagement := networkProbes_eq_nil_iff hnames (by simp) questions.management_eq
  have hprotected := networkProbes_eq_nil_iff hnames (by simp) questions.protected_eq
  have hexternal : questions.paths .externalDenial = [] ↔ externalProbeAddresses = [] := by
    rw [← questions.external_eq, externalProbes, flatMap_map_eq_nil_iff, or_iff_right hnames]
  simp only [isolationChecks, List.forall_mem_cons, hcross, ne_eq, hmanagement, hprotected,
    hexternal, not_false_eq_true, true_and, List.not_mem_nil, false_imp_iff, implies_true,
    and_true]

/-- A verified deployment of a compiled range was really probed exactly if the caller named a
management network, a protected network and an external address to probe. -/
theorem verified_reallyProbed_iff {request : WebBreachLabRequest} {workload : WorkloadRequest}
    {o : TargetObservation} {network : SegregatedNetworkPlan} {plan : WorkloadPlan}
    {ledger ledger' : AllocationLedger} {recorded : Option AllocationLedger}
    {observed : ObservedInfrastructure} {prober : Option SegmentProber}
    {managementCidrs protectedCidrs externalProbeAddresses : List Str} {scoringPort : Int}
    {report : VerificationReport} {log : List Asked}
    (hnetwork : compileWebBreachLab request o AllocationLedger.empty = .ok (.plan network, ledger))
    (hworkload : compileWorkload workload network o ledger = .ok (.plan plan, ledger'))
    (h : (verifyDeployment (toManifestPayload plan.topology recorded) observed prober
      managementCidrs protectedCidrs externalProbeAddresses scoringPort).run [] = .ok (report, log))
    (hverified : report.outcome = .verified) :
    ReallyProbed plan.topology log ↔
      managementCidrs ≠ [] ∧ protectedCidrs ≠ [] ∧ externalProbeAddresses ≠ [] := by
  have htopology := segmented_of_compileWorkload hnetwork hworkload
  have hreachable : observed.reachable = true := by
    by_contra hdown
    unfold verifyDeployment at h
    rw [if_pos (by simp [hdown])] at h
    obtain ⟨rfl, _⟩ := run_pure_eq_ok.mp h
    cases hverified
  obtain ⟨networkRead, vnets, guests, findings, reachability, hnetworkRead, hvnets, hguests, _,
    hreach, rfl⟩ := run_verifyDeployment hreachable h
  have hpassed := passed_of_decideOutcome_verified hverified
  obtain ⟨rfl, rfl⟩ := read_manifest hnetworkRead hvnets hguests
  cases prober with
  | none =>
      obtain ⟨rfl, _⟩ := run_pure_eq_ok.mp hreach
      have hfirst := hpassed _ (List.mem_append_right _ List.mem_cons_self)
      rw [countsAsFailure_findingFrom] at hfirst
      cases hfirst
  | some prober =>
      obtain ⟨questions, required, asked, denied, _, hasked, rfl, rfl, hdenied⟩ :=
        run_checkReachability hreach
      rw [← paths_ne_nil_iff htopology questions (fun v hv => List.mem_map_of_mem
        ((sortedBy_perm _ _).mem_iff.mpr hv)) fun g hg => (sortedBy_perm _ _).mem_iff.mp hg]
      have hentries : ∀ check ∈ isolationChecks, ∀ a,
          (a ∈ asked ++ isolationChecks.flatMap (fun check => (denied check).1) ∧
            a.check = check ↔ a ∈ (denied check).1) :=
        fun check hcheck a => mem_asked_iff hasked hdenied hcheck
      have hblocked : ∀ check ∈ isolationChecks, ∀ a ∈ (denied check).1, a.verdict = .blocked := by
        intro check hcheck
        refine (hdenied check hcheck).passed_iff.mp (hpassed _ (List.mem_append_right _ ?_))
        exact List.mem_cons_of_mem _ (List.mem_map_of_mem hcheck)
      constructor
      · intro hprobed check hcheck hnone
        obtain ⟨a, ha, rfl⟩ := hprobed.asked check hcheck
        have hmem := (hentries _ hcheck a).mp ⟨ha, rfl⟩
        have hasks := (hdenied _ hcheck).asks
        rw [hnone, List.map_eq_nil_iff] at hasks
        rw [hasks] at hmem
        cases hmem
      · intro hsome
        have hlogged : ∀ check ∈ isolationChecks, ∀ path ∈ questions.paths check,
            ∃ a ∈ asked ++ isolationChecks.flatMap (fun check => (denied check).1),
              a.check = check ∧ a.fromSegment = path.1 ∧ a.toAddress = path.2.1 := by
          intro check hcheck path hpath
          rw [← (hdenied check hcheck).asks] at hpath
          obtain ⟨a, ha, rfl⟩ := List.mem_map.mp hpath
          obtain ⟨hlog, hof⟩ := (hentries check hcheck a).mpr ha
          exact ⟨a, hlog, hof, rfl, rfl⟩
        constructor
        · intro check hcheck
          obtain ⟨path, hpath⟩ := List.exists_mem_of_ne_nil _ (hsome check hcheck)
          obtain ⟨a, ha, hof, _⟩ := hlogged check hcheck path hpath
          exact ⟨a, ha, hof⟩
        · intro a ha hcheck
          exact hblocked _ hcheck a ((hentries _ hcheck a).mp ⟨ha, rfl⟩)
        · intro v hv w hw team team' hteam hteam' hne
          obtain ⟨path, hpath, hfrom, x, hx, hinside⟩ := exists_crossProbe htopology
            (fun v hv => List.mem_map_of_mem ((sortedBy_perm _ _).mem_iff.mpr hv))
            (fun g hg => (sortedBy_perm _ _).mem_iff.mp hg) questions.segments_eq
            (found_guestAddresses _ _ questions.addresses_eq) questions.teams_eq
            questions.cross_eq hv hw hteam hteam' hne
          obtain ⟨a, ha, hof, hsegment, haddress⟩ :=
            hlogged .crossTeamDenial (by simp [isolationChecks]) path hpath
          exact ⟨a, ha, hof, hsegment.trans hfrom, x, haddress ▸ hx, hinside⟩

end

/-! ## The sample range -/

/-- What a scan of a faithful deployment shows. -/
def deployedInfrastructure (topology : CompiledTopology) : ObservedInfrastructure where
  reachable := true
  guests := topology.guests.map fun guest => {
    vmid := guest.vmid
    name := some guest.name
    nodeName := some guest.nodeName
    poweredOn := some guest.startOnDeploy
    ready := some true
    disks := guest.disks.map fun disk => ⟨disk.slot, some disk.sizeGb, some disk.storageId⟩
    macs := guest.nics.map NicSpec.macAddress
    tags := some guest.ownership.asTags }
  zones := [topology.network.zone.name]
  vnets := topology.network.vnets.map fun vnet => {
    name := vnet.name
    vlanTag := some vnet.vlanTag
    cidr := some vnet.subnet.cidr }
  securityGroups := topology.network.securityGroups.map SecurityGroupSpec.name
  ipSets := topology.network.ipSets.map IpSetSpec.name
  tofuStateAddresses := some []
  observedAddresses := some []

/-- The first four questions are about paths that must exist, and only those work. -/
def soundProber : SegmentProber := fun n _ _ _ => if n < 4 then .reachable else .blocked

/-- Whether the sample range, deployed faithfully, is verified with the caller's lists. -/
def sampleVerified (managementCidrs protectedCidrs externalProbeAddresses : List Str)
    (passes : List Asked → Bool) : Bool :=
  compiledRange
    (@compileWebBreachLab Unicode.ascii (sampleRequest none) equippedObservation
      AllocationLedger.empty)
    (fun network ledger =>
      match @compileWorkload Unicode.ascii sampleWorkload network equippedObservation ledger with
      | .ok (.plan plan, ledger') =>
          if ((@verifyDeployment Unicode.ascii (toManifestPayload plan.topology (some ledger'))
            (deployedInfrastructure plan.topology) (some soundProber) managementCidrs protectedCidrs
            externalProbeAddresses 443).run []).toOption.any (fun result =>
              result.1.outcome = .verified && passes result.2)
          then .ok (.plan plan, ledger') else .error .value
      | outcome => outcome)

theorem exists_of_sampleVerified
    {managementCidrs protectedCidrs externalProbeAddresses : List Str} {passes : List Asked → Bool}
    (h : sampleVerified managementCidrs protectedCidrs externalProbeAddresses passes = true) :
    ∃ network ledger plan ledger' report log,
      @compileWebBreachLab Unicode.ascii (sampleRequest none) equippedObservation
        AllocationLedger.empty = .ok (.plan network, ledger) ∧
      @compileWorkload Unicode.ascii sampleWorkload network equippedObservation ledger =
        .ok (.plan plan, ledger') ∧
      (@verifyDeployment Unicode.ascii (toManifestPayload plan.topology (some ledger'))
        (deployedInfrastructure plan.topology) (some soundProber) managementCidrs protectedCidrs
        externalProbeAddresses 443).run [] = .ok (report, log) ∧
      report.outcome = .verified ∧ passes log = true := by
  obtain ⟨network, ledger, plan, ledger', hnetwork, h⟩ := exists_of_compiledRange h
  split at h
  · rename_i plan' ledger'' hworkload
    split at h
    · rename_i hrun
      cases h
      obtain ⟨⟨report, log⟩, hok, htest⟩ := exists_of_toOption_any hrun
      simp only [Bool.and_eq_true, decide_eq_true_eq] at htest
      exact ⟨network, ledger, plan, ledger', report, log, hnetwork, hworkload, hok, htest⟩
    · cases h
  · rename_i hother
    exact absurd h (hother _ _)

/-- With something to ask about everywhere, the verified sample range was really probed. -/
theorem sample_reallyProbed : ∃ network ledger plan ledger' report log,
    @compileWebBreachLab Unicode.ascii (sampleRequest none) equippedObservation
      AllocationLedger.empty = .ok (.plan network, ledger) ∧
    @compileWorkload Unicode.ascii sampleWorkload network equippedObservation ledger =
      .ok (.plan plan, ledger') ∧
    (@verifyDeployment Unicode.ascii (toManifestPayload plan.topology (some ledger'))
      (deployedInfrastructure plan.topology) (some soundProber) [str "10.0.0.0/24"]
      [str "10.1.0.0/24"] [str "192.0.2.1"] 443).run [] = .ok (report, log) ∧
    report.outcome = .verified ∧ ReallyProbed plan.topology log := by
  have hsample : sampleVerified [str "10.0.0.0/24"] [str "10.1.0.0/24"] [str "192.0.2.1"]
      (fun _ => true) = true := by decide +kernel
  obtain ⟨network, ledger, plan, ledger', report, log, hnetwork, hworkload, h, hverified, _⟩ :=
    exists_of_sampleVerified hsample
  refine ⟨network, ledger, plan, ledger', report, log, hnetwork, hworkload, h, hverified, ?_⟩
  exact (@verified_reallyProbed_iff Unicode.ascii _ _ _ _ _ _ _ _ _ _ _ _ _ _ _ _ hnetwork
    hworkload h hverified).mpr (by simp)

/-- Without the lists the sample range is verified all the same, though nobody asked about the
management network. -/
theorem sample_verified_unasked : ∃ network ledger plan ledger' report log,
    @compileWebBreachLab Unicode.ascii (sampleRequest none) equippedObservation
      AllocationLedger.empty = .ok (.plan network, ledger) ∧
    @compileWorkload Unicode.ascii sampleWorkload network equippedObservation ledger =
      .ok (.plan plan, ledger') ∧
    (@verifyDeployment Unicode.ascii (toManifestPayload plan.topology (some ledger'))
      (deployedInfrastructure plan.topology) (some soundProber) [] [] [] 443).run [] =
      .ok (report, log) ∧
    report.outcome = .verified ∧ (∀ a ∈ log, a.check ≠ .managementDenial) ∧
    ¬ReallyProbed plan.topology log := by
  have hsample : sampleVerified [] [] [] (fun log => log.all fun a =>
      a.check ≠ .managementDenial) = true := by decide +kernel
  obtain ⟨network, ledger, plan, ledger', report, log, hnetwork, hworkload, h, hverified, hlog⟩ :=
    exists_of_sampleVerified hsample
  have hunasked : ∀ a ∈ log, a.check ≠ .managementDenial := by simpa using hlog
  refine ⟨network, ledger, plan, ledger', report, log, hnetwork, hworkload, h, hverified, hunasked,
    fun hprobed => ?_⟩
  obtain ⟨a, ha, hcheck⟩ := hprobed.asked .managementDenial (by simp [isolationChecks])
  exact hunasked a ha hcheck

end Secp.Worker
