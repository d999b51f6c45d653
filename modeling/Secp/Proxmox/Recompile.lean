import Secp.Proxmox.Isolation
import Secp.Proxmox.Stability

/-!
# Compiling twice

Both compilers rerun: against a second observation of the same target they return the same plan,
from the same ledger as long as nothing they recorded is listed as in use, and from a sealed copy of
the ledger they left behind whatever is listed.
-/

namespace Secp.Proxmox

open Secp.Python Secp.Logic AllocationLedger

/-! ## The same target -/

/-- What the compilers read of an online node. -/
def NodeObservation.layout (node : NodeObservation) : Str × List Str × List StorageObservation :=
  (node.nodeName, node.bridges, node.storages)

/-- Two observations of one target: only the inventories, and what no compiler reads, may differ. -/
structure SameTarget (o o' : TargetObservation) : Prop where
  identity : o'.identity = o.identity
  sdnSupported : o'.sdnSupported = o.sdnSupported
  firewallSupported : o'.firewallSupported = o.firewallSupported
  onlineNodes : o'.onlineNodes.map NodeObservation.layout =
    o.onlineNodes.map NodeObservation.layout
  storages : ∀ node ∈ o.onlineNodes, (o'.node node.nodeName).map NodeObservation.storages =
    (o.node node.nodeName).map NodeObservation.storages
  templates : o'.templates = o.templates

/-- The shared bridges depend on the nodes' bridges alone. -/
theorem sharedBridges_eq_of_bridges {nodes nodes' : List NodeObservation}
    (h : nodes'.map NodeObservation.bridges = nodes.map NodeObservation.bridges) :
    sharedBridges nodes' = sharedBridges nodes := by
  cases nodes with
  | nil =>
      rw [List.map_nil, List.map_eq_nil_iff] at h
      rw [h]
  | cons first rest =>
      cases nodes' with
      | nil => cases h
      | cons first' rest' =>
          rw [List.map_cons, List.map_cons, List.cons.injEq] at h
          have hall : ∀ bridge : Str, (rest'.all fun node => decide (bridge ∈ node.bridges)) =
              rest.all fun node => decide (bridge ∈ node.bridges) := by
            intro bridge
            simpa [List.all_map, Function.comp_def] using
              congrArg (List.all · fun bridges => decide (bridge ∈ bridges)) h.2
          simp only [sharedBridges, h.1, hall]

namespace SameTarget

variable {o o' : TargetObservation}

theorem nodeNames (h : SameTarget o o') : o'.onlineNodes.map NodeObservation.nodeName =
    o.onlineNodes.map NodeObservation.nodeName := by
  simpa [List.map_map, Function.comp_def, NodeObservation.layout] using
    congrArg (List.map Prod.fst) h.onlineNodes

theorem bridges (h : SameTarget o o') : o'.onlineNodes.map NodeObservation.bridges =
    o.onlineNodes.map NodeObservation.bridges := by
  simpa [List.map_map, Function.comp_def, NodeObservation.layout] using
    congrArg (List.map fun entry => entry.2.1) h.onlineNodes

theorem zoneBridge (h : SameTarget o o') : zoneBridge o' = zoneBridge o := by
  have hnone : o'.onlineNodes.isEmpty = o.onlineNodes.isEmpty := by
    simpa using congrArg List.isEmpty h.nodeNames
  unfold Proxmox.zoneBridge
  simp only [hnone, sharedBridges_eq_of_bridges h.bridges, h.identity]

theorem targetMissing (h : SameTarget o o') : targetMissing o' = targetMissing o := by
  unfold Proxmox.targetMissing sdnMissing firewallMissing
  rw [h.sdnSupported, h.firewallSupported, h.zoneBridge]

/-- The eligible nodes are picked by name and storages. -/
theorem eligibleNodes (h : SameTarget o o') : eligibleNodes o' = eligibleNodes o := by
  have hpick : ∀ nodes : List NodeObservation,
      (nodes.filter fun node => node.storages.any StorageObservation.acceptsImages).map
        NodeObservation.nodeName =
      ((nodes.map NodeObservation.layout).filter fun entry =>
        entry.2.2.any StorageObservation.acceptsImages).map Prod.fst := by
    intro nodes
    rw [List.filter_map, List.map_map]
    rfl
  unfold Proxmox.eligibleNodes
  rw [hpick, hpick, h.onlineNodes]

theorem storageFor (h : SameTarget o o') {name : Str} (hname : name ∈ Proxmox.eligibleNodes o) :
    storageFor o' name = storageFor o name := by
  obtain ⟨node, hnode, rfl⟩ : ∃ node ∈ o.onlineNodes, node.nodeName = name := by
    obtain ⟨node, hnode, hname⟩ := List.mem_map.mp ((sortedBy_perm id _).mem_iff.mp hname)
    exact ⟨node, (List.mem_filter.mp hnode).1, hname⟩
  have hstorages := h.storages node hnode
  unfold Proxmox.storageFor
  cases hfirst : o.node node.nodeName with
  | none =>
      rw [hfirst, Option.map_none, Option.map_eq_none_iff] at hstorages
      rw [hstorages]
  | some first =>
      rw [hfirst, Option.map_some, Option.map_eq_some_iff] at hstorages
      obtain ⟨first', hfirst', hsame⟩ := hstorages
      simp only [hfirst', hsame]

end SameTarget

section
variable [Unicode] {o o' : TargetObservation}

/-! ## The network compiler -/

variable {request : WebBreachLabRequest}

theorem reruns_buildVnet (zoneName : Option Str) (segment : Segment) (ownership : Ownership)
    (name : Str) (vlan : Int) {subnet : Ip.Network} (hsubnet : subnet.version = .v4) :
    Reruns o o' (buildVnet zoneName segment ownership name vlan subnet)
      (buildVnet zoneName segment ownership name vlan subnet) := by
  refine Reruns.bind (Reruns.allocating (steady_allocateAddress hsubnet rfl _)) fun gateway => ?_
  exact Reruns.bind (Reruns.check _) fun spec => Reruns.check _

theorem reruns_compileSegment (htarget : SameTarget o o') (hcovers : Covers o o')
    (zoneName : Option Str) (compiled : Dict Str VNetSpec) (segment : Segment) :
    Reruns o o' (compileSegment request o zoneName compiled segment)
      (compileSegment request o' zoneName compiled segment) := by
  refine Reruns.bind (Reruns.check _) fun ownership => ?_
  refine Reruns.bind (Reruns.logRun (steady_sdnName (.inr rfl) _ _ _ _ hcovers)) fun name => ?_
  refine Reruns.bind (Reruns.logRun (steady_allocateVlan request hcovers)) fun vlan => ?_
  refine Reruns.bind_of (P := fun subnet => ∀ n ∈ subnet, n.version = .v4)
    (Reruns.logRun (steady_allocateSubnet request htarget.identity hcovers)) ?_ fun subnet hv4 => ?_
  · intro s subnet t hsettled hrun n hn
    obtain rfl := Option.mem_def.mp hn
    obtain ⟨ledger, hledger, _⟩ := run_logRun_some hrun
    exact (allocateSubnet_recorded hsettled.tidy.sound hledger).1
  · split
    · refine Reruns.bind (reruns_buildVnet _ _ _ _ _ (hv4 _ rfl)) fun vnet => Reruns.pure _
    · exact Reruns.pure _

theorem reruns_compileTeamIpSet (hcovers : Covers o o') (ipSets : List IpSetSpec)
    (item : Option Str × List VNetSpec) :
    Reruns o o' (compileTeamIpSet request o ipSets item)
      (compileTeamIpSet request o' ipSets item) := by
  unfold compileTeamIpSet
  split
  · exact Reruns.pure _
  · refine Reruns.bind (Reruns.check _) fun ownership => ?_
    refine Reruns.bind (Reruns.logRun (steady_firewallName (.inl rfl) _ hcovers)) fun name => ?_
    cases name with
    | none => exact Reruns.pure _
    | some name => exact Reruns.bind (Reruns.check _) fun ipSet => Reruns.pure _

theorem reruns_compileGroup (hcovers : Covers o o') (teamIpset : Dict Str Str)
    (scoring : List VNetSpec) (state : List SecurityGroupSpec × Dict Str Str) (vnet : VNetSpec) :
    Reruns o o' (compileGroup request o teamIpset scoring state vnet)
      (compileGroup request o' teamIpset scoring state vnet) := by
  refine Reruns.bind (Reruns.logRun (steady_firewallName (.inr rfl) _ hcovers)) fun name => ?_
  cases name with
  | none => exact Reruns.pure _
  | some name => exact Reruns.bind (Reruns.check _) fun group => Reruns.pure _

theorem reruns_compileFirewall (htarget : SameTarget o o') (hcovers : Covers o o')
    (vnets : List VNetSpec) :
    Reruns o o' (compileFirewall request o vnets) (compileFirewall request o' vnets) := by
  have hshared : ∀ ownership, sharedIpSets request o' ownership =
      sharedIpSets request o ownership := by
    intro ownership
    unfold sharedIpSets
    rw [htarget.identity]
  unfold compileFirewall
  refine Reruns.bind (Reruns.check _) fun ownership => ?_
  rw [hshared]
  refine Reruns.bind (Reruns.check _) fun shared => ?_
  refine Reruns.bind (Reruns.foldlM (reruns_compileTeamIpSet hcovers) _ _) fun ipSets => ?_
  exact Reruns.bind (Reruns.foldlM (reruns_compileGroup hcovers _ _) _ _) fun groups => Reruns.pure _

theorem reruns_finishNetwork (htarget : SameTarget o o') (hcovers : Covers o o')
    (ownership : Ownership) (zoneName bridge : Str) (compiled : Dict Str VNetSpec) :
    Reruns o o' (finishNetwork request o ownership zoneName bridge compiled)
      (finishNetwork request o' ownership zoneName bridge compiled) := by
  unfold finishNetwork
  rw [htarget.nodeNames]
  refine Reruns.bind (Reruns.check _) fun zone => ?_
  refine Reruns.bind (reruns_compileFirewall htarget hcovers _) fun firewall => ?_
  exact Reruns.getBlocked fun blocked => Reruns.pure _

theorem reruns_concludeNetwork (htarget : SameTarget o o') (hcovers : Covers o o')
    (ownership : Ownership) (zoneName : Option Str) (compiled : Dict Str VNetSpec)
    (blocked : List MissingPrerequisite) :
    Reruns o o' (concludeNetwork request o ownership zoneName compiled blocked)
      (concludeNetwork request o' ownership zoneName compiled blocked) := by
  unfold concludeNetwork
  rw [htarget.targetMissing, htarget.zoneBridge]
  split
  · exact reruns_finishNetwork htarget hcovers _ _ _ _
  · exact Reruns.pure _

theorem reruns_compileNetwork (htarget : SameTarget o o') (hcovers : Covers o o') :
    Reruns o o' (compileNetwork request o) (compileNetwork request o') := by
  refine Reruns.bind (Reruns.check _) fun ownership => ?_
  refine Reruns.bind (Reruns.logRun (steady_sdnName (.inl rfl) _ _ _ _ hcovers)) fun zoneName => ?_
  refine Reruns.bind (Reruns.foldlM (reruns_compileSegment htarget hcovers _) _ _) fun compiled => ?_
  exact Reruns.getBlocked fun blocked => reruns_concludeNetwork htarget hcovers _ _ _ _

/-- A network that ends in a plan ends with nothing missing. -/
theorem nothing_missing_of_compileNetwork {plan : SegregatedNetworkPlan} {s t : Session}
    (h : (compileNetwork request o).run s = .ok (.plan plan, t)) :
    targetMissing o = [] ∧ t.blocked = [] := by
  obtain ⟨_, _, _, h⟩ := run_bind_eq_ok.mp h
  obtain ⟨_, _, _, h⟩ := run_bind_eq_ok.mp h
  obtain ⟨_, _, _, h⟩ := run_bind_eq_ok.mp h
  obtain ⟨_, _, _, h⟩ := run_bind_eq_ok.mp h
  obtain ⟨htarget, _, _, _, _, _, h⟩ := run_concludeNetwork h
  obtain ⟨_, _, _, h⟩ := run_bind_eq_ok.mp h
  obtain ⟨_, _, _, h⟩ := run_bind_eq_ok.mp h
  obtain ⟨_, _, hget, h⟩ := run_bind_eq_ok.mp h
  obtain ⟨rfl, rfl⟩ := run_get_eq_ok.mp hget
  obtain ⟨hplan, rfl⟩ := run_pure_eq_ok.mp h
  exact ⟨htarget, (planUnlessBlocked_eq_plan.mp hplan).1⟩

theorem compileWebBreachLab_eq_ok {ledger ledger' : AllocationLedger}
    {outcome : CompileOutcome SegregatedNetworkPlan} :
    compileWebBreachLab request o ledger = .ok (outcome, ledger') ↔
      ∃ t : Session, (compileNetwork request o).run ⟨ledger, []⟩ = .ok (outcome, t) ∧
        t.ledger = ledger' := by
  unfold compileWebBreachLab StateT.run
  cases compileNetwork request o ⟨ledger, []⟩ with
  | error e => simp
  | ok pair =>
      obtain ⟨a, t⟩ := pair
      simp

/-! ## The workload compiler -/

section
variable {workload : WorkloadRequest} {network : SegregatedNetworkPlan}

theorem placeGuest_eq (htarget : SameTarget o o') (slot : Slot) (image : ReviewedGuestImage) :
    placeGuest workload network o' slot image = placeGuest workload network o slot image := by
  have hproposed : proposedNode workload o' slot = proposedNode workload o slot := by
    unfold proposedNode
    rw [htarget.eligibleNodes]
  unfold placeGuest
  rw [hproposed, htarget.eligibleNodes]
  split
  · rfl
  · dsimp only
    congr 1
    funext nodeName
    split
    · rfl
    · rename_i heligible
      rw [htarget.storageFor (not_not.mp heligible)]

/-- A placed guest sits in a VNet of the network. -/
theorem segment_mem_of_placeGuest {slot : Slot} {image : ReviewedGuestImage} {place : Place}
    (h : placeGuest workload network o slot image = .ok (.inr place)) :
    place.segment ∈ network.vnets := by
  unfold placeGuest at h
  split at h
  · cases h
  · rename_i segment hsegment
    have hmem : segment ∈ network.vnets :=
      (List.mem_filter.mp (List.mem_of_find?_eq_some hsegment)).1
    obtain ⟨nodeName, _, h⟩ := except_bind_eq_ok.mp h
    split at h
    · cases h
    · split at h
      · cases h
      · cases h
        exact hmem

/-- Every subnet of the network is a printed version 4 network. -/
def PrintedSubnets (network : SegregatedNetworkPlan) : Prop :=
  ∀ v ∈ network.vnets, ∃ n : Ip.Network, n.version = .v4 ∧ v.subnet.cidr = n.text

omit [Unicode] in
theorem PrintedSubnets.network_v4 (h : PrintedSubnets network) {v : VNetSpec}
    (hv : v ∈ network.vnets) {n : Ip.Network} (hn : v.subnet.network = .ok n) :
    n.version = .v4 := by
  obtain ⟨m, hversion, htext⟩ := h v hv
  have hread : Ip.ipNetwork true v.subnet.cidr = some n := orValueError_eq_ok.mp hn
  rw [htext, Ip.ipNetwork_text true hversion] at hread
  cases hread
  exact hversion

theorem reruns_compileGuest (htarget : SameTarget o o') (hcovers : Covers o o')
    (hsubnets : PrintedSubnets network) (scoring : VNetSpec) (reportAddress : Str)
    (ownership : Ownership) (produced : Produced) (slot : Slot) :
    Reruns o o' (compileGuest workload network o scoring reportAddress ownership produced slot)
      (compileGuest workload network o' scoring reportAddress ownership produced slot) := by
  unfold compileGuest
  split
  · exact Reruns.check _
  · rename_i image _
    rw [placeGuest_eq htarget]
    -- the address depends on the segment, which a successful placement found in the network
    refine Reruns.bind_of (P := fun place => ∀ p, place = .inr p → p.segment ∈ network.vnets)
      (Reruns.check _) ?_ fun place hplace => ?_
    · intro s place t _ hrun p hp
      obtain ⟨hcheck, _⟩ := run_check_eq_ok.mp hrun
      exact segment_mem_of_placeGuest (hp ▸ hcheck)
    · cases place with
      | inl prerequisite => exact Reruns.pure _
      | inr place =>
          refine Reruns.bind (Reruns.logRun (steady_allocateVmid workload _ hcovers)) fun vmid => ?_
          refine Reruns.bind (Reruns.logRun (steady_allocateMac hcovers)) fun mac => ?_
          split
          · refine Reruns.bind_of (P := fun subnet => subnet.version = .v4) (Reruns.check _) ?_
              fun subnet hsubnet => ?_
            · intro s subnet t _ hrun
              obtain ⟨hcheck, _⟩ := run_check_eq_ok.mp hrun
              exact hsubnets.network_v4 (hplace place rfl) hcheck
            · refine Reruns.bind (Reruns.allocating (steady_allocateAddress hsubnet rfl _))
                fun address => ?_
              refine Reruns.bind (Reruns.check _) fun guest => ?_
              exact Reruns.bind (Reruns.check _) fun contract => Reruns.pure _
          · exact Reruns.pure _

theorem reruns_compileTeam (htarget : SameTarget o o') (hcovers : Covers o o')
    (hsubnets : PrintedSubnets network) (scoring : VNetSpec) (reportAddress : Str)
    (produced : Produced) (team : Str × Nat) :
    Reruns o o' (compileTeam workload network o scoring reportAddress produced team)
      (compileTeam workload network o' scoring reportAddress produced team) := by
  refine Reruns.bind (Reruns.check _) fun ownership => ?_
  refine Reruns.bind (Reruns.check _) fun credentials => ?_
  exact Reruns.foldlM (fun produced entry =>
    reruns_compileGuest htarget hcovers hsubnets scoring reportAddress ownership produced _) _ _

theorem reruns_produceWorkload (htarget : SameTarget o o') (hcovers : Covers o o')
    (hsubnets : PrintedSubnets network) (scoring : VNetSpec) :
    Reruns o o' (produceWorkload workload network o scoring)
      (produceWorkload workload network o' scoring) := by
  refine Reruns.bind (Reruns.check _) fun reportAddress => ?_
  refine Reruns.bind (Reruns.check _) fun materials => ?_
  exact Reruns.foldlM (reruns_compileTeam htarget hcovers hsubnets scoring reportAddress) _ _

theorem workloadMissing_eq (htarget : SameTarget o o') :
    workloadMissing workload network o' = workloadMissing workload network o := by
  have himage : imageMissing workload o' = imageMissing workload o := by
    funext key
    unfold imageMissing
    rw [htarget.templates]
  unfold workloadMissing nodesMissing
  rw [htarget.eligibleNodes, himage]

theorem run_concludeWorkload {produced : Produced} {plan : WorkloadPlan} {s t : Session} :
    (concludeWorkload workload network o produced).run s = .ok (.plan plan, t) ↔
      produced.missing = [] ∧ s.blocked = [] ∧ s = t ∧ ∃ ownership,
        workloadOwnership workload none .virtualMachine = .ok ownership ∧
          buildWorkload workload network o ownership s.ledger produced = plan := by
  unfold concludeWorkload
  constructor
  · intro h
    obtain ⟨_, _, hget, h⟩ := run_bind_eq_ok.mp h
    obtain ⟨rfl, rfl⟩ := run_get_eq_ok.mp hget
    split at h
    · rename_i hmissing
      obtain ⟨hproduced, hblocked⟩ := List.append_eq_nil_iff.mp hmissing
      obtain ⟨ownership, _, hcheck, h⟩ := run_bind_eq_ok.mp h
      obtain ⟨hownership, rfl⟩ := run_check_eq_ok.mp hcheck
      obtain ⟨hplan, rfl⟩ := run_pure_eq_ok.mp h
      cases hplan
      exact ⟨hproduced, hblocked, rfl, ownership, hownership, rfl⟩
    · obtain ⟨hrefused, _⟩ := run_pure_eq_ok.mp h
      cases hrefused
  · rintro ⟨hproduced, hblocked, rfl, ownership, hownership, rfl⟩
    refine run_bind_eq_ok.mpr ⟨s, s, run_get_eq_ok.mpr ⟨rfl, rfl⟩, ?_⟩
    rw [hproduced, hblocked]
    refine run_bind_eq_ok.mpr ⟨ownership, s, run_check_eq_ok.mpr ⟨hownership, rfl⟩, ?_⟩
    exact run_pure_eq_ok.mpr ⟨rfl, rfl⟩

/-- A workload that ends in a plan: its loops ran, nothing was missing, and the plan was built
around what they produced. -/
theorem compileWorkload_eq_plan {ledger ledger' : AllocationLedger} {plan : WorkloadPlan} :
    compileWorkload workload network o ledger = .ok (.plan plan, ledger') ↔
      workloadMissing workload network o = [] ∧
      ∃ scoring produced ownership, scoringSegment network = some scoring ∧
        (produceWorkload workload network o scoring).run ⟨ledger, []⟩ =
          .ok (produced, ⟨ledger', []⟩) ∧
        produced.missing = [] ∧ workloadOwnership workload none .virtualMachine = .ok ownership ∧
        buildWorkload workload network o ownership ledger' produced = plan := by
  have hrun : compileWorkload workload network o ledger = .ok (.plan plan, ledger') ↔
      ∃ t : Session, (workloadProgram workload network o).run ⟨ledger, []⟩ = .ok (.plan plan, t) ∧
        t.ledger = ledger' := by
    unfold compileWorkload StateT.run
    cases workloadProgram workload network o ⟨ledger, []⟩ with
    | error e => simp
    | ok pair =>
        obtain ⟨a, t⟩ := pair
        simp
  rw [hrun]
  unfold workloadProgram
  constructor
  · rintro ⟨t, h, rfl⟩
    split at h
    · rename_i scoring hmissing hscoring
      obtain ⟨produced, u, hproduce, h⟩ := run_bind_eq_ok.mp h
      obtain ⟨hproduced, hblocked, rfl, ownership, hownership, hplan⟩ := run_concludeWorkload.mp h
      obtain ⟨ledger', blocked⟩ := u
      obtain rfl : blocked = [] := hblocked
      exact ⟨hmissing, scoring, produced, ownership, hscoring, hproduce, hproduced, hownership,
        hplan⟩
    · obtain ⟨hrefused, _⟩ := run_pure_eq_ok.mp h
      exact absurd hrefused refuse_ne_plan
  · rintro ⟨hmissing, scoring, produced, ownership, hscoring, hproduce, hproduced, hownership, hplan⟩
    refine ⟨⟨ledger', []⟩, ?_, rfl⟩
    rw [hmissing, hscoring]
    refine run_bind_eq_ok.mpr ⟨produced, ⟨ledger', []⟩, hproduce, ?_⟩
    exact run_concludeWorkload.mpr ⟨hproduced, rfl, rfl, ownership, hownership, hplan⟩

end

/-! ## Two compilations -/

section
variable {workload : WorkloadRequest} {network : SegregatedNetworkPlan} {plan : WorkloadPlan}
  {ledger ledger' : AllocationLedger}

/-- The network compiler a second time: on the empty ledger if nothing it recorded is listed, and on
any ledger that holds what it recorded. -/
theorem compileWebBreachLab_reruns (htarget : SameTarget o o') (hcovers : Covers o o')
    (h : compileWebBreachLab request o AllocationLedger.empty = .ok (.plan network, ledger)) :
    Settled o ledger ∧
      (Clear o o' ledger →
        compileWebBreachLab request o' AllocationLedger.empty = .ok (.plan network, ledger)) ∧
      ∀ u, Extends ledger u → compileWebBreachLab request o' u = .ok (.plan network, u) := by
  obtain ⟨t, hrun, rfl⟩ := compileWebBreachLab_eq_ok.mp h
  obtain ⟨hsettled, _, hfollows⟩ := reruns_compileNetwork htarget hcovers _ _ _ (Settled.empty o) hrun
  have hgood := (nothing_missing_of_compileNetwork hrun).2
  refine ⟨hsettled, fun hclear => ?_, fun u hu => ?_⟩
  · exact compileWebBreachLab_eq_ok.mpr ⟨t, hfollows.same hgood hclear, rfl⟩
  · exact compileWebBreachLab_eq_ok.mpr ⟨⟨u, []⟩, hfollows.again hgood ⟨u, []⟩ rfl hu, rfl⟩

theorem buildWorkload_eq (htarget : SameTarget o o') {u : AllocationLedger}
    (hrecords : u.records = ledger.records) (ownership : Ownership) (produced : Produced) :
    buildWorkload workload network o' ownership u produced =
      buildWorkload workload network o ownership ledger produced := by
  unfold buildWorkload AllocationLedger.all
  rw [htarget.identity, hrecords]

/-- The workload compiler a second time. Its plan lists the ledger, so the second ledger must hold
exactly what the first run left. -/
theorem compileWorkload_reruns (htarget : SameTarget o o') (hcovers : Covers o o')
    (hsettled : Settled o ledger) (hsubnets : PrintedSubnets network)
    (h : compileWorkload workload network o ledger = .ok (.plan plan, ledger')) :
    Settled o ledger' ∧ Extends ledger ledger' ∧
      (Clear o o' ledger' →
        compileWorkload workload network o' ledger = .ok (.plan plan, ledger')) ∧
      ∀ u, u.records = ledger'.records →
        compileWorkload workload network o' u = .ok (.plan plan, u) := by
  obtain ⟨hmissing, scoring, produced, ownership, hscoring, hproduce, hproduced, hownership,
    hplan⟩ := compileWorkload_eq_plan.mp h
  obtain ⟨hsettled', hext, hfollows⟩ := reruns_produceWorkload htarget hcovers hsubnets scoring _ _ _
    hsettled hproduce
  have hmissing' : workloadMissing workload network o' = [] := by
    rw [workloadMissing_eq htarget, hmissing]
  refine ⟨hsettled', hext, fun hclear => ?_, fun u hu => ?_⟩
  · refine compileWorkload_eq_plan.mpr ⟨hmissing', scoring, produced, ownership, hscoring,
      hfollows.same rfl hclear, hproduced, hownership, ?_⟩
    rw [buildWorkload_eq htarget rfl, hplan]
  · have habove : Above ⟨ledger', []⟩ ⟨u, []⟩ := fun a ha => hu ▸ ha
    refine compileWorkload_eq_plan.mpr ⟨hmissing', scoring, produced, ownership, hscoring,
      hfollows.again rfl ⟨u, []⟩ rfl habove, hproduced, hownership, ?_⟩
    rw [buildWorkload_eq htarget hu, hplan]

/-- Compiling both requests again, on the sealed ledger of the first compilation and against any
observation of the same target with every inventory present, returns the same plans and leaves the
ledger as it was. -/
theorem recompile_sealed_eq
    (hnetwork : compileWebBreachLab request o AllocationLedger.empty =
      .ok (.plan network, ledger))
    (hworkload : compileWorkload workload network o ledger = .ok (.plan plan, ledger'))
    (htarget : SameTarget o o') (hinv : Inventoried o') :
    compileWebBreachLab request o' ledger'.sealLedger =
        .ok (.plan network, ledger'.sealLedger) ∧
      compileWorkload workload network o' ledger'.sealLedger =
        .ok (.plan plan, ledger'.sealLedger) := by
  have hsubnets : PrintedSubnets network := (compiled_of_compileWebBreachLab hnetwork).cidrs
  obtain ⟨hsettled, _, hagain⟩ := compileWebBreachLab_reruns htarget hinv.covers hnetwork
  obtain ⟨_, hext, _, hagain'⟩ :=
    compileWorkload_reruns htarget hinv.covers hsettled hsubnets hworkload
  exact ⟨hagain _ hext, hagain' _ rfl⟩

end

end

/-! ## A small range -/

/-- The sample lab with a storage for disk images and a template to clone. -/
def equippedObservation : TargetObservation :=
  { sampleObservation with
    nodes := [⟨str "n", true, none, none, [⟨str "s", [storageContentImages], none, none⟩],
      [str "b"]⟩]
    templates := [⟨str "base", 900, str "n", .qemu⟩] }

def sampleImage (key : Str) (role : WorkloadRole) (hkey : key ≠ []) :
    @ReviewedGuestImage Unicode.ascii :=
  let _ := Unicode.ascii
  { workloadKey := key
    role := role
    templateRef := str "base"
    workloadVersion := str "1"
    imageDigest := str "sha256:00000000000000000000000000000000"
    approvalReference := str "a"
    guestKind := .qemu
    cloneStrategy := .full
    servicePort := 80
    workloadKey_ne := hkey
    version_pinned := by with_unfolding_all decide
    digest_valid := by with_unfolding_all decide
    approvalReference_ne := by simp }

/-- A product with one target and no challenges. -/
def sampleTemplate : CatalogTemplate := ⟨str "lab", [⟨str "web", .target⟩], []⟩

def sampleImages : List (@ReviewedGuestImage Unicode.ascii) :=
  [sampleImage attackerWorkloadKey .attacker (by simp [attackerWorkloadKey]),
    sampleImage (str "web") .target (by simp)]

def sampleProfiles : Dict WorkloadRole GuestProfile :=
  [(.attacker, ⟨1, 512, 8, str "scsi0", by decide⟩), (.target, ⟨1, 512, 8, str "scsi0", by decide⟩)]

/-- An attacker and one target for each of the two teams. -/
def sampleWorkload : @WorkloadRequest Unicode.ascii :=
  let _ := Unicode.ascii
  { organizationId := str "o"
    targetId := str "t"
    rangeId := str "r"
    generation := 1
    operationGeneration := 0
    template := sampleTemplate
    teamRefs := [str "x", str "y"]
    images := sampleImages
    profiles := sampleProfiles
    cloudInitUser := str "u"
    sshAuthorizedKeys := []
    bootstrapOperations := []
    materialChannel := str "m"
    placement := []
    bootstrapDeadlineSeconds := 600
    scoringPort := 443
    pools := samplePools
    two_teams := by decide
    teamRefs_nodup := by with_unfolding_all decide
    operations_bounded := by decide
    operations_nodup := by decide
    images_nodup := by with_unfolding_all decide }

/-- Whether a network and the workload placed on it both ended in a plan. -/
def compiledRange (network : Except Raised (CompileOutcome SegregatedNetworkPlan × AllocationLedger))
    (workload : SegregatedNetworkPlan → AllocationLedger →
      Except Raised (CompileOutcome WorkloadPlan × AllocationLedger)) : Bool :=
  match network with
  | .ok (.plan plan, ledger) =>
      match workload plan ledger with
      | .ok (.plan _, _) => true
      | _ => false
  | _ => false

theorem exists_of_compiledRange
    {network : Except Raised (CompileOutcome SegregatedNetworkPlan × AllocationLedger)}
    {workload : SegregatedNetworkPlan → AllocationLedger →
      Except Raised (CompileOutcome WorkloadPlan × AllocationLedger)}
    (h : compiledRange network workload = true) : ∃ plan ledger plan' ledger',
      network = .ok (.plan plan, ledger) ∧ workload plan ledger = .ok (.plan plan', ledger') := by
  unfold compiledRange at h
  split at h
  · rename_i plan ledger
    split at h
    · rename_i plan' ledger' hworkload
      exact ⟨plan, ledger, plan', ledger', rfl, hworkload⟩
    · cases h
  · cases h

theorem sampleRange_compiles : compiledRange
    (@compileWebBreachLab Unicode.ascii (sampleRequest none) equippedObservation
      AllocationLedger.empty)
    (fun network ledger => @compileWorkload Unicode.ascii sampleWorkload network
      equippedObservation ledger) = true := by decide +kernel

/-- An observation that also lists what a ledger holds. -/
def TargetObservation.listing [Unicode] (o : TargetObservation) (ledger : AllocationLedger) :
    TargetObservation :=
  let values := fun kind => (ledger.records.filter fun a => a.kind = kind).map Allocation.value
  { o with
    vlanTagsInUse := o.vlanTagsInUse.map (· ++ (values .vlanTag).filterMap intOf)
    vmidsInUse := o.vmidsInUse.map (· ++ (values .vmid ++ values .lxcId).filterMap intOf)
    macsInUse := o.macsInUse.map (· ++ values .mac)
    subnetsInUse := o.subnetsInUse.map (· ++ values .subnet)
    sdnNamesInUse := o.sdnNamesInUse.map (· ++ values .zoneName ++ values .vnetName)
    firewallNamesInUse := o.firewallNamesInUse.map (· ++ values .firewallObjectName) }

/-- Recompiling the sample range after discovery has found everything it created. -/
theorem sample_recompile_sealed : ∃ network ledger plan ledger',
    @compileWebBreachLab Unicode.ascii (sampleRequest none) equippedObservation
      AllocationLedger.empty = .ok (.plan network, ledger) ∧
    @compileWorkload Unicode.ascii sampleWorkload network equippedObservation ledger =
      .ok (.plan plan, ledger') ∧
    @compileWebBreachLab Unicode.ascii (sampleRequest none)
      (@TargetObservation.listing Unicode.ascii equippedObservation ledger') ledger'.sealLedger =
      .ok (.plan network, ledger'.sealLedger) ∧
    @compileWorkload Unicode.ascii sampleWorkload network
      (@TargetObservation.listing Unicode.ascii equippedObservation ledger') ledger'.sealLedger =
      .ok (.plan plan, ledger'.sealLedger) := by
  let _ := Unicode.ascii
  obtain ⟨network, ledger, plan, ledger', hnetwork, hworkload⟩ :=
    exists_of_compiledRange sampleRange_compiles
  have htarget : SameTarget equippedObservation (equippedObservation.listing ledger') :=
    ⟨rfl, rfl, rfl, rfl, fun _ _ => rfl, rfl⟩
  have hagain := recompile_sealed_eq hnetwork hworkload htarget ⟨rfl, rfl, rfl, rfl, rfl, rfl⟩
  exact ⟨network, ledger, plan, ledger', hnetwork, hworkload, hagain⟩

/-- An observation that no longer knows whether the target supports SDN refuses the recompilation,
whatever else it kept. -/
theorem sample_recompile_refused : ∃ network ledger plan ledger',
    @compileWebBreachLab Unicode.ascii (sampleRequest none) equippedObservation
      AllocationLedger.empty = .ok (.plan network, ledger) ∧
    @compileWorkload Unicode.ascii sampleWorkload network equippedObservation ledger =
      .ok (.plan plan, ledger') ∧
    Inventoried { equippedObservation with sdnSupported := none } ∧
    ∀ network' ledger'', @compileWebBreachLab Unicode.ascii (sampleRequest none)
      { equippedObservation with sdnSupported := none } ledger'.sealLedger ≠
      .ok (.plan network', ledger'') := by
  let _ := Unicode.ascii
  obtain ⟨network, ledger, plan, ledger', hnetwork, hworkload⟩ :=
    exists_of_compiledRange sampleRange_compiles
  refine ⟨network, ledger, plan, ledger', hnetwork, hworkload, ⟨rfl, rfl, rfl, rfl, rfl, rfl⟩, ?_⟩
  intro network' ledger'' h
  obtain ⟨t, hrun, _⟩ := compileWebBreachLab_eq_ok.mp h
  have hmissing := (nothing_missing_of_compileNetwork hrun).1
  cases hmissing

end Secp.Proxmox
