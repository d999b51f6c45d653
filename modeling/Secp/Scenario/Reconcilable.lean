import Secp.Logic.StateExcept
import Secp.Reconciliation.Actions
import Secp.Reconciliation.EdgeRefs
import Secp.Scenario.Simulator

/-!
# Which scenarios can be reconciled

The references of a planned topology come from the names and the counts of the definition: a network is
its name, a node its role with a number behind it, an edge the two ends with a mark between them. The
names have no character of the marks, so an edge can be told apart from everything else and from every
other edge; a network and a node cannot be told apart by their names.
-/

namespace Secp.Scenario

open Secp.Python Secp.Reconciliation Secp.Logic

/-! ## Names -/

/-- The references a definition gives its nodes. -/
def Spec.nodeRefs (spec : Spec) : List Str :=
  spec.roles.flatMap fun role => (List.range role.count).map role.nodeRef

/-- No two networks or nodes of a definition share a reference. -/
def DistinctRefs (spec : Spec) : Prop := (spec.networks.map Network.name ++ spec.nodeRefs).Nodup

/-- A text of letters, digits and hyphens. -/
def Plain (s : Str) : Prop := s ≠ [] ∧ ∀ c ∈ s, c = '-' ∨ isNameEnd c = true

theorem Plain.not_mem {s : Str} (h : Plain s) {c : Char} (hc : c ≠ '-') (hend : isNameEnd c = false) :
    c ∉ s := by
  intro hmem
  rcases h.2 c hmem with heq | heq
  · exact hc heq
  · rw [hend] at heq
    cases heq

section
variable [Unicode] {spec : Spec}

theorem plain_of_nameRe {name : Str} (h : nameRe.fullmatch name = true) : Plain name := by
  obtain ⟨u, v, rfl, ⟨c, rfl, hc⟩, hrest⟩ := Re.takes_of_fullmatch h
  refine ⟨List.cons_ne_nil _ _, fun d hd => ?_⟩
  rcases List.mem_cons.mp hd with rfl | hv
  · exact .inr hc
  · rcases hrest with hempty | ⟨x, y, rfl, hmany, ⟨e, rfl, he⟩⟩
    · rw [show v = [] from hempty] at hv
      cases hv
    · rcases (List.mem_append (s := x) (t := [e])).mp hv with hinner | hlast
      · rcases Bool.or_eq_true_iff.mp (hmany.2.2 d hinner) with hdash | hend
        · exact .inl (of_decide_eq_true hdash)
        · exact .inr hend
      · rw [List.mem_singleton.mp hlast]
        exact .inr he

omit [Unicode] in
theorem Plain.nodeRef {role : Role} (h : Plain role.name) (i : Nat) : Plain (role.nodeRef i) := by
  unfold Role.nodeRef
  split
  · refine ⟨by simp [h.1], fun c hc => ?_⟩
    rcases List.mem_append.mp hc with hc | hc
    · rcases List.mem_append.mp hc with hc | hc
      · exact h.2 c hc
      · rw [show str "-" = ['-'] by with_unfolding_all decide] at hc
        exact .inl (List.mem_singleton.mp hc)
    · refine .inr (Bool.or_eq_true_iff.mpr (.inr (isAsciiDigit_of_mem_natStr hc)))
  · exact h

theorem accepted_iff : spec.accepted = true ↔
    spec.networks ≠ [] ∧ spec.roles ≠ [] ∧ (∀ n ∈ spec.networks, n.accepted = true) ∧
      ∀ role ∈ spec.roles, role.accepted spec.networks = true := by
  unfold Spec.accepted
  simp only [Bool.and_eq_true, Bool.not_eq_true', List.isEmpty_eq_false_iff, List.all_eq_true,
    and_assoc, ne_eq]

/-- The references of an accepted definition are plain. -/
theorem plain_refs (h : spec.accepted = true) :
    (∀ ref ∈ spec.networks.map Network.name, Plain ref) ∧ ∀ ref ∈ spec.nodeRefs, Plain ref := by
  obtain ⟨-, -, hnetworks, hroles⟩ := accepted_iff.mp h
  constructor
  · intro ref href
    obtain ⟨network, hnetwork, rfl⟩ := List.mem_map.mp href
    exact plain_of_nameRe (Bool.and_eq_true_iff.mp (hnetworks network hnetwork)).1
  · intro ref href
    obtain ⟨role, hrole, href⟩ := List.mem_flatMap.mp href
    obtain ⟨i, -, rfl⟩ := List.mem_map.mp href
    have hname := hroles role hrole
    simp only [Role.accepted, Bool.and_eq_true] at hname
    exact (plain_of_nameRe hname.1.1.1.1.1).nodeRef i

theorem network_mem (h : spec.accepted = true) {role : Role} (hrole : role ∈ spec.roles) :
    role.network ∈ spec.networks.map Network.name := by
  obtain ⟨-, -, -, hroles⟩ := accepted_iff.mp h
  have haccepted := hroles role hrole
  simp only [Role.accepted, Bool.and_eq_true, decide_eq_true_eq] at haccepted
  exact haccepted.2

end

/-! ## Edges -/

/-- The ends of an edge between plain references are read back. -/
theorem decodeEdgeRef_encode {source target : Str} (hs : Plain source) (ht : Plain target)
    (kind : Str) : decodeEdgeRef (encodeEdgeRef source target kind) = some (source, target) := by
  refine (decodeEdgeRef_encode_iff hs.1 ht.1 kind).mpr ⟨hs.not_mem (by decide) (by decide), ?_,
    ht.not_mem (by decide) (by decide)⟩
  rw [show str "->" = ['-', '>'] by with_unfolding_all decide]
  intro harrow
  refine hs.not_mem (c := '>') (by decide) (by decide) (harrow.subset ?_)
  exact List.mem_cons_of_mem _ (List.mem_singleton_self _)

/-- An edge is no plain reference. -/
theorem encodeEdgeRef_not_plain (source target kind : Str) :
    ¬Plain (encodeEdgeRef source target kind) := by
  intro h
  refine h.not_mem (c := '>') (by decide) (by decide) ?_
  unfold encodeEdgeRef
  rw [show str "->" = ['-', '>'] by with_unfolding_all decide]
  simp

/-! ## What a plan holds -/

/-- What the loops leave: a network for each network, a node for each place of a role, an edge from each
node to its network. -/
structure Planned (spec : Spec) (topology : InstanceTopology) : Prop where
  networks : topology.networks.map TopologyNetwork.ref = spec.networks.map Network.name
  nodes : topology.nodes.map TopologyNode.ref = spec.nodeRefs
  edges : topology.edges = topology.nodes.map (fun n => ⟨n.ref, n.networkRef, .network⟩) ++
    monitorEdges topology.nodes
  attached : ∀ n ∈ topology.nodes, n.networkRef ∈ spec.roles.map Role.network

theorem orRaise_eq_ok_iff {α : Type} {o : Option α} {a : α} : orRaise o = .ok a ↔ o = some a := by
  cases o with
  | none => simp [orRaise]
  | some b => simp [orRaise]

section
variable {spec : Spec} {target : TargetInstance} {networksByName : Dict Str TopologyNetwork}
  {role : Role} {placing placing' : Placing} {i : Nat}

/-- What one turn of the inner loop does. -/
structure NodePlaced (networksByName : Dict Str TopologyNetwork) (role : Role) (i : Nat)
    (placing placing' : Placing) (node : TopologyNode) : Prop where
  ref : node.ref = role.nodeRef i
  networkRef : node.networkRef = role.network
  host : ∃ network host, networksByName.get? role.network = some network ∧
    placing.hostCounter.get? role.network = some host ∧
    hostIp network.cidr host = some node.ipAddress ∧
    placing'.hostCounter = placing.hostCounter.set role.network (host + 1)
  nodes : placing'.nodes = placing.nodes ++ [node]
  edges : placing'.edges = placing.edges ++ [⟨node.ref, node.networkRef, .network⟩]

theorem placeNode_adds (h : placeNode target networksByName role placing i = .ok placing') :
    ∃ node, NodePlaced networksByName role i placing placing' node := by
  unfold placeNode at h
  obtain ⟨network, hnetwork, h⟩ := except_bind_eq_ok.mp h
  obtain ⟨host, hhost, h⟩ := except_bind_eq_ok.mp h
  obtain ⟨ip, hip, h⟩ := except_bind_eq_ok.mp h
  cases h
  exact ⟨_, rfl, rfl, ⟨network, host, orRaise_eq_ok_iff.mp hnetwork, orRaise_eq_ok_iff.mp hhost,
    orRaise_eq_ok_iff.mp hip, rfl⟩, rfl, rfl⟩

/-- Each node with its network. -/
def links (nodes : List TopologyNode) : List (Str × Str) := nodes.map fun n => (n.ref, n.networkRef)

/-- The edges of nodes to their networks. -/
def networkEdges (links : List (Str × Str)) : List TopologyEdge :=
  links.map fun link => ⟨link.1, link.2, .network⟩

/-- The nodes a role places, each with its network. -/
def Role.links (role : Role) : List (Str × Str) :=
  (List.range role.count).map fun i => (role.nodeRef i, role.network)

theorem placeRole_adds (h : placeRole target networksByName placing role = .ok placing') :
    links placing'.nodes = links placing.nodes ++ role.links ∧
      placing'.edges = placing.edges ++ networkEdges role.links := by
  have hnodes : links placing'.nodes = links placing.nodes ++
      (List.range role.count).flatMap fun i => [(role.nodeRef i, role.network)] := by
    refine @foldlM_adds _ _ _ _ _ (fun p : Placing => links p.nodes) _ _ _ _
      (fun placing i placing' _ hstep => ?_) h
    obtain ⟨node, hplaced⟩ := placeNode_adds hstep
    show links placing'.nodes = links placing.nodes ++ _
    rw [links, hplaced.nodes, List.map_append, List.map_singleton, hplaced.ref, hplaced.networkRef]
    rfl
  have hedges : placing'.edges = placing.edges ++
      (List.range role.count).flatMap fun i => [⟨role.nodeRef i, role.network, .network⟩] := by
    refine foldlM_adds (fun placing i placing' _ hstep => ?_) h
    obtain ⟨node, hplaced⟩ := placeNode_adds hstep
    rw [hplaced.edges, hplaced.ref, hplaced.networkRef]
  rw [← List.map_eq_flatMap] at hnodes hedges
  refine ⟨hnodes, ?_⟩
  rw [hedges, networkEdges, Role.links, List.map_map]
  rfl

/-- The loop over the roles adds the nodes of each, on its network. -/
theorem links_placed (h : spec.roles.foldlM (placeRole target networksByName) placing = .ok placing') :
    links placing'.nodes = links placing.nodes ++ spec.roles.flatMap Role.links :=
  @foldlM_adds _ _ _ _ _ (fun p : Placing => links p.nodes) Role.links _ _ _
    (fun _ _ _ _ hstep => (placeRole_adds hstep).1) h

theorem planned_of_planInstance {planned : InstancePlan}
    (h : planInstance spec target = .ok planned) : Planned spec planned.desired := by
  unfold planInstance at h
  obtain ⟨networks, hnetworks, h⟩ := except_bind_eq_ok.mp h
  obtain ⟨placing, hplacing, h⟩ := except_bind_eq_ok.mp h
  cases h
  have hlinks : links placing.nodes = spec.roles.flatMap Role.links := links_placed hplacing
  have hedges : placing.edges = spec.roles.flatMap fun role => networkEdges role.links :=
    @foldlM_adds _ _ _ _ _ Placing.edges (fun role : Role => networkEdges role.links) _ _ _
      (fun _ _ _ _ hstep => (placeRole_adds hstep).2) hplacing
  refine ⟨?_, ?_, ?_, fun n hn => ?_⟩
  · have hrefs := mapM_eq_ok_iff.mp hnetworks
    have hsame : List.Forall₂ (fun network tnet => network.name = tnet.ref) spec.networks networks := by
      refine hrefs.imp fun network tnet htnet => ?_
      unfold planNetwork at htnet
      obtain ⟨cidr, -, htnet⟩ := except_bind_eq_ok.mp htnet
      cases htnet
      rfl
    have hmapped := List.forall₂_map_left_iff.mpr (List.forall₂_map_right_iff.mpr hsame)
    exact (cast (congrFun (congrFun List.forall₂_eq_eq_eq _) _) hmapped).symm
  · have hrefs := congrArg (List.map Prod.fst) hlinks
    rw [links, List.map_map, List.map_flatMap] at hrefs
    refine hrefs.trans (List.flatMap_congr fun role _ => ?_)
    rw [Role.links, List.map_map]
    rfl
  · show placing.edges ++ _ = _
    have hsplit : placing.edges = networkEdges (spec.roles.flatMap Role.links) := by
      rw [networkEdges, List.map_flatMap]
      exact hedges
    rw [hsplit, ← hlinks, networkEdges, links, List.map_map]
    rfl
  · have hlink : (n.ref, n.networkRef) ∈ spec.roles.flatMap Role.links :=
      hlinks ▸ List.mem_map_of_mem hn
    obtain ⟨role, hrole, hlink⟩ := List.mem_flatMap.mp hlink
    obtain ⟨i, -, hlink⟩ := List.mem_map.mp hlink
    rw [← (Prod.mk.inj hlink).2]
    exact List.mem_map_of_mem hrole

end

/-! ## Elements -/

section
variable [Unicode] {spec : Spec} {topology : InstanceTopology}

omit [Unicode] in
/-- The references of the elements of a planned topology. -/
theorem refs_topologyElements (h : Planned spec topology) :
    (topologyElements topology).map StateElement.ref =
      (spec.networks.map Network.name ++ spec.nodeRefs) ++
        topology.edges.map fun edge => encodeEdgeRef edge.sourceRef edge.targetRef edge.kind.value := by
  rw [topologyElements, List.map_append, List.map_append, List.map_map, List.map_map, List.map_map,
    ← h.networks, ← h.nodes]
  rfl

/-- An edge goes from a node to a network that is there or to another node. -/
theorem edge_spec (haccepted : spec.accepted = true) (h : Planned spec topology)
    {edge : TopologyEdge} (hedge : edge ∈ topology.edges) :
    edge.sourceRef ∈ spec.nodeRefs ∧
      (edge.kind = .network ∧ edge.targetRef ∈ spec.networks.map Network.name ∨
        edge.kind = .monitors ∧ edge.targetRef ∈ spec.nodeRefs) := by
  have hnode : ∀ n ∈ topology.nodes, n.ref ∈ spec.nodeRefs :=
    fun n hn => h.nodes ▸ List.mem_map_of_mem hn
  rw [h.edges] at hedge
  rcases List.mem_append.mp hedge with hedge | hedge
  · obtain ⟨n, hn, rfl⟩ := List.mem_map.mp hedge
    obtain ⟨role, hrole, hnetwork⟩ := List.mem_map.mp (h.attached n hn)
    exact ⟨hnode n hn, .inl ⟨rfl, hnetwork ▸ network_mem haccepted hrole⟩⟩
  · obtain ⟨s, hs, hedge⟩ := List.mem_flatMap.mp hedge
    obtain ⟨m, hm, rfl⟩ := List.mem_map.mp hedge
    obtain ⟨n, hn, rfl⟩ := List.mem_map.mp hs
    obtain ⟨n', hn', rfl⟩ := List.mem_map.mp hm
    exact ⟨hnode n (List.mem_of_mem_filter hn),
      .inr ⟨rfl, hnode n' (List.mem_of_mem_filter hn')⟩⟩

theorem plain_edge (haccepted : spec.accepted = true) (h : Planned spec topology)
    {edge : TopologyEdge} (hedge : edge ∈ topology.edges) :
    Plain edge.sourceRef ∧ Plain edge.targetRef := by
  obtain ⟨hnetworks, hnodes⟩ := plain_refs haccepted
  obtain ⟨hsource, ⟨-, htarget⟩ | ⟨-, htarget⟩⟩ := edge_spec haccepted h hedge
  · exact ⟨hnodes _ hsource, hnetworks _ htarget⟩
  · exact ⟨hnodes _ hsource, hnodes _ htarget⟩

/-- The edges of a topology whose nodes are told apart are told apart. -/
theorem nodup_edges (haccepted : spec.accepted = true) (h : Planned spec topology)
    (hdistinct : DistinctRefs spec) : (topology.edges.map fun edge =>
      encodeEdgeRef edge.sourceRef edge.targetRef edge.kind.value).Nodup := by
  obtain ⟨-, hnodes, hdisjoint⟩ := List.nodup_append'.mp hdistinct
  have hrefs : (topology.nodes.map TopologyNode.ref).Nodup := h.nodes ▸ hnodes
  have hfilter : ∀ p : TopologyNode → Bool, ((topology.nodes.filter p).map TopologyNode.ref).Nodup :=
    fun p => hrefs.sublist (List.filter_sublist.map _)
  -- an edge is determined by its ends
  have hedges : (topology.edges.map fun edge => (edge.sourceRef, edge.targetRef)).Nodup := by
    rw [h.edges, List.map_append]
    refine List.nodup_append'.mpr ⟨?_, ?_, ?_⟩
    · rw [List.map_map]
      refine List.Nodup.of_map Prod.fst ?_
      rw [List.map_map]
      exact hrefs
    · rw [monitorEdges, List.map_flatMap]
      refine List.nodup_flatMap.mpr ⟨fun s _ => ?_, ?_⟩
      · rw [List.map_map]
        refine List.Nodup.of_map Prod.snd ?_
        rw [List.map_map]
        exact (List.map_id _).symm ▸ hfilter _
      · refine (hfilter _).imp fun {s s'} hne => ?_
        intro ends hends hends'
        simp only [List.map_map] at hends hends'
        obtain ⟨m, -, rfl⟩ := List.mem_map.mp hends
        obtain ⟨m', -, heq⟩ := List.mem_map.mp hends'
        exact hne (Prod.mk.inj heq).1.symm
    · intro ends hends hends'
      obtain ⟨edge, hedge, rfl⟩ := List.mem_map.mp hends
      obtain ⟨edge', hedge', heq⟩ := List.mem_map.mp hends'
      obtain ⟨n, hn, rfl⟩ := List.mem_map.mp hedge
      obtain ⟨s, -, hedge'⟩ := List.mem_flatMap.mp hedge'
      obtain ⟨m, hm, rfl⟩ := List.mem_map.mp hedge'
      obtain ⟨n', hn', rfl⟩ := List.mem_map.mp hm
      obtain ⟨role, hrole, hnetwork⟩ := List.mem_map.mp (h.attached n hn)
      have htarget : n'.ref = n.networkRef := (Prod.mk.inj heq).2
      refine hdisjoint (network_mem haccepted hrole) ?_
      rw [hnetwork, ← htarget, ← h.nodes]
      exact List.mem_map_of_mem (List.mem_of_mem_filter hn')
  refine List.Nodup.map_on (fun edge hedge edge' hedge' heq => ?_) hedges.of_map
  refine List.inj_on_of_nodup_map hedges hedge hedge' ?_
  obtain ⟨hsource, htarget⟩ := plain_edge haccepted h hedge
  obtain ⟨hsource', htarget'⟩ := plain_edge haccepted h hedge'
  have hends := (decodeEdgeRef_encode hsource htarget edge.kind.value).symm.trans
    ((congrArg decodeEdgeRef heq).trans (decodeEdgeRef_encode hsource' htarget' edge'.kind.value))
  exact Option.some.inj hends

/-- The references of a planned topology are pairwise distinct when those of its networks and nodes
are. -/
theorem nodup_refs_iff (haccepted : spec.accepted = true) (h : Planned spec topology) :
    ((topologyElements topology).map StateElement.ref).Nodup ↔ DistinctRefs spec := by
  rw [refs_topologyElements h]
  constructor
  · intro hnodup
    exact (List.nodup_append'.mp hnodup).1
  · intro hdistinct
    refine List.nodup_append'.mpr ⟨hdistinct, nodup_edges haccepted h hdistinct, ?_⟩
    intro ref href hedge
    obtain ⟨edge, -, rfl⟩ := List.mem_map.mp hedge
    obtain ⟨hnetworks, hnodes⟩ := plain_refs haccepted
    have hplain := (List.mem_append.mp href).elim (hnetworks _) (hnodes _)
    exact encodeEdgeRef_not_plain _ _ _ hplain

theorem wellFormed_of_mem (haccepted : spec.accepted = true) (h : Planned spec topology)
    {e : StateElement} (he : e ∈ topologyElements topology) : e.wellFormed = true := by
  obtain ⟨hnetworks, hnodes⟩ := plain_refs haccepted
  rw [StateElement.wellFormed]
  rcases List.mem_append.mp he with he | hedge
  · rcases List.mem_append.mp he with hnetwork | hnode
    · obtain ⟨network, hmem, rfl⟩ := List.mem_map.mp hnetwork
      have hne := (hnetworks network.ref (h.networks ▸ List.mem_map_of_mem hmem)).1
      simp [TopologyNetwork.element, ElementKind.facets, hne]
    · obtain ⟨node, hmem, rfl⟩ := List.mem_map.mp hnode
      have hne := (hnodes node.ref (h.nodes ▸ List.mem_map_of_mem hmem)).1
      simp [TopologyNode.element, ElementKind.facets, hne]
  · obtain ⟨edge, -, rfl⟩ := List.mem_map.mp hedge
    have harrow : str "->" ≠ [] := by with_unfolding_all decide
    simp [TopologyEdge.element, encodeEdgeRef, harrow]

theorem attached_of_mem (haccepted : spec.accepted = true) (h : Planned spec topology)
    {e : StateElement} (he : e ∈ topologyElements topology) :
    e.attached (topologyElements topology) = true := by
  have hnode : ∀ ref ∈ spec.nodeRefs, endpointPresent (topologyElements topology) ref = true := by
    intro ref href
    obtain ⟨node, hmem, rfl⟩ := List.mem_map.mp (h.nodes ▸ href)
    exact endpointPresent_iff.mpr ⟨node.element, List.mem_append_left _
      (List.mem_append_right _ (List.mem_map_of_mem hmem)), .inl rfl, rfl⟩
  have hnetwork : ∀ ref ∈ spec.networks.map Network.name,
      endpointPresent (topologyElements topology) ref = true := by
    intro ref href
    obtain ⟨network, hmem, rfl⟩ := List.mem_map.mp (h.networks ▸ href)
    exact endpointPresent_iff.mpr ⟨network.element, List.mem_append_left _
      (List.mem_append_left _ (List.mem_map_of_mem hmem)), .inr rfl, rfl⟩
  unfold StateElement.attached
  split
  · next hkind =>
      rcases List.mem_append.mp he with he | hedge
      · rcases List.mem_append.mp he with hmem | hmem
        · obtain ⟨network, -, rfl⟩ := List.mem_map.mp hmem
          cases hkind
        · obtain ⟨node, -, rfl⟩ := List.mem_map.mp hmem
          cases hkind
      · obtain ⟨edge, hmem, rfl⟩ := List.mem_map.mp hedge
        obtain ⟨hsource, htarget⟩ := plain_edge haccepted h hmem
        rw [show decodeEdgeRef edge.element.ref = _ from decodeEdgeRef_encode hsource htarget _]
        obtain ⟨hs, ⟨-, ht⟩ | ⟨-, ht⟩⟩ := edge_spec haccepted h hmem
        · exact Bool.and_eq_true_iff.mpr ⟨hnode _ hs, hnetwork _ ht⟩
        · exact Bool.and_eq_true_iff.mpr ⟨hnode _ hs, hnode _ ht⟩
  · rfl

/-- The gate of reconciliation has nothing against the desired elements. -/
structure Reconcilable (elements : List StateElement) : Prop where
  formed : malformedElements elements = false
  distinct : duplicateRefs elements = false
  attached : danglingEdges elements = false
  verifies : ∀ scope desired observed now, desired.elements = elements →
    verifyInputs scope desired observed now ≠ .error .desiredStateInconsistent

omit [Unicode] in
theorem require_bind_eq_error_iff {α : Type} {condition : Bool} {code code' : RefusalCode}
    {f : Unit → Guarded α} : (require condition code >>= f) = .error code' ↔
      condition = false ∧ code = code' ∨ condition = true ∧ f () = .error code' := by
  cases condition
  · exact ⟨fun h => .inl ⟨rfl, Except.error.inj h⟩, fun h => by
      rcases h with ⟨-, rfl⟩ | ⟨h, -⟩
      · rfl
      · cases h⟩
  · exact ⟨fun h => .inr ⟨rfl, h⟩, fun h => by
      rcases h with ⟨h, -⟩ | ⟨-, h⟩
      · cases h
      · exact h⟩

omit [Unicode] in
/-- The gate finds a desired state inconsistent only when it is. -/
theorem verifyInputs_ne_inconsistent {scope : ReconciliationScope} {desired : DesiredState}
    {observed : ObservedState} {now : Datetime} (h : consistent desired.elements = true) :
    verifyInputs scope desired observed now ≠ .error .desiredStateInconsistent := by
  unfold verifyInputs
  simp only [ne_eq, require_bind_eq_error_iff, h]
  simp [pure, Except.pure]

theorem reconcilable_iff_nodup (haccepted : spec.accepted = true) (h : Planned spec topology) :
    Reconcilable (topologyElements topology) ↔ DistinctRefs spec := by
  rw [← nodup_refs_iff haccepted h]
  have hformed : ∀ e ∈ topologyElements topology, e.wellFormed = true :=
    fun e he => wellFormed_of_mem haccepted h he
  have hattached : ∀ e ∈ topologyElements topology, e.attached (topologyElements topology) = true :=
    fun e he => attached_of_mem haccepted h he
  constructor
  · intro hreconcilable
    have hdistinct := hreconcilable.distinct
    rw [duplicateRefs, Bool.not_eq_false'] at hdistinct
    exact of_decide_eq_true hdistinct
  · intro hnodup
    have hconsistent := consistent_iff.mpr ⟨hformed, hnodup, hattached⟩
    refine ⟨?_, ?_, ?_, fun scope desired observed now helements =>
      verifyInputs_ne_inconsistent (helements ▸ hconsistent)⟩
    · rw [malformedElements, List.all_eq_true.mpr hformed, Bool.not_true]
    · rw [duplicateRefs, decide_eq_true hnodup, Bool.not_true]
    · rw [danglingEdges, List.all_eq_true.mpr hattached, Bool.not_true]

/-- The instances of an accepted definition can be reconciled exactly when its networks and its nodes
have references of their own. -/
theorem reconcilable_iff_distinctRefs {targets : List TargetInstance} {instances : List InstancePlan}
    (hplan : plan spec targets = .ok instances) :
    ∀ planned ∈ instances,
      (Reconcilable (topologyElements planned.desired) ↔ DistinctRefs spec) := by
  intro planned hmem
  unfold plan at hplan
  split at hplan
  · next haccepted =>
      obtain ⟨target, -, htarget⟩ := forall₂_exists_left (mapM_eq_ok_iff.mp hplan) hmem
      exact reconcilable_iff_nodup haccepted (planned_of_planInstance htarget)
  · cases hplan

end

/-! ## Samples -/

def sampleTarget : TargetInstance := ⟨str "i-1", str "lab-1", str "team-1", 0⟩

def sampleNetwork : Network := ⟨str "dmz", .perTeam, some (str "10.20.0.0/24"), true⟩

/-- One network and one role of the given name. -/
def sampleSpec (name : Str) : Spec :=
  ⟨.strict, [sampleNetwork], [⟨name, .target, str "juice-shop", str "dmz", 1, []⟩]⟩

/-- The plan of a sample for its one team. -/
def samplePlan (name : Str) : InstancePlan :=
  ⟨str "i-1", str "lab-1", str "team-1",
    [⟨str "dmz", str "team-1-dmz", str "10.20.0.0/24", some (str "team-1"), true⟩],
    [⟨name, str "team-1-" ++ name, .target, name, str "juice-shop", str "dmz", str "10.20.0.10",
      [(str "team_ref", str "team-1"), (str "vulnerability_packs", [])]⟩],
    [⟨name, str "dmz", .network⟩]⟩

theorem plan_sample : @plan Unicode.ascii (sampleSpec (str "web")) [sampleTarget] =
    .ok [samplePlan (str "web")] := by
  with_unfolding_all decide

theorem sample_reconcilable :
    @plan Unicode.ascii (sampleSpec (str "web")) [sampleTarget] = .ok [samplePlan (str "web")] ∧
      (Reconcilable (topologyElements (samplePlan (str "web")).desired) ↔
        DistinctRefs (sampleSpec (str "web"))) :=
  let _ := Unicode.ascii
  ⟨plan_sample, reconcilable_iff_distinctRefs plan_sample _ List.mem_cons_self⟩

/-- A role named as its network is accepted and planned, and its instance is refused. -/
theorem sample_not_reconcilable :
    @plan Unicode.ascii (sampleSpec (str "dmz")) [sampleTarget] = .ok [samplePlan (str "dmz")] ∧
      ¬Reconcilable (topologyElements (samplePlan (str "dmz")).desired) := by
  refine ⟨by with_unfolding_all decide, fun h => ?_⟩
  have hduplicate : duplicateRefs (topologyElements (samplePlan (str "dmz")).desired) = true := by
    with_unfolding_all decide
  rw [h.distinct] at hduplicate
  cases hduplicate

end Secp.Scenario
