import Secp.Proxmox.Bands
import Secp.Proxmox.Naming

/-!
# When the segments compile

A compilation ends in a plan or in a refusal that says what is missing, unless a step of it raises. Step by
step, `ReturnsIff` says of a part of the compiler exactly when it does not raise. With room in the pools the
segment loop raises only for want of a name, or over a network in use that cannot be read.
-/

namespace Secp.Proxmox

open Secp.Python Secp.Logic AllocationLedger

section
variable [Unicode]

/-! ## Logged allocations -/

section
variable {α β : Type} {s t : Session} {observed : Option β} {C : Prop}
  {Q : α → AllocationLedger → Prop}

omit [Unicode] in
theorem returnsIff_check {result : Except Raised α} :
    ReturnsIff (check result) s (∃ a, result = .ok a) fun a t => result = .ok a ∧ s = t := by
  refine ⟨fun h => ?_, fun {a t} hrun => ?_⟩
  · obtain ⟨a, ha⟩ := h
    exact ⟨a, s, run_check_eq_ok.mpr ⟨ha, rfl⟩⟩
  · obtain ⟨ha, hs⟩ := run_check_eq_ok.mp hrun
    exact ⟨⟨a, ha⟩, ha, hs⟩

/-- How a logged allocation ends: without a value if its observation is missing, and else with one. -/
def Logged (observed : Option β) (s : Session) (Q : α → AllocationLedger → Prop) (o : Option α)
    (t : Session) : Prop :=
  (observed = none ∧ o = none ∧ t.ledger = s.ledger ∧ t.blocked ≠ []) ∨
    (observed ≠ none ∧ t.blocked = s.blocked ∧ ∃ a, o = some a ∧ Q a t.ledger)

omit [Unicode] in
/-- A logged allocation returns unless its observation is there and it raises. -/
theorem returnsIff_logRun {act : Allocator α}
    (hnone : observed = none → C ∧ ∃ prerequisite, act s.ledger = .error (.blocked prerequisite))
    (hsome : ∀ inUse, observed = some inUse →
      Informed (act s.ledger) ∧
      (C → ∃ a ledger, act s.ledger = .ok (a, ledger)) ∧
      ∀ a ledger, act s.ledger = .ok (a, ledger) → C ∧ Q a ledger) :
    ReturnsIff (logRun act) s C (Logged observed s Q) := by
  cases hobserved : observed with
  | none =>
      obtain ⟨hC, prerequisite, hblocked⟩ := hnone hobserved
      refine ⟨fun _ => ⟨none, _, run_logRun_eq_ok.mpr (.inr ⟨prerequisite, hblocked, rfl, rfl⟩)⟩,
        fun {o t} hrun => ⟨hC, .inl ?_⟩⟩
      rcases run_logRun_eq_ok.mp hrun with hvalue | hnote
      · obtain ⟨a, ledger, hok, -⟩ := hvalue
        rw [hblocked] at hok
        cases hok
      · obtain ⟨other, -, ho, ht⟩ := hnote
        refine ⟨rfl, ho.symm, ?_, ?_⟩
        · rw [← ht]
        · rw [← ht]
          exact noteBlocked_ne_nil other s.blocked
  | some inUse =>
      obtain ⟨hnotBlocked, hreturns, hensures⟩ := hsome inUse hobserved
      refine ⟨fun hC => ?_, fun {o t} hrun => ?_⟩
      · obtain ⟨a, ledger, hok⟩ := hreturns hC
        exact ⟨some a, _, run_logRun_eq_ok.mpr (.inl ⟨a, ledger, hok, rfl, rfl⟩)⟩
      · rcases run_logRun_eq_ok.mp hrun with hvalue | hnote
        · obtain ⟨a, ledger, hok, ho, ht⟩ := hvalue
          obtain ⟨hC, hQ⟩ := hensures a ledger hok
          refine ⟨hC, .inr ⟨by simp, by rw [← ht], a, ho.symm, ?_⟩⟩
          rw [← ht]
          exact hQ
        · obtain ⟨prerequisite, hblocked, -⟩ := hnote
          exact absurd hblocked (hnotBlocked prerequisite)

omit [Unicode] in
/-- An allocation that cannot raise once its observation is there. -/
theorem returnsIff_logRun_total {act : Allocator α}
    (hnone : observed = none → ∃ prerequisite, act s.ledger = .error (.blocked prerequisite))
    (hsome : ∀ inUse, observed = some inUse → ∃ a ledger, act s.ledger = .ok (a, ledger))
    (hQ : ∀ inUse a ledger, observed = some inUse → act s.ledger = .ok (a, ledger) → Q a ledger) :
    ReturnsIff (logRun act) s True (Logged observed s Q) := by
  refine returnsIff_logRun (fun h => ⟨trivial, hnone h⟩) fun inUse h => ⟨fun prerequisite heq => ?_,
    fun _ => hsome inUse h, fun a ledger hok => ⟨trivial, hQ inUse a ledger h hok⟩⟩
  obtain ⟨a, ledger, hok⟩ := hsome inUse h
  rw [hok] at heq
  cases heq

/-- A logged name: the names drawn so far go on by the first free one. -/
theorem returnsIff_logRun_name {kind : AllocationKind} {bound : Option Int}
    {observed : Option (List Str)} {asks : List NameAsk} {ownership : Ownership}
    {purpose candidate field reason : Str} (hfield : reason ≠ [] ∧ field ≠ [])
    (hheld : ∀ inUse ∈ observed, ∃ names, drawNames kind bound inUse [] asks = some names ∧
      Holds kind asks names s.ledger)
    (hnew : (ownership.scopeKey, purpose) ∉ asks.map NameAsk.key) :
    ReturnsIff (logRun (allocateName ownership purpose kind candidate observed field reason bound)) s
      (∀ inUse ∈ observed, ∃ names, drawNames kind bound inUse []
        (asks ++ [⟨ownership.scopeKey, purpose, candidate⟩]) = some names)
      (Logged observed s fun name ledger => AddsOne kind s.ledger ledger ∧ ∀ inUse ∈ observed, ∃ names,
        drawNames kind bound inUse [] asks = some names ∧
        drawNames kind bound inUse [] (asks ++ [⟨ownership.scopeKey, purpose, candidate⟩]) =
          some (names ++ [name]) ∧
        Holds kind (asks ++ [⟨ownership.scopeKey, purpose, candidate⟩]) (names ++ [name]) ledger) := by
  refine returnsIff_logRun (fun h => ?_) fun inUse h => ?_
  · subst h
    refine ⟨fun inUse hmem => (by cases hmem), ?_⟩
    unfold allocateName Raised.blockedOn
    dsimp only
    rw [dif_pos hfield]
    exact ⟨_, rfl⟩
  · subst h
    obtain ⟨names, hnames, hholds⟩ := hheld inUse rfl
    refine ⟨informed_allocateName, fun hC => ?_, fun name ledger hok => ?_⟩
    · obtain ⟨names', hnames'⟩ := hC inUse rfl
      obtain ⟨first, name, hfirst, hname, -⟩ := drawNames_concat.mp hnames'
      obtain rfl : first = names := Option.some.inj (hfirst.symm.trans hnames)
      exact ⟨name, _, (hholds.allocateName_eq_ok_iff hnew).mpr ⟨hname, hholds.fresh hnew, rfl⟩⟩
    · obtain ⟨hname, hkey, rfl⟩ := (hholds.allocateName_eq_ok_iff hnew).mp hok
      have hdrawn := drawNames_concat.mpr ⟨names, name, hnames, hname, rfl⟩
      refine ⟨fun other hother => ?_, .inr ⟨_, hkey, rfl, rfl⟩, fun other hother => ?_⟩
      · obtain rfl := Option.some.inj hother
        exact ⟨_, hdrawn⟩
      · obtain rfl := Option.some.inj hother
        exact ⟨names, hnames, hdrawn, @Holds.insert kind asks names s.ledger hholds
          ⟨ownership.scopeKey, purpose, candidate⟩ name hkey⟩

end

/-! ## What the segments ask for -/

variable {request : WebBreachLabRequest} {observation : TargetObservation}

/-- The ids and generations of a request are ones an ownership stamp accepts. -/
def Stamped (request : WebBreachLabRequest) : Prop :=
  request.organizationId ≠ [] ∧ request.targetId ≠ [] ∧ request.rangeId ≠ [] ∧
    0 ≤ request.generation ∧ 0 ≤ request.operationGeneration

theorem exists_ownershipOf_iff {kind : RangeResourceKind} {team : Option Str} :
    (∃ ownership, ownershipOf request kind team = .ok ownership) ↔ Stamped request := by
  unfold ownershipOf Ownership.make Stamped
  split
  · simp [*]
  · split
    · simp [*]
    · split
      · simp [*]
      · split <;> simp [*]

/-- The scope a team's identifiers are drawn in. -/
def scopeOf (request : WebBreachLabRequest) (team : Option Str) : Scope :=
  (request.organizationId, request.targetId, request.rangeId, team.getD [], request.generation)

/-- The name a segment's VNet asks for. -/
def segmentAsk (request : WebBreachLabRequest) (segment : Segment) : NameAsk :=
  ⟨scopeOf request segment.teamRef, segmentPurpose segment.teamRef segment.role, segment.proposed⟩

/-- The name the zone asks for. -/
def zoneAsk (request : WebBreachLabRequest) : NameAsk :=
  ⟨scopeOf request none, str "sdn-zone", 'z' :: (replaceChar '-' [] request.rangeId).take 7⟩

theorem segmentAsk_fresh {done rest : List Segment} {segment : Segment}
    (hall : segments request = done ++ segment :: rest) :
    (scopeOf request segment.teamRef, segmentPurpose segment.teamRef segment.role) ∉
      (done.map (segmentAsk request)).map NameAsk.key := by
  intro hmem
  rw [List.map_map] at hmem
  obtain ⟨other, hother, hkey⟩ := List.mem_map.mp hmem
  have hpairs := segments_pairwise request
  rw [hall] at hpairs
  refine (List.pairwise_append.mp hpairs).2.2 other hother segment List.mem_cons_self ?_
  obtain ⟨hscope, hpurpose⟩ := Prod.mk.inj hkey
  simp only [scopeOf, segmentAsk, Prod.mk.injEq] at hscope
  exact Prod.ext hscope.2.2.2.1 hpurpose

omit [Unicode] in
/-- What a VNet is proposed to be called is within the grammar of SDN names. -/
theorem vnetName_ok {index : Option Nat} {role : SegmentRole} :
    ∃ c rest, vnetName index role = c :: rest ∧ isAsciiLower c = true ∧
      ∀ d ∈ rest, (isAsciiLower d || isAsciiDigit d) = true := by
  cases index with
  | none =>
      refine ⟨'s', "core".toList, by simp [vnetName, str], by decide, fun d hd => ?_⟩
      have hcore : ("core".toList.all fun d => isAsciiLower d || isAsciiDigit d) = true := by decide
      exact List.all_eq_true.mp hcore d hd
  | some index =>
      obtain ⟨suffix, hshape, hsuffix⟩ : ∃ suffix : Str,
          vnetName (some index) role = 't' :: (natStr index ++ suffix) ∧
            (suffix.all fun d => isAsciiLower d || isAsciiDigit d) = true := by
        cases role with
        | scoring => exact ⟨"sco".toList, by simp [vnetName, str], by decide⟩
        | attacker => exact ⟨"atk".toList, by simp [vnetName, str], by decide⟩
        | vulnerable => exact ⟨"vul".toList, by simp [vnetName, str], by decide⟩
        | sensor => exact ⟨"sen".toList, by simp [vnetName, str], by decide⟩
      refine ⟨'t', natStr index ++ suffix, hshape, by decide, fun d hd => ?_⟩
      rcases List.mem_append.mp hd with hd | hd
      · rw [isAsciiDigit_of_mem_natStr hd, Bool.or_true]
      · exact List.all_eq_true.mp hsuffix d hd

theorem proposed_of_mem_segments {segment : Segment} (h : segment ∈ segments request) :
    ∃ index, segment.proposed = vnetName index segment.role := by
  rw [segments_eq] at h
  rcases List.mem_cons.mp h with rfl | h
  · exact ⟨none, rfl⟩
  · obtain ⟨entry, -, hmem⟩ := List.mem_flatMap.mp h
    unfold teamSegments at hmem
    rcases List.mem_append.mp hmem with hmem | hmem
    · rcases List.mem_pair.mp hmem with rfl | rfl <;> exact ⟨some entry.2, rfl⟩
    · split at hmem
      · obtain rfl := List.mem_singleton.mp hmem
        exact ⟨some entry.2, rfl⟩
      · cases hmem

/-- The name drawn for a segment is one an SDN VNet may have. -/
theorem isSdnName_of_freeName {segment : Segment} (h : segment ∈ segments request) {taken : List Str}
    {name : Str}
    (hname : freeName .vnetName (some 8) (segmentAsk request segment) taken = some name) :
    isSdnName name = true := by
  obtain ⟨index, hproposed⟩ := proposed_of_mem_segments h
  obtain ⟨c, rest, hshape, hc, hrest⟩ := @vnetName_ok index segment.role
  rw [segmentAsk, hproposed, hshape] at hname
  obtain ⟨rest', rfl, hlength, hok⟩ := @exists_of_freeName _ _ 8 _ _ _ _ _ _ _
    (by decide) hrest (by decide) hname
  unfold isSdnName endsAt
  rw [Bool.or_eq_true]
  left
  rw [Bool.and_eq_true, Bool.and_eq_true, List.all_eq_true]
  exact ⟨⟨hc, decide_eq_true (by omega)⟩, hok⟩

/-! ## The segment loop -/

/-- Every network observed on the target can be read. -/
def Parsed (observation : TargetObservation) : Prop :=
  ∀ inUse ∈ observation.subnetsInUse, ∀ cidr ∈ inUse, (Ip.ipNetwork false cidr).isSome = true

/-- The pools hold a free VLAN tag and a free subnet for every segment. -/
structure Supplied (request : WebBreachLabRequest) (observation : TargetObservation) : Prop where
  vlanTags : ∀ inUse ∈ observation.vlanTagsInUse,
    (segments request).length ≤ (request.pools.vlanTags.filter fun tag => tag ∉ inUse).length
  subnets : ∀ inUse ∈ observation.subnetsInUse, (segments request).length ≤
    (request.pools.candidateSubnets.filter fun n =>
      !(observation.networksInUse inUse).any n.overlaps).length

/-- There is a name for the VNet of each of these segments. -/
def VnetsNamed (request : WebBreachLabRequest) (observation : TargetObservation)
    (done : List Segment) : Prop :=
  ∀ inUse ∈ observation.sdnNamesInUse, ∃ names,
    drawNames .vnetName (some 8) inUse [] (done.map (segmentAsk request)) = some names

/-- What the segment loop does not raise on. -/
def SegmentsDrawable (request : WebBreachLabRequest) (observation : TargetObservation)
    (done : List Segment) : Prop :=
  (done ≠ [] → Parsed observation) ∧ VnetsNamed request observation done

/-- The ledger in a segment loop, with the names drawn for the segments that have theirs. -/
structure Drawn (request : WebBreachLabRequest) (observation : TargetObservation)
    (tags nets : Nat) (named : List Segment) (ledger : AllocationLedger) : Prop where
  tidy : Tidy ledger
  roomy : Roomy request.pools tags nets ledger
  objects : Holds .firewallObjectName [] [] ledger
  names : ∀ inUse ∈ observation.sdnNamesInUse, ∃ names,
    drawNames .vnetName (some 8) inUse [] (named.map (segmentAsk request)) = some names ∧
      Holds .vnetName (named.map (segmentAsk request)) names ledger

/-- Records of neither kind of name leave the names drawn. -/
theorem Drawn.adds {tags nets tags' nets' : Nat} {named : List Segment}
    {ledger ledger' : AllocationLedger} {kind : AllocationKind}
    (h : Drawn request observation tags nets named ledger) (htidy : Tidy ledger')
    (hroomy : Roomy request.pools tags' nets' ledger') (hadds : AddsOne kind ledger ledger')
    (hkind : kind ≠ .firewallObjectName ∧ kind ≠ .vnetName) :
    Drawn request observation tags' nets' named ledger' := by
  refine ⟨htidy, hroomy, h.objects.adds hadds hkind.1, fun inUse hinUse => ?_⟩
  obtain ⟨names, hnames, hholds⟩ := h.names inUse hinUse
  exact ⟨names, hnames, hholds.adds hadds hkind.2⟩

omit [Unicode] in
/-- After a logged allocation nothing is missing if nothing was and its observation was there. -/
theorem Logged.blocked_iff {α β : Type} {observed : Option β} {s t : Session}
    {Q : α → AllocationLedger → Prop} {o : Option α} (h : Logged observed s Q o t) :
    t.blocked = [] ↔ s.blocked = [] ∧ observed ≠ none := by
  rcases h with hmissing | hdrawn
  · obtain ⟨hnone, -, -, hblocked⟩ := hmissing
    exact iff_of_false hblocked fun hboth => hboth.2 hnone
  · obtain ⟨hobserved, hblocked, -⟩ := hdrawn
    rw [hblocked]
    exact (and_iff_left hobserved).symm

omit [Unicode] in
/-- What holds of the ledger with and without the value. -/
theorem Logged.ledger {α β : Type} {observed : Option β} {s t : Session}
    {Q : α → AllocationLedger → Prop} {o : Option α} {P : AllocationLedger → Prop}
    (h : Logged observed s Q o t) (hsame : observed = none → P s.ledger)
    (hdrawn : ∀ a, observed ≠ none → Q a t.ledger → P t.ledger) : P t.ledger := by
  rcases h with hmissing | hvalue
  · obtain ⟨hnone, -, hledger, -⟩ := hmissing
    rw [hledger]
    exact hsame hnone
  · obtain ⟨hobserved, -, a, -, hQ⟩ := hvalue
    exact hdrawn a hobserved hQ

section
variable {s t : Session} {ownership : Ownership} {segment : Segment} {done rest : List Segment}
  {tags nets : Nat}

/-- A segment's VNet name. -/
theorem returnsIff_allocateVnetName (h : Drawn request observation tags nets done s.ledger)
    (hscope : ownership.scopeKey = scopeOf request segment.teamRef)
    (hall : segments request = done ++ segment :: rest) :
    ReturnsIff (logRun (allocateVnetName observation ownership
        (segmentPurpose segment.teamRef segment.role) segment.proposed)) s
      (VnetsNamed request observation (done ++ [segment]))
      fun o t => Logged observation.sdnNamesInUse s (fun name _ => isSdnName name = true ∧
        ∀ inUse ∈ observation.sdnNamesInUse, ∃ names,
          drawNames .vnetName (some 8) inUse [] (done.map (segmentAsk request)) = some names ∧
          drawNames .vnetName (some 8) inUse [] ((done ++ [segment]).map (segmentAsk request)) =
            some (names ++ [name])) o t ∧
        Drawn request observation tags nets (done ++ [segment]) t.ledger := by
  have hdraw := @returnsIff_logRun_name _ s .vnetName (some 8) observation.sdnNamesInUse
    (done.map (segmentAsk request)) ownership (segmentPurpose segment.teamRef segment.role)
    segment.proposed (str "TargetObservation.sdn_names_in_use")
    (str "proxmox.sdn_name_inventory_missing") ⟨by simp [str], by simp [str]⟩ h.names
    (by rw [hscope]; exact segmentAsk_fresh hall)
  have hask : done.map (segmentAsk request) ++
      [⟨ownership.scopeKey, segmentPurpose segment.teamRef segment.role, segment.proposed⟩] =
        (done ++ [segment]).map (segmentAsk request) := by
    rw [hscope, List.map_append]
    rfl
  rw [hask] at hdraw
  have hkeeps : Keeps Evolves (logRun (allocateVnetName observation ownership
      (segmentPurpose segment.teamRef segment.role) segment.proposed)) :=
    keeps_logRun (grows_allocateName (show AllocationKind.IsName .vnetName from rfl) (by decide) _ _ _ _ _)
  refine (hdraw.keeps hkeeps).weaken fun o t _ hlogged => ?_
  obtain ⟨hlogged, hevolves⟩ := hlogged
  have htidy := hevolves.tidy h.tidy
  have hmember : segment ∈ segments request := by
    rw [hall]
    exact List.mem_append_right _ List.mem_cons_self
  constructor
  · rcases hlogged with hmissing | hvalue
    · exact .inl hmissing
    · obtain ⟨hobserved, hblocked, name, ho, -, hnames⟩ := hvalue
      refine .inr ⟨hobserved, hblocked, name, ho, ?_, fun inUse hinUse => ?_⟩
      · obtain ⟨inUse, hinUse⟩ := Option.ne_none_iff_exists'.mp hobserved
        obtain ⟨names, hbefore, hafter, -⟩ := hnames inUse hinUse
        rw [List.map_append] at hafter
        obtain ⟨names', name', -, hfree, heq⟩ := drawNames_concat.mp hafter
        obtain ⟨-, hlast⟩ := List.append_inj' heq rfl
        obtain rfl : name = name' := by simpa using hlast
        exact isSdnName_of_freeName hmember hfree
      · obtain ⟨names, hbefore, hafter, -⟩ := hnames inUse hinUse
        exact ⟨names, hbefore, hafter⟩
  · have hrest : Roomy request.pools tags nets t.ledger ∧ Holds .firewallObjectName [] [] t.ledger :=
      hlogged.ledger (P := fun ledger => Roomy request.pools tags nets ledger ∧
        Holds .firewallObjectName [] [] ledger) (fun _ => ⟨h.roomy, h.objects⟩) fun name _ hname =>
        ⟨h.roomy.adds hname.1 (by decide), h.objects.adds hname.1 (by decide)⟩
    refine ⟨htidy, hrest.1, hrest.2, fun inUse hinUse => ?_⟩
    rcases hlogged with hmissing | hvalue
    · rw [hmissing.1] at hinUse
      cases hinUse
    · obtain ⟨-, -, name, -, -, hnames⟩ := hvalue
      obtain ⟨names, -, hafter, hholds⟩ := hnames inUse hinUse
      exact ⟨names ++ [name], hafter, hholds⟩

/-- A segment's VLAN tag. -/
theorem returnsIff_allocateVlan {named : List Segment} {purpose : Str}
    (h : Drawn request observation tags nets named s.ledger)
    (hroom : ∀ inUse ∈ observation.vlanTagsInUse,
      tags < (request.pools.vlanTags.filter fun tag => tag ∉ inUse).length) :
    ReturnsIff (logRun (allocateVlan request observation ownership purpose)) s True
      fun o t => Logged observation.vlanTagsInUse s
        (fun tag _ => request.pools.vlanMin ≤ tag ∧ tag ≤ request.pools.vlanMax) o t ∧
        Drawn request observation (tags + 1) nets named t.ledger := by
  have hkeeps : Keeps Evolves (logRun (allocateVlan request observation ownership purpose)) :=
    keeps_logRun (grows_allocateInt _ _ _ _ _)
  refine ((@returnsIff_logRun_total _ _ s observation.vlanTagsInUse
    (fun tag ledger => (request.pools.vlanMin ≤ tag ∧ tag ≤ request.pools.vlanMax) ∧
      AddsOne .vlanTag s.ledger ledger ∧ Roomy request.pools (tags + 1) nets ledger) _
    (fun hnone => ?_) (fun inUse hinUse => ?_) fun inUse tag ledger hinUse hok => ?_).keeps
      hkeeps).weaken fun o t _ hlogged => ?_
  · unfold allocateVlan allocateInt Raised.blockedOn
    rw [hnone, dif_pos ⟨by simp [str], by simp [str]⟩]
    exact ⟨_, rfl⟩
  · unfold allocateVlan
    rw [hinUse]
    exact h.roomy.exists_vlan h.tidy.sound (hroom inUse hinUse)
  · unfold allocateVlan at hok
    rw [hinUse] at hok
    obtain ⟨hroomy, hbounds⟩ := h.roomy.of_vlan hok
    exact ⟨hbounds, allocate_adds (allocateInt_some ▸ hok), hroomy⟩
  · obtain ⟨hlogged, hevolves⟩ := hlogged
    have htidy := hevolves.tidy h.tidy
    constructor
    · rcases hlogged with hmissing | hvalue
      · exact .inl hmissing
      · obtain ⟨hobserved, hblocked, tag, ho, hbounds, -⟩ := hvalue
        exact .inr ⟨hobserved, hblocked, tag, ho, hbounds⟩
    · have hrest : AddsOne .vlanTag s.ledger t.ledger ∧ Roomy request.pools (tags + 1) nets t.ledger :=
        hlogged.ledger (P := fun ledger => AddsOne .vlanTag s.ledger ledger ∧
          Roomy request.pools (tags + 1) nets ledger)
          (fun _ => ⟨.inl rfl, h.roomy.mono (Nat.le_succ _) (Nat.le_refl _)⟩) fun tag _ hQ => hQ.2
      exact h.adds htidy hrest.2 hrest.1 (by decide)

/-- A segment's subnet. The networks in use are read for every subnet that is not recorded yet. -/
theorem returnsIff_allocateSegmentSubnet {named : List Segment} {purpose : Str}
    (h : Drawn request observation tags nets named s.ledger)
    (hparsed : nets = 0 ∨ Parsed observation)
    (hroom : ∀ inUse ∈ observation.subnetsInUse, nets < (request.pools.candidateSubnets.filter fun n =>
      !(observation.networksInUse inUse).any n.overlaps).length) :
    ReturnsIff (logRun (allocateSegmentSubnet request observation ownership purpose)) s
      (Parsed observation)
      fun o t => Logged observation.subnetsInUse s (fun n ledger => n ∈ request.pools.candidateSubnets ∧
        ⟨.subnet, ownership.scopeKey, purpose, n.text⟩ ∈ ledger.records) o t ∧
        Drawn request observation tags (nets + 1) named t.ledger := by
  have hkeeps : Keeps Evolves (logRun (allocateSegmentSubnet request observation ownership purpose)) :=
    keeps_logRun (grows_allocateSubnet _ _ _)
  refine ((@returnsIff_logRun _ _ s observation.subnetsInUse _
    (fun n ledger => (n ∈ request.pools.candidateSubnets ∧
      ⟨.subnet, ownership.scopeKey, purpose, n.text⟩ ∈ ledger.records) ∧
      AddsOne .subnet s.ledger ledger ∧ Roomy request.pools tags (nets + 1) ledger) _
    (fun hnone => ?_) fun inUse hinUse => ?_).keeps hkeeps).weaken fun o t _ hlogged => ?_
  · refine ⟨fun inUse hinUse => ?_, ?_⟩
    · rw [hnone] at hinUse
      cases hinUse
    · unfold allocateSegmentSubnet allocateSubnet Raised.blockedOn
      rw [hnone, dif_pos ⟨by simp [str], by simp [str]⟩]
      exact ⟨_, rfl⟩
  · unfold allocateSegmentSubnet
    rw [hinUse]
    refine ⟨?_, fun hP => h.roomy.exists_subnet (hP inUse hinUse) (hroom inUse hinUse),
      fun n ledger hok => ?_⟩
    · rw [allocateSubnet_some]
      exact informed_allocate (fun value => .orValueError _) informed_chooseSubnet
    · obtain ⟨hroomy, hn, hrecorded⟩ := h.roomy.of_subnet hok
      refine ⟨?_, ⟨hn, hrecorded⟩, allocate_adds (allocateSubnet_some ▸ hok), hroomy⟩
      rcases hparsed with hnone | hP
      · -- with no subnet recorded yet, this one was chosen
        rcases allocate_eq_ok_iff.mp (allocateSubnet_some ▸ hok) with hold | hnew
        · obtain ⟨a, hget, -⟩ := hold
          have hmem : (⟨.subnet, ownership.scopeKey, purpose, a.value⟩ : Allocation) ∈
              s.ledger.records.filter fun a => a.kind = .subnet :=
            List.mem_filter.mpr ⟨mem_of_get hget, rfl⟩
          have hfew := h.roomy.nets
          have hpos := List.length_pos_of_mem hmem
          omega
        · obtain ⟨-, hchosen, -⟩ := hnew
          intro other hother cidr hcidr
          obtain rfl : inUse = other := Option.some.inj (hinUse.symm.trans hother)
          obtain ⟨m, hm, -⟩ := (chooseSubnet_sound hchosen).2.1 cidr hcidr
          rw [hm]
          rfl
      · exact hP
  · obtain ⟨hlogged, hevolves⟩ := hlogged
    have htidy := hevolves.tidy h.tidy
    constructor
    · rcases hlogged with hmissing | hvalue
      · exact .inl hmissing
      · obtain ⟨hobserved, hblocked, n, ho, hn, -⟩ := hvalue
        exact .inr ⟨hobserved, hblocked, n, ho, hn⟩
    · have hrest : AddsOne .subnet s.ledger t.ledger ∧ Roomy request.pools tags (nets + 1) t.ledger :=
        hlogged.ledger (P := fun ledger => AddsOne .subnet s.ledger ledger ∧
          Roomy request.pools tags (nets + 1) ledger)
          (fun _ => ⟨.inl rfl, h.roomy.mono (Nat.le_refl _) (Nat.le_succ _)⟩) fun n _ hQ => hQ.2
      exact h.adds htidy hrest.2 hrest.1 (by decide)

/-- A VNet around identifiers drawn for it is always built. -/
theorem returnsIff_buildVnet {zoneName : Option Str} {name : Str} {vlan : Int} {n : Ip.Network}
    {named : List Segment} (h : Drawn request observation tags nets named s.ledger)
    (hname : isSdnName name = true)
    (hvlan : request.pools.vlanMin ≤ vlan ∧ vlan ≤ request.pools.vlanMax)
    (hn : n ∈ request.pools.candidateSubnets)
    (hsubnet : ⟨.subnet, ownership.scopeKey, segmentPurpose segment.teamRef segment.role, n.text⟩ ∈
      s.ledger.records) :
    ReturnsIff (buildVnet zoneName segment ownership name vlan n) s True fun vnet t =>
      vnet.name = name ∧ t.blocked = s.blocked ∧ Drawn request observation tags nets named t.ledger := by
  constructor
  · intro _
    obtain ⟨x, ledger, hok⟩ := @Roomy.exists_gateway _ _ _ _ _ _ ownership h.roomy
      h.tidy.sound _ hn hsubnet
    obtain ⟨-, rfl⟩ := h.roomy.of_gateway hn hsubnet hok
    have hinside : gatewayInside n.text n.firstHost.text = true := by
      unfold gatewayInside
      rw [Ip.ipNetwork_text true (candidateSubnets_v4 hn), Ip.ipAddress_text (firstHost_v4 hn)]
      exact Ip.contains_eq_true_iff.mpr (Ip.firstHost_mem n)
    have htag : vlanMin ≤ vlan ∧ vlan ≤ vlanMax := by
      obtain ⟨hlow, -, hhigh⟩ := request.pools.vlan_bounds
      omega
    refine ⟨⟨name, zoneName.getD [], vlan, ⟨n.text, n.firstHost.text, false, hinside⟩, segment.role,
      ownership, segmentPurpose segment.teamRef segment.role, hname, htag⟩, { s with ledger := ledger }, ?_⟩
    refine run_bind_eq_ok.mpr ⟨n.firstHost, { s with ledger := ledger },
      run_allocating_eq_ok.mpr ⟨ledger, hok, rfl⟩, ?_⟩
    refine run_bind_eq_ok.mpr ⟨⟨n.text, n.firstHost.text, false, hinside⟩, { s with ledger := ledger },
      run_check_eq_ok.mpr ⟨?_, rfl⟩, run_check_eq_ok.mpr ⟨?_, rfl⟩⟩
    · rw [SubnetSpec.make, dif_pos hinside]
    · rw [VNetSpec.make, dif_pos hname, dif_pos htag]
  · intro vnet t hrun
    obtain ⟨-, hblocked, hkeeps, hvname, -⟩ := run_buildVnet hrun
    have htidy := hkeeps (candidateSubnets_v4 hn) h.tidy
    obtain ⟨x, s1, hgateway, hrun⟩ := run_bind_eq_ok.mp hrun
    obtain ⟨spec, s2, hspec, hrun⟩ := run_bind_eq_ok.mp hrun
    obtain ⟨ledger, hok, rfl⟩ := run_allocating_eq_ok.mp hgateway
    obtain ⟨-, rfl⟩ := run_check_eq_ok.mp hspec
    obtain ⟨-, rfl⟩ := run_check_eq_ok.mp hrun
    obtain ⟨hroomy, -⟩ := h.roomy.of_gateway hn hsubnet hok
    exact ⟨trivial, hvname, hblocked, h.adds htidy hroomy (allocate_adds hok) (by decide)⟩

/-- The state of the segment loop. -/
structure InSegments (request : WebBreachLabRequest) (observation : TargetObservation)
    (done : List Segment) (compiled : Dict Str VNetSpec) (s : Session) : Prop where
  drawn : Drawn request observation done.length done.length done s.ledger
  blocked : s.blocked = [] ↔ observation.sdnNamesInUse ≠ none ∧
    (done ≠ [] → observation.vlanTagsInUse ≠ none ∧ observation.subnetsInUse ≠ none)
  compiled : s.blocked = [] → ∀ inUse ∈ observation.sdnNamesInUse,
    drawNames .vnetName (some 8) inUse [] (done.map (segmentAsk request)) =
      some (compiled.map Prod.fst)

theorem segmentsDrawable_concat :
    SegmentsDrawable request observation (done ++ [segment]) ↔
      VnetsNamed request observation (done ++ [segment]) ∧ Parsed observation := by
  unfold SegmentsDrawable
  rw [and_comm, forall_prop_of_true (by simp)]

/-- One turn of the segment loop. -/
theorem returnsIff_compileSegment {zoneName : Option Str} {compiled : Dict Str VNetSpec}
    (hstamped : Stamped request) (hsupplied : Supplied request observation)
    (hall : segments request = done ++ segment :: rest)
    (hdone : SegmentsDrawable request observation done)
    (h : InSegments request observation done compiled s) :
    ReturnsIff (compileSegment request observation zoneName compiled segment) s
      (SegmentsDrawable request observation (done ++ [segment]))
      (InSegments request observation (done ++ [segment])) := by
  have hlength : (segments request).length = done.length + rest.length + 1 := by
    rw [hall, List.length_append, List.length_cons]
    omega
  have hnext : (done ++ [segment]).length = done.length + 1 := List.length_append
  have hempty : done ++ [segment] ≠ [] := by simp
  have hnets : done.length = 0 ∨ Parsed observation := by
    by_cases hnil : done = []
    · exact .inl (List.length_eq_zero_iff.mpr hnil)
    · exact .inr (hdone.1 hnil)
  have hcondition : ((∃ ownership, ownershipOf request .network segment.teamRef = .ok ownership) ∧
      VnetsNamed request observation (done ++ [segment]) ∧ True ∧ Parsed observation ∧ True) ↔
        SegmentsDrawable request observation (done ++ [segment]) := by
    rw [segmentsDrawable_concat, true_and, and_true]
    exact and_iff_right (exists_ownershipOf_iff.mpr hstamped)
  refine (ReturnsIff.bind returnsIff_check fun ownership s0 _ hcheck => ?_).congr hcondition
  obtain ⟨howner, rfl⟩ := hcheck
  dsimp only
  have hscope : ownership.scopeKey = scopeOf request segment.teamRef := (ownershipOf_eq_ok howner).2
  refine (returnsIff_allocateVnetName h.drawn hscope hall).bind fun name s1 _ hname => ?_
  obtain ⟨hname, hdrawn1⟩ := hname
  refine (returnsIff_allocateVlan hdrawn1 fun inUse hinUse => ?_).bind fun vlan s2 _ hvlan => ?_
  · have hmany := hsupplied.vlanTags inUse hinUse
    omega
  obtain ⟨hvlan, hdrawn2⟩ := hvlan
  refine (returnsIff_allocateSegmentSubnet hdrawn2 hnets fun inUse hinUse => ?_).bind
    fun subnet s3 _ hsubnet => ?_
  · have hmany := hsupplied.subnets inUse hinUse
    omega
  obtain ⟨hsubnet, hdrawn3⟩ := hsubnet
  rw [← hnext] at hdrawn3
  have hblocked : s3.blocked = [] ↔ observation.sdnNamesInUse ≠ none ∧
      (done ++ [segment] ≠ [] → observation.vlanTagsInUse ≠ none ∧ observation.subnetsInUse ≠ none) := by
    rw [hsubnet.blocked_iff, hvlan.blocked_iff, hname.blocked_iff, h.blocked, forall_prop_of_true hempty]
    tauto
  -- a turn that misses an identifier compiles nothing
  have hskip : s3.blocked ≠ [] → ReturnsIff (pure compiled : Compile (Dict Str VNetSpec)) s3 True
      (InSegments request observation (done ++ [segment])) := fun hne =>
    ReturnsIff.pure ⟨hdrawn3, hblocked, fun heq => absurd heq hne⟩
  rcases hsubnet with hmissing | hsubnet
  · obtain ⟨-, rfl, -, hne⟩ := hmissing
    cases name <;> cases vlan <;> exact hskip hne
  obtain ⟨-, hblocked3, n, rfl, hn, hrecorded⟩ := hsubnet
  rcases hvlan with hmissing | hvlan
  · obtain ⟨-, rfl, -, hne⟩ := hmissing
    cases name <;> exact hskip (hblocked3 ▸ hne)
  obtain ⟨-, hblocked2, tag, rfl, htag⟩ := hvlan
  rcases hname with hmissing | hname
  · obtain ⟨-, rfl, -, hne⟩ := hmissing
    exact hskip (hblocked3 ▸ hblocked2 ▸ hne)
  obtain ⟨-, hblocked1, name, rfl, hvalid, hnames⟩ := hname
  refine ((returnsIff_buildVnet hdrawn3 hvalid htag hn hrecorded).bind fun vnet t _ hbuilt =>
    ReturnsIff.pure (?_ : InSegments request observation (done ++ [segment]) (compiled.set name vnet) t)).congr
      and_self_iff
  obtain ⟨-, hblockedT, hdrawnT⟩ := hbuilt
  refine ⟨hdrawnT, by rw [hblockedT]; exact hblocked, fun hclear inUse hinUse => ?_⟩
  obtain ⟨names, hbefore, hafter⟩ := hnames inUse hinUse
  have hclear : s.blocked = [] := by
    rw [← hblocked1, ← hblocked2, ← hblocked3, ← hblockedT]
    exact hclear
  have hcompiled : names = compiled.map Prod.fst :=
    Option.some.inj (hbefore.symm.trans (h.compiled hclear inUse hinUse))
  have hfresh : name ∉ compiled.map Prod.fst := by
    have hnodup := drawNames_nodup hafter
    rw [hcompiled] at hnodup
    exact fun hmem => (List.nodup_append'.mp hnodup).2.2 hmem (List.mem_singleton_self _)
  rw [hafter, Dict.set_of_not_mem hfresh, List.map_append, hcompiled]
  rfl

/-- The segment loop returns when every segment can be named and the networks in use can be read. -/
theorem returnsIff_segments {zoneName : Option Str} (hstamped : Stamped request)
    (hsupplied : Supplied request observation) (h : InSegments request observation [] [] s) :
    ReturnsIff ((segments request).foldlM (compileSegment request observation zoneName) []) s
      (SegmentsDrawable request observation (segments request))
      (InSegments request observation (segments request)) := by
  refine ReturnsIff.foldlM (InSegments request observation) (fun done rest hboth => ⟨fun hne => ?_,
    fun inUse hinUse => ?_⟩) (fun done segment rest compiled s hall hdone h =>
      returnsIff_compileSegment hstamped hsupplied hall hdone h) ⟨fun hne => absurd rfl hne,
    fun inUse _ => ⟨[], rfl⟩⟩ h
  · exact hboth.1 (by simp [hne])
  · obtain ⟨names, hnames⟩ := hboth.2 inUse hinUse
    rw [List.map_append] at hnames
    obtain ⟨first, -, hfirst, -⟩ := drawNames_of_append hnames
    exact ⟨first, hfirst⟩

end

end

end Secp.Proxmox
