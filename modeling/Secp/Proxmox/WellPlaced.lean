import Secp.Proxmox.Guests

/-!
# Distinct guests on the right segments

Compiled guests are distinct and each sits on the segment of its component exactly when the request
says so: the attacker's image has the attacker role, the image of a target component has the target
role, and no target component repeats. The compiler itself checks none of the three; it takes the
segment from the role on the image.
-/

namespace Secp.Proxmox

open Secp.Python Secp.Logic AllocationLedger

section
variable [Unicode]

/-- The guest is attached to the team's VNet of the role. -/
def Attached (network : SegregatedNetworkPlan) (team : Str) (role : SegmentRole)
    (guest : GuestSpec) : Prop :=
  ∃ v ∈ network.vnetsForTeam team, v.role = role ∧ ∀ nic ∈ guest.nics, nic.vnetName = v.name

/-- The guests are distinct, addressed inside their segments, one for each workload of a team, and
on the segments of their components. -/
structure WellPlaced (workload : WorkloadRequest) (topology : CompiledTopology) : Prop where
  guestRefs : (topology.guests.map GuestSpec.guestRef).Nodup
  vmids : (topology.guests.map GuestSpec.vmid).Nodup
  macs : (topology.guests.flatMap fun guest => guest.nics.map NicSpec.macAddress).Nodup
  addresses : (topology.guests.map fun guest => guest.address.publishedAddress).Nodup
  inside : ∀ guest ∈ topology.guests, ∃ nic v x gateway, guest.nics = [nic] ∧
    v ∈ topology.network.vnets ∧ v.name = nic.vnetName ∧
    Ip.ipAddress guest.address.publishedAddress = some x ∧ v.subnet.Contains x ∧
    Ip.ipAddress v.subnet.gateway = some gateway ∧ x ≠ gateway
  once : ∀ team ∈ workload.teamRefs, ∀ key ∈ perTeamKeys workload,
    (topology.guests.map GuestSpec.guestRef).count (guestRef team key) = 1
  every : ∀ guest ∈ topology.guests, ∃ team ∈ workload.teamRefs, ∃ key ∈ perTeamKeys workload,
    guest.guestRef = guestRef team key ∧ guest.ownership.teamRef = some team
  attackers : ∀ team ∈ workload.teamRefs, ∀ guest ∈ topology.guests,
    guest.guestRef = guestRef team attackerWorkloadKey →
      Attached topology.network team .attacker guest
  targets : ∀ team ∈ workload.teamRefs, ∀ key ∈ workloadKeys workload.template,
    ∀ guest ∈ topology.guests, guest.guestRef = guestRef team key →
      Attached topology.network team .vulnerable guest

/-- The images have the roles of the components they stand for, and no target repeats. -/
structure RolesAgree (workload : WorkloadRequest) : Prop where
  attacker : ∀ image ∈ workload.images, image.workloadKey = attackerWorkloadKey →
    image.role = .attacker
  targets : ∀ image ∈ workload.images, image.workloadKey ∈ workloadKeys workload.template →
    image.role = .target
  targets_nodup : (workloadKeys workload.template).Nodup

variable {workload : WorkloadRequest} {network : SegregatedNetworkPlan} {o : TargetObservation}
  {request : WebBreachLabRequest} {plan : WorkloadPlan} {ledger ledger' : AllocationLedger}

/-! ## Keys and slots -/

theorem image_eq_some_iff {key : Str} {image : ReviewedGuestImage} :
    workload.image key = some image ↔ image ∈ workload.images ∧ image.workloadKey = key := by
  constructor
  · intro h
    exact ⟨List.mem_of_find?_eq_some h, by simpa using List.find?_some h⟩
  · rintro ⟨hmem, rfl⟩
    exact find?_of_nodup workload.images_nodup hmem

theorem mem_perTeamKeys {key : Str} :
    key ∈ perTeamKeys workload ↔ key = attackerWorkloadKey ∨ key ∈ workloadKeys workload.template ∨
      ∃ image ∈ workload.images, image.role = .sensor ∧ image.workloadKey = key := by
  simp only [perTeamKeys, List.cons_append, List.mem_cons, List.mem_append, mem_sortedBy,
    List.mem_map, List.mem_filter, decide_eq_true_eq, and_assoc]

/-- Where every key has an image and the roles agree, no key of a team repeats. -/
theorem perTeamKeys_nodup (hroles : RolesAgree workload)
    (himages : ∀ key ∈ perTeamKeys workload, ∃ image, workload.image key = some image) :
    (perTeamKeys workload).Nodup := by
  obtain ⟨attacker, hattacker⟩ := himages attackerWorkloadKey (mem_perTeamKeys.mpr (.inl rfl))
  obtain ⟨hmem, hkey⟩ := image_eq_some_iff.mp hattacker
  have hrole := hroles.attacker attacker hmem hkey
  have htarget : attackerWorkloadKey ∉ workloadKeys workload.template := by
    intro h
    rw [hroles.targets attacker hmem (hkey ▸ h)] at hrole
    cases hrole
  -- a sensor's image is the only one of its key, so the key stands for nothing else
  have hsensor : ∀ image ∈ workload.images, image.role = .sensor →
      image.workloadKey ≠ attackerWorkloadKey ∧
        image.workloadKey ∉ workloadKeys workload.template := by
    intro image himage hsensor
    constructor
    · intro h
      rw [hroles.attacker image himage h] at hsensor
      cases hsensor
    · intro h
      rw [hroles.targets image himage h] at hsensor
      cases hsensor
  have hsensors : (sortedBy id ((workload.images.filter fun image => image.role = .sensor).map
      ReviewedGuestImage.workloadKey)).Nodup :=
    (sortedBy_perm _ _).nodup_iff.mpr
      (workload.images_nodup.sublist (List.filter_sublist.map ReviewedGuestImage.workloadKey))
  have hmemSensors : ∀ key, key ∈ sortedBy id ((workload.images.filter fun image =>
      image.role = .sensor).map ReviewedGuestImage.workloadKey) →
      key ≠ attackerWorkloadKey ∧ key ∉ workloadKeys workload.template := by
    intro key h
    obtain ⟨image, himage, rfl⟩ := List.mem_map.mp (mem_sortedBy.mp h)
    obtain ⟨himage, hrole⟩ := List.mem_filter.mp himage
    exact hsensor image himage (of_decide_eq_true hrole)
  unfold perTeamKeys
  rw [List.cons_append, List.nodup_cons, List.mem_append, not_or, List.nodup_append']
  exact ⟨⟨htarget, fun h => (hmemSensors _ h).1 rfl⟩, hroles.targets_nodup, hsensors,
    fun _ h h' => (hmemSensors _ h').2 h⟩

omit [Unicode] in
/-- Different roles live on different segments. -/
theorem segment_injective {role role' : WorkloadRole} (h : role.segment = role'.segment) :
    role = role' := by
  cases role <;> cases role' <;> cases h <;> rfl

theorem mem_slots {slot : Str × Str} :
    slot ∈ slots workload ↔ slot.1 ∈ workload.teamRefs ∧ slot.2 ∈ perTeamKeys workload := by
  obtain ⟨team, key⟩ := slot
  simp [slots, and_comm]

/-- No slot repeats exactly when no key does, for the teams are distinct. -/
theorem slots_nodup_iff : (slots workload).Nodup ↔ (perTeamKeys workload).Nodup := by
  unfold slots
  rw [List.nodup_flatMap]
  constructor
  · rintro ⟨h, _⟩
    have htwo := workload.two_teams
    obtain ⟨team, hteam⟩ : ∃ team, team ∈ workload.teamRefs :=
      List.exists_mem_of_length_pos (by omega)
    exact (h team (mem_sortedBy.mpr hteam)).of_map
  · intro h
    refine ⟨fun team _ => h.map fun _ _ hpair => (Prod.mk.inj hpair).2, ?_⟩
    have hteams : (sortedBy id workload.teamRefs).Nodup :=
      (sortedBy_perm _ _).nodup_iff.mpr workload.teamRefs_nodup
    refine hteams.imp fun hne slot hslot hslot' => hne ?_
    obtain ⟨_, _, rfl⟩ := List.mem_map.mp hslot
    obtain ⟨_, _, hsame⟩ := List.mem_map.mp hslot'
    exact (Prod.mk.inj hsame).1.symm

/-! ## References -/

/-- The teams of a compiled workload are those of its network. -/
theorem mem_teamRefs_of_compiled
    (hworkload : compileWorkload workload network o ledger = .ok (.plan plan, ledger'))
    {team : Str} : team ∈ workload.teamRefs ↔ ∃ v ∈ network.vnets, v.ownership.teamRef = some team := by
  obtain ⟨hmissing, _⟩ := compileWorkload_eq_plan.mp hworkload
  have hsame : teamsMissing workload network = [] := by
    simp only [workloadMissing, List.append_eq_nil_iff] at hmissing
    exact hmissing.1.1.1.1.2
  have hplanned : team ∈ network.teamRefs ↔ ∃ v ∈ network.vnets, v.ownership.teamRef = some team := by
    rw [SegregatedNetworkPlan.teamRefs, mem_sortedBy, List.mem_dedup, List.mem_filterMap]
  rw [← hplanned]
  unfold teamsMissing at hsame
  dsimp only at hsame
  split at hsame
  · next hall =>
      simp only [Bool.and_eq_true, List.all_eq_true, decide_eq_true_eq] at hall
      exact ⟨hall.2 team, hall.1 team⟩
  · cases hsame

/-- The teams of a compiled workload are teams of its network, whose references hold no slash. -/
theorem slash_not_mem_team
    (hnetwork : compileWebBreachLab request o AllocationLedger.empty = .ok (.plan network, ledger))
    (hworkload : compileWorkload workload network o ledger = .ok (.plan plan, ledger'))
    {team : Str} (hteam : team ∈ workload.teamRefs) : '/' ∉ team := by
  obtain ⟨v, hv, hvteam⟩ := (mem_teamRefs_of_compiled hworkload).mp hteam
  obtain ⟨segment, hsegment, hsegteam, _⟩ :=
    (compiled_of_compileWebBreachLab hnetwork).segment_of_mem hv
  rw [segments_eq] at hsegment
  rcases List.mem_cons.mp hsegment with rfl | hsegment
  · rw [hvteam] at hsegteam
    cases hsegteam
  · obtain ⟨entry, _, hentry⟩ := List.mem_flatMap.mp hsegment
    rw [(teamRef_of_mem_teamSegments hentry).1, hvteam] at hsegteam
    obtain rfl := Option.some.inj hsegteam
    intro hslash
    have halnum := entry.1.teamRef_valid.2
    simp only [strIsAlnum, Bool.and_eq_true, List.all_eq_true] at halnum
    have hplain : isAlnum '/' = true := halnum.2 '/' hslash
    simp [isAlnum, isAscii, isAsciiLower, isAsciiUpper, isAsciiDigit] at hplain

omit [Unicode] in
/-- Without slashes in the team, a reference tells the team and the key. -/
theorem guestRef_injective {team team' key key' : Str} (h : '/' ∉ team) (h' : '/' ∉ team')
    (hsame : guestRef team key = guestRef team' key') : team = team' ∧ key = key' := by
  have htake : ∀ team key : Str, '/' ∉ team →
      (guestRef team key).takeWhile (fun c => decide (c ≠ '/')) = team := by
    intro team key h
    have hbefore : ∀ c ∈ team, decide (c ≠ '/') = true := by
      intro c hc
      exact decide_eq_true fun hslash => h (hslash ▸ hc)
    unfold guestRef
    rw [List.append_assoc, List.takeWhile_append_of_pos hbefore]
    simp
  have hteam : team = team' := by rw [← htake team key h, hsame, htake team' key' h']
  subst hteam
  exact ⟨rfl, List.append_cancel_left hsame⟩

/-! ## Distinct guests -/

/-- Guests of different slots have identifiers recorded under different keys. -/
theorem record_ne {slot slot' : Str × Str} {guest guest' : GuestSpec}
    (h : GuestOf workload network slot guest) (h' : GuestOf workload network slot' guest')
    (hne : slot ≠ slot') (suffix : Str) {kind kind' : AllocationKind} {a a' : Allocation}
    (ha : ledger.get guest.ownership.scopeKey kind (guest.guestRef ++ suffix) = some a)
    (ha' : ledger.get guest'.ownership.scopeKey kind' (guest'.guestRef ++ suffix) = some a') :
    a ≠ a' := by
  rintro rfl
  obtain ⟨_, hkey⟩ := get_eq_some_iff.mp ha
  obtain ⟨_, hkey'⟩ := get_eq_some_iff.mp ha'
  rw [hkey, scopeKey_of_workloadOwnership h.ownership, scopeKey_of_workloadOwnership h'.ownership,
    h.guestRef, h'.guestRef] at hkey'
  simp only [Prod.mk.injEq, true_and, and_true] at hkey'
  obtain ⟨hteam, _, hpurpose⟩ := hkey'
  have href := List.append_cancel_right hpurpose
  rw [hteam] at href
  exact hne (Prod.ext hteam (List.append_cancel_left href))

/-- The published address is the recorded text. -/
theorem GuestRecorded.published {guest : GuestSpec} (h : GuestRecorded ledger guest)
    (hsound : Sound ledger) :
    Recorded ledger guest.ownership.scopeKey .guestAddress (guest.guestRef ++ str "/address")
      fun value => value = guest.address.publishedAddress := by
  obtain ⟨a, hget, x, hread, hpublished⟩ := h.address
  obtain ⟨hmem, hkey⟩ := get_eq_some_iff.mp hget
  have hkind : a.kind = .guestAddress := congrArg (fun k => k.2.1) hkey
  have hcanonical := hsound.canonical a hmem
  rw [hkind] at hcanonical
  obtain ⟨y, hversion, htext⟩ := hcanonical
  rw [htext, Ip.ipAddress_text hversion] at hread
  obtain rfl := Option.some.inj hread
  exact ⟨a, hget, htext.trans hpublished.symm⟩

/-- What guests of different slots do not share. -/
structure Apart (guest guest' : GuestSpec) : Prop where
  vmid : guest.vmid ≠ guest'.vmid
  macs : ∀ nic ∈ guest.nics, ∀ nic' ∈ guest'.nics, nic.macAddress ≠ nic'.macAddress
  address : guest.address.publishedAddress ≠ guest'.address.publishedAddress

theorem apart_of_fills (hsound : Sound ledger) {slot slot' : Str × Str}
    {guest guest' : GuestSpec} (h : Fills workload network ledger slot guest)
    (h' : Fills workload network ledger slot' guest') (hne : slot ≠ slot') :
    Apart guest guest' := by
  have hexclusive := exclusive_of_sound hsound
  constructor
  case vmid =>
    intro hvmid
    obtain ⟨kind, hspace, a, hget, hread⟩ := h.2.vmid
    obtain ⟨kind', hspace', a', hget', hread'⟩ := h'.2.vmid
    obtain ⟨ha, hkey⟩ := get_eq_some_iff.mp hget
    obtain ⟨ha', hkey'⟩ := get_eq_some_iff.mp hget'
    have hkind : a.kind = kind := congrArg (fun k => k.2.1) hkey
    have hkind' : a'.kind = kind' := congrArg (fun k => k.2.1) hkey'
    have hdistinct : a ≠ a' := record_ne h.1 h'.1 hne []
      (by rw [List.append_nil]; exact hget) (by rw [List.append_nil]; exact hget')
    refine hexclusive.guestIds a ha a' ha' hdistinct ?_ ?_ (by rw [hread, hread', hvmid])
    · rw [hkind]
      exact AllocationKind.space_eq_guestId.mp hspace
    · rw [hkind']
      exact AllocationKind.space_eq_guestId.mp hspace'
  case macs =>
    intro nic hnic nic' hnic' hmac
    obtain ⟨only, hnics, a, hget, hvalue⟩ := h.2.nic
    obtain ⟨only', hnics', a', hget', hvalue'⟩ := h'.2.nic
    rw [hnics, List.mem_singleton] at hnic
    rw [hnics', List.mem_singleton] at hnic'
    subst hnic hnic'
    obtain ⟨ha, hkey⟩ := get_eq_some_iff.mp hget
    obtain ⟨ha', hkey'⟩ := get_eq_some_iff.mp hget'
    exact hexclusive.macs a ha a' ha' (record_ne h.1 h'.1 hne _ hget hget')
      (congrArg (fun k => k.2.1) hkey) (congrArg (fun k => k.2.1) hkey')
      (by rw [hvalue, hvalue', hmac])
  case address =>
    intro haddress
    obtain ⟨a, hget, hvalue⟩ := h.2.published hsound
    obtain ⟨a', hget', hvalue'⟩ := h'.2.published hsound
    obtain ⟨ha, hkey⟩ := get_eq_some_iff.mp hget
    obtain ⟨ha', hkey'⟩ := get_eq_some_iff.mp hget'
    exact hexclusive.addresses a ha a' ha' (record_ne h.1 h'.1 hne _ hget hget')
      (.inl (congrArg (fun k => k.2.1) hkey)) (.inl (congrArg (fun k => k.2.1) hkey'))
      (by rw [hvalue, hvalue', haddress])

/-- A guest is never given the gateway of a segment. -/
theorem address_ne_gateway (hsound : Sound ledger) {guest : GuestSpec} {v : VNetSpec}
    (hguest : GuestRecorded ledger guest) (hv : GatewayHeld ledger v) :
    Ip.ipAddress guest.address.publishedAddress ≠ Ip.ipAddress v.subnet.gateway := by
  obtain ⟨a, hget, hvalue⟩ := hguest.published hsound
  obtain ⟨ha, hkey⟩ := get_eq_some_iff.mp hget
  have hakind : a.kind = .guestAddress := congrArg (fun k => k.2.1) hkey
  obtain ⟨b, hb, hbkind, x, hread, hgateway⟩ := hv
  have hcanonical := hsound.canonical b hb
  rw [hbkind] at hcanonical
  obtain ⟨y, hversion, htext⟩ := hcanonical
  have hshown : b.value = v.subnet.gateway := by
    rcases hread with hread | hread
    · rw [htext, Ip.ipAddress_text hversion] at hread
      rw [htext, hgateway, Option.some.inj hread]
    · rw [hread, hgateway]
  have hdistinct : a ≠ b := by
    rintro rfl
    rw [hakind] at hbkind
    cases hbkind
  rw [← hvalue, ← hshown]
  exact (exclusive_of_sound hsound).addresses a ha b hb hdistinct (.inl hakind) (.inr hbkind)

/-! ## Compiled workloads -/

/-- What is known of the guests of a compiled workload, in the order of its slots. -/
structure Slotted (workload : WorkloadRequest) (topology : CompiledTopology)
    (ledger : AllocationLedger) (guests : List GuestSpec) : Prop where
  perm : topology.guests.Perm guests
  filled : List.Forall₂ (fun slot guest => '/' ∉ slot.1 ∧
    Fills workload topology.network ledger slot guest) (slots workload) guests
  sound : Sound ledger
  gateways : ∀ v ∈ topology.network.vnets, GatewayHeld ledger v
  segmented : Segmented topology

theorem slotted_of_compileWorkload
    (hnetwork : compileWebBreachLab request o AllocationLedger.empty = .ok (.plan network, ledger))
    (hworkload : compileWorkload workload network o ledger = .ok (.plan plan, ledger')) :
    ∃ guests, Slotted workload plan.topology ledger' guests := by
  have htarget : SameTarget o o := ⟨rfl, rfl, rfl, rfl, fun _ _ => rfl, rfl⟩
  have hsubnets : PrintedSubnets network := (compiled_of_compileWebBreachLab hnetwork).cidrs
  obtain ⟨hsettled, _, _⟩ := compileWebBreachLab_reruns htarget (Covers.refl _) hnetwork
  obtain ⟨hsettled', hext, _, _⟩ :=
    compileWorkload_reruns htarget (Covers.refl _) hsettled hsubnets hworkload
  obtain ⟨guests, hnetwork', hperm, hfilled⟩ := forall₂_fills_of_compileWorkload hsubnets hworkload
  refine ⟨guests, hperm, ?_, hsettled'.tidy.sound, ?_,
    segmented_of_compileWorkload hnetwork hworkload⟩
  · rw [hnetwork']
    refine (List.forall₂_and_left _ _).mpr ⟨fun slot hslot => ?_, hfilled⟩
    exact slash_not_mem_team hnetwork hworkload (mem_slots.mp hslot).1
  · rw [hnetwork']
    exact fun v hv => (gateways_of_compileWebBreachLab hnetwork v hv).mono hext

namespace Slotted

variable {topology : CompiledTopology} {guests : List GuestSpec}

theorem exists_guest (h : Slotted workload topology ledger guests) {team key : Str}
    (hteam : team ∈ workload.teamRefs) (hkey : key ∈ perTeamKeys workload) :
    ∃ guest ∈ topology.guests, Fills workload topology.network ledger (team, key) guest := by
  obtain ⟨guest, hguest, _, hfills⟩ :=
    forall₂_exists_right h.filled (mem_slots.mpr ⟨hteam, hkey⟩ : (team, key) ∈ slots workload)
  exact ⟨guest, h.perm.mem_iff.mpr hguest, hfills⟩

theorem exists_slot (h : Slotted workload topology ledger guests) {guest : GuestSpec}
    (hguest : guest ∈ topology.guests) : ∃ slot ∈ slots workload, '/' ∉ slot.1 ∧
      Fills workload topology.network ledger slot guest :=
  forall₂_exists_left h.filled (h.perm.mem_iff.mp hguest)

theorem exists_team (workload : WorkloadRequest) : ∃ team, team ∈ workload.teamRefs := by
  have htwo := workload.two_teams
  exact List.exists_mem_of_length_pos (by omega)

theorem exists_image (h : Slotted workload topology ledger guests) {key : Str}
    (hkey : key ∈ perTeamKeys workload) : ∃ image, workload.image key = some image := by
  obtain ⟨team, hteam⟩ := exists_team workload
  obtain ⟨_, _, hfills⟩ := h.exists_guest hteam hkey
  obtain ⟨image, _, himage, _⟩ := hfills.1.segment
  exact ⟨image, himage⟩

/-- The references of the guests are those of the slots. -/
theorem guestRefs_eq (h : Slotted workload topology ledger guests) :
    guests.map GuestSpec.guestRef = (slots workload).map fun slot => guestRef slot.1 slot.2 := by
  have hfilled := h.filled
  clear h
  generalize slots workload = done at hfilled
  induction hfilled with
  | nil => rfl
  | cons hfirst _ ih => rw [List.map_cons, List.map_cons, hfirst.2.1.guestRef, ih]

/-- A property of any two guests of distinct slots holds of any two guests if no key repeats. -/
theorem pairwise (h : Slotted workload topology ledger guests)
    (hnodup : (perTeamKeys workload).Nodup) {Q : GuestSpec → GuestSpec → Prop}
    (hsymm : ∀ guest guest', Q guest guest' → Q guest' guest)
    (hQ : ∀ slot slot' guest guest', '/' ∉ slot.1 → '/' ∉ slot'.1 →
      Fills workload topology.network ledger slot guest →
      Fills workload topology.network ledger slot' guest' → slot ≠ slot' → Q guest guest') :
    topology.guests.Pairwise Q := by
  refine (h.perm.pairwise_iff fun {a b} => hsymm a b).mpr ?_
  exact forall₂_pairwise h.filled (slots_nodup_iff.mpr hnodup)
    fun slot guest slot' guest' hg hg' hne =>
      hQ slot slot' guest guest' hg.1 hg'.1 hg.2 hg'.2 hne

/-- The segment a guest is on is the one of its image's role, and no other. -/
theorem attached_iff (h : Slotted workload topology ledger guests) {slot : Str × Str}
    {guest : GuestSpec} {image : ReviewedGuestImage} {role : SegmentRole}
    (hfills : Fills workload topology.network ledger slot guest)
    (himage : workload.image slot.2 = some image) :
    Attached topology.network slot.1 role guest ↔ image.role.segment = role := by
  obtain ⟨image', segment, himage', hsegment, hnics⟩ := hfills.1.segment
  obtain rfl : image = image' := Option.some.inj (himage.symm.trans himage')
  have hmem := List.mem_of_find?_eq_some hsegment
  have hrole : segment.role = image.role.segment := by simpa using List.find?_some hsegment
  constructor
  · rintro ⟨v, hv, rfl, hvnics⟩
    obtain ⟨nic, hnic, _⟩ := hfills.2.nic
    have hnicmem : nic ∈ guest.nics := hnic ▸ List.mem_singleton_self nic
    have hname : segment.name = v.name := (hnics nic hnicmem).symm.trans (hvnics nic hnicmem)
    rw [← hrole, List.inj_on_of_nodup_map h.segmented.names_nodup (List.mem_filter.mp hmem).1
      (List.mem_filter.mp hv).1 hname]
  · rintro rfl
    exact ⟨segment, hmem, hrole, hnics⟩

theorem wellPlaced (h : Slotted workload topology ledger guests) (hroles : RolesAgree workload) :
    WellPlaced workload topology := by
  have hnodup := perTeamKeys_nodup hroles fun _ => h.exists_image
  have hrefs : (topology.guests.map GuestSpec.guestRef).Nodup := by
    refine List.pairwise_map.mpr (h.pairwise hnodup (fun _ _ => Ne.symm) ?_)
    intro slot slot' guest guest' hslash hslash' hg hg' hne hsame
    rw [hg.1.guestRef, hg'.1.guestRef] at hsame
    obtain ⟨hteam, hkey⟩ := guestRef_injective hslash hslash' hsame
    exact hne (Prod.ext hteam hkey)
  have hapart : topology.guests.Pairwise Apart := by
    refine h.pairwise hnodup (fun _ _ hapart => ?_)
      fun _ _ _ _ _ _ hg hg' hne => apart_of_fills h.sound hg hg' hne
    exact ⟨hapart.vmid.symm, fun nic hnic nic' hnic' => (hapart.macs nic' hnic' nic hnic).symm,
      hapart.address.symm⟩
  -- a guest's reference tells its slot
  have hslot : ∀ team ∈ workload.teamRefs, ∀ key ∈ perTeamKeys workload,
      ∀ guest ∈ topology.guests, guest.guestRef = guestRef team key →
        Fills workload topology.network ledger (team, key) guest := by
    intro team hteam key hkey guest hguest href
    obtain ⟨guest', hguest', hfills⟩ := h.exists_guest hteam hkey
    obtain rfl := List.inj_on_of_nodup_map hrefs hguest hguest' (href.trans hfills.1.guestRef.symm)
    exact hfills
  constructor
  case guestRefs => exact hrefs
  case vmids => exact List.pairwise_map.mpr (hapart.imp Apart.vmid)
  case macs =>
    rw [List.nodup_flatMap]
    refine ⟨fun guest hguest => ?_, hapart.imp fun hapart mac hmac hmac' => ?_⟩
    · obtain ⟨_, _, _, hfills⟩ := h.exists_slot hguest
      obtain ⟨nic, hnic, _⟩ := hfills.2.nic
      rw [hnic]
      exact List.nodup_singleton _
    · obtain ⟨nic, hnic, rfl⟩ := List.mem_map.mp hmac
      obtain ⟨nic', hnic', hsame⟩ := List.mem_map.mp hmac'
      exact hapart.macs nic hnic nic' hnic' hsame.symm
  case addresses => exact List.pairwise_map.mpr (hapart.imp Apart.address)
  case inside =>
    intro guest hguest
    obtain ⟨_, _, _, hfills⟩ := h.exists_slot hguest
    obtain ⟨nic, hnic, _⟩ := hfills.2.nic
    obtain ⟨v, hv, hname, x, hx, hcontains⟩ := h.segmented.guests guest hguest nic
      (hnic ▸ List.mem_singleton_self nic)
    obtain ⟨gateway, hgateway, _⟩ := v.subnet.gateway_contained
    refine ⟨nic, v, x, gateway, hnic, hv, hname, hx, hcontains, hgateway, ?_⟩
    rintro rfl
    exact address_ne_gateway h.sound hfills.2 (h.gateways v hv) (hx.trans hgateway.symm)
  case once =>
    intro team hteam key hkey
    obtain ⟨guest, hguest, hfills⟩ := h.exists_guest hteam hkey
    exact List.count_eq_one_of_mem hrefs (List.mem_map.mpr ⟨guest, hguest, hfills.1.guestRef⟩)
  case every =>
    intro guest hguest
    obtain ⟨slot, hslot, _, hfills⟩ := h.exists_slot hguest
    obtain ⟨hteam, hkey⟩ := mem_slots.mp hslot
    obtain ⟨_, _, _, _, _, _, hstamp⟩ := Ownership.make_eq_ok hfills.1.ownership
    exact ⟨slot.1, hteam, slot.2, hkey, hfills.1.guestRef, hstamp⟩
  case attackers =>
    intro team hteam guest hguest href
    have hkey : attackerWorkloadKey ∈ perTeamKeys workload := mem_perTeamKeys.mpr (.inl rfl)
    obtain ⟨image, himage⟩ := h.exists_image hkey
    obtain ⟨hmem, himageKey⟩ := image_eq_some_iff.mp himage
    refine (h.attached_iff (hslot team hteam _ hkey guest hguest href) himage).mpr ?_
    rw [hroles.attacker image hmem himageKey]
    rfl
  case targets =>
    intro team hteam key hkey guest hguest href
    have hkey' : key ∈ perTeamKeys workload := mem_perTeamKeys.mpr (.inr (.inl hkey))
    obtain ⟨image, himage⟩ := h.exists_image hkey'
    obtain ⟨hmem, himageKey⟩ := image_eq_some_iff.mp himage
    refine (h.attached_iff (hslot team hteam _ hkey' guest hguest href) himage).mpr ?_
    rw [hroles.targets image hmem (himageKey ▸ hkey)]
    rfl

theorem rolesAgree (h : Slotted workload topology ledger guests)
    (hplaced : WellPlaced workload topology) : RolesAgree workload := by
  obtain ⟨team, hteam⟩ := exists_team workload
  -- the image of a key decides where the guest of its slot is
  have hrole : ∀ image ∈ workload.images, image.workloadKey ∈ perTeamKeys workload →
      ∀ role, (∀ guest ∈ topology.guests, guest.guestRef = guestRef team image.workloadKey →
        Attached topology.network team role guest) → image.role.segment = role := by
    intro image hmem hkey role hattached
    obtain ⟨guest, hguest, hfills⟩ := h.exists_guest hteam hkey
    exact (h.attached_iff hfills (image_eq_some_iff.mpr ⟨hmem, rfl⟩)).mp
      (hattached guest hguest hfills.1.guestRef)
  constructor
  case attacker =>
    intro image hmem hkey
    have hsegment := hrole image hmem (mem_perTeamKeys.mpr (.inl hkey)) .attacker
      fun guest hguest href => hplaced.attackers team hteam guest hguest (hkey ▸ href)
    exact segment_injective hsegment
  case targets =>
    intro image hmem hkey
    have hsegment := hrole image hmem (mem_perTeamKeys.mpr (.inr (.inl hkey))) .vulnerable
      fun guest hguest href => hplaced.targets team hteam _ hkey guest hguest href
    exact segment_injective hsegment
  case targets_nodup =>
    have hrefs : (guests.map GuestSpec.guestRef).Nodup :=
      (h.perm.map GuestSpec.guestRef).nodup_iff.mp hplaced.guestRefs
    rw [h.guestRefs_eq] at hrefs
    have hkeys := slots_nodup_iff.mp hrefs.of_map
    unfold perTeamKeys at hkeys
    rw [List.cons_append, List.nodup_cons, List.nodup_append'] at hkeys
    exact hkeys.2.1

end Slotted

/-- The compiled guests are distinct and on the segments of their components exactly when the roles
on the images agree with the components and no target component repeats. -/
theorem wellPlaced_iff_rolesAgree
    (hnetwork : compileWebBreachLab request o AllocationLedger.empty = .ok (.plan network, ledger))
    (hworkload : compileWorkload workload network o ledger = .ok (.plan plan, ledger')) :
    WellPlaced workload plan.topology ↔ RolesAgree workload := by
  obtain ⟨guests, hslotted⟩ := slotted_of_compileWorkload hnetwork hworkload
  exact ⟨hslotted.rolesAgree, hslotted.wellPlaced⟩

end

/-- On the sample range both sides hold. -/
theorem sample_wellPlaced : ∃ network ledger plan ledger',
    @compileWebBreachLab Unicode.ascii (sampleRequest none) equippedObservation
      AllocationLedger.empty = .ok (.plan network, ledger) ∧
    @compileWorkload Unicode.ascii sampleWorkload network equippedObservation ledger =
      .ok (.plan plan, ledger') ∧
    @WellPlaced Unicode.ascii sampleWorkload plan.topology := by
  let _ := Unicode.ascii
  obtain ⟨network, ledger, plan, ledger', hnetwork, hworkload⟩ :=
    exists_of_compiledRange sampleRange_compiles
  have hroles : RolesAgree sampleWorkload := by
    have hdistinct : str "web" ≠ attackerWorkloadKey := by with_unfolding_all decide
    refine ⟨fun image himage hkey => ?_, fun image himage hkey => ?_, by with_unfolding_all decide⟩
    · rcases List.mem_pair.mp himage with rfl | rfl
      · rfl
      · exact absurd hkey hdistinct
    · rcases List.mem_pair.mp himage with rfl | rfl
      · exact absurd (List.mem_singleton.mp hkey).symm hdistinct
      · rfl
  exact ⟨network, ledger, plan, ledger', hnetwork, hworkload,
    (wellPlaced_iff_rolesAgree hnetwork hworkload).mpr hroles⟩

theorem sampleKeys_ne_nil : attackerWorkloadKey ≠ [] ∧ str "web" ≠ [] := by
  simp [attackerWorkloadKey]

/-- The sample workload with the roles on its two images swapped. -/
def swappedWorkload : @WorkloadRequest Unicode.ascii :=
  let _ := Unicode.ascii
  { sampleWorkload with
    images := [sampleImage attackerWorkloadKey .target sampleKeys_ne_nil.1,
      sampleImage (str "web") .attacker sampleKeys_ne_nil.2]
    images_nodup := by with_unfolding_all decide }

theorem swapped_compiles : compiledRange
    (@compileWebBreachLab Unicode.ascii (sampleRequest none) equippedObservation
      AllocationLedger.empty)
    (fun network ledger => @compileWorkload Unicode.ascii swappedWorkload network
      equippedObservation ledger) = true := by decide +kernel

/-- The swapped workload is compiled, its targets onto the attacker segments. -/
theorem swapped_not_wellPlaced : ∃ network ledger plan ledger',
    @compileWebBreachLab Unicode.ascii (sampleRequest none) equippedObservation
      AllocationLedger.empty = .ok (.plan network, ledger) ∧
    @compileWorkload Unicode.ascii swappedWorkload network equippedObservation ledger =
      .ok (.plan plan, ledger') ∧
    ¬@WellPlaced Unicode.ascii swappedWorkload plan.topology := by
  let _ := Unicode.ascii
  obtain ⟨network, ledger, plan, ledger', hnetwork, hworkload⟩ :=
    exists_of_compiledRange swapped_compiles
  obtain ⟨guests, hslotted⟩ := slotted_of_compileWorkload hnetwork hworkload
  refine ⟨network, ledger, plan, ledger', hnetwork, hworkload, fun hplaced => ?_⟩
  have hrole := (hslotted.rolesAgree hplaced).targets
    (sampleImage (str "web") .attacker (by simp)) (List.mem_cons_of_mem _ List.mem_cons_self)
    List.mem_cons_self
  cases hrole

end Secp.Proxmox
