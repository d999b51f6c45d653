import Secp.Proxmox.NetworkLemmas
import Secp.Proxmox.Workload

/-!
# Allocating against two observations

An allocator asked a second time, with another observation, returns what it recorded before it looks
at the observation; and asked against a wider observation it chooses the same value as long as that
value is not listed there. `Steady` states both for a pair of allocators, and every allocator the
compilers use is steady between two observations with all inventories present.
-/

namespace Secp.Proxmox

open Secp.Python Secp.Logic AllocationLedger

/-! ## Stable choices -/

namespace AllocationLedger

section
variable [Unicode] {ledger : AllocationLedger} {scope : Scope} {kind : AllocationKind}
  {purpose : Str}

omit [Unicode] in
/-- Widening what is observed does not move an integer walk whose result is not listed. -/
theorem walkInts_stable {low v : Int} {span start : Nat} {held observed observed' : List Int}
    (h : walkInts low span start (held ++ observed) = some v) (hsub : observed ⊆ observed')
    (hv : v ∉ observed') : walkInts low span start (held ++ observed') = some v := by
  have hfree : v ∉ held ++ observed := by simpa using (firstFree_sound h).1
  simp only [List.mem_append, not_or] at hfree
  refine firstFree_stable h (fun b hb => ?_) (by simp [hfree.1, hv])
  simp only [decide_eq_true_eq, List.mem_append, not_or] at hb ⊢
  exact ⟨hb.1, fun hmem => hb.2 (hsub hmem)⟩

theorem chooseInt_stable {low high v : Int} {observed observed' : List Int}
    (h : chooseInt scope kind purpose low high observed ledger = .ok v)
    (hsub : observed ⊆ observed') (hv : v ∉ observed') :
    chooseInt scope kind purpose low high observed' ledger = .ok v := by
  unfold chooseInt at h ⊢
  split at h
  · cases h
  · rename_i hspan
    obtain ⟨held, hheld, hwalk⟩ := except_bind_eq_ok.mp h
    rw [if_neg hspan]
    refine except_bind_eq_ok.mpr ⟨held, hheld, ?_⟩
    dsimp only at hwalk ⊢
    split at hwalk
    · rename_i candidate hfound
      cases hwalk
      rw [walkInts_stable hfound hsub hv]
    · cases hwalk

theorem chooseVmid_stable {pools : IpamPools} {v : Int} {observed observed' : List Int}
    (h : chooseVmid scope kind purpose pools observed ledger = .ok v)
    (hsub : observed ⊆ observed') (hv : v ∉ observed') :
    chooseVmid scope kind purpose pools observed' ledger = .ok v := by
  obtain ⟨vmids, hvmids, h⟩ := except_bind_eq_ok.mp h
  obtain ⟨lxcIds, hlxcIds, h⟩ := except_bind_eq_ok.mp h
  refine except_bind_eq_ok.mpr ⟨vmids, hvmids, except_bind_eq_ok.mpr ⟨lxcIds, hlxcIds, ?_⟩⟩
  dsimp only at h ⊢
  split at h
  · rename_i candidate hfound
    cases h
    rw [walkInts_stable hfound hsub hv]
  · cases h

theorem chooseMac_stable {mac : Str} {macs macs' : List Str}
    (h : chooseMac scope purpose macs ledger = .ok mac) (hsub : macs ⊆ macs')
    (hmac : mac ∉ macs'.map upper) : chooseMac scope purpose macs' ledger = .ok mac := by
  obtain ⟨_, _, hheld⟩ := chooseMac_sound h
  unfold chooseMac at h ⊢
  dsimp only at h ⊢
  split at h
  · rename_i candidate hwalk
    cases h
    have hreserved : mac ∉ ledger.reserved .mac := by
      intro hmem
      obtain ⟨a, ha, hkind, hvalue⟩ := mem_reserved.mp hmem
      exact hheld a ha hkind hvalue
    rw [firstFree_stable hwalk (fun b hb => ?_) (by simp [hmac, hreserved])]
    simp only [decide_eq_true_eq, List.mem_append, not_or] at hb ⊢
    exact ⟨fun hmem => hb.1 (List.map_subset upper hsub hmem), hb.2⟩
  · cases h

theorem chooseName_stable {candidate name : Str} {names names' : List Str} {maxLength : Option Int}
    (h : chooseName scope purpose kind candidate names maxLength ledger = .ok name)
    (hsub : names ⊆ names') (hname : lower name ∉ names'.map lower) :
    chooseName scope purpose kind candidate names' maxLength ledger = .ok name := by
  obtain ⟨_, _, hheld⟩ := chooseName_sound h
  have hreserved : lower name ∉ (ledger.reserved kind).map lower := by
    intro hmem
    obtain ⟨value, hvalue, hlower⟩ := List.mem_map.mp hmem
    obtain ⟨a, ha, hkind, rfl⟩ := mem_reserved.mp hvalue
    exact hheld a ha hkind hlower
  have hwider : ∀ t : Str, lower t ∉ names'.map lower ++ (ledger.reserved kind).map lower →
      lower t ∉ names.map lower ++ (ledger.reserved kind).map lower := by
    intro t ht
    simp only [List.mem_append, not_or] at ht ⊢
    exact ⟨fun hmem => ht.1 (List.map_subset lower hsub hmem), ht.2⟩
  unfold chooseName at h ⊢
  dsimp only at h ⊢
  split at h
  · cases h
    rw [if_pos (by simp only [List.mem_append, not_or]; exact ⟨hname, hreserved⟩)]
  · rename_i htaken
    rw [if_neg (fun hfree => htaken (hwider _ hfree))]
    split at h
    · rename_i attempt hwalk
      cases h
      rw [firstFree_stable hwalk (fun b hb => ?_) (by simp [hname, hreserved])]
      exact decide_eq_true (hwider b (of_decide_eq_true hb))
    · cases h

omit [Unicode] in
/-- A wider list of parsable networks parses to a wider list. -/
theorem mapM_networks_subset {cidrs cidrs' : List Str} {networks : List Ip.Network}
    (h : (cidrs.mapM fun cidr => orValueError (Ip.ipNetwork false cidr)) = .ok networks)
    (hsub : cidrs ⊆ cidrs') (hparse : ∀ cidr ∈ cidrs', (Ip.ipNetwork false cidr).isSome = true) :
    ∃ networks', (cidrs'.mapM fun cidr => orValueError (Ip.ipNetwork false cidr)) =
      .ok networks' ∧ networks ⊆ networks' := by
  have hall : ∀ cidrs' : List Str, (∀ cidr ∈ cidrs', (Ip.ipNetwork false cidr).isSome = true) →
      ∃ networks', List.Forall₂ (fun cidr network => orValueError (Ip.ipNetwork false cidr) =
        .ok network) cidrs' networks' := by
    intro cidrs'
    induction cidrs' with
    | nil => exact fun _ => ⟨[], .nil⟩
    | cons cidr rest ih =>
        intro hparse
        obtain ⟨n, hn⟩ := Option.isSome_iff_exists.mp (hparse cidr List.mem_cons_self)
        obtain ⟨ns, hns⟩ := ih fun c hc => hparse c (List.mem_cons_of_mem _ hc)
        exact ⟨n :: ns, .cons (orValueError_eq_ok.mpr hn) hns⟩
  obtain ⟨networks', hnetworks'⟩ := hall cidrs' hparse
  refine ⟨networks', mapM_eq_ok_iff.mpr hnetworks', fun n hn => ?_⟩
  obtain ⟨cidr, hcidr, hread⟩ := forall₂_exists_left (mapM_eq_ok_iff.mp h) hn
  obtain ⟨m, hm, hread'⟩ := forall₂_exists_right hnetworks' (hsub hcidr)
  rw [hread] at hread'
  cases hread'
  exact hm

omit [Unicode] in
theorem chooseSubnet_stable {pools : IpamPools} {n : Ip.Network}
    {cidrs cidrs' management : List Str}
    (h : chooseSubnet scope purpose pools cidrs management ledger = .ok n) (hsub : cidrs ⊆ cidrs')
    (hparse : ∀ cidr ∈ cidrs', (Ip.ipNetwork false cidr).isSome = true)
    (hn : ∀ cidr ∈ cidrs', ∀ m, Ip.ipNetwork false cidr = some m → n.overlaps m = false) :
    chooseSubnet scope purpose pools cidrs' management ledger = .ok n := by
  obtain ⟨blocked, hblocked, h⟩ := except_bind_eq_ok.mp h
  obtain ⟨inUse, hinUse, hblocked⟩ := except_bind_eq_ok.mp hblocked
  obtain ⟨mgmt, hmgmt, hblocked⟩ := except_bind_eq_ok.mp hblocked
  obtain ⟨held, hheld, hblocked⟩ := except_bind_eq_ok.mp hblocked
  cases hblocked
  obtain ⟨inUse', hinUse', hwider⟩ := mapM_networks_subset hinUse hsub hparse
  refine except_bind_eq_ok.mpr ⟨inUse' ++ mgmt ++ held, ?_, ?_⟩
  · refine except_bind_eq_ok.mpr ⟨inUse', hinUse', except_bind_eq_ok.mpr ⟨mgmt, hmgmt, ?_⟩⟩
    exact except_bind_eq_ok.mpr ⟨held, hheld, rfl⟩
  dsimp only at h ⊢
  split at h
  · cases h
  · rename_i hsome
    rw [if_neg hsome]
    split at h
    · rename_i candidate hwalk
      cases h
      have hfree : (∀ m ∈ inUse, n.overlaps m = false) ∧ (∀ m ∈ mgmt, n.overlaps m = false) ∧
          ∀ m ∈ held, n.overlaps m = false := by simpa using (walkList_sound hwalk).2
      have hless : ∀ b : Ip.Network, (!(inUse' ++ mgmt ++ held).any b.overlaps) = true →
          (!(inUse ++ mgmt ++ held).any b.overlaps) = true := by
        intro b hb
        simp only [Bool.not_eq_true', List.any_eq_false, List.mem_append] at hb ⊢
        intro m hm
        exact hb m (hm.imp_left fun hm => hm.imp_left fun hm => hwider hm)
      have hstill : (!(inUse' ++ mgmt ++ held).any n.overlaps) = true := by
        simp only [Bool.not_eq_true', List.any_eq_false, Bool.not_eq_true, List.mem_append]
        rintro m ((hm | hm) | hm)
        · obtain ⟨cidr, hcidr, hread⟩ := forall₂_exists_left (mapM_eq_ok_iff.mp hinUse') hm
          exact hn cidr hcidr m (orValueError_eq_ok.mp hread)
        · exact hfree.2.1 m hm
        · exact hfree.2.2 m hm
      rw [walkList_stable hwalk hless hstill]
    · cases h

end

end AllocationLedger

/-! ## Two observations of one target -/

/-- Every inventory was collected. -/
structure Inventoried (o : TargetObservation) : Prop where
  vlanTags : o.vlanTagsInUse.isSome = true
  vmids : o.vmidsInUse.isSome = true
  macs : o.macsInUse.isSome = true
  subnets : o.subnetsInUse.isSome = true
  sdnNames : o.sdnNamesInUse.isSome = true
  firewallNames : o.firewallNamesInUse.isSome = true

/-- Every inventory the first observation holds was collected by the second as well. -/
structure Covers (o o' : TargetObservation) : Prop where
  vlanTags : o.vlanTagsInUse.isSome = true → o'.vlanTagsInUse.isSome = true
  vmids : o.vmidsInUse.isSome = true → o'.vmidsInUse.isSome = true
  macs : o.macsInUse.isSome = true → o'.macsInUse.isSome = true
  subnets : o.subnetsInUse.isSome = true → o'.subnetsInUse.isSome = true
  sdnNames : o.sdnNamesInUse.isSome = true → o'.sdnNamesInUse.isSome = true
  firewallNames : o.firewallNamesInUse.isSome = true → o'.firewallNamesInUse.isSome = true

theorem Covers.refl (o : TargetObservation) : Covers o o := ⟨id, id, id, id, id, id⟩

theorem Inventoried.covers {o o' : TargetObservation} (h : Inventoried o') : Covers o o' :=
  ⟨fun _ => h.vlanTags, fun _ => h.vmids, fun _ => h.macs, fun _ => h.subnets, fun _ => h.sdnNames,
    fun _ => h.firewallNames⟩

/-- The second observation lists at least what the first lists, in networks that parse. -/
structure Widens (o o' : TargetObservation) : Prop where
  vlanTags : o.vlanTagsInUse.getD [] ⊆ o'.vlanTagsInUse.getD []
  vmids : o.vmidsInUse.getD [] ⊆ o'.vmidsInUse.getD []
  macs : o.macsInUse.getD [] ⊆ o'.macsInUse.getD []
  subnets : o.subnetsInUse.getD [] ⊆ o'.subnetsInUse.getD []
  sdnNames : o.sdnNamesInUse.getD [] ⊆ o'.sdnNamesInUse.getD []
  firewallNames : o.firewallNamesInUse.getD [] ⊆ o'.firewallNamesInUse.getD []
  subnets_parse : ∀ cidr ∈ o'.subnetsInUse.getD [], (Ip.ipNetwork false cidr).isSome = true

section
variable [Unicode]

/-- The observation does not list the recorded identifier, nor a network that overlaps it. -/
def Unlisted (o : TargetObservation) (a : Allocation) : Prop :=
  match a.kind.space with
  | .guestId => ∀ n, intOf a.value = some n → n ∉ o.vmidsInUse.getD []
  | .vlanTag => ∀ n, intOf a.value = some n → n ∉ o.vlanTagsInUse.getD []
  | .mac => a.value ∉ (o.macsInUse.getD []).map upper
  | .subnet => ∀ n, Ip.ipNetwork true a.value = some n → ∀ cidr ∈ o.subnetsInUse.getD [], ∀ m,
      Ip.ipNetwork false cidr = some m → n.overlaps m = false
  | .name .firewallObjectName => lower a.value ∉ (o.firewallNamesInUse.getD []).map lower
  | .name _ => lower a.value ∉ (o.sdnNamesInUse.getD []).map lower
  | .address => True
  | .stateKey => True

/-- What an allocator knew of the observation when it chose the value it recorded. -/
structure Chosen (o : TargetObservation) (a : Allocation) : Prop where
  unlisted : Unlisted o a
  parsed : a.kind = .subnet →
    ∀ cidr ∈ o.subnetsInUse.getD [], (Ip.ipNetwork false cidr).isSome = true

/-- A tidy ledger of values chosen against the observation. -/
structure Settled (o : TargetObservation) (ledger : AllocationLedger) : Prop where
  tidy : Tidy ledger
  chosen : ∀ a ∈ ledger.records, Chosen o a

theorem Settled.empty (o : TargetObservation) : Settled o AllocationLedger.empty :=
  ⟨Tidy.empty, fun _ h => (List.not_mem_nil h).elim⟩

/-- A wider second observation lists nothing the ledger holds. -/
structure Clear (o o' : TargetObservation) (ledger : AllocationLedger) : Prop where
  widens : Widens o o'
  unlisted : ∀ a ∈ ledger.records, Unlisted o' a

variable {o o' : TargetObservation} {α : Type}

theorem Clear.mono {ledger ledger' : AllocationLedger} (h : Clear o o' ledger')
    (hext : Extends ledger ledger') : Clear o o' ledger :=
  ⟨h.widens, fun a ha => h.unlisted a (hext ha)⟩

/-! ## Steady allocators -/

/-- The first allocator chooses against the first observation, and the second repeats it: from the
same ledger if nothing recorded is listed, and from any ledger that holds what the first recorded. -/
structure Steady (o o' : TargetObservation) (act act' : Allocator α) : Prop where
  grows : Grows act
  draws : ∀ ledger a ledger', act ledger = .ok (a, ledger') →
    ∀ r ∈ ledger'.records, r ∈ ledger.records ∨ Chosen o r
  same : ∀ ledger a ledger', act ledger = .ok (a, ledger') → Clear o o' ledger' →
    act' ledger = .ok (a, ledger')
  again : ∀ ledger a ledger', act ledger = .ok (a, ledger') → ∀ u, Extends ledger' u →
    act' u = .ok (a, u)

theorem Steady.error (e : Raised) (act' : Allocator α) : Steady o o' (fun _ => .error e) act' :=
  ⟨Grows.error e, fun _ _ _ h => (nomatch h), fun _ _ _ h => (nomatch h), fun _ _ _ h => (nomatch h)⟩

theorem Steady.settled {act act' : Allocator α} (h : Steady o o' act act')
    {ledger ledger' : AllocationLedger} {a : α} (hact : act ledger = .ok (a, ledger'))
    (hsettled : Settled o ledger) : Settled o ledger' := by
  refine ⟨h.grows.tidy _ _ _ hact hsettled.tidy, fun r hr => ?_⟩
  rcases h.draws _ _ _ hact r hr with hold | hnew
  · exact hsettled.chosen r hold
  · exact hnew

/-- An allocation is steady if its value can be read back, its choice respects the observation, and
the choice is stable. -/
theorem Steady.allocate {scope : Scope} {kind : AllocationKind} {purpose : Str}
    {read : Str → Except Raised α} {choose choose' : AllocationLedger → Except Raised α}
    {text : α → Str} (hgrows : Grows (allocate scope kind purpose read choose text))
    (hread : ∀ ledger a, choose ledger = .ok a → read (text a) = .ok a)
    (hchosen : ∀ ledger a, choose ledger = .ok a → Chosen o ⟨kind, scope, purpose, text a⟩)
    (hstable : ∀ ledger a, choose ledger = .ok a → Widens o o' →
      Unlisted o' ⟨kind, scope, purpose, text a⟩ → choose' ledger = .ok a) :
    Steady o o' (AllocationLedger.allocate scope kind purpose read choose text)
      (AllocationLedger.allocate scope kind purpose read choose' text) := by
  refine ⟨hgrows, fun ledger a ledger' h r hr => ?_, fun ledger a ledger' h hclear => ?_,
    fun ledger a ledger' h u hu => ?_⟩
  · rcases allocate_eq_ok_iff.mp h with ⟨_, _, _, rfl⟩ | ⟨_, hchoose, _, rfl⟩
    · exact .inl hr
    · rcases List.mem_append.mp hr with hr | hr
      · exact .inl hr
      · obtain rfl := List.mem_singleton.mp hr
        exact .inr (hchosen ledger a hchoose)
  · refine allocate_eq_ok_iff.mpr ?_
    rcases allocate_eq_ok_iff.mp h with hold | ⟨hnew, hchoose, hopen, rfl⟩
    · exact .inl hold
    · have hunlisted := hclear.unlisted ⟨kind, scope, purpose, text a⟩
        (List.mem_append_right _ List.mem_cons_self)
      exact .inr ⟨hnew, hstable ledger a hchoose hclear.widens hunlisted, hopen, rfl⟩
  · obtain ⟨existing, hget, hvalue⟩ := allocate_recorded (hread ledger a) h
    exact allocate_eq_ok_iff.mpr (.inl ⟨existing, hu.get hget, hvalue, rfl⟩)

/-- The session states of two runs. -/
abbrev Unblocked (s : Session) : Prop := s.blocked = []

abbrev Above (s t : Session) : Prop := Extends s.ledger t.ledger

/-- The second program follows the first between the two observations. -/
abbrev Reruns (o o' : TargetObservation) (c c' : Compile α) : Prop :=
  Follows (fun s => Settled o s.ledger) Unblocked (fun s => Clear o o' s.ledger) Above c c'

omit [Unicode] in
theorem Above.refl (s : Session) : Above s s := Extends.refl _

omit [Unicode] in
theorem Above.trans (s t u : Session) (h : Above s t) (h' : Above t u) : Above s u :=
  Extends.trans h h'

theorem Above.clear (s t : Session) (h : Above s t) (hclear : Clear o o' t.ledger) :
    Clear o o' s.ledger := hclear.mono h

theorem Reruns.pure (a : α) : Reruns o o' (Pure.pure a) (Pure.pure a) :=
  Follows.pure Above.refl a

theorem Reruns.bind {β : Type} {c c' : Compile α} {f f' : α → Compile β} (hc : Reruns o o' c c')
    (hf : ∀ a, Reruns o o' (f a) (f' a)) : Reruns o o' (c >>= f) (c' >>= f') :=
  Follows.bind Above.trans Above.clear hc hf

theorem Reruns.bind_of {β : Type} {c c' : Compile α} {f f' : α → Compile β} {P : α → Prop}
    (hc : Reruns o o' c c') (hP : ∀ s a t, Settled o s.ledger → c.run s = .ok (a, t) → P a)
    (hf : ∀ a, P a → Reruns o o' (f a) (f' a)) : Reruns o o' (c >>= f) (c' >>= f') :=
  Follows.bind_of Above.trans Above.clear hc hP hf

theorem Reruns.foldlM {β γ : Type} {step step' : β → γ → Compile β}
    (hstep : ∀ b x, Reruns o o' (step b x) (step' b x)) (xs : List γ) (b : β) :
    Reruns o o' (xs.foldlM step b) (xs.foldlM step' b) :=
  Follows.foldlM Above.refl Above.trans Above.clear hstep xs b

theorem Reruns.check (result : Except Raised α) :
    Reruns o o' (Proxmox.check result) (Proxmox.check result) := by
  intro s a t hsettled hrun
  obtain ⟨hresult, rfl⟩ := run_check_eq_ok.mp hrun
  exact ⟨hsettled, Above.refl _, id, fun _ _ => hrun,
    fun _ _ _ _ => run_check_eq_ok.mpr ⟨hresult, rfl⟩⟩

theorem Reruns.allocating {act act' : Allocator α} (h : Steady o o' act act') :
    Reruns o o' (Proxmox.allocating act) (Proxmox.allocating act') := by
  intro s a t hsettled hrun
  obtain ⟨ledger, hledger, rfl⟩ := run_allocating_eq_ok.mp hrun
  refine ⟨h.settled hledger hsettled, h.grows.keeps _ _ _ hledger, id, ?_, ?_⟩
  · exact fun _ hclear => run_allocating_eq_ok.mpr ⟨ledger, h.same _ _ _ hledger hclear, rfl⟩
  · intro _ u _ hu
    exact run_allocating_eq_ok.mpr ⟨u.ledger, h.again _ _ _ hledger u.ledger hu, rfl⟩

theorem Reruns.logRun {act act' : Allocator α} (h : Steady o o' act act') :
    Reruns o o' (Proxmox.logRun act) (Proxmox.logRun act') := by
  intro s a t hsettled hrun
  have hevolves := keeps_logRun h.grows s a t hrun
  have hsettled' : Settled o t.ledger := by
    rcases run_logRun_eq_ok.mp hrun with ⟨_, ledger, hledger, _, rfl⟩ | ⟨_, _, _, rfl⟩
    · exact h.settled hledger hsettled
    · exact hsettled
  refine ⟨hsettled', hevolves.keeps, hevolves.unblocked, fun hgood hclear => ?_,
    fun hgood u hu habove => ?_⟩
  · obtain ⟨value, ledger, hledger, rfl, rfl⟩ := run_logRun_of_unblocked hrun hgood
    exact run_logRun_eq_ok.mpr (.inl ⟨value, ledger, h.same _ _ _ hledger hclear, rfl, rfl⟩)
  · obtain ⟨value, ledger, hledger, rfl, rfl⟩ := run_logRun_of_unblocked hrun hgood
    have hagain := h.again _ _ _ hledger u.ledger habove
    exact run_logRun_eq_ok.mpr (.inl ⟨value, u.ledger, hagain, rfl, rfl⟩)

/-- Asking whether anything is missing yet, which nothing is in a run that ends well. -/
theorem Reruns.getBlocked {f f' : List MissingPrerequisite → Compile α}
    (hf : ∀ blocked, Reruns o o' (f blocked) (f' blocked)) :
    Reruns o o' (get >>= fun s => f s.blocked) (get >>= fun s => f' s.blocked) := by
  intro s a t hsettled hrun
  obtain ⟨_, _, hget, hrest⟩ := run_bind_eq_ok.mp hrun
  obtain ⟨rfl, rfl⟩ := run_get_eq_ok.mp hget
  obtain ⟨hsettled', habove, hf⟩ := hf s.blocked s a t hsettled hrest
  refine ⟨hsettled', habove, hf.good_start, fun hgood hclear => ?_, fun hgood u hu htu => ?_⟩
  · exact run_bind_eq_ok.mpr ⟨s, s, run_get_eq_ok.mpr ⟨rfl, rfl⟩, hf.same hgood hclear⟩
  · have hsame : u.blocked = s.blocked := Eq.trans hu (hf.good_start hgood).symm
    refine run_bind_eq_ok.mpr ⟨u, u, run_get_eq_ok.mpr ⟨rfl, rfl⟩, ?_⟩
    rw [hsame]
    exact hf.again hgood u hu htu

/-! ## The allocators of the compilers -/

section
variable {ownership : Ownership} {purpose : Str}

theorem steady_allocateVlan (request : WebBreachLabRequest) (hcovers : Covers o o') :
    Steady o o' (allocateVlan request o ownership purpose)
      (allocateVlan request o' ownership purpose) := by
  have hgrows : Grows (allocateVlan request o ownership purpose) := grows_allocateInt _ _ _ _ _
  unfold allocateVlan at hgrows ⊢
  cases htags : o.vlanTagsInUse with
  | none => exact Steady.error _ _
  | some tags =>
      obtain ⟨tags', htags'⟩ := Option.isSome_iff_exists.mp (hcovers.vlanTags (by rw [htags]; rfl))
      rw [htags, allocateInt_some] at hgrows
      rw [htags', allocateInt_some, allocateInt_some]
      refine Steady.allocate hgrows (fun _ v _ => ?_) (fun ledger v hchoose => ⟨?_, ?_⟩)
        fun ledger v hchoose hwidens hunlisted => ?_
      · exact orValueError_eq_ok.mpr (int_of_text_of_int v)
      · simpa [Unlisted, AllocationKind.space, int_of_text_of_int, htags] using
          (chooseInt_sound hchoose).2.2.1
      · intro hkind
        cases hkind
      · refine chooseInt_stable hchoose ?_ ?_
        · simpa [htags, htags'] using hwidens.vlanTags
        · simpa [Unlisted, AllocationKind.space, int_of_text_of_int, htags'] using hunlisted

theorem steady_allocateVmid (request : WorkloadRequest) (kind : GuestKind) (hcovers : Covers o o') :
    Steady o o' (allocateGuestVmid request o ownership purpose kind)
      (allocateGuestVmid request o' ownership purpose kind) := by
  have hgrows : Grows (allocateGuestVmid request o ownership purpose kind) :=
    grows_allocateVmid _ _ _
  have hspace : (guestIdKind (kind = .lxc)).space = .guestId := by cases kind <;> rfl
  unfold allocateGuestVmid at hgrows ⊢
  cases hvmids : o.vmidsInUse with
  | none => exact Steady.error _ _
  | some vmids =>
      obtain ⟨vmids', hvmids'⟩ := Option.isSome_iff_exists.mp (hcovers.vmids (by rw [hvmids]; rfl))
      rw [hvmids, allocateVmid_some] at hgrows
      rw [hvmids', allocateVmid_some, allocateVmid_some]
      refine Steady.allocate hgrows (fun _ v _ => ?_) (fun ledger v hchoose => ⟨?_, ?_⟩)
        fun ledger v hchoose hwidens hunlisted => ?_
      · exact orValueError_eq_ok.mpr (int_of_text_of_int v)
      · simpa [Unlisted, hspace, int_of_text_of_int, hvmids] using (chooseVmid_sound hchoose).2.2.1
      · intro hkind
        rw [show guestIdKind (kind = .lxc) = .subnet from hkind] at hspace
        cases hspace
      · refine chooseVmid_stable hchoose ?_ ?_
        · simpa [hvmids, hvmids'] using hwidens.vmids
        · simpa [Unlisted, hspace, int_of_text_of_int, hvmids'] using hunlisted

theorem steady_allocateMac (hcovers : Covers o o') :
    Steady o o' (allocateGuestMac o ownership purpose) (allocateGuestMac o' ownership purpose) := by
  have hgrows : Grows (allocateGuestMac o ownership purpose) := grows_allocateMac _
  unfold allocateGuestMac at hgrows ⊢
  cases hmacs : o.macsInUse with
  | none => exact Steady.error _ _
  | some macs =>
      obtain ⟨macs', hmacs'⟩ := Option.isSome_iff_exists.mp (hcovers.macs (by rw [hmacs]; rfl))
      rw [hmacs, allocateMac_some] at hgrows
      rw [hmacs', allocateMac_some, allocateMac_some]
      refine Steady.allocate hgrows (fun _ _ _ => rfl) (fun ledger v hchoose => ⟨?_, ?_⟩)
        fun ledger v hchoose hwidens hunlisted => ?_
      · simpa [Unlisted, AllocationKind.space, hmacs] using (chooseMac_sound hchoose).2.1
      · intro hkind
        cases hkind
      · refine chooseMac_stable hchoose ?_ ?_
        · simpa [hmacs, hmacs'] using hwidens.macs
        · simpa [Unlisted, AllocationKind.space, hmacs'] using hunlisted

theorem steady_allocateSubnet (request : WebBreachLabRequest)
    (hidentity : o'.identity = o.identity) (hcovers : Covers o o') :
    Steady o o' (allocateSegmentSubnet request o ownership purpose)
      (allocateSegmentSubnet request o' ownership purpose) := by
  have hgrows : Grows (allocateSegmentSubnet request o ownership purpose) :=
    grows_allocateSubnet _ _ _
  unfold allocateSegmentSubnet at hgrows ⊢
  rw [hidentity]
  cases hcidrs : o.subnetsInUse with
  | none => exact Steady.error _ _
  | some cidrs =>
      obtain ⟨cidrs', hcidrs'⟩ :=
        Option.isSome_iff_exists.mp (hcovers.subnets (by rw [hcidrs]; rfl))
      rw [hcidrs, allocateSubnet_some] at hgrows
      rw [hcidrs', allocateSubnet_some, allocateSubnet_some]
      have hread : ∀ ledger n, chooseSubnet ownership.scopeKey purpose request.pools cidrs
          o.identity.managementCidrs ledger = .ok n → Ip.ipNetwork true n.text = some n :=
        fun ledger n hchoose =>
          Ip.ipNetwork_text true (candidateSubnets_v4 (chooseSubnet_sound hchoose).1)
      refine Steady.allocate hgrows (fun ledger n hchoose => ?_) (fun ledger n hchoose => ⟨?_, ?_⟩)
        fun ledger n hchoose hwidens hunlisted => ?_
      · exact orValueError_eq_ok.mpr (hread ledger n hchoose)
      · have hfree := (chooseSubnet_sound hchoose).2.1
        simp only [Unlisted, AllocationKind.space, hread ledger n hchoose, hcidrs,
          Option.getD_some, Option.some.injEq, forall_eq']
        intro cidr hcidr m hm
        obtain ⟨m', hm', hoverlap⟩ := hfree cidr hcidr
        rw [hm] at hm'
        cases hm'
        exact hoverlap
      · intro _ cidr hcidr
        rw [hcidrs, Option.getD_some] at hcidr
        obtain ⟨m, hm, _⟩ := (chooseSubnet_sound hchoose).2.1 cidr hcidr
        exact Option.isSome_iff_exists.mpr ⟨m, hm⟩
      · refine chooseSubnet_stable hchoose ?_ ?_ ?_
        · simpa [hcidrs, hcidrs'] using hwidens.subnets
        · simpa [hcidrs'] using hwidens.subnets_parse
        · have hclear : ∀ m, Ip.ipNetwork true n.text = some m → ∀ cidr ∈ cidrs', ∀ k,
              Ip.ipNetwork false cidr = some k → m.overlaps k = false := by
            simpa [Unlisted, AllocationKind.space, hcidrs'] using hunlisted
          exact hclear n (hread ledger n hchoose)

/-- Addresses are chosen without looking at an observation. -/
theorem steady_allocateAddress {subnet : Ip.Network} (hsubnet : subnet.version = .v4)
    {kind : AllocationKind} (hkind : kind.space = .address) (offset : Option Int) :
    Steady o o' (allocateAddress ownership purpose subnet kind offset)
      (allocateAddress ownership purpose subnet kind offset) := by
  refine Steady.allocate (grows_allocateAddress hsubnet hkind offset) (fun ledger a hchoose => ?_)
    (fun ledger a hchoose => ⟨?_, ?_⟩) fun _ _ hchoose _ _ => hchoose
  · exact orValueError_eq_ok.mpr (Ip.ipAddress_text (chooseAddress_v4 hsubnet hchoose))
  · unfold Unlisted
    rw [hkind]
    trivial
  · intro hsub
    rw [show kind = .subnet from hsub] at hkind
    cases hkind

/-- The names of the network's own objects. -/
theorem steady_sdnName {kind : AllocationKind} (hkind : kind = .zoneName ∨ kind = .vnetName)
    (candidate field reason : Str) (maxLength : Option Int) (hcovers : Covers o o') :
    Steady o o'
      (allocateName ownership purpose kind candidate o.sdnNamesInUse field reason maxLength)
      (allocateName ownership purpose kind candidate o'.sdnNamesInUse field reason maxLength) := by
  have hgrows : Grows (allocateName ownership purpose kind candidate o.sdnNamesInUse field reason
      maxLength) := by
    rcases hkind with rfl | rfl
    · exact grows_allocateName (show AllocationKind.IsName .zoneName from rfl) (by decide) _ _ _ _ _
    · exact grows_allocateName (show AllocationKind.IsName .vnetName from rfl) (by decide) _ _ _ _ _
  have hlisted : ∀ (o : TargetObservation) (name : Str),
      Unlisted o ⟨kind, ownership.scopeKey, purpose, name⟩ ↔
        lower name ∉ (o.sdnNamesInUse.getD []).map lower := by
    intro o name
    rcases hkind with rfl | rfl <;> rfl
  cases hnames : o.sdnNamesInUse with
  | none => exact Steady.error _ _
  | some names =>
      obtain ⟨names', hnames'⟩ :=
        Option.isSome_iff_exists.mp (hcovers.sdnNames (by rw [hnames]; rfl))
      rw [hnames, allocateName_some] at hgrows
      rw [hnames', allocateName_some, allocateName_some]
      refine Steady.allocate hgrows (fun _ _ _ => rfl) (fun ledger v hchoose => ⟨?_, ?_⟩)
        fun ledger v hchoose hwidens hunlisted => ?_
      · rw [id, hlisted, hnames]
        exact (chooseName_sound hchoose).2.1
      · rintro rfl
        rcases hkind with hkind | hkind <;> cases hkind
      · refine chooseName_stable hchoose ?_ ?_
        · simpa [hnames, hnames'] using hwidens.sdnNames
        · rw [id, hlisted, hnames'] at hunlisted
          exact hunlisted

theorem steady_firewallName {p : Str} (hp : p = str "secp-team-" ∨ p = str "secp-sg-") (rest : Str)
    (hcovers : Covers o o') :
    Steady o o' (allocateFirewallName o ownership purpose (p ++ rest))
      (allocateFirewallName o' ownership purpose (p ++ rest)) := by
  have hgrows : Grows (allocateFirewallName o ownership purpose (p ++ rest)) :=
    grows_allocateFirewallName o hp rest
  unfold allocateFirewallName at hgrows ⊢
  cases hnames : o.firewallNamesInUse with
  | none => exact Steady.error _ _
  | some names =>
      obtain ⟨names', hnames'⟩ :=
        Option.isSome_iff_exists.mp (hcovers.firewallNames (by rw [hnames]; rfl))
      rw [hnames, allocateName_some] at hgrows
      rw [hnames', allocateName_some, allocateName_some]
      refine Steady.allocate hgrows (fun _ _ _ => rfl) (fun ledger v hchoose => ⟨?_, ?_⟩)
        fun ledger v hchoose hwidens hunlisted => ?_
      · simpa [Unlisted, AllocationKind.space, hnames] using (chooseName_sound hchoose).2.1
      · intro hkind
        cases hkind
      · refine chooseName_stable hchoose ?_ ?_
        · simpa [hnames, hnames'] using hwidens.firewallNames
        · simpa [Unlisted, AllocationKind.space, hnames'] using hunlisted

end

end

end Secp.Proxmox
