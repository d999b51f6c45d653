import Secp.Worker.Release

/-!
# The bounds of a deletion set

Each owned resource falls into one of four buckets. Which one is decided for one resource at a time, so
what a bucket says of its members is proved for one turn of the loop and carried through it.
-/

namespace Secp.Worker

open Secp.Python Secp.Proxmox

/-- A destroy may run although it is not going to be clean. -/
def DeletionSet.mayProceed (set : DeletionSet) : Bool := set.undetermined.isEmpty

/-- Every resource that was put into a bucket. -/
def DeletionSet.resources (set : DeletionSet) : List OwnedResource :=
  set.deletable ++ (set.guarded.map ProtectedResource.resource ++
    (set.alreadyAbsent ++ set.undetermined))

section
variable [Unicode]

/-! ## Inventories -/

/-- The inventory a class is looked up in, in the spelling it is looked up by. -/
def inventoryOf (observed : ObservedInfrastructure) (supplemental : SupplementalObservation) :
    ResidueClass → Option (List Str)
  | .sdnZone => some observed.zones
  | .vnet => some (observed.vnets.map ObservedVNet.name)
  | .firewallGroup => some observed.securityGroups
  | .ipSet => some observed.ipSets
  | .diskVolume => supplemental.diskVolumeIds
  | .nic => supplemental.nicMacs.map (List.map upper)
  | .bridge => supplemental.bridges
  | .subnet => supplemental.subnetCidrs
  | .vlanAssignment => supplemental.vlanTagsInUse.map (List.map intStr)
  | .firewallRule => supplemental.firewallRuleIds
  | .firewallAlias => supplemental.firewallAliases
  | .cloudInitSnippet => supplemental.cloudInitSnippetIds
  | .bootstrapObject => supplemental.bootstrapObjectIds
  | _ => none

/-- MAC addresses are compared in capitals. -/
def lookupName (r : OwnedResource) : Str :=
  if r.residueClass = .nic then upper r.identifier else r.identifier

/-- Every class is looked up in its inventory. -/
theorem observeSimple_eq (r : OwnedResource) (observed : ObservedInfrastructure)
    (supplemental : SupplementalObservation) :
    observeSimple r observed supplemental =
      inInventory (lookupName r) (inventoryOf observed supplemental r.residueClass) := by
  have hvnets : (observed.vnets.any fun vnet => decide (vnet.name = r.identifier)) =
      decide (r.identifier ∈ observed.vnets.map ObservedVNet.name) := by
    rw [Bool.eq_iff_iff]
    simp
  unfold observeSimple lookupName
  cases hclass : r.residueClass with
  | vnet =>
      show (observed.vnets.any _, true) = _
      rw [hvnets]
      rfl
  | _ => rfl

/-! ## What a bucket says -/

variable {observed : ObservedInfrastructure} {supplemental : SupplementalObservation}
  {r : OwnedResource} {set : DeletionSet} {owned : List OwnedResource}

/-- A guest was observed at the vmid of the resource, and its tags are the range's own. -/
def StandsOwned (observed : ObservedInfrastructure) (r : OwnedResource) : Prop :=
  ∃ guest ∈ observed.guests, guest.vmid = asInt r.identifier ∧
    ∃ expected, r.expectedOwnership = some expected ∧
      isOwnedBySecp guest.tags expected = .secpOwned

/-- The inventory of the resource was collected, and has it or not. -/
def Inventoried (observed : ObservedInfrastructure) (supplemental : SupplementalObservation)
    (r : OwnedResource) (listed : Prop) : Prop :=
  ∃ inventory, inventoryOf observed supplemental r.residueClass = some inventory ∧
    (lookupName r ∈ inventory ↔ listed)

/-- Why a resource may be deleted. -/
structure MayDelete (observed : ObservedInfrastructure) (supplemental : SupplementalObservation)
    (r : OwnedResource) : Prop where
  guest : r.residueClass.isGuest = true → StandsOwned observed r
  inventoried : r.domain = .provider → r.residueClass.isGuest = false →
    Inventoried observed supplemental r True

/-- Why a resource is gone already. -/
structure IsAbsent (observed : ObservedInfrastructure) (supplemental : SupplementalObservation)
    (r : OwnedResource) : Prop where
  provider : r.domain = .provider
  guest : r.residueClass.isGuest = true →
    ∀ guest ∈ observed.guests, guest.vmid ≠ asInt r.identifier
  inventoried : r.residueClass.isGuest = false → Inventoried observed supplemental r False

/-- What keeps a destroy from running: a guest whose tags were not read, or an inventory that was not
collected. -/
def Unread (observed : ObservedInfrastructure) (supplemental : SupplementalObservation)
    (r : OwnedResource) : Prop :=
  r.residueClass.isGuest = true ∧
      (∃ guest ∈ observed.guests, guest.vmid = asInt r.identifier ∧ guest.tags = none) ∨
    r.domain = .provider ∧ r.residueClass.isGuest = false ∧
      inventoryOf observed supplemental r.residueClass = none

/-- The four buckets over the resources that were put into them. -/
structure Bounded (observed : ObservedInfrastructure) (supplemental : SupplementalObservation)
    (owned : List OwnedResource) (set : DeletionSet) : Prop where
  partition : set.resources.Perm owned
  deletable : ∀ r ∈ set.deletable, MayDelete observed supplemental r
  alreadyAbsent : ∀ r ∈ set.alreadyAbsent, IsAbsent observed supplemental r
  unread : (observed.guests.map ObservedGuest.vmid).Nodup →
    ∀ r ∈ owned, Unread observed supplemental r → r ∈ set.undetermined

/-! ## One resource -/

omit [Unicode] in
theorem liveGuest_eq_some_iff (hdistinct : (observed.guests.map ObservedGuest.vmid).Nodup) {n : Int}
    {guest : ObservedGuest} :
    liveGuest observed n = some guest ↔ guest ∈ observed.guests ∧ guest.vmid = n :=
  Dict.get?_index hdistinct

omit [Unicode] in
theorem mem_of_liveGuest {n : Int} {guest : ObservedGuest} (h : liveGuest observed n = some guest) :
    guest ∈ observed.guests ∧ guest.vmid = n := by
  obtain ⟨live, hlive, hpair⟩ := List.mem_map.mp (Dict.mem_of_get?_ofPairs h)
  cases hpair
  exact ⟨hlive, rfl⟩

omit [Unicode] in
theorem liveGuest_eq_none {n : Int} (h : liveGuest observed n = none) :
    ∀ guest ∈ observed.guests, guest.vmid ≠ n := by
  intro guest hguest hvmid
  rw [liveGuest, Dict.get?_ofPairs, Option.map_eq_none_iff, List.find?_eq_none] at h
  exact h (guest.vmid, guest) (List.mem_reverse.mpr (List.mem_map_of_mem hguest)) (by simpa using hvmid)

/-- What one turn of the loop does, and why. -/
theorem boundResource_cases :
    (boundResource observed supplemental set r = { set with deletable := set.deletable ++ [r] } ∧
        MayDelete observed supplemental r) ∨
      (∃ provenance detail, boundResource observed supplemental set r =
          { set with guarded := set.guarded ++ [⟨r, provenance, detail⟩] } ∧
        r.residueClass.isGuest = true ∧
        ∃ guest, liveGuest observed (asInt r.identifier) = some guest ∧ guest.tags ≠ none) ∨
      (boundResource observed supplemental set r =
          { set with alreadyAbsent := set.alreadyAbsent ++ [r] } ∧
        IsAbsent observed supplemental r) ∨
      boundResource observed supplemental set r =
          { set with undetermined := set.undetermined ++ [r] } := by
  unfold boundResource
  by_cases hdomain : r.domain = .provider
  · rw [if_neg (not_not.mpr hdomain)]
    cases hguest : r.residueClass.isGuest with
    | true =>
        rw [if_pos rfl, boundGuest]
        cases hlive : liveGuest observed (asInt r.identifier) with
        | none =>
            refine .inr (.inr (.inl ⟨rfl, hdomain, fun _ => liveGuest_eq_none hlive, fun h => ?_⟩))
            rw [hguest] at h
            cases h
        | some live =>
            cases hexpected : r.expectedOwnership with
            | none => exact .inr (.inr (.inr rfl))
            | some expected =>
                cases htags : live.tags with
                | none => exact .inr (.inr (.inr (by simp only [htags])))
                | some tags =>
                    simp only [htags]
                    obtain ⟨hmem, hvmid⟩ := mem_of_liveGuest hlive
                    by_cases howned : isOwnedBySecp (some tags) expected = .secpOwned
                    · rw [if_pos howned]
                      refine .inl ⟨rfl, fun _ => ⟨live, hmem, hvmid, expected, hexpected, ?_⟩, ?_⟩
                      · rw [htags]
                        exact howned
                      · intro _ h
                        rw [hguest] at h
                        cases h
                    · rw [if_neg howned]
                      refine .inr (.inl ⟨_, _, rfl, trivial, live, rfl, ?_⟩)
                      simp [htags]
    | false =>
        rw [if_neg (by simp), observeSimple_eq]
        cases hinventory : inventoryOf observed supplemental r.residueClass with
        | none => exact .inr (.inr (.inr rfl))
        | some inventory =>
            by_cases hlisted : lookupName r ∈ inventory
            · refine .inl ⟨by simp only [inInventory, hlisted, decide_true], fun h => ?_, fun _ _ =>
                ⟨inventory, hinventory, iff_of_true hlisted trivial⟩⟩
              rw [hguest] at h
              cases h
            · refine .inr (.inr (.inl ⟨by simp only [inInventory, hlisted, decide_false], hdomain,
                fun h => ?_, fun _ => ⟨inventory, hinventory, iff_of_false hlisted id⟩⟩))
              rw [hguest] at h
              cases h
  · rw [if_pos hdomain]
    refine .inl ⟨rfl, fun hguest => absurd ?_ hdomain, fun h => absurd h hdomain⟩
    unfold OwnedResource.domain
    cases hclass : r.residueClass <;> simp [hclass, ResidueClass.isGuest, ResidueClass.domain] at hguest ⊢

omit [Unicode] in
/-- Two guests at one vmid are one guest. -/
theorem guest_eq_of_vmid (hdistinct : (observed.guests.map ObservedGuest.vmid).Nodup)
    {guest other : ObservedGuest} (hguest : guest ∈ observed.guests) (hother : other ∈ observed.guests)
    (hvmid : guest.vmid = other.vmid) : guest = other :=
  List.inj_on_of_nodup_map hdistinct hguest hother hvmid

theorem MayDelete.not_unread (hdistinct : (observed.guests.map ObservedGuest.vmid).Nodup)
    (h : MayDelete observed supplemental r) : ¬Unread observed supplemental r := by
  rintro (⟨hguest, other, hother, hat, htags⟩ | ⟨hdomain, hguest, hnone⟩)
  · obtain ⟨guest, hmem, hvmid, expected, -, howned⟩ := h.guest hguest
    obtain rfl := guest_eq_of_vmid hdistinct hmem hother (hvmid.trans hat.symm)
    rw [htags] at howned
    cases howned
  · obtain ⟨inventory, hsome, -⟩ := h.inventoried hdomain hguest
    rw [hnone] at hsome
    cases hsome

theorem IsAbsent.not_unread (h : IsAbsent observed supplemental r) :
    ¬Unread observed supplemental r := by
  rintro (⟨hguest, other, hother, hat, -⟩ | ⟨-, hguest, hnone⟩)
  · exact h.guest hguest other hother hat
  · obtain ⟨inventory, hsome, -⟩ := h.inventoried hguest
    rw [hnone] at hsome
    cases hsome

omit [Unicode] in
/-- Whatever bucket the resource is put into, the buckets have it once more than before. -/
theorem resources_put (set : DeletionSet) (r : OwnedResource) (provenance : ObjectProvenance)
    (detail : Str) :
    ({ set with deletable := set.deletable ++ [r] } : DeletionSet).resources.Perm
        (set.resources ++ [r]) ∧
      ({ set with guarded := set.guarded ++ [⟨r, provenance, detail⟩] } : DeletionSet).resources.Perm
        (set.resources ++ [r]) ∧
      ({ set with alreadyAbsent := set.alreadyAbsent ++ [r] } : DeletionSet).resources.Perm
        (set.resources ++ [r]) ∧
      ({ set with undetermined := set.undetermined ++ [r] } : DeletionSet).resources.Perm
        (set.resources ++ [r]) := by
  unfold DeletionSet.resources
  refine ⟨?_, ?_, ?_, ?_⟩ <;> refine List.perm_iff_count.mpr fun s => ?_ <;>
    simp only [List.count_append, List.map_append, List.map_cons, List.map_nil] <;> omega

/-- A turn of the loop keeps the bounds. -/
theorem Bounded.step (h : Bounded observed supplemental owned set) :
    Bounded observed supplemental (owned ++ [r]) (boundResource observed supplemental set r) := by
  have hadded : ∀ {P : OwnedResource → Prop} {xs : List OwnedResource}, (∀ s ∈ xs, P s) → P r →
      ∀ s ∈ xs ++ [r], P s := by
    intro P xs hall hr s hs
    rcases List.mem_append.mp hs with hs | hs
    · exact hall s hs
    · obtain rfl := List.mem_singleton.mp hs
      exact hr
  rcases @boundResource_cases _ observed supplemental r set with
    ⟨hset, hwhy⟩ | ⟨provenance, detail, hset, hguest, guest, hlive, htags⟩ | ⟨hset, hwhy⟩ | hset <;>
    rw [hset]
  · refine ⟨(resources_put set r .untagged []).1.trans (h.partition.append_right [r]),
      hadded h.deletable hwhy, h.alreadyAbsent, fun hdistinct => hadded (h.unread hdistinct) ?_⟩
    exact fun hunread => absurd hunread (hwhy.not_unread hdistinct)
  · refine ⟨(resources_put set r provenance detail).2.1.trans (h.partition.append_right [r]),
      h.deletable, h.alreadyAbsent, fun hdistinct => hadded (h.unread hdistinct) ?_⟩
    -- the tags that were read are those of the guest without any
    rintro (⟨-, other, hother, hat, hnone⟩ | ⟨-, hother, -⟩)
    · rw [← hat, (liveGuest_eq_some_iff hdistinct).mpr ⟨hother, rfl⟩] at hlive
      obtain rfl := Option.some.inj hlive
      exact absurd hnone htags
    · rw [hguest] at hother
      cases hother
  · refine ⟨(resources_put set r .untagged []).2.2.1.trans (h.partition.append_right [r]),
      h.deletable, hadded h.alreadyAbsent hwhy, fun hdistinct => hadded (h.unread hdistinct) ?_⟩
    exact fun hunread => absurd hunread hwhy.not_unread
  · refine ⟨(resources_put set r .untagged []).2.2.2.trans (h.partition.append_right [r]),
      h.deletable, h.alreadyAbsent, fun hdistinct => hadded (fun s hs hunread => ?_) fun _ => ?_⟩
    · exact List.mem_append_left _ (h.unread hdistinct s hs hunread)
    · exact List.mem_append_right _ List.mem_cons_self

/-! ## The loop -/

theorem bounded_nil : Bounded observed supplemental [] {} :=
  ⟨.refl _, (fun r hr => by cases hr), (fun r hr => by cases hr), (fun _ r hr => by cases hr)⟩

theorem Bounded.run (h : Bounded observed supplemental owned set) (rest : List OwnedResource) :
    Bounded observed supplemental (owned ++ rest)
      (rest.foldl (boundResource observed supplemental) set) := by
  induction rest generalizing owned set with
  | nil =>
      rw [List.append_nil]
      exact h
  | cons r rest ih =>
      have hnext := ih (h.step (r := r))
      rwa [List.append_assoc] at hnext

/-- The deletion set puts every owned resource into one bucket and keeps to its bounds. -/
theorem bounded_boundDeletionSet (owned : List OwnedResource) (observed : ObservedInfrastructure)
    (supplemental : SupplementalObservation) :
    Bounded observed supplemental owned (boundDeletionSet owned observed supplemental) := by
  have hperm := sortedBy_perm sortKey owned
  have hmem : ∀ r ∈ owned, r ∈ sortedBy sortKey owned := fun r hr => hperm.mem_iff.mpr hr
  unfold boundDeletionSet
  by_cases hreachable : observed.reachable = true
  · rw [if_pos hreachable]
    have hrun := (@bounded_nil _ observed supplemental).run (sortedBy sortKey owned)
    rw [List.nil_append] at hrun
    exact ⟨hrun.partition.trans hperm, hrun.deletable, hrun.alreadyAbsent,
      fun hdistinct r hr => hrun.unread hdistinct r (hmem r hr)⟩
  · rw [if_neg hreachable]
    exact ⟨hperm, (fun r hr => by cases hr), (fun r hr => by cases hr), fun _ r hr _ => hmem r hr⟩

/-- The four buckets are a partition of the owned resources. Nothing but `undetermined` is filled when the
provider was unreachable; what is deletable was found owned or found in its inventory; what is absent was
looked for and not found; and a destroy does not proceed past a guest whose tags were not read, or past
an inventory that was not collected. -/
theorem boundDeletionSet_bounds (hdistinct : (observed.guests.map ObservedGuest.vmid).Nodup) :
    let set := boundDeletionSet owned observed supplemental
    set.resources.Perm owned ∧
    (observed.reachable = false →
      set.deletable = [] ∧ set.guarded = [] ∧ set.alreadyAbsent = []) ∧
    (∀ r ∈ set.deletable, MayDelete observed supplemental r) ∧
    (∀ r ∈ set.alreadyAbsent, IsAbsent observed supplemental r) ∧
    ((∃ r ∈ owned, Unread observed supplemental r) → set.mayProceed = false) := by
  intro set
  have hbounded := bounded_boundDeletionSet owned observed supplemental
  refine ⟨hbounded.partition, fun hunreachable => ?_, hbounded.deletable, hbounded.alreadyAbsent, ?_⟩
  · have hset : set = { undetermined := sortedBy sortKey owned } := if_neg (by simp [hunreachable])
    rw [hset]
    exact ⟨rfl, rfl, rfl⟩
  · rintro ⟨r, hr, hunread⟩
    have hundetermined := hbounded.unread hdistinct r hr hunread
    show set.undetermined.isEmpty = false
    rw [List.isEmpty_eq_false_iff]
    exact List.ne_nil_of_mem hundetermined

end

/-- The guest that still stands was observed without its tags: its destroy does not proceed. -/
theorem guestAndDisk_bounds :
    (guestRemains.observed.guests.map ObservedGuest.vmid).Nodup ∧
    (@boundDeletionSet Unicode.ascii guestAndDisk guestRemains.observed
      guestRemains.supplemental).mayProceed = false := by
  let _ := Unicode.ascii
  have hdistinct : (guestRemains.observed.guests.map ObservedGuest.vmid).Nodup :=
    List.nodup_singleton _
  obtain ⟨-, -, -, -, hproceed⟩ := @boundDeletionSet_bounds _ guestRemains.observed
    guestRemains.supplemental guestAndDisk hdistinct
  have hvmid : asInt standingGuest.identifier = 9001 := by
    with_unfolding_all decide
  exact ⟨hdistinct, hproceed ⟨standingGuest, List.mem_cons_self,
    .inl ⟨rfl, _, List.mem_cons_self, hvmid.symm, rfl⟩⟩⟩

end Secp.Worker
