import Mathlib.Data.List.Dedup
import Secp.Proxmox.Manifest
import Secp.Proxmox.Recompile
import Secp.Worker.OwnershipTags
import Secp.Worker.Reachability

/-!
# What a verified range is

A verification is made of loops that skip a guest that is not there and pass over what was not
reported, each with its own count of what it could not read. Only where none of them counted
anything, and none found anything wrong, is the outcome `verified`; then the observation is the
desired range. The storage of a disk is the one thing no count stands for.
-/

namespace Secp.Worker

open Secp.Python Secp.Logic Secp.Proxmox

/-! ## A verified range -/

/-- The disk an observed guest has at a slot; the last one it lists there. -/
def ObservedGuest.diskAt (live : ObservedGuest) (slot : Str) : Option ObservedDisk :=
  (Dict.ofPairs (live.disks.map fun disk => (disk.slot, disk))).get? slot

section
variable [Unicode]

/-- An observed guest is the desired one, its disks apart. -/
structure GuestMatches (guest : GuestSpec) (live : ObservedGuest) : Prop where
  name : live.name = some guest.name
  node : live.nodeName = some guest.nodeName
  macs : ∀ mac, mac ∈ live.macs.map upper ↔ mac ∈ guest.nics.map fun nic => upper nic.macAddress
  power : live.poweredOn = some guest.startOnDeploy
  tags : ∃ tags, live.tags = some tags ∧
    ∀ tag ∈ guest.ownership.asTags, tags.get? tag.1 = some tag.2

omit [Unicode] in
/-- Every desired disk was observed at its slot, on the storage it should be on. -/
def DisksMatch (guest : GuestSpec) (live : ObservedGuest) : Prop :=
  ∀ disk ∈ guest.disks, ∃ actual, live.diskAt disk.slot = some actual ∧
    actual.storageId = some disk.storageId

/-- The observation is the desired range. -/
structure RangeMatches (topology : CompiledTopology) (observed : ObservedInfrastructure) :
    Prop where
  vmids : ∀ vmid, vmid ∈ observed.guests.map ObservedGuest.vmid ↔
    vmid ∈ topology.guests.map GuestSpec.vmid
  guests : ∀ guest ∈ topology.guests, ∃ live ∈ observed.guests, live.vmid = guest.vmid ∧
    GuestMatches guest live ∧ DisksMatch guest live
  zone : topology.network.zone.name ∈ observed.zones
  vnets : ∀ vnet ∈ topology.network.vnets, ∃ live ∈ observed.vnets, live.name = vnet.name ∧
    live.vlanTag = some vnet.vlanTag ∧ live.cidr = some vnet.subnet.cidr
  securityGroups : ∀ group ∈ topology.network.securityGroups, group.name ∈ observed.securityGroups
  ipSets : ∀ ipSet ∈ topology.network.ipSets, ipSet.name ∈ observed.ipSets
  addresses : ∃ inState inProvider, observed.tofuStateAddresses = some inState ∧
    observed.observedAddresses = some inProvider ∧
    ∀ address, address ∈ inState ↔ address ∈ inProvider

omit [Unicode] in
/-- Every disk observed at the slot of a desired one reports its storage. -/
def StorageReported (topology : CompiledTopology) (observed : ObservedInfrastructure) : Prop :=
  ∀ guest ∈ topology.guests, ∀ live ∈ observed.guests, live.vmid = guest.vmid →
    ∀ disk ∈ guest.disks, ∀ actual, live.diskAt disk.slot = some actual → actual.storageId ≠ none

/-! ## Loops that found nothing -/

/-- A loop that counted nothing and found nothing looked at every guest that is there, and found
nothing wrong with it. -/
theorem look_of_sweepGuests {byVmid : Dict Int ObservedGuest}
    {look : Json → ObservedGuest → Except PayloadError (Option (List Str))} {guests : List Json}
    (h : sweepGuests byVmid look guests = .ok (0, [])) {guest : Json} (hguest : guest ∈ guests)
    {number : Json} (hnumber : guest.getItem (str "vmid") = .ok number) {vmid : Int}
    (hvmid : number.toInt = .ok vmid) {live : ObservedGuest}
    (hlive : byVmid.get? vmid = some live) : look guest live = .ok (some []) := by
  induction guests with
  | nil => cases hguest
  | cons first rest ih =>
      unfold sweepGuests at h
      obtain ⟨number', hnumber', h⟩ := except_bind_eq_ok.mp h
      obtain ⟨vmid', hvmid', h⟩ := except_bind_eq_ok.mp h
      have hrest : sweepGuests byVmid look rest = .ok (0, []) ∧
          (∀ live, byVmid.get? vmid' = some live → look first live = .ok (some [])) := by
        split at h
        · rename_i hnone
          refine ⟨h, fun live hlive => ?_⟩
          rw [hnone] at hlive
          cases hlive
        · rename_i found hfound
          obtain ⟨result, hlook, h⟩ := except_bind_eq_ok.mp h
          cases result with
          | none =>
              obtain ⟨⟨unobserved, problems⟩, _, hpure⟩ := except_bind_eq_ok.mp h
              cases hpure
          | some texts =>
              obtain ⟨⟨unobserved, problems⟩, hswept, hpure⟩ := except_bind_eq_ok.mp h
              simp only [pure, Except.pure, Except.ok.injEq, Prod.mk.injEq,
                List.append_eq_nil_iff] at hpure
              obtain ⟨rfl, rfl, rfl⟩ := hpure
              refine ⟨hswept, fun live hlive => ?_⟩
              rw [hfound, Option.some.injEq] at hlive
              rw [← hlive, hlook]
      rcases List.mem_cons.mp hguest with rfl | hguest
      · rw [hnumber', Except.ok.injEq] at hnumber
        rw [hnumber, hvmid, Except.ok.injEq] at hvmid'
        rw [← hvmid'] at hrest
        exact hrest.2 live hlive
      · exact ih hrest.1 hguest

/-- A check over the guests that passed had nothing to count and nothing to report. -/
theorem sweep_of_guestFinding {byVmid : Dict Int ObservedGuest} {desiredGuests : List Json}
    {check : VerificationCheck} {unobservedText allText : Str}
    {look : Json → ObservedGuest → Except PayloadError (Option (List Str))} {finding : CheckFinding}
    (h : guestFinding byVmid desiredGuests check unobservedText allText look = .ok finding)
    (hpassed : finding.countsAsFailure = false) :
    sweepGuests byVmid look desiredGuests = .ok (0, []) := by
  obtain ⟨⟨unobserved, problems⟩, hswept, hpure⟩ := except_bind_eq_ok.mp h
  cases hpure
  simp only [countsAsFailure_findingFrom, Bool.not_eq_false', Bool.and_eq_true, decide_eq_true_eq,
    List.isEmpty_iff] at hpassed
  obtain ⟨rfl, rfl⟩ := hpassed
  exact hswept

omit [Unicode] in
/-- Where nothing was collected, nothing was found anywhere. -/
theorem eq_nil_of_flatten {α : Type} {xs : List α} {f : α → Except PayloadError (List Str)}
    {parts : List (List Str)} (h : xs.mapM f = .ok parts) (hempty : parts.flatten = []) {x : α}
    (hx : x ∈ xs) : f x = .ok [] := by
  obtain ⟨part, hpart, hfound⟩ := forall₂_exists_right (mapM_eq_ok_iff.mp h) hx
  rw [hfound, List.flatten_eq_nil_iff.mp hempty part hpart]

/-! ## What a clean look says -/

section
variable {guest : GuestSpec} {live : ObservedGuest}

theorem eq_of_compareLook {read : ObservedGuest → Option Str} {key expected : Str}
    (hkey : (guestPayload guest).getItem key = .ok (.str expected))
    (h : compareLook read key (guestPayload guest) live = .ok (some [])) :
    read live = some expected := by
  unfold compareLook at h
  split at h
  · cases h
  · rename_i actual hactual
    rw [hkey, except_bind_of_ok rfl] at h
    split at h
    · rename_i hsame
      cases hsame
      exact hactual
    · obtain ⟨text, _, hpure⟩ := except_bind_eq_ok.mp h
      cases hpure

theorem power_of_powerLook (h : powerLook (guestPayload guest) live = .ok (some [])) :
    live.poweredOn = some guest.startOnDeploy := by
  have hget : (guestPayload guest).getOr (str "start_on_deploy") (.bool true) =
      .ok (.bool guest.startOnDeploy) := by
    simp [guestPayload, Json.getOr, Dict.get?]
  unfold powerLook at h
  split at h
  · cases h
  · rename_i actual hactual
    rw [hget, except_bind_of_ok rfl] at h
    split at h
    · rename_i hsame
      rw [hactual, hsame]
      rfl
    · obtain ⟨text, _, hpure⟩ := except_bind_eq_ok.mp h
      cases hpure

theorem tags_of_tagLook (h : tagLook (guestPayload guest) live = .ok (some [])) :
    ∃ tags, live.tags = some tags ∧
      ∀ tag ∈ guest.ownership.asTags, tags.get? tag.1 = some tag.2 := by
  have hownership : (guestPayload guest).getOr (str "ownership") .null =
      .ok (ownershipPayload guest.ownership) := by
    simp [guestPayload, Json.getOr, Dict.get?]
  have htags : (ownershipPayload guest.ownership).getOr (str "tags") .null =
      .ok (.obj (guest.ownership.asTags.map fun tag => (tag.1, .str tag.2))) := by
    simp [ownershipPayload, Json.getOr, Dict.get?]
  have hstamp : (ownershipPayload guest.ownership).truthy = true := rfl
  have htruthy : (Json.obj (guest.ownership.asTags.map fun tag => (tag.1, .str tag.2))).truthy =
      true := by
    simp [Json.truthy, asTags_ne_nil]
  unfold tagLook at h
  split at h
  · cases h
  · rename_i tags hread
    refine ⟨tags, hread, fun tag htag => ?_⟩
    rw [hownership, except_bind_of_ok rfl] at h
    dsimp only at h
    rw [Json.orElse, if_pos hstamp, htags, except_bind_of_ok rfl, Json.orElse, if_pos htruthy,
      Json.pairs, except_bind_of_ok rfl] at h
    obtain ⟨problems, hproblems, hpure⟩ := except_bind_eq_ok.mp h
    simp only [pure, Except.pure, Except.ok.injEq, Option.some.injEq] at hpure
    have hclean := eq_nil_of_flatten hproblems hpure
      (List.mem_map_of_mem (f := fun tag : Str × Str => (tag.1, Json.str tag.2)) htag)
    dsimp only at hclean
    split at hclean
    · rename_i hsame
      cases hget : tags.get? tag.1 with
      | none =>
          rw [hget] at hsame
          cases hsame
      | some value =>
          rw [hget] at hsame
          cases hsame
          rfl
    · obtain ⟨text, _, hpure⟩ := except_bind_eq_ok.mp hclean
      cases hpure

theorem macs_of_macLook (h : macLook (guestPayload guest) live = .ok (some [])) (mac : Str) :
    mac ∈ live.macs.map upper ↔ mac ∈ guest.nics.map fun nic => upper nic.macAddress := by
  have hnics : (guestPayload guest).getOr (str "nics") (.arr []) =
      .ok (.arr ((guest.nics.insertionSort fun a b => a.index ≤ b.index).map nicPayload)) := by
    simp [guestPayload, Json.getOr, Dict.get?]
  have hexpected : ((guest.nics.insertionSort fun a b => a.index ≤ b.index).map nicPayload).mapM
      (fun nic => do pure (upper (← nic.getItem (str "mac_address")).text)) =
        @Except.ok PayloadError _
          ((guest.nics.insertionSort fun a b => a.index ≤ b.index).map fun nic =>
            upper nic.macAddress) := by
    rw [mapM_eq_ok_iff, List.forall₂_map_left_iff, List.forall₂_map_right_iff]
    refine List.forall₂_same.mpr fun nic _ => ?_
    have hmac : (nicPayload nic).getItem (str "mac_address") = .ok (.str nic.macAddress) := by
      simp [nicPayload, Json.getItem, Dict.get?]
    rw [hmac]
    rfl
  unfold macLook at h
  split at h
  · cases h
  · rw [hnics, except_bind_of_ok rfl, Json.elements, except_bind_of_ok rfl, hexpected,
      except_bind_of_ok rfl] at h
    dsimp only at h
    split at h
    · rename_i hsame
      simp only [sameItems, Bool.and_eq_true, List.all_eq_true, decide_eq_true_eq, List.mem_map,
        (List.perm_insertionSort _ guest.nics).mem_iff] at hsame
      simp only [List.mem_map]
      exact ⟨hsame.2 mac, hsame.1 mac⟩
    · obtain ⟨text, _, hpure⟩ := except_bind_eq_ok.mp h
      cases hpure

/-- A disk with nothing wrong is there, and reports no other storage than it should. -/
theorem storage_of_diskProblems {guest : Json} {liveBySlot : Dict Str ObservedDisk}
    {disk : DiskSpec} (h : diskProblems guest liveBySlot (diskPayload disk) = .ok []) :
    ∃ actual, liveBySlot.get? disk.slot = some actual ∧
      (actual.storageId = none ∨ actual.storageId = some disk.storageId) := by
  have hslot : (diskPayload disk).getItem (str "slot") = .ok (.str disk.slot) := by
    simp [diskPayload, Json.getItem, Dict.get?]
  have hstorage : (diskPayload disk).getItem (str "storage_id") = .ok (.str disk.storageId) := by
    simp [diskPayload, Json.getItem, Dict.get?]
  have hhashable : ¬(!(Json.str disk.slot).hashable) = true := by simp [Json.hashable]
  unfold diskProblems at h
  rw [hslot, except_bind_of_ok rfl] at h
  dsimp only at h
  rw [if_neg hhashable] at h
  cases hlive : liveBySlot.get? disk.slot with
  | none =>
      rw [hlive] at h
      obtain ⟨text, _, hpure⟩ := except_bind_eq_ok.mp h
      cases hpure
  | some actual =>
      rw [hlive] at h
      refine ⟨actual, rfl, ?_⟩
      dsimp only at h
      cases hread : actual.storageId with
      | none => exact .inl rfl
      | some storageId =>
          rw [hread] at h
          dsimp only at h
          rw [hstorage, except_bind_of_ok rfl] at h
          by_cases hsame : disk.storageId = storageId
          · exact .inr (congrArg some hsame.symm)
          · -- the other storage is reported, whatever the size is
            rw [if_neg (by simpa using hsame)] at h
            obtain ⟨text, _, h⟩ := except_bind_eq_ok.mp h
            obtain ⟨found, hfound, h⟩ := except_bind_eq_ok.mp h
            cases hfound
            have hne : ∀ size : List Str, pure ([text ++ str " " ++ (Json.str disk.slot).text ++
                str ": storage " ++ strRepr storageId ++ str " != " ++
                (Json.str disk.storageId).reprText] ++ size) ≠ @Except.ok PayloadError _ [] := by
              intro size hpure
              cases hpure
            split at h
            · exact absurd h (hne [])
            · obtain ⟨expected, _, h⟩ := except_bind_eq_ok.mp h
              split at h
              · exact absurd h (hne [])
              · obtain ⟨sizeText, _, h⟩ := except_bind_eq_ok.mp h
                exact absurd h (hne _)

theorem disks_of_diskLook (h : diskLook (guestPayload guest) live = .ok (some [])) {disk : DiskSpec}
    (hdisk : disk ∈ guest.disks) : ∃ actual, live.diskAt disk.slot = some actual ∧
      (actual.storageId = none ∨ actual.storageId = some disk.storageId) := by
  have hdisks : (guestPayload guest).getOr (str "disks") (.arr []) =
      .ok (.arr ((sortedBy DiskSpec.slot guest.disks).map diskPayload)) := by
    simp [guestPayload, Json.getOr, Dict.get?]
  unfold diskLook at h
  split at h
  · cases h
  · rw [hdisks] at h
    dsimp only at h
    rw [except_bind_of_ok rfl, Json.elements, except_bind_of_ok rfl] at h
    obtain ⟨problems, hproblems, hpure⟩ := except_bind_eq_ok.mp h
    simp only [pure, Except.pure, Except.ok.injEq, Option.some.injEq] at hpure
    exact storage_of_diskProblems (eq_nil_of_flatten hproblems hpure
      (List.mem_map_of_mem (mem_sortedBy.mpr hdisk)))

end

/-! ## What the checks say together -/

omit [Unicode] in
/-- Where the sorted rest of a list is empty, the other list has everything. -/
theorem mem_of_sorted_rest {α : Type} [BEq α] [LawfulBEq α] [Ord α] {xs ys : List α}
    (h : sortedBy id (xs.filter (· ∉ ys)) = []) {x : α} (hx : x ∈ xs) : x ∈ ys := by
  by_contra hy
  have hmem : x ∈ sortedBy id (xs.filter (· ∉ ys)) :=
    mem_sortedBy.mpr (List.mem_filter.mpr ⟨hx, decide_eq_true hy⟩)
  rw [h] at hmem
  cases hmem

omit [Unicode] in
theorem vmid_guestPayload (guest : GuestSpec) :
    (guestPayload guest).getItem (str "vmid") = .ok (.int guest.vmid) := by
  simp [guestPayload, Json.getItem, Dict.get?]

theorem vmids_guestPayload (guests : List GuestSpec) :
    (guests.map guestPayload).mapM (fun guest => do (← guest.getItem (str "vmid")).toInt) =
      @Except.ok PayloadError _ (guests.map GuestSpec.vmid) := by
  rw [mapM_eq_ok_iff, List.forall₂_map_left_iff, List.forall₂_map_right_iff]
  refine List.forall₂_same.mpr fun guest _ => ?_
  rw [vmid_guestPayload]
  rfl

/-- The guests of a range whose checks all passed were observed as they should be; where the storage
of a disk was reported, it is the desired one. -/
theorem guests_of_checkGuests {guests : List GuestSpec} {observed : ObservedInfrastructure}
    {findings : List CheckFinding} (hnodup : (observed.guests.map ObservedGuest.vmid).Nodup)
    (h : checkGuests (guests.map guestPayload) observed = .ok findings)
    (hpassed : ∀ f ∈ findings, f.countsAsFailure = false) :
    (∀ vmid, vmid ∈ observed.guests.map ObservedGuest.vmid ↔ vmid ∈ guests.map GuestSpec.vmid) ∧
    ∀ guest ∈ guests, ∃ live ∈ observed.guests, live.vmid = guest.vmid ∧ GuestMatches guest live ∧
      ∀ disk ∈ guest.disks, ∃ actual, live.diskAt disk.slot = some actual ∧
        (actual.storageId = none ∨ actual.storageId = some disk.storageId) := by
  unfold checkGuests at h
  dsimp only at h
  rw [vmids_guestPayload, except_bind_of_ok rfl] at h
  obtain ⟨names, hnames, h⟩ := except_bind_eq_ok.mp h
  obtain ⟨nodes, hnodes, h⟩ := except_bind_eq_ok.mp h
  obtain ⟨disks, hdisks, h⟩ := except_bind_eq_ok.mp h
  obtain ⟨macs, hmacs, h⟩ := except_bind_eq_ok.mp h
  obtain ⟨tags, htags, h⟩ := except_bind_eq_ok.mp h
  obtain ⟨power, hpower, h⟩ := except_bind_eq_ok.mp h
  obtain ⟨ready, hready, h⟩ := except_bind_eq_ok.mp h
  cases h
  have hkeys : (Dict.ofPairs (observed.guests.map fun guest => (guest.vmid, guest))).map Prod.fst =
      observed.guests.map ObservedGuest.vmid := by
    rw [Dict.ofPairs_of_nodup (by rwa [List.map_map]), List.map_map]
    rfl
  have hinventory := hpassed _ List.mem_cons_self
  simp only [countsAsFailure_findingFrom, Bool.true_and, Bool.not_eq_false', Bool.and_eq_true,
    List.isEmpty_iff, hkeys] at hinventory
  have hvmids : ∀ vmid, vmid ∈ observed.guests.map ObservedGuest.vmid ↔
      vmid ∈ guests.map GuestSpec.vmid := by
    obtain ⟨hmissing, hunexpected⟩ := hinventory
    exact fun vmid => ⟨fun hmem => mem_of_sorted_rest hunexpected hmem,
      fun hmem => mem_of_sorted_rest hmissing (List.mem_dedup.mpr hmem)⟩
  refine ⟨hvmids, fun guest hguest => ?_⟩
  obtain ⟨live, hlive, hvmid⟩ :=
    List.mem_map.mp ((hvmids guest.vmid).mpr (List.mem_map_of_mem hguest))
  have hget := (Dict.get?_index hnodup).mpr ⟨hlive, hvmid⟩
  have hlook : ∀ {check unobservedText allText look finding},
      guestFinding (Dict.ofPairs (observed.guests.map fun guest => (guest.vmid, guest)))
          (guests.map guestPayload) check unobservedText allText look = .ok finding →
        finding.countsAsFailure = false → look (guestPayload guest) live = .ok (some []) := by
    intro check unobservedText allText look finding hfinding hpass
    exact look_of_sweepGuests (sweep_of_guestFinding hfinding hpass) (List.mem_map_of_mem hguest)
      (vmid_guestPayload guest) rfl hget
  refine ⟨live, hlive, hvmid, ?_, fun disk hdisk =>
    disks_of_diskLook (hlook hdisks (hpassed _ (by simp))) hdisk⟩
  exact {
    name := eq_of_compareLook (by simp [guestPayload, Json.getItem, Dict.get?])
      (hlook hnames (hpassed _ (by simp)))
    node := eq_of_compareLook (by simp [guestPayload, Json.getItem, Dict.get?])
      (hlook hnodes (hpassed _ (by simp)))
    macs := macs_of_macLook (hlook hmacs (hpassed _ (by simp)))
    power := power_of_powerLook (hlook hpower (hpassed _ (by simp)))
    tags := tags_of_tagLook (hlook htags (hpassed _ (by simp))) }

/-- A loop over the VNets that counted and found nothing found every one of them, as desired. -/
theorem vnets_of_sweepVNets {liveVNets : Dict Str ObservedVNet} {vnets : List VNetSpec}
    (h : sweepVNets liveVNets (vnets.map vnetPayload) = .ok (0, [])) :
    ∀ vnet ∈ vnets, ∃ live, liveVNets.get? vnet.name = some live ∧
      live.vlanTag = some vnet.vlanTag ∧ live.cidr = some vnet.subnet.cidr := by
  induction vnets with
  | nil => simp
  | cons vnet rest ih =>
      have hname : (vnetPayload vnet).getItem (str "name") = .ok (.str vnet.name) := by
        simp [vnetPayload, Json.getItem, Dict.get?]
      have htag : (vnetPayload vnet).getItem (str "vlan_tag") = .ok (.int vnet.vlanTag) := by
        simp [vnetPayload, Json.getItem, Dict.get?]
      have hsubnet : (vnetPayload vnet).getItem (str "subnet") = .ok (.obj [
          (str "cidr", .str vnet.subnet.cidr), (str "gateway", .str vnet.subnet.gateway),
          (str "routed", .bool vnet.subnet.routed)]) := by
        simp [vnetPayload, Json.getItem, Dict.get?]
      rw [List.map_cons, sweepVNets, hname, except_bind_of_ok rfl] at h
      dsimp only [Json.text] at h
      split at h
      · obtain ⟨⟨unobserved, problems⟩, _, hpure⟩ := except_bind_eq_ok.mp h
        cases hpure
      · rename_i live hlive
        split at h
        · rename_i vlanTag cidr hvlanTag hcidr
          have hcidrRead : (Json.obj [(str "cidr", .str vnet.subnet.cidr),
              (str "gateway", .str vnet.subnet.gateway),
              (str "routed", .bool vnet.subnet.routed)]).getItem (str "cidr") =
                .ok (.str vnet.subnet.cidr) := by
            simp [Json.getItem, Dict.get?]
          rw [htag, except_bind_of_ok rfl, hsubnet, except_bind_of_ok rfl, hcidrRead,
            except_bind_of_ok rfl] at h
          dsimp only at h
          obtain ⟨⟨unobserved, problems⟩, hrest, hpure⟩ := except_bind_eq_ok.mp h
          simp only [pure, Except.pure, Except.ok.injEq, Prod.mk.injEq, List.append_eq_nil_iff,
            ite_eq_left_iff, List.cons_ne_nil, imp_false, Decidable.not_not, Json.eqInt,
            decide_eq_true_eq, Json.str.injEq] at hpure
          obtain ⟨rfl, ⟨rfl, rfl⟩, rfl⟩ := hpure
          intro other hother
          rcases List.mem_cons.mp hother with rfl | hother
          · exact ⟨live, hlive, hvlanTag, hcidr⟩
          · exact ih hrest other hother
        · obtain ⟨⟨unobserved, problems⟩, _, hpure⟩ := except_bind_eq_ok.mp h
          cases hpure

omit [Unicode] in
theorem ne_nil_of_isSdnName {name : Str} (h : isSdnName name = true) : name ≠ [] := by
  rintro rfl
  cases h

/-- The network of a range whose check passed was observed as it should be. -/
theorem network_of_checkNetwork {network : SegregatedNetworkPlan}
    {observed : ObservedInfrastructure} {findings : List CheckFinding}
    (h : checkNetwork (networkPayload network)
      ((sortedBy VNetSpec.name network.vnets).map vnetPayload) observed = .ok findings)
    (hpassed : ∀ f ∈ findings, f.countsAsFailure = false) :
    network.zone.name ∈ observed.zones ∧
    ∀ vnet ∈ network.vnets, ∃ live ∈ observed.vnets, live.name = vnet.name ∧
      live.vlanTag = some vnet.vlanTag ∧ live.cidr = some vnet.subnet.cidr := by
  have hzone : (networkPayload network).getOr (str "zone") .null =
      .ok (zonePayload network.zone) := by
    simp [networkPayload, Json.getOr, Dict.get?]
  have hname : (zonePayload network.zone).getOr (str "name") .null =
      .ok (.str network.zone.name) := by
    simp [zonePayload, Json.getOr, Dict.get?]
  have htruthy : (zonePayload network.zone).truthy = true := rfl
  have hnamed : (Json.str network.zone.name).truthy = true := by
    simp [Json.truthy, ne_nil_of_isSdnName network.zone.name_valid]
  unfold checkNetwork at h
  dsimp only at h
  rw [hzone, except_bind_of_ok rfl, Json.orElse, if_pos htruthy, hname, except_bind_of_ok rfl] at h
  obtain ⟨⟨unobserved, problems⟩, hswept, hpure⟩ := except_bind_eq_ok.mp h
  cases hpure
  have hpass := hpassed _ (List.mem_singleton.mpr rfl)
  simp only [countsAsFailure_findingFrom, Bool.not_eq_false', Bool.and_eq_true, decide_eq_true_eq,
    List.isEmpty_iff, List.append_eq_nil_iff] at hpass
  obtain ⟨rfl, hzoneClean, rfl⟩ := hpass
  refine ⟨?_, fun vnet hvnet => ?_⟩
  · by_contra hmem
    have hall : observed.zones.all (fun zone => decide (Json.str network.zone.name ≠ .str zone)) =
        true := by
      refine List.all_eq_true.mpr fun zone hzoneMem => decide_eq_true fun hsame => ?_
      cases hsame
      exact hmem hzoneMem
    rw [hall, hnamed] at hzoneClean
    cases hzoneClean
  · obtain ⟨live, hlive, hsame⟩ := vnets_of_sweepVNets hswept vnet (mem_sortedBy.mpr hvnet)
    obtain ⟨found, hfound, heq⟩ := List.mem_map.mp (Dict.mem_of_get?_ofPairs hlive)
    obtain ⟨hname, rfl⟩ := Prod.mk.inj heq
    exact ⟨found, hfound, hname, hsame⟩

/-- The names under a key whose list is printed item by item. -/
theorem namesUnder_payload {α : Type} {network : Json} {key : Str} {items : List α}
    {payload : α → Json} {name : α → Str}
    (hkey : network.getOr key (.arr []) = .ok (.arr (items.map payload)))
    (hname : ∀ item, (payload item).getItem (str "name") = .ok (.str (name item))) :
    namesUnder network key = .ok (items.map name) := by
  unfold namesUnder
  rw [hkey, except_bind_of_ok rfl, Json.elements, except_bind_of_ok rfl, mapM_eq_ok_iff,
    List.forall₂_map_left_iff, List.forall₂_map_right_iff]
  refine List.forall₂_same.mpr fun item _ => ?_
  rw [hname]
  rfl

theorem firewall_of_checkFirewall {network : SegregatedNetworkPlan}
    {observed : ObservedInfrastructure} {finding : CheckFinding}
    (h : checkFirewall (networkPayload network) observed = .ok finding)
    (hpassed : finding.countsAsFailure = false) :
    (∀ group ∈ network.securityGroups, group.name ∈ observed.securityGroups) ∧
    ∀ ipSet ∈ network.ipSets, ipSet.name ∈ observed.ipSets := by
  have hgroupsKey : (networkPayload network).getOr (str "security_groups") (.arr []) = .ok (.arr
      ((sortedBy SecurityGroupSpec.name network.securityGroups).map securityGroupPayload)) := by
    simp [networkPayload, Json.getOr, Dict.get?]
  have hsetsKey : (networkPayload network).getOr (str "ip_sets") (.arr []) = .ok (.arr
      ((sortedBy IpSetSpec.name network.ipSets).map ipSetPayload)) := by
    simp [networkPayload, Json.getOr, Dict.get?]
  have hgroups : namesUnder (networkPayload network) (str "security_groups") =
      .ok ((sortedBy SecurityGroupSpec.name network.securityGroups).map SecurityGroupSpec.name) :=
    namesUnder_payload hgroupsKey fun group => by
      simp [securityGroupPayload, Json.getItem, Dict.get?]
  have hsets : namesUnder (networkPayload network) (str "ip_sets") =
      .ok ((sortedBy IpSetSpec.name network.ipSets).map IpSetSpec.name) :=
    namesUnder_payload hsetsKey fun ipSet => by simp [ipSetPayload, Json.getItem, Dict.get?]
  unfold checkFirewall at h
  rw [hgroups, except_bind_of_ok rfl, hsets, except_bind_of_ok rfl] at h
  cases h
  simp only [countsAsFailure_findingFrom, Bool.true_and, Bool.not_eq_false', Bool.and_eq_true,
    List.isEmpty_iff] at hpassed
  refine ⟨fun group hgroup => mem_of_sorted_rest hpassed.1 (List.mem_dedup.mpr ?_),
    fun ipSet hipSet => mem_of_sorted_rest hpassed.2 (List.mem_dedup.mpr ?_)⟩
  · exact List.mem_map_of_mem (mem_sortedBy.mpr hgroup)
  · exact List.mem_map_of_mem (mem_sortedBy.mpr hipSet)

theorem addresses_of_checkStateAgreement {observed : ObservedInfrastructure}
    (hpassed : (checkStateAgreement observed).countsAsFailure = false) :
    ∃ inState inProvider, observed.tofuStateAddresses = some inState ∧
      observed.observedAddresses = some inProvider ∧
      ∀ address, address ∈ inState ↔ address ∈ inProvider := by
  unfold checkStateAgreement at hpassed
  split at hpassed
  · rename_i inState inProvider hstate hprovider
    simp only [countsAsFailure_findingFrom, Bool.true_and, Bool.not_eq_false', Bool.and_eq_true,
      List.isEmpty_iff] at hpassed
    refine ⟨inState, inProvider, hstate, hprovider, fun address => ⟨fun hmem => ?_, fun hmem => ?_⟩⟩
    · exact mem_of_sorted_rest hpassed.1 (List.mem_dedup.mpr hmem)
    · exact mem_of_sorted_rest hpassed.2 (List.mem_dedup.mpr hmem)
  · rw [countsAsFailure_findingFrom] at hpassed
    cases hpassed

/-! ## The whole verification -/

omit [Unicode] in
/-- The parts of a desired state that the verification reads. -/
theorem reads_of_toManifestPayload (topology : CompiledTopology)
    (ledger : Option AllocationLedger) :
    (toManifestPayload topology ledger).getOr (str "network") .null =
        .ok (networkPayload topology.network) ∧
      listUnder ((networkPayload topology.network).orElse (.obj [])) (str "vnets") =
        .ok ((sortedBy VNetSpec.name topology.network.vnets).map vnetPayload) ∧
      listUnder (toManifestPayload topology ledger) (str "guests") =
        .ok ((sortedBy GuestSpec.guestRef topology.guests).map guestPayload) := by
  have hlist : ∀ items : List Json, ((Json.arr items).orElse (.arr [])).elements = .ok items := by
    intro items
    cases items <;> rfl
  have hnetwork : (networkPayload topology.network).orElse (.obj []) =
      networkPayload topology.network := rfl
  have hvnets : (networkPayload topology.network).getOr (str "vnets") .null =
      .ok (.arr ((sortedBy VNetSpec.name topology.network.vnets).map vnetPayload)) := by
    simp [networkPayload, Json.getOr, Dict.get?]
  have hguests : (toManifestPayload topology ledger).getOr (str "guests") .null =
      .ok (.arr ((sortedBy GuestSpec.guestRef topology.guests).map guestPayload)) := by
    cases ledger <;> simp [toManifestPayload, Json.getOr, Dict.get?]
  refine ⟨?_, ?_, ?_⟩
  · cases ledger <;> simp [toManifestPayload, Json.getOr, Dict.get?]
  · rw [hnetwork, listUnder, hvnets, except_bind_of_ok rfl, hlist]
  · rw [listUnder, hguests, except_bind_of_ok rfl, hlist]

/-- A verified range is the desired one exactly when the storage of its disks was reported: a disk
at its slot that reports none passes. -/
theorem verified_matches_iff {topology : CompiledTopology} {ledger : Option AllocationLedger}
    {observed : ObservedInfrastructure} {prober : Option SegmentProber}
    {managementCidrs protectedCidrs externalProbeAddresses : List Str} {scoringPort : Int}
    {report : VerificationReport} {log : List Asked}
    (hvmids : (observed.guests.map ObservedGuest.vmid).Nodup)
    (h : (verifyDeployment (toManifestPayload topology ledger) observed prober managementCidrs
      protectedCidrs externalProbeAddresses scoringPort).run [] = .ok (report, log))
    (hverified : report.outcome = .verified) :
    RangeMatches topology observed ↔ StorageReported topology observed := by
  have hreachable : observed.reachable = true := by
    by_contra hunreachable
    unfold verifyDeployment at h
    rw [Bool.not_eq_true] at hunreachable
    rw [hunreachable] at h
    obtain ⟨rfl, _⟩ := run_pure_eq_ok.mp h
    cases hverified
  obtain ⟨hnetwork, hvnets, hguests⟩ := reads_of_toManifestPayload topology ledger
  obtain ⟨network, vnets, guests, guestFindings, networkFindings, firewall, reachability,
    networkRead, vnetsRead, guestsRead, guestsOk, networkOk, firewallOk, _, rfl⟩ :=
    checks_of_verifyDeployment hreachable h
  rw [hnetwork, Except.ok.injEq] at networkRead
  subst networkRead
  rw [hvnets, Except.ok.injEq] at vnetsRead
  rw [hguests, Except.ok.injEq] at guestsRead
  subst vnetsRead guestsRead
  have hpassed := passed_of_decideOutcome_verified hverified
  obtain ⟨hinventory, hmatched⟩ := guests_of_checkGuests hvmids guestsOk fun f hf =>
    hpassed f (by simp [hf])
  obtain ⟨hzone, hsegments⟩ := network_of_checkNetwork networkOk fun f hf =>
    hpassed f (by simp [hf])
  obtain ⟨hgroups, hsets⟩ := firewall_of_checkFirewall firewallOk (hpassed firewall (by simp))
  have haddresses := addresses_of_checkStateAgreement (hpassed (checkStateAgreement observed)
    (by simp))
  constructor
  · intro hmatches guest hguest live hlive hvmid disk hdisk actual hactual
    obtain ⟨other, hother, hsame, _, hdisks⟩ := hmatches.guests guest hguest
    -- the vmid leaves one candidate
    have hone : other = live :=
      List.inj_on_of_nodup_map hvmids hother hlive (hsame.trans hvmid.symm)
    obtain ⟨found, hfound, hstorage⟩ := hdisks disk hdisk
    rw [hone, hactual, Option.some.injEq] at hfound
    rw [hfound, hstorage]
    exact Option.some_ne_none _
  · intro hreported
    refine ⟨fun vmid => ?_, fun guest hguest => ?_, hzone, hsegments, hgroups, hsets, haddresses⟩
    · rw [hinventory vmid]
      exact ((sortedBy_perm _ _).map _).mem_iff
    · obtain ⟨live, hlive, hvmid, hguestMatches, hdisks⟩ :=
        hmatched guest (mem_sortedBy.mpr hguest)
      refine ⟨live, hlive, hvmid, hguestMatches, fun disk hdisk => ?_⟩
      obtain ⟨actual, hactual, hstorage⟩ := hdisks disk hdisk
      exact ⟨actual, hactual, hstorage.resolve_left
        (hreported guest hguest live hlive hvmid disk hdisk actual hactual)⟩

end

/-! ## The sample range -/

/-- The observation of a range that is as desired, but for what its disks report as storage. -/
def observedRange (topology : CompiledTopology) (storage : DiskSpec → Option Str) :
    ObservedInfrastructure where
  reachable := true
  guests := topology.guests.map fun guest =>
    { vmid := guest.vmid
      name := some guest.name
      nodeName := some guest.nodeName
      poweredOn := some guest.startOnDeploy
      ready := some true
      disks := guest.disks.map fun disk => ⟨disk.slot, some disk.sizeGb, storage disk⟩
      macs := guest.nics.map NicSpec.macAddress
      tags := some guest.ownership.asTags }
  zones := [topology.network.zone.name]
  vnets := topology.network.vnets.map fun vnet =>
    { name := vnet.name, vlanTag := some vnet.vlanTag, cidr := some vnet.subnet.cidr }
  securityGroups := topology.network.securityGroups.map SecurityGroupSpec.name
  ipSets := topology.network.ipSets.map IpSetSpec.name
  tofuStateAddresses := some []
  observedAddresses := some []

/-- An observation in which no disk reports its storage. -/
def unreportedRange (topology : CompiledTopology) : ObservedInfrastructure :=
  observedRange topology fun _ => none

/-- What no disk reports does not match. -/
theorem unreportedRange_not_matches [Unicode] {topology : CompiledTopology} {guest : GuestSpec}
    (hguest : guest ∈ topology.guests) {disk : DiskSpec} (hdisk : disk ∈ guest.disks) :
    ¬RangeMatches topology (unreportedRange topology) := by
  intro hmatches
  obtain ⟨live, hlive, _, _, hdisks⟩ := hmatches.guests guest hguest
  obtain ⟨actual, hactual, hstorage⟩ := hdisks disk hdisk
  obtain ⟨observed, _, rfl⟩ := List.mem_map.mp hlive
  obtain ⟨found, hfound, heq⟩ := List.mem_map.mp (Dict.mem_of_get?_ofPairs hactual)
  obtain ⟨source, _, rfl⟩ := List.mem_map.mp hfound
  obtain ⟨_, rfl⟩ := Prod.mk.inj heq
  cases hstorage

/-- The paths the range needs are asked about first, and work; no other does. -/
def closedProber : SegmentProber := fun n _ _ _ => if n < 4 then .reachable else .blocked

/-- Whether a network and the workload on it both end in a plan whose range has a disk, and is
verified though no disk reports its storage. -/
def verifiesUnreported [Unicode]
    (network : Except Raised (CompileOutcome SegregatedNetworkPlan × AllocationLedger))
    (workload : SegregatedNetworkPlan → AllocationLedger →
      Except Raised (CompileOutcome WorkloadPlan × AllocationLedger)) : Bool :=
  match network with
  | .ok (.plan plan, ledger) =>
      match workload plan ledger with
      | .ok (.plan compiled, ledger) =>
          let observed := unreportedRange compiled.topology
          decide (observed.guests.map ObservedGuest.vmid).Nodup &&
            decide (observed.vnets.map ObservedVNet.name).Nodup &&
            compiled.topology.guests.any (fun guest => !guest.disks.isEmpty) &&
            ((verifyDeployment (toManifestPayload compiled.topology (some ledger)) observed
              (some closedProber) [] [] [] 443).run []).toOption.any
                fun verified => decide (verified.1.outcome = .verified)
      | _ => false
  | _ => false

theorem exists_of_verifiesUnreported [Unicode]
    {network : Except Raised (CompileOutcome SegregatedNetworkPlan × AllocationLedger)}
    {workload : SegregatedNetworkPlan → AllocationLedger →
      Except Raised (CompileOutcome WorkloadPlan × AllocationLedger)}
    (h : verifiesUnreported network workload = true) :
    ∃ plan ledger compiled ledger' report log, network = .ok (.plan plan, ledger) ∧
      workload plan ledger = .ok (.plan compiled, ledger') ∧
      ((unreportedRange compiled.topology).guests.map ObservedGuest.vmid).Nodup ∧
      ((unreportedRange compiled.topology).vnets.map ObservedVNet.name).Nodup ∧
      (∃ guest ∈ compiled.topology.guests, guest.disks ≠ []) ∧
      (verifyDeployment (toManifestPayload compiled.topology (some ledger'))
        (unreportedRange compiled.topology) (some closedProber) [] [] [] 443).run [] =
          .ok (report, log) ∧ report.outcome = .verified := by
  unfold verifiesUnreported at h
  split at h
  · rename_i plan ledger
    split at h
    · rename_i compiled ledger' hworkload
      simp only [Bool.and_eq_true, decide_eq_true_eq, and_assoc] at h
      obtain ⟨hvmids, hvnets, hdisks, hrun⟩ := h
      obtain ⟨⟨report, log⟩, hrun, hverified⟩ := exists_of_toOption_any hrun
      obtain ⟨guest, hguest, hdisk⟩ := List.any_eq_true.mp hdisks
      exact ⟨plan, ledger, compiled, ledger', report, log, rfl, hworkload, hvmids, hvnets,
        ⟨guest, hguest, by simpa using hdisk⟩, hrun, of_decide_eq_true hverified⟩
    · cases h
  · cases h

theorem sampleRange_verifiesUnreported : @verifiesUnreported Unicode.ascii
    (@compileWebBreachLab Unicode.ascii (sampleRequest none) equippedObservation
      AllocationLedger.empty)
    (fun network ledger => @compileWorkload Unicode.ascii sampleWorkload network
      equippedObservation ledger) = true := by decide +kernel

/-- The sample range is verified, and matches exactly if its disks report their storage. -/
theorem sample_verified : ∃ topology ledger report log,
    (@verifyDeployment Unicode.ascii (toManifestPayload topology ledger) (unreportedRange topology)
      (some closedProber) [] [] [] 443).run [] = .ok (report, log) ∧ report.outcome = .verified ∧
    (@RangeMatches Unicode.ascii topology (unreportedRange topology) ↔
      StorageReported topology (unreportedRange topology)) := by
  let _ := Unicode.ascii
  obtain ⟨_, _, compiled, ledger, report, log, _, _, hvmids, _, _, hrun, hverified⟩ :=
    exists_of_verifiesUnreported sampleRange_verifiesUnreported
  exact ⟨compiled.topology, some ledger, report, log, hrun, hverified,
    verified_matches_iff hvmids hrun hverified⟩

/-- The sample range is compiled and verified, though nothing was read of the storage of its
disks. -/
theorem sample_verified_unreported : ∃ network ledger plan ledger' report log,
    @compileWebBreachLab Unicode.ascii (sampleRequest none) equippedObservation
      AllocationLedger.empty = .ok (.plan network, ledger) ∧
    @compileWorkload Unicode.ascii sampleWorkload network equippedObservation ledger =
      .ok (.plan plan, ledger') ∧
    ((unreportedRange plan.topology).guests.map ObservedGuest.vmid).Nodup ∧
    ((unreportedRange plan.topology).vnets.map ObservedVNet.name).Nodup ∧
    (@verifyDeployment Unicode.ascii (toManifestPayload plan.topology (some ledger'))
      (unreportedRange plan.topology) (some closedProber) [] [] [] 443).run [] =
        .ok (report, log) ∧ report.outcome = .verified ∧
    ¬@RangeMatches Unicode.ascii plan.topology (unreportedRange plan.topology) := by
  let _ := Unicode.ascii
  obtain ⟨network, ledger, plan, ledger', report, log, hnetwork, hworkload, hvmids, hvnets,
    ⟨guest, hguest, hdisks⟩, hrun, hverified⟩ :=
    exists_of_verifiesUnreported sampleRange_verifiesUnreported
  obtain ⟨disk, hdisk⟩ := List.exists_mem_of_ne_nil _ hdisks
  exact ⟨network, ledger, plan, ledger', report, log, hnetwork, hworkload, hvmids, hvnets, hrun,
    hverified, unreportedRange_not_matches hguest hdisk⟩

end Secp.Worker
