import Secp.Proxmox.Tamper
import Secp.Python.Payload
import Secp.Python.Separated

/-!
# The fingerprint of an allocation ledger

The apply gate compares two ledgers by a map from a flat key to a value. The flat key joins the kind,
scope and purpose of a record with bars, so it stands for one record as long as no two keys of the
ledgers read the same once they are joined.
-/

namespace Secp.Worker

open Secp.Python Secp.Logic Secp.Proxmox

/-! ## The reduction -/

def fingerprintParts : List Str :=
  [str "kind", str "organization_id", str "target_id", str "range_id", str "team_ref",
    str "generation", str "purpose"]

section
variable [Unicode]

/-- `allocations_fingerprint`. -/
def allocationsFingerprint (ledgerPayload : Json) : Except PayloadError (Dict Str Str) := do
  let listed ← ledgerPayload.getOr (str "allocations") (.arr [])
  let records ← listed.elements
  records.foldlM (fun fingerprint record => do
    let parts ← fingerprintParts.mapM fun part => record.getOr part (.str [])
    let value ← record.getOr (str "value") (.str [])
    pure (Dict.set fingerprint (join ['|'] (parts.map Json.text)) value.text)) []

end

/-- The flat key of an allocation key. -/
def flatKey (key : AllocationKey) : Str :=
  let (organizationId, targetId, rangeId, teamRef, generation) := key.1
  join ['|'] [key.2.1.value, organizationId, targetId, rangeId, teamRef, intStr generation, key.2.2]

/-! ## Ledgers the allocators produce -/

section
variable [Unicode] {ledger ledger' : AllocationLedger}

/-- A call of an allocator that returned. -/
inductive AllocatorStep (ledger ledger' : AllocationLedger) : Prop where
  | int (ownership : Ownership) (kind : AllocationKind) (purpose : Str) (low high : Int)
      (observed : Option (List Int)) (field reason : Str) (v : Int)
      (h : ledger.allocateInt ownership kind purpose low high observed field reason = .ok (v, ledger'))
  | vmid (ownership : Ownership) (purpose : Str) (pools : IpamPools) (observed : Option (List Int))
      (lxc : Bool) (v : Int)
      (h : ledger.allocateVmid ownership purpose pools observed lxc = .ok (v, ledger'))
  | subnet (ownership : Ownership) (purpose : Str) (pools : IpamPools)
      (observed : Option (List Str)) (management : List Str) (n : Ip.Network)
      (h : ledger.allocateSubnet ownership purpose pools observed management = .ok (n, ledger'))
  | address (ownership : Ownership) (purpose : Str) (subnet : Ip.Network) (kind : AllocationKind)
      (offset : Option Int) (a : Ip.Address)
      (h : ledger.allocateAddress ownership purpose subnet kind offset = .ok (a, ledger'))
  | mac (ownership : Ownership) (purpose : Str) (observed : Option (List Str)) (mac : Str)
      (h : ledger.allocateMac ownership purpose observed = .ok (mac, ledger'))
  | name (ownership : Ownership) (purpose : Str) (kind : AllocationKind) (candidate : Str)
      (observed : Option (List Str)) (field reason : Str) (maxLength : Option Int) (name : Str)
      (h : ledger.allocateName ownership purpose kind candidate observed field reason maxLength =
        .ok (name, ledger'))
  | stateKey (ownership : Ownership) (purpose key : Str)
      (h : ledger.allocateRemoteStateKey ownership purpose = .ok (key, ledger'))

/-- The ledgers that calls of the allocators make of an empty one. -/
def Allocated : AllocationLedger → Prop :=
  Relation.ReflTransGen AllocatorStep AllocationLedger.empty

/-- A scope some ownership allocates within. -/
def AdmittedScope (scope : Scope) : Prop := ∃ ownership : Ownership, ownership.scopeKey = scope

/-- What a call adds: nothing, or one record of an admitted scope. -/
def AddsAdmitted (ledger ledger' : AllocationLedger) : Prop :=
  ∀ a ∈ ledger'.records, a ∈ ledger.records ∨ AdmittedScope a.scope

theorem addsAdmitted_of_allocate {α : Type} {ownership : Ownership} {kind : AllocationKind}
    {purpose : Str} {read : Str → Except Raised α} {choose : AllocationLedger → Except Raised α}
    {text : α → Str} {value : α}
    (h : AllocationLedger.allocate ownership.scopeKey kind purpose read choose text ledger =
      .ok (value, ledger')) : AddsAdmitted ledger ledger' := by
  intro a ha
  rcases AllocationLedger.allocate_eq_ok_iff.mp h with ⟨_, _, _, rfl⟩ | ⟨_, _, _, rfl⟩
  · exact .inl ha
  · rcases List.mem_append.mp ha with ha | ha
    · exact .inl ha
    · rw [List.mem_singleton.mp ha]
      exact .inr ⟨ownership, rfl⟩

theorem AllocatorStep.addsAdmitted (h : AllocatorStep ledger ledger') :
    AddsAdmitted ledger ledger' := by
  cases h with
  | int ownership kind purpose low high observed field reason v h =>
      cases observed with
      | none => cases h
      | some observed =>
          rw [AllocationLedger.allocateInt_some] at h
          exact addsAdmitted_of_allocate h
  | vmid ownership purpose pools observed lxc v h =>
      cases observed with
      | none => cases h
      | some observed =>
          rw [AllocationLedger.allocateVmid_some] at h
          exact addsAdmitted_of_allocate h
  | subnet ownership purpose pools observed management n h =>
      cases observed with
      | none => cases h
      | some observed =>
          rw [AllocationLedger.allocateSubnet_some] at h
          exact addsAdmitted_of_allocate h
  | address ownership purpose subnet kind offset a h => exact addsAdmitted_of_allocate h
  | mac ownership purpose observed mac h =>
      cases observed with
      | none => cases h
      | some observed =>
          rw [AllocationLedger.allocateMac_some] at h
          exact addsAdmitted_of_allocate h
  | name ownership purpose kind candidate observed field reason maxLength name h =>
      cases observed with
      | none => cases h
      | some observed =>
          rw [AllocationLedger.allocateName_some] at h
          exact addsAdmitted_of_allocate h
  | stateKey ownership purpose key h => exact addsAdmitted_of_allocate h

/-- Every record of a run is of an admitted scope. -/
theorem Allocated.admitted (h : Allocated ledger) :
    ∀ a ∈ ledger.records, AdmittedScope a.scope := by
  induction h with
  | refl => exact fun a ha => absurd ha List.not_mem_nil
  | tail _ hstep ih =>
      intro a ha
      rcases hstep.addsAdmitted a ha with hold | hadmitted
      · exact ih a hold
      · exact hadmitted

/-! ## The fingerprint of a ledger -/

/-- What a ledger is reduced to, before later records overwrite earlier ones. -/
def flatPairs (ledger : AllocationLedger) : List (Str × Str) :=
  ledger.all.map fun a => (flatKey a.key, a.value)

theorem fingerprint_step (fingerprint : Dict Str Str) (a : Allocation) :
    (do
      let parts ← fingerprintParts.mapM fun part => a.asDict.getOr part (.str [])
      let value ← a.asDict.getOr (str "value") (.str [])
      pure (Dict.set fingerprint (join ['|'] (parts.map Json.text)) value.text) :
        Except PayloadError (Dict Str Str)) =
      .ok (Dict.set fingerprint (flatKey a.key) a.value) := by
  simp [fingerprintParts, Allocation.asDict, Json.getOr, Dict.get?, Json.text, Json.reprText, flatKey,
    Allocation.key, bind, Except.bind, pure, Except.pure]

theorem allocationsFingerprint_toManifest (ledger : AllocationLedger) :
    allocationsFingerprint ledger.toManifest = .ok (Dict.ofPairs (flatPairs ledger)) := by
  have hfold : ∀ (records : List Allocation) (fingerprint : Dict Str Str),
      (records.map Allocation.asDict).foldlM (fun fingerprint record => do
        let parts ← fingerprintParts.mapM fun part => record.getOr part (.str [])
        let value ← record.getOr (str "value") (.str [])
        pure (Dict.set fingerprint (join ['|'] (parts.map Json.text)) value.text)) fingerprint =
      (.ok ((records.map fun a => (flatKey a.key, a.value)).foldl
        (fun d pair => Dict.set d pair.1 pair.2) fingerprint) : Except PayloadError (Dict Str Str)) := by
    intro records
    induction records with
    | nil => exact fun fingerprint => rfl
    | cons a rest ih =>
        intro fingerprint
        rw [List.map_cons, List.foldlM_cons, fingerprint_step]
        exact ih _
  have hlisted : ledger.toManifest.getOr (str "allocations") (.arr []) =
      .ok (.arr (ledger.all.map Allocation.asDict)) := by
    simp [AllocationLedger.toManifest, Json.getOr, Dict.get?]
  unfold allocationsFingerprint
  rw [except_bind_of_ok hlisted]
  exact hfold ledger.all []

/-- Two ledgers have fingerprints, and these are one dictionary. -/
def SameFingerprint (ledger ledger' : AllocationLedger) : Prop :=
  ∃ fingerprint fingerprint', allocationsFingerprint ledger.toManifest = .ok fingerprint ∧
    allocationsFingerprint ledger'.toManifest = .ok fingerprint' ∧
    ∀ key, fingerprint.get? key = fingerprint'.get? key

omit [Unicode] in
/-- Two ledgers hold the same records. -/
def SameRecords (ledger ledger' : AllocationLedger) : Prop :=
  ∀ a, a ∈ ledger.records ↔ a ∈ ledger'.records

theorem sameFingerprint_iff : SameFingerprint ledger ledger' ↔
    ∀ key, (Dict.ofPairs (flatPairs ledger)).get? key = (Dict.ofPairs (flatPairs ledger')).get? key := by
  unfold SameFingerprint
  rw [allocationsFingerprint_toManifest, allocationsFingerprint_toManifest]
  simp

/-- One set of records has one fingerprint: they are reduced in a stable order. -/
theorem SameRecords.sameFingerprint (h : SameRecords ledger ledger') :
    SameFingerprint ledger ledger' := by
  have hperm : ledger.records.Perm ledger'.records :=
    (List.perm_ext_iff_of_nodup ledger.keys_nodup.of_map ledger'.keys_nodup.of_map).mpr h
  rw [sameFingerprint_iff]
  unfold flatPairs
  rw [AllocationLedger.all_eq_of_perm hperm]
  exact fun key => rfl

/-! ## When the flat keys tell records apart -/

omit [Unicode] in
/-- Of ledgers with keys in a set, no two keys read the same once they are joined. -/
def ReadApart (keys : AllocationKey → Prop) : Prop :=
  ∀ k k', keys k → keys k' → AdmittedScope k.1 → AdmittedScope k'.1 → flatKey k = flatKey k' → k = k'

omit [Unicode] in
/-- The keys of a ledger lie in a set. -/
def KeysIn (keys : AllocationKey → Prop) (ledger : AllocationLedger) : Prop :=
  ∀ a ∈ ledger.records, keys a.key

omit [Unicode] in
/-- Where a ledger's keys read apart, a lookup finds the record of the key. -/
theorem get?_flatPairs (hapart : ∀ a ∈ ledger.records, ∀ b ∈ ledger.records,
    flatKey a.key = flatKey b.key → a.key = b.key) {key value : Str} :
    (Dict.ofPairs (flatPairs ledger)).get? key = some value ↔
      ∃ a ∈ ledger.records, flatKey a.key = key ∧ a.value = value := by
  have hall : ∀ {a : Allocation}, a ∈ ledger.all ↔ a ∈ ledger.records := fun {a} => mem_sortedBy
  have hnodup : ((flatPairs ledger).map Prod.fst).Nodup := by
    have hrecords : ledger.all.Nodup :=
      (sortedBy_perm _ ledger.records).nodup_iff.mpr ledger.keys_nodup.of_map
    unfold flatPairs
    rw [List.map_map]
    refine hrecords.map_on fun a ha b hb hflat => ?_
    exact List.inj_on_of_nodup_map ledger.keys_nodup (hall.mp ha) (hall.mp hb)
      (hapart a (hall.mp ha) b (hall.mp hb) hflat)
  rw [Dict.ofPairs_of_nodup hnodup]
  constructor
  · intro h
    obtain ⟨a, ha, heq⟩ := List.mem_map.mp (Dict.mem_of_get? h)
    obtain ⟨hkey, hvalue⟩ := Prod.mk.inj heq
    exact ⟨a, hall.mp ha, hkey, hvalue⟩
  · rintro ⟨a, ha, rfl, rfl⟩
    exact Dict.get?_of_mem hnodup (List.mem_map.mpr ⟨a, hall.mpr ha, rfl⟩)

/-- Ledgers whose keys read apart are told apart by their fingerprints. -/
theorem sameRecords_of_sameFingerprint {keys : AllocationKey → Prop} (hapart : ReadApart keys)
    (hallocated : Allocated ledger) (hallocated' : Allocated ledger') (hkeys : KeysIn keys ledger)
    (hkeys' : KeysIn keys ledger') (h : SameFingerprint ledger ledger') :
    SameRecords ledger ledger' := by
  have hwithin : ∀ {l : AllocationLedger}, Allocated l → KeysIn keys l →
      ∀ a ∈ l.records, ∀ b ∈ l.records, flatKey a.key = flatKey b.key → a.key = b.key := by
    intro l hl hin a ha b hb hflat
    exact hapart _ _ (hin a ha) (hin b hb) (hl.admitted a ha) (hl.admitted b hb) hflat
  have hlookup := sameFingerprint_iff.mp h
  -- a record of either ledger is found in the other under its flat key
  have hsub : ∀ {l l' : AllocationLedger}, Allocated l → Allocated l' → KeysIn keys l →
      KeysIn keys l' →
      (∀ key, (Dict.ofPairs (flatPairs l)).get? key = (Dict.ofPairs (flatPairs l')).get? key) →
      ∀ a ∈ l.records, a ∈ l'.records := by
    intro l l' hl hl' hin hin' hsame a ha
    have hfound := (get?_flatPairs (hwithin hl hin)).mpr ⟨a, ha, rfl, rfl⟩
    rw [hsame] at hfound
    obtain ⟨b, hb, hflat, hvalue⟩ := (get?_flatPairs (hwithin hl' hin')).mp hfound
    have hkey := hapart _ _ (hin' b hb) (hin a ha) (hl'.admitted b hb) (hl.admitted a ha) hflat
    obtain ⟨hscope, hrest⟩ := Prod.mk.inj hkey
    obtain ⟨hkind, hpurpose⟩ := Prod.mk.inj hrest
    have heq : b = a := by
      cases a
      cases b
      rw [Allocation.mk.injEq]
      exact ⟨hkind, hscope, hpurpose, hvalue⟩
    exact heq ▸ hb
  intro a
  exact ⟨hsub hallocated hallocated' hkeys hkeys' hlookup a,
    hsub hallocated' hallocated hkeys' hkeys (fun key => (hlookup key).symm) a⟩

/-- A ledger of one record of any key and value. -/
theorem exists_allocated_singleton {key : AllocationKey} (h : AdmittedScope key.1) (value : Str) :
    ∃ ledger, Allocated ledger ∧ ledger.records = [⟨key.2.1, key.1, key.2.2, value⟩] := by
  obtain ⟨ownership, hscope⟩ := h
  have hnew : (ownership.scopeKey, key.2.1, key.2.2) ∉
      AllocationLedger.empty.records.map Allocation.key := List.not_mem_nil
  have hallocate : AllocationLedger.empty.allocateName ownership key.2.2 key.2.1 value (some [])
      [] [] none = .ok (value, AllocationLedger.empty.insert
        ⟨key.2.1, ownership.scopeKey, key.2.2, value⟩ hnew) := by
    rw [AllocationLedger.allocateName_some]
    exact AllocationLedger.allocate_eq_ok_iff.mpr (.inr ⟨hnew, rfl, rfl, rfl⟩)
  refine ⟨_, Relation.ReflTransGen.single (.name ownership key.2.2 key.2.1 value (some []) [] [] none
    value hallocate), ?_⟩
  rw [← hscope]
  rfl

/-- On the ledgers whose keys lie in a set, fingerprints are equal exactly for equal records if, and only
if, no two keys of the set read the same once they are joined with bars. -/
theorem fingerprint_exact_iff (keys : AllocationKey → Prop) :
    (∀ ledger ledger', Allocated ledger → Allocated ledger' → KeysIn keys ledger →
        KeysIn keys ledger' → (SameFingerprint ledger ledger' ↔ SameRecords ledger ledger')) ↔
      ReadApart keys := by
  constructor
  · intro h k k' hk hk' hadmitted hadmitted' hflat
    obtain ⟨ledger, hallocated, hrecords⟩ := exists_allocated_singleton hadmitted []
    obtain ⟨ledger', hallocated', hrecords'⟩ := exists_allocated_singleton hadmitted' []
    have hin : KeysIn keys ledger := by
      intro a ha
      rw [hrecords, List.mem_singleton] at ha
      exact ha ▸ hk
    have hin' : KeysIn keys ledger' := by
      intro a ha
      rw [hrecords', List.mem_singleton] at ha
      exact ha ▸ hk'
    have hsame : SameFingerprint ledger ledger' := by
      rw [sameFingerprint_iff]
      unfold flatPairs AllocationLedger.all
      rw [hrecords, hrecords']
      intro key
      show Dict.get? [(flatKey k, [])] key = Dict.get? [(flatKey k', [])] key
      rw [hflat]
    have hrecord := ((h ledger ledger' hallocated hallocated' hin hin').mp hsame
      ⟨k.2.1, k.1, k.2.2, []⟩).mp (by rw [hrecords]; exact List.mem_cons_self)
    rw [hrecords', List.mem_singleton, Allocation.mk.injEq] at hrecord
    exact Prod.ext hrecord.2.1 (Prod.ext hrecord.1 hrecord.2.2.1)
  · intro hapart ledger ledger' hallocated hallocated' hkeys hkeys'
    exact ⟨sameRecords_of_sameFingerprint hapart hallocated hallocated' hkeys hkeys',
      SameRecords.sameFingerprint⟩

end

/-! ## Scopes without a bar -/

/-- No part of a scope has a bar in it. -/
def BarFree (key : AllocationKey) : Prop :=
  '|' ∉ key.1.1 ∧ '|' ∉ key.1.2.1 ∧ '|' ∉ key.1.2.2.1 ∧ '|' ∉ key.1.2.2.2.1

theorem bar_notMem_value (kind : AllocationKind) : '|' ∉ kind.value := by
  cases kind <;> simp [AllocationKind.value, str]

theorem bar_notMem_intStr (n : Int) : '|' ∉ intStr n := by
  cases n with
  | ofNat n => exact not_mem_natStr (by decide)
  | negSucc n =>
      intro h
      rcases List.mem_cons.mp h with h | h
      · cases h
      · exact not_mem_natStr (by decide) h

/-- Purposes may say what they like. -/
theorem readApart_barFree : ReadApart BarFree := by
  intro k k' hk hk' _ _ hflat
  obtain ⟨⟨organizationId, targetId, rangeId, teamRef, generation⟩, kind, purpose⟩ := k
  obtain ⟨⟨organizationId', targetId', rangeId', teamRef', generation'⟩, kind', purpose'⟩ := k'
  dsimp only [BarFree] at hk hk'
  obtain ⟨horganization, htarget, hrange, hteam⟩ := hk
  obtain ⟨horganization', htarget', hrange', hteam'⟩ := hk'
  simp only [flatKey, join, List.intercalate_cons_cons, List.intercalate_singleton, List.append_assoc,
    List.singleton_append] at hflat
  obtain ⟨hkind, hflat⟩ := append_separator_inj (bar_notMem_value _) (bar_notMem_value _) hflat
  obtain ⟨h₁, hflat⟩ := append_separator_inj horganization horganization' hflat
  obtain ⟨h₂, hflat⟩ := append_separator_inj htarget htarget' hflat
  obtain ⟨h₃, hflat⟩ := append_separator_inj hrange hrange' hflat
  obtain ⟨h₄, hflat⟩ := append_separator_inj hteam hteam' hflat
  obtain ⟨h₅, hpurpose⟩ := append_separator_inj (bar_notMem_intStr _) (bar_notMem_intStr _) hflat
  rw [h₁, h₂, h₃, h₄, intStr_injective h₅, AllocationKind.value_injective hkind, hpurpose]

/-! ## Two ledgers of one fingerprint -/

/-- The scopes of two targets of two organizations. -/
def barredKey (organizationId targetId : Str) : AllocationKey :=
  ((organizationId, targetId, str "r", [], 1), .zoneName, str "zone")

theorem barredKey_admitted {organizationId targetId : Str} (horganization : organizationId ≠ [])
    (htarget : targetId ≠ []) : AdmittedScope (barredKey organizationId targetId).1 :=
  ⟨⟨organizationId, targetId, str "r", 1, 1, .network, none, horganization, htarget,
    by simp, by decide⟩, rfl⟩

/-- The zone of `a|b` on `c` and that of `a` on `b|c` are different records with one fingerprint. -/
theorem barred_ledgers_alias : ∃ ledger ledger', @Allocated Unicode.ascii ledger ∧
    @Allocated Unicode.ascii ledger' ∧ @SameFingerprint Unicode.ascii ledger ledger' ∧
      ¬SameRecords ledger ledger' := by
  let _ := Unicode.ascii
  obtain ⟨ledger, hallocated, hrecords⟩ := exists_allocated_singleton
    (barredKey_admitted (by decide : ['a', '|', 'b'] ≠ []) (by decide : ['c'] ≠ [])) (str "z1")
  obtain ⟨ledger', hallocated', hrecords'⟩ := exists_allocated_singleton
    (barredKey_admitted (by decide : ['a'] ≠ []) (by decide : ['b', '|', 'c'] ≠ [])) (str "z1")
  refine ⟨ledger, ledger', hallocated, hallocated', ?_, fun hsame => ?_⟩
  · rw [sameFingerprint_iff]
    unfold flatPairs AllocationLedger.all
    rw [hrecords, hrecords']
    have hflat : flatKey (barredKey ['a', '|', 'b'] ['c']) = flatKey (barredKey ['a'] ['b', '|', 'c']) := by
      simp [flatKey, barredKey, join, List.intercalate_cons_cons]
    intro key
    show Dict.get? [(flatKey (barredKey ['a', '|', 'b'] ['c']), _)] key = _
    rw [hflat]
    rfl
  · have hmem := (hsame _).mp (by rw [hrecords]; exact List.mem_cons_self)
    rw [hrecords', List.mem_singleton, Allocation.mk.injEq] at hmem
    exact absurd hmem.2.1 (by decide)

end Secp.Worker
