import Secp.Worker.Teardown

/-!
# Releasing on proof

A reservation leaves the ledger as soon as one finding under its key proves absence at an identifier
nothing foreign occupies; other findings under the same key do not hold it back. A retried release
finds some reservations gone already, and the verdict it feeds does not hear of them.
-/

namespace Secp.Worker

open Secp.Python Secp.Proxmox Secp.Logic

section
variable [Unicode]

/-! ## The release loop -/

/-- The keys of the decisions to release. -/
def releasedKeys (decisions : List ReleaseDecision) : List AllocationKey :=
  (decisions.filter ReleaseDecision.release).map ReleaseDecision.allocationKey

omit [Unicode] in
theorem mem_releasedKeys {decisions : List ReleaseDecision} {key : AllocationKey} :
    key ∈ releasedKeys decisions ↔
      ∃ d ∈ decisions, d.release = true ∧ d.allocationKey = key := by
  simp [releasedKeys, and_assoc]

/-- A proved release of a recorded key drops its record and nothing else. -/
theorem release_of_get {scope : Scope} {kind : AllocationKind} {purpose : Str}
    {ledger : AllocationLedger} {a : Allocation} (hget : ledger.get scope kind purpose = some a)
    (detail : Str) :
    ∃ ledger', AllocationLedger.release scope kind purpose true detail ledger = .ok (a, ledger') ∧
      ledger'.isSealed = ledger.isSealed ∧
      ledger'.records = ledger.records.filter fun b => b.key ≠ (scope, kind, purpose) := by
  simp [AllocationLedger.release, hget]

/-- What one turn does: the ledger loses the decision's key if it may go, and the key counts as
released if the ledger held it. -/
theorem releaseOne_eq (groups : Releases) (d : ReleaseDecision) (ledger : AllocationLedger) :
    ∃ groups' ledger', releaseOne groups d ledger = .ok (groups', ledger') ∧
      ledger'.isSealed = ledger.isSealed ∧
      ledger'.records = (ledger.records.filter fun a => a.key ∉ releasedKeys [d]) ∧
      ∀ key, key ∈ groups'.released.map ReleaseDecision.allocationKey ↔
        key ∈ groups.released.map ReleaseDecision.allocationKey ∨
          key ∈ releasedKeys [d] ∧ key ∈ ledger.records.map Allocation.key := by
  obtain ⟨⟨scope, kind, purpose⟩, residueClass, release, reason⟩ := d
  cases release with
  | false =>
      refine ⟨_, _, rfl, rfl, ?_, ?_⟩
      · simp [releasedKeys]
      · simp [releasedKeys]
  | true =>
      have hkeys : releasedKeys [⟨(scope, kind, purpose), residueClass, true, reason⟩] =
          [(scope, kind, purpose)] := rfl
      cases hget : ledger.get scope kind purpose with
      | none =>
          have hkey := AllocationLedger.get_eq_none_iff.mp hget
          have hrun : releaseOne groups ⟨(scope, kind, purpose), residueClass, true, reason⟩ ledger =
              .ok ({ groups with alreadyReleased := groups.alreadyReleased ++
                [⟨(scope, kind, purpose), residueClass, true, reason⟩] }, ledger) := by
            simp [releaseOne, hget]
          refine ⟨_, ledger, hrun, rfl, ?_, fun key => ?_⟩
          · refine (List.filter_eq_self.mpr fun a ha => ?_).symm
            have hne : a.key ≠ (scope, kind, purpose) := fun heq =>
              hkey (heq ▸ List.mem_map_of_mem ha)
            simp [hkeys, hne]
          · rw [hkeys, List.mem_singleton]
            constructor
            · exact Or.inl
            · rintro (h | ⟨rfl, hmem⟩)
              · exact h
              · exact absurd hmem hkey
      | some a =>
          have hmem : (scope, kind, purpose) ∈ ledger.records.map Allocation.key := by
            obtain ⟨ha, hkey⟩ := AllocationLedger.get_eq_some_iff.mp hget
            exact hkey ▸ List.mem_map_of_mem ha
          obtain ⟨ledger', hrelease, hsealed, hrecords⟩ := release_of_get hget reason
          refine ⟨{ groups with released := groups.released ++
            [⟨(scope, kind, purpose), residueClass, true, reason⟩] }, ledger', ?_, hsealed, ?_,
            fun key => ?_⟩
          · simp only [releaseOne, hget, hrelease]
            rfl
          · rw [hrecords, hkeys]
            simp
          · rw [hkeys, List.mem_singleton]
            simp only [List.map_append, List.map_cons, List.map_nil, List.mem_append,
              List.mem_singleton]
            exact or_congr_right ⟨fun h => ⟨h, h ▸ hmem⟩, And.left⟩

/-- What the loop does: it always returns, the ledger loses exactly the keys to release, and those
it held count as released. -/
theorem releaseLoop_eq (decisions : List ReleaseDecision) (groups : Releases)
    (ledger : AllocationLedger) :
    ∃ groups' ledger', releaseLoop decisions groups ledger = .ok (groups', ledger') ∧
      ledger'.isSealed = ledger.isSealed ∧
      ledger'.records = (ledger.records.filter fun a => a.key ∉ releasedKeys decisions) ∧
      ∀ key, key ∈ groups'.released.map ReleaseDecision.allocationKey ↔
        key ∈ groups.released.map ReleaseDecision.allocationKey ∨
          key ∈ releasedKeys decisions ∧ key ∈ ledger.records.map Allocation.key := by
  induction decisions generalizing groups ledger with
  | nil =>
      refine ⟨groups, ledger, rfl, rfl, ?_, ?_⟩
      · simp [releasedKeys]
      · simp [releasedKeys]
  | cons d rest ih =>
      obtain ⟨groups₁, ledger₁, hone, hsealed₁, hrecords₁, hreleased₁⟩ := releaseOne_eq groups d ledger
      obtain ⟨groups₂, ledger₂, hrest, hsealed₂, hrecords₂, hreleased₂⟩ := ih groups₁ ledger₁
      have hcons : ∀ key, key ∈ releasedKeys (d :: rest) ↔
          key ∈ releasedKeys [d] ∨ key ∈ releasedKeys rest := by
        intro key
        simp only [mem_releasedKeys, List.mem_cons, List.not_mem_nil, or_false]
        constructor
        · rintro ⟨x, rfl | hx, h⟩
          · exact .inl ⟨x, rfl, h⟩
          · exact .inr ⟨x, hx, h⟩
        · rintro (⟨x, rfl, h⟩ | ⟨x, hx, h⟩)
          · exact ⟨x, .inl rfl, h⟩
          · exact ⟨x, .inr hx, h⟩
      refine ⟨groups₂, ledger₂, ?_, hsealed₂.trans hsealed₁, ?_, fun key => ?_⟩
      · rw [releaseLoop, hone]
        exact hrest
      · rw [hrecords₂, hrecords₁, List.filter_filter]
        refine List.filter_congr fun a _ => ?_
        simp only [hcons, not_or, Bool.decide_and]
        rw [Bool.and_comm]
      · have hheld : key ∈ ledger₁.records.map Allocation.key ↔
            key ∈ ledger.records.map Allocation.key ∧ key ∉ releasedKeys [d] := by
          rw [hrecords₁]
          simp only [List.mem_map, List.mem_filter, decide_eq_true_eq]
          constructor
          · rintro ⟨a, ⟨ha, hnot⟩, rfl⟩
            exact ⟨⟨a, ha, rfl⟩, hnot⟩
          · rintro ⟨⟨a, ha, rfl⟩, hnot⟩
            exact ⟨a, ⟨ha, hnot⟩, rfl⟩
        rw [hreleased₂, hreleased₁, hheld, hcons]
        tauto

/-! ## What the observations show -/

/-- The probes made after the deletion attempts show the resource gone. -/
def provedGone (probes : Probes) (r : OwnedResource) : Bool :=
  match r.domain with
  | .ledger => false
  | .provider => probes.observed.reachable && observeProvider r probes == (false, true)
  | .localArtifact =>
      probes.artifacts.readable && decide (r.identifier ∉ probes.artifacts.presentPaths)
  | .remoteState =>
      probes.remoteState.readable && decide (r.identifier ∉ probes.remoteState.presentKeys)

theorem presentOrRemoved_absenceProved (r : OwnedResource) (present : Bool) :
    (presentOrRemoved r present true).absenceProved = !present := by
  cases present <;> simp [presentOrRemoved, AbsenceFinding.absenceProved]

omit [Unicode] in
theorem unproven_absenceProved (r : OwnedResource) (reason : Str) :
    (unproven r reason).absenceProved = false := rfl

/-- The finding about a resource names it and says what the probes show. -/
theorem verifyResource_eq_some {probes : Probes} {r : OwnedResource} {f : AbsenceFinding}
    (h : verifyResource probes r = some f) :
    f.resource = r ∧ f.absenceProved = provedGone probes r := by
  unfold verifyResource at h
  unfold provedGone
  cases hdomain : r.domain with
  | ledger => simp [hdomain] at h
  | provider =>
      simp only [hdomain] at h
      by_cases hreach : probes.observed.reachable = true
      · rw [if_pos hreach] at h
        rcases hobserve : observeProvider r probes with ⟨present, observable⟩
        cases observable with
        | false =>
            simp only [hobserve, Option.some.injEq] at h
            subst h
            exact ⟨rfl, by simp [unproven_absenceProved]⟩
        | true =>
            simp only [hobserve, Option.some.injEq] at h
            subst h
            exact ⟨rfl, by cases present <;> simp [presentOrRemoved_absenceProved, hreach]⟩
      · rw [if_neg hreach] at h
        cases h
        exact ⟨rfl, by simp [unproven_absenceProved, hreach]⟩
  | localArtifact =>
      simp only [hdomain] at h
      split at h
      · next hreadable =>
          cases h
          exact ⟨rfl, by simp [presentOrRemoved_absenceProved, hreadable]⟩
      · next hreadable =>
          cases h
          exact ⟨rfl, by simp [unproven_absenceProved, hreadable]⟩
  | remoteState =>
      simp only [hdomain] at h
      split at h
      · next hreadable =>
          cases h
          exact ⟨rfl, by simp [presentOrRemoved_absenceProved, hreadable]⟩
      · next hreadable =>
          cases h
          exact ⟨rfl, by simp [unproven_absenceProved, hreadable]⟩

/-- Every domain but the ledger is answered. -/
theorem verifyResource_isSome (probes : Probes) {r : OwnedResource} (h : r.domain ≠ .ledger) :
    (verifyResource probes r).isSome = true := by
  unfold verifyResource
  cases hdomain : r.domain with
  | ledger => exact absurd hdomain h
  | provider =>
      rcases hobserve : observeProvider r probes with ⟨present, observable⟩
      by_cases hreach : probes.observed.reachable = true
      · cases observable <;> simp [hreach]
      · simp [hreach]
  | localArtifact => by_cases hreadable : probes.artifacts.readable = true <;> simp [hreadable]
  | remoteState => by_cases hreadable : probes.remoteState.readable = true <;> simp [hreadable]

theorem verifyResource_ledger {probes : Probes} {r : OwnedResource} (h : r.domain = .ledger) :
    verifyResource probes r = none := by
  simp [verifyResource, h]

theorem mem_verifyAbsence {expected : List OwnedResource} {probes : Probes} {f : AbsenceFinding} :
    f ∈ verifyAbsence expected probes ↔ ∃ r ∈ expected, verifyResource probes r = some f := by
  simp [verifyAbsence]

/-- A guest stands at the resource's vmid and its tags were read as somebody else's. -/
def impostorAt (before : ObservedInfrastructure) (r : OwnedResource) : Bool :=
  r.residueClass.isGuest &&
    match liveGuest before (asInt r.identifier), r.expectedOwnership with
    | some live, some expected =>
        match live.tags with
        | some tags => isOwnedBySecp (some tags) expected != .secpOwned
        | none => false
    | _, _ => false

omit [Unicode] in
theorem domain_of_isGuest {r : OwnedResource} (h : r.residueClass.isGuest = true) :
    r.domain = .provider := by
  unfold OwnedResource.domain
  cases hclass : r.residueClass <;> simp [hclass, ResidueClass.isGuest, ResidueClass.domain] at h ⊢

/-- One resource joins the protected ones exactly when an impostor stands at it. -/
theorem boundResource_guarded (before : ObservedInfrastructure)
    (supplemental : SupplementalObservation) (set : DeletionSet) (r : OwnedResource) :
    (boundResource before supplemental set r).guarded.map ProtectedResource.resource =
      set.guarded.map ProtectedResource.resource ++ [r].filter (impostorAt before) := by
  unfold boundResource
  by_cases hguest : r.residueClass.isGuest = true
  · rw [if_neg (by simp [domain_of_isGuest hguest]), if_pos hguest]
    unfold boundGuest
    cases hlive : liveGuest before (asInt r.identifier) with
    | none => simp [impostorAt, hlive]
    | some live =>
        cases hexpected : r.expectedOwnership with
        | none => simp [impostorAt, hlive, hexpected]
        | some expected =>
            cases htags : live.tags with
            | none => simp [impostorAt, hlive, hexpected, htags]
            | some tags =>
                by_cases howned : isOwnedBySecp (some tags) expected = .secpOwned
                · simp [impostorAt, hlive, hexpected, htags, howned]
                · simp [impostorAt, hlive, hexpected, htags, howned, hguest]
  · have hnone : [r].filter (impostorAt before) = [] := by simp [impostorAt, hguest]
    rw [hnone, List.append_nil, if_neg hguest]
    split
    · rfl
    · split <;> rfl

theorem foldl_boundResource_guarded (before : ObservedInfrastructure)
    (supplemental : SupplementalObservation) (owned : List OwnedResource) (set : DeletionSet) :
    (owned.foldl (boundResource before supplemental) set).guarded.map ProtectedResource.resource =
      set.guarded.map ProtectedResource.resource ++ owned.filter (impostorAt before) := by
  induction owned generalizing set with
  | nil => simp
  | cons r rest ih =>
      rw [List.foldl_cons, ih, boundResource_guarded, List.append_assoc, ← List.filter_append]
      rfl

/-- The protected resources are the owned ones an impostor stands at. -/
theorem mem_guarded_iff {owned : List OwnedResource} {before : ObservedInfrastructure}
    {supplemental : SupplementalObservation} {r : OwnedResource} :
    r ∈ (boundDeletionSet owned before supplemental).guarded.map ProtectedResource.resource ↔
      before.reachable = true ∧ r ∈ owned ∧ impostorAt before r = true := by
  unfold boundDeletionSet
  by_cases hreach : before.reachable = true
  · rw [if_pos hreach, foldl_boundResource_guarded]
    simp [hreach]
  · rw [if_neg hreach]
    simp [hreach]

/-! ## What leaves the ledger -/

/-- An impostor stands at an owned resource of this class and identifier. -/
def Occupied (owned : List OwnedResource) (before : ObservedInfrastructure) (r : OwnedResource) :
    Prop :=
  before.reachable = true ∧ ∃ r' ∈ owned, impostorAt before r' = true ∧
    r'.residueClass = r.residueClass ∧ r'.identifier = r.identifier

theorem mem_protectedIdentifiers_iff {owned : List OwnedResource} {before : ObservedInfrastructure}
    {supplemental : SupplementalObservation} {r : OwnedResource} :
    (r.residueClass, r.identifier) ∈
        protectedIdentifiers (boundDeletionSet owned before supplemental).guarded ↔
      Occupied owned before r := by
  have hmap : protectedIdentifiers (boundDeletionSet owned before supplemental).guarded =
      ((boundDeletionSet owned before supplemental).guarded.map ProtectedResource.resource).map
        fun r' => (r'.residueClass, r'.identifier) := by
    rw [List.map_map]
    rfl
  rw [hmap, List.mem_map]
  constructor
  · rintro ⟨r', hr', heq⟩
    obtain ⟨hreach, howned, himpostor⟩ := mem_guarded_iff.mp hr'
    obtain ⟨hclass, hidentifier⟩ := Prod.mk.inj heq
    exact ⟨hreach, r', howned, himpostor, hclass, hidentifier⟩
  · rintro ⟨hreach, r', howned, himpostor, hclass, hidentifier⟩
    exact ⟨r', mem_guarded_iff.mpr ⟨hreach, howned, himpostor⟩, Prod.ext hclass hidentifier⟩

omit [Unicode] in
/-- The decision a finding leads to, if any. -/
theorem releaseDecision_eq_some {guarded : List ProtectedResource} {f : AbsenceFinding}
    {d : ReleaseDecision} (h : releaseDecision guarded f = some d) :
    f.resource.allocationKey = some d.allocationKey ∧
      reservationClassFor d.allocationKey.2.1 = some d.residueClass ∧
      (d.release = true ↔ f.absenceProved = true ∧
        (f.resource.residueClass, f.resource.identifier) ∉ protectedIdentifiers guarded) := by
  unfold releaseDecision at h
  cases hkey : f.resource.allocationKey with
  | none => simp only [hkey, Option.bind_eq_bind, Option.bind_none, reduceCtorEq] at h
  | some key =>
      cases hclass : reservationClassFor key.2.1 with
      | none =>
          simp only [hkey, hclass, Option.bind_eq_bind, Option.bind_some, Option.bind_none,
            reduceCtorEq] at h
      | some residueClass =>
          simp only [hkey, hclass, Option.bind_eq_bind, Option.bind_some] at h
          split at h
          · next hmem =>
              cases h
              exact ⟨rfl, hclass, by simp [hmem]⟩
          · next hmem =>
              cases h
              exact ⟨rfl, hclass, by simp [hmem]⟩

omit [Unicode] in
/-- A finding whose resource holds a releasable key leads to a decision. -/
theorem releaseDecision_isSome (guarded : List ProtectedResource) {f : AbsenceFinding}
    {key : AllocationKey} (hkey : f.resource.allocationKey = some key)
    (hclass : (reservationClassFor key.2.1).isSome = true) :
    ∃ d, releaseDecision guarded f = some d ∧ d.allocationKey = key := by
  obtain ⟨residueClass, hclass⟩ := Option.isSome_iff_exists.mp hclass
  unfold releaseDecision
  simp only [hkey, hclass, Option.bind_eq_bind, Option.bind_some]
  split
  · exact ⟨_, rfl, rfl⟩
  · exact ⟨_, rfl, rfl⟩

omit [Unicode] in
theorem mem_releasableAllocations {findings : List AbsenceFinding}
    {guarded : List ProtectedResource} {d : ReleaseDecision} :
    d ∈ releasableAllocations findings guarded ↔
      ∃ f ∈ findings, releaseDecision guarded f = some d := by
  simp [releasableAllocations]

/-- The decisions of a destroy, from the owned resources, the observation before it and the probes
after it. -/
def destroyDecisions (owned : List OwnedResource) (before : ObservedInfrastructure)
    (supplemental : SupplementalObservation) (probes : Probes) : List ReleaseDecision :=
  releasableAllocations (verifyAbsence owned probes)
    (boundDeletionSet owned before supplemental).guarded

/-- A key is released when one resource that holds it is proved gone and nothing foreign stands at
that resource's identifier. -/
theorem mem_releasedKeys_destroy {owned : List OwnedResource} {before : ObservedInfrastructure}
    {supplemental : SupplementalObservation} {probes : Probes} {key : AllocationKey} :
    key ∈ releasedKeys (destroyDecisions owned before supplemental probes) ↔
      (reservationClassFor key.2.1).isSome = true ∧
        ∃ r ∈ owned, r.allocationKey = some key ∧ provedGone probes r = true ∧
          ¬Occupied owned before r := by
  rw [mem_releasedKeys]
  constructor
  · rintro ⟨d, hd, hrelease, rfl⟩
    obtain ⟨f, hf, hdecision⟩ := mem_releasableAllocations.mp hd
    obtain ⟨r, hr, hverify⟩ := mem_verifyAbsence.mp hf
    obtain ⟨rfl, hproved⟩ := verifyResource_eq_some hverify
    obtain ⟨hkey, hclass, hiff⟩ := releaseDecision_eq_some hdecision
    obtain ⟨habsent, hfree⟩ := hiff.mp hrelease
    refine ⟨Option.isSome_iff_exists.mpr ⟨_, hclass⟩, f.resource, hr, hkey, hproved ▸ habsent, ?_⟩
    exact fun hoccupied => hfree (mem_protectedIdentifiers_iff.mpr hoccupied)
  · rintro ⟨hclass, r, hr, hkey, hproved, hfree⟩
    have hdomain : r.domain ≠ .ledger := by
      intro h
      simp [provedGone, h] at hproved
    obtain ⟨f, hverify⟩ := Option.isSome_iff_exists.mp
      (verifyResource_isSome probes hdomain)
    obtain ⟨rfl, habsent⟩ := verifyResource_eq_some hverify
    obtain ⟨d, hdecision, hdkey⟩ := releaseDecision_isSome
      (boundDeletionSet owned before supplemental).guarded hkey hclass
    refine ⟨d, mem_releasableAllocations.mpr ⟨f, mem_verifyAbsence.mpr ⟨f.resource, hr, hverify⟩,
      hdecision⟩, ?_, hdkey⟩
    refine (releaseDecision_eq_some hdecision).2.2.mpr ⟨habsent.trans hproved, ?_⟩
    exact fun hmem => hfree (mem_protectedIdentifiers_iff.mp hmem)

/-- What the destroy has done to the ledger is backed by proof: a record has gone only if every
finding under its key proves absence and no resource of these is protected, and nothing else has
changed. -/
def LeavesOnProof (owned : List OwnedResource) (before : ObservedInfrastructure)
    (supplemental : SupplementalObservation) (probes : Probes) (ledger ledger' : AllocationLedger) :
    Prop :=
  (∀ a ∈ ledger.records, a ∉ ledger'.records →
    ∀ f ∈ verifyAbsence owned probes, f.resource.allocationKey = some a.key →
      (f.probeHealthy = true ∧ f.outcome = .removed) ∧
      f.resource ∉ (boundDeletionSet owned before supplemental).guarded.map
        ProtectedResource.resource) ∧
  ledger'.records.Sublist ledger.records ∧ ledger'.isSealed = ledger.isSealed

/-- The owned resources that share a recorded key agree: once one of them is proved gone at a free
identifier, all that a probe answers for are proved gone and none has an impostor. -/
def ProofsAgree (owned : List OwnedResource) (before : ObservedInfrastructure) (probes : Probes)
    (ledger : AllocationLedger) : Prop :=
  ∀ a ∈ ledger.records, (reservationClassFor a.kind).isSome = true →
    ∀ r ∈ owned, r.allocationKey = some a.key → provedGone probes r = true →
      ¬Occupied owned before r →
      ∀ r' ∈ owned, r'.allocationKey = some a.key → r'.domain ≠ .ledger →
        provedGone probes r' = true ∧ ¬(before.reachable = true ∧ impostorAt before r' = true)

/-- The whole release phase returns, and leaves the ledger on proof exactly when the resources that
share a key agree. -/
theorem release_onProof_iff (owned : List OwnedResource) (before : ObservedInfrastructure)
    (supplemental : SupplementalObservation) (probes : Probes) (ledger : AllocationLedger) :
    ∃ releases ledger',
      releaseProvedAllocations (destroyDecisions owned before supplemental probes) ledger =
        .ok (releases, ledger') ∧
      (LeavesOnProof owned before supplemental probes ledger ledger' ↔
        ProofsAgree owned before probes ledger) := by
  obtain ⟨releases, ledger', hrun, hsealed, hrecords, -⟩ :=
    releaseLoop_eq (destroyDecisions owned before supplemental probes) {} ledger
  refine ⟨releases, ledger', hrun, ?_⟩
  have hgone : ∀ a ∈ ledger.records, a ∉ ledger'.records ↔
      a.key ∈ releasedKeys (destroyDecisions owned before supplemental probes) := by
    intro a ha
    rw [hrecords]
    simp [ha]
  constructor
  · rintro ⟨hleaves, -, -⟩ a ha hclass r hr hkey hproved hfree r' hr' hkey' hdomain
    have hout : a ∉ ledger'.records :=
      (hgone a ha).mpr (mem_releasedKeys_destroy.mpr ⟨hclass, r, hr, hkey, hproved, hfree⟩)
    obtain ⟨f, hverify⟩ := Option.isSome_iff_exists.mp
      (verifyResource_isSome probes hdomain)
    obtain ⟨rfl, habsent⟩ := verifyResource_eq_some hverify
    obtain ⟨hremoved, hguarded⟩ := hleaves a ha hout f
      (mem_verifyAbsence.mpr ⟨f.resource, hr', hverify⟩) hkey'
    refine ⟨habsent ▸ AbsenceFinding.absenceProved_iff.mpr hremoved, ?_⟩
    rintro ⟨hreach, himpostor⟩
    exact hguarded (mem_guarded_iff.mpr ⟨hreach, hr', himpostor⟩)
  · intro hagree
    refine ⟨?_, hrecords ▸ List.filter_sublist, hsealed⟩
    intro a ha hout f hf hkey'
    obtain ⟨hclass, r, hr, hkey, hproved, hfree⟩ := mem_releasedKeys_destroy.mp ((hgone a ha).mp hout)
    obtain ⟨r', hr', hverify⟩ := mem_verifyAbsence.mp hf
    have hdomain : r'.domain ≠ .ledger := by
      intro h
      rw [verifyResource_ledger h] at hverify
      cases hverify
    obtain ⟨rfl, habsent⟩ := verifyResource_eq_some hverify
    obtain ⟨hgone', himpostor⟩ := hagree a ha hclass r hr hkey hproved hfree f.resource hr' hkey'
      hdomain
    refine ⟨AbsenceFinding.absenceProved_iff.mp (habsent.trans hgone'), fun hmem => ?_⟩
    obtain ⟨hreach, -, himp⟩ := mem_guarded_iff.mp hmem
    exact himpostor ⟨hreach, himp⟩

end

/-! ## A guest that outlives its disk -/

/-- The reservation of one vmid. -/
def guestIdKey : AllocationKey :=
  ((str "org1", str "lab1", str "r1", str "red", 1), .vmid, str "red/dvwa")

def standingGuest : OwnedResource :=
  { residueClass := .qemuVm, identifier := str "9001", allocationKey := some guestIdKey }

/-- A guest and its disk, both recorded under the guest's vmid reservation. -/
def guestAndDisk : List OwnedResource :=
  [standingGuest,
    { residueClass := .diskVolume, identifier := str "vm-9001-disk-0",
      allocationKey := some guestIdKey }]

/-- The disk is gone and the guest still stands. -/
def guestRemains : Probes where
  observed := { reachable := true, guests := [{ vmid := 9001 }] }
  supplemental := { diskVolumeIds := some [] }
  artifacts := { readable := true }
  remoteState := { readable := true }

def guestIdLedger : AllocationLedger :=
  ⟨[⟨.vmid, (str "org1", str "lab1", str "r1", str "red", 1), str "red/dvwa", str "9001"⟩], true,
    by simp⟩

/-- The vmid of a guest that still stands is released because its disk is gone. -/
theorem guestRemains_released :
    ∃ releases ledger',
      @releaseProvedAllocations Unicode.ascii
          (@destroyDecisions Unicode.ascii guestAndDisk { reachable := true } {} guestRemains)
          guestIdLedger = .ok (releases, ledger') ∧
        ¬@LeavesOnProof Unicode.ascii guestAndDisk { reachable := true } {} guestRemains guestIdLedger
          ledger' := by
  let _ := Unicode.ascii
  obtain ⟨releases, ledger', hrun, -, hrecords, -⟩ := releaseLoop_eq
    (destroyDecisions guestAndDisk { reachable := true } {} guestRemains) {} guestIdLedger
  refine ⟨releases, ledger', hrun, ?_⟩
  have hempty : ledger'.records = [] := by
    rw [hrecords]
    with_unfolding_all decide
  rintro ⟨hleaves, -, -⟩
  have hverify : verifyResource guestRemains standingGuest =
      some (presentOrRemoved standingGuest true true) := by
    with_unfolding_all decide
  have hfinding := hleaves _ List.mem_cons_self (by rw [hempty]; exact List.not_mem_nil) _
    (mem_verifyAbsence.mpr ⟨standingGuest, List.mem_cons_self, hverify⟩) rfl
  have hpresent : (presentOrRemoved standingGuest true true).outcome = .present := rfl
  rw [hpresent] at hfinding
  cases hfinding.1.2

end Secp.Worker
