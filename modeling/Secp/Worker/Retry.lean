import Secp.Worker.Release

/-!
# Retrying an interrupted release

A destroy that stopped inside its release phase is run again over the same resources. Reservations
the first run released are found gone and reported as already released, and the proof is graded on
the released and retained ones alone. When every probe proves absence, the verdict is clean exactly
when something was expected, every expected reservation is backed by a probed resource, and of the
reservations that differ only in scope the one printed last is still held.
-/

namespace Secp.Worker

open Secp.Python Secp.Proxmox

/-! ## Class names -/

def ResidueClass.all : List ResidueClass :=
  [.qemuVm, .lxcContainer, .diskVolume, .nic, .sdnZone, .vnet, .bridge, .subnet, .vlanAssignment,
    .firewallGroup, .firewallRule, .ipSet, .firewallAlias, .cloudInitSnippet, .bootstrapObject,
    .vmidReservation, .macReservation, .ipReservation, .subnetReservation, .vlanReservation,
    .remoteStateKeyReservation, .transientWorkspace, .binaryPlanFile, .temporaryCredentialFile,
    .remoteStateObject]

theorem ResidueClass.value_injective : Function.Injective ResidueClass.value := by
  have hall : ∀ c, c ∈ ResidueClass.all := by
    intro c
    cases c <;> decide
  have hnodup : (ResidueClass.all.map ResidueClass.value).Nodup := by with_unfolding_all decide
  intro a b h
  exact List.inj_on_of_nodup_map hnodup (hall a) (hall b) h

section
variable [Unicode]

/-! ## The reservations behind the probed resources -/

/-- The reservation a probed resource holds, with the class it is graded under. -/
def reservationOf (r : OwnedResource) : Option (ResidueClass × AllocationKey) :=
  if r.domain = .ledger then none
  else do
    let key ← r.allocationKey
    let residueClass ← reservationClassFor key.2.1
    pure (residueClass, key)

/-- The reservations the expected resources hold, in the order they are graded. -/
def reservations (expected : List OwnedResource) : List (ResidueClass × AllocationKey) :=
  sortedBy (fun p => (p.1.value, allocationKeyText p.2))
    ((sortedBy sortKey expected).filterMap reservationOf)

/-- What a reservation is graded under: its class, kind and purpose, without the scope. -/
def reservationIdentity (p : ResidueClass × AllocationKey) : Str × Str :=
  (p.1.value, p.2.2.1.value ++ str ":" ++ p.2.2.2)

def ReleaseDecision.reservation (d : ReleaseDecision) : ResidueClass × AllocationKey :=
  (d.residueClass, d.allocationKey)

omit [Unicode] in
theorem sortKey_resource (d : ReleaseDecision) :
    sortKey d.resource = reservationIdentity d.reservation := rfl

/-- The findings come out in the order the decisions are made in. -/
theorem sortedBy_verifyAbsence (expected : List OwnedResource) (probes : Probes) :
    sortedBy (fun f => sortKey f.resource) (verifyAbsence expected probes) =
      verifyAbsence expected probes := by
  refine List.Pairwise.insertionSort_eq ?_
  refine List.Pairwise.filterMap _ ?_ (pairwise_sortedBy sortKey expected)
  intro r r' hle f hf f' hf'
  show (compare (sortKey f.resource) (sortKey f'.resource)).isLE = true
  rw [(verifyResource_eq_some hf).1, (verifyResource_eq_some hf').1]
  exact hle

/-- What the decision about one resource reserves. -/
theorem map_reservation_releaseDecision (probes : Probes) (r : OwnedResource) :
    ((verifyResource probes r).bind (releaseDecision [])).map ReleaseDecision.reservation =
      reservationOf r := by
  unfold reservationOf
  by_cases hdomain : r.domain = .ledger
  · rw [if_pos hdomain, verifyResource_ledger hdomain]
    rfl
  · rw [if_neg hdomain]
    obtain ⟨f, hverify⟩ := Option.isSome_iff_exists.mp
      (verifyResource_isSome probes hdomain)
    obtain ⟨rfl, -⟩ := verifyResource_eq_some hverify
    rw [hverify, Option.bind_some, releaseDecision]
    cases f.resource.allocationKey with
    | none => rfl
    | some key =>
        simp only [Option.bind_eq_bind, Option.bind_some]
        cases reservationClassFor key.2.1 with
        | none => rfl
        | some residueClass => rfl

/-- The decisions in the order they are graded, as reservations. -/
theorem map_reservation_inKeyOrder (expected : List OwnedResource) (probes : Probes) :
    (inKeyOrder (releasableAllocations (verifyAbsence expected probes) [])).map
      ReleaseDecision.reservation = reservations expected := by
  have hdecisions : (releasableAllocations (verifyAbsence expected probes) []).map
      ReleaseDecision.reservation = (sortedBy sortKey expected).filterMap reservationOf := by
    rw [releasableAllocations, sortedBy_verifyAbsence, verifyAbsence, List.filterMap_filterMap,
      List.map_filterMap]
    refine List.filterMap_congr fun r _ => ?_
    exact map_reservation_releaseDecision probes r
  rw [reservations, ← hdecisions]
  exact List.map_insertionSort _ _ _ _ fun a _ b _ => Iff.rfl

/-! ## The retried verdict -/

section
variable {expected : List OwnedResource} {probes : Probes}

/-- With every absence proved, every decision is to release. -/
theorem mem_releasedKeys_of_proved
    (hproved : ∀ f ∈ verifyAbsence expected probes, f.probeHealthy = true ∧ f.outcome = .removed)
    {d : ReleaseDecision} (hd : d ∈ releasableAllocations (verifyAbsence expected probes) []) :
    d.allocationKey ∈ releasedKeys (releasableAllocations (verifyAbsence expected probes) []) := by
  obtain ⟨f, hf, hdecision⟩ := mem_releasableAllocations.mp hd
  refine mem_releasedKeys.mpr ⟨d, hd, ?_, rfl⟩
  refine (releaseDecision_eq_some hdecision).2.2.mpr ⟨?_, List.not_mem_nil⟩
  exact AbsenceFinding.absenceProved_iff.mpr (hproved f hf)

omit [Unicode] in
theorem lastAnswer_append (first second : List Answer) (identity : Str × Str) :
    lastAnswer (first ++ second) identity =
      (lastAnswer second identity).or (lastAnswer first identity) := by
  rw [lastAnswer, List.reverse_append, List.find?_append]
  rfl

/-- The last answer the decisions give about an identity. -/
theorem lastAnswer_decisions (released : List ReleaseDecision) (identity : Str × Str) :
    lastAnswer ((inKeyOrder (releasableAllocations (verifyAbsence expected probes) [])).map
        (ReleaseDecision.answer released)) identity =
      ((reservations expected).reverse.find? fun q => reservationIdentity q = identity).map
        fun q => ⟨reservationIdentity q,
          decide (q.2 ∈ released.map ReleaseDecision.allocationKey)⟩ := by
  rw [← map_reservation_inKeyOrder expected probes, lastAnswer, ← List.map_reverse,
    ← List.map_reverse, List.find?_map, List.find?_map, Option.map_map]
  rfl

/-- The last reservation graded under an identity. -/
def lastReservation (expected : List OwnedResource) (identity : Str × Str) :
    Option (ResidueClass × AllocationKey) :=
  (reservations expected).reverse.find? fun q => reservationIdentity q = identity

theorem lastReservation_eq_some {identity : Str × Str} {q : ResidueClass × AllocationKey}
    (h : lastReservation expected identity = some q) :
    q ∈ reservations expected ∧ reservationIdentity q = identity :=
  ⟨List.mem_reverse.mp (List.mem_of_find?_eq_some h), by simpa using List.find?_some h⟩

theorem lastReservation_eq_none {identity : Str × Str}
    (h : lastReservation expected identity = none) {p : ResidueClass × AllocationKey}
    (hp : p ∈ reservations expected) : reservationIdentity p ≠ identity := by
  simpa using List.find?_eq_none.mp h p (List.mem_reverse.mpr hp)

/-- The last answer about an identity after a retry: the ledger's about the last reservation graded
under it, or else a finding, which is a proof. -/
theorem lastAnswer_retry
    (hproved : ∀ f ∈ verifyAbsence expected probes, f.probeHealthy = true ∧ f.outcome = .removed)
    {ledger : AllocationLedger} {released : List ReleaseDecision}
    (hreleased : ∀ key, key ∈ released.map ReleaseDecision.allocationKey ↔
      key ∈ releasedKeys (releasableAllocations (verifyAbsence expected probes) []) ∧
        key ∈ ledger.records.map Allocation.key) (identity : Str × Str) :
    (∃ a, lastAnswer (answers (verifyAbsence expected probes)
        (releasableAllocations (verifyAbsence expected probes) []) released) identity = some a ∧
          a.proved = true) ↔
      (∃ q, lastReservation expected identity = some q ∧
        q.2 ∈ ledger.records.map Allocation.key) ∨
      lastReservation expected identity = none ∧
        ∃ f, latest (verifyAbsence expected probes) identity = some f := by
  rw [answers, lastAnswer_append, lastAnswer_decisions, lastAnswer_map, ← lastReservation]
  cases hlast : lastReservation expected identity with
  | some q =>
      have hkey : q.2 ∈ releasedKeys (releasableAllocations (verifyAbsence expected probes) []) := by
        have hq := (lastReservation_eq_some hlast).1
        rw [← map_reservation_inKeyOrder expected probes] at hq
        obtain ⟨d, hd, rfl⟩ := List.mem_map.mp hq
        exact mem_releasedKeys_of_proved hproved (mem_inKeyOrder.mp hd)
      simp only [Option.map_some, Option.some_or, Option.some.injEq, exists_eq_left',
        decide_eq_true_eq, hreleased, hkey, true_and, reduceCtorEq, false_and, or_false]
  | none =>
      cases hlatest : latest (verifyAbsence expected probes) identity with
      | none => simp
      | some f =>
          have hf : f.absenceProved = true :=
            AbsenceFinding.absenceProved_iff.mpr (hproved f (mem_of_latest hlatest).1)
          simp [AbsenceFinding.answer, hf]

end

/-- When a retry comes out clean: something was expected; every expected reservation is held by a
probed resource; and of the reservations graded alike the last is recorded in the ledger. -/
structure Retriable (expected : List OwnedResource) (ledger : AllocationLedger) : Prop where
  nonempty : expected ≠ []
  backed : ∀ r ∈ expected, r.domain = .ledger →
    ∃ p ∈ reservations expected, reservationIdentity p = sortKey r
  held : ∀ p ∈ reservations expected, ∀ last,
    lastReservation expected (reservationIdentity p) = some last →
      last.2 ∈ ledger.records.map Allocation.key

/-- A retry over proved absences comes out clean exactly when it is retriable. -/
theorem retried_verdict_clean_iff (expected : List OwnedResource) (probes : Probes)
    (ledger : AllocationLedger)
    (hproved : ∀ f ∈ verifyAbsence expected probes, f.probeHealthy = true ∧ f.outcome = .removed) :
    ∃ releases ledger',
      releaseProvedAllocations (releasableAllocations (verifyAbsence expected probes) []) ledger =
        .ok (releases, ledger') ∧
      ((zeroResidueProof (verifyAbsence expected probes) expected []
          (releasableAllocations (verifyAbsence expected probes) []) releases.released
          releases.retained).verdict = .clean ↔
        Retriable expected ledger) := by
  obtain ⟨releases, ledger', hrun, -, -, hreleased⟩ := releaseLoop_eq
    (releasableAllocations (verifyAbsence expected probes) []) {} ledger
  refine ⟨releases, ledger', hrun, ?_⟩
  simp only [List.map_nil, List.not_mem_nil, false_or] at hreleased
  have hlast := lastAnswer_retry hproved hreleased
  rw [verdict_eq_clean_iff]
  constructor
  · intro hsettled
    refine ⟨?_, fun r hr hdomain => ?_, fun p hp last hfind => ?_⟩
    · rintro rfl
      rcases hsettled.nonempty with hne | hne
      · exact hne rfl
      · exact hne rfl
    · rcases (hlast _).mp (hsettled.expected_proved r hr) with ⟨q, hq, -⟩ | ⟨-, f, hf⟩
      · exact ⟨q, lastReservation_eq_some hq⟩
      · -- a finding is about another domain, and so under another class
        obtain ⟨hmem, hidentity⟩ := mem_of_latest hf
        obtain ⟨r', -, hverify⟩ := mem_verifyAbsence.mp hmem
        obtain ⟨rfl, -⟩ := verifyResource_eq_some hverify
        have hclass : f.resource.residueClass = r.residueClass :=
          ResidueClass.value_injective (Prod.mk.inj hidentity).1
        have hledger : f.resource.domain = .ledger := by
          rw [OwnedResource.domain, hclass]
          exact hdomain
        rw [verifyResource_ledger hledger] at hverify
        cases hverify
    · have hp' := hp
      rw [← map_reservation_inKeyOrder expected probes] at hp'
      obtain ⟨d, hd, rfl⟩ := List.mem_map.mp hp'
      rcases (hlast _).mp (hsettled.decisions_proved d (mem_inKeyOrder.mp hd)) with
        ⟨q, hq, hheld⟩ | ⟨hnone, -⟩
      · rw [sortKey_resource, hfind] at hq
        cases hq
        exact hheld
      · exact absurd rfl (lastReservation_eq_none hnone hp)
  · intro hretriable
    refine ⟨rfl, .inl hretriable.nonempty, fun r hr => (hlast _).mpr ?_, fun d hd => (hlast _).mpr ?_⟩
    · cases hfind : lastReservation expected (sortKey r) with
      | some q =>
          obtain ⟨hq, hidentity⟩ := lastReservation_eq_some hfind
          exact .inl ⟨q, rfl, hretriable.held q hq q (hidentity ▸ hfind)⟩
      | none =>
          have hdomain : r.domain ≠ .ledger := by
            intro h
            obtain ⟨p, hp, hidentity⟩ := hretriable.backed r hr h
            exact lastReservation_eq_none hfind hp hidentity
          obtain ⟨f, hverify⟩ := Option.isSome_iff_exists.mp
            (verifyResource_isSome probes hdomain)
          refine .inr ⟨rfl, Option.ne_none_iff_exists'.mp fun hnone => ?_⟩
          refine latest_eq_none_iff.mp hnone f (mem_verifyAbsence.mpr ⟨r, hr, hverify⟩) ?_
          rw [(verifyResource_eq_some hverify).1]
    · have hmem : d.reservation ∈ reservations expected := by
        rw [← map_reservation_inKeyOrder expected probes]
        exact List.mem_map_of_mem (mem_inKeyOrder.mpr hd)
      cases hfind : lastReservation expected (sortKey d.resource) with
      | some q => exact .inl ⟨q, rfl, hretriable.held _ hmem q hfind⟩
      | none => exact absurd rfl (lastReservation_eq_none hfind hmem)

end

/-! ## A guest released by an earlier run -/

/-- The provider lists no guest any more. -/
def guestGone : Probes where
  observed := { reachable := true }
  artifacts := { readable := true }
  remoteState := { readable := true }

theorem guestGone_proved (f : AbsenceFinding)
    (h : f ∈ @verifyAbsence Unicode.ascii [standingGuest] guestGone) :
    f.probeHealthy = true ∧ f.outcome = .removed := by
  let _ := Unicode.ascii
  obtain ⟨r, hr, hverify⟩ := mem_verifyAbsence.mp h
  rw [List.mem_singleton.mp hr] at hverify
  obtain ⟨-, hproved⟩ := verifyResource_eq_some hverify
  refine AbsenceFinding.absenceProved_iff.mp (hproved.trans ?_)
  decide

/-- A first run, with the reservation still held, comes out clean. -/
theorem guestGone_first_run_clean :
    (∀ f ∈ @verifyAbsence Unicode.ascii [standingGuest] guestGone,
      f.probeHealthy = true ∧ f.outcome = .removed) ∧
    ∃ releases ledger',
      @releaseProvedAllocations Unicode.ascii
          (releasableAllocations (@verifyAbsence Unicode.ascii [standingGuest] guestGone) [])
          guestIdLedger = .ok (releases, ledger') ∧
        (@zeroResidueProof Unicode.ascii (@verifyAbsence Unicode.ascii [standingGuest] guestGone)
          [standingGuest] []
          (releasableAllocations (@verifyAbsence Unicode.ascii [standingGuest] guestGone) [])
          releases.released releases.retained).verdict = .clean := by
  let _ := Unicode.ascii
  refine ⟨guestGone_proved, ?_⟩
  obtain ⟨releases, ledger', hrun, hiff⟩ :=
    retried_verdict_clean_iff [standingGuest] guestGone guestIdLedger guestGone_proved
  have hreservations : reservations [standingGuest] = [(.vmidReservation, guestIdKey)] := by
    with_unfolding_all decide
  refine ⟨releases, ledger', hrun, hiff.mpr ⟨List.cons_ne_nil _ _, ?_, ?_⟩⟩
  · intro r hr hdomain
    rw [List.mem_singleton.mp hr] at hdomain
    cases hdomain
  · intro p hp last hlast
    have hmem := (lastReservation_eq_some hlast).1
    rw [hreservations, List.mem_singleton] at hmem
    rw [hmem]
    with_unfolding_all decide

/-- A second run finds the reservation released already and is not clean. -/
theorem guestGone_second_run_unproven :
    (∀ f ∈ @verifyAbsence Unicode.ascii [standingGuest] guestGone,
      f.probeHealthy = true ∧ f.outcome = .removed) ∧
    ∃ releases ledger',
      @releaseProvedAllocations Unicode.ascii
          (releasableAllocations (@verifyAbsence Unicode.ascii [standingGuest] guestGone) [])
          AllocationLedger.empty = .ok (releases, ledger') ∧
        (@zeroResidueProof Unicode.ascii (@verifyAbsence Unicode.ascii [standingGuest] guestGone)
          [standingGuest] []
          (releasableAllocations (@verifyAbsence Unicode.ascii [standingGuest] guestGone) [])
          releases.released releases.retained).verdict = .unproven := by
  let _ := Unicode.ascii
  refine ⟨guestGone_proved,
    ⟨[], [], releasableAllocations (verifyAbsence [standingGuest] guestGone) []⟩,
    AllocationLedger.empty, ?_, ?_⟩
  · with_unfolding_all decide
  · with_unfolding_all decide

end Secp.Worker
