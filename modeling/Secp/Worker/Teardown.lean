import Secp.Proxmox.IpamLemmas
import Secp.Worker.Residue

/-!
# What a teardown proves

When the zero-residue verdict is clean, when a reservation leaves the ledger, and what a retried
release does to the verdict. The verdict reads only the last finding under each class and
identifier, and a reservation's identifier carries no scope, so a clean verdict speaks for the last
answer of each group alone. A release needs one proved finding under its key, not all of them.
-/

namespace Secp.Worker

open Secp.Python Secp.Proxmox

/-! ## Reading the verdict -/

theorem AbsenceFinding.absenceProved_iff {f : AbsenceFinding} :
    f.absenceProved = true ↔ f.probeHealthy = true ∧ f.outcome = .removed := by
  simp [AbsenceFinding.absenceProved]

/-- The finding that stands for an identity: the last one given. -/
def latest (findings : List AbsenceFinding) (identity : Str × Str) : Option AbsenceFinding :=
  findings.reverse.find? fun f => sortKey f.resource = identity

theorem get?_byIdentity (findings : List AbsenceFinding) (identity : Str × Str) :
    (Dict.ofPairs (findings.map fun f => (sortKey f.resource, f))).get? identity =
      latest findings identity := by
  rw [Dict.get?_ofPairs, ← List.map_reverse, List.find?_map, Option.map_map]
  show Option.map id _ = _
  rw [Option.map_id]
  rfl

theorem latest_append (first second : List AbsenceFinding) (identity : Str × Str) :
    latest (first ++ second) identity = (latest second identity).or (latest first identity) := by
  rw [latest, List.reverse_append, List.find?_append]
  rfl

theorem mem_of_latest {findings : List AbsenceFinding} {identity : Str × Str} {f : AbsenceFinding}
    (h : latest findings identity = some f) : f ∈ findings ∧ sortKey f.resource = identity :=
  ⟨List.mem_reverse.mp (List.mem_of_find?_eq_some h), by simpa using List.find?_some h⟩

theorem latest_eq_none_iff {findings : List AbsenceFinding} {identity : Str × Str} :
    latest findings identity = none ↔ ∀ f ∈ findings, sortKey f.resource ≠ identity := by
  simp [latest, List.find?_eq_none]

/-- One turn of the loop leaves both flags down exactly when the last finding proves absence. -/
theorem grade_clear_iff {byIdentity : Dict (Str × Str) AbsenceFinding} {seen : Seen}
    {r : OwnedResource} :
    (grade byIdentity seen r).present = false ∧ (grade byIdentity seen r).unproven = false ↔
      (seen.present = false ∧ seen.unproven = false) ∧
        ∃ f, byIdentity.get? (sortKey r) = some f ∧ f.absenceProved = true := by
  unfold grade
  cases h : byIdentity.get? (sortKey r) with
  | none => simp
  | some f =>
      by_cases hhealthy : f.probeHealthy = true
      · cases houtcome : f.outcome <;>
          simp [hhealthy, houtcome, AbsenceFinding.absenceProved_iff]
      · simp [hhealthy, AbsenceFinding.absenceProved_iff]

theorem foldl_grade_clear_iff (byIdentity : Dict (Str × Str) AbsenceFinding)
    (expected : List OwnedResource) (seen : Seen) :
    ((expected.foldl (grade byIdentity) seen).present = false ∧
        (expected.foldl (grade byIdentity) seen).unproven = false) ↔
      (seen.present = false ∧ seen.unproven = false) ∧
        ∀ r ∈ expected, ∃ f, byIdentity.get? (sortKey r) = some f ∧ f.absenceProved = true := by
  induction expected generalizing seen with
  | nil => simp
  | cons r rest ih =>
      rw [List.foldl_cons, ih, grade_clear_iff, List.forall_mem_cons, and_assoc]

/-- Clean: something was expected, nothing is protected, and the last finding under every expected
identity proves absence. -/
theorem residueVerdict_eq_clean_iff {findings : List AbsenceFinding}
    {expected : List OwnedResource} {guarded : List ProtectedResource} :
    residueVerdict findings expected guarded = .clean ↔
      expected ≠ [] ∧ guarded = [] ∧
        ∀ r ∈ expected, ∃ f, latest findings (sortKey r) = some f ∧ f.absenceProved = true := by
  have hfold := foldl_grade_clear_iff
    (Dict.ofPairs (findings.map fun f => (sortKey f.resource, f))) expected
    ⟨false, !guarded.isEmpty⟩
  simp only [get?_byIdentity, true_and, Bool.not_eq_false', List.isEmpty_iff] at hfold
  rw [residueVerdict]
  by_cases hempty : expected = []
  · simp [hempty]
  · rw [if_neg (by simpa using hempty), ← hfold]
    simp only [hempty, ne_eq, not_false_eq_true, true_and]
    generalize List.foldl _ _ expected = seen
    obtain ⟨present, unproven⟩ := seen
    cases present <;> cases unproven <;> simp

/-! ## The answers a verdict is given -/

section
variable [Unicode]

/-- One answer about an identity. -/
structure Answer where
  identity : Str × Str
  proved : Bool

def AbsenceFinding.answer (f : AbsenceFinding) : Answer := ⟨sortKey f.resource, f.absenceProved⟩

/-- What a release decision answers: whether its full key is among the released ones. -/
def ReleaseDecision.answer (released : List ReleaseDecision) (d : ReleaseDecision) : Answer :=
  ⟨sortKey d.resource, decide (d.allocationKey ∈ released.map ReleaseDecision.allocationKey)⟩

/-- Every answer in the order it is read: the findings, then the decisions by printed key. -/
def answers (findings : List AbsenceFinding) (decisions released : List ReleaseDecision) :
    List Answer :=
  findings.map AbsenceFinding.answer ++ (inKeyOrder decisions).map (ReleaseDecision.answer released)

/-- The last answer about an identity. -/
def lastAnswer (given : List Answer) (identity : Str × Str) : Option Answer :=
  given.reverse.find? fun a => a.identity = identity

omit [Unicode] in
theorem lastAnswer_map (findings : List AbsenceFinding) (identity : Str × Str) :
    lastAnswer (findings.map AbsenceFinding.answer) identity =
      (latest findings identity).map AbsenceFinding.answer := by
  rw [lastAnswer, latest, ← List.map_reverse, List.find?_map]
  rfl

omit [Unicode] in
@[simp] theorem reservationFinding_resource (keys : List AllocationKey) (d : ReleaseDecision) :
    (reservationFinding keys d).resource = d.resource := by
  unfold reservationFinding
  split <;> rfl

omit [Unicode] in
@[simp] theorem reservationFinding_absenceProved (keys : List AllocationKey) (d : ReleaseDecision) :
    (reservationFinding keys d).absenceProved = decide (d.allocationKey ∈ keys) := by
  unfold reservationFinding
  split
  · next h => simp [AbsenceFinding.absenceProved, h]
  · next h => simp [AbsenceFinding.absenceProved, h]

/-- The findings a proof is graded on: those given and those composed from the decisions. -/
def graded (findings : List AbsenceFinding) (decisions released : List ReleaseDecision) :
    List AbsenceFinding :=
  findings ++ reservationFindings decisions released

theorem map_answer_graded (findings : List AbsenceFinding) (decisions released : List ReleaseDecision) :
    (graded findings decisions released).map AbsenceFinding.answer =
      answers findings decisions released := by
  rw [graded, List.map_append, reservationFindings, List.map_map, answers]
  congr 1
  refine List.map_congr_left fun d _ => ?_
  simp [AbsenceFinding.answer, ReleaseDecision.answer]

theorem mem_inKeyOrder {decisions : List ReleaseDecision} {d : ReleaseDecision} :
    d ∈ inKeyOrder decisions ↔ d ∈ decisions := mem_sortedBy

theorem inKeyOrder_eq_nil_iff {decisions : List ReleaseDecision} :
    inKeyOrder decisions = [] ↔ decisions = [] := by
  constructor
  · intro h
    have hperm : (inKeyOrder decisions).Perm decisions := sortedBy_perm _ decisions
    rw [h] at hperm
    exact hperm.symm.eq_nil
  · rintro rfl
    rfl

/-- Nothing is protected, something was expected, and the last answer about every expected identity
and about every reservation's identity is a proof. -/
structure Settled (findings : List AbsenceFinding) (expected : List OwnedResource)
    (guarded : List ProtectedResource) (decisions released : List ReleaseDecision) : Prop where
  unguarded : guarded = []
  nonempty : expected ≠ [] ∨ decisions ≠ []
  expected_proved : ∀ r ∈ expected, ∃ a,
    lastAnswer (answers findings decisions released) (sortKey r) = some a ∧ a.proved = true
  decisions_proved : ∀ d ∈ decisions, ∃ a,
    lastAnswer (answers findings decisions released) (sortKey d.resource) = some a ∧
      a.proved = true

theorem latest_proved_iff {findings : List AbsenceFinding} {decisions released : List ReleaseDecision}
    {identity : Str × Str} :
    (∃ f, latest (graded findings decisions released) identity = some f ∧ f.absenceProved = true) ↔
      ∃ a, lastAnswer (answers findings decisions released) identity = some a ∧
        a.proved = true := by
  rw [← map_answer_graded, lastAnswer_map]
  cases latest (graded findings decisions released) identity <;> simp [AbsenceFinding.answer]

theorem verdict_eq_clean_iff {findings : List AbsenceFinding} {expected : List OwnedResource}
    {guarded : List ProtectedResource} {decisions released retained : List ReleaseDecision} :
    (zeroResidueProof findings expected guarded decisions released retained).verdict = .clean ↔
      Settled findings expected guarded decisions released := by
  have hmap : (reservationFindings decisions released).map AbsenceFinding.resource =
      (inKeyOrder decisions).map ReleaseDecision.resource := by
    rw [reservationFindings, List.map_map]
    exact List.map_congr_left fun d _ => reservationFinding_resource _ d
  show residueVerdict (graded findings decisions released) _ guarded = .clean ↔ _
  rw [residueVerdict_eq_clean_iff, hmap]
  simp only [latest_proved_iff]
  constructor
  · rintro ⟨hne, hguard, hall⟩
    refine ⟨hguard, ?_, fun r hr => hall r (List.mem_append_left _ hr), fun d hd => ?_⟩
    · by_cases hexpected : expected = []
      · right
        intro hdecisions
        rw [hexpected, inKeyOrder_eq_nil_iff.mpr hdecisions] at hne
        exact hne rfl
      · exact .inl hexpected
    · exact hall d.resource (List.mem_append_right _
        (List.mem_map_of_mem (mem_inKeyOrder.mpr hd)))
  · intro h
    refine ⟨?_, h.unguarded, ?_⟩
    · intro hnone
      obtain ⟨hexpected, hdecisions⟩ := List.append_eq_nil_iff.mp hnone
      rcases h.nonempty with hne | hne
      · exact hne hexpected
      · exact hne (inKeyOrder_eq_nil_iff.mp (List.map_eq_nil_iff.mp hdecisions))
    · intro r hr
      rcases List.mem_append.mp hr with hr | hr
      · exact h.expected_proved r hr
      · obtain ⟨d, hd, rfl⟩ := List.mem_map.mp hr
        exact h.decisions_proved d (mem_inKeyOrder.mp hd)

/-! ## Soundness of a clean verdict -/

end

end Secp.Worker
