import Secp.Proxmox.Room

/-!
# Giving out names

A name is what the compiler proposes, or the proposal with the first discriminator that is free. Given out
one after the other, the names depend on the names in use and on each other only, so whether there is one
for everything can be told without a ledger. `Holds` is what ties a ledger to the names given out so far.
-/

namespace Secp.Proxmox

open Secp.Python Secp.Logic AllocationLedger

/-- A name to be given: what it is recorded under, and what is proposed. -/
structure NameAsk where
  scope : Scope
  purpose : Str
  candidate : Str

def NameAsk.key (ask : NameAsk) : Scope × Str := (ask.scope, ask.purpose)

section
variable [Unicode] {kind : AllocationKind} {bound : Option Int}

/-- The proposed name if it is free, else the first free one with a discriminator. -/
def freeName (kind : AllocationKind) (bound : Option Int) (ask : NameAsk) (taken : List Str) :
    Option Str :=
  let base := boundName ask.candidate bound
  if lower base ∉ taken then some base
  else
    firstFree
      (fun step => discriminated base bound (digestOffset ask.scope ask.purpose kind.value + step))
      (fun attempt => lower attempt ∉ taken) 256 0

/-- The names given out one after the other, each free of those in use and those before it. -/
def drawNames (kind : AllocationKind) (bound : Option Int) (inUse : List Str) :
    List Str → List NameAsk → Option (List Str)
  | _, [] => some []
  | held, ask :: rest => do
      let name ← freeName kind bound ask ((inUse ++ held).map lower)
      let names ← drawNames kind bound inUse (held ++ [name]) rest
      pure (name :: names)

theorem freeName_congr {ask : NameAsk} {taken taken' : List Str} (h : ∀ x, x ∈ taken ↔ x ∈ taken') :
    freeName kind bound ask taken = freeName kind bound ask taken' := by
  simp only [freeName, h]

theorem chooseName_eq_ok_iff {ask : NameAsk} {inUse : List Str} {ledger : AllocationLedger} {name : Str} :
    chooseName ask.scope ask.purpose kind ask.candidate inUse bound ledger = .ok name ↔
      freeName kind bound ask (inUse.map lower ++ (ledger.reserved kind).map lower) = some name := by
  unfold chooseName freeName
  dsimp only
  split
  · simp
  · split
    · next hwalk =>
        rw [hwalk]
        exact ⟨fun h => congrArg some (Except.ok.inj h), fun h => congrArg Except.ok (Option.some.inj h)⟩
    · next hwalk =>
        rw [hwalk]
        exact iff_of_false (fun h => by cases h) (fun h => by cases h)

theorem drawNames_length {inUse held names : List Str} {asks : List NameAsk}
    (h : drawNames kind bound inUse held asks = some names) : names.length = asks.length := by
  induction asks generalizing held names with
  | nil =>
      cases h
      rfl
  | cons ask rest ih =>
      obtain ⟨name, -, h⟩ := Option.bind_eq_some_iff.mp h
      obtain ⟨others, hothers, h⟩ := Option.bind_eq_some_iff.mp h
      cases h
      rw [List.length_cons, List.length_cons, ih hothers]

/-- Names for more requests go on from those given out. -/
theorem drawNames_append {inUse held : List Str} {asks more : List NameAsk} :
    drawNames kind bound inUse held (asks ++ more) =
      (drawNames kind bound inUse held asks).bind fun names =>
        (drawNames kind bound inUse (held ++ names) more).map (names ++ ·) := by
  induction asks generalizing held with
  | nil => simp [drawNames]
  | cons ask rest ih =>
      rw [List.cons_append, drawNames, drawNames]
      cases freeName kind bound ask ((inUse ++ held).map lower) with
      | none => rfl
      | some name =>
          show (drawNames kind bound inUse (held ++ [name]) (rest ++ more)).bind _ =
            Option.bind ((drawNames kind bound inUse (held ++ [name]) rest).bind _) _
          rw [ih]
          cases drawNames kind bound inUse (held ++ [name]) rest with
          | none => rfl
          | some names =>
              show Option.bind (Option.map _ (drawNames _ _ _ (held ++ [name] ++ names) more)) _ =
                Option.map _ (drawNames _ _ _ (held ++ name :: names) more)
              rw [List.append_assoc, List.singleton_append]
              cases drawNames kind bound inUse (held ++ name :: names) more <;> rfl

/-- One more name is the first free one. -/
theorem drawNames_concat {inUse names' : List Str} {asks : List NameAsk} {ask : NameAsk} :
    drawNames kind bound inUse [] (asks ++ [ask]) = some names' ↔
      ∃ names name, drawNames kind bound inUse [] asks = some names ∧
        freeName kind bound ask ((inUse ++ names).map lower) = some name ∧ names' = names ++ [name] := by
  rw [drawNames_append, Option.bind_eq_some_iff]
  refine exists_congr fun names => ?_
  have hlast : drawNames kind bound inUse ([] ++ names) [ask] =
      (freeName kind bound ask ((inUse ++ names).map lower)).map fun name => [name] := by
    rw [drawNames, List.nil_append]
    cases freeName kind bound ask ((inUse ++ names).map lower) <;> rfl
  rw [hlast, Option.map_map, Option.map_eq_some_iff]
  constructor
  · intro h
    obtain ⟨hnames, name, hname, rfl⟩ := h
    exact ⟨name, hnames, hname, rfl⟩
  · intro h
    obtain ⟨name, hnames, hname, rfl⟩ := h
    exact ⟨hnames, name, hname, rfl⟩

theorem drawNames_of_append {inUse names : List Str} {asks more : List NameAsk}
    (h : drawNames kind bound inUse [] (asks ++ more) = some names) :
    ∃ first rest, drawNames kind bound inUse [] asks = some first ∧ names = first ++ rest := by
  rw [drawNames_append] at h
  obtain ⟨first, hfirst, h⟩ := Option.bind_eq_some_iff.mp h
  obtain ⟨rest, -, rfl⟩ := Option.map_eq_some_iff.mp h
  exact ⟨first, rest, hfirst, rfl⟩

/-- Names given out differ from each other and from those in use. -/
theorem drawNames_nodup {inUse names : List Str} {asks : List NameAsk}
    (h : drawNames kind bound inUse [] asks = some names) : names.Nodup := by
  induction asks using List.reverseRecOn generalizing names with
  | nil =>
      cases h
      exact List.nodup_nil
  | append_singleton asks ask ih =>
      obtain ⟨before, name, hbefore, hname, rfl⟩ := drawNames_concat.mp h
      refine List.nodup_append'.mpr ⟨ih hbefore, List.nodup_singleton _, fun x hx hx' => ?_⟩
      obtain rfl := List.mem_singleton.mp hx'
      have hfree : lower x ∉ (inUse ++ before).map lower := by
        unfold freeName at hname
        dsimp only at hname
        split at hname
        · next hfree => exact Option.some.inj hname ▸ hfree
        · exact of_decide_eq_true (firstFree_sound hname).1
      exact hfree (List.mem_map_of_mem (List.mem_append_right _ hx))

/-! ## What a ledger holds -/

/-- The names of a kind in a ledger are those given out for these requests. -/
structure Holds (kind : AllocationKind) (asks : List NameAsk) (names : List Str)
    (ledger : AllocationLedger) : Prop where
  unsealed : ledger.isSealed = false
  names : (ledger.records.filter fun a => a.kind = kind).map Allocation.value = names
  keys : ∀ a ∈ ledger.records, a.kind = kind → (a.scope, a.purpose) ∈ asks.map NameAsk.key

variable {asks : List NameAsk} {names : List Str} {ledger ledger' : AllocationLedger}

omit [Unicode] in
theorem Holds.empty (kind : AllocationKind) : Holds kind [] [] AllocationLedger.empty :=
  ⟨rfl, rfl, fun _ ha => (List.not_mem_nil ha).elim⟩

omit [Unicode] in
/-- A record of another kind does not matter. -/
theorem Holds.insert_other (h : Holds kind asks names ledger) {a : Allocation}
    (hnew : a.key ∉ ledger.records.map Allocation.key) (hkind : a.kind ≠ kind) :
    Holds kind asks names (ledger.insert a hnew) := by
  refine ⟨h.unsealed, ?_, fun b hb hb' => ?_⟩
  · show ((ledger.records ++ [a]).filter _).map _ = _
    rw [List.filter_append, List.filter_singleton, decide_eq_false hkind, cond_false, List.append_nil]
    exact h.names
  · rcases List.mem_append.mp hb with hb | hb
    · exact h.keys b hb hb'
    · rw [List.mem_singleton.mp hb] at hb'
      exact absurd hb' hkind

omit [Unicode] in
theorem Holds.adds (h : Holds kind asks names ledger) {other : AllocationKind}
    (hadds : AddsOne other ledger ledger') (hkind : other ≠ kind) : Holds kind asks names ledger' := by
  rcases hadds with rfl | hinsert
  · exact h
  · obtain ⟨a, hkey, rfl, rfl⟩ := hinsert
    exact h.insert_other hkey hkind

omit [Unicode] in
/-- A key that was not asked for holds nothing of the kind. -/
theorem Holds.fresh (h : Holds kind asks names ledger) {scope : Scope} {purpose : Str}
    (hnew : (scope, purpose) ∉ asks.map NameAsk.key) :
    (scope, kind, purpose) ∉ ledger.records.map Allocation.key := by
  intro hmem
  obtain ⟨a, ha, heq⟩ := List.mem_map.mp hmem
  obtain ⟨hscope, hkind⟩ := Prod.mk.inj heq
  obtain ⟨hkind, hpurpose⟩ := Prod.mk.inj hkind
  refine hnew ?_
  rw [← hscope, ← hpurpose]
  exact h.keys a ha hkind

omit [Unicode] in
/-- A name given out is held. -/
theorem Holds.insert (h : Holds kind asks names ledger) {ask : NameAsk} {name : Str}
    (hnew : Allocation.key ⟨kind, ask.scope, ask.purpose, name⟩ ∉ ledger.records.map Allocation.key) :
    Holds kind (asks ++ [ask]) (names ++ [name]) (ledger.insert ⟨kind, ask.scope, ask.purpose, name⟩ hnew) := by
  refine ⟨h.unsealed, ?_, fun b hb hb' => ?_⟩
  · show ((ledger.records ++ [_]).filter _).map _ = _
    rw [List.filter_append, List.filter_singleton, decide_eq_true rfl, cond_true, List.map_append, h.names]
    rfl
  · rw [List.map_append]
    rcases List.mem_append.mp hb with hb | hb
    · exact List.mem_append_left _ (h.keys b hb hb')
    · rw [List.mem_singleton.mp hb]
      exact List.mem_append_right _ (List.mem_singleton_self _)

/-- A name asked for under a new key is the first free one, and is recorded. -/
theorem Holds.allocateName_eq_ok_iff (h : Holds kind asks names ledger) {ownership : Ownership}
    {purpose candidate field reason name : Str} {inUse : List Str}
    (hnew : (ownership.scopeKey, purpose) ∉ asks.map NameAsk.key) :
    allocateName ownership purpose kind candidate (some inUse) field reason bound ledger =
        .ok (name, ledger') ↔
      freeName kind bound ⟨ownership.scopeKey, purpose, candidate⟩ ((inUse ++ names).map lower) =
        some name ∧ ∃ hkey, ledger' = ledger.insert ⟨kind, ownership.scopeKey, purpose, name⟩ hkey := by
  have htaken : ∀ x, x ∈ inUse.map lower ++ (ledger.reserved kind).map lower ↔
      x ∈ (inUse ++ names).map lower := by
    intro x
    rw [List.map_append, List.mem_append, List.mem_append]
    refine or_congr Iff.rfl ?_
    rw [List.mem_map, List.mem_map]
    refine exists_congr fun value => and_congr ?_ Iff.rfl
    rw [← h.names, AllocationLedger.reserved, List.mem_dedup]
  rw [allocateName_some, allocate_eq_ok_iff]
  have hchoose : chooseName ownership.scopeKey purpose kind candidate inUse bound ledger = .ok name ↔
      freeName kind bound ⟨ownership.scopeKey, purpose, candidate⟩ ((inUse ++ names).map lower) =
        some name := by
    rw [← freeName_congr htaken]
    exact @chooseName_eq_ok_iff _ _ _ ⟨ownership.scopeKey, purpose, candidate⟩ _ _ _
  constructor
  · intro hcases
    rcases hcases with ⟨a, hget, -⟩ | ⟨hkey, hname, -, hledger⟩
    · rw [get_eq_none_iff.mpr (h.fresh hnew)] at hget
      cases hget
    · exact ⟨hchoose.mp hname, hkey, hledger⟩
  · intro hname
    obtain ⟨hname, hkey, hledger⟩ := hname
    exact .inr ⟨hkey, hchoose.mpr hname, h.unsealed, hledger⟩

/-- Where the names in use are known, a name is found or an exception is raised: nothing is missing. -/
theorem informed_allocateName {ownership : Ownership} {purpose candidate field reason : Str}
    {inUse : List Str} :
    Informed (allocateName ownership purpose kind candidate (some inUse) field reason bound ledger) := by
  rw [allocateName_some]
  refine informed_allocate (fun value => Informed.ok value) fun prerequisite => ?_
  unfold chooseName
  dsimp only
  split
  · simp
  · split <;> simp

/-! ## What a name looks like -/

omit [Unicode] in
theorem boundName_eq (candidate : Str) (bound : Nat) :
    boundName candidate (some (bound : Int)) = candidate.take bound := by
  unfold boundName
  dsimp only
  split
  · rw [takeInt, if_pos (Int.natCast_nonneg bound), Int.toNat_natCast]
  · rw [List.take_of_length_le (by omega)]

omit [Unicode] in
theorem discriminated_eq (base : Str) {bound : Nat} (h : 2 ≤ bound) (n : Nat) :
    discriminated base (some (bound : Int)) n = base.take (bound - 2) ++ hex2 (n % 256) := by
  have hlength : ((hex2 (n % 256)).length : Int) = 2 := rfl
  unfold discriminated
  dsimp only
  rw [hlength, takeInt, if_pos (by omega)]
  congr 2
  omega

/-- A name drawn within a bound is the proposal cut to it, or cut further for a discriminator. -/
theorem shape_of_freeName {bound : Nat} {ask : NameAsk} {name : Str} {taken : List Str}
    (hbound : 2 ≤ bound) (h : freeName kind (some (bound : Int)) ask taken = some name) :
    name = ask.candidate.take bound ∨
      ∃ n, name = (ask.candidate.take bound).take (bound - 2) ++ hex2 (n % 256) := by
  unfold freeName at h
  dsimp only at h
  rw [boundName_eq] at h
  split at h
  · exact .inl (Option.some.inj h).symm
  · obtain ⟨-, i, hi⟩ := firstFree_sound h
    rw [discriminated_eq _ hbound] at hi
    exact .inr ⟨_, hi.symm⟩

/-- A name starts as the proposal does and goes on with what the proposal has or a discriminator. -/
theorem exists_of_freeName {bound : Nat} {ok : Char → Bool} {c : Char} {rest : Str}
    {scope : Scope} {purpose name : Str} {taken : List Str} (hbound : 3 ≤ bound)
    (hrest : ∀ d ∈ rest, ok d = true) (hhex : ∀ i < 16, ok (hexDigit i) = true)
    (h : freeName kind (some (bound : Int)) ⟨scope, purpose, c :: rest⟩ taken = some name) :
    ∃ rest', name = c :: rest' ∧ rest'.length < bound ∧ ∀ d ∈ rest', ok d = true := by
  obtain ⟨k, rfl⟩ : ∃ k, bound = k + 3 := ⟨bound - 3, by omega⟩
  have hshape := @shape_of_freeName _ kind (k + 3) _ _ _ (by omega) h
  rw [show k + 3 - 2 = k + 1 by omega] at hshape
  rcases hshape with rfl | ⟨n, rfl⟩
  · refine ⟨rest.take (k + 2), rfl, ?_, fun d hd => hrest d (List.mem_of_mem_take hd)⟩
    rw [List.length_take]
    omega
  · refine ⟨(rest.take (k + 2)).take k ++ hex2 (n % 256), rfl, ?_, fun d hd => ?_⟩
    · rw [List.length_append, List.length_take]
      show _ + 2 < _
      omega
    · rcases List.mem_append.mp hd with hd | hd
      · exact hrest d (List.mem_of_mem_take (List.mem_of_mem_take hd))
      · rcases List.mem_pair.mp hd with rfl | rfl
        · exact hhex _ (Nat.mod_lt _ (by decide))
        · exact hhex _ (Nat.mod_lt _ (by decide))

end

end Secp.Proxmox
