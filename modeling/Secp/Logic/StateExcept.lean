import Mathlib.Data.List.Forall2

/-!
# Programs that thread a state and may raise

Rules for programs in `StateT σ (Except ε)`. `Ensures` is a partial-correctness triple over the
runs that return, `Keeps` says how a run moves the state, and `Follows` compares a run of one
program with two runs of a second: from the same state, and again from a state above the end.

The notions have rules for `pure`, for sequencing and for a monadic fold; a compiler built from
these is then handled by proving the notion for its primitive steps.
-/

namespace Secp.Logic

variable {σ ε α β γ : Type}

/-- A program over a state that may raise. -/
abbrev Program (σ ε α : Type) := StateT σ (Except ε) α

/-! ## Running -/

theorem run_pure_eq_ok {a b : α} {s t : σ} :
    (pure a : Program σ ε α).run s = .ok (b, t) ↔ a = b ∧ s = t := by
  rw [StateT.run_pure]
  simp [Pure.pure, Except.pure]

theorem run_get_eq_ok {s a t : σ} :
    (get : Program σ ε σ).run s = .ok (a, t) ↔ s = a ∧ s = t := by
  rw [StateT.run_get]
  simp [Pure.pure, Except.pure]

/-- A sequence returns exactly when its parts do, the second from where the first ended. -/
theorem run_bind_eq_ok {c : Program σ ε α} {f : α → Program σ ε β} {b : β} {s t : σ} :
    (c >>= f).run s = .ok (b, t) ↔ ∃ a m, c.run s = .ok (a, m) ∧ (f a).run m = .ok (b, t) := by
  rw [StateT.run_bind]
  cases h : c.run s with
  | error e => simp [bind, Except.bind]
  | ok pair =>
      obtain ⟨a, m⟩ := pair
      constructor
      · intro hrest
        exact ⟨a, m, rfl, hrest⟩
      · rintro ⟨a', m', hfirst, hrest⟩
        cases hfirst
        exact hrest

/-- The last turn of a loop that has one. -/
theorem run_foldlM_last {step : β → γ → Program σ ε β} {xs : List γ} {b b' : β} {s t : σ}
    (hne : xs ≠ []) (h : (xs.foldlM step b).run s = .ok (b', t)) :
    ∃ x ∈ xs, ∃ a m, (step a x).run m = .ok (b', t) := by
  rw [← List.dropLast_append_getLast hne, List.foldlM_append] at h
  obtain ⟨a, m, _, h⟩ := run_bind_eq_ok.mp h
  rw [List.foldlM_cons] at h
  obtain ⟨c, n, hstep, h⟩ := run_bind_eq_ok.mp h
  rw [List.foldlM_nil] at h
  obtain ⟨rfl, rfl⟩ := run_pure_eq_ok.mp h
  exact ⟨_, List.getLast_mem hne, a, m, hstep⟩

/-- A computation that does not see the state. -/
theorem run_lift_eq_ok {c : Except ε α} {a : α} {s t : σ} :
    (liftM c : Program σ ε α).run s = .ok (a, t) ↔ c = .ok a ∧ s = t := by
  cases c <;>
    simp [liftM, monadLift, MonadLift.monadLift, StateT.lift, StateT.run, bind, Except.bind,
      Pure.pure, Except.pure]

theorem except_bind_eq_ok {c : Except ε α} {f : α → Except ε β} {b : β} :
    (c >>= f) = .ok b ↔ ∃ a, c = .ok a ∧ f a = .ok b := by
  cases c <;> simp [bind, Except.bind]

/-- A check and what follows it. -/
theorem except_unit_bind_eq_ok {c : Except ε Unit} {f : Unit → Except ε β} {b : β} :
    (c >>= f) = .ok b ↔ c = .ok () ∧ f () = .ok b := by
  cases c <;> simp [bind, Except.bind]

/-- A step that succeeds hands its value on. -/
theorem except_bind_of_ok {c : Except ε α} {f : α → Except ε β} {a : α} (h : c = .ok a) :
    (c >>= f) = f a := by
  rw [h]
  rfl

theorem except_map_eq_ok {c : Except ε α} {f : α → β} {b : β} :
    c.map f = .ok b ↔ ∃ a, c = .ok a ∧ f a = b := by
  cases c <;> simp [Except.map]

/-- What is done to the result is done at the end of a sequence. -/
theorem except_map_bind {c : Except ε α} {f : α → Except ε β} {g : β → γ} :
    (c >>= f).map g = c >>= fun a => (f a).map g := by
  cases c <;> rfl

/-- A check that raises unless its condition holds. -/
def ensure (condition : Bool) (error : ε) : Except ε Unit :=
  if condition then .ok () else .error error

@[simp] theorem ensure_eq_ok_iff {condition : Bool} {error : ε} :
    ensure condition error = .ok () ↔ condition = true := by
  unfold ensure
  cases condition <;> simp

theorem except_isOk_iff {c : Except ε Unit} : c.isOk = true ↔ c = .ok () := by
  cases c <;> simp [Except.isOk, Except.toBool]

/-- A computation that is seen to return has a value. -/
theorem exists_of_isOk {c : Except ε α} (h : c.isOk = true) : ∃ a, c = .ok a := by
  cases c with
  | error e => cases h
  | ok a => exact ⟨a, rfl⟩

/-- The same with a test of the value. -/
theorem exists_of_toOption_any {c : Except ε α} {p : α → Bool} (h : c.toOption.any p = true) :
    ∃ a, c = .ok a ∧ p a = true := by
  cases c with
  | error e => cases h
  | ok a => exact ⟨a, rfl, h⟩

/-- A checked map returns exactly when every item does, item by item. -/
theorem mapM_eq_ok_iff {f : α → Except ε β} {xs : List α} {ys : List β} :
    xs.mapM f = .ok ys ↔ List.Forall₂ (fun x y => f x = .ok y) xs ys := by
  induction xs generalizing ys with
  | nil =>
      rw [List.mapM_nil, List.forall₂_nil_left_iff]
      simp [Pure.pure, Except.pure, eq_comm]
  | cons x xs ih =>
      rw [List.mapM_cons, List.forall₂_cons_left_iff]
      constructor
      · intro h
        obtain ⟨y, hy, h⟩ := except_bind_eq_ok.mp h
        obtain ⟨rest, hrest, h⟩ := except_bind_eq_ok.mp h
        cases h
        exact ⟨y, rest, hy, ih.mp hrest, rfl⟩
      · rintro ⟨y, rest, hy, hrest, rfl⟩
        exact except_bind_eq_ok.mpr ⟨y, hy, except_bind_eq_ok.mpr ⟨rest, ih.mpr hrest, rfl⟩⟩

/-- A loop of checks passes when each check does. -/
theorem forM_eq_ok_iff {f : α → Except ε Unit} {xs : List α} :
    forM xs f = .ok () ↔ ∀ x ∈ xs, f x = .ok () := by
  induction xs with
  | nil => simp [Pure.pure, Except.pure]
  | cons x xs ih => rw [List.forM_cons, List.forall_mem_cons, except_unit_bind_eq_ok, ih]

/-- What each item is related to, as a list. -/
theorem exists_forall₂ {R : α → β → Prop} {xs : List α} (h : ∀ x ∈ xs, ∃ y, R x y) :
    ∃ ys, List.Forall₂ R xs ys := by
  induction xs with
  | nil => exact ⟨[], .nil⟩
  | cons x xs ih =>
      obtain ⟨y, hy⟩ := h x List.mem_cons_self
      obtain ⟨ys, hys⟩ := ih fun x hx => h x (List.mem_cons_of_mem _ hx)
      exact ⟨y :: ys, .cons hy hys⟩

/-- Related items that agree under two maps are mapped to the same list. -/
theorem map_eq_map_of_forall₂ {γ : Type} {R : α → β → Prop} {f : α → γ} {g : β → γ} {xs : List α}
    {ys : List β} (h : List.Forall₂ R xs ys) (hR : ∀ x y, R x y → f x = g y) :
    xs.map f = ys.map g := by
  induction h with
  | nil => rfl
  | cons hxy _ ih => rw [List.map_cons, List.map_cons, hR _ _ hxy, ih]

/-- Lists related item by item: each item on the left stands beside a partner. -/
theorem forall₂_exists_zip {R : α → β → Prop} {xs : List α} {ys : List β}
    (h : List.Forall₂ R xs ys) {x : α} (hx : x ∈ xs) : ∃ y, (x, y) ∈ xs.zip ys ∧ R x y := by
  induction h with
  | nil => cases hx
  | cons hhead _ ih =>
      rcases List.mem_cons.mp hx with rfl | hx
      · exact ⟨_, List.mem_cons_self, hhead⟩
      · obtain ⟨y, hy, hR⟩ := ih hx
        exact ⟨y, List.mem_cons_of_mem _ hy, hR⟩

theorem forall₂_exists_right {R : α → β → Prop} {xs : List α} {ys : List β}
    (h : List.Forall₂ R xs ys) {x : α} (hx : x ∈ xs) : ∃ y ∈ ys, R x y := by
  obtain ⟨y, hy, hR⟩ := forall₂_exists_zip h hx
  exact ⟨y, (List.of_mem_zip hy).2, hR⟩

theorem forall₂_exists_left {R : α → β → Prop} {xs : List α} {ys : List β}
    (h : List.Forall₂ R xs ys) {y : β} (hy : y ∈ ys) : ∃ x ∈ xs, R x y :=
  forall₂_exists_right h.flip hy

/-- What holds of any two items on the left carries over to their partners. -/
theorem forall₂_pairwise {R : α → β → Prop} {P : α → α → Prop} {Q : β → β → Prop} {xs : List α}
    {ys : List β} (h : List.Forall₂ R xs ys) (hP : xs.Pairwise P)
    (hcarry : ∀ x y x' y', R x y → R x' y' → P x x' → Q y y') : ys.Pairwise Q := by
  induction h with
  | nil => exact .nil
  | cons hhead hrest ih =>
      obtain ⟨hfirst, htail⟩ := List.pairwise_cons.mp hP
      refine List.pairwise_cons.mpr ⟨fun y' hy' => ?_, ih htail⟩
      obtain ⟨x', hx', hR⟩ := forall₂_exists_left hrest hy'
      exact hcarry _ _ _ _ hhead hR (hfirst x' hx')

/-- Every item of a checked map has its value in the result. -/
theorem exists_of_mapM_eq_ok {f : α → Except ε β} {xs : List α} {ys : List β}
    (h : xs.mapM f = .ok ys) {x : α} (hx : x ∈ xs) : ∃ y ∈ ys, f x = .ok y :=
  forall₂_exists_right (mapM_eq_ok_iff.mp h) hx

/-- A checked fold whose every step adds what belongs to its item adds what belongs to all items. -/
theorem foldlM_adds {δ : Type} {step : β → γ → Except ε β} {out : β → List δ} {added : γ → List δ}
    {xs : List γ} {b b' : β}
    (hstep : ∀ b x b', x ∈ xs → step b x = .ok b' → out b' = out b ++ added x)
    (h : xs.foldlM step b = .ok b') : out b' = out b ++ xs.flatMap added := by
  induction xs generalizing b with
  | nil =>
      rw [List.foldlM_nil] at h
      cases h
      exact (List.append_nil _).symm
  | cons x rest ih =>
      rw [List.foldlM_cons] at h
      obtain ⟨m, hm, h⟩ := except_bind_eq_ok.mp h
      rw [ih (fun b y b' hy => hstep b y b' (List.mem_cons_of_mem _ hy)) h,
        hstep b x m List.mem_cons_self hm, List.flatMap_cons, List.append_assoc]

/-! ## Values that are returned -/

/-- Every value a checked computation returns has the property. -/
def Returns (c : Except ε α) (P : α → Prop) : Prop := ∀ a, c = .ok a → P a

namespace Returns

variable {P : α → Prop} {Q : β → Prop}

theorem pure {a : α} (h : P a) : Returns (Pure.pure a : Except ε α) P := by
  intro b hb
  cases hb
  exact h

theorem throw (e : ε) : Returns (MonadExcept.throw e : Except ε α) P := by
  intro b hb
  cases hb

theorem bind {c : Except ε α} {f : α → Except ε β} (hc : Returns c P)
    (hf : ∀ a, P a → Returns (f a) Q) : Returns (c >>= f) Q := by
  intro b hb
  obtain ⟨a, ha, hb⟩ := except_bind_eq_ok.mp hb
  exact hf a (hc a ha) b hb

/-- Sequencing where the second part relies on nothing. -/
theorem bind_any {c : Except ε α} {f : α → Except ε β} (hf : ∀ a, Returns (f a) Q) :
    Returns (c >>= f) Q :=
  bind (P := fun _ => True) (fun _ _ => trivial) fun a _ => hf a

/-- What stands behind a refusal does not run. -/
theorem throw_bind (e : ε) {f : α → Except ε β} :
    Returns ((MonadExcept.throw e : Except ε α) >>= f) Q :=
  bind (P := fun _ => False) (throw e) fun _ h => h.elim

theorem mapM {f : α → Except ε β} (hf : ∀ x, Returns (f x) Q) (xs : List α) :
    Returns (xs.mapM f) fun ys => ∀ y ∈ ys, Q y := by
  intro ys hys y hy
  obtain ⟨x, _, hx⟩ := forall₂_exists_left (mapM_eq_ok_iff.mp hys) hy
  exact hf x y hx

/-- A fold returns what its steps keep. -/
theorem foldlM {step : β → γ → Except ε β} {xs : List γ} {b : β}
    (hstep : ∀ b, ∀ x ∈ xs, Q b → Returns (step b x) Q) (hb : Q b) :
    Returns (xs.foldlM step b) Q := by
  induction xs generalizing b with
  | nil => exact pure hb
  | cons x rest ih =>
      rw [List.foldlM_cons]
      refine bind (hstep b x List.mem_cons_self hb) fun b' hb' => ?_
      exact ih (fun b y hy => hstep b y (List.mem_cons_of_mem _ hy)) hb'

end Returns

/-! ## Invariants -/

/-- Every run that starts in `P` and returns, returns a value and a state in `Q`. -/
def Ensures (P : σ → Prop) (c : Program σ ε α) (Q : α → σ → Prop) : Prop :=
  ∀ s a t, P s → c.run s = .ok (a, t) → Q a t

/-- A fold keeps an invariant indexed by the items already processed; a step knows which items
surround its own. -/
theorem Ensures.foldlM {step : β → γ → Program σ ε β} (I : List γ → β → σ → Prop) {all : List γ}
    (hstep : ∀ done x rest b, all = done ++ x :: rest →
      Ensures (I done b) (step b x) (I (done ++ [x]))) (b : β) :
    Ensures (I [] b) (all.foldlM step b) (I all) := by
  have hgeneral : ∀ rest done b, all = done ++ rest →
      Ensures (I done b) (rest.foldlM step b) (I all) := by
    intro rest
    induction rest with
    | nil =>
        intro done b hall s b' t hs hrun
        rw [List.foldlM_nil] at hrun
        obtain ⟨rfl, rfl⟩ := run_pure_eq_ok.mp hrun
        rwa [hall, List.append_nil]
    | cons x rest ih =>
        intro done b hall s b' t hs hrun
        rw [List.foldlM_cons] at hrun
        obtain ⟨a, m, hfirst, hrest⟩ := run_bind_eq_ok.mp hrun
        exact ih (done ++ [x]) a (by simp [hall]) m b' t (hstep done x rest b hall s a m hs hfirst)
          hrest
  exact hgeneral all [] b rfl

/-- Every run that returns relates its first state to its last. -/
def Keeps (R : σ → σ → Prop) (c : Program σ ε α) : Prop :=
  ∀ s a t, c.run s = .ok (a, t) → R s t

namespace Keeps

variable {R : σ → σ → Prop}

theorem pure (hrefl : ∀ s, R s s) (a : α) : Keeps R (Pure.pure a : Program σ ε α) := by
  intro s b t hrun
  obtain ⟨rfl, rfl⟩ := run_pure_eq_ok.mp hrun
  exact hrefl s

theorem lift (hrefl : ∀ s, R s s) (c : Except ε α) : Keeps R (liftM c : Program σ ε α) := by
  intro s a t hrun
  obtain ⟨-, rfl⟩ := run_lift_eq_ok.mp hrun
  exact hrefl s

theorem bind (htrans : ∀ s t u, R s t → R t u → R s u) {c : Program σ ε α}
    {f : α → Program σ ε β} (hc : Keeps R c) (hf : ∀ a, Keeps R (f a)) : Keeps R (c >>= f) := by
  intro s b t hrun
  obtain ⟨a, m, hfirst, hsecond⟩ := run_bind_eq_ok.mp hrun
  exact htrans s m t (hc s a m hfirst) (hf a m b t hsecond)

theorem foldlM (hrefl : ∀ s, R s s) (htrans : ∀ s t u, R s t → R t u → R s u)
    {step : β → γ → Program σ ε β} (hstep : ∀ b x, Keeps R (step b x)) (xs : List γ) (b : β) :
    Keeps R (xs.foldlM step b) := by
  induction xs generalizing b with
  | nil =>
      rw [List.foldlM_nil]
      exact pure hrefl b
  | cons x xs ih =>
      rw [List.foldlM_cons]
      exact bind htrans (hstep b x) ih

end Keeps

/-! ## Exactly when a run returns -/

/-- From this state the program returns exactly when the condition holds, and what it returns then has
the property. -/
structure ReturnsIff (c : Program σ ε α) (s : σ) (C : Prop) (Q : α → σ → Prop) : Prop where
  returns : C → ∃ a t, c.run s = .ok (a, t)
  ensures : ∀ {a t}, c.run s = .ok (a, t) → C ∧ Q a t

namespace ReturnsIff

variable {C D : Prop} {P : α → σ → Prop} {Q : β → σ → Prop} {s : σ}

theorem pure {a : α} (h : P a s) : ReturnsIff (Pure.pure a : Program σ ε α) s True P := by
  refine ⟨fun _ => ⟨a, s, run_pure_eq_ok.mpr ⟨rfl, rfl⟩⟩, fun {b t} hrun => ?_⟩
  obtain ⟨rfl, rfl⟩ := run_pure_eq_ok.mp hrun
  exact ⟨trivial, h⟩

theorem congr {c : Program σ ε α} (h : ReturnsIff c s C P) (hiff : C ↔ D) : ReturnsIff c s D P := by
  refine ⟨fun hd => h.returns (hiff.mpr hd), fun {a t} hrun => ?_⟩
  obtain ⟨hc, hp⟩ := h.ensures hrun
  exact ⟨hiff.mp hc, hp⟩

/-- A run that returns also moves the state as every run of the program does. -/
theorem keeps {c : Program σ ε α} {R : σ → σ → Prop} (h : ReturnsIff c s C P) (hc : Keeps R c) :
    ReturnsIff c s C fun a t => P a t ∧ R s t := by
  refine ⟨h.returns, fun {a t} hrun => ?_⟩
  obtain ⟨hC, hP⟩ := h.ensures hrun
  exact ⟨hC, hP, hc s a t hrun⟩

theorem weaken {c : Program σ ε α} {P' : α → σ → Prop} (h : ReturnsIff c s C P)
    (hP : ∀ a t, C → P a t → P' a t) : ReturnsIff c s C P' := by
  refine ⟨h.returns, fun {a t} hrun => ?_⟩
  obtain ⟨hC, hrest⟩ := h.ensures hrun
  exact ⟨hC, hP a t hC hrest⟩

/-- A sequence returns when its parts do; the second is asked only where the first returned. -/
theorem bind {c : Program σ ε α} {f : α → Program σ ε β} (hc : ReturnsIff c s C P)
    (hf : ∀ a t, C → P a t → ReturnsIff (f a) t D Q) : ReturnsIff (c >>= f) s (C ∧ D) Q := by
  constructor
  · intro hboth
    obtain ⟨a, m, hfirst⟩ := hc.returns hboth.1
    obtain ⟨b, t, hsecond⟩ := (hf a m hboth.1 (hc.ensures hfirst).2).returns hboth.2
    exact ⟨b, t, run_bind_eq_ok.mpr ⟨a, m, hfirst, hsecond⟩⟩
  · intro b t hrun
    obtain ⟨a, m, hfirst, hsecond⟩ := run_bind_eq_ok.mp hrun
    obtain ⟨hC, hP⟩ := hc.ensures hfirst
    obtain ⟨hD, hQ⟩ := (hf a m hC hP).ensures hsecond
    exact ⟨⟨hC, hD⟩, hQ⟩

/-- A loop returns when the condition of all its items holds, if each turn returns when the condition
of the items up to its own does. -/
theorem foldlM {step : β → γ → Program σ ε β} {all : List γ} {C : List γ → Prop}
    (I : List γ → β → σ → Prop) (hmono : ∀ done rest, C (done ++ rest) → C done)
    (hstep : ∀ done x rest b s, all = done ++ x :: rest → C done → I done b s →
      ReturnsIff (step b x) s (C (done ++ [x])) (I (done ++ [x])))
    (hnil : C []) {b : β} (h : I [] b s) : ReturnsIff (all.foldlM step b) s (C all) (I all) := by
  have hgeneral : ∀ rest done b s, all = done ++ rest → C done → I done b s →
      ReturnsIff (rest.foldlM step b) s (C all) (I all) := by
    intro rest
    induction rest with
    | nil =>
        intro done b s hall hC hI
        rw [List.append_nil] at hall
        rw [List.foldlM_nil, hall]
        exact (pure hI).congr (iff_of_true trivial hC)
    | cons x rest ih =>
        intro done b s hall hC hI
        have hnext : all = (done ++ [x]) ++ rest := by
          rw [hall, List.append_assoc, List.singleton_append]
        rw [List.foldlM_cons]
        refine ((hstep done x rest b s hall hC hI).bind fun b' t hC' hI' =>
          ih (done ++ [x]) b' t hnext hC' hI').congr (and_iff_right_of_imp fun hC' => ?_)
        exact hmono (done ++ [x]) rest (hnext ▸ hC')
  exact hgeneral all [] b s rfl hnil h

end ReturnsIff

/-! ## Two runs of one program -/

/-- How a program may be run twice. Started under the invariant, `c` keeps it and moves upwards.
If its run ends well then it started well; `c'` makes the same run if the end is clear; and `c'`
started anywhere good above the end returns the same value and changes nothing. -/
structure Follows.Run (good clear : σ → Prop) (le : σ → σ → Prop) (c' : Program σ ε α) (s : σ)
    (a : α) (t : σ) : Prop where
  good_start : good t → good s
  same : good t → clear t → c'.run s = .ok (a, t)
  again : good t → ∀ u, good u → le t u → c'.run u = .ok (a, u)

def Follows (inv good clear : σ → Prop) (le : σ → σ → Prop) (c c' : Program σ ε α) : Prop :=
  ∀ s a t, inv s → c.run s = .ok (a, t) → inv t ∧ le s t ∧ Follows.Run good clear le c' s a t

namespace Follows

variable {inv good clear : σ → Prop} {le : σ → σ → Prop}

theorem pure (hrefl : ∀ s, le s s) (a : α) :
    Follows inv good clear le (Pure.pure a : Program σ ε α) (Pure.pure a) := by
  intro s b t hinv hrun
  obtain ⟨rfl, rfl⟩ := run_pure_eq_ok.mp hrun
  exact ⟨hinv, hrefl _, id, fun _ _ => hrun, fun _ _ _ _ => run_pure_eq_ok.mpr ⟨rfl, rfl⟩⟩

/-- Sequencing, where the second part may rely on what every run of the first returns. -/
theorem bind_of (htrans : ∀ s t u, le s t → le t u → le s u)
    (hclear : ∀ s t, le s t → clear t → clear s) {c c' : Program σ ε α}
    {f f' : α → Program σ ε β} {P : α → Prop} (hc : Follows inv good clear le c c')
    (hP : ∀ s a t, inv s → c.run s = .ok (a, t) → P a)
    (hf : ∀ a, P a → Follows inv good clear le (f a) (f' a)) :
    Follows inv good clear le (c >>= f) (c' >>= f') := by
  intro s b t hinv hrun
  obtain ⟨a, m, hfirst, hsecond⟩ := run_bind_eq_ok.mp hrun
  obtain ⟨hinvm, hsm, hc⟩ := hc s a m hinv hfirst
  obtain ⟨hinvt, hmt, hf⟩ := hf a (hP s a m hinv hfirst) m b t hinvm hsecond
  refine ⟨hinvt, htrans s m t hsm hmt, fun h => hc.good_start (hf.good_start h), ?_, ?_⟩
  · intro hgood hclr
    have hm := hc.same (hf.good_start hgood) (hclear m t hmt hclr)
    exact run_bind_eq_ok.mpr ⟨a, m, hm, hf.same hgood hclr⟩
  · intro hgood u hu htu
    have hm := hc.again (hf.good_start hgood) u hu (htrans m t u hmt htu)
    exact run_bind_eq_ok.mpr ⟨a, u, hm, hf.again hgood u hu htu⟩

theorem bind (htrans : ∀ s t u, le s t → le t u → le s u)
    (hclear : ∀ s t, le s t → clear t → clear s) {c c' : Program σ ε α}
    {f f' : α → Program σ ε β} (hc : Follows inv good clear le c c')
    (hf : ∀ a, Follows inv good clear le (f a) (f' a)) :
    Follows inv good clear le (c >>= f) (c' >>= f') :=
  bind_of htrans hclear (P := fun _ => True) hc (fun _ _ _ _ _ => trivial) fun a _ => hf a

theorem foldlM (hrefl : ∀ s, le s s) (htrans : ∀ s t u, le s t → le t u → le s u)
    (hclear : ∀ s t, le s t → clear t → clear s) {step step' : β → γ → Program σ ε β}
    (hstep : ∀ b x, Follows inv good clear le (step b x) (step' b x)) (xs : List γ) (b : β) :
    Follows inv good clear le (xs.foldlM step b) (xs.foldlM step' b) := by
  induction xs generalizing b with
  | nil =>
      rw [List.foldlM_nil, List.foldlM_nil]
      exact pure hrefl b
  | cons x xs ih =>
      rw [List.foldlM_cons, List.foldlM_cons]
      exact bind htrans hclear (hstep b x) ih

end Follows

end Secp.Logic
