import Mathlib.Data.List.Basic

/-!
# Runs under a condition on every step

A machine takes its inputs one after the other; a run is a fold. `Along` says of a run that each of
its steps meets a condition on the state it starts from and on its input. What such a step keeps, the
run keeps.
-/

namespace Secp.Logic

variable {σ α : Type} {step : σ → α → σ} {P Q : σ → α → Prop} {I : σ → Prop} {s : σ}

/-- Every step of the run meets the condition. -/
def Along (step : σ → α → σ) (P : σ → α → Prop) : σ → List α → Prop
  | _, [] => True
  | s, a :: rest => P s a ∧ Along step P (step s a) rest

/-- A run under two conditions is a run under both. -/
theorem Along.and {inputs : List α} (hP : Along step P s inputs) (hQ : Along step Q s inputs) :
    Along step (fun s a => P s a ∧ Q s a) s inputs := by
  induction inputs generalizing s with
  | nil => trivial
  | cons a rest ih => exact ⟨⟨hP.1, hQ.1⟩, ih hP.2 hQ.2⟩

/-- A condition on the inputs alone. -/
theorem along_of_forall {P : α → Prop} {inputs : List α} (h : ∀ a ∈ inputs, P a) :
    Along step (fun _ a => P a) s inputs := by
  induction inputs generalizing s with
  | nil => trivial
  | cons a rest ih =>
      obtain ⟨ha, hrest⟩ := List.forall_mem_cons.mp h
      exact ⟨ha, ih hrest⟩

/-- A run in two parts. -/
theorem along_append {first second : List α} : Along step P s (first ++ second) ↔
    Along step P s first ∧ Along step P (first.foldl step s) second := by
  induction first generalizing s with
  | nil => exact (and_iff_right trivial).symm
  | cons a rest ih => exact (and_congr_right fun _ => ih).trans and_assoc.symm

/-- What a step keeps under the condition is kept by the run. -/
theorem Along.invariant {inputs : List α} (hstep : ∀ s a, I s → P s a → I (step s a)) (hs : I s)
    (h : Along step P s inputs) : I (inputs.foldl step s) := by
  induction inputs generalizing s with
  | nil => exact hs
  | cons a rest ih => exact ih (hstep s a hs h.1) h.2

/-! ## The inputs that matter -/

/-- The inputs of a run that change the state. -/
def effects [DecidableEq σ] (step : σ → α → σ) : σ → List α → List α
  | _, [] => []
  | s, a :: rest =>
      if step s a = s then effects step s rest else a :: effects step (step s a) rest

/-- What is kept by every input that changes the state holds of the run and the inputs that did. -/
theorem effects_invariant [DecidableEq σ] {I : σ → List α → Prop}
    (hstep : ∀ s log a, I s log → step s a ≠ s → I (step s a) (log ++ [a])) {log inputs : List α}
    (h : I s log) : I (inputs.foldl step s) (log ++ effects step s inputs) := by
  induction inputs generalizing s log with
  | nil => exact (List.append_nil log).symm ▸ h
  | cons a rest ih =>
      rw [effects, List.foldl_cons]
      split
      · next hsame => exact hsame.symm ▸ ih h
      · next hchanged =>
          have hrest := ih (hstep s log a h hchanged)
          rw [List.append_assoc] at hrest
          exact hrest

end Secp.Logic
