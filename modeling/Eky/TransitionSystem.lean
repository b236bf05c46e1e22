import Mathlib.Logic.Basic

/-! # Transition systems — what holds in every reachable state

    A system has initial states and steps.  A property of all reachable states
    is proved by showing that it holds initially and that no step breaks it:
    `Reachable.invariant` does the induction once. -/

/-- A system over the states `σ`. -/
structure TransitionSystem (σ : Type) where
  initial : σ → Prop
  step : σ → σ → Prop

namespace TransitionSystem

variable {σ : Type}

/-- The states that a run can reach. -/
inductive Reachable (system : TransitionSystem σ) : σ → Prop
  | initial {s : σ} (h : system.initial s) : Reachable system s
  | step {s t : σ} (hs : Reachable system s) (h : system.step s t) : Reachable system t

/-- **INVARIANT RULE**: what holds initially and survives every step taken from a
    reachable state, holds in every reachable state. -/
theorem Reachable.invariant {system : TransitionSystem σ} {P : σ → Prop}
    (hinitial : ∀ s, system.initial s → P s)
    (hstep : ∀ s t, Reachable system s → P s → system.step s t → P t)
    {s : σ} (h : Reachable system s) : P s := by
  induction h with
  | initial h => exact hinitial _ h
  | step hs h ih => exact hstep _ _ hs ih h

/-- A system with fewer initial states and steps reaches no other states. -/
theorem Reachable.mono {small large : TransitionSystem σ}
    (hinitial : ∀ s, small.initial s → large.initial s)
    (hstep : ∀ s t, small.step s t → large.step s t) {s : σ} (h : Reachable small s) :
    Reachable large s := by
  induction h with
  | initial h => exact .initial (hinitial _ h)
  | step _ h ih => exact .step ih (hstep _ _ h)

end TransitionSystem
