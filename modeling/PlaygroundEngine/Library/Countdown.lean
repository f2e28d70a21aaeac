import Mathlib.Init

/-!
# Runs with a bounded number of counted steps

Each step of a transition system has a label, and the label a weight. Steps with a weight use up a
measure; the others are free and must not restore it. No run then weighs more than the measure it
starts with.
-/

namespace Library

set_option autoImplicit false

universe u v
variable {σ : Type u} {label : Type v} {step : σ → label → σ → Prop} {weight : label → Nat}

/-- A run with the weight of its steps. -/
inductive CountedRun (step : σ → label → σ → Prop) (weight : label → Nat) (first : σ) :
    Nat → σ → Prop where
  | refl : CountedRun step weight first 0 first
  | tail {count : Nat} {kind : label} {state next : σ} :
      CountedRun step weight first count state → step state kind next →
      CountedRun step weight first (count + weight kind) next

/-- What a step does to the measure, where an invariant holds. -/
structure CountsDown (step : σ → label → σ → Prop) (weight : label → Nat) (invariant : σ → Prop)
    (measure : σ → Nat) : Prop where
  keeps : ∀ {state kind next}, invariant state → step state kind next → invariant next
  uses : ∀ {state kind next}, invariant state → step state kind next →
    measure next + weight kind ≤ measure state

theorem CountedRun.preserves {invariant : σ → Prop}
    (hkeeps : ∀ {state kind next}, invariant state → step state kind next → invariant next)
    {first last : σ} {count : Nat} (hfirst : invariant first)
    (hrun : CountedRun step weight first count last) : invariant last := by
  induction hrun with
  | refl => exact hfirst
  | tail _ hstep ih => exact hkeeps ih hstep

namespace CountsDown

variable {invariant : σ → Prop} {measure : σ → Nat}

theorem run (h : CountsDown step weight invariant measure) {first last : σ} {count : Nat}
    (hfirst : invariant first) (hrun : CountedRun step weight first count last) :
    invariant last ∧ measure last + count ≤ measure first := by
  induction hrun with
  | refl => exact ⟨hfirst, Nat.le_refl _⟩
  | tail _ hstep ih =>
    have huses := h.uses ih.1 hstep
    exact ⟨h.keeps ih.1 hstep, by omega⟩

theorem count_le (h : CountsDown step weight invariant measure) {first last : σ} {count : Nat}
    (hfirst : invariant first) (hrun : CountedRun step weight first count last) :
    count ≤ measure first :=
  Nat.le_trans (Nat.le_add_left count _) (h.run hfirst hrun).2

end CountsDown

end Library
