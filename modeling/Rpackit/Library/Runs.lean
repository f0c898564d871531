import Mathlib.Logic.Basic

/-! # Runs of labelled transition systems

A run is a finite sequence of labelled steps. Everything proved about runs covers
every interleaving of the parties whose steps the labels name.
-/

inductive Run {σ ℓ : Type} (step : σ → ℓ → σ → Prop) : σ → List ℓ → σ → Prop
  | nil (state : σ) : Run step state [] state
  | cons {state middle stop : σ} {label : ℓ} {labels : List ℓ}
      (hstep : step state label middle) (hrest : Run step middle labels stop) :
      Run step state (label :: labels) stop

namespace Run

variable {σ ℓ : Type} {step : σ → ℓ → σ → Prop}

theorem append {start middle stop : σ} {first second : List ℓ}
    (hfirst : Run step start first middle) (hsecond : Run step middle second stop) :
    Run step start (first ++ second) stop := by
  induction hfirst with
  | nil => exact hsecond
  | cons hstep _ ih => exact .cons hstep (ih hsecond)

theorem split {start stop : σ} {first second : List ℓ}
    (hrun : Run step start (first ++ second) stop) :
    ∃ middle, Run step start first middle ∧ Run step middle second stop := by
  induction first generalizing start with
  | nil => exact ⟨start, .nil start, hrun⟩
  | cons label rest ih =>
      cases hrun with
      | cons hstep hrest =>
          obtain ⟨middle, hfirst, hsecond⟩ := ih hrest
          exact ⟨middle, .cons hstep hfirst, hsecond⟩

theorem single {state next : σ} {label : ℓ} (hstep : step state label next) :
    Run step state [label] next := .cons hstep (.nil next)

/-- Where each step has at most one result, so has each run. -/
theorem unique {start stop other : σ} {labels : List ℓ} (hrun : Run step start labels stop)
    (hother : Run step start labels other)
    (honly : ∀ state label first second, step state label first → step state label second →
      first = second) : stop = other := by
  induction hrun with
  | nil =>
      cases hother
      rfl
  | cons hstep _ ih =>
      cases hother with
      | cons hfirst hrest =>
          obtain rfl := honly _ _ _ _ hstep hfirst
          exact ih hrest

/-- A property kept by every step is kept by every run. -/
theorem invariant {Inv : σ → Prop}
    (hkeep : ∀ state label next, Inv state → step state label next → Inv next)
    {start stop : σ} {labels : List ℓ} (hrun : Run step start labels stop) (hstart : Inv start) :
    Inv stop := by
  induction hrun with
  | nil => exact hstart
  | cons hstep _ ih => exact ih (hkeep _ _ _ hstart hstep)

/-- A property of the labels so far and the state they led to, kept by every step. -/
theorem history {Inv : List ℓ → σ → Prop}
    (hkeep : ∀ labels state label next, Inv labels state → step state label next →
      Inv (labels ++ [label]) next)
    {start stop : σ} {labels : List ℓ} (hrun : Run step start labels stop)
    (hstart : Inv [] start) : Inv labels stop := by
  suffices hfrom : ∀ before, Inv before start → Inv (before ++ labels) stop from
    hfrom [] hstart
  clear hstart
  induction hrun with
  | nil => intro before hbefore; rwa [List.append_nil]
  | @cons _ _ _ label rest hstep _ ih =>
      intro before hbefore
      have hafter := ih (before ++ [label]) (hkeep _ _ _ _ hbefore hstep)
      rwa [List.append_assoc, List.singleton_append] at hafter

/-- A system that answers each step of another one, from alike states, with a step of the same
label to alike states has all its runs. -/
theorem lockstep {τ : Type} {other : τ → ℓ → τ → Prop} {Alike : σ → τ → Prop}
    {Allowed : ℓ → Prop} {start stop : σ} {labels : List ℓ} {twin : τ}
    (hrun : Run step start labels stop) (hallowed : ∀ label ∈ labels, Allowed label)
    (halike : Alike start twin)
    (hanswer : ∀ state twin label next, Allowed label → Alike state twin →
      step state label next → ∃ after, other twin label after ∧ Alike next after) :
    ∃ last, Run other twin labels last ∧ Alike stop last := by
  induction hrun generalizing twin with
  | nil => exact ⟨twin, .nil twin, halike⟩
  | cons hstep _ ih =>
      obtain ⟨hlabel, hlabels⟩ := List.forall_mem_cons.mp hallowed
      obtain ⟨middle, htwin, hmiddle⟩ := hanswer _ _ _ _ hlabel halike hstep
      obtain ⟨last, hrest, hlast⟩ := ih hlabels hmiddle
      exact ⟨last, .cons htwin hrest, hlast⟩

/-- Two systems whose steps agree in every state of an invariant have the same runs
from such a state. -/
theorem iff_of_invariant {other : σ → ℓ → σ → Prop} {Inv : σ → Prop}
    (hagree : ∀ state label next, Inv state → (step state label next ↔ other state label next))
    (hkeep : ∀ state label next, Inv state → step state label next → Inv next)
    {start stop : σ} {labels : List ℓ} (hstart : Inv start) :
    Run step start labels stop ↔ Run other start labels stop := by
  constructor
  · intro hrun
    induction hrun with
    | nil state => exact .nil state
    | cons hstep _ ih =>
        exact .cons ((hagree _ _ _ hstart).mp hstep) (ih (hkeep _ _ _ hstart hstep))
  · intro hrun
    induction hrun with
    | nil state => exact .nil state
    | cons hstep _ ih =>
        have hsame := (hagree _ _ _ hstart).mpr hstep
        exact .cons hsame (ih (hkeep _ _ _ hstart hsame))

end Run
