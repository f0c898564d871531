import Mathlib.Data.List.Basic

/-! # Poll-style sources

A source answers each poll with `pending` or with a value, and moves to a next
state. Nothing else is assumed, so one state type covers every schedule of
answers: any chunk sizes, pending polls, an end or an error at any point.
-/

inductive Poll (α : Type) where
  | pending
  | ready (value : α)
  deriving DecidableEq, Repr

namespace Poll

def isPending {α : Type} : Poll α → Bool
  | pending => true
  | ready _ => false

/-- Drive a polled machine once for each input, keeping every answer in order. -/
def run {σ ι α : Type} (poll : ι → σ → α × σ) : List ι → σ → List α × σ
  | [], state => ([], state)
  | input :: rest, state =>
      let (answer, next) := poll input state
      let (answers, last) := run poll rest next
      (answer :: answers, last)

/-- The first answers of a machine that takes no input, and the state they lead to. -/
def first {σ α : Type} (poll : σ → α × σ) : Nat → σ → List α × σ
  | 0, state => ([], state)
  | count + 1, state =>
      let (answer, next) := poll state
      let (answers, last) := first poll count next
      (answer :: answers, last)

/-- One poll of a run: the state before it, its input and its answer. -/
structure Record (σ ι α : Type) where
  before : σ
  input : ι
  answer : α

/-- The polls of a run, in order. -/
def trace {σ ι α : Type} (poll : ι → σ → α × σ) : List ι → σ → List (Record σ ι α)
  | [], _ => []
  | input :: rest, state =>
      ⟨state, input, (poll input state).1⟩ :: trace poll rest (poll input state).2

variable {σ ι α : Type} {poll : ι → σ → α × σ}

@[simp] theorem isPending_pending : (pending : Poll α).isPending = true := rfl

@[simp] theorem isPending_ready (value : α) : (ready value).isPending = false := rfl

@[simp] theorem run_nil (state : σ) : run poll [] state = ([], state) := rfl

@[simp] theorem run_cons (input : ι) (rest : List ι) (state : σ) :
    run poll (input :: rest) state =
      ((poll input state).1 :: (run poll rest (poll input state).2).1,
        (run poll rest (poll input state).2).2) := rfl

theorem run_append (earlier later : List ι) (state : σ) :
    run poll (earlier ++ later) state =
      ((run poll earlier state).1 ++ (run poll later (run poll earlier state).2).1,
        (run poll later (run poll earlier state).2).2) := by
  induction earlier generalizing state with
  | nil => rfl
  | cons input rest ih => rw [List.cons_append, run_cons, ih, run_cons]; rfl

/-- A property of states kept by every poll holds after every run. -/
theorem run_invariant {Inv : σ → Prop} (hstep : ∀ input state, Inv state → Inv (poll input state).2)
    (inputs : List ι) {state : σ} (hstart : Inv state) : Inv (run poll inputs state).2 := by
  induction inputs generalizing state with
  | nil => exact hstart
  | cons input rest ih => exact ih (hstep input state hstart)

/-- Every poll of a run meets a state of the invariant and answers as the machine does. -/
theorem trace_invariant {Inv : σ → Prop}
    (hstep : ∀ input state, Inv state → Inv (poll input state).2) (inputs : List ι) {state : σ}
    (hstart : Inv state) {record : Record σ ι α} (hrecord : record ∈ trace poll inputs state) :
    Inv record.before ∧ record.answer = (poll record.input record.before).1 := by
  induction inputs generalizing state with
  | nil => cases hrecord
  | cons input rest ih =>
      rcases List.mem_cons.mp hrecord with rfl | hrest
      · exact ⟨hstart, rfl⟩
      · exact ih (hstep input state hstart) hrest

theorem input_mem_of_mem_trace {inputs : List ι} {state : σ} {record : Record σ ι α}
    (hrecord : record ∈ trace poll inputs state) : record.input ∈ inputs := by
  induction inputs generalizing state with
  | nil => cases hrecord
  | cons input rest ih =>
      rcases List.mem_cons.mp hrecord with rfl | hrest
      · exact List.mem_cons_self
      · exact List.mem_cons_of_mem _ (ih hrest)

/-- When every poll takes what it hands out off the front of what is left, so does a run. -/
theorem run_conserved {γ : Type} {out : α → List γ} {left : σ → List γ}
    (hstep : ∀ input state, out (poll input state).1 ++ left (poll input state).2 = left state)
    (inputs : List ι) (state : σ) :
    (run poll inputs state).1.flatMap out ++ left (run poll inputs state).2 = left state := by
  induction inputs generalizing state with
  | nil => rfl
  | cons input rest ih =>
      rw [run_cons, List.flatMap_cons, List.append_assoc, ih, hstep]

/-- An answer that a latched state gives forever. -/
theorem run_latched {Latched : σ → Prop} {answer : α}
    (hanswer : ∀ input state, Latched state → (poll input state).1 = answer)
    (hstep : ∀ input state, Latched state → Latched (poll input state).2)
    (inputs : List ι) {state : σ} (hstart : Latched state) :
    (run poll inputs state).1 = List.replicate inputs.length answer := by
  induction inputs generalizing state with
  | nil => rfl
  | cons input rest ih =>
      rw [run_cons, List.length_cons, List.replicate_succ, hanswer input state hstart,
        ih (hstep input state hstart)]

/-! ## Machines that may fail -/

/-- Drive a machine whose polls may fail; a failure ends the run. -/
def run? {σ ι α : Type} (poll? : ι → σ → Option (α × σ)) : List ι → σ → Option (List α × σ)
  | [], state => some ([], state)
  | input :: rest, state =>
      (poll? input state).bind fun (answer, next) =>
        (run? poll? rest next).map fun (answers, last) => (answer :: answers, last)

section Fallible

variable {poll? : ι → σ → Option (α × σ)} {Fits : ι → σ → Prop}

theorem run?_cons_some {input : ι} {state : σ} (hpoll : poll? input state = some (poll input state))
    (rest : List ι) : run? poll? (input :: rest) state =
      (run? poll? rest (poll input state).2).map fun last =>
        ((poll input state).1 :: last.1, last.2) := by
  rw [run?, hpoll]
  rfl

/-- A machine that agrees with a total one on some conditions runs as that one while
they are met. -/
theorem run?_of_fits
    (hfits : ∀ input state, Fits input state → poll? input state = some (poll input state))
    (inputs : List ι) {state : σ}
    (hall : ∀ record ∈ trace poll inputs state, Fits record.input record.before) :
    run? poll? inputs state = some (run poll inputs state) := by
  induction inputs generalizing state with
  | nil => rfl
  | cons input rest ih =>
      obtain ⟨hinput, hrest⟩ := List.forall_mem_cons.mp hall
      rw [run?_cons_some (hfits input state hinput), ih hrest]
      rfl

/-- If it fails outside of them, it runs only then. -/
theorem fits_of_run?
    (hfits : ∀ input state, Fits input state → poll? input state = some (poll input state))
    (honly : ∀ input state, poll? input state ≠ none → Fits input state)
    (inputs : List ι) {state : σ} (hrun : run? poll? inputs state ≠ none) :
    ∀ record ∈ trace poll inputs state, Fits record.input record.before := by
  induction inputs generalizing state with
  | nil => simp [trace]
  | cons input rest ih =>
      have hinput : Fits input state := by
        apply honly
        intro hnone
        rw [run?, hnone] at hrun
        exact hrun rfl
      rw [run?_cons_some (hfits input state hinput), ne_eq, Option.map_eq_none_iff] at hrun
      exact List.forall_mem_cons.mpr ⟨hinput, ih hrun⟩

end Fallible

/-! ## Machines without input -/

@[simp] theorem first_zero (answers : σ → α × σ) (state : σ) :
    first answers 0 state = ([], state) := rfl

@[simp] theorem first_succ (answers : σ → α × σ) (count : Nat) (state : σ) :
    first answers (count + 1) state =
      ((answers state).1 :: (first answers count (answers state).2).1,
        (first answers count (answers state).2).2) := rfl

/-- Polls without input are the polls with the only input there is. -/
theorem run_unit (answers : σ → α × σ) (count : Nat) (state : σ) :
    run (fun (_ : Unit) => answers) (List.replicate count ()) state =
      first answers count state := by
  induction count generalizing state with
  | zero => rfl
  | succ count ih => rw [List.replicate_succ, run_cons, ih, first_succ]

end Poll
