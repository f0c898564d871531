import Rpackit.Library.Runs

/-! # Programs that call an operating system

A program is a tree: it makes a call, and how it goes on depends on the reply. The system
answers a call by a relation, and between two calls other programs may move its state. A
run interleaves the calls of one program with such moves, in any order and number.

The rules below say what holds in every state of every run. An assertion between two calls
has to be stable, that is, kept by the moves of the others.
-/

inductive SystemCalls (C : Type) (R : C → Type) (α : Type) : Type
  | done (a : α)
  | call (c : C) (next : R c → SystemCalls C R α)

/-- How a system answers calls, and how others move its state. -/
structure CallSystem (C : Type) (R : C → Type) (σ : Type) where
  Answers : σ → (c : C) → R c → σ → Prop
  Moves : σ → σ → Prop

namespace SystemCalls

variable {C : Type} {R : C → Type} {σ α β γ ε : Type}

protected def bind : SystemCalls C R α → (α → SystemCalls C R β) → SystemCalls C R β
  | .done a, f => f a
  | .call c next, f => .call c fun reply => (next reply).bind f

/-- One call, with its reply as the value. -/
def perform (c : C) : SystemCalls C R (R c) := .call c .done

/-- Programs in a row, without a value. -/
def forEach (f : α → SystemCalls C R Unit) : List α → SystemCalls C R Unit
  | [] => .done ()
  | a :: rest => (f a).bind fun () => forEach f rest

/-- Programs in a row, each of which goes on with the value of the one before. -/
def foldl (f : β → α → SystemCalls C R β) : β → List α → SystemCalls C R β
  | b, [] => .done b
  | b, a :: rest => (f b a).bind fun next => foldl f next rest

/-! ## Runs -/

/-- One step of a program in a system: its next call, or a move of the others. -/
inductive Step (system : CallSystem C R σ) :
    SystemCalls C R α × σ → Option C → SystemCalls C R α × σ → Prop
  | call {c : C} {next : R c → SystemCalls C R α} {reply : R c} {state after : σ}
      (hanswers : system.Answers state c reply after) :
      Step system (.call c next, state) (some c) (next reply, after)
  | move {x : SystemCalls C R α} {state after : σ} (hmoves : system.Moves state after) :
      Step system (x, state) none (x, after)

/-- Some run leads from one configuration to the other. -/
def Reaches (system : CallSystem C R σ) (start stop : SystemCalls C R α × σ) : Prop :=
  ∃ labels, Run (Step system) start labels stop

theorem Reaches.refl (system : CallSystem C R σ) (config : SystemCalls C R α × σ) :
    Reaches system config config :=
  ⟨[], .nil config⟩

theorem Reaches.call {system : CallSystem C R σ} (c : C) {next : R c → SystemCalls C R α}
    {state after : σ} {stop : SystemCalls C R α × σ} (reply : R c)
    (hanswers : system.Answers state c reply after)
    (hrest : Reaches system (next reply, after) stop) :
    Reaches system (.call c next, state) stop := by
  obtain ⟨labels, hrun⟩ := hrest
  exact ⟨some c :: labels, .cons (.call hanswers) hrun⟩

theorem Reaches.trans {system : CallSystem C R σ} {start middle stop : SystemCalls C R α × σ}
    (hfirst : Reaches system start middle) (hsecond : Reaches system middle stop) :
    Reaches system start stop := by
  obtain ⟨first, hfirst⟩ := hfirst
  obtain ⟨second, hsecond⟩ := hsecond
  exact ⟨first ++ second, hfirst.append hsecond⟩

/-- A run of the first part is a run of the whole. -/
theorem Reaches.bind {system : CallSystem C R σ} {x y : SystemCalls C R α} {state stop : σ}
    (f : α → SystemCalls C R β) (hreaches : Reaches system (x, state) (y, stop)) :
    Reaches system (x.bind f, state) (y.bind f, stop) := by
  obtain ⟨labels, hrun⟩ := hreaches
  refine ⟨labels, ?_⟩
  generalize hconfig : (x, state) = config at hrun
  generalize hlast : (y, stop) = last at hrun
  induction hrun generalizing x state with
  | nil =>
      subst hconfig
      cases hlast
      exact .nil _
  | cons hstep _ ih =>
      subst hconfig
      subst hlast
      cases hstep with
      | call hanswers => exact .cons (.call hanswers) (ih rfl rfl)
      | move hmoves => exact .cons (.move hmoves) (ih rfl rfl)

/-- In every run from `state` each state is safe, and a value comes with its postcondition. -/
def Ensures (system : CallSystem C R σ) (Safe : σ → Prop) (x : SystemCalls C R α) (state : σ)
    (Post : α → σ → Prop) : Prop :=
  ∀ labels y stop, Run (Step system) (x, state) labels (y, stop) →
    Safe stop ∧ ∀ a, y = .done a → Post a stop

/-- An assertion that the others keep, and whose states are safe. -/
structure Stable (system : CallSystem C R σ) (Safe Inv : σ → Prop) : Prop where
  moves : ∀ state after, Inv state → system.Moves state after → Inv after
  safe : ∀ state, Inv state → Safe state

variable {system : CallSystem C R σ} {Safe : σ → Prop} {state after : σ}

theorem Stable.exists {ι : Type} {Inv : ι → σ → Prop} (hstable : ∀ i, Stable system Safe (Inv i)) :
    Stable system Safe fun state => ∃ i, Inv i state where
  moves := by
    rintro state after ⟨i, hstate⟩ hmoves
    exact ⟨i, (hstable i).moves state after hstate hmoves⟩
  safe := by
    rintro state ⟨i, hstate⟩
    exact (hstable i).safe state hstate

/-- What is said besides of no state at all. -/
theorem Stable.and {Inv : σ → Prop} {P : Prop} (hstable : P → Stable system Safe Inv) :
    Stable system Safe fun state => P ∧ Inv state where
  moves _ _ := fun ⟨hp, hstate⟩ hmoves => ⟨hp, (hstable hp).moves _ _ hstate hmoves⟩
  safe _ := fun ⟨hp, hstate⟩ => (hstable hp).safe _ hstate

theorem Ensures.mono {x : SystemCalls C R α} {Post Post' : α → σ → Prop}
    (hx : x.Ensures system Safe state Post) (hpost : ∀ a stop, Post a stop → Post' a stop) :
    x.Ensures system Safe state Post' := by
  intro labels y stop hrun
  obtain ⟨hsafe, hdone⟩ := hx labels y stop hrun
  exact ⟨hsafe, fun a ha => hpost a stop (hdone a ha)⟩

/-- What a program ensures it ensures after each of its steps. -/
theorem Ensures.step {x y : SystemCalls C R α} {Post : α → σ → Prop} {label : Option C}
    (hx : x.Ensures system Safe state Post) (hstep : Step system (x, state) label (y, after)) :
    y.Ensures system Safe after Post :=
  fun labels z stop hrun => hx (label :: labels) z stop (.cons hstep hrun)

theorem Ensures.safe {x : SystemCalls C R α} {Post : α → σ → Prop}
    (hx : x.Ensures system Safe state Post) : Safe state :=
  (hx [] x state (.nil _)).1

theorem Ensures.post {a : α} {Post : α → σ → Prop}
    (hx : (SystemCalls.done a : SystemCalls C R α).Ensures system Safe state Post) :
    Post a state :=
  (hx [] (.done a) state (.nil _)).2 a rfl

/-! ## Rules -/

theorem Ensures.done {Inv : σ → Prop} (hstable : Stable system Safe Inv) {a : α}
    (hstate : Inv state) {Post : α → σ → Prop} (hpost : ∀ stop, Inv stop → Post a stop) :
    (SystemCalls.done a : SystemCalls C R α).Ensures system Safe state Post := by
  intro labels y stop hrun
  have hkeep : ∀ (config : SystemCalls C R α × σ) label next,
      config.1 = .done a ∧ Inv config.2 → Step system config label next →
        next.1 = .done a ∧ Inv next.2 := by
    rintro ⟨x, before⟩ label ⟨z, later⟩ ⟨hx, hbefore⟩ hstep
    cases hstep with
    | call hanswers => cases hx
    | move hmoves => exact ⟨hx, hstable.moves _ _ hbefore hmoves⟩
  obtain ⟨rfl, hstop⟩ := Run.invariant hkeep hrun ⟨rfl, hstate⟩
  refine ⟨hstable.safe stop hstop, ?_⟩
  rintro _ ⟨⟩
  exact hpost stop hstop

theorem Ensures.call {Inv : σ → Prop} (hstable : Stable system Safe Inv) {c : C}
    {next : R c → SystemCalls C R α} {Post : α → σ → Prop} (hstate : Inv state)
    (hnext : ∀ before reply later, Inv before → system.Answers before c reply later →
      (next reply).Ensures system Safe later Post) :
    (SystemCalls.call c next).Ensures system Safe state Post := by
  intro labels y stop hrun
  generalize hconfig : (SystemCalls.call c next, state) = config at hrun
  generalize hlast : (y, stop) = last at hrun
  induction hrun generalizing state with
  | nil =>
      subst hconfig
      cases hlast
      refine ⟨hstable.safe _ hstate, ?_⟩
      rintro a ⟨⟩
  | cons hstep hrest ih =>
      subst hconfig
      subst hlast
      cases hstep with
      | call hanswers => exact hnext _ _ _ hstate hanswers _ _ _ hrest
      | move hmoves => exact ih (hstable.moves _ _ hstate hmoves) rfl rfl

/-- The rule for sequencing. -/
theorem Ensures.bind {x : SystemCalls C R α} {f : α → SystemCalls C R β} {Mid : α → σ → Prop}
    {Post : β → σ → Prop} (hx : x.Ensures system Safe state Mid)
    (hf : ∀ a middle, Mid a middle → (f a).Ensures system Safe middle Post) :
    (x.bind f).Ensures system Safe state Post := by
  intro labels y stop hrun
  generalize hconfig : (x.bind f, state) = config at hrun
  generalize hlast : (y, stop) = last at hrun
  induction hrun generalizing x state with
  | nil =>
      subst hconfig
      cases hlast
      refine ⟨hx.safe, ?_⟩
      rintro b hb
      cases x with
      | done a =>
          have hdone := hf a _ hx.post
          rw [show f a = .done b from hb] at hdone
          exact hdone.post
      | call c next => cases hb
  | cons hstep hrest ih =>
      subst hconfig
      subst hlast
      cases x with
      | done a => exact hf a state hx.post _ _ _ (.cons hstep hrest)
      | call c next =>
          cases hstep with
          | call hanswers => exact ih (hx.step (.call hanswers)) rfl rfl
          | move hmoves => exact ih (hx.step (.move hmoves)) rfl rfl

/-- Programs in a row that each keep a stable assertion. -/
theorem Ensures.forEach {Inv : σ → Prop} (hstable : Stable system Safe Inv)
    {f : α → SystemCalls C R Unit} {items : List α}
    (hf : ∀ a ∈ items, ∀ before, Inv before →
      (f a).Ensures system Safe before fun _ later => Inv later)
    (hstate : Inv state) :
    (forEach f items).Ensures system Safe state fun _ stop => Inv stop := by
  induction items generalizing state with
  | nil => exact .done hstable hstate fun _ hstop => hstop
  | cons a rest ih =>
      refine (hf a List.mem_cons_self state hstate).bind fun _ middle hmiddle => ?_
      exact ih (fun b hb => hf b (List.mem_cons_of_mem a hb)) hmiddle

/-- Programs in a row that each take the assertion of one value to that of the next. -/
theorem Ensures.foldl {Inv : β → σ → Prop} (hstable : ∀ b, Stable system Safe (Inv b))
    {f : β → α → SystemCalls C R β} {items : List α}
    (hf : ∀ b a before, Inv b before → (f b a).Ensures system Safe before Inv) {b : β}
    (hstate : Inv b state) : (foldl f b items).Ensures system Safe state Inv := by
  induction items generalizing b state with
  | nil => exact .done (hstable b) hstate fun _ hstop => hstop
  | cons a rest ih => exact (hf b a state hstate).bind fun next _ hnext => ih hnext

end SystemCalls

/-! ## Programs that may fail -/

/-- A program whose value is a result or an error. -/
def FallibleCalls (C : Type) (R : C → Type) (ε α : Type) : Type :=
  SystemCalls C R (Except ε α)

namespace FallibleCalls

open SystemCalls

variable {C : Type} {R : C → Type} {σ α β ε : Type}

protected def pure (a : α) : FallibleCalls C R ε α := SystemCalls.done (.ok a)

protected def bind (x : FallibleCalls C R ε α) (f : α → FallibleCalls C R ε β) :
    FallibleCalls C R ε β :=
  SystemCalls.bind x fun outcome =>
    match outcome with
    | .ok a => f a
    | .error error => SystemCalls.done (.error error)

instance : Monad (FallibleCalls C R ε) where
  pure := FallibleCalls.pure
  bind := FallibleCalls.bind

def ofExcept (value : Except ε α) : FallibleCalls C R ε α := SystemCalls.done value

@[simp] theorem ofExcept_ok_bind (a : α) (f : α → FallibleCalls C R ε β) :
    ((ofExcept (.ok a) : FallibleCalls C R ε α) >>= f) = f a := rfl

/-- A program that cannot fail. -/
def always (x : SystemCalls C R α) : FallibleCalls C R ε α :=
  SystemCalls.bind x fun a => .done (.ok a)

/-- What runs before an error is handed on. -/
def onError (x : FallibleCalls C R ε α) (cleanup : SystemCalls C R Unit) :
    FallibleCalls C R ε α :=
  SystemCalls.bind x fun outcome =>
    match outcome with
    | .ok a => .done (.ok a)
    | .error error => cleanup.bind fun () => .done (.error error)

/-- What runs before a value or an error is handed on. -/
def releasing (x : FallibleCalls C R ε α) (cleanup : SystemCalls C R Unit) :
    FallibleCalls C R ε α :=
  SystemCalls.bind x fun outcome => cleanup.bind fun () => .done outcome

/-- The same program with other errors. -/
def mapError {ε' : Type} (f : ε → ε') (x : FallibleCalls C R ε α) : FallibleCalls C R ε' α :=
  SystemCalls.bind x fun outcome => .done (outcome.mapError f)

/-- After a value the rest of the program runs. -/
theorem reaches_bind {system : CallSystem C R σ} {x : FallibleCalls C R ε α} {state stop : σ}
    {a : α} (f : α → FallibleCalls C R ε β)
    (hreaches : Reaches system (x, state) (SystemCalls.done (.ok a), stop)) :
    Reaches system (FallibleCalls.bind x f, state) (f a, stop) :=
  Reaches.bind _ hreaches

theorem reaches_mapError {ε' : Type} (f : ε → ε') {system : CallSystem C R σ}
    {x : FallibleCalls C R ε α} {state stop : σ} {a : α}
    (hreaches : Reaches system (x, state) (SystemCalls.done (.ok a), stop)) :
    Reaches system (x.mapError f, state) (SystemCalls.done (.ok a), stop) :=
  Reaches.bind _ hreaches

theorem reaches_onError (cleanup : SystemCalls C R Unit) {system : CallSystem C R σ}
    {x : FallibleCalls C R ε α} {state stop : σ} {a : α}
    (hreaches : Reaches system (x, state) (SystemCalls.done (.ok a), stop)) :
    Reaches system (x.onError cleanup, state) (SystemCalls.done (.ok a), stop) :=
  Reaches.bind _ hreaches

/-- A postcondition for results and one for errors. -/
def Either (Ok : α → σ → Prop) (Fail : σ → Prop) : Except ε α → σ → Prop
  | .ok a, stop => Ok a stop
  | .error _, stop => Fail stop

def Ensures (system : CallSystem C R σ) (Safe : σ → Prop) (x : FallibleCalls C R ε α) (state : σ)
    (Ok : α → σ → Prop) (Fail : σ → Prop) : Prop :=
  SystemCalls.Ensures system Safe x state (Either Ok Fail)

variable {system : CallSystem C R σ} {Safe : σ → Prop} {state : σ} {Ok : α → σ → Prop}
  {Fail : σ → Prop}

theorem Ensures.weaken {x : FallibleCalls C R ε α} {Ok' : α → σ → Prop} {Fail' : σ → Prop}
    (hx : Ensures system Safe x state Ok Fail) (hok : ∀ a stop, Ok a stop → Ok' a stop)
    (hfail : ∀ stop, Fail stop → Fail' stop) : Ensures system Safe x state Ok' Fail' := by
  refine SystemCalls.Ensures.mono hx fun outcome stop hstop => ?_
  cases outcome with
  | ok a => exact hok a stop hstop
  | error error => exact hfail stop hstop

theorem Ensures.pure {Inv : σ → Prop} (hstable : Stable system Safe Inv) {a : α}
    (hstate : Inv state) (hok : ∀ stop, Inv stop → Ok a stop) :
    Ensures system Safe (pure a : FallibleCalls C R ε α) state Ok Fail :=
  SystemCalls.Ensures.done hstable hstate hok

theorem Ensures.error (hfail : Stable system Safe Fail) {error : ε} (hstate : Fail state) :
    Ensures system Safe (ofExcept (.error error) : FallibleCalls C R ε α) state Ok Fail :=
  SystemCalls.Ensures.done hfail hstate fun _ hstop => hstop

theorem Ensures.ofExcept {value : Except ε α} {Inv : σ → Prop} (hstable : Stable system Safe Inv)
    (hstate : Inv state) (hok : ∀ a, value = .ok a → ∀ stop, Inv stop → Ok a stop)
    (hfail : ∀ stop, Inv stop → Fail stop) :
    Ensures system Safe (ofExcept value : FallibleCalls C R ε α) state Ok Fail := by
  refine SystemCalls.Ensures.done hstable hstate fun stop hstop => ?_
  cases value with
  | ok a => exact hok a rfl stop hstop
  | error error => exact hfail stop hstop

theorem Ensures.ite {c : Prop} [Decidable c] {x y : FallibleCalls C R ε α}
    (hx : c → Ensures system Safe x state Ok Fail)
    (hy : ¬c → Ensures system Safe y state Ok Fail) :
    Ensures system Safe (if c then x else y) state Ok Fail := by
  split
  next hc => exact hx hc
  next hc => exact hy hc

/-- The rule for sequencing: an error ends the program. -/
theorem Ensures.bind (hfail : Stable system Safe Fail) {x : FallibleCalls C R ε α}
    {f : α → FallibleCalls C R ε β} {Ok' : β → σ → Prop}
    (hx : Ensures system Safe x state Ok Fail)
    (hf : ∀ a middle, Ok a middle → Ensures system Safe (f a) middle Ok' Fail) :
    Ensures system Safe (x >>= f) state Ok' Fail := by
  refine SystemCalls.Ensures.bind hx fun outcome middle hmiddle => ?_
  cases outcome with
  | ok a => exact hf a middle hmiddle
  | error error => exact Ensures.error hfail hmiddle

theorem Ensures.mapError {ε' : Type} {f : ε → ε'} (hok : ∀ a, Stable system Safe (Ok a))
    (hfail : Stable system Safe Fail) {x : FallibleCalls C R ε α}
    (hx : Ensures system Safe x state Ok Fail) :
    Ensures system Safe (x.mapError f) state Ok Fail := by
  refine SystemCalls.Ensures.bind hx fun outcome middle hmiddle => ?_
  cases outcome with
  | ok a => exact SystemCalls.Ensures.done (hok a) hmiddle fun _ hstop => hstop
  | error error => exact Ensures.error hfail hmiddle

theorem Ensures.always {x : SystemCalls C R α} (hok : ∀ a, Stable system Safe (Ok a))
    (hx : x.Ensures system Safe state Ok) :
    Ensures system Safe (always x : FallibleCalls C R ε α) state Ok Fail :=
  SystemCalls.Ensures.bind hx fun a _ hmiddle =>
    SystemCalls.Ensures.done (hok a) hmiddle fun _ hstop => hstop

/-- A cleanup takes what holds after an error to what the error is handed on with. -/
theorem Ensures.onError (hok : ∀ a, Stable system Safe (Ok a)) (hfail : Stable system Safe Fail)
    {x : FallibleCalls C R ε α} {cleanup : SystemCalls C R Unit} {Before : σ → Prop}
    (hx : Ensures system Safe x state Ok Before)
    (hcleanup : ∀ middle, Before middle →
      cleanup.Ensures system Safe middle fun _ stop => Fail stop) :
    Ensures system Safe (x.onError cleanup) state Ok Fail := by
  refine SystemCalls.Ensures.bind hx fun outcome middle hmiddle => ?_
  cases outcome with
  | ok a => exact SystemCalls.Ensures.done (hok a) hmiddle fun _ hstop => hstop
  | error error =>
      exact (hcleanup middle hmiddle).bind fun _ later hlater => Ensures.error hfail hlater

/-- A release takes what holds after a value, and after an error, to what it is handed on with. -/
theorem Ensures.releasing (hok : ∀ a, Stable system Safe (Ok a)) (hfail : Stable system Safe Fail)
    {x : FallibleCalls C R ε α} {cleanup : SystemCalls C R Unit} {Mid : α → σ → Prop}
    {Before : σ → Prop} (hx : Ensures system Safe x state Mid Before)
    (hvalue : ∀ a middle, Mid a middle →
      cleanup.Ensures system Safe middle fun _ stop => Ok a stop)
    (herror : ∀ middle, Before middle →
      cleanup.Ensures system Safe middle fun _ stop => Fail stop) :
    Ensures system Safe (x.releasing cleanup) state Ok Fail := by
  refine SystemCalls.Ensures.bind hx fun outcome middle hmiddle => ?_
  cases outcome with
  | ok a =>
      refine (hvalue a middle hmiddle).bind fun _ later hlater => ?_
      exact SystemCalls.Ensures.done (hok a) hlater fun _ hstop => hstop
  | error error =>
      exact (herror middle hmiddle).bind fun _ later hlater => Ensures.error hfail hlater

end FallibleCalls
