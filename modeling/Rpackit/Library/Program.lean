import Mathlib.Logic.Basic

/-! # Fallible programs over a state

A program answers with a value or an error and keeps the state changes it made
either way. A specification says what holds of both outcomes; sequencing two
programs sequences their specifications.
-/

def Program (σ ε α : Type) : Type := σ → Except ε α × σ

namespace Program

variable {σ ε ε' α β : Type}

protected def pure (a : α) : Program σ ε α := fun state => (.ok a, state)

protected def bind (x : Program σ ε α) (f : α → Program σ ε β) : Program σ ε β := fun state =>
  match x state with
  | (.ok a, next) => f a next
  | (.error error, next) => (.error error, next)

instance : Monad (Program σ ε) where
  pure := Program.pure
  bind := Program.bind

def fail (error : ε) : Program σ ε α := fun state => (.error error, state)

def get : Program σ ε σ := fun state => (.ok state, state)

def modify (f : σ → σ) : Program σ ε Unit := fun state => (.ok (), f state)

def ofExcept (value : Except ε α) : Program σ ε α := fun state => (value, state)

/-- Run a program and hand its outcome on as a value. -/
def attempt (x : Program σ ε α) : Program σ ε' (Except ε α) := fun state =>
  (.ok (x state).1, (x state).2)

def mapError (f : ε → ε') (x : Program σ ε α) : Program σ ε' α := fun state =>
  ((x state).1.mapError f, (x state).2)

variable {start : σ}

theorem bind_of_error {x : Program σ ε α} {f : α → Program σ ε β} {error : ε} {stop : σ}
    (hx : x start = (.error error, stop)) : (x >>= f) start = (.error error, stop) := by
  have hbind : (x >>= f) start = Program.bind x f start := rfl
  rw [hbind, Program.bind, hx]

theorem bind_of_ok {x : Program σ ε α} {f : α → Program σ ε β} {a : α} {middle : σ}
    (hx : x start = (.ok a, middle)) : (x >>= f) start = f a middle := by
  have hbind : (x >>= f) start = Program.bind x f start := rfl
  rw [hbind, Program.bind, hx]

/-! ## Laws -/

theorem pure_bind {a : α} {f : α → Program σ ε β} : (pure a >>= f) = f a := rfl

theorem bind_assoc {γ : Type} {x : Program σ ε α} {f : α → Program σ ε β}
    {g : β → Program σ ε γ} : (x >>= f) >>= g = x >>= fun a => f a >>= g := by
  funext start
  rcases hx : x start with ⟨error | a, next⟩
  · rw [bind_of_error hx, bind_of_error (bind_of_error hx)]
  · have hbind : ((x >>= f) >>= g) start = Program.bind (x >>= f) g start := rfl
    have hnext : (f a >>= g) next = Program.bind (f a) g next := rfl
    rw [hbind, bind_of_ok hx, hnext, Program.bind, Program.bind, bind_of_ok hx]

/-! ## Specifications -/

/-- From `start`, every value comes with a state in `Ok` and every error with one in `Fail`. -/
def Ensures (x : Program σ ε α) (start : σ) (Ok : α → σ → Prop) (Fail : ε → σ → Prop) : Prop :=
  match x start with
  | (.ok a, stop) => Ok a stop
  | (.error error, stop) => Fail error stop

variable {Ok : α → σ → Prop} {Fail : ε → σ → Prop}

theorem Ensures.mono {x : Program σ ε α} {Ok' : α → σ → Prop} {Fail' : ε → σ → Prop}
    (hx : x.Ensures start Ok Fail) (hok : ∀ a stop, Ok a stop → Ok' a stop)
    (hfail : ∀ error stop, Fail error stop → Fail' error stop) : x.Ensures start Ok' Fail' := by
  unfold Ensures at hx ⊢
  split at hx
  · exact hok _ _ hx
  · exact hfail _ _ hx

/-- The rule for sequencing. -/
theorem Ensures.bind {x : Program σ ε α} {f : α → Program σ ε β} {Ok' : β → σ → Prop}
    (hx : x.Ensures start Ok Fail) (hf : ∀ a next, Ok a next → (f a).Ensures next Ok' Fail) :
    (x >>= f).Ensures start Ok' Fail := by
  have hbind : (x >>= f) start = Program.bind x f start := rfl
  unfold Ensures at hx ⊢
  rw [hbind, Program.bind]
  split at hx
  next a next hrun => exact hf a next hx
  next error next hrun => exact hx

/-- Sequencing after a program whose answer is known. -/
theorem ensures_bind_of_eq {x : Program σ ε α} {f : α → Program σ ε β} {a : α} {s : σ}
    {Ok' : β → σ → Prop} (hx : x start = (.ok a, s)) (hf : (f a).Ensures s Ok' Fail) :
    (x >>= f).Ensures start Ok' Fail := by
  unfold Ensures
  rw [bind_of_ok hx]
  exact hf

theorem Ensures.mapError {x : Program σ ε α} {f : ε → ε'} {Fail' : ε' → σ → Prop}
    (hx : x.Ensures start Ok fun error stop => Fail' (f error) stop) :
    (x.mapError f).Ensures start Ok Fail' := by
  unfold Ensures at hx ⊢
  rw [Program.mapError]
  split at hx
  next a stop hrun => rw [hrun]; exact hx
  next error stop hrun => rw [hrun]; exact hx

theorem Ensures.attempt {x : Program σ ε α} {Fail' : ε' → σ → Prop}
    (hx : x.Ensures start Ok Fail) :
    (x.attempt).Ensures start (fun outcome stop => match outcome with
      | .ok a => Ok a stop
      | .error error => Fail error stop) Fail' := by
  unfold Ensures at hx
  rw [Ensures, Program.attempt]
  split at hx
  next a stop hrun => simpa only [hrun] using hx
  next error stop hrun => simpa only [hrun] using hx

/-! ## Answers -/

theorem bind_eq_ok_iff {x : Program σ ε α} {f : α → Program σ ε β} {b : β} {stop : σ} :
    (x >>= f) start = (.ok b, stop) ↔
      ∃ a middle, x start = (.ok a, middle) ∧ f a middle = (.ok b, stop) := by
  have hbind : (x >>= f) start = Program.bind x f start := rfl
  rw [hbind, Program.bind]
  rcases x start with ⟨error | a, middle⟩
  · constructor
    · nofun
    · rintro ⟨a, middle, hx, -⟩
      cases hx
  · constructor
    · exact fun hf => ⟨a, middle, rfl, hf⟩
    · rintro ⟨a, middle, hx, hf⟩
      cases hx
      exact hf

theorem bind_eq_error_iff {x : Program σ ε α} {f : α → Program σ ε β} {error : ε} {stop : σ} :
    (x >>= f) start = (.error error, stop) ↔ x start = (.error error, stop) ∨
      ∃ a middle, x start = (.ok a, middle) ∧ f a middle = (.error error, stop) := by
  have hbind : (x >>= f) start = Program.bind x f start := rfl
  rw [hbind, Program.bind]
  rcases x start with ⟨reason | a, middle⟩
  · constructor
    · rintro ⟨⟩
      exact .inl rfl
    · rintro (hx | ⟨a, middle, hx, -⟩)
      · cases hx
        rfl
      · cases hx
  · constructor
    · exact fun hf => .inr ⟨a, middle, rfl, hf⟩
    · rintro (hx | ⟨a, middle, hx, hf⟩)
      · cases hx
      · cases hx
        exact hf

theorem pure_eq_ok_iff {a b : α} {stop : σ} :
    (pure a : Program σ ε α) start = (.ok b, stop) ↔ a = b ∧ start = stop := by
  have hpure : (pure a : Program σ ε α) start = (.ok a, start) := rfl
  rw [hpure]
  constructor
  · rintro ⟨⟩
    exact ⟨rfl, rfl⟩
  · rintro ⟨rfl, rfl⟩
    rfl

theorem fail_ne_ok {error : ε} {a : α} {stop : σ} :
    (fail error : Program σ ε α) start ≠ (.ok a, stop) := nofun

theorem attempt_eq_ok_iff {x : Program σ ε α} {outcome : Except ε α} {stop : σ} :
    (x.attempt : Program σ ε' (Except ε α)) start = (.ok outcome, stop) ↔
      x start = (outcome, stop) := by
  rw [Program.attempt]
  rcases x start with ⟨answer, next⟩
  constructor
  · rintro ⟨⟩
    rfl
  · rintro ⟨⟩
    rfl

/-! ## Frames -/

/-- Whatever a program answers, it moves the state along a relation. -/
def Within (R : σ → σ → Prop) (x : Program σ ε α) : Prop := ∀ start, R start (x start).2

variable {R : σ → σ → Prop}

theorem within_pure (hrefl : ∀ state, R state state) (a : α) :
    Within R (pure a : Program σ ε α) := hrefl

theorem within_fail (hrefl : ∀ state, R state state) (error : ε) :
    Within R (fail error : Program σ ε α) := hrefl

theorem within_ofExcept (hrefl : ∀ state, R state state) (value : Except ε α) :
    Within R (ofExcept value : Program σ ε α) := hrefl

theorem Within.bind (htrans : ∀ a b c, R a b → R b c → R a c) {x : Program σ ε α}
    {f : α → Program σ ε β} (hx : Within R x) (hf : ∀ a, Within R (f a)) : Within R (x >>= f) := by
  intro start
  have hbind : (x >>= f) start = Program.bind x f start := rfl
  have hfirst := hx start
  rw [hbind, Program.bind]
  rcases hrun : x start with ⟨error | a, next⟩
  · rwa [hrun] at hfirst
  · rw [hrun] at hfirst
    exact htrans _ _ _ hfirst (hf a next)

theorem Within.mapError {x : Program σ ε α} (hx : Within R x) (f : ε → ε') :
    Within R (x.mapError f) := hx

theorem Within.attempt {x : Program σ ε α} (hx : Within R x) :
    Within R (x.attempt : Program σ ε' (Except ε α)) := hx

theorem Within.moved {x : Program σ ε α} (hx : Within R x) {outcome : Except ε α} {stop : σ}
    (hrun : x start = (outcome, stop)) : R start stop := by
  have hstop := hx start
  rwa [hrun] at hstop

/-- What a program ensures comes with its frame. -/
theorem Within.ensures {x : Program σ ε α} (hx : Within R x) (start : σ) :
    x.Ensures start (fun a stop => x start = (.ok a, stop) ∧ R start stop)
      fun error stop => x start = (.error error, stop) ∧ R start stop := by
  have hstop := hx start
  unfold Ensures
  split
  next a stop hrun =>
    rw [hrun] at hstop
    exact ⟨hrun, hstop⟩
  next error stop hrun =>
    rw [hrun] at hstop
    exact ⟨hrun, hstop⟩

end Program
