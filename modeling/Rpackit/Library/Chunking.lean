import Mathlib.Data.List.Basic

/-! # Chunked consumers

A consumer reads a stream symbol by symbol, hands outputs on and stops at its first
error. A caller that feeds it chunks gets the outputs of a chunk only if the whole
chunk was read: the error of a chunk takes the place of what was complete before it.
-/

/-- One symbol: the next state, and the outputs it completes or an error. -/
abbrev Consumer (σ α β ε : Type) := σ → α → σ × Except ε (List β)

namespace Consumer

variable {σ α β ε : Type}

/-- What a reader handed on, the state it is in and the error it stopped at. -/
@[ext] structure Outcome (σ β ε : Type) where
  outputs : List β
  state : σ
  error : Option ε

namespace Outcome

/-- Nothing was read. -/
def start (state : σ) : Outcome σ β ε := ⟨[], state, none⟩

/-- Reading goes on unless it stopped. -/
def after (first : Outcome σ β ε) (rest : σ → Outcome σ β ε) : Outcome σ β ε :=
  match first.error with
  | some _ => first
  | none =>
      ⟨first.outputs ++ (rest first.state).outputs, (rest first.state).state,
        (rest first.state).error⟩

/-- All outputs or an error. -/
def atomic (outcome : Outcome σ β ε) : Outcome σ β ε :=
  match outcome.error with
  | some _ => { outcome with outputs := [] }
  | none => outcome

@[simp] theorem start_after (state : σ) (rest : σ → Outcome σ β ε) :
    (start state).after rest = rest state := rfl

theorem after_start (first : Outcome σ β ε) : first.after start = first := by
  rcases first with ⟨outputs, state, _ | error⟩
  · simp [after, start]
  · rfl

theorem after_assoc (first : Outcome σ β ε) (second third : σ → Outcome σ β ε) :
    (first.after second).after third = first.after fun state => (second state).after third := by
  rcases first with ⟨outputs, state, _ | error⟩
  · rcases hsecond : second state with ⟨outputs', state', _ | error⟩
    · simp [after, hsecond]
    · simp [after, hsecond]
  · rfl

theorem atomic_outputs_of_error {outcome : Outcome σ β ε} (herror : outcome.error ≠ none) :
    outcome.atomic.outputs = [] := by
  obtain ⟨error, herror⟩ := Option.ne_none_iff_exists'.mp herror
  simp [atomic, herror]

end Outcome

open Outcome

variable (consumer : Consumer σ α β ε)

/-- Reading one symbol. -/
def consume (state : σ) (a : α) : Outcome σ β ε :=
  match consumer state a with
  | (next, .ok outputs) => ⟨outputs, next, none⟩
  | (next, .error error) => ⟨[], next, some error⟩

/-- Reading a stream to its end or to the first error. -/
def feed (state : σ) : List α → Outcome σ β ε
  | [] => start state
  | a :: rest => (consumer.consume state a).after fun next => feed next rest

/-- Reading the chunks of a stream one by one, each of them atomic. -/
def deliver (state : σ) : List (List α) → Outcome σ β ε
  | [] => start state
  | chunk :: rest => (consumer.feed state chunk).atomic.after fun next => deliver next rest

variable {consumer}

theorem feed_append (state : σ) (first second : List α) :
    consumer.feed state (first ++ second) =
      (consumer.feed state first).after fun next => consumer.feed next second := by
  induction first generalizing state with
  | nil => rfl
  | cons a rest ih =>
      have hrest : (fun next => consumer.feed next (rest ++ second)) = fun next =>
          (consumer.feed next rest).after fun last => consumer.feed last second := funext ih
      rw [List.cons_append, feed, hrest, feed, after_assoc]

/-- However the stream was cut, its last state and its first error are the same. -/
theorem deliver_state_error (consumer : Consumer σ α β ε) (state : σ) (chunks : List (List α)) :
    (consumer.deliver state chunks).state = (consumer.feed state chunks.flatten).state ∧
      (consumer.deliver state chunks).error = (consumer.feed state chunks.flatten).error := by
  induction chunks generalizing state with
  | nil => exact ⟨rfl, rfl⟩
  | cons chunk rest ih =>
      rw [List.flatten_cons, feed_append, deliver]
      rcases hchunk : consumer.feed state chunk with ⟨outputs, next, _ | error⟩
      · exact ih next
      · exact ⟨rfl, rfl⟩

/-- Without an error every cut hands on the same outputs. -/
theorem deliver_of_error_eq_none {state : σ} {chunks : List (List α)}
    (hnone : (consumer.feed state chunks.flatten).error = none) :
    consumer.deliver state chunks = consumer.feed state chunks.flatten := by
  induction chunks generalizing state with
  | nil => rfl
  | cons chunk rest ih =>
      rw [List.flatten_cons, feed_append] at hnone ⊢
      rw [deliver]
      rcases hchunk : consumer.feed state chunk with ⟨outputs, next, _ | error⟩
      · rw [hchunk] at hnone
        have hrest : consumer.deliver next rest = consumer.feed next rest.flatten := ih hnone
        simp only [after, atomic, hrest]
      · rw [hchunk] at hnone
        cases hnone

/-- What a cut hands on is a part of what the stream completes before its error. -/
theorem deliver_outputs_prefix (consumer : Consumer σ α β ε) (state : σ)
    (chunks : List (List α)) :
    (consumer.deliver state chunks).outputs <+: (consumer.feed state chunks.flatten).outputs := by
  induction chunks generalizing state with
  | nil => exact List.prefix_refl _
  | cons chunk rest ih =>
      rw [List.flatten_cons, feed_append, deliver]
      rcases hchunk : consumer.feed state chunk with ⟨outputs, next, _ | error⟩
      · exact (List.prefix_append_right_inj outputs).mpr (ih next)
      · exact List.nil_prefix

theorem consume_atomic (state : σ) (a : α) :
    (consumer.consume state a).atomic = consumer.consume state a := by
  unfold consume
  split
  · rfl
  · rfl

/-- Cut into single symbols, the stream hands on everything before its error. -/
theorem deliver_singletons (state : σ) (stream : List α) :
    consumer.deliver state (stream.map fun a => [a]) = consumer.feed state stream := by
  induction stream generalizing state with
  | nil => rfl
  | cons a rest ih =>
      have hone : consumer.feed state [a] = consumer.consume state a := after_start _
      rw [List.map_cons, deliver, hone, consume_atomic, feed]
      exact congrArg _ (funext ih)

theorem deliver_single (state : σ) (stream : List α) :
    consumer.deliver state [stream] = (consumer.feed state stream).atomic := after_start _

/-- The cut of a stream does not matter exactly if the stream has no error, or
completes nothing before it. -/
theorem cut_irrelevant_iff {γ : Type} (consumer : Consumer σ α β ε) (state : σ) (stream : List α)
    (view : σ → γ) :
    (∀ first second : List (List α), first.flatten = stream → second.flatten = stream →
      (consumer.deliver state first).outputs = (consumer.deliver state second).outputs ∧
        view (consumer.deliver state first).state = view (consumer.deliver state second).state ∧
        (consumer.deliver state first).error = (consumer.deliver state second).error) ↔
      (consumer.feed state stream).error = none ∨ (consumer.feed state stream).outputs = [] := by
  constructor
  · intro hsame
    by_cases hnone : (consumer.feed state stream).error = none
    · exact .inl hnone
    · right
      have hflatten : (stream.map fun a => [a]).flatten = stream := by
        rw [← List.flatMap_def, List.flatMap_singleton']
      obtain ⟨houtputs, -, -⟩ := hsame _ [stream] hflatten (List.flatten_singleton)
      rw [deliver_singletons, deliver_single, atomic_outputs_of_error hnone] at houtputs
      exact houtputs
  · intro hquiet first second hfirst hsecond
    have hdelivered : ∀ chunks : List (List α), chunks.flatten = stream →
        (consumer.deliver state chunks).outputs = (consumer.feed state stream).outputs := by
      rintro chunks rfl
      rcases hquiet with hnone | hnil
      · rw [deliver_of_error_eq_none hnone]
      · have hprefix := consumer.deliver_outputs_prefix state chunks
        rw [hnil] at hprefix ⊢
        exact List.prefix_nil.mp hprefix
    obtain ⟨hstate, herror⟩ := consumer.deliver_state_error state first
    obtain ⟨hstate', herror'⟩ := consumer.deliver_state_error state second
    rw [hfirst] at hstate herror
    rw [hsecond] at hstate' herror'
    exact ⟨(hdelivered first hfirst).trans (hdelivered second hsecond).symm,
      congrArg view (hstate.trans hstate'.symm), herror.trans herror'.symm⟩

end Consumer
