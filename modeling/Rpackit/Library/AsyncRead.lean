import Rpackit.Library.Poll
import Rpackit.Library.Text

/-! # Readers of byte streams

A reader is a state machine that is polled with a capacity. It may stay pending,
fail, or hand over at most that many bytes; no bytes for a positive capacity is
the end of the stream. Any fragmentation of any stream is one such machine.
-/

open Text

structure AsyncRead (R ε : Type) where
  pollRead : R → Nat → Poll (Except ε Bytes) × R
  bounded : ∀ {reader : R} {capacity : Nat} {bytes : Bytes} {next : R},
    pollRead reader capacity = (.ready (.ok bytes), next) → bytes.length ≤ capacity

/-- The bytes of one answer. -/
def deliveredBytes {ε : Type} : Poll (Except ε Bytes) → Bytes
  | .ready (.ok bytes) => bytes
  | _ => []

/-- What a reader has handed over so far, whether it has ended or failed, and how often
it had nothing yet. -/
structure Delivery where
  bytes : Bytes
  ended : Bool
  failed : Bool
  waits : Nat
  deriving DecidableEq, Repr

namespace Delivery

def start : Delivery := ⟨[], false, false, 0⟩

def record {ε : Type} (delivery : Delivery) (capacity : Nat) :
    Poll (Except ε Bytes) → Delivery
  | .pending => { delivery with waits := delivery.waits + 1 }
  | .ready (.error _) => { delivery with failed := true }
  | .ready (.ok bytes) =>
      { delivery with
        bytes := delivery.bytes ++ bytes
        ended := delivery.ended || (bytes.isEmpty && 0 < capacity) }

/-- The delivery is a part of the stream, and all of it once it ended. -/
structure IsPartOf (delivery : Delivery) (stream : Bytes) : Prop where
  initial : delivery.bytes <+: stream
  whole : delivery.ended = true → delivery.bytes = stream

variable {ε : Type}

theorem isPartOf_bytes (delivery : Delivery) : delivery.IsPartOf delivery.bytes :=
  ⟨List.prefix_rfl, fun _ => rfl⟩

@[simp] theorem record_bytes (delivery : Delivery) (capacity : Nat)
    (answer : Poll (Except ε Bytes)) :
    (delivery.record capacity answer).bytes = delivery.bytes ++ deliveredBytes answer := by
  cases answer with
  | pending => exact (List.append_nil _).symm
  | ready result =>
      cases result with
      | error error => exact (List.append_nil _).symm
      | ok bytes => rfl

@[simp] theorem record_waits (delivery : Delivery) (capacity : Nat)
    (answer : Poll (Except ε Bytes)) :
    (delivery.record capacity answer).waits = delivery.waits + answer.isPending.toNat := by
  cases answer with
  | pending => rfl
  | ready result => cases result <;> rfl

end Delivery

namespace AsyncRead

variable {R ε : Type}

/-- The same reader with a record of what it delivers. -/
def logged (inner : AsyncRead R ε) : AsyncRead (R × Delivery) ε where
  pollRead reader capacity :=
    let (answer, next) := inner.pollRead reader.1 capacity
    (answer, (next, reader.2.record capacity answer))
  bounded hpoll := by
    simp only [Prod.mk.injEq] at hpoll
    exact inner.bounded (Prod.ext hpoll.1 rfl)

@[simp] theorem logged_pollRead (inner : AsyncRead R ε) (reader : R × Delivery)
    (capacity : Nat) :
    inner.logged.pollRead reader capacity =
      ((inner.pollRead reader.1 capacity).1, ((inner.pollRead reader.1 capacity).2,
        reader.2.record capacity (inner.pollRead reader.1 capacity).1)) := rfl

end AsyncRead

/-! ## Readers that follow a script -/

/-- What one poll meets: nothing yet, bytes that have arrived, or a failure. -/
inductive Arrival (ε : Type) where
  | pending
  | data (first : UInt8) (rest : Bytes)
  | failed (error : ε)
  deriving DecidableEq, Repr

/-- What arrives over time; after the last arrival the stream has ended. -/
abbrev Arrivals (ε : Type) := List (Arrival ε)

namespace Arrivals

variable {ε : Type}

/-- Every byte that arrives. -/
def stream : Arrivals ε → Bytes
  | [] => []
  | .pending :: later => stream later
  | .data first rest :: later => first :: rest ++ stream later
  | .failed _ :: later => stream later

/-- The bytes that arrive before the first failure or the end. -/
def reached : Arrivals ε → Bytes
  | [] => []
  | .pending :: later => reached later
  | .data first rest :: later => first :: rest ++ reached later
  | .failed _ :: _ => []

/-- The number of polls that certainly meet the end. -/
def weight : Arrivals ε → Nat
  | [] => 0
  | .pending :: later => weight later + 1
  | .data _ rest :: later => weight later + rest.length + 1
  | .failed _ :: later => weight later + 1

/-- Bytes that a poll left over arrive again at the next one. -/
def push : Bytes → Arrivals ε → Arrivals ε
  | [], later => later
  | first :: rest, later => .data first rest :: later

theorem eq_nil_of_weight {arrivals : Arrivals ε} (hweight : arrivals.weight = 0) :
    arrivals = [] := by
  cases arrivals with
  | nil => rfl
  | cons arrival later => cases arrival <;> cases hweight

@[simp] theorem stream_push (bytes : Bytes) (later : Arrivals ε) :
    (push bytes later).stream = bytes ++ later.stream := by
  cases bytes <;> rfl

@[simp] theorem reached_push (bytes : Bytes) (later : Arrivals ε) :
    (push bytes later).reached = bytes ++ later.reached := by
  cases bytes <;> rfl

@[simp] theorem weight_push (bytes : Bytes) (later : Arrivals ε) :
    (push bytes later).weight = later.weight + bytes.length := by
  cases bytes <;> rfl

def pollRead : Arrivals ε → Nat → Poll (Except ε Bytes) × Arrivals ε
  | [], _ => (.ready (.ok []), [])
  | .pending :: later, _ => (.pending, later)
  | .data first rest :: later, capacity =>
      (.ready (.ok ((first :: rest).take capacity)), push ((first :: rest).drop capacity) later)
  | .failed error :: later, _ => (.ready (.error error), later)

/-- What the answer of a poll says about the arrivals before and after it. -/
inductive Polled (arrivals : Arrivals ε) (capacity : Nat) :
    Poll (Except ε Bytes) × Arrivals ε → Prop
  | ended (hended : arrivals = []) : Polled arrivals capacity (.ready (.ok []), [])
  | pending {later : Arrivals ε} (harrivals : arrivals = .pending :: later) :
      Polled arrivals capacity (.pending, later)
  | data {bytes : Bytes} {later : Arrivals ε} (hsome : 0 < capacity → bytes ≠ [])
      (hstream : arrivals.stream = bytes ++ later.stream)
      (hreached : arrivals.reached = bytes ++ later.reached)
      (hweight : arrivals.weight = later.weight + bytes.length) :
      Polled arrivals capacity (.ready (.ok bytes), later)
  | failed {error : ε} {later : Arrivals ε} (harrivals : arrivals = .failed error :: later) :
      Polled arrivals capacity (.ready (.error error), later)

theorem pollRead_polled (arrivals : Arrivals ε) (capacity : Nat) :
    Polled arrivals capacity (arrivals.pollRead capacity) := by
  cases arrivals with
  | nil => exact .ended rfl
  | cons arrival later =>
      cases arrival with
      | pending => exact .pending rfl
      | failed error => exact .failed rfl
      | data first rest =>
          have hsplit : (first :: rest).take capacity ++ (first :: rest).drop capacity =
              first :: rest := List.take_append_drop _ _
          refine .data ?_ ?_ ?_ ?_
          · intro hcapacity
            obtain ⟨smaller, rfl⟩ := Nat.exists_eq_succ_of_ne_zero hcapacity.ne'
            exact List.cons_ne_nil _ _
          · rw [stream_push, ← List.append_assoc, hsplit]
            rfl
          · rw [reached_push, ← List.append_assoc, hsplit]
            rfl
          · have hlength := congrArg List.length hsplit
            rw [List.length_append, List.length_cons] at hlength
            rw [weight_push, weight]
            omega

/-- The reader to which these bytes arrive. -/
def reader : AsyncRead (Arrivals ε) ε where
  pollRead := pollRead
  bounded {arrivals capacity bytes later} hpoll := by
    cases arrivals with
    | nil =>
        cases hpoll
        exact Nat.zero_le _
    | cons arrival rest =>
        cases arrival with
        | pending => cases hpoll
        | failed error => cases hpoll
        | data first rest =>
            cases hpoll
            exact List.length_take_le _ _

@[simp] theorem reader_pollRead (arrivals : Arrivals ε) (capacity : Nat) :
    reader.pollRead arrivals capacity = arrivals.pollRead capacity := rfl

end Arrivals
