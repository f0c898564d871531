import Rpackit.Library.Poll
import Rpackit.Transport.RequestBody

/-! # The response-body guard

The guard forwards the data frames of an upstream body while they stay within
the byte limit and the declared length. It latches closed on the first error,
on a trailer, on a fired idle timer, on a rate window that closed below the
minimum, and on the end of the body.
-/

namespace Rpackit.Transport

open Text

/-- A body frame; `unknown` stands for a frame that is neither data nor trailers. -/
inductive Frame where
  | data (bytes : Bytes)
  | trailers (fields : HeaderMap)
  | unknown
  deriving DecidableEq

inductive IoErrorKind where
  | other
  | unexpectedEof
  deriving DecidableEq, Repr

structure IoError where
  kind : IoErrorKind
  message : String
  deriving DecidableEq, Repr

/-- One answer of `poll_frame`. -/
abbrev FramePoll (ε : Type) := Poll (Option (Except ε Frame))

/-- What the clock and the two timers do at one poll. A timer that was not
started is never observed as fired. -/
structure Tick where
  now : Nat
  idleFired : Bool
  rateFired : Bool
  deriving DecidableEq, Repr

/-- Timers are kept as their deadlines, in nanoseconds. -/
structure ResponseBodyGuard (B : Type) where
  inner : B
  declaredLength : Option Nat
  sizeHintLength : Option Nat
  bytesForwarded : Nat
  maxBodyBytes : Nat
  idleTimeout : Option Nat
  rateWindow : Nat
  minimumWindowBytes : Nat
  windowBytes : Nat
  idleTimer : Option Nat
  rateTimer : Option Nat
  terminal : Bool
  deriving DecidableEq, Repr

namespace ResponseBodyGuard

variable {B : Type}

/-- `ResponseBodyGuard::streaming` with the limits of a proxy. -/
def streaming (inner : B) (declaredLength : Option Nat) (maxBodyBytes : Nat)
    (limits : TransportLimits) : ResponseBodyGuard B where
  inner := inner
  declaredLength := declaredLength
  sizeHintLength := declaredLength
  bytesForwarded := 0
  maxBodyBytes := maxBodyBytes
  idleTimeout := some limits.responseBodyIdleTimeout
  rateWindow := limits.responseBodyRateWindow
  minimumWindowBytes := minimumBytesForWindow limits.minResponseBodyBytesPerSecond
    limits.responseBodyRateWindow
  windowBytes := 0
  idleTimer := none
  rateTimer := none
  terminal := false

def forbidden (inner : B) (advertisedLength : Option Nat) : ResponseBodyGuard B where
  inner := inner
  declaredLength := none
  sizeHintLength := advertisedLength
  bytesForwarded := 0
  maxBodyBytes := 0
  idleTimeout := none
  rateWindow := 0
  minimumWindowBytes := 0
  windowBytes := 0
  idleTimer := none
  rateTimer := none
  terminal := false

def startTimers (guard : ResponseBodyGuard B) (now : Nat) : ResponseBodyGuard B :=
  match guard.idleTimer, guard.idleTimeout with
  | none, some idleTimeout =>
      { guard with
        idleTimer := some (now + idleTimeout)
        rateTimer := if guard.minimumWindowBytes > 0 then some (now + guard.rateWindow)
          else guard.rateTimer }
  | _, _ => guard

def reject (guard : ResponseBodyGuard B) (message : String) :
    FramePoll IoError × ResponseBodyGuard B :=
  (.ready (some (.error ⟨.other, message⟩)), { guard with terminal := true })

def resetIdleTimer (guard : ResponseBodyGuard B) (now : Nat) : ResponseBodyGuard B :=
  match guard.idleTimeout, guard.idleTimer with
  | some timeout, some _ => { guard with idleTimer := some (now + timeout) }
  | _, _ => guard

def resetRateWindow (guard : ResponseBodyGuard B) (now : Nat) : ResponseBodyGuard B :=
  { guard with
    windowBytes := 0
    rateTimer := guard.rateTimer.map fun _ => now + guard.rateWindow }

/-- A data frame the inner body delivered. -/
def acceptData (guard : ResponseBodyGuard B) (now : Nat) (data : Bytes) :
    FramePoll IoError × ResponseBodyGuard B :=
  let dataLength := data.length
  let total := guard.bytesForwarded + dataLength
  if ¬dataLength < 2 ^ 64 ∨ ¬total < 2 ^ 64 ∨ total > guard.maxBodyBytes then
    guard.reject "upstream response body exceeded limit"
  else if guard.declaredLength.any (fun declared => total > declared) then
    guard.reject "upstream response body exceeded declared length"
  else
    let forwarded := { guard with
      bytesForwarded := total
      windowBytes := min (guard.windowBytes + dataLength) (2 ^ 64 - 1) }
    (.ready (some (.ok (.data data))),
      if dataLength > 0 then forwarded.resetIdleTimer now else forwarded)

theorem declared_any_eq_false_iff {guard : ResponseBodyGuard B} {total : Nat} :
    guard.declaredLength.any (fun declared => total > declared) = false ↔
      ∀ declared ∈ guard.declaredLength, total ≤ declared := by
  cases guard.declaredLength with
  | none => simp
  | some length => simp

/-- The inner body ended. -/
def finish (guard : ResponseBodyGuard B) : FramePoll IoError × ResponseBodyGuard B :=
  let ended := { guard with terminal := true }
  if guard.declaredLength.any (fun declared => declared ≠ guard.bytesForwarded) then
    (.ready (some (.error ⟨.unexpectedEof,
      "upstream response body ended before its declared length"⟩)), ended)
  else (.ready none, ended)

def pollFrame {ε : Type} (pollInner : B → FramePoll ε × B) (tick : Tick)
    (guard : ResponseBodyGuard B) : FramePoll IoError × ResponseBodyGuard B :=
  if guard.terminal then (.ready none, guard)
  else
    let started := guard.startTimers tick.now
    if started.idleTimer.isSome && tick.idleFired then
      started.reject "upstream response body exceeded idle timeout"
    else
      let rateElapsed := started.rateTimer.isSome && tick.rateFired
      if rateElapsed && started.windowBytes < started.minimumWindowBytes then
        started.reject "upstream response body rate was below limit"
      else
        let current := if rateElapsed then started.resetRateWindow tick.now else started
        let (answer, inner) := pollInner current.inner
        let polled := { current with inner }
        match answer with
        | .pending => (.pending, polled)
        | .ready (some (.error _)) => polled.reject "upstream response body was malformed"
        | .ready (some (.ok (.data data))) => polled.acceptData tick.now data
        | .ready (some (.ok (.trailers _))) =>
            polled.reject "upstream response trailers were rejected"
        | .ready (some (.ok .unknown)) =>
            polled.reject "upstream response body frame was rejected"
        | .ready none => polled.finish

end ResponseBodyGuard

/-- A second streaming boundary over decoded content. -/
structure DecodedBodyGuard (B : Type) where
  inner : B
  bytesForwarded : Nat
  maxBodyBytes : Nat
  terminal : Bool
  deriving DecidableEq, Repr

namespace DecodedBodyGuard

variable {B : Type}

def new (inner : B) (maxBodyBytes : Nat) : DecodedBodyGuard B where
  inner := inner
  bytesForwarded := 0
  maxBodyBytes := maxBodyBytes
  terminal := false

def reject (guard : DecodedBodyGuard B) (message : String) :
    FramePoll IoError × DecodedBodyGuard B :=
  (.ready (some (.error ⟨.other, message⟩)), { guard with terminal := true })

/-- A data frame the decoders delivered. -/
def acceptData (guard : DecodedBodyGuard B) (data : Bytes) :
    FramePoll IoError × DecodedBodyGuard B :=
  let dataLength := data.length
  let total := guard.bytesForwarded + dataLength
  if ¬dataLength < 2 ^ 64 ∨ ¬total < 2 ^ 64 ∨ total > guard.maxBodyBytes then
    guard.reject "decoded upstream response body exceeded limit"
  else (.ready (some (.ok (.data data))), { guard with bytesForwarded := total })

def pollFrame {ε : Type} (pollInner : B → FramePoll ε × B) (guard : DecodedBodyGuard B) :
    FramePoll IoError × DecodedBodyGuard B :=
  if guard.terminal then (.ready none, guard)
  else
    let (answer, inner) := pollInner guard.inner
    let polled := { guard with inner }
    match answer with
    | .pending => (.pending, polled)
    | .ready (some (.error _)) => polled.reject "upstream response content decoding failed"
    | .ready (some (.ok (.data data))) => polled.acceptData data
    | .ready (some (.ok _)) => polled.reject "upstream response content decoding failed"
    | .ready none => (.ready none, { polled with terminal := true })

end DecodedBodyGuard

end Rpackit.Transport
