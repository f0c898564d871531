import Rpackit.Transport.State

/-! # The request-body guard as the proxy builds it -/

namespace Rpackit.Transport

open Text

/-- Bytes that a rate of `bytesPerSecond` owes in a window of nanoseconds,
rounded up, in saturating 128-bit arithmetic. -/
def minimumBytesForWindow (bytesPerSecond window : Nat) : Nat :=
  let numerator := min (bytesPerSecond * window) (2 ^ 128 - 1)
  let roundedUp := min (numerator + (1000000000 - 1)) (2 ^ 128 - 1) / 1000000000
  if roundedUp < 2 ^ 64 then roundedUp else 2 ^ 64 - 1

theorem minimumBytesForWindow_lt (bytesPerSecond window : Nat) :
    minimumBytesForWindow bytesPerSecond window < 2 ^ 64 := by
  simp only [minimumBytesForWindow]
  split
  next hfits => exact hfits
  next => decide

structure RequestBodyGuard (B : Type) where
  inner : B
  maxBodyBytes : Nat
  bytesForwarded : Nat
  idleTimeout : Nat
  totalTimeout : Nat
  rateWindow : Nat
  minimumWindowBytes : Nat
  windowBytes : Nat
  idleTimer : Option Nat
  totalTimer : Option Nat
  rateTimer : Option Nat
  completed : Bool
  failed : Bool
  deriving DecidableEq, Repr

/-- `RequestBodyGuard::new` with the limits of a proxy. -/
def RequestBodyGuard.new {B : Type} (inner : B) (limits : TransportLimits) :
    RequestBodyGuard B where
  inner := inner
  maxBodyBytes := limits.maxRequestBodyBytes
  bytesForwarded := 0
  idleTimeout := limits.requestBodyIdleTimeout
  totalTimeout := limits.requestBodyTotalTimeout
  rateWindow := limits.requestBodyRateWindow
  minimumWindowBytes := minimumBytesForWindow limits.minRequestBodyBytesPerSecond
    limits.requestBodyRateWindow
  windowBytes := 0
  idleTimer := none
  totalTimer := none
  rateTimer := none
  completed := false
  failed := false

end Rpackit.Transport
