import Mathlib.Algebra.Order.Floor.Div
import Mathlib.GroupTheory.GroupAction.Ring
import Rpackit.Transport.SizeHints

/-! # The rate floor of the body guards

The bytes that a rate owes in a window are computed in saturating 128-bit
arithmetic. A product or a sum that saturates is far above the final 64-bit
bound, so the result is the exact quotient, rounded up and cut off there. It is
zero only for a zero rate or a zero window: a floor that the limits enable and
accept always starts the rate timer.
-/

namespace Rpackit.Transport

open Text

/-! ## The bytes of a window -/

/-- Saturation of the 128-bit intermediate values is never seen. -/
theorem minimumBytesForWindow_eq_ceilDiv (bytesPerSecond window : Nat) :
    minimumBytesForWindow bytesPerSecond window =
      min (2 ^ 64 - 1) (bytesPerSecond * window ⌈/⌉ 1000000000) := by
  rw [Nat.ceilDiv_eq_add_pred_div, minimumBytesForWindow]
  generalize bytesPerSecond * window = owed
  by_cases hexact : owed + (1000000000 - 1) ≤ 2 ^ 128 - 1
  · have hquotient : (owed + (1000000000 - 1)) / 1000000000 =
        (owed + 1000000000 - 1) / 1000000000 := by omega
    rw [Nat.min_eq_left (by omega : owed ≤ 2 ^ 128 - 1), Nat.min_eq_left hexact, hquotient]
    split
    · omega
    · omega
  · -- one rounding addend below saturation is still beyond 64 bits after the division
    have hlarge : 2 ^ 64 ≤
        min (min owed (2 ^ 128 - 1) + (1000000000 - 1)) (2 ^ 128 - 1) / 1000000000 := by omega
    rw [if_neg (Nat.not_lt.mpr hlarge)]
    omega

theorem minimumBytesForWindow_mono {slower faster shorter longer : Nat} (hrate : slower ≤ faster)
    (hwindow : shorter ≤ longer) :
    minimumBytesForWindow slower shorter ≤ minimumBytesForWindow faster longer := by
  have hgalois : GaloisConnection (· ⌈/⌉ 1000000000) (1000000000 * · : Nat → Nat) :=
    gc_mul_ceilDiv (by omega)
  rw [minimumBytesForWindow_eq_ceilDiv, minimumBytesForWindow_eq_ceilDiv]
  exact min_le_min_left _ (hgalois.monotone_l (Nat.mul_le_mul hrate hwindow))

theorem minimumBytesForWindow_eq_zero_iff {bytesPerSecond window : Nat} :
    minimumBytesForWindow bytesPerSecond window = 0 ↔ bytesPerSecond = 0 ∨ window = 0 := by
  have hceil : bytesPerSecond * window ⌈/⌉ 1000000000 = 0 ↔ bytesPerSecond * window = 0 := by
    rw [← Nat.le_zero, ceilDiv_le_iff_le_mul (by omega : 0 < 1000000000), Nat.mul_zero,
      Nat.le_zero]
  rw [minimumBytesForWindow_eq_ceilDiv, Nat.min_eq_zero_iff, hceil, Nat.mul_eq_zero]
  exact or_iff_right (by omega)

/-! ## The timer of the floor -/

variable {B ε : Type}

namespace RequestBodyGuard

theorem rateTimer_startTimers {guard : RequestBodyGuard B} (now : Nat)
    (harmed : guard.rateTimer.isSome = true) : (guard.startTimers now).rateTimer.isSome = true := by
  unfold startTimers
  split
  · dsimp only
    split
    · rfl
    · exact harmed
  · exact harmed

theorem rateTimer_opened {guard : RequestBodyGuard B} {tick : Tick}
    (harmed : (guard.startTimers tick.now).rateTimer.isSome = true) :
    (guard.opened tick).rateTimer.isSome = true := by
  unfold opened
  split
  · rw [resetRateWindow, Option.isSome_map]
    exact harmed
  · exact harmed

theorem rateTimer_deliver {guard : RequestBodyGuard B} (now : Nat) (asked : FramePoll ε × B) :
    (guard.deliver now asked).2.rateTimer = guard.rateTimer := by
  obtain ⟨answer, inner⟩ := asked
  match answer with
  | .pending => rfl
  | .ready none => rfl
  | .ready (some (.error _)) => rfl
  | .ready (some (.ok (.trailers _))) => rfl
  | .ready (some (.ok .unknown)) => rfl
  | .ready (some (.ok (.data bytes))) =>
      obtain hrejected | ⟨-, haccepted⟩ := acceptData_eq { guard with inner } now bytes
      · rw [deliver, hrejected]
        rfl
      · rw [deliver, haccepted, forwarded]
        dsimp only
        split <;> rfl

/-- A rate timer that is armed when the checks of a poll begin stays armed. -/
theorem rateTimer_pollFrame (pollInner : B → FramePoll ε × B) {tick : RequestTick}
    {guard : RequestBodyGuard B} (hlive : (view B).terminal guard = false)
    (harmed : (guard.startTimers tick.now).rateTimer.isSome = true) :
    (pollFrame pollInner tick guard).2.rateTimer.isSome = true := by
  cases hfirst : (view B).overruled tick guard with
  | true =>
      rw [pollFrame_overruled pollInner hlive hfirst]
      exact harmed
  | false =>
      cases hidle : (view B).idleElapsed tick guard with
      | true =>
          rw [pollFrame_idle pollInner hlive hfirst hidle]
          exact harmed
      | false =>
          cases hstarved : (view B).starved tick guard with
          | true =>
              rw [pollFrame_starved pollInner hlive hfirst hidle hstarved]
              exact harmed
          | false =>
              rw [pollFrame_asked pollInner hlive hfirst hidle hstarved, rateTimer_deliver]
              exact rateTimer_opened harmed

end RequestBodyGuard

namespace ResponseBodyGuard

theorem rateTimer_startTimers {guard : ResponseBodyGuard B} (now : Nat)
    (harmed : guard.rateTimer.isSome = true) : (guard.startTimers now).rateTimer.isSome = true := by
  unfold startTimers
  split
  · dsimp only
    split
    · rfl
    · exact harmed
  · exact harmed

theorem rateTimer_opened {guard : ResponseBodyGuard B} {tick : Tick}
    (harmed : (guard.startTimers tick.now).rateTimer.isSome = true) :
    (guard.opened tick).rateTimer.isSome = true := by
  unfold opened
  split
  · rw [resetRateWindow, Option.isSome_map]
    exact harmed
  · exact harmed

theorem rateTimer_resetIdleTimer (guard : ResponseBodyGuard B) (now : Nat) :
    (guard.resetIdleTimer now).rateTimer = guard.rateTimer := by
  unfold resetIdleTimer
  split <;> rfl

theorem rateTimer_deliver {guard : ResponseBodyGuard B} (now : Nat) (asked : FramePoll ε × B) :
    (guard.deliver now asked).2.rateTimer = guard.rateTimer := by
  obtain ⟨answer, inner⟩ := asked
  match answer with
  | .pending => rfl
  | .ready (some (.error _)) => rfl
  | .ready (some (.ok (.trailers _))) => rfl
  | .ready (some (.ok .unknown)) => rfl
  | .ready none =>
      obtain ⟨_, -, -, hended⟩ | ⟨-, hended⟩ := finish_eq { guard with inner }
      · rw [deliver, hended]
      · rw [deliver, hended]
  | .ready (some (.ok (.data bytes))) =>
      obtain hrejected | hrejected | ⟨-, -, haccepted⟩ :=
        acceptData_eq { guard with inner } now bytes
      · rw [deliver, hrejected]
        rfl
      · rw [deliver, hrejected]
        rfl
      · rw [deliver, haccepted, forwarded]
        dsimp only
        split
        · rw [rateTimer_resetIdleTimer]
        · rfl

/-- A rate timer that is armed when the checks of a poll begin stays armed. -/
theorem rateTimer_pollFrame (pollInner : B → FramePoll ε × B) {tick : Tick}
    {guard : ResponseBodyGuard B} (hlive : guard.terminal = false)
    (harmed : (guard.startTimers tick.now).rateTimer.isSome = true) :
    (pollFrame pollInner tick guard).2.rateTimer.isSome = true := by
  cases hidle : (view B).idleElapsed tick guard with
  | true =>
      rw [pollFrame_idle pollInner hlive hidle]
      exact harmed
  | false =>
      cases hstarved : (view B).starved tick guard with
      | true =>
          rw [pollFrame_starved pollInner hlive hidle hstarved]
          exact harmed
      | false =>
          rw [pollFrame_asked pollInner hlive hidle hstarved, rateTimer_deliver]
          exact rateTimer_opened harmed

end ResponseBodyGuard

/-- What holds after the first poll and is kept by every later one holds after every run. -/
theorem armed_run {ι G : Type} {poll : ι → G → FramePoll IoError × G} (Armed : G → Prop)
    {fresh : G} (hfirst : ∀ input, Armed (poll input fresh).2)
    (hnext : ∀ input guard, Armed guard → Armed (poll input guard).2) {inputs : List ι}
    (hpolled : inputs ≠ []) : Armed (Poll.run poll inputs fresh).2 := by
  cases inputs with
  | nil => exact absurd rfl hpolled
  | cons input rest => exact Poll.run_invariant hnext rest (hfirst input)

theorem requestRateWindow_ne_zero {limits : TransportLimits} (hvalid : limits.isValid = true)
    (henabled : limits.minRequestBodyBytesPerSecond ≠ 0) : limits.requestBodyRateWindow ≠ 0 := by
  simp only [TransportLimits.isValid, Bool.and_eq_true, Bool.or_eq_true, beq_iff_eq,
    bne_iff_ne] at hvalid
  tauto

theorem responseRateWindow_ne_zero {limits : TransportLimits} (hvalid : limits.isValid = true)
    (henabled : limits.minResponseBodyBytesPerSecond ≠ 0) : limits.responseBodyRateWindow ≠ 0 := by
  simp only [TransportLimits.isValid, Bool.and_eq_true, Bool.or_eq_true, beq_iff_eq,
    bne_iff_ne] at hvalid
  tauto

/-- An enabled floor has a minimum to enforce. -/
theorem minimumBytesForWindow_pos {bytesPerSecond window : Nat} (henabled : bytesPerSecond ≠ 0)
    (hwindow : window ≠ 0) : minimumBytesForWindow bytesPerSecond window > 0 := by
  refine Nat.pos_of_ne_zero fun hzero => ?_
  exact (minimumBytesForWindow_eq_zero_iff.mp hzero).elim henabled hwindow

/-- The bytes of a window are exact and grow with the rate and with the window. A floor that
accepted limits enable has armed the rate timer of its guard from the first poll on. -/
theorem rate_floor_exact_monotone_armed :
    (∀ bytesPerSecond window, minimumBytesForWindow bytesPerSecond window =
      min (2 ^ 64 - 1) (bytesPerSecond * window ⌈/⌉ 10 ^ 9)) ∧
    (∀ slower faster shorter longer, slower ≤ faster → shorter ≤ longer →
      minimumBytesForWindow slower shorter ≤ minimumBytesForWindow faster longer) ∧
    (∀ bytesPerSecond window, minimumBytesForWindow bytesPerSecond window = 0 ↔
      bytesPerSecond = 0 ∨ window = 0) ∧
    ∀ limits : TransportLimits, limits.isValid = true →
      (limits.minRequestBodyBytesPerSecond ≠ 0 →
        ∀ (B ε : Type) (pollInner : B → FramePoll ε × B) (inner : B) (ticks : List RequestTick),
          ticks ≠ [] → (Poll.run (RequestBodyGuard.pollFrame pollInner) ticks
            (.new inner limits)).2.rateTimer.isSome = true) ∧
      (limits.minResponseBodyBytesPerSecond ≠ 0 →
        ∀ (B ε : Type) (pollInner : B → FramePoll ε × B) (inner : B) (declaredLength : Option Nat)
          (maxBodyBytes : Nat) (ticks : List Tick),
          ticks ≠ [] → (Poll.run (ResponseBodyGuard.pollFrame pollInner) ticks
            (.streaming inner declaredLength maxBodyBytes limits)).2.rateTimer.isSome = true) := by
  refine ⟨minimumBytesForWindow_eq_ceilDiv, fun _ _ _ _ => minimumBytesForWindow_mono,
    fun _ _ => minimumBytesForWindow_eq_zero_iff, fun limits hvalid => ⟨?_, ?_⟩⟩
  · intro henabled B ε pollInner inner ticks hpolled
    have hminimum := minimumBytesForWindow_pos henabled
      (requestRateWindow_ne_zero hvalid henabled)
    refine armed_run (fun guard : RequestBodyGuard B => guard.rateTimer.isSome = true)
      (fun tick => ?_) (fun tick guard harmed => ?_) hpolled
    · apply RequestBodyGuard.rateTimer_pollFrame pollInner rfl
      simp only [RequestBodyGuard.startTimers, RequestBodyGuard.new, hminimum, if_true,
        Option.isSome_some]
    · cases hlive : (RequestBodyGuard.view B).terminal guard with
      | true =>
          rw [RequestBodyGuard.pollFrame_silent pollInner hlive]
          exact harmed
      | false =>
          apply RequestBodyGuard.rateTimer_pollFrame pollInner hlive
          exact RequestBodyGuard.rateTimer_startTimers tick.now harmed
  · intro henabled B ε pollInner inner declaredLength maxBodyBytes ticks hpolled
    have hminimum := minimumBytesForWindow_pos henabled
      (responseRateWindow_ne_zero hvalid henabled)
    refine armed_run (fun guard : ResponseBodyGuard B => guard.rateTimer.isSome = true)
      (fun tick => ?_) (fun tick guard harmed => ?_) hpolled
    · apply ResponseBodyGuard.rateTimer_pollFrame pollInner rfl
      simp only [ResponseBodyGuard.startTimers, ResponseBodyGuard.streaming, hminimum, if_true,
        Option.isSome_some]
    · cases hlive : guard.terminal with
      | true =>
          rw [ResponseBodyGuard.pollFrame_silent pollInner hlive]
          exact harmed
      | false =>
          apply ResponseBodyGuard.rateTimer_pollFrame pollInner hlive
          exact ResponseBodyGuard.rateTimer_startTimers tick.now harmed

/-- The longest window at the highest rate saturates, and the default limits arm both timers. -/
theorem rate_floor_exact_monotone_armed_default :
    minimumBytesForWindow (2 ^ 64 - 1) (2 ^ 64 * 10 ^ 9 - 1) = 2 ^ 64 - 1 ∧
      minimumBytesForWindow 1 1 ≤ minimumBytesForWindow 1024 250000000 ∧
      (Poll.run (RequestBodyGuard.pollFrame pollFull) [⟨⟨1, false, false⟩, false⟩]
        (.new (asBytes "a") defaultLimits)).2.rateTimer.isSome = true ∧
      (Poll.run (ResponseBodyGuard.pollFrame pollFull) [⟨1, false, false⟩]
        (.streaming (asBytes "a") none 1 defaultLimits)).2.rateTimer.isSome = true := by
  obtain ⟨hexact, hmono, -, harmed⟩ := rate_floor_exact_monotone_armed
  obtain ⟨hrequest, hresponse⟩ := harmed defaultLimits (by decide)
  refine ⟨?_, hmono 1 1024 1 250000000 (by omega) (by omega), ?_, ?_⟩
  · rw [hexact, Nat.ceilDiv_eq_add_pred_div]
    omega
  · exact hrequest (by decide) _ _ pollFull _ _ (by simp)
  · exact hresponse (by decide) _ _ pollFull _ none 1 _ (by simp)

end Rpackit.Transport
