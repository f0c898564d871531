import Rpackit.Transport.BodyGuard

/-! # The timers of the body guards

Both guards of a body watch for stalls: an idle timer restarts at every non-empty
frame, and a rate timer closes one window after the other. Here the watch is seen
from outside, from the clock, the fired timers and the frames that were forwarded,
and the state that the guards keep is shown to be that watch.
-/

namespace Rpackit.Transport

open Text

/-! ## What the guards keep -/

/-- The timers of a guard and the settings they follow. -/
structure GuardTimers where
  idleTimeout : Option Nat
  rateWindow : Nat
  minimumWindowBytes : Nat
  windowBytes : Nat
  idleTimer : Option Nat
  rateTimer : Option Nat
  deriving DecidableEq, Repr

namespace GuardTimers

def start (timers : GuardTimers) (now : Nat) : GuardTimers :=
  match timers.idleTimer, timers.idleTimeout with
  | none, some idleTimeout =>
      { timers with
        idleTimer := some (now + idleTimeout)
        rateTimer := if timers.minimumWindowBytes > 0 then some (now + timers.rateWindow)
          else timers.rateTimer }
  | _, _ => timers

def idleElapsed (timers : GuardTimers) (tick : Tick) : Bool :=
  timers.idleTimer.isSome && tick.idleFired

def rateElapsed (timers : GuardTimers) (tick : Tick) : Bool :=
  timers.rateTimer.isSome && tick.rateFired

def resetIdleTimer (timers : GuardTimers) (now : Nat) : GuardTimers :=
  match timers.idleTimeout, timers.idleTimer with
  | some timeout, some _ => { timers with idleTimer := some (now + timeout) }
  | _, _ => timers

def resetRateWindow (timers : GuardTimers) (now : Nat) : GuardTimers :=
  { timers with
    windowBytes := 0
    rateTimer := timers.rateTimer.map fun _ => now + timers.rateWindow }

/-- The timers when the inner body is asked. -/
def opened (timers : GuardTimers) (tick : Tick) : GuardTimers :=
  if (timers.start tick.now).rateElapsed tick then
    (timers.start tick.now).resetRateWindow tick.now
  else timers.start tick.now

/-- The timers after an answer. -/
def answered (timers : GuardTimers) (now : Nat) : FramePoll IoError → GuardTimers
  | .ready (some (.ok (.data bytes))) =>
      let counted := { timers with
        windowBytes := min (timers.windowBytes + bytes.length) (2 ^ 64 - 1) }
      if bytes.length > 0 then counted.resetIdleTimer now else counted
  | _ => timers

end GuardTimers

/-! ## The watch from outside -/

/-- When the current idle period and the current rate window began, and the bytes
that this window has carried. -/
structure StallWatch where
  periodStart : Nat
  windowStart : Nat
  carried : Nat
  deriving DecidableEq, Repr

namespace StallWatch

def start (now : Nat) : StallWatch := ⟨now, now, 0⟩

/-- A window whose expiry is observed gives way to the next one. -/
def openWindow (rated : Bool) (tick : Tick) (watch : StallWatch) : StallWatch :=
  if rated && tick.rateFired then { watch with windowStart := tick.now, carried := 0 } else watch

def forward (now : Nat) (answer : FramePoll IoError) (watch : StallWatch) : StallWatch :=
  { watch with
    periodStart := if frameData answer = [] then watch.periodStart else now
    carried := watch.carried + (frameData answer).length }

/-- The watch after one poll. -/
def observe (rated : Bool) (tick : Tick) (answer : FramePoll IoError) (watch : StallWatch) :
    StallWatch :=
  (watch.openWindow rated tick).forward tick.now answer

end StallWatch

/-- A guard polled beside the watch, which begins at the first poll. -/
def watchedPoll {ι G : Type} (rated : Bool) (toTick : ι → Tick)
    (poll : ι → G → FramePoll IoError × G) (input : ι) (state : G × Option StallWatch) :
    FramePoll IoError × (G × Option StallWatch) :=
  let (answer, next) := poll input state.1
  let watch := state.2.getD (.start (toTick input).now)
  (answer, (next, some (watch.observe rated (toTick input) answer)))

/-! ## Guards that keep the watch -/

/-- A guard as a watch: its timers, whether it is silent, and its two timer errors. -/
structure WatchView (ι G : Type) where
  toTick : ι → Tick
  timers : G → GuardTimers
  terminal : G → Bool
  idleError : IoError
  rateError : IoError
  /-- Another timer comes first. -/
  overruled : ι → G → Bool

namespace WatchView

variable {ι G : Type}

def idleElapsed (view : WatchView ι G) (input : ι) (guard : G) : Bool :=
  ((view.timers guard).start (view.toTick input).now).idleElapsed (view.toTick input)

def rateElapsed (view : WatchView ι G) (input : ι) (guard : G) : Bool :=
  ((view.timers guard).start (view.toTick input).now).rateElapsed (view.toTick input)

/-- The rate timer has fired on a window below the minimum. -/
def starved (view : WatchView ι G) (input : ι) (guard : G) : Bool :=
  view.rateElapsed input guard &&
    (view.timers guard).windowBytes < (view.timers guard).minimumWindowBytes

def idlePoll (view : WatchView ι G) : FramePoll IoError := .ready (some (.error view.idleError))

def ratePoll (view : WatchView ι G) : FramePoll IoError := .ready (some (.error view.rateError))

/-- The polls of the guard follow the timers, in this order. -/
structure Follows (view : WatchView ι G) (poll : ι → G → FramePoll IoError × G) : Prop where
  silent : ∀ input guard, view.terminal guard = true → poll input guard = (.ready none, guard)
  overruled : ∀ input guard, view.terminal guard = false → view.overruled input guard = true →
    (poll input guard).1 ≠ view.idlePoll ∧ (poll input guard).1 ≠ view.ratePoll ∧
      view.terminal (poll input guard).2 = true
  idle : ∀ input guard, view.terminal guard = false → view.overruled input guard = false →
    view.idleElapsed input guard = true →
    (poll input guard).1 = view.idlePoll ∧ view.terminal (poll input guard).2 = true
  rate : ∀ input guard, view.terminal guard = false → view.overruled input guard = false →
    view.idleElapsed input guard = false → view.starved input guard = true →
    (poll input guard).1 = view.ratePoll ∧ view.terminal (poll input guard).2 = true
  asked : ∀ input guard, view.terminal guard = false → view.overruled input guard = false →
    view.idleElapsed input guard = false → view.starved input guard = false →
    (poll input guard).1 ≠ view.idlePoll ∧ (poll input guard).1 ≠ view.ratePoll ∧
      (view.terminal (poll input guard).2 = true ∨ view.timers (poll input guard).2 =
        ((view.timers guard).opened (view.toTick input)).answered (view.toTick input).now
          (poll input guard).1)

end WatchView

/-! ## The timers are the watch -/

structure WatchSettings where
  idleTimeout : Nat
  rateWindow : Nat
  minimumWindowBytes : Nat
  deriving DecidableEq, Repr

namespace WatchSettings

variable (settings : WatchSettings)

/-- Without a minimum there is no rate timer. -/
def rated : Bool := 0 < settings.minimumWindowBytes

/-- The timers of a guard whose watch is known; before the first poll there is none. -/
def timers : Option StallWatch → GuardTimers
  | none => ⟨some settings.idleTimeout, settings.rateWindow, settings.minimumWindowBytes, 0, none,
      none⟩
  | some watch => ⟨some settings.idleTimeout, settings.rateWindow, settings.minimumWindowBytes,
      min watch.carried (2 ^ 64 - 1), some (watch.periodStart + settings.idleTimeout),
      if settings.rated then some (watch.windowStart + settings.rateWindow) else none⟩

theorem start_timers (watch : Option StallWatch) (now : Nat) :
    (settings.timers watch).start now = settings.timers (some (watch.getD (.start now))) := by
  cases watch with
  | none => simp [timers, GuardTimers.start, StallWatch.start, rated]
  | some watch => rfl

theorem windowBytes_timers (watch : Option StallWatch) (now : Nat) :
    (settings.timers watch).windowBytes =
      min (watch.getD (.start now)).carried (2 ^ 64 - 1) := by
  cases watch <;> simp [timers, StallWatch.start]

theorem minimumWindowBytes_timers (watch : Option StallWatch) :
    (settings.timers watch).minimumWindowBytes = settings.minimumWindowBytes := by
  cases watch <;> rfl

theorem rateElapsed_timers (watch : StallWatch) (tick : Tick) :
    (settings.timers (some watch)).rateElapsed tick = (settings.rated && tick.rateFired) := by
  cases hrated : settings.rated with
  | false => simp [timers, GuardTimers.rateElapsed, hrated]
  | true => simp [timers, GuardTimers.rateElapsed, hrated]

theorem opened_timers (watch : Option StallWatch) (tick : Tick) :
    (settings.timers watch).opened tick = settings.timers
      (some ((watch.getD (.start tick.now)).openWindow settings.rated tick)) := by
  rw [GuardTimers.opened, start_timers, rateElapsed_timers, StallWatch.openWindow]
  split
  next hclosed =>
    rw [Bool.and_eq_true] at hclosed
    simp [timers, GuardTimers.resetRateWindow, hclosed.1]
  next => rfl

theorem answered_timers (watch : StallWatch) (now : Nat) (answer : FramePoll IoError) :
    (settings.timers (some watch)).answered now answer =
      settings.timers (some (watch.forward now answer)) := by
  match answer with
  | .pending => rfl
  | .ready none => rfl
  | .ready (some (.error _)) => rfl
  | .ready (some (.ok (.trailers _))) => rfl
  | .ready (some (.ok .unknown)) => rfl
  | .ready (some (.ok (.data bytes))) =>
      have hcount : min (min watch.carried (2 ^ 64 - 1) + bytes.length) (2 ^ 64 - 1) =
          min (watch.carried + bytes.length) (2 ^ 64 - 1) := by omega
      by_cases hempty : bytes = []
      · simp [timers, GuardTimers.answered, StallWatch.forward, frameData, hempty]
      · have hsome : bytes.length > 0 := List.length_pos_of_ne_nil hempty
        simp only [timers, GuardTimers.answered, StallWatch.forward, frameData, hsome, hempty,
          hcount, if_true, if_false]
        rfl

end WatchSettings

/-- The watch does not change what the guard answers. -/
theorem trace_watchedPoll_answers {ι G : Type} (rated : Bool) (toTick : ι → Tick)
    (poll : ι → G → FramePoll IoError × G) (inputs : List ι) (state : G × Option StallWatch) :
    (Poll.trace (watchedPoll rated toTick poll) inputs state).map Poll.Record.answer =
      (Poll.run poll inputs state.1).1 := by
  induction inputs generalizing state with
  | nil => rfl
  | cons input rest ih =>
      rw [Poll.trace, List.map_cons, ih, Poll.run_cons]
      rfl

/-- The state of a watched guard: while it is live its timers are the watch. -/
def Watched {ι G : Type} (view : WatchView ι G) (settings : WatchSettings)
    (state : G × Option StallWatch) : Prop :=
  view.terminal state.1 = false → view.timers state.1 = settings.timers state.2

namespace WatchView

variable {ι G : Type} {view : WatchView ι G} {poll : ι → G → FramePoll IoError × G}

/-- Which of the checks decides a poll. -/
inductive Decision (view : WatchView ι G) (poll : ι → G → FramePoll IoError × G) (input : ι)
    (guard : G) : Prop
  | silent (hterminal : view.terminal guard = true)
      (hpoll : poll input guard = (.ready none, guard)) : Decision view poll input guard
  | overruled (hlive : view.terminal guard = false) (hfirst : view.overruled input guard = true)
      (hidle : (poll input guard).1 ≠ view.idlePoll) (hrate : (poll input guard).1 ≠ view.ratePoll)
      (hnext : view.terminal (poll input guard).2 = true) : Decision view poll input guard
  | idle (hlive : view.terminal guard = false) (hfirst : view.overruled input guard = false)
      (helapsed : view.idleElapsed input guard = true)
      (hanswer : (poll input guard).1 = view.idlePoll)
      (hnext : view.terminal (poll input guard).2 = true) : Decision view poll input guard
  | rate (hlive : view.terminal guard = false) (hfirst : view.overruled input guard = false)
      (hidle : view.idleElapsed input guard = false) (hstarved : view.starved input guard = true)
      (hanswer : (poll input guard).1 = view.ratePoll)
      (hnext : view.terminal (poll input guard).2 = true) : Decision view poll input guard
  | asked (hlive : view.terminal guard = false) (hfirst : view.overruled input guard = false)
      (hidle : view.idleElapsed input guard = false) (hfed : view.starved input guard = false)
      (hnotIdle : (poll input guard).1 ≠ view.idlePoll)
      (hnotRate : (poll input guard).1 ≠ view.ratePoll)
      (hnext : view.terminal (poll input guard).2 = true ∨ view.timers (poll input guard).2 =
        ((view.timers guard).opened (view.toTick input)).answered (view.toTick input).now
          (poll input guard).1) : Decision view poll input guard

theorem Follows.decision (hfollows : view.Follows poll) (input : ι) (guard : G) :
    Decision view poll input guard := by
  cases hlive : view.terminal guard with
  | true => exact .silent hlive (hfollows.silent input guard hlive)
  | false =>
      cases hfirst : view.overruled input guard with
      | true =>
          obtain ⟨hidle, hrate, hnext⟩ := hfollows.overruled input guard hlive hfirst
          exact .overruled hlive hfirst hidle hrate hnext
      | false =>
          cases hidle : view.idleElapsed input guard with
          | true =>
              obtain ⟨hanswer, hnext⟩ := hfollows.idle input guard hlive hfirst hidle
              exact .idle hlive hfirst hidle hanswer hnext
          | false =>
              cases hstarved : view.starved input guard with
              | true =>
                  obtain ⟨hanswer, hnext⟩ := hfollows.rate input guard hlive hfirst hidle hstarved
                  exact .rate hlive hfirst hidle hstarved hanswer hnext
              | false =>
                  obtain ⟨hnotIdle, hnotRate, hnext⟩ :=
                    hfollows.asked input guard hlive hfirst hidle hstarved
                  exact .asked hlive hfirst hidle hstarved hnotIdle hnotRate hnext

theorem Follows.watched_poll (hfollows : view.Follows poll) (settings : WatchSettings) (input : ι)
    {state : G × Option StallWatch} (hstate : Watched view settings state) :
    Watched view settings (watchedPoll settings.rated view.toTick poll input state).2 := by
  intro hnext
  change view.terminal (poll input state.1).2 = false at hnext
  have hnot : view.terminal (poll input state.1).2 ≠ true := Bool.eq_false_iff.mp hnext
  -- a poll that leaves the guard live has asked the inner body
  cases hfollows.decision input state.1 with
  | silent hterminal hpoll =>
      rw [hpoll] at hnot
      exact absurd hterminal hnot
  | overruled _ _ _ _ hdone => exact absurd hdone hnot
  | idle _ _ _ _ hdone => exact absurd hdone hnot
  | rate _ _ _ _ _ hdone => exact absurd hdone hnot
  | asked hlive _ _ _ _ _ hasked =>
      change view.timers (poll input state.1).2 = _
      rw [hasked.resolve_left hnot, hstate hlive, settings.opened_timers, settings.answered_timers]
      rfl

/-- The watch at a poll; the first poll starts it. -/
def watchAt (view : WatchView ι G) (input : ι) (state : G × Option StallWatch) : StallWatch :=
  state.2.getD (.start (view.toTick input).now)

theorem starved_iff {settings : WatchSettings} {input : ι} {state : G × Option StallWatch}
    (hbound : settings.minimumWindowBytes < 2 ^ 64)
    (hstate : view.timers state.1 = settings.timers state.2) :
    view.starved input state.1 = true ↔ settings.rated = true ∧
      (view.toTick input).rateFired = true ∧
      (view.watchAt input state).carried < settings.minimumWindowBytes := by
  rw [starved, rateElapsed, hstate, settings.start_timers, settings.rateElapsed_timers,
    settings.windowBytes_timers _ (view.toTick input).now, settings.minimumWindowBytes_timers,
    Bool.and_eq_true, Bool.and_eq_true, decide_eq_true_eq, and_assoc, watchAt]
  refine and_congr_right fun _ => and_congr_right fun _ => ?_
  omega

/-- What a poll of a run meets: timers that are the watch. -/
theorem Follows.watched_trace (hfollows : view.Follows poll) (settings : WatchSettings)
    (inputs : List ι) {guard : G} (hfresh : view.timers guard = settings.timers none)
    {record : Poll.Record (G × Option StallWatch) ι (FramePoll IoError)}
    (hrecord : record ∈
      Poll.trace (watchedPoll settings.rated view.toTick poll) inputs (guard, none)) :
    Watched view settings record.before ∧
      record.answer = (poll record.input record.before.1).1 :=
  Poll.trace_invariant (fun input _ => hfollows.watched_poll settings input) inputs
    (fun _ => hfresh) hrecord

end WatchView

end Rpackit.Transport
