import Rpackit.Transport.RequestStream
import Rpackit.Transport.ResponseFilter

/-! # Backpressure and stalls

The timers of the guards run on while the caller does not poll. A body whose frames
become ready on a schedule tells a stalled peer from a slow caller: a timer error is
honest when the peer had nothing, or too little, to read by the deadline. The guards
are honest on exactly the runs whose caller lets no deadline pass over ready data.
-/

namespace Rpackit.Transport

open Text

variable {ε ι G : Type}

/-! ## Bodies on a schedule -/

/-- The answers of a body with the instants at which they become ready. -/
abbrev TimedBody (ε : Type) := List (Nat × Option (Except ε Frame))

def pollAt (now : Nat) : TimedBody ε → FramePoll ε × TimedBody ε
  | [] => (.pending, [])
  | (readyAt, answer) :: rest =>
      if readyAt ≤ now then (.ready answer, rest) else (.pending, (readyAt, answer) :: rest)

/-- The bytes that can be read by an instant: those of the data frames that are ready
by then, up to the first other answer. -/
def readableBytes (deadline : Nat) : TimedBody ε → Bytes
  | (readyAt, some (.ok (.data bytes))) :: rest =>
      if readyAt ≤ deadline then bytes ++ readableBytes deadline rest else []
  | _ => []

/-! ## Honest rejections -/

/-- The poll of a guard beside its watch. -/
abbrev WatchedPoll (ι G : Type) := Poll.Record (G × Option StallWatch) ι (FramePoll IoError)

/-- A timer error of this poll is no mistake: in the idle period that expired no byte
could be read, in the rate window that expired fewer than the minimum. -/
structure Honest (view : WatchView ι G) (settings : WatchSettings) (unread : G → TimedBody ε)
    (record : WatchedPoll ι G) : Prop where
  idle : record.answer = view.idlePoll →
    readableBytes ((view.watchAt record.input record.before).periodStart + settings.idleTimeout)
      (unread record.before.1) = []
  rate : record.answer = view.ratePoll →
    (view.watchAt record.input record.before).carried +
      (readableBytes ((view.watchAt record.input record.before).windowStart + settings.rateWindow)
        (unread record.before.1)).length < settings.minimumWindowBytes

/-- The caller has let no timer pass over ready data: when the guard is polled after the
deadline of a timer, the unread frames that were ready by then would not have kept it
from expiring. -/
structure InTime (view : WatchView ι G) (unread : G → TimedBody ε) (input : ι) (guard : G) :
    Prop where
  idle : view.terminal guard = false → view.overruled input guard = false →
    view.idleElapsed input guard = true →
    ∀ deadline ∈ ((view.timers guard).start (view.toTick input).now).idleTimer,
      readableBytes deadline (unread guard) = []
  rate : view.terminal guard = false → view.overruled input guard = false →
    view.idleElapsed input guard = false → view.starved input guard = true →
    ∀ deadline ∈ ((view.timers guard).start (view.toTick input).now).rateTimer,
      (view.timers guard).windowBytes + (readableBytes deadline (unread guard)).length <
        (view.timers guard).minimumWindowBytes

namespace WatchView

variable {view : WatchView ι G} {poll : ι → G → FramePoll IoError × G}

theorem Follows.idlePoll_iff (hfollows : view.Follows poll) (hne : view.idlePoll ≠ view.ratePoll)
    {input : ι} {guard : G} :
    (poll input guard).1 = view.idlePoll ↔ view.terminal guard = false ∧
      view.overruled input guard = false ∧ view.idleElapsed input guard = true := by
  cases hfollows.decision input guard with
  | silent hterminal hpoll => simp [hpoll, hterminal, idlePoll]
  | overruled _ hfirst hidle _ _ => simp [hfirst, hidle]
  | idle hlive hfirst helapsed hanswer _ => simp [hlive, hfirst, helapsed, hanswer]
  | rate _ _ hidle _ hanswer _ => simp [hidle, hanswer, hne.symm]
  | asked _ _ hidle _ hnotIdle _ _ => simp [hidle, hnotIdle]

theorem Follows.ratePoll_iff (hfollows : view.Follows poll) (hne : view.idlePoll ≠ view.ratePoll)
    {input : ι} {guard : G} :
    (poll input guard).1 = view.ratePoll ↔ view.terminal guard = false ∧
      view.overruled input guard = false ∧ view.idleElapsed input guard = false ∧
      view.starved input guard = true := by
  cases hfollows.decision input guard with
  | silent hterminal hpoll => simp [hpoll, hterminal, ratePoll]
  | overruled _ hfirst _ hrate _ => simp [hfirst, hrate]
  | idle _ _ helapsed hanswer _ => simp [helapsed, hanswer, hne]
  | rate hlive hfirst hidle hstarved hanswer _ => simp [hlive, hfirst, hidle, hstarved, hanswer]
  | asked _ _ _ hfed _ hnotRate _ => simp [hfed, hnotRate]

/-- On one poll whose timers are the watch, honesty is punctuality. -/
theorem Follows.honest_iff (hfollows : view.Follows poll) (hne : view.idlePoll ≠ view.ratePoll)
    {settings : WatchSettings} (hbound : settings.minimumWindowBytes < 2 ^ 64)
    (unread : G → TimedBody ε) {record : WatchedPoll ι G}
    (hstate : Watched view settings record.before)
    (hanswer : record.answer = (poll record.input record.before.1).1) :
    Honest view settings unread record ↔
      InTime view unread record.input record.before.1 := by
  cases hlive : view.terminal record.before.1 with
  | true =>
      -- a silent guard answers with no error, and its timers are not asked
      have hsilent := hfollows.silent record.input record.before.1 hlive
      rw [hsilent] at hanswer
      constructor
      · intro _
        constructor <;> simp [hlive]
      · intro _
        constructor <;> simp [hanswer, idlePoll, ratePoll]
  | false =>
      have htimers := hstate hlive
      have hstarted : (view.timers record.before.1).start (view.toTick record.input).now =
          settings.timers (some (view.watchAt record.input record.before)) := by
        rw [htimers, settings.start_timers, watchAt]
      have hwindow := settings.windowBytes_timers record.before.2 (view.toTick record.input).now
      have hminimum := settings.minimumWindowBytes_timers record.before.2
      rw [← htimers] at hwindow hminimum
      have hbelow : view.starved record.input record.before.1 = true →
          (view.timers record.before.1).windowBytes =
            (view.watchAt record.input record.before).carried := by
        intro hstarved
        obtain ⟨-, -, hcarried⟩ := (starved_iff hbound htimers).mp hstarved
        rw [hwindow]
        change min (view.watchAt record.input record.before).carried _ = _
        omega
      constructor
      · rintro ⟨hidle, hrate⟩
        constructor
        · intro _ hfirst helapsed deadline hdeadline
          rw [hstarted] at hdeadline
          obtain rfl := Option.some.inj hdeadline
          exact hidle (hanswer.trans ((hfollows.idlePoll_iff hne).mpr ⟨hlive, hfirst, helapsed⟩))
        · intro _ hfirst helapsed hstarved deadline hdeadline
          obtain ⟨hrated, -, -⟩ := (starved_iff hbound htimers).mp hstarved
          rw [hstarted, WatchSettings.timers, hrated] at hdeadline
          obtain rfl := Option.some.inj hdeadline
          rw [hminimum, hbelow hstarved]
          exact hrate (hanswer.trans
            ((hfollows.ratePoll_iff hne).mpr ⟨hlive, hfirst, helapsed, hstarved⟩))
      · rintro ⟨hidle, hrate⟩
        constructor
        · intro herror
          obtain ⟨-, hfirst, helapsed⟩ := (hfollows.idlePoll_iff hne).mp (hanswer.symm.trans herror)
          exact hidle hlive hfirst helapsed _ (by rw [hstarted]; rfl)
        · intro herror
          obtain ⟨-, hfirst, helapsed, hstarved⟩ :=
            (hfollows.ratePoll_iff hne).mp (hanswer.symm.trans herror)
          obtain ⟨hrated, -, -⟩ := (starved_iff hbound htimers).mp hstarved
          have hopen := hrate hlive hfirst helapsed hstarved
            ((view.watchAt record.input record.before).windowStart + settings.rateWindow)
            (by rw [hstarted, WatchSettings.timers, hrated]; rfl)
          rwa [hminimum, hbelow hstarved] at hopen

/-- A run of a new guard is honest when its caller is punctual, and only then. -/
theorem Follows.honest_trace_iff (hfollows : view.Follows poll)
    (hne : view.idlePoll ≠ view.ratePoll) {settings : WatchSettings}
    (hbound : settings.minimumWindowBytes < 2 ^ 64) (unread : G → TimedBody ε) {guard : G}
    (hfresh : view.timers guard = settings.timers none) (inputs : List ι) :
    (∀ record ∈ Poll.trace (watchedPoll settings.rated view.toTick poll) inputs (guard, none),
        Honest view settings unread record) ↔
      ∀ record ∈ Poll.trace (watchedPoll settings.rated view.toTick poll) inputs (guard, none),
        InTime view unread record.input record.before.1 := by
  refine forall₂_congr fun record hrecord => ?_
  obtain ⟨hstate, hanswer⟩ := hfollows.watched_trace settings inputs hfresh hrecord
  exact hfollows.honest_iff hne hbound unread hstate hanswer

end WatchView

/-! ## The two guards -/

namespace RequestBodyGuard

/-- A poll at an instant of the schedule. -/
def pollScheduled (tick : RequestTick) (guard : RequestBodyGuard (TimedBody ε)) :
    FramePoll IoError × RequestBodyGuard (TimedBody ε) :=
  pollFrame (pollAt tick.now) tick guard

/-- The polls of a run of a new guard over a scheduled body. -/
def scheduledTrace (limits : TransportLimits) (body : TimedBody ε) (ticks : List RequestTick) :
    List (WatchedPoll RequestTick (RequestBodyGuard (TimedBody ε))) :=
  Poll.trace (watchedPoll (watchSettings limits).rated RequestTick.toTick pollScheduled) ticks
    (new body limits, none)

theorem follows_scheduled : (view (TimedBody ε)).Follows (@pollScheduled ε) where
  silent tick := (follows (pollAt tick.now)).silent tick
  overruled tick := (follows (pollAt tick.now)).overruled tick
  idle tick := (follows (pollAt tick.now)).idle tick
  rate tick := (follows (pollAt tick.now)).rate tick
  asked tick := (follows (pollAt tick.now)).asked tick

end RequestBodyGuard

namespace ResponseBodyGuard

/-- How the limits of a proxy watch a response body. -/
def watchSettings (limits : TransportLimits) : WatchSettings where
  idleTimeout := limits.responseBodyIdleTimeout
  rateWindow := limits.responseBodyRateWindow
  minimumWindowBytes := minimumBytesForWindow limits.minResponseBodyBytesPerSecond
    limits.responseBodyRateWindow

def pollScheduled (tick : Tick) (guard : ResponseBodyGuard (TimedBody ε)) :
    FramePoll IoError × ResponseBodyGuard (TimedBody ε) :=
  pollFrame (pollAt tick.now) tick guard

def scheduledTrace (limits : TransportLimits) (declaredLength : Option Nat) (maxBodyBytes : Nat)
    (body : TimedBody ε) (ticks : List Tick) :
    List (WatchedPoll Tick (ResponseBodyGuard (TimedBody ε))) :=
  Poll.trace (watchedPoll (watchSettings limits).rated id pollScheduled) ticks
    (streaming body declaredLength maxBodyBytes limits, none)

theorem follows_scheduled : (view (TimedBody ε)).Follows (@pollScheduled ε) where
  silent tick := (follows (pollAt tick.now)).silent tick
  overruled tick := (follows (pollAt tick.now)).overruled tick
  idle tick := (follows (pollAt tick.now)).idle tick
  rate tick := (follows (pollAt tick.now)).rate tick
  asked tick := (follows (pollAt tick.now)).asked tick

end ResponseBodyGuard

/-- For every schedule of the body and of the polls, a guard takes backpressure for a
stall exactly when its caller lets a timer pass over ready data. -/
theorem timers_honest_iff_inTime (limits : TransportLimits) :
    (∀ (body : TimedBody ε) (ticks : List RequestTick),
      (∀ record ∈ RequestBodyGuard.scheduledTrace limits body ticks,
        Honest (RequestBodyGuard.view _) (RequestBodyGuard.watchSettings limits)
          RequestBodyGuard.inner record) ↔
      ∀ record ∈ RequestBodyGuard.scheduledTrace limits body ticks,
        InTime (RequestBodyGuard.view _) RequestBodyGuard.inner record.input record.before.1) ∧
    ∀ (declaredLength : Option Nat) (maxBodyBytes : Nat) (body : TimedBody ε) (ticks : List Tick),
      (∀ record ∈ ResponseBodyGuard.scheduledTrace limits declaredLength maxBodyBytes body ticks,
        Honest (ResponseBodyGuard.view _) (ResponseBodyGuard.watchSettings limits)
          ResponseBodyGuard.inner record) ↔
      ∀ record ∈ ResponseBodyGuard.scheduledTrace limits declaredLength maxBodyBytes body ticks,
        InTime (ResponseBodyGuard.view _) ResponseBodyGuard.inner record.input record.before.1 := by
  constructor
  · intro body ticks
    exact RequestBodyGuard.follows_scheduled.honest_trace_iff
      (by simp [WatchView.idlePoll, WatchView.ratePoll]) (minimumBytesForWindow_lt _ _)
      RequestBodyGuard.inner rfl ticks
  · intro declaredLength maxBodyBytes body ticks
    exact ResponseBodyGuard.follows_scheduled.honest_trace_iff
      (by simp [WatchView.idlePoll, WatchView.ratePoll]) (minimumBytesForWindow_lt _ _)
      ResponseBodyGuard.inner rfl ticks

/-! ## A slow caller -/

/-- The second frame is ready right after the first. -/
def promptBody : TimedBody Unit :=
  [(0, some (.ok (.data (asBytes "a")))), (1, some (.ok (.data (asBytes "b"))))]

/-- The caller polls, and again after sixteen seconds. -/
def slowTicks : List Tick := [⟨0, false, false⟩, ⟨seconds 16, true, true⟩]

/-- Under the default limits both guards take the slow caller for a stalled peer. -/
theorem timers_blame_prompt_peer :
    (¬∀ record ∈ RequestBodyGuard.scheduledTrace defaultLimits promptBody
        (slowTicks.map fun tick => ⟨tick, false⟩),
      Honest (RequestBodyGuard.view _) (RequestBodyGuard.watchSettings defaultLimits)
        RequestBodyGuard.inner record) ∧
    ¬∀ record ∈ ResponseBodyGuard.scheduledTrace defaultLimits none
        defaultLimits.maxResponseBodyBytes promptBody slowTicks,
      Honest (ResponseBodyGuard.view _) (ResponseBodyGuard.watchSettings defaultLimits)
        ResponseBodyGuard.inner record := by
  constructor
  · intro hhonest
    have hsecond := hhonest _ (List.mem_cons_of_mem _ List.mem_cons_self)
    exact absurd (hsecond.idle (by decide +kernel)) (by decide +kernel)
  · intro hhonest
    have hsecond := hhonest _ (List.mem_cons_of_mem _ List.mem_cons_self)
    exact absurd (hsecond.idle (by decide +kernel)) (by decide +kernel)

end Rpackit.Transport
