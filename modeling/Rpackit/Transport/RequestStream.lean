import Rpackit.Transport.StallWatch

/-! # Request bodies on their way upstream

The request guard forwards the data frames of a downstream body while they stay
within the byte limit. It tests its total, idle and rate timers in this order
before it asks the body, and latches closed on the first error and on the end.
-/

namespace Rpackit.Transport

open Text

variable {B ε : Type}

/-- A poll of the request guard has a third timer. -/
structure RequestTick extends Tick where
  totalFired : Bool
  deriving DecidableEq, Repr

namespace RequestBodyGuard

def startTimers (guard : RequestBodyGuard B) (now : Nat) : RequestBodyGuard B :=
  match guard.idleTimer with
  | none =>
      { guard with
        idleTimer := some (now + guard.idleTimeout)
        totalTimer := some (now + guard.totalTimeout)
        rateTimer := if guard.minimumWindowBytes > 0 then some (now + guard.rateWindow)
          else guard.rateTimer }
  | some _ => guard

def reject (guard : RequestBodyGuard B) (message : String) :
    FramePoll IoError × RequestBodyGuard B :=
  (.ready (some (.error ⟨.other, message⟩)), { guard with failed := true })

def resetIdleTimer (guard : RequestBodyGuard B) (now : Nat) : RequestBodyGuard B :=
  { guard with idleTimer := guard.idleTimer.map fun _ => now + guard.idleTimeout }

def resetRateWindow (guard : RequestBodyGuard B) (now : Nat) : RequestBodyGuard B :=
  { guard with
    windowBytes := 0
    rateTimer := guard.rateTimer.map fun _ => now + guard.rateWindow }

/-- A data frame the inner body delivered. -/
def acceptData (guard : RequestBodyGuard B) (now : Nat) (data : Bytes) :
    FramePoll IoError × RequestBodyGuard B :=
  let dataLength := data.length
  let total := guard.bytesForwarded + dataLength
  if ¬dataLength < 2 ^ 64 ∨ ¬total < 2 ^ 64 ∨ total > guard.maxBodyBytes then
    guard.reject "downstream request body exceeded limit"
  else
    let forwarded := { guard with
      bytesForwarded := total
      windowBytes := min (guard.windowBytes + dataLength) (2 ^ 64 - 1) }
    (.ready (some (.ok (.data data))),
      if dataLength > 0 then forwarded.resetIdleTimer now else forwarded)

def pollFrame (pollInner : B → FramePoll ε × B) (tick : RequestTick)
    (guard : RequestBodyGuard B) : FramePoll IoError × RequestBodyGuard B :=
  if guard.failed || guard.completed then (.ready none, guard)
  else
    let started := guard.startTimers tick.now
    if started.totalTimer.isSome && tick.totalFired then
      started.reject "downstream request body exceeded total timeout"
    else if started.idleTimer.isSome && tick.idleFired then
      started.reject "downstream request body exceeded idle timeout"
    else
      let rateElapsed := started.rateTimer.isSome && tick.rateFired
      if rateElapsed && started.windowBytes < started.minimumWindowBytes then
        started.reject "downstream request body rate was below limit"
      else
        let current := if rateElapsed then started.resetRateWindow tick.now else started
        let (answer, inner) := pollInner current.inner
        let polled := { current with inner }
        match answer with
        | .pending => (.pending, polled)
        | .ready (some (.error _)) => polled.reject "downstream request body was malformed"
        | .ready (some (.ok (.data data))) => polled.acceptData tick.now data
        | .ready (some (.ok _)) => polled.reject "downstream request body trailers were rejected"
        | .ready none => (.ready none, { polled with completed := true })

/-! ## One poll -/

/-- What the guard makes of an answer of the inner body. -/
def deliver (guard : RequestBodyGuard B) (now : Nat) :
    FramePoll ε × B → FramePoll IoError × RequestBodyGuard B
  | (.pending, inner) => (.pending, { guard with inner })
  | (.ready (some (.error _)), inner) =>
      reject { guard with inner } "downstream request body was malformed"
  | (.ready (some (.ok (.data data))), inner) => acceptData { guard with inner } now data
  | (.ready (some (.ok _)), inner) =>
      reject { guard with inner } "downstream request body trailers were rejected"
  | (.ready none, inner) => (.ready none, { guard with inner, completed := true })

/-- The guard as a filter of its inner body. -/
@[simps] def filter (B : Type) : BodyFilter (RequestBodyGuard B) B where
  inner guard := guard.inner
  terminal guard := guard.failed || guard.completed
  bytesForwarded guard := guard.bytesForwarded
  maxBodyBytes guard := guard.maxBodyBytes
  declaredLength _ := none

/-- The guard as a watch over its inner body; the total timer comes first. -/
@[simps toTick timers terminal idleError rateError overruled] def view (B : Type) :
    WatchView RequestTick (RequestBodyGuard B) where
  toTick tick := tick.toTick
  timers guard := ⟨some guard.idleTimeout, guard.rateWindow, guard.minimumWindowBytes,
    guard.windowBytes, guard.idleTimer, guard.rateTimer⟩
  terminal guard := guard.failed || guard.completed
  idleError := ⟨.other, "downstream request body exceeded idle timeout"⟩
  rateError := ⟨.other, "downstream request body rate was below limit"⟩
  overruled tick guard := (guard.startTimers tick.now).totalTimer.isSome && tick.totalFired

/-- The guard that asks the inner body: an observed window has been closed. -/
def opened (guard : RequestBodyGuard B) (tick : Tick) : RequestBodyGuard B :=
  if (guard.startTimers tick.now).rateTimer.isSome && tick.rateFired then
    (guard.startTimers tick.now).resetRateWindow tick.now
  else guard.startTimers tick.now

/-- Guards that differ in their timers and in the current rate window only. -/
structure SameCounts (guard other : RequestBodyGuard B) : Prop where
  inner : other.inner = guard.inner
  bytesForwarded : other.bytesForwarded = guard.bytesForwarded
  maxBodyBytes : other.maxBodyBytes = guard.maxBodyBytes
  terminal : (filter B).terminal other = (filter B).terminal guard

theorem startTimers_sameCounts (guard : RequestBodyGuard B) (now : Nat) :
    SameCounts guard (guard.startTimers now) := by
  unfold startTimers
  split
  · exact ⟨rfl, rfl, rfl, rfl⟩
  · exact ⟨rfl, rfl, rfl, rfl⟩

theorem opened_sameCounts (guard : RequestBodyGuard B) (tick : Tick) :
    SameCounts guard (guard.opened tick) := by
  obtain ⟨hinner, hforwarded, hmax, hterminal⟩ := startTimers_sameCounts guard tick.now
  unfold opened
  split
  · exact ⟨hinner, hforwarded, hmax, hterminal⟩
  · exact ⟨hinner, hforwarded, hmax, hterminal⟩

theorem timers_startTimers (guard : RequestBodyGuard B) (now : Nat) :
    (view B).timers (guard.startTimers now) = ((view B).timers guard).start now := by
  unfold startTimers
  cases hidle : guard.idleTimer with
  | none => simp [view, GuardTimers.start, hidle]
  | some deadline => simp [view, GuardTimers.start, hidle]

theorem timers_opened (guard : RequestBodyGuard B) (tick : Tick) :
    (view B).timers (guard.opened tick) = ((view B).timers guard).opened tick := by
  have hstarted := timers_startTimers guard tick.now
  have helapsed : (((view B).timers guard).start tick.now).rateElapsed tick =
      ((guard.startTimers tick.now).rateTimer.isSome && tick.rateFired) := by
    rw [← hstarted]
    rfl
  rw [GuardTimers.opened, opened, helapsed, ← hstarted]
  split
  · rfl
  · rfl

/-- The guard after a forwarded frame. -/
def forwarded (guard : RequestBodyGuard B) (now count : Nat) : RequestBodyGuard B :=
  let counted := { guard with
    bytesForwarded := guard.bytesForwarded + count
    windowBytes := min (guard.windowBytes + count) (2 ^ 64 - 1) }
  if count > 0 then counted.resetIdleTimer now else counted

/-- A data frame is rejected, or forwarded and counted within the limit. -/
theorem acceptData_eq (guard : RequestBodyGuard B) (now : Nat) (bytes : Bytes) :
    guard.acceptData now bytes = guard.reject "downstream request body exceeded limit" ∨
    (guard.bytesForwarded + bytes.length ≤ guard.maxBodyBytes ∧
      guard.acceptData now bytes =
        (.ready (some (.ok (.data bytes))), guard.forwarded now bytes.length)) := by
  simp only [acceptData]
  split
  · exact .inl rfl
  next hlimit =>
    rw [not_or, not_or] at hlimit
    exact .inr ⟨Nat.le_of_not_gt hlimit.2.2, rfl⟩

theorem forwarded_sameCounts (guard : RequestBodyGuard B) (now count : Nat) :
    SameCounts { guard with bytesForwarded := guard.bytesForwarded + count }
      (guard.forwarded now count) := by
  simp only [forwarded]
  split
  · exact ⟨rfl, rfl, rfl, rfl⟩
  · exact ⟨rfl, rfl, rfl, rfl⟩

theorem timers_forwarded {guard : RequestBodyGuard B} (now : Nat) (bytes : Bytes) :
    (view B).timers (guard.forwarded now bytes.length) =
      ((view B).timers guard).answered now (.ready (some (.ok (.data bytes)))) := by
  simp only [forwarded, GuardTimers.answered]
  split
  · cases hidle : guard.idleTimer <;>
      simp [view, resetIdleTimer, GuardTimers.resetIdleTimer, hidle]
  · rfl

/-! ### The order of the checks -/

variable (pollInner : B → FramePoll ε × B) {tick : RequestTick} {guard : RequestBodyGuard B}

theorem pollFrame_silent (hterminal : (view B).terminal guard = true) :
    pollFrame pollInner tick guard = (.ready none, guard) := by
  rw [pollFrame, if_pos (by exact hterminal)]

theorem pollFrame_overruled (hlive : (view B).terminal guard = false)
    (hoverruled : (view B).overruled tick guard = true) :
    pollFrame pollInner tick guard = (guard.startTimers tick.now).reject
      "downstream request body exceeded total timeout" := by
  rw [view_terminal] at hlive
  rw [view_overruled] at hoverruled
  simp only [pollFrame, hlive, hoverruled, Bool.false_eq_true, if_false, if_true]

theorem idleElapsed_eq : (view B).idleElapsed tick guard =
    ((guard.startTimers tick.now).idleTimer.isSome && tick.idleFired) := by
  rw [WatchView.idleElapsed, view_toTick, ← timers_startTimers]
  rfl

theorem starved_eq : (view B).starved tick guard =
    (((guard.startTimers tick.now).rateTimer.isSome && tick.rateFired) &&
      decide ((guard.startTimers tick.now).windowBytes <
        (guard.startTimers tick.now).minimumWindowBytes)) := by
  have hsame : (guard.startTimers tick.now).windowBytes = guard.windowBytes ∧
      (guard.startTimers tick.now).minimumWindowBytes = guard.minimumWindowBytes := by
    unfold startTimers
    split
    · exact ⟨rfl, rfl⟩
    · exact ⟨rfl, rfl⟩
  rw [WatchView.starved, WatchView.rateElapsed, view_toTick, ← timers_startTimers, hsame.1, hsame.2]
  rfl

theorem pollFrame_idle (hlive : (view B).terminal guard = false)
    (hfirst : (view B).overruled tick guard = false)
    (hidle : (view B).idleElapsed tick guard = true) :
    pollFrame pollInner tick guard = (guard.startTimers tick.now).reject
      "downstream request body exceeded idle timeout" := by
  rw [view_terminal] at hlive
  rw [view_overruled] at hfirst
  rw [idleElapsed_eq] at hidle
  simp only [pollFrame, hlive, hfirst, hidle, Bool.false_eq_true, if_false, if_true]

theorem pollFrame_starved (hlive : (view B).terminal guard = false)
    (hfirst : (view B).overruled tick guard = false)
    (hidle : (view B).idleElapsed tick guard = false)
    (hstarved : (view B).starved tick guard = true) :
    pollFrame pollInner tick guard = (guard.startTimers tick.now).reject
      "downstream request body rate was below limit" := by
  rw [view_terminal] at hlive
  rw [view_overruled] at hfirst
  rw [idleElapsed_eq] at hidle
  rw [starved_eq] at hstarved
  simp only [pollFrame, hlive, hfirst, hidle, hstarved, Bool.false_eq_true, if_false, if_true]

theorem pollFrame_asked (hlive : (view B).terminal guard = false)
    (hfirst : (view B).overruled tick guard = false)
    (hidle : (view B).idleElapsed tick guard = false)
    (hstarved : (view B).starved tick guard = false) :
    pollFrame pollInner tick guard =
      (guard.opened tick.toTick).deliver tick.now (pollInner (guard.opened tick.toTick).inner) := by
  rw [view_terminal] at hlive
  rw [view_overruled] at hfirst
  rw [idleElapsed_eq] at hidle
  rw [starved_eq] at hstarved
  simp only [pollFrame, hlive, hfirst, hidle, hstarved, Bool.false_eq_true, if_false]
  rw [show (if ((guard.startTimers tick.now).rateTimer.isSome && tick.rateFired) = true then
    (guard.startTimers tick.now).resetRateWindow tick.now else guard.startTimers tick.now) =
    guard.opened tick.toTick from rfl]
  obtain ⟨answer, inner⟩ := pollInner (guard.opened tick.toTick).inner
  match answer with
  | .pending => rfl
  | .ready none => rfl
  | .ready (some (.error _)) => rfl
  | .ready (some (.ok (.data _))) => rfl
  | .ready (some (.ok (.trailers _))) => rfl
  | .ready (some (.ok .unknown)) => rfl

/-! ### The guard as a filter and as a watch -/

omit tick in
/-- What the guard makes of an answer is a step of the filter. -/
theorem deliver_step (now : Nat) {current : RequestBodyGuard B}
    (hlive : (filter B).terminal guard = false) (hsame : SameCounts guard current) :
    (filter B).Step pollInner guard (current.deliver now (pollInner current.inner)) := by
  obtain ⟨answer, inner, hpoll⟩ : ∃ answer inner, pollInner guard.inner = (answer, inner) :=
    ⟨_, _, rfl⟩
  rw [hsame.inner, hpoll]
  have hrejected : answer ≠ .ready none → ∀ message,
      (filter B).Step pollInner guard (reject { current with inner } message) :=
    fun hnot message => ⟨hsame.maxBodyBytes, rfl, .rejected hpoll rfl fun hend => absurd hend hnot⟩
  have hterminal := hsame.terminal.trans hlive
  match answer with
  | .pending => exact ⟨hsame.maxBodyBytes, rfl, .pending hpoll hterminal hsame.bytesForwarded⟩
  | .ready (some (.error _)) => exact hrejected nofun _
  | .ready (some (.ok (.trailers _))) => exact hrejected nofun _
  | .ready (some (.ok .unknown)) => exact hrejected nofun _
  | .ready none =>
      exact ⟨hsame.maxBodyBytes, rfl, .ended hpoll (Bool.or_true _) nofun⟩
  | .ready (some (.ok (.data bytes))) =>
      simp only [deliver]
      obtain hreject | ⟨hlimit, haccept⟩ := acceptData_eq { current with inner } now bytes
      · rw [hreject]
        exact hrejected nofun _
      · rw [haccept]
        have hnext := forwarded_sameCounts { current with inner } now bytes.length
        have hcount : (forwarded { current with inner } now bytes.length).bytesForwarded =
            guard.bytesForwarded + bytes.length := by
          rw [hnext.bytesForwarded, ← hsame.bytesForwarded]
        refine ⟨hnext.maxBodyBytes.trans hsame.maxBodyBytes, rfl,
          .forwarded ?_ (hnext.terminal.trans hterminal) hcount ?_ nofun⟩
        · exact hpoll.trans (by rw [show (filter B).inner _ = inner from hnext.inner])
        · exact (hcount.trans (by rw [hsame.bytesForwarded])).trans_le
            (hlimit.trans_eq hsame.maxBodyBytes)

/-- The timers after an answer; no answer of the body is taken for a timer. -/
theorem deliver_timers (now : Nat) (guard : RequestBodyGuard B) (asked : FramePoll ε × B) :
    (guard.deliver now asked).1 ≠ (view B).idlePoll ∧
      (guard.deliver now asked).1 ≠ (view B).ratePoll ∧
      ((view B).terminal (guard.deliver now asked).2 = true ∨
        (view B).timers (guard.deliver now asked).2 =
          ((view B).timers guard).answered now (guard.deliver now asked).1) := by
  obtain ⟨answer, inner⟩ := asked
  have hrejected : ∀ message, message ≠ "downstream request body exceeded idle timeout" →
      message ≠ "downstream request body rate was below limit" →
      (reject { guard with inner } message).1 ≠ (view B).idlePoll ∧
        (reject { guard with inner } message).1 ≠ (view B).ratePoll ∧
        ((view B).terminal (reject { guard with inner } message).2 = true ∨
          (view B).timers (reject { guard with inner } message).2 =
            ((view B).timers guard).answered now (reject { guard with inner } message).1) := by
    intro message hidle hrate
    refine ⟨?_, ?_, .inl rfl⟩
    · simpa [reject, WatchView.idlePoll] using hidle
    · simpa [reject, WatchView.ratePoll] using hrate
  match answer with
  | .pending => exact ⟨nofun, nofun, .inr rfl⟩
  | .ready none => exact ⟨nofun, nofun, .inr rfl⟩
  | .ready (some (.error _)) => exact hrejected _ (by decide) (by decide)
  | .ready (some (.ok (.trailers _))) => exact hrejected _ (by decide) (by decide)
  | .ready (some (.ok .unknown)) => exact hrejected _ (by decide) (by decide)
  | .ready (some (.ok (.data bytes))) =>
      simp only [deliver]
      obtain hreject | ⟨-, haccept⟩ := acceptData_eq { guard with inner } now bytes
      · rw [hreject]
        exact hrejected _ (by decide) (by decide)
      · rw [haccept]
        exact ⟨nofun, nofun, .inr (timers_forwarded now bytes)⟩

theorem filters : (filter B).Filters pollInner (pollFrame pollInner) where
  silent _ _ hterminal := pollFrame_silent pollInner hterminal
  live tick guard hlive := by
    have hstarted := startTimers_sameCounts guard tick.now
    have hrefused : ∀ message,
        (filter B).Step pollInner guard ((guard.startTimers tick.now).reject message) :=
      fun message => ⟨hstarted.maxBodyBytes, rfl, .refused hstarted.inner rfl⟩
    cases hfirst : (view B).overruled tick guard with
    | true => rw [pollFrame_overruled pollInner hlive hfirst]; exact hrefused _
    | false =>
        cases hidle : (view B).idleElapsed tick guard with
        | true => rw [pollFrame_idle pollInner hlive hfirst hidle]; exact hrefused _
        | false =>
            cases hstarved : (view B).starved tick guard with
            | true => rw [pollFrame_starved pollInner hlive hfirst hidle hstarved]; exact hrefused _
            | false =>
                rw [pollFrame_asked pollInner hlive hfirst hidle hstarved]
                exact deliver_step pollInner tick.now hlive (opened_sameCounts guard tick.toTick)

theorem follows : (view B).Follows (pollFrame pollInner) where
  silent _ _ hterminal := pollFrame_silent pollInner hterminal
  overruled _ _ hlive hfirst := by
    rw [pollFrame_overruled pollInner hlive hfirst]
    exact ⟨by simp [reject, WatchView.idlePoll], by simp [reject, WatchView.ratePoll], rfl⟩
  idle _ _ hlive hfirst hidle := by
    rw [pollFrame_idle pollInner hlive hfirst hidle]
    exact ⟨rfl, rfl⟩
  rate _ _ hlive hfirst hidle hstarved := by
    rw [pollFrame_starved pollInner hlive hfirst hidle hstarved]
    exact ⟨rfl, rfl⟩
  asked tick guard hlive hfirst hidle hstarved := by
    rw [pollFrame_asked pollInner hlive hfirst hidle hstarved, view_toTick, ← timers_opened]
    exact deliver_timers tick.now (guard.opened tick.toTick) _

/-! ### Rejections -/

omit tick in
/-- The answers of the inner body that the guard rejects. -/
inductive Inadmissible (guard : RequestBodyGuard B) : FramePoll ε → Prop
  | failed (error : ε) : Inadmissible guard (.ready (some (.error error)))
  | trailers (fields : HeaderMap) : Inadmissible guard (.ready (some (.ok (.trailers fields))))
  | unknown : Inadmissible guard (.ready (some (.ok .unknown)))
  | tooLong {bytes : Bytes} (hlong : guard.maxBodyBytes < guard.bytesForwarded + bytes.length ∨
      2 ^ 64 ≤ guard.bytesForwarded + bytes.length) :
      Inadmissible guard (.ready (some (.ok (.data bytes))))

/-- Why a poll of a live guard rejects the body. -/
inductive Rejects (tick : RequestTick) (guard : RequestBodyGuard B) : Prop
  | total (hfired : (view B).overruled tick guard = true) : Rejects tick guard
  | idle (hfired : (view B).idleElapsed tick guard = true) : Rejects tick guard
  | rate (hstarved : (view B).starved tick guard = true) : Rejects tick guard
  | inner (hinner : Inadmissible guard (pollInner guard.inner).1) : Rejects tick guard

omit tick in
theorem deliver_error_iff (now : Nat) {current : RequestBodyGuard B}
    (hsame : SameCounts guard current) :
    (∃ error, (current.deliver now (pollInner current.inner)).1 = .ready (some (.error error))) ↔
      Inadmissible guard (pollInner guard.inner).1 := by
  obtain ⟨answer, inner, hpoll⟩ : ∃ answer inner, pollInner guard.inner = (answer, inner) :=
    ⟨_, _, rfl⟩
  rw [hsame.inner, hpoll]
  match answer with
  | .pending => exact ⟨fun ⟨_, herror⟩ => (nomatch herror), nofun⟩
  | .ready none => exact ⟨fun ⟨_, herror⟩ => (nomatch herror), nofun⟩
  | .ready (some (.error error)) => exact ⟨fun _ => .failed error, fun _ => ⟨_, rfl⟩⟩
  | .ready (some (.ok (.trailers fields))) => exact ⟨fun _ => .trailers fields, fun _ => ⟨_, rfl⟩⟩
  | .ready (some (.ok .unknown)) => exact ⟨fun _ => .unknown, fun _ => ⟨_, rfl⟩⟩
  | .ready (some (.ok (.data bytes))) =>
      simp only [deliver, acceptData, hsame.bytesForwarded, hsame.maxBodyBytes]
      split
      next hlimit =>
        refine ⟨fun _ => .tooLong ?_, fun _ => ⟨_, rfl⟩⟩
        omega
      next hlimit =>
        constructor
        · exact fun ⟨_, herror⟩ => (nomatch herror)
        · intro hinadmissible
          cases hinadmissible with
          | tooLong hlong => omega

/-- A live guard rejects for one of these reasons, and only then. -/
theorem pollFrame_error_iff (hlive : (view B).terminal guard = false) :
    (∃ error, (pollFrame pollInner tick guard).1 = .ready (some (.error error))) ↔
      Rejects pollInner tick guard := by
  cases hfirst : (view B).overruled tick guard with
  | true =>
      rw [pollFrame_overruled pollInner hlive hfirst]
      exact ⟨fun _ => .total hfirst, fun _ => ⟨_, rfl⟩⟩
  | false =>
      cases hidle : (view B).idleElapsed tick guard with
      | true =>
          rw [pollFrame_idle pollInner hlive hfirst hidle]
          exact ⟨fun _ => .idle hidle, fun _ => ⟨_, rfl⟩⟩
      | false =>
          cases hstarved : (view B).starved tick guard with
          | true =>
              rw [pollFrame_starved pollInner hlive hfirst hidle hstarved]
              exact ⟨fun _ => .rate hstarved, fun _ => ⟨_, rfl⟩⟩
          | false =>
              rw [pollFrame_asked pollInner hlive hfirst hidle hstarved,
                deliver_error_iff pollInner tick.now (opened_sameCounts guard tick.toTick)]
              constructor
              · exact .inner
              · intro hrejects
                cases hrejects with
                | total htotal => exact absurd htotal (Bool.eq_false_iff.mp hfirst)
                | idle hfired => exact absurd hfired (Bool.eq_false_iff.mp hidle)
                | rate hrate => exact absurd hrate (Bool.eq_false_iff.mp hstarved)
                | inner hinner => exact hinner

/-! ## Runs -/

/-- How the limits of a proxy watch a request body. -/
def watchSettings (limits : TransportLimits) : WatchSettings where
  idleTimeout := limits.requestBodyIdleTimeout
  rateWindow := limits.requestBodyRateWindow
  minimumWindowBytes := minimumBytesForWindow limits.minRequestBodyBytesPerSecond
    limits.requestBodyRateWindow

/-- The polls of a run of a new guard, each with the watch before it. -/
def watchedTrace (pollInner : B → FramePoll ε × B) (limits : TransportLimits) (inner : B)
    (ticks : List RequestTick) :
    List (Poll.Record (RequestBodyGuard B × Option StallWatch) RequestTick (FramePoll IoError)) :=
  Poll.trace (watchedPoll (watchSettings limits).rated RequestTick.toTick (pollFrame pollInner))
    ticks (new inner limits, none)

/-- The errors of the three timers. -/
def timerErrors : List (FramePoll IoError) :=
  [.ready (some (.error ⟨.other, "downstream request body exceeded total timeout"⟩)),
    .ready (some (.error ⟨.other, "downstream request body exceeded idle timeout"⟩)),
    .ready (some (.error ⟨.other, "downstream request body rate was below limit"⟩))]

/-- A poll of a live guard that finds the rate timer fired and rejects for no timer. -/
structure ClosesWindow (limits : TransportLimits)
    (record : Poll.Record (RequestBodyGuard B × Option StallWatch) RequestTick
      (FramePoll IoError)) : Prop where
  live : (view B).terminal record.before.1 = false
  rated : 0 < (watchSettings limits).minimumWindowBytes
  fired : record.input.rateFired = true
  accepted : record.answer ∉ timerErrors

/-- What a run answers, given the answers of the inner body that it read. -/
structure GuardedUpload (pollInner : B → FramePoll ε × B) (limits : TransportLimits)
    (read : List (FramePoll ε)) (answers : List (FramePoll IoError))
    (records : List (Poll.Record (RequestBodyGuard B × Option StallWatch) RequestTick
      (FramePoll IoError))) : Prop where
  recorded : records.map Poll.Record.answer = answers
  forwarded : dataBytes answers <+: dataBytes read
  withinLimit : (dataBytes answers).length ≤ limits.maxRequestBodyBytes
  dataOnly : ∀ frame, .ready (some (.ok frame)) ∈ answers → ∃ bytes, frame = .data bytes
  latched : answers.Pairwise fun earlier later => isFinal earlier = true → later = .ready none
  /-- A poll is an error exactly when there is a reason to reject the body. -/
  rejects : ∀ record ∈ records, (∃ error, record.answer = .ready (some (.error error))) ↔
    (view B).terminal record.before.1 = false ∧ Rejects pollInner record.input record.before.1
  /-- The run ends cleanly when the end of the inner body was read, and then is whole. -/
  ends : EndsCleanly answers ↔ .ready none ∈ read
  whole : EndsCleanly answers → EndsCleanly read ∧ dataBytes answers = dataBytes read
  windows : ∀ record ∈ records, ClosesWindow limits record →
    (watchSettings limits).minimumWindowBytes ≤
      ((view B).watchAt record.input record.before).carried

theorem closesWindow_carried {limits : TransportLimits}
    {record : Poll.Record (RequestBodyGuard B × Option StallWatch) RequestTick (FramePoll IoError)}
    (hstate : Watched (view B) (watchSettings limits) record.before)
    (hanswer : record.answer = (pollFrame pollInner record.input record.before.1).1)
    (hcloses : ClosesWindow limits record) :
    (watchSettings limits).minimumWindowBytes ≤
      ((view B).watchAt record.input record.before).carried := by
  obtain ⟨hlive, hrated, hfired, haccepted⟩ := hcloses
  rw [hanswer] at haccepted
  -- each timer that rejects answers with one of the timer errors
  have hfirst : (view B).overruled record.input record.before.1 = false := by
    rw [Bool.eq_false_iff]
    intro htotal
    rw [pollFrame_overruled pollInner hlive htotal] at haccepted
    exact haccepted List.mem_cons_self
  have hidle : (view B).idleElapsed record.input record.before.1 = false := by
    rw [Bool.eq_false_iff]
    intro helapsed
    rw [pollFrame_idle pollInner hlive hfirst helapsed] at haccepted
    exact haccepted (List.mem_cons_of_mem _ List.mem_cons_self)
  by_contra hbelow
  have hstarved : (view B).starved record.input record.before.1 = true :=
    (WatchView.starved_iff (minimumBytesForWindow_lt _ _) (hstate hlive)).mpr
      ⟨decide_eq_true hrated, hfired, by omega⟩
  rw [pollFrame_starved pollInner hlive hfirst hidle hstarved] at haccepted
  exact haccepted (List.mem_cons_of_mem _ (List.mem_cons_of_mem _ List.mem_cons_self))

/-- Whatever the inner body answers, however the timers fire and whenever the guard is
polled, it forwards a prefix of the body within the limit. -/
theorem requestBody_guarded (pollInner : B → FramePoll ε × B) (limits : TransportLimits)
    (inner : B) (ticks : List RequestTick) :
    ∃ count, (Poll.run (pollFrame pollInner) ticks (new inner limits)).2.inner =
        (Poll.first pollInner count inner).2 ∧
      GuardedUpload pollInner limits (Poll.first pollInner count inner).1
        (Poll.run (pollFrame pollInner) ticks (new inner limits)).1
        (watchedTrace pollInner limits inner ticks) := by
  have hlive : (filter B).terminal (new inner limits) = false := rfl
  obtain ⟨count, hinner, hforwarded, hlimit, -, hends, hwhole, hdata, hlatched⟩ :=
    (filters pollInner).run_filtered ticks hlive
  have hrecord : ∀ record ∈ watchedTrace pollInner limits inner ticks,
      Watched (view B) (watchSettings limits) record.before ∧
        record.answer = (pollFrame pollInner record.input record.before.1).1 :=
    fun _ => (follows pollInner).watched_trace (watchSettings limits) ticks rfl
  refine ⟨count, hinner, ?_⟩
  constructor
  case recorded => exact trace_watchedPoll_answers _ _ _ _ _
  case forwarded => exact hforwarded
  case withinLimit =>
    have hbound := hlimit (Nat.zero_le _)
    rwa [show (filter B).bytesForwarded (new inner limits) = 0 from rfl, Nat.zero_add] at hbound
  case dataOnly =>
    intro frame hmem
    obtain ⟨bytes, hbytes, -⟩ := hdata frame hmem
    exact ⟨bytes, hbytes⟩
  case latched => exact hlatched
  case ends => exact hends.trans (and_iff_left nofun)
  case whole => exact hwhole
  case windows =>
    intro record hmem hcloses
    obtain ⟨hstate, hanswer⟩ := hrecord record hmem
    exact closesWindow_carried pollInner hstate hanswer hcloses
  case rejects =>
    intro record hmem
    rw [(hrecord record hmem).2]
    cases hterminal : (view B).terminal record.before.1 with
    | true =>
        rw [pollFrame_silent pollInner hterminal]
        exact ⟨fun ⟨_, herror⟩ => (nomatch herror), fun hlive => (nomatch hlive.1)⟩
    | false =>
        rw [pollFrame_error_iff pollInner hterminal]
        exact (and_iff_right rfl).symm

end RequestBodyGuard

end Rpackit.Transport
