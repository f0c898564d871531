import Rpackit.Transport.SizeHints

/-! # Timer resets

Starting a timer saturates, but resetting one adds a duration to the current instant,
which panics when the sum is not representable. Here the guards are polled with that
panic, and a run goes through exactly when every reset of it is representable.
-/

namespace Rpackit.Transport

open Text

variable {B ε ι G : Type}

/-! ## Representable instants -/

/-- `Instant + Duration`: no value when the sum passes the last instant. -/
def instantAdd? (maxInstant now timeout : Nat) : Option Nat :=
  if now + timeout ≤ maxInstant then some (now + timeout) else none

theorem instantAdd?_of_le {maxInstant now timeout : Nat} (hfits : now + timeout ≤ maxInstant) :
    instantAdd? maxInstant now timeout = some (now + timeout) := if_pos hfits

theorem instantAdd?_of_lt {maxInstant now timeout : Nat} (hlate : ¬now + timeout ≤ maxInstant) :
    instantAdd? maxInstant now timeout = none := if_neg hlate

/-- No check stops this poll, so it asks the inner body. -/
def WatchView.Asks (view : WatchView ι G) (input : ι) (guard : G) : Prop :=
  view.terminal guard = false ∧ view.overruled input guard = false ∧
    view.idleElapsed input guard = false ∧ view.starved input guard = false

/-- The resets of one poll are representable: that of a rate window which this poll closes,
and that of the idle timer when the inner body has a non-empty frame which is admitted. -/
structure ResetsFit (view : WatchView ι G) (maxInstant : Nat) (admits : G → Bytes → Prop)
    (asked : G → FramePoll ε) (input : ι) (guard : G) : Prop where
  rate : view.Asks input guard → view.rateElapsed input guard = true →
    (view.toTick input).now + (view.timers guard).rateWindow ≤ maxInstant
  idle : view.Asks input guard → ∀ bytes, asked guard = .ready (some (.ok (.data bytes))) →
    bytes ≠ [] → admits guard bytes → ∀ timeout ∈ (view.timers guard).idleTimeout,
      (view.toTick input).now + timeout ≤ maxInstant

/-- An instant from which both timers can be reset. -/
def InstantFits (maxInstant : Nat) (timers : GuardTimers) (now : Nat) : Prop :=
  now + timers.rateWindow ≤ maxInstant ∧ ∀ timeout ∈ timers.idleTimeout, now + timeout ≤ maxInstant

/-- The settings, which no poll of a live guard changes. -/
def GuardTimers.settings (timers : GuardTimers) : Option Nat × Nat :=
  (timers.idleTimeout, timers.rateWindow)

namespace GuardTimers

theorem settings_opened (timers : GuardTimers) (tick : Tick) :
    (timers.opened tick).settings = timers.settings := by
  have hstart : (timers.start tick.now).settings = timers.settings := by
    unfold start
    split <;> rfl
  unfold opened
  split
  · exact hstart
  · exact hstart

theorem settings_answered (timers : GuardTimers) (now : Nat) (answer : FramePoll IoError) :
    (timers.answered now answer).settings = timers.settings := by
  unfold answered
  split
  next bytes _ =>
    dsimp only
    split
    · unfold resetIdleTimer
      split <;> rfl
    · rfl
  next => rfl

end GuardTimers

namespace WatchView

variable {view : WatchView ι G} {poll : ι → G → FramePoll IoError × G}

/-- A live guard has the settings it began with. -/
def KeepsSettings (view : WatchView ι G) (settings : Option Nat × Nat) (guard : G) : Prop :=
  view.terminal guard = true ∨ (view.timers guard).settings = settings

theorem Follows.keepsSettings_poll (hfollows : view.Follows poll) {settings : Option Nat × Nat}
    (input : ι) (guard : G) (hkeeps : view.KeepsSettings settings guard) :
    view.KeepsSettings settings (poll input guard).2 := by
  cases hfollows.decision input guard with
  | silent hterminal hpoll =>
      left
      rw [hpoll]
      exact hterminal
  | overruled _ _ _ _ hnext => exact .inl hnext
  | idle _ _ _ _ hnext => exact .inl hnext
  | rate _ _ _ _ _ hnext => exact .inl hnext
  | asked hlive _ _ _ _ _ hnext =>
      refine hnext.imp_right fun htimers => ?_
      rw [htimers, GuardTimers.settings_answered, GuardTimers.settings_opened]
      exact hkeeps.resolve_left (by rw [hlive]; exact Bool.false_ne_true)

/-- At instants from which the timers can be reset, every reset is representable. -/
theorem Follows.resetsFit_of_instantFits (hfollows : view.Follows poll) {maxInstant : Nat}
    (admits : G → Bytes → Prop) (asked : G → FramePoll ε) {inputs : List ι} {guard : G}
    (hfits : ∀ input ∈ inputs, InstantFits maxInstant (view.timers guard) (view.toTick input).now) :
    ∀ record ∈ Poll.trace poll inputs guard,
      ResetsFit view maxInstant admits asked record.input record.before := by
  intro record hrecord
  have hkeeps : view.KeepsSettings (view.timers guard).settings record.before :=
    (Poll.trace_invariant hfollows.keepsSettings_poll inputs (.inr rfl) hrecord).1
  obtain ⟨hrate, hidle⟩ := hfits record.input (Poll.input_mem_of_mem_trace hrecord)
  have hsettings : view.terminal record.before = false →
      (view.timers record.before).settings = (view.timers guard).settings := by
    intro hlive
    exact hkeeps.resolve_left (by rw [hlive]; exact Bool.false_ne_true)
  constructor
  · intro hasks _
    rw [show (view.timers record.before).rateWindow = _ from
      congrArg Prod.snd (hsettings hasks.1)]
    exact hrate
  · intro hasks bytes _ _ _
    rw [show (view.timers record.before).idleTimeout = _ from
      congrArg Prod.fst (hsettings hasks.1)]
    exact hidle

/-- A guard that panics exactly at resets which are not representable. -/
theorem Follows.run?_iff (hfollows : view.Follows poll)
    {poll? : ι → G → Option (FramePoll IoError × G)} {maxInstant : Nat}
    {admits : G → Bytes → Prop} {asked : G → FramePoll ε}
    (hfits : ∀ input guard, ResetsFit view maxInstant admits asked input guard →
      poll? input guard = some (poll input guard))
    (honly : ∀ input guard, poll? input guard ≠ none →
      ResetsFit view maxInstant admits asked input guard)
    (inputs : List ι) (guard : G) :
    (Poll.run? poll? inputs guard ≠ none ↔ ∀ record ∈ Poll.trace poll inputs guard,
      ResetsFit view maxInstant admits asked record.input record.before) ∧
    ((∀ input ∈ inputs, InstantFits maxInstant (view.timers guard) (view.toTick input).now) →
      Poll.run? poll? inputs guard ≠ none) := by
  have hruns : (∀ record ∈ Poll.trace poll inputs guard,
      ResetsFit view maxInstant admits asked record.input record.before) →
      Poll.run? poll? inputs guard ≠ none := by
    intro hall
    rw [Poll.run?_of_fits hfits inputs hall]
    exact Option.some_ne_none _
  refine ⟨⟨Poll.fits_of_run? hfits honly inputs, hruns⟩, ?_⟩
  intro hinstants
  exact hruns (hfollows.resetsFit_of_instantFits admits asked hinstants)

end WatchView

/-! ## The request guard -/

namespace RequestBodyGuard

variable (maxInstant : Nat)

def resetIdleTimer? (guard : RequestBodyGuard B) (now : Nat) : Option (RequestBodyGuard B) :=
  match guard.idleTimer with
  | none => some guard
  | some _ =>
      (instantAdd? maxInstant now guard.idleTimeout).map fun deadline =>
        { guard with idleTimer := some deadline }

def resetRateWindow? (guard : RequestBodyGuard B) (now : Nat) : Option (RequestBodyGuard B) :=
  match guard.rateTimer with
  | none => some { guard with windowBytes := 0 }
  | some _ =>
      (instantAdd? maxInstant now guard.rateWindow).map fun deadline =>
        { guard with windowBytes := 0, rateTimer := some deadline }

def acceptData? (guard : RequestBodyGuard B) (now : Nat) (data : Bytes) :
    Option (FramePoll IoError × RequestBodyGuard B) :=
  let dataLength := data.length
  let total := guard.bytesForwarded + dataLength
  if ¬dataLength < 2 ^ 64 ∨ ¬total < 2 ^ 64 ∨ total > guard.maxBodyBytes then
    some (guard.reject "downstream request body exceeded limit")
  else
    let forwarded := { guard with
      bytesForwarded := total
      windowBytes := min (guard.windowBytes + dataLength) (2 ^ 64 - 1) }
    (if dataLength > 0 then forwarded.resetIdleTimer? maxInstant now else some forwarded).map
      fun next => (.ready (some (.ok (.data data))), next)

/-- `poll_frame` with its panics. -/
def pollFrame? (pollInner : B → FramePoll ε × B) (tick : RequestTick)
    (guard : RequestBodyGuard B) : Option (FramePoll IoError × RequestBodyGuard B) :=
  if guard.failed || guard.completed then some (.ready none, guard)
  else
    let started := guard.startTimers tick.now
    if started.totalTimer.isSome && tick.totalFired then
      some (started.reject "downstream request body exceeded total timeout")
    else if started.idleTimer.isSome && tick.idleFired then
      some (started.reject "downstream request body exceeded idle timeout")
    else
      let rateElapsed := started.rateTimer.isSome && tick.rateFired
      if rateElapsed && started.windowBytes < started.minimumWindowBytes then
        some (started.reject "downstream request body rate was below limit")
      else
        (if rateElapsed then started.resetRateWindow? maxInstant tick.now else some started).bind
          fun current =>
            let (answer, inner) := pollInner current.inner
            let polled := { current with inner }
            match answer with
            | .pending => some (.pending, polled)
            | .ready (some (.error _)) =>
                some (polled.reject "downstream request body was malformed")
            | .ready (some (.ok (.data data))) => polled.acceptData? maxInstant tick.now data
            | .ready (some (.ok _)) =>
                some (polled.reject "downstream request body trailers were rejected")
            | .ready none => some (.ready none, { polled with completed := true })

/-- A frame within the byte limit. -/
def Admits (guard : RequestBodyGuard B) (bytes : Bytes) : Prop :=
  bytes.length < 2 ^ 64 ∧ guard.bytesForwarded + bytes.length < 2 ^ 64 ∧
    guard.bytesForwarded + bytes.length ≤ guard.maxBodyBytes

/-- The guard that asks the inner body, unless closing the window panics. -/
def opened? (guard : RequestBodyGuard B) (tick : Tick) : Option (RequestBodyGuard B) :=
  if (guard.startTimers tick.now).rateTimer.isSome && tick.rateFired then
    (guard.startTimers tick.now).resetRateWindow? maxInstant tick.now
  else some (guard.startTimers tick.now)

/-- What the guard makes of an answer, unless restarting the idle timer panics. -/
def deliver? (guard : RequestBodyGuard B) (now : Nat) :
    FramePoll ε × B → Option (FramePoll IoError × RequestBodyGuard B)
  | (.ready (some (.ok (.data data))), inner) =>
      acceptData? maxInstant { guard with inner } now data
  | asked => some (guard.deliver now asked)

variable {maxInstant}

theorem resetIdleTimer?_of_le {guard : RequestBodyGuard B} {now : Nat}
    (hfits : now + guard.idleTimeout ≤ maxInstant) :
    guard.resetIdleTimer? maxInstant now = some (guard.resetIdleTimer now) := by
  unfold resetIdleTimer? resetIdleTimer
  cases hidle : guard.idleTimer with
  | none =>
      cases guard
      cases hidle
      rfl
  | some deadline => simp [instantAdd?_of_le hfits]

theorem resetIdleTimer?_of_lt {guard : RequestBodyGuard B} {now : Nat}
    (htimer : guard.idleTimer.isSome = true) (hlate : ¬now + guard.idleTimeout ≤ maxInstant) :
    guard.resetIdleTimer? maxInstant now = none := by
  obtain ⟨deadline, hdeadline⟩ := Option.isSome_iff_exists.mp htimer
  simp [resetIdleTimer?, hdeadline, instantAdd?_of_lt hlate]

theorem resetRateWindow?_of_le {guard : RequestBodyGuard B} {now : Nat}
    (hfits : now + guard.rateWindow ≤ maxInstant) :
    guard.resetRateWindow? maxInstant now = some (guard.resetRateWindow now) := by
  unfold resetRateWindow? resetRateWindow
  cases hrate : guard.rateTimer with
  | none =>
      cases guard
      cases hrate
      rfl
  | some deadline => simp [instantAdd?_of_le hfits]

theorem resetRateWindow?_of_lt {guard : RequestBodyGuard B} {now : Nat}
    (htimer : guard.rateTimer.isSome = true) (hlate : ¬now + guard.rateWindow ≤ maxInstant) :
    guard.resetRateWindow? maxInstant now = none := by
  obtain ⟨deadline, hdeadline⟩ := Option.isSome_iff_exists.mp htimer
  simp [resetRateWindow?, hdeadline, instantAdd?_of_lt hlate]

theorem acceptData?_of_fits {guard : RequestBodyGuard B} {now : Nat} {bytes : Bytes}
    (hfits : bytes ≠ [] → guard.Admits bytes → now + guard.idleTimeout ≤ maxInstant) :
    guard.acceptData? maxInstant now bytes = some (guard.acceptData now bytes) := by
  simp only [acceptData?, acceptData]
  split
  · rfl
  next hlimit =>
    have hadmits : guard.Admits bytes := by
      unfold Admits
      omega
    split
    next hsome =>
      have hreset := hfits (List.ne_nil_of_length_pos hsome) hadmits
      rw [resetIdleTimer?_of_le (by exact hreset)]
      rfl
    next => rfl

theorem acceptData?_of_late {guard : RequestBodyGuard B} {now : Nat} {bytes : Bytes}
    (htimer : guard.idleTimer.isSome = true) (hne : bytes ≠ []) (hadmits : guard.Admits bytes)
    (hlate : ¬now + guard.idleTimeout ≤ maxInstant) :
    guard.acceptData? maxInstant now bytes = none := by
  obtain ⟨hlength, htotal, hlimit⟩ := hadmits
  simp only [acceptData?]
  rw [if_neg (by omega), if_pos (List.length_pos_of_ne_nil hne),
    resetIdleTimer?_of_lt (by exact htimer) (by exact hlate)]
  rfl

variable {pollInner : B → FramePoll ε × B} {tick : RequestTick} {guard : RequestBodyGuard B}

/-- Before the inner body is asked nothing panics. -/
theorem pollFrame?_stopped (hstops : ¬(view B).Asks tick guard) :
    pollFrame? maxInstant pollInner tick guard = some (pollFrame pollInner tick guard) := by
  simp only [pollFrame?, pollFrame]
  split
  · rfl
  next hlive =>
    split
    · rfl
    next hfirst =>
      split
      · rfl
      next hidle =>
        split
        · rfl
        next hfed =>
          refine absurd ⟨?_, ?_, ?_, ?_⟩ hstops
          · exact Bool.eq_false_iff.mpr hlive
          · exact Bool.eq_false_iff.mpr hfirst
          · rw [idleElapsed_eq]
            exact Bool.eq_false_iff.mpr hidle
          · rw [starved_eq]
            exact Bool.eq_false_iff.mpr hfed

theorem pollFrame?_asked (hasks : (view B).Asks tick guard) :
    pollFrame? maxInstant pollInner tick guard =
      (guard.opened? maxInstant tick.toTick).bind fun current =>
        current.deliver? maxInstant tick.now (pollInner current.inner) := by
  obtain ⟨hlive, hfirst, hidle, hstarved⟩ := hasks
  rw [view_terminal] at hlive
  rw [view_overruled] at hfirst
  rw [idleElapsed_eq] at hidle
  rw [starved_eq] at hstarved
  simp only [pollFrame?, hlive, hfirst, hidle, hstarved, Bool.false_eq_true, if_false]
  apply congrArg
  funext current
  obtain ⟨answer, inner⟩ := pollInner current.inner
  match answer with
  | .pending => rfl
  | .ready none => rfl
  | .ready (some (.error _)) => rfl
  | .ready (some (.ok (.data _))) => rfl
  | .ready (some (.ok (.trailers _))) => rfl
  | .ready (some (.ok .unknown)) => rfl

theorem startTimers_settings (guard : RequestBodyGuard B) (now : Nat) :
    (guard.startTimers now).rateWindow = guard.rateWindow ∧
      (guard.startTimers now).idleTimeout = guard.idleTimeout ∧
      (guard.startTimers now).idleTimer.isSome = true := by
  unfold startTimers
  split
  · exact ⟨rfl, rfl, rfl⟩
  next hidle => exact ⟨rfl, rfl, by simp [hidle]⟩

theorem opened_settings (guard : RequestBodyGuard B) (tick : Tick) :
    (guard.opened tick).idleTimeout = guard.idleTimeout ∧
      (guard.opened tick).idleTimer.isSome = true := by
  obtain ⟨-, htimeout, htimer⟩ := startTimers_settings guard tick.now
  unfold opened
  split
  · exact ⟨htimeout, htimer⟩
  · exact ⟨htimeout, htimer⟩

theorem rateElapsed_eq : (view B).rateElapsed tick guard =
    ((guard.startTimers tick.now).rateTimer.isSome && tick.rateFired) := by
  rw [WatchView.rateElapsed, view_toTick, ← timers_startTimers]
  rfl

theorem opened?_of_fits
    (hfits : (view B).rateElapsed tick guard = true → tick.now + guard.rateWindow ≤ maxInstant) :
    guard.opened? maxInstant tick.toTick = some (guard.opened tick.toTick) := by
  rw [rateElapsed_eq, ← (startTimers_settings guard tick.now).1] at hfits
  unfold opened? opened
  split
  next helapsed => exact resetRateWindow?_of_le (hfits helapsed)
  next => rfl

theorem opened?_of_late (helapsed : (view B).rateElapsed tick guard = true)
    (hlate : ¬tick.now + guard.rateWindow ≤ maxInstant) :
    guard.opened? maxInstant tick.toTick = none := by
  rw [rateElapsed_eq] at helapsed
  rw [← (startTimers_settings guard tick.now).1] at hlate
  rw [opened?, if_pos helapsed]
  exact resetRateWindow?_of_lt (Bool.and_eq_true_iff.mp helapsed).1 hlate

theorem admits_opened {inner : B} {bytes : Bytes} :
    Admits { guard.opened tick.toTick with inner } bytes ↔ guard.Admits bytes := by
  have hsame := opened_sameCounts guard tick.toTick
  simp only [Admits, hsame.bytesForwarded, hsame.maxBodyBytes]

/-- A poll with representable resets is the poll without panics. -/
theorem pollFrame?_of_fits (hfits : ResetsFit (view B) maxInstant Admits
      (fun guard => (pollInner guard.inner).1) tick guard) :
    pollFrame? maxInstant pollInner tick guard = some (pollFrame pollInner tick guard) := by
  by_cases hasks : (view B).Asks tick guard
  · obtain ⟨hlive, hfirst, hidle, hstarved⟩ := id hasks
    have hsame := opened_sameCounts guard tick.toTick
    rw [pollFrame?_asked hasks, opened?_of_fits (hfits.rate hasks), Option.bind_some,
      pollFrame_asked pollInner hlive hfirst hidle hstarved, hsame.inner]
    obtain ⟨answer, inner, hpoll⟩ : ∃ answer inner, pollInner guard.inner = (answer, inner) :=
      ⟨_, _, rfl⟩
    have hdata := hfits.idle hasks
    simp only [hpoll] at hdata ⊢
    match answer with
    | .pending => rfl
    | .ready none => rfl
    | .ready (some (.error _)) => rfl
    | .ready (some (.ok (.trailers _))) => rfl
    | .ready (some (.ok .unknown)) => rfl
    | .ready (some (.ok (.data bytes))) =>
        apply acceptData?_of_fits
        intro hne hadmits
        rw [show (opened guard tick.toTick).idleTimeout = _ from
          (opened_settings guard tick.toTick).1]
        exact hdata bytes rfl hne (admits_opened.mp hadmits) guard.idleTimeout rfl
  · exact pollFrame?_stopped hasks

/-- A poll whose resets are not all representable panics. -/
theorem fits_of_pollFrame? (hruns : pollFrame? maxInstant pollInner tick guard ≠ none) :
    ResetsFit (view B) maxInstant Admits (fun guard => (pollInner guard.inner).1) tick guard := by
  have hrate : (view B).Asks tick guard → (view B).rateElapsed tick guard = true →
      tick.now + guard.rateWindow ≤ maxInstant := by
    intro hasks helapsed
    by_contra hlate
    rw [pollFrame?_asked hasks, opened?_of_late helapsed hlate] at hruns
    exact hruns rfl
  refine ⟨hrate, ?_⟩
  intro hasks bytes hpoll hne hadmits timeout htimeout
  obtain rfl := Option.some.inj htimeout
  by_contra hlate
  obtain ⟨htimeout, htimer⟩ := opened_settings guard tick.toTick
  have hsame := opened_sameCounts guard tick.toTick
  apply hruns
  rw [pollFrame?_asked hasks, opened?_of_fits (hrate hasks), Option.bind_some, hsame.inner,
    show pollInner guard.inner = (.ready (some (.ok (.data bytes))), (pollInner guard.inner).2) from
      Prod.ext hpoll rfl]
  refine acceptData?_of_late htimer hne (admits_opened.mpr hadmits) ?_
  exact (congrArg (fun timeout => ¬tick.now + timeout ≤ maxInstant) htimeout).mpr hlate

end RequestBodyGuard

/-! ## The response guard -/

namespace ResponseBodyGuard

section Checked

variable (maxInstant : Nat)

def resetIdleTimer? (guard : ResponseBodyGuard B) (now : Nat) : Option (ResponseBodyGuard B) :=
  match guard.idleTimeout, guard.idleTimer with
  | some timeout, some _ =>
      (instantAdd? maxInstant now timeout).map fun deadline =>
        { guard with idleTimer := some deadline }
  | _, _ => some guard

def resetRateWindow? (guard : ResponseBodyGuard B) (now : Nat) : Option (ResponseBodyGuard B) :=
  match guard.rateTimer with
  | none => some { guard with windowBytes := 0 }
  | some _ =>
      (instantAdd? maxInstant now guard.rateWindow).map fun deadline =>
        { guard with windowBytes := 0, rateTimer := some deadline }

def acceptData? (guard : ResponseBodyGuard B) (now : Nat) (data : Bytes) :
    Option (FramePoll IoError × ResponseBodyGuard B) :=
  let dataLength := data.length
  let total := guard.bytesForwarded + dataLength
  if ¬dataLength < 2 ^ 64 ∨ ¬total < 2 ^ 64 ∨ total > guard.maxBodyBytes then
    some (guard.reject "upstream response body exceeded limit")
  else if guard.declaredLength.any (fun declared => total > declared) then
    some (guard.reject "upstream response body exceeded declared length")
  else
    let forwarded := { guard with
      bytesForwarded := total
      windowBytes := min (guard.windowBytes + dataLength) (2 ^ 64 - 1) }
    (if dataLength > 0 then forwarded.resetIdleTimer? maxInstant now else some forwarded).map
      fun next => (.ready (some (.ok (.data data))), next)

/-- `poll_frame` with its panics. -/
def pollFrame? (pollInner : B → FramePoll ε × B) (tick : Tick) (guard : ResponseBodyGuard B) :
    Option (FramePoll IoError × ResponseBodyGuard B) :=
  if guard.terminal then some (.ready none, guard)
  else
    let started := guard.startTimers tick.now
    if started.idleTimer.isSome && tick.idleFired then
      some (started.reject "upstream response body exceeded idle timeout")
    else
      let rateElapsed := started.rateTimer.isSome && tick.rateFired
      if rateElapsed && started.windowBytes < started.minimumWindowBytes then
        some (started.reject "upstream response body rate was below limit")
      else
        (if rateElapsed then started.resetRateWindow? maxInstant tick.now else some started).bind
          fun current =>
            let (answer, inner) := pollInner current.inner
            let polled := { current with inner }
            match answer with
            | .pending => some (.pending, polled)
            | .ready (some (.error _)) =>
                some (polled.reject "upstream response body was malformed")
            | .ready (some (.ok (.data data))) => polled.acceptData? maxInstant tick.now data
            | .ready (some (.ok (.trailers _))) =>
                some (polled.reject "upstream response trailers were rejected")
            | .ready (some (.ok .unknown)) =>
                some (polled.reject "upstream response body frame was rejected")
            | .ready none => some polled.finish

/-- A frame within the byte limit and the declared length. -/
def Admits (guard : ResponseBodyGuard B) (bytes : Bytes) : Prop :=
  bytes.length < 2 ^ 64 ∧ guard.bytesForwarded + bytes.length < 2 ^ 64 ∧
    guard.bytesForwarded + bytes.length ≤ guard.maxBodyBytes ∧
    ∀ length ∈ guard.declaredLength, guard.bytesForwarded + bytes.length ≤ length

/-- The guard that asks the inner body, unless closing the window panics. -/
def opened? (guard : ResponseBodyGuard B) (tick : Tick) : Option (ResponseBodyGuard B) :=
  if (guard.startTimers tick.now).rateTimer.isSome && tick.rateFired then
    (guard.startTimers tick.now).resetRateWindow? maxInstant tick.now
  else some (guard.startTimers tick.now)

/-- What the guard makes of an answer, unless restarting the idle timer panics. -/
def deliver? (guard : ResponseBodyGuard B) (now : Nat) :
    FramePoll ε × B → Option (FramePoll IoError × ResponseBodyGuard B)
  | (.ready (some (.ok (.data data))), inner) =>
      acceptData? maxInstant { guard with inner } now data
  | asked => some (guard.deliver now asked)

end Checked

variable {maxInstant : Nat}

theorem resetIdleTimer?_of_le {guard : ResponseBodyGuard B} {now : Nat}
    (hfits : ∀ timeout ∈ guard.idleTimeout, now + timeout ≤ maxInstant) :
    guard.resetIdleTimer? maxInstant now = some (guard.resetIdleTimer now) := by
  unfold resetIdleTimer? resetIdleTimer
  cases htimeout : guard.idleTimeout with
  | none => rfl
  | some timeout =>
      cases hidle : guard.idleTimer with
      | none => rfl
      | some deadline => simp [instantAdd?_of_le (hfits timeout htimeout)]

theorem resetIdleTimer?_of_lt {guard : ResponseBodyGuard B} {now timeout : Nat}
    (htimeout : guard.idleTimeout = some timeout) (htimer : guard.idleTimer.isSome = true)
    (hlate : ¬now + timeout ≤ maxInstant) : guard.resetIdleTimer? maxInstant now = none := by
  obtain ⟨deadline, hdeadline⟩ := Option.isSome_iff_exists.mp htimer
  simp [resetIdleTimer?, htimeout, hdeadline, instantAdd?_of_lt hlate]

theorem resetRateWindow?_of_le {guard : ResponseBodyGuard B} {now : Nat}
    (hfits : now + guard.rateWindow ≤ maxInstant) :
    guard.resetRateWindow? maxInstant now = some (guard.resetRateWindow now) := by
  unfold resetRateWindow? resetRateWindow
  cases hrate : guard.rateTimer with
  | none =>
      cases guard
      cases hrate
      rfl
  | some deadline => simp [instantAdd?_of_le hfits]

theorem resetRateWindow?_of_lt {guard : ResponseBodyGuard B} {now : Nat}
    (htimer : guard.rateTimer.isSome = true) (hlate : ¬now + guard.rateWindow ≤ maxInstant) :
    guard.resetRateWindow? maxInstant now = none := by
  obtain ⟨deadline, hdeadline⟩ := Option.isSome_iff_exists.mp htimer
  simp [resetRateWindow?, hdeadline, instantAdd?_of_lt hlate]

theorem acceptData?_of_fits {guard : ResponseBodyGuard B} {now : Nat} {bytes : Bytes}
    (hfits : bytes ≠ [] → guard.Admits bytes →
      ∀ timeout ∈ guard.idleTimeout, now + timeout ≤ maxInstant) :
    guard.acceptData? maxInstant now bytes = some (guard.acceptData now bytes) := by
  simp only [acceptData?, acceptData]
  split
  · rfl
  next hlimit =>
    split
    · rfl
    next hdeclared =>
      have hadmits : guard.Admits bytes :=
        ⟨by omega, by omega, by omega,
          declared_any_eq_false_iff.mp (Bool.eq_false_iff.mpr hdeclared)⟩
      split
      next hsome =>
        have hreset := hfits (List.ne_nil_of_length_pos hsome) hadmits
        rw [resetIdleTimer?_of_le (by exact hreset)]
        rfl
      next => rfl

theorem acceptData?_of_late {guard : ResponseBodyGuard B} {now timeout : Nat} {bytes : Bytes}
    (htimeout : guard.idleTimeout = some timeout) (htimer : guard.idleTimer.isSome = true)
    (hne : bytes ≠ []) (hadmits : guard.Admits bytes) (hlate : ¬now + timeout ≤ maxInstant) :
    guard.acceptData? maxInstant now bytes = none := by
  obtain ⟨hlength, htotal, hlimit, hdeclared⟩ := hadmits
  simp only [acceptData?]
  rw [if_neg (by omega), if_neg (Bool.eq_false_iff.mp (declared_any_eq_false_iff.mpr hdeclared)),
    if_pos (List.length_pos_of_ne_nil hne),
    resetIdleTimer?_of_lt (by exact htimeout) (by exact htimer) hlate]
  rfl

variable {pollInner : B → FramePoll ε × B} {tick : Tick} {guard : ResponseBodyGuard B}

/-- Before the inner body is asked nothing panics. -/
theorem pollFrame?_stopped (hstops : ¬(view B).Asks tick guard) :
    pollFrame? maxInstant pollInner tick guard = some (pollFrame pollInner tick guard) := by
  simp only [pollFrame?, pollFrame]
  split
  · rfl
  next hlive =>
    split
    · rfl
    next hidle =>
      split
      · rfl
      next hfed =>
        refine absurd ⟨?_, rfl, ?_, ?_⟩ hstops
        · exact Bool.eq_false_iff.mpr hlive
        · rw [idleElapsed_eq]
          exact Bool.eq_false_iff.mpr hidle
        · rw [starved_eq]
          exact Bool.eq_false_iff.mpr hfed

theorem pollFrame?_asked (hasks : (view B).Asks tick guard) :
    pollFrame? maxInstant pollInner tick guard =
      (guard.opened? maxInstant tick).bind fun current =>
        current.deliver? maxInstant tick.now (pollInner current.inner) := by
  obtain ⟨hlive, -, hidle, hstarved⟩ := hasks
  rw [view_terminal] at hlive
  rw [idleElapsed_eq] at hidle
  rw [starved_eq] at hstarved
  simp only [pollFrame?, hlive, hidle, hstarved, Bool.false_eq_true, if_false]
  apply congrArg
  funext current
  obtain ⟨answer, inner⟩ := pollInner current.inner
  match answer with
  | .pending => rfl
  | .ready none => rfl
  | .ready (some (.error _)) => rfl
  | .ready (some (.ok (.data _))) => rfl
  | .ready (some (.ok (.trailers _))) => rfl
  | .ready (some (.ok .unknown)) => rfl

theorem startTimers_settings (guard : ResponseBodyGuard B) (now : Nat) :
    (guard.startTimers now).rateWindow = guard.rateWindow ∧
      (guard.startTimers now).idleTimeout = guard.idleTimeout ∧
      ∀ timeout, guard.idleTimeout = some timeout →
        (guard.startTimers now).idleTimer.isSome = true := by
  unfold startTimers
  split
  · exact ⟨rfl, rfl, fun _ _ => rfl⟩
  next hstarted =>
    refine ⟨rfl, rfl, fun timeout htimeout => ?_⟩
    cases hidle : guard.idleTimer with
    | none => exact absurd htimeout (hstarted timeout hidle)
    | some deadline => rfl

theorem opened_settings (guard : ResponseBodyGuard B) (tick : Tick) :
    (guard.opened tick).idleTimeout = guard.idleTimeout ∧
      ∀ timeout, guard.idleTimeout = some timeout →
        (guard.opened tick).idleTimer.isSome = true := by
  obtain ⟨-, htimeout, htimer⟩ := startTimers_settings guard tick.now
  unfold opened
  split
  · exact ⟨htimeout, htimer⟩
  · exact ⟨htimeout, htimer⟩

theorem rateElapsed_eq : (view B).rateElapsed tick guard =
    ((guard.startTimers tick.now).rateTimer.isSome && tick.rateFired) := by
  rw [WatchView.rateElapsed, view_toTick, ← timers_startTimers]
  rfl

theorem opened?_of_fits
    (hfits : (view B).rateElapsed tick guard = true → tick.now + guard.rateWindow ≤ maxInstant) :
    guard.opened? maxInstant tick = some (guard.opened tick) := by
  rw [rateElapsed_eq, ← (startTimers_settings guard tick.now).1] at hfits
  unfold opened? opened
  split
  next helapsed => exact resetRateWindow?_of_le (hfits helapsed)
  next => rfl

theorem opened?_of_late (helapsed : (view B).rateElapsed tick guard = true)
    (hlate : ¬tick.now + guard.rateWindow ≤ maxInstant) :
    guard.opened? maxInstant tick = none := by
  rw [rateElapsed_eq] at helapsed
  rw [← (startTimers_settings guard tick.now).1] at hlate
  rw [opened?, if_pos helapsed]
  exact resetRateWindow?_of_lt (Bool.and_eq_true_iff.mp helapsed).1 hlate

theorem admits_opened {inner : B} {bytes : Bytes} :
    Admits { guard.opened tick with inner } bytes ↔ guard.Admits bytes := by
  have hsame := opened_sameCounts guard tick
  simp only [Admits, hsame.bytesForwarded, hsame.maxBodyBytes, hsame.declaredLength]

/-- A poll with representable resets is the poll without panics. -/
theorem pollFrame?_of_fits (hfits : ResetsFit (view B) maxInstant Admits
      (fun guard => (pollInner guard.inner).1) tick guard) :
    pollFrame? maxInstant pollInner tick guard = some (pollFrame pollInner tick guard) := by
  by_cases hasks : (view B).Asks tick guard
  · obtain ⟨hlive, -, hidle, hstarved⟩ := id hasks
    have hsame := opened_sameCounts guard tick
    rw [pollFrame?_asked hasks, opened?_of_fits (hfits.rate hasks), Option.bind_some,
      pollFrame_asked pollInner hlive hidle hstarved, hsame.inner]
    obtain ⟨answer, inner, hpoll⟩ : ∃ answer inner, pollInner guard.inner = (answer, inner) :=
      ⟨_, _, rfl⟩
    have hdata := hfits.idle hasks
    simp only [hpoll] at hdata ⊢
    match answer with
    | .pending => rfl
    | .ready none => rfl
    | .ready (some (.error _)) => rfl
    | .ready (some (.ok (.trailers _))) => rfl
    | .ready (some (.ok .unknown)) => rfl
    | .ready (some (.ok (.data bytes))) =>
        apply acceptData?_of_fits
        intro hne hadmits timeout htimeout
        have hkept := (opened_settings guard tick).1
        rw [hkept] at htimeout
        exact hdata bytes rfl hne (admits_opened.mp hadmits) timeout htimeout
  · exact pollFrame?_stopped hasks

/-- A poll whose resets are not all representable panics. -/
theorem fits_of_pollFrame? (hruns : pollFrame? maxInstant pollInner tick guard ≠ none) :
    ResetsFit (view B) maxInstant Admits (fun guard => (pollInner guard.inner).1) tick guard := by
  have hrate : (view B).Asks tick guard → (view B).rateElapsed tick guard = true →
      tick.now + guard.rateWindow ≤ maxInstant := by
    intro hasks helapsed
    by_contra hlate
    rw [pollFrame?_asked hasks, opened?_of_late helapsed hlate] at hruns
    exact hruns rfl
  refine ⟨hrate, ?_⟩
  intro hasks bytes hpoll hne hadmits timeout htimeout
  by_contra hlate
  obtain ⟨hsameTimeout, htimer⟩ := opened_settings guard tick
  have hsame := opened_sameCounts guard tick
  apply hruns
  rw [pollFrame?_asked hasks, opened?_of_fits (hrate hasks), Option.bind_some, hsame.inner,
    show pollInner guard.inner = (.ready (some (.ok (.data bytes))), (pollInner guard.inner).2) from
      Prod.ext hpoll rfl]
  exact acceptData?_of_late (hsameTimeout.trans htimeout) (htimer timeout htimeout) hne
    (admits_opened.mpr hadmits) hlate

end ResponseBodyGuard

/-! ## Runs -/

/-- A run of a guard goes through exactly when at every poll the resets of its timers are
representable, and then it is the run without panics. It is enough that both durations can
be added to every instant of a poll. -/
theorem guards_run_iff_resets_fit (maxInstant : Nat) (limits : TransportLimits)
    (pollInner : B → FramePoll ε × B) (inner : B) :
    (∀ ticks : List RequestTick,
      (Poll.run? (RequestBodyGuard.pollFrame? maxInstant pollInner) ticks
        (RequestBodyGuard.new inner limits) ≠ none ↔
      ∀ record ∈ Poll.trace (RequestBodyGuard.pollFrame pollInner) ticks
          (RequestBodyGuard.new inner limits),
        ResetsFit (RequestBodyGuard.view B) maxInstant RequestBodyGuard.Admits
          (fun guard => (pollInner guard.inner).1) record.input record.before) ∧
      ((∀ tick ∈ ticks, tick.now + limits.requestBodyRateWindow ≤ maxInstant ∧
          tick.now + limits.requestBodyIdleTimeout ≤ maxInstant) →
        Poll.run? (RequestBodyGuard.pollFrame? maxInstant pollInner) ticks
          (RequestBodyGuard.new inner limits) ≠ none)) ∧
    ∀ (declaredLength : Option Nat) (maxBodyBytes : Nat) (ticks : List Tick),
      (Poll.run? (ResponseBodyGuard.pollFrame? maxInstant pollInner) ticks
        (ResponseBodyGuard.streaming inner declaredLength maxBodyBytes limits) ≠ none ↔
      ∀ record ∈ Poll.trace (ResponseBodyGuard.pollFrame pollInner) ticks
          (ResponseBodyGuard.streaming inner declaredLength maxBodyBytes limits),
        ResetsFit (ResponseBodyGuard.view B) maxInstant ResponseBodyGuard.Admits
          (fun guard => (pollInner guard.inner).1) record.input record.before) ∧
      ((∀ tick ∈ ticks, tick.now + limits.responseBodyRateWindow ≤ maxInstant ∧
          tick.now + limits.responseBodyIdleTimeout ≤ maxInstant) →
        Poll.run? (ResponseBodyGuard.pollFrame? maxInstant pollInner) ticks
          (ResponseBodyGuard.streaming inner declaredLength maxBodyBytes limits) ≠ none) := by
  constructor
  · intro ticks
    refine And.imp_right ?_ ((RequestBodyGuard.follows pollInner).run?_iff
      (fun _ _ => RequestBodyGuard.pollFrame?_of_fits)
      (fun _ _ => RequestBodyGuard.fits_of_pollFrame?) ticks _)
    intro henough hinstants
    refine henough fun tick htick => ?_
    obtain ⟨hrate, hidle⟩ := hinstants tick htick
    refine ⟨hrate, fun timeout htimeout => ?_⟩
    obtain rfl := Option.some.inj htimeout
    exact hidle
  · intro declaredLength maxBodyBytes ticks
    refine And.imp_right ?_ ((ResponseBodyGuard.follows pollInner).run?_iff
      (fun _ _ => ResponseBodyGuard.pollFrame?_of_fits)
      (fun _ _ => ResponseBodyGuard.fits_of_pollFrame?) ticks _)
    intro henough hinstants
    refine henough fun tick htick => ?_
    obtain ⟨hrate, hidle⟩ := hinstants tick htick
    refine ⟨hrate, fun timeout htimeout => ?_⟩
    obtain rfl := Option.some.inj htimeout
    exact hidle

/-! ## The longest timeout -/

/-- The last instant of a clock that counts its seconds in 64 signed bits. -/
def lastInstant : Nat := (2 ^ 63 - 1) * 10 ^ 9 + 999999999

/-- The longest duration. -/
def maxDuration : Nat := (2 ^ 64 - 1) * 10 ^ 9 + 999999999

/-- Both idle timeouts are as long as a duration can be. -/
def endlessLimits : TransportLimits :=
  { defaultLimits with
    requestBodyIdleTimeout := maxDuration
    responseBodyIdleTimeout := maxDuration }

/-- These limits are accepted, yet the first byte of either body makes its guard panic. -/
theorem guards_panic_endlessLimits :
    endlessLimits.isValid = true ∧
      Poll.run? (RequestBodyGuard.pollFrame? lastInstant pollFull)
        [⟨⟨1, false, false⟩, false⟩] (.new (asBytes "a") endlessLimits) = none ∧
      Poll.run? (ResponseBodyGuard.pollFrame? lastInstant pollFull) [⟨1, false, false⟩]
        (.streaming (asBytes "a") none endlessLimits.maxResponseBodyBytes endlessLimits) =
          none := by
  decide +kernel

end Rpackit.Transport
