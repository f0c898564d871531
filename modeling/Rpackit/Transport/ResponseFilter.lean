import Rpackit.Transport.StallWatch

/-! # The response guard as a filter and as a watch

The guard tests its idle timer and its rate timer in this order before it asks the
upstream body. From outside it is a filter of that body within the byte limit and
the declared length, and its timers are a watch over what it forwards.
-/

namespace Rpackit.Transport

open Text

variable {B ε : Type}

namespace ResponseBodyGuard

/-- What the guard makes of an answer of the inner body. -/
def deliver (guard : ResponseBodyGuard B) (now : Nat) :
    FramePoll ε × B → FramePoll IoError × ResponseBodyGuard B
  | (.pending, inner) => (.pending, { guard with inner })
  | (.ready (some (.error _)), inner) =>
      reject { guard with inner } "upstream response body was malformed"
  | (.ready (some (.ok (.data data))), inner) => acceptData { guard with inner } now data
  | (.ready (some (.ok (.trailers _))), inner) =>
      reject { guard with inner } "upstream response trailers were rejected"
  | (.ready (some (.ok .unknown)), inner) =>
      reject { guard with inner } "upstream response body frame was rejected"
  | (.ready none, inner) => finish { guard with inner }

/-- The guard that asks the inner body: an observed window has been closed. -/
def opened (guard : ResponseBodyGuard B) (tick : Tick) : ResponseBodyGuard B :=
  if (guard.startTimers tick.now).rateTimer.isSome && tick.rateFired then
    (guard.startTimers tick.now).resetRateWindow tick.now
  else guard.startTimers tick.now

/-- The guard after a forwarded frame. -/
def forwarded (guard : ResponseBodyGuard B) (now count : Nat) : ResponseBodyGuard B :=
  let counted := { guard with
    bytesForwarded := guard.bytesForwarded + count
    windowBytes := min (guard.windowBytes + count) (2 ^ 64 - 1) }
  if count > 0 then counted.resetIdleTimer now else counted

/-- The guard as a filter of its inner body. -/
@[simps] def filter (B : Type) : BodyFilter (ResponseBodyGuard B) B where
  inner guard := guard.inner
  terminal guard := guard.terminal
  bytesForwarded guard := guard.bytesForwarded
  maxBodyBytes guard := guard.maxBodyBytes
  declaredLength guard := guard.declaredLength

/-- The guard as a watch over its inner body. -/
@[simps toTick timers terminal idleError rateError overruled]
def view (B : Type) : WatchView Tick (ResponseBodyGuard B) where
  toTick tick := tick
  timers guard := ⟨guard.idleTimeout, guard.rateWindow, guard.minimumWindowBytes,
    guard.windowBytes, guard.idleTimer, guard.rateTimer⟩
  terminal guard := guard.terminal
  idleError := ⟨.other, "upstream response body exceeded idle timeout"⟩
  rateError := ⟨.other, "upstream response body rate was below limit"⟩
  overruled _ _ := false

/-! ## Guards that count alike -/

/-- Guards that differ in their timers and in the current rate window only. -/
structure SameCounts (guard other : ResponseBodyGuard B) : Prop where
  inner : other.inner = guard.inner
  declaredLength : other.declaredLength = guard.declaredLength
  bytesForwarded : other.bytesForwarded = guard.bytesForwarded
  maxBodyBytes : other.maxBodyBytes = guard.maxBodyBytes
  terminal : other.terminal = guard.terminal

theorem startTimers_sameCounts (guard : ResponseBodyGuard B) (now : Nat) :
    SameCounts guard (guard.startTimers now) := by
  unfold startTimers
  split
  · exact ⟨rfl, rfl, rfl, rfl, rfl⟩
  · exact ⟨rfl, rfl, rfl, rfl, rfl⟩

theorem opened_sameCounts (guard : ResponseBodyGuard B) (tick : Tick) :
    SameCounts guard (guard.opened tick) := by
  obtain ⟨hinner, hdeclared, hforwarded, hmax, hterminal⟩ := startTimers_sameCounts guard tick.now
  unfold opened
  split
  · exact ⟨hinner, hdeclared, hforwarded, hmax, hterminal⟩
  · exact ⟨hinner, hdeclared, hforwarded, hmax, hterminal⟩

theorem resetIdleTimer_sameCounts (guard : ResponseBodyGuard B) (now : Nat) :
    SameCounts guard (guard.resetIdleTimer now) := by
  unfold resetIdleTimer
  split
  · exact ⟨rfl, rfl, rfl, rfl, rfl⟩
  · exact ⟨rfl, rfl, rfl, rfl, rfl⟩

theorem forwarded_sameCounts (guard : ResponseBodyGuard B) (now count : Nat) :
    SameCounts { guard with bytesForwarded := guard.bytesForwarded + count }
      (guard.forwarded now count) := by
  simp only [forwarded]
  split
  · obtain ⟨hinner, hdeclared, hforwarded, hmax, hterminal⟩ := resetIdleTimer_sameCounts _ now
    exact ⟨hinner, hdeclared, hforwarded, hmax, hterminal⟩
  · exact ⟨rfl, rfl, rfl, rfl, rfl⟩

/-! ## The timers -/

theorem timers_startTimers (guard : ResponseBodyGuard B) (now : Nat) :
    (view B).timers (guard.startTimers now) = ((view B).timers guard).start now := by
  unfold startTimers GuardTimers.start
  cases hidle : guard.idleTimer with
  | none => cases htimeout : guard.idleTimeout <;> simp [view, hidle, htimeout]
  | some deadline => simp [view, hidle]

theorem timers_opened (guard : ResponseBodyGuard B) (tick : Tick) :
    (view B).timers (guard.opened tick) = ((view B).timers guard).opened tick := by
  have hstarted := timers_startTimers guard tick.now
  have helapsed : (((view B).timers guard).start tick.now).rateElapsed tick =
      ((guard.startTimers tick.now).rateTimer.isSome && tick.rateFired) := by
    rw [← hstarted]
    rfl
  rw [GuardTimers.opened, opened, helapsed, ← hstarted]
  split
  · rfl
  · rfl

theorem timers_forwarded (guard : ResponseBodyGuard B) (now : Nat) (bytes : Bytes) :
    (view B).timers (guard.forwarded now bytes.length) =
      ((view B).timers guard).answered now (.ready (some (.ok (.data bytes)))) := by
  simp only [forwarded, GuardTimers.answered]
  split
  · unfold resetIdleTimer GuardTimers.resetIdleTimer
    cases htimeout : guard.idleTimeout <;> cases hidle : guard.idleTimer <;>
      simp [view, htimeout, hidle]
  · rfl

/-! ## The order of the checks -/

section Checks

variable (pollInner : B → FramePoll ε × B) {tick : Tick} {guard : ResponseBodyGuard B}

theorem idleElapsed_eq : (view B).idleElapsed tick guard =
    ((guard.startTimers tick.now).idleTimer.isSome && tick.idleFired) := by
  rw [WatchView.idleElapsed, view_toTick, ← timers_startTimers]
  rfl

theorem starved_eq : (view B).starved tick guard =
    (((guard.startTimers tick.now).rateTimer.isSome && tick.rateFired) &&
      decide ((guard.startTimers tick.now).windowBytes <
        (guard.startTimers tick.now).minimumWindowBytes)) := by
  have hsame : (guard.startTimers tick.now).windowBytes = guard.windowBytes ∧
      (guard.startTimers tick.now).minimumWindowBytes = guard.minimumWindowBytes := by
    unfold startTimers
    split
    · exact ⟨rfl, rfl⟩
    · exact ⟨rfl, rfl⟩
  rw [WatchView.starved, WatchView.rateElapsed, view_toTick, ← timers_startTimers, hsame.1, hsame.2]
  rfl

theorem pollFrame_silent (hterminal : guard.terminal = true) :
    pollFrame pollInner tick guard = (.ready none, guard) := by
  rw [pollFrame, if_pos hterminal]

theorem pollFrame_idle (hlive : guard.terminal = false)
    (hidle : (view B).idleElapsed tick guard = true) :
    pollFrame pollInner tick guard = (guard.startTimers tick.now).reject
      "upstream response body exceeded idle timeout" := by
  rw [idleElapsed_eq] at hidle
  simp only [pollFrame, hlive, hidle, Bool.false_eq_true, if_false, if_true]

theorem pollFrame_starved (hlive : guard.terminal = false)
    (hidle : (view B).idleElapsed tick guard = false)
    (hstarved : (view B).starved tick guard = true) :
    pollFrame pollInner tick guard = (guard.startTimers tick.now).reject
      "upstream response body rate was below limit" := by
  rw [idleElapsed_eq] at hidle
  rw [starved_eq] at hstarved
  simp only [pollFrame, hlive, hidle, hstarved, Bool.false_eq_true, if_false, if_true]

theorem pollFrame_asked (hlive : guard.terminal = false)
    (hidle : (view B).idleElapsed tick guard = false)
    (hstarved : (view B).starved tick guard = false) :
    pollFrame pollInner tick guard =
      (guard.opened tick).deliver tick.now (pollInner (guard.opened tick).inner) := by
  rw [idleElapsed_eq] at hidle
  rw [starved_eq] at hstarved
  simp only [pollFrame, hlive, hidle, hstarved, Bool.false_eq_true, if_false]
  rw [show (if ((guard.startTimers tick.now).rateTimer.isSome && tick.rateFired) = true then
    (guard.startTimers tick.now).resetRateWindow tick.now else guard.startTimers tick.now) =
    guard.opened tick from rfl]
  obtain ⟨answer, inner⟩ := pollInner (guard.opened tick).inner
  match answer with
  | .pending => rfl
  | .ready none => rfl
  | .ready (some (.error _)) => rfl
  | .ready (some (.ok (.data _))) => rfl
  | .ready (some (.ok (.trailers _))) => rfl
  | .ready (some (.ok .unknown)) => rfl

/-- A data frame is rejected, or forwarded and counted within both bounds. -/
theorem acceptData_eq (guard : ResponseBodyGuard B) (now : Nat) (bytes : Bytes) :
    guard.acceptData now bytes = guard.reject "upstream response body exceeded limit" ∨
    guard.acceptData now bytes = guard.reject "upstream response body exceeded declared length" ∨
    (guard.bytesForwarded + bytes.length ≤ guard.maxBodyBytes ∧
      (∀ length ∈ guard.declaredLength, guard.bytesForwarded + bytes.length ≤ length) ∧
      guard.acceptData now bytes =
        (.ready (some (.ok (.data bytes))), guard.forwarded now bytes.length)) := by
  simp only [acceptData]
  split
  · exact .inl rfl
  next hlimit =>
    split
    · exact .inr (.inl rfl)
    next hdeclared =>
      rw [not_or, not_or] at hlimit
      refine .inr (.inr ⟨Nat.le_of_not_gt hlimit.2.2, ?_, rfl⟩)
      intro length hlength
      rw [Option.mem_def.mp hlength] at hdeclared
      simpa using hdeclared

theorem finish_eq (guard : ResponseBodyGuard B) :
    (∃ error, error.kind = .unexpectedEof ∧
      (∃ length ∈ guard.declaredLength, guard.bytesForwarded ≠ length) ∧
      guard.finish = (.ready (some (.error error)), { guard with terminal := true })) ∨
    ((∀ length ∈ guard.declaredLength, guard.bytesForwarded = length) ∧
      guard.finish = (.ready none, { guard with terminal := true })) := by
  simp only [finish]
  split
  next hshort =>
    obtain ⟨length, hlength, hne⟩ := Option.any_eq_true _ _ |>.mp hshort
    exact .inl ⟨_, rfl, ⟨length, hlength, fun heq => by simp [heq] at hne⟩, rfl⟩
  next hwhole =>
    refine .inr ⟨fun length hlength => ?_, rfl⟩
    rw [Option.mem_def.mp hlength] at hwhole
    have hsame : length = guard.bytesForwarded := by simpa using hwhole
    exact hsame.symm

/-! ## The advertised length -/

/-- The length of the size hint never changes. -/
theorem sizeHintLength_pollFrame :
    (pollFrame pollInner tick guard).2.sizeHintLength = guard.sizeHintLength := by
  have hstarted : (guard.startTimers tick.now).sizeHintLength = guard.sizeHintLength := by
    unfold startTimers
    split
    · rfl
    · rfl
  cases hlive : guard.terminal with
  | true => rw [pollFrame_silent pollInner hlive]
  | false =>
      cases hidle : (view B).idleElapsed tick guard with
      | true => rw [pollFrame_idle pollInner hlive hidle]; exact hstarted
      | false =>
          cases hstarved : (view B).starved tick guard with
          | true => rw [pollFrame_starved pollInner hlive hidle hstarved]; exact hstarted
          | false =>
              have hopened : (guard.opened tick).sizeHintLength = guard.sizeHintLength := by
                unfold opened
                split
                · exact hstarted
                · exact hstarted
              rw [pollFrame_asked pollInner hlive hidle hstarved, ← hopened]
              obtain ⟨answer, inner⟩ := pollInner (guard.opened tick).inner
              match answer with
              | .pending => rfl
              | .ready (some (.error _)) => rfl
              | .ready (some (.ok (.trailers _))) => rfl
              | .ready (some (.ok .unknown)) => rfl
              | .ready none =>
                  simp only [deliver, finish]
                  split <;> rfl
              | .ready (some (.ok (.data bytes))) =>
                  obtain hreject | hreject | ⟨-, -, haccept⟩ :=
                    acceptData_eq { guard.opened tick with inner } tick.now bytes
                  · rw [deliver, hreject]
                    rfl
                  · rw [deliver, hreject]
                    rfl
                  · rw [deliver, haccept]
                    simp only [forwarded, resetIdleTimer]
                    split
                    · split <;> rfl
                    · rfl

/-! ## The filter and the watch -/

/-- What the guard makes of an answer is a step of the filter. -/
theorem deliver_step (now : Nat) {current : ResponseBodyGuard B} (hlive : guard.terminal = false)
    (hsame : SameCounts guard current) :
    (filter B).Step pollInner guard (current.deliver now (pollInner current.inner)) := by
  obtain ⟨answer, inner, hpoll⟩ : ∃ answer inner, pollInner guard.inner = (answer, inner) :=
    ⟨_, _, rfl⟩
  rw [hsame.inner, hpoll]
  -- whatever the inner body answered, a rejection ends the stream
  have hrejected : answer ≠ .ready none → ∀ message,
      (filter B).Step pollInner guard (reject { current with inner } message) :=
    fun hnot message => ⟨hsame.maxBodyBytes, hsame.declaredLength,
      .rejected hpoll rfl fun hend => absurd hend hnot⟩
  match answer with
  | .pending => exact ⟨hsame.maxBodyBytes, hsame.declaredLength,
      .pending hpoll (hsame.terminal.trans hlive) hsame.bytesForwarded⟩
  | .ready (some (.error _)) => exact hrejected nofun _
  | .ready (some (.ok (.trailers _))) => exact hrejected nofun _
  | .ready (some (.ok .unknown)) => exact hrejected nofun _
  | .ready (some (.ok (.data bytes))) =>
      simp only [deliver]
      obtain hreject | hreject | ⟨hlimit, hdeclared, haccept⟩ :=
        acceptData_eq { current with inner } now bytes
      · rw [hreject]
        exact hrejected nofun _
      · rw [hreject]
        exact hrejected nofun _
      · rw [haccept]
        simp only [hsame.bytesForwarded, hsame.maxBodyBytes, hsame.declaredLength]
          at hlimit hdeclared
        have hnext := forwarded_sameCounts { current with inner } now bytes.length
        have hcount : (forwarded { current with inner } now bytes.length).bytesForwarded =
            guard.bytesForwarded + bytes.length := by
          rw [hnext.bytesForwarded, ← hsame.bytesForwarded]
        refine ⟨hnext.maxBodyBytes.trans hsame.maxBodyBytes,
          hnext.declaredLength.trans hsame.declaredLength, .forwarded ?_
            (hnext.terminal.trans (hsame.terminal.trans hlive)) hcount ?_ ?_⟩
        · exact hpoll.trans (by rw [show (filter B).inner _ = inner from hnext.inner])
        · exact hcount.trans_le hlimit
        · exact fun length hlength => hcount.trans_le (hdeclared length hlength)
  | .ready none =>
      simp only [deliver]
      obtain ⟨error, -, hshort, hfinish⟩ | ⟨hwhole, hfinish⟩ := finish_eq { current with inner }
      · rw [hfinish]
        simp only [hsame.declaredLength, hsame.bytesForwarded] at hshort
        exact ⟨hsame.maxBodyBytes, hsame.declaredLength, .rejected hpoll rfl fun _ => hshort⟩
      · rw [hfinish]
        simp only [hsame.declaredLength, hsame.bytesForwarded] at hwhole
        exact ⟨hsame.maxBodyBytes, hsame.declaredLength, .ended hpoll rfl hwhole⟩

/-- The timers after an answer; no answer of the body is taken for a timer. -/
theorem deliver_timers (now : Nat) (guard : ResponseBodyGuard B) (asked : FramePoll ε × B) :
    (guard.deliver now asked).1 ≠ (view B).idlePoll ∧
      (guard.deliver now asked).1 ≠ (view B).ratePoll ∧
      ((view B).terminal (guard.deliver now asked).2 = true ∨
        (view B).timers (guard.deliver now asked).2 =
          ((view B).timers guard).answered now (guard.deliver now asked).1) := by
  obtain ⟨answer, inner⟩ := asked
  have hrejected : ∀ message, message ≠ "upstream response body exceeded idle timeout" →
      message ≠ "upstream response body rate was below limit" →
      (reject { guard with inner } message).1 ≠ (view B).idlePoll ∧
        (reject { guard with inner } message).1 ≠ (view B).ratePoll ∧
        ((view B).terminal (reject { guard with inner } message).2 = true ∨
          (view B).timers (reject { guard with inner } message).2 =
            ((view B).timers guard).answered now (reject { guard with inner } message).1) := by
    intro message hidle hrate
    refine ⟨?_, ?_, .inl rfl⟩
    · simpa [reject, WatchView.idlePoll] using hidle
    · simpa [reject, WatchView.ratePoll] using hrate
  match answer with
  | .pending => exact ⟨nofun, nofun, .inr rfl⟩
  | .ready (some (.error _)) => exact hrejected _ (by decide) (by decide)
  | .ready (some (.ok (.trailers _))) => exact hrejected _ (by decide) (by decide)
  | .ready (some (.ok .unknown)) => exact hrejected _ (by decide) (by decide)
  | .ready (some (.ok (.data bytes))) =>
      simp only [deliver]
      obtain hreject | hreject | ⟨-, -, haccept⟩ := acceptData_eq { guard with inner } now bytes
      · rw [hreject]
        exact hrejected _ (by decide) (by decide)
      · rw [hreject]
        exact hrejected _ (by decide) (by decide)
      · rw [haccept]
        exact ⟨nofun, nofun, .inr (timers_forwarded _ now bytes)⟩
  | .ready none =>
      simp only [deliver]
      obtain ⟨error, heof, -, hfinish⟩ | ⟨-, hfinish⟩ := finish_eq { guard with inner }
      · rw [hfinish]
        refine ⟨?_, ?_, .inl rfl⟩
        · rintro ⟨⟩
          cases heof
        · rintro ⟨⟩
          cases heof
      · rw [hfinish]
        exact ⟨nofun, nofun, .inl rfl⟩

/-- The guard filters its inner body, however its timers fire. -/
theorem filters : (filter B).Filters pollInner (pollFrame pollInner) where
  silent _ _ hterminal := pollFrame_silent pollInner hterminal
  live tick guard hlive := by
    have hstarted := startTimers_sameCounts guard tick.now
    have hrefused : ∀ message,
        (filter B).Step pollInner guard ((guard.startTimers tick.now).reject message) :=
      fun message => ⟨hstarted.maxBodyBytes, hstarted.declaredLength, .refused hstarted.inner rfl⟩
    cases hidle : (view B).idleElapsed tick guard with
    | true => rw [pollFrame_idle pollInner hlive hidle]; exact hrefused _
    | false =>
        cases hstarved : (view B).starved tick guard with
        | true => rw [pollFrame_starved pollInner hlive hidle hstarved]; exact hrefused _
        | false =>
            rw [pollFrame_asked pollInner hlive hidle hstarved]
            exact deliver_step pollInner tick.now hlive (opened_sameCounts guard tick)

theorem follows : (view B).Follows (pollFrame pollInner) where
  silent _ _ hterminal := pollFrame_silent pollInner hterminal
  overruled _ _ _ hfirst := by cases hfirst
  idle _ _ hlive _ hidle := by
    rw [pollFrame_idle pollInner hlive hidle]
    exact ⟨rfl, rfl⟩
  rate _ _ hlive _ hidle hstarved := by
    rw [pollFrame_starved pollInner hlive hidle hstarved]
    exact ⟨rfl, rfl⟩
  asked tick guard hlive _ hidle hstarved := by
    rw [pollFrame_asked pollInner hlive hidle hstarved, view_toTick, ← timers_opened]
    exact deliver_timers tick.now (guard.opened tick) _

/-! ## Bodies within the bounds -/

/-- The two errors of the timers. -/
def timerErrors : List (FramePoll IoError) :=
  [.ready (some (.error ⟨.other, "upstream response body exceeded idle timeout"⟩)),
    .ready (some (.error ⟨.other, "upstream response body rate was below limit"⟩))]

theorem acceptData_of_admitted {bytes : Bytes} (now : Nat)
    (hadmitted : (filter B).Admitted guard
      (.ready (some (.ok (.data bytes))) : FramePoll ε)) :
    guard.acceptData now bytes =
      (.ready (some (.ok (.data bytes))), guard.forwarded now bytes.length) := by
  obtain ⟨hsize, hlimit, hdeclared⟩ := hadmitted
  rw [filter_bytesForwarded] at hsize
  rw [filter_bytesForwarded, filter_maxBodyBytes] at hlimit
  have hwithin := declared_any_eq_false_iff.mpr hdeclared
  rw [filter_bytesForwarded, Bool.eq_false_iff] at hwithin
  simp only [acceptData]
  rw [if_neg (by omega), if_neg hwithin]
  rfl

/-- Within the bounds only the timers make the guard fail. -/
theorem admits : (filter B).Admits pollInner (pollFrame pollInner) timerErrors := by
  intro tick guard hlive hadmitted error
  rw [filter_terminal] at hlive
  cases hidle : (view B).idleElapsed tick guard with
  | true =>
      intro _
      rw [pollFrame_idle pollInner hlive hidle]
      exact List.mem_cons_self
  | false =>
      cases hstarved : (view B).starved tick guard with
      | true =>
          intro _
          rw [pollFrame_starved pollInner hlive hidle hstarved]
          exact List.mem_cons_of_mem _ List.mem_cons_self
      | false =>
          have hsame := opened_sameCounts guard tick
          rw [pollFrame_asked pollInner hlive hidle hstarved, hsame.inner]
          obtain ⟨answer, inner, hpoll⟩ :
              ∃ answer inner, pollInner guard.inner = (answer, inner) := ⟨_, _, rfl⟩
          rw [filter_inner, hpoll] at hadmitted
          rw [hpoll]
          have hopened : (filter B).Admitted { guard.opened tick with inner } answer := by
            simpa only [BodyFilter.Admitted, filter_bytesForwarded, filter_maxBodyBytes,
              filter_declaredLength, hsame.bytesForwarded, hsame.maxBodyBytes,
              hsame.declaredLength] using hadmitted
          match answer with
          | .pending => exact nofun
          | .ready (some (.ok (.data bytes))) =>
              rw [deliver, acceptData_of_admitted tick.now hopened]
              exact nofun
          | .ready none =>
              obtain ⟨_, -, ⟨length, hlength, hne⟩, -⟩ | ⟨-, hfinish⟩ :=
                finish_eq { guard.opened tick with inner }
              · exact absurd (hopened length hlength) hne
              · rw [deliver, hfinish]
                exact nofun

end Checks

end ResponseBodyGuard

/-! ## The guard over decoded content -/

namespace DecodedBodyGuard

@[simps] def filter (B : Type) : BodyFilter (DecodedBodyGuard B) B where
  inner guard := guard.inner
  terminal guard := guard.terminal
  bytesForwarded guard := guard.bytesForwarded
  maxBodyBytes guard := guard.maxBodyBytes
  declaredLength _ := none

theorem acceptData_eq (guard : DecodedBodyGuard B) (bytes : Bytes) :
    guard.acceptData bytes = guard.reject "decoded upstream response body exceeded limit" ∨
    (guard.bytesForwarded + bytes.length ≤ guard.maxBodyBytes ∧
      guard.acceptData bytes = (.ready (some (.ok (.data bytes))),
        { guard with bytesForwarded := guard.bytesForwarded + bytes.length })) := by
  simp only [acceptData]
  split
  · exact .inl rfl
  next hlimit =>
    rw [not_or, not_or] at hlimit
    exact .inr ⟨Nat.le_of_not_gt hlimit.2.2, rfl⟩

/-- The guard filters its inner body; it takes no input. -/
theorem filters (pollInner : B → FramePoll ε × B) :
    (filter B).Filters pollInner fun (_ : Unit) => pollFrame pollInner where
  silent _ guard hterminal := by rw [pollFrame, if_pos (by exact hterminal)]
  live _ guard hlive := by
    obtain ⟨answer, inner, hpoll⟩ : ∃ answer inner, pollInner guard.inner = (answer, inner) :=
      ⟨_, _, rfl⟩
    have hrejected : answer ≠ .ready none → ∀ message,
        (filter B).Step pollInner guard (reject { guard with inner } message) :=
      fun hnot message => ⟨rfl, rfl, .rejected hpoll rfl fun hend => absurd hend hnot⟩
    rw [pollFrame, if_neg (by exact Bool.eq_false_iff.mp hlive), hpoll]
    match answer with
    | .pending => exact ⟨rfl, rfl, .pending hpoll hlive rfl⟩
    | .ready (some (.error _)) => exact hrejected nofun _
    | .ready (some (.ok (.trailers _))) => exact hrejected nofun _
    | .ready (some (.ok .unknown)) => exact hrejected nofun _
    | .ready none => exact ⟨rfl, rfl, .ended hpoll rfl nofun⟩
    | .ready (some (.ok (.data bytes))) =>
        change (filter B).Step pollInner guard (acceptData { guard with inner } bytes)
        obtain hreject | ⟨hlimit, haccept⟩ := acceptData_eq { guard with inner } bytes
        · rw [hreject]
          exact hrejected nofun _
        · rw [haccept]
          exact ⟨rfl, rfl, .forwarded hpoll hlive rfl hlimit nofun⟩

/-- Within the bound the guard never fails. -/
theorem admits (pollInner : B → FramePoll ε × B) :
    (filter B).Admits pollInner (fun (_ : Unit) => pollFrame pollInner) [] := by
  intro _ guard hlive hadmitted error
  obtain ⟨answer, inner, hpoll⟩ : ∃ answer inner, pollInner guard.inner = (answer, inner) :=
    ⟨_, _, rfl⟩
  rw [filter_inner, hpoll] at hadmitted
  rw [filter_terminal] at hlive
  simp only [pollFrame, hlive, hpoll, Bool.false_eq_true, if_false]
  match answer with
  | .pending => exact nofun
  | .ready none => exact nofun
  | .ready (some (.ok (.data bytes))) =>
      obtain ⟨hsize, hlimit, -⟩ := hadmitted
      rw [filter_bytesForwarded] at hsize
      rw [filter_bytesForwarded, filter_maxBodyBytes] at hlimit
      simp only [acceptData]
      rw [if_neg (by omega)]
      exact nofun

end DecodedBodyGuard

end Rpackit.Transport
