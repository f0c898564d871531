import Rpackit.Launcher.Protocol
import Rpackit.Library.Runs

/-! # The language of the lifecycle tracker

The tracker accepts one lifecycle for one port and one policy: `starting`,
`listening`, `stopping` if a graceful stop is expected, `stopped`. It may be cut
short by an `error` event anywhere before its end.
-/

namespace Rpackit.Launcher

open Text Fallible

namespace LifecycleTracker

/-! ## Sequences of events -/

/-- The tracker after a sequence of events, accepted or not. -/
def after (tracker : LifecycleTracker) : List LauncherEvent → LifecycleTracker
  | [] => tracker
  | event :: rest => (tracker.observe event).2.after rest

def acceptsAll (tracker : LifecycleTracker) : List LauncherEvent → Bool
  | [] => true
  | event :: rest =>
      match tracker.observe event with
      | (.ok _, next) => next.acceptsAll rest
      | (.error _, _) => false

theorem after_append (tracker : LifecycleTracker) (first second : List LauncherEvent) :
    tracker.after (first ++ second) = (tracker.after first).after second := by
  induction first generalizing tracker with
  | nil => rfl
  | cons event rest ih => exact ih _

/-! ## What one event can do -/

/-- An accepted event, with the tracker before and after it. -/
inductive Admits : LifecycleTracker → LauncherEvent → LifecycleTracker → Prop
  | starting {tracker : LifecycleTracker} (event : StartingEvent)
      (hstate : tracker.state = .awaitingStart) (hport : event.port = tracker.expectedPort)
      (hpolicy : event.gracefulStop = tracker.expectedGracefulStop) :
      Admits tracker (.starting event)
        { tracker with runtimePid := some event.pid, state := .starting }
  | listening {tracker : LifecycleTracker} (event : ListeningEvent)
      (hstate : tracker.state = .starting) (hport : event.port = tracker.expectedPort)
      (hpid : tracker.runtimePid = some event.pid) :
      Admits tracker (.listening event) { tracker with state := .listening }
  | stopping {tracker : LifecycleTracker} (event : StoppingEvent)
      (hstate : tracker.state = .listening) (hpolicy : tracker.expectedGracefulStop = true) :
      Admits tracker (.stopping event) { tracker with state := .stopping }
  | stopped {tracker : LifecycleTracker} (event : StoppedEvent)
      (hstate : tracker.state = .listening ∨ tracker.state = .stopping)
      (hpid : tracker.runtimePid = some event.pid) :
      Admits tracker (.stopped event) { tracker with state := .stopped }
  | error {tracker : LifecycleTracker} (event : ErrorEvent)
      (hactive : tracker.state.isTerminal = false)
      (hpid : ∀ expected observed, tracker.runtimePid = some expected →
        event.pid = some observed → expected = observed) :
      Admits tracker (.error event) { tracker with state := .failed }

theorem observeActive_error_iff {tracker next : LifecycleTracker} {event : ErrorEvent} :
    tracker.observeActive (.error event) = .ok next ↔
      (∀ expected observed, tracker.runtimePid = some expected → event.pid = some observed →
        expected = observed) ∧ next = { tracker with state := .failed } := by
  unfold observeActive
  rcases hpid : tracker.runtimePid with _ | expected
  · simp [eq_comm]
  · rcases hobserved : event.pid with _ | observed
    · simp [hobserved, eq_comm]
    · by_cases hsame : expected = observed
      · simp [hobserved, hsame, eq_comm]
      · simp [hobserved, hsame]

theorem observe_ok_iff_admits {tracker next : LifecycleTracker} {event : LauncherEvent} :
    (∃ state, tracker.observe event = (.ok state, next)) ↔ Admits tracker event next := by
  simp only [observe_eq_ok_iff, exists_and_left, exists_eq, and_true]
  constructor
  · rintro ⟨hactive, hadmitted⟩
    cases event with
    | error event =>
        obtain ⟨hpid, rfl⟩ := observeActive_error_iff.mp hadmitted
        exact .error event hactive hpid
    | starting event =>
        obtain ⟨hstate, hport, rfl⟩ :=
          observe_starting (observe_eq_ok_iff.mpr ⟨hactive, hadmitted, rfl⟩)
        simp only [observeActive, hstate, rejectIf_bind_eq_ok_iff, bne_eq_false_iff_eq] at hadmitted
        exact .starting event hstate hport hadmitted.2.1
    | listening event =>
        obtain ⟨hstate, hport, hpid, rfl⟩ :=
          observe_listening (observe_eq_ok_iff.mpr ⟨hactive, hadmitted, rfl⟩)
        exact .listening event hstate hport hpid
    | stopping event =>
        cases hstate : tracker.state with
        | listening =>
            simp only [observeActive, hstate, rejectIf_bind_eq_ok_iff, pure_eq_ok_iff,
              Bool.not_eq_false'] at hadmitted
            obtain ⟨hpolicy, rfl⟩ := hadmitted
            exact .stopping event hstate hpolicy
        | _ => simp [observeActive, hstate] at hadmitted
    -- a graceful stop passes through `stopping`, and an abrupt one does not
    | stopped event =>
        cases hstate : tracker.state with
        | listening =>
            simp only [observeActive, hstate, rejectIf_bind_eq_ok_iff, pure_eq_ok_iff,
              bne_eq_false_iff_eq] at hadmitted
            obtain ⟨hpid, rfl⟩ := hadmitted
            exact .stopped event (.inl hstate) hpid
        | stopping =>
            simp only [observeActive, hstate, rejectIf_bind_eq_ok_iff, pure_eq_ok_iff,
              bne_eq_false_iff_eq] at hadmitted
            obtain ⟨hpid, rfl⟩ := hadmitted
            exact .stopped event (.inr hstate) hpid
        | _ => simp [observeActive, hstate] at hadmitted
  · intro hadmits
    cases hadmits with
    | starting event hstate hport hpolicy =>
        simp [observeActive, hstate, hport, hpolicy, LifecycleState.isTerminal]
    | listening event hstate hport hpid =>
        simp [observeActive, hstate, hport, hpid, LifecycleState.isTerminal]
    | stopping event hstate hpolicy =>
        simp [observeActive, hstate, hpolicy, LifecycleState.isTerminal]
    | stopped event hstate hpid =>
        rcases hstate with hstate | hstate
        · simp [observeActive, hstate, hpid, LifecycleState.isTerminal]
        · simp [observeActive, hstate, hpid, LifecycleState.isTerminal]
    | error event hactive hpid => exact ⟨hactive, observeActive_error_iff.mpr ⟨hpid, rfl⟩⟩

/-! ## Runs of accepted events -/

theorem acceptsAll_iff_run {tracker : LifecycleTracker} {events : List LauncherEvent} :
    tracker.acceptsAll events = true ↔ ∃ next, Run Admits tracker events next := by
  induction events generalizing tracker with
  | nil => exact ⟨fun _ => ⟨tracker, .nil tracker⟩, fun _ => rfl⟩
  | cons event rest ih =>
      rw [acceptsAll]
      constructor
      · intro haccepts
        split at haccepts
        next state next hobserve =>
          obtain ⟨last, hrun⟩ := ih.mp haccepts
          exact ⟨last, .cons (observe_ok_iff_admits.mp ⟨state, hobserve⟩) hrun⟩
        next => cases haccepts
      · rintro ⟨last, hrun⟩
        cases hrun with
        | cons hstep hrest =>
            obtain ⟨state, hobserve⟩ := observe_ok_iff_admits.mpr hstep
            rw [hobserve]
            exact ih.mpr ⟨last, hrest⟩

theorem after_of_run {tracker next : LifecycleTracker} {events : List LauncherEvent}
    (hrun : Run Admits tracker events next) : tracker.after events = next := by
  induction hrun with
  | nil => rfl
  | cons hstep _ ih =>
      obtain ⟨state, hobserve⟩ := observe_ok_iff_admits.mpr hstep
      rw [after, hobserve]
      exact ih

theorem run_after {tracker : LifecycleTracker} {events : List LauncherEvent}
    (haccepts : tracker.acceptsAll events = true) :
    Run Admits tracker events (tracker.after events) := by
  obtain ⟨next, hrun⟩ := acceptsAll_iff_run.mp haccepts
  rwa [after_of_run hrun]

/-- A rejected event changes nothing but the state, and a finished lifecycle not even that. -/
theorem observe_rejected {tracker : LifecycleTracker} {event : LauncherEvent}
    (hrejected : ∀ next, ¬Admits tracker event next) :
    (tracker.observe event).2 = if tracker.state.isTerminal then tracker
      else { tracker with state := .failed } := by
  rcases hobserve : tracker.observe event with ⟨error | state, next⟩
  · unfold observe at hobserve
    split at hobserve
    next hterminal => rw [if_pos hterminal, (Prod.mk.inj hobserve).2]
    next hactive =>
      rw [if_neg hactive]
      split at hobserve
      · cases hobserve
      · rw [(Prod.mk.inj hobserve).2]
  · exact absurd (observe_ok_iff_admits.mp ⟨state, hobserve⟩) (hrejected next)

/-- A terminal tracker accepts nothing and stays as it is. -/
theorem observe_of_terminal {tracker : LifecycleTracker}
    (hterminal : tracker.state.isTerminal = true)
    (event : LauncherEvent) :
    tracker.observe event = (.error .eventAfterTerminalState, tracker) := by
  rw [observe, if_pos hterminal]

theorem after_of_terminal {tracker : LifecycleTracker} (hterminal : tracker.state.isTerminal = true)
    (events : List LauncherEvent) : tracker.after events = tracker := by
  induction events with
  | nil => rfl
  | cons event rest ih => rw [after, observe_of_terminal hterminal, ih]

theorem Admits.active {tracker next : LifecycleTracker} {event : LauncherEvent}
    (hadmits : Admits tracker event next) : tracker.state.isTerminal = false := by
  obtain ⟨state, hobserve⟩ := observe_ok_iff_admits.mpr hadmits
  exact (observe_eq_ok_iff.mp hobserve).1

/-- The stored pid comes from a `starting` event. -/
theorem runtimePid_of_run {tracker next : LifecycleTracker} {events : List LauncherEvent}
    (hrun : Run Admits tracker events next) {pid : UInt32} (hpid : next.runtimePid = some pid) :
    tracker.runtimePid = some pid ∨ ∃ starting, .starting starting ∈ events ∧
      starting.pid = pid := by
  induction hrun with
  | nil => exact .inl hpid
  | cons hstep _ ih =>
      rcases ih hpid with hmiddle | ⟨starting, hmem, hstarting⟩
      · cases hstep with
        | starting event => exact .inr ⟨event, List.mem_cons_self, Option.some.inj hmiddle⟩
        | listening event => exact .inl hmiddle
        | stopping event => exact .inl hmiddle
        | stopped event => exact .inl hmiddle
        | error event => exact .inl hmiddle
      · exact .inr ⟨starting, List.mem_cons_of_mem _ hmem, hstarting⟩

end LifecycleTracker

/-! ## The language -/

/-- The events of one whole lifecycle. -/
structure WholeLifecycle (port : UInt16) (graceful : Bool) where
  starting : StartingEvent
  listening : ListeningEvent
  stopping : Option StoppingEvent
  stopped : StoppedEvent
  startingPort : starting.port = port
  policy : starting.gracefulStop = graceful
  listeningPort : listening.port = port
  listeningPid : listening.pid = starting.pid
  stoppingPolicy : stopping.isSome = true → graceful = true
  stoppedPid : stopped.pid = starting.pid

namespace WholeLifecycle

variable {port : UInt16} {graceful : Bool}

/-- The events before `stopped`. -/
def opening (whole : WholeLifecycle port graceful) : List LauncherEvent :=
  .starting whole.starting :: .listening whole.listening ::
    (whole.stopping.map LauncherEvent.stopping).toList

def events (whole : WholeLifecycle port graceful) : List LauncherEvent :=
  whole.opening ++ [.stopped whole.stopped]

/-- A `starting` event opens a lifecycle. -/
def ofStarting (starting : StartingEvent) (hport : starting.port = port)
    (hpolicy : starting.gracefulStop = graceful) : WholeLifecycle port graceful where
  starting := starting
  listening := ⟨starting.timestamp, starting.pid, port⟩
  stopping := none
  stopped := ⟨starting.timestamp, starting.pid⟩
  startingPort := hport
  policy := hpolicy
  listeningPort := rfl
  listeningPid := rfl
  stoppingPolicy := nofun
  stoppedPid := rfl

end WholeLifecycle

/-- The pid an error carries is the pid of the `starting` event before it, if any. -/
def ErrorFits (before : List LauncherEvent) (error : ErrorEvent) : Prop :=
  ∀ starting pid, .starting starting ∈ before → error.pid = some pid → pid = starting.pid

/-- The first events of a whole lifecycle, possibly cut short by an error. -/
def InLanguage (port : UInt16) (graceful : Bool) (events : List LauncherEvent) : Prop :=
  ∃ whole : WholeLifecycle port graceful, events <+: whole.events ∨
    ∃ before error, events = before ++ [.error error] ∧ before <+: whole.events ∧
      before ≠ whole.events ∧ ErrorFits before error

namespace LifecycleTracker

open WholeLifecycle

variable {port : UInt16} {graceful : Bool} {tracker next : LifecycleTracker}
  {events : List LauncherEvent} {pid : UInt32}

/-- A tracker that has seen nothing. -/
structure Fresh (port : UInt16) (graceful : Bool) (tracker : LifecycleTracker) : Prop where
  port : tracker.expectedPort = port
  policy : tracker.expectedGracefulStop = graceful
  state : tracker.state = .awaitingStart
  runtimePid : tracker.runtimePid = none

theorem fresh_of_new (hnew : new port graceful = .ok tracker) : Fresh port graceful tracker := by
  unfold new at hnew
  split at hnew
  · cases hnew
  · cases hnew
    exact ⟨rfl, rfl, rfl, rfl⟩

/-! ### Whole lifecycles are accepted -/

theorem run_whole (hfresh : Fresh port graceful tracker) (whole : WholeLifecycle port graceful) :
    ∃ next, Run Admits tracker whole.events next := by
  obtain ⟨rfl, rfl, hstate, -⟩ := hfresh
  have hstarting := Admits.starting whole.starting hstate whole.startingPort whole.policy
  have hlistening : Admits { tracker with
      runtimePid := some whole.starting.pid, state := .starting } (.listening whole.listening)
      { tracker with runtimePid := some whole.starting.pid, state := .listening } :=
    .listening whole.listening rfl whole.listeningPort (congrArg some whole.listeningPid.symm)
  have hpid : some whole.starting.pid = some whole.stopped.pid :=
    congrArg some whole.stoppedPid.symm
  rw [WholeLifecycle.events, opening]
  cases hstopping : whole.stopping with
  | none => exact ⟨_, .cons hstarting (.cons hlistening (.single (.stopped _ (.inl rfl) hpid)))⟩
  | some stopping =>
      have hpolicy := whole.stoppingPolicy (by rw [hstopping]; rfl)
      exact ⟨_, .cons hstarting (.cons hlistening (.cons (.stopping stopping rfl hpolicy)
        (.single (.stopped _ (.inr rfl) hpid))))⟩

theorem acceptsAll_of_inLanguage (hfresh : Fresh port graceful tracker)
    (hlanguage : InLanguage port graceful events) : tracker.acceptsAll events = true := by
  apply acceptsAll_iff_run.mpr
  obtain ⟨whole, ⟨rest, hrest⟩ | ⟨before, error, rfl, ⟨rest, hrest⟩, hproper, hfits⟩⟩ := hlanguage
  · obtain ⟨last, hrun⟩ := run_whole hfresh whole
    rw [← hrest] at hrun
    obtain ⟨middle, hfirst, -⟩ := hrun.split
    exact ⟨middle, hfirst⟩
  · obtain ⟨last, hrun⟩ := run_whole hfresh whole
    rw [← hrest] at hrun
    obtain ⟨middle, hfirst, hsecond⟩ := hrun.split
    -- another event was still to come, so the lifecycle was active
    have hactive : middle.state.isTerminal = false := by
      cases hsecond with
      | nil => exact absurd (by rw [← hrest, List.append_nil]) hproper
      | cons hstep _ => exact hstep.active
    refine ⟨_, hfirst.append (.single (.error error hactive ?_))⟩
    intro expected observed hexpected hobserved
    rcases runtimePid_of_run hfirst hexpected with hnone | ⟨starting, hmem, rfl⟩
    · rw [hfresh.runtimePid] at hnone
      cases hnone
    · exact (hfits starting observed hmem hobserved).symm

/-! ### Accepted sequences are in the language -/

/-- What may follow the events before `stopped`. -/
def Closing (pid : UInt32) (rest : List LauncherEvent) : Prop :=
  rest = [] ∨ (∃ stopped : StoppedEvent, stopped.pid = pid ∧ rest = [.stopped stopped]) ∨
    ∃ error : ErrorEvent, (∀ observed, error.pid = some observed → observed = pid) ∧
      rest = [.error error]

theorem run_of_terminal (hterminal : tracker.state.isTerminal = true)
    (hrun : Run Admits tracker events next) : events = [] := by
  cases hrun with
  | nil => rfl
  | cons hstep _ =>
      rw [hstep.active] at hterminal
      cases hterminal

theorem closing_of_run_stopping (hstate : tracker.state = .stopping)
    (hpid : tracker.runtimePid = some pid) (hrun : Run Admits tracker events next) :
    Closing pid events := by
  cases hrun with
  | nil => exact .inl rfl
  | cons hstep hrest =>
      cases hstep with
      | stopped event _ hstopped =>
          have hsame : pid = event.pid := Option.some.inj (hpid.symm.trans hstopped)
          exact .inr (.inl ⟨event, hsame.symm, by rw [run_of_terminal rfl hrest]⟩)
      | error event _ hfits =>
          refine .inr (.inr ⟨event, fun observed hobserved => ?_,
            by rw [run_of_terminal rfl hrest]⟩)
          exact (hfits pid observed hpid hobserved).symm
      | starting event hother => simp [hstate] at hother
      | listening event hother => simp [hstate] at hother
      | stopping event hother => simp [hstate] at hother

theorem closing_of_run_listening (hstate : tracker.state = .listening)
    (hpid : tracker.runtimePid = some pid) (hrun : Run Admits tracker events next) :
    Closing pid events ∨ tracker.expectedGracefulStop = true ∧
      ∃ stopping rest, events = .stopping stopping :: rest ∧ Closing pid rest := by
  cases hrun with
  | nil => exact .inl (.inl rfl)
  | cons hstep hrest =>
      cases hstep with
      | stopped event _ hstopped =>
          have hsame : pid = event.pid := Option.some.inj (hpid.symm.trans hstopped)
          exact .inl (.inr (.inl ⟨event, hsame.symm, by rw [run_of_terminal rfl hrest]⟩))
      | error event _ hfits =>
          refine .inl (.inr (.inr ⟨event, fun observed hobserved => ?_,
            by rw [run_of_terminal rfl hrest]⟩))
          exact (hfits pid observed hpid hobserved).symm
      | stopping event _ hpolicy =>
          exact .inr ⟨hpolicy, event, _, rfl,
            closing_of_run_stopping (by rfl) (by exact hpid) hrest⟩
      | starting event hother => simp [hstate] at hother
      | listening event hother => simp [hstate] at hother

/-- The events before `stopped`, and what may follow them. -/
theorem inLanguage_of_closing {rest : List LauncherEvent} (whole : WholeLifecycle port graceful)
    (hclosing : Closing whole.starting.pid rest) :
    InLanguage port graceful (whole.opening ++ rest) := by
  rcases hclosing with rfl | ⟨stopped, hpid, rfl⟩ | ⟨error, hfits, rfl⟩
  · exact ⟨whole, .inl (by rw [List.append_nil]; exact List.prefix_append _ _)⟩
  · exact ⟨{ whole with stopped := stopped, stoppedPid := hpid }, .inl (List.prefix_refl _)⟩
  · refine ⟨whole, .inr ⟨whole.opening, error, rfl, List.prefix_append _ _, ?_, ?_⟩⟩
    · exact fun hsame => absurd (congrArg List.length hsame) (by simp [WholeLifecycle.events])
    · intro starting pid hmem hpid
      have hstarting : starting = whole.starting := by
        cases hstopping : whole.stopping <;> simpa [opening, hstopping] using hmem
      rw [hstarting]
      exact hfits pid hpid

theorem inLanguage_of_run_starting (whole : WholeLifecycle port graceful)
    (hport : tracker.expectedPort = port) (hpolicy : tracker.expectedGracefulStop = graceful)
    (hstate : tracker.state = .starting) (hpid : tracker.runtimePid = some whole.starting.pid)
    (hrun : Run Admits tracker events next) :
    InLanguage port graceful (.starting whole.starting :: events) := by
  cases hrun with
  | nil => exact ⟨whole, .inl ⟨_, rfl⟩⟩
  | cons hstep hrest =>
      cases hstep with
      | listening event _ hlistening hsame =>
          have hsame : event.pid = whole.starting.pid := Option.some.inj (hsame.symm.trans hpid)
          rcases closing_of_run_listening (by rfl) (by exact hpid) hrest with
            hclosing | ⟨hgraceful, stopping, rest, rfl, hclosing⟩
          · exact inLanguage_of_closing { whole with
              listening := event, listeningPort := hlistening.trans hport, listeningPid := hsame,
              stopping := none, stoppingPolicy := nofun } hclosing
          · exact inLanguage_of_closing { whole with
              listening := event, listeningPort := hlistening.trans hport, listeningPid := hsame,
              stopping := some stopping, stoppingPolicy := fun _ => hpolicy.symm.trans hgraceful }
              hclosing
      | error event _ hfits =>
          refine ⟨whole, .inr ⟨[.starting whole.starting], event,
            by rw [run_of_terminal rfl hrest]; rfl,
            ⟨_, rfl⟩, ?_, ?_⟩⟩
          · exact fun hsame => absurd (congrArg List.length hsame)
              (by simp [WholeLifecycle.events, opening])
          · intro starting observed hmem hobserved
            obtain rfl : starting = whole.starting := by simpa using hmem
            exact (hfits _ _ hpid hobserved).symm
      | starting event hother => simp [hstate] at hother
      | stopping event hother => simp [hstate] at hother
      | stopped event hother => simp [hstate] at hother

theorem inLanguage_of_acceptsAll (hfresh : Fresh port graceful tracker)
    (haccepts : tracker.acceptsAll events = true) : InLanguage port graceful events := by
  obtain ⟨next, hrun⟩ := acceptsAll_iff_run.mp haccepts
  have hsome := WholeLifecycle.ofStarting ⟨"", 1, port, graceful⟩ rfl rfl
  cases hrun with
  | nil => exact ⟨hsome, .inl List.nil_prefix⟩
  | cons hstep hrest =>
      cases hstep with
      | starting event _ hport hpolicy =>
          exact inLanguage_of_run_starting (.ofStarting event (hport.trans hfresh.port)
            (hpolicy.trans hfresh.policy)) (by exact hfresh.port) (by exact hfresh.policy) (by rfl)
            (by rfl) hrest
      | error event _ hfits =>
          refine ⟨hsome, .inr ⟨[], event, by rw [run_of_terminal rfl hrest]; rfl, List.nil_prefix,
            ?_, nofun⟩⟩
          exact fun hsame => absurd (congrArg List.length hsame) (by simp [WholeLifecycle.events])
      | listening event hother => simp [hfresh.state] at hother
      | stopping event hother => simp [hfresh.state] at hother
      | stopped event hother => simp [hfresh.state] at hother

theorem acceptsAll_iff_inLanguage (hfresh : Fresh port graceful tracker) :
    tracker.acceptsAll events = true ↔ InLanguage port graceful events :=
  ⟨inLanguage_of_acceptsAll hfresh, acceptsAll_of_inLanguage hfresh⟩

/-! ### After the first event that is not accepted -/

/-- Before the first event the tracker knows no pid. -/
theorem observe_runtimePid (hawaiting : tracker.state = .awaitingStart → tracker.runtimePid = none)
    (hpid : tracker.runtimePid = some pid) (event : LauncherEvent) :
    (tracker.observe event).2.runtimePid = some pid := by
  by_cases hadmits : ∃ next, Admits tracker event next
  · obtain ⟨next, hadmits⟩ := hadmits
    obtain ⟨state, hobserve⟩ := observe_ok_iff_admits.mpr hadmits
    rw [hobserve]
    cases hadmits with
    | starting event hstate =>
        rw [hawaiting hstate] at hpid
        cases hpid
    | listening event => exact hpid
    | stopping event => exact hpid
    | stopped event => exact hpid
    | error event => exact hpid
  · rw [observe_rejected (not_exists.mp hadmits)]
    split
    · exact hpid
    · exact hpid

theorem observe_awaiting (hawaiting : tracker.state = .awaitingStart → tracker.runtimePid = none)
    (event : LauncherEvent) : (tracker.observe event).2.state = .awaitingStart →
      (tracker.observe event).2.runtimePid = none := by
  by_cases hadmits : ∃ next, Admits tracker event next
  · obtain ⟨next, hadmits⟩ := hadmits
    obtain ⟨state, hobserve⟩ := observe_ok_iff_admits.mpr hadmits
    rw [hobserve]
    cases hadmits <;> nofun
  · rw [observe_rejected (not_exists.mp hadmits)]
    split
    · exact hawaiting
    · nofun

theorem after_awaiting (hawaiting : tracker.state = .awaitingStart → tracker.runtimePid = none) :
    (tracker.after events).state = .awaitingStart → (tracker.after events).runtimePid = none := by
  induction events generalizing tracker with
  | nil => exact hawaiting
  | cons event rest ih => exact ih (observe_awaiting hawaiting event)

/-- A rejection leaves a terminal tracker. -/
theorem isTerminal_of_rejected (hrejected : tracker.acceptsAll events = false) :
    (tracker.after events).state.isTerminal = true := by
  induction events generalizing tracker with
  | nil => cases hrejected
  | cons event rest ih =>
      rw [acceptsAll] at hrejected
      rw [after]
      split at hrejected
      next state next hobserve =>
        rw [hobserve]
        exact ih hrejected
      next error next hobserve =>
        have hnot : ∀ admitted, ¬Admits tracker event admitted := by
          intro admitted hadmits
          obtain ⟨state, hok⟩ := observe_ok_iff_admits.mpr hadmits
          rw [hobserve] at hok
          cases hok
        have hterminal : (tracker.observe event).2.state.isTerminal = true := by
          rw [observe_rejected hnot]
          split
          next hterminal => exact hterminal
          next => rfl
        rwa [after_of_terminal hterminal]

/-- A run that contains `stopped` ends with it, and one that does not is not stopped. -/
theorem stopped_iff_of_run (hrun : Run Admits tracker events next)
    (hstate : tracker.state ≠ .stopped) :
    next.state = .stopped ↔ ∃ stopped, .stopped stopped ∈ events := by
  induction hrun with
  | nil => simp [hstate]
  | cons hstep hrest ih =>
      cases hstep with
      | stopped event =>
          have hnil := run_of_terminal rfl hrest
          subst hnil
          cases hrest
          simp
      | starting event => simpa using ih nofun
      | listening event => simpa using ih nofun
      | stopping event => simpa using ih nofun
      | error event => simpa using ih nofun

theorem failed_of_mem_error (hrun : Run Admits tracker events next) {error : ErrorEvent}
    (hmem : .error error ∈ events) : next.state = .failed := by
  induction hrun with
  | nil => cases hmem
  | cons hstep hrest ih =>
      rcases List.mem_cons.mp hmem with rfl | hmem
      · cases hstep with
        | error event =>
            have hnil := run_of_terminal rfl hrest
            subst hnil
            cases hrest
            rfl
      · exact ih hmem

/-- A stopped tracker has accepted one whole lifecycle. -/
theorem events_of_stopped (hfresh : Fresh port graceful tracker)
    (haccepts : tracker.acceptsAll events = true)
    (hstate : (tracker.after events).state = .stopped) :
    ∃ whole : WholeLifecycle port graceful, events = whole.events := by
  have hrun := run_after haccepts
  have hactive : tracker.state ≠ .stopped := by rw [hfresh.state]; nofun
  obtain ⟨stopped, hmem⟩ := (stopped_iff_of_run hrun hactive).mp hstate
  obtain ⟨whole, hleads | ⟨before, error, rfl, -⟩⟩ := inLanguage_of_acceptsAll hfresh haccepts
  · rcases List.prefix_concat_iff.mp hleads with hwhole | hopening
    · exact ⟨whole, hwhole⟩
    · have hnot : .stopped stopped ∉ whole.opening := by
        cases hstopping : whole.stopping <;> simp [opening, hstopping]
      exact absurd (hopening.subset hmem) hnot
  · have hfailed := failed_of_mem_error hrun (List.mem_append_right _ List.mem_cons_self)
    rw [hstate] at hfailed
    cases hfailed

/-- The tracker of one port and policy accepts exactly the language of their lifecycles.
Its pid never changes, the first rejected event fails it unless it had stopped, and
it accepts nothing after `stopped`, an error or a rejection. -/
theorem accepts_exactly_the_language (hnew : new port graceful = .ok tracker) :
    (∀ events, tracker.acceptsAll events = true ↔ InLanguage port graceful events) ∧
    (∀ events event pid, (tracker.after events).runtimePid = some pid →
      (tracker.after (events ++ [event])).runtimePid = some pid) ∧
    (∀ events event, tracker.acceptsAll events = true →
      tracker.acceptsAll (events ++ [event]) = false →
        ((∃ stopped, .stopped stopped ∈ events) ∧
          (tracker.after (events ++ [event])).state = .stopped) ∨
        ((∀ stopped, .stopped stopped ∉ events) ∧
          (tracker.after (events ++ [event])).state = .failed)) ∧
    (∀ events event, (∃ stopped, .stopped stopped ∈ events) ∨ (∃ error, .error error ∈ events) ∨
        tracker.acceptsAll events = false →
      (tracker.after events).observe event =
        (.error .eventAfterTerminalState, tracker.after events)) := by
  have hfresh := fresh_of_new hnew
  have hactive : tracker.state ≠ .stopped := by rw [hfresh.state]; nofun
  refine ⟨fun events => acceptsAll_iff_inLanguage hfresh, ?_, ?_, ?_⟩
  · intro events event pid hpid
    rw [after_append]
    exact observe_runtimePid (after_awaiting fun _ => hfresh.runtimePid) hpid event
  · intro events event haccepts hrejected
    have hrun := run_after haccepts
    -- a longer run would make the longer list an accepted one
    have hnot : ∀ next, ¬Admits (tracker.after events) event next := by
      intro next hadmits
      rw [acceptsAll_iff_run.mpr ⟨next, hrun.append (.single hadmits)⟩] at hrejected
      cases hrejected
    have hlast : tracker.after (events ++ [event]) = ((tracker.after events).observe event).2 := by
      rw [after_append]
      rfl
    have hstopped := stopped_iff_of_run hrun hactive
    rw [hlast, observe_rejected hnot]
    by_cases hmem : ∃ stopped, .stopped stopped ∈ events
    · rw [if_pos (by rw [hstopped.mpr hmem]; rfl)]
      exact .inl ⟨hmem, hstopped.mpr hmem⟩
    · refine .inr ⟨not_exists.mp hmem, ?_⟩
      split
      next hterminal =>
        cases hstate : (tracker.after events).state with
        | failed => rfl
        | stopped => exact absurd (hstopped.mp hstate) hmem
        | _ => simp [hstate, LifecycleState.isTerminal] at hterminal
      next => rfl
  · intro events event hended
    apply observe_of_terminal
    by_cases haccepts : tracker.acceptsAll events = true
    · have hrun := run_after haccepts
      rcases hended with hmem | ⟨error, hmem⟩ | hrejected
      · rw [(stopped_iff_of_run hrun hactive).mpr hmem]
        rfl
      · rw [failed_of_mem_error hrun hmem]
        rfl
      · rw [haccepts] at hrejected
        cases hrejected
    · exact isTerminal_of_rejected (Bool.eq_false_iff.mpr haccepts)

/-! ### One port -/

section Fixture

def fixtureTracker : LifecycleTracker := ⟨8765, true, .awaitingStart, none⟩

theorem accepts_exactly_the_language_fixture :
    (∀ events, fixtureTracker.acceptsAll events = true ↔ InLanguage 8765 true events) ∧
    (∀ events event pid, (fixtureTracker.after events).runtimePid = some pid →
      (fixtureTracker.after (events ++ [event])).runtimePid = some pid) :=
  ⟨(accepts_exactly_the_language (show new 8765 true = .ok fixtureTracker from rfl)).1,
    (accepts_exactly_the_language (show new 8765 true = .ok fixtureTracker from rfl)).2.1⟩

def stoppedLifecycle : List LauncherEvent :=
  [.starting ⟨"1", 73, 8765, true⟩, .listening ⟨"2", 73, 8765⟩, .stopped ⟨"3", 73⟩]

/-- An event after `stopped` is the first one rejected, and leaves the tracker stopped. -/
theorem rejected_after_stopped :
    ¬∀ events event, fixtureTracker.acceptsAll events = true →
      fixtureTracker.acceptsAll (events ++ [event]) = false →
        (fixtureTracker.after (events ++ [event])).state = .failed := by
  intro hfailed
  have hstate := hfailed stoppedLifecycle (.stopping ⟨"4"⟩) (by decide) (by decide)
  exact absurd hstate (by decide)

end Fixture

end LifecycleTracker

end Rpackit.Launcher
