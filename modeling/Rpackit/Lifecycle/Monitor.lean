import Rpackit.Launcher.Protocol

/-! # The monitor threads

One thread decodes and tracks the standard output of the launcher and sends what
it sees over a channel; another drains standard error. Both stop at the first
failure, so the channel carries a tracked sequence of events and at most one
message after it.
-/

namespace Rpackit.Lifecycle

open Text Launcher

inductive MonitorEvent where
  | starting (pid : UInt32)
  | listening (pid : UInt32)
  | stopping
  | stopped (pid : UInt32)
  | launcherFailed (phase : ErrorPhase)
  deriving DecidableEq, Repr

inductive MonitorMessage where
  | event (state : LifecycleState) (event : MonitorEvent)
  | protocolFailure (error : ProtocolError)
  | stdoutReadFailure
  | stdoutEnded (state : LifecycleState) (ignoredLines : Nat)
  | stderrReadFailure
  deriving DecidableEq, Repr

/-- One answer of a pipe read; an empty chunk is the end of the stream. -/
inductive PipeRead where
  | chunk (bytes : Bytes)
  | failed
  deriving DecidableEq, Repr

def MonitorEvent.ofLauncher : LauncherEvent → MonitorEvent
  | .starting event => .starting event.pid
  | .listening event => .listening event.pid
  | .stopping _ => .stopping
  | .stopped event => .stopped event.pid
  | .error event => .launcherFailed event.phase

/-- The messages for the events of one chunk, and the tracker unless one was refused. -/
def trackEvents (tracker : LifecycleTracker) :
    List LauncherEvent → List MonitorMessage × Option LifecycleTracker
  | [] => ([], some tracker)
  | event :: rest =>
      match tracker.observe event with
      | (.error error, _) => ([.protocolFailure error], none)
      | (.ok state, next) =>
          let tracked := trackEvents next rest
          (.event state (.ofLauncher event) :: tracked.1, tracked.2)

/-- The read loop. After the last read the thread is blocked and sends nothing more. -/
def monitorReads (json : JsonDecoder) (decoder : EventDecoder) (tracker : LifecycleTracker) :
    List PipeRead → List MonitorMessage
  | [] => []
  | .failed :: _ => [.stdoutReadFailure]
  | .chunk [] :: _ =>
      match decoder.finish with
      | .error error => [.protocolFailure error]
      | .ok () => [.stdoutEnded tracker.state decoder.ignoredLines]
  | .chunk (byte :: bytes) :: rest =>
      match decoder.push json (byte :: bytes) with
      | (.error error, _) => [.protocolFailure error]
      | (.ok events, next) =>
          match trackEvents tracker events with
          | (messages, none) => messages
          | (messages, some tracked) => messages ++ monitorReads json next tracked rest

/-- Everything the stdout thread sends while the owner listens. -/
def monitorStdout (json : JsonDecoder) (expectedPort : UInt16) (reads : List PipeRead) :
    List MonitorMessage :=
  match LifecycleTracker.new expectedPort true with
  | .error error => [.protocolFailure error]
  | .ok tracker => monitorReads json .withDefaultLimit tracker reads

/-- What the stderr thread sends, and the bytes it discards. -/
def drainStderr (total : Nat) : List PipeRead → List MonitorMessage × Nat
  | [] => ([], total)
  | .failed :: _ => ([.stderrReadFailure], total)
  | .chunk [] :: _ => ([], total)
  | .chunk (byte :: bytes) :: rest =>
      drainStderr (min (total + (byte :: bytes).length) (2 ^ 64 - 1)) rest

/-! ## Tracked events -/

/-- The events the decoder hands to the tracker. -/
def decodedEvents (json : JsonDecoder) (decoder : EventDecoder) :
    List PipeRead → List LauncherEvent
  | .chunk (byte :: bytes) :: rest =>
      match decoder.push json (byte :: bytes) with
      | (.error _, _) => []
      | (.ok events, next) => events ++ decodedEvents json next rest
  | _ => []

/-- Messages for the first events of a sequence, each admitted by the tracker. -/
inductive Tracked : LifecycleTracker → List LauncherEvent → List MonitorMessage → Prop
  | nil (tracker : LifecycleTracker) (events : List LauncherEvent) : Tracked tracker events []
  | cons {tracker next : LifecycleTracker} {event : LauncherEvent} {state : LifecycleState}
      {events : List LauncherEvent} {messages : List MonitorMessage}
      (hobserve : tracker.observe event = (.ok state, next))
      (hrest : Tracked next events messages) :
      Tracked tracker (event :: events) (.event state (.ofLauncher event) :: messages)

def MonitorMessage.isEvent : MonitorMessage → Bool
  | .event _ _ => true
  | _ => false

/-- Messages of a chunk, followed by messages that continue from its tracker. -/
theorem tracked_of_trackEvents {tracker : LifecycleTracker} {events later : List LauncherEvent}
    {received rest : List MonitorMessage}
    (hleads : received <+: (trackEvents tracker events).1 ++ rest)
    (hevents : ∀ message ∈ received, message.isEvent = true)
    (hrest : ∀ next tail, (trackEvents tracker events).2 = some next → tail <+: rest →
      (∀ message ∈ tail, message.isEvent = true) → Tracked next later tail)
    (hnone : (trackEvents tracker events).2 = none → rest = []) :
    Tracked tracker (events ++ later) received := by
  induction events generalizing tracker received with
  | nil => exact hrest tracker received rfl hleads hevents
  | cons event events ih =>
      cases received with
      | nil => exact .nil _ _
      | cons message received =>
          have hevent := hevents message List.mem_cons_self
          rcases hobserve : tracker.observe event with ⟨error | state, next⟩
          · simp only [trackEvents, hobserve] at hleads
            obtain ⟨rfl, -⟩ := List.cons_prefix_cons.mp hleads
            cases hevent
          · simp only [trackEvents, hobserve] at hleads hrest hnone
            obtain ⟨rfl, htail⟩ := List.cons_prefix_cons.mp hleads
            exact .cons hobserve (ih htail
              (fun message hmem => hevents message (List.mem_cons_of_mem _ hmem)) hrest hnone)

/-- Every prefix of the messages that consists of events is tracked. -/
theorem tracked_of_monitorReads {json : JsonDecoder} {decoder : EventDecoder}
    {tracker : LifecycleTracker} {reads : List PipeRead} {received : List MonitorMessage}
    (hleads : received <+: monitorReads json decoder tracker reads)
    (hevents : ∀ message ∈ received, message.isEvent = true) :
    Tracked tracker (decodedEvents json decoder reads) received := by
  -- a last message is no event, so nothing of it is among the received ones
  have hsingle : ∀ {tracker events message received},
      received <+: [message] → message.isEvent = false →
      (∀ message ∈ received, message.isEvent = true) → Tracked tracker events received := by
    intro tracker events message received hleads hmessage hevents
    cases received with
    | nil => exact .nil _ _
    | cons first rest =>
        obtain ⟨rfl, -⟩ := List.cons_prefix_cons.mp hleads
        rw [hevents _ List.mem_cons_self] at hmessage
        cases hmessage
  induction reads generalizing decoder tracker received with
  | nil =>
      rw [List.prefix_nil.mp hleads]
      exact .nil _ _
  | cons read reads ih =>
      match read with
      | .failed => exact hsingle hleads rfl hevents
      | .chunk [] =>
          unfold monitorReads at hleads
          split at hleads
          · exact hsingle hleads rfl hevents
          · exact hsingle hleads rfl hevents
      | .chunk (byte :: bytes) =>
          rcases hpush : decoder.push json (byte :: bytes) with ⟨error | events, next⟩
          · simp only [monitorReads, hpush] at hleads
            exact hsingle hleads rfl hevents
          · simp only [monitorReads, decodedEvents, hpush] at hleads ⊢
            rcases htracked : trackEvents tracker events with ⟨messages, _ | tracked⟩
            · simp only [htracked] at hleads
              have hlast : received <+: (trackEvents tracker events).1 ++ [] := by
                rwa [htracked, List.append_nil]
              refine tracked_of_trackEvents hlast hevents ?_ fun _ => rfl
              rw [htracked]
              nofun
            · simp only [htracked] at hleads
              have hmore : received <+: (trackEvents tracker events).1 ++
                  monitorReads json next tracked reads := by rwa [htracked]
              refine tracked_of_trackEvents hmore hevents ?_ ?_
              · rw [htracked]
                rintro _ tail ⟨⟩ htail hall
                exact ih htail hall
              · rw [htracked]
                nofun

/-- The messages that leave the owner waiting or listening. -/
def MonitorMessage.isStartup : MonitorMessage → Bool
  | .event _ (.starting _) => true
  | .event _ (.listening _) => true
  | _ => false

theorem MonitorMessage.isEvent_of_isStartup {message : MonitorMessage}
    (hstartup : message.isStartup = true) : message.isEvent = true := by
  cases message with
  | event => rfl
  | _ => cases hstartup

theorem ofLauncher_startup {state : LifecycleState} {event : LauncherEvent}
    (hstartup : (MonitorMessage.event state (.ofLauncher event)).isStartup = true) :
    (∃ starting, event = .starting starting) ∨ ∃ listening, event = .listening listening := by
  cases event with
  | starting event => exact .inl ⟨event, rfl⟩
  | listening event => exact .inr ⟨event, rfl⟩
  | _ => cases hstartup

/-- A listening lifecycle has no further startup message. -/
theorem Tracked.startup_listening {tracker : LifecycleTracker} {events : List LauncherEvent}
    {received : List MonitorMessage} (htracked : Tracked tracker events received)
    (hstate : tracker.state = .listening)
    (hstartup : ∀ message ∈ received, message.isStartup = true) : received = [] := by
  cases htracked with
  | nil => rfl
  | cons hobserve hrest =>
      obtain ⟨event, rfl⟩ | ⟨event, rfl⟩ := ofLauncher_startup (hstartup _ List.mem_cons_self)
      · rw [(LifecycleTracker.observe_starting hobserve).1] at hstate
        cases hstate
      · rw [(LifecycleTracker.observe_listening hobserve).1] at hstate
        cases hstate

/-- After the start the only startup message is the `listening` event of the process. -/
theorem Tracked.startup_starting {tracker : LifecycleTracker} {events : List LauncherEvent}
    {received : List MonitorMessage} (htracked : Tracked tracker events received)
    (hstate : tracker.state = .starting)
    (hstartup : ∀ message ∈ received, message.isStartup = true) :
    received = [] ∨ ∃ listening later, events = .listening listening :: later ∧
      listening.port = tracker.expectedPort ∧ tracker.runtimePid = some listening.pid ∧
      received = [.event .listening (.listening listening.pid)] := by
  cases htracked with
  | nil => exact .inl rfl
  | cons hobserve hrest =>
      obtain ⟨event, rfl⟩ | ⟨event, rfl⟩ := ofLauncher_startup (hstartup _ List.mem_cons_self)
      · rw [(LifecycleTracker.observe_starting hobserve).1] at hstate
        cases hstate
      · obtain ⟨-, hport, hpid, rfl⟩ := LifecycleTracker.observe_listening hobserve
        have hnil := hrest.startup_listening rfl fun message hmem =>
          hstartup message (List.mem_cons_of_mem _ hmem)
        obtain ⟨-, -, rfl⟩ := LifecycleTracker.observe_eq_ok_iff.mp hobserve
        exact .inr ⟨event, _, rfl, hport, hpid, by rw [hnil]; rfl⟩

/-- The startup messages of one launcher: its first two events, for the expected
port and one process. -/
theorem startup_messages {json : JsonDecoder} {port : UInt16} {reads : List PipeRead}
    {received : List MonitorMessage} (hleads : received <+: monitorStdout json port reads)
    (hstartup : ∀ message ∈ received, message.isStartup = true)
    {pid : UInt32} {state : LifecycleState}
    (hlistening : .event state (.listening pid) ∈ received) :
    ∃ starting listening later,
      decodedEvents json .withDefaultLimit reads =
        .starting starting :: .listening listening :: later ∧
      starting.port = port ∧ listening.port = port ∧ starting.pid = pid ∧ listening.pid = pid ∧
      received = [.event .starting (.starting pid), .event .listening (.listening pid)] := by
  have hevents : ∀ message ∈ received, message.isEvent = true := fun message hmem =>
    MonitorMessage.isEvent_of_isStartup (hstartup message hmem)
  unfold monitorStdout LifecycleTracker.new at hleads
  split at hleads
  next error herror =>
    -- port zero: the only message is a failure
    have hmessage := List.mem_singleton.mp (hleads.subset hlistening)
    cases hmessage
  next tracker htracker =>
    have htracked := tracked_of_monitorReads hleads hevents
    split at htracker
    · cases htracker
    cases htracker
    generalize decodedEvents json .withDefaultLimit reads = events at htracked ⊢
    cases htracked with
    | nil => cases hlistening
    | cons hobserve hrest =>
        obtain ⟨starting, rfl⟩ | ⟨event, rfl⟩ :=
          ofLauncher_startup (hstartup _ List.mem_cons_self)
        · obtain ⟨-, hport, rfl⟩ := LifecycleTracker.observe_starting hobserve
          obtain ⟨-, -, rfl⟩ := LifecycleTracker.observe_eq_ok_iff.mp hobserve
          obtain rfl | ⟨listening, later, rfl, hlisteningPort, hpid, rfl⟩ :=
            hrest.startup_starting rfl fun message hmem =>
              hstartup message (List.mem_cons_of_mem _ hmem)
          · cases List.mem_singleton.mp hlistening
          · have hsame : starting.pid = listening.pid := Option.some.inj hpid
            rcases List.mem_pair.mp hlistening with hstarting | hmessage
            · cases hstarting
            · cases hmessage
              exact ⟨starting, listening, later, rfl, hport, hlisteningPort, hsame, rfl, by
                rw [← hsame]; rfl⟩
        · cases (LifecycleTracker.observe_listening hobserve).1

end Rpackit.Lifecycle
