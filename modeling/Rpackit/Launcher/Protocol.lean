import Rpackit.Library.Fallible
import Rpackit.Library.Text

/-! # Launcher protocol 2

The R launcher writes newline-delimited JSON to standard output. Only lines with
the exact event prefix are protocol input; every line is bounded. The tracker
admits one sequence of events for one port.
-/

namespace Rpackit.Launcher

open Text Fallible

/-! ## Events -/

structure StartingEvent where
  timestamp : String
  pid : UInt32
  port : UInt16
  gracefulStop : Bool
  deriving DecidableEq, Repr

structure ListeningEvent where
  timestamp : String
  pid : UInt32
  port : UInt16
  deriving DecidableEq, Repr

structure StoppingEvent where
  timestamp : String
  deriving DecidableEq, Repr

structure StoppedEvent where
  timestamp : String
  pid : UInt32
  deriving DecidableEq, Repr

inductive ErrorPhase where
  | bootstrap
  | arguments
  | token
  | app
  | runtime
  deriving DecidableEq, Repr

structure ErrorEvent where
  timestamp : Option String
  phase : ErrorPhase
  message : String
  pid : Option UInt32
  deriving DecidableEq, Repr

/-- A validated protocol-2 launcher event. -/
inductive LauncherEvent where
  | starting (event : StartingEvent)
  | listening (event : ListeningEvent)
  | stopping (event : StoppingEvent)
  | stopped (event : StoppedEvent)
  | error (event : ErrorEvent)
  deriving DecidableEq, Repr

inductive ProtocolError where
  | zeroLineLimit
  | lineTooLong
  | truncatedLine
  | decoderPoisoned
  | invalidJson
  | unsupportedProtocolVersion
  | unknownEvent
  | invalidEventShape
  | invalidExpectedPort
  | unexpectedPort
  | runtimePidChanged
  | gracefulStopMismatch
  | unexpectedEventSequence
  | eventAfterTerminalState
  deriving DecidableEq, Repr

/-! ## Parsing one event -/

/-- The JSON object of one event line; unknown fields do not parse. -/
structure RawEvent where
  protocolVersion : String
  event : String
  timestamp : Option String
  pid : Option UInt32
  host : Option String
  port : Option UInt16
  tokenEnforced : Option Bool
  gracefulStop : Option Bool
  reason : Option String
  phase : Option String
  message : Option String
  deriving DecidableEq, Repr

def maxTimestampBytes : Nat := 128
def maxMessageBytes : Nat := 4 * 1024

def requireNoFields (fields : List Bool) : Except ProtocolError Unit :=
  rejectIf (fields.any id) .invalidEventShape

def requireLoopbackAuthentication (host : Option String) (tokenEnforced : Option Bool) :
    Except ProtocolError Unit :=
  rejectIf (host != some "127.0.0.1" || tokenEnforced != some true) .invalidEventShape

def validateTimestamp (timestamp : String) : Except ProtocolError String := do
  rejectIf (timestamp.isEmpty || timestamp.utf8ByteSize > maxTimestampBytes
    || timestamp.toList.any isControl) .invalidEventShape
  return timestamp

def requireTimestamp (timestamp : Option String) : Except ProtocolError String := do
  let present ← okOr timestamp .invalidEventShape
  validateTimestamp present

def validatePid (pid : UInt32) : Except ProtocolError UInt32 := do
  rejectIf (pid == 0) .invalidEventShape
  return pid

def requirePid (pid : Option UInt32) : Except ProtocolError UInt32 := do
  let present ← okOr pid .invalidEventShape
  validatePid present

def requirePort (port : Option UInt16) : Except ProtocolError UInt16 := do
  let present ← okOr port .invalidEventShape
  rejectIf (present == 0) .invalidEventShape
  return present

def parseErrorPhase : Option String → Except ProtocolError ErrorPhase
  | some "bootstrap" => .ok .bootstrap
  | some "arguments" => .ok .arguments
  | some "token" => .ok .token
  | some "app" => .ok .app
  | some "runtime" => .ok .runtime
  | _ => .error .invalidEventShape

def sanitizeMessage (message : String) : Except ProtocolError String := do
  rejectIf (message.isEmpty || message.utf8ByteSize > maxMessageBytes) .invalidEventShape
  let sanitized := trimScalars (message.toList.map fun c => if isControl c then ' ' else c)
  rejectIf (sanitized == []) .invalidEventShape
  return String.ofList sanitized

/-- The timestamp of an error event may be missing for the bootstrap failure only. -/
def errorTimestamp (raw : RawEvent) (phase : ErrorPhase) : Except ProtocolError (Option String) :=
  match raw.timestamp with
  | some value => do
      let timestamp ← validateTimestamp value
      return some timestamp
  | none => if phase = .bootstrap ∧ raw.pid = none then .ok none else .error .invalidEventShape

def parseEvent (raw : RawEvent) : Except ProtocolError LauncherEvent := do
  rejectIf (raw.protocolVersion != "2") .unsupportedProtocolVersion
  match raw.event with
  | "starting" =>
      requireNoFields [raw.reason.isSome, raw.phase.isSome, raw.message.isSome]
      requireLoopbackAuthentication raw.host raw.tokenEnforced
      let timestamp ← requireTimestamp raw.timestamp
      let pid ← requirePid raw.pid
      let port ← requirePort raw.port
      let gracefulStop ← okOr raw.gracefulStop .invalidEventShape
      return .starting ⟨timestamp, pid, port, gracefulStop⟩
  | "listening" =>
      requireNoFields [raw.gracefulStop.isSome, raw.reason.isSome, raw.phase.isSome,
        raw.message.isSome]
      requireLoopbackAuthentication raw.host raw.tokenEnforced
      let timestamp ← requireTimestamp raw.timestamp
      let pid ← requirePid raw.pid
      let port ← requirePort raw.port
      return .listening ⟨timestamp, pid, port⟩
  | "stopping" =>
      requireNoFields [raw.pid.isSome, raw.host.isSome, raw.port.isSome,
        raw.tokenEnforced.isSome, raw.gracefulStop.isSome, raw.phase.isSome, raw.message.isSome]
      rejectIf (raw.reason != some "control-file") .invalidEventShape
      let timestamp ← requireTimestamp raw.timestamp
      return .stopping ⟨timestamp⟩
  | "stopped" =>
      requireNoFields [raw.host.isSome, raw.port.isSome, raw.tokenEnforced.isSome,
        raw.gracefulStop.isSome, raw.reason.isSome, raw.phase.isSome, raw.message.isSome]
      let timestamp ← requireTimestamp raw.timestamp
      let pid ← requirePid raw.pid
      return .stopped ⟨timestamp, pid⟩
  | "error" =>
      requireNoFields [raw.host.isSome, raw.port.isSome, raw.tokenEnforced.isSome,
        raw.gracefulStop.isSome, raw.reason.isSome]
      let phase ← parseErrorPhase raw.phase
      let timestamp ← errorTimestamp raw phase
      let text ← okOr raw.message .invalidEventShape
      let message ← sanitizeMessage text
      let pid ← raw.pid.mapM validatePid
      return .error ⟨timestamp, phase, message, pid⟩
  | _ => throw .unknownEvent

/-! ## Decoding standard output -/

def eventPrefix : Bytes := asBytes "RPACKIT_EVENT "

def defaultMaxLineBytes : Nat := 16 * 1024

/-- What `serde_json` makes of the text after the prefix. -/
abbrev JsonDecoder := Bytes → Option RawEvent

/-- A line without its line feed; `none` for a line that is not protocol input. -/
def decodeLine (json : JsonDecoder) (line : Bytes) : Except ProtocolError (Option LauncherEvent) :=
  let text := if line.getLast? = some carriageReturn then line.dropLast else line
  if ¬eventPrefix.isPrefixOf text then .ok none
  else do
    let payload := text.drop eventPrefix.length
    rejectIf (payload == []) .invalidJson
    let raw ← okOr (json payload) .invalidJson
    let event ← parseEvent raw
    return some event

/-- Streaming bounded decoder for launcher standard output. -/
structure EventDecoder where
  buffer : Bytes
  maximumLineBytes : Nat
  poisoned : Bool
  ignoredLines : Nat
  deriving DecidableEq, Repr

namespace EventDecoder

def withDefaultLimit : EventDecoder := ⟨[], defaultMaxLineBytes, false, 0⟩

/-- The byte loop of `push`, with the events it has decoded so far. -/
def pushBytes (json : JsonDecoder) (decoder : EventDecoder) (events : List LauncherEvent) :
    Bytes → Except ProtocolError (List LauncherEvent) × EventDecoder
  | [] => (.ok events, decoder)
  | byte :: rest =>
      if byte = lineFeed then
        let taken := { decoder with buffer := [] }
        match decodeLine json decoder.buffer with
        | .ok (some event) => pushBytes json taken (events ++ [event]) rest
        | .ok none =>
            pushBytes json
              { taken with ignoredLines := min (decoder.ignoredLines + 1) (2 ^ 64 - 1) } events rest
        | .error error => (.error error, { taken with poisoned := true })
      else if decoder.buffer.length ≥ decoder.maximumLineBytes then
        (.error .lineTooLong, { decoder with buffer := [], poisoned := true })
      else pushBytes json { decoder with buffer := decoder.buffer ++ [byte] } events rest

def push (json : JsonDecoder) (decoder : EventDecoder) (bytes : Bytes) :
    Except ProtocolError (List LauncherEvent) × EventDecoder :=
  if decoder.poisoned then (.error .decoderPoisoned, decoder)
  else pushBytes json decoder [] bytes

def finish (decoder : EventDecoder) : Except ProtocolError Unit :=
  if decoder.poisoned then .error .decoderPoisoned
  else if decoder.buffer = [] then .ok () else .error .truncatedLine

end EventDecoder

/-! ## The lifecycle -/

inductive LifecycleState where
  | awaitingStart
  | starting
  | listening
  | stopping
  | stopped
  | failed
  deriving DecidableEq, Repr

def LifecycleState.isTerminal : LifecycleState → Bool
  | .stopped => true
  | .failed => true
  | _ => false

/-- Sequence validator tied to one expected port and control-file policy. -/
structure LifecycleTracker where
  expectedPort : UInt16
  expectedGracefulStop : Bool
  state : LifecycleState
  runtimePid : Option UInt32
  deriving DecidableEq, Repr

namespace LifecycleTracker

def new (expectedPort : UInt16) (expectedGracefulStop : Bool) :
    Except ProtocolError LifecycleTracker :=
  if expectedPort = 0 then .error .invalidExpectedPort
  else .ok ⟨expectedPort, expectedGracefulStop, .awaitingStart, none⟩

/-- The tracker an admitted event leaves. -/
def observeActive (tracker : LifecycleTracker) (event : LauncherEvent) :
    Except ProtocolError LifecycleTracker :=
  match tracker.state, event with
  | _, .error error =>
      match tracker.runtimePid, error.pid with
      | some expected, some observed =>
          if expected = observed then .ok { tracker with state := .failed }
          else .error .runtimePidChanged
      | _, _ => .ok { tracker with state := .failed }
  | .awaitingStart, .starting starting => do
      rejectIf (starting.port != tracker.expectedPort) .unexpectedPort
      rejectIf (starting.gracefulStop != tracker.expectedGracefulStop) .gracefulStopMismatch
      return { tracker with runtimePid := some starting.pid, state := .starting }
  | .starting, .listening listening => do
      rejectIf (listening.port != tracker.expectedPort) .unexpectedPort
      rejectIf (tracker.runtimePid != some listening.pid) .runtimePidChanged
      return { tracker with state := .listening }
  | .listening, .stopping _ => do
      rejectIf (!tracker.expectedGracefulStop) .gracefulStopMismatch
      return { tracker with state := .stopping }
  | .listening, .stopped stopped => do
      rejectIf (tracker.runtimePid != some stopped.pid) .runtimePidChanged
      return { tracker with state := .stopped }
  | .stopping, .stopped stopped => do
      rejectIf (tracker.runtimePid != some stopped.pid) .runtimePidChanged
      return { tracker with state := .stopped }
  | _, _ => throw .unexpectedEventSequence

/-- The state of an admitted event and the tracker after it. -/
def observe (tracker : LifecycleTracker) (event : LauncherEvent) :
    Except ProtocolError LifecycleState × LifecycleTracker :=
  if tracker.state.isTerminal then (.error .eventAfterTerminalState, tracker)
  else
    match tracker.observeActive event with
    | .ok next => (.ok next.state, next)
    | .error error => (.error error, { tracker with state := .failed })

theorem observe_eq_ok_iff {tracker next : LifecycleTracker} {event : LauncherEvent}
    {state : LifecycleState} :
    tracker.observe event = (.ok state, next) ↔
      tracker.state.isTerminal = false ∧ tracker.observeActive event = .ok next ∧
        state = next.state := by
  unfold observe
  split
  next hterminal => simp [hterminal]
  next hactive =>
    rw [Bool.not_eq_true] at hactive
    split
    next admitted hadmitted =>
      simp only [hactive, hadmitted, Prod.mk.injEq, Except.ok.injEq, true_and]
      constructor
      · rintro ⟨rfl, rfl⟩
        exact ⟨rfl, rfl⟩
      · rintro ⟨rfl, rfl⟩
        exact ⟨rfl, rfl⟩
    next error herror => simp [herror]

/-- Only the expected `starting` event opens a lifecycle. -/
theorem observe_starting {tracker next : LifecycleTracker} {event : StartingEvent}
    {state : LifecycleState} (hok : tracker.observe (.starting event) = (.ok state, next)) :
    tracker.state = .awaitingStart ∧ event.port = tracker.expectedPort ∧
      next = { tracker with runtimePid := some event.pid, state := .starting } := by
  obtain ⟨-, hadmitted, -⟩ := observe_eq_ok_iff.mp hok
  cases hstate : tracker.state with
  | awaitingStart =>
      simp only [observeActive, hstate, rejectIf_bind_eq_ok_iff, pure_eq_ok_iff,
        bne_eq_false_iff_eq] at hadmitted
      obtain ⟨hport, -, rfl⟩ := hadmitted
      exact ⟨rfl, hport, rfl⟩
  | _ =>
      simp only [observeActive, hstate] at hadmitted
      cases hadmitted

/-- Only a `listening` event of the started process for the expected port follows. -/
theorem observe_listening {tracker next : LifecycleTracker} {event : ListeningEvent}
    {state : LifecycleState} (hok : tracker.observe (.listening event) = (.ok state, next)) :
    tracker.state = .starting ∧ event.port = tracker.expectedPort ∧
      tracker.runtimePid = some event.pid ∧ next = { tracker with state := .listening } := by
  obtain ⟨-, hadmitted, -⟩ := observe_eq_ok_iff.mp hok
  cases hstate : tracker.state with
  | starting =>
      simp only [observeActive, hstate, rejectIf_bind_eq_ok_iff, pure_eq_ok_iff,
        bne_eq_false_iff_eq] at hadmitted
      obtain ⟨hport, hpid, rfl⟩ := hadmitted
      exact ⟨rfl, hport, hpid, rfl⟩
  | _ =>
      simp only [observeActive, hstate] at hadmitted
      cases hadmitted

end LifecycleTracker

end Rpackit.Launcher
