import Rpackit.Library.Runs
import Rpackit.Lifecycle.AppReport
import Rpackit.Webview.Owner

/-! # The shell around both owners

Two parties share an atomic for the cleanup, one for the exit, and a channel. The event loop
refuses to close and to exit until the exit is allowed, and asks for the cleanup instead. The
runner starts both owners, watches the application, cleans up, writes the evidence, and then
allows the exit. Each access to what is shared is a step of its own, so a run is any
interleaving of the two; what the owners and the system answer is free.
-/

namespace Rpackit.Shell

open Lifecycle (App Machine World NativeAppOwner NativeAppShutdownReport AppAnswered AppStep
  launchValidatedInner)
open Webview (OwnerState OwnerAnswered OwnerStep WebviewShutdownReport launchedOwner)

/-! ## Outcomes and evidence -/

inductive ShellSignal where
  | graceful
  | forced
  deriving DecidableEq, Repr

structure ShellSuccess where
  webview2Version : String
  native : NativeAppShutdownReport
  webview : WebviewShutdownReport
  forced : Bool
  deriving DecidableEq, Repr

inductive ShellFailure where
  | preflight
  | packagedPaths
  | nativeStartup
  | browserMaterial
  | webviewStartup
  | runtimeHealth
  | shutdown
  deriving DecidableEq, Repr

def ShellFailure.stage : ShellFailure → String
  | .preflight => "webview_preflight"
  | .packagedPaths => "packaged_paths"
  | .nativeStartup => "native_startup"
  | .browserMaterial => "browser_material"
  | .webviewStartup => "webview_startup"
  | .runtimeHealth => "runtime_health"
  | .shutdown => "shutdown"

abbrev ShellOutcome := Except ShellFailure ShellSuccess

structure ShellEvidence where
  schemaVersion : Nat
  success : Bool
  failureStage : Option String
  webview2Version : Option String
  forcedShutdown : Bool
  gracefulRuntimeShutdown : Bool
  proxyStopped : Bool
  jobEmpty : Bool
  privateSessionRemoved : Bool
  sessionCookieAbsent : Bool
  browsingDataClearQueued : Bool
  windowDestroyed : Bool
  profileRemoved : Bool
  deriving DecidableEq, Repr

namespace ShellEvidence

def ofSuccess (value : ShellSuccess) : ShellEvidence where
  schemaVersion := 1
  success := true
  failureStage := none
  webview2Version := some value.webview2Version
  forcedShutdown := value.forced
  gracefulRuntimeShutdown := value.native.runtime.kind == .graceful
  proxyStopped := value.native.proxyStopped
  jobEmpty := value.native.runtime.jobEmpty
  privateSessionRemoved := value.native.runtime.sessionRemoved
  sessionCookieAbsent := value.webview.sessionCookieAbsent
  browsingDataClearQueued := value.webview.browsingDataClearQueued
  windowDestroyed := value.webview.windowDestroyed
  profileRemoved := value.webview.profileRemoved

def ofFailure (failure : ShellFailure) : ShellEvidence where
  schemaVersion := 1
  success := false
  failureStage := some failure.stage
  webview2Version := none
  forcedShutdown := false
  gracefulRuntimeShutdown := false
  proxyStopped := false
  jobEmpty := false
  privateSessionRemoved := false
  sessionCookieAbsent := false
  browsingDataClearQueued := false
  windowDestroyed := false
  profileRemoved := false

def ofOutcome : ShellOutcome → ShellEvidence
  | .ok success => ofSuccess success
  | .error failure => ofFailure failure

end ShellEvidence

/-! ## The two parties -/

/-- An event of the event loop. A window event is that of the main window; one of another
window, or another event, changes nothing. An exit is requested with a code by the runner. -/
inductive AppEvent where
  | closeRequested
  | destroyed
  | exitRequested (code : Option Int)
  deriving DecidableEq, Repr

/-- What a callback asks for when the exit is not allowed. -/
def AppEvent.signal : AppEvent → ShellSignal
  | .closeRequested => .graceful
  | .destroyed => .forced
  | .exitRequested _ => .graceful

/-- Where the event loop is: before which of its steps. -/
inductive EventLoop where
  | idle
  | entered (event : AppEvent)
  | exchanging (signal : ShellSignal)
  | sending (signal : ShellSignal)
  | exited (code : Option Int)
  deriving DecidableEq, Repr

/-- Where the runner is: before which of its steps. -/
inductive Stage where
  | preflight
  | launchNative
  | browserMaterial
  | launchWebview
  | abandon
  | ready
  | unhealthy
  | closeUnhealthy
  | hide (forced : Bool)
  | stopNative (forced : Bool)
  | stopWebview (forced : Bool) (native : Option NativeAppShutdownReport)
  | leave (outcome : ShellOutcome)
  | report (outcome : ShellOutcome)
  | allow (outcome : ShellOutcome) (code : Int)
  | exit (outcome : ShellOutcome) (code : Int)
  | finished (outcome : ShellOutcome) (code : Int)
  deriving DecidableEq, Repr

variable (W P V E : Type)

/-- The shared state, what the runner owns, and the evidence in the file. The last fields are
for an observer: what a failed launch of the web view left, the signals that were asked for and
the one that was received, the stops of the cleanup with what they found and were answered, and
the runtime as the drop of its owner left it. -/
structure ShellState where
  cleanupStarted : Bool
  allowExit : Bool
  channel : List ShellSignal
  eventLoop : EventLoop
  stage : Stage
  native : Option (NativeAppOwner W P)
  webview : Option (OwnerState V)
  version : String
  evidence : Option ShellEvidence
  abandoned : Option (OwnerState V)
  requests : List ShellSignal
  received : Option ShellSignal
  stoppedNative : Option (NativeAppOwner W P × AppAnswered E)
  stoppedWebview : Option (OwnerState V × OwnerAnswered)
  released : Option (Machine W)

/-- What the shell was started with. -/
structure ShellConfig where
  closeAfterReady : Bool
  evidence : Bool
  deriving DecidableEq, Repr

variable {W P V E : Type}

/-- The runner starts with the options, if the packaged paths could be resolved. -/
def shellStart (resolved : Bool) : ShellState W P V E where
  cleanupStarted := false
  allowExit := false
  channel := []
  eventLoop := .idle
  stage := if resolved then .preflight else .leave (.error .packagedPaths)
  native := none
  webview := none
  version := ""
  evidence := none
  abandoned := none
  requests := []
  received := none
  stoppedNative := none
  stoppedWebview := none
  released := none

/-- A launched application has a proxy, and a runtime that became ready. -/
def LaunchedApp (world : World W) (app : NativeAppOwner W P) : Prop :=
  ∃ proxy machine platform fuel bundle port secret limits channel w,
    app = ⟨some proxy, some machine⟩ ∧
      launchValidatedInner world platform fuel bundle port secret limits channel w =
        .owned (.ok ()) machine

/-- The application that is left when its owner is dropped, if it was launched, and the runtime
as its own drop left it. -/
def DroppedApp (world : World W) (E : Type) (native next : Option (NativeAppOwner W P))
    (released : Option (Machine W)) : Prop :=
  match native with
  | none => next = none ∧ released = none
  | some app => ∃ fuel proxy left, next = some left ∧
      (NativeAppOwner.drop world fuel : App W P E _) app = (.ok (proxy, released), left)

/-- The owner of a launched web view. -/
def LaunchedWebview (owner : OwnerState V) : Prop :=
  ∃ window parent path timeout, owner = launchedOwner window parent path timeout

/-- What a failed launch of the web view leaves: nothing, or a window that it shut down. -/
def FailedWebview : Option (OwnerState V) → Prop
  | none => True
  | some dropped => ∃ launched answered closed attempt, LaunchedWebview launched ∧
      answered.call = .shutdown ∧ OwnerStep launched answered closed ∧
        dropped = Webview.SecureWebviewOwner.drop attempt closed

/-- The report of an operation that answered with one. -/
def reported {ε α : Type} : Except ε (Option α) → Option α
  | .ok report => report
  | .error _ => none

/-- The `match` at the end of `shutdown_owners`. -/
def finishShell (version : String) (forced : Bool) (native : Option NativeAppShutdownReport)
    (webview : Option WebviewShutdownReport) : ShellOutcome :=
  match native, webview with
  | some native, some webview => .ok ⟨version, native, webview, forced⟩
  | _, _ => .error .shutdown

/-! ## Steps -/

/-- A step of the event loop. -/
inductive EventStep : ShellState W P V E → ShellState W P V E → Prop
  | enter {state : ShellState W P V E} (event : AppEvent) (hidle : state.eventLoop = .idle)
      (hcode : ∀ code, event = .exitRequested (some code) →
        ∃ outcome, state.stage = .finished outcome code) :
      EventStep state { state with eventLoop := .entered event }
  | refuse {state : ShellState W P V E} {event : AppEvent}
      (hentered : state.eventLoop = .entered event) (hclosed : state.allowExit = false) :
      EventStep state { state with eventLoop := .exchanging event.signal }
  | ignore {state : ShellState W P V E} {event : AppEvent}
      (hentered : state.eventLoop = .entered event) (hallowed : state.allowExit = true)
      (hwindow : ∀ code, event ≠ .exitRequested code) :
      EventStep state { state with eventLoop := .idle }
  | exit {state : ShellState W P V E} {code : Option Int}
      (hentered : state.eventLoop = .entered (.exitRequested code))
      (hallowed : state.allowExit = true) :
      EventStep state { state with eventLoop := .exited code }
  | exchange {state : ShellState W P V E} {signal : ShellSignal}
      (hexchanging : state.eventLoop = .exchanging signal) :
      EventStep state { state with
        cleanupStarted := true
        eventLoop := if state.cleanupStarted then .idle else .sending signal
        requests := state.requests ++ [signal] }
  | send {state : ShellState W P V E} {signal : ShellSignal}
      (hsending : state.eventLoop = .sending signal) :
      EventStep state { state with
        channel := state.channel ++ [signal]
        eventLoop := .idle }

/-- A step of the runner. -/
inductive RunnerStep (world : World W) (config : ShellConfig) :
    ShellState W P V E → ShellState W P V E → Prop
  | preflight {state : ShellState W P V E} (answer : Option String)
      (hstage : state.stage = .preflight) :
      RunnerStep world config state (match answer with
        | none => { state with stage := .leave (.error .preflight) }
        | some version => { state with stage := .launchNative, version := version })
  | nativeFailed {state : ShellState W P V E} (hstage : state.stage = .launchNative) :
      RunnerStep world config state { state with stage := .leave (.error .nativeStartup) }
  | nativeLaunched {state : ShellState W P V E} {app : NativeAppOwner W P}
      (hstage : state.stage = .launchNative) (happ : LaunchedApp world app) :
      RunnerStep world config state
        { state with stage := .browserMaterial, native := some app }
  | browserMaterial {state : ShellState W P V E} {app : NativeAppOwner W P}
      (hstage : state.stage = .browserMaterial) (happ : state.native = some app) :
      RunnerStep world config state { state with
        stage := if app.proxy.isSome then .launchWebview else .leave (.error .browserMaterial) }
  | webviewFailed {state : ShellState W P V E} {left : Option (OwnerState V)}
      (hstage : state.stage = .launchWebview) (hleft : FailedWebview left) :
      RunnerStep world config state { state with stage := .abandon, abandoned := left }
  | webviewLaunched {state : ShellState W P V E} {owner : OwnerState V}
      (hstage : state.stage = .launchWebview) (howner : LaunchedWebview owner) :
      RunnerStep world config state { state with
        stage := if config.closeAfterReady then .hide false else .ready
        webview := some owner }
  | abandon {state : ShellState W P V E} {app next : NativeAppOwner W P} {answered : AppAnswered E}
      (hstage : state.stage = .abandon) (happ : state.native = some app)
      (hcall : answered.call = .forceShutdown) (hstep : AppStep world app answered next) :
      RunnerStep world config state
        { state with stage := .leave (.error .webviewStartup), native := some next }
  | receive {state : ShellState W P V E} {signal : ShellSignal} {rest : List ShellSignal}
      (hstage : state.stage = .ready) (hchannel : state.channel = signal :: rest) :
      RunnerStep world config state { state with
        stage := .hide (signal == .forced)
        channel := rest
        received := some signal }
  | disconnected {state : ShellState W P V E} {code : Option Int} (hstage : state.stage = .ready)
      (hchannel : state.channel = []) (hexited : state.eventLoop = .exited code) :
      RunnerStep world config state { state with stage := .hide true }
  | poll {state : ShellState W P V E} {app next : NativeAppOwner W P} {answered : AppAnswered E}
      (hstage : state.stage = .ready) (happ : state.native = some app)
      (hcall : answered.call = .pollHealth) (hstep : AppStep world app answered next) :
      RunnerStep world config state { state with
        stage := if answered.outcome.isOk then .ready else .unhealthy
        native := some next }
  | hideUnhealthy {state : ShellState W P V E} {owner next : OwnerState V}
      {answered : OwnerAnswered} (hstage : state.stage = .unhealthy)
      (howner : state.webview = some owner) (hcall : answered.call = .hide)
      (hstep : OwnerStep owner answered next) :
      RunnerStep world config state
        { state with stage := .closeUnhealthy, webview := some next }
  | closeUnhealthy {state : ShellState W P V E} {owner next : OwnerState V}
      {answered : OwnerAnswered} (hstage : state.stage = .closeUnhealthy)
      (howner : state.webview = some owner) (hcall : answered.call = .shutdown)
      (hstep : OwnerStep owner answered next) :
      RunnerStep world config state
        { state with stage := .leave (.error .runtimeHealth), webview := some next }
  | hide {state : ShellState W P V E} {forced : Bool} {owner next : OwnerState V}
      {answered : OwnerAnswered} (hstage : state.stage = .hide forced)
      (howner : state.webview = some owner) (hcall : answered.call = .hide)
      (hstep : OwnerStep owner answered next) :
      RunnerStep world config state
        { state with stage := .stopNative forced, webview := some next }
  | stopNative {state : ShellState W P V E} {forced : Bool} {app next : NativeAppOwner W P}
      {answered : AppAnswered E} (hstage : state.stage = .stopNative forced)
      (happ : state.native = some app)
      (hcall : answered.call = if forced then .forceShutdown else .shutdown)
      (hstep : AppStep world app answered next) :
      RunnerStep world config state { state with
        stage := .stopWebview forced (reported answered.outcome)
        native := some next
        stoppedNative := some (app, answered) }
  | stopWebview {state : ShellState W P V E} {forced : Bool}
      {native : Option NativeAppShutdownReport} {owner next : OwnerState V}
      {answered : OwnerAnswered} (hstage : state.stage = .stopWebview forced native)
      (howner : state.webview = some owner) (hcall : answered.call = .shutdown)
      (hstep : OwnerStep owner answered next) :
      RunnerStep world config state { state with
        stage := .leave (finishShell state.version forced native (reported answered.outcome))
        webview := some next
        stoppedWebview := some (owner, answered) }
  | leave {state : ShellState W P V E} {outcome : ShellOutcome}
      {native : Option (NativeAppOwner W P)} {released : Option (Machine W)}
      (attempt : Webview.Attempt) (hstage : state.stage = .leave outcome)
      (hdropped : DroppedApp world E state.native native released) :
      RunnerStep world config state { state with
        stage := .report outcome
        native := native
        webview := state.webview.map (Webview.SecureWebviewOwner.drop attempt)
        released := released }
  | report {state : ShellState W P V E} {outcome : ShellOutcome} (written : Bool)
      (hstage : state.stage = .report outcome) :
      RunnerStep world config state { state with
        stage := .allow outcome (if config.evidence && !written then 1 else
          if outcome.isOk then 0 else 1)
        evidence := if config.evidence && written then some (.ofOutcome outcome)
          else state.evidence }
  | allow {state : ShellState W P V E} {outcome : ShellOutcome} {code : Int}
      (hstage : state.stage = .allow outcome code) :
      RunnerStep world config state
        { state with stage := .exit outcome code, allowExit := true }
  | exit {state : ShellState W P V E} {outcome : ShellOutcome} {code : Int}
      (hstage : state.stage = .exit outcome code) :
      RunnerStep world config state { state with stage := .finished outcome code }

/-- A step of either party. -/
def ShellStep (world : World W) (config : ShellConfig) (state : ShellState W P V E) (_ : Unit)
    (next : ShellState W P V E) : Prop :=
  EventStep state next ∨ RunnerStep world config state next

end Rpackit.Shell
