import Rpackit.Shell.App

/-! # Signals and the exit

Of all that is asked of the event loop the first signal reaches the runner, and the exit is
allowed only at its end.
-/

namespace Rpackit.Shell

open Lifecycle (World)

variable {W P V E : Type}

/-! ## Signals -/

/-- The signal that the event loop is about to send. -/
def EventLoop.pending : EventLoop → List ShellSignal
  | .sending signal => [signal]
  | _ => []

def EventLoop.hasExited : EventLoop → Bool
  | .exited _ => true
  | _ => false

/-- The code of the exit that is requested of the event loop, or that it exited with. -/
def EventLoop.code : EventLoop → Option Int
  | .entered (.exitRequested code) => code
  | .exited code => code
  | _ => none

/-- The runner has not reached its cleanup. -/
def Stage.isEarly : Stage → Bool
  | .preflight | .launchNative | .browserMaterial | .launchWebview | .ready => true
  | _ => false

/-- Whether the cleanup that the runner makes is forced. -/
def Stage.forced : Stage → Option Bool
  | .hide forced => some forced
  | .stopNative forced => some forced
  | .stopWebview forced _ => some forced
  | _ => none

/-- The code that the runner leaves with. -/
def Stage.ended : Stage → Option (ShellOutcome × Int)
  | .exit outcome code => some (outcome, code)
  | .finished outcome code => some (outcome, code)
  | _ => none

/-- Of all signals that were asked for the first is sent, and nothing else; the runner has
received it, or it is in the channel, or about to be sent. -/
structure SignalInv (state : ShellState W P V E) : Prop where
  started : state.cleanupStarted = !state.requests.isEmpty
  signals : state.received.toList ++ state.channel ++ state.eventLoop.pending =
    state.requests.take 1
  early : state.stage.isEarly = true → state.received = none
  forced : ∀ forced, state.stage.forced = some forced →
    forced = (state.received == some .forced)

/-- A shell that closes once it is ready waits for no signal. Any other one has received a
signal when it cleans up. -/
structure WaitInv (config : ShellConfig) (state : ShellState W P V E) : Prop where
  closes : config.closeAfterReady = true → state.stage ≠ .ready ∧ state.received = none
  waits : config.closeAfterReady = false → state.stage.forced.isSome = true →
    state.received.isSome = true

/-- The exit is allowed at the end of the runner only, and the event loop exits after that. -/
structure ExitInv (state : ShellState W P V E) : Prop where
  allowed : state.allowExit = state.stage.ended.isSome
  exited : state.eventLoop.hasExited = true → state.allowExit = true
  requested : ∀ code, state.eventLoop.code = some code →
    ∃ outcome, state.stage = .finished outcome code

variable {world : World W} {config : ShellConfig} {state next : ShellState W P V E}

/-- An event loop that neither exits nor is asked to with a code. -/
theorem ExitInv.elsewhere (hinv : ExitInv state) (eventLoop : EventLoop)
    (hexited : eventLoop.hasExited = false) (hcode : eventLoop.code = none)
    (hloop : next.eventLoop = eventLoop) (hallow : next.allowExit = state.allowExit)
    (hstage : next.stage = state.stage) : ExitInv next where
  allowed := by rw [hallow, hstage]; exact hinv.allowed
  exited h := by rw [hloop, hexited] at h; cases h
  requested code h := by rw [hloop, hcode] at h; cases h

theorem ExitInv.event (hinv : ExitInv state) (hstep : EventStep state next) : ExitInv next := by
  cases hstep with
  | enter event hidle hcode =>
      refine ⟨hinv.allowed, fun hexited => absurd hexited Bool.false_ne_true, fun code hasked => ?_⟩
      cases event with
      | closeRequested => cases hasked
      | destroyed => cases hasked
      | exitRequested requested => exact hcode code (congrArg AppEvent.exitRequested hasked)
  | refuse hentered hclosed => exact hinv.elsewhere (.exchanging _) rfl rfl rfl rfl rfl
  | ignore hentered hallowed hwindow => exact hinv.elsewhere .idle rfl rfl rfl rfl rfl
  | exit hentered hallowed =>
      refine ⟨hinv.allowed, fun _ => hallowed, fun code hasked => hinv.requested code ?_⟩
      rw [hentered]
      exact hasked
  | exchange hexchanging =>
      cases hstarted : state.cleanupStarted with
      | true => exact hinv.elsewhere .idle rfl rfl rfl rfl rfl
      | false => exact hinv.elsewhere (.sending _) rfl rfl rfl rfl rfl
  | send hsending => exact hinv.elsewhere .idle rfl rfl rfl rfl rfl

theorem SignalInv.event (hinv : SignalInv state) (hstep : EventStep state next) :
    SignalInv next := by
  have hsignals := hinv.signals
  cases hstep with
  | enter event hidle hcode =>
      rw [hidle] at hsignals
      exact ⟨hinv.started, hsignals, hinv.early, hinv.forced⟩
  | refuse hentered hclosed =>
      rw [hentered] at hsignals
      exact ⟨hinv.started, hsignals, hinv.early, hinv.forced⟩
  | ignore hentered hallowed hwindow =>
      rw [hentered] at hsignals
      exact ⟨hinv.started, hsignals, hinv.early, hinv.forced⟩
  | exit hentered hallowed =>
      rw [hentered] at hsignals
      exact ⟨hinv.started, hsignals, hinv.early, hinv.forced⟩
  | exchange hexchanging =>
      rw [hexchanging] at hsignals
      simp only [EventLoop.pending, List.append_nil] at hsignals
      refine ⟨by simp, ?_, hinv.early, hinv.forced⟩
      have hstarted := hinv.started
      cases hrequests : state.requests with
      | nil =>
          rw [hrequests] at hstarted hsignals
          have hfalse : state.cleanupStarted = false := hstarted
          simp [hfalse, hsignals, EventLoop.pending]
      | cons first rest =>
          rw [hrequests] at hstarted hsignals
          have htrue : state.cleanupStarted = true := hstarted
          simp [htrue, hsignals, EventLoop.pending]
  | send hsending =>
      rw [hsending] at hsignals
      refine ⟨hinv.started, ?_, hinv.early, hinv.forced⟩
      simpa [EventLoop.pending] using hsignals

/-- A step of the runner before its end leaves the exit alone. -/
theorem ExitInv.runs (hinv : ExitInv state) (hloop : next.eventLoop = state.eventLoop)
    (hallow : next.allowExit = state.allowExit) (hbefore : state.stage.ended = none)
    (hafter : next.stage.ended = none) : ExitInv next where
  allowed := by rw [hallow, hinv.allowed, hbefore, hafter]
  exited h := by
    rw [hallow]
    exact hinv.exited (hloop ▸ h)
  requested code h := by
    obtain ⟨outcome, hfinished⟩ := hinv.requested code (hloop ▸ h)
    rw [hfinished] at hbefore
    cases hbefore

theorem ExitInv.runner (hinv : ExitInv state)
    (hstep : RunnerStep world config state next) : ExitInv next := by
  cases hstep with
  | preflight answer hstage =>
      cases answer <;> exact hinv.runs rfl rfl (by rw [hstage]; rfl) rfl
  | nativeFailed hstage => exact hinv.runs rfl rfl (by rw [hstage]; rfl) rfl
  | nativeLaunched hstage happ => exact hinv.runs rfl rfl (by rw [hstage]; rfl) rfl
  | browserMaterial hstage happ =>
      refine hinv.runs rfl rfl (by rw [hstage]; rfl) ?_
      dsimp only
      split <;> rfl
  | webviewFailed hstage hleft => exact hinv.runs rfl rfl (by rw [hstage]; rfl) rfl
  | webviewLaunched hstage howner =>
      refine hinv.runs rfl rfl (by rw [hstage]; rfl) ?_
      dsimp only
      split <;> rfl
  | abandon hstage happ hcall hstep => exact hinv.runs rfl rfl (by rw [hstage]; rfl) rfl
  | receive hstage hchannel => exact hinv.runs rfl rfl (by rw [hstage]; rfl) rfl
  | disconnected hstage hchannel hexited => exact hinv.runs rfl rfl (by rw [hstage]; rfl) rfl
  | poll hstage happ hcall hstep =>
      refine hinv.runs rfl rfl (by rw [hstage]; rfl) ?_
      dsimp only
      split <;> rfl
  | hideUnhealthy hstage howner hcall hstep => exact hinv.runs rfl rfl (by rw [hstage]; rfl) rfl
  | closeUnhealthy hstage howner hcall hstep => exact hinv.runs rfl rfl (by rw [hstage]; rfl) rfl
  | hide hstage howner hcall hstep => exact hinv.runs rfl rfl (by rw [hstage]; rfl) rfl
  | stopNative hstage happ hcall hstep => exact hinv.runs rfl rfl (by rw [hstage]; rfl) rfl
  | stopWebview hstage howner hcall hstep => exact hinv.runs rfl rfl (by rw [hstage]; rfl) rfl
  | leave attempt hstage hdropped => exact hinv.runs rfl rfl (by rw [hstage]; rfl) rfl
  | report written hstage => exact hinv.runs rfl rfl (by rw [hstage]; rfl) rfl
  | allow hstage =>
      refine ⟨rfl, fun _ => rfl, fun code hasked => ?_⟩
      obtain ⟨outcome, hfinished⟩ := hinv.requested code hasked
      rw [hstage] at hfinished
      cases hfinished
  | exit hstage =>
      have hallowed : state.allowExit = true := by
        rw [hinv.allowed, hstage]
        rfl
      refine ⟨hallowed, fun _ => hallowed, fun code hasked => ?_⟩
      obtain ⟨outcome, hfinished⟩ := hinv.requested code hasked
      rw [hstage] at hfinished
      cases hfinished

/-- The stage is early only if it was, and what is forced was, or is not after an early one. -/
def Stage.Follows (before after : Stage) : Prop :=
  (after.isEarly = true → before.isEarly = true) ∧
    ∀ forced, after.forced = some forced →
      before.forced = some forced ∨ (before.isEarly = true ∧ forced = false)

/-- A step of the runner that is not about the channel. -/
theorem SignalInv.runs (hinv : SignalInv state) {stage : Stage}
    (hfollows : state.stage.Follows stage) (hstage : next.stage = stage)
    (hstarted : next.cleanupStarted = state.cleanupStarted)
    (hloop : next.eventLoop = state.eventLoop) (hchannel : next.channel = state.channel)
    (hrequests : next.requests = state.requests) (hreceived : next.received = state.received) :
    SignalInv next := by
  obtain ⟨hearly, hforced⟩ := hfollows
  refine ⟨by rw [hstarted, hrequests]; exact hinv.started, ?_, fun h => ?_, fun forced h => ?_⟩
  · rw [hreceived, hchannel, hloop, hrequests]
    exact hinv.signals
  · rw [hreceived]
    exact hinv.early (hearly (hstage ▸ h))
  · rw [hreceived]
    obtain hbefore | ⟨hbefore, rfl⟩ := hforced forced (hstage ▸ h)
    · exact hinv.forced forced hbefore
    · rw [hinv.early hbefore]
      rfl

theorem SignalInv.runner (hinv : SignalInv state) (hexit : ExitInv state)
    (hstep : RunnerStep world config state next) : SignalInv next := by
  have hkeep : ∀ {stage : Stage}, stage.isEarly = false →
      (∀ forced, stage.forced = some forced → state.stage.forced = some forced) →
        state.stage.Follows stage :=
    fun hlate hforced => ⟨fun h => absurd (hlate.symm.trans h) Bool.false_ne_true,
      fun forced h => .inl (hforced forced h)⟩
  have hend : ∀ {stage : Stage}, stage.isEarly = false → stage.forced = none →
      state.stage.Follows stage :=
    fun hlate hnone => hkeep hlate fun _ h => absurd (hnone.symm.trans h) (by simp)
  have hon : ∀ {stage : Stage}, state.stage.isEarly = true → stage.forced.getD false = false →
      state.stage.Follows stage := by
    intro stage hbefore hnone
    refine ⟨fun _ => hbefore, fun forced h => .inr ⟨hbefore, ?_⟩⟩
    rw [h] at hnone
    exact hnone
  cases hstep with
  | preflight answer hstage =>
      cases answer <;> exact hinv.runs (hon (by rw [hstage]; rfl) rfl) rfl rfl rfl rfl rfl rfl
  | nativeFailed hstage => exact hinv.runs (hend rfl rfl) rfl rfl rfl rfl rfl rfl
  | nativeLaunched hstage happ =>
      exact hinv.runs (hon (by rw [hstage]; rfl) rfl) rfl rfl rfl rfl rfl rfl
  | browserMaterial hstage happ =>
      refine hinv.runs (hon (by rw [hstage]; rfl) ?_) rfl rfl rfl rfl rfl rfl
      split <;> rfl
  | webviewFailed hstage hleft => exact hinv.runs (hend rfl rfl) rfl rfl rfl rfl rfl rfl
  | webviewLaunched hstage howner =>
      refine hinv.runs (hon (by rw [hstage]; rfl) ?_) rfl rfl rfl rfl rfl rfl
      split <;> rfl
  | abandon hstage happ hcall hstep => exact hinv.runs (hend rfl rfl) rfl rfl rfl rfl rfl rfl
  | receive hstage hchannel =>
      have hnone := hinv.early (by rw [hstage]; rfl)
      have hsignals := hinv.signals
      rw [hnone, hchannel] at hsignals
      refine ⟨hinv.started, hsignals, fun h => absurd h Bool.false_ne_true, fun forced h => ?_⟩
      obtain rfl := Option.some.inj h
      rfl
  | disconnected hstage hchannel hexited =>
      have hallowed := hexit.exited (by rw [hexited]; rfl)
      rw [hexit.allowed, hstage] at hallowed
      cases hallowed
  | poll hstage happ hcall hstep =>
      refine hinv.runs (hon (by rw [hstage]; rfl) ?_) rfl rfl rfl rfl rfl rfl
      split <;> rfl
  | hideUnhealthy hstage howner hcall hstep =>
      exact hinv.runs (hend rfl rfl) rfl rfl rfl rfl rfl rfl
  | closeUnhealthy hstage howner hcall hstep =>
      exact hinv.runs (hend rfl rfl) rfl rfl rfl rfl rfl rfl
  | hide hstage howner hcall hstep =>
      exact hinv.runs (hkeep rfl fun _ h => by rw [hstage]; exact h) rfl rfl rfl rfl rfl rfl
  | stopNative hstage happ hcall hstep =>
      exact hinv.runs (hkeep rfl fun _ h => by rw [hstage]; exact h) rfl rfl rfl rfl rfl rfl
  | stopWebview hstage howner hcall hstep =>
      exact hinv.runs (hend rfl rfl) rfl rfl rfl rfl rfl rfl
  | leave attempt hstage hdropped => exact hinv.runs (hend rfl rfl) rfl rfl rfl rfl rfl rfl
  | report written hstage => exact hinv.runs (hend rfl rfl) rfl rfl rfl rfl rfl rfl
  | allow hstage => exact hinv.runs (hend rfl rfl) rfl rfl rfl rfl rfl rfl
  | exit hstage => exact hinv.runs (hend rfl rfl) rfl rfl rfl rfl rfl rfl

theorem WaitInv.event (hinv : WaitInv config state) (hstep : EventStep state next) :
    WaitInv config next := by
  cases hstep <;> exact ⟨hinv.closes, hinv.waits⟩

/-- A step of the runner that does not wait, and is not the first of a cleanup. -/
theorem WaitInv.runs (hinv : WaitInv config state) {stage : Stage} (hstage : next.stage = stage)
    (hready : stage ≠ .ready)
    (hforced : stage.forced.isSome = true → state.stage.forced.isSome = true)
    (hreceived : next.received = state.received) : WaitInv config next where
  closes hcloses := ⟨hstage ▸ hready, hreceived ▸ (hinv.closes hcloses).2⟩
  waits hwaits h := hreceived ▸ hinv.waits hwaits (hforced (hstage ▸ h))

theorem WaitInv.runner (hinv : WaitInv config state) (hexit : ExitInv state)
    (hstep : RunnerStep world config state next) : WaitInv config next := by
  have hend : ∀ {stage : Stage}, stage ≠ .ready → stage.forced = none → next.stage = stage →
      next.received = state.received → WaitInv config next := by
    intro stage hready hnone hstage hreceived
    refine hinv.runs hstage hready (fun h => ?_) hreceived
    rw [hnone] at h
    cases h
  cases hstep with
  | preflight answer hstage => cases answer <;> exact hend (by simp) rfl rfl rfl
  | nativeFailed hstage => exact hend (by simp) rfl rfl rfl
  | nativeLaunched hstage happ => exact hend (by simp) rfl rfl rfl
  | browserMaterial hstage happ =>
      refine hinv.runs rfl ?_ (fun h => ?_) rfl
      · split <;> simp
      · split at h <;> cases h
  | webviewFailed hstage hleft => exact hend (by simp) rfl rfl rfl
  | webviewLaunched hstage howner =>
      refine ⟨fun hcloses => ?_, fun hwaits h => ?_⟩
      · rw [if_pos hcloses]
        exact ⟨by simp, (hinv.closes hcloses).2⟩
      · rw [hwaits] at h
        cases h
  | abandon hstage happ hcall hstep => exact hend (by simp) rfl rfl rfl
  | receive hstage hchannel =>
      exact ⟨fun hcloses => absurd hstage (hinv.closes hcloses).1, fun _ _ => rfl⟩
  | disconnected hstage hchannel hexited =>
      have hallowed := hexit.exited (by rw [hexited]; rfl)
      rw [hexit.allowed, hstage] at hallowed
      cases hallowed
  | poll hstage happ hcall hstep =>
      refine ⟨fun hcloses => absurd hstage (hinv.closes hcloses).1, fun _ h => ?_⟩
      dsimp only at h
      split at h <;> cases h
  | hideUnhealthy hstage howner hcall hstep => exact hend (by simp) rfl rfl rfl
  | closeUnhealthy hstage howner hcall hstep => exact hend (by simp) rfl rfl rfl
  | hide hstage howner hcall hstep =>
      exact hinv.runs rfl (by simp) (fun _ => by rw [hstage]; rfl) rfl
  | stopNative hstage happ hcall hstep =>
      exact hinv.runs rfl (by simp) (fun _ => by rw [hstage]; rfl) rfl
  | stopWebview hstage howner hcall hstep => exact hend (by simp) rfl rfl rfl
  | leave attempt hstage hdropped => exact hend (by simp) rfl rfl rfl
  | report written hstage => exact hend (by simp) rfl rfl rfl
  | allow hstage => exact hend (by simp) rfl rfl rfl
  | exit hstage => exact hend (by simp) rfl rfl rfl

/-- The signal that was received is the first that was asked for. -/
theorem SignalInv.head (hinv : SignalInv state) {signal : ShellSignal}
    (hreceived : state.received = some signal) : state.requests.head? = some signal := by
  have hsignals := hinv.signals
  rw [hreceived] at hsignals
  cases hrequests : state.requests with
  | nil =>
      rw [hrequests] at hsignals
      cases hsignals
  | cons first rest =>
      rw [hrequests] at hsignals
      exact congrArg some (List.cons.inj hsignals).1.symm

/-- Once a shell that waits has received its signal, it was the first that was asked for. -/
theorem SignalInv.received_iff (hinv : SignalInv state) (hwait : config.closeAfterReady = true →
      state.received = none)
    (hheard : config.closeAfterReady = false → state.received.isSome = true) :
    state.received = some .forced ↔
      config.closeAfterReady = false ∧ state.requests.head? = some .forced := by
  constructor
  · intro hreceived
    refine ⟨?_, hinv.head hreceived⟩
    rw [← Bool.not_eq_true]
    intro hcloses
    rw [hwait hcloses] at hreceived
    cases hreceived
  · rintro ⟨hwaits, hfirst⟩
    obtain ⟨signal, hreceived⟩ := Option.isSome_iff_exists.mp (hheard hwaits)
    rw [hreceived, ← hinv.head hreceived, hfirst]

end Rpackit.Shell
