import Rpackit.Lifecycle.AppReport
import Rpackit.Shell.Signals

/-! # What the shell owns

The application that the shell owns was launched and then asked; it is dropped at the end. A web
view is closed in its order, also one whose launch failed.
-/

namespace Rpackit.Shell

open Lifecycle (App Machine World NativeAppOwner AppAnswered AppStep OwnerStep RuntimeLaunched)
open Webview (OwnerState OwnerAnswered)

variable {W P V E : Type} {world : World W} {config : ShellConfig}
  {state next : ShellState W P V E}

/-! ## The application -/

/-- The function that owned both has returned. -/
def Stage.isReturned : Stage → Bool
  | .report _ | .allow _ _ | .exit _ _ | .finished _ _ => true
  | _ => false

/-- The application was launched, and nothing has stopped it yet. -/
def Stage.isServing : Stage → Bool
  | .browserMaterial | .launchWebview | .ready | .hide _ | .stopNative _ => true
  | _ => false

/-- The application was launched and keeps its proxy while it is served; it is dropped at the
end, and a runtime that was still owned made its own drop. -/
structure NativeInv (world : World W) (state : ShellState W P V E) : Prop where
  launched : ∀ app, state.native = some app → RuntimeLaunched world app
  serving : state.stage.isServing = true → ∀ app, state.native = some app →
    app.proxy.isSome = true
  dropped : state.stage.isReturned = true → ∀ app, state.native = some app → app = ⟨none, none⟩
  released : ∀ machine, state.released = some machine → ∃ before answered,
    world.Launched before ∧ answered.call = .drop ∧ OwnerStep world before answered machine

theorem NativeInv.event (hinv : NativeInv world state) (hstep : EventStep state next) :
    NativeInv world next := by
  cases hstep <;> exact ⟨hinv.launched, hinv.serving, hinv.dropped, hinv.released⟩

/-- A step that leaves the application alone. -/
theorem NativeInv.runs (hinv : NativeInv world state)
    (hserving : next.stage.isServing = true → state.stage.isServing = true)
    (hreturned : next.stage.isReturned = true → state.stage.isReturned = true)
    (hnative : next.native = state.native) (hreleased : next.released = state.released) :
    NativeInv world next where
  launched app happ := hinv.launched app (hnative ▸ happ)
  serving h app happ := hinv.serving (hserving h) app (hnative ▸ happ)
  dropped h app happ := hinv.dropped (hreturned h) app (hnative ▸ happ)
  released machine h := hinv.released machine (hreleased ▸ h)

/-- An operation of the application, after which it may be served on. -/
theorem NativeInv.asks (hinv : NativeInv world state) {app after : NativeAppOwner W P}
    {answered : AppAnswered E} (happ : state.native = some app)
    (hstep : AppStep world app answered after)
    (hserving : next.stage.isServing = true → after.proxy.isSome = true)
    (hreturned : next.stage.isReturned = false) (hnative : next.native = some after)
    (hreleased : next.released = state.released) : NativeInv world next where
  launched found hfound := by
    obtain rfl := Option.some.inj (hnative.symm.trans hfound)
    exact (hinv.launched app happ).step hstep
  serving h found hfound := by
    obtain rfl := Option.some.inj (hnative.symm.trans hfound)
    exact hserving h
  dropped h := absurd (hreturned.symm.trans h) Bool.false_ne_true
  released machine h := hinv.released machine (hreleased ▸ h)

theorem launched_of_launch {app : NativeAppOwner W P} (happ : LaunchedApp world app) :
    RuntimeLaunched world app ∧ app.proxy.isSome = true := by
  obtain ⟨proxy, machine, platform, fuel, bundle, port, secret, limits, channel, w, rfl, hlaunch⟩ :=
    happ
  refine ⟨fun found hfound => ?_, rfl⟩
  obtain rfl := Option.some.inj hfound
  exact ⟨platform, fuel, bundle, port, secret, limits, channel, w, machine, [], hlaunch,
    .nil machine⟩

/-- A drop takes the proxy and the runtime. -/
theorem NativeInv.drops (hinv : NativeInv world state) {native : Option (NativeAppOwner W P)}
    {released : Option (Machine W)} (hdropped : DroppedApp world E state.native native released)
    (hserving : next.stage.isServing = false) (hnative : next.native = native)
    (hreleased : next.released = released) : NativeInv world next := by
  have hnot : ∀ {C : Prop}, next.stage.isServing = true → C :=
    fun h => absurd (hserving.symm.trans h) Bool.false_ne_true
  cases howned : state.native with
  | none =>
      rw [howned] at hdropped
      obtain ⟨rfl, rfl⟩ := hdropped
      refine ⟨fun app happ => ?_, hnot, fun _ app happ => ?_, fun machine hmachine => ?_⟩
      · rw [hnative] at happ
        cases happ
      · rw [hnative] at happ
        cases happ
      · rw [hreleased] at hmachine
        cases hmachine
  | some app =>
      rw [howned] at hdropped
      obtain ⟨fuel, proxy, left, rfl, hdrop⟩ := hdropped
      obtain ⟨rfl, -, hsome, hnone⟩ := NativeAppOwner.drop_ok hdrop
      have hempty : ∀ found, next.native = some found → found = ⟨none, none⟩ :=
        fun found hfound => (Option.some.inj (hnative.symm.trans hfound)).symm
      refine ⟨fun found hfound machine hmachine => ?_, hnot, fun _ => hempty,
        fun machine hmachine => ?_⟩
      · rw [hempty found hfound] at hmachine
        cases hmachine
      · rw [hreleased] at hmachine
        cases hruntime : app.runtime with
        | none =>
            rw [hnone hruntime] at hmachine
            cases hmachine
        | some before =>
            obtain ⟨answered, last, hcall, hstep, hlast⟩ := hsome before hruntime
            obtain rfl := Option.some.inj (hlast.symm.trans hmachine)
            exact ⟨before, answered, hinv.launched app howned before hruntime, hcall, hstep⟩

theorem NativeInv.runner (hinv : NativeInv world state)
    (hstep : RunnerStep world config state next) : NativeInv world next := by
  have hserves : ∀ {stage : Stage} {C : Prop}, state.stage = stage → stage.isServing = true →
      C → state.stage.isServing = true := fun hstage hserving _ => by rw [hstage]; exact hserving
  cases hstep with
  | preflight answer hstage =>
      cases answer <;> exact hinv.runs (fun h => by cases h) (fun h => by cases h) rfl rfl
  | nativeFailed hstage => exact hinv.runs (fun h => by cases h) (fun h => by cases h) rfl rfl
  | nativeLaunched hstage happ =>
      obtain ⟨hlaunched, hproxy⟩ := launched_of_launch happ
      refine ⟨fun found hfound => ?_, fun _ found hfound => ?_, fun h => (by cases h),
        hinv.released⟩
      · obtain rfl := Option.some.inj hfound
        exact hlaunched
      · obtain rfl := Option.some.inj hfound
        exact hproxy
  | browserMaterial hstage happ =>
      refine hinv.runs (hserves hstage rfl) (fun h => ?_) rfl rfl
      dsimp only at h
      split at h <;> cases h
  | webviewFailed hstage hleft =>
      exact hinv.runs (fun h => by cases h) (fun h => by cases h) rfl rfl
  | webviewLaunched hstage howner =>
      refine hinv.runs (hserves hstage rfl) (fun h => ?_) rfl rfl
      dsimp only at h
      split at h <;> cases h
  | abandon hstage happ hcall hstep =>
      exact hinv.asks happ hstep (fun h => by cases h) rfl rfl rfl
  | receive hstage hchannel =>
      exact hinv.runs (hserves hstage rfl) (fun h => by cases h) rfl rfl
  | disconnected hstage hchannel hexited =>
      exact hinv.runs (hserves hstage rfl) (fun h => by cases h) rfl rfl
  | @poll app after answered hstage happ hcall hstep =>
      refine hinv.asks happ hstep (fun h => ?_) ?_ rfl rfl
      · -- a poll that fails ends the service
        cases hok : answered.outcome.isOk with
        | true =>
            rw [(Lifecycle.appStep_runs hstep).2 hcall hok]
            exact hinv.serving (by rw [hstage]; rfl) app happ
        | false =>
            dsimp only at h
            rw [hok] at h
            cases h
      · dsimp only
        split <;> rfl
  | hideUnhealthy hstage howner hcall hstep =>
      exact hinv.runs (fun h => by cases h) (fun h => by cases h) rfl rfl
  | closeUnhealthy hstage howner hcall hstep =>
      exact hinv.runs (fun h => by cases h) (fun h => by cases h) rfl rfl
  | hide hstage howner hcall hstep =>
      exact hinv.runs (hserves hstage rfl) (fun h => by cases h) rfl rfl
  | stopNative hstage happ hcall hstep =>
      exact hinv.asks happ hstep (fun h => by cases h) rfl rfl rfl
  | stopWebview hstage howner hcall hstep =>
      exact hinv.runs (fun h => by cases h) (fun h => by cases h) rfl rfl
  | leave attempt hstage hdropped => exact hinv.drops hdropped rfl rfl rfl
  | report written hstage =>
      exact hinv.runs (fun h => by cases h) (fun _ => by rw [hstage]; rfl) rfl rfl
  | allow hstage =>
      exact hinv.runs (fun h => by cases h) (fun _ => by rw [hstage]; rfl) rfl rfl
  | exit hstage =>
      exact hinv.runs (fun h => by cases h) (fun _ => by rw [hstage]; rfl) rfl rfl

/-! ## The web view -/

def WebviewTidy (owner : OwnerState V) : Prop := ∃ parent path, Webview.Tidy parent path owner

/-- The window was destroyed once, and only then was the profile removed. -/
def WebviewClosed (owner : OwnerState V) : Prop := ∃ path, Webview.Closed path owner.calls

/-- What is owned is in order, and what was owned is closed. -/
structure WebviewInv (state : ShellState W P V E) : Prop where
  webview : ∀ owner, state.webview = some owner →
    if state.stage.isReturned then WebviewClosed owner else WebviewTidy owner
  abandoned : ∀ owner, state.abandoned = some owner → WebviewClosed owner

theorem tidy_of_launched {owner : OwnerState V} (hlaunched : LaunchedWebview owner) :
    WebviewTidy owner := by
  obtain ⟨window, parent, path, timeout, rfl⟩ := hlaunched
  exact ⟨parent, path, .open window rfl rfl (List.forall_mem_nil _)⟩

theorem WebviewTidy.step {owner after : OwnerState V} {answered : OwnerAnswered}
    (htidy : WebviewTidy owner) (hstep : Webview.OwnerStep owner answered after) :
    WebviewTidy after := by
  obtain ⟨parent, path, htidy⟩ := htidy
  exact ⟨parent, path, (hstep.left htidy).1.tidy⟩

theorem WebviewTidy.drop {owner : OwnerState V} (htidy : WebviewTidy owner)
    (attempt : Webview.Attempt) :
    WebviewClosed (Webview.SecureWebviewOwner.drop attempt owner) := by
  obtain ⟨parent, path, htidy⟩ := htidy
  exact ⟨path, Webview.closed_drop htidy attempt⟩

theorem closed_of_failed {left : Option (OwnerState V)} (hleft : FailedWebview left) :
    ∀ owner, left = some owner → WebviewClosed owner := by
  rintro owner rfl
  obtain ⟨launched, answered, closed, attempt, hlaunched, -, hstep, rfl⟩ := hleft
  exact ((tidy_of_launched hlaunched).step hstep).drop attempt

theorem WebviewInv.event (hinv : WebviewInv state) (hstep : EventStep state next) :
    WebviewInv next := by
  cases hstep <;> exact ⟨hinv.webview, hinv.abandoned⟩

/-- A step that leaves the web view and its remains alone. -/
theorem WebviewInv.runs (hinv : WebviewInv state) (hbefore : state.stage.isReturned = false)
    (hafter : next.stage.isReturned = false) (hwebview : next.webview = state.webview)
    (habandoned : next.abandoned = state.abandoned) : WebviewInv next where
  webview owner howner := by
    have htidy := hinv.webview owner (hwebview ▸ howner)
    rwa [hafter, ← hbefore]
  abandoned owner howner := hinv.abandoned owner (habandoned ▸ howner)

/-- A step of the owner of the web view. -/
theorem WebviewInv.asks (hinv : WebviewInv state) {owner after : OwnerState V}
    {answered : OwnerAnswered} (howner : state.webview = some owner)
    (hstep : Webview.OwnerStep owner answered after) (hbefore : state.stage.isReturned = false)
    (hafter : next.stage.isReturned = false) (hwebview : next.webview = some after)
    (habandoned : next.abandoned = state.abandoned) : WebviewInv next where
  webview found hfound := by
    obtain rfl := Option.some.inj (hwebview.symm.trans hfound)
    have htidy := hinv.webview owner howner
    rw [hbefore] at htidy
    rw [hafter]
    exact WebviewTidy.step htidy hstep
  abandoned found hfound := hinv.abandoned found (habandoned ▸ hfound)

theorem WebviewInv.runner (hinv : WebviewInv state)
    (hstep : RunnerStep world config state next) : WebviewInv next := by
  have hreturned : ∀ {stage : Stage} {after : ShellState W P V E}, state.stage = stage →
      stage.isReturned = true → after.stage.isReturned = true →
        after.webview = state.webview → after.abandoned = state.abandoned → WebviewInv after := by
    intro stage after hstage hbefore hafter hwebview habandoned
    refine ⟨fun owner howner => ?_, fun owner howner => hinv.abandoned owner (habandoned ▸ howner)⟩
    have hclosed := hinv.webview owner (hwebview ▸ howner)
    rw [hstage, hbefore] at hclosed
    rwa [hafter]
  cases hstep with
  | preflight answer hstage =>
      cases answer <;> exact hinv.runs (by rw [hstage]; rfl) rfl rfl rfl
  | nativeFailed hstage => exact hinv.runs (by rw [hstage]; rfl) rfl rfl rfl
  | nativeLaunched hstage happ => exact hinv.runs (by rw [hstage]; rfl) rfl rfl rfl
  | browserMaterial hstage happ =>
      refine hinv.runs (by rw [hstage]; rfl) ?_ rfl rfl
      dsimp only
      split <;> rfl
  | webviewFailed hstage hleft =>
      obtain ⟨hwebview, -⟩ := hinv
      rw [hstage] at hwebview
      exact ⟨hwebview, closed_of_failed hleft⟩
  | webviewLaunched hstage howner =>
      have hstage' : (if config.closeAfterReady then Stage.hide false else .ready).isReturned =
          false := by split <;> rfl
      refine ⟨fun found hfound => ?_, hinv.abandoned⟩
      obtain rfl := Option.some.inj hfound
      dsimp only
      rw [hstage']
      exact tidy_of_launched howner
  | abandon hstage happ hcall hstep => exact hinv.runs (by rw [hstage]; rfl) rfl rfl rfl
  | receive hstage hchannel => exact hinv.runs (by rw [hstage]; rfl) rfl rfl rfl
  | disconnected hstage hchannel hexited => exact hinv.runs (by rw [hstage]; rfl) rfl rfl rfl
  | poll hstage happ hcall hstep =>
      refine hinv.runs (by rw [hstage]; rfl) ?_ rfl rfl
      dsimp only
      split <;> rfl
  | hideUnhealthy hstage howner hcall hstep =>
      exact hinv.asks howner hstep (by rw [hstage]; rfl) rfl rfl rfl
  | closeUnhealthy hstage howner hcall hstep =>
      exact hinv.asks howner hstep (by rw [hstage]; rfl) rfl rfl rfl
  | hide hstage howner hcall hstep =>
      exact hinv.asks howner hstep (by rw [hstage]; rfl) rfl rfl rfl
  | stopNative hstage happ hcall hstep => exact hinv.runs (by rw [hstage]; rfl) rfl rfl rfl
  | stopWebview hstage howner hcall hstep =>
      exact hinv.asks howner hstep (by rw [hstage]; rfl) rfl rfl rfl
  | leave attempt hstage hdropped =>
      refine ⟨fun owner howner => ?_, hinv.abandoned⟩
      obtain ⟨before, hbefore, rfl⟩ := Option.map_eq_some_iff.mp howner
      have htidy := hinv.webview before hbefore
      rw [hstage] at htidy
      exact WebviewTidy.drop htidy attempt
  | report written hstage => exact hreturned hstage rfl rfl rfl rfl
  | allow hstage => exact hreturned hstage rfl rfl rfl rfl
  | exit hstage => exact hreturned hstage rfl rfl rfl rfl

end Rpackit.Shell
