import Rpackit.Shell.Owners

/-! # Runs of the shell

However the event loop and the runner interleave, the first signal decides about the cleanup,
the exit comes after it, and evidence of a success stands for what the owners met.
-/

namespace Rpackit.Shell

open Lifecycle (World NativeAppOwner NativeAppShutdownReport AppAnswered AppStep StoppedWell)
open Webview (OwnerState OwnerAnswered OwnerStep WebviewShutdownReport launchedOwner)

variable {W P V E : Type} {world : World W} {config : ShellConfig}
  {state next : ShellState W P V E}

/-! ## Outcomes -/

/-- The outcome that the runner has come to. -/
def Stage.outcome : Stage → Option ShellOutcome
  | .leave outcome => some outcome
  | .report outcome => some outcome
  | .allow outcome _ => some outcome
  | .exit outcome _ => some outcome
  | .finished outcome _ => some outcome
  | _ => none

/-- The outcome for which the evidence was due, and the code that follows. -/
def Stage.coded : Stage → Option (ShellOutcome × Int)
  | .allow outcome code => some (outcome, code)
  | .exit outcome code => some (outcome, code)
  | .finished outcome code => some (outcome, code)
  | _ => none

/-- What a report of the application stands for when the cleanup was forced, or was not. -/
structure HonestNative (world : World W) (forced : Bool) (report : NativeAppShutdownReport)
    (app : NativeAppOwner W P) (answered : AppAnswered E) : Prop where
  well : StoppedWell world app answered
  proxyStopped : report.proxyStopped = true
  jobEmpty : report.runtime.jobEmpty = true
  sessionRemoved : report.runtime.sessionRemoved = true
  kind : forced = true → report.runtime.kind = .forced

/-- What a success stands for. -/
structure HonestSuccess (world : World W) (config : ShellConfig) (state : ShellState W P V E)
    (success : ShellSuccess) : Prop where
  native : ∃ app answered, state.stoppedNative = some (app, answered) ∧
    HonestNative world success.forced success.native app answered
  webview : ∃ owner answered, state.stoppedWebview = some (owner, answered) ∧
    Webview.Reported answered.answers answered.attempts success.webview
  owned : state.webview.isSome = true
  forced : success.forced = (state.received == some .forced)
  closes : config.closeAfterReady = true → state.received = none
  waits : config.closeAfterReady = false → state.received.isSome = true

structure OutcomeInv (world : World W) (config : ShellConfig) (state : ShellState W P V E) :
    Prop where
  native : ∀ forced report, state.stage = .stopWebview forced (some report) →
    ∃ app answered, state.stoppedNative = some (app, answered) ∧
      HonestNative world forced report app answered
  success : ∀ success, state.stage.outcome = some (.ok success) →
    HonestSuccess world config state success
  code : ∀ outcome code, state.stage.coded = some (outcome, code) →
    (code = 0 ↔ outcome.isOk = true ∧
      (config.evidence = true → state.evidence = some (.ofOutcome outcome)))
  evidence : ∀ evidence, state.evidence = some evidence →
    ∃ outcome code, state.stage.coded = some (outcome, code) ∧ evidence = .ofOutcome outcome

/-- A success stands for what the two stops met, whatever happens afterwards. -/
theorem HonestSuccess.later {success : ShellSuccess}
    (hhonest : HonestSuccess world config state success)
    (hnative : next.stoppedNative = state.stoppedNative)
    (hwebview : next.stoppedWebview = state.stoppedWebview)
    (howned : next.webview.isSome = state.webview.isSome)
    (hreceived : next.received = state.received) : HonestSuccess world config next success where
  native := by rw [hnative]; exact hhonest.native
  webview := by rw [hwebview]; exact hhonest.webview
  owned := by rw [howned]; exact hhonest.owned
  forced := by rw [hreceived]; exact hhonest.forced
  closes h := by rw [hreceived]; exact hhonest.closes h
  waits h := by rw [hreceived]; exact hhonest.waits h

/-- The runner has no report and no success, and the evidence was not due. -/
def Stage.isQuiet : Stage → Bool
  | .stopWebview _ (some _) => false
  | .leave (.ok _) => false
  | .report _ | .allow _ _ | .exit _ _ | .finished _ _ => false
  | _ => true

/-- A step before the outcome. -/
theorem OutcomeInv.runs (hinv : OutcomeInv world config state) (hbefore : state.stage.coded = none)
    (hquiet : next.stage.isQuiet = true) (hevidence : next.evidence = state.evidence) :
    OutcomeInv world config next where
  native forced report h := by
    rw [h] at hquiet
    cases hquiet
  success success h := by
    cases hstage : next.stage <;> rw [hstage] at h hquiet <;> cases h <;> cases hquiet
  code outcome code h := by
    cases hstage : next.stage <;> rw [hstage] at h hquiet <;> cases h <;> cases hquiet
  evidence evidence h := by
    obtain ⟨outcome, code, hcode, -⟩ := hinv.evidence evidence (hevidence ▸ h)
    rw [hbefore] at hcode
    cases hcode

/-- A step after the outcome. -/
theorem OutcomeInv.passes (hinv : OutcomeInv world config state)
    (hnative : ∀ forced report, next.stage ≠ .stopWebview forced report)
    (houtcome : next.stage.outcome = state.stage.outcome)
    (hcoded : next.stage.coded = state.stage.coded) (hevidence : next.evidence = state.evidence)
    (hlater : ∀ success, HonestSuccess world config state success →
      HonestSuccess world config next success) : OutcomeInv world config next where
  native forced report h := absurd h (hnative forced (some report))
  success success h := hlater success (hinv.success success (houtcome ▸ h))
  code outcome code h := by
    rw [hevidence]
    exact hinv.code outcome code (hcoded ▸ h)
  evidence evidence h := by
    rw [hcoded]
    exact hinv.evidence evidence (hevidence ▸ h)

theorem reported_eq_some_iff {ε α : Type} {answer : Except ε (Option α)} {report : α} :
    reported answer = some report ↔ answer = .ok (some report) := by
  cases answer with
  | ok found => exact ⟨congrArg Except.ok, Except.ok.inj⟩
  | error error => exact ⟨fun h => (by cases h), fun h => (by cases h)⟩

theorem finishShell_eq_ok {version : String} {forced : Bool}
    {native : Option NativeAppShutdownReport} {webview : Option WebviewShutdownReport}
    {success : ShellSuccess} (hfinish : finishShell version forced native webview = .ok success) :
    native = some success.native ∧ webview = some success.webview ∧ success.forced = forced := by
  cases native with
  | none => cases hfinish
  | some native =>
      cases webview with
      | none => cases hfinish
      | some webview =>
          cases hfinish
          exact ⟨rfl, rfl, rfl⟩

theorem OutcomeInv.event (hinv : OutcomeInv world config state) (hstep : EventStep state next) :
    OutcomeInv world config next := by
  cases hstep <;> exact ⟨hinv.native,
    fun success h => (hinv.success success h).later rfl rfl rfl rfl, hinv.code, hinv.evidence⟩

theorem OutcomeInv.runner (hinv : OutcomeInv world config state) (hsignal : SignalInv state)
    (hwait : WaitInv config state) (hnative : NativeInv world state) (howned : WebviewInv state)
    (hstep : RunnerStep world config state next) : OutcomeInv world config next := by
  cases hstep with
  | preflight answer hstage => cases answer <;> exact hinv.runs (by rw [hstage]; rfl) rfl rfl
  | nativeFailed hstage => exact hinv.runs (by rw [hstage]; rfl) rfl rfl
  | nativeLaunched hstage happ => exact hinv.runs (by rw [hstage]; rfl) rfl rfl
  | browserMaterial hstage happ =>
      refine hinv.runs (by rw [hstage]; rfl) ?_ rfl
      dsimp only
      split <;> rfl
  | webviewFailed hstage hleft => exact hinv.runs (by rw [hstage]; rfl) rfl rfl
  | webviewLaunched hstage howner =>
      refine hinv.runs (by rw [hstage]; rfl) ?_ rfl
      dsimp only
      split <;> rfl
  | abandon hstage happ hcall hstep => exact hinv.runs (by rw [hstage]; rfl) rfl rfl
  | receive hstage hchannel => exact hinv.runs (by rw [hstage]; rfl) rfl rfl
  | disconnected hstage hchannel hexited => exact hinv.runs (by rw [hstage]; rfl) rfl rfl
  | poll hstage happ hcall hstep =>
      refine hinv.runs (by rw [hstage]; rfl) ?_ rfl
      dsimp only
      split <;> rfl
  | hideUnhealthy hstage howner hcall hstep => exact hinv.runs (by rw [hstage]; rfl) rfl rfl
  | closeUnhealthy hstage howner hcall hstep => exact hinv.runs (by rw [hstage]; rfl) rfl rfl
  | hide hstage howner hcall hstep => exact hinv.runs (by rw [hstage]; rfl) rfl rfl
  | stopNative hstage happ hcall hstep =>
      refine ⟨fun found report h => ?_, fun success h => (by cases h), fun outcome code h =>
        (by cases h), fun evidence h => ?_⟩
      · obtain ⟨rfl, hreport⟩ := Stage.stopWebview.inj h
        have hanswer := reported_eq_some_iff.mp hreport
        obtain ⟨hstopped, hkind⟩ := Lifecycle.appStep_reports hstep hanswer
        obtain ⟨_, _, _, -, -, hhonest⟩ := hstopped.honest
        have hproxy := hnative.serving (by rw [hstage]; rfl) _ happ
        refine ⟨_, _, rfl, ?_, hstopped.proxyStopped, hhonest.jobEmpty, hhonest.sessionRemoved,
          fun hforced => hkind (by rw [hcall, if_pos hforced])⟩
        exact Lifecycle.appStep_stoppedWell (hnative.launched _ happ) hproxy hstep hanswer
      · obtain ⟨outcome, code, hcode, -⟩ := hinv.evidence evidence h
        rw [hstage] at hcode
        cases hcode
  | stopWebview hstage howner hcall hstep =>
      refine ⟨fun found report h => (by cases h), fun success h => ?_, fun outcome code h =>
        (by cases h), fun evidence h => ?_⟩
      · obtain ⟨rfl, hwebview, rfl⟩ := finishShell_eq_ok (Option.some.inj h)
        have htidy := howned.webview _ howner
        rw [hstage] at htidy
        obtain ⟨parent, path, htidy⟩ : WebviewTidy _ := htidy
        obtain ⟨-, -, -, hreported⟩ := (hstep.left htidy).2 _ (reported_eq_some_iff.mp hwebview)
        exact ⟨hinv.native _ _ hstage, ⟨_, _, rfl, hreported⟩, rfl,
          hsignal.forced _ (by rw [hstage]; rfl), fun hcloses => (hwait.closes hcloses).2,
          fun hwaits => hwait.waits hwaits (by rw [hstage]; rfl)⟩
      · obtain ⟨outcome, code, hcode, -⟩ := hinv.evidence evidence h
        rw [hstage] at hcode
        cases hcode
  | leave attempt hstage hdropped =>
      exact hinv.passes (by simp) (by rw [hstage]; rfl) (by rw [hstage]; rfl) rfl
        fun _ hhonest => hhonest.later rfl rfl Option.isSome_map rfl
  | report written hstage =>
      have hnone : state.evidence = none := by
        refine Option.eq_none_iff_forall_ne_some.mpr fun evidence h => ?_
        obtain ⟨outcome, code, hcode, -⟩ := hinv.evidence evidence h
        rw [hstage] at hcode
        cases hcode
      refine ⟨fun found report h => (by cases h), fun success h => ?_, fun found code h => ?_,
        fun evidence h => ⟨_, _, rfl, ?_⟩⟩
      · exact (hinv.success success (by rw [hstage]; exact h)).later rfl rfl rfl rfl
      · obtain ⟨rfl, rfl⟩ := Prod.mk.inj (Option.some.inj h)
        cases config.evidence <;> cases written <;> simp [hnone]
      · dsimp only at h
        split at h
        next => exact (Option.some.inj h).symm
        next =>
          rw [hnone] at h
          cases h
  | allow hstage =>
      exact hinv.passes (by simp) (by rw [hstage]; rfl) (by rw [hstage]; rfl) rfl
        fun _ hhonest => hhonest.later rfl rfl rfl rfl
  | exit hstage =>
      exact hinv.passes (by simp) (by rw [hstage]; rfl) (by rw [hstage]; rfl) rfl
        fun _ hhonest => hhonest.later rfl rfl rfl rfl

/-! ## Runs -/

structure ShellInv (world : World W) (config : ShellConfig) (state : ShellState W P V E) :
    Prop where
  signal : SignalInv state
  wait : WaitInv config state
  exit : ExitInv state
  native : NativeInv world state
  webview : WebviewInv state
  outcome : OutcomeInv world config state

theorem shellInv_start (world : World W) (config : ShellConfig) (resolved : Bool) :
    ShellInv world config (shellStart resolved : ShellState W P V E) := by
  cases resolved with
  | true =>
      exact ⟨⟨rfl, rfl, fun _ => rfl, fun _ h => (by cases h)⟩,
        ⟨fun _ => ⟨by simp [shellStart], rfl⟩, fun _ h => (by cases h)⟩,
        ⟨rfl, fun h => (by cases h), fun _ h => (by cases h)⟩,
        ⟨fun _ h => (by cases h), fun h => (by cases h), fun h => (by cases h),
          fun _ h => (by cases h)⟩,
        ⟨fun _ h => (by cases h), fun _ h => (by cases h)⟩,
        ⟨fun _ _ h => (by cases h), fun _ h => (by cases h), fun _ _ h => (by cases h),
          fun _ h => (by cases h)⟩⟩
  | false =>
      exact ⟨⟨rfl, rfl, fun _ => rfl, fun _ h => (by cases h)⟩,
        ⟨fun _ => ⟨by simp [shellStart], rfl⟩, fun _ h => (by cases h)⟩,
        ⟨rfl, fun h => (by cases h), fun _ h => (by cases h)⟩,
        ⟨fun _ h => (by cases h), fun h => (by cases h), fun h => (by cases h),
          fun _ h => (by cases h)⟩,
        ⟨fun _ h => (by cases h), fun _ h => (by cases h)⟩,
        ⟨fun _ _ h => (by cases h), fun _ h => (by cases h), fun _ _ h => (by cases h),
          fun _ h => (by cases h)⟩⟩

theorem ShellInv.step {label : Unit} (hinv : ShellInv world config state)
    (hstep : ShellStep world config state label next) : ShellInv world config next := by
  obtain ⟨hsignal, hwait, hexit, hnative, hwebview, houtcome⟩ := hinv
  obtain hstep | hstep := hstep
  · exact ⟨hsignal.event hstep, hwait.event hstep, hexit.event hstep, hnative.event hstep,
      hwebview.event hstep, houtcome.event hstep⟩
  · exact ⟨hsignal.runner hexit hstep, hwait.runner hexit hstep, hexit.runner hstep,
      hnative.runner hstep, hwebview.runner hstep,
      houtcome.runner hsignal hwait hnative hwebview hstep⟩

section Results

variable {resolved : Bool} {labels : List Unit}

theorem shellInv_of_run
    (hrun : Run (ShellStep world config) (shellStart resolved) labels state) :
    ShellInv world config state := by
  refine hrun.invariant ?_ (shellInv_start world config resolved)
  intro _ _ _ hbefore hstep
  exact ShellInv.step hbefore hstep

/-- Once the exit is allowed, a request without a code ends the event loop whatever the code of
the runner is. -/
theorem exits_without_code (hidle : state.eventLoop = .idle) (hallowed : state.allowExit = true) :
    ∃ labels, Run (ShellStep world config) state labels
      { state with eventLoop := .exited none } := by
  have henter : EventStep state { state with eventLoop := .entered (.exitRequested none) } :=
    .enter _ hidle fun code h => by cases h
  exact ⟨[(), ()], .cons (.inl henter) (.single (.inl (.exit rfl hallowed)))⟩

/-- Evidence of a success says that everything was cleaned up, and it stands for what the two
stops met: the proxy answered well, the Job was seen empty and the session removed, the cookie
was seen to be gone, the browsing data cleared, the window destroyed once, and then the profile
seen to be gone. A forced shutdown in it is that of a shell that waits and was first asked for a
forced one, and it is never called graceful. Evidence of a failure claims nothing but its
stage. -/
theorem shell_evidence_honest {evidence : ShellEvidence}
    (hrun : Run (ShellStep world config) (shellStart resolved) labels state)
    (hevidence : state.evidence = some evidence) :
    (evidence.success = true →
      (evidence.proxyStopped = true ∧ evidence.jobEmpty = true ∧
        evidence.privateSessionRemoved = true ∧ evidence.sessionCookieAbsent = true ∧
        evidence.browsingDataClearQueued = true ∧ evidence.windowDestroyed = true ∧
        evidence.profileRemoved = true) ∧
      (∃ app answered, state.stoppedNative = some (app, answered) ∧
        StoppedWell world app answered) ∧
      (∃ owner answered, state.stoppedWebview = some (owner, answered) ∧
        Webview.Reported answered.answers answered.attempts ⟨true, true, true, true⟩) ∧
      (∃ owner, state.webview = some owner ∧ WebviewClosed owner) ∧
      (evidence.forcedShutdown = true ↔
        config.closeAfterReady = false ∧ state.requests.head? = some .forced) ∧
      (evidence.forcedShutdown = true → evidence.gracefulRuntimeShutdown = false)) ∧
    (evidence.success = false → ∃ failure, evidence = .ofFailure failure) := by
  obtain ⟨hsignal, -, -, -, hwebviews, houtcome⟩ := shellInv_of_run hrun
  obtain ⟨outcome, code, hcoded, rfl⟩ := houtcome.evidence evidence hevidence
  cases outcome with
  | error failure => exact ⟨fun h => (by cases h), fun _ => ⟨failure, rfl⟩⟩
  | ok success =>
      have hlast : state.stage.outcome = some (.ok success) ∧
          state.stage.isReturned = true := by
        cases hstage : state.stage <;> rw [hstage] at hcoded <;> cases hcoded <;> exact ⟨rfl, rfl⟩
      have hhonest := houtcome.success success hlast.1
      obtain ⟨app, answered, hstopped, hnative⟩ := hhonest.native
      obtain ⟨before, closing, hclosing, hreported⟩ := hhonest.webview
      obtain ⟨owner, howner⟩ := Option.isSome_iff_exists.mp hhonest.owned
      have hclosed := hwebviews.webview owner howner
      rw [hlast.2] at hclosed
      have hcomplete := hreported.complete
      have hforced : success.forced = true ↔
          config.closeAfterReady = false ∧ state.requests.head? = some .forced := by
        rw [hhonest.forced, beq_iff_eq]
        exact hsignal.received_iff hhonest.closes hhonest.waits
      refine ⟨fun _ => ⟨?_, ⟨app, answered, hstopped, hnative.well⟩,
        ⟨before, closing, hclosing, hcomplete ▸ hreported⟩, ⟨owner, howner, hclosed⟩, hforced,
        fun h => ?_⟩, fun h => (by cases h)⟩
      · simp only [ShellEvidence.ofOutcome, ShellEvidence.ofSuccess, hnative.proxyStopped,
          hnative.jobEmpty, hnative.sessionRemoved, hcomplete, and_self]
      · simp only [ShellEvidence.ofOutcome, ShellEvidence.ofSuccess, hnative.kind h]
        rfl

end Results

/-! ## A destroyed window -/

section Fixture

open Lifecycle (Schedule scheduledWorld appOf appForced startApp calm forcedReport)

def reportingConfig : ShellConfig := ⟨false, true⟩

def forcedSuccess : ShellSuccess :=
  ⟨"120.0.2210.55", ⟨forcedReport, true⟩, ⟨true, true, true, true⟩, true⟩

def forcedStop : AppAnswered Unit := ⟨.forceShutdown, calm, 4, .ok (some ⟨forcedReport, true⟩)⟩

def hiddenWebview : OwnerState Unit :=
  { launchedOwner () Webview.profileParent Webview.profilePath 1000 with calls := [.hide] }

def hideAnswered : OwnerAnswered := ⟨.hide, Webview.calmWindow, 0, [], .ok none⟩

def closeAnswered : OwnerAnswered :=
  ⟨.shutdown, Webview.calmWindow, 10, [Webview.removingAttempt],
    .ok (some ⟨true, true, true, true⟩)⟩

/-- The main window was destroyed while the runner waited, and the runner came to its end. -/
def closedShell : ShellState Schedule Unit Unit Unit where
  cleanupStarted := true
  allowExit := true
  channel := []
  eventLoop := .exited (some 0)
  stage := .finished (.ok forcedSuccess) 0
  native := some ⟨none, none⟩
  webview := some (Webview.SecureWebviewOwner.drop Webview.removingAttempt Webview.cleanState)
  version := "120.0.2210.55"
  evidence := some (.ofSuccess forcedSuccess)
  abandoned := none
  requests := [.forced]
  received := some .forced
  stoppedNative := some (appOf scheduledWorld, forcedStop)
  stoppedWebview := some (hiddenWebview, closeAnswered)
  released := none

theorem launchedApp_fixture : LaunchedApp scheduledWorld (appOf scheduledWorld) := by
  have hok : (startApp scheduledWorld).1 = .ok () := by
    rw [startApp, Lifecycle.monitorStdout_fixture]
    decide +kernel
  have hlaunch := Lifecycle.startApp_launched scheduledWorld (.inl rfl)
  rw [hok] at hlaunch
  exact ⟨(), (startApp scheduledWorld).2, _, _, _, _, _, _, _, _, rfl, hlaunch⟩

/-- The forced stop reports, and leaves neither owner. -/
theorem forcedStop_step :
    AppStep scheduledWorld (appOf scheduledWorld) forcedStop ⟨none, none⟩ := by
  have hforced : (appForced scheduledWorld).1 = .ok (some ⟨forcedReport, true⟩) := by
    rw [appForced, appOf, startApp, Lifecycle.monitorStdout_fixture]
    decide +kernel
  have hstop : AppStep scheduledWorld (appOf scheduledWorld) forcedStop
      (appForced scheduledWorld).2 := Lifecycle.appStep_of_answer hforced
  obtain ⟨hstopped, -⟩ := Lifecycle.appStep_reports hstop rfl
  have hgone : (appForced scheduledWorld).2 = ⟨none, none⟩ := by
    rcases hleft : (appForced scheduledWorld).2 with ⟨proxy, runtime⟩
    have hproxy := hstopped.proxy
    have hruntime := hstopped.runtime
    rw [hleft] at hproxy hruntime
    rw [show proxy = none from hproxy, show runtime = none from hruntime]
  rw [hgone] at hstop
  exact hstop

theorem closedShell_run : ∃ labels,
    Run (ShellStep scheduledWorld reportingConfig) (shellStart true) labels closedShell := by
  have hdropped : DroppedApp scheduledWorld Unit (some ⟨none, none⟩)
      (some (⟨none, none⟩ : NativeAppOwner Schedule Unit)) none := ⟨0, none, _, rfl, rfl⟩
  have hhide : OwnerStep (launchedOwner () Webview.profileParent Webview.profilePath 1000)
      hideAnswered hiddenWebview := rfl
  have hclose : OwnerStep hiddenWebview closeAnswered Webview.cleanState := rfl
  refine ⟨[(), (), (), (), (), (), (), (), (), (), (), (), (), (), (), (), (), ()], ?_⟩
  exact
    .cons (.inr (.preflight (some "120.0.2210.55") rfl)) <|
    .cons (.inr (.nativeLaunched rfl launchedApp_fixture)) <|
    .cons (.inr (.browserMaterial rfl rfl)) <|
    .cons (.inr (.webviewLaunched rfl ⟨_, _, _, _, rfl⟩)) <|
    .cons (.inl (.enter .destroyed rfl (by simp))) <|
    .cons (.inl (.refuse rfl rfl)) <|
    .cons (.inl (.exchange rfl)) <|
    .cons (.inl (.send rfl)) <|
    .cons (.inr (.receive rfl rfl)) <|
    .cons (.inr (.hide rfl rfl rfl hhide)) <|
    .cons (.inr (.stopNative rfl rfl rfl forcedStop_step)) <|
    .cons (.inr (.stopWebview rfl rfl rfl hclose)) <|
    .cons (.inr (.leave Webview.removingAttempt rfl hdropped)) <|
    .cons (.inr (.report true rfl)) <|
    .cons (.inr (.allow rfl)) <|
    .cons (.inr (.exit rfl)) <|
    .cons (.inl (.enter (.exitRequested (some 0)) rfl (by rintro _ ⟨⟩; exact ⟨_, rfl⟩))) <|
    .single (.inl (.exit rfl rfl))

theorem shell_evidence_honest_closed :
    StoppedWell scheduledWorld (appOf scheduledWorld) forcedStop ∧
      (ShellEvidence.ofSuccess forcedSuccess).gracefulRuntimeShutdown = false := by
  obtain ⟨_, hrun⟩ := closedShell_run
  obtain ⟨-, ⟨app, answered, hstopped, hwell⟩, -, -, -, hforced⟩ :=
    (shell_evidence_honest hrun rfl).1 rfl
  obtain ⟨rfl, rfl⟩ := Prod.mk.inj (Option.some.inj hstopped)
  exact ⟨hwell, hforced rfl⟩

end Fixture

end Rpackit.Shell
