import Rpackit.Lifecycle.Desktop

/-! # The runtime and the reports of the native application owner

An operation of the application makes calls of the runtime owner, so every runtime that is
still owned, or that a drop leaves, is the end of a run of its own. A stop of both owners that
reports leaves neither of them, and its report stands for what the stop met.
-/

namespace Rpackit.Lifecycle

variable {W P E : Type} {world : World W}

namespace NativeAppOwner

variable {around : Surroundings E} {fuel : Nat} {start next : NativeAppOwner W P}

/-- What a report of a stop stands for: neither is owned any more, a proxy that was owned
answered well to its shutdown, and the runtime was stopped with an honest report. -/
structure Stopped (world : World W) (around : Surroundings E) (report : NativeAppShutdownReport)
    (start app : NativeAppOwner W P) : Prop where
  proxy : app.proxy = none
  runtime : app.runtime = none
  proxyStopped : report.proxyStopped = true
  answered : start.proxy.isSome = true → around.proxyStop = .ok ()
  honest : ∃ machine call left, start.runtime = some machine ∧
    OwnerStep world machine ⟨call, .ok (some report.runtime)⟩ left ∧
      HonestReport world report.runtime machine left

theorem settled_bind_eq_ok {α β : Type} {x : App W P E α}
    {f : Except (NativeAppError E) α → App W P E β} {b : β}
    (hrun : (settled x >>= f) start = (.ok b, next)) :
    ∃ answer middle, x start = (answer.mapError AppStop.failed, middle) ∧
      f answer middle = (.ok b, next) := by
  have hmapped : (settled x >>= f) start =
      ((.ok b : Except (NativeAppError E) β).mapError AppStop.failed, next) := hrun
  exact settled_bind hmapped

theorem finishShutdown_eq_ok {runtime : Except (NativeAppError E) ShutdownReport}
    {proxy : Except (NativeAppError E) Unit} {report : NativeAppShutdownReport}
    (hfinish : finishShutdown runtime proxy = .ok report) :
    proxy = .ok () ∧ ∃ stopped, runtime = .ok stopped ∧ report = ⟨stopped, true⟩ := by
  cases runtime with
  | ok stopped =>
      cases proxy with
      | ok _ => exact ⟨rfl, stopped, rfl, (Except.ok.inj hfinish).symm⟩
      | error error => cases hfinish
  | error error => cases proxy <;> cases hfinish

theorem stopProxy_ok (hstop : stopProxy around start = (.ok (), next)) :
    next = { start with proxy := none } ∧
      (start.proxy.isSome = true → around.proxyStop = .ok ()) := by
  rw [stopProxy, get_bind] at hstop
  cases hproxy : start.proxy with
  | none =>
      rw [hproxy] at hstop
      cases hstop
      obtain ⟨proxy, runtime⟩ := start
      obtain rfl : proxy = none := hproxy
      exact ⟨rfl, fun hsome => by cases hsome⟩
  | some proxy =>
      rw [hproxy] at hstop
      obtain ⟨_, taken, htake, hstop⟩ := Program.bind_eq_ok_iff.mp hstop
      cases htake
      cases hanswer : around.proxyStop with
      | ok _ =>
          rw [hanswer] at hstop
          cases hstop
          exact ⟨rfl, fun _ => rfl⟩
      | error error =>
          rw [hanswer] at hstop
          cases hstop

theorem stopRuntime_ok {kind : RuntimeStop} {report : ShutdownReport}
    (hstop : stopRuntime world around fuel kind start = (.ok report, next)) :
    next = { start with runtime := none } ∧
      (∃ machine call left, start.runtime = some machine ∧
        OwnerStep world machine ⟨call, .ok (some report)⟩ left ∧
          HonestReport world report machine left) ∧
      (kind = .forced → report.kind = .forced) := by
  rw [stopRuntime, get_bind] at hstop
  cases hruntime : start.runtime with
  | none =>
      rw [hruntime] at hstop
      cases hstop
  | some machine =>
      rw [hruntime] at hstop
      dsimp only at hstop
      rw [setRuntime_bind] at hstop
      split at hstop
      next => cases hstop
      next =>
        rcases hinner : stop world fuel kind machine with ⟨(error | _) | answer, left⟩
        · rw [hinner] at hstop
          cases hstop
        · rw [hinner] at hstop
          cases hstop
        · rw [hinner] at hstop
          cases hstop
          cases kind with
          | graceful =>
              obtain ⟨hhonest, -⟩ := shutdown_ok hinner
              have hcalled : OwnerStep world machine ⟨.shutdown, .ok (some report)⟩ left :=
                ⟨fuel, Program.bind_of_ok hinner⟩
              exact ⟨rfl, ⟨machine, _, left, rfl, hcalled, hhonest⟩, fun h => by cases h⟩
          | forced =>
              obtain ⟨hhonest, hkind⟩ := forceShutdown_ok hinner
              have hcalled : OwnerStep world machine ⟨.forceShutdown, .ok (some report)⟩ left :=
                ⟨fuel, Program.bind_of_ok hinner⟩
              exact ⟨rfl, ⟨machine, _, left, rfl, hcalled, hhonest⟩, fun _ => hkind⟩

theorem shutdown_reports {report : NativeAppShutdownReport}
    (hrun : shutdown world around fuel start = (.ok report, next)) :
    Stopped world around report start next := by
  rw [shutdown, get_bind] at hrun
  split at hrun
  next => cases hrun
  next =>
    obtain ⟨runtime, stopped, hruntime, hrun⟩ := settled_bind_eq_ok hrun
    obtain ⟨proxy, last, hproxy, hrun⟩ := settled_bind_eq_ok hrun
    obtain ⟨hfinish, rfl⟩ := Prod.mk.inj hrun
    obtain ⟨rfl, answer, rfl, rfl⟩ := finishShutdown_eq_ok (Fallible.mapError_eq_ok_iff.mp hfinish)
    obtain ⟨rfl, hhonest, -⟩ := stopRuntime_ok hruntime
    obtain ⟨rfl, hanswered⟩ := stopProxy_ok hproxy
    exact ⟨rfl, rfl, rfl, hanswered, hhonest⟩

theorem forceShutdown_reports {report : NativeAppShutdownReport}
    (hrun : forceShutdown world around fuel start = (.ok report, next)) :
    Stopped world around report start next ∧ report.runtime.kind = .forced := by
  rw [forceShutdown, get_bind] at hrun
  split at hrun
  next => cases hrun
  next =>
    obtain ⟨proxy, stopped, hproxy, hrun⟩ := settled_bind_eq_ok hrun
    obtain ⟨runtime, last, hruntime, hrun⟩ := settled_bind_eq_ok hrun
    obtain ⟨hfinish, rfl⟩ := Prod.mk.inj hrun
    obtain ⟨rfl, answer, rfl, rfl⟩ := finishShutdown_eq_ok (Fallible.mapError_eq_ok_iff.mp hfinish)
    obtain ⟨rfl, hanswered⟩ := stopProxy_ok hproxy
    obtain ⟨rfl, hhonest, hkind⟩ := stopRuntime_ok hruntime
    exact ⟨⟨rfl, rfl, rfl, hanswered, hhonest⟩, hkind rfl⟩

/-! ## The runs of the runtime -/

/-- The runtime after an operation, if one is owned, is where calls of the runtime owner led. -/
def RuntimeRuns (world : World W) (start next : NativeAppOwner W P) : Prop :=
  ∀ left, next.runtime = some left → ∃ machine calls, start.runtime = some machine ∧
    Run (OwnerStep world) machine calls left

theorem RuntimeRuns.of_eq (hsame : next.runtime = start.runtime) :
    RuntimeRuns world start next :=
  fun left hleft => ⟨left, [], hsame.symm.trans hleft, .nil left⟩

theorem RuntimeRuns.of_none (hnone : next.runtime = none) : RuntimeRuns world start next :=
  fun left hleft => by rw [hnone] at hleft; cases hleft

theorem RuntimeRuns.trans {middle : NativeAppOwner W P} (hfirst : RuntimeRuns world start middle)
    (hsecond : RuntimeRuns world middle next) : RuntimeRuns world start next := by
  intro left hleft
  obtain ⟨machine, later, hmachine, hlater⟩ := hsecond left hleft
  obtain ⟨first, earlier, hfirst, hearlier⟩ := hfirst machine hmachine
  exact ⟨first, earlier ++ later, hfirst, hearlier.append hlater⟩

/-- One call of the runtime owner, and the runtime is put back. -/
theorem RuntimeRuns.called (fuel : Nat) (call : OwnerCall)
    (outcome : Except LifecycleError (Option ShutdownReport)) {machine left : Machine W}
    (hmachine : start.runtime = some machine)
    (hcall : call.run world fuel machine = (outcome.mapError Stop.failed, left))
    (hnext : next.runtime = some left) : RuntimeRuns world start next := by
  intro found hfound
  obtain rfl := Option.some.inj (hnext.symm.trans hfound)
  exact ⟨machine, [⟨call, outcome⟩], hmachine, .single ⟨fuel, hcall⟩⟩

theorem stopRuntime_runs {kind : RuntimeStop} {answer : Except (NativeAppError E) ShutdownReport}
    (hstop : stopRuntime world around fuel kind start = (answer.mapError AppStop.failed, next)) :
    RuntimeRuns world start next := by
  rw [stopRuntime, get_bind] at hstop
  cases hruntime : start.runtime with
  | none =>
      rw [hruntime] at hstop
      obtain rfl : start = next := congrArg Prod.snd hstop
      exact .of_eq rfl
  | some machine =>
      rw [hruntime] at hstop
      dsimp only at hstop
      rw [setRuntime_bind] at hstop
      split at hstop
      next =>
        obtain rfl : { start with runtime := none } = next := congrArg Prod.snd hstop
        exact .of_none rfl
      next =>
        rcases hinner : stop world fuel kind machine with ⟨(error | _) | report, left⟩
        · -- the failed stop is a call of the owner
          rw [hinner] at hstop
          obtain rfl : { start with runtime := some left } = next := congrArg Prod.snd hstop
          cases kind with
          | graceful =>
              exact .called fuel .shutdown (.error error) hruntime
                (Program.bind_of_error hinner) rfl
          | forced =>
              exact .called fuel .forceShutdown (.error error) hruntime
                (Program.bind_of_error hinner) rfl
        · rw [hinner] at hstop
          cases answer <;> cases hstop
        · rw [hinner] at hstop
          obtain rfl : { start with runtime := none } = next := congrArg Prod.snd hstop
          exact .of_none rfl

theorem shutdown_runs {answer : Except (NativeAppError E) NativeAppShutdownReport}
    (hrun : shutdown world around fuel start = (answer.mapError AppStop.failed, next)) :
    RuntimeRuns world start next := by
  rw [shutdown, get_bind] at hrun
  split at hrun
  next =>
    obtain rfl : start = next := congrArg Prod.snd hrun
    exact .of_eq rfl
  next =>
    obtain ⟨runtime, stopped, hruntime, hrun⟩ := settled_bind hrun
    obtain ⟨proxy, last, hproxy, hrun⟩ := settled_bind hrun
    obtain rfl : last = next := congrArg Prod.snd hrun
    have hkept := stopProxy_runtime around stopped
    rw [hproxy] at hkept
    exact (stopRuntime_runs hruntime).trans (.of_eq hkept)

theorem forceShutdown_runs {answer : Except (NativeAppError E) NativeAppShutdownReport}
    (hrun : forceShutdown world around fuel start = (answer.mapError AppStop.failed, next)) :
    RuntimeRuns world start next := by
  rw [forceShutdown, get_bind] at hrun
  split at hrun
  next =>
    obtain rfl : start = next := congrArg Prod.snd hrun
    exact .of_eq rfl
  next =>
    obtain ⟨proxy, stopped, hproxy, hrun⟩ := settled_bind hrun
    obtain ⟨runtime, last, hruntime, hrun⟩ := settled_bind hrun
    obtain rfl : last = next := congrArg Prod.snd hrun
    have hkept := stopProxy_runtime around start
    rw [hproxy] at hkept
    exact (RuntimeRuns.of_eq hkept).trans (stopRuntime_runs hruntime)

/-- A poll is a call of the runtime owner, and a stop after a failed one. -/
theorem pollHealth_runs {answer : Except (NativeAppError E) Unit}
    (hrun : pollHealth world around fuel start = (answer.mapError AppStop.failed, next)) :
    RuntimeRuns world start next := by
  rw [pollHealth, get_bind] at hrun
  cases hruntime : start.runtime with
  | none =>
      rw [hruntime] at hrun
      obtain rfl : start = next := congrArg Prod.snd hrun
      exact .of_eq rfl
  | some machine =>
      rw [hruntime] at hrun
      dsimp only at hrun
      rcases hpoll : Lifecycle.pollHealth world fuel machine with ⟨(error | _) | _, polled⟩
      · rw [hpoll] at hrun
        dsimp only at hrun
        rw [setRuntime_bind] at hrun
        have hpolled : RuntimeRuns world start { start with runtime := some polled } :=
          .called fuel .pollHealth (.error error) hruntime (Program.bind_of_error hpoll) rfl
        obtain ⟨forced, stopped, hforced, hrun⟩ := settled_bind hrun
        have hlast : stopped = next := by
          cases forced with
          | ok report => exact congrArg Prod.snd hrun
          | error cleanup => exact congrArg Prod.snd hrun
        subst hlast
        exact hpolled.trans (forceShutdown_runs hforced)
      · rw [hpoll] at hrun
        cases answer <;> cases hrun
      · rw [hpoll] at hrun
        obtain rfl : { start with runtime := some polled } = next := congrArg Prod.snd hrun
        exact .called fuel .pollHealth (.ok none) hruntime (Program.bind_of_ok hpoll) rfl

/-- A poll of a healthy runtime leaves the proxy alone. -/
theorem pollHealth_ok (hrun : pollHealth world around fuel start = (.ok (), next)) :
    next.proxy = start.proxy := by
  rw [pollHealth, get_bind] at hrun
  cases hruntime : start.runtime with
  | none =>
      rw [hruntime] at hrun
      cases hrun
  | some machine =>
      rw [hruntime] at hrun
      dsimp only at hrun
      rcases hpoll : Lifecycle.pollHealth world fuel machine with ⟨(error | _) | _, polled⟩
      · rw [hpoll] at hrun
        dsimp only at hrun
        rw [setRuntime_bind] at hrun
        obtain ⟨forced, stopped, -, hrun⟩ := settled_bind_eq_ok hrun
        cases forced <;> cases hrun
      · rw [hpoll] at hrun
        cases hrun
      · rw [hpoll] at hrun
        cases hrun
        rfl

theorem retryPrivateCleanup_runs {answer : Except (NativeAppError E) Unit}
    (hrun : retryPrivateCleanup world start = (answer.mapError AppStop.failed, next)) :
    RuntimeRuns world start next := by
  rw [retryPrivateCleanup, get_bind] at hrun
  split at hrun
  next =>
    obtain rfl : start = next := congrArg Prod.snd hrun
    exact .of_eq rfl
  next =>
    cases hruntime : start.runtime with
    | none =>
        rw [hruntime] at hrun
        obtain rfl : start = next := congrArg Prod.snd hrun
        exact .of_eq rfl
    | some machine =>
        rw [hruntime] at hrun
        dsimp only at hrun
        rcases hretry : Lifecycle.retryPrivateCleanup world machine with ⟨(error | _) | _, left⟩
        · rw [hretry] at hrun
          obtain rfl : { start with runtime := some left } = next := congrArg Prod.snd hrun
          exact .called 0 .retryPrivateCleanup (.error error) hruntime
            (Program.bind_of_error hretry) rfl
        · rw [hretry] at hrun
          cases answer <;> cases hrun
        · rw [hretry] at hrun
          obtain rfl : { start with runtime := none } = next := congrArg Prod.snd hrun
          exact .of_none rfl

/-- A drop that comes back leaves nothing owned. The proxy was dropped, and so was a runtime
that was still owned, with a drop of its own. -/
theorem drop_ok {dropped : Option P} {released : Option (Machine W)}
    (hdrop : (drop world fuel : App W P E _) start = (.ok (dropped, released), next)) :
    next = ⟨none, none⟩ ∧ dropped = start.proxy ∧
      (∀ machine, start.runtime = some machine → ∃ answered left, answered.call = .drop ∧
        OwnerStep world machine answered left ∧ released = some left) ∧
      (start.runtime = none → released = none) := by
  obtain ⟨proxy, runtime⟩ := start
  obtain ⟨app, same, hget, hdrop⟩ := Program.bind_eq_ok_iff.mp hdrop
  cases hget
  obtain ⟨_, taken, htaken, hdrop⟩ := Program.bind_eq_ok_iff.mp hdrop
  cases htaken
  rw [setRuntime_bind] at hdrop
  cases runtime with
  | none =>
      cases hdrop
      exact ⟨rfl, rfl, (fun machine hmachine => by cases hmachine), fun _ => rfl⟩
  | some machine =>
      dsimp only at hdrop
      -- what the drop of the runtime answers is ignored
      have hinner : ∃ outcome left, OwnerStep world machine ⟨.drop, outcome⟩ left ∧
          dropped = proxy ∧ released = some left ∧ next = ⟨none, none⟩ := by
        rcases hrun : dropOwner world fuel machine with ⟨(error | _) | _, left⟩
        · rw [hrun] at hdrop
          cases hdrop
          exact ⟨.error error, left, ⟨fuel, Program.bind_of_error hrun⟩, rfl, rfl, rfl⟩
        · rw [hrun] at hdrop
          cases hdrop
        · rw [hrun] at hdrop
          cases hdrop
          exact ⟨.ok none, left, ⟨fuel, Program.bind_of_ok hrun⟩, rfl, rfl, rfl⟩
      obtain ⟨outcome, left, hstep, rfl, rfl, rfl⟩ := hinner
      refine ⟨rfl, rfl, fun found hfound => ?_, fun hnone => by cases hnone⟩
      obtain rfl := Option.some.inj hfound
      exact ⟨_, left, rfl, hstep, rfl⟩

end NativeAppOwner

/-- Every operation of the application makes calls of the runtime owner. -/
theorem appStep_runs {app next : NativeAppOwner W P} {answered : AppAnswered E}
    (hstep : AppStep world app answered next) :
    NativeAppOwner.RuntimeRuns world app next ∧
      (answered.call = .pollHealth → answered.outcome.isOk = true → next.proxy = app.proxy) := by
  obtain ⟨call, around, fuel, outcome⟩ := answered
  cases call with
  | pollHealth =>
      obtain ⟨answer, hpoll⟩ := NativeAppOwner.forwarded hstep
      refine ⟨NativeAppOwner.pollHealth_runs hpoll, fun _ hok => ?_⟩
      cases outcome with
      | error error => cases hok
      | ok report =>
          obtain ⟨_, middle, hhealthy, hanswer⟩ := Program.bind_eq_ok_iff.mp hstep
          cases hanswer
          exact NativeAppOwner.pollHealth_ok hhealthy
  | shutdown =>
      obtain ⟨answer, hshutdown⟩ := NativeAppOwner.forwarded hstep
      exact ⟨NativeAppOwner.shutdown_runs hshutdown, fun hcall => by cases hcall⟩
  | forceShutdown =>
      obtain ⟨answer, hforce⟩ := NativeAppOwner.forwarded hstep
      exact ⟨NativeAppOwner.forceShutdown_runs hforce, fun hcall => by cases hcall⟩
  | retryPrivateCleanup =>
      obtain ⟨answer, hretry⟩ := NativeAppOwner.forwarded hstep
      exact ⟨NativeAppOwner.retryPrivateCleanup_runs hretry, fun hcall => by cases hcall⟩

/-- A stop of the application that reports. -/
theorem appStep_reports {app next : NativeAppOwner W P} {answered : AppAnswered E}
    {report : NativeAppShutdownReport} (hstep : AppStep world app answered next)
    (hreport : answered.outcome = .ok (some report)) :
    NativeAppOwner.Stopped world answered.around report app next ∧
      (answered.call = .forceShutdown → report.runtime.kind = .forced) := by
  obtain ⟨call, around, fuel, outcome⟩ := answered
  obtain rfl := hreport
  cases call with
  | pollHealth =>
      obtain ⟨_, middle, -, hanswer⟩ := Program.bind_eq_ok_iff.mp hstep
      cases hanswer
  | shutdown =>
      obtain ⟨answer, middle, hrun, hanswer⟩ := Program.bind_eq_ok_iff.mp hstep
      cases hanswer
      exact ⟨NativeAppOwner.shutdown_reports hrun, fun hcall => by cases hcall⟩
  | forceShutdown =>
      obtain ⟨answer, middle, hrun, hanswer⟩ := Program.bind_eq_ok_iff.mp hstep
      cases hanswer
      obtain ⟨hstopped, hkind⟩ := NativeAppOwner.forceShutdown_reports hrun
      exact ⟨hstopped, fun _ => hkind⟩
  | retryPrivateCleanup =>
      obtain ⟨_, middle, -, hanswer⟩ := Program.bind_eq_ok_iff.mp hstep
      cases hanswer

/-! ## From the launch on -/

/-- A runtime whose launch became ready, after any calls of its owner. -/
def World.Launched (world : World W) (machine : Machine W) : Prop :=
  ∃ platform fuel bundle port secret limits channel w launched calls,
    launchValidatedInner world platform fuel bundle port secret limits channel w =
      .owned (.ok ()) launched ∧ Run (OwnerStep world) launched calls machine

theorem World.Launched.run {machine stop : Machine W} {calls : List Answered}
    (hlaunched : world.Launched machine) (hrun : Run (OwnerStep world) machine calls stop) :
    world.Launched stop := by
  obtain ⟨platform, fuel, bundle, port, secret, limits, channel, w, launched, before, hlaunch,
    hbefore⟩ := hlaunched
  exact ⟨platform, fuel, bundle, port, secret, limits, channel, w, launched, before ++ calls,
    hlaunch, hbefore.append hrun⟩

theorem World.Launched.ownerInv {machine : Machine W} (hlaunched : world.Launched machine) :
    ∃ process, world.Created process ∧ OwnerInv process machine := by
  obtain ⟨platform, fuel, bundle, port, secret, limits, channel, w, launched, before, hlaunch,
    hbefore⟩ := hlaunched
  obtain ⟨process, hcreated, hinv, -⟩ := ownerInv_of_launched hlaunch nofun
  exact ⟨process, hcreated, ownerInv_run hinv hbefore⟩

/-- The runtime of an application, if it is owned, was launched. -/
def RuntimeLaunched (world : World W) (app : NativeAppOwner W P) : Prop :=
  ∀ machine, app.runtime = some machine → world.Launched machine

theorem RuntimeLaunched.step {app next : NativeAppOwner W P} {answered : AppAnswered E}
    (hlaunched : RuntimeLaunched world app) (hstep : AppStep world app answered next) :
    RuntimeLaunched world next := by
  intro left hleft
  obtain ⟨machine, calls, hmachine, hrun⟩ := (appStep_runs hstep).1 left hleft
  exact (hlaunched machine hmachine).run hrun

/-- What the stop of an application met: its proxy answered well, the call of the runtime owner
saw the Job of the process empty, and the system removed the session. -/
structure StoppedWell (world : World W) (app : NativeAppOwner W P) (answered : AppAnswered E) :
    Prop where
  proxy : app.proxy.isSome = true
  proxyStop : answered.around.proxyStop = .ok ()
  runtime : ∃ machine stop left process session, app.runtime = some machine ∧
    OwnerStep world machine stop left ∧ world.Created process ∧
      machine.owner.process = some process ∧ .activeProcesses process.job 0 ∈ left.log ∧
        machine.owner.session = some session ∧ .removing session.directory ∈ left.log ∧
          ∃ w, world.Reaches machine.world w ∧ (world.cleanupSession w).1 = .ok ()

theorem appStep_stoppedWell {app next : NativeAppOwner W P} {answered : AppAnswered E}
    {report : NativeAppShutdownReport} (hlaunched : RuntimeLaunched world app)
    (hproxy : app.proxy.isSome = true) (hstep : AppStep world app answered next)
    (hreport : answered.outcome = .ok (some report)) : StoppedWell world app answered := by
  obtain ⟨hstopped, -⟩ := appStep_reports hstep hreport
  obtain ⟨machine, call, left, hmachine, hcalled, hhonest⟩ := hstopped.honest
  obtain ⟨process, hcreated, hinv⟩ := (hlaunched machine hmachine).ownerInv
  obtain ⟨owned, howned, hempty⟩ := hhonest.empties
  -- an owner that still has its process has everything else as well
  have hholding : Holding process machine := hinv.resolve_right fun hstopped => by
    rw [hstopped.gone] at howned
    cases howned
  obtain rfl := Option.some.inj (howned.symm.trans hholding.owned)
  obtain ⟨session, hsession⟩ := Option.isSome_iff_exists.mp hholding.session
  obtain ⟨hremoving, hcleaned⟩ := hhonest.removes session hsession
  exact ⟨hproxy, hstopped.answered hproxy, machine, _, left, owned, session, hmachine, hcalled,
    hcreated, howned, hempty, hsession, hremoving, hcleaned⟩

end Rpackit.Lifecycle
