import Rpackit.Lifecycle.Graceful

/-! # The native application owner

One owner combines the proxy and the runtime. It takes the runtime out for a stop and puts
it back when the stop fails, so that its private cleanup can be tried again. A stop may
fail although it removed the session; then the runtime that is put back is already cleaned.
-/

namespace Rpackit.Lifecycle

open Text Launcher Transport Rpackit.Bundle

variable {W P E : Type}

/-! ## State and errors -/

/-- The proxy and the runtime, as long as they are owned. -/
structure NativeAppOwner (W P : Type) where
  proxy : Option P
  runtime : Option (Machine W)

/-- The errors of a running application; `E` is what a proxy fails with. -/
inductive NativeAppError (E : Type) where
  | proxy (error : E)
  | runtime (error : LifecycleError)
  | lifecycleWorkerTerminated
  | ownerNotRunning
  | ownerStillRunning
  | cleanupAfterFailure (primary cleanup : NativeAppError E)
  deriving DecidableEq, Repr

structure NativeAppShutdownReport where
  runtime : ShutdownReport
  proxyStopped : Bool
  deriving DecidableEq, Repr

inductive AppStop (E : Type) where
  | failed (error : NativeAppError E)
  | running
  deriving DecidableEq, Repr

abbrev App (W P E α : Type) := Program (NativeAppOwner W P) (AppStop E) α

inductive RuntimeStop where
  | graceful
  | forced
  deriving DecidableEq, Repr

/-- What an operation meets outside the runtime: the answer of the proxy to its shutdown,
and whether the blocking worker of a stop comes back. -/
structure Surroundings (E : Type) where
  proxyStop : Except E Unit
  workerReturns : Bool
  deriving DecidableEq, Repr

/-! ## Operations -/

namespace NativeAppOwner

def failed {α : Type} (error : NativeAppError E) : App W P E α := Program.fail (.failed error)

def setRuntime (runtime : Option (Machine W)) : App W P E Unit :=
  Program.modify fun app => { app with runtime := runtime }

def combineCleanupError (primary : NativeAppError E) (cleanup : Option (NativeAppError E)) :
    NativeAppError E :=
  match cleanup with
  | some cleanup => .cleanupAfterFailure primary cleanup
  | none => primary

def finishShutdown (runtime : Except (NativeAppError E) ShutdownReport)
    (proxy : Except (NativeAppError E) Unit) :
    Except (NativeAppError E) NativeAppShutdownReport :=
  match runtime, proxy with
  | .ok runtime, .ok () => .ok { runtime := runtime, proxyStopped := true }
  | .error primary, .ok () => .error primary
  | .ok _, .error primary => .error primary
  | .error primary, .error cleanup => .error (combineCleanupError primary (some cleanup))

/-- The outcome of an operation as a value; one without fuel keeps running. -/
def settled {α : Type} (x : App W P E α) : App W P E (Except (NativeAppError E) α) := do
  let outcome ← x.attempt
  match outcome with
  | .ok a => return .ok a
  | .error (.failed error) => return .error error
  | .error .running => Program.fail .running

def stopProxy (around : Surroundings E) : App W P E Unit := do
  let app ← Program.get
  match app.proxy with
  | none => return ()
  | some _ => do
      Program.modify fun app => { app with proxy := none }
      match around.proxyStop with
      | .ok () => return ()
      | .error error => failed (.proxy error)

variable (world : World W)

def stop (fuel : Nat) : RuntimeStop → Owner W ShutdownReport
  | .graceful => Lifecycle.shutdown world fuel
  | .forced => Lifecycle.forceShutdown world fuel

/-- A failed stop puts the runtime back; a worker that does not come back drops it. -/
def stopRuntime (around : Surroundings E) (fuel : Nat) (kind : RuntimeStop) :
    App W P E ShutdownReport := do
  let app ← Program.get
  match app.runtime with
  | none => failed .ownerNotRunning
  | some machine => do
      setRuntime none
      if !around.workerReturns then failed .lifecycleWorkerTerminated
      else
        match stop world fuel kind machine with
        | (.ok report, _) => return report
        | (.error (.failed error), next) => do
            setRuntime (some next)
            failed (.runtime error)
        | (.error .running, _) => Program.fail .running

def shutdown (around : Surroundings E) (fuel : Nat) : App W P E NativeAppShutdownReport := do
  let app ← Program.get
  if app.runtime.isNone && app.proxy.isNone then failed .ownerNotRunning
  else do
    let runtime ← settled (stopRuntime world around fuel .graceful)
    let proxy ← settled (stopProxy around)
    Program.ofExcept ((finishShutdown runtime proxy).mapError .failed)

def forceShutdown (around : Surroundings E) (fuel : Nat) :
    App W P E NativeAppShutdownReport := do
  let app ← Program.get
  if app.runtime.isNone && app.proxy.isNone then failed .ownerNotRunning
  else do
    let proxy ← settled (stopProxy around)
    let runtime ← settled (stopRuntime world around fuel .forced)
    Program.ofExcept ((finishShutdown runtime proxy).mapError .failed)

/-- A failed poll stops everything before it returns. -/
def pollHealth (around : Surroundings E) (fuel : Nat) : App W P E Unit := do
  let app ← Program.get
  match app.runtime with
  | none => failed .ownerNotRunning
  | some machine =>
      match Lifecycle.pollHealth world fuel machine with
      | (.ok (), next) => setRuntime (some next)
      | (.error (.failed error), next) => do
          setRuntime (some next)
          let forced ← settled (forceShutdown world around fuel)
          match forced with
          | .ok _ => failed (.runtime error)
          | .error cleanup => failed (combineCleanupError (.runtime error) (some cleanup))
      | (.error .running, _) => Program.fail .running

def retryPrivateCleanup : App W P E Unit := do
  let app ← Program.get
  if app.proxy.isSome then failed .ownerStillRunning
  else
    match app.runtime with
    | none => failed .ownerNotRunning
    | some machine =>
        match Lifecycle.retryPrivateCleanup world machine with
        | (.ok (), _) => setRuntime none
        | (.error (.failed error), next) => do
            setRuntime (some next)
            failed (.runtime error)
        | (.error .running, _) => Program.fail .running

/-- `drop`: the proxy first and then the runtime, each with a drop of its own. It answers with
what was dropped, the runtime as its drop left it. -/
def drop (fuel : Nat) : App W P E (Option P × Option (Machine W)) := do
  let app ← Program.get
  Program.modify fun app => { app with proxy := none }
  setRuntime none
  match app.runtime with
  | none => return (app.proxy, none)
  | some machine =>
      match dropOwner world fuel machine with
      | (.error .running, _) => Program.fail .running
      | (_, left) => return (app.proxy, some left)

end NativeAppOwner

/-! ## Runs -/

inductive AppCall where
  | pollHealth
  | shutdown
  | forceShutdown
  | retryPrivateCleanup
  deriving DecidableEq, Repr

/-- An operation with what it met, the fuel it was given, and its outcome. -/
structure AppAnswered (E : Type) where
  call : AppCall
  around : Surroundings E
  fuel : Nat
  outcome : Except (NativeAppError E) (Option NativeAppShutdownReport)

/-- An operation; only a stop answers with a report. -/
def AppCall.run (world : World W) (around : Surroundings E) (fuel : Nat) :
    AppCall → App W P E (Option NativeAppShutdownReport)
  | .pollHealth => do
      NativeAppOwner.pollHealth world around fuel
      return none
  | .shutdown => do
      let report ← NativeAppOwner.shutdown world around fuel
      return some report
  | .forceShutdown => do
      let report ← NativeAppOwner.forceShutdown world around fuel
      return some report
  | .retryPrivateCleanup => do
      NativeAppOwner.retryPrivateCleanup world
      return none

/-- An operation that came back. -/
def AppStep (world : World W) (app : NativeAppOwner W P) (answered : AppAnswered E)
    (next : NativeAppOwner W P) : Prop :=
  answered.call.run world answered.around answered.fuel app =
    (answered.outcome.mapError AppStop.failed, next)

/-! ## A cleaned runtime that is kept -/

def KeepsCleaned (app : NativeAppOwner W P) : Prop :=
  ∃ machine, app.runtime = some machine ∧ machine.owner.ownerState = .cleaned

/-- A call of the runtime owner that fails leaves something to clean up. -/
def EndsWell {α : Type} (x : Owner W α) (machine : Machine W) : Prop :=
  ∀ error next, x machine = (.error (.failed error), next) → next.owner.ownerState ≠ .cleaned

/-- The stop or retry that an operation makes on the runtime, if it makes one, ends well. -/
def AppAnswered.EndsWell (world : World W) (app : NativeAppOwner W P)
    (answered : AppAnswered E) : Prop :=
  match answered.call with
  | .pollHealth => ∀ machine error next, app.runtime = some machine →
      Lifecycle.pollHealth world answered.fuel machine = (.error (.failed error), next) →
      answered.around.workerReturns = true →
      Lifecycle.EndsWell (Lifecycle.forceShutdown world answered.fuel) next
  | .shutdown => ∀ machine, app.runtime = some machine →
      answered.around.workerReturns = true →
      Lifecycle.EndsWell (Lifecycle.shutdown world answered.fuel) machine
  | .forceShutdown => ∀ machine, app.runtime = some machine →
      answered.around.workerReturns = true →
      Lifecycle.EndsWell (Lifecycle.forceShutdown world answered.fuel) machine
  | .retryPrivateCleanup => ∀ machine, app.runtime = some machine → app.proxy = none →
      Lifecycle.EndsWell (Lifecycle.retryPrivateCleanup world) machine

variable {world : World W} {α β : Type}

theorem keepsCleaned_of_some {app : NativeAppOwner W P} {machine : Machine W}
    (hruntime : app.runtime = some machine) :
    KeepsCleaned app ↔ machine.owner.ownerState = .cleaned := by
  constructor
  · rintro ⟨kept, hkept, hcleaned⟩
    obtain rfl := Option.some.inj (hruntime.symm.trans hkept)
    exact hcleaned
  · exact fun hcleaned => ⟨machine, hruntime, hcleaned⟩

theorem not_keepsCleaned_of_none {app : NativeAppOwner W P} (hruntime : app.runtime = none) :
    ¬KeepsCleaned app := by
  rintro ⟨kept, hkept, -⟩
  rw [hruntime] at hkept
  cases hkept

theorem endsWell_of_failed {x : Owner W α} {machine left : Machine W} {error : LifecycleError}
    (hx : x machine = (.error (.failed error), left)) :
    EndsWell x machine ↔ left.owner.ownerState ≠ .cleaned := by
  constructor
  · intro hwell
    exact hwell error left hx
  · intro hleft reason last hlast
    obtain ⟨-, rfl⟩ := Prod.mk.inj (hx.symm.trans hlast)
    exact hleft

theorem endsWell_of_ok {x : Owner W α} {machine left : Machine W} {a : α}
    (hx : x machine = (.ok a, left)) : EndsWell x machine := by
  intro error last hlast
  rw [hx] at hlast
  cases hlast

namespace NativeAppOwner

/-- What a settled operation answers is what the operation came back with. -/
theorem settled_bind {x : App W P E α} {f : Except (NativeAppError E) α → App W P E β}
    {outcome : Except (NativeAppError E) β} {start stop : NativeAppOwner W P}
    (hrun : (settled x >>= f) start = (outcome.mapError AppStop.failed, stop)) :
    ∃ answer middle, x start = (answer.mapError AppStop.failed, middle) ∧
      f answer middle = (outcome.mapError AppStop.failed, stop) := by
  rcases hx : x start with ⟨(error | _) | a, middle⟩
  · have hsettled : settled x start = (.ok (.error error), middle) := by
      rw [settled, Program.bind_of_ok (Program.attempt_eq_ok_iff.mpr hx)]
      rfl
    rw [Program.bind_of_ok hsettled] at hrun
    exact ⟨.error error, middle, rfl, hrun⟩
  · have hsettled : settled x start = (.error .running, middle) := by
      rw [settled, Program.bind_of_ok (Program.attempt_eq_ok_iff.mpr hx)]
      rfl
    rw [Program.bind_of_error hsettled] at hrun
    cases outcome <;> cases hrun
  · have hsettled : settled x start = (.ok (.ok a), middle) := by
      rw [settled, Program.bind_of_ok (Program.attempt_eq_ok_iff.mpr hx)]
      rfl
    rw [Program.bind_of_ok hsettled] at hrun
    exact ⟨.ok a, middle, rfl, hrun⟩

theorem get_bind (f : NativeAppOwner W P → App W P E α) (start : NativeAppOwner W P) :
    (Program.get >>= f) start = f start start := rfl

theorem setRuntime_bind (runtime : Option (Machine W)) (f : Unit → App W P E α)
    (start : NativeAppOwner W P) :
    (setRuntime runtime >>= f) start = f () { start with runtime := runtime } := rfl

theorem stopProxy_runtime (around : Surroundings E) (start : NativeAppOwner W P) :
    (stopProxy around start).2.runtime = start.runtime := by
  rw [stopProxy, get_bind]
  cases start.proxy with
  | none => rfl
  | some proxy =>
      have hset : ∀ f : Unit → App W P E Unit, ((Program.modify fun app : NativeAppOwner W P =>
          { app with proxy := none }) >>= f) start = f () { start with proxy := none } :=
        fun f => rfl
      dsimp only
      rw [hset]
      cases around.proxyStop <;> rfl

/-- A stop keeps a cleaned runtime exactly if the inner stop fails on a runtime it cleaned. -/
theorem stopRuntime_keepsCleaned {around : Surroundings E} {fuel : Nat} {kind : RuntimeStop}
    {answer : Except (NativeAppError E) ShutdownReport} {start next : NativeAppOwner W P}
    (hrun : stopRuntime world around fuel kind start = (answer.mapError AppStop.failed, next)) :
    ¬KeepsCleaned next ↔ ∀ machine, start.runtime = some machine →
      around.workerReturns = true → EndsWell (stop world fuel kind) machine := by
  rw [stopRuntime, get_bind] at hrun
  cases hruntime : start.runtime with
  | none =>
      rw [hruntime] at hrun
      have hsame : start = next := congrArg Prod.snd hrun
      subst hsame
      exact iff_of_true (not_keepsCleaned_of_none hruntime) fun _ hsome => by cases hsome
  | some machine =>
      rw [hruntime] at hrun
      dsimp only at hrun
      rw [setRuntime_bind] at hrun
      by_cases hreturns : around.workerReturns = true
      · rw [if_neg (by simp [hreturns])] at hrun
        rcases hinner : stop world fuel kind machine with ⟨(error | _) | report, left⟩
        · -- the failed stop puts the runtime back as the inner call left it
          rw [hinner] at hrun
          have hback : ({ start with runtime := some left } : NativeAppOwner W P) = next :=
            congrArg Prod.snd hrun
          subst hback
          rw [keepsCleaned_of_some rfl, ← ne_eq, ← endsWell_of_failed hinner]
          simp [hreturns]
        · rw [hinner] at hrun
          cases answer <;> cases hrun
        · rw [hinner] at hrun
          have hgone : ({ start with runtime := none } : NativeAppOwner W P) = next :=
            congrArg Prod.snd hrun
          subst hgone
          apply iff_of_true (not_keepsCleaned_of_none rfl)
          intro owned howned _
          obtain rfl := Option.some.inj howned
          exact endsWell_of_ok hinner
      · rw [if_pos (by simp [hreturns])] at hrun
        have hgone : ({ start with runtime := none } : NativeAppOwner W P) = next :=
          congrArg Prod.snd hrun
        subst hgone
        exact iff_of_true (not_keepsCleaned_of_none rfl) fun _ _ h => absurd h hreturns

/-- An owner that holds no runtime stops nothing and keeps nothing. -/
theorem keepsCleaned_of_untouched {C : Machine W → Prop} {start next : NativeAppOwner W P}
    (hnone : start.runtime = none) (hsame : start = next) :
    ¬KeepsCleaned next ↔ ∀ machine, start.runtime = some machine → C machine := by
  subst hsame
  apply iff_of_true (not_keepsCleaned_of_none hnone)
  intro machine hruntime
  rw [hnone] at hruntime
  cases hruntime

theorem shutdown_keepsCleaned {around : Surroundings E} {fuel : Nat}
    {answer : Except (NativeAppError E) NativeAppShutdownReport} {start next : NativeAppOwner W P}
    (hrun : shutdown world around fuel start = (answer.mapError AppStop.failed, next)) :
    ¬KeepsCleaned next ↔ ∀ machine, start.runtime = some machine →
      around.workerReturns = true → EndsWell (Lifecycle.shutdown world fuel) machine := by
  rw [shutdown, get_bind] at hrun
  split at hrun
  next hnone =>
    rw [Bool.and_eq_true, Option.isNone_iff_eq_none] at hnone
    exact keepsCleaned_of_untouched hnone.1 (congrArg Prod.snd hrun)
  · obtain ⟨runtime, stopped, hruntime, hrun⟩ := settled_bind hrun
    obtain ⟨proxy, last, hproxy, hrun⟩ := settled_bind hrun
    have hlast : last = next := congrArg Prod.snd hrun
    have hsame : next.runtime = stopped.runtime := by
      have hkept := stopProxy_runtime around stopped
      rw [hproxy] at hkept
      rw [← hlast]
      exact hkept
    rw [KeepsCleaned, hsame]
    exact stopRuntime_keepsCleaned hruntime

theorem forceShutdown_keepsCleaned {around : Surroundings E} {fuel : Nat}
    {answer : Except (NativeAppError E) NativeAppShutdownReport} {start next : NativeAppOwner W P}
    (hrun : forceShutdown world around fuel start = (answer.mapError AppStop.failed, next)) :
    ¬KeepsCleaned next ↔ ∀ machine, start.runtime = some machine →
      around.workerReturns = true → EndsWell (Lifecycle.forceShutdown world fuel) machine := by
  rw [forceShutdown, get_bind] at hrun
  split at hrun
  next hnone =>
    rw [Bool.and_eq_true, Option.isNone_iff_eq_none] at hnone
    exact keepsCleaned_of_untouched hnone.1 (congrArg Prod.snd hrun)
  · obtain ⟨proxy, stopped, hproxy, hrun⟩ := settled_bind hrun
    obtain ⟨runtime, last, hruntime, hrun⟩ := settled_bind hrun
    have hlast : last = next := congrArg Prod.snd hrun
    have hsame := stopProxy_runtime around start
    rw [hproxy] at hsame
    rw [← hlast, ← hsame]
    exact stopRuntime_keepsCleaned hruntime

theorem pollHealth_keepsCleaned {around : Surroundings E} {fuel : Nat}
    {answer : Except (NativeAppError E) Unit} {start next : NativeAppOwner W P}
    (hstart : ¬KeepsCleaned start)
    (hrun : pollHealth world around fuel start = (answer.mapError AppStop.failed, next)) :
    ¬KeepsCleaned next ↔ ∀ machine error polled, start.runtime = some machine →
      Lifecycle.pollHealth world fuel machine = (.error (.failed error), polled) →
      around.workerReturns = true → EndsWell (Lifecycle.forceShutdown world fuel) polled := by
  rw [pollHealth, get_bind] at hrun
  cases hruntime : start.runtime with
  | none =>
      rw [hruntime] at hrun
      have hsame : start = next := congrArg Prod.snd hrun
      subst hsame
      exact iff_of_true hstart fun _ _ _ hsome => by cases hsome
  | some machine =>
      rw [hruntime] at hrun
      dsimp only at hrun
      rcases hpoll : Lifecycle.pollHealth world fuel machine with ⟨(error | _) | _, polled⟩
      -- an unhealthy runtime is put back, and then stopped by force
      · rw [hpoll] at hrun
        dsimp only at hrun
        rw [setRuntime_bind] at hrun
        obtain ⟨forced, stopped, hforced, hrun⟩ := settled_bind hrun
        have hlast : stopped = next := by
          cases forced with
          | ok report => exact congrArg Prod.snd hrun
          | error cleanup => exact congrArg Prod.snd hrun
        subst hlast
        rw [forceShutdown_keepsCleaned hforced]
        constructor
        · intro hwell owned reason left howned hleft hreturns
          obtain rfl := Option.some.inj howned
          rw [hpoll] at hleft
          cases hleft
          exact hwell polled rfl hreturns
        · intro hwell owned howned hreturns
          obtain rfl := Option.some.inj howned
          exact hwell machine error polled rfl hpoll hreturns
      · rw [hpoll] at hrun
        cases answer <;> cases hrun
      · -- a healthy runtime is where it was, and a poll cleans nothing
        rw [hpoll] at hrun
        have hkept : ({ start with runtime := some polled } : NativeAppOwner W P) = next :=
          congrArg Prod.snd hrun
        subst hkept
        have hwatched : Watched machine polled :=
          ((closed_watched world).pollHealth fuel).moved hpoll
        rw [keepsCleaned_of_some hruntime] at hstart
        rw [keepsCleaned_of_some rfl, hwatched.ownerState]
        apply iff_of_true hstart
        intro owned reason left howned hleft
        obtain rfl := Option.some.inj howned
        rw [hpoll] at hleft
        cases hleft

theorem retryPrivateCleanup_keepsCleaned {answer : Except (NativeAppError E) Unit}
    {start next : NativeAppOwner W P} (hstart : ¬KeepsCleaned start)
    (hrun : retryPrivateCleanup world start = (answer.mapError AppStop.failed, next)) :
    ¬KeepsCleaned next ↔ ∀ machine, start.runtime = some machine → start.proxy = none →
      EndsWell (Lifecycle.retryPrivateCleanup world) machine := by
  rw [retryPrivateCleanup, get_bind] at hrun
  split at hrun
  next hproxy =>
    have hsame : start = next := congrArg Prod.snd hrun
    subst hsame
    apply iff_of_true hstart
    intro machine _ hnone
    rw [hnone] at hproxy
    cases hproxy
  next hproxy =>
    have hstopped : start.proxy = none := Option.not_isSome_iff_eq_none.mp hproxy
    cases hruntime : start.runtime with
    | none =>
        rw [hruntime] at hrun
        have hsame : start = next := congrArg Prod.snd hrun
        subst hsame
        exact iff_of_true hstart fun _ hsome => by cases hsome
    | some machine =>
        rw [hruntime] at hrun
        dsimp only at hrun
        rcases hretry : Lifecycle.retryPrivateCleanup world machine with ⟨(error | _) | _, left⟩
        · rw [hretry] at hrun
          have hback : ({ start with runtime := some left } : NativeAppOwner W P) = next :=
            congrArg Prod.snd hrun
          subst hback
          rw [keepsCleaned_of_some rfl, ← ne_eq, ← endsWell_of_failed hretry]
          simp [hstopped]
        · rw [hretry] at hrun
          cases answer <;> cases hrun
        · rw [hretry] at hrun
          have hgone : ({ start with runtime := none } : NativeAppOwner W P) = next :=
            congrArg Prod.snd hrun
          subst hgone
          apply iff_of_true (not_keepsCleaned_of_none rfl)
          intro owned howned _
          obtain rfl := Option.some.inj howned
          exact endsWell_of_ok hretry

/-- An operation that only forwards the answer of another one. -/
theorem forwarded {x : App W P E α} {f : α → Option NativeAppShutdownReport}
    {outcome : Except (NativeAppError E) (Option NativeAppShutdownReport)}
    {start next : NativeAppOwner W P}
    (hrun : (do
      let a ← x
      return f a : App W P E (Option NativeAppShutdownReport)) start =
        (outcome.mapError AppStop.failed, next)) :
    ∃ answer : Except (NativeAppError E) α, x start = (answer.mapError AppStop.failed, next) := by
  rcases hx : x start with ⟨(error | _) | a, middle⟩
  · rw [Program.bind_of_error hx] at hrun
    have hsame : middle = next := congrArg Prod.snd hrun
    exact ⟨.error error, by rw [hsame]; rfl⟩
  · rw [Program.bind_of_error hx] at hrun
    cases outcome <;> cases hrun
  · rw [Program.bind_of_ok hx] at hrun
    have hsame : middle = next := congrArg Prod.snd hrun
    exact ⟨.ok a, by rw [hsame]; rfl⟩

end NativeAppOwner

/-- One operation keeps a cleaned runtime exactly if its inner stop or retry does not end well. -/
theorem appStep_keepsCleaned {app next : NativeAppOwner W P} {answered : AppAnswered E}
    (happ : ¬KeepsCleaned app) (hstep : AppStep world app answered next) :
    ¬KeepsCleaned next ↔ answered.EndsWell world app := by
  obtain ⟨call, around, fuel, outcome⟩ := answered
  cases call with
  | pollHealth =>
      obtain ⟨answer, hpoll⟩ := NativeAppOwner.forwarded hstep
      exact NativeAppOwner.pollHealth_keepsCleaned happ hpoll
  | shutdown =>
      obtain ⟨answer, hshutdown⟩ := NativeAppOwner.forwarded hstep
      exact NativeAppOwner.shutdown_keepsCleaned hshutdown
  | forceShutdown =>
      obtain ⟨answer, hforce⟩ := NativeAppOwner.forwarded hstep
      exact NativeAppOwner.forceShutdown_keepsCleaned hforce
  | retryPrivateCleanup =>
      obtain ⟨answer, hretry⟩ := NativeAppOwner.forwarded hstep
      exact NativeAppOwner.retryPrivateCleanup_keepsCleaned happ hretry

theorem not_keepsCleaned_of_launched {platform : Platform} {fuel : Nat} {bundle : ValidatedBundle}
    {port : UInt16} {secret : Secret} {limits : LifecycleLimits} {channel : List MonitorMessage}
    {w : W} {machine : Machine W} {proxy : Option P}
    (hlaunch : launchValidatedInner world platform fuel bundle port secret limits channel w =
      .owned (.ok ()) machine) :
    ¬KeepsCleaned (⟨proxy, some machine⟩ : NativeAppOwner W P) := by
  obtain ⟨process, -, hinv, hprocess⟩ := ownerInv_of_launched hlaunch nofun
  rcases hinv with hholding | hstopped
  · rw [keepsCleaned_of_some rfl]
    exact hholding.ownerState
  · have howned := hprocess rfl
    rw [hstopped.gone] at howned
    cases howned

/-- The runs of a launched application in which no operation leaves a cleaned runtime with
its owner are the runs in which every inner stop and retry ends well. -/
theorem runs_release_cleaned_iff {platform : Platform} {fuel : Nat} {bundle : ValidatedBundle}
    {port : UInt16} {secret : Secret} {limits : LifecycleLimits} {channel : List MonitorMessage}
    {w : W} {machine : Machine W} {proxy : P} {calls : List (AppAnswered E)}
    {stop : NativeAppOwner W P}
    (hlaunch : launchValidatedInner world platform fuel bundle port secret limits channel w =
      .owned (.ok ()) machine) :
    Run (fun app answered next => AppStep world app answered next ∧ ¬KeepsCleaned next)
        ⟨some proxy, some machine⟩ calls stop ↔
      Run (fun app answered next => AppStep world app answered next ∧ answered.EndsWell world app)
        ⟨some proxy, some machine⟩ calls stop := by
  refine Run.iff_of_invariant ?_ (fun app answered next _ hstep => hstep.2)
    (not_keepsCleaned_of_launched hlaunch)
  intro app answered next happ
  exact and_congr_right fun hstep => appStep_keepsCleaned happ hstep

/-! ## Two stops -/

section Fixture

theorem appStep_of_answer {app : NativeAppOwner W P} {answered : AppAnswered E}
    (hanswer : (answered.call.run world answered.around answered.fuel app).1 =
      answered.outcome.mapError AppStop.failed) :
    AppStep world app answered (answered.call.run world answered.around answered.fuel app).2 :=
  Prod.ext hanswer rfl

/-- The scheduled world after the permissions of the private session were changed. -/
def driftedWorld : World Schedule :=
  { scheduledWorld with
    verifySecurity := fun w => (.error (.privateDaclMismatch), w) }

/-- The runtime starts, and its processes exit as soon as it is ready. -/
def appSchedule : Schedule :=
  ⟨asBytes "HTTP/1.1 200 OK\r\n", [.arrived, .arrived, .nothing, .nothing]⟩

def startApp (world : World Schedule) : Except Stop Unit × Machine Schedule :=
  superviseStartup world 4 ⟨RuntimeOwner.new fixturePort fixtureSecret .default fixtureSession
    fixtureProcess, monitorStdout fixtureJson fixturePort fixtureStdout, appSchedule, []⟩

def appOf (world : World Schedule) : NativeAppOwner Schedule Unit :=
  ⟨some (), some (startApp world).2⟩

def calm : Surroundings Unit := ⟨.ok (), true⟩

def appForced (world : World Schedule) :
    Except (AppStop Unit) (Option NativeAppShutdownReport) × NativeAppOwner Schedule Unit :=
  AppCall.forceShutdown.run world calm 4 (appOf world)

theorem startApp_launched (world : World Schedule)
    (hworld : world = scheduledWorld ∨ world = driftedWorld) :
    launchValidatedInner world (fixturePlatform (.directory false)) 4 fixtureBundle fixturePort
      fixtureSecret .default (monitorStdout fixtureJson fixturePort fixtureStdout) appSchedule =
      .owned (startApp world).1 (startApp world).2 := by
  have hcommand : launchCommand (fixturePlatform (.directory false)) fixtureBundle fixturePort
      fixtureSession = .ok fixtureCommand := fixture_command
  rw [startApp]
  rcases hworld with rfl | rfl
  · simp only [launchValidatedInner, scheduledWorld, hcommand]
    rfl
  · simp only [launchValidatedInner, driftedWorld, scheduledWorld, hcommand]
    rfl

def forcedReport : ShutdownReport := { gracefulReport with kind := .forced }

def forcedCalls : List (AppAnswered Unit) :=
  [⟨.forceShutdown, calm, 4, .ok (some ⟨forcedReport, true⟩)⟩]

/-- A forced stop that reports released the runtime, so its inner stop ended well. -/
theorem runs_release_cleaned_iff_forced :
    Run (fun app answered next =>
        AppStep scheduledWorld app answered next ∧ answered.EndsWell scheduledWorld app)
      (appOf scheduledWorld) forcedCalls (appForced scheduledWorld).2 := by
  have hanswers : (startApp scheduledWorld).1 = .ok () ∧
      (appForced scheduledWorld).1 = .ok (some ⟨forcedReport, true⟩) ∧
      (appForced scheduledWorld).2.runtime.isNone = true := by
    rw [appForced, appOf, startApp, monitorStdout_fixture]
    decide +kernel
  obtain ⟨hok, hforced, hgone⟩ := hanswers
  have hlaunch := startApp_launched scheduledWorld (.inl rfl)
  rw [hok] at hlaunch
  have hreleased : ¬KeepsCleaned (appForced scheduledWorld).2 :=
    not_keepsCleaned_of_none (Option.isNone_iff_eq_none.mp hgone)
  exact (runs_release_cleaned_iff hlaunch).mp (.single ⟨appStep_of_answer hforced, hreleased⟩)

def driftedShutdown :
    Except (AppStop Unit) (Option NativeAppShutdownReport) × NativeAppOwner Schedule Unit :=
  AppCall.shutdown.run driftedWorld calm 4 (appForced driftedWorld).2

def driftedRetry :
    Except (AppStop Unit) (Option NativeAppShutdownReport) × NativeAppOwner Schedule Unit :=
  AppCall.retryPrivateCleanup.run driftedWorld calm 4 driftedShutdown.2

/-- A forced stop removes the session but reports the changed permissions: the cleaned runtime
stays with its owner, which refuses everything from then on. -/
theorem cleaned_runtime_kept :
    launchValidatedInner driftedWorld (fixturePlatform (.directory false)) 4 fixtureBundle
      fixturePort fixtureSecret .default (monitorStdout fixtureJson fixturePort fixtureStdout)
      appSchedule = .owned (.ok ()) (startApp driftedWorld).2 ∧
    Run (AppStep driftedWorld) (appOf driftedWorld)
      [⟨.forceShutdown, calm, 4,
        .error (.runtime (.launch (.privateDaclMismatch)))⟩,
        ⟨.shutdown, calm, 4, .error (.runtime .ownerAlreadyCleaned)⟩,
        ⟨.retryPrivateCleanup, calm, 4, .error (.runtime .ownerAlreadyCleaned)⟩]
      driftedRetry.2 ∧
    KeepsCleaned (appForced driftedWorld).2 ∧ KeepsCleaned driftedRetry.2 := by
  have hanswers : (startApp driftedWorld).1 = .ok () ∧ (appForced driftedWorld).1 =
        .error (.failed (.runtime (.launch (.privateDaclMismatch)))) ∧
      driftedShutdown.1 = .error (.failed (.runtime .ownerAlreadyCleaned)) ∧
      driftedRetry.1 = .error (.failed (.runtime .ownerAlreadyCleaned)) ∧
      (appForced driftedWorld).2.runtime.map (fun machine => machine.owner.ownerState) =
        some .cleaned ∧
      driftedRetry.2.runtime.map (fun machine => machine.owner.ownerState) = some .cleaned := by
    rw [driftedRetry, driftedShutdown, appForced, appOf, startApp, monitorStdout_fixture]
    decide +kernel
  obtain ⟨hok, hforced, hshutdown, hretry, hkept, hstill⟩ := hanswers
  have hlaunch := startApp_launched driftedWorld (.inr rfl)
  rw [hok] at hlaunch
  refine ⟨hlaunch, .cons (appStep_of_answer hforced) (.cons (appStep_of_answer hshutdown)
    (.single (appStep_of_answer hretry))), ?_, ?_⟩
  · obtain ⟨machine, hruntime, hcleaned⟩ := Option.map_eq_some_iff.mp hkept
    exact ⟨machine, hruntime, hcleaned⟩
  · obtain ⟨machine, hruntime, hcleaned⟩ := Option.map_eq_some_iff.mp hstill
    exact ⟨machine, hruntime, hcleaned⟩

end Fixture

end Rpackit.Lifecycle
