import Rpackit.Lifecycle.AppReport

/-! # What makes a stop end badly

A cleanup goes on after a step that failed, and keeps the error. So a stop that fails may have
removed the session, and the runtime it leaves behind is cleaned. This happens only after one of
a few answers of the system.
-/

namespace Rpackit.Lifecycle

open Text Launcher Transport Rpackit.Bundle
open Program (Within fail)
open Rpackit.Windows (LaunchError)

variable {W P E α β : Type} {world : World W}

/-- An answer, or a message that was sent, on which a step of a stop or a retry fails while the
cleanup goes on. -/
inductive Fault (world : World W) (machine : Machine W) : Prop where
  | controlFile (session : PrivateSession) (error : LaunchError)
      (hrefused : (world.createControlFile session machine.world).1 = .error error)
  | termination (job : Nat) (error : LaunchError)
      (hrefused : (world.terminate job machine.world).1 = .error error)
  | occupied (job timeout fuel : Nat) (answer : Except LaunchError Bool)
      (hwaited : (waitForEmpty world job timeout fuel machine).1 = .ok answer)
      (hoccupied : answer ≠ .ok true)
  | drain (fuel : Nat) (error : LifecycleError)
      (hdrained : (drainMonitor world true fuel machine).1 = .error (.failed error))
  | stdoutThread (hpanicked : (world.joinStdout machine.world).1 = false)
  | stderrThread (hpanicked : (world.joinStderr machine.world).1 = none)
  | security (error : LaunchError)
      (hdrifted : (world.verifySecurity machine.world).1 = .error error)

/-- An owner comes to a fault. -/
def Faulty (world : World W) (start : Machine W) : Prop :=
  ∃ machine, Followed world start machine ∧ Fault world machine

theorem Fault.faulty {machine : Machine W} (hfault : Fault world machine) : Faulty world machine :=
  ⟨machine, cleanupClosed_followed.refl machine, hfault⟩

theorem Faulty.after {start middle : Machine W} (hfaulty : Faulty world middle)
    (hfollowed : Followed world start middle) : Faulty world start := by
  obtain ⟨machine, hlater, hfault⟩ := hfaulty
  exact ⟨machine, cleanupClosed_followed.trans hfollowed hlater, hfault⟩

/-! ## Errors that a cleanup keeps -/

variable {start stop : Machine W} {error : LifecycleError} {slot : Option LifecycleError}

theorem terminateJob_faulty {fuel : Nat} {empty : Bool}
    (hterminate : terminateJob world fuel start = (.ok (empty, some error), stop)) :
    Faulty world start := by
  rw [terminateJob, readOwner_bind] at hterminate
  rcases hprocess : start.owner.process with _ | process
  · rw [hprocess] at hterminate
    cases hterminate
  rw [hprocess] at hterminate
  obtain ⟨terminated, called, hcalled, hterminate⟩ := Program.bind_eq_ok_iff.mp hterminate
  have hfollowed : Followed world start called :=
    (cleanupClosed_followed.ask fun w => .terminate process.job w).moved hcalled
  obtain ⟨hanswer, -⟩ := Prod.mk.inj hcalled
  cases terminated with
  | error refused => exact (Fault.termination _ refused (Except.ok.inj hanswer)).faulty
  | ok =>
      obtain ⟨answer, waited, hwaited, hterminate⟩ := Program.bind_eq_ok_iff.mp hterminate
      have hempty : answer ≠ .ok true := by
        rintro rfl
        cases hterminate
      exact (Fault.occupied _ _ _ answer (congrArg Prod.fst hwaited) hempty).faulty.after hfollowed

theorem joinStdoutThread_faulty
    (hjoin : joinStdoutThread world none start = (.ok (some error), stop)) :
    Faulty world start := by
  rw [joinStdoutThread, readOwner_bind] at hjoin
  split at hjoin
  · obtain ⟨_, changed, hchanged, hjoin⟩ := Program.bind_eq_ok_iff.mp hjoin
    obtain ⟨joined, called, hcalled, hjoin⟩ := Program.bind_eq_ok_iff.mp hjoin
    cases joined with
    | true => cases hjoin
    | false =>
        have hpanicked : (world.joinStdout start.world).1 = false := by
          cases hchanged
          exact Except.ok.inj (Prod.mk.inj hcalled).1
        exact (Fault.stdoutThread hpanicked).faulty
  · cases hjoin

theorem joinStderrThread_faulty
    (hjoin : joinStderrThread world none start = (.ok (some error), stop)) :
    Faulty world start := by
  rw [joinStderrThread, readOwner_bind] at hjoin
  split at hjoin
  · obtain ⟨_, changed, hchanged, hjoin⟩ := Program.bind_eq_ok_iff.mp hjoin
    obtain ⟨joined, called, hcalled, hjoin⟩ := Program.bind_eq_ok_iff.mp hjoin
    cases joined with
    | some bytes => cases hjoin
    | none =>
        have hpanicked : (world.joinStderr start.world).1 = none := by
          cases hchanged
          exact Except.ok.inj (Prod.mk.inj hcalled).1
        exact (Fault.stderrThread hpanicked).faulty
  · cases hjoin

/-- Nothing fails a drain that is not strict. -/
theorem drainMonitor_lenient {fuel : Nat} :
    drainMonitor world false fuel start ≠ (.error (.failed error), stop) := by
  intro hdrain
  induction fuel generalizing start with
  | zero => cases hdrain
  | succ fuel ih =>
      rw [drainMonitor] at hdrain
      rcases receive_cases world 0 start with
        ⟨message, rest, hchannel, hreceive⟩ | ⟨hchannel, hreceive⟩ | ⟨hthreads, hreceive⟩
      · rw [Program.bind_of_ok hreceive] at hdrain
        rcases Program.bind_eq_error_iff.mp hdrain with happly | ⟨event, applied, happly, hdrain⟩
        · cases message <;> cases happly
        · exact ih hdrain
      · rw [Program.bind_of_ok hreceive] at hdrain
        cases hdrain
      · rw [Program.bind_of_ok hreceive] at hdrain
        cases hdrain

theorem storing_some {x : Owner W Unit}
    (hstored : storing slot x start = (.ok (some error), stop)) :
    slot = some error ∨ slot = none ∧ x start = (.error (.failed error), stop) := by
  obtain ⟨outcome, middle, hrun, hstored⟩ := Program.bind_eq_ok_iff.mp hstored
  rw [Program.attempt_eq_ok_iff] at hrun
  match outcome with
  | .ok () =>
      cases hstored
      exact .inl rfl
  | .error (.failed failure) =>
      cases slot with
      | none =>
          cases hstored
          exact .inr ⟨rfl, hrun⟩
      | some first =>
          cases hstored
          exact .inl rfl
  | .error .running => cases hstored

theorem joinMonitors_faulty {strict : Bool} {fuel : Nat}
    (hjoin : joinMonitors world strict fuel start = (.ok (some error), stop)) :
    Faulty world start := by
  have hclosed : CleanupClosed world (Followed world) := cleanupClosed_followed
  obtain ⟨stdout, middle, hstdout, hjoin⟩ := Program.bind_eq_ok_iff.mp hjoin
  cases stdout with
  | some failure => exact joinStdoutThread_faulty hstdout
  | none =>
      have hfirst := (hclosed.joinStdoutThread none).moved hstdout
      obtain ⟨stderr, last, hstderr, hjoin⟩ := Program.bind_eq_ok_iff.mp hjoin
      cases stderr with
      | some failure => exact (joinStderrThread_faulty hstderr).after hfirst
      | none =>
          have hsecond := hclosed.trans hfirst ((hclosed.joinStderrThread none).moved hstderr)
          obtain hnone | ⟨-, hdrain⟩ := storing_some hjoin
          · cases hnone
          · cases strict with
            | false => exact absurd hdrain drainMonitor_lenient
            | true => exact (Fault.drain fuel error (congrArg Prod.fst hdrain)).faulty.after hsecond

theorem removeSession_faulty
    (hremove : removeSession world none start = (.ok (true, some error), stop)) :
    Faulty world start := by
  rw [removeSession, readOwner_bind] at hremove
  rcases hsession : start.owner.session with _ | session
  · rw [hsession] at hremove
    cases hremove
  · rw [hsession] at hremove
    obtain ⟨verified, called, hverified, hremove⟩ := Program.bind_eq_ok_iff.mp hremove
    obtain ⟨hanswer, -⟩ := Prod.mk.inj hverified
    cases verified with
    | error drifted => exact (Fault.security drifted (Except.ok.inj hanswer)).faulty
    | ok =>
        obtain ⟨_, noted, -, hremove⟩ := Program.bind_eq_ok_iff.mp hremove
        obtain ⟨cleaned, last, -, hremove⟩ := Program.bind_eq_ok_iff.mp hremove
        cases cleaned with
        | error error => cases hremove
        | ok => cases hremove

/-- Joining the threads enters no state, and only a lack of fuel keeps it from coming back. -/
theorem joinMonitors_ensures (strict : Bool) (fuel : Nat) (start : Machine W) :
    (joinMonitors world strict fuel).Ensures start
      (fun _ stop => stop.owner.ownerState = start.owner.ownerState)
      fun reason _ => reason = .running := by
  obtain ⟨first, called, hstdout, -⟩ := joinStdoutThread_eq world none start
  obtain ⟨second, again, bytes, hstderr, -⟩ := joinStderrThread_eq world first
    ((start.calls called).owns { start.owner with stdoutThread := false })
  refine Program.ensures_bind_of_eq hstdout (Program.ensures_bind_of_eq hstderr ?_)
  have hwatching := closed_watched world
  refine (storing_ensures (hwatching.drainMonitor strict fuel) second _).mono ?_ fun _ _ => And.left
  exact fun _ _ hwatched => hwatched.ownerState

theorem releaseOwned_ensures (strict : Bool) (fuel : Nat) (start : Machine W) :
    (releaseOwned world strict slot fuel).Ensures start (fun _ _ => True)
      fun reason _ => reason = .running := by
  apply Program.ensures_bind_of_eq (releaseProcess_eq start)
  apply (joinMonitors_ensures strict fuel _).bind
  intro joined last _
  obtain ⟨removed, kept, w, tried, hremove, -⟩ := removeSession_eq world (slot.or joined) last
  apply Program.ensures_bind_of_eq hremove
  cases removed with
  | false => trivial
  | true => trivial

/-- A release that keeps an error came to a fault, if it removed the session. -/
theorem releaseOwned_faulty {strict removed : Bool} {fuel : Nat}
    (hlive : start.owner.ownerState ≠ .cleaned)
    (hrelease : releaseOwned world strict none fuel start = (.ok (removed, some error), stop))
    (hcleaned : stop.owner.ownerState = .cleaned) : Faulty world start := by
  have hclosed : CleanupClosed world (Followed world) := cleanupClosed_followed
  obtain ⟨_, released, hprocess, hrelease⟩ := Program.bind_eq_ok_iff.mp hrelease
  obtain ⟨joined, last, hjoin, hrelease⟩ := Program.bind_eq_ok_iff.mp hrelease
  obtain ⟨⟨gone, kept⟩, tried, hremove, hrelease⟩ := Program.bind_eq_ok_iff.mp hrelease
  have hreleased := hclosed.releaseProcess.moved hprocess
  cases joined with
  | some failure => exact (joinMonitors_faulty hjoin).after hreleased
  | none =>
      have hjoined := hclosed.trans hreleased ((hclosed.joinMonitors strict fuel).moved hjoin)
      cases gone with
      | true =>
          cases hrelease
          exact (removeSession_faulty hremove).after hjoined
      | false =>
          -- without a removal the owner is in the state it was in
          cases hrelease
          obtain ⟨_, _, w, seen, heq, -⟩ := removeSession_eq world (none.or none) last
          rw [hremove] at heq
          obtain ⟨-, rfl⟩ := Prod.mk.inj heq
          have hstate : (joinMonitors world strict fuel).Ensures released _ _ :=
            joinMonitors_ensures strict fuel released
          rw [Program.Ensures, hjoin] at hstate
          rw [releaseProcess_eq] at hprocess
          obtain ⟨-, rfl⟩ := Prod.mk.inj hprocess
          refine absurd (hstate.symm.trans hcleaned) ?_
          cases start.owner.process <;> exact hlive

/-! ## Stops -/

/-- A wait that gives an exit code stores no error. -/
theorem reapExit_isSome {handle timeout : Nat} {first : Option LifecycleError}
    {exitCode : Option UInt32}
    (hreap : reapExit world handle timeout first start = (.ok (exitCode, slot), stop))
    (hexit : exitCode.isSome = true) : slot = first := by
  obtain ⟨waited, middle, -, hreap⟩ := Program.bind_eq_ok_iff.mp hreap
  cases waited with
  | ok exitCode =>
      cases hreap
      rfl
  | error error =>
      cases hreap
      cases hexit

theorem reapProcess_complete {fuel : Nat} {exitCode : Option UInt32}
    (hreap : reapProcess world fuel start = (.ok (true, exitCode, slot), stop))
    (hexit : exitCode.isSome = true) : slot = none := by
  rw [reapProcess, readOwner_bind] at hreap
  rcases hprocess : start.owner.process with _ | process
  · rw [hprocess] at hreap
    cases hreap
  rw [hprocess] at hreap
  obtain ⟨⟨empty, first⟩, counted, hjob, hreap⟩ := Program.bind_eq_ok_iff.mp hreap
  obtain ⟨⟨code, kept⟩, exited, hwaited, hreap⟩ := Program.bind_eq_ok_iff.mp hreap
  cases hreap
  obtain ⟨answer, waited, -, hjob⟩ := Program.bind_eq_ok_iff.mp hjob
  have hfirst : first = none := by
    split at hjob
    · cases hjob
      rfl
    · cases hjob
    · cases hjob
  exact (reapExit_isSome hwaited hexit).trans hfirst

/-- An empty Job and both exit codes are reaped without an error. -/
theorem reap_complete {fuel : Nat} {reaped : Reaped}
    (hreap : reap world fuel start = (.ok (reaped, slot), stop))
    (hcomplete : reaped.complete = true) : slot = none := by
  obtain ⟨⟨empty, wrapperExit, first⟩, middle, hprocess, hreap⟩ := Program.bind_eq_ok_iff.mp hreap
  obtain ⟨⟨runtimeExit, second⟩, last, hruntime, hreap⟩ := Program.bind_eq_ok_iff.mp hreap
  cases hreap
  obtain ⟨⟨rfl, hwrapper⟩, hexit⟩ : (empty = true ∧ wrapperExit.isSome = true) ∧
      runtimeExit.isSome = true := by
    simpa [Reaped.complete] using hcomplete
  obtain rfl := reapProcess_complete hprocess hwrapper
  rw [reapRuntime, readOwner_bind] at hruntime
  have hkept : second = none := by
    rcases hmember : middle.owner.runtime with _ | member
    · rw [hmember] at hruntime
      cases hruntime
      cases hexit
    · rw [hmember] at hruntime
      exact reapExit_isSome hruntime hexit
  obtain ⟨wrapperCode, rfl⟩ := Option.isSome_iff_exists.mp hwrapper
  obtain ⟨runtimeCode, rfl⟩ := Option.isSome_iff_exists.mp hexit
  exact hkept

/-- From a live owner that comes to no fault the program ends well. -/
def EndsSoundly (world : World W) (start : Machine W) (x : Owner W α) : Prop :=
  start.owner.ownerState ≠ .cleaned → ¬Faulty world start → EndsWell x start

theorem EndsSoundly.watching {x : Owner W α} (hx : ∀ {R}, Closed world R → Within R x) :
    EndsSoundly world start x := by
  intro hlive _ error stop hrun
  rw [((hx (closed_watched world)).moved hrun).ownerState]
  exact hlive

/-- A program that leaves a live owner may come first. What it met was no fault. -/
theorem EndsSoundly.bind {x : Owner W α} {f : α → Owner W β}
    (hfollowed : Within (Followed world) x)
    (hlives : start.owner.ownerState ≠ .cleaned → (x start).2.owner.ownerState ≠ .cleaned)
    (hf : ∀ a middle, x start = (.ok a, middle) → ¬Faulty world start →
      EndsSoundly world middle (f a)) : EndsSoundly world start (x >>= f) := by
  intro hlive hsound error stop hrun
  have hmiddle := hlives hlive
  obtain hfailed | ⟨a, middle, ha, hrest⟩ := Program.bind_eq_error_iff.mp hrun
  · rwa [hfailed] at hmiddle
  · rw [ha] at hmiddle
    have hlater : ¬Faulty world middle := fun hfaulty => hsound (hfaulty.after (hfollowed.moved ha))
    exact hf a middle ha hsound hmiddle hlater error stop hrest

theorem EndsSoundly.watching_bind {x : Owner W α} {f : α → Owner W β}
    (hx : ∀ {R}, Closed world R → Within R x)
    (hf : ∀ a middle, x start = (.ok a, middle) → ¬Faulty world start →
      EndsSoundly world middle (f a)) : EndsSoundly world start (x >>= f) := by
  apply EndsSoundly.bind (hx cleanupClosed_followed.toClosed) _ hf
  rw [(hx (closed_watched world) start).ownerState]
  exact id

theorem finishCleanup_endsSoundly (kind : ShutdownKind) (strict : Bool) (fuel : Nat) :
    EndsSoundly world start (finishCleanup world kind strict fuel) := by
  apply EndsSoundly.watching_bind fun hR => hR.reap fuel
  rintro ⟨reaped, slot⟩ middle hreap -
  dsimp only
  split
  next => exact .watching fun hR => hR.error _
  next hcomplete =>
    obtain rfl := reap_complete hreap (by simpa using hcomplete)
    intro hlive hsound error stop hfinish hcleaned
    obtain hfailed | ⟨⟨removed, slot⟩, last, hrelease, hfinish⟩ :=
      Program.bind_eq_error_iff.mp hfinish
    · have hreturns : (releaseOwned world strict none fuel).Ensures middle _ _ :=
        releaseOwned_ensures strict fuel middle
      rw [Program.Ensures, hfailed] at hreturns
      cases hreturns
    cases slot with
    | none => cases hfinish
    | some kept =>
        cases hfinish
        exact hsound (releaseOwned_faulty hlive hrelease hcleaned)

theorem forceAndCleanup_endsSoundly (fuel : Nat) :
    EndsSoundly world start (forceAndCleanup world fuel) := by
  apply EndsSoundly.watching_bind fun hR => hR.readOwner
  rintro owner _ ⟨⟩ -
  apply EndsSoundly.watching_bind fun hR => hR.terminateJob fuel
  rintro ⟨empty, slot⟩ middle hterminate hsound hlive hlater error stop hforce
  obtain hfailed | ⟨finished, last, hfinish, hforce⟩ := Program.bind_eq_error_iff.mp hforce
  · cases hfailed
  rw [Program.attempt_eq_ok_iff] at hfinish
  rcases finished with (failure | _) | report
  · have hlast : last = stop := by
      generalize (if start.owner.process.isNone = true then
        storeFirstError slot .ownerNotRunning else slot) = kept at hforce
      cases kept <;> cases hforce <;> rfl
    subst hlast
    exact finishCleanup_endsSoundly .forced false fuel hlive hlater failure last hfinish
  · cases hforce
  · -- a cleanup that is complete had a process, so the error is that of the termination
    obtain ⟨process, hmiddle, -⟩ := (finishCleanup_ok hfinish).1.empties
    have hprocess := ((closed_watched world).terminateJob fuel).moved hterminate |>.process
    rw [hprocess] at hmiddle
    rw [hmiddle, if_neg (by simp)] at hforce
    cases slot with
    | none => cases hforce
    | some primary => exact absurd (terminateJob_faulty hterminate) hsound

theorem awaitGraceful_endsSoundly (deadline fuel : Nat) :
    EndsSoundly world start (awaitGraceful world deadline fuel) := by
  induction fuel generalizing start with
  | zero => exact .watching fun hR => hR.fail _
  | succ fuel ih =>
      apply EndsSoundly.watching_bind fun hR => (hR.drainMonitor true fuel).attempt
      intro drained middle hdrain hsound
      rw [Program.attempt_eq_ok_iff] at hdrain
      rcases drained with (primary | _) | _
      · exact absurd (Fault.drain fuel primary (congrArg Prod.fst hdrain)).faulty hsound
      · exact .watching fun hR => hR.fail _
      apply EndsSoundly.watching_bind fun hR => hR.gracefulCompletionObserved
      intro complete asked _ _
      split
      · exact finishCleanup_endsSoundly .graceful true fuel
      apply EndsSoundly.watching_bind fun hR => hR.readClock
      intro now timed _ _
      split
      · exact forceAndCleanup_endsSoundly fuel
      apply EndsSoundly.watching_bind fun hR => hR.remainingPoll deadline
      intro pause known _ _
      apply EndsSoundly.watching_bind fun hR => hR.sleepFor pause
      intro _ rested _ _
      exact ih

theorem requestStop_live (hlive : start.owner.ownerState ≠ .cleaned) :
    (requestStop world start).2.owner.ownerState ≠ .cleaned := by
  have hwatching := closed_watched world
  rw [requestStop, readOwner_bind]
  split
  · exact hlive
  · have hasks : Within Watched (do
        let session ← sessionRef
        let created ← ask (world.createControlFile session)
        return storeNative none created : Owner W _) :=
      hwatching.bind hwatching.sessionRef fun session =>
        hwatching.bind (hwatching.ask fun w => .createControlFile session w) fun _ =>
          hwatching.pure _
    have hwatched := hasks
      ((start.owns { start.owner with ownerState := .stopping }).observes (.entered .stopping))
    intro hcleaned
    cases hwatched.ownerState.symm.trans hcleaned

theorem requestStop_faulty {primary : LifecycleError}
    (hrequest : requestStop world start = (.ok (some primary), stop)) : Faulty world start := by
  rw [requestStop, readOwner_bind] at hrequest
  split at hrequest
  · cases hrequest
  have hclosed : CleanupClosed world (Followed world) := cleanupClosed_followed
  obtain ⟨_, entered, hentered, hrequest⟩ := Program.bind_eq_ok_iff.mp hrequest
  obtain ⟨session, asked, hsession, hrequest⟩ := Program.bind_eq_ok_iff.mp hrequest
  obtain ⟨created, called, hcreated, hrequest⟩ := Program.bind_eq_ok_iff.mp hrequest
  have hfollowed := hclosed.trans ((hclosed.enters rfl).moved hentered)
    (hclosed.sessionRef.moved hsession)
  cases created with
  | ok => cases hrequest
  | error refused =>
      have hanswer := Except.ok.inj (Prod.mk.inj hcreated).1
      exact (Fault.controlFile session refused hanswer).faulty.after hfollowed

theorem shutdown_endsSoundly (fuel : Nat) : EndsSoundly world start (shutdown world fuel) := by
  apply EndsSoundly.watching_bind fun hR => hR.readOwner
  rintro owner _ ⟨⟩ -
  split
  · exact .watching fun hR => hR.error _
  apply EndsSoundly.bind cleanupClosed_followed.requestStop requestStop_live
  intro refused middle hrequest hsound
  cases refused with
  | some primary => exact absurd (requestStop_faulty hrequest) hsound
  | none =>
      apply EndsSoundly.watching_bind fun hR => hR.checkedDeadline _
      intro deadline timed _ _
      exact awaitGraceful_endsSoundly deadline fuel

theorem forceShutdown_endsSoundly (fuel : Nat) :
    EndsSoundly world start (forceShutdown world fuel) := by
  apply EndsSoundly.watching_bind fun hR => hR.readOwner
  rintro owner _ ⟨⟩ -
  split
  · exact .watching fun hR => hR.error _
  have hentered : Within (Followed world) (enter .stopping : Owner W Unit) :=
    cleanupClosed_followed.enters rfl
  apply EndsSoundly.bind hentered fun _ hcleaned => by cases hcleaned
  intro _ middle _ _
  exact forceAndCleanup_endsSoundly fuel

theorem retryPrivateCleanup_endsSoundly : EndsSoundly world start (retryPrivateCleanup world) := by
  apply EndsSoundly.watching_bind fun hR => hR.readOwner
  rintro owner _ ⟨⟩ -
  split
  · exact .watching fun hR => hR.error _
  split
  · exact .watching fun hR => hR.error _
  intro hlive hsound error stop hretry hcleaned
  obtain ⟨removed, kept, w, tried, hremove, -⟩ := removeSession_eq world none start
  rw [Program.bind_of_ok hremove] at hretry
  cases removed with
  | false =>
      -- a session that is not removed leaves the owner in its state
      cases kept <;> cases hretry
      exact hlive hcleaned
  | true =>
      cases kept with
      | none => cases hretry
      | some drifted => exact hsound (removeSession_faulty hremove)

/-! ## What a cleaned runtime comes from -/

/-- An operation of the application ends well, unless its runtime comes to a fault. -/
theorem AppAnswered.endsWell_of_sound {app : NativeAppOwner W P} (answered : AppAnswered E)
    (happ : ¬KeepsCleaned app)
    (hsound : ∀ machine, app.runtime = some machine → ¬Faulty world machine) :
    answered.EndsWell world app := by
  have hlive : ∀ machine, app.runtime = some machine → machine.owner.ownerState ≠ .cleaned :=
    fun machine hruntime hcleaned => happ ⟨machine, hruntime, hcleaned⟩
  obtain ⟨call, around, fuel, outcome⟩ := answered
  cases call with
  | pollHealth =>
      -- the forced stop after a failed poll is made on the polled runtime
      intro machine error polled hruntime hpoll _
      have hwatched := ((closed_watched world).pollHealth fuel).moved hpoll
      have hfollowed : Followed world machine polled :=
        (cleanupClosed_followed.toClosed.pollHealth fuel).moved hpoll
      apply forceShutdown_endsSoundly fuel
      · rw [hwatched.ownerState]
        exact hlive machine hruntime
      · exact fun hfaulty => hsound machine hruntime (hfaulty.after hfollowed)
  | shutdown =>
      intro machine hruntime _
      exact shutdown_endsSoundly fuel (hlive machine hruntime) (hsound machine hruntime)
  | forceShutdown =>
      intro machine hruntime _
      exact forceShutdown_endsSoundly fuel (hlive machine hruntime) (hsound machine hruntime)
  | retryPrivateCleanup =>
      intro machine hruntime _
      exact retryPrivateCleanup_endsSoundly (hlive machine hruntime) (hsound machine hruntime)

/-- A launched application that keeps a cleaned runtime with its owner came to a fault. -/
theorem faulty_of_keepsCleaned {platform : Platform} {fuel : Nat} {bundle : ValidatedBundle}
    {port : UInt16} {secret : Secret} {limits : LifecycleLimits} {channel : List MonitorMessage}
    {w : W} {machine : Machine W} {proxy : P} {calls : List (AppAnswered E)}
    {stop : NativeAppOwner W P}
    (hlaunch : launchValidatedInner world platform fuel bundle port secret limits channel w =
      .owned (.ok ()) machine)
    (hrun : Run (AppStep world) ⟨some proxy, some machine⟩ calls stop)
    (hkept : KeepsCleaned stop) : Faulty world machine := by
  by_contra hsound
  -- no operation keeps a cleaned runtime, and what is owned is followed from the launch
  have hkeep : ∀ (app : NativeAppOwner W P) (answered : AppAnswered E) next,
      (¬KeepsCleaned app ∧ ∀ owned, app.runtime = some owned → Followed world machine owned) →
      AppStep world app answered next →
      ¬KeepsCleaned next ∧ ∀ owned, next.runtime = some owned → Followed world machine owned := by
    rintro app answered next ⟨happ, hfollowed⟩ hstep
    constructor
    · apply (appStep_keepsCleaned happ hstep).mpr (answered.endsWell_of_sound happ _)
      exact fun owned howned hfaulty => hsound (hfaulty.after (hfollowed owned howned))
    · intro left hleft
      obtain ⟨owned, later, howned, hlater⟩ := (appStep_runs hstep).1 left hleft
      have hclosed : CleanupClosed world (Followed world) := cleanupClosed_followed
      exact hclosed.trans (hfollowed owned howned) (hclosed.calls hlater)
  refine (hrun.invariant hkeep ⟨not_keepsCleaned_of_launched hlaunch, ?_⟩).1 hkept
  intro owned howned
  obtain rfl := Option.some.inj howned
  exact cleanupClosed_followed.refl machine

end Rpackit.Lifecycle
