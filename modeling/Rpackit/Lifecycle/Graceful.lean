import Rpackit.Lifecycle.Delivery
import Rpackit.Lifecycle.Release

/-! # Graceful shutdown

A report says how a shutdown ended. A graceful one speaks for the standard output of the
launcher: the state it was read from must belong to a stream that ended well. The strict
drains of the reporting call see to that, but not for a failure that an earlier call took
from the channel.
-/

namespace Rpackit.Lifecycle

open Text Launcher Transport Rpackit.Bundle
open Program (Within fail)

variable {W : Type} {α β : Type} {world : World W}

/-! ## Messages without a failure -/

/-- A message that says that standard output was not read to its end without an error. -/
def MonitorMessage.isStdoutFailure : MonitorMessage → Bool
  | .protocolFailure _ => true
  | .stdoutReadFailure => true
  | _ => false

/-- No failure of standard output was taken on the way. -/
def Heard (world : World W) (start stop : Machine W) : Prop :=
  ∃ seen, Follows world start stop seen ∧ ∀ message ∈ received seen, message.isStdoutFailure = false

theorem frees_heard (world : World W) : Frees world (Heard world) where
  refl := fun machine => ⟨[], .refl machine, nofun⟩
  trans := by
    rintro start middle stop ⟨first, hfirst, hnone⟩ ⟨second, hsecond, hstill⟩
    refine ⟨first ++ second, hfirst.trans hsecond, fun message hmem => ?_⟩
    rw [received_append] at hmem
    exact (List.mem_append.mp hmem).elim (hnone message) (hstill message)
  call := fun hcall => ⟨[], ⟨(List.append_nil _).symm, rfl, rfl, .single hcall⟩, nofun⟩
  plain := by
    intro machine observation hplain
    have hmessage : received [observation] = [] := by
      cases observation <;> first | rfl | cases hplain
    exact ⟨[observation], .observed machine hmessage, by rw [hmessage]; nofun⟩
  update := fun machine _ hview => ⟨[], .held machine hview, nofun⟩
  act := by
    intro machine observation hact
    have hmessage : received [observation] = [] := by
      cases observation <;> first | rfl | cases hact
    exact ⟨[observation], .observed machine hmessage, by rw [hmessage]; nofun⟩

/-- A message that is applied strictly is no failure. -/
theorem not_failure_of_applied {message : MonitorMessage} {event : Option MonitorEvent}
    {start stop : Machine W} (happly : applyMonitor message true start = (.ok event, stop)) :
    message.isStdoutFailure = false := by
  cases message with
  | protocolFailure error => cases happly
  | stdoutReadFailure => cases happly
  | _ => rfl

/-- A strict drain that succeeds took no failure; with both threads joined it took everything. -/
theorem drainMonitor_ok {fuel : Nat} {start stop : Machine W}
    (hdrain : drainMonitor world true fuel start = (.ok (), stop)) :
    Heard world start stop ∧
      ((start.owner.stdoutThread || start.owner.stderrThread) = false → stop.channel = []) := by
  induction fuel generalizing start with
  | zero => cases hdrain
  | succ fuel ih =>
      have hcall : Heard world start (start.calls (world.arrival 0 start.world).2) :=
        (frees_heard world).call (.arrival 0 start.world)
      rw [drainMonitor] at hdrain
      -- a message and the rest of the drain, no message yet, or no thread left to send one
      rcases receive_cases world 0 start with
        ⟨message, rest, hchannel, hreceive⟩ | ⟨hchannel, hreceive⟩ | ⟨hthreads, hreceive⟩
      · rw [Program.bind_of_ok hreceive] at hdrain
        obtain ⟨event, applied, happly, hdrain⟩ := Program.bind_eq_ok_iff.mp hdrain
        have happlied := applyMonitor_snd message true
          ((start.calls (world.arrival 0 start.world).2).takes message rest)
        rw [happly] at happlied
        obtain rfl : applied = _ := happlied
        rw [if_pos rfl] at hdrain
        obtain ⟨_, checked, hchecked, hdrain⟩ := Program.bind_eq_ok_iff.mp hdrain
        have htaken : Heard world (start.calls (world.arrival 0 start.world).2)
            (((start.calls (world.arrival 0 start.world).2).takes message rest).owns
              (start.owner.noted message)) :=
          ⟨[.received message], ⟨rfl, hchannel, RuntimeOwner.view_noted _ _, .refl⟩, fun _ hmem =>
            List.mem_singleton.mp hmem ▸ not_failure_of_applied happly⟩
        have hheard := (frees_heard world).trans ((frees_heard world).trans hcall htaken)
          (((frees_heard world).checkDrained event).moved hchecked)
        obtain ⟨hrest, hempty⟩ := ih hdrain
        refine ⟨(frees_heard world).trans hheard hrest, fun hjoined => hempty ?_⟩
        have hwatching := closed_watched world
        have hwatched := hwatching.trans (hwatching.trans (hwatching.call (.arrival 0 start.world))
          (hwatching.take (by exact hchannel))) ((hwatching.checkDrained event).moved hchecked)
        rw [hwatched.stdoutThread, hwatched.stderrThread]
        exact hjoined
      · rw [Program.bind_of_ok hreceive] at hdrain
        dsimp only at hdrain
        rw [readOwner_bind] at hdrain
        split at hdrain
        · cases hdrain
        · cases hdrain
          exact ⟨hcall, fun _ => hchannel⟩
      · rw [Program.bind_of_ok hreceive] at hdrain
        cases hdrain
        refine ⟨hcall, fun hjoined => ?_⟩
        rw [hjoined] at hthreads
        cases hthreads

/-! ## What a successful cleanup did -/

/-- The owner still holds its process and its session, in a later state of the world. -/
structure Retains (world : World W) (start stop : Machine W) : Prop where
  process : stop.owner.process = start.owner.process
  session : stop.owner.session = start.owner.session
  world : world.Reaches start.world stop.world

theorem closed_retains (world : World W) : Closed world (Retains world) where
  refl := fun _ => ⟨rfl, rfl, .refl⟩
  trans := fun hfirst hsecond => ⟨hsecond.process.trans hfirst.process,
    hsecond.session.trans hfirst.session, hfirst.world.trans hsecond.world⟩
  call := fun hcall => ⟨rfl, rfl, .single hcall⟩
  plain := fun _ _ _ => ⟨rfl, rfl, .refl⟩
  take := fun {_ message _} _ => by
    cases message <;> exact ⟨rfl, rfl, .refl⟩

/-- The removal of the session is on the record, and the system answered that it removed it. -/
def RemovesSession (world : World W) (start stop : Machine W) : Prop :=
  ∀ session, start.owner.session = some session → .removing session.directory ∈ stop.log ∧
    ∃ w, world.Reaches start.world w ∧ (world.cleanupSession w).1 = .ok ()

theorem RemovesSession.after {start middle stop : Machine W}
    (hremoves : RemovesSession world middle stop) (hretains : Retains world start middle) :
    RemovesSession world start stop := by
  intro session hsession
  obtain ⟨hlog, w, hreaches, hcleaned⟩ := hremoves session (hretains.session.trans hsession)
  exact ⟨hlog, w, hretains.world.trans hreaches, hcleaned⟩

/-- A release without an error: the session is gone, everything was received without a
failure, and the stdout thread returned. -/
structure ReleasedWell (world : World W) (strict : Bool) (start stop : Machine W) : Prop where
  ownerState : stop.owner.ownerState = .cleaned
  removes : RemovesSession world start stop
  heard : strict = true → Heard world start stop ∧ stop.channel = []
  returned : start.owner.stdoutThread = true → ∃ w, (world.joinStdout w).1 = true

theorem joinMonitors_ok {strict : Bool} {fuel : Nat} {start stop : Machine W}
    (hjoin : joinMonitors world strict fuel start = (.ok none, stop)) :
    (strict = true → Heard world start stop ∧ stop.channel = []) ∧
      (start.owner.stdoutThread = true → ∃ w, (world.joinStdout w).1 = true) ∧
      stop.owner.session = start.owner.session := by
  obtain ⟨first, called, hstdout, hreturned⟩ := joinStdoutThread_eq world none start
  obtain ⟨second, again, bytes, hstderr, hsecond⟩ := joinStderrThread_eq world first
    ((start.calls called).owns { start.owner with stdoutThread := false })
  have hfirst : Heard world start _ := ((frees_heard world).joinStdoutThread none).moved hstdout
  have hjoined :=
    (frees_heard world).trans hfirst (((frees_heard world).joinStderrThread first).moved hstderr)
  rw [joinMonitors, Program.bind_of_ok hstdout, Program.bind_of_ok hstderr] at hjoin
  obtain ⟨hnone, hdrain⟩ := storing_eq_none hjoin
  have hkept : stop.owner.session = start.owner.session :=
    ((closed_retains world).drainMonitor strict fuel |>.moved hdrain).session
  refine ⟨fun hstrict => ?_, fun hthread => ⟨_, (hreturned (hsecond hnone)).2 hthread⟩, hkept⟩
  subst hstrict
  obtain ⟨hheard, hempty⟩ := drainMonitor_ok hdrain
  exact ⟨(frees_heard world).trans hjoined hheard, hempty rfl⟩

theorem releaseOwned_ok {strict removed : Bool} {slot : Option LifecycleError} {fuel : Nat}
    {start stop : Machine W}
    (hrelease : releaseOwned world strict slot fuel start = (.ok (removed, none), stop)) :
    removed = true ∧ ReleasedWell world strict start stop := by
  obtain ⟨_, released, hprocess, hrelease⟩ := Program.bind_eq_ok_iff.mp hrelease
  obtain ⟨joined, last, hjoin, hrelease⟩ := Program.bind_eq_ok_iff.mp hrelease
  obtain ⟨gone, error, w, tried, hremove, hnone⟩ := removeSession_eq world (slot.or joined) last
  have hheard := frees_heard world
  have hfreed := hheard.releaseProcess.moved hprocess
  have hremoved := (hheard.removeSession (slot.or joined)).moved hremove
  have hfollowed : CleanupClosed world (Followed world) := cleanupClosed_followed
  obtain ⟨_, hreached⟩ := hfollowed.trans (hfollowed.releaseProcess.moved hprocess)
    ((hfollowed.joinMonitors strict fuel).moved hjoin)
  have hcalled := hremove
  rw [Program.bind_of_ok hremove] at hrelease
  cases gone with
  | false =>
      cases hrelease
      cases (hnone rfl).2
  | true =>
      cases hrelease
      have hclear := (hnone rfl).1
      rw [Option.or_eq_none_iff] at hclear
      obtain ⟨rfl, rfl⟩ := hclear
      obtain ⟨hjoined, hreturned, hkept⟩ := joinMonitors_ok hjoin
      rw [releaseProcess_eq] at hprocess
      have hsame : released.owner.session = start.owner.session ∧
          released.owner.stdoutThread = start.owner.stdoutThread := by
        cases hprocess
        cases start.owner.process <;> exact ⟨rfl, rfl⟩
      refine ⟨rfl, rfl, fun session hsession => ?_, fun hstrict => ?_,
        fun hthread => hreturned (hsame.2.trans hthread)⟩
      · obtain ⟨removed, outcome, hsome, -, hcleaned⟩ :=
          removeSession_some world none (hkept.trans (hsame.1.trans hsession))
        obtain ⟨hanswer, hstate⟩ := Prod.mk.inj (hcalled.symm.trans hsome)
        obtain ⟨rfl, -⟩ := Prod.mk.inj (Except.ok.inj hanswer)
        refine ⟨?_, _, hreached.world.tail (.verifySecurity last.world), hcleaned.mp rfl⟩
        have hlog : last.log ++ tried = last.log ++ [.removing session.directory] :=
          congrArg Machine.log hstate
        rw [List.append_cancel_left hlog]
        exact List.mem_append_left _ (List.mem_append_right _ List.mem_cons_self)
      · obtain ⟨hdrained, hempty⟩ := hjoined hstrict
        refine ⟨hheard.trans hfreed (hheard.trans hdrained (hheard.trans hremoved ?_)), hempty⟩
        exact hheard.trans (hheard.update _ (by rfl)) (hheard.act _ rfl)

/-! ## Reports -/

/-- What every report says, what it stands for, and the owner it comes with. -/
structure HonestReport (world : World W) (report : ShutdownReport) (start stop : Machine W) :
    Prop where
  jobEmpty : report.jobEmpty = true
  sessionRemoved : report.sessionRemoved = true
  wrapperExitCode : report.wrapperExitCode.isSome = true
  runtimeExitCode : report.runtimeExitCode.isSome = true
  ownerState : stop.owner.ownerState = .cleaned
  empties : ∃ process, start.owner.process = some process ∧
    .activeProcesses process.job 0 ∈ stop.log
  removes : RemovesSession world start stop

theorem HonestReport.after {report : ShutdownReport} {start middle stop : Machine W}
    (hhonest : HonestReport world report middle stop) (hretains : Retains world start middle) :
    HonestReport world report start stop := by
  obtain ⟨process, hprocess, hempty⟩ := hhonest.empties
  exact { hhonest with
    empties := ⟨process, hretains.process.symm.trans hprocess, hempty⟩
    removes := hhonest.removes.after hretains }

theorem finishCleanup_ok {kind : ShutdownKind} {strict : Bool} {fuel : Nat}
    {report : ShutdownReport} {start stop : Machine W}
    (hfinish : finishCleanup world kind strict fuel start = (.ok report, stop)) :
    HonestReport world report start stop ∧ report.kind = kind ∧
      ∃ middle, Heard world start middle ∧ Watched start middle ∧
        ReleasedWell world strict middle stop := by
  obtain ⟨⟨reaped, slot⟩, middle, hreap, hfinish⟩ := Program.bind_eq_ok_iff.mp hfinish
  dsimp only at hfinish
  split at hfinish
  · cases hfinish
  next hcomplete =>
    simp only [Bool.not_eq_true', Bool.not_eq_false, Reaped.complete, Bool.and_eq_true]
      at hcomplete
    obtain ⟨⟨hempty, hwrapper⟩, hruntime⟩ := hcomplete
    obtain ⟨⟨removed, last⟩, released, hrelease, hfinish⟩ := Program.bind_eq_ok_iff.mp hfinish
    cases last with
    | some error => cases hfinish
    | none =>
        obtain ⟨hremoved, hwell⟩ := releaseOwned_ok hrelease
        obtain ⟨process, hprocess, hseen⟩ := reap_observes hreap hempty
        obtain ⟨later, hfollows⟩ :=
          (cleanupClosed_followed.releaseOwned strict slot fuel).moved hrelease
        have hlog : .activeProcesses process.job 0 ∈ released.log := by
          rw [hfollows.log]
          exact List.mem_append_left _ hseen
        have hretains := ((closed_retains world).reap fuel).moved hreap
        cases hfinish
        exact ⟨⟨hempty, hremoved, hwrapper, hruntime, hwell.ownerState,
            ⟨process, hprocess, hlog⟩, hwell.removes.after hretains⟩, rfl, middle,
          ((frees_heard world).reap fuel).moved hreap,
          ((closed_watched world).reap fuel).moved hreap,
          hwell⟩

theorem forceAndCleanup_ok {fuel : Nat} {report : ShutdownReport} {start stop : Machine W}
    (hforce : forceAndCleanup world fuel start = (.ok report, stop)) :
    HonestReport world report start stop ∧ report.kind = .forced := by
  rw [forceAndCleanup, readOwner_bind] at hforce
  obtain ⟨⟨empty, slot⟩, middle, hterminate, hforce⟩ := Program.bind_eq_ok_iff.mp hforce
  have hretains := ((closed_retains world).terminateJob fuel).moved hterminate
  obtain ⟨finished, last, hfinish, hforce⟩ := Program.bind_eq_ok_iff.mp hforce
  rw [Program.attempt_eq_ok_iff] at hfinish
  generalize (if start.owner.process.isNone then storeFirstError slot .ownerNotRunning else slot) =
    first at hforce
  match first, finished with
  | none, .ok _ =>
      cases hforce
      obtain ⟨hhonest, hkind, -⟩ := finishCleanup_ok hfinish
      exact ⟨hhonest.after hretains, hkind⟩
  | some primary, .ok _ => cases hforce
  | none, .error (.failed error) => cases hforce
  | some primary, .error (.failed error) => cases hforce
  | _, .error .running => cases hforce

theorem forceAfter_ne_ok {primary : LifecycleError} {fuel : Nat} {report : ShutdownReport}
    {start stop : Machine W} : forceAfter world primary fuel start ≠ (.ok report, stop) := by
  intro hforce
  obtain ⟨forced, middle, -, hforce⟩ := Program.bind_eq_ok_iff.mp hforce
  match forced with
  | .ok _ => cases hforce
  | .error (.failed cleanup) => cases hforce
  | .error .running => cases hforce

/-- The end of a graceful shutdown: the launcher had stopped, and every message was received. -/
structure GracefulEnd (world : World W) (start stop : Machine W) : Prop where
  stopped : ∃ middle, Heard world start middle ∧ middle.owner.monitorState = .stopped ∧
    Heard world middle stop
  channel : stop.channel = []
  owned : start.owner.process.isSome = true
  returned : start.owner.stdoutThread = true → ∃ w, (world.joinStdout w).1 = true

theorem GracefulEnd.after {start middle stop : Machine W} (hend : GracefulEnd world middle stop)
    (hheard : Heard world start middle) (hprocess : middle.owner.process = start.owner.process)
    (hthread : middle.owner.stdoutThread = start.owner.stdoutThread) :
    GracefulEnd world start stop := by
  obtain ⟨last, hfirst, hstopped, hlast⟩ := hend.stopped
  exact ⟨⟨last, (frees_heard world).trans hheard hfirst, hstopped, hlast⟩, hend.channel,
    hprocess ▸ hend.owned, hthread ▸ hend.returned⟩

/-- Completion is seen only after the launcher reported that it stopped. -/
theorem gracefulCompletionObserved_ok {start stop : Machine W}
    (hcomplete : gracefulCompletionObserved world start = (.ok true, stop)) :
    start.owner.monitorState = .stopped ∧ start.owner.process.isSome = true := by
  rw [gracefulCompletionObserved, readOwner_bind] at hcomplete
  split at hcomplete
  · cases hcomplete
  next hstopped =>
    refine ⟨by_contra hstopped, ?_⟩
    obtain ⟨process, middle, hprocess, -⟩ := Program.bind_eq_ok_iff.mp hcomplete
    rw [processRef, readOwner_bind] at hprocess
    cases howned : start.owner.process with
    | none =>
        rw [howned] at hprocess
        cases hprocess
    | some process => rfl

theorem awaitGraceful_ok {deadline fuel : Nat} {report : ShutdownReport} {start stop : Machine W}
    (hawait : awaitGraceful world deadline fuel start = (.ok report, stop)) :
    HonestReport world report start stop ∧
      (report.kind = .graceful → GracefulEnd world start stop) := by
  induction fuel generalizing start with
  | zero => cases hawait
  | succ fuel ih =>
      obtain ⟨drained, middle, hdrain, hawait⟩ := Program.bind_eq_ok_iff.mp hawait
      rw [Program.attempt_eq_ok_iff] at hdrain
      match drained with
      | .error .running => cases hawait
      | .error (.failed primary) => exact absurd hawait forceAfter_ne_ok
      | .ok () =>
          have hheard := (drainMonitor_ok hdrain).1
          have hwatched := ((closed_watched world).drainMonitor true fuel).moved hdrain
          obtain ⟨complete, checked, hcomplete, hawait⟩ := Program.bind_eq_ok_iff.mp hawait
          have hchecked := (frees_heard world).gracefulCompletionObserved.moved hcomplete
          have hstill := (closed_watched world).gracefulCompletionObserved.moved hcomplete
          have hretained := (closed_retains world).trans
            (((closed_retains world).drainMonitor true fuel).moved hdrain)
            ((closed_retains world).gracefulCompletionObserved.moved hcomplete)
          cases complete with
          | true =>
              obtain ⟨hhonest, -, reaped, hreaped, hsame, hwell⟩ := finishCleanup_ok hawait
              obtain ⟨hstopped, howned⟩ := gracefulCompletionObserved_ok hcomplete
              obtain ⟨hreleased, hempty⟩ := hwell.heard rfl
              -- everything the cleanup received was heard from here on
              have hend : GracefulEnd world middle stop := by
                refine ⟨⟨middle, (frees_heard world).refl middle, hstopped, ?_⟩, hempty, howned, ?_⟩
                · exact (frees_heard world).trans hchecked
                    ((frees_heard world).trans hreaped hreleased)
                · rw [← hstill.stdoutThread, ← hsame.stdoutThread]
                  exact hwell.returned
              exact ⟨hhonest.after hretained,
                fun _ => hend.after hheard hwatched.process hwatched.stdoutThread⟩
          | false =>
              obtain ⟨now, read, hclock, hawait⟩ := Program.bind_eq_ok_iff.mp hawait
              split at hawait
              · obtain ⟨hhonest, hkind⟩ := forceAndCleanup_ok hawait
                have hread := (closed_retains world).readClock.moved hclock
                refine ⟨hhonest.after ((closed_retains world).trans hretained hread),
                  fun hgraceful => ?_⟩
                rw [hkind] at hgraceful
                cases hgraceful
              · obtain ⟨pause, waited, hpause, hawait⟩ := Program.bind_eq_ok_iff.mp hawait
                obtain ⟨_, slept, hsleep, hawait⟩ := Program.bind_eq_ok_iff.mp hawait
                obtain ⟨hhonest, hend⟩ := ih hawait
                -- reading the clock and sleeping receive nothing
                have hidle : ∀ {R : Machine W → Machine W → Prop}, Asks world R →
                    R checked slept := fun hR => hR.trans (hR.readClock.moved hclock)
                  (hR.trans ((hR.remainingPoll deadline).moved hpause)
                    ((hR.sleepFor pause).moved hsleep))
                have hlater := (frees_heard world).trans hheard ((frees_heard world).trans hchecked
                  (hidle (frees_heard world).toAsks))
                have hkept := hwatched.trans (hstill.trans (hidle (closed_watched world).toAsks))
                have hretains := (closed_retains world).trans hretained
                  (hidle (closed_retains world).toAsks)
                exact ⟨hhonest.after hretains, fun hgraceful =>
                  (hend hgraceful).after hlater hkept.process hkept.stdoutThread⟩

theorem requestStop_ok {start stop : Machine W}
    (hrequest : requestStop world start = (.ok none, stop)) :
    Heard world start stop ∧ Retains world start stop ∧
      stop.owner.stdoutThread = start.owner.stdoutThread := by
  refine ⟨(frees_heard world).requestStop.moved hrequest, ?_⟩
  rw [requestStop, readOwner_bind] at hrequest
  split at hrequest
  · cases hrequest
    exact ⟨(closed_retains world).refl start, rfl⟩
  · obtain ⟨_, entered, henter, hrequest⟩ := Program.bind_eq_ok_iff.mp hrequest
    obtain ⟨session, found, hsession, hrequest⟩ := Program.bind_eq_ok_iff.mp hrequest
    obtain ⟨created, asked, hcreated, hrequest⟩ := Program.bind_eq_ok_iff.mp hrequest
    obtain ⟨-, rfl⟩ := Program.pure_eq_ok_iff.mp hrequest
    have hwatching := closed_watched world
    have hasked : Watched entered asked := hwatching.trans (hwatching.sessionRef.moved hsession)
      ((hwatching.ask fun w => .createControlFile session w).moved hcreated)
    have hretaining := closed_retains world
    have hretained : Retains world entered asked :=
      hretaining.trans (hretaining.sessionRef.moved hsession)
        ((hretaining.ask fun w => .createControlFile session w).moved hcreated)
    cases henter
    exact ⟨⟨hretained.process, hretained.session, hretained.world⟩, hasked.stdoutThread⟩

/-- A shutdown that reports is honest about the session, and a graceful one saw the launcher
stop. -/
theorem shutdown_ok {fuel : Nat} {report : ShutdownReport} {start stop : Machine W}
    (hshutdown : shutdown world fuel start = (.ok report, stop)) :
    HonestReport world report start stop ∧
      (report.kind = .graceful → GracefulEnd world start stop) := by
  rw [shutdown, readOwner_bind] at hshutdown
  split at hshutdown
  · cases hshutdown
  obtain ⟨refused, requested, hrequest, hshutdown⟩ := Program.bind_eq_ok_iff.mp hshutdown
  cases refused with
  | some primary => exact absurd hshutdown forceAfter_ne_ok
  | none =>
      obtain ⟨deadline, checked, hdeadline, hshutdown⟩ := Program.bind_eq_ok_iff.mp hshutdown
      obtain ⟨hhonest, hend⟩ := awaitGraceful_ok hshutdown
      obtain ⟨hheard, hretains, hthread⟩ := requestStop_ok hrequest
      have hread := ((frees_heard world).checkedDeadline _).moved hdeadline
      have hwatched := ((closed_watched world).checkedDeadline _).moved hdeadline
      have hretained := (closed_retains world).trans hretains
        (((closed_retains world).checkedDeadline _).moved hdeadline)
      exact ⟨hhonest.after hretained,
        fun hgraceful => (hend hgraceful).after ((frees_heard world).trans hheard hread)
        hretained.process (hwatched.stdoutThread.trans hthread)⟩

theorem forceShutdown_ok {fuel : Nat} {report : ShutdownReport} {start stop : Machine W}
    (hforce : forceShutdown world fuel start = (.ok report, stop)) :
    HonestReport world report start stop ∧ report.kind = .forced := by
  rw [forceShutdown, readOwner_bind] at hforce
  split at hforce
  · cases hforce
  · obtain ⟨_, entered, henter, hforce⟩ := Program.bind_eq_ok_iff.mp hforce
    obtain ⟨hhonest, hkind⟩ := forceAndCleanup_ok hforce
    cases henter
    exact ⟨hhonest.after ⟨rfl, rfl, .refl⟩, hkind⟩

/-! ## The stream behind a graceful report -/

variable {json : JsonDecoder} {port : UInt16} {stdout stderr : List PipeRead}

/-- Standard output was read to its end, ended with a line, and was decoded without an
error to one whole lifecycle for the port. -/
def CompleteStdout (json : JsonDecoder) (port : UInt16) (stdout : List PipeRead) : Prop :=
  ∃ (whole : WholeLifecycle port true) (chunks : List Bytes) (later : List PipeRead),
    stdout = chunks.map .chunk ++ .chunk [] :: later ∧ Faultless json chunks whole.events ∧
      EndsLine chunks.flatten

/-- The stdout thread returned: it sent its last message. -/
def Returned (json : JsonDecoder) (port : UInt16) (stdout : List PipeRead) : Prop :=
  ∃ message ∈ monitorStdout json port stdout, message.isFinal = true

/-- The state of the tracker that a message carries. -/
def MonitorMessage.state? : MonitorMessage → Option LifecycleState
  | .event state _ => some state
  | .stdoutEnded state _ => some state
  | _ => none

/-- The owner has a state from a message, or from its start. -/
theorem MonitorView.state_after (view : MonitorView) (messages : List MonitorMessage) :
    (view.after messages).state = view.state ∨
      ∃ message ∈ messages, message.state? = some (view.after messages).state := by
  induction messages generalizing view with
  | nil => exact .inl rfl
  | cons message rest ih =>
      have hafter : view.after (message :: rest) = (view.noted message).after rest := rfl
      rw [hafter]
      rcases ih (view.noted message) with hkept | ⟨later, hmem, hstate⟩
      · rw [hkept]
        cases message with
        | event state event => exact .inr ⟨_, List.mem_cons_self, rfl⟩
        | stdoutEnded state ignoredLines => exact .inr ⟨_, List.mem_cons_self, rfl⟩
        | _ => exact .inl rfl
      · exact .inr ⟨later, List.mem_cons_of_mem _ hmem, hstate⟩

theorem mem_drainStderr {total : Nat} {message : MonitorMessage}
    (hmem : message ∈ (drainStderr total stderr).1) : message = .stderrReadFailure := by
  induction stderr generalizing total with
  | nil => cases hmem
  | cons read reads ih =>
      match read with
      | .failed => exact List.mem_singleton.mp hmem
      | .chunk [] => cases hmem
      | .chunk (byte :: bytes) => exact ih hmem

/-- A stopped event is the last one that is accepted. -/
theorem after_of_mem_eventMessages {tracker : LifecycleTracker} {events : List LauncherEvent}
    {message : MonitorMessage} (hmem : message ∈ eventMessages tracker events)
    (hstopped : message.state? = some .stopped) : (tracker.after events).state = .stopped := by
  induction events generalizing tracker with
  | nil => cases hmem
  | cons event rest ih =>
      obtain ⟨state, next, hobserve, hmessage⟩ := mem_eventMessages_cons hmem
      obtain ⟨-, -, hstate⟩ := LifecycleTracker.observe_eq_ok_iff.mp hobserve
      rw [LifecycleTracker.after, hobserve]
      rcases hmessage with rfl | hlater
      · have hnext : next.state = .stopped := hstate ▸ Option.some.inj hstopped
        rw [LifecycleTracker.after_of_terminal (by rw [hnext]; rfl)]
        exact hnext
      · exact ih hlater

theorem not_isFinal_of_mem_eventMessages {tracker : LifecycleTracker} {events : List LauncherEvent}
    {message : MonitorMessage} (hmem : message ∈ eventMessages tracker events) :
    message.isFinal = false := by
  induction events generalizing tracker with
  | nil => cases hmem
  | cons event rest ih =>
      obtain ⟨state, next, -, rfl | hlater⟩ := mem_eventMessages_cons hmem
      · rfl
      · exact ih hlater

/-- A thread that returned without a failure, and reported that the launcher stopped, read
the complete output. -/
theorem completeStdout_of_messages (hreturned : Returned json port stdout)
    (hnone : ∀ message ∈ monitorStdout json port stdout, message.isStdoutFailure = false)
    (hstopped : ∃ message ∈ monitorStdout json port stdout, message.state? = some .stopped) :
    CompleteStdout json port stdout := by
  unfold Returned at hreturned
  unfold monitorStdout at hreturned hnone hstopped
  rcases hnew : LifecycleTracker.new port true with error | tracker
  · rw [hnew] at hnone
    cases hnone _ List.mem_cons_self
  · rw [hnew] at hreturned hnone hstopped
    have hreported : ∃ events last, Reports json .withDefaultLimit tracker stdout events last :=
      exists_reports .withDefaultLimit rfl tracker stdout
    obtain ⟨events, last, hreports⟩ := hreported
    dsimp only at hreturned hnone hstopped
    rw [hreports.messages] at hreturned hnone hstopped
    obtain ⟨final, hfinal, hisFinal⟩ := hreturned
    have hlast : final ∈ last := by
      rcases List.mem_append.mp hfinal with hevent | hlast
      · rw [not_isFinal_of_mem_eventMessages hevent] at hisFinal
        cases hisFinal
      · exact hlast
    have hnot := hnone final (List.mem_append_right _ hlast)
    -- the thread returned without a failure, so its last message is the end of the stream
    have hended : ∃ state ignoredLines, final = .stdoutEnded state ignoredLines := by
      cases final with
      | stdoutEnded state ignoredLines => exact ⟨state, ignoredLines, rfl⟩
      | protocolFailure error => cases hnot
      | stdoutReadFailure => cases hnot
      | event state event => cases hisFinal
      | stderrReadFailure => cases hisFinal
    obtain ⟨state, ignoredLines, rfl⟩ := hended
    obtain ⟨-, chunks, later, next, hreads, hdecodes, hbuffer⟩ :=
      hreports.complete state ignoredLines hlast
    -- `stopped` is the last event of the language, so no event came after it
    have hafter : (tracker.after events).state = .stopped := by
      obtain ⟨message, hmem, hstate⟩ := hstopped
      rcases List.mem_append.mp hmem with hevent | hmem
      · exact after_of_mem_eventMessages hevent hstate
      · have hfinal := hreports.final message hmem
        cases message with
        | stdoutEnded state ignoredLines =>
            rw [← (hreports.complete state ignoredLines hmem).1]
            exact Option.some.inj hstate
        | event state event => cases hfinal
        | _ => cases hstate
    obtain ⟨whole, rfl⟩ := LifecycleTracker.events_of_stopped
      (LifecycleTracker.fresh_of_new hnew) hreports.accepted hafter
    exact ⟨whole, chunks, later, hreads, hdecodes.faultless, hdecodes.endsLine hbuffer⟩

/-- The messages of a complete output are no failures. -/
theorem CompleteStdout.not_failure (hcomplete : CompleteStdout json port stdout)
    {tracker : LifecycleTracker} (hnew : LifecycleTracker.new port true = .ok tracker)
    {message : MonitorMessage} (hmem : message ∈ monitorStdout json port stdout) :
    message.isStdoutFailure = false := by
  obtain ⟨whole, chunks, later, rfl, hfaultless, hends⟩ := hcomplete
  obtain ⟨last, hdecodes⟩ := hfaultless.decodes
  have haccepts : tracker.acceptsAll whole.events = true :=
    LifecycleTracker.acceptsAll_of_inLanguage (LifecycleTracker.fresh_of_new hnew)
      ⟨whole, .inl (List.prefix_refl _)⟩
  rw [monitorStdout, hnew] at hmem
  dsimp only at hmem
  rw [monitorReads_of_decodes rfl hdecodes haccepts (hdecodes.buffer_eq_nil hends)] at hmem
  rcases List.mem_append.mp hmem with hevent | hlast
  · have hfinal := not_isFinal_of_mem_eventMessages hevent
    cases message <;> first | rfl | cases hfinal
  · rw [List.mem_singleton.mp hlast]
    rfl

/-! ## Every report -/

/-- A call that reports is a shutdown. -/
theorem report_of_step {start stop : Machine W} {call : OwnerCall} {report : ShutdownReport}
    (hstep : OwnerStep world start ⟨call, .ok (some report)⟩ stop) :
    HonestReport world report start stop ∧
      (report.kind = .graceful → GracefulEnd world start stop) := by
  obtain ⟨fuel, hcall⟩ := hstep
  cases call with
  | pollHealth =>
      obtain ⟨_, middle, -, hcall⟩ := Program.bind_eq_ok_iff.mp hcall
      cases hcall
  | shutdown =>
      obtain ⟨answer, middle, hshutdown, hcall⟩ := Program.bind_eq_ok_iff.mp hcall
      cases hcall
      exact shutdown_ok hshutdown
  | forceShutdown =>
      obtain ⟨answer, middle, hforce, hcall⟩ := Program.bind_eq_ok_iff.mp hcall
      cases hcall
      obtain ⟨hhonest, hkind⟩ := forceShutdown_ok hforce
      refine ⟨hhonest, fun hgraceful => ?_⟩
      rw [hkind] at hgraceful
      cases hgraceful
  | retryPrivateCleanup =>
      obtain ⟨_, middle, -, hcall⟩ := Program.bind_eq_ok_iff.mp hcall
      cases hcall
  | drop =>
      obtain ⟨_, middle, -, hcall⟩ := Program.bind_eq_ok_iff.mp hcall
      cases hcall

/-- Everything a ready owner received since its launch. -/
theorem followed_of_launched {platform : Platform} {fuel : Nat} {bundle : ValidatedBundle}
    {secret : Secret} {limits : LifecycleLimits} {channel : List MonitorMessage} {w : W}
    {machine stop : Machine W} {calls : List Answered}
    (hlaunch : launchValidatedInner world platform fuel bundle port secret limits channel w =
      .owned (.ok ()) machine) (hrun : Run (OwnerStep world) machine calls stop) :
    ∃ session process started, Follows world ⟨RuntimeOwner.new port secret limits session process,
      channel, started, []⟩ stop stop.log := by
  obtain ⟨session, process, started, -, hstart⟩ := launchValidatedInner_owned hlaunch
  have hready := (startupClosed_followed.within_waitUntilReady fuel).moved
    (waitUntilReady_of_supervised hstart)
  obtain ⟨seen, hfollows⟩ := closed_followed.trans hready (cleanupClosed_followed.calls hrun)
  have hlog : stop.log = seen := hfollows.log
  exact ⟨session, process, started, hlog ▸ hfollows⟩

/-- Every report says truly that the Job was seen empty, the session removed and both exit
codes known, and a graceful one stands for a complete standard output exactly if no earlier call
took a failure of it from the channel. -/
theorem report_is_honest_iff {platform : Platform} {fuel : Nat} {bundle : ValidatedBundle}
    {secret : Secret} {limits : LifecycleLimits} {channel : List MonitorMessage} {w : W}
    {machine middle stop : Machine W} {calls : List Answered} {call : OwnerCall}
    {report : ShutdownReport}
    (hchannel : Interleaving (monitorStdout json port stdout) (drainStderr 0 stderr).1 channel)
    (hjoin : ∀ w, (world.joinStdout w).1 = true → Returned json port stdout)
    (hlaunch : launchValidatedInner world platform fuel bundle port secret limits channel w =
      .owned (.ok ()) machine) (hrun : Run (OwnerStep world) machine calls middle)
    (hstep : OwnerStep world middle ⟨call, .ok (some report)⟩ stop) :
    HonestReport world report middle stop ∧ (report.kind = .graceful →
      (CompleteStdout json port stdout ↔
        ∀ message ∈ received middle.log, message.isStdoutFailure = false)) := by
  obtain ⟨hhonest, hgraceful⟩ := report_of_step hstep
  refine ⟨hhonest, fun hkind => ?_⟩
  have hend := hgraceful hkind
  obtain ⟨process, -, hinv, -⟩ := ownerInv_of_launched hlaunch nofun
  have hholding : Holding process middle :=
    (ownerInv_run hinv hrun).resolve_right fun hstopped => by
    have howned := hend.owned
    rw [hstopped.gone] at howned
    cases howned
  have hreturned : Returned json port stdout := by
    obtain ⟨w, hjoined⟩ := hend.returned hholding.stdoutThread
    exact hjoin w hjoined
  obtain ⟨session, launched, started, hfirst⟩ := followed_of_launched hlaunch hrun
  obtain ⟨last, ⟨second, hsecond, hclear⟩, hstate, ⟨third, hthird, hstill⟩⟩ := hend.stopped
  -- everything sent was received by the end
  have hall : channel = received middle.log ++ (received second ++ received third) := by
    have hchannels := hfirst.channel
    rw [hsecond.channel, hthird.channel, hend.channel, List.append_nil] at hchannels
    exact hchannels
  have hstopped : ∃ message ∈ monitorStdout json port stdout, message.state? = some .stopped := by
    have hview := (hfirst.trans hsecond).view
    have hstates := MonitorView.state_after
      (RuntimeOwner.new port secret limits session launched).view (received (middle.log ++ second))
    rw [← hview] at hstates
    rcases hstates with hkept | ⟨message, hmem, hmessage⟩
    · have hnever : last.owner.monitorState = .awaitingStart := hkept
      rw [hstate] at hnever
      cases hnever
    · have hsent : message ∈ channel := by
        rw [hall, ← List.append_assoc, ← received_append]
        exact List.mem_append_left _ hmem
      rcases hchannel.mem_iff.mp hsent with hstdout | hstderr
      · exact ⟨message, hstdout, by rw [hmessage]; exact congrArg some hstate⟩
      · rw [mem_drainStderr hstderr] at hmessage
        cases hmessage
  constructor
  · intro hcomplete message hmem
    rcases hnew : LifecycleTracker.new port true with error | tracker
    · -- for port zero no message carries a state
      obtain ⟨reported, hreported, hstate⟩ := hstopped
      rw [monitorStdout, hnew] at hreported
      rw [List.mem_singleton.mp hreported] at hstate
      cases hstate
    · have hsent : message ∈ channel := by
        rw [hall]
        exact List.mem_append_left _ hmem
      rcases hchannel.mem_iff.mp hsent with hstdout | hstderr
      · exact hcomplete.not_failure hnew hstdout
      · rw [mem_drainStderr hstderr]
        rfl
  · intro hnone
    refine completeStdout_of_messages hreturned (fun message hmem => ?_) hstopped
    have hsent := hchannel.mem_iff.mpr (.inl hmem)
    rw [hall] at hsent
    rcases List.mem_append.mp hsent with hmem | hlater
    · exact hnone message hmem
    · exact (List.mem_append.mp hlater).elim (hclear message) (hstill message)

/-! ## Two shutdowns -/

section Fixture

/-- The answer of the port, and what each wait on the channel finds. -/
structure Schedule where
  answer : Bytes
  arrivals : List Arrival

/-- The fixture world with a schedule: the processes exit once every arrival was waited for. -/
def scheduledWorld : World Schedule where
  instantLimit := fixtureWorld.instantLimit
  now w := (0, w)
  sleep _ w := w
  arrival _ w := (w.arrivals.headD .nothing, { w with arrivals := w.arrivals.tail })
  wait _ _ w := (.ok (if w.arrivals.isEmpty then some 0 else none), w)
  openProcess _ w := (.ok 8, w)
  creationTime _ w := (.ok 1, w)
  isAlive _ w := (.ok true, w)
  isInJob _ _ w := (.ok true, w)
  tcpListenerTable family w := (.ok (fixtureTable family), w)
  tokenExists _ w := (some false, w)
  connect _ _ w := (true, w)
  setReadTimeout _ w := (true, w)
  setWriteTimeout _ w := (true, w)
  writeAll _ w := (true, w)
  readByte w := (w.answer.head?, { w with answer := w.answer.tail })
  terminate _ w := (.ok (), w)
  activeProcessCount _ w := (.ok 0, w)
  joinStdout w := (true, w)
  joinStderr w := (some 0, w)
  verifySecurity w := (.ok (), w)
  cleanupSession w := (.ok (), w)
  createControlFile _ w := (.ok (), w)
  createSession w := (.ok fixtureSession, w)
  writeTokenFile _ _ w := (.ok (), w)
  createProcess _ w := (.ok fixtureLaunched, w)
  startMonitors _ w := (.ok (), w)

def stoppedJson : Bytes :=
  ["\x7b\"protocol_version\":\"2\",\"event\":\"stopped\",",
    "\"timestamp\":\"2026-07-27 00:00:02 UTC\",\"pid\":4242\x7d"].flatMap asBytes

def stoppingFixtureJson : JsonDecoder := fun payload =>
  if payload = stoppedJson then
    some ⟨"2", "stopped", some "2026-07-27 00:00:02 UTC", some fixturePid, none, none, none, none,
      none, none, none⟩
  else fixtureJson payload

/-- The fixture launch up to a ready owner, then the end of the stream. -/
def stoppedStdout (rest : List PipeRead) : List PipeRead :=
  fixtureStdout ++ .chunk (eventPrefix ++ stoppedJson ++ [lineFeed]) :: rest

def cleanStdout : List PipeRead := stoppedStdout [.chunk []]

/-- The stream ends within a line. -/
def truncatedStdout : List PipeRead :=
  stoppedStdout [.chunk (asBytes "Execution halted"), .chunk []]

/-- A launch that becomes ready: both events arrive, and nothing more until the owner is ready. -/
def scheduledRun (stdout : List PipeRead) (later : List Arrival) :
    Except Stop Unit × Machine Schedule :=
  superviseStartup scheduledWorld 4 ⟨RuntimeOwner.new fixturePort fixtureSecret .default
    fixtureSession fixtureProcess, monitorStdout stoppingFixtureJson fixturePort stdout,
    ⟨asBytes "HTTP/1.1 200 OK\r\n", [.arrived, .arrived, .nothing, .nothing] ++ later⟩, []⟩

/-- A launch that becomes ready owns the machine of its run. -/
theorem scheduledRun_owned (stdout : List PipeRead) (later : List Arrival)
    (hready : (scheduledRun stdout later).1 = .ok ()) :
    launchValidatedInner scheduledWorld (fixturePlatform (.directory false)) 4 fixtureBundle
      fixturePort fixtureSecret .default (monitorStdout stoppingFixtureJson fixturePort stdout)
      ⟨asBytes "HTTP/1.1 200 OK\r\n", [.arrived, .arrived, .nothing, .nothing] ++ later⟩ =
      .owned (.ok ()) (scheduledRun stdout later).2 := by
  have hcommand : launchCommand (fixturePlatform (.directory false)) fixtureBundle fixturePort
      fixtureSession = .ok fixtureCommand := fixture_command
  rw [← hready]
  simp only [launchValidatedInner, scheduledWorld, hcommand]
  rfl

def cleanRun : Except Stop Unit × Machine Schedule := scheduledRun cleanStdout [.arrived, .arrived]

def cleanShutdown : Except Stop (Option ShutdownReport) × Machine Schedule :=
  OwnerCall.shutdown.run scheduledWorld 4 cleanRun.2

def gracefulReport : ShutdownReport where
  kind := .graceful
  wrapperExitCode := some 0
  runtimeExitCode := some 0
  ignoredStdoutLines := 0
  discardedStderrBytes := 0
  jobEmpty := true
  sessionRemoved := true

theorem report_is_honest_iff_clean :
    HonestReport scheduledWorld gracefulReport cleanRun.2 cleanShutdown.2 ∧
    (gracefulReport.kind = .graceful →
      (CompleteStdout stoppingFixtureJson fixturePort cleanStdout ↔
        ∀ message ∈ received cleanRun.2.log, message.isStdoutFailure = false)) := by
  have hanswers : cleanRun.1 = .ok () ∧ cleanShutdown.1 = .ok (some gracefulReport) ∧
      (monitorStdout stoppingFixtureJson fixturePort cleanStdout).any
        MonitorMessage.isFinal = true := by decide +kernel
  obtain ⟨hok, hshutdown, hreturned⟩ := hanswers
  have hstderr : (drainStderr 0 []).1 = [] := rfl
  have hchannel :=
    Interleaving.nil_right (monitorStdout stoppingFixtureJson fixturePort cleanStdout)
  rw [← hstderr] at hchannel
  have hlaunch := scheduledRun_owned cleanStdout [.arrived, .arrived] hok
  have hstep : OwnerStep scheduledWorld cleanRun.2 ⟨.shutdown, .ok (some gracefulReport)⟩
      cleanShutdown.2 := ownerStep_of_answer 4 hshutdown
  exact report_is_honest_iff hchannel (fun _ _ => List.any_eq_true.mp hreturned) hlaunch
    (.nil _) hstep

def truncatedRun : Except Stop Unit × Machine Schedule :=
  scheduledRun truncatedStdout [.arrived, .arrived]

def truncatedPolled : Except Stop (Option ShutdownReport) × Machine Schedule :=
  OwnerCall.pollHealth.run scheduledWorld 4 truncatedRun.2

def truncatedPolledAgain : Except Stop (Option ShutdownReport) × Machine Schedule :=
  OwnerCall.pollHealth.run scheduledWorld 4 truncatedPolled.2

def truncatedShutdown : Except Stop (Option ShutdownReport) × Machine Schedule :=
  OwnerCall.shutdown.run scheduledWorld 4 truncatedPolledAgain.2

/-- A poll takes the failure of the truncated stream, and the shutdown reports it graceful. -/
theorem truncated_output_reported_graceful :
    launchValidatedInner scheduledWorld (fixturePlatform (.directory false)) 4 fixtureBundle
      fixturePort fixtureSecret .default
      (monitorStdout stoppingFixtureJson fixturePort truncatedStdout)
      ⟨asBytes "HTTP/1.1 200 OK\r\n",
        [.arrived, .arrived, .nothing, .nothing] ++ [.arrived, .arrived]⟩ =
      .owned (.ok ()) truncatedRun.2 ∧
    Run (OwnerStep scheduledWorld) truncatedRun.2 [⟨.pollHealth, .error .stoppedUnexpectedly⟩,
      ⟨.pollHealth, .error (.protocol .truncatedLine)⟩] truncatedPolledAgain.2 ∧
    OwnerStep scheduledWorld truncatedPolledAgain.2 ⟨.shutdown, .ok (some gracefulReport)⟩
      truncatedShutdown.2 ∧
    gracefulReport.kind = .graceful ∧
    ¬CompleteStdout stoppingFixtureJson fixturePort truncatedStdout := by
  have hanswers : truncatedRun.1 = .ok () ∧
      truncatedPolled.1 = .error (.failed .stoppedUnexpectedly) ∧
      truncatedPolledAgain.1 = .error (.failed (.protocol .truncatedLine)) ∧
      truncatedShutdown.1 = .ok (some gracefulReport) ∧
      (monitorStdout stoppingFixtureJson fixturePort truncatedStdout).any
        MonitorMessage.isStdoutFailure = true := by decide +kernel
  obtain ⟨hok, hpolled, hagain, hshutdown, hfailure⟩ := hanswers
  have hlaunch := scheduledRun_owned truncatedStdout [.arrived, .arrived] hok
  refine ⟨hlaunch, .cons (ownerStep_of_answer 4 hpolled) (.single (ownerStep_of_answer 4 hagain)),
    ownerStep_of_answer 4 hshutdown, rfl, fun hcomplete => ?_⟩
  obtain ⟨message, hmem, hmessage⟩ := List.any_eq_true.mp hfailure
  have hnew : LifecycleTracker.new fixturePort true =
    .ok ⟨fixturePort, true, .awaitingStart, none⟩ :=
    rfl
  rw [hcomplete.not_failure hnew hmem] at hmessage
  cases hmessage

end Fixture

end Rpackit.Lifecycle
