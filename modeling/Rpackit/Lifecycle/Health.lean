import Rpackit.Lifecycle.Graceful

/-! # Runtime health

A poll of a ready owner fails once the launcher or a process is done. What an owner knows
of that stays: the end of the stream, the state of the launcher, the exit of a process.
A failure that reaches the owner as a single message does not stay; after it a poll fails
only if something else shows.
-/

namespace Rpackit.Lifecycle

open Text Launcher Transport Rpackit.Bundle
open Program (Within fail)
open Rpackit.Windows (JobMemberProcess JobProcess)

variable {W : Type} {world : World W}

/-! ## Failures -/

/-- What a poll may find: a failure of a stream, its end, a terminal event, or an exit. -/
def LifecycleError.isHealthFailure : LifecycleError → Bool
  | .protocol _ => true
  | .protocolStreamReadFailed => true
  | .stderrStreamReadFailed => true
  | .protocolStreamEnded => true
  | .launcherReportedFailure _ => true
  | .stoppedUnexpectedly => true
  | .wrapperExitedUnexpectedly => true
  | .runtimeExitedUnexpectedly => true
  | .unexpectedLifecycleState _ => true
  | .monitorDisconnected => true
  | _ => false

/-- A failure that the owner keeps no trace of. -/
def MonitorMessage.isOneShot : MonitorMessage → Bool
  | .protocolFailure _ => true
  | .stdoutReadFailure => true
  | .stderrReadFailure => true
  | _ => false

def TookOneShot (machine : Machine W) : Prop :=
  ∃ message ∈ received machine.log, message.isOneShot = true

/-- A call that stops the runtime. -/
def OwnerCall.stops : OwnerCall → Bool
  | .pollHealth => false
  | .retryPrivateCleanup => false
  | _ => true

/-! ## Messages after the launch -/

/-- A message that may follow the `listening` event. -/
def MonitorMessage.isLater : MonitorMessage → Bool
  | .event .stopping .stopping => true
  | .event .stopped (.stopped _) => true
  | .event .failed (.launcherFailed _) => true
  | .event _ _ => false
  | _ => true

/-- Only such messages are still to come. -/
def Unlistening (machine : Machine W) : Prop :=
  ∀ message ∈ machine.channel, message.isLater = true

theorem MonitorMessage.isLater_of_isFinal {message : MonitorMessage}
    (hfinal : message.isFinal = true) : message.isLater = true := by
  cases message with
  | event state event => cases hfinal
  | _ => rfl

/-- Once a launcher listens, its tracker accepts no startup event. -/
theorem isLater_of_mem_eventMessages {tracker : LifecycleTracker} {events : List LauncherEvent}
    (hawaiting : tracker.state ≠ .awaitingStart) (hstarting : tracker.state ≠ .starting)
    {message : MonitorMessage} (hmem : message ∈ eventMessages tracker events) :
    message.isLater = true := by
  induction events generalizing tracker with
  | nil => cases hmem
  | cons event rest ih =>
      obtain ⟨state, next, hobserve, hmessage⟩ := mem_eventMessages_cons hmem
      have hadmits := LifecycleTracker.observe_ok_iff_admits.mp ⟨state, hobserve⟩
      obtain ⟨-, -, rfl⟩ := LifecycleTracker.observe_eq_ok_iff.mp hobserve
      cases hadmits with
      | starting event hstate => exact absurd hstate hawaiting
      | listening event hstate => exact absurd hstate hstarting
      | stopping event hstate hpolicy =>
          rcases hmessage with rfl | hlater
          · rfl
          · exact ih (by simp) (by simp) hlater
      | stopped event hstate hpid =>
          rcases hmessage with rfl | hlater
          · rfl
          · exact ih (by simp) (by simp) hlater
      | error event hactive hpid =>
          rcases hmessage with rfl | hlater
          · rfl
          · exact ih (by simp) (by simp) hlater

/-- What standard output may still bring after the two startup messages. -/
theorem isLater_of_monitorStdout {json : JsonDecoder} {port : UInt16} {stdout : List PipeRead}
    {first : MonitorMessage} {event : MonitorEvent} {left : List MonitorMessage}
    (hstdout : monitorStdout json port stdout = first :: .event .listening event :: left)
    {message : MonitorMessage} (hmem : message ∈ left) : message.isLater = true := by
  unfold monitorStdout at hstdout
  split at hstdout
  · cases hstdout
  next tracker _ =>
    have hreported : ∃ events last, Reports json .withDefaultLimit tracker stdout events last :=
      exists_reports .withDefaultLimit rfl tracker stdout
    obtain ⟨events, last, hreports⟩ := hreported
    rw [hreports.messages] at hstdout
    have haccepts := hreports.accepted
    rcases events with _ | ⟨starting, _ | ⟨listening, rest⟩⟩
    · -- the last message of the thread would be two messages
      have hlast : last.length = left.length + 2 := congrArg List.length hstdout
      have hone := hreports.atMostOne
      omega
    · rcases hobserve : tracker.observe starting with ⟨error | state, next⟩
      · rw [LifecycleTracker.acceptsAll, hobserve] at haccepts
        cases haccepts
      · simp only [eventMessages, hobserve, List.cons_append, List.nil_append,
          List.cons.injEq] at hstdout
        have hfinal := hreports.final (.event .listening event) (by rw [hstdout.2]; simp)
        cases hfinal
    · rcases hobserve : tracker.observe starting with ⟨error | state, next⟩
      · rw [LifecycleTracker.acceptsAll, hobserve] at haccepts
        cases haccepts
      -- the second message is `listening`, and the tracker is past the startup events
      · rcases hagain : next.observe listening with ⟨error | second, last⟩
        · simp only [LifecycleTracker.acceptsAll, hobserve, hagain] at haccepts
          cases haccepts
        · simp only [eventMessages, hobserve, hagain, List.cons_append, List.cons.injEq,
            MonitorMessage.event.injEq] at hstdout
          obtain ⟨-, ⟨rfl, -⟩, rfl⟩ := hstdout
          obtain ⟨-, -, hstate⟩ := LifecycleTracker.observe_eq_ok_iff.mp hagain
          rcases List.mem_append.mp hmem with hevent | hfinal
          · refine isLater_of_mem_eventMessages ?_ ?_ hevent
            · rw [← hstate]
              intro hidle
              cases hidle
            · rw [← hstate]
              intro hstarting
              cases hstarting
          · exact MonitorMessage.isLater_of_isFinal (hreports.final _ hfinal)

/-! ## What stays -/

/-- The process is never again seen running. -/
def Exited (world : World W) (handle : Nat) (w : W) : Prop :=
  ∀ timeout later, world.Reaches w later → (world.wait handle timeout later).1 ≠ .ok none

/-- Both senders of the channel are gone. -/
def Disconnected (world : World W) (w : W) : Prop :=
  ∀ timeout later, world.Reaches w later → (world.arrival timeout later).1 = .disconnected

/-- From here on a process that exited stays so, and senders that are gone do not come back. -/
structure World.EndsPersist (world : World W) (start : W) : Prop where
  exits : ∀ handle timeout w exitCode, world.Reaches start w →
    (world.wait handle timeout w).1 = .ok (some exitCode) →
    Exited world handle (world.wait handle timeout w).2
  disconnects : ∀ timeout w, world.Reaches start w →
    (world.arrival timeout w).1 = .disconnected → Disconnected world (world.arrival timeout w).2

theorem World.EndsPersist.later {start later : W} (hends : world.EndsPersist start)
    (hreaches : world.Reaches start later) : world.EndsPersist later where
  exits := fun handle timeout w exitCode hlater =>
    hends.exits handle timeout w exitCode (hreaches.trans hlater)
  disconnects := fun timeout w hlater => hends.disconnects timeout w (hreaches.trans hlater)

theorem World.EndsPersist.exited {start later waited : W} {handle timeout : Nat}
    {exitCode : UInt32} (hends : world.EndsPersist start) (hreaches : world.Reaches start later)
    (hwait : world.wait handle timeout later = (.ok (some exitCode), waited)) :
    Exited world handle waited := by
  have hstays := hends.exits handle timeout later exitCode hreaches (by rw [hwait])
  rwa [hwait] at hstays

/-- The owner knows of a failure without a further message. -/
inductive Latched (world : World W) (machine : Machine W) : Prop
  | ended (hended : machine.owner.stdoutEnded = true)
  | left (hstate : machine.owner.monitorState ≠ .listening)
  | wrapper (process : JobProcess) (hprocess : machine.owner.process = some process)
      (hexited : Exited world process.process machine.world)
  | runtime (runtime : JobMemberProcess) (hruntime : machine.owner.runtime = some runtime)
      (hexited : Exited world runtime.process machine.world)
  | disconnected (hchannel : machine.channel = []) (hgone : Disconnected world machine.world)

/-- The world may go on while the owner stays. -/
theorem Latched.moved {start stop : Machine W} (hlatched : Latched world start)
    (howner : stop.owner = start.owner) (hchannel : stop.channel = start.channel)
    (hworld : world.Reaches start.world stop.world) : Latched world stop := by
  have hexits : ∀ handle, Exited world handle start.world → Exited world handle stop.world :=
    fun handle hexited timeout later hreaches => hexited timeout later (hworld.trans hreaches)
  cases hlatched with
  | ended hended => exact .ended (by rwa [howner])
  | left hstate => exact .left (by rwa [howner])
  | wrapper process hprocess hexited =>
      exact .wrapper process (by rwa [howner]) (hexits _ hexited)
  | runtime runtime hruntime hexited =>
      exact .runtime runtime (by rwa [howner]) (hexits _ hexited)
  | disconnected hempty hgone =>
      exact .disconnected (hchannel.trans hempty) fun timeout later hreaches =>
        hgone timeout later (hworld.trans hreaches)

/-- Noting a message: an event or the end of the stream is kept, and nothing is forgotten. -/
theorem Latched.noted (machine : Machine W) {message : MonitorMessage}
    (hlater : message.isLater = true) :
    Latched world (machine.owns (machine.owner.noted message)) ∨ message.isOneShot = true := by
  cases message with
  | event state event =>
      refine .inl (.left ?_)
      cases state with
      | listening => cases event <;> cases hlater
      | _ => nofun
  | stdoutEnded state ignoredLines => exact .inl (.ended rfl)
  | _ => exact .inr rfl

/-- Watching keeps what is still to come free of startup events, and every known failure. -/
def Latches (world : World W) (start stop : Machine W) : Prop :=
  Unlistening start → Unlistening stop ∧ (Latched world start → Latched world stop)

theorem closed_latches : Closed world (Latches world) where
  refl := fun _ hunlistening => ⟨hunlistening, id⟩
  trans := by
    intro start middle stop hfirst hsecond hunlistening
    obtain ⟨hmiddle, hkept⟩ := hfirst hunlistening
    obtain ⟨hstop, hstill⟩ := hsecond hmiddle
    exact ⟨hstop, hstill ∘ hkept⟩
  call := fun hcall hunlistening => ⟨hunlistening, fun hlatched =>
    hlatched.moved rfl rfl (.single hcall)⟩
  plain := fun _ _ _ hunlistening => ⟨hunlistening, fun hlatched => hlatched.moved rfl rfl .refl⟩
  take := by
    intro machine message rest hchannel hunlistening
    refine ⟨fun later hmem => hunlistening later ?_, fun hlatched => ?_⟩
    · rw [hchannel]
      exact List.mem_cons_of_mem _ hmem
    · have hlater : message.isLater = true := hunlistening message (by rw [hchannel]; simp)
      have hnoted : Latched world ((machine.takes message rest).owns
          ((machine.takes message rest).owner.noted message)) ∨ _ := Latched.noted _ hlater
      rcases hnoted with hkept | honeShot
      · exact hkept
      · -- a one-shot failure leaves the owner as it is
        have hsame : machine.owner.noted message = machine.owner := by
          cases message <;> first | rfl | cases honeShot
        rw [hsame]
        cases hlatched with
        | ended hended => exact .ended hended
        | left hstate => exact .left hstate
        | wrapper process hprocess hexited => exact .wrapper process hprocess hexited
        | runtime runtime hruntime hexited => exact .runtime runtime hruntime hexited
        | disconnected hempty =>
            rw [hchannel] at hempty
            cases hempty

/-! ## A poll -/

/-- Nothing that a poll looks at shows a failure: no message and no end of the channel, and
both processes run. -/
structure Silent (world : World W) (machine : Machine W) : Prop where
  nothing : (receive world 0 machine).1 = .ok .nothing
  streaming : machine.owner.stdoutEnded = false
  listening : machine.owner.monitorState = .listening
  running : ∃ process runtime waited, machine.owner.process = some process ∧
    machine.owner.runtime = some runtime ∧
    world.wait process.process 0 (world.arrival 0 machine.world).2 = (.ok none, waited) ∧
    (world.wait runtime.process 0 waited).1 = .ok none

theorem Silent.wrapper {machine : Machine W} {process : JobProcess}
    (hsilent : Silent world machine) (hprocess : machine.owner.process = some process) :
    ∃ waited,
      world.wait process.process 0 (world.arrival 0 machine.world).2 = (.ok none, waited) := by
  obtain ⟨owned, runtime, waited, howned, -, hwrapper, -⟩ := hsilent.running
  obtain rfl := Option.some.inj (hprocess.symm.trans howned)
  exact ⟨waited, hwrapper⟩

theorem Silent.member {machine : Machine W} {process : JobProcess} {waited : W}
    (hsilent : Silent world machine) (hprocess : machine.owner.process = some process)
    (hwrapper : world.wait process.process 0 (world.arrival 0 machine.world).2 =
      (.ok none, waited)) :
    ∃ runtime, machine.owner.runtime = some runtime ∧
      (world.wait runtime.process 0 waited).1 = .ok none := by
  obtain ⟨owned, runtime, again, howned, hruntime, hagain, hmember⟩ := hsilent.running
  obtain rfl := Option.some.inj (hprocess.symm.trans howned)
  rw [hwrapper] at hagain
  cases hagain
  exact ⟨runtime, hruntime, hmember⟩

theorem Machine.settled_gone {machine : Machine W} (hempty : machine.channel = []) :
    machine.settled .disconnected = .disconnected := by
  rw [Machine.settled, hempty]
  split
  · rfl
  · rfl

/-- While a thread is not joined, the channel is disconnected only if its senders are gone. -/
theorem arrival_of_disconnected {start : Machine W} (hthread : start.owner.stdoutThread = true)
    (hreceived : (receive world 0 start).1 = .ok .disconnected) :
    (world.arrival 0 start.world).1 = .disconnected := by
  rw [receive_eq, Machine.settled, if_pos (by rw [Machine.calls, hthread]; rfl)] at hreceived
  cases harrival : (world.arrival 0 start.world).1 with
  | disconnected => rfl
  | arrived =>
      rw [harrival] at hreceived
      cases hchannel : start.channel <;> rw [hchannel] at hreceived <;> cases hreceived
  | nothing =>
      rw [harrival] at hreceived
      cases hreceived

theorem Latched.not_silent {machine : Machine W} (hlatched : Latched world machine) :
    ¬Silent world machine := by
  intro hsilent
  obtain ⟨process, runtime, waited, hprocess, hruntime, hwrapper, hmember⟩ := hsilent.running
  have hreaches : world.Reaches machine.world (world.arrival 0 machine.world).2 :=
    .single (.arrival 0 machine.world)
  cases hlatched with
  | ended hended =>
      rw [hsilent.streaming] at hended
      cases hended
  | left hstate => exact hstate hsilent.listening
  | wrapper owned howned hexited =>
      obtain rfl := Option.some.inj (hprocess.symm.trans howned)
      exact hexited 0 _ hreaches (by rw [hwrapper])
  | runtime owned howned hexited =>
      obtain rfl := Option.some.inj (hruntime.symm.trans howned)
      have hwaited : (world.wait process.process 0 (world.arrival 0 machine.world).2).2 = waited :=
        congrArg Prod.snd hwrapper
      have hlater : world.Reaches machine.world waited :=
        hreaches.tail (hwaited ▸ .wait process.process 0 _)
      exact hexited 0 _ hlater hmember
  | disconnected hempty hgone =>
      have hnothing := hsilent.nothing
      rw [receive_eq, hgone 0 machine.world .refl, Machine.settled_gone (by exact hempty),
        hempty] at hnothing
      cases hnothing

theorem waitForProcess_eq (world : World W) (handle timeout : Nat) (start : Machine W) :
    liftNative (waitForProcess world handle timeout) start =
      match world.wait handle timeout start.world with
      | (.ok exitCode, w) =>
          (.ok exitCode, (start.calls w).observes (.waited handle exitCode))
      | (.error error, w) => (.error (.failed (.launch error)), start.calls w) := by
  rw [liftNative, Program.mapError, waitForProcess]
  rcases hwait : world.wait handle timeout start.world with ⟨error | exitCode, w⟩
  · have hask : askNative (world.wait handle timeout) start = (.error error, start.calls w) := by
      change (Program.ofExcept (world.wait handle timeout start.world).1
        (start.calls (world.wait handle timeout start.world).2)) = _
      rw [hwait]
      rfl
    rw [Program.bind_of_error hask]
    rfl
  · have hask : askNative (world.wait handle timeout) start = (.ok exitCode, start.calls w) := by
      change (Program.ofExcept (world.wait handle timeout start.world).1
        (start.calls (world.wait handle timeout start.world).2)) = _
      rw [hwait]
      rfl
    rw [Program.bind_of_ok hask]
    rfl

/-- A strict owner that is not stopping refuses every message that is still to come. -/
theorem refused_of_isLater {message : MonitorMessage} (hlater : message.isLater = true)
    (start : Machine W) (hstate : start.owner.ownerState ≠ .stopping) (rest : Owner W Unit) :
    ∃ error, (do
      let event ← applyMonitor message true
      if true then checkDrained event
      rest) start = (.error (.failed error), start.owns (start.owner.noted message)) := by
  -- both events of an end are refused by the same check of the drain
  have hunexpected : ∀ machine : Machine W, machine.owner.ownerState ≠ .stopping →
      (if machine.owner.ownerState ≠ .stopping then failed .stoppedUnexpectedly
        else pure () : Owner W Unit) machine =
          (.error (.failed .stoppedUnexpectedly), machine) := by
    intro machine hmachine
    rw [if_pos hmachine]
    rfl
  cases message with
  | protocolFailure error => exact ⟨.protocol error, rfl⟩
  | stdoutReadFailure => exact ⟨.protocolStreamReadFailed, rfl⟩
  | stderrReadFailure => exact ⟨.stderrStreamReadFailed, rfl⟩
  | stdoutEnded state ignoredLines =>
      refine ⟨.protocolStreamEnded, Program.bind_of_error ?_⟩
      have happly : applyMonitor (.stdoutEnded state ignoredLines) true start =
          (if true = true ∧ start.owner.ownerState ≠ .stopping then failed .protocolStreamEnded
            else pure none : Owner W (Option MonitorEvent))
          (start.owns (start.owner.noted (.stdoutEnded state ignoredLines))) := rfl
      rw [happly, if_pos ⟨rfl, hstate⟩]
      rfl
  | event state event =>
      have happly : applyMonitor (.event state event) true start =
          (.ok (some event), start.owns (start.owner.noted (.event state event))) := rfl
      have hnoted : (start.owns (start.owner.noted (.event state event))).owner.ownerState ≠
          .stopping := hstate
      cases event with
      | launcherFailed phase =>
          exact ⟨.launcherReportedFailure phase, by rw [Program.bind_of_ok happly]; rfl⟩
      | stopping =>
          refine ⟨.stoppedUnexpectedly, ?_⟩
          rw [Program.bind_of_ok happly, if_pos rfl]
          exact Program.bind_of_error (hunexpected _ hnoted)
      | stopped pid =>
          refine ⟨.stoppedUnexpectedly, ?_⟩
          rw [Program.bind_of_ok happly, if_pos rfl]
          exact Program.bind_of_error (hunexpected _ hnoted)
      | starting pid => cases state <;> cases hlater
      | listening pid => cases state <;> cases hlater

/-- What a drain of a ready owner finds: nothing, or a failure. -/
inductive Drained (world : World W) (start : Machine W) : Except Stop Unit → Machine W → Prop
  | nothing (hnothing : (receive world 0 start).1 = .ok .nothing) :
      Drained world start (.ok ()) (start.calls (world.arrival 0 start.world).2)
  | disconnected (hreceived : (receive world 0 start).1 = .ok .disconnected)
      (hempty : start.channel = []) : Drained world start (.error (.failed .monitorDisconnected))
        (start.calls (world.arrival 0 start.world).2)
  | message {message : MonitorMessage} {error : LifecycleError} {stop : Machine W}
      (hreceived : (receive world 0 start).1 = .ok (.message message))
      (hkept : Latched world stop ∨ TookOneShot stop) :
      Drained world start (.error (.failed error)) stop

theorem drained_of_unlistening {start : Machine W} (hstate : start.owner.ownerState ≠ .stopping)
    (hunlistening : Unlistening start) (fuel : Nat) :
    Drained world start (drainMonitor world true (fuel + 1) start).1
      (drainMonitor world true (fuel + 1) start).2 := by
  rw [drainMonitor]
  rcases receive_cases world 0 start with
    ⟨message, rest, hchannel, hreceive⟩ | ⟨hchannel, hreceive⟩ | ⟨hthreads, hreceive⟩
  · have hlater : message.isLater = true := hunlistening message (by rw [hchannel]; simp)
    obtain ⟨error, hrefused⟩ := refused_of_isLater hlater
      ((start.calls (world.arrival 0 start.world).2).takes message rest) hstate
      (drainMonitor world true fuel)
    rw [Program.bind_of_ok hreceive]
    dsimp only
    rw [hrefused]
    refine .message (by rw [hreceive]) ?_
    rcases Latched.noted ((start.calls (world.arrival 0 start.world).2).takes message rest) hlater
      with hkept | honeShot
    · exact .inl hkept
    · exact .inr ⟨message, mem_received.mpr (List.mem_append_right _ List.mem_cons_self), honeShot⟩
  · rw [Program.bind_of_ok hreceive]
    dsimp only
    rw [readOwner_bind, if_pos (by exact ⟨rfl, hstate⟩)]
    exact .disconnected (by rw [hreceive]) hchannel
  · rw [Program.bind_of_ok hreceive]
    exact .nothing (by rw [hreceive])

/-- What the answer of a poll says: it succeeds exactly if nothing shows a failure, and a
health failure is known from then on, unless it was a single message. -/
def PollAnswer (world : World W) (start : Machine W) : Except Stop Unit × Machine W → Prop
  | (.ok (), _) => Silent world start
  | (.error (.failed error), stop) => ¬Silent world start ∧
      (error.isHealthFailure = true → Latched world stop ∨ TookOneShot stop)
  | (.error .running, _) => True

/-- A wait that a process must not end. -/
theorem requireRunning_eq {α : Type} (handle : Nat) (error : LifecycleError) (rest : Owner W α)
    (start : Machine W) :
    (do
      let exitCode ← liftNative (waitForProcess world handle 0)
      if exitCode.isSome then failed error
      else rest) start =
      match world.wait handle 0 start.world with
      | (.ok none, w) => rest ((start.calls w).observes (.waited handle none))
      | (.ok (some exitCode), w) => (.error (.failed error),
          (start.calls w).observes (.waited handle (some exitCode)))
      | (.error error, w) => (.error (.failed (.launch error)), start.calls w) := by
  have hwait := waitForProcess_eq world handle 0 start
  rcases hanswer : world.wait handle 0 start.world with ⟨reason | _ | exitCode, w⟩
  · rw [hanswer] at hwait
    rw [Program.bind_of_error hwait]
  · rw [hanswer] at hwait
    rw [Program.bind_of_ok hwait]
    rfl
  · rw [hanswer] at hwait
    rw [Program.bind_of_ok hwait]
    rfl

theorem processRef_eq (start : Machine W) :
    processRef start = okOrFail start.owner.process .ownerNotRunning start := rfl

theorem runtimeRef_eq (start : Machine W) :
    runtimeRef start = okOrFail start.owner.runtime .runtimeIdentityUnavailable start := rfl

/-- The part of a poll after a drain that found nothing and a wrapper that runs. -/
theorem checkRuntime_answer {start next : Machine W} {process : JobProcess}
    (hends : world.EndsPersist start.world) (hnothing : (receive world 0 start).1 = .ok .nothing)
    (hstreaming : start.owner.stdoutEnded = false) (hprocess : start.owner.process = some process)
    (hwrapper : world.wait process.process 0 (world.arrival 0 start.world).2 =
      (.ok none, next.world))
    (hkept : next.owner = start.owner) :
    PollAnswer world start ((do
      let runtime ← runtimeRef
      let runtimeExit ← liftNative (waitForProcess world runtime.process 0)
      if runtimeExit.isSome then failed .runtimeExitedUnexpectedly
      else if start.owner.monitorState ≠ .listening then
        failed (.unexpectedLifecycleState start.owner.monitorState)
      else return () : Owner W Unit) next) := by
  have hreaches : world.Reaches start.world next.world := by
    have hwaited : (world.wait process.process 0 (world.arrival 0 start.world).2).2 = next.world :=
      congrArg Prod.snd hwrapper
    exact (Relation.ReflTransGen.single (.arrival 0 start.world)).tail
      (hwaited ▸ .wait process.process 0 _)
  cases hruntime : start.owner.runtime with
  | none =>
      have hmissing : runtimeRef next = (.error (.failed .runtimeIdentityUnavailable), next) := by
        rw [runtimeRef_eq, hkept, hruntime]
        rfl
      rw [Program.bind_of_error hmissing]
      refine ⟨fun hsilent => ?_, nofun⟩
      obtain ⟨runtime, howned, -⟩ := hsilent.member hprocess hwrapper
      rw [hruntime] at howned
      cases howned
  | some runtime =>
      have hfound : runtimeRef next = (.ok runtime, next) := by
        rw [runtimeRef_eq, hkept, hruntime]
        rfl
      -- in a silent machine the member runs
      have hmember : Silent world start →
          (world.wait runtime.process 0 next.world).1 = .ok none := by
        intro hsilent
        obtain ⟨owned, howned, hmember⟩ := hsilent.member hprocess hwrapper
        obtain rfl := Option.some.inj (hruntime.symm.trans howned)
        exact hmember
      rw [Program.bind_of_ok hfound, requireRunning_eq]
      rcases hwait : world.wait runtime.process 0 next.world with ⟨error | _ | exitCode, last⟩
      · refine ⟨fun hsilent => ?_, nofun⟩
        have hnone := hmember hsilent
        rw [hwait] at hnone
        cases hnone
      · by_cases hlistening : start.owner.monitorState = .listening
        · rw [if_neg (not_not.mpr hlistening)]
          exact ⟨hnothing, hstreaming, hlistening, process, runtime, next.world, hprocess,
            hruntime, hwrapper, by rw [hwait]⟩
        · rw [if_pos hlistening]
          refine ⟨(Latched.left hlistening).not_silent, fun _ => .inl (.left ?_)⟩
          exact hkept ▸ hlistening
      · refine ⟨fun hsilent => ?_,
          fun _ => .inl (.runtime runtime (hkept ▸ hruntime) (hends.exited hreaches hwait))⟩
        have hnone := hmember hsilent
        rw [hwait] at hnone
        cases hnone

/-- The part of a poll after a drain that found nothing. -/
theorem checkProcesses_answer {start : Machine W} (hends : world.EndsPersist start.world)
    (hnothing : (receive world 0 start).1 = .ok .nothing)
    (hstreaming : start.owner.stdoutEnded = false) :
    PollAnswer world start ((do
      let process ← processRef
      let wrapperExit ← liftNative (waitForProcess world process.process 0)
      if wrapperExit.isSome then failed .wrapperExitedUnexpectedly
      else do
        let runtime ← runtimeRef
        let runtimeExit ← liftNative (waitForProcess world runtime.process 0)
        if runtimeExit.isSome then failed .runtimeExitedUnexpectedly
        else if start.owner.monitorState ≠ .listening then
          failed (.unexpectedLifecycleState start.owner.monitorState)
        else return () : Owner W Unit) (start.calls (world.arrival 0 start.world).2)) := by
  generalize hcalled : start.calls (world.arrival 0 start.world).2 = called
  have howner : called.owner = start.owner := by rw [← hcalled]; rfl
  have hworld : called.world = (world.arrival 0 start.world).2 := by rw [← hcalled]; rfl
  cases hprocess : start.owner.process with
  | none =>
      have hmissing : processRef called = (.error (.failed .ownerNotRunning), called) := by
        rw [processRef_eq, howner, hprocess]
        rfl
      rw [Program.bind_of_error hmissing]
      refine ⟨fun hsilent => ?_, nofun⟩
      obtain ⟨process, runtime, waited, howned, -⟩ := hsilent.running
      rw [hprocess] at howned
      cases howned
  | some process =>
      have hfound : processRef called = (.ok process, called) := by
        rw [processRef_eq, howner, hprocess]
        rfl
      rw [Program.bind_of_ok hfound, requireRunning_eq, hworld]
      rcases hwait : world.wait process.process 0 (world.arrival 0 start.world).2 with
        ⟨error | _ | exitCode, waited⟩
      · refine ⟨fun hsilent => ?_, nofun⟩
        obtain ⟨again, hwrapper⟩ := hsilent.wrapper hprocess
        rw [hwait] at hwrapper
        cases hwrapper
      · exact checkRuntime_answer hends hnothing hstreaming hprocess hwait howner
      · have hexited := hends.exited (.single (.arrival 0 start.world)) hwait
        refine ⟨fun hsilent => ?_, fun _ => .inl (.wrapper process (howner ▸ hprocess) hexited)⟩
        obtain ⟨again, hwrapper⟩ := hsilent.wrapper hprocess
        rw [hwait] at hwrapper
        cases hwrapper

theorem pollHealth_answer {start : Machine W} (hends : world.EndsPersist start.world)
    (hready : start.owner.ownerState = .ready) (hthread : start.owner.stdoutThread = true)
    (hunlistening : Unlistening start) (fuel : Nat) :
    PollAnswer world start (pollHealth world fuel start) := by
  have hstate : start.owner.ownerState ≠ .stopping := by
    rw [hready]
    nofun
  rw [pollHealth, readOwner_bind, if_neg (by simp [hready])]
  cases fuel with
  | zero => exact trivial
  | succ fuel =>
      have hfound : Drained world start _ _ := drained_of_unlistening hstate hunlistening fuel
      rcases hdrain : drainMonitor world true (fuel + 1) start with ⟨outcome, drained⟩
      rw [hdrain] at hfound
      cases hfound with
      | disconnected hreceived hempty =>
          have harrival := arrival_of_disconnected hthread hreceived
          rw [Program.bind_of_error hdrain]
          refine ⟨fun hsilent => ?_, fun _ => .inl ?_⟩
          · have hnothing := hsilent.nothing
            rw [hreceived] at hnothing
            cases hnothing
          · exact .disconnected hempty (hends.disconnects 0 start.world .refl harrival)
      | message hreceived hkept =>
          rw [Program.bind_of_error hdrain]
          refine ⟨fun hsilent => ?_, fun _ => hkept⟩
          have hnothing := hsilent.nothing
          rw [hreceived] at hnothing
          cases hnothing
      | nothing hnothing =>
          rw [Program.bind_of_ok hdrain, readOwner_bind]
          by_cases hended : start.owner.stdoutEnded = true
          · rw [if_pos (by exact hended)]
            exact ⟨(Latched.ended hended).not_silent, fun _ => .inl (.ended hended)⟩
          rw [if_neg (by exact hended)]
          exact checkProcesses_answer hends hnothing (by simpa using hended)

/-! ## Runs of a ready owner -/

/-- A ready owner that was not asked to stop. -/
structure Monitored (process : JobProcess) (machine : Machine W) : Prop where
  holding : Holding process machine
  ready : machine.owner.ownerState = .ready
  unlistening : Unlistening machine

/-- A call that stops nothing polls the owner, or is refused and changes nothing. -/
theorem monitored_step {process : JobProcess} {start stop : Machine W} {answered : Answered}
    (hmonitored : Monitored process start) (hstep : OwnerStep world start answered stop)
    (hcall : answered.call.stops = false) :
    Monitored process stop ∧ (TookOneShot start → TookOneShot stop) ∧
      (Latched world start → Latched world stop) := by
  obtain ⟨fuel, hrun⟩ := hstep
  obtain ⟨call, outcome⟩ := answered
  cases call with
  | pollHealth =>
      have hwithin : ∀ {R : Machine W → Machine W → Prop}, Closed world R → R start stop :=
        fun hR => (hR.bind (hR.pollHealth fuel) fun _ => hR.pure none).moved hrun
      have hwatched := hwithin (closed_watched world)
      obtain ⟨hunlistening, hlatched⟩ := hwithin closed_latches hmonitored.unlistening
      refine ⟨⟨hmonitored.holding.watched hwatched, hwatched.ownerState.trans hmonitored.ready,
        hunlistening⟩, ?_, hlatched⟩
      intro htook
      obtain ⟨message, hmem, honeShot⟩ := htook
      exact ⟨message, mem_received.mpr (hwatched.mem (mem_received.mp hmem)), honeShot⟩
  | retryPrivateCleanup =>
      have hrefused : retryPrivateCleanup world start =
          (.error (.failed .ownerStillHasLiveResources), start) := by
        have hready : start.owner.ownerState ≠ .cleaned := by
          rw [hmonitored.ready]
          intro hcleaned
          cases hcleaned
        rw [retryPrivateCleanup, readOwner_bind, if_neg hready,
          if_pos (by rw [hmonitored.holding.owned]; rfl)]
        rfl
      rw [OwnerCall.run, Program.bind_of_error hrefused] at hrun
      obtain rfl : start = stop := (Prod.mk.inj hrun).2
      exact ⟨hmonitored, id, id⟩
  | shutdown => cases hcall
  | forceShutdown => cases hcall
  | drop => cases hcall

theorem monitored_run {process : JobProcess} {start stop : Machine W} {calls : List Answered}
    (hmonitored : Monitored process start) (hrun : Run (OwnerStep world) start calls stop)
    (hcalls : ∀ answered ∈ calls, answered.call.stops = false) :
    Monitored process stop ∧ (TookOneShot start → TookOneShot stop) ∧
      (Latched world start → Latched world stop) := by
  induction hrun with
  | nil machine => exact ⟨hmonitored, id, id⟩
  | cons hstep _ ih =>
      obtain ⟨hcall, hlater⟩ := List.forall_mem_cons.mp hcalls
      obtain ⟨hnext, htook, hlatched⟩ := monitored_step hmonitored hstep hcall
      obtain ⟨hstop, hstill, hkept⟩ := ih hnext hlater
      exact ⟨hstop, hstill ∘ htook, hkept ∘ hlatched⟩

theorem reaches_of_run {start stop : Machine W} {calls : List Answered}
    (hrun : Run (OwnerStep world) start calls stop) : world.Reaches start.world stop.world := by
  obtain ⟨seen, hfollows⟩ := cleanupClosed_followed.calls hrun
  exact hfollows.world

theorem pollHealth_of_step {start stop : Machine W}
    {outcome : Except LifecycleError (Option ShutdownReport)}
    (hstep : OwnerStep world start ⟨.pollHealth, outcome⟩ stop) :
    ∃ fuel answer, pollHealth world fuel start = (answer, stop) ∧
      ((answer = .ok () ∧ outcome = .ok none) ∨
        ∃ error, answer = .error (.failed error) ∧ outcome = .error error) := by
  obtain ⟨fuel, hrun⟩ := hstep
  rcases hpoll : pollHealth world fuel start with ⟨error | _, next⟩
  · rw [OwnerCall.run, Program.bind_of_error hpoll] at hrun
    cases outcome with
    | ok report => cases hrun
    | error reason =>
        cases hrun
        exact ⟨fuel, _, hpoll, .inr ⟨reason, rfl, rfl⟩⟩
  · rw [OwnerCall.run, Program.bind_of_ok hpoll] at hrun
    cases outcome with
    | ok report =>
        cases hrun
        exact ⟨fuel, _, hpoll, .inl ⟨rfl, rfl⟩⟩
    | error reason => cases hrun

/-- A launched owner is monitored: its two startup messages are taken. -/
theorem monitored_of_launched {json : JsonDecoder} {port : UInt16} {stdout stderr : List PipeRead}
    {platform : Platform} {fuel : Nat} {bundle : ValidatedBundle} {secret : Secret}
    {limits : LifecycleLimits} {channel : List MonitorMessage} {w : W} {machine : Machine W}
    (hchannel : Interleaving (monitorStdout json port stdout) (drainStderr 0 stderr).1 channel)
    (hlaunch : launchValidatedInner world platform fuel bundle port secret limits channel w =
      .owned (.ok ()) machine) : ∃ process, Monitored process machine := by
  obtain ⟨process, -, hinv, hprocess⟩ := ownerInv_of_launched hlaunch nofun
  have hholding : Holding process machine := hinv.resolve_right fun hstopped => by
    have howned := hprocess rfl
    rw [hstopped.gone] at howned
    cases howned
  obtain ⟨-, evidence, seen, starting, listening, hready⟩ :=
    (readyOwner_of_launched hchannel hlaunch).resolve_right fun hfailed => by
      obtain ⟨⟨error, herror⟩, -⟩ := hfailed
      cases herror
  obtain ⟨session, owned, started, hfollows⟩ := followed_of_launched hlaunch (.nil machine)
  have htaken : received machine.log = [.event .starting (.starting listening.pid),
      .event .listening (.listening listening.pid)] := by
    rw [hready.log, received_append, hready.consumed]
    rfl
  have hsent : channel = received machine.log ++ machine.channel := hfollows.channel
  rw [htaken] at hsent
  subst hsent
  obtain ⟨left, hstdout, hrest⟩ := hchannel.rest_of_append fun message hmem hstderr => by
    rw [mem_drainStderr hstderr] at hmem
    simp at hmem
  refine ⟨process, hholding, hready.ownerState, fun message hmem => ?_⟩
  rcases hrest.mem_iff.mp hmem with hleft | hstderr
  · exact isLater_of_monitorStdout hstdout hleft
  · rw [mem_drainStderr hstderr]
    rfl

/-- After a poll that found a health failure, every later poll fails exactly if something
shows again, once a failure was taken that came as a single message. Every other failure
stays known. -/
theorem health_failure_latched_iff {json : JsonDecoder} {port : UInt16}
    {stdout stderr : List PipeRead} {platform : Platform} {fuel : Nat} {bundle : ValidatedBundle}
    {secret : Secret} {limits : LifecycleLimits} {channel : List MonitorMessage} {w : W}
    {machine first failing middle stop : Machine W} {before later : List Answered}
    {error : LifecycleError} {outcome : Except LifecycleError (Option ShutdownReport)}
    (hchannel : Interleaving (monitorStdout json port stdout) (drainStderr 0 stderr).1 channel)
    (hends : world.EndsPersist machine.world)
    (hlaunch : launchValidatedInner world platform fuel bundle port secret limits channel w =
      .owned (.ok ()) machine)
    (hbefore : Run (OwnerStep world) machine before first)
    (hfailed : OwnerStep world first ⟨.pollHealth, .error error⟩ failing)
    (hfailure : error.isHealthFailure = true)
    (hlater : Run (OwnerStep world) failing later middle)
    (hcalls : ∀ answered ∈ before ++ later, answered.call.stops = false)
    (hpoll : OwnerStep world middle ⟨.pollHealth, outcome⟩ stop) :
    (∃ again, outcome = .error again) ↔ (TookOneShot middle → ¬Silent world middle) := by
  obtain ⟨process, hmonitored⟩ := monitored_of_launched hchannel hlaunch
  have hquiet := fun answered hmem => hcalls answered (List.mem_append_left later hmem)
  obtain ⟨hfirst, -⟩ := monitored_run hmonitored hbefore hquiet
  obtain ⟨hfailing, -⟩ := monitored_step hfirst hfailed rfl
  have hstill := fun answered hmem => hcalls answered (List.mem_append_right before hmem)
  obtain ⟨hmiddle, htook, hlatched⟩ := monitored_run hfailing hlater hstill
  have hbegun := hends.later (reaches_of_run hbefore)
  have hreached := hbegun.later (reaches_of_run (.cons hfailed hlater))
  obtain ⟨fuel, answer, hrun, hanswer⟩ := pollHealth_of_step hpoll
  have hsays := pollHealth_answer hreached hmiddle.ready hmiddle.holding.stdoutThread
    hmiddle.unlistening fuel
  rw [hrun] at hsays
  -- a poll that fails shows something, and what it shows is known or was a single message
  constructor
  · rintro ⟨again, rfl⟩ -
    rcases hanswer with ⟨-, houtcome⟩ | ⟨reason, rfl, -⟩
    · cases houtcome
    · exact hsays.1
  · intro hshows
    rcases hanswer with ⟨rfl, -⟩ | ⟨again, -, houtcome⟩
    · -- a silent machine: the failure was a single message, and that is excluded
      have hsilent : Silent world middle := hsays
      obtain ⟨fuel, answer, hrun, hanswer⟩ := pollHealth_of_step hfailed
      have hfound := pollHealth_answer hbegun hfirst.ready hfirst.holding.stdoutThread
        hfirst.unlistening fuel
      rw [hrun] at hfound
      rcases hanswer with ⟨-, houtcome⟩ | ⟨reason, rfl, houtcome⟩
      · cases houtcome
      · cases houtcome
        rcases hfound.2 hfailure with hknown | honeShot
        · exact absurd hsilent (hlatched hknown).not_silent
        · exact absurd hsilent (hshows (htook honeShot))
    · exact ⟨again, houtcome⟩

/-! ## Two polls after a failure -/

section Fixture

/-- A schedule only runs out. -/
theorem schedule_suffix {start later : Schedule} (hreaches : scheduledWorld.Reaches start later) :
    later.arrivals <:+ start.arrivals := by
  induction hreaches with
  | refl => exact List.suffix_refl _
  | tail _ hcall ih =>
      cases hcall with
      | arrival timeout w => exact (List.tail_suffix _).trans ih
      | _ => exact ih

/-- Its processes stay exited, and the channel stays open if it is not scheduled to close. -/
theorem scheduledWorld_endsPersist {start : Schedule} (hopen : .disconnected ∉ start.arrivals) :
    scheduledWorld.EndsPersist start where
  exits := by
    intro handle timeout w exitCode _ hanswer again later hreaches hrunning
    have hempty : w.arrivals = [] := by
      cases harrivals : w.arrivals with
      | nil => rfl
      | cons arrival rest =>
          simp only [scheduledWorld, harrivals] at hanswer
          cases hanswer
    have hsuffix : later.arrivals <:+ w.arrivals := schedule_suffix hreaches
    rw [hempty, List.suffix_nil] at hsuffix
    simp only [scheduledWorld, hsuffix] at hrunning
    cases hrunning
  disconnects := by
    intro timeout w hreaches hanswer
    have hsuffix := schedule_suffix hreaches
    cases harrivals : w.arrivals with
    | nil =>
        simp only [scheduledWorld, harrivals] at hanswer
        cases hanswer
    | cons arrival rest =>
        simp only [scheduledWorld, harrivals, List.headD_cons] at hanswer
        subst hanswer
        exact absurd (hsuffix.subset (by rw [harrivals]; simp)) hopen

def endedRun : Except Stop Unit × Machine Schedule :=
  scheduledRun (stoppedStdout []) [.arrived, .nothing, .nothing]

def endedPolled : Except Stop (Option ShutdownReport) × Machine Schedule :=
  OwnerCall.pollHealth.run scheduledWorld 4 endedRun.2

def endedPolledAgain : Except Stop (Option ShutdownReport) × Machine Schedule :=
  OwnerCall.pollHealth.run scheduledWorld 4 endedPolled.2

theorem health_failure_latched_iff_stopped :
    (∃ again, (Except.error (.unexpectedLifecycleState .stopped) :
      Except LifecycleError (Option ShutdownReport)) = .error again) ↔
    (TookOneShot endedPolled.2 → ¬Silent scheduledWorld endedPolled.2) := by
  have hanswers : endedRun.1 = .ok () ∧ .disconnected ∉ endedRun.2.world.arrivals ∧
      endedPolled.1 = .error (.failed .stoppedUnexpectedly) ∧
      endedPolledAgain.1 = .error (.failed (.unexpectedLifecycleState .stopped)) := by
    decide +kernel
  obtain ⟨hok, hopen, hpolled, hagain⟩ := hanswers
  have hstderr : (drainStderr 0 []).1 = [] := rfl
  have hchannel := Interleaving.nil_right
    (monitorStdout stoppingFixtureJson fixturePort (stoppedStdout []))
  rw [← hstderr] at hchannel
  have hlaunch := scheduledRun_owned (stoppedStdout []) [.arrived, .nothing, .nothing] hok
  have hfailed : OwnerStep scheduledWorld endedRun.2 ⟨.pollHealth, .error .stoppedUnexpectedly⟩
      endedPolled.2 := ownerStep_of_answer 4 hpolled
  have hpoll : OwnerStep scheduledWorld endedPolled.2
      ⟨.pollHealth, .error (.unexpectedLifecycleState .stopped)⟩ endedPolledAgain.2 :=
    ownerStep_of_answer 4 hagain
  exact health_failure_latched_iff hchannel (scheduledWorld_endsPersist hopen) hlaunch (.nil _)
    hfailed rfl (.nil _) nofun hpoll

def malformedStdout : List PipeRead :=
  fixtureStdout ++ [.chunk (eventPrefix ++ asBytes "x" ++ [lineFeed])]

def malformedRun : Except Stop Unit × Machine Schedule :=
  scheduledRun malformedStdout [.arrived, .nothing, .nothing]

def malformedPolled : Except Stop (Option ShutdownReport) × Machine Schedule :=
  OwnerCall.pollHealth.run scheduledWorld 4 malformedRun.2

def malformedPolledAgain : Except Stop (Option ShutdownReport) × Machine Schedule :=
  OwnerCall.pollHealth.run scheduledWorld 4 malformedPolled.2

/-- A malformed event fails one poll; the next one finds a healthy runtime. -/
theorem malformed_event_forgotten : scheduledWorld.EndsPersist malformedRun.2.world ∧
    launchValidatedInner scheduledWorld (fixturePlatform (.directory false)) 4 fixtureBundle
      fixturePort fixtureSecret .default
      (monitorStdout stoppingFixtureJson fixturePort malformedStdout)
      ⟨asBytes "HTTP/1.1 200 OK\r\n",
        [.arrived, .arrived, .nothing, .nothing] ++ [.arrived, .nothing, .nothing]⟩ =
      .owned (.ok ()) malformedRun.2 ∧
    OwnerStep scheduledWorld malformedRun.2 ⟨.pollHealth, .error (.protocol .invalidJson)⟩
      malformedPolled.2 ∧
    OwnerStep scheduledWorld malformedPolled.2 ⟨.pollHealth, .ok none⟩ malformedPolledAgain.2 := by
  have hanswers : malformedRun.1 = .ok () ∧ .disconnected ∉ malformedRun.2.world.arrivals ∧
      malformedPolled.1 = .error (.failed (.protocol .invalidJson)) ∧
      malformedPolledAgain.1 = .ok none := by decide +kernel
  obtain ⟨hok, hopen, hpolled, hagain⟩ := hanswers
  have hlaunch := scheduledRun_owned malformedStdout [.arrived, .nothing, .nothing] hok
  exact ⟨scheduledWorld_endsPersist hopen, hlaunch, ownerStep_of_answer 4 hpolled,
    ownerStep_of_answer 4 hagain⟩

end Fixture

end Rpackit.Lifecycle
