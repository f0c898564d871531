import Rpackit.Lifecycle.Owner

/-! # What every program of the owner keeps

A program of the owner moves the machine by few steps: it calls the operating system,
takes a message from the channel and notes it, or records an observation. A relation
that is closed under these steps holds between the machines before and after the
program, whatever the program answers.
-/

namespace Rpackit.Lifecycle

open Text Launcher Transport
open Program (Within fail)
open Rpackit.Windows (AddressFamily JobMemberProcess JobProcess LaunchError)

variable {W : Type} {ε α β : Type} {world : World W}

/-! ## Steps -/

/-- One call of an owner to the operating system. -/
inductive World.Call (world : World W) : W → W → Prop
  | now (w : W) : Call world w (world.now w).2
  | sleep (duration : Nat) (w : W) : Call world w (world.sleep duration w)
  | arrival (timeout : Nat) (w : W) : Call world w (world.arrival timeout w).2
  | wait (handle timeout : Nat) (w : W) : Call world w (world.wait handle timeout w).2
  | openProcess (pid : UInt32) (w : W) : Call world w (world.openProcess pid w).2
  | creationTime (handle : Nat) (w : W) : Call world w (world.creationTime handle w).2
  | isAlive (handle : Nat) (w : W) : Call world w (world.isAlive handle w).2
  | isInJob (handle job : Nat) (w : W) : Call world w (world.isInJob handle job w).2
  | tcpListenerTable (family : AddressFamily) (w : W) :
      Call world w (world.tcpListenerTable family w).2
  | tokenExists (path : WindowsPath) (w : W) : Call world w (world.tokenExists path w).2
  | connect (port : UInt16) (timeout : Nat) (w : W) : Call world w (world.connect port timeout w).2
  | setReadTimeout (timeout : Nat) (w : W) : Call world w (world.setReadTimeout timeout w).2
  | setWriteTimeout (timeout : Nat) (w : W) : Call world w (world.setWriteTimeout timeout w).2
  | writeAll (bytes : Bytes) (w : W) : Call world w (world.writeAll bytes w).2
  | readByte (w : W) : Call world w (world.readByte w).2
  | terminate (job : Nat) (w : W) : Call world w (world.terminate job w).2
  | activeProcessCount (job : Nat) (w : W) : Call world w (world.activeProcessCount job w).2
  | joinStdout (w : W) : Call world w (world.joinStdout w).2
  | joinStderr (w : W) : Call world w (world.joinStderr w).2
  | verifySecurity (w : W) : Call world w (world.verifySecurity w).2
  | cleanupSession (w : W) : Call world w (world.cleanupSession w).2
  | createControlFile (session : PrivateSession) (w : W) :
      Call world w (world.createControlFile session w).2

/-- What the owner knows from the messages it took. -/
structure MonitorView where
  state : LifecycleState
  ignoredLines : Nat
  ended : Bool

def MonitorView.noted (view : MonitorView) : MonitorMessage → MonitorView
  | .event state _ => { view with state := state }
  | .stdoutEnded state ignoredLines => ⟨state, ignoredLines, true⟩
  | _ => view

namespace RuntimeOwner

def view (owner : RuntimeOwner) : MonitorView :=
  ⟨owner.monitorState, owner.ignoredStdoutLines, owner.stdoutEnded⟩

/-- The owner after it applied a message. -/
def noted (owner : RuntimeOwner) : MonitorMessage → RuntimeOwner
  | .event state _ => { owner with monitorState := state }
  | .stdoutEnded state ignoredLines => owner.noteStdoutEnd state ignoredLines
  | _ => owner

@[simp] theorem view_noted (owner : RuntimeOwner) (message : MonitorMessage) :
    (owner.noted message).view = owner.view.noted message := by
  cases message <;> rfl

end RuntimeOwner

namespace Observation

/-- An observation that is no step of a startup or a cleanup, and no message. -/
def isPlain : Observation → Bool
  | .received _ => false
  | .released _ => false
  | .removing _ => false
  | .entered _ => false
  | _ => true

end Observation

namespace Machine

def calls (machine : Machine W) (w : W) : Machine W := { machine with world := w }

def observes (machine : Machine W) (observation : Observation) : Machine W :=
  { machine with log := machine.log ++ [observation] }

def takes (machine : Machine W) (message : MonitorMessage) (rest : List MonitorMessage) :
    Machine W :=
  { machine with channel := rest, log := machine.log ++ [.received message] }

def owns (machine : Machine W) (owner : RuntimeOwner) : Machine W := { machine with owner := owner }

end Machine

/-- A relation that every step of an owner keeps that takes no message. -/
structure Asks (world : World W) (R : Machine W → Machine W → Prop) : Prop where
  refl : ∀ machine, R machine machine
  trans : ∀ {start middle stop}, R start middle → R middle stop → R start stop
  call : ∀ {machine w}, world.Call machine.world w → R machine (machine.calls w)
  plain : ∀ machine {observation}, observation.isPlain = true →
    R machine (machine.observes observation)

/-- A relation that every step of a watching owner keeps. -/
structure Closed (world : World W) (R : Machine W → Machine W → Prop) : Prop
    extends Asks world R where
  take : ∀ {machine message rest}, machine.channel = message :: rest →
    R machine ((machine.takes message rest).owns (machine.owner.noted message))

theorem readOwner_bind {ε : Type} (f : RuntimeOwner → Program (Machine W) ε α)
    (start : Machine W) : (readOwner >>= f) start = f start.owner start := rfl

/-! ## What a wait on the channel does -/

theorem receive_eq (world : World W) (timeout : Nat) (start : Machine W) :
    receive world timeout start =
      match (start.calls (world.arrival timeout start.world).2).settled
          (world.arrival timeout start.world).1, start.channel with
        | .arrived, message :: rest => (.ok (.message message),
            (start.calls (world.arrival timeout start.world).2).takes message rest)
        | .disconnected, [] =>
            (.ok .disconnected, start.calls (world.arrival timeout start.world).2)
        | _, _ => (.ok .nothing, start.calls (world.arrival timeout start.world).2) := by
  obtain ⟨owner, channel, w, log⟩ := start
  change (match (Machine.calls ⟨owner, channel, w, log⟩ (world.arrival timeout w).2).settled
    (world.arrival timeout w).1, channel with
        | .arrived, message :: rest => _
        | .disconnected, [] => _
        | _, _ => _ : Owner W Received) _ = _
  dsimp only
  generalize (Machine.calls ⟨owner, channel, w, log⟩ (world.arrival timeout w).2).settled
    (world.arrival timeout w).1 = arrival
  cases arrival with
  | arrived => cases channel <;> rfl
  | nothing => cases channel <;> rfl
  | disconnected => cases channel <;> rfl

theorem Machine.settled_of_joined {machine : Machine W}
    (hjoined : (machine.owner.stdoutThread || machine.owner.stderrThread) = false)
    (arrival : Arrival) :
    machine.settled arrival = if machine.channel.isEmpty then .disconnected else .arrived := by
  rw [Machine.settled, hjoined]
  rfl

/-- A wait takes the next message, or finds the channel empty, or finds nothing while a
thread may still send. -/
theorem receive_cases (world : World W) (timeout : Nat) (start : Machine W) :
    (∃ message rest, start.channel = message :: rest ∧ receive world timeout start =
      (.ok (.message message),
        (start.calls (world.arrival timeout start.world).2).takes message rest)) ∨
    (start.channel = [] ∧ receive world timeout start =
      (.ok .disconnected, start.calls (world.arrival timeout start.world).2)) ∨
    ((start.owner.stdoutThread || start.owner.stderrThread) = true ∧
      receive world timeout start =
        (.ok .nothing, start.calls (world.arrival timeout start.world).2)) := by
  rw [receive_eq]
  by_cases hthreads : (start.owner.stdoutThread || start.owner.stderrThread) = true
  · generalize (start.calls (world.arrival timeout start.world).2).settled _ = arrival
    rcases hchannel : start.channel with _ | ⟨message, rest⟩
    · cases arrival with
      | disconnected => exact .inr (.inl ⟨rfl, rfl⟩)
      | _ => exact .inr (.inr ⟨hthreads, rfl⟩)
    · cases arrival with
      | arrived => exact .inl ⟨message, rest, rfl, rfl⟩
      | _ => exact .inr (.inr ⟨hthreads, rfl⟩)
  · rw [Bool.not_eq_true] at hthreads
    rw [Machine.settled_of_joined (by exact hthreads)]
    rcases hchannel : start.channel with _ | ⟨message, rest⟩
    · exact .inr (.inl ⟨rfl, by simp [Machine.calls, hchannel]⟩)
    · exact .inl ⟨message, rest, rfl, by simp [Machine.calls, hchannel]⟩

/-- Applying a message notes it, whatever it is taken for. -/
theorem applyMonitor_snd (message : MonitorMessage) (strict : Bool) (start : Machine W) :
    (applyMonitor message strict start).2 = start.owns (start.owner.noted message) := by
  cases message with
  | event state event => rfl
  | protocolFailure error => cases strict <;> rfl
  | stdoutReadFailure => cases strict <;> rfl
  | stderrReadFailure => cases strict <;> rfl
  | stdoutEnded state ignoredLines =>
      have happly : applyMonitor (.stdoutEnded state ignoredLines) strict start =
          (if strict ∧ start.owner.ownerState ≠ .stopping then failed .protocolStreamEnded
            else pure none : Owner W (Option MonitorEvent))
          (start.owns (start.owner.noted (.stdoutEnded state ignoredLines))) := rfl
      rw [happly]
      split
      · rfl
      · rfl

/-! ## Programs that take no message -/

section Asks

variable {R : Machine W → Machine W → Prop} (hR : Asks world R)

include hR

theorem Asks.pure (a : α) : Within R (pure a : Program (Machine W) ε α) :=
  Program.within_pure hR.refl a

theorem Asks.fail (error : ε) : Within R (fail error : Program (Machine W) ε α) :=
  Program.within_fail hR.refl error

theorem Asks.error (error : LifecycleError) : Within R (failed error : Owner W α) :=
  hR.fail _

theorem Asks.readOwner : Within R (readOwner : Program (Machine W) ε RuntimeOwner) := hR.refl

theorem Asks.bind {x : Program (Machine W) ε α} {f : α → Program (Machine W) ε β}
    (hx : Within R x) (hf : ∀ a, Within R (f a)) : Within R (x >>= f) := by
  have htrans : ∀ start middle stop, R start middle → R middle stop → R start stop :=
    fun _ _ _ => hR.trans
  exact hx.bind htrans hf

theorem Asks.ask {call : W → α × W} (hcall : ∀ w, world.Call w (call w).2) :
    Within R (ask call : Program (Machine W) ε α) := fun _ => hR.call (hcall _)

theorem Asks.askNative {call : W → Except LaunchError α × W}
    (hcall : ∀ w, world.Call w (call w).2) : Within R (askNative call) :=
  hR.bind (hR.ask hcall) fun answer => Program.within_ofExcept hR.refl answer

theorem Asks.readListenerTable (family : AddressFamily)
    (rows : List UInt64 → Except LaunchError α) :
    Within R (readListenerTable world family rows) :=
  hR.bind (hR.askNative fun w => .tcpListenerTable family w) fun table =>
    Program.within_ofExcept hR.refl (rows table)

theorem Asks.record {observation : Observation} (hplain : observation.isPlain = true) :
    Within R (observe observation : Program (Machine W) ε Unit) := fun machine =>
  hR.plain machine hplain

/-- A step that is taken under a condition only. -/
theorem Asks.guarded (condition : Bool) {x : Program (Machine W) ε Unit}
    {f : Unit → Program (Machine W) ε α} (hx : Within R x) (hf : ∀ a, Within R (f a)) :
    Within R (if condition then x >>= f else f ()) := by
  split
  · exact hR.bind hx hf
  · exact hf ()

theorem Asks.okOrFail (value : Option α) (error : LifecycleError) :
    Within R (okOrFail value error : Owner W α) := by
  cases value with
  | none => exact hR.error error
  | some a => exact hR.pure a

theorem Asks.processRef : Within R (processRef : Owner W JobProcess) :=
  hR.bind hR.readOwner fun _ => hR.okOrFail _ _

theorem Asks.runtimeRef : Within R (runtimeRef : Owner W JobMemberProcess) :=
  hR.bind hR.readOwner fun _ => hR.okOrFail _ _

theorem Asks.sessionRef : Within R (sessionRef : Owner W PrivateSession) :=
  hR.bind hR.readOwner fun _ => hR.okOrFail _ _

theorem Asks.readClock : Within R (readClock world) := hR.ask fun w => .now w

theorem Asks.sleepFor (duration : Nat) : Within R (sleepFor world duration) :=
  hR.ask fun w => .sleep duration w

theorem Asks.remainingPoll (deadline : Nat) : Within R (remainingPoll world deadline) :=
  hR.bind hR.readClock fun _ => hR.bind hR.readOwner fun _ => hR.pure _

theorem Asks.checkedDeadline (duration : Nat) : Within R (checkedDeadline world duration) := by
  apply hR.bind hR.readClock
  intro now
  split
  · exact hR.pure _
  · exact hR.error _

theorem Asks.waitForProcess (handle timeout : Nat) :
    Within R (liftNative (waitForProcess world handle timeout)) :=
  hR.bind (hR.askNative fun w => .wait handle timeout w) fun _ =>
    hR.bind (hR.record rfl) fun _ => hR.pure _

theorem Asks.activeProcessCount (job : Nat) : Within R (activeProcessCount world job) :=
  hR.bind (hR.askNative fun w => .activeProcessCount job w) fun _ =>
    hR.bind (hR.record rfl) fun _ => hR.pure _

theorem Asks.requireAlive (handle : Nat) : Within R (requireAlive world handle) := by
  refine hR.bind (hR.askNative fun w => .isAlive handle w) fun alive => ?_
  apply hR.bind (hR.record rfl)
  intro _
  split
  · exact hR.pure _
  · exact hR.fail _

theorem Asks.requireInJob (handle job : Nat) : Within R (requireInJob world handle job) := by
  refine hR.bind (hR.askNative fun w => .isInJob handle job w) fun member => ?_
  apply hR.bind (hR.record rfl)
  intro _
  split
  · exact hR.pure _
  · exact hR.fail _

theorem Asks.captureJobMember (process : JobProcess) (pid : UInt32) :
    Within R (captureJobMember world process pid) := by
  unfold Lifecycle.captureJobMember
  split
  · exact hR.fail _
  · refine hR.bind (hR.askNative fun w => .openProcess pid w) fun handle => ?_
    refine hR.bind (hR.record rfl) fun _ => hR.bind (hR.requireAlive handle) fun _ => ?_
    refine hR.bind (hR.askNative fun w => .creationTime handle w) fun created => ?_
    refine hR.bind (hR.requireInJob handle _) fun _ => hR.bind (hR.requireAlive handle) fun _ => ?_
    exact hR.pure _

theorem Asks.verifyIpv4Listener (process : JobProcess) (member : JobMemberProcess)
    (port : UInt16) : Within R (verifyIpv4Listener world process member port) := by
  unfold Lifecycle.verifyIpv4Listener
  split
  · exact hR.fail _
  · refine hR.bind (hR.requireAlive _) fun _ => hR.bind (hR.requireInJob _ _) fun _ => ?_
    refine hR.bind (hR.readListenerTable .inet _) fun ipv4 => ?_
    refine hR.bind (hR.readListenerTable .inet6 _) fun ipv6 => ?_
    apply hR.bind (hR.record rfl)
    intro _
    dsimp only
    split
    · exact hR.fail _
    · split
      · exact hR.fail _
      · exact hR.bind (hR.requireInJob _ _) fun _ => hR.requireAlive _

theorem Asks.checkDrained (event : Option MonitorEvent) :
    Within R (checkDrained event : Owner W Unit) := by
  apply hR.bind hR.readOwner
  intro owner
  have hunexpected : Within R (if owner.ownerState ≠ .stopping then failed .stoppedUnexpectedly
      else return () : Owner W Unit) := by
    split
    · exact hR.error _
    · exact hR.pure _
  match event with
  | some (.launcherFailed phase) => exact hR.error _
  | some .stopping => exact hunexpected
  | some (.stopped pid) => exact hunexpected
  | some (.starting pid) => exact hR.pure _
  | some (.listening pid) => exact hR.pure _
  | none => exact hR.pure _

theorem Asks.verifyTokenConsumed : Within R (verifyTokenConsumed world) := by
  apply hR.bind hR.sessionRef
  intro session
  refine hR.bind (hR.ask fun w => .tokenExists _ w) fun present => ?_
  cases present with
  | none => exact hR.error _
  | some present =>
      apply hR.bind (hR.record rfl)
      intro _
      split
      · exact hR.error _
      · exact hR.pure _

theorem Asks.ensureWrapperAlive : Within R (ensureWrapperAliveBeforeReady world) := by
  refine hR.bind hR.processRef fun process => hR.bind (hR.waitForProcess _ _) fun exitCode => ?_
  cases exitCode with
  | none => exact hR.pure _
  | some exitCode => exact hR.error _

theorem Asks.ensureProcessesAlive : Within R (ensureProcessesAliveBeforeReady world) := by
  refine hR.bind hR.ensureWrapperAlive fun _ => hR.bind hR.runtimeRef fun runtime => ?_
  apply hR.bind (hR.waitForProcess _ _)
  intro exitCode
  cases exitCode with
  | none => exact hR.pure _
  | some exitCode => exact hR.error _

theorem Asks.readStatusLine (remaining : Nat) (line : Bytes) :
    Within R (readStatusLine world remaining line) := by
  induction remaining generalizing line with
  | zero => exact hR.pure _
  | succ remaining ih =>
      refine hR.bind (hR.ask fun w => .readByte w) fun byte => ?_
      cases byte with
      | none => exact hR.pure _
      | some byte =>
          dsimp only
          split
          · exact hR.bind (hR.record rfl) fun _ => hR.pure _
          · exact ih _

theorem Asks.authenticatedHttpReady (port : UInt16) (secret : Secret) (timeout : Nat) :
    Within R (authenticatedHttpReady world port secret timeout) := by
  refine hR.bind (hR.ask fun w => .connect port timeout w) fun connected => ?_
  split
  · exact hR.pure _
  apply hR.bind (hR.record rfl)
  intro _
  refine hR.bind (hR.ask fun w => .setReadTimeout timeout w) fun readTimeoutSet => ?_
  split
  · exact hR.error _
  refine hR.bind (hR.ask fun w => .setWriteTimeout timeout w) fun writeTimeoutSet => ?_
  split
  · exact hR.error _
  refine hR.bind (hR.ask fun w => .writeAll _ w) fun written => ?_
  split
  · exact hR.pure _
  · exact hR.bind (hR.record rfl) fun _ => hR.readStatusLine _ _

theorem Asks.pollEmpty (job : Nat) (deadline : Option Nat) (fuel : Nat) :
    Within R (pollEmpty world job deadline fuel) := by
  induction fuel with
  | zero => exact hR.fail _
  | succ fuel ih =>
      apply hR.bind (hR.activeProcessCount job).attempt
      intro counted
      cases counted with
      | error error => exact hR.pure _
      | ok count =>
          dsimp only
          split
          · exact hR.pure _
          cases deadline with
          | none => exact hR.pure _
          | some deadline =>
              apply hR.bind hR.readClock
              intro now
              split
              · exact hR.pure _
              · exact hR.bind (hR.sleepFor _) fun _ => ih

theorem Asks.waitForEmpty (job timeout fuel : Nat) :
    Within R (waitForEmpty world job timeout fuel) :=
  hR.bind hR.readClock fun _ => hR.pollEmpty _ _ _

theorem Asks.terminateJob (fuel : Nat) :
    Within R (terminateJob world fuel) := by
  apply hR.bind hR.readOwner
  intro owner
  split
  · exact hR.pure _
  · refine hR.bind (hR.ask fun w => .terminate _ w) fun _ => ?_
    apply hR.bind (hR.waitForEmpty _ _ _)
    intro empty
    split
    · exact hR.pure _
    · exact hR.pure _
    · exact hR.pure _

theorem Asks.storing {x : Owner W Unit}
    (hx : Within R x) (slot : Option LifecycleError) : Within R (storing slot x) := by
  apply hR.bind hx.attempt
  intro outcome
  split
  · exact hR.pure _
  · exact hR.pure _
  · exact hR.fail _

end Asks

/-! ## Programs that watch -/

section Closed

variable {R : Machine W → Machine W → Prop} (hR : Closed world R)

include hR

/-- A message is taken and noted, or there is none. -/
theorem Closed.receive_bind {timeout : Nat} {f : Received → Owner W α}
    (hmessage : ∀ message, ∃ strict, ∃ rest : Option MonitorEvent → Owner W α,
      f (.message message) = applyMonitor message strict >>= rest ∧ ∀ event, Within R (rest event))
    (hnothing : Within R (f .nothing)) (hdisconnected : Within R (f .disconnected)) :
    Within R (receive world timeout >>= f) := by
  intro start
  have hcall : R start (start.calls (world.arrival timeout start.world).2) :=
    hR.call (.arrival timeout start.world)
  have hbind : (receive world timeout >>= f) start =
      Program.bind (receive world timeout) f start := rfl
  rw [hbind, Program.bind]
  rcases receive_cases world timeout start with
    ⟨message, rest, hchannel, hreceive⟩ | ⟨-, hreceive⟩ | ⟨-, hreceive⟩
  · obtain ⟨strict, later, hf, hlater⟩ := hmessage message
    have happly := applyMonitor_snd message strict
      ((start.calls (world.arrival timeout start.world).2).takes message rest)
    have hnoted := hR.trans hcall (hR.take (by exact hchannel))
    -- the message is noted whether or not it is refused
    have hlast : (applyMonitor message strict >>= later) = Program.bind _ later := rfl
    rw [hreceive]
    dsimp only
    rw [hf, hlast, Program.bind]
    rcases hrun : applyMonitor message strict
      ((start.calls (world.arrival timeout start.world).2).takes message rest) with
      ⟨error | event, next⟩
    · rw [hrun] at happly
      obtain rfl : next = _ := happly
      exact hnoted
    · rw [hrun] at happly
      obtain rfl : next = _ := happly
      exact hR.trans hnoted (hlater event _)
  · rw [hreceive]
    exact hR.trans hcall (hdisconnected _)
  · rw [hreceive]
    exact hR.trans hcall (hnothing _)

theorem Closed.drainMonitor (strict : Bool) (fuel : Nat) :
    Within R (drainMonitor world strict fuel) := by
  induction fuel with
  | zero => exact hR.fail _
  | succ fuel ih =>
      refine hR.receive_bind (fun message => ?_) (hR.pure _) ?_
      · exact ⟨strict, _, rfl, fun event => hR.guarded strict (hR.checkDrained event) fun _ => ih⟩
      · apply hR.bind hR.readOwner
        intro owner
        split
        · exact hR.error _
        · exact hR.pure _

theorem Closed.pollListener (listenerDeadline fuel : Nat) :
    Within R (pollListener world listenerDeadline fuel) := by
  induction fuel with
  | zero => exact hR.fail _
  | succ fuel ih =>
      refine hR.bind hR.ensureProcessesAlive fun _ => hR.bind (hR.drainMonitor true fuel)
        fun _ => ?_
      refine hR.bind hR.processRef fun process => hR.bind hR.runtimeRef fun runtime => ?_
      apply hR.bind hR.readOwner
      intro owner
      apply hR.bind (hR.verifyIpv4Listener process runtime _).attempt
      intro verified
      match verified with
      | .ok () => exact hR.pure _
      | .error error =>
          cases error with
          | expectedListenerNotFound =>
              apply hR.bind hR.readClock
              intro now
              split
              · exact hR.bind (hR.remainingPoll _) fun _ => hR.bind (hR.sleepFor _) fun _ => ih
              · exact hR.error _
          | _ => exact hR.error _

theorem Closed.waitForListener (startupDeadline fuel : Nat) :
    Within R (waitForListener world startupDeadline fuel) :=
  hR.bind hR.readOwner fun _ => hR.bind (hR.checkedDeadline _) fun _ => hR.pollListener _ _

theorem Closed.waitForAuthenticatedReadiness (startupDeadline fuel : Nat) :
    Within R (waitForAuthenticatedReadiness world startupDeadline fuel) := by
  induction fuel with
  | zero => exact hR.fail _
  | succ fuel ih =>
      refine hR.bind hR.ensureProcessesAlive fun _ => hR.bind (hR.drainMonitor true fuel)
        fun _ => ?_
      apply hR.bind hR.readClock
      intro now
      split
      · exact hR.error _
      refine hR.bind hR.readOwner fun owner => hR.bind (hR.okOrFail _ _) fun secret => ?_
      apply hR.bind (hR.authenticatedHttpReady _ _ _)
      intro ready
      split
      · exact hR.pure _
      apply hR.bind hR.readClock
      intro now
      split
      · exact hR.error _
      · exact hR.bind (hR.remainingPoll _) fun _ => hR.bind (hR.sleepFor _) fun _ => ih

end Closed

/-! ## The startup -/

/-- A relation that the steps of a startup keep as well. -/
structure StartupClosed (world : World W) (R : Machine W → Machine W → Prop) : Prop
    extends Closed world R where
  capture : ∀ {process : JobProcess} {pid member before after},
    captureJobMember world process pid before = (.ok member, after) →
    R before (after.owns { after.owner with runtime := some member })
  ready : ∀ machine, R machine
    ((machine.owns { machine.owner with ownerState := .ready }).observes (.entered .ready))

section Startup

variable {R : Machine W → Machine W → Prop} (hR : StartupClosed world R)

include hR

theorem StartupClosed.capture_bind (process : JobProcess) (pid : UInt32) {rest : Owner W α}
    (hrest : Within R rest) :
    Within R (do
      let runtime ← liftNative (captureJobMember world process pid)
      modifyOwner fun owner => { owner with runtime := some runtime }
      rest) := by
  intro start
  have hcaptured := hR.captureJobMember process pid start
  rcases hrun : captureJobMember world process pid start with ⟨error | member, next⟩
  · have hfailed : liftNative (captureJobMember world process pid) start =
        (.error (.failed (.launch error)), next) := by
      rw [liftNative, Program.mapError, hrun]
      rfl
    have hbind : ∀ g : JobMemberProcess → Owner W α,
        (liftNative (captureJobMember world process pid) >>= g) start =
          Program.bind _ g start := fun _ => rfl
    rw [hbind, Program.bind, hfailed]
    rwa [hrun] at hcaptured
  · have hok : liftNative (captureJobMember world process pid) start = (.ok member, next) := by
      rw [liftNative, Program.mapError, hrun]
      rfl
    have hbind : ∀ g : JobMemberProcess → Owner W α,
        (liftNative (captureJobMember world process pid) >>= g) start =
          Program.bind _ g start := fun _ => rfl
    rw [hbind, Program.bind, hok]
    exact hR.trans (hR.capture hrun) (hrest _)

theorem StartupClosed.within_becomeReady (startupDeadline : Nat) (pid : UInt32) (fuel : Nat) :
    Within R (becomeReady world startupDeadline pid fuel) := by
  refine hR.bind hR.verifyTokenConsumed fun _ => hR.bind hR.processRef fun process => ?_
  apply hR.capture_bind process pid
  apply hR.bind (hR.waitForListener _ _)
  intro _
  apply hR.bind (hR.waitForAuthenticatedReadiness _ _)
  intro _
  exact hR.ready

theorem StartupClosed.within_reported {startupDeadline fuel : Nat}
    (hwait : Within R (waitForEvents world startupDeadline fuel)) (event : Option MonitorEvent) :
    Within R (match event with
      | some (.starting _) => do
          verifyTokenConsumed world
          waitForEvents world startupDeadline fuel
      | some (.listening pid) => becomeReady world startupDeadline pid fuel
      | some .stopping => failed .stoppedBeforeReadiness
      | some (.stopped _) => failed .stoppedBeforeReadiness
      | some (.launcherFailed phase) => failed (.launcherReportedFailure phase)
      | none => waitForEvents world startupDeadline fuel) := by
  cases event with
  | none => exact hwait
  | some event =>
      cases event with
      | starting _ => exact hR.bind hR.verifyTokenConsumed fun _ => hwait
      | listening pid => exact hR.within_becomeReady _ _ _
      | stopping => exact hR.error _
      | stopped _ => exact hR.error _
      | launcherFailed phase => exact hR.error _

theorem StartupClosed.within_waitForEvents (startupDeadline fuel : Nat) :
    Within R (waitForEvents world startupDeadline fuel) := by
  induction fuel with
  | zero => exact hR.fail _
  | succ fuel ih =>
      refine hR.bind hR.ensureWrapperAlive fun _ => hR.bind hR.readClock fun now => ?_
      split
      · exact hR.error _
      apply hR.bind (hR.remainingPoll _)
      intro timeout
      refine hR.receive_bind (fun message => ?_) ih (hR.error _)
      cases message with
      | stdoutEnded state ignoredLines =>
          refine ⟨false, _, rfl, fun _ => ?_⟩
          refine hR.bind hR.processRef fun process => hR.bind hR.readOwner fun owner => ?_
          apply hR.bind (hR.waitForProcess _ _)
          intro exitCode
          cases exitCode with
          | none => exact hR.error _
          | some exitCode => exact hR.error _
      | event state event => exact ⟨true, _, rfl, hR.within_reported ih⟩
      | protocolFailure error => exact ⟨true, _, rfl, hR.within_reported ih⟩
      | stdoutReadFailure => exact ⟨true, _, rfl, hR.within_reported ih⟩
      | stderrReadFailure => exact ⟨true, _, rfl, hR.within_reported ih⟩

theorem StartupClosed.within_waitUntilReady (fuel : Nat) : Within R (waitUntilReady world fuel) :=
  hR.bind hR.readOwner fun _ => hR.bind (hR.checkedDeadline _) fun _ => hR.within_waitForEvents _ _

end Startup

end Rpackit.Lifecycle
