import Rpackit.Library.Interleaving
import Rpackit.Lifecycle.Cleanup
import Rpackit.Lifecycle.Gates

/-! # Readiness

A launch succeeds, and an owner enters the ready state, only after every gate of
the startup was passed in order. The monitor channel may interleave its two
senders in any way, and the world may answer anything at any time.
-/

namespace Rpackit.Lifecycle

open Text Launcher Transport
open Program (fail)
open Rpackit.Windows (JobMemberProcess JobProcess ListenerRow)

variable {W : Type} {α : Type} {handles : Handles} {world : World W}

/-! ## Runs that become ready -/

/-- The owner observed `seen` and then entered the ready state. -/
structure ReadyRun (start stop : Machine W) (seen : List Observation) : Prop where
  log : stop.log = start.log ++ seen ++ [.entered .ready]
  channel : start.channel = received seen ++ stop.channel
  ownerState : stop.owner.ownerState = .ready

theorem ReadyRun.after {start middle stop : Machine W} {first second : List Observation}
    (hfirst : Progress start middle first) (hsecond : ReadyRun middle stop second) :
    ReadyRun start stop (first ++ second) where
  log := by rw [hsecond.log, hfirst.log, List.append_assoc start.log]
  channel := by rw [received_append, hfirst.channel, hsecond.channel, List.append_assoc]
  ownerState := hsecond.ownerState

/-- From a starting owner with these handles, the program becomes ready with the
owner and the record in `R`, or does not become ready at all. -/
def Readies (handles : Handles) (x : Owner W Unit)
    (R : RuntimeOwner → List Observation → Prop) : Prop :=
  ∀ start : Machine W, start.owner.ownerState = .starting → start.owner.handles = handles →
    x.Ensures start (fun _ stop => ∃ seen, ReadyRun start stop seen ∧ R stop.owner seen)
      fun _ stop => Quiet start stop

variable {R : RuntimeOwner → List Observation → Prop}

theorem Readies.mono {x : Owner W Unit} {R' : RuntimeOwner → List Observation → Prop}
    (hx : Readies handles x R) (hR : ∀ owner seen, R owner seen → R' owner seen) :
    Readies handles x R' := fun start hstate hhandles =>
  (hx start hstate hhandles).mono (fun _ _ h => h.imp fun _ h => ⟨h.1, hR _ _ h.2⟩)
    fun _ _ h => h

/-- A program that makes progress, before one that becomes ready. -/
theorem Makes.bindReadies {x : Owner W α} {f : α → Owner W Unit}
    {Q : α → List Observation → Prop} (hx : Makes handles x Q)
    (hf : ∀ a first, Q a first → Readies handles (f a) fun owner second =>
      R owner (first ++ second)) : Readies handles (x >>= f) R := by
  intro start hstate hhandles
  refine Program.Ensures.bind ((hx start hstate hhandles).mono (fun _ _ h => h) ?_) ?_
  · rintro error stop ⟨seen, hprogress, -⟩
    exact hprogress.quiet
  rintro a middle ⟨first, hfirst, hQ⟩
  refine (hf a first hQ middle (hfirst.ownerState.trans hstate)
    (hfirst.handles.trans hhandles)).mono ?_ fun _ _ hquiet => hfirst.quiet.trans hquiet
  rintro _ stop ⟨second, hsecond, hR⟩
  exact ⟨first ++ second, hsecond.after hfirst, hR⟩

/-- A first program that observes nothing. -/
theorem Makes.bindReadiesSilent {x : Owner W α} {f : α → Owner W Unit} {P : α → Prop}
    (hx : Makes handles x fun a seen => seen = [] ∧ P a)
    (hf : ∀ a, P a → Readies handles (f a) R) : Readies handles (x >>= f) R := by
  apply hx.bindReadies
  rintro a _ ⟨rfl, hP⟩
  exact hf a hP

theorem readies_failed {error : LifecycleError} :
    Readies handles (failed error : Owner W Unit) R := fun start _ _ => Quiet.refl start

theorem readies_running : Readies handles (fail .running : Owner W Unit) R :=
  fun start _ _ => Quiet.refl start

theorem Makes.readies_of_never {x : Owner W Unit} (hx : Makes handles x fun _ _ => False) :
    Readies handles x R := fun start hstate hhandles =>
  (hx start hstate hhandles).mono (fun _ _ ⟨_, _, hnever⟩ => hnever.elim)
    fun _ _ ⟨_, hprogress, _⟩ => hprogress.quiet

/-- Only events leave the owner waiting. -/
theorem readies_refused {message : MonitorMessage} {f : Option MonitorEvent → Owner W Unit}
    (hmessage : ∀ state event, message ≠ .event state event) :
    Readies handles (applyMonitor message true >>= f) R := by
  apply (makes_applyMonitor message).bindReadies
  rintro _ _ ⟨-, state, event, hevent, -⟩
  exact absurd hevent (hmessage state event)

/-- The owner takes the captured process into its handles. -/
theorem Readies.captured {member : JobMemberProcess} {f : Unit → Owner W Unit}
    (hf : Readies { handles with runtime := some member } (f ()) R) :
    Readies handles
      (modifyOwner (fun owner => { owner with runtime := some member }) >>= f) R := by
  intro start hstate hhandles
  let next : Machine W := { start with owner := { start.owner with runtime := some member } }
  have hmodify : (modifyOwner (fun owner => { owner with runtime := some member }) :
      Owner W Unit).Ensures start (fun _ stop => stop = next) fun _ stop => Quiet start stop := rfl
  apply hmodify.bind
  rintro _ _ rfl
  refine (hf next hstate (by rw [← hhandles]; rfl)).mono ?_ fun _ _ hquiet => hquiet
  rintro _ stop ⟨seen, hrun, hR⟩
  exact ⟨seen, ⟨hrun.log, hrun.channel, hrun.ownerState⟩, hR⟩

theorem readies_enter : Readies handles (enter .ready : Owner W Unit) fun owner seen =>
    seen = [] ∧ owner.handles = handles := by
  rintro ⟨owner, channel, w, log⟩ - rfl
  exact ⟨[], ⟨by simp, rfl, rfl⟩, rfl, rfl⟩

/-! ## The gates after the `listening` event -/

/-- What a startup learned on its way to readiness. -/
structure Evidence where
  process : JobProcess
  member : JobMemberProcess
  ipv4 : List ListenerRow
  ipv6 : List UInt16
  secret : Secret
  statusLine : Bytes

namespace Evidence

/-- The process is the owned one, the member is the captured one with this pid,
it owns the listener of the port, and the port answered the secret with success. -/
structure Holds (evidence : Evidence) (handles : Handles) (pid : UInt32) (owner : RuntimeOwner) :
    Prop where
  owned : owner.process = some evidence.process
  captured : owner.runtime = some evidence.member
  identity : evidence.member.identity.pid = pid
  owns : OwnsListener evidence.ipv4 evidence.ipv6 handles.upstreamPort pid
  authority : handles.upstreamSecret = some evidence.secret
  success : successStatusLine evidence.statusLine = true

/-- The observations after the `listening` event, in their order. -/
def milestones (evidence : Evidence) (port : UInt16) : List Observation :=
  [.tokenExists false] ++ captureMilestones evidence.process evidence.member
    ++ listenerMilestones evidence.process evidence.member evidence.ipv4 evidence.ipv6
    ++ [.waited evidence.process.process none, .waited evidence.member.process none]
    ++ httpMilestones port evidence.secret evidence.statusLine

end Evidence

theorem readies_becomeReady (startupDeadline : Nat) (pid : UInt32) (fuel : Nat) :
    Readies handles (becomeReady world startupDeadline pid fuel) fun owner seen =>
      ∃ evidence : Evidence, evidence.Holds handles pid owner ∧
        Gate (evidence.milestones handles.upstreamPort) seen := by
  have htoken : Gate [.tokenExists false] [.tokenExists false] := Gate.single rfl
  apply makes_verifyTokenConsumed.bindReadies
  rintro _ _ rfl
  apply makes_processRef.bindReadiesSilent
  intro process hprocess
  apply (makes_liftNative (checks_captureJobMember process pid)).bindReadies
  rintro member capture ⟨hpid, hcapture⟩
  apply Readies.captured
  apply (makes_waitForListener _ _).bindReadies
  rintro _ listener ⟨listening, owned, ipv4, ipv6, hlistening, howned, howns, hlistener⟩
  apply (makes_waitForAuthenticatedReadiness _ _).bindReadies
  rintro _ answer ⟨authentic, alive, secret, text, hauthentic, halive, hsecret, htext, hanswer⟩
  -- every gate asked the same two handles
  cases Option.some.inj (hprocess.symm.trans hlistening)
  cases Option.some.inj (hprocess.symm.trans hauthentic)
  cases Option.some.inj howned
  cases Option.some.inj halive
  apply readies_enter.mono
  rintro owner _ ⟨rfl, hhandles⟩
  have howned : owner.process = some process := (congrArg Handles.process hhandles).trans hprocess
  have hruntime : owner.runtime = some member := congrArg Handles.runtime hhandles
  refine ⟨⟨process, member, ipv4, ipv6, secret, text⟩,
    ⟨howned, hruntime, hpid, hpid ▸ howns, hsecret, htext⟩, ?_⟩
  have hall := htoken.append (hcapture.append (hlistener.append hanswer))
  simpa only [Evidence.milestones, List.append_assoc, List.append_nil] using hall

/-! ## Waiting for the events -/

/-- After each `starting` event the token was seen to be consumed. -/
def StartsVerified (seen : List Observation) : Prop :=
  ∀ state pid, .received (.event state (.starting pid)) ∈ seen →
    [.received (.event state (.starting pid)), .tokenExists false].Sublist seen

theorem StartsVerified.append {first second : List Observation} (hfirst : StartsVerified first)
    (hsecond : StartsVerified second) : StartsVerified (first ++ second) := by
  intro state pid hmem
  rcases List.mem_append.mp hmem with hmem | hmem
  · exact (hfirst state pid hmem).trans (List.sublist_append_left _ _)
  · exact (hsecond state pid hmem).trans (List.sublist_append_right _ _)

/-- A record of waiting, the `listening` event of the process, and the gates after it. -/
structure Listened (evidence : Evidence) (handles : Handles) (pid : UInt32) (owner : RuntimeOwner)
    (state : LifecycleState) (waits later seen : List Observation) : Prop where
  split : seen = waits ++ .received (.event state (.listening pid)) :: later
  waited : Benign waits
  started : StartsVerified waits
  holds : evidence.Holds handles pid owner
  gate : Gate (evidence.milestones handles.upstreamPort) later

theorem Listened.after {evidence : Evidence} {pid : UInt32} {owner : RuntimeOwner}
    {state : LifecycleState} {first waits later seen : List Observation}
    (hfirst : Benign first) (hstarts : StartsVerified first)
    (hseen : Listened evidence handles pid owner state waits later seen) :
    Listened evidence handles pid owner state (first ++ waits) later (first ++ seen) where
  split := by rw [hseen.split, List.append_assoc]
  waited := hfirst.append hseen.waited
  started := hstarts.append hseen.started
  holds := hseen.holds
  gate := hseen.gate

theorem startsVerified_of_received_eq_nil {seen : List Observation} (hseen : received seen = []) :
    StartsVerified seen := by
  intro state pid hmem
  have hmessage := mem_received.mpr hmem
  rw [hseen] at hmessage
  cases hmessage

/-- A stream that ended before readiness is an error, explained by an exit or not. -/
theorem makes_explainStreamEnd (state : LifecycleState) (ignoredLines : Nat) :
    Makes handles (explainStreamEnd world state ignoredLines) fun _ _ => False := by
  have happly : Makes handles (applyMonitor (.stdoutEnded state ignoredLines) false :
      Owner W (Option MonitorEvent)) fun _ seen => seen = [] ∧ True := by
    refine Makes.bind (advances_modifyOwner fun _ => ⟨rfl, rfl⟩) ?_
    rintro _ _ rfl
    exact makes_readOwner.bindSilent fun owner _ => makes_pure ⟨rfl, trivial⟩
  apply happly.bindSilent
  intro _ _
  apply makes_processRef.bindSilent
  intro process _
  apply makes_readOwner.bindSilent
  intro owner _
  apply (makes_waitForProcess _ _).bind
  intro exitCode _ _
  cases exitCode with
  | some exitCode => exact makes_failed
  | none => exact makes_failed

/-- By induction on the fuel: each turn waits, verifies a start, or becomes ready. -/
theorem readies_waitForEvents (startupDeadline fuel : Nat) :
    Readies handles (waitForEvents world startupDeadline fuel) fun owner seen =>
      ∃ evidence pid state waits later, Listened evidence handles pid owner state waits later
        seen := by
  induction fuel with
  | zero => exact readies_running
  | succ fuel ih =>
      apply makes_ensureWrapperAlive.bindReadies
      rintro _ _ ⟨process, -, rfl⟩
      have halive : Gate [.waited process.process none] [.waited process.process none] :=
        Gate.single rfl
      have hquiet : StartsVerified [.waited process.process none] :=
        startsVerified_of_received_eq_nil rfl
      -- another turn, after a record that verifies its starts
      have hagain : ∀ {first : List Observation}, Benign first → StartsVerified first →
          Readies handles (waitForEvents world startupDeadline fuel) fun owner seen =>
            ∃ evidence pid state waits later, Listened evidence handles pid owner state waits
              later ([.waited process.process none] ++ (first ++ seen)) := by
        intro first hbenign hverified
        apply ih.mono
        rintro owner seen ⟨evidence, pid, state, waits, later, hlistened⟩
        exact ⟨evidence, pid, state, _, later,
          (hlistened.after hbenign hverified).after halive.benign hquiet⟩
      apply makes_readClock.bindReadiesSilent
      intro now _
      split
      · exact readies_failed
      apply (makes_remainingPoll _).bindReadiesSilent
      intro timeout _
      apply (makes_receive timeout).bindReadies
      rintro answer _ (⟨message, rfl, rfl⟩ | ⟨hnone, rfl⟩)
      · cases message with
        | event state event =>
            apply (makes_applyMonitor _).bindReadies
            rintro _ _ ⟨rfl, _, _, ⟨⟩, rfl⟩
            cases event with
            | starting pid =>
                apply makes_verifyTokenConsumed.bindReadies
                rintro _ _ rfl
                have hstart : Gate [.received (.event state (.starting pid)), .tokenExists false]
                    [.received (.event state (.starting pid)), .tokenExists false] :=
                  (Gate.single rfl).append (Gate.single rfl)
                apply hagain hstart.benign
                intro _ _ hmem
                rcases List.mem_pair.mp hmem with hsame | hother
                · rw [hsame]
                · cases hother
            | listening pid =>
                apply (readies_becomeReady _ pid fuel).mono
                rintro owner later ⟨evidence, hholds, hgate⟩
                exact ⟨evidence, pid, state, [.waited process.process none], later, rfl,
                  halive.benign, hquiet, hholds, hgate⟩
            | stopping => exact readies_failed
            | stopped pid => exact readies_failed
            | launcherFailed phase => exact readies_failed
        | stdoutEnded state ignoredLines => exact (makes_explainStreamEnd _ _).readies_of_never
        | protocolFailure error => exact readies_refused nofun
        | stdoutReadFailure => exact readies_refused nofun
        | stderrReadFailure => exact readies_refused nofun
      · cases answer with
        | message message => exact absurd rfl (hnone message)
        | nothing => exact hagain benign_nil (startsVerified_of_received_eq_nil rfl)
        | disconnected => exact readies_failed

theorem readies_waitUntilReady (fuel : Nat) :
    Readies handles (waitUntilReady world fuel) fun owner seen =>
      ∃ evidence pid state waits later, Listened evidence handles pid owner state waits later
        seen := by
  apply makes_readOwner.bindReadiesSilent
  intro owner _
  exact (makes_checkedDeadline _).bindReadiesSilent fun deadline _ => readies_waitForEvents _ fuel

/-- A startup that failed is cleaned up, and stays failed. -/
theorem readies_superviseStartup (fuel : Nat) :
    Readies handles (superviseStartup world fuel) fun owner seen =>
      ∃ evidence pid state waits later, Listened evidence handles pid owner state waits later
        seen := by
  intro start hstate hhandles
  refine Program.Ensures.bind (Program.Ensures.attempt
    (readies_waitUntilReady fuel start hstate hhandles)) ?_
  intro outcome middle hmiddle
  match outcome with
  | .ok () => exact hmiddle
  | .error .running => exact hmiddle
  | .error (.failed primary) =>
      have hcleanup : (abortAndCleanup world fuel).Ensures middle
          (fun _ stop => Quiet start stop) fun _ stop => Quiet start stop :=
        ((cleanupClosed_quiet.abortAndCleanup fuel).ensures middle).mono
          (fun _ _ hstop => hmiddle.trans hstop.2) fun _ _ hstop => hmiddle.trans hstop.2
      exact Program.Ensures.bind hcleanup fun cleanup stop hstop => hstop

end Rpackit.Lifecycle
