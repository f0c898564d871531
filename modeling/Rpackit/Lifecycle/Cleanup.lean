import Rpackit.Lifecycle.Progress

/-! # Cleanup

An aborted startup terminates the Job, joins the monitors and removes the private
session. Whatever the machine, no step of it enters the ready state.
-/

namespace Rpackit.Lifecycle

open Text Launcher Transport
open Program (Within fail)

variable {W : Type} {α β : Type} {handles : Handles} {world : World W}

/-! ## Steps of a cleanup -/

/-- What a cleanup does, and the states it enters. -/
def Observation.isCleanup : Observation → Bool
  | .released _ => true
  | .removing _ => true
  | .entered .stopping => true
  | .entered .cleaned => true
  | _ => false

/-- A relation that the steps of a cleanup keep as well: they change what the owner
holds, but not what it knows from the messages. -/
structure Frees (world : World W) (R : Machine W → Machine W → Prop) : Prop
    extends Asks world R where
  update : ∀ machine {owner}, owner.view = machine.owner.view → R machine (machine.owns owner)
  act : ∀ machine {observation}, observation.isCleanup = true →
    R machine (machine.observes observation)

/-- A relation that every step of a cleanup keeps. -/
structure CleanupClosed (world : World W) (R : Machine W → Machine W → Prop) : Prop
    extends Closed world R, Frees world R

section Frees

variable {R : Machine W → Machine W → Prop} (hR : Frees world R)

include hR

theorem Frees.modify {f : RuntimeOwner → RuntimeOwner}
    (hview : ∀ owner, (f owner).view = owner.view) :
    Within R (modifyOwner f : Owner W Unit) := fun machine => hR.update machine (hview _)

theorem Frees.acts {observation : Observation} (hact : observation.isCleanup = true) :
    Within R (observe observation : Owner W Unit) := fun machine => hR.act machine hact

theorem Frees.enters {state : OwnerState}
    (hact : (Observation.entered state).isCleanup = true) :
    Within R (enter state : Owner W Unit) :=
  hR.bind (hR.modify fun _ => rfl) fun _ => hR.acts hact

theorem Frees.joinStdoutThread (slot : Option LifecycleError) :
    Within R (joinStdoutThread world slot) := by
  apply hR.bind hR.readOwner
  intro owner
  split
  · refine hR.bind (hR.modify fun _ => rfl) fun _ => ?_
    refine hR.bind (hR.ask fun w => .joinStdout w) fun joined => ?_
    split
    · exact hR.pure _
    · exact hR.pure _
  · exact hR.pure _

theorem Frees.joinStderrThread (slot : Option LifecycleError) :
    Within R (joinStderrThread world slot) := by
  apply hR.bind hR.readOwner
  intro owner
  split
  · refine hR.bind (hR.modify fun _ => rfl) fun _ => ?_
    refine hR.bind (hR.ask fun w => .joinStderr w) fun joined => ?_
    split
    · exact hR.bind (hR.modify fun _ => rfl) fun _ => hR.pure _
    · exact hR.pure _
  · exact hR.pure _

theorem Frees.removeSession (slot : Option LifecycleError) :
    Within R (removeSession world slot) := by
  apply hR.bind hR.readOwner
  intro owner
  split
  · exact hR.pure _
  · refine hR.bind (hR.ask fun w => .verifySecurity w) fun _ => hR.bind (hR.acts rfl) fun _ => ?_
    refine hR.bind (hR.ask fun w => .cleanupSession w) fun cleaned => ?_
    split
    · exact hR.pure _
    · exact hR.pure _

theorem Frees.releaseProcess : Within R (releaseProcess : Owner W Unit) := by
  apply hR.bind hR.readOwner
  intro owner
  split
  · exact hR.pure _
  · exact hR.bind (hR.modify fun _ => rfl) fun _ => hR.acts rfl

end Frees

section Closed

variable {R : Machine W → Machine W → Prop} (hR : CleanupClosed world R)

include hR

theorem CleanupClosed.joinMonitors (strict : Bool) (fuel : Nat) :
    Within R (joinMonitors world strict fuel) :=
  hR.bind (hR.joinStdoutThread _) fun _ => hR.bind (hR.joinStderrThread _) fun _ =>
    hR.storing (hR.drainMonitor strict fuel) _

theorem CleanupClosed.releaseOwned (strict : Bool) (slot : Option LifecycleError) (fuel : Nat) :
    Within R (releaseOwned world strict slot fuel) := by
  refine hR.bind hR.releaseProcess fun _ => hR.bind (hR.joinMonitors strict fuel) fun joined => ?_
  apply hR.bind (hR.removeSession _)
  rintro ⟨removed, slot⟩
  refine hR.guarded removed (hR.modify fun _ => rfl) fun _ => ?_
  refine hR.bind (hR.modify fun _ => rfl) fun _ => ?_
  exact hR.guarded removed (hR.enters rfl) fun _ => hR.pure _

theorem CleanupClosed.abortAndCleanup (fuel : Nat) : Within R (abortAndCleanup world fuel) := by
  refine hR.bind (hR.enters rfl) fun _ => hR.bind (hR.terminateJob fuel) ?_
  rintro ⟨empty, slot⟩
  cases empty with
  | false => exact hR.pure _
  | true => exact hR.bind (hR.releaseOwned false slot fuel) fun _ => hR.pure _

end Closed

theorem cleanupClosed_followed : CleanupClosed world (Followed world) where
  toClosed := closed_followed
  update := fun machine _ hview => ⟨[], .held machine hview⟩
  act := fun machine observation hact =>
    ⟨[observation], .observed machine (by cases observation <;> first | rfl | cases hact)⟩

/-! ## Runs that do not become ready -/

/-- The record grew and the owner did not enter the ready state. -/
def Quiet (start stop : Machine W) : Prop :=
  ∃ seen, stop.log = start.log ++ seen ∧ .entered .ready ∉ seen

theorem Quiet.refl (machine : Machine W) : Quiet machine machine := ⟨[], by simp, by simp⟩

theorem Quiet.trans {start middle stop : Machine W} (hfirst : Quiet start middle)
    (hsecond : Quiet middle stop) : Quiet start stop := by
  obtain ⟨first, hlog, hnot⟩ := hfirst
  obtain ⟨second, hlater, hlaterNot⟩ := hsecond
  refine ⟨first ++ second, by rw [hlater, hlog, List.append_assoc], ?_⟩
  exact fun hmem => (List.mem_append.mp hmem).elim hnot hlaterNot

theorem Progress.quiet {start stop : Machine W} {seen : List Observation}
    (hprogress : Progress start stop seen) : Quiet start stop :=
  ⟨seen, hprogress.log, hprogress.notReady⟩

theorem Quiet.single (machine : Machine W) {observation : Observation}
    (hready : observation ≠ .entered .ready) : Quiet machine (machine.observes observation) :=
  ⟨[observation], rfl, by simpa using hready.symm⟩

theorem cleanupClosed_quiet : CleanupClosed world Quiet where
  refl := Quiet.refl
  trans := Quiet.trans
  call := fun _ => ⟨[], (List.append_nil _).symm, by simp⟩
  plain := fun machine _ hplain => Quiet.single machine
    fun hready => by rw [hready] at hplain; cases hplain
  take := fun _ => ⟨[.received _], rfl, by simp⟩
  update := fun _ _ _ => ⟨[], (List.append_nil _).symm, by simp⟩
  act := fun machine _ hact => Quiet.single machine fun hready => by rw [hready] at hact; cases hact

end Rpackit.Lifecycle
