import Rpackit.Lifecycle.Launch
import Rpackit.Lifecycle.Shutdown

/-! # Release

An owner gives up what it holds in one order: the Job is seen empty, the process is
released, the threads are joined, and only then the session is removed. The order holds
in every run of its calls, whatever fails on the way.
-/

namespace Rpackit.Lifecycle

open Text Launcher Transport Rpackit.Bundle
open Program (Within fail)
open Rpackit.Windows (JobProcess)

variable {W : Type} {α β : Type} {world : World W}

/-! ## Watching -/

/-- An observation of a program that releases nothing and enters no state. -/
def Observation.isWatching : Observation → Bool
  | .received _ => true
  | observation => observation.isPlain

/-- The owner without what it knows from the messages. -/
def RuntimeOwner.held (owner : RuntimeOwner) : RuntimeOwner :=
  { owner with monitorState := .awaitingStart, ignoredStdoutLines := 0, stdoutEnded := false }

/-- What the owner holds stayed, and the record grew by observations only. -/
structure Watched (start stop : Machine W) : Prop where
  held : stop.owner.held = start.owner.held
  log : ∃ seen, stop.log = start.log ++ seen ∧ ∀ observation ∈ seen, observation.isWatching = true

theorem Watched.refl (machine : Machine W) : Watched machine machine :=
  ⟨rfl, [], (List.append_nil _).symm, by simp⟩

theorem Watched.trans {start middle stop : Machine W} (hfirst : Watched start middle)
    (hsecond : Watched middle stop) : Watched start stop := by
  obtain ⟨hheld, first, hlog, hwatching⟩ := hfirst
  obtain ⟨hlater, second, hmore, hstill⟩ := hsecond
  refine ⟨hlater.trans hheld, first ++ second, by rw [hmore, hlog, List.append_assoc], ?_⟩
  intro observation hmem
  exact (List.mem_append.mp hmem).elim (hwatching _) (hstill _)

theorem Watched.session {start stop : Machine W} (hwatched : Watched start stop) :
    stop.owner.session = start.owner.session := (congrArg RuntimeOwner.session hwatched.held :)

theorem Watched.ownerState {start stop : Machine W} (hwatched : Watched start stop) :
    stop.owner.ownerState = start.owner.ownerState :=
  (congrArg RuntimeOwner.ownerState hwatched.held :)

theorem Watched.process {start stop : Machine W} (hwatched : Watched start stop) :
    stop.owner.process = start.owner.process := (congrArg RuntimeOwner.process hwatched.held :)

theorem Watched.runtime {start stop : Machine W} (hwatched : Watched start stop) :
    stop.owner.runtime = start.owner.runtime := (congrArg RuntimeOwner.runtime hwatched.held :)

theorem Watched.stdoutThread {start stop : Machine W} (hwatched : Watched start stop) :
    stop.owner.stdoutThread = start.owner.stdoutThread :=
  (congrArg RuntimeOwner.stdoutThread hwatched.held :)

theorem Watched.stderrThread {start stop : Machine W} (hwatched : Watched start stop) :
    stop.owner.stderrThread = start.owner.stderrThread :=
  (congrArg RuntimeOwner.stderrThread hwatched.held :)

theorem Watched.upstreamSecret {start stop : Machine W} (hwatched : Watched start stop) :
    stop.owner.upstreamSecret = start.owner.upstreamSecret :=
  (congrArg RuntimeOwner.upstreamSecret hwatched.held :)

theorem Watched.mem {start stop : Machine W} (hwatched : Watched start stop)
    {observation : Observation} (hmem : observation ∈ start.log) : observation ∈ stop.log := by
  obtain ⟨seen, hlog, -⟩ := hwatched.log
  rw [hlog]
  exact List.mem_append_left _ hmem

theorem closed_watched (world : World W) : Closed world Watched where
  refl := Watched.refl
  trans := Watched.trans
  call := fun _ => ⟨rfl, [], (List.append_nil _).symm, by simp⟩
  plain := by
    intro machine observation hplain
    refine ⟨rfl, [observation], rfl, fun seen hmem => ?_⟩
    obtain rfl := List.mem_singleton.mp hmem
    cases seen with
    | received message => rfl
    | _ => exact hplain
  take := by
    intro machine message rest hchannel
    refine ⟨by cases message <;> rfl, [.received message], rfl, fun seen hmem => ?_⟩
    rw [List.mem_singleton.mp hmem]
    rfl

/-! ## The order of a release -/

variable {process : JobProcess}

/-- The Job was seen empty, then the process was released. -/
def releaseEvidence (process : JobProcess) : List Observation :=
  [.activeProcesses process.job 0, .released process.process]

/-- Every removal of the session comes after the release of the process. -/
def RemovesAfterRelease (process : JobProcess) (log : List Observation) : Prop :=
  ∀ before directory after, log = before ++ .removing directory :: after →
    (releaseEvidence process).Sublist before

theorem removesAfterRelease_of_untouched {log : List Observation}
    (huntouched : ∀ directory, .removing directory ∉ log) : RemovesAfterRelease process log := by
  intro before directory after hlog
  refine absurd ?_ (huntouched directory)
  rw [hlog]
  simp

/-- After the release the record may grow in any way. -/
theorem RemovesAfterRelease.append {log seen : List Observation}
    (hremoves : RemovesAfterRelease process log)
    (hreleased : (releaseEvidence process).Sublist log) :
    RemovesAfterRelease process (log ++ seen) := by
  intro before directory after hlog
  rcases List.append_eq_append_iff.mp hlog with ⟨middle, hbefore, -⟩ | ⟨middle, hfirst, hsecond⟩
  · rw [hbefore]
    exact hreleased.trans (List.sublist_append_left _ _)
  · rcases middle with _ | ⟨observation, rest⟩
    · rw [List.append_nil] at hfirst
      rwa [hfirst] at hreleased
    · rw [List.cons_append, List.cons.injEq] at hsecond
      obtain ⟨rfl, -⟩ := hsecond
      exact hremoves before directory rest hfirst

/-! ## What an owner holds -/

/-- An owner with its process holds everything else, and removed nothing. -/
structure Holding (process : JobProcess) (machine : Machine W) : Prop where
  owned : machine.owner.process = some process
  session : machine.owner.session.isSome = true
  stdoutThread : machine.owner.stdoutThread = true
  stderrThread : machine.owner.stderrThread = true
  ownerState : machine.owner.ownerState ≠ .cleaned
  untouched : ∀ directory, .removing directory ∉ machine.log

/-- The process is released; the session is still there. -/
structure Released (process : JobProcess) (machine : Machine W) : Prop where
  gone : machine.owner.process = none
  session : machine.owner.session.isSome = true
  ownerState : machine.owner.ownerState ≠ .cleaned
  released : (releaseEvidence process).Sublist machine.log
  removals : RemovesAfterRelease process machine.log

/-- An owner without a process: the session is all it may still hold. -/
structure Stopped (process : JobProcess) (machine : Machine W) : Prop where
  gone : machine.owner.process = none
  runtime : machine.owner.runtime = none
  upstreamSecret : machine.owner.upstreamSecret = none
  stdoutThread : machine.owner.stdoutThread = false
  stderrThread : machine.owner.stderrThread = false
  session : machine.owner.session = none ↔ machine.owner.ownerState = .cleaned
  released : (releaseEvidence process).Sublist machine.log
  removals : RemovesAfterRelease process machine.log

/-- What holds of an owner between its calls. -/
def OwnerInv (process : JobProcess) (machine : Machine W) : Prop :=
  Holding process machine ∨ Stopped process machine

/-- An owner without a process has stopped it. -/
theorem OwnerInv.stopped {machine : Machine W} (hinv : OwnerInv process machine)
    (hgone : machine.owner.process = none) : Stopped process machine := by
  apply hinv.resolve_left
  intro hholding
  rw [hholding.owned] at hgone
  cases hgone

theorem OwnerInv.removals {machine : Machine W} (hinv : OwnerInv process machine) :
    RemovesAfterRelease process machine.log := by
  rcases hinv with hholding | hstopped
  · exact removesAfterRelease_of_untouched hholding.untouched
  · exact hstopped.removals

theorem Holding.watched {start stop : Machine W} (hholding : Holding process start)
    (hwatched : Watched start stop) : Holding process stop where
  owned := hwatched.process.trans hholding.owned
  session := by rw [hwatched.session]; exact hholding.session
  stdoutThread := hwatched.stdoutThread.trans hholding.stdoutThread
  stderrThread := hwatched.stderrThread.trans hholding.stderrThread
  ownerState := by rw [hwatched.ownerState]; exact hholding.ownerState
  untouched := by
    intro directory hmem
    obtain ⟨seen, hlog, hwatching⟩ := hwatched.log
    rw [hlog] at hmem
    rcases List.mem_append.mp hmem with hold | hnew
    · exact hholding.untouched directory hold
    · cases hwatching _ hnew

theorem Released.watched {start stop : Machine W} (hreleased : Released process start)
    (hwatched : Watched start stop) : Released process stop := by
  obtain ⟨seen, hlog, -⟩ := hwatched.log
  refine ⟨hwatched.process.trans hreleased.gone, ?_, ?_, ?_, ?_⟩
  · rw [hwatched.session]
    exact hreleased.session
  · rw [hwatched.ownerState]
    exact hreleased.ownerState
  · rw [hlog]
    exact hreleased.released.trans (List.sublist_append_left _ _)
  · rw [hlog]
    exact hreleased.removals.append hreleased.released

theorem Stopped.watched {start stop : Machine W} (hstopped : Stopped process start)
    (hwatched : Watched start stop) : Stopped process stop := by
  obtain ⟨seen, hlog, -⟩ := hwatched.log
  refine ⟨hwatched.process.trans hstopped.gone, hwatched.runtime.trans hstopped.runtime,
    hwatched.upstreamSecret.trans hstopped.upstreamSecret,
    hwatched.stdoutThread.trans hstopped.stdoutThread,
    hwatched.stderrThread.trans hstopped.stderrThread, ?_, ?_, ?_⟩
  · rw [hwatched.session, hwatched.ownerState]
    exact hstopped.session
  · rw [hlog]
    exact hstopped.released.trans (List.sublist_append_left _ _)
  · rw [hlog]
    exact hstopped.removals.append hstopped.released

theorem OwnerInv.watched {start stop : Machine W} (hinv : OwnerInv process start)
    (hwatched : Watched start stop) : OwnerInv process stop :=
  hinv.imp (fun hholding => hholding.watched hwatched) fun hstopped => hstopped.watched hwatched

/-! ## The Job is seen empty -/

theorem activeProcessCount_observes {job : Nat} {count : UInt32} {start stop : Machine W}
    (hcounted : activeProcessCount world job start = (.ok count, stop)) :
    .activeProcesses job count ∈ stop.log := by
  obtain ⟨answer, middle, -, hobserved⟩ := Program.bind_eq_ok_iff.mp hcounted
  obtain ⟨_, last, hlast, hpure⟩ := Program.bind_eq_ok_iff.mp hobserved
  cases hpure
  cases hlast
  simp

theorem pollEmpty_observes {job : Nat} {deadline : Option Nat} {fuel : Nat}
    {start stop : Machine W}
    (hempty : pollEmpty world job deadline fuel start = (.ok (.ok true), stop)) :
    .activeProcesses job 0 ∈ stop.log := by
  induction fuel generalizing start with
  | zero => cases hempty
  | succ fuel ih =>
      obtain ⟨counted, middle, hcounted, hempty⟩ := Program.bind_eq_ok_iff.mp hempty
      rw [Program.attempt_eq_ok_iff] at hcounted
      cases counted with
      | error error => cases hempty
      | ok count =>
          dsimp only at hempty
          split at hempty
          next hzero =>
            cases hempty
            subst hzero
            exact activeProcessCount_observes hcounted
          cases deadline with
          | none => cases hempty
          | some deadline =>
              obtain ⟨now, later, -, hempty⟩ := Program.bind_eq_ok_iff.mp hempty
              split at hempty
              · cases hempty
              · obtain ⟨-, last, -, hempty⟩ := Program.bind_eq_ok_iff.mp hempty
                exact ih hempty

theorem waitForEmpty_observes {job timeout fuel : Nat} {start stop : Machine W}
    (hempty : waitForEmpty world job timeout fuel start = (.ok (.ok true), stop)) :
    .activeProcesses job 0 ∈ stop.log := by
  obtain ⟨now, middle, -, hempty⟩ := Program.bind_eq_ok_iff.mp hempty
  exact pollEmpty_observes hempty

/-- A terminated Job was seen empty, unless there was no process. -/
theorem terminateJob_observes {fuel : Nat} {slot : Option LifecycleError} {start stop : Machine W}
    (hterminated : terminateJob world fuel start = (.ok (true, slot), stop)) :
    start.owner.process = none ∨ ∃ process, start.owner.process = some process ∧
      .activeProcesses process.job 0 ∈ stop.log := by
  rw [terminateJob, readOwner_bind] at hterminated
  rcases hprocess : start.owner.process with _ | process
  · exact .inl rfl
  · rw [hprocess] at hterminated
    obtain ⟨terminated, called, -, hterminated⟩ := Program.bind_eq_ok_iff.mp hterminated
    obtain ⟨empty, waited, hempty, hterminated⟩ := Program.bind_eq_ok_iff.mp hterminated
    split at hterminated
    · cases hterminated
      exact .inr ⟨process, rfl, waitForEmpty_observes hempty⟩
    · cases hterminated
    · cases hterminated

/-- Everything is reaped only with a process whose Job was seen empty. -/
theorem reap_observes {fuel : Nat} {reaped : Reaped} {slot : Option LifecycleError}
    {start stop : Machine W} (hreaped : reap world fuel start = (.ok (reaped, slot), stop))
    (hempty : reaped.jobEmpty = true) :
    ∃ process, start.owner.process = some process ∧ .activeProcesses process.job 0 ∈ stop.log := by
  obtain ⟨⟨empty, wrapperExit, first⟩, middle, hprocess, hreaped⟩ :=
    Program.bind_eq_ok_iff.mp hreaped
  obtain ⟨⟨runtimeExit, second⟩, last, hruntime, hreaped⟩ := Program.bind_eq_ok_iff.mp hreaped
  cases hreaped
  have hwatched : Watched middle stop := ((closed_watched world).reapRuntime first).moved hruntime
  rw [reapProcess, readOwner_bind] at hprocess
  rcases howned : start.owner.process with _ | process
  · rw [howned] at hprocess
    cases hprocess
    cases hempty
  · rw [howned] at hprocess
    obtain ⟨⟨seen, error⟩, counted, hjob, hprocess⟩ := Program.bind_eq_ok_iff.mp hprocess
    obtain ⟨⟨exitCode, error⟩, exited, hexit, hprocess⟩ := Program.bind_eq_ok_iff.mp hprocess
    cases hprocess
    have hexited : Watched counted middle := ((closed_watched world).reapExit _ _ error).moved hexit
    refine ⟨process, rfl, hwatched.mem (hexited.mem ?_)⟩
    obtain ⟨answer, waited, hanswer, hjob⟩ := Program.bind_eq_ok_iff.mp hjob
    split at hjob
    · cases hjob
      exact waitForEmpty_observes hanswer
    · cases hjob
      cases hempty
    · cases hjob
      cases hempty

/-! ## The release itself -/

theorem joinStdoutThread_eq (world : World W) (slot : Option LifecycleError) (start : Machine W) :
    ∃ last w, joinStdoutThread world slot start =
        (.ok last, (start.calls w).owns { start.owner with stdoutThread := false }) ∧
      (last = none → slot = none ∧
        (start.owner.stdoutThread = true → (world.joinStdout start.world).1 = true)) := by
  obtain ⟨owner, channel, w, log⟩ := start
  by_cases hthread : owner.stdoutThread = true
  · have hrun : joinStdoutThread world slot ⟨owner, channel, w, log⟩ =
        (if (world.joinStdout w).1 then pure slot
          else pure (storeFirstError slot (.monitorThreadPanicked "stdout")) : Owner W _)
        ⟨{ owner with stdoutThread := false }, channel, (world.joinStdout w).2, log⟩ := by
      rw [joinStdoutThread, readOwner_bind, if_pos hthread]
      rfl
    rw [hrun]
    by_cases hjoined : (world.joinStdout w).1 = true
    · rw [if_pos hjoined]
      exact ⟨slot, _, rfl, fun hslot => ⟨hslot, fun _ => hjoined⟩⟩
    · rw [if_neg hjoined]
      refine ⟨_, _, rfl, fun hslot => ?_⟩
      cases slot <;> cases hslot
  · have hkept : { owner with stdoutThread := false } = owner := by
      rw [Bool.not_eq_true] at hthread
      rw [← hthread]
    refine ⟨slot, w, ?_, fun hslot => ⟨hslot, fun htrue => absurd htrue hthread⟩⟩
    rw [joinStdoutThread, readOwner_bind, if_neg hthread]
    dsimp only
    rw [hkept]
    rfl

theorem joinStderrThread_of_thread {world : World W} {slot : Option LifecycleError}
    {owner : RuntimeOwner} (hthread : owner.stderrThread = true) {channel : List MonitorMessage}
    {w : W} {log : List Observation} :
    joinStderrThread world slot ⟨owner, channel, w, log⟩ =
      (match (world.joinStderr w).1 with
        | some bytes => do
            modifyOwner fun owner => { owner with discardedStderrBytes := bytes }
            return slot
        | none => return storeFirstError slot (.monitorThreadPanicked "stderr") : Owner W _)
      ⟨{ owner with stderrThread := false }, channel, (world.joinStderr w).2, log⟩ := by
  rw [joinStderrThread, readOwner_bind, if_pos hthread]
  rfl

theorem joinStderrThread_eq (world : World W) (slot : Option LifecycleError) (start : Machine W) :
    ∃ last w bytes, joinStderrThread world slot start =
        (.ok last, (start.calls w).owns
          { start.owner with stderrThread := false, discardedStderrBytes := bytes }) ∧
      (last = none → slot = none) := by
  obtain ⟨owner, channel, w, log⟩ := start
  by_cases hthread : owner.stderrThread = true
  · rw [joinStderrThread_of_thread hthread]
    rcases (world.joinStderr w).1 with _ | bytes
    · refine ⟨_, _, owner.discardedStderrBytes, rfl, fun hslot => ?_⟩
      cases slot <;> cases hslot
    · exact ⟨slot, _, bytes, rfl, id⟩
  · have hkept : { owner with stderrThread := false } = owner := by
      rw [Bool.not_eq_true] at hthread
      rw [← hthread]
    refine ⟨slot, w, owner.discardedStderrBytes, ?_, id⟩
    rw [joinStderrThread, readOwner_bind, if_neg hthread]
    dsimp only
    rw [hkept]
    rfl

theorem removeSession_of_session {world : World W} {slot : Option LifecycleError}
    {owner : RuntimeOwner} {session : PrivateSession} (hsession : owner.session = some session)
    {channel : List MonitorMessage} {w : W} {log : List Observation} :
    removeSession world slot ⟨owner, channel, w, log⟩ =
      (match (world.cleanupSession (world.verifySecurity w).2).1 with
        | .ok () => return (true, storeNative slot (world.verifySecurity w).1)
        | .error error => return (false,
            storeFirstError (storeNative slot (world.verifySecurity w).1) (.launch error))
          : Owner W _)
      ⟨owner, channel, (world.cleanupSession (world.verifySecurity w).2).2,
        log ++ [.removing session.directory]⟩ := by
  rw [removeSession, readOwner_bind]
  simp only [hsession]
  rfl

/-- A removal that is tried is on the record, and one that fails leaves an error. -/
theorem removeSession_some (world : World W) (slot : Option LifecycleError) {start : Machine W}
    {session : PrivateSession} (hsession : start.owner.session = some session) :
    ∃ removed last, removeSession world slot start = (.ok (removed, last),
        { start with
          world := (world.cleanupSession (world.verifySecurity start.world).2).2
          log := start.log ++ [.removing session.directory] }) ∧
      (last = none → slot = none ∧ removed = true) ∧
      (removed = true ↔
        (world.cleanupSession (world.verifySecurity start.world).2).1 = .ok ()) := by
  obtain ⟨owner, channel, w, log⟩ := start
  dsimp only at hsession ⊢
  rw [removeSession_of_session hsession]
  rcases (world.cleanupSession (world.verifySecurity w).2).1 with error | _
  · refine ⟨false, _, rfl, fun hlast => ?_, by simp⟩
    cases hslot : storeNative slot (world.verifySecurity w).1 <;>
      rw [hslot] at hlast <;> cases hlast
  · refine ⟨true, _, rfl, fun hlast => ⟨?_, rfl⟩, by simp⟩
    rcases slot with _ | error
    · rfl
    · rcases hverified : (world.verifySecurity w).1 with failure | _
      · rw [hverified] at hlast
        cases hlast
      · rw [hverified] at hlast
        cases hlast

theorem removeSession_eq (world : World W) (slot : Option LifecycleError) (start : Machine W) :
    ∃ removed last w tried, removeSession world slot start =
        (.ok (removed, last), { start with world := w, log := start.log ++ tried }) ∧
      (last = none → slot = none ∧ removed = true) := by
  rcases hsession : start.owner.session with _ | session
  · refine ⟨true, slot, start.world, [], ?_, fun hslot => ⟨hslot, rfl⟩⟩
    rw [removeSession, readOwner_bind, List.append_nil]
    simp only [hsession]
    rfl
  · obtain ⟨removed, last, hremove, hlast, -⟩ := removeSession_some world slot hsession
    exact ⟨removed, last, _, _, hremove, hlast⟩

theorem releaseProcess_eq (start : Machine W) :
    releaseProcess start = (.ok (), match start.owner.process with
      | some process =>
          (start.owns { start.owner with process := none }).observes (.released process.process)
      | none => start) := by
  rw [releaseProcess, readOwner_bind]
  cases start.owner.process with
  | none => rfl
  | some process => rfl

theorem storing_eq (slot : Option LifecycleError) (x : Owner W Unit) (start : Machine W) :
    storing slot x start = (match (x start).1 with
      | .ok () => return slot
      | .error (.failed error) => return storeFirstError slot error
      | .error .running => fail .running : Owner W _) (x start).2 := rfl

theorem storing_ensures {R : Machine W → Machine W → Prop} {x : Owner W Unit} (hx : Within R x)
    (slot : Option LifecycleError) (start : Machine W) :
    (storing slot x).Ensures start (fun _ stop => R start stop)
      fun reason stop => reason = .running ∧ R start stop := by
  have hmoved := hx start
  unfold Program.Ensures
  rw [storing_eq]
  revert hmoved
  rcases x start with ⟨(error | _) | _, stop⟩
  · exact id
  · exact fun hmoved => ⟨rfl, hmoved⟩
  · exact id

/-- No error was stored. -/
theorem storing_eq_none {x : Owner W Unit} {slot : Option LifecycleError} {start stop : Machine W}
    (hstored : storing slot x start = (.ok none, stop)) : slot = none ∧
      x start = (.ok (), stop) := by
  obtain ⟨outcome, middle, hrun, hstored⟩ := Program.bind_eq_ok_iff.mp hstored
  rw [Program.attempt_eq_ok_iff] at hrun
  match outcome with
  | .ok () =>
      cases hstored
      exact ⟨rfl, hrun⟩
  | .error (.failed error) => cases slot <;> cases hstored
  | .error .running => cases hstored

/-! ## Keeping the invariant -/

/-- From `start` a program leads to the invariant, even where it fails. Out of fuel it
removed nothing too early. -/
def KeptFrom (process : JobProcess) (start : Machine W) (x : Owner W α) : Prop :=
  x.Ensures start (fun _ stop => OwnerInv process stop) fun reason stop =>
    RemovesAfterRelease process stop.log ∧ (reason ≠ .running → OwnerInv process stop)

def Kept (process : JobProcess) (x : Owner W α) : Prop :=
  ∀ start, OwnerInv process start → KeptFrom process start x

theorem Kept.bind {start : Machine W} {x : Owner W α} {f : α → Owner W β}
    (hx : KeptFrom process start x) (hf : ∀ a, Kept process (f a)) :
    KeptFrom process start (x >>= f) := Program.Ensures.bind hx fun a next hinv => hf a next hinv

theorem Kept.andThen {x : Owner W α} {f : α → Owner W β} (hx : Kept process x)
    (hf : ∀ a, Kept process (f a)) : Kept process (x >>= f) := fun start hinv =>
  Kept.bind (hx start hinv) hf

theorem kept_watched {x : Owner W α} (hx : Within Watched x) : Kept process x := by
  intro start hinv
  refine (hx.ensures start).mono (fun a stop hstop => hinv.watched hstop.2) ?_
  intro reason stop hstop
  have hkept := hinv.watched hstop.2
  exact ⟨hkept.removals, fun _ => hkept⟩

theorem kept_pure (a : α) : Kept process (pure a : Owner W α) :=
  kept_watched (Program.within_pure Watched.refl a)

theorem kept_error (error : LifecycleError) : Kept process (failed error : Owner W α) :=
  kept_watched (Program.within_fail Watched.refl _)

theorem keptFrom_running {start : Machine W} (hremovals : RemovesAfterRelease process start.log) :
    KeptFrom process start (fail .running : Owner W α) :=
      ⟨hremovals, fun hreason => absurd rfl hreason⟩

/-- The outcome of a program is looked at, but not that it is out of fuel. -/
theorem KeptFrom.attempt_bind {start : Machine W} {x : Owner W α}
    {f : Except Stop α → Owner W β} (hx : KeptFrom process start x)
    (hok : ∀ a, Kept process (f (.ok a)))
    (hfailed : ∀ error, Kept process (f (.error (.failed error))))
    (hrunning : f (.error .running) = fail .running) :
    KeptFrom process start (x.attempt >>= f) := by
  apply Program.Ensures.bind (Program.Ensures.attempt hx)
  intro outcome next hnext
  match outcome with
  | .ok a => exact hok a next hnext
  | .error (.failed error) => exact hfailed error next (hnext.2 nofun)
  | .error .running =>
      rw [hrunning]
      exact keptFrom_running hnext.1

/-! ## Cleanups -/

/-- An owner about to release: its Job was seen empty, or its process is gone already. -/
def Releasable (process : JobProcess) (machine : Machine W) : Prop :=
  Holding process machine ∧ .activeProcesses process.job 0 ∈ machine.log ∨
    Stopped process machine ∧ machine.owner.ownerState ≠ .cleaned

theorem releaseProcess_released {start : Machine W} (hstart : Releasable process start) :
    ∃ stop, releaseProcess start = (.ok (), stop) ∧ Released process stop := by
  refine ⟨_, releaseProcess_eq start, ?_⟩
  rcases hstart with ⟨hholding, hempty⟩ | ⟨hstopped, hcleaned⟩
  · rw [hholding.owned]
    obtain ⟨before, after, hlog⟩ := List.mem_iff_append.mp hempty
    refine ⟨rfl, hholding.session, hholding.ownerState, ?_, ?_⟩
    · have hcounted : [Observation.activeProcesses process.job 0].Sublist start.log :=
        List.singleton_sublist.mpr hempty
      exact hcounted.append (List.Sublist.refl [Observation.released process.process])
    · apply removesAfterRelease_of_untouched
      intro directory hmem
      rcases List.mem_append.mp hmem with hold | hnew
      · exact hholding.untouched directory hold
      · cases List.mem_singleton.mp hnew
  · rw [hstopped.gone]
    refine ⟨hstopped.gone, ?_, hcleaned, hstopped.released, hstopped.removals⟩
    rw [Option.isSome_iff_ne_none]
    exact fun hnone => hcleaned (hstopped.session.mp hnone)

/-- The threads are joined, or the drain is out of fuel. -/
theorem joinMonitors_released {start : Machine W} (hreleased : Released process start)
    (strict : Bool) (fuel : Nat) :
    (joinMonitors world strict fuel).Ensures start
      (fun _ stop => Released process stop ∧ stop.owner.stdoutThread = false ∧
        stop.owner.stderrThread = false)
      fun reason stop => reason = .running ∧ RemovesAfterRelease process stop.log := by
  obtain ⟨first, called, hstdout, -⟩ := joinStdoutThread_eq world none start
  obtain ⟨second, again, bytes, hstderr, -⟩ := joinStderrThread_eq world first
    ((start.calls called).owns { start.owner with stdoutThread := false })
  refine Program.ensures_bind_of_eq hstdout (Program.ensures_bind_of_eq hstderr ?_)
  have hjoined : Released process (((start.calls called).calls again).owns
      { start.owner with stdoutThread := false, stderrThread := false,
                         discardedStderrBytes := bytes }) :=
    ⟨hreleased.gone, hreleased.session, hreleased.ownerState, hreleased.released,
      hreleased.removals⟩
  refine (storing_ensures ((closed_watched world).drainMonitor strict fuel) second _).mono ?_ ?_
  · intro last stop hstop
    exact ⟨hjoined.watched hstop, hstop.stdoutThread, hstop.stderrThread⟩
  · intro reason stop hstop
    exact ⟨hstop.1, (hjoined.watched hstop.2).removals⟩

/-- A release leads to an owner without a process, and to a cleaned one if the session
is gone. -/
theorem releaseOwned_stopped {start : Machine W} (hstart : Releasable process start)
    (strict : Bool) (slot : Option LifecycleError) (fuel : Nat) :
    (releaseOwned world strict slot fuel).Ensures start (fun _ stop => Stopped process stop)
      fun reason stop => reason = .running ∧ RemovesAfterRelease process stop.log := by
  obtain ⟨middle, hrelease, hreleased⟩ := releaseProcess_released hstart
  apply Program.ensures_bind_of_eq hrelease
  apply Program.Ensures.bind (joinMonitors_released hreleased strict fuel)
  rintro joined next ⟨hreleased, hstdout, hstderr⟩
  obtain ⟨removed, last, w, tried, hremove, -⟩ := removeSession_eq world (slot.or joined) next
  apply Program.ensures_bind_of_eq hremove
  have htried := hreleased.released.trans (List.sublist_append_left next.log tried)
  have hremovals : RemovesAfterRelease process (next.log ++ tried) :=
    hreleased.removals.append hreleased.released
  cases removed with
  | false =>
      refine ⟨hreleased.gone, rfl, rfl, hstdout, hstderr, ?_, htried, hremovals⟩
      refine iff_of_false (fun hnone => ?_) hreleased.ownerState
      have hsession := hreleased.session
      rw [show next.owner.session = none from hnone] at hsession
      cases hsession
  | true =>
      exact ⟨hreleased.gone, rfl, rfl, hstdout, hstderr, iff_of_true rfl rfl,
        htried.trans (List.sublist_append_left _ _), hremovals.append htried⟩

theorem Holding.entered {start : Machine W} (hholding : Holding process start) {state : OwnerState}
    (hstate : state ≠ .cleaned) :
    Holding process ((start.owns { start.owner with ownerState := state }).observes
      (.entered state)) := by
  refine ⟨hholding.owned, hholding.session, hholding.stdoutThread, hholding.stderrThread, hstate,
    fun directory hmem => ?_⟩
  rcases List.mem_append.mp hmem with hold | hnew
  · exact hholding.untouched directory hold
  · cases List.mem_singleton.mp hnew

theorem Stopped.entered {start : Machine W} (hstopped : Stopped process start)
    (hcleaned : start.owner.ownerState ≠ .cleaned) {state : OwnerState}
    (hstate : state ≠ .cleaned) :
    Stopped process ((start.owns { start.owner with ownerState := state }).observes
      (.entered state)) := by
  have hsession : start.owner.session ≠ none := fun hnone => hcleaned (hstopped.session.mp hnone)
  exact ⟨hstopped.gone, hstopped.runtime, hstopped.upstreamSecret, hstopped.stdoutThread,
    hstopped.stderrThread, iff_of_false hsession hstate,
    hstopped.released.trans (List.sublist_append_left _ _),
    hstopped.removals.append hstopped.released⟩

/-- An owner that is not cleaned may enter any other state. -/
theorem OwnerInv.entered {start : Machine W} (hinv : OwnerInv process start)
    (hcleaned : start.owner.ownerState ≠ .cleaned) {state : OwnerState}
    (hstate : state ≠ .cleaned) :
    OwnerInv process ((start.owns { start.owner with ownerState := state }).observes
      (.entered state)) :=
  hinv.imp (fun hholding => hholding.entered hstate) fun hstopped =>
    hstopped.entered hcleaned hstate

theorem kept_releaseOwned {start : Machine W} (hstart : Releasable process start) (strict : Bool)
    (slot : Option LifecycleError) (fuel : Nat) :
    KeptFrom process start (releaseOwned world strict slot fuel) := by
  refine (releaseOwned_stopped hstart strict slot fuel).mono
    (fun _ stop hstopped => .inr hstopped) ?_
  rintro reason stop ⟨rfl, hremovals⟩
  exact ⟨hremovals, fun hreason => absurd rfl hreason⟩

theorem kept_finishCleanup (kind : ShutdownKind) (strict : Bool) (fuel : Nat) :
    Kept process (finishCleanup world kind strict fuel) := by
  intro start hinv
  refine Program.Ensures.bind (((closed_watched world).reap fuel).ensures start |>.mono
    (fun _ _ hstop => hstop) ?_) ?_
  · intro reason stop hstop
    have hkept := hinv.watched hstop.2
    exact ⟨hkept.removals, fun _ => hkept⟩
  rintro ⟨reaped, slot⟩ middle ⟨hreaped, hwatched⟩
  dsimp only
  have hmiddle := hinv.watched hwatched
  split
  · exact kept_error _ middle hmiddle
  next hcomplete =>
    have hempty : reaped.jobEmpty = true := by
      simp only [Bool.not_eq_true', Bool.not_eq_false, Reaped.complete,
        Bool.and_eq_true] at hcomplete
      exact hcomplete.1.1
    obtain ⟨counted, hcounted, hobserved⟩ := reap_observes hreaped hempty
    have hholding : Holding process middle := by
      apply hmiddle.resolve_right
      intro hstopped
      rw [← hwatched.process, hstopped.gone] at hcounted
      cases hcounted
    rw [← hwatched.process, hholding.owned] at hcounted
    cases hcounted
    refine Kept.bind (kept_releaseOwned (.inl ⟨hholding, hobserved⟩) strict slot fuel) ?_
    rintro ⟨removed, _ | error⟩
    · have hwatching := closed_watched world
      exact kept_watched (hwatching.bind hwatching.readOwner fun owner => hwatching.pure _)
    · exact kept_error _

theorem kept_forceAndCleanup (fuel : Nat) : Kept process (forceAndCleanup world fuel) := by
  have hwatching := closed_watched world
  apply (kept_watched hwatching.readOwner).andThen
  intro owner
  apply (kept_watched (hwatching.terminateJob fuel)).andThen
  rintro ⟨empty, slot⟩ start hinv
  dsimp only
  generalize (if owner.process.isNone then storeFirstError slot .ownerNotRunning else slot) = first
  refine KeptFrom.attempt_bind (kept_finishCleanup .forced false fuel start hinv) ?_ ?_ ?_
  · intro report
    cases first with
    | none => exact kept_pure report
    | some primary => exact kept_error _
  · intro error
    cases first with
    | none => exact kept_error _
    | some primary => exact kept_error _
  · cases first <;> rfl

theorem kept_forceAfter (primary : LifecycleError) (fuel : Nat) :
    Kept process (forceAfter world primary fuel) := by
  intro start hinv
  refine KeptFrom.attempt_bind (kept_forceAndCleanup fuel start hinv) ?_ ?_ rfl
  · exact fun report => kept_error _
  · exact fun error => kept_error _

theorem kept_awaitGraceful (deadline fuel : Nat) :
    Kept process (awaitGraceful world deadline fuel) := by
  have hwatching := closed_watched world
  induction fuel with
  | zero =>
      intro start hinv
      exact keptFrom_running hinv.removals
  | succ fuel ih =>
      intro start hinv
      refine KeptFrom.attempt_bind (kept_watched (hwatching.drainMonitor true fuel) start hinv)
        ?_ ?_ rfl
      · intro _
        apply (kept_watched hwatching.gracefulCompletionObserved).andThen
        intro complete
        split
        · exact kept_finishCleanup .graceful true fuel
        apply (kept_watched hwatching.readClock).andThen
        intro now
        split
        · exact kept_forceAndCleanup fuel
        · apply (kept_watched (hwatching.remainingPoll deadline)).andThen
          intro pause
          exact (kept_watched (hwatching.sleepFor pause)).andThen fun _ => ih
      · exact fun error => kept_forceAfter error fuel

/-- After the state of an owner that is not cleaned has been checked, it may enter `stopping`. -/
theorem keptFrom_enter_bind {start : Machine W} (hinv : OwnerInv process start)
    (hcleaned : start.owner.ownerState ≠ .cleaned) {f : Unit → Owner W α}
    (hf : Kept process (f ())) : KeptFrom process start (enter .stopping >>= f) := by
  have hentered : OwnerInv process
      ((start.owns { start.owner with ownerState := .stopping }).observes (.entered .stopping)) :=
    hinv.entered hcleaned nofun
  exact Program.ensures_bind_of_eq (by rfl) (hf _ hentered)

theorem keptFrom_requestStop {start : Machine W} (hinv : OwnerInv process start)
    (hcleaned : start.owner.ownerState ≠ .cleaned) :
    KeptFrom process start (requestStop world) := by
  have hwatching := closed_watched world
  refine Program.ensures_bind_of_eq (by rfl) ?_
  split
  · exact kept_pure _ start hinv
  · refine keptFrom_enter_bind hinv hcleaned (kept_watched ?_)
    apply hwatching.bind hwatching.sessionRef
    intro session
    exact hwatching.bind (hwatching.ask fun w => .createControlFile session w) fun created =>
      hwatching.pure _

theorem kept_shutdown (fuel : Nat) : Kept process (shutdown world fuel) := by
  have hwatching := closed_watched world
  intro start hinv
  refine Program.ensures_bind_of_eq (by rfl) ?_
  split
  · exact kept_error _ start hinv
  next hcleaned =>
    apply Kept.bind (keptFrom_requestStop hinv hcleaned)
    intro refused
    cases refused with
    | some primary => exact kept_forceAfter primary fuel
    | none =>
        apply (kept_watched (hwatching.checkedDeadline _)).andThen
        intro deadline
        exact kept_awaitGraceful deadline fuel

theorem kept_forceShutdown (fuel : Nat) : Kept process (forceShutdown world fuel) := by
  intro start hinv
  refine Program.ensures_bind_of_eq (by rfl) ?_
  split
  · exact kept_error _ start hinv
  next hcleaned => exact keptFrom_enter_bind hinv hcleaned (kept_forceAndCleanup fuel)

theorem keptFrom_abortAndCleanup {start : Machine W} (hinv : OwnerInv process start)
    (hcleaned : start.owner.ownerState ≠ .cleaned) (fuel : Nat) :
    KeptFrom process start (abortAndCleanup world fuel) := by
  have hwatching := closed_watched world
  refine Program.ensures_bind_of_eq (by rfl) ?_
  have hentered : OwnerInv process
      ((start.owns { start.owner with ownerState := .stopping }).observes (.entered .stopping)) :=
    hinv.entered hcleaned nofun
  refine Program.Ensures.bind (((hwatching.terminateJob fuel).ensures _).mono
    (fun _ _ hstop => hstop) ?_) ?_
  · intro reason stop hstop
    have hkept := hentered.watched hstop.2
    exact ⟨hkept.removals, fun _ => hkept⟩
  rintro ⟨empty, slot⟩ middle ⟨hterminated, hwatched⟩
  have hmiddle := hentered.watched hwatched
  cases empty with
  | false => exact kept_pure _ middle hmiddle
  | true =>
      refine Kept.bind (kept_releaseOwned ?_ false slot fuel) fun _ => kept_pure _
      rcases hmiddle with hholding | hstopped
      · have howned := hwatched.process.symm.trans hholding.owned
        rcases terminateJob_observes hterminated with hnone | ⟨counted, hcounted, hobserved⟩
        · rw [howned] at hnone
          cases hnone
        · rw [howned] at hcounted
          cases hcounted
          exact .inl ⟨hholding, hobserved⟩
      · refine .inr ⟨hstopped, ?_⟩
        rw [hwatched.ownerState]
        nofun

theorem kept_dropOwner (fuel : Nat) : Kept process (dropOwner world fuel) := by
  intro start hinv
  refine Program.ensures_bind_of_eq (by rfl) ?_
  split
  · exact kept_pure _ start hinv
  next hcleaned =>
    exact Kept.bind (keptFrom_abortAndCleanup hinv hcleaned fuel) fun _ => kept_pure _

/-- The answer of a retry: the error that is stored, if any. -/
theorem kept_stored (slot : Option LifecycleError) : Kept process (match slot with
    | some error => failed error
    | none => return () : Owner W Unit) := by
  cases slot with
  | none => exact kept_pure ()
  | some error => exact kept_error error

/-- A retry is refused while the process is owned. Without a process it removes the session. -/
theorem kept_retryPrivateCleanup : Kept process (retryPrivateCleanup world) := by
  intro start hinv
  refine Program.ensures_bind_of_eq (by rfl) ?_
  split
  · exact kept_error _ start hinv
  split
  · exact kept_error _ start hinv
  next hcleaned hlive =>
    -- an owner that still holds its process is refused
    have hstopped : Stopped process start := hinv.resolve_left fun hholding => by
      rw [hholding.owned] at hlive
      exact hlive rfl
    obtain ⟨removed, last, w, tried, hremove, -⟩ := removeSession_eq world none start
    apply Program.ensures_bind_of_eq hremove
    have htried := hstopped.released.trans (List.sublist_append_left start.log tried)
    have hremovals : RemovesAfterRelease process (start.log ++ tried) :=
      hstopped.removals.append hstopped.released
    cases removed with
    | false =>
        exact kept_stored last _ (.inr ⟨hstopped.gone, hstopped.runtime, hstopped.upstreamSecret,
          hstopped.stdoutThread, hstopped.stderrThread, hstopped.session, htried, hremovals⟩)
    | true =>
        have hdiscard : discardRetained ⟨start.owner, start.channel, w, start.log ++ tried⟩ =
            (.ok (), ⟨{ start.owner with session := none, runtime := none, upstreamSecret := none,
                                         ownerState := .cleaned },
              start.channel, w, start.log ++ tried ++ [.entered .cleaned]⟩) := rfl
        refine Program.ensures_bind_of_eq hdiscard (kept_stored last _ (.inr ⟨hstopped.gone, rfl,
          rfl, hstopped.stdoutThread, hstopped.stderrThread, iff_of_true rfl rfl, ?_, ?_⟩))
        · exact htried.trans (List.sublist_append_left _ _)
        · exact hremovals.append htried

/-- Every call of an owner keeps its invariant. -/
theorem kept_run (fuel : Nat) (call : OwnerCall) : Kept process (call.run world fuel) := by
  cases call with
  | pollHealth =>
      exact (kept_watched ((closed_watched world).pollHealth fuel)).andThen fun _ => kept_pure _
  | shutdown => exact (kept_shutdown fuel).andThen fun _ => kept_pure _
  | forceShutdown => exact (kept_forceShutdown fuel).andThen fun _ => kept_pure _
  | retryPrivateCleanup => exact kept_retryPrivateCleanup.andThen fun _ => kept_pure _
  | drop => exact (kept_dropOwner fuel).andThen fun _ => kept_pure _

/-! ## The startup -/

/-- A starting owner holds everything until its startup ends. -/
theorem startupClosed_holding :
    StartupClosed world fun start stop => ∀ process, Holding process start →
      Holding process stop where
  refl := fun _ _ hholding => hholding
  trans := fun hfirst hsecond process hholding => hsecond process (hfirst process hholding)
  call := fun _ _ hholding => ⟨hholding.owned, hholding.session, hholding.stdoutThread,
    hholding.stderrThread, hholding.ownerState, hholding.untouched⟩
  plain := fun machine _ hplain process hholding =>
    hholding.watched ((closed_watched world).plain machine hplain)
  take := fun hchannel process hholding => hholding.watched ((closed_watched world).take hchannel)
  capture := by
    intro owned pid member before after hrun process hholding
    have hwatching := closed_watched world
    have hcaptured := hholding.watched ((hwatching.captureJobMember owned pid).moved hrun)
    exact ⟨hcaptured.owned, hcaptured.session, hcaptured.stdoutThread, hcaptured.stderrThread,
      hcaptured.ownerState, hcaptured.untouched⟩
  ready := fun _ _ hholding => hholding.entered nofun

theorem keptFrom_superviseStartup {start : Machine W} (hholding : Holding process start)
    (fuel : Nat) : KeptFrom process start (superviseStartup world fuel) := by
  rcases hrun : waitUntilReady world fuel start with ⟨outcome, middle⟩
  have hmiddle : Holding process middle :=
    (startupClosed_holding.within_waitUntilReady fuel).moved hrun process hholding
  apply Program.ensures_bind_of_eq (Program.attempt_eq_ok_iff.mpr hrun)
  match outcome with
  | .ok () => exact kept_pure () middle (.inl hmiddle)
  | .error .running => exact keptFrom_running (OwnerInv.removals (.inl hmiddle))
  | .error (.failed primary) =>
      apply Kept.bind (keptFrom_abortAndCleanup (.inl hmiddle) hmiddle.ownerState fuel)
      intro cleanup
      refine (kept_watched (α := RuntimeOwner) ?_).andThen fun owner => kept_error _
      exact Watched.refl

/-- A launch that came back left an owner of the process it created. -/
theorem ownerInv_of_launched {platform : Platform} {fuel : Nat} {bundle : ValidatedBundle}
    {port : UInt16} {secret : Secret} {limits : LifecycleLimits} {channel : List MonitorMessage}
    {w : W} {outcome : Except Stop Unit} {machine : Machine W}
    (hlaunch : launchValidatedInner world platform fuel bundle port secret limits channel w =
      .owned outcome machine) (hreturned : outcome ≠ .error .running) :
    ∃ process, world.Created process ∧ OwnerInv process machine ∧
      (outcome = .ok () → machine.owner.process = some process) := by
  obtain ⟨session, process, started, hstarted, hrun⟩ := launchValidatedInner_owned hlaunch
  have hholding : Holding process ⟨RuntimeOwner.new port secret limits session process, channel,
      started, []⟩ := ⟨rfl, rfl, rfl, rfl, nofun, nofun⟩
  have hkept : KeptFrom process _ (superviseStartup world fuel) :=
    keptFrom_superviseStartup hholding fuel
  unfold KeptFrom Program.Ensures at hkept
  rw [hrun] at hkept
  refine ⟨process, hstarted.created, ?_, ?_⟩
  · cases outcome with
    | ok a => exact hkept
    | error reason => exact hkept.2 fun hreason => hreturned (by rw [hreason])
  · intro hok
    subst hok
    have hready : waitUntilReady world fuel _ = (.ok (), machine) :=
      waitUntilReady_of_supervised hrun
    have hstill : Holding process machine :=
      (startupClosed_holding.within_waitUntilReady fuel).moved hready process hholding
    exact hstill.owned

/-! ## Every run -/

theorem ownerInv_run {start stop : Machine W} {calls : List Answered}
    (hinv : OwnerInv process start)
    (hrun : Run (OwnerStep world) start calls stop) : OwnerInv process stop := by
  refine hrun.invariant (fun machine answered next hinv hstep => ?_) hinv
  obtain ⟨fuel, hcall⟩ := hstep
  have hkept : KeptFrom process machine (answered.call.run world fuel) :=
    kept_run fuel answered.call machine hinv
  unfold KeptFrom Program.Ensures at hkept
  rw [hcall] at hkept
  cases houtcome : answered.outcome with
  | ok report =>
      rw [houtcome] at hkept
      exact hkept
  | error error =>
      rw [houtcome] at hkept
      exact hkept.2 nofun

/-- A cleaned owner refuses every call and stays as it is. -/
theorem run_cleaned {machine : Machine W} (hcleaned : machine.owner.ownerState = .cleaned)
    (fuel : Nat) (call : OwnerCall) : (call.run world fuel machine).2 = machine := by
  cases call with
  | pollHealth =>
      have hrefused : pollHealth world fuel machine =
        (.error (.failed .ownerNotRunning), machine) := by
        rw [pollHealth, readOwner_bind, if_pos (by rw [hcleaned]; nofun)]
        rfl
      rw [OwnerCall.run, Program.bind_of_error hrefused]
  | shutdown =>
      have hrefused : shutdown world fuel machine =
          (.error (.failed .ownerAlreadyCleaned), machine) := by
        rw [shutdown, readOwner_bind, if_pos hcleaned]
        rfl
      rw [OwnerCall.run, Program.bind_of_error hrefused]
  | forceShutdown =>
      have hrefused : forceShutdown world fuel machine =
          (.error (.failed .ownerAlreadyCleaned), machine) := by
        rw [forceShutdown, readOwner_bind, if_pos hcleaned]
        rfl
      rw [OwnerCall.run, Program.bind_of_error hrefused]
  | retryPrivateCleanup =>
      have hrefused : retryPrivateCleanup world machine =
          (.error (.failed .ownerAlreadyCleaned), machine) := by
        rw [retryPrivateCleanup, readOwner_bind, if_pos hcleaned]
        rfl
      rw [OwnerCall.run, Program.bind_of_error hrefused]
  -- the destructor has nothing to do
  | drop =>
      have hskipped : dropOwner world fuel machine = (.ok (), machine) := by
        rw [dropOwner, readOwner_bind, if_pos hcleaned]
        rfl
      rw [OwnerCall.run, Program.bind_of_ok hskipped]
      rfl

/-- The next retry removes the session: it tries to, and a removal that succeeds cleans the
owner. -/
structure Retryable (world : World W) (machine : Machine W) (session : PrivateSession) : Prop where
  tried : ∃ later, (retryPrivateCleanup world machine).2.log =
    machine.log ++ .removing session.directory :: later
  cleaned : (world.cleanupSession (world.verifySecurity machine.world).2).1 = .ok () →
    (retryPrivateCleanup world machine).2.owner.ownerState = .cleaned

theorem Stopped.retryable {machine : Machine W} (hstopped : Stopped process machine)
    (hcleaned : machine.owner.ownerState ≠ .cleaned) :
    ∃ session, machine.owner.session = some session ∧ Retryable world machine session := by
  have hsome : machine.owner.session ≠ none := fun hnone => hcleaned (hstopped.session.mp hnone)
  obtain ⟨session, hsession⟩ := Option.ne_none_iff_exists'.mp hsome
  have hlive : ¬ (machine.owner.process.isSome || machine.owner.stdoutThread ||
      machine.owner.stderrThread) = true := by
    rw [hstopped.gone, hstopped.stdoutThread, hstopped.stderrThread]
    nofun
  obtain ⟨removed, last, hremove, -, hremoved⟩ := removeSession_some world none hsession
  refine ⟨session, hsession, ?_, fun hok => ?_⟩
  · rw [retryPrivateCleanup, readOwner_bind, if_neg hcleaned, if_neg hlive,
      Program.bind_of_ok hremove]
    cases removed with
    | false => cases last <;> exact ⟨[], rfl⟩
    | true => cases last <;> exact ⟨[.entered .cleaned], List.append_assoc _ _ _⟩
  · rw [retryPrivateCleanup, readOwner_bind, if_neg hcleaned, if_neg hlive,
      Program.bind_of_ok hremove, hremoved.mpr hok]
    cases last <;> rfl

/-- What holds of an owner of a process between its calls, and during the next one. -/
structure ReleasedInOrder (world : World W) (process : JobProcess) (machine : Machine W) :
    Prop where
  removals : RemovesAfterRelease process machine.log
  during : ∀ fuel (call : OwnerCall),
    RemovesAfterRelease process (call.run world fuel machine).2.log
  gone : machine.owner.process = none → machine.owner.stdoutThread = false ∧
    machine.owner.stderrThread = false ∧ machine.owner.runtime = none ∧
    machine.owner.upstreamSecret = none
  cleaned : machine.owner.ownerState = .cleaned → machine.owner.process = none ∧
    machine.owner.runtime = none ∧ machine.owner.session = none ∧
    machine.owner.upstreamSecret = none ∧ machine.owner.stdoutThread = false ∧
    machine.owner.stderrThread = false
  final : machine.owner.ownerState = .cleaned → ∀ fuel (call : OwnerCall),
    (call.run world fuel machine).2 = machine
  retryable : machine.owner.ownerState ≠ .cleaned → machine.owner.process = none →
    ∃ session, machine.owner.session = some session ∧ Retryable world machine session

/-- The session goes last: in every run of an owner it is removed only after the Job was
seen empty and the process released, and an owner without a process holds at most the session. -/
theorem owner_releases_in_order {platform : Platform} {fuel : Nat} {bundle : ValidatedBundle}
    {port : UInt16} {secret : Secret} {limits : LifecycleLimits} {channel : List MonitorMessage}
    {w : W} {outcome : Except Stop Unit} {machine stop : Machine W} {calls : List Answered}
    (hlaunch : launchValidatedInner world platform fuel bundle port secret limits channel w =
      .owned outcome machine) (hreturned : outcome ≠ .error .running)
    (hrun : Run (OwnerStep world) machine calls stop) :
    ∃ process, world.Created process ∧
      (outcome = .ok () → machine.owner.process = some process) ∧
      ReleasedInOrder world process stop := by
  obtain ⟨process, hcreated, hinv, howned⟩ := ownerInv_of_launched hlaunch hreturned
  have hstop := ownerInv_run hinv hrun
  refine ⟨process, hcreated, howned, hstop.removals, fun fuel call => ?_, fun hgone => ?_,
    fun hcleaned => ?_, fun hcleaned fuel call => run_cleaned hcleaned fuel call,
    fun hcleaned hgone => ?_⟩
  · have hkept : KeptFrom process stop (call.run world fuel) := kept_run fuel call stop hstop
    unfold KeptFrom Program.Ensures at hkept
    split at hkept
    next report next hcall =>
      rw [hcall]
      exact hkept.removals
    next reason next hcall =>
      rw [hcall]
      exact hkept.1
  · have hstopped := hstop.stopped hgone
    exact ⟨hstopped.stdoutThread, hstopped.stderrThread, hstopped.runtime, hstopped.upstreamSecret⟩
  · have hstopped : Stopped process stop := hstop.resolve_left fun hholding =>
      hholding.ownerState hcleaned
    exact ⟨hstopped.gone, hstopped.runtime, hstopped.session.mpr hcleaned, hstopped.upstreamSecret,
      hstopped.stdoutThread, hstopped.stderrThread⟩
  · exact (hstop.stopped hgone).retryable hcleaned

/-- A call that came back is a step. -/
theorem ownerStep_of_answer {machine : Machine W} {answered : Answered} (fuel : Nat)
    (hanswer : (answered.call.run world fuel machine).1 = answered.outcome.mapError Stop.failed) :
    OwnerStep world machine answered (answered.call.run world fuel machine).2 :=
  ⟨fuel, Prod.ext hanswer rfl⟩

/-- The fixture launch, a forced shutdown whose process does not exit, and a drop. -/
def fixtureForced : Except Stop (Option ShutdownReport) × Machine Bytes :=
  OwnerCall.forceShutdown.run fixtureWorld 4 fixtureRun.2

def fixtureDropped : Except Stop (Option ShutdownReport) × Machine Bytes :=
  OwnerCall.drop.run fixtureWorld 4 fixtureForced.2

theorem owner_releases_in_order_fixture : fixtureDropped.2.owner.ownerState = .cleaned ∧
    ∃ process, fixtureWorld.Created process ∧
      (fixtureRun.1 = .ok () → fixtureRun.2.owner.process = some process) ∧
      ReleasedInOrder fixtureWorld process fixtureDropped.2 := by
  have hanswers : fixtureRun.1 = .ok () ∧ fixtureForced.1 = .error (.failed .processDidNotExit) ∧
      fixtureDropped.1 = .ok none ∧ fixtureDropped.2.owner.ownerState = .cleaned := by
    rw [fixtureDropped, fixtureForced, fixtureRun, monitorStdout_fixture]
    decide +kernel
  obtain ⟨hok, hforced, hdropped, hcleaned⟩ := hanswers
  have hfirst : OwnerStep fixtureWorld fixtureRun.2 ⟨.forceShutdown, .error .processDidNotExit⟩
      fixtureForced.2 := ownerStep_of_answer 4 hforced
  have hsecond : OwnerStep fixtureWorld fixtureForced.2 ⟨.drop, .ok none⟩ fixtureDropped.2 :=
    ownerStep_of_answer 4 hdropped
  refine ⟨hcleaned, owner_releases_in_order fixtureRun_launched ?_ (.cons hfirst (.single hsecond))⟩
  intro hrunning
  rw [hok] at hrunning
  cases hrunning

end Rpackit.Lifecycle
