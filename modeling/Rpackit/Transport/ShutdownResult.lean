import Rpackit.Transport.TrackedTasks

/-! # What a shutdown reports

The failure of a listener stays in its join handle until `shutdown` awaits it. The
failure of a tracked task lives in a handle that any later call of `spawn` may prune,
and a pruned failure is reported by nobody.
-/

namespace Rpackit.Transport

namespace Runtime

/-- The error of a task, as its join handle would tell. -/
def failure (runtime : Runtime) (id : TaskId) : Option ProxyError :=
  (runtime.ended id).bind ProxyTasks.taskError

theorem failure_eq_none_iff {runtime : Runtime} {id : TaskId} :
    runtime.failure id = none ↔ runtime.ended id ≠ some .panicked := by
  rw [failure]
  cases runtime.ended id with
  | none => simp
  | some result => cases result <;> simp [ProxyTasks.taskError]

/-- All task failures look alike, so the first of them is any of them. -/
theorem findSome?_failure (runtime : Runtime) (ids : List TaskId) :
    ids.findSome? runtime.failure =
      if ∃ id ∈ ids, runtime.ended id = some .panicked then
        ProxyTasks.taskError .panicked
      else none := by
  induction ids with
  | nil => simp
  | cons id rest ih =>
      by_cases hpanicked : runtime.ended id = some .panicked
      · simp [failure, hpanicked, ProxyTasks.taskError]
      · rw [List.findSome?_cons, failure_eq_none_iff.mpr hpanicked, ih]
        simp [hpanicked]

end Runtime

namespace ProxyTasks

def listenerFailure : Listener → Option ProxyError
  | .ended result => listenerError result
  | _ => none

/-- The first failure of a listener, else the first failure of an accepted task. -/
def firstFailure (state : ProxyTasks) : Option ProxyError :=
  (state.listeners.findSome? listenerFailure).or
    ((List.range state.runtime.tasks.length).findSome? state.runtime.failure)

/-- No listener failed, and no accepted task ended in a panic. -/
structure NoFailure (state : ProxyTasks) : Prop where
  listeners : ∀ listener ∈ state.listeners, listenerFailure listener = none
  tasks : ∀ id, state.runtime.ended id ≠ some .panicked

/-- The tasks that ended in a panic and were not looked at by a `spawn` since. -/
def panicsAfter (pending : List TaskId) : WorkerEvent ⊕ OwnerEvent → List TaskId
  | .inl (.endTask id .panicked) => id :: pending
  | .inl (.retainNext id) => pending.filter (· ≠ id)
  | _ => pending

def unseenPanics (events : List (WorkerEvent ⊕ OwnerEvent)) : List TaskId :=
  events.foldl panicsAfter []

@[simp] theorem unseenPanics_nil : unseenPanics [] = [] := rfl

@[simp] theorem unseenPanics_append (events : List (WorkerEvent ⊕ OwnerEvent))
    (event : WorkerEvent ⊕ OwnerEvent) :
    unseenPanics (events ++ [event]) = panicsAfter (unseenPanics events) event := by
  simp [unseenPanics]

/-! ## Panics and pruned handles -/

/-- A panic goes unseen exactly as long as its handle is not pruned. -/
def PanicsUnseen (pending : List TaskId) (state : ProxyTasks) : Prop :=
  ∀ id, id ∈ pending ↔ state.runtime.ended id = some .panicked ∧ id ∉ state.pruned

theorem PanicsUnseen.of_same {pending : List TaskId} {state next : ProxyTasks}
    (hpending : PanicsUnseen pending state)
    (hended : ∀ id, next.runtime.ended id = state.runtime.ended id)
    (hpruned : next.pruned = state.pruned) : PanicsUnseen pending next := by
  intro id
  rw [hended, hpruned]
  exact hpending id

theorem WorkerStep.panicsUnseen {state next : ProxyTasks} {event : WorkerEvent}
    {pending : List TaskId} (hstep : WorkerStep state event next)
    (haccounted : state.Accounted) (hpending : PanicsUnseen pending state) :
    PanicsUnseen (panicsAfter pending (.inl event)) next := by
  cases hstep with
  | listenerStops _ _ => exact hpending.of_same (fun _ => rfl) rfl
  | acceptFails _ => exact hpending.of_same (fun _ => rfl) rfl
  | listenerAborts _ _ => exact hpending.of_same (Runtime.ended_abortEach _ _) rfl
  | listenerTerminates _ => exact hpending.of_same (fun _ => rfl) rfl
  | lockForSpawn _ _ => exact hpending.of_same (fun _ => rfl) rfl
  | @retainNext spawner id unseen hspawning =>
      intro other
      simp only [panicsAfter, List.mem_filter, decide_eq_true_eq, hpending other]
      by_cases hfinished : state.runtime.isFinished id = true
      · simp [hfinished, and_assoc, and_comm]
      · -- A task that has not ended has not panicked either.
        have hnone : state.runtime.ended id = none := by
          simpa [Runtime.isFinished] using hfinished
        simp only [hfinished, Bool.false_eq_true, if_false]
        constructor
        · exact And.left
        · intro hother
          refine ⟨hother, fun h => ?_⟩
          rw [h, hnone] at hother
          cases hother.1
  | finishSpawn _ =>
      refine hpending.of_same (fun id => ?_) rfl
      by_cases hclosed : state.tracked.closed = true
      · simp [TrackedTaskState.spawnRetained, hclosed]
      · simp only [TrackedTaskState.spawnRetained, hclosed, Bool.false_eq_true, if_false]
        exact Runtime.ended_spawn _ id
  | @endTask id result hfree _ =>
      -- only the handle of a finished task is pruned, and this one is still running
      have hunpruned : id ∉ state.pruned := by
        intro hmem
        have hfinished := haccounted.finished id hmem
        have hrunning : state.runtime.IsRunning id := hfree.1
        simp [Runtime.isFinished, hrunning.ended_eq] at hfinished
      intro other
      by_cases hother : other = id
      · subst hother
        have hfresh : other ∉ pending := by
          intro hmem
          have hrunning : state.runtime.IsRunning other := hfree.1
          rw [hpending, hrunning.ended_eq] at hmem
          cases hmem.1
        rw [Runtime.ended_finish_self hfree.1]
        cases result <;> simp [panicsAfter, hunpruned, hfresh]
      · rw [Runtime.ended_finish_of_ne _ (Ne.symm hother)]
        rw [← hpending other]
        cases result <;> simp [panicsAfter, hother]

theorem OwnerStep.panicsUnseen {state next : ProxyTasks} {event : OwnerEvent}
    {pending : List TaskId} (hstep : OwnerStep state event next)
    (hpending : PanicsUnseen pending state) :
    PanicsUnseen (panicsAfter pending (.inr event)) next := by
  cases hstep with
  | abortAll _ _ => exact hpending.of_same (Runtime.ended_abortEach _ _) rfl
  | abortTaken _ => exact hpending.of_same (Runtime.ended_abortEach _ _) rfl
  | abortDropped _ => exact hpending.of_same (Runtime.ended_abortEach _ _) rfl
  | _ => exact hpending.of_same (fun _ => rfl) rfl

/-! ## The first error -/

/-- `shutdown` has kept the first error of the listeners and of the tasks it has
awaited; it has yet to await `tasks`. -/
structure Collected (state : ProxyTasks) (tasks : List TaskId)
    (firstError : Option ProxyError) : Prop where
  listeners : state.ListenersEnded state.listeners.length
  awaited : ∃ awaited, state.taken = awaited ++ tasks ∧
    (∀ id ∈ awaited, state.runtime.isFinished id = true) ∧
    firstError = (state.listeners.findSome? listenerFailure).or
      (awaited.findSome? state.runtime.failure)

/-- The error kept at each place of `shutdown`. -/
def ErrorInv (state : ProxyTasks) : Prop :=
  match state.owner with
  | .serving | .signalled => state.taken = []
  | .awaitingListeners awaited firstError =>
      state.taken = [] ∧ state.ListenersEnded awaited ∧
      firstError = (state.listeners.take awaited).findSome? listenerFailure
  | .abortingTasks tasks firstError | .awaitingTasks tasks firstError =>
      state.Collected tasks firstError
  | .dropping (some result) | .abortingDropped _ (some result) | .gone (some result) =>
      ∃ firstError, state.Collected [] firstError ∧ result = firstError.elim (.ok ()) .error
  | .dropping none | .abortingDropped _ none | .gone none => True

/-- Listeners that have ended have the same results ever after. -/
theorem WorkerFrame.take_listeners {before after : ProxyTasks} (hframe : WorkerFrame before after)
    {count : Nat} (hended : before.ListenersEnded count) :
    after.listeners.take count = before.listeners.take count := by
  apply List.ext_getElem?
  intro index
  rw [List.getElem?_take, List.getElem?_take]
  by_cases hindex : index < count
  · obtain ⟨result, hresult⟩ := hended index hindex
    rw [if_pos hindex, if_pos hindex, hresult, hframe.ended hresult]
  · rw [if_neg hindex, if_neg hindex]

theorem findSome?_failure_of_advances {before after : Runtime}
    (hadvances : before.Advances after) {ids : List TaskId}
    (hfinished : ∀ id ∈ ids, before.isFinished id = true) :
    ids.findSome? after.failure = ids.findSome? before.failure := by
  have hsame : ∀ id ∈ ids, after.failure id = before.failure id := by
    intro id hid
    obtain ⟨result, hresult⟩ := Runtime.isFinished_iff.mp (hfinished id hid)
    rw [Runtime.failure, Runtime.failure, hresult, hadvances.ended hresult]
  induction ids with
  | nil => rfl
  | cons id rest ih =>
      rw [List.findSome?_cons, List.findSome?_cons, hsame id List.mem_cons_self,
        ih (fun other h => hfinished other (List.mem_cons_of_mem _ h))
          (fun other h => hsame other (List.mem_cons_of_mem _ h))]

/-- An error that was kept stays the first one while the runtime moves on. -/
theorem Collected.of_advances {state next : ProxyTasks} {tasks : List TaskId}
    {firstError : Option ProxyError} (hcollected : state.Collected tasks firstError)
    (htaken : next.taken = state.taken) (hlisteners : next.listeners = state.listeners)
    (hruntime : state.runtime.Advances next.runtime) : next.Collected tasks firstError := by
  obtain ⟨hended, awaited, hawaited, hfinished, herror⟩ := hcollected
  refine ⟨?_, awaited, htaken.trans hawaited, fun id hid => hruntime.finished (hfinished id hid),
    ?_⟩
  · intro index hindex
    rw [hlisteners] at hindex ⊢
    exact hended index hindex
  · rw [herror, hlisteners, findSome?_failure_of_advances hruntime hfinished]

theorem WorkerFrame.collected {before after : ProxyTasks} (hframe : WorkerFrame before after)
    {tasks : List TaskId} {firstError : Option ProxyError}
    (hcollected : before.Collected tasks firstError) : after.Collected tasks firstError := by
  have hlisteners : after.listeners = before.listeners := by
    have htake := hframe.take_listeners hcollected.listeners
    rwa [List.take_length, ← hframe.listeners, List.take_length] at htake
  exact hcollected.of_advances hframe.taken hlisteners hframe.runtime

theorem WorkerFrame.errorInv {before after : ProxyTasks} (hframe : WorkerFrame before after)
    (hinv : before.ErrorInv) : after.ErrorInv := by
  rw [ErrorInv] at hinv ⊢
  rw [hframe.owner]
  split at hinv
  case h_1 | h_2 => exact hframe.taken.trans hinv
  -- the awaited listeners have ended, so no step can change what they returned
  case h_3 =>
    obtain ⟨htaken, hended, herror⟩ := hinv
    refine ⟨hframe.taken.trans htaken, hframe.listenersEnded hended, ?_⟩
    rw [herror, hframe.take_listeners hended]
  case h_4 | h_5 => exact hframe.collected hinv
  -- the owner has left `shutdown` with the result of the error it had collected
  case h_6 | h_7 | h_8 =>
    obtain ⟨firstError, hcollected, hresult⟩ := hinv
    exact ⟨firstError, hframe.collected hcollected, hresult⟩
  case h_9 | h_10 | h_11 => trivial

theorem OwnerStep.errorInv {state next : ProxyTasks} {event : OwnerEvent}
    (hstep : OwnerStep state event next) (howned : state.OwnerInv) (hinv : state.ErrorInv) :
    next.ErrorInv := by
  cases hstep with
  | sendShutdown howner =>
      rw [ErrorInv, howner] at hinv
      exact hinv
  | abortAll howner _ =>
      rw [ErrorInv, howner] at hinv
      exact ⟨hinv, fun index hindex => absurd hindex (Nat.not_lt_zero _), rfl⟩
  | @awaitListener awaited firstError result howner hended =>
      rw [ErrorInv, howner] at hinv
      obtain ⟨htaken, hbefore, herror⟩ := hinv
      refine ⟨htaken, fun index hindex => ?_, ?_⟩
      · obtain hlt | rfl := Nat.lt_succ_iff_lt_or_eq.mp hindex
        · exact hbefore index hlt
        · exact ⟨result, hended⟩
      -- the listeners awaited so far, and then this one
      · rw [List.take_add_one, hended, List.findSome?_append, ← herror]
        simp [listenerFailure]
  | closeAndTake howner _ =>
      rw [ErrorInv, howner] at hinv
      obtain ⟨htaken, hended, herror⟩ := hinv
      refine ⟨hended, [], ?_, fun _ h => absurd h List.not_mem_nil, ?_⟩
      · simp [ProxyTasks.closeAndTake, TrackedTaskState.closeAndTake, htaken]
      · rw [herror, List.take_length, List.findSome?_nil, Option.or_none]
        rfl
  | abortTaken howner =>
      rw [ErrorInv, howner] at hinv
      exact hinv.of_advances rfl rfl (.abortEach _ _)
  | @awaitTask id tasks firstError result howner hended =>
      rw [ErrorInv, howner] at hinv
      obtain ⟨hlisteners, awaited, htaken, hfinished, herror⟩ := hinv
      refine ⟨hlisteners, awaited ++ [id], by simp [htaken], fun other hother => ?_, ?_⟩
      · obtain hbefore | hlast := List.mem_append.mp hother
        · exact hfinished other hbefore
        · obtain rfl := List.mem_singleton.mp hlast
          exact Runtime.isFinished_iff.mpr ⟨result, hended⟩
      -- a task has no result but the one it ended with
      · have hfailure : state.runtime.failure id = taskError result := by
          rw [Runtime.failure, hended, Option.bind_some]
        rw [herror, List.findSome?_append, Option.or_assoc]
        simp [hfailure]
  | @leave firstError howner =>
      rw [ErrorInv, howner] at hinv
      exact ⟨firstError, hinv.of_advances rfl rfl (.refl _), rfl⟩
  | drop _ => trivial
  | abandonListeners _ => trivial
  | abandonTasks _ => trivial
  | @takeDropped result howner _ =>
      cases result with
      | none => trivial
      | some result =>
          rw [ErrorInv, howner] at hinv
          rw [OwnerInv, howner] at howned
          obtain ⟨firstError, hcollected, hresult⟩ := hinv
          -- nothing is left to take: `shutdown` has closed the vector and emptied it
          have hhandles : state.tracked.handles = [] := (List.append_eq_nil_iff.mp howned.held).1
          refine ⟨firstError, hcollected.of_advances ?_ rfl (.refl _), hresult⟩
          simp [ProxyTasks.closeAndTake, TrackedTaskState.closeAndTake, hhandles]
  | @abortDropped tasks result howner =>
      cases result with
      | none => trivial
      | some result =>
          rw [ErrorInv, howner] at hinv
          obtain ⟨firstError, hcollected, hresult⟩ := hinv
          exact ⟨firstError, hcollected.of_advances rfl rfl (.abortEach _ _), hresult⟩

/-! ## Every run -/

/-- What holds after every run of these events. -/
structure Reporting (events : List (WorkerEvent ⊕ OwnerEvent)) (state : ProxyTasks) : Prop where
  inv : state.Inv
  panics : PanicsUnseen (unseenPanics events) state
  error : state.ErrorInv

theorem Reporting.step {events : List (WorkerEvent ⊕ OwnerEvent)} {state next : ProxyTasks}
    {event : WorkerEvent ⊕ OwnerEvent} (hreporting : Reporting events state)
    (hstep : Step state event next) : Reporting (events ++ [event]) next := by
  refine ⟨hreporting.inv.step hstep, ?_, ?_⟩
  · rw [unseenPanics_append]
    cases hstep with
    | worker hstep => exact hstep.panicsUnseen hreporting.inv.accounted hreporting.panics
    | owner hstep => exact hstep.panicsUnseen hreporting.panics
  · cases hstep with
    | worker hstep => exact hstep.frame.errorInv hreporting.error
    | owner hstep => exact hstep.errorInv hreporting.inv.owner hreporting.error

theorem start_reporting : Reporting [] start := by
  refine ⟨start_inv, fun id => ?_, rfl⟩
  simp [start, Runtime.ended]

theorem run_reporting {events : List (WorkerEvent ⊕ OwnerEvent)} {state : ProxyTasks}
    (hrun : Run Step start events state) : Reporting events state :=
  hrun.history (fun _ _ _ _ hreporting hstep => Reporting.step hreporting hstep) start_reporting

theorem lt_of_panicked {runtime : Runtime} {id : TaskId}
    (hpanicked : runtime.ended id = some .panicked) : id < runtime.tasks.length := by
  obtain ⟨task, htask, -⟩ := Option.bind_eq_some_iff.mp hpanicked
  exact (List.getElem?_eq_some_iff.mp htask).1

/-- When every handle was pruned or taken, the unseen panics are those among the taken. -/
theorem Reporting.unseenPanics_ne_nil_iff {events : List (WorkerEvent ⊕ OwnerEvent)}
    {state : ProxyTasks} (hreporting : Reporting events state) (hheld : state.held = []) :
    unseenPanics events ≠ [] ↔ ∃ id ∈ state.taken, state.runtime.ended id = some .panicked := by
  have haccounted := hreporting.inv.accounted
  constructor
  · intro hunseen
    obtain ⟨id, hid⟩ := List.exists_mem_of_ne_nil _ hunseen
    obtain ⟨hpanicked, hunpruned⟩ := (hreporting.panics id).mp hid
    obtain hpruned | htaken | hmem := haccounted.mem (lt_of_panicked hpanicked)
    · exact absurd hpruned hunpruned
    · exact ⟨id, htaken, hpanicked⟩
    · rw [hheld] at hmem
      cases hmem
  · intro htaken
    obtain ⟨id, hid, hpanicked⟩ := htaken
    have hunpruned : id ∉ state.pruned := by
      -- A handle is in one place only.
      have hnodup := haccounted.everywhere.nodup_iff.mpr List.nodup_range
      rw [List.append_assoc] at hnodup
      intro hpruned
      exact (List.nodup_append.mp hnodup).2.2 id hpruned id (List.mem_append_left _ hid) rfl
    exact List.ne_nil_of_mem ((hreporting.panics id).mpr ⟨hpanicked, hunpruned⟩)

/-- A listener failed, no task panicked, or some task panicked after the last `spawn`
that looked at its handle. -/
def FailureKept (events : List (WorkerEvent ⊕ OwnerEvent)) (state : ProxyTasks) : Prop :=
  (∃ listener ∈ state.listeners, listenerFailure listener ≠ none) ∨
  (∀ id, state.runtime.ended id ≠ some .panicked) ∨
  unseenPanics events ≠ []

theorem noFailure_iff {state : ProxyTasks} :
    state.NoFailure ↔ state.listeners.findSome? listenerFailure = none ∧
      ∀ id, state.runtime.ended id ≠ some .panicked := by
  rw [List.findSome?_eq_none_iff]
  exact ⟨fun h => ⟨h.listeners, h.tasks⟩, fun h => ⟨h.1, h.2⟩⟩

/-- When `shutdown` returns, an `Ok` means that nothing failed, and the result is the
first failure there was, exactly when a listener failed, no task panicked, or some task
panicked after the last `spawn` that looked at its handle. -/
theorem shutdown_reports_failures_iff {events : List (WorkerEvent ⊕ OwnerEvent)}
    {state : ProxyTasks} {result : Except ProxyError Unit}
    (hrun : Run Step start events state) (hreturned : state.owner = .gone (some result)) :
    ((result = .ok () → state.NoFailure) ↔ FailureKept events state) ∧
    (result = state.firstFailure.elim (.ok ()) .error ↔ FailureKept events state) := by
  have hreporting := run_reporting hrun
  have howned := hreporting.inv.owner
  have herror := hreporting.error
  rw [OwnerInv, hreturned] at howned
  rw [ErrorInv, hreturned] at herror
  obtain ⟨firstError, ⟨-, awaited, htaken, -, hfirst⟩, hresult⟩ := herror
  rw [List.append_nil] at htaken
  rw [← htaken, Runtime.findSome?_failure] at hfirst
  -- `firstFailure` looks at the tasks that were ever started
  have hany : (∃ id ∈ List.range state.runtime.tasks.length,
      state.runtime.ended id = some .panicked) ↔
      ¬ ∀ id, state.runtime.ended id ≠ some .panicked := by
    constructor
    · intro hpanicked hnone
      obtain ⟨id, -, hid⟩ := hpanicked
      exact hnone id hid
    · intro hsome
      simp only [not_forall, not_not] at hsome
      obtain ⟨id, hid⟩ := hsome
      exact ⟨id, List.mem_range.mpr (lt_of_panicked hid), hid⟩
  rw [FailureKept, noFailure_iff, firstFailure, Runtime.findSome?_failure,
    hreporting.unseenPanics_ne_nil_iff howned.held, hresult, hfirst]
  cases hlisteners : state.listeners.findSome? listenerFailure with
  | some error =>
      obtain ⟨listener, hmem, hfailure⟩ := List.exists_of_findSome?_eq_some hlisteners
      have hfailed : ∃ listener ∈ state.listeners, listenerFailure listener ≠ none :=
        ⟨listener, hmem, by simp [hfailure]⟩
      simp [hfailed]
  | none =>
      have hgood : ¬ ∃ listener ∈ state.listeners, listenerFailure listener ≠ none := by
        rw [List.findSome?_eq_none_iff] at hlisteners
        simpa using hlisteners
      -- a panic that was taken is reported; one that was pruned is not
      by_cases hkept : ∃ id ∈ state.taken, state.runtime.ended id = some .panicked
      · have hpanicked : ¬ ∀ id, state.runtime.ended id ≠ some .panicked := by
          obtain ⟨id, -, hid⟩ := hkept
          exact fun hnone => hnone id hid
        rw [if_pos hkept, if_pos (hany.mpr hpanicked)]
        simp [hkept, taskError]
      · by_cases hnone : ∀ id, state.runtime.ended id ≠ some .panicked
        · rw [if_neg hkept, if_neg (fun h => hany.mp h hnone)]
          simp [hnone]
        · rw [if_neg hkept, if_pos (hany.mpr hnone)]
          simp [hgood, hnone, hkept, taskError]

/-- A task panics, and no `spawn` follows before the handles are taken. -/
def keptPanic : List (WorkerEvent ⊕ OwnerEvent) :=
  [.inl (.lockForSpawn (.listener 0)), .inl (.finishSpawn true), .inl (.endTask 0 .panicked),
    .inr .sendShutdown, .inr .abortAll, .inl (.listenerStops 0), .inl (.listenerStops 1),
    .inr .awaitListener, .inr .awaitListener, .inr .closeAndTake, .inr .abortTaken,
    .inr .awaitTask, .inr .leave, .inr .closeAndTake, .inr .abortTaken]

theorem shutdown_reports_failures_iff_keptPanic :
    ∃ state, Run Step start keptPanic state ∧
      state.owner =
        .gone (some (.error (.task (.other "tracked proxy task terminated")))) ∧
      .error (.task (.other "tracked proxy task terminated")) =
        state.firstFailure.elim (.ok ()) Except.error := by
  have hreached : ∃ state, Run Step start keptPanic state ∧
      state.owner =
        .gone (some (.error (.task (.other "tracked proxy task terminated")))) :=
    ⟨_,
      .cons (.worker (.lockForSpawn ⟨rfl, nofun⟩ rfl)) <|
      .cons (.worker (.finishSpawn rfl)) <|
      .cons (.worker (.endTask ⟨⟨_, rfl, rfl⟩, nofun⟩ nofun)) <|
      .cons (.owner (.sendShutdown rfl)) <|
      .cons (.owner (.abortAll rfl rfl)) <|
      .cons (.worker (.listenerStops ⟨rfl, nofun⟩ rfl)) <|
      .cons (.worker (.listenerStops ⟨rfl, nofun⟩ rfl)) <|
      .cons (.owner (.awaitListener rfl rfl)) <|
      .cons (.owner (.awaitListener rfl rfl)) <|
      .cons (.owner (.closeAndTake rfl rfl)) <|
      .cons (.owner (.abortTaken rfl)) <|
      .cons (.owner (.awaitTask rfl rfl)) <|
      .cons (.owner (.leave rfl)) <|
      .cons (.owner (.takeDropped rfl rfl)) <|
      .cons (.owner (.abortDropped rfl)) (.nil _),
      rfl⟩
  obtain ⟨state, hrun, hreturned⟩ := hreached
  have hkept : FailureKept keptPanic state := .inr (.inr (by decide))
  exact ⟨state, hrun, hreturned, (shutdown_reports_failures_iff hrun hreturned).2.mpr hkept⟩

/-- A task panics, and the next connection prunes its handle. -/
def prunedPanic : List (WorkerEvent ⊕ OwnerEvent) :=
  [.inl (.lockForSpawn (.listener 0)), .inl (.finishSpawn true), .inl (.endTask 0 .panicked),
    .inl (.lockForSpawn (.listener 1)), .inl (.retainNext 0), .inl (.finishSpawn true),
    .inr .sendShutdown, .inr .abortAll, .inl (.listenerStops 0), .inl (.listenerStops 1),
    .inr .awaitListener, .inr .awaitListener, .inr .closeAndTake, .inr .abortTaken,
    .inl (.endTask 1 .cancelled), .inr .awaitTask, .inr .leave, .inr .closeAndTake,
    .inr .abortTaken]

/-- `shutdown` returns `Ok` although a task panicked. -/
theorem shutdown_loses_pruned_panic :
    ∃ state, Run Step start prunedPanic state ∧
      (state.owner = .gone (some (.ok ())) ∧ state.runtime.ended 0 = some .panicked) ∧
      ¬ state.NoFailure := by
  have hreached : ∃ state, Run Step start prunedPanic state ∧
      (state.owner = .gone (some (.ok ())) ∧ state.runtime.ended 0 = some .panicked) :=
    ⟨_,
      .cons (.worker (.lockForSpawn ⟨rfl, nofun⟩ rfl)) <|
      .cons (.worker (.finishSpawn rfl)) <|
      .cons (.worker (.endTask ⟨⟨_, rfl, rfl⟩, nofun⟩ nofun)) <|
      .cons (.worker (.lockForSpawn ⟨rfl, nofun⟩ rfl)) <|
      .cons (.worker (.retainNext rfl)) <|
      .cons (.worker (.finishSpawn rfl)) <|
      .cons (.owner (.sendShutdown rfl)) <|
      .cons (.owner (.abortAll rfl rfl)) <|
      .cons (.worker (.listenerStops ⟨rfl, nofun⟩ rfl)) <|
      .cons (.worker (.listenerStops ⟨rfl, nofun⟩ rfl)) <|
      .cons (.owner (.awaitListener rfl rfl)) <|
      .cons (.owner (.awaitListener rfl rfl)) <|
      .cons (.owner (.closeAndTake rfl rfl)) <|
      .cons (.owner (.abortTaken rfl)) <|
      .cons (.worker (.endTask ⟨⟨_, rfl, rfl⟩, nofun⟩ (fun _ => rfl))) <|
      .cons (.owner (.awaitTask rfl rfl)) <|
      .cons (.owner (.leave rfl)) <|
      .cons (.owner (.takeDropped rfl rfl)) <|
      .cons (.owner (.abortDropped rfl)) (.nil _),
      rfl, rfl⟩
  obtain ⟨state, hrun, hreturned⟩ := hreached
  exact ⟨state, hrun, hreturned, fun hnone => hnone.tasks 0 hreturned.2⟩

end ProxyTasks

end Rpackit.Transport
