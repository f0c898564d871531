import Mathlib.Data.List.Perm.Basic
import Rpackit.Library.Runs

/-! # The tracked tasks and the end of a proxy

The listeners and the connection tasks spawn tasks while the owner of the running
proxy shuts it down. The join handles of the spawned tasks sit behind a mutex, and
the runtime keeps one entry for every future it was ever given. The parties take
their steps in any order; only the mutex keeps the critical sections apart.
-/

namespace Rpackit.Transport

/-- The place of a spawned future in the runtime, in the order of spawning. -/
abbrev TaskId := Nat

/-- What a join handle of a tracked task yields once its task has ended. -/
inductive TaskEnd where
  | completed
  | cancelled
  | panicked
  deriving DecidableEq, Repr

/-- A future the runtime was given. -/
structure Task where
  abortRequested : Bool
  ended : Option TaskEnd
  deriving DecidableEq, Repr

namespace Task

def isFinished (task : Task) : Bool := task.ended.isSome

/-- The task has ended or has been asked to. -/
def isStopping (task : Task) : Bool := task.isFinished || task.abortRequested

def abort (task : Task) : Task := { task with abortRequested := true }

def finish (result : TaskEnd) (task : Task) : Task := { task with ended := some result }

end Task

/-- The runtime: one entry for each future it was given. -/
structure Runtime where
  tasks : List Task
  deriving DecidableEq, Repr

namespace Runtime

def spawn (runtime : Runtime) : TaskId × Runtime :=
  (runtime.tasks.length, ⟨runtime.tasks ++ [⟨false, none⟩]⟩)

def abort (runtime : Runtime) (id : TaskId) : Runtime :=
  ⟨runtime.tasks.modify id Task.abort⟩

def abortEach (runtime : Runtime) (ids : List TaskId) : Runtime := ids.foldl abort runtime

def finish (runtime : Runtime) (id : TaskId) (result : TaskEnd) : Runtime :=
  ⟨runtime.tasks.modify id (Task.finish result)⟩

def ended (runtime : Runtime) (id : TaskId) : Option TaskEnd :=
  runtime.tasks[id]?.bind Task.ended

def isFinished (runtime : Runtime) (id : TaskId) : Bool := (runtime.ended id).isSome

def isStopping (runtime : Runtime) (id : TaskId) : Bool :=
  runtime.tasks[id]?.any Task.isStopping

/-- The future was given to the runtime and has not ended. -/
def IsRunning (runtime : Runtime) (id : TaskId) : Prop :=
  ∃ task, runtime.tasks[id]? = some task ∧ task.ended = none

@[simp] theorem ended_abort (runtime : Runtime) (first id : TaskId) :
    (runtime.abort first).ended id = runtime.ended id := by
  simp only [ended, abort, List.getElem?_modify]
  cases runtime.tasks[id]? with
  | none => rfl
  | some task => by_cases hid : first = id <;> simp [hid, Task.abort]

@[simp] theorem ended_abortEach (runtime : Runtime) (ids : List TaskId) (id : TaskId) :
    (runtime.abortEach ids).ended id = runtime.ended id := by
  induction ids generalizing runtime with
  | nil => rfl
  | cons first rest ih => exact (ih _).trans (ended_abort _ _ _)

@[simp] theorem isFinished_abortEach (runtime : Runtime) (ids : List TaskId) (id : TaskId) :
    (runtime.abortEach ids).isFinished id = runtime.isFinished id := by
  rw [isFinished, ended_abortEach, isFinished]

@[simp] theorem length_abortEach (runtime : Runtime) (ids : List TaskId) :
    (runtime.abortEach ids).tasks.length = runtime.tasks.length := by
  induction ids generalizing runtime with
  | nil => rfl
  | cons first rest ih => exact (ih _).trans (List.length_modify _ _ _)

/-- A new future has not ended, and neither has one that was never given. -/
@[simp] theorem ended_spawn (runtime : Runtime) (id : TaskId) :
    runtime.spawn.2.ended id = runtime.ended id := by
  simp only [spawn, ended]
  obtain hlt | rfl | hgt := Nat.lt_trichotomy id runtime.tasks.length
  · rw [List.getElem?_append_left hlt]
  · simp
  · rw [List.getElem?_eq_none_iff.mpr (by simp; omega),
      List.getElem?_eq_none_iff.mpr (Nat.le_of_lt hgt)]

theorem ended_finish_self {runtime : Runtime} {id : TaskId} (hrunning : runtime.IsRunning id)
    (result : TaskEnd) : (runtime.finish id result).ended id = some result := by
  obtain ⟨task, htask, -⟩ := hrunning
  simp [finish, ended, htask, Task.finish]

theorem ended_finish_of_ne (runtime : Runtime) {first id : TaskId} (hne : first ≠ id)
    (result : TaskEnd) : (runtime.finish first result).ended id = runtime.ended id := by
  simp [finish, ended, hne]

theorem IsRunning.ended_eq {runtime : Runtime} {id : TaskId} (hrunning : runtime.IsRunning id) :
    runtime.ended id = none := by
  obtain ⟨task, htask, hended⟩ := hrunning
  simp [ended, htask, hended]

theorem isFinished_iff {runtime : Runtime} {id : TaskId} :
    runtime.isFinished id = true ↔ ∃ result, runtime.ended id = some result :=
  Option.isSome_iff_exists

theorem isRunning_iff {runtime : Runtime} {id : TaskId} :
    runtime.IsRunning id ↔ id < runtime.tasks.length ∧ runtime.ended id = none := by
  constructor
  · intro hrunning
    have hended := hrunning.ended_eq
    obtain ⟨task, htask, -⟩ := hrunning
    exact ⟨(List.getElem?_eq_some_iff.mp htask).1, hended⟩
  · rintro ⟨hlt, hended⟩
    refine ⟨runtime.tasks[id], List.getElem?_eq_getElem hlt, ?_⟩
    simpa [ended, List.getElem?_eq_getElem hlt] using hended

theorem isStopping_of_isFinished {runtime : Runtime} {id : TaskId}
    (hfinished : runtime.isFinished id = true) : runtime.isStopping id = true := by
  rw [isFinished, ended] at hfinished
  rw [isStopping]
  cases htask : runtime.tasks[id]? with
  | none => simp [htask] at hfinished
  | some task =>
      have hended : task.isFinished = true := by simpa [htask, Task.isFinished] using hfinished
      simp [Task.isStopping, hended]

/-- What time does to a runtime: futures are added, ended tasks stay ended, and an
abort is not taken back. -/
structure Advances (before after : Runtime) : Prop where
  length : before.tasks.length ≤ after.tasks.length
  ended : ∀ {id : TaskId} {result : TaskEnd},
    before.ended id = some result → after.ended id = some result
  stopping : ∀ {id : TaskId}, before.isStopping id = true → after.isStopping id = true

namespace Advances

theorem refl (runtime : Runtime) : Advances runtime runtime := ⟨Nat.le_refl _, id, id⟩

theorem trans {first second third : Runtime} (hfirst : Advances first second)
    (hsecond : Advances second third) : Advances first third :=
  ⟨Nat.le_trans hfirst.length hsecond.length, hsecond.ended ∘ hfirst.ended,
    hsecond.stopping ∘ hfirst.stopping⟩

theorem finished {before after : Runtime} (hadvances : Advances before after) {id : TaskId}
    (hfinished : before.isFinished id = true) : after.isFinished id = true := by
  obtain ⟨result, hended⟩ := isFinished_iff.mp hfinished
  exact isFinished_iff.mpr ⟨result, hadvances.ended hended⟩

theorem modify (runtime : Runtime) (id : TaskId) {update : Task → Task}
    (hstopping : ∀ task : Task, task.isStopping = true → (update task).isStopping = true)
    (hended : ∀ task result, runtime.tasks[id]? = some task → task.ended = some result →
      (update task).ended = some result) :
    Advances runtime ⟨runtime.tasks.modify id update⟩ := by
  refine ⟨Nat.le_of_eq (List.length_modify _ _ _).symm, fun {other result} h => ?_,
    fun {other} h => ?_⟩
  · obtain ⟨task, htask, hresult⟩ := Option.bind_eq_some_iff.mp h
    by_cases hid : id = other
    · subst hid
      simp [Runtime.ended, htask, hended task result htask hresult]
    · simp [Runtime.ended, htask, hid, hresult]
  · obtain ⟨task, htask, hresult⟩ := (Option.any_eq_true _ _).mp h
    by_cases hid : id = other
    · simp [isStopping, htask, hid, hstopping task hresult]
    · simp [isStopping, htask, hid, hresult]

theorem abort (runtime : Runtime) (id : TaskId) : Advances runtime (runtime.abort id) :=
  modify runtime id (fun task _ => by simp [Task.isStopping, Task.abort])
    fun _ _ _ hresult => hresult

theorem abortEach (runtime : Runtime) (ids : List TaskId) :
    Advances runtime (runtime.abortEach ids) := by
  induction ids generalizing runtime with
  | nil => exact refl runtime
  | cons first rest ih => exact (abort runtime first).trans (ih _)

theorem finish {runtime : Runtime} {id : TaskId} (hrunning : runtime.IsRunning id)
    (result : TaskEnd) : Advances runtime (runtime.finish id result) := by
  obtain ⟨task, htask, hnone⟩ := hrunning
  refine modify runtime id (fun _ _ => rfl) fun other _ hother hended => ?_
  obtain rfl := Option.some.inj (htask.symm.trans hother)
  rw [hnone] at hended
  cases hended

theorem spawn (runtime : Runtime) : Advances runtime runtime.spawn.2 := by
  refine ⟨by simp [Runtime.spawn], fun h => (ended_spawn _ _).trans h, fun {id} h => ?_⟩
  obtain ⟨task, htask, hstopping⟩ := (Option.any_eq_true _ _).mp h
  have hlt : id < runtime.tasks.length := (List.getElem?_eq_some_iff.mp htask).1
  rw [isStopping, Runtime.spawn, List.getElem?_append_left hlt, htask]
  exact hstopping

end Advances

theorem isStopping_abort {runtime : Runtime} {id : TaskId} (hlt : id < runtime.tasks.length) :
    (runtime.abort id).isStopping id = true := by
  simp [isStopping, abort, List.getElem?_eq_getElem hlt, Task.isStopping, Task.abort]

theorem isStopping_abortEach {runtime : Runtime} {ids : List TaskId} {id : TaskId}
    (hid : id ∈ ids) (hlt : id < runtime.tasks.length) :
    (runtime.abortEach ids).isStopping id = true := by
  induction ids generalizing runtime with
  | nil => cases hid
  | cons first rest ih =>
      obtain rfl | hrest := List.mem_cons.mp hid
      · exact (Advances.abortEach _ rest).stopping (isStopping_abort hlt)
      · exact ih hrest (by simpa [abort] using hlt)

end Runtime

/-- What the mutex guards. -/
structure TrackedTaskState where
  closed : Bool
  handles : List TaskId
  deriving DecidableEq, Repr

namespace TrackedTaskState

def abortAll (state : TrackedTaskState) (runtime : Runtime) : TrackedTaskState × Runtime :=
  ({ state with closed := true }, runtime.abortEach state.handles)

def closeAndTake (state : TrackedTaskState) : List TaskId × TrackedTaskState :=
  (state.handles, ⟨true, []⟩)

/-- One handle looked at by `retain`: it stays unless its task has finished. -/
def retain (state : TrackedTaskState) (runtime : Runtime) (id : TaskId) : TrackedTaskState :=
  if runtime.isFinished id then state else { state with handles := state.handles ++ [id] }

/-- The rest of `spawn` once `retain` is through. -/
def spawnRetained (state : TrackedTaskState) (runtime : Runtime) :
    Bool × TrackedTaskState × Runtime :=
  if state.closed then (false, state, runtime)
  else
    let (id, runtime) := runtime.spawn
    (true, { state with handles := state.handles ++ [id] }, runtime)

end TrackedTaskState

/-- The `io::Error` in a `ProxyError`: what the system returned, or a message. -/
inductive TaskError where
  | os (code : Int)
  | other (message : String)
  deriving DecidableEq, Repr

inductive ProxyError where
  | listener (error : TaskError)
  | task (error : TaskError)
  deriving DecidableEq, Repr

/-- What the join handle of a listener yields. -/
inductive ListenerEnd where
  | ok
  | error (error : TaskError)
  | terminated
  deriving DecidableEq, Repr

/-- A listener; `failing` has signalled its failure and is about to abort the tasks. -/
inductive Listener where
  | accepting
  | failing (error : TaskError)
  | ended (result : ListenerEnd)
  deriving DecidableEq, Repr

def Listener.isEnded : Listener → Bool
  | .ended _ => true
  | _ => false

/-- Who calls `spawn`. -/
inductive Spawner where
  | listener (index : Nat)
  | task (id : TaskId)
  deriving DecidableEq, Repr

/-- A call of `spawn` that holds the mutex, and the handles `retain` has yet to look at. -/
structure Spawning where
  spawner : Spawner
  unseen : List TaskId
  deriving DecidableEq, Repr

/-- Where the owner of the `RunningProxy` is. `dropping` runs the drop glue, at the
end of `shutdown` with its result and otherwise without one. -/
inductive Owner where
  | serving
  | signalled
  | awaitingListeners (awaited : Nat) (firstError : Option ProxyError)
  | abortingTasks (tasks : List TaskId) (firstError : Option ProxyError)
  | awaitingTasks (tasks : List TaskId) (firstError : Option ProxyError)
  | dropping (result : Option (Except ProxyError Unit))
  | abortingDropped (tasks : List TaskId) (result : Option (Except ProxyError Unit))
  | gone (result : Option (Except ProxyError Unit))
  deriving DecidableEq

/-- The proxy and its tasks. `pruned` and `taken` record where the handles went:
out of the vector by `retain`, and out of `closeAndTake`; no step reads them. -/
structure ProxyTasks where
  shutdownSent : Bool
  listeners : List Listener
  tracked : TrackedTaskState
  spawning : Option Spawning
  runtime : Runtime
  owner : Owner
  pruned : List TaskId
  taken : List TaskId
  deriving DecidableEq

namespace ProxyTasks

/-- Two listeners, no task, nothing closed. -/
def start : ProxyTasks :=
  ⟨false, [.accepting, .accepting], ⟨false, []⟩, none, ⟨[]⟩, .serving, [], []⟩

/-- The party has not ended: a task may spawn, and a listener accepts. -/
def Alive (state : ProxyTasks) : Spawner → Prop
  | .listener index => state.listeners[index]? = some .accepting
  | .task id => state.runtime.IsRunning id

/-- The party can take a step of its own: it is alive and not inside `spawn`. -/
def Free (state : ProxyTasks) (spawner : Spawner) : Prop :=
  state.Alive spawner ∧ ∀ spawning, state.spawning = some spawning → spawning.spawner ≠ spawner

def endListener (state : ProxyTasks) (index : Nat) (result : ListenerEnd) : ProxyTasks :=
  { state with listeners := state.listeners.set index (.ended result) }

def abortAll (state : ProxyTasks) : ProxyTasks :=
  let (tracked, runtime) := state.tracked.abortAll state.runtime
  { state with tracked := tracked, runtime := runtime }

def closeAndTake (state : ProxyTasks) : ProxyTasks :=
  let (tasks, tracked) := state.tracked.closeAndTake
  { state with tracked := tracked, taken := state.taken ++ tasks }

end ProxyTasks

/-- The steps of the listeners and of the tracked tasks. -/
inductive WorkerEvent where
  | listenerStops (index : Nat)
  | acceptFails (index : Nat) (error : TaskError)
  | listenerAborts (index : Nat)
  | listenerTerminates (index : Nat)
  | lockForSpawn (spawner : Spawner)
  | retainNext (id : TaskId)
  | finishSpawn (accepted : Bool)
  | endTask (id : TaskId) (result : TaskEnd)
  deriving DecidableEq, Repr

/-- The steps of the owner: `shutdown`, a drop, or a `shutdown` abandoned at an await. -/
inductive OwnerEvent where
  | sendShutdown
  | abortAll
  | awaitListener
  | closeAndTake
  | abortTaken
  | awaitTask
  | leave
  | drop
  | abandon
  deriving DecidableEq, Repr

namespace ProxyTasks

inductive WorkerStep : ProxyTasks → WorkerEvent → ProxyTasks → Prop
  /-- The listener sees the shutdown signal. -/
  | listenerStops {state : ProxyTasks} {index : Nat} (hfree : state.Free (.listener index))
      (hsent : state.shutdownSent = true) :
      WorkerStep state (.listenerStops index) (state.endListener index .ok)
  /-- `accept` fails: the shutdown signal goes out before the tasks are aborted. -/
  | acceptFails {state : ProxyTasks} {index : Nat} {error : TaskError}
      (hfree : state.Free (.listener index)) :
      WorkerStep state (.acceptFails index error)
        { state with
          shutdownSent := true
          listeners := state.listeners.set index (.failing error) }
  | listenerAborts {state : ProxyTasks} {index : Nat} {error : TaskError}
      (hfailing : state.listeners[index]? = some (.failing error))
      (hlock : state.spawning = none) :
      WorkerStep state (.listenerAborts index) (state.abortAll.endListener index (.error error))
  /-- A panic of the listener, or its abort by a drop. -/
  | listenerTerminates {state : ProxyTasks} {index : Nat}
      (hfree : state.Free (.listener index)) :
      WorkerStep state (.listenerTerminates index) (state.endListener index .terminated)
  | lockForSpawn {state : ProxyTasks} {spawner : Spawner} (hfree : state.Free spawner)
      (hlock : state.spawning = none) :
      WorkerStep state (.lockForSpawn spawner)
        { state with
          tracked := { state.tracked with handles := [] }
          spawning := some ⟨spawner, state.tracked.handles⟩ }
  | retainNext {state : ProxyTasks} {spawner : Spawner} {id : TaskId} {unseen : List TaskId}
      (hspawning : state.spawning = some ⟨spawner, id :: unseen⟩) :
      -- `is_finished` is read here: a task that ends later keeps its handle until the next spawn
      WorkerStep state (.retainNext id)
        { state with
          tracked := state.tracked.retain state.runtime id
          spawning := some ⟨spawner, unseen⟩
          pruned := if state.runtime.isFinished id then id :: state.pruned else state.pruned }
  | finishSpawn {state : ProxyTasks} {spawner : Spawner}
      (hspawning : state.spawning = some ⟨spawner, []⟩) :
      WorkerStep state (.finishSpawn (state.tracked.spawnRetained state.runtime).1)
        { state with
          tracked := (state.tracked.spawnRetained state.runtime).2.1
          runtime := (state.tracked.spawnRetained state.runtime).2.2
          spawning := none }
  /-- A task is cancelled only on request; it may complete or panic regardless. -/
  | endTask {state : ProxyTasks} {id : TaskId} {result : TaskEnd}
      (hfree : state.Free (.task id))
      (hcancelled : result = .cancelled → state.runtime.isStopping id = true) :
      WorkerStep state (.endTask id result)
        { state with runtime := state.runtime.finish id result }

def listenerError : ListenerEnd → Option ProxyError
  | .ok => none
  | .error error => some (.listener error)
  | .terminated => some (.listener (.other "proxy listener task terminated"))

def taskError : TaskEnd → Option ProxyError
  | .completed => none
  | .cancelled => none
  | .panicked => some (.task (.other "tracked proxy task terminated"))

inductive OwnerStep : ProxyTasks → OwnerEvent → ProxyTasks → Prop
  | sendShutdown {state : ProxyTasks} (howner : state.owner = .serving) :
      OwnerStep state .sendShutdown { state with shutdownSent := true, owner := .signalled }
  | abortAll {state : ProxyTasks} (howner : state.owner = .signalled)
      (hlock : state.spawning = none) :
      OwnerStep state .abortAll { state.abortAll with owner := .awaitingListeners 0 none }
  | awaitListener {state : ProxyTasks} {awaited : Nat} {firstError : Option ProxyError}
      {result : ListenerEnd} (howner : state.owner = .awaitingListeners awaited firstError)
      (hended : state.listeners[awaited]? = some (.ended result)) :
      OwnerStep state .awaitListener
        { state with
          owner := .awaitingListeners (awaited + 1) (firstError.or (listenerError result)) }
  | closeAndTake {state : ProxyTasks} {firstError : Option ProxyError}
      (howner : state.owner = .awaitingListeners state.listeners.length firstError)
      (hlock : state.spawning = none) :
      OwnerStep state .closeAndTake
        { state.closeAndTake with owner := .abortingTasks state.tracked.handles firstError }
  | abortTaken {state : ProxyTasks} {tasks : List TaskId} {firstError : Option ProxyError}
      (howner : state.owner = .abortingTasks tasks firstError) :
      OwnerStep state .abortTaken
        { state with
          runtime := state.runtime.abortEach tasks
          owner := .awaitingTasks tasks firstError }
  | awaitTask {state : ProxyTasks} {id : TaskId} {tasks : List TaskId}
      {firstError : Option ProxyError} {result : TaskEnd}
      (howner : state.owner = .awaitingTasks (id :: tasks) firstError)
      (hended : state.runtime.ended id = some result) :
      OwnerStep state .awaitTask
        { state with owner := .awaitingTasks tasks (firstError.or (taskError result)) }
  /-- The result is made, and `self` goes out of scope. -/
  | leave {state : ProxyTasks} {firstError : Option ProxyError}
      (howner : state.owner = .awaitingTasks [] firstError) :
      OwnerStep state .leave
        { state with owner := .dropping (some (firstError.elim (.ok ()) .error)) }
  /-- The proxy is dropped without `shutdown`. -/
  | drop {state : ProxyTasks} (howner : state.owner = .serving) :
      OwnerStep state .drop { state with shutdownSent := true, owner := .dropping none }
  /-- The future of `shutdown` is dropped while it awaits a listener. -/
  | abandonListeners {state : ProxyTasks} {awaited : Nat} {firstError : Option ProxyError}
      (howner : state.owner = .awaitingListeners awaited firstError) :
      OwnerStep state .abandon { state with owner := .dropping none }
  /-- The future of `shutdown` is dropped while it awaits a task. -/
  | abandonTasks {state : ProxyTasks} {tasks : List TaskId} {firstError : Option ProxyError}
      (howner : state.owner = .awaitingTasks tasks firstError) :
      OwnerStep state .abandon { state with owner := .dropping none }
  | takeDropped {state : ProxyTasks} {result : Option (Except ProxyError Unit)}
      (howner : state.owner = .dropping result) (hlock : state.spawning = none) :
      OwnerStep state .closeAndTake
        { state.closeAndTake with owner := .abortingDropped state.tracked.handles result }
  | abortDropped {state : ProxyTasks} {tasks : List TaskId}
      {result : Option (Except ProxyError Unit)}
      (howner : state.owner = .abortingDropped tasks result) :
      OwnerStep state .abortTaken
        { state with runtime := state.runtime.abortEach tasks, owner := .gone result }

/-- One step of any party. -/
inductive Step : ProxyTasks → WorkerEvent ⊕ OwnerEvent → ProxyTasks → Prop
  | worker {state next : ProxyTasks} {event : WorkerEvent}
      (hstep : WorkerStep state event next) : Step state (.inl event) next
  | owner {state next : ProxyTasks} {event : OwnerEvent}
      (hstep : OwnerStep state event next) : Step state (.inr event) next

/-! ## Accounting for the handles -/

/-- The handles still under the mutex. -/
def held (state : ProxyTasks) : List TaskId :=
  state.tracked.handles ++ state.spawning.elim [] Spawning.unseen

/-- Every accepted future has its handle in exactly one place, a pruned handle belongs
to a finished task, and whoever is inside `spawn` is alive. -/
structure Accounted (state : ProxyTasks) : Prop where
  everywhere : (state.pruned ++ state.taken ++ state.held).Perm
    (List.range state.runtime.tasks.length)
  finished : ∀ id ∈ state.pruned, state.runtime.isFinished id = true
  spawner : ∀ spawning, state.spawning = some spawning → state.Alive spawning.spawner

theorem alive_set_listener {state : ProxyTasks} {spawner : Spawner} {index : Nat}
    (hne : spawner ≠ .listener index) (halive : state.Alive spawner) (listener : Listener) :
    ({ state with listeners := state.listeners.set index listener }).Alive spawner := by
  cases spawner with
  | task id => exact halive
  | listener other =>
      have hother : index ≠ other := fun h => hne (h ▸ rfl)
      exact (List.getElem?_set_ne hother).trans halive

theorem alive_of_ended_eq {state : ProxyTasks} {spawner : Spawner} {runtime : Runtime}
    (hlength : state.runtime.tasks.length ≤ runtime.tasks.length)
    (hended : ∀ id, spawner = .task id → runtime.ended id = state.runtime.ended id)
    (halive : state.Alive spawner) : ({ state with runtime := runtime }).Alive spawner := by
  cases spawner with
  | listener index => exact halive
  | task id =>
      obtain ⟨hlt, hnone⟩ := Runtime.isRunning_iff.mp halive
      exact Runtime.isRunning_iff.mpr ⟨Nat.lt_of_lt_of_le hlt hlength, (hended id rfl).trans hnone⟩

/-- Steps that move no handle keep the account. -/
theorem Accounted.of_same {state next : ProxyTasks} (haccounted : state.Accounted)
    (hpruned : next.pruned = state.pruned) (htaken : next.taken = state.taken)
    (hheld : next.held = state.held) (hspawning : next.spawning = state.spawning)
    (hruntime : state.runtime.Advances next.runtime)
    (hlength : next.runtime.tasks.length = state.runtime.tasks.length)
    (halive : ∀ spawning, state.spawning = some spawning → state.Alive spawning.spawner →
      next.Alive spawning.spawner) : next.Accounted where
  everywhere := by rw [hpruned, htaken, hheld, hlength]; exact haccounted.everywhere
  finished id hid := hruntime.finished (haccounted.finished id (hpruned ▸ hid))
  spawner spawning h := by
    rw [hspawning] at h
    exact halive spawning h (haccounted.spawner spawning h)

theorem abortEach_accounted {state : ProxyTasks} (haccounted : state.Accounted)
    (ids : List TaskId) :
    ({ state with runtime := state.runtime.abortEach ids }).Accounted := by
  refine haccounted.of_same rfl rfl rfl rfl (.abortEach _ _) (Runtime.length_abortEach _ _) ?_
  intro spawning _ halive
  exact alive_of_ended_eq (Nat.le_of_eq (Runtime.length_abortEach _ _).symm)
    (fun id _ => Runtime.ended_abortEach _ _ id) halive

/-- Who owns the proxy and whether it is closed does not matter for the handles. -/
theorem Accounted.of_owner {state : ProxyTasks} (haccounted : state.Accounted) (owner : Owner)
    (shutdownSent closed : Bool) :
    ({ state with
        owner := owner
        shutdownSent := shutdownSent
        tracked := { state.tracked with closed := closed } }).Accounted :=
  ⟨haccounted.everywhere, haccounted.finished, haccounted.spawner⟩

theorem abortAll_accounted {state : ProxyTasks} (haccounted : state.Accounted) :
    state.abortAll.Accounted :=
  (abortEach_accounted haccounted state.tracked.handles).of_owner _ _ true

theorem endListener_accounted {state : ProxyTasks} {index : Nat}
    (hother : ∀ spawning, state.spawning = some spawning → spawning.spawner ≠ .listener index)
    (haccounted : state.Accounted) (result : ListenerEnd) :
    (state.endListener index result).Accounted :=
  haccounted.of_same rfl rfl rfl rfl (.refl _) rfl fun spawning hspawning halive =>
    alive_set_listener (hother spawning hspawning) halive _

/-- No step of a listener or a task loses or duplicates a handle. -/
theorem WorkerStep.accounted {state next : ProxyTasks} {event : WorkerEvent}
    (hstep : WorkerStep state event next) (haccounted : state.Accounted) : next.Accounted := by
  cases hstep with
  | listenerStops hfree _ => exact endListener_accounted hfree.2 haccounted _
  | acceptFails hfree =>
      exact haccounted.of_same rfl rfl rfl rfl (.refl _) rfl fun spawning hspawning halive =>
        alive_set_listener (hfree.2 spawning hspawning) halive _
  | listenerAborts _ hlock =>
      refine endListener_accounted (fun spawning hspawning => ?_) (abortAll_accounted haccounted) _
      exact absurd (hlock.symm.trans hspawning) (by simp)
  | listenerTerminates hfree => exact endListener_accounted hfree.2 haccounted _
  | lockForSpawn hfree hlock =>
      -- the vector moves into the hands of the spawner
      refine ⟨?_, haccounted.finished, ?_⟩
      · have heverywhere := haccounted.everywhere
        simpa [held, hlock] using heverywhere
      · intro spawning hspawning
        obtain rfl := Option.some.inj hspawning
        exact hfree.1
  | @retainNext spawner id unseen hspawning =>
      have heverywhere := haccounted.everywhere
      simp only [held, hspawning, Option.elim_some] at heverywhere
      have halive := haccounted.spawner _ hspawning
      by_cases hfinished : state.runtime.isFinished id = true
      · -- The handle moves from the vector to the pruned ones.
        refine ⟨?_, ?_, fun _ h => Option.some.inj h ▸ halive⟩
        · simp only [held, hfinished, TrackedTaskState.retain, if_true, Option.elim_some]
          refine List.Perm.trans ?_ heverywhere
          rw [List.perm_iff_count]
          intro other
          simp only [List.count_append, List.count_cons]
          omega
        · intro other hother
          simp only [hfinished, if_true] at hother
          obtain rfl | hother := List.mem_cons.mp hother
          · exact hfinished
          · exact haccounted.finished other hother
      · refine ⟨?_, ?_, fun _ h => Option.some.inj h ▸ halive⟩
        · simp only [held, hfinished, TrackedTaskState.retain, Option.elim_some, if_false,
            Bool.false_eq_true]
          simpa using heverywhere
        · simpa only [hfinished, Bool.false_eq_true, if_false] using haccounted.finished
  | finishSpawn hspawning =>
      have heverywhere := haccounted.everywhere
      simp only [held, hspawning, Option.elim_some, List.append_nil] at heverywhere
      -- a closed vector takes no handle, and no task is started for it
      by_cases hclosed : state.tracked.closed = true
      · simp only [TrackedTaskState.spawnRetained, hclosed, if_true]
        exact ⟨by simpa [held] using heverywhere, haccounted.finished, nofun⟩
      · simp only [TrackedTaskState.spawnRetained, hclosed, Bool.false_eq_true, if_false]
        refine ⟨?_, ?_, nofun⟩
        · simp only [held, Runtime.spawn, Option.elim_none, List.append_nil, List.length_append,
            List.length_singleton, List.range_succ]
          rw [← List.append_assoc]
          exact heverywhere.append_right _
        · exact fun id hid => (Runtime.Advances.spawn _).finished (haccounted.finished id hid)
  | endTask hfree _ =>
      -- the lock is held by a spawner that lives, and the task that ends is another one
      refine haccounted.of_same rfl rfl rfl rfl (.finish hfree.1 _) (List.length_modify _ _ _) ?_
      intro spawning hspawning halive
      refine alive_of_ended_eq (Nat.le_of_eq (List.length_modify _ _ _).symm) ?_ halive
      intro other hother
      refine Runtime.ended_finish_of_ne _ (fun h => ?_) _
      exact hfree.2 spawning hspawning (h ▸ hother)

theorem closeAndTake_accounted {state : ProxyTasks} (hlock : state.spawning = none)
    (haccounted : state.Accounted) : state.closeAndTake.Accounted := by
  refine ⟨?_, haccounted.finished, haccounted.spawner⟩
  have heverywhere := haccounted.everywhere
  simpa [held, hlock, closeAndTake, TrackedTaskState.closeAndTake] using heverywhere

/-- Neither does a step of the owner. -/
theorem OwnerStep.accounted {state next : ProxyTasks} {event : OwnerEvent}
    (hstep : OwnerStep state event next) (haccounted : state.Accounted) : next.Accounted := by
  cases hstep with
  | sendShutdown _ => exact haccounted.of_owner _ _ _
  | abortAll _ _ => exact (abortAll_accounted haccounted).of_owner _ _ _
  | awaitListener _ _ => exact haccounted.of_owner _ _ _
  | closeAndTake _ hlock => exact (closeAndTake_accounted hlock haccounted).of_owner _ _ _
  | abortTaken _ => exact (abortEach_accounted haccounted _).of_owner _ _ _
  | awaitTask _ _ => exact haccounted.of_owner _ _ _
  | leave _ => exact haccounted.of_owner _ _ _
  | drop _ => exact haccounted.of_owner _ _ _
  | abandonListeners _ => exact haccounted.of_owner _ _ _
  | abandonTasks _ => exact haccounted.of_owner _ _ _
  | takeDropped _ hlock => exact (closeAndTake_accounted hlock haccounted).of_owner _ _ _
  | abortDropped _ => exact (abortEach_accounted haccounted _).of_owner _ _ _

theorem Step.accounted {state next : ProxyTasks} {event : WorkerEvent ⊕ OwnerEvent}
    (hstep : Step state event next) (haccounted : state.Accounted) : next.Accounted := by
  cases hstep with
  | worker hstep => exact hstep.accounted haccounted
  | owner hstep => exact hstep.accounted haccounted

theorem start_accounted : start.Accounted := ⟨.refl [], nofun, nofun⟩

/-! ## What the owner knows -/

/-- What the steps of the listeners and of the tasks leave alone: once the tasks are
closed and their handles taken, no handle comes back, and who has ended has ended. -/
structure WorkerFrame (before after : ProxyTasks) : Prop where
  owner : after.owner = before.owner
  taken : after.taken = before.taken
  runtime : before.runtime.Advances after.runtime
  closed : before.tracked.closed = true → after.tracked.closed = true
  held : before.tracked.closed = true → before.held = [] → after.held = []
  tasks : before.tracked.closed = true →
    after.runtime.tasks.length = before.runtime.tasks.length
  listeners : after.listeners.length = before.listeners.length
  ended : ∀ {index : Nat} {result : ListenerEnd},
    before.listeners[index]? = some (.ended result) →
    after.listeners[index]? = some (.ended result)

theorem getElem?_set_ended {listeners : List Listener} {index other : Nat} {before : Listener}
    {result : ListenerEnd} (hbefore : listeners[index]? = some before)
    (hrunning : before.isEnded = false) (hother : listeners[other]? = some (.ended result))
    (after : Listener) : (listeners.set index after)[other]? = some (.ended result) := by
  have hne : index ≠ other := by
    rintro rfl
    obtain rfl := Option.some.inj (hbefore.symm.trans hother)
    cases hrunning
  rw [List.getElem?_set_ne hne, hother]

/-- A listener that moves on by itself. -/
theorem workerFrame_set_listener {state : ProxyTasks} {index : Nat} {before : Listener}
    (hbefore : state.listeners[index]? = some before) (hrunning : before.isEnded = false)
    (after : Listener) (shutdownSent : Bool) :
    WorkerFrame state
      { state with
        shutdownSent := shutdownSent
        listeners := state.listeners.set index after } :=
  ⟨rfl, rfl, .refl _, id, fun _ => id, fun _ => rfl, List.length_set,
    fun hended => getElem?_set_ended hbefore hrunning hended after⟩

theorem WorkerStep.frame {state next : ProxyTasks} {event : WorkerEvent}
    (hstep : WorkerStep state event next) : WorkerFrame state next := by
  cases hstep with
  | listenerStops hfree _ => exact workerFrame_set_listener hfree.1 rfl _ _
  | acceptFails hfree => exact workerFrame_set_listener hfree.1 rfl _ _
  | listenerAborts hfailing _ =>
      exact ⟨rfl, rfl, .abortEach _ _, fun _ => rfl, fun _ => id,
        fun _ => Runtime.length_abortEach _ _, List.length_set,
        fun hended => getElem?_set_ended hfailing rfl hended _⟩
  | listenerTerminates hfree => exact workerFrame_set_listener hfree.1 rfl _ _
  | lockForSpawn _ _ =>
      refine ⟨rfl, rfl, .refl _, id, fun _ hheld => ?_, fun _ => rfl, rfl, id⟩
      exact (List.append_eq_nil_iff.mp hheld).1
  | retainNext hspawning =>
      refine ⟨rfl, rfl, .refl _, fun hclosed => ?_, fun _ hheld => ?_, fun _ => rfl, rfl, id⟩
      · dsimp only [TrackedTaskState.retain]
        split <;> exact hclosed
      · simp [held, hspawning] at hheld
  | finishSpawn hspawning =>
      by_cases hclosed : state.tracked.closed = true
      · simp only [TrackedTaskState.spawnRetained, hclosed, if_true]
        refine ⟨rfl, rfl, .refl _, fun _ => hclosed, fun _ hheld => ?_, fun _ => rfl, rfl, id⟩
        simpa [held] using (List.append_eq_nil_iff.mp hheld).1
      · simp only [TrackedTaskState.spawnRetained, hclosed, Bool.false_eq_true, if_false]
        exact ⟨rfl, rfl, .spawn _, fun h => absurd h hclosed, fun h => absurd h hclosed,
          fun h => absurd h hclosed, rfl, id⟩
  | endTask hfree _ =>
      exact ⟨rfl, rfl, .finish hfree.1 _, id, fun _ => id,
        fun _ => List.length_modify _ _ _, rfl, id⟩

/-- The first listeners have ended. -/
def ListenersEnded (state : ProxyTasks) (count : Nat) : Prop :=
  ∀ index < count, ∃ result, state.listeners[index]? = some (.ended result)

/-- `shutdown` has closed the tasks, has taken every handle and has yet to await `tasks`. -/
structure Awaiting (state : ProxyTasks) (tasks : List TaskId) : Prop where
  closed : state.tracked.closed = true
  held : state.held = []
  listeners : state.ListenersEnded state.listeners.length
  finished : ∀ id ∈ state.taken, id ∈ tasks ∨ state.runtime.isFinished id = true

/-- What holds at each place of the owner. -/
def OwnerInv (state : ProxyTasks) : Prop :=
  match state.owner with
  | .serving | .signalled => state.taken = []
  | .awaitingListeners awaited _ =>
      state.tracked.closed = true ∧ state.taken = [] ∧ state.ListenersEnded awaited
  | .abortingTasks tasks _ | .awaitingTasks tasks _ => state.Awaiting tasks
  | .dropping (some _) | .abortingDropped _ (some _) | .gone (some _) => state.Awaiting []
  | .dropping none => True
  | .abortingDropped _ none | .gone none => state.tracked.closed = true ∧ state.held = []

theorem WorkerFrame.listenersEnded {before after : ProxyTasks} (hframe : WorkerFrame before after)
    {count : Nat} (hended : before.ListenersEnded count) : after.ListenersEnded count := by
  intro index hindex
  obtain ⟨result, hresult⟩ := hended index hindex
  exact ⟨result, hframe.ended hresult⟩

theorem WorkerFrame.awaiting {before after : ProxyTasks} (hframe : WorkerFrame before after)
    {tasks : List TaskId} (hawaiting : before.Awaiting tasks) : after.Awaiting tasks where
  closed := hframe.closed hawaiting.closed
  held := hframe.held hawaiting.closed hawaiting.held
  listeners := by
    rw [hframe.listeners]
    exact hframe.listenersEnded hawaiting.listeners
  finished id hid :=
    (hawaiting.finished id (hframe.taken ▸ hid)).imp_right hframe.runtime.finished

/-- What the owner knows stays true while the others move. -/
theorem WorkerFrame.ownerInv {before after : ProxyTasks} (hframe : WorkerFrame before after)
    (hinv : before.OwnerInv) : after.OwnerInv := by
  rw [OwnerInv] at hinv ⊢
  rw [hframe.owner]
  split at hinv
  case h_1 => exact hframe.taken.trans hinv
  case h_2 => exact hframe.taken.trans hinv
  case h_3 =>
    obtain ⟨hclosed, htaken, hended⟩ := hinv
    exact ⟨hframe.closed hclosed, hframe.taken.trans htaken, hframe.listenersEnded hended⟩
  case h_4 => exact hframe.awaiting hinv
  case h_5 => exact hframe.awaiting hinv
  case h_6 => exact hframe.awaiting hinv
  case h_7 => exact hframe.awaiting hinv
  case h_8 => exact hframe.awaiting hinv
  case h_9 => trivial
  case h_10 => exact ⟨hframe.closed hinv.1, hframe.held hinv.1 hinv.2⟩
  case h_11 => exact ⟨hframe.closed hinv.1, hframe.held hinv.1 hinv.2⟩

theorem closeAndTake_held {state : ProxyTasks} (hlock : state.spawning = none) :
    state.closeAndTake.held = [] := by
  simp [held, closeAndTake, TrackedTaskState.closeAndTake, hlock]

/-- Each place of the owner hands its knowledge on to the next. -/
theorem OwnerStep.ownerInv {state next : ProxyTasks} {event : OwnerEvent}
    (hstep : OwnerStep state event next) (hinv : state.OwnerInv) : next.OwnerInv := by
  cases hstep with
  | sendShutdown howner =>
      rw [OwnerInv, howner] at hinv
      exact hinv
  | abortAll howner _ =>
      rw [OwnerInv, howner] at hinv
      exact ⟨rfl, hinv, fun index hindex => absurd hindex (Nat.not_lt_zero _)⟩
  | awaitListener howner hended =>
      rw [OwnerInv, howner] at hinv
      obtain ⟨hclosed, htaken, hbefore⟩ := hinv
      refine ⟨hclosed, htaken, fun index hindex => ?_⟩
      obtain hlt | rfl := Nat.lt_succ_iff_lt_or_eq.mp hindex
      · exact hbefore index hlt
      · exact ⟨_, hended⟩
  | closeAndTake howner hlock =>
      rw [OwnerInv, howner] at hinv
      obtain ⟨-, htaken, hended⟩ := hinv
      refine ⟨rfl, closeAndTake_held hlock, hended, fun id hid => .inl ?_⟩
      simpa [ProxyTasks.closeAndTake, TrackedTaskState.closeAndTake, htaken] using hid
  | abortTaken howner =>
      rw [OwnerInv, howner] at hinv
      exact ⟨hinv.closed, hinv.held, hinv.listeners,
        fun id hid => (hinv.finished id hid).imp_right (Runtime.Advances.abortEach _ _).finished⟩
  | awaitTask howner hended =>
      rw [OwnerInv, howner] at hinv
      refine ⟨hinv.closed, hinv.held, hinv.listeners, fun other hother => ?_⟩
      obtain hpending | hfinished := hinv.finished other hother
      · obtain rfl | hpending := List.mem_cons.mp hpending
        · exact .inr (Runtime.isFinished_iff.mpr ⟨_, hended⟩)
        · exact .inl hpending
      · exact .inr hfinished
  | leave howner =>
      rw [OwnerInv, howner] at hinv
      exact ⟨hinv.closed, hinv.held, hinv.listeners, hinv.finished⟩
  | drop _ => trivial
  | abandonListeners _ => trivial
  | abandonTasks _ => trivial
  | @takeDropped result howner hlock =>
      cases result with
      | none => exact ⟨rfl, closeAndTake_held hlock⟩
      | some result =>
          -- Nothing came back since `shutdown` took the handles, so nothing is taken now.
          rw [OwnerInv, howner] at hinv
          have hhandles : state.tracked.handles = [] := (List.append_eq_nil_iff.mp hinv.held).1
          refine ⟨rfl, closeAndTake_held hlock, hinv.listeners, fun id hid => hinv.finished id ?_⟩
          simpa [ProxyTasks.closeAndTake, TrackedTaskState.closeAndTake, hhandles] using hid
  | @abortDropped tasks result howner =>
      cases result with
      | none =>
          rw [OwnerInv, howner] at hinv
          exact hinv
      | some result =>
          rw [OwnerInv, howner] at hinv
          exact ⟨hinv.closed, hinv.held, hinv.listeners,
            fun id hid => (hinv.finished id hid).imp_right
              (Runtime.Advances.abortEach _ _).finished⟩

theorem Step.ownerInv {state next : ProxyTasks} {event : WorkerEvent ⊕ OwnerEvent}
    (hstep : Step state event next) (hinv : state.OwnerInv) : next.OwnerInv := by
  cases hstep with
  | worker hstep => exact hstep.frame.ownerInv hinv
  | owner hstep => exact hstep.ownerInv hinv

/-- The handles the owner has taken and is about to abort. -/
def aborting (state : ProxyTasks) : List TaskId :=
  match state.owner with
  | .abortingTasks tasks _ | .abortingDropped tasks _ => tasks
  | _ => []

/-- Every handle that was taken belongs to a task that has ended, was aborted, or is
about to be. -/
def TakenStopping (state : ProxyTasks) : Prop :=
  ∀ id ∈ state.taken, id ∈ state.aborting ∨ state.runtime.isStopping id = true

theorem TakenStopping.of_nil {state next : ProxyTasks} (hstopping : state.TakenStopping)
    (haborting : state.aborting = []) (htaken : next.taken = state.taken)
    (hruntime : state.runtime.Advances next.runtime) : next.TakenStopping := by
  intro id hid
  obtain hmem | hstopped := hstopping id (htaken ▸ hid)
  · rw [haborting] at hmem
    cases hmem
  · exact .inr (hruntime.stopping hstopped)

theorem WorkerFrame.takenStopping {before after : ProxyTasks} (hframe : WorkerFrame before after)
    (hstopping : before.TakenStopping) : after.TakenStopping := by
  intro id hid
  rw [aborting, hframe.owner]
  exact (hstopping id (hframe.taken ▸ hid)).imp_right hframe.runtime.stopping

theorem closeAndTake_takenStopping {state : ProxyTasks} (hstopping : state.TakenStopping)
    (haborting : state.aborting = []) {owner : Owner}
    (howner : ({ state.closeAndTake with owner := owner }).aborting = state.tracked.handles) :
    ({ state.closeAndTake with owner := owner }).TakenStopping := by
  intro id hid
  rw [howner]
  obtain hbefore | htaken := List.mem_append.mp hid
  · obtain hmem | hstopped := hstopping id hbefore
    · rw [haborting] at hmem
      cases hmem
    · exact .inr hstopped
  · exact .inl htaken

theorem abortEach_takenStopping {state : ProxyTasks} (haccounted : state.Accounted)
    (hstopping : state.TakenStopping) (owner : Owner) :
    ({ state with
        runtime := state.runtime.abortEach state.aborting
        owner := owner }).TakenStopping := by
  intro id hid
  refine .inr ?_
  obtain hmem | hstopped := hstopping id hid
  · refine Runtime.isStopping_abortEach hmem (List.mem_range.mp ?_)
    apply haccounted.everywhere.subset
    exact List.mem_append_left _ (List.mem_append_right _ hid)
  · exact (Runtime.Advances.abortEach _ _).stopping hstopped

theorem OwnerStep.takenStopping {state next : ProxyTasks} {event : OwnerEvent}
    (hstep : OwnerStep state event next) (haccounted : state.Accounted)
    (hstopping : state.TakenStopping) : next.TakenStopping := by
  cases hstep with
  | sendShutdown howner => exact hstopping.of_nil (by rw [aborting, howner]) rfl (.refl _)
  | abortAll howner _ => exact hstopping.of_nil (by rw [aborting, howner]) rfl (.abortEach _ _)
  | awaitListener howner _ => exact hstopping.of_nil (by rw [aborting, howner]) rfl (.refl _)
  | closeAndTake howner _ =>
      exact closeAndTake_takenStopping hstopping (by rw [aborting, howner]) rfl
  | @abortTaken tasks firstError howner =>
      have haborting :=
        abortEach_takenStopping haccounted hstopping (.awaitingTasks tasks firstError)
      simp only [aborting, howner] at haborting
      exact haborting
  | awaitTask howner _ => exact hstopping.of_nil (by rw [aborting, howner]) rfl (.refl _)
  | leave howner => exact hstopping.of_nil (by rw [aborting, howner]) rfl (.refl _)
  | drop howner => exact hstopping.of_nil (by rw [aborting, howner]) rfl (.refl _)
  | abandonListeners howner => exact hstopping.of_nil (by rw [aborting, howner]) rfl (.refl _)
  | abandonTasks howner => exact hstopping.of_nil (by rw [aborting, howner]) rfl (.refl _)
  | takeDropped howner _ =>
      exact closeAndTake_takenStopping hstopping (by rw [aborting, howner]) rfl
  | @abortDropped tasks result howner =>
      have haborting := abortEach_takenStopping haccounted hstopping (.gone result)
      simp only [aborting, howner] at haborting
      exact haborting

/-! ## Every interleaving -/

/-- What holds in every state of every run. -/
structure Inv (state : ProxyTasks) : Prop where
  accounted : state.Accounted
  owner : state.OwnerInv
  stopping : state.TakenStopping

theorem Inv.step {state next : ProxyTasks} {event : WorkerEvent ⊕ OwnerEvent}
    (hinv : state.Inv) (hstep : Step state event next) : next.Inv := by
  refine ⟨hstep.accounted hinv.accounted, hstep.ownerInv hinv.owner, ?_⟩
  cases hstep with
  | worker hstep => exact hstep.frame.takenStopping hinv.stopping
  | owner hstep => exact hstep.takenStopping hinv.accounted hinv.stopping

theorem start_inv : start.Inv := ⟨start_accounted, rfl, nofun⟩

theorem run_inv {events : List (WorkerEvent ⊕ OwnerEvent)} {state : ProxyTasks}
    (hrun : Run Step start events state) : state.Inv :=
  hrun.invariant (fun _ _ _ hinv hstep => Inv.step hinv hstep) start_inv

/-- A future that was accepted has its handle pruned, taken or under the mutex. -/
theorem Accounted.mem {state : ProxyTasks} (haccounted : state.Accounted) {id : TaskId}
    (hid : id < state.runtime.tasks.length) :
    id ∈ state.pruned ∨ id ∈ state.taken ∨ id ∈ state.held := by
  have hmem := haccounted.everywhere.mem_iff.mpr (List.mem_range.mpr hid)
  simpa [or_assoc] using hmem

/-- Once `shutdown` has returned, no task is alive. -/
theorem Inv.all_finished {state : ProxyTasks} (hinv : state.Inv)
    (hawaiting : state.Awaiting []) {id : TaskId} (hid : id < state.runtime.tasks.length) :
    state.runtime.isFinished id = true := by
  obtain hpruned | htaken | hheld := hinv.accounted.mem hid
  · exact hinv.accounted.finished id hpruned
  · exact (hawaiting.finished id htaken).resolve_left List.not_mem_nil
  · rw [hawaiting.held] at hheld
    cases hheld

theorem Inv.not_alive {state : ProxyTasks} (hinv : state.Inv) (hawaiting : state.Awaiting [])
    (spawner : Spawner) : ¬ state.Alive spawner := by
  intro halive
  cases spawner with
  | listener index =>
      have hlt : index < state.listeners.length := (List.getElem?_eq_some_iff.mp halive).1
      obtain ⟨result, hended⟩ := hawaiting.listeners index hlt
      cases hended.symm.trans halive
  | task id =>
      obtain ⟨hlt, hnone⟩ := Runtime.isRunning_iff.mp halive
      have hfinished := hinv.all_finished hawaiting hlt
      simp [Runtime.isFinished, hnone] at hfinished

/-- Once `shutdown` has returned, no party has a step left. -/
theorem Inv.no_step {state : ProxyTasks} (hinv : state.Inv) {result : Except ProxyError Unit}
    (hgone : state.owner = .gone (some result)) (event : WorkerEvent ⊕ OwnerEvent)
    (next : ProxyTasks) : ¬ Step state event next := by
  have hawaiting : state.Awaiting [] := by
    have howner := hinv.owner
    rw [OwnerInv, hgone] at howner
    exact howner
  have hdead := hinv.not_alive hawaiting
  intro hstep
  cases hstep with
  | worker hstep =>
      cases hstep with
      | listenerStops hfree _ => exact hdead _ hfree.1
      | acceptFails hfree => exact hdead _ hfree.1
      | listenerAborts hfailing _ =>
          have hlt := (List.getElem?_eq_some_iff.mp hfailing).1
          obtain ⟨result, hended⟩ := hawaiting.listeners _ hlt
          cases hended.symm.trans hfailing
      | listenerTerminates hfree => exact hdead _ hfree.1
      | lockForSpawn hfree _ => exact hdead _ hfree.1
      | retainNext hspawning => exact hdead _ (hinv.accounted.spawner _ hspawning)
      | finishSpawn hspawning => exact hdead _ (hinv.accounted.spawner _ hspawning)
      | endTask hfree _ => exact hdead _ hfree.1
  | owner hstep =>
      cases hstep <;> simp_all

/-- No future is accepted once the tasks are closed. -/
theorem Step.tasks_of_closed {state next : ProxyTasks} {event : WorkerEvent ⊕ OwnerEvent}
    (hstep : Step state event next) (hclosed : state.tracked.closed = true) :
    next.tracked.closed = true ∧
      next.runtime.tasks.length = state.runtime.tasks.length := by
  cases hstep with
  | worker hstep => exact ⟨hstep.frame.closed hclosed, hstep.frame.tasks hclosed⟩
  | owner hstep =>
      cases hstep with
      | abortAll _ _ => exact ⟨rfl, Runtime.length_abortEach _ _⟩
      | closeAndTake _ _ => exact ⟨rfl, rfl⟩
      | takeDropped _ _ => exact ⟨rfl, rfl⟩
      | abortTaken _ => exact ⟨hclosed, Runtime.length_abortEach _ _⟩
      | abortDropped _ => exact ⟨hclosed, Runtime.length_abortEach _ _⟩
      | _ => exact ⟨hclosed, rfl⟩

theorem run_tasks_of_closed {events : List (WorkerEvent ⊕ OwnerEvent)} {state later : ProxyTasks}
    (hrun : Run Step state events later) (hclosed : state.tracked.closed = true) :
    later.tracked.closed = true ∧
      later.runtime.tasks.length = state.runtime.tasks.length := by
  induction hrun with
  | nil => exact ⟨hclosed, rfl⟩
  | cons hstep _ ih =>
      obtain ⟨hnext, htasks⟩ := hstep.tasks_of_closed hclosed
      obtain ⟨hlater, hsame⟩ := ih hnext
      exact ⟨hlater, hsame.trans htasks⟩

/-- In every interleaving of the listeners, the tasks and the owner:
* the handle of each accepted future is in exactly one place, pruned, returned by
  `closeAndTake`, or still under the mutex; only handles of finished tasks are pruned;
* a call of `spawn` accepts its future exactly when the tasks are open, and hands the
  runtime nothing otherwise; once closed they stay closed, with no task added;
* when `shutdown` has returned, no handle is left under the mutex, every task has ended,
  and no party has a step left;
* when the proxy was dropped, no handle is left under the mutex, and every task has ended
  or was asked to. -/
theorem no_task_outlives_proxy {events : List (WorkerEvent ⊕ OwnerEvent)} {state : ProxyTasks}
    (hrun : Run Step start events state) :
    (state.pruned ++ state.taken ++ state.held).Perm (List.range state.runtime.tasks.length) ∧
    (∀ id ∈ state.pruned, state.runtime.isFinished id = true) ∧
    (∀ id next, Step state (.inl (.retainNext id)) next →
      next.pruned = if state.runtime.isFinished id then id :: state.pruned else state.pruned) ∧
    (∀ accepted next, Step state (.inl (.finishSpawn accepted)) next →
      accepted = !state.tracked.closed ∧
      next.runtime = if accepted then state.runtime.spawn.2 else state.runtime) ∧
    (∀ more later, state.tracked.closed = true → Run Step state more later →
      later.tracked.closed = true ∧
      later.runtime.tasks.length = state.runtime.tasks.length) ∧
    (∀ result, state.owner = .gone (some result) →
      state.tracked.closed = true ∧ state.held = [] ∧
      (∀ id < state.runtime.tasks.length, state.runtime.isFinished id = true) ∧
      ∀ event next, ¬ Step state event next) ∧
    (state.owner = .gone none →
      state.tracked.closed = true ∧ state.held = [] ∧
      ∀ id < state.runtime.tasks.length, state.runtime.isStopping id = true) := by
  have hinv := run_inv hrun
  have howner := hinv.owner
  refine ⟨hinv.accounted.everywhere, hinv.accounted.finished, ?_, ?_, ?_, ?_, ?_⟩
  · intro id next hstep
    cases hstep with
    | worker hstep =>
        cases hstep with
        | retainNext _ => rfl
  · intro accepted next hstep
    cases hstep with
    | worker hstep =>
        cases hstep with
        | finishSpawn _ =>
            by_cases hclosed : state.tracked.closed = true
            · simp [TrackedTaskState.spawnRetained, hclosed]
            · simp [TrackedTaskState.spawnRetained, hclosed]
  · intro more later hclosed hmore
    exact run_tasks_of_closed hmore hclosed
  · intro result hgone
    rw [OwnerInv, hgone] at howner
    exact ⟨howner.closed, howner.held, fun id hid => hinv.all_finished howner hid,
      hinv.no_step hgone⟩
  · intro hgone
    rw [OwnerInv, hgone] at howner
    refine ⟨howner.1, howner.2, fun id hid => ?_⟩
    -- a handle was pruned after its end, or was aborted when it was taken
    obtain hpruned | htaken | hheld := hinv.accounted.mem hid
    · exact Runtime.isStopping_of_isFinished (hinv.accounted.finished id hpruned)
    · apply (hinv.stopping id htaken).resolve_left
      rw [aborting, hgone]
      exact List.not_mem_nil
    · rw [howner.2] at hheld
      cases hheld

/-- A task spawns while `shutdown` begins and is accepted, the next one comes too late. -/
def lateSpawn : List (WorkerEvent ⊕ OwnerEvent) :=
  [.inl (.lockForSpawn (.listener 0)), .inl (.finishSpawn true), .inr .sendShutdown,
    .inl (.lockForSpawn (.task 0)), .inl (.retainNext 0), .inl (.finishSpawn true),
    .inr .abortAll, .inl (.lockForSpawn (.task 1)), .inl (.retainNext 0),
    .inl (.retainNext 1), .inl (.finishSpawn false), .inl (.listenerStops 0),
    .inl (.listenerStops 1), .inr .awaitListener, .inr .awaitListener, .inr .closeAndTake,
    .inl (.endTask 0 .cancelled), .inr .abortTaken, .inl (.endTask 1 .completed),
    .inr .awaitTask, .inr .awaitTask, .inr .leave, .inr .closeAndTake, .inr .abortTaken]

theorem no_task_outlives_proxy_lateSpawn :
    ∃ state, Run Step start lateSpawn state ∧
      (state.owner = .gone (some (.ok ())) ∧ state.taken = [0, 1]) ∧
      ∀ event next, ¬ Step state event next := by
  have hreached : ∃ state, Run Step start lateSpawn state ∧
      (state.owner = .gone (some (.ok ())) ∧ state.taken = [0, 1]) := by
    exact ⟨_,
      .cons (.worker (.lockForSpawn ⟨rfl, nofun⟩ rfl)) <|
      .cons (.worker (.finishSpawn rfl)) <|
      .cons (.owner (.sendShutdown rfl)) <|
      .cons (.worker (.lockForSpawn ⟨⟨_, rfl, rfl⟩, nofun⟩ rfl)) <|
      .cons (.worker (.retainNext rfl)) <|
      .cons (.worker (.finishSpawn rfl)) <|
      .cons (.owner (.abortAll rfl rfl)) <|
      .cons (.worker (.lockForSpawn ⟨⟨_, rfl, rfl⟩, nofun⟩ rfl)) <|
      .cons (.worker (.retainNext rfl)) <|
      .cons (.worker (.retainNext rfl)) <|
      .cons (.worker (.finishSpawn rfl)) <|
      .cons (.worker (.listenerStops ⟨rfl, nofun⟩ rfl)) <|
      .cons (.worker (.listenerStops ⟨rfl, nofun⟩ rfl)) <|
      .cons (.owner (.awaitListener rfl rfl)) <|
      .cons (.owner (.awaitListener rfl rfl)) <|
      .cons (.owner (.closeAndTake rfl rfl)) <|
      .cons (.worker (.endTask ⟨⟨_, rfl, rfl⟩, nofun⟩ (fun _ => rfl))) <|
      .cons (.owner (.abortTaken rfl)) <|
      .cons (.worker (.endTask ⟨⟨_, rfl, rfl⟩, nofun⟩ nofun)) <|
      .cons (.owner (.awaitTask rfl rfl)) <|
      .cons (.owner (.awaitTask rfl rfl)) <|
      .cons (.owner (.leave rfl)) <|
      .cons (.owner (.takeDropped rfl rfl)) <|
      .cons (.owner (.abortDropped rfl)) (.nil _),
      rfl, rfl⟩
  obtain ⟨state, hrun, hreturned⟩ := hreached
  obtain ⟨-, -, -, -, -, hgone, -⟩ := no_task_outlives_proxy hrun
  exact ⟨state, hrun, hreturned, (hgone _ hreturned.1).2.2.2⟩

end ProxyTasks

end Rpackit.Transport
