import Rpackit.Library.Runs
import Rpackit.Transport.State

/-! # Connection permits

The listener takes one permit for each admitted connection, and the socket task
gives it back when Hyper's connection future resolves. An upgrade resolves that
future while the socket stays open in the tunnel task, so the permits bound the
connections that serve HTTP and not the open ones.
-/

namespace Rpackit.Transport

/-- Who owns the downstream socket of an admitted connection. The permit belongs
to the socket task: it is held while `serving` and at no other time. -/
inductive Stage where
  | serving (tunnelSpawned : Bool)
  | tunnelling
  | closed
  deriving DecidableEq, Repr

namespace Stage

def isServing : Stage → Bool
  | .serving _ => true
  | _ => false

def isTunnelling : Stage → Bool
  | .tunnelling => true
  | _ => false

def isOpen : Stage → Bool
  | .closed => false
  | _ => true

end Stage

/-- The semaphore, the closed flag of the tracked tasks, and every admitted
connection in the order of its admission. -/
structure Connections where
  available : Nat
  tasksClosed : Bool
  stages : List Stage
  deriving DecidableEq, Repr

inductive ConnectionEvent where
  | accept
  | spawnTunnel (index : Nat)
  | complete (index : Nat)
  | handOver (index : Nat)
  | endTunnel (index : Nat)
  | shutdown
  deriving DecidableEq, Repr

namespace Connections

def start (maxConnections : Nat) : Connections := ⟨maxConnections, false, []⟩

def serving (state : Connections) : Nat := state.stages.countP Stage.isServing

def tunnels (state : Connections) : Nat := state.stages.countP Stage.isTunnelling

/-- Admitted connections whose socket is open. -/
def openConnections (state : Connections) : Nat := state.stages.countP Stage.isOpen

/-- A loopback peer connects: it is turned away without a permit, and dropped
when no task can be spawned. -/
def accept (state : Connections) : Connections :=
  if state.tasksClosed || state.available = 0 then state
  else { state with
    available := state.available - 1
    stages := state.stages ++ [.serving false] }

/-- The steps of the listener, of the socket and tunnel tasks, and of shutdown.
`complete` covers the end of a response, a failure and an abort of the socket
task; `handOver` is the sent 101, after which the connection future resolves. -/
def step (state : Connections) : ConnectionEvent → Option Connections
  | .accept => some state.accept
  | .spawnTunnel index =>
      if state.stages[index]? = some (.serving false) ∧ state.tasksClosed = false then
        some { state with stages := state.stages.set index (.serving true) }
      else none
  | .complete index =>
      if (state.stages[index]?).any Stage.isServing then
        some { state with
          available := state.available + 1
          stages := state.stages.set index .closed }
      else none
  | .handOver index =>
      if state.stages[index]? = some (.serving true) then
        some { state with
          available := state.available + 1
          stages := state.stages.set index .tunnelling }
      else none
  | .endTunnel index =>
      if state.stages[index]? = some .tunnelling then
        some { state with stages := state.stages.set index .closed }
      else none
  | .shutdown => some { state with tasksClosed := true }

/-- A peer that is granted a permit finds fewer open tunnels than free permits. -/
def GrantsWithinTunnels (state : Connections) (event : ConnectionEvent) : Prop :=
  event = .accept → state.tasksClosed = false → 0 < state.available →
    state.tunnels < state.available

/-! ## Counting -/

theorem countP_set (p : Stage → Bool) {stages : List Stage} {index : Nat} {before : Stage}
    (hbefore : stages[index]? = some before) (after : Stage) :
    (stages.set index after).countP p + (p before).toNat =
      stages.countP p + (p after).toNat := by
  obtain ⟨hindex, hget⟩ := List.getElem?_eq_some_iff.mp hbefore
  rw [List.countP_set hindex, hget]
  have hle : (p before).toNat ≤ stages.countP p := by
    cases hp : p before with
    | false => exact Nat.zero_le _
    | true => exact List.countP_pos_iff.mpr ⟨before, List.mem_of_getElem? hbefore, hp⟩
  cases hp : p before <;> cases hq : p after <;> simp_all

theorem openConnections_eq (state : Connections) :
    state.openConnections = state.serving + state.tunnels := by
  rw [openConnections, serving, tunnels]
  induction state.stages with
  | nil => rfl
  | cons stage rest ih =>
      simp only [List.countP_cons, ih]
      cases stage with
      | serving => simp [Stage.isOpen, Stage.isServing, Stage.isTunnelling]; omega
      | tunnelling => simp [Stage.isOpen, Stage.isServing, Stage.isTunnelling, Nat.add_assoc]
      | closed => simp [Stage.isOpen, Stage.isServing, Stage.isTunnelling]

/-- A connection that goes on to another stage: the permit it gives back, if any, is free
then, and no socket is opened. -/
theorem counts_of_set {state : Connections} {index : Nat} {before : Stage}
    (hbefore : state.stages[index]? = some before) (after : Stage) (freed : Nat)
    (hfreed : before.isServing.toNat = after.isServing.toNat + freed)
    (hopen : after.isOpen = true → before.isOpen = true) :
    let next := { state with
      available := state.available + freed
      stages := state.stages.set index after }
    next.serving + next.available = state.serving + state.available ∧
      next.openConnections ≤ state.openConnections := by
  intro next
  have hserving := countP_set Stage.isServing hbefore after
  have hsockets := countP_set Stage.isOpen hbefore after
  have hle : after.isOpen.toNat ≤ before.isOpen.toNat := by
    cases hafter : after.isOpen with
    | false => exact Nat.zero_le _
    | true => rw [hopen hafter]
  simp only [next, serving, openConnections]
  omega

/-- What an event does to the free permits and to the open sockets: a permit is
free or held by a serving connection, and only a granted peer opens a socket. -/
theorem step_counts {state next : Connections} {event : ConnectionEvent}
    (hstep : state.step event = some next) :
    (next.serving + next.available = state.serving + state.available) ∧
    ((event = .accept ∧ state.tasksClosed = false ∧ 0 < state.available ∧
        next.openConnections = state.openConnections + 1) ∨
      ((event = .accept → state.tasksClosed = true ∨ state.available = 0) ∧
        next.openConnections ≤ state.openConnections)) := by
  cases event with
  | accept =>
      obtain rfl := Option.some.inj hstep
      by_cases hturned : state.tasksClosed || state.available = 0
      · rw [accept, if_pos hturned]
        exact ⟨rfl, .inr ⟨fun _ => by simpa using hturned, le_rfl⟩⟩
      · rw [accept, if_neg hturned]
        simp only [Bool.or_eq_true, decide_eq_true_eq, not_or, Bool.not_eq_true] at hturned
        refine ⟨?_, .inl ⟨rfl, hturned.1, by omega, ?_⟩⟩
        · simp only [serving, List.countP_append, List.countP_singleton, Stage.isServing]
          simp only [↓reduceIte]
          omega
        · simp [openConnections, List.countP_append, Stage.isOpen]
  | spawnTunnel index =>
      obtain ⟨⟨hstage, _⟩, hnext⟩ := Option.ite_none_right_eq_some.mp hstep
      obtain rfl := Option.some.inj hnext
      obtain ⟨hpermits, hsockets⟩ := counts_of_set hstage (.serving true) 0 rfl fun _ => rfl
      exact ⟨hpermits, .inr ⟨nofun, hsockets⟩⟩
  | complete index =>
      obtain ⟨hany, hnext⟩ := Option.ite_none_right_eq_some.mp hstep
      obtain rfl := Option.some.inj hnext
      obtain ⟨stage, hstage, hheld⟩ := Option.any_eq_true _ _ |>.mp hany
      obtain ⟨hpermits, hsockets⟩ := counts_of_set hstage .closed 1 (by rw [hheld]; rfl) nofun
      exact ⟨hpermits, .inr ⟨nofun, hsockets⟩⟩
  | handOver index =>
      obtain ⟨hstage, hnext⟩ := Option.ite_none_right_eq_some.mp hstep
      obtain rfl := Option.some.inj hnext
      obtain ⟨hpermits, hsockets⟩ := counts_of_set hstage .tunnelling 1 rfl fun _ => rfl
      exact ⟨hpermits, .inr ⟨nofun, hsockets⟩⟩
  | endTunnel index =>
      obtain ⟨hstage, hnext⟩ := Option.ite_none_right_eq_some.mp hstep
      obtain rfl := Option.some.inj hnext
      obtain ⟨hpermits, hsockets⟩ := counts_of_set hstage .closed 0 rfl nofun
      exact ⟨hpermits, .inr ⟨nofun, hsockets⟩⟩
  | shutdown =>
      obtain rfl := Option.some.inj hstep
      exact ⟨rfl, .inr ⟨nofun, le_rfl⟩⟩

/-! ## The bound -/

/-- Free permits and serving connections together are the configured number, and
no more sockets than that are open. -/
def Bounded (maxConnections : Nat) (state : Connections) : Prop :=
  state.serving + state.available = maxConnections ∧ state.openConnections ≤ maxConnections

/-- A step within the bound stays within it exactly when it grants no permit to a
peer that finds as many open tunnels as free permits. -/
theorem step_bounded_iff {maxConnections : Nat} {state next : Connections}
    {event : ConnectionEvent} (hbounded : Bounded maxConnections state)
    (hstep : state.step event = some next) :
    GrantsWithinTunnels state event ↔ next.openConnections ≤ maxConnections := by
  obtain ⟨hconserved, hbounded⟩ := hbounded
  have hopen := openConnections_eq state
  obtain ⟨-, ⟨rfl, htasks, havailable, hnext⟩ | ⟨hturned, hnext⟩⟩ := step_counts hstep
  · constructor
    · intro hgrants
      have := hgrants rfl htasks havailable
      omega
    · intro _ _ _ _
      omega
  · refine ⟨fun _ => by omega, fun _ haccept htasks havailable => ?_⟩
    obtain hclosed | hnone := hturned haccept
    · simp [hclosed] at htasks
    · omega

theorem start_bounded (maxConnections : Nat) : Bounded maxConnections (start maxConnections) := by
  simp [Bounded, start, serving, openConnections]

theorem step_bounded {maxConnections : Nat} {state next : Connections} {event : ConnectionEvent}
    (hbounded : Bounded maxConnections state)
    (hstep : state.step event = some next ∧ GrantsWithinTunnels state event) :
    Bounded maxConnections next :=
  ⟨(step_counts hstep.1).1.trans hbounded.1, (step_bounded_iff hbounded hstep.1).mp hstep.2⟩

/-- A run keeps the open connections within the limit in every state it reaches
exactly when each permit it grants goes to a peer that finds fewer open tunnels
than free permits. -/
theorem open_connections_bounded_iff (maxConnections : Nat) (labels : List ConnectionEvent)
    (state : Connections) :
    (Run (fun before event after => before.step event = some after ∧
        GrantsWithinTunnels before event) (start maxConnections) labels state ↔
      Run (fun before event after => before.step event = some after ∧
        after.openConnections ≤ maxConnections) (start maxConnections) labels state) ∧
    (Run (fun before event after => before.step event = some after ∧
        GrantsWithinTunnels before event) (start maxConnections) labels state →
      state.openConnections ≤ maxConnections) := by
  have hkeep : ∀ (before : Connections) (event : ConnectionEvent) (after : Connections),
      Bounded maxConnections before →
      before.step event = some after ∧ GrantsWithinTunnels before event →
      Bounded maxConnections after := fun _ _ _ => step_bounded
  refine ⟨Run.iff_of_invariant ?_ hkeep (start_bounded _), fun hrun => ?_⟩
  · intro before event after hbounded
    exact and_congr_right fun hstep => step_bounded_iff hbounded hstep
  · exact (hrun.invariant hkeep (start_bounded _)).2

/-- With one permit, a second peer is admitted while the tunnel of the first is open. -/
theorem open_connections_exceed_limit :
    ∃ state, Run (fun before event after => before.step event = some after)
        (start 1) [.accept, .spawnTunnel 0, .handOver 0, .accept] state ∧
      state.openConnections = 2 ∧ ¬ state.openConnections ≤ 1 := by
  refine ⟨⟨0, false, [.tunnelling, .serving false]⟩, ?_, by decide, by decide⟩
  exact .cons rfl (.cons rfl (.cons rfl (.cons rfl (.nil _))))

end Connections

end Rpackit.Transport
