import Mathlib.Data.List.Chain
import Rpackit.Transport.WebSocketIo

/-! # The idle watchdog of a tunnel

Both ends of a tunnel record their transfers on one watch channel. The watchdog sees only
that something has changed since it last looked, and starts its timeout again when it
looks. Reads and writes of the ends and passes of its loop come in any order.
-/

namespace Rpackit.Transport

open Text

/-! ## The watchdog -/

/-- A look at the clock, and the timers that the runtime takes as elapsed; none is early. -/
structure TimerPoll where
  now : Nat
  elapsed : Nat → Bool
  notEarly : ∀ deadline, elapsed deadline = true → deadline ≤ now

/-- Timers that fire as soon as they are due. -/
@[simps] def TimerPoll.punctual (now : Nat) : TimerPoll where
  now := now
  elapsed deadline := decide (deadline ≤ now)
  notEarly _ := of_decide_eq_true

/-- `Receiver::changed`, while this many senders are left. -/
def Activity.pollChanged (senders : Nat) (activity : Activity) :
    Poll (Except Unit Unit) × Activity :=
  if activity.changed then (.ready (.ok ()), { activity with changed := false })
  else if senders = 0 then (.ready (.error ()), activity)
  else (.pending, activity)

/-- How a pass through the loop ends. -/
inductive Pass where
  | again
  | waiting
  | returned
  deriving DecidableEq, Repr

/-- One pass through the loop; a timeout that is under way keeps its deadline, and polls
what it waits for before its timer. -/
def waitUntilIdle (idleTimeout senders : Nat) (poll : TimerPoll) (timer : Option Nat)
    (activity : Activity) : Pass × Option Nat × Activity :=
  let deadline := timer.getD (poll.now + idleTimeout)
  match activity.pollChanged senders with
  | (.ready (.ok ()), seen) => (.again, none, seen)
  | (.ready (.error ()), seen) => (.returned, some deadline, seen)
  | (.pending, seen) =>
      (if poll.elapsed deadline then .returned else .waiting, some deadline, seen)

/-! ## The tunnel -/

inductive End where
  | downstream
  | upstream
  deriving DecidableEq, Repr

def End.other : End → End
  | .downstream => .upstream
  | .upstream => .downstream

/-- What the ends do with the connection below them. -/
structure TunnelStream (T ε : Type) where
  reader : AsyncRead T ε
  pollWrite : Bytes → T → Poll (Except ε Nat) × T

/-- The two ends, and the watchdog as the deadline of its timeout. -/
structure Tunnel (T : Type) where
  ends : End → WebSocketIo T
  activity : Activity
  timer : Option Nat

/-- One thing that the task of a tunnel does, and when it is done. -/
inductive TunnelPoll where
  | read (now : Nat) (side : End) (poll : ReadPoll)
  | write (now : Nat) (side : End) (buffer : Bytes)
  | watch (poll : TimerPoll)

inductive TunnelAnswer (ε : Type) where
  | read (answer : Poll (Except ε Bytes))
  | write (answer : Poll (Except ε Nat))
  | watch (pass : Pass)

def TunnelPoll.now : TunnelPoll → Nat
  | .read now _ _ => now
  | .write now _ _ => now
  | .watch poll => poll.now

/-- All that it sees of the clock. -/
def TunnelPoll.times : TunnelPoll → List Nat
  | .read now _ poll => poll.glances.map Glance.now ++ [now]
  | .write now _ _ => [now]
  | .watch poll => [poll.now]

/-- How many bytes of the buffer were taken. -/
def writtenCount {ε : Type} : Poll (Except ε Nat) → Nat
  | .ready (.ok written) => written
  | _ => 0

/-- Successful and not empty. -/
def TunnelAnswer.transfers {ε : Type} : TunnelAnswer ε → Bool
  | .read answer => deliveredBytes answer != []
  | .write answer => writtenCount answer != 0
  | .watch _ => false

/-- The instants of the transfers of a run. -/
def transferTimes {ε : Type} (events : List TunnelPoll) (answers : List (TunnelAnswer ε)) :
    List Nat :=
  (List.zipWith (fun event answer => if answer.transfers then [event.now] else [])
    events answers).flatten

namespace Tunnel

variable {T ε : Type}

def new (downstream upstream : T) (maxBytesPerSecond burstWindow now : Nat) : Tunnel T where
  ends
    | .downstream => .new downstream maxBytesPerSecond burstWindow now
    | .upstream => .new upstream maxBytesPerSecond burstWindow now
  activity := ⟨0, false⟩
  timer := none

def read (streams : End → TunnelStream T ε) (side : End) (poll : ReadPoll) (tunnel : Tunnel T) :
    Option (Poll (Except ε Bytes) × Tunnel T) :=
  (WebSocketIo.pollRead (streams side).reader poll (tunnel.ends side, tunnel.activity)).map
    fun (answer, io, activity) =>
      (answer, { tunnel with ends := Function.update tunnel.ends side io, activity })

def write (streams : End → TunnelStream T ε) (side : End) (buffer : Bytes) (tunnel : Tunnel T) :
    Poll (Except ε Nat) × Tunnel T :=
  let (answer, io, activity) :=
    WebSocketIo.pollWrite (streams side).pollWrite buffer (tunnel.ends side, tunnel.activity)
  (answer, { tunnel with ends := Function.update tunnel.ends side io, activity })

/-- Each end holds a sender. -/
def watch (idleTimeout : Nat) (poll : TimerPoll) (tunnel : Tunnel T) : Pass × Tunnel T :=
  let (pass, timer, activity) := waitUntilIdle idleTimeout 2 poll tunnel.timer tunnel.activity
  (pass, { tunnel with timer, activity })

def poll (streams : End → TunnelStream T ε) (idleTimeout : Nat) :
    TunnelPoll → Tunnel T → Option (TunnelAnswer ε × Tunnel T)
  | .read _ side poll, tunnel =>
      (tunnel.read streams side poll).map fun (answer, next) => (.read answer, next)
  | .write _ side buffer, tunnel =>
      let (answer, next) := tunnel.write streams side buffer
      some (.write answer, next)
  | .watch poll, tunnel =>
      let (pass, next) := tunnel.watch idleTimeout poll
      some (.watch pass, next)

end Tunnel

/-! ## What is recorded -/

namespace WebSocketIo

variable {T ε : Type} {inner : AsyncRead T ε}

/-- A read records an activity exactly when it delivers bytes. -/
theorem pollRead_activity {poll : ReadPoll} {io next : WebSocketIo T} {activity sent : Activity}
    {answer : Poll (Except ε Bytes)}
    (hpoll : pollRead inner poll (io, activity) = some (answer, next, sent)) :
    sent = if deliveredBytes answer = [] then activity else activity.record := by
  rw [pollRead] at hpoll
  dsimp only at hpoll
  split at hpoll
  next hempty =>
    cases hpoll
    rw [if_pos]
    exact List.eq_nil_of_length_eq_zero (Nat.le_zero.mp (inner.length_delivered_le io.inner 0))
  next hroom =>
    split at hpoll
    · cases hpoll
    · cases hpoll
      rfl
    · rw [readLimited_eq rfl] at hpoll
      cases hpoll
      rfl

/-- A write records an activity exactly when bytes are taken. -/
theorem pollWrite_eq {pollInner : Bytes → T → Poll (Except ε Nat) × T} {buffer : Bytes}
    {io : WebSocketIo T} {activity : Activity} {answer : Poll (Except ε Nat)} {next : T}
    (hwrite : pollInner buffer io.inner = (answer, next)) :
    pollWrite pollInner buffer (io, activity) = (answer, { io with inner := next },
      if writtenCount answer = 0 then activity else activity.record) := by
  rw [pollWrite]
  dsimp only
  rw [hwrite]
  match answer with
  | .pending => rfl
  | .ready (.error _) => rfl
  | .ready (.ok 0) => rfl
  | .ready (.ok (count + 1)) => rfl

end WebSocketIo

namespace Tunnel

variable {T ε : Type} {streams : End → TunnelStream T ε} {idleTimeout : Nat}

/-- What the watchdog knows of activity at these instants: either there is something that it
has not seen, or its timeout began no earlier. -/
def Watched (idleTimeout : Nat) (times : List Nat) (tunnel : Tunnel T) : Prop :=
  ∀ deadline ∈ tunnel.timer, tunnel.activity.changed = false →
    ∀ time ∈ times, time + idleTimeout ≤ deadline

theorem Watched.mono {times fewer : List Nat} {tunnel : Tunnel T}
    (hwatched : tunnel.Watched idleTimeout times) (hsubset : fewer ⊆ times) :
    tunnel.Watched idleTimeout fewer :=
  fun deadline hdeadline hseen time htime => hwatched deadline hdeadline hseen time (hsubset htime)

/-- A transfer is news to the watchdog, and nothing else is. -/
theorem Watched.of_end {times : List Nat} {tunnel next : Tunnel T} {moved : Bool} {now : Nat}
    (hwatched : tunnel.Watched idleTimeout times) (htimer : next.timer = tunnel.timer)
    (hactivity : next.activity = if moved then tunnel.activity.record else tunnel.activity) :
    next.Watched idleTimeout (times ++ if moved then [now] else []) := by
  intro deadline hdeadline hseen time htime
  cases moved with
  | true =>
      rw [hactivity] at hseen
      cases hseen
  | false =>
      rw [htimer] at hdeadline
      rw [hactivity] at hseen
      rw [if_neg Bool.false_ne_true, List.append_nil] at htime
      exact hwatched deadline hdeadline hseen time htime

theorem read_recorded {side : End} {poll : ReadPoll} {tunnel next : Tunnel T}
    {answer : Poll (Except ε Bytes)} (hread : tunnel.read streams side poll = some (answer, next)) :
    next.timer = tunnel.timer ∧ next.activity =
      if (TunnelAnswer.read answer).transfers then tunnel.activity.record
      else tunnel.activity := by
  obtain ⟨⟨polled, io, activity⟩, hpoll, heq⟩ := Option.map_eq_some_iff.mp hread
  cases heq
  refine ⟨rfl, (WebSocketIo.pollRead_activity hpoll).trans ?_⟩
  by_cases hnothing : deliveredBytes answer = []
  · simp [TunnelAnswer.transfers, hnothing]
  · simp [TunnelAnswer.transfers, hnothing]

theorem write_recorded (side : End) (buffer : Bytes) (tunnel : Tunnel T) :
    (tunnel.write streams side buffer).2.timer = tunnel.timer ∧
      (tunnel.write streams side buffer).2.activity =
        if (TunnelAnswer.write (tunnel.write streams side buffer).1).transfers
        then tunnel.activity.record else tunnel.activity := by
  obtain ⟨answer, next, hwrite⟩ : ∃ answer next,
      (streams side).pollWrite buffer (tunnel.ends side).inner = (answer, next) := ⟨_, _, rfl⟩
  rw [write, WebSocketIo.pollWrite_eq hwrite]
  refine ⟨rfl, ?_⟩
  by_cases hnothing : writtenCount answer = 0
  · simp [TunnelAnswer.transfers, hnothing]
  · simp [TunnelAnswer.transfers, hnothing]

theorem watch_of_changed {poll : TimerPoll} {tunnel : Tunnel T}
    (hchanged : tunnel.activity.changed = true) :
    tunnel.watch idleTimeout poll =
      (.again, { tunnel with
        timer := none, activity := { tunnel.activity with changed := false } }) := by
  simp [watch, waitUntilIdle, Activity.pollChanged, hchanged]

theorem watch_of_seen {poll : TimerPoll} {tunnel : Tunnel T}
    (hseen : tunnel.activity.changed = false) :
    tunnel.watch idleTimeout poll =
      (if poll.elapsed (tunnel.timer.getD (poll.now + idleTimeout)) then .returned else .waiting,
        { tunnel with timer := some (tunnel.timer.getD (poll.now + idleTimeout)) }) := by
  simp [watch, waitUntilIdle, Activity.pollChanged, hseen]

theorem Watched.watch {times : List Nat} {poll : TimerPoll} {tunnel : Tunnel T}
    (hwatched : tunnel.Watched idleTimeout times) (hbefore : ∀ time ∈ times, time ≤ poll.now) :
    (tunnel.watch idleTimeout poll).2.Watched idleTimeout times := by
  cases hseen : tunnel.activity.changed with
  | true =>
      -- The next pass starts a timeout of its own.
      rw [watch_of_changed hseen]
      exact nofun
  | false =>
      rw [watch_of_seen hseen]
      intro deadline hdeadline _ time htime
      cases hdeadline
      cases htimer : tunnel.timer with
      | none => exact Nat.add_le_add_right (hbefore time htime) _
      | some started => exact hwatched started htimer hseen time htime

theorem watched_poll {times : List Nat} {event : TunnelPoll} {tunnel next : Tunnel T}
    {answer : TunnelAnswer ε} (hwatched : tunnel.Watched idleTimeout times)
    (hbefore : ∀ time ∈ times, time ≤ event.now)
    (hpoll : tunnel.poll streams idleTimeout event = some (answer, next)) :
    next.Watched idleTimeout (times ++ if answer.transfers then [event.now] else []) := by
  cases event with
  | read now side poll =>
      obtain ⟨⟨polled, reached⟩, hread, heq⟩ := Option.map_eq_some_iff.mp hpoll
      cases heq
      obtain ⟨htimer, hactivity⟩ := read_recorded hread
      exact hwatched.of_end htimer hactivity
  | write now side buffer =>
      cases hpoll
      obtain ⟨htimer, hactivity⟩ := @write_recorded _ _ streams side buffer tunnel
      exact hwatched.of_end htimer hactivity
  | watch poll =>
      cases hpoll
      rw [show (TunnelAnswer.watch _ : TunnelAnswer ε).transfers = false from rfl,
        if_neg Bool.false_ne_true, List.append_nil]
      exact hwatched.watch hbefore

/-- The timeout is over only when nothing is unseen and its deadline has passed. -/
theorem watch_returned {poll : TimerPoll} {tunnel : Tunnel T}
    (hreturned : (tunnel.watch idleTimeout poll).1 = .returned) :
    tunnel.activity.changed = false ∧
      tunnel.timer.getD (poll.now + idleTimeout) ≤ poll.now := by
  cases hseen : tunnel.activity.changed with
  | true =>
      rw [watch_of_changed hseen] at hreturned
      cases hreturned
  | false =>
      rw [watch_of_seen hseen] at hreturned
      refine ⟨rfl, poll.notEarly _ ?_⟩
      by_contra helapsed
      rw [if_neg helapsed] at hreturned
      cases hreturned

theorem Watched.run {events : List TunnelPoll} {answers : List (TunnelAnswer ε)}
    {tunnel reached : Tunnel T} {times : List Nat} (hwatched : tunnel.Watched idleTimeout times)
    (hbefore : ∀ time ∈ times, ∀ later ∈ events.flatMap TunnelPoll.times, time ≤ later)
    (hsorted : (events.flatMap TunnelPoll.times).Pairwise (· ≤ ·))
    (hrun : Poll.run? (Tunnel.poll streams idleTimeout) events tunnel = some (answers, reached)) :
    reached.Watched idleTimeout (times ++ transferTimes events answers) ∧
      ∀ time ∈ transferTimes events answers, time ∈ events.flatMap TunnelPoll.times := by
  induction events generalizing tunnel times answers with
  | nil =>
      cases hrun
      rw [show transferTimes [] ([] : List (TunnelAnswer ε)) = [] from rfl, List.append_nil]
      exact ⟨hwatched, nofun⟩
  | cons event rest ih =>
      rw [Poll.run?, Option.bind_eq_some_iff] at hrun
      obtain ⟨⟨answer, next⟩, hpoll, hrest⟩ := hrun
      obtain ⟨⟨more, last⟩, hlater, heq⟩ := Option.map_eq_some_iff.mp hrest
      cases heq
      have hnow : event.now ∈ event.times := by
        cases event <;> simp [TunnelPoll.now, TunnelPoll.times]
      rw [List.flatMap_cons] at hbefore hsorted
      obtain ⟨-, hothers, hacross⟩ := List.pairwise_append.mp hsorted
      have hfirst := watched_poll hwatched
        (fun time htime => hbefore time htime _ (List.mem_append_left _ hnow)) hpoll
      have hmoved : ∀ time ∈ if answer.transfers then [event.now] else [], time = event.now := by
        intro time htime
        split at htime
        · exact List.mem_singleton.mp htime
        · cases htime
      have htimes : transferTimes (event :: rest) (answer :: more) =
          (if answer.transfers then [event.now] else []) ++ transferTimes rest more := rfl
      have hnext : ∀ time ∈ times ++ if answer.transfers then [event.now] else [],
          ∀ later ∈ rest.flatMap TunnelPoll.times, time ≤ later := by
        intro time htime later hlater
        obtain hold | hnew := List.mem_append.mp htime
        · exact hbefore time hold later (List.mem_append_right _ hlater)
        · exact hmoved time hnew ▸ hacross _ hnow _ hlater
      obtain ⟨hlast, hmore⟩ := ih hfirst hnext hothers hlater
      rw [htimes, ← List.append_assoc]
      refine ⟨hlast, fun time htime => ?_⟩
      rw [List.flatMap_cons]
      obtain hnew | hold := List.mem_append.mp htime
      · exact List.mem_append_left _ (hmoved time hnew ▸ hnow)
      · exact List.mem_append_right _ (hmore time hold)

/-- A run on a clock that never goes back, and then a pass of the watchdog. -/
structure RunsTo (streams : End → TunnelStream T ε) (idleTimeout opened : Nat) (start : Tunnel T)
    (events : List TunnelPoll) (answers : List (TunnelAnswer ε)) (poll : TimerPoll)
    (pass : Pass) : Prop where
  sorted : (opened :: events.flatMap TunnelPoll.times ++ [poll.now]).Pairwise (· ≤ ·)
  run : ∃ tunnel, Poll.run? (Tunnel.poll streams idleTimeout) events start =
    some (answers, tunnel) ∧ (tunnel.watch idleTimeout poll).1 = pass

/-- When the watchdog gives a tunnel up, and when it does not. -/
structure GivesUpWhenIdle (streams : End → TunnelStream T ε) (idleTimeout opened : Nat)
    (start : Tunnel T) : Prop where
  idle : ∀ events answers poll,
    RunsTo streams idleTimeout opened start events answers poll .returned →
    ∀ time ∈ opened :: transferTimes events answers, time + idleTimeout ≤ poll.now
  active : ∀ events answers poll pass,
    RunsTo streams idleTimeout opened start events answers poll pass →
    (opened :: transferTimes events answers ++ [poll.now]).IsChain
      (fun earlier later => later < earlier + idleTimeout) →
    pass ≠ .returned

/-- The watchdog gives a tunnel up only after a whole timeout without a byte in either direction,
and never while each transfer follows the last one within the timeout. -/
theorem gives_up_when_idle (streams : End → TunnelStream T ε) (idleTimeout opened : Nat)
    (ends : End → WebSocketIo T) (activity : Activity) :
    GivesUpWhenIdle streams idleTimeout opened ⟨ends, activity, none⟩ := by
  have hidle : ∀ events answers poll,
      RunsTo streams idleTimeout opened ⟨ends, activity, none⟩ events answers poll .returned →
      ∀ time ∈ opened :: transferTimes events answers, time + idleTimeout ≤ poll.now := by
    intro events answers poll ⟨hsorted, tunnel, hrun, hreturned⟩ time htime
    obtain ⟨hfirst, -, hacross⟩ := List.pairwise_append.mp hsorted
    obtain ⟨hopened, hevents⟩ := List.pairwise_cons.mp hfirst
    have hstart : (⟨ends, activity, none⟩ : Tunnel T).Watched idleTimeout [opened] := nofun
    obtain ⟨hwatched, hinside⟩ :=
      hstart.run (List.forall_mem_singleton.mpr hopened) hevents hrun
    obtain ⟨hseen, hdeadline⟩ := watch_returned hreturned
    have hnow : time ≤ poll.now := by
      refine hacross time ?_ poll.now List.mem_cons_self
      obtain hopen | hlater := List.mem_cons.mp htime
      · exact hopen ▸ List.mem_cons_self
      · exact List.mem_cons_of_mem _ (hinside time hlater)
    cases htimer : tunnel.timer with
    | none =>
        rw [htimer] at hdeadline
        exact (Nat.add_le_add_right hnow _).trans hdeadline
    | some deadline =>
        rw [htimer] at hdeadline
        exact (hwatched deadline htimer hseen time htime).trans hdeadline
  refine ⟨hidle, fun events answers poll pass hruns hgaps hpass => ?_⟩
  subst hpass
  have hsome := List.cons_ne_nil opened (transferTimes events answers)
  have hlast := hidle events answers poll hruns _ (List.getLast_mem hsome)
  obtain ⟨-, -, hgap⟩ := List.isChain_append.mp hgaps
  have hshort := hgap _ (List.getLast_mem_getLast? hsome) poll.now rfl
  exact absurd hlast (Nat.not_le_of_lt hshort)

/-- A transfer between two looks keeps the tunnel up until it has been idle again. -/
example :
    let streams : End → TunnelStream (Arrivals Unit) Unit :=
      fun _ => ⟨Arrivals.reader, fun buffer io => (.ready (.ok buffer.length), io)⟩
    let watch := fun now => TunnelPoll.watch (.punctual now)
    (Poll.run? (Tunnel.poll streams 10)
      [watch 0, .write 5 .upstream [0x61], watch 12, watch 12, watch 21, watch 22]
      (.new [] [] 0 0 0)).map (fun run => run.1.filterMap fun answer =>
        match answer with
        | .watch pass => some pass
        | _ => none) = some [.waiting, .again, .waiting, .waiting, .returned] := by
  decide

end Tunnel

end Rpackit.Transport
