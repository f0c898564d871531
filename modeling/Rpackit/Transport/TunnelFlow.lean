import Mathlib.Logic.Relation
import Rpackit.Transport.IdleWatch
import Rpackit.Transport.State

/-! # Rate shaping under the idle watchdog

One direction of a tunnel always has data, and its destination takes what is written. Time
passes only while the copy of that direction waits for its limiter and the watchdog for its
timeout, and never beyond the deadline of either; whatever is due at an instant happens in
any order. Whether the watchdog gives such a tunnel up is a matter of one pause of the
limiter.
-/

namespace Rpackit.Transport

open Text

/-- A tunnel at an instant, and what the copy of one direction has still to write. -/
structure Flow (T : Type) where
  tunnel : Tunnel T
  now : Nat
  buffered : Bytes

namespace Flow

variable {T ε : Type}

def limiter (source : End) (flow : Flow T) : ByteRateLimiter := (flow.tunnel.ends source).readRate

/-- There is nothing to do before this instant. -/
structure RestsUntil (source : End) (later : Nat) (flow : Flow T) : Prop where
  written : flow.buffered = []
  paused : ∃ deadline ∈ (flow.limiter source).wake, later ≤ deadline
  seen : flow.tunnel.activity.changed = false
  watched : ∃ deadline ∈ flow.tunnel.timer, later ≤ deadline

def watch (idleTimeout : Nat) (flow : Flow T) : Pass × Tunnel T :=
  flow.tunnel.watch idleTimeout (.punctual flow.now)

/-- The watchdog would give the tunnel up at this instant. -/
def Closes (idleTimeout : Nat) (flow : Flow T) : Prop := (flow.watch idleTimeout).1 = .returned

/-- What the task of the tunnel does while the watchdog does not return: the copy reads and
writes what it has read, the other direction does anything, and the clock moves on. -/
inductive Step (streams : End → TunnelStream T ε) (idleTimeout room : Nat) (source : End) :
    Flow T → Flow T → Prop
  | read {flow : Flow T} {answer : Poll (Except ε Bytes)} {next : Tunnel T}
      (hwritten : flow.buffered = [])
      (hread : flow.tunnel.read streams source ⟨room, [⟨flow.now, false⟩]⟩ =
        some (answer, next)) :
      Step streams idleTimeout room source flow ⟨next, flow.now, deliveredBytes answer⟩
  | write {flow : Flow T} {answer : Poll (Except ε Nat)} {next : Tunnel T}
      (hdata : flow.buffered ≠ [])
      (hwrite : flow.tunnel.write streams source.other flow.buffered = (answer, next)) :
      Step streams idleTimeout room source flow
        ⟨next, flow.now, flow.buffered.drop (writtenCount answer)⟩
  | readBack {flow : Flow T} {poll : ReadPoll} {answer : Poll (Except ε Bytes)} {next : Tunnel T}
      (hnow : ∀ glance ∈ poll.glances, glance.now = flow.now)
      (hread : flow.tunnel.read streams source.other poll = some (answer, next)) :
      Step streams idleTimeout room source flow { flow with tunnel := next }
  | writeBack {flow : Flow T} {buffer : Bytes} {answer : Poll (Except ε Nat)} {next : Tunnel T}
      (hwrite : flow.tunnel.write streams source buffer = (answer, next)) :
      Step streams idleTimeout room source flow { flow with tunnel := next }
  | watch {flow : Flow T} (hopen : ¬flow.Closes idleTimeout) :
      Step streams idleTimeout room source flow
        { flow with tunnel := (flow.watch idleTimeout).2 }
  | advance {flow : Flow T} {later : Nat} (hlater : flow.now ≤ later)
      (hrests : flow.RestsUntil source later) :
      Step streams idleTimeout room source flow { flow with now := later }

/-- The source always has data, and the destination always takes some. -/
structure Flows (streams : End → TunnelStream T ε) (source : End) : Prop where
  delivers : ∀ io capacity, 0 < capacity →
    deliveredBytes ((streams source).reader.pollRead io capacity).1 ≠ []
  accepts : ∀ buffer io, buffer ≠ [] →
    writtenCount ((streams source.other).pollWrite buffer io).1 ≠ 0

abbrev Reaches (streams : End → TunnelStream T ε) (idleTimeout room : Nat) (source : End) :
    Flow T → Flow T → Prop :=
  Relation.ReflTransGen (Step streams idleTimeout room source)

/-- `tunnel_upgrades` with these limits. -/
def start (limits : TransportLimits) (downstream upstream : T) (opened : Nat) : Flow T where
  tunnel := .new downstream upstream limits.maxWebsocketBytesPerSecond
    limits.websocketRateBurstWindow opened
  now := opened
  buffered := []

/-- The watchdog never gives the tunnel up. -/
def StaysOpen (streams : End → TunnelStream T ε) (limits : TransportLimits) (room : Nat)
    (source : End) (begin : Flow T) : Prop :=
  ∀ flow, Reaches streams limits.websocketIdleTimeout room source begin flow →
    ¬flow.Closes limits.websocketIdleTimeout

/-! ## One read of the source -/

/-- What a read at one instant does to a limiter with a rate. -/
inductive Drawn (limiter next : ByteRateLimiter) (now : Nat) : Poll (Except ε Bytes) → Prop
  | paused (hbucket : next.bucket = limiter.bucket.refill now)
      (hshort : next.available < tokenUnitsPerByte)
      (hwake : next.wake = some (limiter.bucket.readyAt tokenUnitsPerByte)) :
      Drawn limiter next now .pending
  | moved {bytes : Bytes} (hbytes : bytes ≠ [])
      (hbyte : tokenUnitsPerByte ≤ limiter.bucket.levelAt now)
      (hbucket : next.bucket =
        (limiter.bucket.refill now).take (bytes.length * tokenUnitsPerByte))
      (hwake : next.wake = none) : Drawn limiter next now (.ready (.ok bytes))

section Source

variable {streams : End → TunnelStream T ε} {source : End} {room : Nat}

theorem read_of_pollRead {tunnel : Tunnel T} {poll : ReadPoll} {io : WebSocketIo T}
    {activity : Activity} {answer : Poll (Except ε Bytes)}
    (hpoll : WebSocketIo.pollRead (streams source).reader poll
      (tunnel.ends source, tunnel.activity) = some (answer, io, activity)) :
    tunnel.read streams source poll =
      some (answer, { tunnel with ends := Function.update tunnel.ends source io, activity }) := by
  rw [Tunnel.read, hpoll]
  rfl

/-- A limiter with a rate draws, and one without stays as it is. -/
theorem read_source (hflows : Flows streams source) (hroom : 0 < room) {tunnel : Tunnel T}
    {now : Nat} (hnow : (tunnel.ends source).readRate.lastRefill ≤ now) :
    ∃ answer next,
      tunnel.read streams source ⟨room, [⟨now, false⟩]⟩ = some (answer, next) ∧
      next.timer = tunnel.timer ∧
      ((tunnel.ends source).readRate.bytesPerSecond = 0 →
        (next.ends source).readRate = (tunnel.ends source).readRate) ∧
      ((tunnel.ends source).readRate.bytesPerSecond ≠ 0 →
        Drawn (tunnel.ends source).readRate (next.ends source).readRate now answer) := by
  have hempty : room ≠ 0 := Nat.ne_of_gt hroom
  by_cases hrate : (tunnel.ends source).readRate.bytesPerSecond = 0
  · have hallowance : (tunnel.ends source).readRate.pollAllowance [⟨now, false⟩] =
        some (.ready maxU64, (tunnel.ends source).readRate) := if_pos hrate
    have hpoll : WebSocketIo.pollRead (streams source).reader ⟨room, [⟨now, false⟩]⟩
        (tunnel.ends source, tunnel.activity) = _ :=
      WebSocketIo.pollRead_of_ready hempty hallowance
    rw [WebSocketIo.readLimited_eq rfl] at hpoll
    refine ⟨_, _, read_of_pollRead hpoll, rfl, fun _ => ?_, fun hsome => absurd hrate hsome⟩
    simp [ByteRateLimiter.consume, hrate]
  · obtain ⟨allowance, readRate, hloop⟩ :=
      ByteRateLimiter.allowanceLoop_once (tunnel.ends source).readRate now
    have hsorted : ((tunnel.ends source).readRate.lastRefill ::
        [(⟨now, false⟩ : Glance)].map Glance.now).Pairwise (· ≤ ·) := List.pairwise_pair.mpr hnow
    obtain ⟨glance, hglance, hallowed⟩ :=
      ByteRateLimiter.allowanceLoop_allowed hrate hsorted hloop
    have hpolled : (tunnel.ends source).readRate.pollAllowance [⟨now, false⟩] =
        some (allowance, readRate) := (if_neg hrate).trans hloop
    cases List.mem_singleton.mp hglance
    cases hallowed with
    | pending hbucket hshort hwake _ =>
        refine ⟨_, _, read_of_pollRead (WebSocketIo.pollRead_of_pending hempty hpolled), rfl,
          fun hzero => absurd hzero hrate, fun _ => ?_⟩
        dsimp only
        rw [Function.update_self]
        exact .paused hbucket hshort hwake
    | ready hbucket hbyte hwake =>
        have hallows : 0 < min (min (readRate.available / tokenUnitsPerByte) maxU64) room := by
          have hbytes : 0 < readRate.available / tokenUnitsPerByte :=
            Nat.div_pos hbyte (by decide)
          have hmax : 0 < maxU64 := by decide
          omega
        obtain ⟨answer, inner, hread⟩ : ∃ answer inner, (streams source).reader.pollRead
            (tunnel.ends source).inner
            (min (min (readRate.available / tokenUnitsPerByte) maxU64) room) = (answer, inner) :=
          ⟨_, _, rfl⟩
        have hsome := hflows.delivers (tunnel.ends source).inner _ hallows
        have hpoll : WebSocketIo.pollRead (streams source).reader ⟨room, [⟨now, false⟩]⟩
            (tunnel.ends source, tunnel.activity) = _ :=
          WebSocketIo.pollRead_of_ready hempty hpolled
        rw [WebSocketIo.readLimited_eq hread] at hpoll
        refine ⟨_, _, read_of_pollRead hpoll, rfl, fun hzero => absurd hzero hrate, fun _ => ?_⟩
        dsimp only
        rw [Function.update_self]
        rw [hread] at hsome
        rcases answer with _ | (_ | bytes)
        · exact absurd rfl hsome
        · exact absurd rfl hsome
        · -- Only a delivery of bytes is left.
          have hkept : readRate.bytesPerSecond ≠ 0 := by
            rw [show readRate.bytesPerSecond = _ from congrArg TokenBucket.rate hbucket]
            exact hrate
          have hdelivered : deliveredBytes (.ready (.ok bytes) : Poll (Except ε Bytes)) =
              bytes := rfl
          have hlevel : readRate.available = (tunnel.ends source).readRate.bucket.levelAt now :=
            congrArg TokenBucket.level hbucket
          rw [hdelivered]
          refine .moved hsome (hlevel ▸ hbyte) ?_ ?_
          · rw [ByteRateLimiter.bucket_consume _ hkept, hbucket]
          · rw [ByteRateLimiter.consume_wake]
            exact hwake

theorem readRate_write (side : End) (buffer : Bytes) (tunnel : Tunnel T) :
    ((tunnel.write streams side buffer).2.ends source).readRate =
      (tunnel.ends source).readRate := by
  rw [Tunnel.write, WebSocketIo.pollWrite_eq rfl]
  dsimp only
  by_cases hside : source = side
  · rw [hside, Function.update_self]
  · rw [Function.update_of_ne hside]

theorem ends_read_other {poll : ReadPoll} {tunnel next : Tunnel T}
    {answer : Poll (Except ε Bytes)}
    (hread : tunnel.read streams source.other poll = some (answer, next)) :
    next.ends source = tunnel.ends source := by
  obtain ⟨⟨polled, io, activity⟩, -, heq⟩ := Option.map_eq_some_iff.mp hread
  cases heq
  refine Function.update_of_ne ?_ _ _
  cases source <;> nofun

/-! ## A pause is short -/

theorem watched_read {idleTimeout : Nat} {times : List Nat} {side : End} {poll : ReadPoll}
    {tunnel next : Tunnel T} {answer : Poll (Except ε Bytes)}
    (hwatched : tunnel.Watched idleTimeout times)
    (hread : tunnel.read streams side poll = some (answer, next)) (now : Nat) :
    next.Watched idleTimeout
      (times ++ if (TunnelAnswer.read answer).transfers then [now] else []) :=
  let ⟨htimer, hactivity⟩ := Tunnel.read_recorded hread
  hwatched.of_end htimer hactivity

theorem watched_write {idleTimeout : Nat} {times : List Nat} {side : End} {buffer : Bytes}
    {tunnel : Tunnel T} (hwatched : tunnel.Watched idleTimeout times) :
    (tunnel.write streams side buffer).2.Watched idleTimeout times := by
  obtain ⟨htimer, hactivity⟩ := @Tunnel.write_recorded _ _ streams side buffer tunnel
  exact (@Tunnel.Watched.of_end _ _ _ _ _ _ 0 hwatched htimer hactivity).mono
    (List.subset_append_left _ _)

/-- Since the last delivery the limiter gains, so it has a byte after one pause at most, and
what the watchdog has seen is no older. -/
structure Paced (source : End) (rate idleTimeout last : Nat) (flow : Flow T) : Prop where
  paces : (flow.limiter source).bytesPerSecond = rate
  refilled : (flow.limiter source).lastRefill ≤ flow.now
  began : last ≤ flow.now
  within : flow.now ≤ last + tokenUnitsPerByte ⌈/⌉ rate
  gains : ∀ time, (flow.limiter source).lastRefill ≤ time →
    min tokenUnitsPerByte (rate * (time - last)) ≤ (flow.limiter source).bucket.levelAt time
  wakes : ∀ deadline ∈ (flow.limiter source).wake, deadline ≤ last + tokenUnitsPerByte ⌈/⌉ rate
  watched : flow.tunnel.Watched idleTimeout [last]

variable {rate idleTimeout last : Nat} {flow next : Flow T}

/-- What leaves the limiter and the clock alone keeps the pace. -/
theorem Paced.of_kept (hpaced : flow.Paced source rate idleTimeout last)
    (hlimiter : next.limiter source = flow.limiter source) (hnow : next.now = flow.now)
    (hwatched : next.tunnel.Watched idleTimeout [last]) :
    next.Paced source rate idleTimeout last := by
  obtain ⟨hrate, hrefilled, hbegan, hwithin, hgains, hwakes, -⟩ := hpaced
  rw [← hlimiter] at hrate hrefilled hgains hwakes
  rw [← hnow] at hrefilled hbegan hwithin
  exact ⟨hrate, hrefilled, hbegan, hwithin, hgains, hwakes, hwatched⟩

/-- Whatever the level was, a limiter gains at its rate up to a byte. -/
theorem gained_le_levelAt (limiter : ByteRateLimiter) (time : Nat) :
    min tokenUnitsPerByte (limiter.bytesPerSecond * (time - limiter.lastRefill)) ≤
      limiter.bucket.levelAt time := by
  by_cases hzero : limiter.bytesPerSecond = 0
  · rw [hzero, Nat.zero_mul, Nat.min_zero]
    exact Nat.zero_le _
  · exact le_min ((Nat.min_le_left _ _).trans (limiter.wholeByte hzero))
      ((Nat.min_le_right _ _).trans (Nat.le_add_left _ _))

theorem le_pause_mul (hrate : rate ≠ 0) :
    tokenUnitsPerByte ≤ rate * (tokenUnitsPerByte ⌈/⌉ rate) :=
  (ceilDiv_le_iff_le_mul (Nat.pos_of_ne_zero hrate)).mp (Nat.le_refl _)

theorem Paced.read (hpaced : flow.Paced source rate idleTimeout last)
    (hflows : Flows streams source) (hroom : 0 < room) {answer : Poll (Except ε Bytes)}
    {reached : Tunnel T}
    (hread : flow.tunnel.read streams source ⟨room, [⟨flow.now, false⟩]⟩ =
      some (answer, reached)) (buffered : Bytes) :
    ∃ last, Paced source rate idleTimeout last (⟨reached, flow.now, buffered⟩ : Flow T) := by
  obtain ⟨polled, next, hpolled, -, hfree, hdrawn⟩ := read_source hflows hroom hpaced.refilled
  have hwatched := watched_read hpaced.watched hread flow.now
  cases hread.symm.trans hpolled
  by_cases hzero : (flow.tunnel.ends source).readRate.bytesPerSecond = 0
  · exact ⟨last, hpaced.of_kept (hfree hzero) rfl
      (hwatched.mono (List.subset_append_left _ _))⟩
  · have hrate : rate ≠ 0 := hpaced.paces ▸ hzero
    cases hdrawn hzero with
    | paused hbucket hshort hwake =>
        refine ⟨last, (congrArg TokenBucket.rate hbucket).trans hpaced.paces,
          Nat.le_of_eq (congrArg TokenBucket.last hbucket), hpaced.began, hpaced.within, ?_, ?_,
          hwatched.mono (List.subset_append_left _ _)⟩
        · intro time htime
          have hlast : flow.now ≤ time := (congrArg TokenBucket.last hbucket).symm.trans_le htime
          have hlevel : (reached.ends source).readRate.bucket.levelAt time =
            (flow.limiter source).bucket.levelAt time :=
          (congrArg (TokenBucket.levelAt · time) hbucket).trans
            (TokenBucket.levelAt_refill hpaced.refilled hlast)
          exact (hpaced.gains time (hpaced.refilled.trans hlast)).trans_eq hlevel.symm
        · intro deadline hdeadline
          cases hwake.symm.trans hdeadline
          have hbefore := hpaced.refilled.trans hpaced.within
          have hgains := hpaced.gains _ hbefore
          rw [Nat.add_sub_cancel_left, Nat.min_eq_left (le_pause_mul hrate)] at hgains
          exact (TokenBucket.le_levelAt_iff (Nat.pos_of_ne_zero hzero)
          ((flow.limiter source).wholeByte hzero) hbefore).mp hgains
    | moved hbytes hbyte hbucket hwake =>
        refine ⟨flow.now, (congrArg TokenBucket.rate hbucket).trans hpaced.paces,
          Nat.le_of_eq (congrArg TokenBucket.last hbucket), Nat.le_refl _, Nat.le_add_right _ _,
          ?_, ?_, ?_⟩
        · intro time _
          have hlast : (reached.ends source).readRate.lastRefill = flow.now :=
          congrArg TokenBucket.last hbucket
          have hsame : (reached.ends source).readRate.bytesPerSecond = rate :=
          (congrArg TokenBucket.rate hbucket).trans hpaced.paces
          rw [← hlast, ← hsame]
          exact gained_le_levelAt _ time
        · intro deadline hdeadline
          cases hwake.symm.trans hdeadline
        · -- The delivery is recorded, so this instant is known to the watchdog.
          refine hwatched.mono fun time htime => List.mem_append_right _ ?_
          exact (if_pos (bne_iff_ne.mpr hbytes)).symm ▸ htime

theorem Paced.step (hpaced : flow.Paced source rate idleTimeout last)
    (hflows : Flows streams source) (hroom : 0 < room)
    (hstep : Step streams idleTimeout room source flow next) :
    ∃ last, next.Paced source rate idleTimeout last := by
  cases hstep with
  | read _ hread => exact hpaced.read hflows hroom hread _
  | write _ hwrite =>
      cases hwrite
      exact ⟨last, hpaced.of_kept (readRate_write _ _ _) rfl (watched_write hpaced.watched)⟩
  | readBack _ hread =>
      have hlimiter := congrArg WebSocketIo.readRate (ends_read_other hread)
      have hwatched := watched_read hpaced.watched hread 0
      exact ⟨last, hpaced.of_kept hlimiter rfl (hwatched.mono (List.subset_append_left _ _))⟩
  | writeBack hwrite =>
      cases hwrite
      exact ⟨last, hpaced.of_kept (readRate_write _ _ _) rfl (watched_write hpaced.watched)⟩
  | watch _ =>
      refine ⟨last, hpaced.of_kept rfl rfl ?_⟩
      exact hpaced.watched.watch (List.forall_mem_singleton.mpr hpaced.began)
  | advance hlater hrests =>
      obtain ⟨deadline, hdeadline, hle⟩ := hrests.paused
      obtain ⟨hrate, hrefilled, hbegan, -, hgains, hwakes, hwatched⟩ := hpaced
      exact ⟨last, hrate, hrefilled.trans hlater, hbegan.trans hlater,
        hle.trans (hwakes deadline hdeadline), hgains, hwakes, hwatched⟩

/-- A tunnel that has just been opened. -/
theorem Paced.start (limits : TransportLimits) (downstream upstream : T) (opened : Nat)
    (idleTimeout : Nat) :
    (Flow.start limits downstream upstream opened).Paced source
      limits.maxWebsocketBytesPerSecond idleTimeout opened := by
  have hlimiter : (Flow.start limits downstream upstream opened).limiter source =
      .new limits.maxWebsocketBytesPerSecond limits.websocketRateBurstWindow opened := by
    cases source <;> rfl
  constructor
  case paces => rw [hlimiter]; rfl
  case refilled => rw [hlimiter]; exact Nat.le_refl _
  case began => exact Nat.le_refl _
  case within => exact Nat.le_add_right _ _
  case wakes =>
    rw [hlimiter]
    exact nofun
  case watched => exact nofun
  case gains =>
    intro time _
    rw [hlimiter]
    exact gained_le_levelAt (.new limits.maxWebsocketBytesPerSecond
      limits.websocketRateBurstWindow opened) time

theorem not_closes_of_paced (hpaced : flow.Paced source rate idleTimeout last)
    (hpause : tokenUnitsPerByte ⌈/⌉ rate < idleTimeout) : ¬flow.Closes idleTimeout := by
  intro hcloses
  obtain ⟨hseen, hdeadline⟩ := Tunnel.watch_returned hcloses
  have hnow : (TimerPoll.punctual flow.now).now = flow.now := rfl
  have hwithin := hpaced.within
  cases htimer : flow.tunnel.timer with
  | none =>
      rw [htimer, Option.getD_none, hnow] at hdeadline
      omega
  | some deadline =>
      have hlast := hpaced.watched deadline htimer hseen last List.mem_cons_self
      rw [htimer, Option.getD_some, hnow] at hdeadline
      omega

/-! ## A pause that is too long -/

variable {flow : Flow T} {level : Nat}

/-- The limiter has this much less than a byte, nothing is left to write and the last
delivery is not seen yet. -/
structure Exhausted (source : End) (level : Nat) (flow : Flow T) : Prop where
  written : flow.buffered = []
  unseen : flow.tunnel.activity.changed = true
  last : (flow.limiter source).lastRefill = flow.now
  available : (flow.limiter source).available = level
  short : level < tokenUnitsPerByte
  wakes : (flow.limiter source).wake =
    some ((flow.limiter source).bucket.readyAt tokenUnitsPerByte)

theorem write_answer (side : End) (buffer : Bytes) (tunnel : Tunnel T) :
    (tunnel.write streams side buffer).1 =
      ((streams side).pollWrite buffer (tunnel.ends side).inner).1 := by
  rw [Tunnel.write, WebSocketIo.pollWrite_eq rfl]

/-- What was read is written at once. -/
theorem exists_written (hflows : Flows streams source) (flow : Flow T)
    (hunseen : flow.tunnel.activity.changed = true) :
    ∃ next, Reaches streams idleTimeout room source flow next ∧ next.buffered = [] ∧
      next.now = flow.now ∧ next.limiter source = flow.limiter source ∧
      next.tunnel.activity.changed = true := by
  induction hlength : flow.buffered.length using Nat.strong_induction_on generalizing flow with
  | h length ih =>
      by_cases hdata : flow.buffered = []
      · exact ⟨flow, .refl, hdata, rfl, rfl, hunseen⟩
      · obtain ⟨answer, tunnel, hwrite⟩ : ∃ answer tunnel,
          flow.tunnel.write streams source.other flow.buffered = (answer, tunnel) :=
          ⟨_, _, rfl⟩
        have htaken : writtenCount answer ≠ 0 := by
          rw [show answer = _ from (congrArg Prod.fst hwrite).symm, write_answer]
          exact hflows.accepts _ _ hdata
        have hlimiter : (tunnel.ends source).readRate = flow.limiter source := by
          rw [show tunnel = _ from (congrArg Prod.snd hwrite).symm]
          exact readRate_write _ _ _
        have hrecorded : tunnel.activity.changed = true := by
          rw [show tunnel = _ from (congrArg Prod.snd hwrite).symm,
          (Tunnel.write_recorded _ _ _).2]
          split
          · rfl
          · exact hunseen
        have hless : (flow.buffered.drop (writtenCount answer)).length < length := by
          have hpositive := List.length_pos_of_ne_nil hdata
          rw [List.length_drop]
          omega
        obtain ⟨next, hreaches, hwritten, hnow, hkept, hlast⟩ := ih _ hless
          ⟨tunnel, flow.now, flow.buffered.drop (writtenCount answer)⟩ hrecorded rfl
        exact ⟨next, .head (.write hdata hwrite) hreaches, hwritten, hnow,
          hkept.trans hlimiter, hlast⟩

/-- Without a whole byte the copy pauses. -/
theorem exists_paused (hflows : Flows streams source) (hroom : 0 < room)
    (hrate : (flow.limiter source).bytesPerSecond ≠ 0) (hwritten : flow.buffered = [])
    (hunseen : flow.tunnel.activity.changed = true)
    (hlast : (flow.limiter source).lastRefill = flow.now)
    (hshort : (flow.limiter source).available < tokenUnitsPerByte) :
    ∃ next, Reaches streams idleTimeout room source flow next ∧
      next.Exhausted source (flow.limiter source).available ∧ next.now = flow.now ∧
      (next.limiter source).bytesPerSecond = (flow.limiter source).bytesPerSecond := by
  obtain ⟨answer, reached, hread, -, -, hdrawn⟩ :=
    read_source hflows hroom (Nat.le_of_eq hlast)
  have hsame : (flow.limiter source).bucket.refill flow.now = (flow.limiter source).bucket :=
    (congrArg _ hlast.symm).trans (TokenBucket.refill_now (flow.limiter source).filled)
  cases hdrawn hrate with
  | paused hbucket hless hwake =>
      have hkept : (reached.ends source).readRate.bucket = (flow.limiter source).bucket :=
        hbucket.trans hsame
      refine ⟨⟨reached, flow.now, []⟩, .single (.read hwritten hread), ?_, rfl,
        congrArg TokenBucket.rate hkept⟩
      refine ⟨rfl, ?_, ?_, congrArg TokenBucket.level hkept, hshort, ?_⟩
      · exact (Tunnel.read_recorded hread).2 ▸ hunseen
      · exact (congrArg TokenBucket.last hkept).trans hlast
      · exact hwake.trans (congrArg (fun bucket : TokenBucket =>
          some (bucket.readyAt tokenUnitsPerByte)) hkept.symm)
  | moved _ hbyte _ _ =>
      have hlevel := congrArg TokenBucket.level hsame
      exact absurd (hbyte.trans_eq hlevel) (Nat.not_le_of_lt hshort)

/-- With a whole byte something is read and written. -/
theorem exists_drawn (hflows : Flows streams source) (hroom : 0 < room)
    (hrate : (flow.limiter source).bytesPerSecond ≠ 0) (hwritten : flow.buffered = [])
    (hlast : (flow.limiter source).lastRefill ≤ flow.now)
    (hbyte : tokenUnitsPerByte ≤ (flow.limiter source).bucket.levelAt flow.now) :
    ∃ next, Reaches streams idleTimeout room source flow next ∧ next.buffered = [] ∧
      next.tunnel.activity.changed = true ∧ next.now = flow.now ∧
      (next.limiter source).lastRefill = flow.now ∧
      (next.limiter source).bytesPerSecond = (flow.limiter source).bytesPerSecond ∧
      (next.limiter source).available + tokenUnitsPerByte ≤
        (flow.limiter source).bucket.levelAt flow.now := by
  obtain ⟨answer, reached, hread, -, -, hdrawn⟩ := read_source hflows hroom hlast
  cases hdrawn hrate with
  | paused hbucket hless _ =>
      have hlevel := congrArg TokenBucket.level hbucket
      exact absurd (hbyte.trans_eq hlevel.symm) (Nat.not_le_of_lt hless)
  | @moved bytes hbytes _ hbucket _ =>
      have hmoved : (TunnelAnswer.read (.ready (.ok bytes) : Poll (Except ε Bytes))).transfers =
          true := bne_iff_ne.mpr hbytes
      have hrecorded : reached.activity.changed = true := by
        rw [(Tunnel.read_recorded hread).2, if_pos hmoved]
        rfl
      obtain ⟨next, hreaches, hdone, hnow, hkept, hunseen⟩ :=
        exists_written hflows ⟨reached, flow.now, bytes⟩ hrecorded
      have hnext : (next.limiter source).bucket = ((flow.limiter source).bucket.refill
          flow.now).take (bytes.length * tokenUnitsPerByte) :=
        (congrArg ByteRateLimiter.bucket hkept).trans hbucket
      have hlevel : (next.limiter source).available =
          (flow.limiter source).bucket.levelAt flow.now - bytes.length * tokenUnitsPerByte :=
        congrArg TokenBucket.level hnext
      have hamount : tokenUnitsPerByte ≤ bytes.length * tokenUnitsPerByte :=
        Nat.le_mul_of_pos_left _ (List.length_pos_of_ne_nil hbytes)
      refine ⟨next, .head (.read hwritten hread) hreaches, hdone, hunseen, hnow,
        congrArg TokenBucket.last hnext, congrArg TokenBucket.rate hnext, ?_⟩
      omega

/-- At any instant the copy reads until it has to pause. -/
theorem exists_exhausted (hflows : Flows streams source) (hroom : 0 < room)
    (hrate : (flow.limiter source).bytesPerSecond ≠ 0) (hwritten : flow.buffered = [])
    (hlast : (flow.limiter source).lastRefill ≤ flow.now)
    (hbyte : tokenUnitsPerByte ≤ (flow.limiter source).bucket.levelAt flow.now) :
    ∃ level next, Reaches streams idleTimeout room source flow next ∧
      next.Exhausted source level ∧ next.now = flow.now ∧
      (next.limiter source).bytesPerSecond = (flow.limiter source).bytesPerSecond ∧
      level + tokenUnitsPerByte ≤ (flow.limiter source).bucket.levelAt flow.now := by
  induction hlevel : (flow.limiter source).bucket.levelAt flow.now
    using Nat.strong_induction_on generalizing flow with
  | h start ih =>
      obtain ⟨drawn, hreaches, hdone, hunseen, hnow, hrefilled, hsame, hless⟩ :=
        @exists_drawn _ _ _ _ _ idleTimeout _ hflows hroom hrate hwritten hlast hbyte
      have hdrawnLast := hrefilled.trans hnow.symm
      have hdrawnRate : (drawn.limiter source).bytesPerSecond ≠ 0 := hsame ▸ hrate
      have hdrawn : (drawn.limiter source).bucket.levelAt drawn.now =
          (drawn.limiter source).available :=
        (congrArg _ hdrawnLast.symm).trans (drawn.limiter source).levelAt_lastRefill
      have hunits : 0 < tokenUnitsPerByte := by decide
      by_cases hmore : tokenUnitsPerByte ≤ (drawn.limiter source).available
      · obtain ⟨level, next, hlater, hexhausted, hlaterNow, hlaterRate, hlaterLevel⟩ :=
          ih (drawn.limiter source).available (by omega) hdrawnRate hdone
          (Nat.le_of_eq hdrawnLast) (hmore.trans_eq hdrawn.symm) hdrawn
        exact ⟨level, next, hreaches.trans hlater, hexhausted, hlaterNow.trans hnow,
          hlaterRate.trans hsame, by omega⟩
      · obtain ⟨next, hlater, hexhausted, hlaterNow, hlaterRate⟩ := exists_paused hflows hroom
          hdrawnRate hdone hunseen hdrawnLast (Nat.lt_of_not_le hmore)
        exact ⟨_, next, hreaches.trans hlater, hexhausted, hlaterNow.trans hnow,
          hlaterRate.trans hsame, by omega⟩

theorem step_watch {pass : Pass} {reached : Tunnel T}
    (hwatch : flow.watch idleTimeout = (pass, reached)) (hpass : pass ≠ .returned) :
    Step streams idleTimeout room source flow { flow with tunnel := reached } := by
  have hopen : ¬flow.Closes idleTimeout := by
    rw [Closes, hwatch]
    exact hpass
  have hstep := @Step.watch _ _ streams idleTimeout room source flow hopen
  rw [hwatch] at hstep
  exact hstep

/-- The watchdog sees what was delivered, and starts its timeout. -/
theorem exists_watched (hidle : idleTimeout ≠ 0) (hunseen : flow.tunnel.activity.changed = true) :
    ∃ next, Reaches streams idleTimeout room source flow next ∧
      next.buffered = flow.buffered ∧ next.now = flow.now ∧
      next.limiter source = flow.limiter source ∧ next.tunnel.activity.changed = false ∧
      next.tunnel.timer = some (flow.now + idleTimeout) := by
  have hagain : flow.watch idleTimeout = (.again, { flow.tunnel with
      timer := none, activity := { flow.tunnel.activity with changed := false } }) :=
    Tunnel.watch_of_changed hunseen
  obtain ⟨again, hseen, htimer, hends, hfirst⟩ : ∃ again : Tunnel T,
      again.activity.changed = false ∧ again.timer = none ∧ again.ends = flow.tunnel.ends ∧
      Step streams idleTimeout room source flow { flow with tunnel := again } :=
    ⟨{ flow.tunnel with
        timer := none, activity := { flow.tunnel.activity with changed := false } },
      rfl, rfl, rfl, step_watch hagain (by decide)⟩
  have hwaits : ({ flow with tunnel := again } : Flow T).watch idleTimeout =
      (.waiting, { again with timer := some (flow.now + idleTimeout) }) := by
    rw [watch, Tunnel.watch_of_seen hseen, htimer]
    simp [hidle]
  refine ⟨_, (Relation.ReflTransGen.single hfirst).tail (step_watch hwaits (by decide)), rfl, rfl,
    ?_, hseen, rfl⟩
  exact congrArg (fun ends : End → WebSocketIo T => (ends source).readRate) hends

/-- Each pause leaves less to the next one, until it is as long as the timeout. -/
theorem exists_closes_of_exhausted (hflows : Flows streams source) (hroom : 0 < room)
    (hidle : idleTimeout ≠ 0) (hexhausted : flow.Exhausted source level)
    (hrate : (flow.limiter source).bytesPerSecond ≠ 0)
    (hpause : idleTimeout ≤ tokenUnitsPerByte ⌈/⌉ (flow.limiter source).bytesPerSecond) :
    ∃ next, Reaches streams idleTimeout room source flow next ∧ next.Closes idleTimeout := by
  induction level using Nat.strong_induction_on generalizing flow with
  | h level ih =>
      obtain ⟨hwritten, hunseen, hlast, hlevel, hshort, hwake⟩ := hexhausted
      obtain ⟨seen, hreaches, hdone, hnow, hlimiter, hseen, htimer⟩ :=
        @exists_watched _ _ streams source room idleTimeout flow hidle hunseen
      have hseenWake : (seen.limiter source).wake =
          some ((flow.limiter source).bucket.readyAt tokenUnitsPerByte) := hlimiter ▸ hwake
      have hrests : ∀ later, later ≤ (flow.limiter source).bucket.readyAt tokenUnitsPerByte →
          later ≤ flow.now + idleTimeout → seen.RestsUntil source later := fun later hready hdue =>
        ⟨hdone.trans hwritten, ⟨_, hseenWake, hready⟩, hseen, ⟨_, htimer, hdue⟩⟩
      by_cases hdue : flow.now + idleTimeout ≤
          (flow.limiter source).bucket.readyAt tokenUnitsPerByte
      · -- The timeout is over first, or at the same time.
        have hlater : seen.now ≤ flow.now + idleTimeout := by
          rw [hnow]
          exact Nat.le_add_right _ _
        refine ⟨_, hreaches.tail (.advance hlater (hrests _ hdue (Nat.le_refl _))), ?_⟩
        rw [Closes, watch, Tunnel.watch_of_seen hseen, htimer]
        exact if_pos (decide_eq_true (Nat.le_refl _))
      · -- The pause is shorter than the timeout, so less than a byte is gained on top.
        have hready : flow.now ≤ (flow.limiter source).bucket.readyAt tokenUnitsPerByte :=
          hlast.symm.trans_le (Nat.le_add_right _ _)
        have hpositive := Nat.pos_of_ne_zero hrate
        have hbyte : tokenUnitsPerByte ≤ (flow.limiter source).bucket.levelAt
          ((flow.limiter source).bucket.readyAt tokenUnitsPerByte) :=
          (TokenBucket.le_levelAt_iff hpositive ((flow.limiter source).wholeByte hrate)
          (hlast.trans_le hready)).mpr (Nat.le_refl _)
        have hgain : (flow.limiter source).bytesPerSecond *
          ((flow.limiter source).bucket.readyAt tokenUnitsPerByte - flow.now) <
            tokenUnitsPerByte := by
          by_contra hmore
          have hlong := (ceilDiv_le_iff_le_mul hpositive).mpr (Nat.le_of_not_lt hmore)
          omega
        have hbegan : (flow.limiter source).bucket.levelAt flow.now = level :=
          (congrArg _ hlast.symm).trans ((flow.limiter source).levelAt_lastRefill.trans hlevel)
        have hless : (flow.limiter source).bucket.levelAt
          ((flow.limiter source).bucket.readyAt tokenUnitsPerByte) ≤ level +
            (flow.limiter source).bytesPerSecond *
              ((flow.limiter source).bucket.readyAt tokenUnitsPerByte - flow.now) :=
          (TokenBucket.levelAt_le_add (Nat.le_of_eq hlast) hready).trans_eq
          (congrArg (· + _) hbegan)
        have hadvance : Step streams idleTimeout room source seen { seen with
          now := (flow.limiter source).bucket.readyAt tokenUnitsPerByte } :=
          .advance (hnow.trans_le hready) (hrests _ (Nat.le_refl _) (by omega))
        have hpaused : ({ seen with
          now := (flow.limiter source).bucket.readyAt tokenUnitsPerByte } : Flow T).limiter
            source = flow.limiter source := hlimiter
        obtain ⟨lower, next, hdrained, hexhausted, -, hsame, hlower⟩ :=
          @exists_exhausted _ _ streams source room idleTimeout { seen with
            now := (flow.limiter source).bucket.readyAt tokenUnitsPerByte } hflows hroom
          (hpaused ▸ hrate) (hdone.trans hwritten)
          (by rw [hpaused]; exact hlast.trans_le hready) (by rw [hpaused]; exact hbyte)
        rw [hpaused] at hsame hlower
        have hdecreases : lower < level := by
          have hleft := hlower.trans hless
          omega
        obtain ⟨closed, hlater, hcloses⟩ :=
          ih lower hdecreases hexhausted (hsame ▸ hrate) (hsame ▸ hpause)
        exact ⟨closed, ((hreaches.tail hadvance).trans hdrained).trans hlater, hcloses⟩

/-- A tunnel whose pauses can be as long as the timeout is given up. -/
theorem exists_closes (hflows : Flows streams source) (hroom : 0 < room) (limits : TransportLimits)
    (downstream upstream : T) (opened : Nat) (hidle : limits.websocketIdleTimeout ≠ 0)
    (hrate : limits.maxWebsocketBytesPerSecond ≠ 0)
    (hpause : limits.websocketIdleTimeout ≤
      tokenUnitsPerByte ⌈/⌉ limits.maxWebsocketBytesPerSecond) :
    ∃ flow, Reaches streams limits.websocketIdleTimeout room source
        (.start limits downstream upstream opened) flow ∧
      flow.Closes limits.websocketIdleTimeout := by
  have hlimiter : (Flow.start limits downstream upstream opened).limiter source =
      .new limits.maxWebsocketBytesPerSecond limits.websocketRateBurstWindow opened := by
    cases source <;> rfl
  have hfull : tokenUnitsPerByte ≤
      ((Flow.start limits downstream upstream opened).limiter source).bucket.levelAt opened := by
    have hlevel := (ByteRateLimiter.new limits.maxWebsocketBytesPerSecond
      limits.websocketRateBurstWindow opened).levelAt_lastRefill
    have hcapacity : tokenUnitsPerByte ≤ (ByteRateLimiter.new limits.maxWebsocketBytesPerSecond
        limits.websocketRateBurstWindow opened).available :=
      ByteRateLimiter.wholeByte (.new _ _ opened) hrate
    rw [hlimiter]
    exact hcapacity.trans_eq hlevel.symm
  obtain ⟨level, next, hreaches, hexhausted, -, hsame, -⟩ :=
    @exists_exhausted _ _ streams source room limits.websocketIdleTimeout
      (.start limits downstream upstream opened) hflows hroom (hlimiter ▸ hrate) rfl
      (hlimiter ▸ Nat.le_refl _) hfull
  rw [hlimiter] at hsame
  obtain ⟨closed, hlater, hcloses⟩ := exists_closes_of_exhausted hflows hroom hidle hexhausted
    (hsame ▸ hrate) (hsame ▸ hpause)
  exact ⟨closed, hreaches.trans hlater, hcloses⟩

theorem paced_of_reaches (hflows : Flows streams source) (hroom : 0 < room) {begin : Flow T}
    (hbegin : begin.Paced source rate idleTimeout last)
    (hreaches : Reaches streams idleTimeout room source begin flow) :
    ∃ last, flow.Paced source rate idleTimeout last := by
  induction hreaches with
  | refl => exact ⟨last, hbegin⟩
  | tail _ hstep ih =>
      obtain ⟨_, hpaced⟩ := ih
      exact hpaced.step hflows hroom hstep

end Source

/-- A tunnel with a steady source stays open under valid limits exactly when one byte takes
less than the idle timeout. -/
theorem stays_open_iff {streams : End → TunnelStream T ε} {source : End}
    (hflows : Flows streams source) {room : Nat} (hroom : 0 < room) {limits : TransportLimits}
    (hvalid : limits.isValid = true) (downstream upstream : T) (opened : Nat) :
    StaysOpen streams limits room source (.start limits downstream upstream opened) ↔
      limits.maxWebsocketBytesPerSecond = 0 ∨
        10 ^ 9 ⌈/⌉ limits.maxWebsocketBytesPerSecond < limits.websocketIdleTimeout := by
  have hidle : limits.websocketIdleTimeout ≠ 0 := by
    intro hzero
    simp [TransportLimits.isValid, hzero] at hvalid
  have hunits : 10 ^ 9 = tokenUnitsPerByte := rfl
  rw [hunits]
  constructor
  · intro hopen
    by_contra hlimits
    obtain ⟨hrate, hpause⟩ := not_or.mp hlimits
    obtain ⟨flow, hreaches, hcloses⟩ := exists_closes hflows hroom limits downstream upstream
      opened hidle hrate (Nat.le_of_not_lt hpause)
    exact hopen flow hreaches hcloses
  · intro hlimits flow hreaches
    have hpause : tokenUnitsPerByte ⌈/⌉ limits.maxWebsocketBytesPerSecond <
        limits.websocketIdleTimeout := by
      obtain hzero | hshort := hlimits
      · rw [hzero, ceilDiv_zero]
        exact Nat.pos_of_ne_zero hidle
      · exact hshort
    obtain ⟨last, hpaced⟩ := paced_of_reaches hflows hroom
      (.start limits downstream upstream opened _) hreaches
    exact not_closes_of_paced hpaced hpause

/-- Bytes without end one way, and a place for all of them the other way. -/
def endless : TunnelStream Unit Unit where
  reader :=
    { pollRead := fun _ capacity => (.ready (.ok (List.replicate capacity 0x61)), ())
      bounded := by
        intro _ capacity bytes _ hpoll
        cases hpoll
        exact Nat.le_of_eq List.length_replicate }
  pollWrite buffer _ := (.ready (.ok buffer.length), ())

theorem endless_flows : Flows (fun _ => endless) .downstream where
  delivers _ capacity hcapacity := by
    simpa [endless, deliveredBytes] using hcapacity.ne'
  accepts buffer _ hdata := by
    intro hnothing
    exact hdata (List.eq_nil_of_length_eq_zero hnothing)

theorem stays_open_defaultLimits :
    StaysOpen (fun _ => endless) defaultLimits 8192 .downstream
      (.start defaultLimits () () 0) :=
  (stays_open_iff endless_flows (by decide) (by decide) () () 0).mpr (.inr (by decide))

/-- One byte a second, under half a second of idle time. -/
def slowLimits : TransportLimits :=
  { defaultLimits with
    websocketIdleTimeout := 500000000
    maxWebsocketBytesPerSecond := 1
    websocketRateBurstWindow := 500000000 }

/-- The pause of a whole second is longer than the watchdog waits. -/
theorem gives_up_slowLimits :
    slowLimits.isValid = true ∧ Flows (fun _ => endless) .downstream ∧
      ¬StaysOpen (fun _ => endless) slowLimits 8192 .downstream (.start slowLimits () () 0) := by
  refine ⟨by decide, endless_flows, fun hopen => ?_⟩
  obtain ⟨flow, hreaches, hcloses⟩ := @exists_closes _ _ _ _ 8192 endless_flows (by decide)
    slowLimits () () 0 (by decide) (by decide) (by decide)
  exact hopen flow hreaches hcloses

end Flow

end Rpackit.Transport
