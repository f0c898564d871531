import Rpackit.Library.ReadLayer
import Rpackit.Library.TokenBucket

/-! # Rate-limited tunnel ends

An end of a tunnel limits the rate of its reads and records every transfer on a channel
that both ends share. The limiter is a token bucket in units of a billionth of a byte,
in saturating arithmetic; it is refilled when it is asked, and waits on a timer until it
holds a whole byte.
-/

namespace Rpackit.Transport

open Text

/-! ## The limiter -/

def tokenUnitsPerByte : Nat := 1000000000

def maxU64 : Nat := 2 ^ 64 - 1

def maxU128 : Nat := 2 ^ 128 - 1

/-- Instants and durations are in nanoseconds; the timer is kept as its deadline. -/
structure ByteRateLimiter where
  bytesPerSecond : Nat
  capacity : Nat
  available : Nat
  lastRefill : Nat
  wake : Option Nat
  filled : available ≤ capacity
  fits : capacity ≤ maxU128
  wholeByte : bytesPerSecond ≠ 0 → tokenUnitsPerByte ≤ capacity
  deriving DecidableEq, Repr

/-- One pass through the loop: the clock, and what the timer says when it is polled. -/
structure Glance where
  now : Nat
  fired : Bool
  deriving DecidableEq, Repr

namespace ByteRateLimiter

def new (bytesPerSecond burstWindow now : Nat) : ByteRateLimiter :=
  let capacity := if bytesPerSecond = 0 then 0
    else max (min (bytesPerSecond * burstWindow) maxU128) tokenUnitsPerByte
  { bytesPerSecond
    capacity
    available := capacity
    lastRefill := now
    wake := none
    filled := Nat.le_refl _
    fits := by
      unfold capacity
      split
      · exact Nat.zero_le _
      · exact Nat.max_le.mpr ⟨Nat.min_le_right _ _, by decide⟩
    wholeByte := fun hrate => (Nat.le_max_right _ _).trans_eq (if_neg hrate).symm }

def refill (limiter : ByteRateLimiter) (now : Nat) : ByteRateLimiter :=
  let elapsed := now - limiter.lastRefill
  let added := min (limiter.bytesPerSecond * elapsed) maxU128
  { limiter with
    lastRefill := now
    available := min limiter.capacity (min (limiter.available + added) maxU128)
    filled := Nat.min_le_left _ _ }

def consume (limiter : ByteRateLimiter) (bytes : Nat) : ByteRateLimiter :=
  if limiter.bytesPerSecond = 0 then limiter
  else
    let consumed := min (bytes * tokenUnitsPerByte) maxU128
    { limiter with
      available := limiter.available - consumed
      filled := (Nat.sub_le _ _).trans limiter.filled }

/-- How long until there is a whole byte, at the rate of a limiter that has none. -/
def waitNanos (limiter : ByteRateLimiter) : Nat :=
  let missing := tokenUnitsPerByte - limiter.available
  min (max (missing ⌈/⌉ limiter.bytesPerSecond) 1) maxU64

/-- One pass for each glance; there is no value when the loop needs more of them. -/
def allowanceLoop (limiter : ByteRateLimiter) : List Glance → Option (Poll Nat × ByteRateLimiter)
  | [] => none
  | glance :: later =>
      let refilled := limiter.refill glance.now
      let bytes := refilled.available / tokenUnitsPerByte
      if bytes > 0 then some (.ready (min bytes maxU64), { refilled with wake := none })
      else
        let deadline := glance.now + refilled.waitNanos
        if glance.fired then allowanceLoop { refilled with wake := none } later
        else some (.pending, { refilled with wake := some deadline })

def pollAllowance (limiter : ByteRateLimiter) (glances : List Glance) :
    Option (Poll Nat × ByteRateLimiter) :=
  if limiter.bytesPerSecond = 0 then some (.ready maxU64, limiter)
  else limiter.allowanceLoop glances

end ByteRateLimiter

/-! ## The end of a tunnel -/

/-- The watch channel: the counter that is sent, and whether the receiver has a change
that it has not seen. -/
structure Activity where
  sequence : UInt64
  changed : Bool
  deriving DecidableEq, Repr

/-- `record_activity`; the counter wraps. -/
def Activity.record (activity : Activity) : Activity := ⟨activity.sequence + 1, true⟩

structure WebSocketIo (T : Type) where
  inner : T
  readRate : ByteRateLimiter
  deriving DecidableEq

/-- One `poll_read`: the room in the buffer of the caller, and the passes of the limiter. -/
structure ReadPoll where
  remaining : Nat
  glances : List Glance
  deriving DecidableEq, Repr

namespace WebSocketIo

variable {T ε : Type}

def new (inner : T) (maxBytesPerSecond burstWindow now : Nat) : WebSocketIo T :=
  ⟨inner, .new maxBytesPerSecond burstWindow now⟩

/-- The read into the part of the buffer that is allowed. -/
def readLimited (inner : AsyncRead T ε) (allowance : Nat) (readRate : ByteRateLimiter) (io : T)
    (activity : Activity) : Poll (Except ε Bytes) × WebSocketIo T × Activity :=
  match inner.pollRead io allowance with
  | (.ready (.ok bytes), next) =>
      (.ready (.ok bytes), ⟨next, readRate.consume bytes.length⟩,
        if bytes.length > 0 then activity.record else activity)
  | (answer, next) => (answer, ⟨next, readRate⟩, activity)

def pollRead (inner : AsyncRead T ε) (poll : ReadPoll) (state : WebSocketIo T × Activity) :
    Option (Poll (Except ε Bytes) × WebSocketIo T × Activity) :=
  let (io, activity) := state
  if poll.remaining = 0 then
    let (answer, next) := inner.pollRead io.inner 0
    some (answer, { io with inner := next }, activity)
  else
    match io.readRate.pollAllowance poll.glances with
    | none => none
    | some (.pending, readRate) => some (.pending, { io with readRate }, activity)
    | some (.ready allowed, readRate) =>
        some (readLimited inner (min allowed poll.remaining) readRate io.inner activity)

def pollWrite (pollInner : Bytes → T → Poll (Except ε Nat) × T) (buffer : Bytes)
    (state : WebSocketIo T × Activity) : Poll (Except ε Nat) × WebSocketIo T × Activity :=
  let (io, activity) := state
  let (answer, next) := pollInner buffer io.inner
  match answer with
  | .ready (.ok written) =>
      (answer, { io with inner := next }, if written > 0 then activity.record else activity)
  | _ => (answer, { io with inner := next }, activity)

end WebSocketIo

/-! ## The limiter as a bucket -/

namespace ByteRateLimiter

@[simps] def bucket (limiter : ByteRateLimiter) : TokenBucket where
  rate := limiter.bytesPerSecond
  capacity := limiter.capacity
  level := limiter.available
  last := limiter.lastRefill

variable (limiter : ByteRateLimiter)

/-- Within the capacity nothing saturates. -/
theorem bucket_refill (now : Nat) : (limiter.refill now).bucket = limiter.bucket.refill now := by
  have hfits := limiter.fits
  simp only [bucket, refill, TokenBucket.refill, TokenBucket.levelAt, TokenBucket.mk.injEq,
    true_and, and_true]
  omega

theorem bucket_foldl (times : List Nat) :
    (times.foldl refill limiter).bucket = times.foldl TokenBucket.refill limiter.bucket := by
  induction times generalizing limiter with
  | nil => rfl
  | cons time rest ih => rw [List.foldl_cons, ih, bucket_refill, List.foldl_cons]

theorem available_refill (now : Nat) :
    (limiter.refill now).available = limiter.bucket.levelAt now :=
  congrArg TokenBucket.level (limiter.bucket_refill now)

theorem levelAt_lastRefill :
    limiter.bucket.levelAt limiter.lastRefill = limiter.available :=
  TokenBucket.levelAt_last limiter.filled

theorem consume_wake (bytes : Nat) : (limiter.consume bytes).wake = limiter.wake := by
  unfold consume
  split
  · rfl
  · rfl

theorem bucket_consume (hrate : limiter.bytesPerSecond ≠ 0) (bytes : Nat) :
    (limiter.consume bytes).bucket = limiter.bucket.take (bytes * tokenUnitsPerByte) := by
  have hfilled := limiter.filled
  have hfits := limiter.fits
  rw [consume, if_neg hrate]
  simp only [bucket, TokenBucket.take, TokenBucket.mk.injEq, true_and, and_true]
  omega

/-- The deadline of a limiter without a whole byte is the time at which it has one. -/
theorem deadline_eq (hrate : limiter.bytesPerSecond ≠ 0)
    (hshort : limiter.available < tokenUnitsPerByte) :
    limiter.lastRefill + limiter.waitNanos = limiter.bucket.readyAt tokenUnitsPerByte := by
  have hpositive : 0 < limiter.bytesPerSecond := Nat.pos_of_ne_zero hrate
  have hsome : 0 < (tokenUnitsPerByte - limiter.available) ⌈/⌉ limiter.bytesPerSecond := by
    rw [Nat.pos_iff_ne_zero]
    intro hzero
    have hle := (ceilDiv_le_iff_le_mul hpositive).mp (Nat.le_of_eq hzero)
    omega
  have hmost : (tokenUnitsPerByte - limiter.available) ⌈/⌉ limiter.bytesPerSecond ≤
      tokenUnitsPerByte := by
    rw [ceilDiv_le_iff_le_mul hpositive]
    exact (Nat.sub_le _ _).trans (Nat.le_mul_of_pos_left _ hpositive)
  have hfits : tokenUnitsPerByte ≤ maxU64 := by decide
  rw [waitNanos, TokenBucket.readyAt]
  simp only [bucket]
  omega

/-- What the loop does: it is one refill at the last glance, which either yields whole
bytes or arms the timer for the first of them. -/
inductive Allowed (limiter next : ByteRateLimiter) (glance : Glance) : Poll Nat → Prop
  | ready (hbucket : next.bucket = limiter.bucket.refill glance.now)
      (hbyte : tokenUnitsPerByte ≤ next.available) (hwake : next.wake = none) :
      Allowed limiter next glance (.ready (min (next.available / tokenUnitsPerByte) maxU64))
  | pending (hbucket : next.bucket = limiter.bucket.refill glance.now)
      (hshort : next.available < tokenUnitsPerByte)
      (hwake : next.wake = some (limiter.bucket.readyAt tokenUnitsPerByte))
      (hwaits : glance.fired = false) : Allowed limiter next glance .pending

variable {limiter}

theorem allowanceLoop_allowed (hrate : limiter.bytesPerSecond ≠ 0) {glances : List Glance}
    (hsorted : (limiter.lastRefill :: glances.map Glance.now).Pairwise (· ≤ ·))
    {answer : Poll Nat} {next : ByteRateLimiter}
    (hloop : limiter.allowanceLoop glances = some (answer, next)) :
    ∃ glance ∈ glances, Allowed limiter next glance answer := by
  induction glances generalizing limiter with
  | nil => cases hloop
  | cons glance later ih =>
      obtain ⟨hbefore, hrest⟩ := List.pairwise_cons.mp hsorted
      have hlast : limiter.lastRefill ≤ glance.now := hbefore _ List.mem_cons_self
      have hpositive : 0 < limiter.bytesPerSecond := Nat.pos_of_ne_zero hrate
      have hunits : 0 < tokenUnitsPerByte := by decide
      rw [allowanceLoop] at hloop
      dsimp only at hloop
      split at hloop
      next hbytes =>
        cases hloop
        refine ⟨glance, List.mem_cons_self, .ready (limiter.bucket_refill _) ?_ rfl⟩
        exact (Nat.div_pos_iff.mp hbytes).2
      next hnone =>
        have hshort : (limiter.refill glance.now).available < tokenUnitsPerByte := by
          rw [← Nat.div_eq_zero_iff_lt hunits]
          exact Nat.eq_zero_of_not_pos hnone
        have hready : (limiter.refill glance.now).bucket.readyAt tokenUnitsPerByte =
            limiter.bucket.readyAt tokenUnitsPerByte := by
          rw [bucket_refill]
          refine TokenBucket.readyAt_refill hpositive (limiter.wholeByte hrate) hlast ?_
          rw [← available_refill]
          exact hshort
        split at hloop
        next hfired =>
          obtain ⟨last, hmem, hallowed⟩ :=
            @ih { limiter.refill glance.now with wake := none } hrate hrest hloop
          have hagain : ({ limiter.refill glance.now with wake := none } :
              ByteRateLimiter).bucket.refill last.now = limiter.bucket.refill last.now := by
            change (limiter.refill glance.now).bucket.refill last.now = _
            rw [bucket_refill]
            exact TokenBucket.refill_refill hlast
              ((List.pairwise_cons.mp hrest).1 _ (List.mem_map_of_mem hmem))
          refine ⟨last, List.mem_cons_of_mem _ hmem, ?_⟩
          cases hallowed with
          | ready hbucket hbyte hwake => exact .ready (hbucket.trans hagain) hbyte hwake
          | pending hbucket hless hwake hwaits =>
              exact .pending (hbucket.trans hagain) hless (hwake.trans (congrArg some hready))
                hwaits
        next hwaits =>
          cases hloop
          refine ⟨glance, List.mem_cons_self, .pending (limiter.bucket_refill _) hshort ?_
            (Bool.eq_false_iff.mpr hwaits)⟩
          rw [← hready, ← deadline_eq (limiter.refill glance.now) hrate hshort]
          rfl

end ByteRateLimiter

/-! ## Reads -/

namespace WebSocketIo

variable {T ε : Type} {inner : AsyncRead T ε}

/-- Only bytes are consumed and recorded. -/
theorem readLimited_eq {allowance : Nat} {readRate : ByteRateLimiter} {io next : T}
    {activity : Activity} {answer : Poll (Except ε Bytes)}
    (hread : inner.pollRead io allowance = (answer, next)) :
    readLimited inner allowance readRate io activity =
      (answer, ⟨next, readRate.consume (deliveredBytes answer).length⟩,
        if deliveredBytes answer = [] then activity else activity.record) := by
  have hzero : readRate.consume 0 = readRate := by
    unfold ByteRateLimiter.consume
    split
    · rfl
    · simp
  rw [readLimited, hread]
  match answer with
  | .pending => simp [deliveredBytes, hzero]
  | .ready (.error _) => simp [deliveredBytes, hzero]
  | .ready (.ok []) => rfl
  | .ready (.ok (first :: rest)) => rfl

/-- What one read asks of the inner stream and takes out of the bucket. -/
structure ReadStep (inner : AsyncRead T ε) (poll : ReadPoll) (io next : WebSocketIo T)
    (answer : Poll (Except ε Bytes)) : Prop where
  asked : answer = .pending ∧ next.inner = io.inner ∨
    ∃ capacity, (poll.remaining ≠ 0 → 0 < capacity) ∧ capacity ≤ poll.remaining ∧
      inner.pollRead io.inner capacity = (answer, next.inner)
  drawn : next.readRate.bucket = io.readRate.bucket ∧ deliveredBytes answer = [] ∨
    ∃ glance ∈ poll.glances,
      (deliveredBytes answer).length * tokenUnitsPerByte ≤
        io.readRate.bucket.levelAt glance.now ∧
      next.readRate.bucket = (io.readRate.bucket.refill glance.now).take
        ((deliveredBytes answer).length * tokenUnitsPerByte)

theorem pollRead_of_pending {poll : ReadPoll} {io : WebSocketIo T} {activity : Activity}
    {readRate : ByteRateLimiter} (hroom : poll.remaining ≠ 0)
    (hallowance : io.readRate.pollAllowance poll.glances = some (.pending, readRate)) :
    pollRead inner poll (io, activity) = some (.pending, { io with readRate }, activity) := by
  rw [pollRead]
  dsimp only
  rw [if_neg hroom, hallowance]

theorem pollRead_of_ready {poll : ReadPoll} {io : WebSocketIo T} {activity : Activity}
    {allowed : Nat} {readRate : ByteRateLimiter} (hroom : poll.remaining ≠ 0)
    (hallowance : io.readRate.pollAllowance poll.glances = some (.ready allowed, readRate)) :
    pollRead inner poll (io, activity) =
      some (readLimited inner (min allowed poll.remaining) readRate io.inner activity) := by
  rw [pollRead]
  dsimp only
  rw [if_neg hroom, hallowance]

theorem pollRead_step {poll : ReadPoll} {io next : WebSocketIo T} {activity sent : Activity}
    {answer : Poll (Except ε Bytes)} (hrate : io.readRate.bytesPerSecond ≠ 0)
    (hsorted : (io.readRate.lastRefill :: poll.glances.map Glance.now).Pairwise (· ≤ ·))
    (hpoll : pollRead inner poll (io, activity) = some (answer, next, sent)) :
    ReadStep inner poll io next answer := by
  rw [pollRead] at hpoll
  dsimp only at hpoll
  split at hpoll
  next hempty =>
    cases hpoll
    refine ⟨.inr ⟨0, absurd hempty, Nat.zero_le _, rfl⟩, .inl ⟨rfl, ?_⟩⟩
    exact List.eq_nil_of_length_eq_zero (Nat.le_zero.mp (inner.length_delivered_le io.inner 0))
  next hroom =>
    rw [ByteRateLimiter.pollAllowance, if_neg hrate] at hpoll
    split at hpoll
    · cases hpoll
    next readRate hloop =>
      cases hpoll
      obtain ⟨glance, hglance, hallowed⟩ :=
        ByteRateLimiter.allowanceLoop_allowed hrate hsorted hloop
      cases hallowed with
      | pending hbucket _ _ _ =>
          have hnothing : (deliveredBytes (.pending : Poll (Except ε Bytes))).length *
              tokenUnitsPerByte = 0 := Nat.zero_mul _
          refine ⟨.inl ⟨rfl, rfl⟩, .inr ⟨glance, hglance, ?_, ?_⟩⟩
          · rw [hnothing]
            exact Nat.zero_le _
          · rw [hnothing]
            exact hbucket
    next allowed readRate hloop =>
      obtain ⟨glance, hglance, hallowed⟩ :=
        ByteRateLimiter.allowanceLoop_allowed hrate hsorted hloop
      cases hallowed with
      | ready hbucket hbyte _ =>
          have hlevel : io.readRate.bucket.levelAt glance.now = readRate.available :=
            (congrArg TokenBucket.level hbucket).symm
          obtain ⟨allowance, hallowance⟩ : ∃ allowance, allowance =
            min (min (readRate.available / tokenUnitsPerByte) maxU64) poll.remaining := ⟨_, rfl⟩
          have hwhole : 0 < readRate.available / tokenUnitsPerByte :=
            Nat.div_pos hbyte (by decide)
          have hmax : 0 < maxU64 := by decide
          obtain ⟨result, state, hread⟩ : ∃ result state,
            inner.pollRead io.inner allowance = (result, state) := ⟨_, _, rfl⟩
          have hdelivered : (deliveredBytes result).length ≤ allowance := by
            have hle := inner.length_delivered_le io.inner allowance
            rwa [hread] at hle
          have hspent : (deliveredBytes result).length * tokenUnitsPerByte ≤
              readRate.available := by
            refine (Nat.mul_le_mul_right _ ?_).trans (Nat.div_mul_le_self _ tokenUnitsPerByte)
            omega
          have hrateNext : readRate.bytesPerSecond ≠ 0 := by
            rw [show readRate.bytesPerSecond = io.readRate.bytesPerSecond from
              congrArg TokenBucket.rate hbucket]
            exact hrate
          rw [← hallowance, readLimited_eq hread] at hpoll
          cases hpoll
          refine ⟨.inr ⟨allowance, fun _ => by omega, by omega, hread⟩,
            .inr ⟨glance, hglance, hspent.trans_eq hlevel.symm, ?_⟩⟩
          rw [ByteRateLimiter.bucket_consume _ hrateNext, hbucket]

/-! ## Runs of reads -/

/-- The instants at which the clock is read. -/
def readTimes (polls : List ReadPoll) : List Nat :=
  polls.flatMap fun poll => poll.glances.map Glance.now

/-- What a run of reads takes out of the bucket and out of the inner stream. -/
structure ReadRun (inner : AsyncRead T ε) (polls : List ReadPoll) (io final : WebSocketIo T)
    (answers : List (Poll (Except ε Bytes))) : Prop where
  rate : final.readRate.bytesPerSecond = io.readRate.bytesPerSecond
  capacity : final.readRate.capacity = io.readRate.capacity
  last : final.readRate.lastRefill = io.readRate.lastRefill ∨
    final.readRate.lastRefill ∈ readTimes polls
  draws : ∃ draws, io.readRate.bucket.Conforms draws ∧
    (draws.map Prod.snd).sum = (readBytes answers).length * tokenUnitsPerByte ∧
    ∀ draw ∈ draws, draw.1 ∈ readTimes polls
  asked : ∃ capacities, final.inner = (inner.reads capacities io.inner).2 ∧
    ((inner.reads capacities io.inner).1).Sublist answers ∧
    readBytes answers = readBytes (inner.reads capacities io.inner).1

theorem ReadRun.nil (io : WebSocketIo T) : ReadRun inner [] io io [] where
  rate := rfl
  capacity := rfl
  last := .inl rfl
  draws := ⟨[], trivial, (Nat.zero_mul _).symm, nofun⟩
  asked := ⟨[], rfl, .slnil, rfl⟩

/-- A read keeps the rate and the capacity, and looks at the clock at most. -/
theorem ReadStep.kept {poll : ReadPoll} {io next : WebSocketIo T}
    {answer : Poll (Except ε Bytes)} (hstep : ReadStep inner poll io next answer) :
    next.readRate.bytesPerSecond = io.readRate.bytesPerSecond ∧
      next.readRate.capacity = io.readRate.capacity ∧
      (next.readRate.lastRefill = io.readRate.lastRefill ∨
        next.readRate.lastRefill ∈ poll.glances.map Glance.now) := by
  obtain ⟨hbucket, -⟩ | ⟨glance, hglance, -, hbucket⟩ := hstep.drawn
  · exact ⟨congrArg TokenBucket.rate hbucket, congrArg TokenBucket.capacity hbucket,
      .inl (congrArg TokenBucket.last hbucket)⟩
  · refine ⟨congrArg TokenBucket.rate hbucket, congrArg TokenBucket.capacity hbucket, .inr ?_⟩
    rw [show next.readRate.lastRefill = glance.now from congrArg TokenBucket.last hbucket]
    exact List.mem_map_of_mem hglance

theorem ReadRun.cons {poll : ReadPoll} {polls : List ReadPoll} {io next final : WebSocketIo T}
    {answer : Poll (Except ε Bytes)} {answers : List (Poll (Except ε Bytes))}
    (hsorted : (io.readRate.lastRefill :: poll.glances.map Glance.now).Pairwise (· ≤ ·))
    (hstep : ReadStep inner poll io next answer) (hrun : ReadRun inner polls next final answers) :
    ReadRun inner (poll :: polls) io final (answer :: answers) := by
  obtain ⟨hrate, hcapacity, hlast⟩ := hstep.kept
  have hbytes : readBytes (answer :: answers) = deliveredBytes answer ++ readBytes answers := rfl
  constructor
  case rate => exact hrun.rate.trans hrate
  case capacity => exact hrun.capacity.trans hcapacity
  case last =>
    obtain hsame | hlater := hrun.last
    · rw [hsame]
      exact hlast.imp_right (List.mem_append_left _)
    · exact .inr (List.mem_append_right _ hlater)
  case draws =>
    obtain ⟨draws, hconforms, htotal, htimes⟩ := hrun.draws
    have hlater : ∀ draw ∈ draws, draw.1 ∈ readTimes (poll :: polls) :=
      fun draw hdraw => List.mem_append_right _ (htimes draw hdraw)
    obtain ⟨hbucket, hnothing⟩ | ⟨glance, hglance, hamount, hbucket⟩ := hstep.drawn
    · refine ⟨draws, hbucket ▸ hconforms, ?_, hlater⟩
      rw [htotal, hbytes, hnothing, List.nil_append]
    · have htime : glance.now ∈ poll.glances.map Glance.now := List.mem_map_of_mem hglance
      refine ⟨(glance.now, (deliveredBytes answer).length * tokenUnitsPerByte) :: draws, ?_, ?_, ?_⟩
      · exact ⟨(List.pairwise_cons.mp hsorted).1 _ htime, hamount, hbucket ▸ hconforms⟩
      · rw [List.map_cons, List.sum_cons, htotal, hbytes, List.length_append, Nat.add_mul]
      · exact List.forall_mem_cons.mpr ⟨List.mem_append_left _ htime, hlater⟩
  case asked =>
    obtain ⟨capacities, hinner, hanswers, hread⟩ := hrun.asked
    obtain ⟨rfl, hsame⟩ | ⟨capacity, -, -, hpoll⟩ := hstep.asked
    · rw [hsame] at hinner hanswers hread
      exact ⟨capacities, hinner, hanswers.cons _, hread⟩
    · have hreads : inner.reads (capacity :: capacities) io.inner =
          (answer :: (inner.reads capacities next.inner).1,
            (inner.reads capacities next.inner).2) := by
        simp [AsyncRead.reads, hpoll]
      refine ⟨capacity :: capacities, ?_, ?_, ?_⟩
      · rw [hreads, hinner]
      · rw [hreads]
        exact hanswers.cons_cons _
      · rw [hreads, hbytes, hread]
        rfl

theorem readRun_of_run? {polls : List ReadPoll} {io final : WebSocketIo T}
    {activity sent : Activity} {answers : List (Poll (Except ε Bytes))}
    (hrate : io.readRate.bytesPerSecond ≠ 0)
    (hsorted : (io.readRate.lastRefill :: readTimes polls).Pairwise (· ≤ ·))
    (hrun : Poll.run? (pollRead inner) polls (io, activity) = some (answers, final, sent)) :
    ReadRun inner polls io final answers := by
  induction polls generalizing io activity answers with
  | nil =>
      cases hrun
      exact .nil _
  | cons poll rest ih =>
      rw [Poll.run?, Option.bind_eq_some_iff] at hrun
      obtain ⟨⟨answer, next, between⟩, hpoll, hrest⟩ := hrun
      obtain ⟨⟨more, last, sentLast⟩, hlater, hlast⟩ := Option.map_eq_some_iff.mp hrest
      cases hlast
      have htimes : readTimes (poll :: rest) = poll.glances.map Glance.now ++ readTimes rest := rfl
      rw [htimes, ← List.cons_append] at hsorted
      obtain ⟨hfirst, hothers, hacross⟩ := List.pairwise_append.mp hsorted
      have hstep := pollRead_step hrate hfirst hpoll
      obtain ⟨hsameRate, -, hlast⟩ := hstep.kept
      refine .cons hfirst hstep (ih (hsameRate ▸ hrate) ?_ hlater)
      refine List.pairwise_cons.mpr ⟨fun time htime => ?_, hothers⟩
      obtain hsame | hglance := hlast
      · rw [hsame]
        exact hacross _ List.mem_cons_self time htime
      · exact hacross _ (List.mem_cons_of_mem _ hglance) time htime

/-- A reader keeps its rate in every window, however it is polled, and hands on what the
inner stream delivers. -/
structure LimitedReads (inner : AsyncRead T ε) (stream : T)
    (bytesPerSecond burstWindow opened : Nat) (activity : Activity) : Prop where
  window : ∀ earlier first middle sent window answers final start duration,
    Poll.run? (pollRead inner) earlier (.new stream bytesPerSecond burstWindow opened, activity) =
      some (first, middle, sent) →
    Poll.run? (pollRead inner) window (middle, sent) = some (answers, final) →
    (opened :: readTimes (earlier ++ window)).Pairwise (· ≤ ·) →
    (∀ time ∈ opened :: readTimes earlier, time ≤ start) →
    (∀ time ∈ readTimes window, start ≤ time ∧ time ≤ start + duration) →
    (readBytes answers).length * 10 ^ 9 ≤
      max (min (bytesPerSecond * burstWindow) (2 ^ 128 - 1)) (10 ^ 9) + bytesPerSecond * duration
  inOrder : ∀ polls answers final,
    Poll.run? (pollRead inner) polls (.new stream bytesPerSecond burstWindow opened, activity) =
      some (answers, final) →
    (opened :: readTimes polls).Pairwise (· ≤ ·) →
    ∃ capacities, final.1.inner = (inner.reads capacities stream).2 ∧
      ((inner.reads capacities stream).1).Sublist answers ∧
      readBytes answers = readBytes (inner.reads capacities stream).1
  refills : ∀ (limiter : ByteRateLimiter) times last,
    (limiter.lastRefill :: times ++ [last]).Pairwise (· ≤ ·) →
    ((times.foldl ByteRateLimiter.refill limiter).refill last).available =
      (limiter.refill last).available

/-- However a reader is polled, no window gets more than a full bucket and what its time refills.
The bytes come from the inner stream in order, none lost and none twice, and many small refills
leave as much as one. -/
theorem reads_limited (inner : AsyncRead T ε) (stream : T) {bytesPerSecond : Nat}
    (hrate : bytesPerSecond ≠ 0) (burstWindow opened : Nat) (activity : Activity) :
    LimitedReads inner stream bytesPerSecond burstWindow opened activity := by
  have hopened : (new stream bytesPerSecond burstWindow opened).readRate.bytesPerSecond ≠ 0 := hrate
  constructor
  case window =>
    intro earlier first middle sent window answers final start duration hearlier hwindow hsorted
      hbefore hwithin
    have htimes : readTimes (earlier ++ window) = readTimes earlier ++ readTimes window :=
      List.flatMap_append
    rw [htimes, ← List.cons_append] at hsorted
    obtain ⟨hfirst, hlater, hacross⟩ := List.pairwise_append.mp hsorted
    have hstart := readRun_of_run? hopened hfirst hearlier
    have hlast : middle.readRate.lastRefill ∈ opened :: readTimes earlier := by
      obtain hsame | hmem := hstart.last
      · exact hsame ▸ List.mem_cons_self
      · exact List.mem_cons_of_mem _ hmem
    have hmiddle : (middle.readRate.lastRefill :: readTimes window).Pairwise (· ≤ ·) :=
      List.pairwise_cons.mpr ⟨hacross _ hlast, hlater⟩
    have hrun := readRun_of_run? (hstart.rate ▸ hopened) hmiddle hwindow
    obtain ⟨draws, hconforms, htotal, hdraws⟩ := hrun.draws
    have hle := hconforms.total_le (hbefore _ hlast) (Nat.le_add_right start duration)
      fun draw hdraw => hwithin _ (hdraws draw hdraw)
    have hcapacity : middle.readRate.bucket.levelAt start ≤
        max (min (bytesPerSecond * burstWindow) maxU128) tokenUnitsPerByte := by
      refine (middle.readRate.bucket.levelAt_le_capacity start).trans_eq ?_
      exact hstart.capacity.trans (if_neg hrate)
    have hgain : middle.readRate.bucket.rate * (start + duration - start) =
        bytesPerSecond * duration := by
      rw [Nat.add_sub_cancel_left]
      exact congrArg (· * duration) hstart.rate
    rw [htotal, hgain] at hle
    exact hle.trans (Nat.add_le_add_right hcapacity _)
  case inOrder =>
    intro polls answers final hrun hsorted
    exact (readRun_of_run? hopened hsorted hrun).asked
  case refills =>
    intro limiter times last hsorted
    rw [ByteRateLimiter.available_refill, ByteRateLimiter.available_refill,
      ByteRateLimiter.bucket_foldl]
    exact congrArg TokenBucket.level (TokenBucket.refill_foldl times hsorted)

/-- Two bytes that are there, at one byte a second: the second one has to wait. -/
theorem reads_limited_twoBytes :
    ∃ final, Poll.run? (pollRead (Arrivals.reader : AsyncRead (Arrivals Unit) Unit))
        [⟨8, [⟨0, false⟩]⟩, ⟨8, [⟨1, false⟩]⟩, ⟨8, [⟨1000000000, false⟩]⟩]
        (.new [.data 0x61 [0x62]] 1 1 0, ⟨0, false⟩) =
        some ([.ready (.ok [0x61]), .pending, .ready (.ok [0x62])], final) ∧
      LimitedReads (Arrivals.reader : AsyncRead (Arrivals Unit) Unit) [.data 0x61 [0x62]] 1 1 0
        ⟨0, false⟩ :=
  ⟨_, rfl, reads_limited _ _ (by decide) 1 0 _⟩

end WebSocketIo

/-! ## Waiting for a byte -/

namespace ByteRateLimiter

variable {limiter : ByteRateLimiter}

/-- The clock never goes back, and a timer never fires before its deadline. -/
def Honest (limiter : ByteRateLimiter) : List Glance → Prop
  | [] => True
  | glance :: later =>
      limiter.lastRefill ≤ glance.now ∧
        (glance.fired = true → ∀ next ∈ later.head?,
          glance.now + (limiter.refill glance.now).waitNanos ≤ next.now) ∧
        Honest { limiter.refill glance.now with wake := none } later

theorem Honest.sorted {glances : List Glance} (hhonest : limiter.Honest glances) :
    (limiter.lastRefill :: glances.map Glance.now).Pairwise (· ≤ ·) := by
  induction glances generalizing limiter with
  | nil => exact List.pairwise_singleton _ _
  | cons glance later ih =>
      obtain ⟨hlast, -, hlater⟩ := hhonest
      have hrest : (glance.now :: later.map Glance.now).Pairwise (· ≤ ·) := ih hlater
      refine List.pairwise_cons.mpr ⟨List.forall_mem_cons.mpr ⟨hlast, fun time htime => ?_⟩, hrest⟩
      exact hlast.trans ((List.pairwise_cons.mp hrest).1 time htime)

/-- The deadline of the loop is the first instant with a whole byte. -/
theorem units_le_available_iff (hrate : limiter.bytesPerSecond ≠ 0) {now later : Nat}
    (hle : now ≤ later) (hshort : (limiter.refill now).available < tokenUnitsPerByte) :
    tokenUnitsPerByte ≤ ((limiter.refill now).refill later).available ↔
      now + (limiter.refill now).waitNanos ≤ later := by
  have hdeadline : now + (limiter.refill now).waitNanos =
      (limiter.refill now).bucket.readyAt tokenUnitsPerByte :=
    deadline_eq (limiter.refill now) hrate hshort
  rw [available_refill, hdeadline]
  exact TokenBucket.le_levelAt_iff (Nat.pos_of_ne_zero hrate) (limiter.wholeByte hrate) hle

/-- With a whole byte the loop returns at the first glance. -/
theorem allowanceLoop_of_units {glance : Glance} (later : List Glance)
    (hbyte : tokenUnitsPerByte ≤ (limiter.refill glance.now).available) :
    ∃ allowed next, limiter.allowanceLoop (glance :: later) = some (.ready allowed, next) ∧
      0 < allowed := by
  have hbytes : 0 < (limiter.refill glance.now).available / tokenUnitsPerByte :=
    Nat.div_pos hbyte (by decide)
  have hmax : 0 < maxU64 := by decide
  refine ⟨_, _, if_pos hbytes, ?_⟩
  omega

theorem allowanceLoop_of_short {glance : Glance} (later : List Glance)
    (hshort : (limiter.refill glance.now).available < tokenUnitsPerByte) :
    limiter.allowanceLoop (glance :: later) =
      if glance.fired then
        allowanceLoop { limiter.refill glance.now with wake := none } later
      else some (.pending, { limiter.refill glance.now with
        wake := some (glance.now + (limiter.refill glance.now).waitNanos) }) := by
  have hnone : ¬(limiter.refill glance.now).available / tokenUnitsPerByte > 0 := by
    rw [Nat.div_eq_of_lt hshort]
    exact Nat.lt_irrefl 0
  exact if_neg hnone

/-- Without an elapsed timer one pass is enough. -/
theorem allowanceLoop_once (limiter : ByteRateLimiter) (now : Nat) :
    ∃ answer next, limiter.allowanceLoop [⟨now, false⟩] = some (answer, next) := by
  by_cases hbyte : tokenUnitsPerByte ≤ (limiter.refill now).available
  · obtain ⟨allowed, next, hreturns, -⟩ := @allowanceLoop_of_units limiter ⟨now, false⟩ [] hbyte
    exact ⟨_, _, hreturns⟩
  · exact ⟨_, _, @allowanceLoop_of_short limiter ⟨now, false⟩ [] (Nat.lt_of_not_le hbyte)⟩

/-- How a limiter that is asked for its allowance comes to one. -/
structure Progress (limiter : ByteRateLimiter) : Prop where
  earliest : ∀ now later, limiter.lastRefill ≤ now → now ≤ later →
    (limiter.refill now).available < tokenUnitsPerByte →
    (tokenUnitsPerByte ≤ ((limiter.refill now).refill later).available ↔
      now + (limiter.refill now).waitNanos ≤ later)
  returns : ∀ first second later, limiter.Honest (first :: second :: later) →
    ∃ answer next, limiter.pollAllowance (first :: second :: later) = some (answer, next) ∧
      (first.fired = true → ∃ allowed, answer = .ready allowed ∧ 0 < allowed)
  positive : ∀ glances allowed next, limiter.Honest glances →
    limiter.pollAllowance glances = some (.ready allowed, next) → 0 < allowed
  armed : ∀ glances next, limiter.Honest glances →
    limiter.pollAllowance glances = some (.pending, next) →
    ∃ deadline, next.wake = some deadline ∧
      (∀ later, next.lastRefill ≤ later →
        (tokenUnitsPerByte ≤ (next.refill later).available ↔ deadline ≤ later)) ∧
      ∀ glance later, deadline ≤ glance.now → next.Honest (glance :: later) →
        ∃ allowed last, next.pollAllowance (glance :: later) = some (.ready allowed, last) ∧
          0 < allowed
  noSpuriousEnd : ∀ {T ε : Type} (inner : AsyncRead T ε) (poll : ReadPoll) (stream : T)
      (activity sent : Activity) (next : WebSocketIo T), poll.remaining ≠ 0 →
    limiter.Honest poll.glances →
    WebSocketIo.pollRead inner poll (⟨stream, limiter⟩, activity) =
      some (.ready (.ok []), next, sent) →
    ∃ capacity, 0 < capacity ∧ inner.pollRead stream capacity = (.ready (.ok []), next.inner)

/-- A limiter with a rate makes progress: it asks to be woken at the first instant at which a byte
is free, from then on the next poll answers with at least one, and it never passes off an empty
read of its own as the end of the stream. -/
theorem progress (limiter : ByteRateLimiter) (hrate : limiter.bytesPerSecond ≠ 0) :
    limiter.Progress := by
  have hloop : ∀ {other : ByteRateLimiter} (glances : List Glance),
      other.bytesPerSecond ≠ 0 → other.pollAllowance glances = other.allowanceLoop glances :=
    fun glances hother => if_neg hother
  constructor
  case earliest => exact fun now later _ hle hshort => units_le_available_iff hrate hle hshort
  case returns =>
    intro first second later hhonest
    rw [hloop _ hrate]
    by_cases hbyte : tokenUnitsPerByte ≤ (limiter.refill first.now).available
    · obtain ⟨allowed, next, hreturns, hpositive⟩ := allowanceLoop_of_units (second :: later) hbyte
      exact ⟨_, _, hreturns, fun _ => ⟨allowed, rfl, hpositive⟩⟩
    · have hshort := Nat.lt_of_not_le hbyte
      rw [allowanceLoop_of_short _ hshort]
      by_cases hfired : first.fired = true
      · obtain ⟨-, htimer, hsecond, -⟩ := hhonest
        have hdeadline := htimer hfired second rfl
        have hagain := (units_le_available_iff hrate hsecond hshort).mpr hdeadline
        obtain ⟨allowed, next, hreturns, hpositive⟩ :=
          @allowanceLoop_of_units { limiter.refill first.now with wake := none } second later hagain
        rw [if_pos hfired]
        exact ⟨_, _, hreturns, fun _ => ⟨allowed, rfl, hpositive⟩⟩
      · rw [if_neg hfired]
        exact ⟨_, _, rfl, fun hfires => absurd hfires hfired⟩
  case positive =>
    intro glances allowed next hhonest hok
    rw [hloop _ hrate] at hok
    obtain ⟨glance, -, hallowed⟩ := allowanceLoop_allowed hrate hhonest.sorted hok
    cases hallowed with
    | ready _ hbyte _ =>
        have hbytes : 0 < next.available / tokenUnitsPerByte := Nat.div_pos hbyte (by decide)
        have hmax : 0 < maxU64 := by decide
        omega
  case armed =>
    intro glances next hhonest hok
    rw [hloop _ hrate] at hok
    obtain ⟨glance, hglance, hallowed⟩ := allowanceLoop_allowed hrate hhonest.sorted hok
    cases hallowed with
    | pending hbucket hshort hwake _ =>
        have hlast : limiter.lastRefill ≤ glance.now :=
          (List.pairwise_cons.mp hhonest.sorted).1 _ (List.mem_map_of_mem hglance)
        have hnext : next.bytesPerSecond = limiter.bytesPerSecond :=
          congrArg TokenBucket.rate hbucket
        have hnextRate : next.bytesPerSecond ≠ 0 := hnext ▸ hrate
        have hlevel : limiter.bucket.levelAt glance.now < tokenUnitsPerByte :=
          (congrArg TokenBucket.level hbucket).symm.trans_lt hshort
        have hsame : next.bucket.readyAt tokenUnitsPerByte =
            limiter.bucket.readyAt tokenUnitsPerByte := by
          rw [hbucket]
          exact TokenBucket.readyAt_refill (Nat.pos_of_ne_zero hrate) (limiter.wholeByte hrate)
            hlast hlevel
        have hearliest : ∀ later, next.lastRefill ≤ later →
            (tokenUnitsPerByte ≤ (next.refill later).available ↔
              limiter.bucket.readyAt tokenUnitsPerByte ≤ later) := by
          intro later hlater
          rw [available_refill, ← hsame]
          exact TokenBucket.le_levelAt_iff (Nat.pos_of_ne_zero hnextRate)
            (next.wholeByte hnextRate) hlater
        refine ⟨_, hwake, hearliest, fun again later hdeadline hagain => ?_⟩
        obtain ⟨allowed, last, hreturns, hpositive⟩ :=
          allowanceLoop_of_units later ((hearliest _ hagain.1).mpr hdeadline)
        exact ⟨allowed, last, (hloop _ hnextRate).trans hreturns, hpositive⟩
  case noSpuriousEnd =>
    intro T ε inner poll stream activity sent next hroom hhonest hpoll
    have hstep := WebSocketIo.pollRead_step hrate hhonest.sorted hpoll
    obtain ⟨hpending, -⟩ | ⟨capacity, hpositive, -, hread⟩ := hstep.asked
    · cases hpending
    · exact ⟨capacity, hpositive hroom, hread⟩

/-- At one byte a second the byte after the first one waits for its second. -/
theorem progress_oneBytePerSecond :
    (((new 1 1 0).consume 1).pollAllowance [⟨5, false⟩]).map (fun polled => polled.2.wake) =
        some (some 1000000000) ∧
      ((new 1 1 0).consume 1).Progress :=
  ⟨rfl, progress _ (by decide)⟩

end ByteRateLimiter

end Rpackit.Transport
