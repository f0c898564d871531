import Rpackit.Library.ReadLayer
import Rpackit.Transport.ContentCodings
import Rpackit.Transport.ResponseStream

/-! # Decoding of response bodies

The guarded upstream body is read as a stream of bytes, one decoder is stacked for each
coding, and what the last one delivers is framed again behind a second guard. The first
guard bounds what the decoders can read, the second one what they can make of it.
-/

namespace Rpackit.Transport

open Text

variable {ε ι G B : Type}

/-! ## The codecs -/

/-- What decoding relies on: a decoder undoes its encoder, and as a reader over a reader
it is a streaming function. -/
structure Codecs where
  encode : ContentCoding → Bytes → Bytes
  decode : ContentCoding → Bytes → Option Bytes
  decoder : ContentCoding → ReadLayer IoError
  decode_encode : ∀ coding content, decode coding (encode coding content) = some content
  streams : ∀ coding, (decoder coding).Streams (decode coding)

namespace Codecs

variable (codecs : Codecs)

/-- The codings applied in the order of the header. -/
def encodeAll (codings : List ContentCoding) (content : Bytes) : Bytes :=
  codings.foldl (fun bytes coding => codecs.encode coding bytes) content

/-- The codings undone, the last one first. -/
def decodeAll (codings : List ContentCoding) (bytes : Bytes) : Option Bytes :=
  codings.reverse.foldlM (fun bytes coding => codecs.decode coding bytes) bytes

theorem decodeAll_encodeAll (codings : List ContentCoding) (content : Bytes) :
    codecs.decodeAll codings (codecs.encodeAll codings content) = some content := by
  induction codings generalizing content with
  | nil => rfl
  | cons coding rest ih =>
      have hrest := ih (codecs.encode coding content)
      rw [decodeAll] at hrest
      rw [decodeAll, List.reverse_cons, List.foldlM_append, encodeAll, List.foldl_cons]
      rw [encodeAll] at hrest
      rw [hrest]
      exact congrArg (Option.bind · some) (codecs.decode_encode coding content)

end Codecs

/-! ## The body as a stream of bytes -/

/-- `StreamReader` over the data frames of a body. The polls that are still to come are
given with the input of each; after these every poll has the last one. -/
structure StreamReader (ι G : Type) where
  chunk : Bytes
  body : G
  ticks : List ι
  later : ι

namespace StreamReader

/-- What a frame is to the reader; empty frames and other frames than data are passed over. -/
def chunk? : FramePoll IoError → Option (Poll (Except IoError Bytes))
  | .pending => some .pending
  | .ready none => some (.ready (.ok []))
  | .ready (some (.error error)) => some (.ready (.error error))
  | .ready (some (.ok (.data (first :: rest)))) => some (.ready (.ok (first :: rest)))
  | .ready (some (.ok _)) => none

/-- Poll the body until there is a chunk; past the given polls a frame that would be passed
over is awaited instead. -/
def fillBuf (poll : ι → G → FramePoll IoError × G) (later : ι) :
    List ι → G → Poll (Except IoError Bytes) × G × List ι
  | [], body =>
      let (answer, next) := poll later body
      ((chunk? answer).getD .pending, next, [])
  | tick :: ticks, body =>
      let (answer, next) := poll tick body
      match chunk? answer with
      | some chunk => (chunk, next, ticks)
      | none => fillBuf poll later ticks next

def pollRead (poll : ι → G → FramePoll IoError × G) (reader : StreamReader ι G)
    (capacity : Nat) : Poll (Except IoError Bytes) × StreamReader ι G :=
  if capacity = 0 then (.ready (.ok []), reader)
  else if reader.chunk ≠ [] then
    (.ready (.ok (reader.chunk.take capacity)),
      { reader with chunk := reader.chunk.drop capacity })
  else
    let (answer, body, ticks) := fillBuf poll reader.later reader.ticks reader.body
    match answer with
    | .pending => (.pending, { reader with body, ticks })
    | .ready (.error error) => (.ready (.error error), { reader with body, ticks })
    | .ready (.ok chunk) =>
        (.ready (.ok (chunk.take capacity)),
          { reader with chunk := chunk.drop capacity, body, ticks })

def read (poll : ι → G → FramePoll IoError × G) : AsyncRead (StreamReader ι G) IoError where
  pollRead := pollRead poll
  bounded {reader capacity bytes next} hpoll := by
    unfold pollRead at hpoll
    split at hpoll
    · cases hpoll
      exact Nat.zero_le _
    · split at hpoll
      · cases hpoll
        exact List.length_take_le _ _
      · dsimp only at hpoll
        split at hpoll
        · cases hpoll
        · cases hpoll
        · cases hpoll
          exact List.length_take_le _ _

end StreamReader

/-! ## Bytes as a stream of frames -/

/-- `ReaderStream`: a reader as a body of data frames, until its end or its first error. -/
structure ReaderStream (R : Type) where
  reader : Option R
  capacity : Nat
  room : Nat
  deriving DecidableEq

namespace ReaderStream

variable {R : Type}

def withCapacity (reader : R) (capacity : Nat) : ReaderStream R := ⟨some reader, capacity, capacity⟩

def pollFrame (read : AsyncRead R IoError) (stream : ReaderStream R) :
    FramePoll IoError × ReaderStream R :=
  match stream.reader with
  | none => (.ready none, stream)
  | some reader =>
      -- the buffer is allocated anew once all of it has been handed over
      let room := if stream.room = 0 then stream.capacity else stream.room
      match read.pollRead reader room with
      | (.pending, next) => (.pending, { stream with reader := some next, room })
      | (.ready (.error error), _) => (.ready (some (.error error)), { stream with reader := none })
      | (.ready (.ok []), _) => (.ready none, { stream with reader := none })
      | (.ready (.ok (first :: rest)), next) =>
          (.ready (some (.ok (.data (first :: rest)))),
            { stream with reader := some next, room := room - (first :: rest).length })

end ReaderStream

/-! ## The decoded body -/

/-- The decoders over a reader, the last coding next to it. -/
def decodeReader (codecs : Codecs) (codings : List ContentCoding) (base : BoxReader IoError) :
    BoxReader IoError :=
  codings.reverse.foldl (fun reader coding => (codecs.decoder coding).box reader) base

/-- A body with its state, whatever the type of the state is. -/
structure BoxBody where
  State : Type
  pollFrame : State → FramePoll IoError × State
  state : State

def BoxBody.answers (body : BoxBody) (count : Nat) : List (FramePoll IoError) :=
  (Poll.first body.pollFrame count body.state).1

/-- The guarded body as the reader below the decoders. -/
def encodedReader (poll : ι → G → FramePoll IoError × G) (ticks : List ι) (later : ι) (body : G) :
    BoxReader IoError :=
  ⟨StreamReader ι G, StreamReader.read poll, ⟨[], body, ticks, later⟩⟩

def decodeBody (codecs : Codecs) (poll : ι → G → FramePoll IoError × G) (ticks : List ι)
    (later : ι) (body : G) (codings : List ContentCoding) (maxDecodedBodyBytes : Nat) : BoxBody :=
  let reader := decodeReader codecs codings (encodedReader poll ticks later body)
  { State := DecodedBodyGuard (ReaderStream reader.State)
    pollFrame := DecodedBodyGuard.pollFrame (ReaderStream.pollFrame reader.read)
    state := .new (.withCapacity reader.state (16 * 1024)) maxDecodedBodyBytes }

/-! ## What the decoders read -/

namespace StreamReader

/-- The chunk that polls of the body lead to. -/
structure Fills (answers : List (FramePoll IoError)) (chunk : Poll (Except IoError Bytes)) :
    Prop where
  bytes : dataBytes answers = deliveredBytes chunk
  ends : chunk = .ready (.ok []) → .ready none ∈ answers
  fails : (∃ error, .ready (.error error) = chunk) ↔
    ∃ error, .ready (some (.error error)) ∈ answers
  waits : chunk = .pending → ∃ answer ∈ answers, answer = .pending ∨ chunk? answer = none

theorem fills_of_chunk {answer : FramePoll IoError} {chunk : Poll (Except IoError Bytes)}
    (hchunk : chunk? answer = some chunk) : Fills [answer] chunk := by
  match answer with
  | .pending =>
      cases hchunk
      exact ⟨rfl, nofun, by simp, fun _ => ⟨_, List.mem_cons_self, .inl rfl⟩⟩
  | .ready none =>
      cases hchunk
      exact ⟨rfl, fun _ => List.mem_cons_self, by simp, nofun⟩
  | .ready (some (.error _)) =>
      cases hchunk
      exact ⟨rfl, nofun, by simp, nofun⟩
  | .ready (some (.ok (.data (first :: rest)))) =>
      cases hchunk
      exact ⟨List.append_nil _, nofun, by simp, nofun⟩

/-- A frame that is passed over has no data and is no error. -/
theorem chunk?_eq_none {answer : FramePoll IoError} (hpassed : chunk? answer = none) :
    frameData answer = [] ∧ ∀ error, .ready (some (.error error)) ≠ answer := by
  match answer with
  | .ready (some (.ok (.data []))) => exact ⟨rfl, nofun⟩
  | .ready (some (.ok (.trailers _))) => exact ⟨rfl, nofun⟩
  | .ready (some (.ok .unknown)) => exact ⟨rfl, nofun⟩

theorem exists_frame_of_passed {answer : FramePoll IoError} (hpassed : chunk? answer = none) :
    ∃ frame, answer = .ready (some (.ok frame)) := by
  match answer with
  | .ready (some (.ok frame)) => exact ⟨frame, rfl⟩

theorem fills_of_passed {answer : FramePoll IoError} (hpassed : chunk? answer = none) :
    Fills [answer] .pending := by
  obtain ⟨hdata, herror⟩ := chunk?_eq_none hpassed
  refine ⟨?_, nofun, ?_, fun _ => ⟨answer, List.mem_cons_self, .inr hpassed⟩⟩
  · rw [dataBytes_cons, hdata]
    rfl
  · simp [herror]

theorem Fills.passed {answer : FramePoll IoError} {answers : List (FramePoll IoError)}
    {chunk : Poll (Except IoError Bytes)} (hpassed : chunk? answer = none)
    (hfills : Fills answers chunk) : Fills (answer :: answers) chunk := by
  obtain ⟨hdata, herror⟩ := chunk?_eq_none hpassed
  obtain ⟨hbytes, hends, hfails, hwaits⟩ := hfills
  refine ⟨?_, fun hend => List.mem_cons_of_mem _ (hends hend), ?_, ?_⟩
  · rw [dataBytes_cons, hdata, hbytes, List.nil_append]
  · rw [hfails]
    refine exists_congr fun error => ?_
    rw [List.mem_cons, or_iff_right (herror error)]
  · intro hpending
    obtain ⟨waiting, hmem, hwaiting⟩ := hwaits hpending
    exact ⟨waiting, List.mem_cons_of_mem _ hmem, hwaiting⟩

variable {poll : ι → G → FramePoll IoError × G} {later : ι}

/-- Filling the buffer polls the body along the schedule. -/
theorem fillBuf_fills (ticks : List ι) (body : G) :
    ∃ used count, ticks ++ List.replicate count later =
        used ++ (fillBuf poll later ticks body).2.2 ∧
      (fillBuf poll later ticks body).2.1 = (Poll.run poll used body).2 ∧
      Fills (Poll.run poll used body).1 (fillBuf poll later ticks body).1 := by
  induction ticks generalizing body with
  | nil =>
      refine ⟨[later], 1, rfl, rfl, ?_⟩
      change Fills [(poll later body).1] ((chunk? (poll later body).1).getD .pending)
      cases hchunk : chunk? (poll later body).1 with
      | none => exact fills_of_passed hchunk
      | some chunk => exact fills_of_chunk hchunk
  | cons tick ticks ih =>
      rw [fillBuf]
      cases hchunk : chunk? (poll tick body).1 with
      | some chunk => exact ⟨[tick], 0, by simp [hchunk], by simp [hchunk], by
          simpa [hchunk] using fills_of_chunk hchunk⟩
      | none =>
          obtain ⟨used, count, hschedule, hbody, hfills⟩ := ih (poll tick body).2
          simp only [hchunk]
          exact ⟨tick :: used, count, by rw [List.cons_append, hschedule, List.cons_append],
            hbody, hfills.passed hchunk⟩

/-- What reads make of the polls of the body. -/
structure Relays (poll : ι → G → FramePoll IoError × G) (start final : StreamReader ι G)
    (reads : List (Poll (Except IoError Bytes))) (used : List ι) : Prop where
  later : final.later = start.later
  schedule : ∃ count, start.ticks ++ List.replicate count start.later = used ++ final.ticks
  body : final.body = (Poll.run poll used start.body).2
  bytes : start.chunk ++ dataBytes (Poll.run poll used start.body).1 =
    readBytes reads ++ final.chunk
  ends : ReadEnds reads → .ready none ∈ (Poll.run poll used start.body).1 ∧ final.chunk = []
  settled : ReadsSettle reads
  fails : ReadFails reads ↔ ∃ error, .ready (some (.error error)) ∈
    (Poll.run poll used start.body).1
  waits : .pending ∈ reads → ∃ answer ∈ (Poll.run poll used start.body).1,
    answer = .pending ∨ chunk? answer = none

theorem Relays.refl (start : StreamReader ι G) : Relays poll start start [] [] where
  later := rfl
  schedule := ⟨0, by simp⟩
  body := rfl
  bytes := List.append_nil _
  ends := nofun
  settled := .nil
  fails := by simp [ReadFails]
  waits := nofun

theorem pollRead_relays (start : StreamReader ι G) {capacity : Nat} (hcapacity : 0 < capacity) :
    ∃ used, Relays poll start (pollRead poll start capacity).2
      [(pollRead poll start capacity).1] used := by
  unfold pollRead
  rw [if_neg hcapacity.ne']
  split
  next hchunk =>
    refine ⟨[], rfl, ⟨0, by simp⟩, rfl, ?_, ?_, List.pairwise_singleton _ _, by simp [ReadFails],
      nofun⟩
    · simp [readBytes, deliveredBytes]
    · intro hend
      have htake : start.chunk.take capacity = [] :=
        (Except.ok.inj (Poll.ready.inj (List.mem_singleton.mp hend))).symm
      exact absurd ((List.take_eq_nil_iff.mp htake).resolve_left hcapacity.ne') hchunk
  next hchunk =>
    rw [not_not] at hchunk
    obtain ⟨used, count, hschedule, hbody, hbytes, hends, hfails, hwaits⟩ :=
      @fillBuf_fills _ _ poll start.later start.ticks start.body
    refine ⟨used, ?_⟩
    generalize fillBuf poll start.later start.ticks start.body = filled at *
    obtain ⟨answer, body, ticks⟩ := filled
    match answer with
    | .pending =>
        refine ⟨rfl, ⟨count, hschedule⟩, hbody, ?_, by simp [ReadEnds], List.pairwise_singleton _ _,
          ?_, fun _ => hwaits rfl⟩
        · rw [hbytes, hchunk]
          simp [readBytes, deliveredBytes]
        · simpa [ReadFails] using hfails
    | .ready (.error error) =>
        refine ⟨rfl, ⟨count, hschedule⟩, hbody, ?_, by simp [ReadEnds], List.pairwise_singleton _ _,
          ?_, by simp⟩
        · rw [hbytes, hchunk]
          simp [readBytes, deliveredBytes]
        · simpa [ReadFails] using hfails
    | .ready (.ok chunk) =>
        refine ⟨rfl, ⟨count, hschedule⟩, hbody, ?_, ?_, List.pairwise_singleton _ _, ?_, by simp⟩
        · rw [hbytes, hchunk]
          simp [readBytes, deliveredBytes]
        · intro hend
          have htake : chunk.take capacity = [] :=
            (Except.ok.inj (Poll.ready.inj (List.mem_singleton.mp hend))).symm
          have hnil : chunk = [] := (List.take_eq_nil_iff.mp htake).resolve_left hcapacity.ne'
          rw [hnil] at hends ⊢
          exact ⟨hends rfl, List.drop_nil⟩
        · simpa [ReadFails] using hfails

variable {filter : BodyFilter G B} {pollInner : B → FramePoll ε × B}

/-- After the end of a filtered body the reads deliver nothing. -/
theorem Relays.nothing_left (hfilters : filter.Filters pollInner poll)
    {start final : StreamReader ι G} {reads : List (Poll (Except IoError Bytes))} {used : List ι}
    (hrelays : Relays poll start final reads used) (hterminal : filter.terminal start.body = true)
    (hchunk : start.chunk = []) : readBytes reads = [] ∧ final.chunk = [] := by
  have hbytes := hrelays.bytes
  rw [hfilters.run_terminal used hterminal, hchunk, dataBytes_replicate rfl] at hbytes
  exact List.append_eq_nil_iff.mp hbytes.symm

theorem Relays.trans (hfilters : filter.Filters pollInner poll)
    {start middle final : StreamReader ι G} {first rest : List (Poll (Except IoError Bytes))}
    {used more : List ι} (hfirst : Relays poll start middle first used)
    (hrest : Relays poll middle final rest more) :
    Relays poll start final (first ++ rest) (used ++ more) := by
  obtain ⟨earlier, hearlier⟩ := hfirst.schedule
  obtain ⟨later, hlater⟩ := hrest.schedule
  have hrun := @Poll.run_append _ _ _ poll used more start.body
  rw [← hfirst.body] at hrun
  have hover : ReadEnds first → readBytes rest = [] ∧ final.chunk = [] := by
    intro hend
    obtain ⟨hnone, hchunk⟩ := hfirst.ends hend
    have hterminal : filter.terminal middle.body = true := by
      rw [← Bool.not_eq_false, hfirst.body]
      intro hlive
      exact absurd (hfilters.run_live used hlive _ hnone) (by decide)
    exact hrest.nothing_left hfilters hterminal hchunk
  constructor
  case later => exact hrest.later.trans hfirst.later
  case schedule =>
    refine ⟨earlier + later, ?_⟩
    rw [List.replicate_add, ← List.append_assoc, hearlier, List.append_assoc, ← hfirst.later,
      hlater, List.append_assoc]
  case body => rw [hrun]; exact hrest.body
  case bytes =>
    rw [hrun, dataBytes_append, ← List.append_assoc, hfirst.bytes, List.append_assoc, hrest.bytes,
      readBytes, readBytes, readBytes, List.flatMap_append, List.append_assoc]
  case ends =>
    intro hend
    rw [hrun]
    obtain hend | hend := List.mem_append.mp hend
    · exact ⟨List.mem_append_left _ (hfirst.ends hend).1, (hover hend).2⟩
    · exact ⟨List.mem_append_right _ (hrest.ends hend).1, (hrest.ends hend).2⟩
  case settled =>
    refine List.pairwise_append.mpr ⟨hfirst.settled, hrest.settled, ?_⟩
    intro earlier hearlier later hlater hend
    rw [hend] at hearlier
    exact List.flatMap_eq_nil_iff.mp (hover hearlier).1 later hlater
  case fails =>
    rw [hrun]
    simp only [ReadFails, List.mem_append, exists_or]
    exact or_congr hfirst.fails hrest.fails
  case waits =>
    intro hpending
    rw [hrun]
    obtain hpending | hpending := List.mem_append.mp hpending
    · obtain ⟨answer, hmem, hwaiting⟩ := hfirst.waits hpending
      exact ⟨answer, List.mem_append_left _ hmem, hwaiting⟩
    · obtain ⟨answer, hmem, hwaiting⟩ := hrest.waits hpending
      exact ⟨answer, List.mem_append_right _ hmem, hwaiting⟩

/-- Whatever is read comes from polls of the body along the schedule. -/
theorem reads_relay (hfilters : filter.Filters pollInner poll) (capacities : List Nat)
    (hpositive : ∀ capacity ∈ capacities, 0 < capacity) (start : StreamReader ι G) :
    ∃ used, Relays poll start ((read poll).reads capacities start).2
      ((read poll).reads capacities start).1 used := by
  induction capacities generalizing start with
  | nil => exact ⟨[], .refl start⟩
  | cons capacity rest ih =>
      obtain ⟨hcapacity, hrest⟩ := List.forall_mem_cons.mp hpositive
      obtain ⟨used, hfirst⟩ := @pollRead_relays _ _ poll start capacity hcapacity
      obtain ⟨more, hmore⟩ := ih hrest (pollRead poll start capacity).2
      exact ⟨used ++ more, hfirst.trans hfilters hmore⟩

end StreamReader

/-! ## What the decoders deliver -/

namespace ReaderStream

/-- The frames that reads become: the first end or error is the last read. -/
inductive Frames : List (Poll (Except IoError Bytes)) → List (FramePoll IoError) → Prop
  | nil : Frames [] []
  | pending {reads : List (Poll (Except IoError Bytes))} {answers : List (FramePoll IoError)}
      (hrest : Frames reads answers) : Frames (.pending :: reads) (.pending :: answers)
  | data {bytes : Bytes} {reads : List (Poll (Except IoError Bytes))}
      {answers : List (FramePoll IoError)} (hsome : bytes ≠ []) (hrest : Frames reads answers) :
      Frames (.ready (.ok bytes) :: reads) (.ready (some (.ok (.data bytes))) :: answers)
  | failed (error : IoError) (count : Nat) : Frames [.ready (.error error)]
      (.ready (some (.error error)) :: List.replicate count (.ready none))
  | ended (count : Nat) :
      Frames [.ready (.ok [])] (.ready none :: List.replicate count (.ready none))

variable {R : Type} {read : AsyncRead R IoError}

theorem first_closed (count : Nat) {stream : ReaderStream R} (hclosed : stream.reader = none) :
    (Poll.first (pollFrame read) count stream).1 = List.replicate count (.ready none) := by
  have hpoll : pollFrame read stream = (.ready none, stream) := by rw [pollFrame, hclosed]
  induction count with
  | zero => rfl
  | succ count ih => rw [Poll.first_succ, hpoll, ih, List.replicate_succ]

theorem first_frames (count : Nat) {stream : ReaderStream R} {reader : R}
    (hreader : stream.reader = some reader) (hcapacity : 0 < stream.capacity) :
    ∃ capacities, (∀ capacity ∈ capacities, 0 < capacity) ∧
      Frames (read.reads capacities reader).1 (Poll.first (pollFrame read) count stream).1 := by
  induction count generalizing stream reader with
  | zero => exact ⟨[], nofun, .nil⟩
  | succ count ih =>
      obtain ⟨room, hroom, hpositive⟩ : ∃ room,
          (if stream.room = 0 then stream.capacity else stream.room) = room ∧ 0 < room := by
        refine ⟨_, rfl, ?_⟩
        split
        · exact hcapacity
        next hsome => exact Nat.pos_of_ne_zero hsome
      obtain ⟨answer, next, hread⟩ : ∃ answer next, read.pollRead reader room = (answer, next) :=
        ⟨_, _, rfl⟩
      have hreads : ∀ rest, (read.reads (room :: rest) reader).1 =
          answer :: (read.reads rest next).1 := by
        intro rest
        simp [AsyncRead.reads, hread]
      rw [Poll.first_succ, pollFrame, hreader]
      simp only [hroom, hread]
      match answer with
      | .pending =>
          obtain ⟨rest, hrest, hframes⟩ :=
            @ih { stream with reader := some next, room } next rfl hcapacity
          refine ⟨room :: rest, List.forall_mem_cons.mpr ⟨hpositive, hrest⟩, ?_⟩
          rw [hreads]
          exact .pending hframes
      | .ready (.error error) =>
          refine ⟨[room], by simpa using hpositive, ?_⟩
          rw [hreads]
          simp only [first_closed]
          exact .failed error count
      | .ready (.ok []) =>
          refine ⟨[room], by simpa using hpositive, ?_⟩
          rw [hreads]
          simp only [first_closed]
          exact .ended count
      | .ready (.ok (first :: more)) =>
          obtain ⟨rest, hrest, hframes⟩ := @ih { stream with
            reader := some next, room := room - (first :: more).length } next rfl hcapacity
          refine ⟨room :: rest, List.forall_mem_cons.mpr ⟨hpositive, hrest⟩, ?_⟩
          rw [hreads]
          exact .data (List.cons_ne_nil _ _) hframes

namespace Frames

variable {reads : List (Poll (Except IoError Bytes))} {answers : List (FramePoll IoError)}

theorem dataBytes_eq (hframes : Frames reads answers) : dataBytes answers = readBytes reads := by
  induction hframes with
  | nil => rfl
  | pending _ ih => exact ih
  | data _ _ ih => exact congrArg (_ ++ ·) ih
  | failed error count => exact dataBytes_replicate rfl count
  | ended count => exact dataBytes_replicate rfl (count + 1)

theorem waits (hframes : Frames reads answers) (hpending : .pending ∈ answers) :
    .pending ∈ reads := by
  induction hframes with
  | nil => cases hpending
  | pending => exact List.mem_cons_self
  | data _ _ ih =>
      exact List.mem_cons_of_mem _ (ih ((List.mem_cons.mp hpending).resolve_left nofun))
  | failed error count =>
      cases List.eq_of_mem_replicate ((List.mem_cons.mp hpending).resolve_left nofun)
  | ended count =>
      cases List.eq_of_mem_replicate ((List.mem_cons.mp hpending).resolve_left nofun)

theorem ends_clean (hframes : Frames reads answers) (hends : EndsCleanly answers) :
    ReadEnds reads ∧ ¬ReadFails reads := by
  induction hframes with
  | nil => cases hends
  | pending _ ih =>
      obtain ⟨hend, hsound⟩ := ih ((endsCleanly_cons_of_not_isFinal rfl).mp hends)
      refine ⟨List.mem_cons_of_mem _ hend, ?_⟩
      simpa [ReadFails] using hsound
  | data _ _ ih =>
      obtain ⟨hend, hsound⟩ := ih ((endsCleanly_cons_of_not_isFinal rfl).mp hends)
      refine ⟨List.mem_cons_of_mem _ hend, ?_⟩
      simpa [ReadFails] using hsound
  | failed error count => cases (endsCleanly_cons_of_isFinal rfl).mp hends
  | ended count => exact ⟨List.mem_cons_self, by simp [ReadFails]⟩

/-- Every frame is pending, an end, a read error or non-empty data. -/
theorem framed (hframes : Frames reads answers) : ∀ answer ∈ answers, answer = .pending ∨
    answer = .ready none ∨ (∃ bytes, bytes ≠ [] ∧ answer = .ready (some (.ok (.data bytes)))) ∨
    ∃ error, answer = .ready (some (.error error)) ∧ .ready (.error error) ∈ reads := by
  induction hframes with
  | nil => exact nofun
  | pending _ ih =>
      refine List.forall_mem_cons.mpr ⟨.inl rfl, fun answer hanswer => ?_⟩
      obtain h | h | h | ⟨error, h, hmem⟩ := ih answer hanswer
      · exact .inl h
      · exact .inr (.inl h)
      · exact .inr (.inr (.inl h))
      · exact .inr (.inr (.inr ⟨error, h, List.mem_cons_of_mem _ hmem⟩))
  | data hsome _ ih =>
      refine List.forall_mem_cons.mpr ⟨.inr (.inr (.inl ⟨_, hsome, rfl⟩)), fun answer hanswer => ?_⟩
      obtain h | h | h | ⟨error, h, hmem⟩ := ih answer hanswer
      · exact .inl h
      · exact .inr (.inl h)
      · exact .inr (.inr (.inl h))
      · exact .inr (.inr (.inr ⟨error, h, List.mem_cons_of_mem _ hmem⟩))
  | failed error count =>
      refine List.forall_mem_cons.mpr ⟨.inr (.inr (.inr ⟨error, rfl, List.mem_cons_self⟩)), ?_⟩
      exact fun answer hanswer => .inr (.inl (List.eq_of_mem_replicate hanswer))
  | ended count =>
      refine List.forall_mem_cons.mpr ⟨.inr (.inl rfl), ?_⟩
      exact fun answer hanswer => .inr (.inl (List.eq_of_mem_replicate hanswer))

/-- Reads of a part of a content become frames of this part. -/
theorem carriesPart (hframes : Frames reads answers) {content : Bytes}
    (hpart : ReadsPartOf reads content) : CarriesPart answers content := by
  have herrors : ∀ error, .ready (.error error) ∉ reads := fun error hmem =>
    hpart.sound ⟨error, hmem⟩
  have hframed := hframes.framed
  refine ⟨fun answer hanswer => ?_, ?_, fun hend => ?_⟩
  · obtain h | h | ⟨bytes, -, h⟩ | ⟨error, -, hmem⟩ := hframed answer hanswer
    · exact .inl h
    · exact .inr (.inl h)
    · exact .inr (.inr ⟨bytes, h⟩)
    · exact absurd hmem (herrors error)
  · rw [hframes.dataBytes_eq]
    exact hpart.initial
  · have hclean : EndsCleanly answers := by
      refine endsCleanly_of_mem hend fun error hmem => ?_
      obtain h | h | ⟨_, -, h⟩ | ⟨_, -, hread⟩ := hframed _ hmem
      · cases h
      · cases h
      · cases h
      · exact herrors _ hread
    rw [hframes.dataBytes_eq]
    exact hpart.whole (hframes.ends_clean hclean).1

end Frames

end ReaderStream

/-! ## Runs of a decoded body -/

def isPending : FramePoll ε → Bool
  | .pending => true
  | _ => false

/-- Before the last answer every answer that is not pending brings a byte. -/
theorem countP_answered_le {answers : List (FramePoll ε)}
    (hlive : ∀ answer ∈ answers, isFinal answer = false)
    (hsome : ∀ frame, .ready (some (.ok frame)) ∈ answers →
      ∃ bytes, bytes ≠ [] ∧ frame = .data bytes) :
    answers.countP (!isPending ·) ≤ (dataBytes answers).length := by
  induction answers with
  | nil => exact Nat.zero_le _
  | cons answer rest ih =>
      obtain ⟨hanswer, hrest⟩ := List.forall_mem_cons.mp hlive
      have hle := ih hrest fun frame hmem => hsome frame (List.mem_cons_of_mem _ hmem)
      match answer with
      | .pending => simpa [isPending, frameData] using hle
      | .ready (some (.ok frame)) =>
          obtain ⟨bytes, hne, rfl⟩ := hsome frame List.mem_cons_self
          have hpositive := List.length_pos_of_ne_nil hne
          rw [List.countP_cons_of_pos rfl, dataBytes_cons, List.length_append]
          change _ ≤ bytes.length + _
          omega

section Decoding

variable (codecs : Codecs) {filter : BodyFilter G B} {pollInner : B → FramePoll ε × B}
  {poll : ι → G → FramePoll IoError × G}

theorem decodeReader_decodes (codings : List ContentCoding) (base : BoxReader IoError) :
    BoxReader.Decodes (codecs.decodeAll codings) base (decodeReader codecs codings base) :=
  (BoxReader.Decodes.refl base).foldl codecs.streams codings.reverse

variable (ticks : List ι) (later : ι) (body : G) (codings : List ContentCoding)

/-- The body that the second guard polls. -/
def framesOf (reader : BoxReader IoError) (count : Nat) : List (FramePoll IoError) :=
  (Poll.first (ReaderStream.pollFrame reader.read) count
    (.withCapacity reader.state (16 * 1024))).1

/-- From the polls of the guarded body to the frames, through what is read on the way. -/
structure Decoding (codecs : Codecs) (poll : ι → G → FramePoll IoError × G)
    (start final : StreamReader ι G) (codings : List ContentCoding) (used : List ι)
    (inner outer : List (Poll (Except IoError Bytes))) (frames : List (FramePoll IoError)) :
    Prop where
  relays : StreamReader.Relays poll start final inner used
  decodes : ReadsDecode (codecs.decodeAll codings) inner outer
  frames : ReaderStream.Frames outer frames

theorem exists_decoding (hfilters : filter.Filters pollInner poll) (count : Nat) :
    ∃ final used inner outer, Decoding codecs poll ⟨[], body, ticks, later⟩ final codings used
      inner outer (framesOf
        (decodeReader codecs codings (encodedReader poll ticks later body)) count) := by
  have hroom : 0 < 16 * 1024 := by decide
  obtain ⟨capacities, hpositive, hframes⟩ := @ReaderStream.first_frames _
    (decodeReader codecs codings (encodedReader poll ticks later body)).read count
    (.withCapacity _ (16 * 1024)) _ rfl hroom
  obtain ⟨asked, hasked, hdecodes⟩ := decodeReader_decodes codecs codings
    (encodedReader poll ticks later body) capacities hpositive
  obtain ⟨used, hrelays⟩ := StreamReader.reads_relay hfilters asked hasked
    ⟨[], body, ticks, later⟩
  exact ⟨_, used, _, _, hrelays, hdecodes, hframes⟩

/-- The second guard filters these frames. -/
theorem decoded_filtered (reader : BoxReader IoError) (maxDecodedBodyBytes count : Nat) :
    ∃ polled, (DecodedBodyGuard.filter (ReaderStream reader.State)).FilteredRun
      (.new (.withCapacity reader.state (16 * 1024)) maxDecodedBodyBytes)
      (framesOf reader polled)
      (Poll.first (DecodedBodyGuard.pollFrame (ReaderStream.pollFrame reader.read)) count
        (.new (.withCapacity reader.state (16 * 1024)) maxDecodedBodyBytes)).1 := by
  have hrun := (DecodedBodyGuard.filters (ReaderStream.pollFrame reader.read)).run_filtered
    (List.replicate count ()) (rfl : (DecodedBodyGuard.filter _).terminal
      (.new (.withCapacity reader.state (16 * 1024)) maxDecodedBodyBytes) = false)
  rw [Poll.run_unit] at hrun
  obtain ⟨polled, -, hfiltered⟩ := hrun
  exact ⟨polled, hfiltered⟩

variable {ticks later body codings}

namespace Decoding

variable {codecs} {start final : StreamReader ι G} {used : List ι}
  {inner outer : List (Poll (Except IoError Bytes))} {frames : List (FramePoll IoError)}

/-- A clean end of the frames is one of the guarded body, and the frames are its decoding. -/
theorem ends_clean (hdecoding : Decoding codecs poll start final codings used inner outer frames)
    (hstart : start.chunk = []) (hends : EndsCleanly frames) :
    EndsCleanly (Poll.run poll used start.body).1 ∧
      codecs.decodeAll codings (dataBytes (Poll.run poll used start.body).1) =
        some (dataBytes frames) := by
  obtain ⟨hend, hsound⟩ := hdecoding.frames.ends_clean hends
  obtain ⟨hinner, hwell, hdecode⟩ := hdecoding.decodes.ends hend hsound
  obtain ⟨hnone, hchunk⟩ := hdecoding.relays.ends hinner
  have hbytes := hdecoding.relays.bytes
  rw [hstart, hchunk, List.nil_append, List.append_nil] at hbytes
  rw [hbytes, hdecode, hdecoding.frames.dataBytes_eq]
  refine ⟨endsCleanly_of_mem hnone fun error hmem => ?_, rfl⟩
  exact hwell (hdecoding.relays.fails.mpr ⟨error, hmem⟩)

/-- If the guarded body carries an encoded content, the frames carry the content. -/
theorem carriesPart (hdecoding : Decoding codecs poll start final codings used inner outer frames)
    (hstart : start.chunk = []) {content : Bytes}
    (hpart : CarriesPart (Poll.run poll used start.body).1
      (codecs.encodeAll codings content)) : CarriesPart frames content := by
  have hbytes := hdecoding.relays.bytes
  rw [hstart, List.nil_append] at hbytes
  have hinner : ReadsPartOf inner (codecs.encodeAll codings content) := by
    refine ⟨fun hfails => ?_, ?_, fun hend => ?_, hdecoding.relays.settled⟩
    · obtain ⟨error, hmem⟩ := hdecoding.relays.fails.mp hfails
      obtain h | h | ⟨_, h⟩ := hpart.framed _ hmem
      · cases h
      · cases h
      · cases h
    · exact (List.prefix_append _ _).trans (hbytes ▸ hpart.initial)
    · obtain ⟨hnone, hchunk⟩ := hdecoding.relays.ends hend
      rw [hchunk, List.append_nil] at hbytes
      rw [← hbytes]
      exact hpart.whole hnone
  exact hdecoding.frames.carriesPart
    (hdecoding.decodes.delivers (codecs.decodeAll_encodeAll codings content) hinner)

theorem waits (hdecoding : Decoding codecs poll start final codings used inner outer frames)
    (hpending : .pending ∈ frames) : ∃ answer ∈ (Poll.run poll used start.body).1,
      answer = .pending ∨ StreamReader.chunk? answer = none :=
  hdecoding.relays.waits (hdecoding.decodes.waits (hdecoding.frames.waits hpending))

end Decoding

/-- A content within the bound passes the second guard. -/
theorem decoded_carries {reader : BoxReader IoError} {content : Bytes}
    (hframes : ∀ polled, CarriesPart (framesOf reader polled) content)
    {maxDecodedBodyBytes : Nat} (hlimit : content.length ≤ maxDecodedBodyBytes)
    (hsize : content.length < 2 ^ 64) (count : Nat) :
    CarriesPart (Poll.first (DecodedBodyGuard.pollFrame (ReaderStream.pollFrame reader.read)) count
      (.new (.withCapacity reader.state (16 * 1024)) maxDecodedBodyBytes)).1 content := by
  rw [← Poll.run_unit]
  refine (DecodedBodyGuard.filters (ReaderStream.pollFrame reader.read)).run_carries
    (DecodedBodyGuard.admits _) _ rfl hframes ?_ ?_ nofun fun _ _ => List.not_mem_nil
  · exact (Nat.zero_add _).trans_le hlimit
  · exact (Nat.zero_add _).trans_lt hsize

end Decoding

/-- The inputs of polls that follow a schedule. -/
def Scheduled (ticks : List ι) (later : ι) (used : List ι) : Prop :=
  ∃ count, used <+: ticks ++ List.replicate count later

/-- Every run of a decoded body: both limits hold on their side of the decoders, a clean
end means a whole content within both, and an encoded content is decoded exactly. -/
structure DecodedRuns (codecs : Codecs) (limits : TransportLimits) (codings : List ContentCoding)
    (pollInner : B → FramePoll ε × B) (guard : ResponseBodyGuard B) (ticks : List Tick)
    (later : Tick) (answers : Nat → List (FramePoll IoError)) : Prop where
  encodedCap : ∀ capacities, (∀ capacity ∈ capacities, 0 < capacity) →
    (readBytes ((encodedReader (ResponseBodyGuard.pollFrame pollInner) ticks later guard).reads
      capacities)).length ≤ limits.maxResponseBodyBytes
  decodedCap : ∀ count, (dataBytes (answers count)).length ≤ limits.maxDecodedResponseBodyBytes
  cleanEnd : ∀ count, EndsCleanly (answers count) → ∃ polled,
    EndsCleanly (Poll.first pollInner polled guard.inner).1 ∧
    (dataBytes (Poll.first pollInner polled guard.inner).1).length ≤
      limits.maxResponseBodyBytes ∧
    codecs.decodeAll codings (dataBytes (Poll.first pollInner polled guard.inner).1) =
      some (dataBytes (answers count))
  finishes : ∀ count,
    limits.maxDecodedResponseBodyBytes < (answers count).countP (!isPending ·) →
    EndsCleanly (answers count) ∨ ∃ error, .ready (some (.error error)) ∈ answers count
  prompt : (∀ polled, ∀ answer ∈ (Poll.first pollInner polled guard.inner).1,
      answer ≠ .pending ∧ answer ≠ .ready (some (.ok (.data [])))) →
    ∀ count, .pending ∉ answers count
  roundTrip : ∀ content, Carries pollInner guard.inner (codecs.encodeAll codings content) →
    (codecs.encodeAll codings content).length ≤ limits.maxResponseBodyBytes →
    content.length ≤ limits.maxDecodedResponseBodyBytes →
    (codecs.encodeAll codings content).length < 2 ^ 64 → content.length < 2 ^ 64 →
    (∀ length ∈ guard.declaredLength, (codecs.encodeAll codings content).length = length) →
    (∀ used, Scheduled ticks later used →
      ∀ answer ∈ (Poll.run (ResponseBodyGuard.pollFrame pollInner) used guard).1,
        answer ∉ ResponseBodyGuard.timerErrors) →
    ∀ count, CarriesPart (answers count) content ∧
      (content.length < (answers count).countP (!isPending ·) →
        EndsCleanly (answers count) ∧ dataBytes (answers count) = content)

/-- More answers than bytes: one of them is the last. -/
theorem exists_final_of_answered {answers : List (FramePoll IoError)} {bound : Nat}
    (hbytes : (dataBytes answers).length ≤ bound)
    (hsome : ∀ frame, .ready (some (.ok frame)) ∈ answers →
      ∃ bytes, bytes ≠ [] ∧ frame = .data bytes)
    (hmany : bound < answers.countP (!isPending ·)) :
    EndsCleanly answers ∨ ∃ error, .ready (some (.error error)) ∈ answers := by
  by_contra hopen
  rw [not_or, not_exists] at hopen
  have hlive : ∀ answer ∈ answers, isFinal answer = false := by
    intro answer hanswer
    match answer with
    | .pending => rfl
    | .ready (some (.ok _)) => rfl
    | .ready none => exact absurd (endsCleanly_of_mem hanswer hopen.2) hopen.1
    | .ready (some (.error error)) => exact absurd hanswer (hopen.2 error)
  exact absurd (countP_answered_le hlive hsome) (Nat.not_le_of_gt (hbytes.trans_lt hmany))

theorem decodedRuns (codecs : Codecs) (limits : TransportLimits) (codings : List ContentCoding)
    (pollInner : B → FramePoll ε × B) {guard : ResponseBodyGuard B}
    (hlive : guard.terminal = false) (hcount : guard.bytesForwarded = 0)
    (hmax : guard.maxBodyBytes = limits.maxResponseBodyBytes) (ticks : List Tick) (later : Tick) :
    DecodedRuns codecs limits codings pollInner guard ticks later
      (decodeBody codecs (ResponseBodyGuard.pollFrame pollInner) ticks later guard codings
        limits.maxDecodedResponseBodyBytes).answers := by
  have hfilters := ResponseBodyGuard.filters pollInner
  have hguarded := fun used => hfilters.run_filtered used hlive
  have hdecoding := exists_decoding codecs ticks later guard codings hfilters
  have hdecoded := decoded_filtered (decodeReader codecs codings
    (encodedReader (ResponseBodyGuard.pollFrame pollInner) ticks later guard))
    limits.maxDecodedResponseBodyBytes
  -- what each guard forwards is within its limit
  have hencodedCap : ∀ used,
      (dataBytes (Poll.run (ResponseBodyGuard.pollFrame pollInner) used guard).1).length ≤
        limits.maxResponseBodyBytes := by
    intro used
    obtain ⟨_, -, hrun⟩ := hguarded used
    simpa [hcount, hmax] using hrun.withinLimit
  have hdecodedCap : ∀ count, (dataBytes ((decodeBody codecs
      (ResponseBodyGuard.pollFrame pollInner) ticks later guard codings
      limits.maxDecodedResponseBodyBytes).answers count)).length ≤
        limits.maxDecodedResponseBodyBytes := by
    intro count
    obtain ⟨_, hrun⟩ := hdecoded count
    exact (Nat.zero_add _).symm.trans_le (hrun.withinLimit (Nat.zero_le _))
  -- the decoders hand over no empty frames
  have hsome : ∀ count frame, .ready (some (.ok frame)) ∈ (decodeBody codecs
      (ResponseBodyGuard.pollFrame pollInner) ticks later guard codings
      limits.maxDecodedResponseBodyBytes).answers count →
        ∃ bytes, bytes ≠ [] ∧ frame = .data bytes := by
    intro count frame hmem
    obtain ⟨polled, hrun⟩ := hdecoded count
    obtain ⟨bytes, rfl, hread⟩ := hrun.dataOnly frame hmem
    obtain ⟨_, _, _, _, hsteps⟩ := hdecoding polled
    obtain h | h | ⟨_, hne, h⟩ | ⟨_, h, -⟩ := hsteps.frames.framed _ hread
    · cases h
    · cases h
    · cases h
      exact ⟨bytes, hne, rfl⟩
    · cases h
  constructor
  case encodedCap =>
    intro capacities hpositive
    obtain ⟨used, hrelays⟩ := StreamReader.reads_relay hfilters capacities hpositive
      ⟨[], guard, ticks, later⟩
    have hprefix : readBytes ((StreamReader.read (ResponseBodyGuard.pollFrame pollInner)).reads
        capacities ⟨[], guard, ticks, later⟩).1 <+:
          dataBytes (Poll.run (ResponseBodyGuard.pollFrame pollInner) used guard).1 :=
      ⟨_, hrelays.bytes.symm⟩
    exact hprefix.length_le.trans (hencodedCap used)
  case decodedCap => exact hdecodedCap
  case cleanEnd =>
    intro count hends
    obtain ⟨polled, hrun⟩ := hdecoded count
    obtain ⟨hclean, hdata⟩ := hrun.whole hends
    obtain ⟨_, used, _, _, hsteps⟩ := hdecoding polled
    obtain ⟨hguard, hdecode⟩ := hsteps.ends_clean rfl hclean
    obtain ⟨asked, -, hfirst⟩ := hguarded used
    obtain ⟨hupstream, hwhole⟩ := hfirst.whole hguard
    refine ⟨asked, hupstream, ?_, ?_⟩
    · exact (congrArg List.length hwhole).symm.trans_le (hencodedCap used)
    · exact (congrArg _ hwhole.symm).trans (hdecode.trans (congrArg some hdata.symm))
  case finishes =>
    intro count hmany
    exact exists_final_of_answered (hdecodedCap count) (hsome count) hmany
  case prompt =>
    intro hprompt count hpending
    obtain ⟨polled, hrun⟩ := hdecoded count
    obtain ⟨_, used, _, _, hsteps⟩ := hdecoding polled
    obtain ⟨asked, -, hfirst⟩ := hguarded used
    obtain ⟨answer, hmem, rfl | hpassed⟩ := hsteps.waits (hrun.waits hpending)
    · exact (hprompt asked _ (hfirst.waits hmem)).1 rfl
    · obtain ⟨frame, rfl⟩ := StreamReader.exists_frame_of_passed hpassed
      obtain ⟨bytes, rfl, hread⟩ := hfirst.dataOnly frame hmem
      cases bytes with
      | nil => exact (hprompt asked _ hread).2 rfl
      | cons first rest => cases hpassed
  case roundTrip =>
    intro content hcarries hencodedFits hdecodedFits hencodedSize hdecodedSize hdeclared hstops
    have hframes : ∀ polled, CarriesPart (framesOf (decodeReader codecs codings
        (encodedReader (ResponseBodyGuard.pollFrame pollInner) ticks later guard)) polled)
        content := by
      intro polled
      obtain ⟨_, used, _, _, hsteps⟩ := hdecoding polled
      obtain ⟨schedule, hused⟩ := hsteps.relays.schedule
      refine hsteps.carriesPart rfl ?_
      refine hfilters.run_carries (ResponseBodyGuard.admits pollInner) used hlive hcarries ?_ ?_ ?_
        (hstops used ⟨schedule, hused ▸ List.prefix_append _ _⟩)
      · simpa [hcount, hmax] using hencodedFits
      · simpa [hcount] using hencodedSize
      · simpa [hcount] using hdeclared
    intro count
    have hpart := decoded_carries hframes hdecodedFits hdecodedSize count
    refine ⟨hpart, fun hmany => ?_⟩
    have hbytes := hpart.initial.length_le
    obtain hends | ⟨error, hmem⟩ := exists_final_of_answered hbytes (hsome count) hmany
    · exact ⟨hends, hpart.whole (List.mem_of_find?_eq_some hends)⟩
    · obtain h | h | ⟨_, h⟩ := hpart.framed _ hmem
      · cases h
      · cases h
      · cases h

/-! ## Normalized responses -/

/-- A run of an identity body: both limits bind, and a clean end means the whole content. -/
structure IdentityRun (limits : TransportLimits) (pollInner : B → FramePoll ε × B) (upstream : B)
    (answers : List (FramePoll IoError)) : Prop where
  capped : (dataBytes answers).length ≤
    min limits.maxResponseBodyBytes limits.maxDecodedResponseBodyBytes
  cleanEnd : EndsCleanly answers → ∃ polled, EndsCleanly (Poll.first pollInner polled upstream).1 ∧
    dataBytes answers = dataBytes (Poll.first pollInner polled upstream).1

variable {Incoming Url : Type}

/-- What becomes of the body of a normalized response. -/
inductive DecodedBody (codecs : Codecs) (response : Response Incoming) (requestMethod : Method)
    (limits : TransportLimits) (codings : List ContentCoding)
    (pollInner : Incoming → FramePoll ε × Incoming) : ProxyBody Incoming → Prop
  | identity {guard : ResponseBodyGuard Incoming}
      (hplain : codings = [] ∨ ForbidsBody requestMethod response.status)
      (hruns : ∀ ticks, IdentityRun limits pollInner response.body
        (Poll.run (ResponseBodyGuard.pollFrame pollInner) ticks guard).1) :
      DecodedBody codecs response requestMethod limits codings pollInner (.identity guard)
  | decoded {guard : ResponseBodyGuard Incoming}
      (hcoded : codings ≠ [] ∧ ¬ForbidsBody requestMethod response.status)
      (hinner : guard.inner = response.body)
      (hdeclared : declaredResponseLength response.headers = .ok guard.declaredLength)
      (hruns : ∀ ticks later, DecodedRuns codecs limits codings pollInner guard ticks later
        (decodeBody codecs (ResponseBodyGuard.pollFrame pollInner) ticks later guard codings
          limits.maxDecodedResponseBodyBytes).answers) :
      DecodedBody codecs response requestMethod limits codings pollInner
        (.decoded guard codings limits.maxDecodedResponseBodyBytes)

theorem identityRun {limits : TransportLimits} (pollInner : B → FramePoll ε × B)
    (guard : ResponseBodyGuard B) {upstream : B} (hinner : guard.inner = upstream)
    (hlive : guard.terminal = false) (hcount : guard.bytesForwarded = 0)
    (hmax : guard.maxBodyBytes ≤ min limits.maxResponseBodyBytes limits.maxDecodedResponseBodyBytes)
    (ticks : List Tick) : IdentityRun limits pollInner upstream
      (Poll.run (ResponseBodyGuard.pollFrame pollInner) ticks guard).1 := by
  obtain ⟨polled, -, hrun⟩ := (ResponseBodyGuard.filters pollInner).run_filtered ticks hlive
  have hlimit :
      (dataBytes (Poll.run (ResponseBodyGuard.pollFrame pollInner) ticks guard).1).length ≤
        guard.maxBodyBytes := by
    simpa [hcount] using hrun.withinLimit
  rw [← hinner]
  exact ⟨hlimit.trans hmax, fun hends => ⟨polled, hrun.whole hends⟩⟩

/-- Of every accepted response the codings are one list, and its body is decoded along this
list within both limits. -/
theorem normalized_response_decodes (codecs : Codecs) {crates : Crates Url}
    {response : Response Incoming} {requestMethod : Method} {state : ProxyState}
    {downstream : Response (ProxyBody Incoming)}
    (hok : normalizeHttpResponse crates response requestMethod state = .ok downstream)
    (pollInner : Incoming → FramePoll ε × Incoming) :
    ∃ codings, OneCodingList response.headers state.limits.maxResponseContentEncodings codings ∧
      DecodedBody codecs response requestMethod state.limits codings pollInner
        downstream.body := by
  obtain ⟨steps⟩ := normalizeHttpResponse_steps hok
  refine ⟨steps.codings, oneCodingList_of_parse steps.parsed, ?_⟩
  have hbody := congrArg Response.body steps.result
  obtain ⟨declared, hdeclared, ⟨hforbids, hpolicy⟩ | ⟨hallows, hpolicy⟩⟩ :=
    validateResponseBodyHead_ok steps.validated
  · simp only [hpolicy, attachBody] at hbody
    rw [hbody]
    exact .identity (.inr hforbids) fun ticks =>
      identityRun pollInner (.forbidden response.body declared) rfl rfl rfl (Nat.zero_le _) ticks
  · by_cases hcodings : steps.codings = []
    · simp only [hpolicy, attachBody, if_pos hcodings] at hbody
      rw [hbody]
      refine .identity (.inl hcodings) fun ticks => ?_
      exact identityRun pollInner (.streaming response.body declared
        (encodedBodyLimit steps.codings state.limits) state.limits) rfl rfl rfl
        (if_pos hcodings).le ticks
    · simp only [hpolicy, attachBody, if_neg hcodings] at hbody
      rw [hbody]
      exact .decoded ⟨hcodings, hallows⟩ rfl hdeclared fun ticks later =>
        decodedRuns codecs state.limits steps.codings pollInner rfl rfl (if_neg hcodings) ticks
          later

/-! ## A body that is no member -/

/-- A coding that only puts the first byte of a gzip member in front of the content. -/
def markedRead {R : Type} (inner : AsyncRead R IoError) :
    Bool × R → Nat → Poll (Except IoError Bytes) × Bool × R
  | (true, reader), capacity =>
      let (answer, next) := inner.pollRead reader capacity
      (answer, true, next)
  | (false, reader), capacity =>
      match inner.pollRead reader 1 with
      | (.pending, next) => (.pending, false, next)
      | (.ready (.error error), next) => (.ready (.error error), false, next)
      | (.ready (.ok []), next) =>
          (.ready (.error ⟨.unexpectedEof, "unexpected end of file"⟩), false, next)
      | (.ready (.ok (first :: _)), next) =>
          if first = 0x1F then
            let (answer, last) := inner.pollRead next capacity
            (answer, true, last)
          else (.ready (.error ⟨.other, "Invalid gzip header"⟩), false, next)

def markedLayer : ReadLayer IoError where
  State := Bool
  start := false
  wrap inner :=
    { pollRead := markedRead inner
      bounded := by
        rintro ⟨marked, reader⟩ capacity bytes next hpoll
        cases marked with
        | true =>
            simp only [markedRead, Prod.mk.injEq] at hpoll
            exact inner.bounded (Prod.ext hpoll.1 rfl)
        | false =>
            simp only [markedRead] at hpoll
            split at hpoll
            · cases hpoll
            · cases hpoll
            · cases hpoll
            · split at hpoll
              · simp only [Prod.mk.injEq] at hpoll
                exact inner.bounded (Prod.ext hpoll.1 rfl)
              · cases hpoll }

def markedDecode : Bytes → Option Bytes
  | [] => none
  | first :: rest => if first = 0x1F then some rest else none

section Marked

variable {R : Type} (inner : AsyncRead R IoError)

theorem reads_marked (capacities : List Nat) (state : R) :
    (AsyncRead.reads (markedLayer.wrap inner) capacities (true, state)).1 =
      (inner.reads capacities state).1 := by
  induction capacities generalizing state with
  | nil => rfl
  | cons capacity rest ih =>
      simp only [AsyncRead.reads, Poll.run_cons] at ih ⊢
      exact congrArg _ (ih _)

/-- What follows the first byte is the content. -/
theorem marked_decodes (answers : List (Poll (Except IoError Bytes))) :
    ReadsDecode markedDecode (.ready (.ok [0x1F]) :: answers) answers where
  waits := List.mem_cons_of_mem _
  ends hend hsound := by
    refine ⟨List.mem_cons_of_mem _ hend, fun hfails => hsound (hfails.imp fun _ hmem => ?_), rfl⟩
    exact (List.mem_cons.mp hmem).resolve_left nofun
  delivers hdecode hpart := by
    obtain ⟨rest, rfl, hrest⟩ := hpart.of_data
    cases hdecode
    exact hrest

theorem markedLayer_streams : markedLayer.Streams markedDecode := by
  intro R inner state capacities hpositive
  change ∃ asked, _ ∧ ReadsDecode markedDecode _
    (AsyncRead.reads (markedLayer.wrap inner) capacities (false, state)).1
  induction capacities generalizing state with
  | nil => exact ⟨[], nofun, .nil _⟩
  | cons capacity rest ih =>
      obtain ⟨hcapacity, hrest⟩ := List.forall_mem_cons.mp hpositive
      obtain ⟨answer, next, hread⟩ : ∃ answer next, inner.pollRead state 1 = (answer, next) :=
        ⟨_, _, rfl⟩
      have hasked : ∀ asked, (inner.reads (1 :: asked) state).1 =
          answer :: (inner.reads asked next).1 := by
        intro asked
        simp [AsyncRead.reads, hread]
      obtain ⟨asked, hpos, hdecodes⟩ := ih next hrest
      have hone : ∀ capacity ∈ 1 :: asked, 0 < capacity :=
        List.forall_mem_cons.mpr ⟨Nat.one_pos, hpos⟩
      have houter : (AsyncRead.reads (markedLayer.wrap inner) (capacity :: rest)
          (false, state)).1 = (markedRead inner (false, state) capacity).1 ::
            (AsyncRead.reads (markedLayer.wrap inner) rest
              (markedRead inner (false, state) capacity).2).1 := rfl
      rw [houter, markedRead, hread]
      match answer with
      | .pending =>
          refine ⟨1 :: asked, hone, ?_⟩
          rw [hasked]
          exact hdecodes.pending_cons
      | .ready (.error error) =>
          refine ⟨1 :: asked, hone, ?_⟩
          rw [hasked]
          refine hdecodes.failed_cons fun _ hpart => ?_
          exact hpart.sound ⟨error, List.mem_cons_self⟩
      | .ready (.ok []) =>
          refine ⟨1 :: asked, hone, ?_⟩
          rw [hasked]
          refine hdecodes.failed_cons fun hdecode hpart => ?_
          rw [hpart.of_end] at hdecode
          cases hdecode
      | .ready (.ok (first :: more)) =>
          have hmore : more = [] := by
            have hlength := inner.bounded hread
            simpa using hlength
          subst hmore
          by_cases hfirst : first = 0x1F
          · refine ⟨1 :: capacity :: rest, List.forall_mem_cons.mpr ⟨Nat.one_pos, hpositive⟩, ?_⟩
            rw [hasked, hfirst]
            have hpassed := reads_marked inner rest (inner.pollRead next capacity).2
            exact Eq.mpr (congrArg (ReadsDecode markedDecode _) (congrArg (List.cons _) hpassed))
              (marked_decodes (inner.reads (capacity :: rest) next).1)
          · refine ⟨1 :: asked, hone, ?_⟩
            rw [hasked]
            simp only [if_neg hfirst]
            refine hdecodes.failed_cons fun hdecode hpart => ?_
            obtain ⟨later, rfl, -⟩ := hpart.of_data
            simp [markedDecode, hfirst] at hdecode

end Marked

def markedCodecs : Codecs where
  encode _ content := 0x1F :: content
  decode _ := markedDecode
  decoder _ := markedLayer
  decode_encode _ _ := rfl
  streams _ := markedLayer_streams

/-- A response that is labelled gzip, whose body is the one byte `a`. -/
def mislabelledResponse : Response (UpstreamFrames Unit) where
  status := Status.ok
  version := .http11
  headers := Multimap.empty.append Header.contentEncoding (.fromStatic "identity, gzip" (by decide))
  body := [.ready (some (.ok (.data (asBytes "a")))), .ready none]

/-- The decoder rejects it, and the second guard says so once. -/
theorem normalized_response_decodes_mislabelled :
    ∃ downstream guard, normalizeHttpResponse Crates.unavailable mislabelledResponse Method.get
        (ProxyState.fixture 7 8080 8081) = .ok downstream ∧
      downstream.body = .decoded guard [.gzip] defaultLimits.maxDecodedResponseBodyBytes ∧
      (decodeBody markedCodecs (ResponseBodyGuard.pollFrame pollUpstream) []
        ⟨0, false, false⟩ guard [.gzip] defaultLimits.maxDecodedResponseBodyBytes).answers 2 =
        [.ready (some (.error ⟨.other, "upstream response content decoding failed"⟩)),
          .ready none] ∧
      ∃ codings, OneCodingList mislabelledResponse.headers
          defaultLimits.maxResponseContentEncodings codings ∧
        DecodedBody markedCodecs mislabelledResponse Method.get defaultLimits codings pollUpstream
          downstream.body := by
  have hok : normalizeHttpResponse Crates.unavailable mislabelledResponse Method.get
      (ProxyState.fixture 7 8080 8081) = .ok
        { status := Status.ok
          version := .http11
          headers := stripDecodedRepresentationHeaders
            (mislabelledResponse.headers.insert Header.connection connectionClose)
          body := .decoded (.streaming mislabelledResponse.body none
            (encodedBodyLimit [.gzip] defaultLimits) defaultLimits) [.gzip]
            defaultLimits.maxDecodedResponseBodyBytes } := by rfl
  exact ⟨_, _, hok, rfl, by decide +kernel,
    normalized_response_decodes markedCodecs hok pollUpstream⟩

end Rpackit.Transport
