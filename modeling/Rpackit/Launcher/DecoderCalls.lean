import Rpackit.Launcher.Chunks
import Rpackit.Launcher.EventShape

/-! # Calls on one decoder

Pushes and finishes come in any order. As long as none has failed, the buffer is the
unfinished line of everything pushed; the first failure, of whichever of the three
kinds, empties it and latches the decoder. The count of ignored lines saturates.
-/

namespace Rpackit.Launcher

open Text Fallible Consumer

variable {json : JsonDecoder}

/-! ## Calls and replies -/

inductive DecoderCall where
  | push (bytes : Bytes)
  | finish
  deriving DecidableEq, Repr

inductive DecoderReply where
  | pushed (result : Except ProtocolError (List LauncherEvent))
  | finished (result : Except ProtocolError Unit)

def DecoderReply.failed : DecoderReply → Bool
  | .pushed (.error _) => true
  | .finished (.error _) => true
  | _ => false

/-- The bytes a call adds to the stream. -/
def DecoderCall.bytes : DecoderCall → Bytes
  | .push bytes => bytes
  | .finish => []

def DecoderCall.poisonedReply : DecoderCall → DecoderReply
  | .push _ => .pushed (.error .decoderPoisoned)
  | .finish => .finished (.error .decoderPoisoned)

/-- The decoder that `finish` leaves. -/
def EventDecoder.finished (decoder : EventDecoder) : EventDecoder :=
  if decoder.poisoned then decoder
  else if decoder.buffer = [] then decoder
  else { decoder with buffer := [], poisoned := true }

def EventDecoder.call (json : JsonDecoder) (decoder : EventDecoder) :
    DecoderCall → DecoderReply × EventDecoder
  | .push bytes => (.pushed (decoder.push json bytes).1, (decoder.push json bytes).2)
  | .finish => (.finished decoder.finish, decoder.finished)

def EventDecoder.calls (json : JsonDecoder) (decoder : EventDecoder) :
    List DecoderCall → List DecoderReply × EventDecoder
  | [] => ([], decoder)
  | call :: rest =>
      let first := decoder.call json call
      let later := first.2.calls json rest
      (first.1 :: later.1, later.2)

/-- Everything pushed. -/
def received (calls : List DecoderCall) : Bytes := calls.flatMap DecoderCall.bytes

/-- What is pushed up to the first failure; the call that fails is the last one heard. -/
def EventDecoder.heard (json : JsonDecoder) (decoder : EventDecoder) : List DecoderCall → Bytes
  | [] => []
  | call :: rest =>
      if decoder.poisoned then []
      else call.bytes ++ (decoder.call json call).2.heard json rest

/-! ## A stream read by its lines -/

section Lines

variable (json) (limit : Nat)

def isNoiseLine (line : Bytes) : Bool :=
  match decodeLine json line with
  | .ok none => true
  | _ => false

/-- The error of a complete line. -/
def lineError (line : Bytes) : Option ProtocolError :=
  if limit < line.length then some .lineTooLong
  else
    match decodeLine json line with
    | .ok _ => none
    | .error error => some error

/-- What is left of a stream: its first error, the lines ignored before it and, when
there is none, the unfinished line. -/
structure StreamRead where
  error : Option ProtocolError
  ignored : Nat
  unfinished : Bytes

/-- The last line is not complete: it is only bounded. -/
def readLines : List Bytes → StreamRead
  | [] => ⟨none, 0, []⟩
  | [unfinished] =>
      if limit < unfinished.length then ⟨some .lineTooLong, 0, []⟩ else ⟨none, 0, unfinished⟩
  | line :: next :: rest =>
      match lineError json limit line with
      | some error => ⟨some error, 0, []⟩
      | none =>
          let later := readLines (next :: rest)
          { later with ignored := (if isNoiseLine json line then 1 else 0) + later.ignored }

/-- The complete lines without the prefix before the first faulty line. -/
def ignoredBefore (lines : List Bytes) : Nat :=
  (lines.dropLast.takeWhile fun line => !faultyLine json limit line).countP (isNoiseLine json)

/-- The first line that is not accepted is too long. -/
def FirstFaultTooLong (lines : List Bytes) : Prop :=
  ∃ before line after, lines = before ++ line :: after ∧ limit < line.length ∧
    ∀ earlier ∈ before, faultyLine json limit earlier = false

end Lines

section ReadLines

variable {limit : Nat}

theorem readLines_cons {line : Bytes} {rest : List Bytes} (hrest : rest ≠ []) :
    readLines json limit (line :: rest) =
      match lineError json limit line with
      | some error => ⟨some error, 0, []⟩
      | none => { readLines json limit rest with
          ignored := (if isNoiseLine json line then 1 else 0) +
            (readLines json limit rest).ignored } := by
  cases rest with
  | nil => exact absurd rfl hrest
  | cons next rest => rfl

theorem lineError_eq_none_iff {line : Bytes} :
    lineError json limit line = none ↔ faultyLine json limit line = false := by
  unfold lineError faultyLine
  by_cases hlong : limit < line.length
  · simp [hlong]
  · cases decodeLine json line with
    | error error => simp [hlong, Except.toOption]
    | ok event => simp [hlong, Except.toOption]

theorem faultyLine_of_lineError {line : Bytes} {error : ProtocolError}
    (herror : lineError json limit line = some error) : faultyLine json limit line = true := by
  by_contra haccepted
  rw [lineError_eq_none_iff.mpr (by simpa using haccepted)] at herror
  cases herror

/-- A complete line is never reported as too long by its content. -/
theorem decodeLine_ne_lineTooLong (line : Bytes) :
    decodeLine json line ≠ .error .lineTooLong := by
  let errors : ProtocolError → Prop := fun error => error ≠ .lineTooLong
  have hshape : ∀ error, IsShapeError error → errors error := by
    intro error herror
    rcases herror with rfl | rfl | rfl
    all_goals exact ProtocolError.noConfusion
  have hline : FailsWith errors (decodeLine json line) := by
    unfold decodeLine
    generalize (if line.getLast? = some carriageReturn then line.dropLast else line) = text
    by_cases hleading : ¬eventPrefix.isPrefixOf text
    · rw [if_pos hleading]
      exact .ok _
    · rw [if_neg hleading]
      refine FailsWith.bind (.rejectIf _ ProtocolError.noConfusion) fun _ => ?_
      refine FailsWith.bind (.okOr _ ProtocolError.noConfusion) fun raw => ?_
      refine FailsWith.bind (fun error herror => hshape error ?_) fun _ => .ok _
      exact parseEvent_failsWith raw error herror
  exact fun herror => hline _ herror rfl

theorem lineError_eq_lineTooLong_iff {line : Bytes} :
    lineError json limit line = some .lineTooLong ↔ limit < line.length := by
  unfold lineError
  by_cases hlong : limit < line.length
  · simp [hlong]
  · rw [if_neg hlong]
    cases hline : decodeLine json line with
    | ok event => simp [hlong]
    | error error =>
        have hne : error ≠ .lineTooLong := by
          intro heq
          exact decodeLine_ne_lineTooLong line (by rw [hline, heq])
        simp [hlong, hne]

/-- Whatever follows a line that is too long is not read. -/
theorem readLines_cons_of_long {line : Bytes} (hlong : limit < line.length) (rest : List Bytes) :
    readLines json limit (line :: rest) = ⟨some .lineTooLong, 0, []⟩ := by
  cases rest with
  | nil => rw [readLines, if_pos hlong]
  | cons next rest => rw [readLines, lineError_eq_lineTooLong_iff.mpr hlong]

theorem not_firstFaultTooLong_nil : ¬FirstFaultTooLong json limit [] := by
  simp [FirstFaultTooLong]

theorem firstFaultTooLong_cons_iff {line : Bytes} {rest : List Bytes} :
    FirstFaultTooLong json limit (line :: rest) ↔ limit < line.length ∨
      (faultyLine json limit line = false ∧ FirstFaultTooLong json limit rest) := by
  constructor
  · intro hfirst
    obtain ⟨before, long, after, hsplit, hlong, hbefore⟩ := hfirst
    cases before with
    | nil =>
        obtain ⟨rfl, rfl⟩ := List.cons.inj hsplit
        exact .inl hlong
    | cons earlier before =>
        obtain ⟨rfl, rfl⟩ := List.cons.inj hsplit
        obtain ⟨haccepted, hbefore⟩ := List.forall_mem_cons.mp hbefore
        exact .inr ⟨haccepted, before, long, after, rfl, hlong, hbefore⟩
  · intro hfirst
    rcases hfirst with hlong | ⟨haccepted, before, long, after, rfl, hlong, hbefore⟩
    · exact ⟨[], line, rest, rfl, hlong, List.forall_mem_nil _⟩
    · exact ⟨line :: before, long, after, rfl, hlong,
        List.forall_mem_cons.mpr ⟨haccepted, hbefore⟩⟩

/-- The count of a stream that fails at its first line. -/
theorem ignoredBefore_of_faulty {line : Bytes} {rest : List Bytes} (hrest : rest ≠ [])
    (hfaulty : faultyLine json limit line = true) :
    ignoredBefore json limit (line :: rest) = 0 := by
  rw [ignoredBefore, List.dropLast_cons_of_ne_nil hrest]
  simp [hfaulty]

theorem ignoredBefore_of_accepted {line : Bytes} {rest : List Bytes} (hrest : rest ≠ [])
    (haccepted : faultyLine json limit line = false) :
    ignoredBefore json limit (line :: rest) =
      (if isNoiseLine json line then 1 else 0) + ignoredBefore json limit rest := by
  rw [ignoredBefore, List.dropLast_cons_of_ne_nil hrest, ignoredBefore,
    List.takeWhile_cons_of_pos (by simp [haccepted]), List.countP_cons, Nat.add_comm]

theorem readLines_ignored (lines : List Bytes) :
    (readLines json limit lines).ignored = ignoredBefore json limit lines := by
  induction lines with
  | nil => rfl
  | cons line rest ih =>
      cases rest with
      | nil =>
          rw [readLines]
          split
          · rfl
          · rfl
      | cons next rest =>
          rw [readLines_cons (by simp)]
          cases herror : lineError json limit line with
          | none =>
              rw [ignoredBefore_of_accepted (by simp) (lineError_eq_none_iff.mp herror), ← ih]
          | some error =>
              rw [ignoredBefore_of_faulty (by simp) (faultyLine_of_lineError herror)]

theorem readLines_unfinished {lines : List Bytes}
    (herror : (readLines json limit lines).error ≠ none) :
    (readLines json limit lines).unfinished = [] := by
  induction lines with
  | nil => rfl
  | cons line rest ih =>
      cases rest with
      | nil =>
          rw [readLines] at herror ⊢
          split
          · rfl
          next hshort =>
            rw [if_neg hshort] at herror
            exact absurd rfl herror
      | cons next rest =>
          rw [readLines_cons (by simp)] at herror ⊢
          cases hline : lineError json limit line with
          | none =>
              rw [hline] at herror
              exact ih herror
          | some error => rfl

theorem length_readLines_unfinished (lines : List Bytes) :
    (readLines json limit lines).unfinished.length ≤ limit := by
  induction lines with
  | nil => exact Nat.zero_le _
  | cons line rest ih =>
      cases rest with
      | nil =>
          rw [readLines]
          split
          · exact Nat.zero_le _
          next hshort => exact Nat.not_lt.mp hshort
      | cons next rest =>
          rw [readLines_cons (by simp)]
          cases lineError json limit line with
          | none => exact ih
          | some error => exact Nat.zero_le _

theorem readLines_error_eq_lineTooLong_iff {lines : List Bytes} :
    (readLines json limit lines).error = some .lineTooLong ↔
      FirstFaultTooLong json limit lines := by
  induction lines with
  | nil => simp [readLines, not_firstFaultTooLong_nil]
  | cons line rest ih =>
      rw [firstFaultTooLong_cons_iff]
      by_cases hlong : limit < line.length
      · simp [readLines_cons_of_long hlong, hlong]
      cases rest with
      | nil => simp [readLines, hlong, not_firstFaultTooLong_nil]
      | cons next rest =>
          rw [readLines_cons (by simp), ← ih]
          cases herror : lineError json limit line with
          | none => simp [lineError_eq_none_iff.mp herror, hlong]
          | some error =>
              have hother : error ≠ .lineTooLong := by
                intro heq
                rw [heq, lineError_eq_lineTooLong_iff] at herror
                exact hlong herror
              simp [faultyLine_of_lineError herror, hlong, hother]

end ReadLines

/-! ## The decoder reads the lines of its stream -/

/-- What reading some bytes comes to, by the lines they complete and leave. -/
structure Follows (outcome : Outcome EventDecoder LauncherEvent ProtocolError) (limit ignored : Nat)
    (read : StreamRead) : Prop where
  error : outcome.error = read.error
  buffer : outcome.state.buffer = read.unfinished
  ignored : outcome.state.ignoredLines = min (ignored + read.ignored) (2 ^ 64 - 1)
  limit : outcome.state.maximumLineBytes = limit
  poisoned : outcome.state.poisoned = read.error.isSome

/-- A complete line, and the outcome of the lines after it. -/
theorem follows_line {decoder : EventDecoder} {lines : List Bytes}
    {rest : EventDecoder → Outcome EventDecoder LauncherEvent ProtocolError}
    (hsound : decoder.poisoned = false) (hcount : decoder.ignoredLines ≤ 2 ^ 64 - 1)
    (hshort : decoder.buffer.length ≤ decoder.maximumLineBytes) (hlines : lines ≠ [])
    (hrest : ∀ ignored ≤ 2 ^ 64 - 1, Follows (rest ⟨[], decoder.maximumLineBytes, false, ignored⟩)
      decoder.maximumLineBytes ignored (readLines json decoder.maximumLineBytes lines)) :
    Follows (((pushByte json).consume decoder lineFeed).after rest) decoder.maximumLineBytes
      decoder.ignoredLines
      (readLines json decoder.maximumLineBytes (decoder.buffer :: lines)) := by
  have hbound : ¬decoder.maximumLineBytes < decoder.buffer.length := Nat.not_lt.mpr hshort
  rw [readLines_cons hlines]
  rcases hline : decodeLine json decoder.buffer with error | _ | event
  · -- the line is taken from the buffer before it fails
    have herror : lineError json decoder.maximumLineBytes decoder.buffer = some error := by
      simp [lineError, hbound, hline]
    rw [herror]
    constructor
    · simp [consume, pushByte, Outcome.after, hline]
    · simp [consume, pushByte, Outcome.after, hline]
    · simpa [consume, pushByte, Outcome.after, hline] using (Nat.min_eq_left hcount).symm
    · simp [consume, pushByte, Outcome.after, hline]
    · simp [consume, pushByte, Outcome.after, hline]
  · have herror : lineError json decoder.maximumLineBytes decoder.buffer = none := by
      simp [lineError, hbound, hline]
    have hnoise : isNoiseLine json decoder.buffer = true := by simp [isNoiseLine, hline]
    have hconsume : (pushByte json).consume decoder lineFeed = .start ⟨[],
        decoder.maximumLineBytes, false, min (decoder.ignoredLines + 1) (2 ^ 64 - 1)⟩ := by
      simp [consume, pushByte, Outcome.start, hline, hsound]
    have hlater := hrest (min (decoder.ignoredLines + 1) (2 ^ 64 - 1)) (Nat.min_le_right _ _)
    rw [hconsume, Outcome.start_after, herror]
    refine ⟨hlater.error, hlater.buffer, ?_, hlater.limit, hlater.poisoned⟩
    rw [hlater.ignored, hnoise, if_pos rfl]
    dsimp only
    omega
  · have herror : lineError json decoder.maximumLineBytes decoder.buffer = none := by
      simp [lineError, hbound, hline]
    have hevent : isNoiseLine json decoder.buffer = false := by simp [isNoiseLine, hline]
    have hconsume : (pushByte json).consume decoder lineFeed = ⟨[event], ⟨[],
        decoder.maximumLineBytes, false, decoder.ignoredLines⟩, none⟩ := by
      simp [consume, pushByte, hline, hsound]
    have hlater := hrest decoder.ignoredLines hcount
    rw [hconsume, herror]
    refine ⟨hlater.error, hlater.buffer, ?_, hlater.limit, hlater.poisoned⟩
    change (rest _).state.ignoredLines = _
    rw [hlater.ignored, hevent]
    simp

/-- The bytes after a short buffer. -/
theorem feed_follows (decoder : EventDecoder) (hsound : decoder.poisoned = false)
    (hcount : decoder.ignoredLines ≤ 2 ^ 64 - 1)
    (hshort : decoder.buffer.length ≤ decoder.maximumLineBytes) (bytes : Bytes) :
    Follows ((pushByte json).feed decoder bytes) decoder.maximumLineBytes decoder.ignoredLines
      (readLines json decoder.maximumLineBytes
        ((bytes.splitOn lineFeed).modifyHead (decoder.buffer ++ ·))) := by
  induction bytes generalizing decoder with
  | nil =>
      have hread : readLines json decoder.maximumLineBytes
          ((([] : Bytes).splitOn lineFeed).modifyHead (decoder.buffer ++ ·)) =
            ⟨none, 0, decoder.buffer⟩ := by
        simp [readLines, Nat.not_lt.mpr hshort]
      rw [hread]
      exact ⟨rfl, rfl, (Nat.min_eq_left hcount).symm, rfl, hsound⟩
  | cons byte rest ih =>
      rw [feed]
      by_cases hfeed : byte = lineFeed
      · rw [hfeed, splitOn_lineFeed_cons]
        apply follows_line hsound hcount hshort (List.splitOn_ne_nil _ _)
        intro ignored hignored
        have hrest := ih ⟨[], decoder.maximumLineBytes, false, ignored⟩ rfl hignored (Nat.zero_le _)
        rwa [modifyHead_nil_append] at hrest
      · rw [splitOn_cons_of_ne hfeed]
        unfold consume pushByte
        simp only [if_neg hfeed]
        by_cases hlong : decoder.buffer.length ≥ decoder.maximumLineBytes
        · obtain ⟨first, lines, hfirst, hfirstLong⟩ := exists_long_line hlong byte rest
          rw [if_pos hlong, hfirst, readLines_cons_of_long hfirstLong]
          exact ⟨rfl, rfl, (Nat.min_eq_left hcount).symm, rfl, rfl⟩
        · rw [if_neg hlong]
          apply ih { decoder with buffer := decoder.buffer ++ [byte] } hsound hcount
          simp only [List.length_append, List.length_singleton]
          omega

/-- A new decoder that is fed a stream. -/
theorem feed_empty_follows (json : JsonDecoder) (limit : Nat) (text : Bytes) :
    Follows ((pushByte json).feed (.empty limit) text) limit 0
      (readLines json limit (text.splitOn lineFeed)) := by
  have hfollows : Follows _ _ _
      (readLines json limit ((text.splitOn lineFeed).modifyHead ([] ++ ·))) :=
    feed_follows (.empty limit) rfl (Nat.zero_le _) (Nat.zero_le _) text
  rwa [modifyHead_nil_append] at hfollows

/-! ## Runs -/

theorem EventDecoder.latched_eq {decoder : EventDecoder} (hbuffer : decoder.buffer = [])
    (hpoisoned : decoder.poisoned = true) :
    { decoder with buffer := [], poisoned := true } = decoder := by
  cases decoder
  cases hbuffer
  cases hpoisoned
  rfl

/-- A decoder that has heard a text, and whether a call has failed. -/
inductive Tracks (json : JsonDecoder) (limit : Nat) (text : Bytes) : EventDecoder → Bool → Prop
  | sound (hnone : ((pushByte json).feed (.empty limit) text).error = none) :
      Tracks json limit text ((pushByte json).feed (.empty limit) text).state false
  | latched : Tracks json limit text
      { ((pushByte json).feed (.empty limit) text).state with buffer := [], poisoned := true } true

namespace Tracks

variable {limit : Nat} {text : Bytes} {decoder : EventDecoder}

theorem poisoned {failed : Bool} (htracks : Tracks json limit text decoder failed) :
    decoder.poisoned = failed := by
  cases htracks with
  | sound hnone => rw [(feed_empty_follows json limit text).poisoned,
      ← (feed_empty_follows json limit text).error, hnone, Option.isSome_none]
  | latched => rfl

theorem ignoredLines {failed : Bool} (htracks : Tracks json limit text decoder failed) :
    decoder.ignoredLines =
      min (ignoredBefore json limit (text.splitOn lineFeed)) (2 ^ 64 - 1) := by
  have hignored := (feed_empty_follows json limit text).ignored
  rw [readLines_ignored, Nat.zero_add] at hignored
  cases htracks with
  | sound hnone => exact hignored
  | latched => exact hignored

theorem buffer (htracks : Tracks json limit text decoder false) :
    decoder.buffer = (readLines json limit (text.splitOn lineFeed)).unfinished := by
  cases htracks with
  | sound hnone => exact (feed_empty_follows json limit text).buffer

/-- The next bytes, after a text that was read without an error. -/
theorem feed_append (htracks : Tracks json limit text decoder false) (chunk : Bytes) :
    ((pushByte json).feed decoder chunk).error =
        ((pushByte json).feed (.empty limit) (text ++ chunk)).error ∧
      ((pushByte json).feed decoder chunk).state =
        ((pushByte json).feed (.empty limit) (text ++ chunk)).state := by
  cases htracks with
  | sound hnone =>
      rw [Consumer.feed_append, Outcome.after, hnone]
      exact ⟨rfl, rfl⟩

theorem push (htracks : Tracks json limit text decoder false) (chunk : Bytes) :
    (∀ error, (decoder.push json chunk).1 = .error error ↔
        (readLines json limit ((text ++ chunk).splitOn lineFeed)).error = some error) ∧
      (decoder.push json chunk).2 =
        ((pushByte json).feed (.empty limit) (text ++ chunk)).state := by
  obtain ⟨herror, hstate⟩ := htracks.feed_append chunk
  rw [push_eq_feed htracks.poisoned, Handed.ofOutcome, ← hstate,
    ← (feed_empty_follows json limit (text ++ chunk)).error, ← herror]
  cases ((pushByte json).feed decoder chunk).error with
  | none => simp
  | some error => simp

/-- One call before any failure. -/
theorem call (htracks : Tracks json limit text decoder false) (call : DecoderCall) :
    Tracks json limit (text ++ call.bytes) (decoder.call json call).2
      (decoder.call json call).1.failed := by
  cases call with
  | push chunk =>
      obtain ⟨herrors, hstate⟩ := htracks.push chunk
      have hfollows := feed_empty_follows json limit (text ++ chunk)
      change Tracks json limit (text ++ chunk) (decoder.push json chunk).2
        (DecoderReply.pushed (decoder.push json chunk).1).failed
      rw [hstate]
      cases hreply : (decoder.push json chunk).1 with
      | ok events =>
          refine .sound ?_
          rw [hfollows.error]
          by_contra hsome
          obtain ⟨error, hsome⟩ := Option.ne_none_iff_exists'.mp hsome
          rw [(herrors error).mpr hsome] at hreply
          cases hreply
      | error error =>
          -- the byte that failed emptied the buffer and set the latch
          have hread := (herrors error).mp hreply
          have hbuffer :
              ((pushByte json).feed (.empty limit) (text ++ chunk)).state.buffer = [] := by
            rw [hfollows.buffer, readLines_unfinished (by simp [hread])]
          have hpoisoned :
              ((pushByte json).feed (.empty limit) (text ++ chunk)).state.poisoned = true := by
            rw [hfollows.poisoned, hread, Option.isSome_some]
          have hsame := EventDecoder.latched_eq hbuffer hpoisoned
          rw [← hsame]
          exact .latched
  | finish =>
      change Tracks json limit (text ++ []) decoder.finished
        (DecoderReply.finished decoder.finish).failed
      rw [List.append_nil, EventDecoder.finished, EventDecoder.finish, htracks.poisoned]
      by_cases hempty : decoder.buffer = []
      · simpa [hempty, DecoderReply.failed] using htracks
      · simp only [Bool.false_eq_true, if_false, hempty]
        cases htracks with
        | sound hnone => exact .latched

theorem call_latched (htracks : Tracks json limit text decoder true) (call : DecoderCall) :
    decoder.call json call = (call.poisonedReply, decoder) := by
  have hpoisoned := htracks.poisoned
  cases call with
  | push chunk => simp [EventDecoder.call, EventDecoder.push, hpoisoned, DecoderCall.poisonedReply]
  | finish =>
      simp [EventDecoder.call, EventDecoder.finish, EventDecoder.finished, hpoisoned,
        DecoderCall.poisonedReply]

theorem calls_latched (htracks : Tracks json limit text decoder true) (calls : List DecoderCall) :
    decoder.calls json calls = (calls.map DecoderCall.poisonedReply, decoder) := by
  induction calls with
  | nil => rfl
  | cons call rest ih =>
      rw [EventDecoder.calls, htracks.call_latched call]
      simp only [ih, List.map_cons]

theorem heard_latched (htracks : Tracks json limit text decoder true) (calls : List DecoderCall) :
    decoder.heard json calls = [] := by
  cases calls with
  | nil => rfl
  | cons call rest => rw [EventDecoder.heard, htracks.poisoned, if_pos rfl]

theorem heard_cons (htracks : Tracks json limit text decoder false) (call : DecoderCall)
    (rest : List DecoderCall) :
    decoder.heard json (call :: rest) =
      call.bytes ++ (decoder.call json call).2.heard json rest := by
  rw [EventDecoder.heard, htracks.poisoned, if_neg Bool.false_ne_true]

/-- Any calls, from a decoder without a failure. -/
theorem calls (htracks : Tracks json limit text decoder false) (calls : List DecoderCall) :
    Tracks json limit (text ++ decoder.heard json calls) (decoder.calls json calls).2
      ((decoder.calls json calls).1.any DecoderReply.failed) := by
  induction calls generalizing text decoder with
  | nil => simpa [EventDecoder.heard, EventDecoder.calls] using htracks
  | cons call rest ih =>
      have hnext := htracks.call call
      rw [htracks.heard_cons, ← List.append_assoc, EventDecoder.calls]
      simp only [List.any_cons]
      cases hfailed : (decoder.call json call).1.failed with
      | false =>
          rw [hfailed] at hnext
          simpa using ih hnext
      | true =>
          rw [hfailed] at hnext
          rw [hnext.heard_latched, hnext.calls_latched]
          simpa using hnext

/-- Without a failure everything pushed is heard. -/
theorem heard_eq_received (htracks : Tracks json limit text decoder false)
    {calls : List DecoderCall}
    (hnone : ∀ reply ∈ (decoder.calls json calls).1, reply.failed = false) :
    decoder.heard json calls = received calls := by
  induction calls generalizing text decoder with
  | nil => rfl
  | cons call rest ih =>
      rw [EventDecoder.calls] at hnone
      obtain ⟨hcall, hrest⟩ := List.forall_mem_cons.mp hnone
      have hnext := htracks.call call
      rw [hcall] at hnext
      rw [htracks.heard_cons, ih hnext hrest]
      rfl

theorem length_buffer_le {failed : Bool} (htracks : Tracks json limit text decoder failed) :
    decoder.buffer.length ≤ limit := by
  cases failed with
  | false =>
      rw [htracks.buffer]
      exact length_readLines_unfinished _
  | true =>
      cases htracks with
      | latched => exact Nat.zero_le _

/-- The buffer is empty exactly between two lines. -/
theorem buffer_eq_nil_iff (htracks : Tracks json limit text decoder false) :
    decoder.buffer = [] ↔ text = [] ∨ text.getLast? = some lineFeed := by
  cases htracks with
  | sound hnone =>
      obtain ⟨complete, hsplit, hcomplete⟩ := feed_buffer hnone
      have hfresh : lineFeed ∉ (EventDecoder.empty limit).buffer := List.not_mem_nil
      have hpart := lineFeed_notMem_feed_buffer hfresh hnone
      change text = complete ++ _ at hsplit
      generalize ((pushByte json).feed (.empty limit) text).state.buffer = buffer at *
      rw [hsplit]
      constructor
      · intro hempty
        rw [hempty, List.append_nil]
        exact hcomplete
      · intro hends
        by_contra hbuffer
        rcases hends with hempty | hends
        · exact hbuffer (List.append_eq_nil_iff.mp hempty).2
        · rw [List.getLast?_append_of_ne_nil _ hbuffer] at hends
          exact hpart (List.mem_of_getLast? hends)

theorem finish_eq_ok_iff {failed : Bool} (htracks : Tracks json limit text decoder failed) :
    decoder.finish = .ok () ↔ failed = false ∧ (text = [] ∨ text.getLast? = some lineFeed) := by
  rw [EventDecoder.finish, htracks.poisoned]
  cases failed with
  | true => simp
  | false =>
      rw [← htracks.buffer_eq_nil_iff]
      by_cases hempty : decoder.buffer = []
      · simp [hempty]
      · simp [hempty]

end Tracks

/-- What a decoder is after some calls, by what it has heard. -/
structure DecoderRun (json : JsonDecoder) (limit : Nat) (before : List DecoderCall)
    (replies : List DecoderReply) (heard : Bytes) (now : EventDecoder) : Prop where
  bounded : now.buffer.length ≤ limit
  overlong (chunk : Bytes) : (now.push json chunk).1 = .error .lineTooLong ↔
    (∀ reply ∈ replies, reply.failed = false) ∧
      FirstFaultTooLong json limit ((received before ++ chunk).splitOn lineFeed)
  latched : (∃ reply ∈ replies, reply.failed = true) → ∀ later : List DecoderCall,
    (now.calls json later).1 = later.map DecoderCall.poisonedReply
  ignored : now.ignoredLines =
    min (ignoredBefore json limit (heard.splitOn lineFeed)) (2 ^ 64 - 1)
  finished : now.finish = .ok () ↔ (∀ reply ∈ replies, reply.failed = false) ∧
    (received before = [] ∨ (received before).getLast? = some lineFeed)

theorem tracks_new {limit : Nat} {decoder : EventDecoder}
    (hnew : EventDecoder.new limit = .ok decoder) : Tracks json limit [] decoder false := by
  unfold EventDecoder.new at hnew
  split at hnew
  · cases hnew
  · cases hnew
    exact .sound rfl

/-- Any calls on a new decoder. -/
theorem decoder_run (json : JsonDecoder) {limit : Nat} {decoder : EventDecoder}
    (hnew : EventDecoder.new limit = .ok decoder) (before : List DecoderCall) :
    DecoderRun json limit before (decoder.calls json before).1 (decoder.heard json before)
      (decoder.calls json before).2 := by
  have hstart : Tracks json limit [] decoder false := tracks_new hnew
  have hnow := hstart.calls before
  rw [List.nil_append] at hnow
  have hquiet : (decoder.calls json before).1.any DecoderReply.failed = false ↔
      ∀ reply ∈ (decoder.calls json before).1, reply.failed = false := by
    simp [List.any_eq_false]
  refine ⟨hnow.length_buffer_le, ?_, ?_, hnow.ignoredLines, ?_⟩
  · intro chunk
    rw [← hquiet]
    cases hany : (decoder.calls json before).1.any DecoderReply.failed with
    | false =>
        rw [hany] at hnow
        rw [(hnow.push chunk).1, hstart.heard_eq_received (hquiet.mp hany),
          readLines_error_eq_lineTooLong_iff]
        simp
    | true =>
        rw [hany] at hnow
        simp [EventDecoder.push, hnow.poisoned]
  · intro hfailed later
    have hany : (decoder.calls json before).1.any DecoderReply.failed = true :=
      List.any_eq_true.mpr hfailed
    rw [hany] at hnow
    rw [hnow.calls_latched]
  · rw [hnow.finish_eq_ok_iff, hquiet]
    apply and_congr_right
    intro hnone
    rw [hstart.heard_eq_received hnone]

theorem decoder_run_poisoned : DecoderRun stoppingDecoder 8 [.push (asBytes "123456789"), .finish]
    (EventDecoder.calls stoppingDecoder (.empty 8) [.push (asBytes "123456789"), .finish]).1
    (EventDecoder.heard stoppingDecoder (.empty 8) [.push (asBytes "123456789"), .finish])
    (EventDecoder.calls stoppingDecoder (.empty 8) [.push (asBytes "123456789"), .finish]).2 :=
  decoder_run stoppingDecoder rfl _

/-! ## The count saturates -/

theorem splitOn_replicate (n : Nat) :
    (List.replicate n lineFeed).splitOn lineFeed = List.replicate (n + 1) [] := by
  induction n with
  | zero => rfl
  | succ n ih =>
      rw [List.replicate_succ, List.splitOn_cons_eq_if_modifyHead, beq_self_eq_true, if_pos rfl, ih]
      rfl

theorem ignoredBefore_replicate (json : JsonDecoder) (limit n : Nat) :
    ignoredBefore json limit (List.replicate (n + 1) []) = n := by
  have haccepted : faultyLine json limit [] = false := rfl
  have hnoise : isNoiseLine json [] = true := rfl
  induction n with
  | zero => rfl
  | succ n ih =>
      rw [List.replicate_succ, ignoredBefore_of_accepted (by simp) haccepted, ih, hnoise,
        if_pos rfl, Nat.add_comm]

theorem heard_replicate (json : JsonDecoder) (limit ignored n : Nat) :
    EventDecoder.heard json ⟨[], limit, false, ignored⟩ (List.replicate n (.push [lineFeed])) =
      List.replicate n lineFeed := by
  induction n generalizing ignored with
  | zero => rfl
  | succ n ih =>
      rw [List.replicate_succ, EventDecoder.heard, if_neg Bool.false_ne_true]
      exact congrArg (List.cons lineFeed) (ih _)

/-- The count of ignored lines is not exact beyond a 64-bit integer. -/
theorem ignoredLines_saturates : ¬∀ (json : JsonDecoder) (limit : Nat) (decoder : EventDecoder),
    EventDecoder.new limit = .ok decoder → ∀ before : List DecoderCall,
      (decoder.calls json before).2.ignoredLines =
        ignoredBefore json limit ((decoder.heard json before).splitOn lineFeed) := by
  intro hexact
  have hcount := hexact stoppingDecoder 1 (.empty 1) rfl
    (List.replicate (2 ^ 64) (.push [lineFeed]))
  have hstart : Tracks stoppingDecoder 1 [] (.empty 1) false := tracks_new rfl
  have hnow := (hstart.calls (List.replicate (2 ^ 64) (.push [lineFeed]))).ignoredLines
  rw [List.nil_append, hcount, EventDecoder.empty, heard_replicate, splitOn_replicate,
    ignoredBefore_replicate] at hnow
  omega

end Rpackit.Launcher
