import Rpackit.Launcher.Protocol
import Rpackit.Library.Chunking

/-! # Chunks of standard output

The pipe cuts the launcher's output anywhere. Successive pushes give the same first
error and the same count of ignored lines for every cut, but the events completed in
the chunk of an error are lost with it, so the events handed on depend on the cut
exactly for streams with an event line before their first fault.
-/

namespace Rpackit.Launcher

open Text Fallible Consumer

variable {json : JsonDecoder}

/-! ## Successive pushes -/

/-- A decoder that has read nothing; `withDefaultLimit` is one. -/
def EventDecoder.empty (maximumLineBytes : Nat) : EventDecoder := ⟨[], maximumLineBytes, false, 0⟩

/-- `EventDecoder::new`. -/
def EventDecoder.new (maximumLineBytes : Nat) : Except ProtocolError EventDecoder :=
  if maximumLineBytes = 0 then .error .zeroLineLimit else .ok (.empty maximumLineBytes)

/-- What a caller of `push` has: the events handed to it, the count of ignored lines
and the first error. -/
structure Handed where
  events : List LauncherEvent
  ignoredLines : Nat
  firstError : Option ProtocolError
  deriving DecidableEq, Repr

/-- Push the chunks in order and stop at the first error. -/
def EventDecoder.pushChunks (json : JsonDecoder) (decoder : EventDecoder) : List Bytes → Handed
  | [] => ⟨[], decoder.ignoredLines, none⟩
  | chunk :: rest =>
      match decoder.push json chunk with
      | (.error error, next) => ⟨[], next.ignoredLines, some error⟩
      | (.ok events, next) =>
          let later := next.pushChunks json rest
          { later with events := events ++ later.events }

/-! ## The decoder as a consumer of bytes -/

/-- The body of the byte loop of `push`. -/
def pushByte (json : JsonDecoder) : Consumer EventDecoder UInt8 LauncherEvent ProtocolError :=
  fun decoder byte =>
    if byte = lineFeed then
      let taken := { decoder with buffer := [] }
      match decodeLine json decoder.buffer with
      | .ok (some event) => (taken, .ok [event])
      | .ok none =>
          ({ taken with ignoredLines := min (decoder.ignoredLines + 1) (2 ^ 64 - 1) }, .ok [])
      | .error error => ({ taken with poisoned := true }, .error error)
    else if decoder.buffer.length ≥ decoder.maximumLineBytes then
      ({ decoder with buffer := [], poisoned := true }, .error .lineTooLong)
    else ({ decoder with buffer := decoder.buffer ++ [byte] }, .ok [])

/-- What `push` returns for the outcome of its bytes. -/
def Handed.ofOutcome (events : List LauncherEvent)
    (outcome : Outcome EventDecoder LauncherEvent ProtocolError) :
    Except ProtocolError (List LauncherEvent) × EventDecoder :=
  match outcome.error with
  | none => (.ok (events ++ outcome.outputs), outcome.state)
  | some error => (.error error, outcome.state)

theorem pushBytes_cons (decoder : EventDecoder) (events : List LauncherEvent) (byte : UInt8)
    (rest : Bytes) :
    decoder.pushBytes json events (byte :: rest) =
      match pushByte json decoder byte with
      | (next, .ok outputs) => next.pushBytes json (events ++ outputs) rest
      | (next, .error error) => (.error error, next) := by
  rw [EventDecoder.pushBytes, pushByte]
  by_cases hfeed : byte = lineFeed
  · rcases hline : decodeLine json decoder.buffer with error | _ | event <;> simp [hfeed]
  · by_cases hlong : decoder.buffer.length ≥ decoder.maximumLineBytes
    · simp only [if_neg hfeed, if_pos hlong]
    · simp only [if_neg hfeed, if_neg hlong, List.append_nil]

theorem pushBytes_eq_feed (decoder : EventDecoder) (events : List LauncherEvent) (bytes : Bytes) :
    decoder.pushBytes json events bytes =
      Handed.ofOutcome events ((pushByte json).feed decoder bytes) := by
  induction bytes generalizing decoder events with
  | nil => simp [EventDecoder.pushBytes, feed, Outcome.start, Handed.ofOutcome]
  | cons byte rest ih =>
      rw [pushBytes_cons, feed, consume]
      rcases hbyte : pushByte json decoder byte with ⟨next, error | outputs⟩
      · rfl
      · rcases hrest : (pushByte json).feed next rest with ⟨later, last, _ | error⟩
        · simp [Outcome.after, ih, hrest, Handed.ofOutcome]
        · simp [Outcome.after, ih, hrest, Handed.ofOutcome]

/-- One push of an unpoisoned decoder. -/
theorem push_eq_feed {decoder : EventDecoder} (hsound : decoder.poisoned = false) (chunk : Bytes) :
    decoder.push json chunk = Handed.ofOutcome [] ((pushByte json).feed decoder chunk) := by
  rw [EventDecoder.push, hsound, ← pushBytes_eq_feed]
  rfl

theorem pushByte_poisoned {decoder next : EventDecoder} {byte : UInt8}
    {outputs : List LauncherEvent} (hok : pushByte json decoder byte = (next, .ok outputs)) :
    next.poisoned = decoder.poisoned := by
  unfold pushByte at hok
  split at hok
  · rcases hline : decodeLine json decoder.buffer with error | _ | event
    · simp [hline] at hok
    · simp only [hline, Prod.mk.injEq] at hok
      rw [← hok.1]
    · simp only [hline, Prod.mk.injEq] at hok
      rw [← hok.1]
  · split at hok
    · cases hok
    · cases hok
      rfl

theorem pushByte_lineFeed_buffer {decoder next : EventDecoder} {outputs : List LauncherEvent}
    (hok : pushByte json decoder lineFeed = (next, .ok outputs)) : next.buffer = [] := by
  rcases hline : decodeLine json decoder.buffer with error | _ | event
  · simp [pushByte, hline] at hok
  · simp only [pushByte, hline, if_true, Prod.mk.injEq] at hok
    rw [← hok.1]
  · simp only [pushByte, hline, if_true, Prod.mk.injEq] at hok
    rw [← hok.1]

theorem pushByte_buffer {decoder next : EventDecoder} {byte : UInt8}
    {outputs : List LauncherEvent} (hfeed : byte ≠ lineFeed)
    (hok : pushByte json decoder byte = (next, .ok outputs)) :
    next.buffer = decoder.buffer ++ [byte] := by
  unfold pushByte at hok
  rw [if_neg hfeed] at hok
  split at hok
  · cases hok
  · cases hok
    rfl

/-- Only an error poisons the decoder. -/
theorem feed_poisoned {decoder : EventDecoder} {bytes : Bytes}
    (hnone : ((pushByte json).feed decoder bytes).error = none) :
    ((pushByte json).feed decoder bytes).state.poisoned = decoder.poisoned := by
  induction bytes generalizing decoder with
  | nil => rfl
  | cons byte rest ih =>
      rw [feed, consume] at hnone ⊢
      rcases hbyte : pushByte json decoder byte with ⟨next, error | outputs⟩
      · rw [hbyte] at hnone
        cases hnone
      · rw [hbyte] at hnone
        exact (ih hnone).trans (pushByte_poisoned hbyte)

/-- Successive pushes deliver what the consumer delivers. -/
theorem pushChunks_eq_deliver {decoder : EventDecoder} (hsound : decoder.poisoned = false)
    (chunks : List Bytes) :
    decoder.pushChunks json chunks =
      ⟨((pushByte json).deliver decoder chunks).outputs,
        ((pushByte json).deliver decoder chunks).state.ignoredLines,
        ((pushByte json).deliver decoder chunks).error⟩ := by
  induction chunks generalizing decoder with
  | nil => rfl
  | cons chunk rest ih =>
      rw [EventDecoder.pushChunks, push_eq_feed hsound, deliver]
      rcases hchunk : (pushByte json).feed decoder chunk with ⟨outputs, next, _ | error⟩
      · have hnext : next.poisoned = false := by
          have hkept : ((pushByte json).feed decoder chunk).state.poisoned = decoder.poisoned :=
            feed_poisoned (by rw [hchunk])
          rw [hchunk] at hkept
          exact hkept.trans hsound
        simp only [Handed.ofOutcome, Outcome.atomic, Outcome.after, ih hnext, List.nil_append]
      · rfl

/-! ## The lines of a stream -/

section Lines

variable (json) (limit : Nat)

/-- A line without its line feed that a decoder with this limit does not accept. -/
def faultyLine (line : Bytes) : Bool :=
  decide (limit < line.length) || (decodeLine json line).toOption.isNone

def isEventLine (line : Bytes) : Bool :=
  match decodeLine json line with
  | .ok (some _) => true
  | _ => false

/-- A fault in lines of which the last is not complete: it is only bounded. -/
def hasFault : List Bytes → Bool
  | [] => false
  | [unfinished] => decide (limit < unfinished.length)
  | line :: rest => faultyLine json limit line || hasFault rest

/-- An event line before the first fault. -/
def losesEvent : List Bytes → Bool
  | [] => false
  | [_] => false
  | line :: rest =>
      !faultyLine json limit line &&
        ((isEventLine json line && hasFault json limit rest) || losesEvent rest)

end Lines

section Faults

variable {limit : Nat}

theorem hasFault_cons {line : Bytes} {rest : List Bytes} (hrest : rest ≠ []) :
    hasFault json limit (line :: rest) =
      (faultyLine json limit line || hasFault json limit rest) := by
  cases rest with
  | nil => exact absurd rfl hrest
  | cons next rest => rfl

theorem losesEvent_cons {line : Bytes} {rest : List Bytes} (hrest : rest ≠ []) :
    losesEvent json limit (line :: rest) = (!faultyLine json limit line &&
      ((isEventLine json line && hasFault json limit rest) || losesEvent json limit rest)) := by
  cases rest with
  | nil => exact absurd rfl hrest
  | cons next rest => rfl

/-- A first line that is too long is the first fault. -/
theorem faults_of_long (json : JsonDecoder) {line : Bytes} (rest : List Bytes)
    (hlong : limit < line.length) :
    hasFault json limit (line :: rest) = true ∧ losesEvent json limit (line :: rest) = false := by
  have hfaulty : faultyLine json limit line = true := by simp [faultyLine, hlong]
  cases rest with
  | nil => exact ⟨decide_eq_true hlong, rfl⟩
  | cons next rest =>
      rw [hasFault_cons (by simp), losesEvent_cons (by simp), hfaulty]
      exact ⟨rfl, rfl⟩

/-- The outcome of some bytes fails exactly if the lines have a fault, and completes
an event before that exactly if the lines lose one. -/
structure Agrees (json : JsonDecoder) (limit : Nat)
    (outcome : Outcome EventDecoder LauncherEvent ProtocolError) (lines : List Bytes) : Prop where
  error : outcome.error.isSome = hasFault json limit lines
  outputs : (outcome.error.isSome && !outcome.outputs.isEmpty) = losesEvent json limit lines

/-- A complete line, and the outcome of the lines after it. -/
theorem agrees_line {decoder : EventDecoder} {limit : Nat} {lines : List Bytes}
    {rest : EventDecoder → Outcome EventDecoder LauncherEvent ProtocolError}
    (hshort : decoder.buffer.length ≤ limit) (hlines : lines ≠ [])
    (hrest : ∀ ignored, Agrees json limit (rest ⟨[], decoder.maximumLineBytes, decoder.poisoned,
      ignored⟩) lines) :
    Agrees json limit (((pushByte json).consume decoder lineFeed).after rest)
      (decoder.buffer :: lines) := by
  have hbound : ¬limit < decoder.buffer.length := Nat.not_lt.mpr hshort
  rcases hline : decodeLine json decoder.buffer with error | _ | event
  · constructor
    · simp [consume, pushByte, Outcome.after, hasFault_cons hlines, faultyLine, hline,
        Except.toOption]
    · simp [consume, pushByte, Outcome.after, losesEvent_cons hlines, faultyLine, hline,
        Except.toOption]
  · have hconsume : (pushByte json).consume decoder lineFeed = .start ⟨[],
        decoder.maximumLineBytes, decoder.poisoned, min (decoder.ignoredLines + 1) (2 ^ 64 - 1)⟩ :=
      by simp [consume, pushByte, Outcome.start, hline]
    have hnoise := hrest (min (decoder.ignoredLines + 1) (2 ^ 64 - 1))
    rw [hconsume, Outcome.start_after]
    constructor
    · rw [hnoise.error]
      simp [hasFault_cons hlines, faultyLine, hline, hbound, Except.toOption]
    · rw [hnoise.outputs]
      simp [losesEvent_cons hlines, faultyLine, isEventLine, hline, hbound, Except.toOption]
  · have hevent := hrest decoder.ignoredLines
    constructor
    · simp [consume, pushByte, Outcome.after, hevent.error, hasFault_cons hlines, faultyLine,
        hline, hbound, Except.toOption]
    · rw [losesEvent_cons hlines, ← hevent.outputs, ← hevent.error]
      simpa [consume, pushByte, Outcome.after, faultyLine, isEventLine, hline, hbound,
        Except.toOption] using fun hfails _ => hfails

/-! The lines of a stream whose first bytes are in the buffer. -/

theorem modifyHead_nil_append (lines : List Bytes) :
    lines.modifyHead (([] : Bytes) ++ ·) = lines := by
  cases lines with
  | nil => rfl
  | cons line lines => rfl

/-- A line feed completes the line in the buffer. -/
theorem splitOn_lineFeed_cons (buffer rest : Bytes) :
    ((lineFeed :: rest).splitOn lineFeed).modifyHead (buffer ++ ·) =
      buffer :: rest.splitOn lineFeed := by
  rw [List.splitOn_cons_eq_if_modifyHead, beq_self_eq_true, if_pos rfl, List.modifyHead_cons,
    List.append_nil]

/-- Any other byte extends it. -/
theorem splitOn_cons_of_ne {byte : UInt8} (hbyte : byte ≠ lineFeed) (buffer rest : Bytes) :
    ((byte :: rest).splitOn lineFeed).modifyHead (buffer ++ ·) =
      (rest.splitOn lineFeed).modifyHead (buffer ++ [byte] ++ ·) := by
  have hextended : (fun line : Bytes => buffer ++ line) ∘ List.cons byte =
      (buffer ++ [byte] ++ ·) := by
    funext line
    simp
  rw [List.splitOn_cons_eq_if_modifyHead, if_neg (by simpa using hbyte),
    List.modifyHead_modifyHead, hextended]

/-- A byte beyond the bound makes its line too long, whatever follows. -/
theorem exists_long_line {buffer : Bytes} {limit : Nat} (hlong : limit ≤ buffer.length)
    (byte : UInt8) (rest : Bytes) :
    ∃ first lines, (rest.splitOn lineFeed).modifyHead (buffer ++ [byte] ++ ·) = first :: lines ∧
      limit < first.length := by
  obtain ⟨first, lines, hfirst⟩ := List.exists_cons_of_ne_nil (List.splitOn_ne_nil lineFeed rest)
  refine ⟨buffer ++ [byte] ++ first, lines, by rw [hfirst, List.modifyHead_cons], ?_⟩
  simp only [List.length_append, List.length_singleton]
  omega

/-- The bytes after a short buffer. -/
theorem feed_lines (decoder : EventDecoder)
    (hshort : decoder.buffer.length ≤ decoder.maximumLineBytes) (bytes : Bytes) :
    Agrees json decoder.maximumLineBytes ((pushByte json).feed decoder bytes)
      ((bytes.splitOn lineFeed).modifyHead (decoder.buffer ++ ·)) := by
  induction bytes generalizing decoder with
  | nil =>
      constructor
      · simp [feed, Outcome.start, hasFault, hshort]
      · simp [feed, Outcome.start, losesEvent]
  | cons byte rest ih =>
      rw [feed]
      by_cases hfeed : byte = lineFeed
      · rw [hfeed, splitOn_lineFeed_cons]
        apply agrees_line hshort (List.splitOn_ne_nil _ _)
        intro ignored
        have hrest := ih ⟨[], decoder.maximumLineBytes, decoder.poisoned, ignored⟩ (Nat.zero_le _)
        rwa [modifyHead_nil_append] at hrest
      · rw [splitOn_cons_of_ne hfeed]
        unfold consume pushByte
        simp only [if_neg hfeed]
        -- a byte beyond the bound is a fault at once, and the line it belongs to is too long
        by_cases hlong : decoder.buffer.length ≥ decoder.maximumLineBytes
        · obtain ⟨first, lines, hfirst, hfirstLong⟩ := exists_long_line hlong byte rest
          obtain ⟨hfault, hloses⟩ := faults_of_long json lines hfirstLong
          rw [if_pos hlong, hfirst]
          exact ⟨hfault.symm, hloses.symm⟩
        · rw [if_neg hlong]
          apply ih { decoder with buffer := decoder.buffer ++ [byte] }
          simp only [List.length_append, List.length_singleton]
          omega

end Faults

/-- The buffer is what follows the last line feed. -/
theorem feed_buffer {decoder : EventDecoder} {bytes : Bytes}
    (hnone : ((pushByte json).feed decoder bytes).error = none) :
    ∃ complete, decoder.buffer ++ bytes =
        complete ++ ((pushByte json).feed decoder bytes).state.buffer ∧
      (complete = [] ∨ complete.getLast? = some lineFeed) := by
  induction bytes generalizing decoder with
  | nil => exact ⟨[], by simp [feed, Outcome.start], .inl rfl⟩
  | cons byte rest ih =>
      rw [feed, consume] at hnone ⊢
      rcases hbyte : pushByte json decoder byte with ⟨next, error | outputs⟩
      · rw [hbyte] at hnone
        cases hnone
      · rw [hbyte] at hnone
        obtain ⟨complete, hcomplete, hlast⟩ := ih hnone
        by_cases hfeed : byte = lineFeed
        · -- the line is complete and the buffer starts anew
          have hbuffer : next.buffer = [] := pushByte_lineFeed_buffer (hfeed ▸ hbyte)
          rw [hbuffer, List.nil_append] at hcomplete
          refine ⟨decoder.buffer ++ lineFeed :: complete, ?_, .inr ?_⟩
          · rw [hfeed, List.append_assoc, List.cons_append]
            exact congrArg (fun tail => decoder.buffer ++ lineFeed :: tail) hcomplete
          · rcases hlast with rfl | hlast
            · simp
            · rw [List.getLast?_append, List.getLast?_cons, hlast]
              rfl
        · have hbuffer : next.buffer = decoder.buffer ++ [byte] := pushByte_buffer hfeed hbyte
          rw [hbuffer, List.append_assoc, List.singleton_append] at hcomplete
          exact ⟨complete, hcomplete, hlast⟩

/-! ## Cuts of a stream -/

/-- The buffer holds part of one line. -/
theorem lineFeed_notMem_feed_buffer {decoder : EventDecoder} {bytes : Bytes}
    (hbuffer : lineFeed ∉ decoder.buffer)
    (hnone : ((pushByte json).feed decoder bytes).error = none) :
    lineFeed ∉ ((pushByte json).feed decoder bytes).state.buffer := by
  induction bytes generalizing decoder with
  | nil => exact hbuffer
  | cons byte rest ih =>
      rw [feed, consume] at hnone ⊢
      rcases hbyte : pushByte json decoder byte with ⟨next, error | outputs⟩
      · rw [hbyte] at hnone
        cases hnone
      · rw [hbyte] at hnone
        refine ih ?_ hnone
        by_cases hfeed : byte = lineFeed
        · rw [pushByte_lineFeed_buffer (hfeed ▸ hbyte)]
          exact List.not_mem_nil
        · rw [pushByte_buffer hfeed hbyte]
          intro hmem
          rcases List.mem_append.mp hmem with hold | hnew
          · exact hbuffer hold
          · exact hfeed (List.mem_singleton.mp hnew).symm

/-- A stream is decoded the same however the pipe cuts it, in events, ignored lines
and first error, exactly if no event line comes before its first fault. -/
theorem pushChunks_cut_independent_iff (json : JsonDecoder) (limit : Nat) (bytes : Bytes) :
    (∀ first second : List Bytes, first.flatten = bytes → second.flatten = bytes →
      (EventDecoder.empty limit).pushChunks json first =
        (EventDecoder.empty limit).pushChunks json second) ↔
      losesEvent json limit (bytes.splitOn lineFeed) = false := by
  have hagrees : Agrees json limit ((pushByte json).feed (.empty limit) bytes)
      ((bytes.splitOn lineFeed).modifyHead ([] ++ ·)) :=
    feed_lines (.empty limit) (Nat.zero_le _) bytes
  rw [modifyHead_nil_append] at hagrees
  have hcut := (pushByte json).cut_irrelevant_iff (.empty limit) bytes EventDecoder.ignoredLines
  have hquiet : ((pushByte json).feed (EventDecoder.empty limit) bytes).error = none ∨
      ((pushByte json).feed (EventDecoder.empty limit) bytes).outputs = [] ↔
        losesEvent json limit (bytes.splitOn lineFeed) = false := by
    rw [← hagrees.outputs, Bool.and_eq_false_iff, Option.isSome_eq_false_iff,
      Option.isNone_iff_eq_none,
      Bool.not_eq_false', List.isEmpty_iff]
  rw [← hquiet, ← hcut]
  have hsound : (EventDecoder.empty limit).poisoned = false := rfl
  simp only [pushChunks_eq_deliver hsound, Handed.mk.injEq]

section Fixture

def stoppingJson : Bytes :=
  ["\x7b\"protocol_version\":\"2\",\"event\":\"stopping\",",
    "\"timestamp\":\"2026-07-27 00:00:02 UTC\",\"reason\":\"control-file\"\x7d"].flatMap asBytes

/-- The object above, field by field. -/
def stoppingDecoder : JsonDecoder := fun payload =>
  if payload = stoppingJson then
    some ⟨"2", "stopping", some "2026-07-27 00:00:02 UTC", none, none, none, none, none,
      some "control-file", none, none⟩
  else none

def stoppingLine : Bytes := eventPrefix ++ stoppingJson ++ [lineFeed]

/-- An event line without a payload. -/
def emptyEventLine : Bytes := eventPrefix ++ [lineFeed]

theorem pushChunks_one_chunk : EventDecoder.withDefaultLimit.pushChunks stoppingDecoder
    [stoppingLine ++ emptyEventLine] = ⟨[], 0, some .invalidJson⟩ := by decide +kernel

theorem pushChunks_two_chunks : EventDecoder.withDefaultLimit.pushChunks stoppingDecoder
    [stoppingLine, emptyEventLine] =
      ⟨[.stopping ⟨"2026-07-27 00:00:02 UTC"⟩], 0, some .invalidJson⟩ := by decide +kernel

/-- In one chunk the event is lost with the fault after it, in two it is delivered. -/
theorem pushChunks_cut_dependent :
    ¬∀ first second : List Bytes, first.flatten = stoppingLine ++ emptyEventLine →
      second.flatten = stoppingLine ++ emptyEventLine →
        EventDecoder.withDefaultLimit.pushChunks stoppingDecoder first =
          EventDecoder.withDefaultLimit.pushChunks stoppingDecoder second := by
  intro hsame
  have heq := hsame [stoppingLine ++ emptyEventLine] [stoppingLine, emptyEventLine]
    List.flatten_singleton (by simp)
  rw [pushChunks_one_chunk, pushChunks_two_chunks] at heq
  cases heq

end Fixture

end Rpackit.Launcher
