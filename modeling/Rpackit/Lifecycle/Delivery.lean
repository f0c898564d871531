import Rpackit.Launcher.Chunks
import Rpackit.Launcher.Tracker
import Rpackit.Lifecycle.Monitor

/-! # What the stdout thread sends

However much the application prints, the thread sends the events of at most one
lifecycle and one last message. That message says that the stream ended only if its
lines have no fault and the last one is complete.
-/

namespace Rpackit.Lifecycle

open Text Launcher Consumer

/-! ## Sending -/

/-- Whether the receiver still exists when the n-th message is sent. -/
abbrev Receiver := Nat → Bool

/-- A send whose result is ignored. -/
def send (receives : Receiver) (sent : List MonitorMessage) (message : MonitorMessage) :
    List MonitorMessage :=
  if receives sent.length then sent ++ [message] else sent

/-- Send the events of one chunk; the thread returns at a refused event or a failed send. -/
def sendEvents (receives : Receiver) (sent : List MonitorMessage) (tracker : LifecycleTracker) :
    List LauncherEvent → List MonitorMessage × Option LifecycleTracker
  | [] => (sent, some tracker)
  | event :: rest =>
      match tracker.observe event with
      | (.error error, _) => (send receives sent (.protocolFailure error), none)
      | (.ok state, next) =>
          if receives sent.length then
            sendEvents receives (sent ++ [.event state (.ofLauncher event)]) next rest
          else (sent, none)

/-- The read loop of `monitor_stdout`, with what it has sent so far. -/
def sendReads (json : JsonDecoder) (receives : Receiver) (sent : List MonitorMessage)
    (decoder : EventDecoder) (tracker : LifecycleTracker) : List PipeRead → List MonitorMessage
  | [] => sent
  | .failed :: _ => send receives sent .stdoutReadFailure
  | .chunk [] :: _ =>
      match decoder.finish with
      | .error error => send receives sent (.protocolFailure error)
      | .ok () => send receives sent (.stdoutEnded tracker.state decoder.ignoredLines)
  | .chunk (byte :: bytes) :: rest =>
      match decoder.push json (byte :: bytes) with
      | (.error error, _) => send receives sent (.protocolFailure error)
      | (.ok events, next) =>
          match sendEvents receives sent tracker events with
          | (sent, none) => sent
          | (sent, some tracked) => sendReads json receives sent next tracked rest

/-- Everything `monitor_stdout` sends to a receiver that may be dropped. -/
def sendStdout (json : JsonDecoder) (receives : Receiver) (expectedPort : UInt16)
    (reads : List PipeRead) : List MonitorMessage :=
  match LifecycleTracker.new expectedPort true with
  | .error error => send receives [] (.protocolFailure error)
  | .ok tracker => sendReads json receives [] .withDefaultLimit tracker reads

/-- Send messages until a send fails. -/
def sendAll (receives : Receiver) (sent : List MonitorMessage) :
    List MonitorMessage → List MonitorMessage
  | [] => sent
  | message :: rest =>
      if receives sent.length then sendAll receives (sent ++ [message]) rest else sent

variable {json : JsonDecoder} {receives : Receiver} {tracker : LifecycleTracker}

theorem sendAll_singleton (sent : List MonitorMessage) (message : MonitorMessage) :
    sendAll receives sent [message] = send receives sent message := by
  simp [sendAll, send]

/-- The events of a chunk, and what the loop sends after them. -/
theorem sendEvents_eq_sendAll {after : List MonitorMessage → LifecycleTracker → List MonitorMessage}
    {later : LifecycleTracker → List MonitorMessage}
    (hafter : ∀ sent next, after sent next = sendAll receives sent (later next))
    (sent : List MonitorMessage) (tracker : LifecycleTracker) (events : List LauncherEvent) :
    (match sendEvents receives sent tracker events with
      | (sent, none) => sent
      | (sent, some next) => after sent next) =
    sendAll receives sent (match trackEvents tracker events with
      | (messages, none) => messages
      | (messages, some next) => messages ++ later next) := by
  induction events generalizing sent tracker with
  | nil => exact hafter sent tracker
  | cons event rest ih =>
      rw [trackEvents, sendEvents]
      rcases hobserve : tracker.observe event with ⟨error | state, next⟩
      · exact (sendAll_singleton _ _).symm
      · -- the message of the event comes first in both outcomes of the rest
        have hfirst : ∀ message : MonitorMessage,
            (match (message :: (trackEvents next rest).1, (trackEvents next rest).2) with
              | (messages, none) => messages
              | (messages, some next) => messages ++ later next) =
            message :: match trackEvents next rest with
              | (messages, none) => messages
              | (messages, some next) => messages ++ later next := by
          intro message
          rcases trackEvents next rest with ⟨messages, _ | tracked⟩
          · rfl
          · rfl
        simp only [hfirst, sendAll]
        by_cases hreceives : receives sent.length = true
        · simp only [if_pos hreceives]
          exact ih _ next
        · simp only [if_neg hreceives]

theorem sendReads_eq_sendAll (sent : List MonitorMessage) (decoder : EventDecoder)
    (tracker : LifecycleTracker) (reads : List PipeRead) :
    sendReads json receives sent decoder tracker reads =
      sendAll receives sent (monitorReads json decoder tracker reads) := by
  induction reads generalizing sent decoder tracker with
  | nil => rfl
  | cons read reads ih =>
      match read with
      | .failed => exact (sendAll_singleton _ _).symm
      | .chunk [] =>
          rw [sendReads, monitorReads]
          rcases decoder.finish with error | _
          · exact (sendAll_singleton _ _).symm
          · exact (sendAll_singleton _ _).symm
      | .chunk (byte :: bytes) =>
          rw [sendReads, monitorReads]
          rcases decoder.push json (byte :: bytes) with ⟨error | events, next⟩
          · exact (sendAll_singleton _ _).symm
          · exact sendEvents_eq_sendAll (fun sent tracked => ih sent next tracked) sent tracker
              events

/-- A thread with a receiver that may be dropped sends the messages of one that has a
receiver, until a send fails. -/
theorem sendStdout_eq_sendAll (expectedPort : UInt16) (reads : List PipeRead) :
    sendStdout json receives expectedPort reads =
      sendAll receives [] (monitorStdout json expectedPort reads) := by
  unfold sendStdout monitorStdout
  rcases LifecycleTracker.new expectedPort true with error | tracker
  · exact (sendAll_singleton _ _).symm
  · exact sendReads_eq_sendAll _ _ _ _

/-- Sending stops at the end of the messages or at the first failed send. -/
theorem sendAll_eq_take (sent messages : List MonitorMessage) :
    ∃ count, count ≤ messages.length ∧
      sendAll receives sent messages = sent ++ messages.take count ∧
      (count = messages.length ∨ receives (sent.length + count) = false) := by
  induction messages generalizing sent with
  | nil => exact ⟨0, Nat.le_refl _, (List.append_nil _).symm, .inl rfl⟩
  | cons message rest ih =>
      by_cases hreceives : receives sent.length = true
      · obtain ⟨count, hcount, htake, hlast⟩ := ih (sent ++ [message])
        refine ⟨count + 1, Nat.succ_le_succ hcount, ?_, ?_⟩
        · rw [sendAll, if_pos hreceives, htake, List.append_assoc]
          rfl
        · rcases hlast with hall | hfailed
          · exact .inl (congrArg Nat.succ hall)
          · right
            rw [← hfailed, List.length_append]
            congr 1
            simp only [List.length_singleton]
            omega
      · rw [Bool.not_eq_true] at hreceives
        exact ⟨0, Nat.zero_le _, by simp [sendAll, hreceives], .inr hreceives⟩

/-! ## What the loop reports -/

/-- The messages of accepted events. -/
def eventMessages (tracker : LifecycleTracker) : List LauncherEvent → List MonitorMessage
  | [] => []
  | event :: rest =>
      match tracker.observe event with
      | (.ok state, next) => .event state (.ofLauncher event) :: eventMessages next rest
      | (.error _, _) => []

/-- A message is that of an accepted event, or of one after it. -/
theorem mem_eventMessages_cons {event : LauncherEvent} {rest : List LauncherEvent}
    {message : MonitorMessage} (hmem : message ∈ eventMessages tracker (event :: rest)) :
    ∃ state next, tracker.observe event = (.ok state, next) ∧
      (message = .event state (.ofLauncher event) ∨ message ∈ eventMessages next rest) := by
  rw [eventMessages] at hmem
  rcases hobserve : tracker.observe event with ⟨error | state, next⟩
  · rw [hobserve] at hmem
    cases hmem
  · rw [hobserve] at hmem
    exact ⟨state, next, rfl, List.mem_cons.mp hmem⟩

theorem length_eventMessages {events : List LauncherEvent}
    (haccepts : tracker.acceptsAll events = true) :
    (eventMessages tracker events).length = events.length := by
  induction events generalizing tracker with
  | nil => rfl
  | cons event rest ih =>
      rw [LifecycleTracker.acceptsAll] at haccepts
      rw [eventMessages]
      rcases hobserve : tracker.observe event with ⟨error | state, next⟩
      · rw [hobserve] at haccepts
        cases haccepts
      · rw [hobserve] at haccepts
        exact congrArg Nat.succ (ih haccepts)

/-- The first messages of accepted events are the messages of the first events. -/
theorem take_eventMessages (count : Nat) (events : List LauncherEvent) :
    (eventMessages tracker events).take count = eventMessages tracker (events.take count) := by
  induction events generalizing tracker count with
  | nil => simp [eventMessages]
  | cons event rest ih =>
      cases count with
      | zero => rfl
      | succ count =>
          rw [List.take_succ_cons, eventMessages, eventMessages]
          rcases tracker.observe event with ⟨error | state, next⟩
          · rfl
          · exact congrArg _ (ih count)

theorem eventMessages_append {first : List LauncherEvent}
    (haccepts : tracker.acceptsAll first = true) (second : List LauncherEvent) :
    eventMessages tracker (first ++ second) =
      eventMessages tracker first ++ eventMessages (tracker.after first) second := by
  induction first generalizing tracker with
  | nil => rfl
  | cons event rest ih =>
      rw [LifecycleTracker.acceptsAll] at haccepts
      rw [List.cons_append, eventMessages, eventMessages, LifecycleTracker.after]
      rcases hobserve : tracker.observe event with ⟨error | state, next⟩
      · rw [hobserve] at haccepts
        cases haccepts
      · rw [hobserve] at haccepts
        exact congrArg _ (ih haccepts)

theorem acceptsAll_append {first second : List LauncherEvent} :
    tracker.acceptsAll (first ++ second) =
      (tracker.acceptsAll first && (tracker.after first).acceptsAll second) := by
  induction first generalizing tracker with
  | nil => rfl
  | cons event rest ih =>
      rw [List.cons_append, LifecycleTracker.acceptsAll, LifecycleTracker.acceptsAll,
        LifecycleTracker.after]
      rcases tracker.observe event with ⟨error | state, next⟩
      · rfl
      · exact ih

theorem trackEvents_of_acceptsAll {events : List LauncherEvent}
    (haccepts : tracker.acceptsAll events = true) :
    trackEvents tracker events = (eventMessages tracker events, some (tracker.after events)) := by
  induction events generalizing tracker with
  | nil => rfl
  | cons event rest ih =>
      rw [LifecycleTracker.acceptsAll] at haccepts
      rw [trackEvents, eventMessages, LifecycleTracker.after]
      rcases hobserve : tracker.observe event with ⟨error | state, next⟩
      · rw [hobserve] at haccepts
        cases haccepts
      · rw [hobserve] at haccepts
        simp only [ih haccepts]

/-- Before the first rejected event the accepted ones are sent. -/
theorem trackEvents_of_rejected {events : List LauncherEvent}
    (hrejected : tracker.acceptsAll events = false) :
    ∃ accepted error, tracker.acceptsAll accepted = true ∧
      trackEvents tracker events =
        (eventMessages tracker accepted ++ [.protocolFailure error], none) := by
  induction events generalizing tracker with
  | nil => cases hrejected
  | cons event rest ih =>
      rw [LifecycleTracker.acceptsAll] at hrejected
      rw [trackEvents]
      rcases hobserve : tracker.observe event with ⟨error | state, next⟩
      · exact ⟨[], error, rfl, rfl⟩
      · rw [hobserve] at hrejected
        obtain ⟨accepted, error, haccepts, htrack⟩ := ih hrejected
        refine ⟨event :: accepted, error, ?_, ?_⟩
        · rw [LifecycleTracker.acceptsAll, hobserve]
          exact haccepts
        · rw [eventMessages, hobserve]
          simp only [htrack, List.cons_append]

/-- The messages the thread returns after. -/
def MonitorMessage.isFinal : MonitorMessage → Bool
  | .protocolFailure _ => true
  | .stdoutReadFailure => true
  | .stdoutEnded _ _ => true
  | _ => false

/-- Chunks that complete these events without an error. -/
structure Decodes (json : JsonDecoder) (decoder : EventDecoder) (chunks : List Bytes)
    (events : List LauncherEvent) (last : EventDecoder) : Prop where
  nonempty : ∀ chunk ∈ chunks, chunk ≠ []
  feed : (pushByte json).feed decoder chunks.flatten = ⟨events, last, none⟩

theorem Decodes.nil (decoder : EventDecoder) : Decodes json decoder [] [] decoder where
  nonempty := nofun
  feed := rfl

theorem Decodes.cons {decoder next last : EventDecoder} {chunk : Bytes} {chunks : List Bytes}
    {first events : List LauncherEvent} (hchunk : chunk ≠ [])
    (hfirst : (pushByte json).feed decoder chunk = ⟨first, next, none⟩)
    (hrest : Decodes json next chunks events last) :
    Decodes json decoder (chunk :: chunks) (first ++ events) last where
  nonempty := List.forall_mem_cons.mpr ⟨hchunk, hrest.nonempty⟩
  feed := by
    rw [List.flatten_cons, feed_append, hfirst]
    simp [Outcome.after, hrest.feed]

/-- The events whose messages the read loop sends, and its last message. -/
structure Reports (json : JsonDecoder) (decoder : EventDecoder) (tracker : LifecycleTracker)
    (reads : List PipeRead) (events : List LauncherEvent) (last : List MonitorMessage) : Prop where
  messages : monitorReads json decoder tracker reads = eventMessages tracker events ++ last
  accepted : tracker.acceptsAll events = true
  atMostOne : last.length ≤ 1
  final : ∀ message ∈ last, message.isFinal = true
  waiting : last = [] →
    ∃ chunks next, reads = chunks.map .chunk ∧ Decodes json decoder chunks events next
  complete : ∀ state ignoredLines, .stdoutEnded state ignoredLines ∈ last →
    state = (tracker.after events).state ∧
      ∃ chunks later next, reads = chunks.map .chunk ++ .chunk [] :: later ∧
        Decodes json decoder chunks events next ∧ next.buffer = []

/-- A loop that sends a failure and returns. -/
theorem Reports.failure {decoder : EventDecoder} {reads : List PipeRead}
    {events : List LauncherEvent} {message : MonitorMessage}
    (hmessages : monitorReads json decoder tracker reads =
      eventMessages tracker events ++ [message])
    (haccepts : tracker.acceptsAll events = true) (hfinal : message.isFinal = true)
    (hfailure : ∀ state ignoredLines, message ≠ .stdoutEnded state ignoredLines) :
    Reports json decoder tracker reads events [message] where
  messages := hmessages
  accepted := haccepts
  atMostOne := Nat.le_refl _
  final := fun _ hmem => List.mem_singleton.mp hmem ▸ hfinal
  waiting := fun hnil => absurd hnil (List.cons_ne_nil _ _)
  complete := fun state ignoredLines hmem =>
    absurd (List.mem_singleton.mp hmem).symm (hfailure state ignoredLines)

/-- A chunk whose events are all accepted, and the reads after it. -/
theorem Reports.cons {decoder next : EventDecoder} {byte : UInt8} {bytes : Bytes}
    {reads : List PipeRead} {first events : List LauncherEvent} {last : List MonitorMessage}
    (hsound : decoder.poisoned = false)
    (hfirst : (pushByte json).feed decoder (byte :: bytes) = ⟨first, next, none⟩)
    (haccepts : tracker.acceptsAll first = true)
    (hrest : Reports json next (tracker.after first) reads events last) :
    Reports json decoder tracker (.chunk (byte :: bytes) :: reads) (first ++ events) last where
  messages := by
    rw [monitorReads, push_eq_feed hsound, hfirst]
    simp only [Handed.ofOutcome, List.nil_append, trackEvents_of_acceptsAll haccepts,
      hrest.messages]
    rw [eventMessages_append haccepts, List.append_assoc]
  accepted := by
    rw [acceptsAll_append, haccepts, hrest.accepted]
    rfl
  atMostOne := hrest.atMostOne
  final := hrest.final
  waiting := by
    intro hnil
    obtain ⟨chunks, final, hreads, hdecodes⟩ := hrest.waiting hnil
    exact ⟨_, final, by rw [hreads]; rfl, .cons (List.cons_ne_nil _ _) hfirst hdecodes⟩
  complete := by
    intro state ignoredLines hmem
    obtain ⟨hstate, chunks, later, final, hreads, hdecodes, hbuffer⟩ :=
      hrest.complete state ignoredLines hmem
    rw [LifecycleTracker.after_append]
    exact ⟨hstate, _, later, final, by rw [hreads]; rfl,
      .cons (List.cons_ne_nil _ _) hfirst hdecodes, hbuffer⟩

theorem exists_reports (decoder : EventDecoder) (hsound : decoder.poisoned = false)
    (tracker : LifecycleTracker) (reads : List PipeRead) :
    ∃ events last, Reports json decoder tracker reads events last := by
  induction reads generalizing decoder tracker with
  | nil =>
      refine ⟨[], [], rfl, rfl, Nat.zero_le _, fun _ hmem => absurd hmem List.not_mem_nil, ?_,
        fun _ _ hmem => absurd hmem List.not_mem_nil⟩
      exact fun _ => ⟨[], decoder, rfl, .nil decoder⟩
  | cons read reads ih =>
      -- the thread stops at a failed read, at the end of the stream, and at a chunk
      -- with a defect or with an event out of order
      cases read with
      | failed =>
          exact ⟨[], [.stdoutReadFailure], .failure rfl rfl rfl fun _ _ hended => by cases hended⟩
      | chunk bytes =>
          cases bytes with
          | nil =>
              by_cases hbuffer : decoder.buffer = []
              · have hfinish : decoder.finish = .ok () := by
                  simp [EventDecoder.finish, hsound, hbuffer]
                refine ⟨[], [.stdoutEnded tracker.state decoder.ignoredLines], ?_, rfl,
                  Nat.le_refl _, by simp [MonitorMessage.isFinal],
                  fun hnil => absurd hnil (List.cons_ne_nil _ _), ?_⟩
                · rw [monitorReads, hfinish]
                  rfl
                · intro state ignoredLines hmem
                  cases List.mem_singleton.mp hmem
                  exact ⟨rfl, [], reads, decoder, rfl, .nil decoder, hbuffer⟩
              · have hfinish : decoder.finish = .error .truncatedLine := by
                  simp [EventDecoder.finish, hsound, hbuffer]
                refine ⟨[], [.protocolFailure .truncatedLine], .failure ?_ rfl rfl
                  fun _ _ hended => by cases hended⟩
                rw [monitorReads, hfinish]
                rfl
          | cons byte bytes =>
              have hpush : decoder.push json (byte :: bytes) = _ :=
                push_eq_feed hsound (byte :: bytes)
              rcases hfed : (pushByte json).feed decoder (byte :: bytes) with
                ⟨first, next, _ | error⟩
              · have hnext : next.poisoned = false := by
                  have hkept : ((pushByte json).feed decoder (byte :: bytes)).state.poisoned = _ :=
                    feed_poisoned (by rw [hfed])
                  rw [hfed] at hkept
                  exact hkept.trans hsound
                rcases haccepts : tracker.acceptsAll first with _ | _
                · obtain ⟨accepted, error, haccepts, htrack⟩ := trackEvents_of_rejected haccepts
                  refine ⟨accepted, [.protocolFailure error], .failure ?_ haccepts rfl
                    fun _ _ hended => by cases hended⟩
                  rw [monitorReads, hpush, hfed]
                  simp only [Handed.ofOutcome, List.nil_append, htrack]
                · obtain ⟨events, last, hrest⟩ := ih next hnext (tracker.after first)
                  exact ⟨first ++ events, last, .cons hsound hfed haccepts hrest⟩
              · refine ⟨[], [.protocolFailure error], .failure ?_ rfl rfl
                  fun _ _ hended => by cases hended⟩
                rw [monitorReads, hpush, hfed]
                rfl

/-! ## The bound -/

theorem length_events_le {port : UInt16} {graceful : Bool} (whole : WholeLifecycle port graceful) :
    whole.events.length ≤ 4 := by
  have hstopping : (whole.stopping.map LauncherEvent.stopping).toList.length ≤ 1 := by
    cases whole.stopping with
    | none => exact Nat.zero_le _
    | some stopping => exact Nat.le_refl _
  simp only [WholeLifecycle.events, WholeLifecycle.opening, List.length_append, List.length_cons,
    List.length_nil]
  omega

theorem error_notMem_events {port : UInt16} {graceful : Bool}
    (whole : WholeLifecycle port graceful) (error : ErrorEvent) : .error error ∉ whole.events := by
  cases hstopping : whole.stopping with
  | none => simp [WholeLifecycle.events, WholeLifecycle.opening, hstopping]
  | some stopping => simp [WholeLifecycle.events, WholeLifecycle.opening, hstopping]

/-- A lifecycle has at most four events, and an error only at its end. -/
theorem bounded_of_inLanguage {port : UInt16} {graceful : Bool} {events : List LauncherEvent}
    (hlanguage : InLanguage port graceful events) :
    events.length ≤ 4 ∧ ∀ error ∈ events.dropLast, ∀ cause, error ≠ .error cause := by
  obtain ⟨whole, hleads | ⟨before, error, rfl, hleads, hproper, -⟩⟩ := hlanguage
  · refine ⟨hleads.length_le.trans (length_events_le whole), ?_⟩
    rintro _ hmem cause rfl
    exact error_notMem_events whole cause (hleads.subset (List.dropLast_subset _ hmem))
  · have hshorter : before.length < whole.events.length :=
      lt_of_le_of_ne hleads.length_le fun hsame => hproper (hleads.eq_of_length hsame)
    have hwhole := length_events_le whole
    refine ⟨by simp only [List.length_append, List.length_singleton]; omega, ?_⟩
    rw [List.dropLast_concat]
    rintro _ hmem cause rfl
    exact error_notMem_events whole cause (hleads.subset hmem)

/-- A stream cut into these chunks has no fault, and its pushes hand on these events. -/
structure Faultless (json : JsonDecoder) (chunks : List Bytes) (events : List LauncherEvent) :
    Prop where
  nonempty : ∀ chunk ∈ chunks, chunk ≠ []
  hasFault : hasFault json defaultMaxLineBytes (chunks.flatten.splitOn lineFeed) = false
  handed : ∃ ignoredLines,
    EventDecoder.withDefaultLimit.pushChunks json chunks = ⟨events, ignoredLines, none⟩

/-- The bytes end with a line feed, if there are any. -/
def EndsLine (bytes : Bytes) : Prop := bytes = [] ∨ bytes.getLast? = some lineFeed

theorem Decodes.faultless {chunks : List Bytes} {events : List LauncherEvent} {next : EventDecoder}
    (hdecodes : Decodes json .withDefaultLimit chunks events next) :
    Faultless json chunks events where
  nonempty := hdecodes.nonempty
  hasFault := by
    have hagrees : Agrees json _ ((pushByte json).feed .withDefaultLimit chunks.flatten) _ :=
      feed_lines .withDefaultLimit (Nat.zero_le _) chunks.flatten
    have hlines : (chunks.flatten.splitOn lineFeed).modifyHead (([] : Bytes) ++ ·) =
        chunks.flatten.splitOn lineFeed := by
      cases chunks.flatten.splitOn lineFeed with
      | nil => rfl
      | cons line rest => rfl
    have herror := hagrees.error
    rw [hdecodes.feed] at herror
    exact (hlines ▸ herror).symm
  handed := by
    have hdeliver : (pushByte json).deliver .withDefaultLimit chunks =
        (pushByte json).feed .withDefaultLimit chunks.flatten :=
      deliver_of_error_eq_none (by rw [hdecodes.feed])
    rw [pushChunks_eq_deliver rfl, hdeliver, hdecodes.feed]
    exact ⟨_, rfl⟩

theorem Decodes.endsLine {chunks : List Bytes} {events : List LauncherEvent} {next : EventDecoder}
    (hdecodes : Decodes json .withDefaultLimit chunks events next) (hbuffer : next.buffer = []) :
    EndsLine chunks.flatten := by
  have hnone : ((pushByte json).feed .withDefaultLimit chunks.flatten).error = none := by
    rw [hdecodes.feed]
  obtain ⟨complete, hcomplete, hends⟩ := feed_buffer hnone
  rw [hdecodes.feed, hbuffer, List.append_nil] at hcomplete
  have hbytes : chunks.flatten = complete := hcomplete
  rwa [EndsLine, hbytes]

/-! ## Streams that end well -/

theorem Decodes.uncons {decoder last : EventDecoder} {chunk : Bytes} {chunks : List Bytes}
    {events : List LauncherEvent} (hdecodes : Decodes json decoder (chunk :: chunks) events last) :
    ∃ first rest next, (pushByte json).feed decoder chunk = ⟨first, next, none⟩ ∧
      Decodes json next chunks rest last ∧ events = first ++ rest := by
  have hfeed := hdecodes.feed
  rw [List.flatten_cons, feed_append] at hfeed
  rcases hfirst : (pushByte json).feed decoder chunk with ⟨first, next, _ | error⟩
  · rw [hfirst] at hfeed
    rcases hrest : (pushByte json).feed next chunks.flatten with ⟨rest, final, error⟩
    simp only [Outcome.after, hrest, Outcome.mk.injEq] at hfeed
    obtain ⟨rfl, rfl, rfl⟩ := hfeed
    exact ⟨first, rest, next, rfl, ⟨(List.forall_mem_cons.mp hdecodes.nonempty).2, hrest⟩, rfl⟩
  · rw [hfirst] at hfeed
    cases hfeed

/-- The messages of a stream that is decoded to its end. -/
theorem monitorReads_of_decodes {decoder last : EventDecoder} {chunks : List Bytes}
    {events : List LauncherEvent} (hsound : decoder.poisoned = false)
    (hdecodes : Decodes json decoder chunks events last)
    (haccepts : tracker.acceptsAll events = true)
    (hbuffer : last.buffer = []) (later : List PipeRead) :
    monitorReads json decoder tracker (chunks.map .chunk ++ .chunk [] :: later) =
      eventMessages tracker events ++
        [.stdoutEnded (tracker.after events).state last.ignoredLines] := by
  induction chunks generalizing decoder tracker events with
  | nil =>
      have hfeed := hdecodes.feed
      simp only [List.flatten_nil, Consumer.feed, Outcome.start, Outcome.mk.injEq] at hfeed
      obtain ⟨rfl, rfl, -⟩ := hfeed
      simp [monitorReads, EventDecoder.finish, hsound, hbuffer, eventMessages,
        LifecycleTracker.after]
  | cons chunk chunks ih =>
      obtain ⟨first, rest, next, hfirst, hrest, rfl⟩ := hdecodes.uncons
      have hchunk := (List.forall_mem_cons.mp hdecodes.nonempty).1
      obtain ⟨byte, bytes, rfl⟩ := List.exists_cons_of_ne_nil hchunk
      have hnext : next.poisoned = false := by
        have hkept : ((pushByte json).feed decoder (byte :: bytes)).state.poisoned = _ :=
          feed_poisoned (by rw [hfirst])
        rw [hfirst] at hkept
        exact hkept.trans hsound
      rw [acceptsAll_append, Bool.and_eq_true] at haccepts
      rw [List.map_cons, List.cons_append, monitorReads, push_eq_feed hsound, hfirst]
      simp only [Handed.ofOutcome, List.nil_append, trackEvents_of_acceptsAll haccepts.1]
      rw [ih hnext hrest haccepts.2, eventMessages_append haccepts.1, LifecycleTracker.after_append,
        List.append_assoc]

theorem Faultless.decodes {chunks : List Bytes} {events : List LauncherEvent}
    (hfaultless : Faultless json chunks events) :
    ∃ last, Decodes json .withDefaultLimit chunks events last := by
  obtain ⟨ignoredLines, hhanded⟩ := hfaultless.handed
  rw [pushChunks_eq_deliver rfl, Handed.mk.injEq] at hhanded
  obtain ⟨houtputs, -, herror⟩ := hhanded
  rw [(deliver_state_error _ _ _).2] at herror
  rw [deliver_of_error_eq_none herror] at houtputs
  exact ⟨_, hfaultless.nonempty, by rw [← houtputs, ← herror]⟩

theorem Decodes.buffer_eq_nil {chunks : List Bytes} {events : List LauncherEvent}
    {last : EventDecoder} (hdecodes : Decodes json .withDefaultLimit chunks events last)
    (hends : EndsLine chunks.flatten) : last.buffer = [] := by
  have hnone : ((pushByte json).feed .withDefaultLimit chunks.flatten).error = none := by
    rw [hdecodes.feed]
  have hnot : lineFeed ∉ ((pushByte json).feed .withDefaultLimit chunks.flatten).state.buffer :=
    lineFeed_notMem_feed_buffer List.not_mem_nil hnone
  obtain ⟨complete, hcomplete, -⟩ := feed_buffer hnone
  rw [hdecodes.feed] at hcomplete hnot
  by_contra hbuffer
  have hbytes : chunks.flatten = complete ++ last.buffer := hcomplete
  rcases hends with hnil | hlast
  · rw [hnil] at hbytes
    exact hbuffer (List.append_eq_nil_iff.mp hbytes.symm).2
  · rw [hbytes, List.getLast?_append_of_ne_nil _ hbuffer] at hlast
    exact hnot (List.mem_of_getLast? hlast)

/-! ## Delivered messages -/

theorem acceptsAll_take {events : List LauncherEvent} (haccepts : tracker.acceptsAll events = true)
    (count : Nat) : tracker.acceptsAll (events.take count) = true := by
  rw [← List.take_append_drop count events, acceptsAll_append, Bool.and_eq_true] at haccepts
  exact haccepts.1

/-- What reaches a receiver that may be dropped: messages of accepted events and at most
one last message, which is missing only if a send failed or the loop waits for a read. -/
structure Delivers (json : JsonDecoder) (receives : Receiver) (tracker : LifecycleTracker)
    (reads : List PipeRead) (sent : List MonitorMessage) (events : List LauncherEvent)
    (last : List MonitorMessage) : Prop where
  messages : sent = eventMessages tracker events ++ last
  length : (eventMessages tracker events).length = events.length
  accepted : tracker.acceptsAll events = true
  atMostOne : last.length ≤ 1
  final : ∀ message ∈ last, message.isFinal = true
  missing : last = [] → receives events.length = false ∨
    ∃ chunks, reads = chunks.map .chunk ∧ Faultless json chunks events
  complete : ∀ state ignoredLines, .stdoutEnded state ignoredLines ∈ last →
    ∃ chunks later, reads = chunks.map .chunk ++ .chunk [] :: later ∧
      Faultless json chunks events ∧ EndsLine chunks.flatten

theorem delivers_of_reports {reads : List PipeRead} {events : List LauncherEvent}
    {last : List MonitorMessage} (receives : Receiver)
    (hreports : Reports json .withDefaultLimit tracker reads events last) :
    ∃ delivered final, Delivers json receives tracker reads
      (sendAll receives [] (monitorReads json .withDefaultLimit tracker reads)) delivered
        final := by
  have hsends : ∃ count, count ≤ _ ∧ sendAll receives [] _ = _ ∧ _ :=
    sendAll_eq_take [] (monitorReads json .withDefaultLimit tracker reads)
  obtain ⟨count, hcount, hsent, hstopped⟩ := hsends
  rw [hreports.messages] at hcount hsent hstopped
  rw [hreports.messages, hsent, List.nil_append]
  have hlength := length_eventMessages hreports.accepted
  by_cases hall : count = (eventMessages tracker events ++ last).length
  · -- every message arrives
    rw [hall, List.take_length]
    refine ⟨events, last, rfl, hlength, hreports.accepted, hreports.atMostOne, hreports.final, ?_,
      ?_⟩
    · intro hnil
      obtain ⟨chunks, next, hreads, hdecodes⟩ := hreports.waiting hnil
      exact .inr ⟨chunks, hreads, hdecodes.faultless⟩
    · intro state ignoredLines hmem
      obtain ⟨-, chunks, later, next, hreads, hdecodes, hbuffer⟩ :=
        hreports.complete state ignoredLines hmem
      exact ⟨chunks, later, hreads, hdecodes.faultless, hdecodes.endsLine hbuffer⟩
  · -- the failed send is that of an event or of the last message
    have hone := hreports.atMostOne
    rw [List.length_append] at hcount hall
    have hevents : count ≤ events.length := by omega
    have htaken : (events.take count).length = count := by
      rw [List.length_take, Nat.min_eq_left hevents]
    have haccepts := acceptsAll_take hreports.accepted count
    refine ⟨events.take count, [], ?_, length_eventMessages haccepts, haccepts, Nat.zero_le _,
      nofun, ?_, nofun⟩
    · rw [List.take_append_of_le_length (hlength ▸ hevents), take_eventMessages, List.append_nil]
    · rw [htaken]
      rcases hstopped with hlast | hfailed
      · exact absurd (by rw [hlast, List.length_append]) hall
      · rw [List.length_nil, Nat.zero_add] at hfailed
        exact fun _ => .inl hfailed

/-- However much the application prints, the stdout thread sends the messages of at most
four events, which the tracker accepts and of which only the last may be an error, and
then one last message unless a send failed. It reports the end of the stream only if
the whole stream was decoded without an error and ended with a line. -/
theorem stdout_thread_is_bounded (json : JsonDecoder) (receives : Receiver) (port : UInt16)
    (reads : List PipeRead) : ∃ events last,
      Delivers json receives ⟨port, true, .awaitingStart, none⟩ reads
        (sendStdout json receives port reads) events last ∧
      events.length ≤ 4 ∧ ∀ event ∈ events.dropLast, ∀ error, event ≠ .error error := by
  rw [sendStdout_eq_sendAll, monitorStdout]
  rcases hnew : LifecycleTracker.new port true with error | tracker
  · rw [sendAll_singleton, send]
    by_cases hreceives : receives 0 = true
    · refine ⟨[], [.protocolFailure error], ⟨?_, rfl, rfl, Nat.le_refl _, ?_, nofun, ?_⟩,
        Nat.zero_le _,
        nofun⟩
      · rw [List.length_nil, if_pos hreceives]
        rfl
      · exact fun message hmem => List.mem_singleton.mp hmem ▸ rfl
      · intro state ignoredLines hmem
        cases List.mem_singleton.mp hmem
    · rw [Bool.not_eq_true] at hreceives
      refine ⟨[], [], ⟨?_, rfl, rfl, Nat.zero_le _, nofun, fun _ => .inl hreceives, nofun⟩,
        Nat.zero_le _, nofun⟩
      rw [List.length_nil, hreceives]
      rfl
  -- the fresh tracker accepts at most four events
  · have hreported : ∃ events last, Reports json .withDefaultLimit tracker reads events last :=
      exists_reports .withDefaultLimit rfl tracker reads
    obtain ⟨events, last, hreports⟩ := hreported
    obtain ⟨delivered, final, hdelivers⟩ := delivers_of_reports receives hreports
    have hbounded := bounded_of_inLanguage
      (LifecycleTracker.inLanguage_of_acceptsAll (LifecycleTracker.fresh_of_new hnew)
        hdelivers.accepted)
    have hsame : tracker = ⟨port, true, .awaitingStart, none⟩ := by
      unfold LifecycleTracker.new at hnew
      split at hnew
      · cases hnew
      · exact (Except.ok.inj hnew).symm
    exact ⟨delivered, final, hsame ▸ hdelivers, hbounded⟩

end Rpackit.Lifecycle
