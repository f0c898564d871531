import Rpackit.Launcher.Protocol

/-! # The shape of an event

An event object has exactly the fields its name allows. `Parses` says field by field
which object gives which event; the message of an error is cleaned on the way, and a
clean message is left as it is, so an event that is written back parses to itself.
-/

namespace Rpackit.Launcher

open Text Fallible

/-! ## Field values -/

def ErrorPhase.text : ErrorPhase → String
  | .bootstrap => "bootstrap"
  | .arguments => "arguments"
  | .token => "token"
  | .app => "app"
  | .runtime => "runtime"

structure ValidTimestamp (timestamp : String) : Prop where
  nonempty : timestamp ≠ ""
  bounded : timestamp.utf8ByteSize ≤ maxTimestampBytes
  printable : ∀ c ∈ timestamp.toList, isControl c = false

/-- A message that leaves something when controls and outer white space are dropped. -/
structure ValidMessage (message : String) : Prop where
  bounded : message.utf8ByteSize ≤ maxMessageBytes
  visible : ∃ c ∈ message.toList, isControl c = false ∧ isWhiteSpace c = false

/-- What the message of an error event is. -/
structure CleanMessage (message : String) : Prop where
  nonempty : message ≠ ""
  printable : ∀ c ∈ message.toList, isControl c = false
  leading : ∀ c, message.toList.head? = some c → isWhiteSpace c = false
  trailing : ∀ c, message.toList.getLast? = some c → isWhiteSpace c = false
  bounded : message.utf8ByteSize ≤ maxMessageBytes

/-! ## The checks of single fields -/

theorem isEmpty_eq_false_iff {text : String} : text.isEmpty = false ↔ text ≠ "" := by
  rw [← Bool.not_eq_true, String.isEmpty_iff]

theorem requireNoFields_eq_ok_iff {fields : List Bool} {u : Unit} :
    requireNoFields fields = .ok u ↔ ∀ field ∈ fields, field = false := by
  rw [requireNoFields, rejectIf_eq_ok_iff, List.any_eq_false]
  simp

theorem requireLoopbackAuthentication_eq_ok_iff {host : Option String}
    {tokenEnforced : Option Bool} {u : Unit} :
    requireLoopbackAuthentication host tokenEnforced = .ok u ↔
      host = some "127.0.0.1" ∧ tokenEnforced = some true := by
  simp [requireLoopbackAuthentication, rejectIf_eq_ok_iff]

theorem validateTimestamp_eq_ok_iff {timestamp valid : String} :
    validateTimestamp timestamp = .ok valid ↔ valid = timestamp ∧ ValidTimestamp timestamp := by
  simp only [validateTimestamp, rejectIf_bind_eq_ok_iff, pure_eq_ok_iff, Bool.or_eq_false_iff,
    isEmpty_eq_false_iff, decide_eq_false_iff_not, Nat.not_lt, List.any_eq_false,
    Bool.not_eq_true]
  constructor
  · intro hchecks
    obtain ⟨⟨⟨hnonempty, hbounded⟩, hprintable⟩, hvalid⟩ := hchecks
    exact ⟨hvalid, hnonempty, hbounded, hprintable⟩
  · intro hchecks
    obtain ⟨hvalid, hnonempty, hbounded, hprintable⟩ := hchecks
    exact ⟨⟨⟨hnonempty, hbounded⟩, hprintable⟩, hvalid⟩

theorem requireTimestamp_eq_ok_iff {timestamp : Option String} {valid : String} :
    requireTimestamp timestamp = .ok valid ↔ timestamp = some valid ∧ ValidTimestamp valid := by
  simp only [requireTimestamp, okOr_bind_eq_ok_iff, validateTimestamp_eq_ok_iff]
  constructor
  · intro hpresent
    obtain ⟨present, hsome, rfl, hvalid⟩ := hpresent
    exact ⟨hsome, hvalid⟩
  · intro hpresent
    exact ⟨valid, hpresent.1, rfl, hpresent.2⟩

theorem validatePid_eq_ok_iff {pid valid : UInt32} :
    validatePid pid = .ok valid ↔ valid = pid ∧ pid ≠ 0 := by
  simp only [validatePid, rejectIf_bind_eq_ok_iff, pure_eq_ok_iff, beq_eq_false_iff_ne]
  exact and_comm

theorem requirePid_eq_ok_iff {pid : Option UInt32} {valid : UInt32} :
    requirePid pid = .ok valid ↔ pid = some valid ∧ valid ≠ 0 := by
  simp only [requirePid, okOr_bind_eq_ok_iff, validatePid_eq_ok_iff]
  constructor
  · intro hpresent
    obtain ⟨present, hsome, rfl, hvalid⟩ := hpresent
    exact ⟨hsome, hvalid⟩
  · intro hpresent
    exact ⟨valid, hpresent.1, rfl, hpresent.2⟩

theorem requirePort_eq_ok_iff {port : Option UInt16} {valid : UInt16} :
    requirePort port = .ok valid ↔ port = some valid ∧ valid ≠ 0 := by
  simp only [requirePort, okOr_bind_eq_ok_iff, rejectIf_bind_eq_ok_iff, pure_eq_ok_iff,
    beq_eq_false_iff_ne]
  constructor
  · intro hpresent
    obtain ⟨present, hsome, hvalid, rfl⟩ := hpresent
    exact ⟨hsome, hvalid⟩
  · intro hpresent
    exact ⟨valid, hpresent.1, hpresent.2, rfl⟩

theorem parseErrorPhase_eq_ok_iff {text : Option String} {phase : ErrorPhase} :
    parseErrorPhase text = .ok phase ↔ text = some phase.text := by
  constructor
  · intro hok
    unfold parseErrorPhase at hok
    split at hok
    all_goals cases hok
    all_goals rfl
  · intro htext
    rw [htext]
    cases phase
    all_goals rfl

theorem errorTimestamp_eq_ok_iff {raw : RawEvent} {phase : ErrorPhase}
    {timestamp : Option String} :
    errorTimestamp raw phase = .ok timestamp ↔ raw.timestamp = timestamp ∧
      (∀ present, timestamp = some present → ValidTimestamp present) ∧
        (timestamp = none → phase = .bootstrap ∧ raw.pid = none) := by
  unfold errorTimestamp
  cases hraw : raw.timestamp with
  | some value =>
      simp only [bind_eq_ok_iff, validateTimestamp_eq_ok_iff, pure_eq_ok_iff]
      constructor
      · intro hok
        obtain ⟨valid, ⟨rfl, hvalid⟩, rfl⟩ := hok
        exact ⟨rfl, fun present heq => Option.some.inj heq ▸ hvalid, by simp⟩
      · intro hok
        obtain ⟨rfl, hvalid, -⟩ := hok
        exact ⟨value, ⟨rfl, hvalid value rfl⟩, rfl⟩
  | none =>
      by_cases hbootstrap : phase = .bootstrap ∧ raw.pid = none
      · rw [if_pos hbootstrap]
        constructor
        · intro hok
          cases hok
          exact ⟨rfl, by simp, fun _ => hbootstrap⟩
        · intro hok
          rw [← hok.1]
      · rw [if_neg hbootstrap]
        constructor
        · intro hok
          cases hok
        · intro hok
          exact absurd (hok.2.2 hok.1.symm) hbootstrap

theorem mapM_validatePid_eq_ok_iff {pid valid : Option UInt32} :
    pid.mapM validatePid = .ok valid ↔
      valid = pid ∧ ∀ present, pid = some present → present ≠ 0 := by
  cases pid with
  | none => simp [Option.mapM_none, pure_eq_ok_iff]
  | some present =>
      simp only [Option.mapM_some, map_eq_pure_bind, bind_eq_ok_iff, validatePid_eq_ok_iff,
        pure_eq_ok_iff]
      constructor
      · intro hok
        obtain ⟨same, ⟨rfl, hne⟩, rfl⟩ := hok
        exact ⟨rfl, fun other heq => Option.some.inj heq ▸ hne⟩
      · intro hok
        exact ⟨present, ⟨rfl, hok.2 present rfl⟩, hok.1⟩

/-! ## Messages -/

/-- A message with its controls replaced and its outer white space removed. -/
def cleaned (message : String) : List Char :=
  trimScalars (message.toList.map fun c => if isControl c then ' ' else c)

theorem utf8ByteSize_ofList_cons (c : Char) (rest : List Char) :
    (String.ofList (c :: rest)).utf8ByteSize =
      c.utf8Size + (String.ofList rest).utf8ByteSize := by
  rw [String.ofList_cons, String.utf8ByteSize_append]
  simp

theorem mem_cleaned {message : String} {c : Char} (hmem : c ∈ cleaned message) :
    isControl c = false := by
  have hwithin : cleaned message <:+: _ :=
    (List.rdropWhile_prefix _ _).isInfix.trans (List.dropWhile_suffix _).isInfix
  obtain ⟨source, -, rfl⟩ := List.mem_map.mp (hwithin.subset hmem)
  by_cases hcontrol : isControl source = true
  · rw [if_pos hcontrol]
    decide
  · rw [if_neg hcontrol]
    simpa using hcontrol

/-- Replacing and trimming do not lengthen a message. -/
theorem utf8ByteSize_cleaned (message : String) :
    (String.ofList (cleaned message)).utf8ByteSize ≤ message.utf8ByteSize := by
  have hreplaced : ∀ scalars : List Char,
      (String.ofList (scalars.map fun c => if isControl c then ' ' else c)).utf8ByteSize ≤
        (String.ofList scalars).utf8ByteSize := by
    intro scalars
    induction scalars with
    | nil => exact Nat.le_refl _
    | cons c rest ih =>
        have hc : (if isControl c then ' ' else c).utf8Size ≤ c.utf8Size := by
          split
          · exact Char.utf8Size_pos c
          · exact Nat.le_refl _
        rw [List.map_cons, utf8ByteSize_ofList_cons, utf8ByteSize_ofList_cons]
        exact Nat.add_le_add hc ih
  obtain ⟨before, after, hsplit, -⟩ := exists_trimmed isWhiteSpace
    (message.toList.map fun c => if isControl c then ' ' else c)
  change _ = before ++ cleaned message ++ after at hsplit
  have hbound := hreplaced message.toList
  rw [hsplit, String.ofList_toList, String.ofList_append, String.ofList_append,
    String.utf8ByteSize_append, String.utf8ByteSize_append] at hbound
  omega

theorem cleaned_eq_nil_iff {message : String} :
    cleaned message = [] ↔ ∀ c ∈ message.toList, isControl c = false → isWhiteSpace c = true := by
  have hspace : isWhiteSpace ' ' = true := by decide
  constructor
  · intro hnil c hc hcontrol
    obtain ⟨before, after, hsplit, hbefore, hafter⟩ := exists_trimmed isWhiteSpace
      (message.toList.map fun c => if isControl c then ' ' else c)
    have hmem : c ∈ message.toList.map fun c => if isControl c then ' ' else c :=
      List.mem_map.mpr ⟨c, hc, by simp [hcontrol]⟩
    change _ = before ++ cleaned message ++ after at hsplit
    rw [hsplit, hnil, List.append_nil] at hmem
    rcases List.mem_append.mp hmem with hin | hin
    · exact hbefore c hin
    · exact hafter c hin
  · intro hblank
    have hall : ∀ c ∈ message.toList.map fun c => if isControl c then ' ' else c,
        isWhiteSpace c = true := by
      intro c hc
      obtain ⟨source, hsource, rfl⟩ := List.mem_map.mp hc
      by_cases hcontrol : isControl source = true
      · rw [if_pos hcontrol]
        exact hspace
      · rw [if_neg hcontrol]
        exact hblank source hsource (by simpa using hcontrol)
    rw [cleaned, trimScalars, List.dropWhile_eq_nil_iff.mpr hall]
    rfl

theorem sanitizeMessage_eq_ok_iff {message clean : String} :
    sanitizeMessage message = .ok clean ↔
      ValidMessage message ∧ clean = String.ofList (cleaned message) := by
  simp only [sanitizeMessage, rejectIf_bind_eq_ok_iff, pure_eq_ok_iff, Bool.or_eq_false_iff,
    isEmpty_eq_false_iff, decide_eq_false_iff_not, Nat.not_lt, beq_eq_false_iff_ne]
  change (message ≠ "" ∧ _) ∧ cleaned message ≠ [] ∧ clean = String.ofList (cleaned message) ↔ _
  rw [ne_eq (cleaned message), cleaned_eq_nil_iff]
  constructor
  · intro hchecks
    obtain ⟨⟨-, hbounded⟩, hvisible, hclean⟩ := hchecks
    simp only [not_forall, Bool.not_eq_true] at hvisible
    obtain ⟨c, hc, hcontrol, hspace⟩ := hvisible
    exact ⟨⟨hbounded, c, hc, hcontrol, hspace⟩, hclean⟩
  · intro hchecks
    obtain ⟨⟨hbounded, c, hc, hcontrol, hspace⟩, hclean⟩ := hchecks
    refine ⟨⟨?_, hbounded⟩, fun hblank => ?_, hclean⟩
    · intro hempty
      rw [hempty] at hc
      cases hc
    · rw [hblank c hc hcontrol] at hspace
      cases hspace

theorem cleanMessage_of_sanitizeMessage {message clean : String}
    (hok : sanitizeMessage message = .ok clean) : CleanMessage clean := by
  obtain ⟨hvalid, rfl⟩ := sanitizeMessage_eq_ok_iff.mp hok
  constructor
  · intro hempty
    obtain ⟨c, hc, hcontrol, hspace⟩ := hvalid.visible
    have hnil : cleaned message = [] := by
      rw [← String.toList_ofList (l := cleaned message), hempty]
      rfl
    rw [cleaned_eq_nil_iff.mp hnil c hc hcontrol] at hspace
    cases hspace
  · intro c hc
    rw [String.toList_ofList] at hc
    exact mem_cleaned hc
  · intro c hc
    rw [String.toList_ofList] at hc
    exact head?_trimmed hc
  · intro c hc
    rw [String.toList_ofList] at hc
    exact getLast?_trimmed hc
  · exact (utf8ByteSize_cleaned message).trans hvalid.bounded

/-- A clean message is left as it is. -/
theorem CleanMessage.sanitizeMessage {message : String} (hclean : CleanMessage message) :
    sanitizeMessage message = .ok message := by
  have hkept : (message.toList.map fun c => if isControl c then ' ' else c) = message.toList := by
    rw [List.map_congr_left (g := id)]
    · exact List.map_id _
    · intro c hc
      simp [hclean.printable c hc]
  have hsame : cleaned message = message.toList := by
    rw [cleaned, hkept]
    exact trimmed_eq_self hclean.leading hclean.trailing
  refine sanitizeMessage_eq_ok_iff.mpr ⟨⟨hclean.bounded, ?_⟩, ?_⟩
  · cases hscalars : message.toList with
    | nil => exact absurd (String.toList_eq_nil_iff.mp hscalars) hclean.nonempty
    | cons c rest =>
        have hmem : c ∈ message.toList := by simp [hscalars]
        exact ⟨c, by simp, hclean.printable c hmem, hclean.leading c (by simp [hscalars])⟩
  · rw [hsame, String.ofList_toList]

/-! ## Events -/

/-- Which object gives which event. -/
inductive Parses : RawEvent → LauncherEvent → Prop
  | starting {timestamp : String} {pid : UInt32} {port : UInt16} (gracefulStop : Bool)
      (htimestamp : ValidTimestamp timestamp) (hpid : pid ≠ 0) (hport : port ≠ 0) :
      Parses ⟨"2", "starting", some timestamp, some pid, some "127.0.0.1", some port, some true,
        some gracefulStop, none, none, none⟩ (.starting ⟨timestamp, pid, port, gracefulStop⟩)
  | listening {timestamp : String} {pid : UInt32} {port : UInt16}
      (htimestamp : ValidTimestamp timestamp) (hpid : pid ≠ 0) (hport : port ≠ 0) :
      Parses ⟨"2", "listening", some timestamp, some pid, some "127.0.0.1", some port, some true,
        none, none, none, none⟩ (.listening ⟨timestamp, pid, port⟩)
  | stopping {timestamp : String} (htimestamp : ValidTimestamp timestamp) :
      Parses ⟨"2", "stopping", some timestamp, none, none, none, none, none, some "control-file",
        none, none⟩ (.stopping ⟨timestamp⟩)
  | stopped {timestamp : String} {pid : UInt32} (htimestamp : ValidTimestamp timestamp)
      (hpid : pid ≠ 0) :
      Parses ⟨"2", "stopped", some timestamp, some pid, none, none, none, none, none, none, none⟩
        (.stopped ⟨timestamp, pid⟩)
  | error {timestamp : Option String} {pid : Option UInt32} {phase : ErrorPhase}
      {text message : String} (htimestamp : ∀ present, timestamp = some present →
        ValidTimestamp present) (habsent : timestamp = none → phase = .bootstrap ∧ pid = none)
      (hpid : ∀ present, pid = some present → present ≠ 0)
      (hmessage : sanitizeMessage text = .ok message) :
      Parses ⟨"2", "error", timestamp, pid, none, none, none, none, none, some phase.text,
        some text⟩ (.error ⟨timestamp, phase, message, pid⟩)

theorem parses_of_parseEvent {raw : RawEvent} {event : LauncherEvent}
    (hok : parseEvent raw = .ok event) : Parses raw event := by
  obtain ⟨version, name, timestamp, pid, host, port, tokenEnforced, gracefulStop, reason, phase,
    message⟩ := raw
  simp only [parseEvent, rejectIf_bind_eq_ok_iff, bne_eq_false_iff_eq] at hok
  obtain ⟨rfl, hok⟩ := hok
  split at hok
  all_goals try simp only [bind_eq_ok_iff, requireNoFields_eq_ok_iff, List.forall_mem_cons,
    requireLoopbackAuthentication_eq_ok_iff, requireTimestamp_eq_ok_iff, requirePid_eq_ok_iff,
    requirePort_eq_ok_iff, okOr_eq_ok_iff, pure_eq_ok_iff, rejectIf_eq_ok_iff,
    bne_eq_false_iff_eq, parseErrorPhase_eq_ok_iff, errorTimestamp_eq_ok_iff,
    mapM_validatePid_eq_ok_iff, Option.isSome_eq_false_iff, Option.isNone_iff_eq_none] at hok
  · obtain ⟨-, ⟨rfl, rfl, rfl, -⟩, -, ⟨rfl, rfl⟩, time, ⟨rfl, htime⟩, id, ⟨rfl, hid⟩, bound,
      ⟨rfl, hbound⟩, graceful, rfl, rfl⟩ := hok
    exact .starting graceful htime hid hbound
  · obtain ⟨-, ⟨rfl, rfl, rfl, rfl, -⟩, -, ⟨rfl, rfl⟩, time, ⟨rfl, htime⟩, id, ⟨rfl, hid⟩, bound,
      ⟨rfl, hbound⟩, rfl⟩ := hok
    exact .listening htime hid hbound
  · obtain ⟨-, ⟨rfl, rfl, rfl, rfl, rfl, rfl, rfl, -⟩, -, rfl, time, ⟨rfl, htime⟩, rfl⟩ := hok
    exact .stopping htime
  · obtain ⟨-, ⟨rfl, rfl, rfl, rfl, rfl, rfl, rfl, -⟩, time, ⟨rfl, htime⟩, id, ⟨rfl, hid⟩, rfl⟩ :=
      hok
    exact .stopped htime hid
  · obtain ⟨-, ⟨rfl, rfl, rfl, rfl, rfl, -⟩, known, rfl, time, ⟨rfl, htime, habsent⟩, text, rfl,
      clean, hclean, id, ⟨rfl, hid⟩, rfl⟩ := hok
    exact .error htime habsent hid hclean
  · cases hok

theorem parseEvent_of_parses {raw : RawEvent} {event : LauncherEvent} (hparses : Parses raw event) :
    parseEvent raw = .ok event := by
  cases hparses with
  | starting gracefulStop htimestamp hpid hport =>
      have htime := requireTimestamp_eq_ok_iff.mpr ⟨rfl, htimestamp⟩
      have hid := requirePid_eq_ok_iff.mpr ⟨rfl, hpid⟩
      have hbound := requirePort_eq_ok_iff.mpr ⟨rfl, hport⟩
      simp only [parseEvent, htime, hid, hbound]
      rfl
  | listening htimestamp hpid hport =>
      have htime := requireTimestamp_eq_ok_iff.mpr ⟨rfl, htimestamp⟩
      have hid := requirePid_eq_ok_iff.mpr ⟨rfl, hpid⟩
      have hbound := requirePort_eq_ok_iff.mpr ⟨rfl, hport⟩
      simp only [parseEvent, htime, hid, hbound]
      rfl
  | stopping htimestamp =>
      have htime := requireTimestamp_eq_ok_iff.mpr ⟨rfl, htimestamp⟩
      simp only [parseEvent, htime]
      rfl
  | stopped htimestamp hpid =>
      have htime := requireTimestamp_eq_ok_iff.mpr ⟨rfl, htimestamp⟩
      have hid := requirePid_eq_ok_iff.mpr ⟨rfl, hpid⟩
      simp only [parseEvent, htime, hid]
      rfl
  | @error timestamp pid phase text message htimestamp habsent hpid hmessage =>
      have hphase := parseErrorPhase_eq_ok_iff.mpr (rfl : some phase.text = _)
      have hid := mapM_validatePid_eq_ok_iff.mpr ⟨rfl, hpid⟩
      have htime : errorTimestamp ⟨"2", "error", timestamp, pid, none, none, none, none, none,
          some phase.text, some text⟩ phase = .ok timestamp :=
        errorTimestamp_eq_ok_iff.mpr ⟨rfl, htimestamp, habsent⟩
      simp only [parseEvent, hphase, hid, okOr_some, ok_bind, htime, hmessage]
      rfl

/-- What is present and valid in an object of each name; of the message only what the
argument asks is required. -/
inductive Allowed (acceptable : String → Prop) : RawEvent → Prop
  | starting {timestamp : String} {pid : UInt32} {port : UInt16} (gracefulStop : Bool)
      (htimestamp : ValidTimestamp timestamp) (hpid : pid ≠ 0) (hport : port ≠ 0) :
      Allowed acceptable ⟨"2", "starting", some timestamp, some pid, some "127.0.0.1", some port,
        some true, some gracefulStop, none, none, none⟩
  | listening {timestamp : String} {pid : UInt32} {port : UInt16}
      (htimestamp : ValidTimestamp timestamp) (hpid : pid ≠ 0) (hport : port ≠ 0) :
      Allowed acceptable ⟨"2", "listening", some timestamp, some pid, some "127.0.0.1", some port,
        some true, none, none, none, none⟩
  | stopping {timestamp : String} (htimestamp : ValidTimestamp timestamp) :
      Allowed acceptable ⟨"2", "stopping", some timestamp, none, none, none, none, none,
        some "control-file", none, none⟩
  | stopped {timestamp : String} {pid : UInt32} (htimestamp : ValidTimestamp timestamp)
      (hpid : pid ≠ 0) :
      Allowed acceptable ⟨"2", "stopped", some timestamp, some pid, none, none, none, none, none,
        none, none⟩
  | error {timestamp : Option String} {pid : Option UInt32} {phase : ErrorPhase} {message : String}
      (htimestamp : ∀ present, timestamp = some present → ValidTimestamp present)
      (habsent : timestamp = none → phase = .bootstrap ∧ pid = none)
      (hpid : ∀ present, pid = some present → present ≠ 0) (hmessage : acceptable message) :
      Allowed acceptable ⟨"2", "error", timestamp, pid, none, none, none, none, none,
        some phase.text, some message⟩

theorem exists_parses_iff {raw : RawEvent} :
    (∃ event, Parses raw event) ↔ Allowed ValidMessage raw := by
  constructor
  · intro hparses
    obtain ⟨event, hparses⟩ := hparses
    cases hparses with
    | starting gracefulStop htimestamp hpid hport =>
        exact .starting gracefulStop htimestamp hpid hport
    | listening htimestamp hpid hport => exact .listening htimestamp hpid hport
    | stopping htimestamp => exact .stopping htimestamp
    | stopped htimestamp hpid => exact .stopped htimestamp hpid
    | error htimestamp habsent hpid hmessage =>
        exact .error htimestamp habsent hpid (sanitizeMessage_eq_ok_iff.mp hmessage).1
  · intro hallowed
    cases hallowed with
    | starting gracefulStop htimestamp hpid hport =>
        exact ⟨_, .starting gracefulStop htimestamp hpid hport⟩
    | listening htimestamp hpid hport => exact ⟨_, .listening htimestamp hpid hport⟩
    | stopping htimestamp => exact ⟨_, .stopping htimestamp⟩
    | stopped htimestamp hpid => exact ⟨_, .stopped htimestamp hpid⟩
    | error htimestamp habsent hpid hmessage =>
        exact ⟨_, .error htimestamp habsent hpid (sanitizeMessage_eq_ok_iff.mpr ⟨hmessage, rfl⟩)⟩

/-- An event written back field by field. -/
def LauncherEvent.toRaw : LauncherEvent → RawEvent
  | .starting event => ⟨"2", "starting", some event.timestamp, some event.pid, some "127.0.0.1",
      some event.port, some true, some event.gracefulStop, none, none, none⟩
  | .listening event => ⟨"2", "listening", some event.timestamp, some event.pid, some "127.0.0.1",
      some event.port, some true, none, none, none, none⟩
  | .stopping event => ⟨"2", "stopping", some event.timestamp, none, none, none, none, none,
      some "control-file", none, none⟩
  | .stopped event => ⟨"2", "stopped", some event.timestamp, some event.pid, none, none, none,
      none, none, none, none⟩
  | .error event => ⟨"2", "error", event.timestamp, event.pid, none, none, none, none, none,
      some event.phase.text, some event.message⟩

theorem Parses.toRaw {raw : RawEvent} {event : LauncherEvent} (hparses : Parses raw event) :
    Parses event.toRaw event := by
  cases hparses with
  | starting gracefulStop htimestamp hpid hport =>
      exact .starting gracefulStop htimestamp hpid hport
  | listening htimestamp hpid hport => exact .listening htimestamp hpid hport
  | stopping htimestamp => exact .stopping htimestamp
  | stopped htimestamp hpid => exact .stopped htimestamp hpid
  | error htimestamp habsent hpid hmessage =>
      exact .error htimestamp habsent hpid
        (cleanMessage_of_sanitizeMessage hmessage).sanitizeMessage

/-- An object parses exactly if it has the fields its name allows, its event parses to
itself when it is written back, and the message of an error is clean. -/
theorem parseEvent_shape (raw : RawEvent) :
    ((∃ event, parseEvent raw = .ok event) ↔ Allowed ValidMessage raw) ∧
      (∀ event, parseEvent raw = .ok event → parseEvent event.toRaw = .ok event) ∧
        ∀ error, parseEvent raw = .ok (.error error) → CleanMessage error.message := by
  refine ⟨?_, ?_, ?_⟩
  · rw [← exists_parses_iff]
    constructor
    · intro hok
      obtain ⟨event, hok⟩ := hok
      exact ⟨event, parses_of_parseEvent hok⟩
    · intro hparses
      obtain ⟨event, hparses⟩ := hparses
      exact ⟨event, parseEvent_of_parses hparses⟩
  · intro event hok
    exact parseEvent_of_parses (parses_of_parseEvent hok).toRaw
  · intro error hok
    cases parses_of_parseEvent hok with
    | error htimestamp habsent hpid hmessage => exact cleanMessage_of_sanitizeMessage hmessage

/-- An error event whose message is blank. -/
def blankErrorEvent : RawEvent :=
  ⟨"2", "error", none, none, none, none, none, none, none, some "bootstrap", some "\n"⟩

/-- The fields of an error event alone do not decide: a blank message is refused. -/
theorem blankErrorEvent_refused :
    ¬∀ raw, (∃ event, parseEvent raw = .ok event) ↔ Allowed (fun _ => True) raw := by
  intro haccepts
  have hallowed : Allowed (fun _ => True) blankErrorEvent :=
    @Allowed.error (fun _ => True) none none .bootstrap "\n" (by simp) (by simp) (by simp) trivial
  obtain ⟨event, hok⟩ := (haccepts blankErrorEvent).mpr hallowed
  have hrefused : parseEvent blankErrorEvent = .error .invalidEventShape := by decide +kernel
  rw [hrefused] at hok
  cases hok

/-! ## Errors -/

/-- The errors of an event object. -/
def IsShapeError (error : ProtocolError) : Prop :=
  error = .unsupportedProtocolVersion ∨ error = .unknownEvent ∨ error = .invalidEventShape

theorem isShapeError_invalidEventShape : IsShapeError .invalidEventShape := .inr (.inr rfl)

section FailsWith

theorem validateTimestamp_failsWith (timestamp : String) :
    FailsWith IsShapeError (validateTimestamp timestamp) :=
  (FailsWith.rejectIf _ isShapeError_invalidEventShape).bind fun _ => .ok _

theorem validatePid_failsWith (pid : UInt32) : FailsWith IsShapeError (validatePid pid) :=
  (FailsWith.rejectIf _ isShapeError_invalidEventShape).bind fun _ => .ok _

theorem requireTimestamp_failsWith (timestamp : Option String) :
    FailsWith IsShapeError (requireTimestamp timestamp) :=
  (FailsWith.okOr _ isShapeError_invalidEventShape).bind validateTimestamp_failsWith

theorem requirePid_failsWith (pid : Option UInt32) : FailsWith IsShapeError (requirePid pid) :=
  (FailsWith.okOr _ isShapeError_invalidEventShape).bind validatePid_failsWith

theorem requirePort_failsWith (port : Option UInt16) : FailsWith IsShapeError (requirePort port) :=
  (FailsWith.okOr _ isShapeError_invalidEventShape).bind fun _ =>
    (FailsWith.rejectIf _ isShapeError_invalidEventShape).bind fun _ => .ok _

theorem parseErrorPhase_failsWith (phase : Option String) :
    FailsWith IsShapeError (parseErrorPhase phase) := by
  unfold parseErrorPhase
  split
  all_goals first
    | exact .ok _
    | exact .error isShapeError_invalidEventShape

theorem errorTimestamp_failsWith (raw : RawEvent) (phase : ErrorPhase) :
    FailsWith IsShapeError (errorTimestamp raw phase) := by
  unfold errorTimestamp
  split
  · exact (validateTimestamp_failsWith _).bind fun _ => .ok _
  · split
    · exact .ok _
    · exact .error isShapeError_invalidEventShape

theorem sanitizeMessage_failsWith (message : String) :
    FailsWith IsShapeError (sanitizeMessage message) :=
  (FailsWith.rejectIf _ isShapeError_invalidEventShape).bind fun _ =>
    (FailsWith.rejectIf _ isShapeError_invalidEventShape).bind fun _ => .ok _

theorem mapM_validatePid_failsWith (pid : Option UInt32) :
    FailsWith IsShapeError (pid.mapM validatePid) := by
  cases pid with
  | none => exact .ok _
  | some pid => exact (validatePid_failsWith pid).bind fun _ => .ok _

theorem requireNoFields_failsWith (fields : List Bool) :
    FailsWith IsShapeError (requireNoFields fields) := .rejectIf _ isShapeError_invalidEventShape

theorem requireLoopbackAuthentication_failsWith (host : Option String)
    (tokenEnforced : Option Bool) :
    FailsWith IsShapeError (requireLoopbackAuthentication host tokenEnforced) :=
  .rejectIf _ isShapeError_invalidEventShape

/-- No error of an object is an error of the stream. -/
theorem parseEvent_failsWith (raw : RawEvent) : FailsWith IsShapeError (parseEvent raw) := by
  refine FailsWith.bind (.rejectIf _ (.inl rfl)) fun _ => ?_
  split
  · refine (requireNoFields_failsWith _).bind fun _ => ?_
    refine (requireLoopbackAuthentication_failsWith _ _).bind fun _ => ?_
    refine (requireTimestamp_failsWith _).bind fun _ => (requirePid_failsWith _).bind fun _ => ?_
    refine (requirePort_failsWith _).bind fun _ => ?_
    exact (FailsWith.okOr _ isShapeError_invalidEventShape).bind fun _ => .ok _
  · refine (requireNoFields_failsWith _).bind fun _ => ?_
    refine (requireLoopbackAuthentication_failsWith _ _).bind fun _ => ?_
    refine (requireTimestamp_failsWith _).bind fun _ => (requirePid_failsWith _).bind fun _ => ?_
    exact (requirePort_failsWith _).bind fun _ => .ok _
  · refine (requireNoFields_failsWith _).bind fun _ => ?_
    refine FailsWith.bind (.rejectIf _ isShapeError_invalidEventShape) fun _ => ?_
    exact (requireTimestamp_failsWith _).bind fun _ => .ok _
  · refine (requireNoFields_failsWith _).bind fun _ => ?_
    refine (requireTimestamp_failsWith _).bind fun _ => ?_
    exact (requirePid_failsWith _).bind fun _ => .ok _
  · refine (requireNoFields_failsWith _).bind fun _ => ?_
    refine (parseErrorPhase_failsWith _).bind fun _ => ?_
    refine (errorTimestamp_failsWith _ _).bind fun _ => ?_
    refine FailsWith.bind (.okOr _ isShapeError_invalidEventShape) fun _ => ?_
    refine (sanitizeMessage_failsWith _).bind fun _ => ?_
    exact (mapM_validatePid_failsWith _).bind fun _ => .ok _
  · exact .error (.inr (.inl rfl))

end FailsWith

end Rpackit.Launcher
