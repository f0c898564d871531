import Rpackit.Library.AsyncRead

/-! # Readers over readers

A decoder is a reader that reads another reader. What it does to a whole stream is a
partial function on bytes. Such readers can be stacked, and the stack does to a stream
what the composition of the functions does.
-/

open Text

variable {ε : Type}

/-! ## What reads deliver -/

/-- The answers to reads of these capacities. -/
def AsyncRead.reads {R : Type} (reader : AsyncRead R ε) (capacities : List Nat) (state : R) :
    List (Poll (Except ε Bytes)) × R :=
  Poll.run (fun capacity state => reader.pollRead state capacity) capacities state

theorem AsyncRead.length_delivered_le {R : Type} (reader : AsyncRead R ε) (state : R)
    (capacity : Nat) : (deliveredBytes (reader.pollRead state capacity).1).length ≤ capacity := by
  obtain ⟨answer, next, hread⟩ : ∃ answer next, reader.pollRead state capacity = (answer, next) :=
    ⟨_, _, rfl⟩
  rw [hread]
  match answer with
  | .pending => exact Nat.zero_le _
  | .ready (.error _) => exact Nat.zero_le _
  | .ready (.ok bytes) => exact reader.bounded hread

def readBytes (answers : List (Poll (Except ε Bytes))) : Bytes := answers.flatMap deliveredBytes

/-- A read for at least one byte that delivers none is the end. -/
def ReadEnds (answers : List (Poll (Except ε Bytes))) : Prop := .ready (.ok []) ∈ answers

def ReadFails (answers : List (Poll (Except ε Bytes))) : Prop :=
  ∃ error, .ready (.error error) ∈ answers

/-- After the end nothing more is delivered. -/
def ReadsSettle (answers : List (Poll (Except ε Bytes))) : Prop :=
  answers.Pairwise fun earlier later => earlier = .ready (.ok []) → deliveredBytes later = []

/-- Reads that deliver a part of a stream, and all of it once they have ended. -/
structure ReadsPartOf (answers : List (Poll (Except ε Bytes))) (stream : Bytes) : Prop where
  sound : ¬ReadFails answers
  initial : readBytes answers <+: stream
  whole : ReadEnds answers → readBytes answers = stream
  settled : ReadsSettle answers

theorem ReadsPartOf.nil (stream : Bytes) :
    ReadsPartOf ([] : List (Poll (Except ε Bytes))) stream where
  sound := nofun
  initial := List.nil_prefix
  whole := nofun
  settled := .nil

theorem readsPartOf_pending_iff {answers : List (Poll (Except ε Bytes))} {stream : Bytes} :
    ReadsPartOf (.pending :: answers) stream ↔ ReadsPartOf answers stream := by
  constructor
  · rintro ⟨hsound, hinitial, hwhole, hsettled⟩
    refine ⟨fun hfails => hsound (hfails.imp fun _ => List.mem_cons_of_mem _), hinitial,
      fun hend => hwhole (List.mem_cons_of_mem _ hend), (List.pairwise_cons.mp hsettled).2⟩
  · rintro ⟨hsound, hinitial, hwhole, hsettled⟩
    refine ⟨fun hfails => hsound (hfails.imp fun _ hmem => ?_), hinitial, fun hend => ?_,
      List.pairwise_cons.mpr ⟨nofun, hsettled⟩⟩
    · exact (List.mem_cons.mp hmem).resolve_left nofun
    · exact hwhole ((List.mem_cons.mp hend).resolve_left nofun)

theorem ReadsPartOf.of_data {bytes stream : Bytes} {answers : List (Poll (Except ε Bytes))}
    (hpart : ReadsPartOf (.ready (.ok bytes) :: answers) stream) :
    ∃ rest, stream = bytes ++ rest ∧ ReadsPartOf answers rest := by
  obtain ⟨hsound, ⟨rest, hrest⟩, hwhole, hsettled⟩ := hpart
  have hstream : stream = bytes ++ (readBytes answers ++ rest) := by
    rw [← List.append_assoc]
    exact hrest.symm
  refine ⟨readBytes answers ++ rest, hstream, ?_, List.prefix_append _ _, ?_,
    (List.pairwise_cons.mp hsettled).2⟩
  · exact fun hfails => hsound (hfails.imp fun _ => List.mem_cons_of_mem _)
  · intro hend
    have hall := hwhole (List.mem_cons_of_mem _ hend)
    rw [hstream] at hall
    exact List.append_cancel_left hall

/-- Reads that begin with the end deliver nothing. -/
theorem ReadsPartOf.of_end {stream : Bytes} {answers : List (Poll (Except ε Bytes))}
    (hpart : ReadsPartOf (.ready (.ok []) :: answers) stream) : stream = [] := by
  rw [← hpart.whole List.mem_cons_self]
  refine List.flatMap_eq_nil_iff.mpr (List.forall_mem_cons.mpr ⟨rfl, fun later hlater => ?_⟩)
  exact (List.pairwise_cons.mp hpart.settled).1 later hlater rfl

/-- Reads that decode other reads. They stay pending only when those do, they end only
when those have ended, and of a stream that can be decoded they deliver the decoding. -/
structure ReadsDecode (decode : Bytes → Option Bytes)
    (inner outer : List (Poll (Except ε Bytes))) : Prop where
  waits : .pending ∈ outer → .pending ∈ inner
  ends : ReadEnds outer → ¬ReadFails outer →
    ReadEnds inner ∧ ¬ReadFails inner ∧ decode (readBytes inner) = some (readBytes outer)
  delivers : ∀ {encoded decoded : Bytes}, decode encoded = some decoded →
    ReadsPartOf inner encoded → ReadsPartOf outer decoded

theorem ReadsDecode.refl (answers : List (Poll (Except ε Bytes))) :
    ReadsDecode some answers answers where
  waits := id
  ends hends hfails := ⟨hends, hfails, rfl⟩
  delivers hdecode hpart := Option.some.inj hdecode ▸ hpart

theorem ReadsDecode.trans {first second : Bytes → Option Bytes}
    {inner middle outer : List (Poll (Except ε Bytes))} (hfirst : ReadsDecode first inner middle)
    (hsecond : ReadsDecode second middle outer) :
    ReadsDecode (fun encoded => (first encoded).bind second) inner outer where
  waits hpending := hfirst.waits (hsecond.waits hpending)
  ends hends hfails := by
    obtain ⟨hmiddle, hsound, hdecode⟩ := hsecond.ends hends hfails
    obtain ⟨hinner, hwell, hmiddleBytes⟩ := hfirst.ends hmiddle hsound
    refine ⟨hinner, hwell, ?_⟩
    rw [hmiddleBytes, Option.bind_some, hdecode]
  delivers hdecode hpart := by
    obtain ⟨between, hbetween, hdecoded⟩ := Option.bind_eq_some_iff.mp hdecode
    exact hsecond.delivers hdecoded (hfirst.delivers hbetween hpart)

theorem ReadsDecode.nil (decode : Bytes → Option Bytes) :
    ReadsDecode decode ([] : List (Poll (Except ε Bytes))) [] where
  waits := id
  ends := nofun
  delivers _ _ := .nil _

theorem ReadsDecode.pending_cons {decode : Bytes → Option Bytes}
    {inner outer : List (Poll (Except ε Bytes))} (hrest : ReadsDecode decode inner outer) :
    ReadsDecode decode (.pending :: inner) (.pending :: outer) where
  waits _ := List.mem_cons_self
  ends hend hsound := by
    obtain ⟨hinner, hwell, hdecode⟩ := hrest.ends ((List.mem_cons.mp hend).resolve_left nofun)
      fun hfails => hsound (hfails.imp fun _ => List.mem_cons_of_mem _)
    refine ⟨List.mem_cons_of_mem _ hinner, fun hfails => hwell (hfails.imp fun _ hmem => ?_),
      hdecode⟩
    exact (List.mem_cons.mp hmem).resolve_left nofun
  delivers hdecode hpart :=
    readsPartOf_pending_iff.mpr (hrest.delivers hdecode (readsPartOf_pending_iff.mp hpart))

/-- A failure is in order when what was read is a part of nothing that can be decoded. -/
theorem ReadsDecode.failed_cons {decode : Bytes → Option Bytes} {answer : Poll (Except ε Bytes)}
    {error : ε} {inner outer : List (Poll (Except ε Bytes))}
    (hrest : ReadsDecode decode inner outer)
    (hmalformed : ∀ {encoded decoded}, decode encoded = some decoded →
      ¬ReadsPartOf (answer :: inner) encoded) :
    ReadsDecode decode (answer :: inner) (.ready (.error error) :: outer) where
  waits hpending := List.mem_cons_of_mem _
    (hrest.waits ((List.mem_cons.mp hpending).resolve_left nofun))
  ends _ hsound := absurd ⟨error, List.mem_cons_self⟩ hsound
  delivers hdecode hpart := absurd hpart (hmalformed hdecode)

/-! ## Layers -/

/-- A reader that can be built over any other. -/
structure ReadLayer (ε : Type) where
  State : Type
  start : State
  wrap : ∀ {R : Type}, AsyncRead R ε → AsyncRead (State × R) ε

/-- Over every reader the layer decodes what it reads from there. -/
def ReadLayer.Streams (layer : ReadLayer ε) (decode : Bytes → Option Bytes) : Prop :=
  ∀ {R : Type} (inner : AsyncRead R ε) (state : R) (capacities : List Nat),
    (∀ capacity ∈ capacities, 0 < capacity) →
    ∃ asked, (∀ capacity ∈ asked, 0 < capacity) ∧
      ReadsDecode decode (inner.reads asked state).1
        ((layer.wrap inner).reads capacities (layer.start, state)).1

/-- A reader with its state, whatever the type of the state is. -/
structure BoxReader (ε : Type) where
  State : Type
  read : AsyncRead State ε
  state : State

namespace BoxReader

def reads (reader : BoxReader ε) (capacities : List Nat) : List (Poll (Except ε Bytes)) :=
  (reader.read.reads capacities reader.state).1

/-- The reader decodes what it reads from another one. -/
def Decodes (decode : Bytes → Option Bytes) (base reader : BoxReader ε) : Prop :=
  ∀ capacities, (∀ capacity ∈ capacities, 0 < capacity) →
    ∃ asked, (∀ capacity ∈ asked, 0 < capacity) ∧
      ReadsDecode decode (base.reads asked) (reader.reads capacities)

theorem Decodes.refl (base : BoxReader ε) : Decodes some base base :=
  fun capacities hpositive => ⟨capacities, hpositive, .refl _⟩

end BoxReader

/-- The layer in front of a boxed reader. -/
def ReadLayer.box (layer : ReadLayer ε) (reader : BoxReader ε) : BoxReader ε where
  State := layer.State × reader.State
  read := layer.wrap reader.read
  state := (layer.start, reader.state)

namespace BoxReader

theorem Decodes.box {first second : Bytes → Option Bytes} {base reader : BoxReader ε}
    {layer : ReadLayer ε} (hreader : Decodes first base reader) (hlayer : layer.Streams second) :
    Decodes (fun encoded => (first encoded).bind second) base (layer.box reader) := by
  intro capacities hpositive
  obtain ⟨between, hbetween, hsecond⟩ := hlayer reader.read reader.state capacities hpositive
  obtain ⟨asked, hasked, hfirst⟩ := hreader between hbetween
  exact ⟨asked, hasked, hfirst.trans hsecond⟩

/-- A stack of layers decodes in the order in which they were stacked. -/
theorem Decodes.foldl {κ : Type} {layer : κ → ReadLayer ε} {decode : κ → Bytes → Option Bytes}
    (hlayer : ∀ key, (layer key).Streams (decode key)) (keys : List κ)
    {first : Bytes → Option Bytes} {base reader : BoxReader ε}
    (hreader : Decodes first base reader) :
    Decodes (fun encoded => (first encoded).bind fun between =>
        keys.foldlM (fun bytes key => decode key bytes) between)
      base (keys.foldl (fun reader key => (layer key).box reader) reader) := by
  induction keys generalizing first reader with
  | nil => simpa using hreader
  | cons key rest ih =>
      simpa [Option.bind_assoc] using ih (hreader.box (hlayer key))

end BoxReader
