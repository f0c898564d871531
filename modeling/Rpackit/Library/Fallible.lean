import Mathlib.Data.List.Forall2

/-! # Fallible computations

Early returns of a fallible function and the inversion rules that peel a
successful run apart, one check at a time.
-/

namespace Fallible

variable {ε α β : Type}

/-- `if condition { return Err(error) }`. -/
def rejectIf (condition : Bool) (error : ε) : Except ε Unit :=
  if condition then .error error else .ok ()

/-- `value.ok_or(error)?`. -/
def okOr (value : Option α) (error : ε) : Except ε α :=
  match value with
  | none => .error error
  | some value => .ok value

theorem bind_eq_ok_iff {x : Except ε α} {f : α → Except ε β} {b : β} :
    (x >>= f) = .ok b ↔ ∃ a, x = .ok a ∧ f a = .ok b := by
  cases x with
  | error e => simp [bind, Except.bind]
  | ok a => simp [bind, Except.bind]

/-- What follows a computation matters only at its results. -/
theorem bind_congr_ok {x : Except ε α} {f g : α → Except ε β}
    (hsame : ∀ a, x = .ok a → f a = g a) : (x >>= f) = (x >>= g) := by
  cases x with
  | error e => rfl
  | ok a => exact hsame a rfl

theorem exists_error_iff {x : Except ε α} : (∃ error, x = .error error) ↔ ¬ ∃ a, x = .ok a := by
  cases x <;> simp

theorem rejectIf_eq_ok_iff {condition : Bool} {error : ε} {u : Unit} :
    rejectIf condition error = .ok u ↔ condition = false := by
  cases condition <;> simp [rejectIf]

theorem okOr_eq_ok_iff {value : Option α} {error : ε} {a : α} :
    okOr value error = .ok a ↔ value = some a := by
  cases value <;> simp [okOr]

theorem pure_eq_ok_iff {a b : α} : (pure a : Except ε α) = .ok b ↔ b = a := by
  change Except.ok a = Except.ok b ↔ b = a
  rw [Except.ok.injEq]
  exact eq_comm

theorem rejectIf_bind_eq_ok_iff {condition : Bool} {error : ε} {f : Unit → Except ε β} {b : β} :
    (rejectIf condition error >>= f) = .ok b ↔ condition = false ∧ f () = .ok b := by
  cases condition <;> simp [rejectIf, bind, Except.bind]

theorem okOr_bind_eq_ok_iff {value : Option α} {error : ε} {f : α → Except ε β} {b : β} :
    (okOr value error >>= f) = .ok b ↔ ∃ a, value = some a ∧ f a = .ok b := by
  simp only [bind_eq_ok_iff, okOr_eq_ok_iff]

@[simp] theorem rejectIf_false (error : ε) : rejectIf false error = .ok () := rfl

@[simp] theorem rejectIf_true (error : ε) : rejectIf true error = .error error := rfl

@[simp] theorem okOr_some (a : α) (error : ε) : okOr (some a) error = .ok a := rfl

@[simp] theorem ok_bind (a : α) (f : α → Except ε β) : (Except.ok a >>= f) = f a := rfl

@[simp] theorem error_bind (error : ε) (f : α → Except ε β) :
    (Except.error error >>= f) = .error error := rfl

/-! ## Errors that are not reported -/

theorem bind_eq_error_iff {x : Except ε α} {f : α → Except ε β} {error : ε} :
    (x >>= f) = .error error ↔ x = .error error ∨ ∃ a, x = .ok a ∧ f a = .error error := by
  cases x with
  | error other => simp [bind, Except.bind]
  | ok a => simp [bind, Except.bind]

theorem rejectIf_eq_error_iff {condition : Bool} {other error : ε} :
    rejectIf condition other = .error error ↔ condition = true ∧ other = error := by
  cases condition <;> simp [rejectIf]

theorem okOr_eq_error_iff {value : Option α} {other error : ε} :
    okOr value other = .error error ↔ value = none ∧ other = error := by
  cases value <;> simp [okOr]

theorem pure_ne_error {a : α} {error : ε} : (pure a : Except ε α) ≠ .error error := nofun

theorem forM_ne_error {f : α → Except ε Unit} {inputs : List α} {error : ε}
    (hf : ∀ input, f input ≠ .error error) : inputs.forM f ≠ .error error := by
  induction inputs with
  | nil => exact nofun
  | cons input rest ih =>
      rw [List.forM, ne_eq, bind_eq_error_iff, not_or]
      exact ⟨hf input, fun ⟨_, _, hrest⟩ => ih hrest⟩

/-- Every error of a computation is one of these. -/
def FailsWith (errors : ε → Prop) (x : Except ε α) : Prop :=
  ∀ error, x = .error error → errors error

namespace FailsWith

variable {errors : ε → Prop}

theorem ok (a : α) : FailsWith errors (.ok a) := fun _ herror => by cases herror

theorem error {error : ε} (herror : errors error) :
    FailsWith errors (.error error : Except ε α) := by
  intro other heq
  cases heq
  exact herror

theorem bind {x : Except ε α} {f : α → Except ε β} (hx : FailsWith errors x)
    (hf : ∀ a, FailsWith errors (f a)) : FailsWith errors (x >>= f) := by
  intro error herror
  rcases bind_eq_error_iff.mp herror with hfirst | ⟨a, -, hrest⟩
  · exact hx error hfirst
  · exact hf a error hrest

theorem rejectIf (condition : Bool) {error : ε} (herror : errors error) :
    FailsWith errors (Fallible.rejectIf condition error) := by
  intro other heq
  rw [← (rejectIf_eq_error_iff.mp heq).2]
  exact herror

theorem okOr (value : Option α) {error : ε} (herror : errors error) :
    FailsWith errors (Fallible.okOr value error) := by
  intro other heq
  rw [← (okOr_eq_error_iff.mp heq).2]
  exact herror

end FailsWith

/-! ## Folds and maps -/

/-- A fold whose step first parses its input succeeds exactly when every input
parses and the fold over the parsed inputs succeeds. -/
theorem foldlM_bind_eq_ok_iff {σ : Type} {parse : α → Except ε β} {f : σ → β → Except ε σ}
    {inputs : List α} {start stop : σ} :
    inputs.foldlM (fun state input => parse input >>= f state) start = .ok stop ↔
      ∃ parsed, List.Forall₂ (fun input value => parse input = .ok value) inputs parsed ∧
        parsed.foldlM f start = .ok stop := by
  induction inputs generalizing start with
  | nil => simp
  | cons input rest ih =>
      simp only [List.foldlM_cons, bind_eq_ok_iff, ih]
      constructor
      · rintro ⟨middle, ⟨value, hvalue, hstep⟩, parsed, hparsed, hrest⟩
        refine ⟨value :: parsed, .cons hvalue hparsed, ?_⟩
        rw [List.foldlM_cons, bind_eq_ok_iff]
        exact ⟨middle, hstep, hrest⟩
      · rintro ⟨_, hparsed, hfold⟩
        cases hparsed with
        | cons hvalue htail =>
            rw [List.foldlM_cons, bind_eq_ok_iff] at hfold
            obtain ⟨middle, hstep, hrest⟩ := hfold
            exact ⟨middle, ⟨_, hvalue, hstep⟩, _, htail, hrest⟩

/-- A fold whose steps append, check their input and keep a bound on the length. -/
theorem foldlM_append_eq_ok_iff {f : List β → α → Except ε (List β)} {accepted : α → Prop}
    {pushed : α → List β} {bound : Nat}
    (hstep : ∀ start next input, start.length ≤ bound → (f start input = .ok next ↔
      accepted input ∧ next = start ++ pushed input ∧ next.length ≤ bound))
    {inputs : List α} {start stop : List β} (hstart : start.length ≤ bound) :
    inputs.foldlM f start = .ok stop ↔
      (∀ input ∈ inputs, accepted input) ∧ stop = start ++ inputs.flatMap pushed ∧
        stop.length ≤ bound := by
  induction inputs generalizing start with
  | nil =>
      rw [List.foldlM_nil, pure_eq_ok_iff, List.flatMap_nil, List.append_nil]
      exact ⟨fun hstop => ⟨nofun, hstop, hstop ▸ hstart⟩, fun hstop => hstop.2.1⟩
  | cons input rest ih =>
      rw [List.foldlM_cons, bind_eq_ok_iff, List.forall_mem_cons, List.flatMap_cons]
      constructor
      · rintro ⟨middle, hfirst, hrest⟩
        obtain ⟨hinput, rfl, hmiddle⟩ := (hstep _ _ _ hstart).mp hfirst
        obtain ⟨hall, hstop, hlength⟩ := (ih hmiddle).mp hrest
        exact ⟨⟨hinput, hall⟩, hstop.trans (List.append_assoc _ _ _), hlength⟩
      · rintro ⟨⟨hinput, hall⟩, rfl, hlength⟩
        have hmiddle : (start ++ pushed input).length ≤ bound := by
          simp only [List.length_append] at hlength ⊢
          omega
        refine ⟨_, (hstep _ _ _ hstart).mpr ⟨hinput, rfl, hmiddle⟩,
          (ih hmiddle).mpr ⟨hall, ?_, hlength⟩⟩
        exact (List.append_assoc _ _ _).symm

/-- A fold that ends with nothing started with nothing, and every input added nothing. -/
theorem foldlM_eq_ok_nil {f : List β → α → Except ε (List β)} {silent : α → Prop}
    (hstep : ∀ pushed input, f pushed input = .ok [] → pushed = [] ∧ silent input)
    {inputs : List α} {start : List β} (hok : inputs.foldlM f start = .ok []) :
    start = [] ∧ ∀ input ∈ inputs, silent input := by
  induction inputs generalizing start with
  | nil => exact ⟨(pure_eq_ok_iff.mp hok).symm, nofun⟩
  | cons input rest ih =>
      rw [List.foldlM_cons, bind_eq_ok_iff] at hok
      obtain ⟨middle, hfirst, hrest⟩ := hok
      obtain ⟨rfl, hsilent⟩ := ih hrest
      obtain ⟨rfl, hinput⟩ := hstep start input hfirst
      exact ⟨rfl, List.forall_mem_cons.mpr ⟨hinput, hsilent⟩⟩

theorem forM_eq_ok_iff {f : α → Except ε Unit} {inputs : List α} :
    inputs.forM f = .ok () ↔ ∀ input ∈ inputs, f input = .ok () := by
  induction inputs with
  | nil => exact ⟨fun _ => nofun, fun _ => rfl⟩
  | cons input rest ih =>
      rw [List.forM, bind_eq_ok_iff, List.forall_mem_cons, ← ih]
      exact ⟨fun ⟨_, hinput, hrest⟩ => ⟨hinput, hrest⟩, fun ⟨hinput, hrest⟩ => ⟨(), hinput, hrest⟩⟩

theorem mapM_eq_ok_iff {f : α → Except ε β} {inputs : List α} {outputs : List β} :
    inputs.mapM f = .ok outputs ↔
      List.Forall₂ (fun input output => f input = .ok output) inputs outputs := by
  induction inputs generalizing outputs with
  | nil => simp [pure, Except.pure, eq_comm]
  | cons input rest ih =>
      simp only [List.mapM_cons, bind_eq_ok_iff, ih, List.forall₂_cons_left_iff]
      constructor
      · rintro ⟨output, houtput, tail, htail, hcons⟩
        cases hcons
        exact ⟨output, tail, houtput, htail, rfl⟩
      · rintro ⟨output, tail, houtput, htail, rfl⟩
        exact ⟨output, houtput, tail, htail, rfl⟩

theorem exists_mapM_eq_ok_iff {f : α → Except ε β} {inputs : List α} :
    (∃ outputs, inputs.mapM f = .ok outputs) ↔
      ∀ input ∈ inputs, ∃ output, f input = .ok output := by
  simp only [mapM_eq_ok_iff]
  induction inputs with
  | nil => exact ⟨fun _ => nofun, fun _ => ⟨[], .nil⟩⟩
  | cons input rest ih =>
      rw [List.forall_mem_cons, ← ih]
      constructor
      · intro hall
        obtain ⟨_, hall⟩ := hall
        cases hall with
        | cons houtput hrest => exact ⟨⟨_, houtput⟩, _, hrest⟩
      · intro hall
        obtain ⟨⟨output, houtput⟩, outputs, hrest⟩ := hall
        exact ⟨output :: outputs, .cons houtput hrest⟩

theorem exists_of_mem_forall₂ {R : α → β → Prop} {inputs : List α} {outputs : List β}
    {output : β} (hforall : List.Forall₂ R inputs outputs) (hmem : output ∈ outputs) :
    ∃ input ∈ inputs, R input output := by
  induction hforall with
  | nil => cases hmem
  | cons houtput _ ih =>
      rcases List.mem_cons.mp hmem with rfl | htail
      · exact ⟨_, List.mem_cons_self, houtput⟩
      · obtain ⟨input, hinput, heq⟩ := ih htail
        exact ⟨input, List.mem_cons_of_mem _ hinput, heq⟩

theorem exists_of_mem_mapM {f : α → Except ε β} {inputs : List α} {outputs : List β} {output : β}
    (hok : inputs.mapM f = .ok outputs) (hmem : output ∈ outputs) :
    ∃ input ∈ inputs, f input = .ok output := by
  obtain ⟨input, hinput, heq⟩ := exists_of_mem_forall₂ (mapM_eq_ok_iff.mp hok) hmem
  exact ⟨input, hinput, heq⟩

theorem exists_mem_of_mem_forall₂ {R : α → β → Prop} {inputs : List α} {outputs : List β}
    {input : α} (hforall : List.Forall₂ R inputs outputs) (hmem : input ∈ inputs) :
    ∃ output ∈ outputs, R input output := by
  obtain ⟨output, houtput, hrelated⟩ := exists_of_mem_forall₂ hforall.flip hmem
  exact ⟨output, houtput, hrelated⟩

theorem exists_mem_of_mem_mapM {f : α → Except ε β} {inputs : List α} {outputs : List β}
    {input : α} (hok : inputs.mapM f = .ok outputs) (hmem : input ∈ inputs) :
    ∃ output ∈ outputs, f input = .ok output :=
  exists_mem_of_mem_forall₂ (mapM_eq_ok_iff.mp hok) hmem

theorem mapError_eq_ok_iff {ε' : Type} {f : ε → ε'} {x : Except ε α} {a : α} :
    x.mapError f = .ok a ↔ x = .ok a := by
  cases x <;> simp [Except.mapError]

end Fallible
