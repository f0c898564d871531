import Rpackit.Library.HandleTable
import Rpackit.Library.WindowsKernel

/-! # Rules for programs that own handles, jobs and processes

An assertion between two calls lists the handles that were opened since some state and are
still open, counts the attribute lists, and says something about the processes. What it
says of the processes may not depend on the handles, and later states keep it.
-/

namespace WindowsKernel

open HandleTable SystemCalls

abbrev Owned := List (Handle × HandleEntry)

/-! ## Assertions about processes -/

/-- An assertion about processes that every later state keeps. -/
def Robust (Tree : Kernel → Prop) : Prop :=
  ∀ kernel next, Tree kernel → kernel.Later next → Tree next

def Kernel.NoneOurs (kernel : Kernel) : Prop :=
  ∀ id object, kernel.processes id = some object → object.ours = false

/-- The only process of ours is this one, and its creation still suspends it. -/
def Kernel.OnlySuspended (target : Nat) (kernel : Kernel) : Prop :=
  ∀ id object, kernel.processes id = some object → object.ours = true →
    id = target ∧ object.ownSuspension = true

/-- A process of ours that is alive was never resumed. -/
def Kernel.LivingSuspended (kernel : Kernel) : Prop :=
  ∀ id object, kernel.processes id = some object → object.ours = true → object.alive = true →
    object.ownSuspension = true

/-- No process of ours is alive. -/
def Kernel.Gone (kernel : Kernel) : Prop :=
  ∀ id object, kernel.processes id = some object → object.ours = true → object.alive = false

/-- Nobody inherited a handle of the job. -/
def Kernel.Unheld (job : Nat) (kernel : Kernel) : Prop :=
  ∀ id object, kernel.processes id = some object → .job job ∉ object.holds

/-- The limits of a job that ends with its last handle and lets nobody out. -/
def JobLimits.strict : JobLimits := ⟨true, false, false⟩

/-- The living processes of ours are in the job. -/
structure Kernel.Confined (job : Nat) (kernel : Kernel) : Prop where
  members : ∀ id object, kernel.processes id = some object → object.ours = true →
    object.alive = true → job ∈ object.jobs
  limits : kernel.jobs job = some .strict
  unheld : kernel.Unheld job

/-- A process of ours that was created in this way, and the objects it was given. -/
def Kernel.Created (target : Nat) (pid : UInt32) (start : ProcessStart)
    (holds : List KernelObject) (kernel : Kernel) : Prop :=
  ∃ object, kernel.processes target = some object ∧ object.ours = true ∧ object.pid = pid ∧
    object.start = start ∧ object.holds = holds

/-- No process of ours runs. -/
def Kernel.Idle (kernel : Kernel) : Prop :=
  ∀ id object, kernel.processes id = some object → object.ours = true → ¬object.Runs

/-- The caller has the only handle of a strict job, and nobody can inherit it. -/
structure Kernel.OwnsJob (kernel : Kernel) (handle : Handle) (job : Nat) : Prop where
  limits : kernel.jobs job = some .strict
  held : kernel.handles handle = some ⟨.job job, false⟩
  sole : ∀ other entry, kernel.handles other = some entry → entry.object = .job job →
    other = handle
  unheld : kernel.Unheld job

/-- Every process of ours that runs is in such a job. -/
def Kernel.Contained (kernel : Kernel) : Prop :=
  ∀ id object, kernel.processes id = some object → object.ours = true → object.Runs →
    ∃ handle job, job ∈ object.jobs ∧ kernel.OwnsJob handle job

section Robust

variable {kernel : Kernel} {job target : Nat} {pid : UInt32} {start : ProcessStart}
  {holds : List KernelObject}

theorem robust_noneOurs : Robust Kernel.NoneOurs := by
  intro kernel next hnone hlater id later hfound
  obtain ⟨source, object, hobject, hfollows⟩ := hlater.follows hfound
  exact hfollows.ours.trans (hnone source object hobject)

theorem robust_onlySuspended : Robust (Kernel.OnlySuspended target) := by
  intro kernel next honly hlater id later hfound hours
  obtain ⟨object, hobject, hbecomes⟩ | ⟨source, object, hobject, hruns, hfollows⟩ :=
    hlater.source hfound
  · obtain ⟨htarget, hown⟩ := honly id object hobject (hbecomes.ours ▸ hours)
    exact ⟨htarget, hbecomes.ownSuspension.trans hown⟩
  · obtain ⟨-, hown⟩ := honly source object hobject (hfollows.ours ▸ hours)
    exact absurd (hown.symm.trans hruns.2.1) (by decide)

theorem robust_livingSuspended : Robust Kernel.LivingSuspended := by
  intro kernel next hnever hlater id later hfound hours halive
  obtain ⟨object, hobject, hbecomes⟩ | ⟨source, object, hobject, hruns, hfollows⟩ :=
    hlater.source hfound
  · exact hbecomes.ownSuspension.trans
      (hnever id object hobject (hbecomes.ours ▸ hours) (hbecomes.alive halive))
  · have hown := hnever source object hobject (hfollows.ours ▸ hours) (hfollows.alive halive)
    exact absurd (hown.symm.trans hruns.2.1) (by decide)

theorem robust_gone : Robust Kernel.Gone := by
  intro kernel next hgone hlater id later hfound hours
  obtain ⟨source, object, hobject, hfollows⟩ := hlater.follows hfound
  have hdead := hgone source object hobject (hfollows.ours ▸ hours)
  exact Bool.eq_false_iff.mpr fun halive =>
    Bool.false_ne_true (hdead.symm.trans (hfollows.alive halive))

theorem robust_unheld : Robust (Kernel.Unheld job) := by
  intro kernel next hunheld hlater id later hfound hmem
  obtain ⟨source, object, hobject, hfollows⟩ := hlater.follows hfound
  exact hunheld source object hobject (hfollows.holds _ hmem)

theorem robust_confined : Robust (Kernel.Confined job) := by
  intro kernel next hconfined hlater
  refine ⟨?_, hlater.jobs ▸ hconfined.limits, robust_unheld _ _ hconfined.unheld hlater⟩
  intro id later hfound hours halive
  obtain ⟨source, object, hobject, hfollows⟩ := hlater.follows hfound
  refine hfollows.jobs job ?_ ⟨.strict, hconfined.limits, rfl, rfl⟩
  exact hconfined.members source object hobject (hfollows.ours ▸ hours) (hfollows.alive halive)

theorem robust_created : Robust (Kernel.Created target pid start holds) := by
  rintro kernel next ⟨object, hobject, hours, hpid, hstart, hholds⟩ hlater
  obtain ⟨later, hfound, hbecomes⟩ := hlater.kept target object hobject
  exact ⟨later, hfound, hbecomes.ours.trans hours, hbecomes.pid.trans hpid,
    hbecomes.start.trans hstart, hbecomes.sameHolds.trans hholds⟩

theorem Robust.and {Tree Other : Kernel → Prop} (hfirst : Robust Tree) (hsecond : Robust Other) :
    Robust fun kernel => Tree kernel ∧ Other kernel :=
  fun kernel next hboth hlater =>
    ⟨hfirst kernel next hboth.1 hlater, hsecond kernel next hboth.2 hlater⟩

theorem robust_limits {limits : JobLimits} :
    Robust fun kernel => kernel.jobs job = some limits := by
  intro kernel next hlimits hlater
  rwa [hlater.jobs]

theorem Kernel.NoneOurs.onlySuspended (hnone : kernel.NoneOurs) (target : Nat) :
    kernel.OnlySuspended target :=
  fun id object hobject hours => absurd ((hnone id object hobject).symm.trans hours) (by decide)

theorem Kernel.OnlySuspended.livingSuspended (honly : kernel.OnlySuspended target) :
    kernel.LivingSuspended :=
  fun id object hobject hours _ => (honly id object hobject hours).2

theorem Kernel.Gone.livingSuspended (hgone : kernel.Gone) : kernel.LivingSuspended :=
  fun id object hobject hours halive =>
    absurd ((hgone id object hobject hours).symm.trans halive) (by decide)

theorem Kernel.LivingSuspended.idle (hnever : kernel.LivingSuspended) : kernel.Idle :=
  fun id object hobject hours hruns =>
    absurd ((hnever id object hobject hours hruns.1).symm.trans hruns.2.1) (by decide)

theorem Kernel.Idle.contained (hidle : kernel.Idle) : kernel.Contained :=
  fun id object hobject hours hruns => absurd hruns (hidle id object hobject hours)

end Robust

/-! ## Between two calls -/

/-- What holds between two calls. -/
structure At (base : Kernel) (owned : Owned) (lists : Nat) (Tree : Kernel → Prop)
    (kernel : Kernel) : Prop where
  owns : Owns base.handles owned kernel.handles
  lists : kernel.attributeLists = base.attributeLists + lists
  tree : Tree kernel

/-- The state of the others cannot break an assertion that keeps ours contained. -/
abbrev Holds (Inv : Kernel → Prop) : Prop := Stable kernelSystem Kernel.Contained Inv

section At

variable {base kernel : Kernel} {owned rest : Owned} {lists job : Nat} {Tree : Kernel → Prop}
  {handle : Handle}

theorem At.base_lacks {object : KernelObject} (hat : At base owned lists Tree kernel)
    (hlacks : kernel.Lacks object) : base.Lacks object :=
  fun handle entry hentry => hlacks handle entry (hat.owns.of_base hentry)

theorem At.mono (hat : At base owned lists Tree kernel) {Other : Kernel → Prop}
    (htree : Tree kernel → Other kernel) : At base owned lists Other kernel :=
  ⟨hat.owns, hat.lists, htree hat.tree⟩

theorem holds_at (hrobust : Robust Tree)
    (hsafe : ∀ kernel, At base owned lists Tree kernel → kernel.Contained) :
    Holds (At base owned lists Tree) where
  moves kernel next hat hmoves := by
    obtain ⟨hhandles, hlists⟩ := hmoves.frame
    exact ⟨hhandles ▸ hat.owns, hlists.trans hat.lists,
      hrobust kernel next hat.tree hmoves.later⟩
  safe := hsafe

/-- As long as no process of ours was ever resumed, the handles do not matter. -/
structure Calm (Tree : Kernel → Prop) : Prop where
  robust : Robust Tree
  livingSuspended : ∀ kernel, Tree kernel → kernel.LivingSuspended

theorem Calm.holds (hcalm : Calm Tree) : Holds (At base owned lists Tree) :=
  holds_at hcalm.robust fun kernel hat => (hcalm.livingSuspended kernel hat.tree).idle.contained

theorem calm_livingSuspended : Calm Kernel.LivingSuspended := ⟨robust_livingSuspended, fun _ => id⟩

theorem calm_gone : Calm Kernel.Gone := ⟨robust_gone, fun _ => Kernel.Gone.livingSuspended⟩

theorem calm_noneOurs : Calm Kernel.NoneOurs :=
  ⟨robust_noneOurs, fun _ hnone => (hnone.onlySuspended 0).livingSuspended⟩

theorem Calm.and {Other : Kernel → Prop} (hcalm : Calm Tree) (hrobust : Robust Other) :
    Calm fun kernel => Tree kernel ∧ Other kernel :=
  ⟨hcalm.robust.and hrobust, fun kernel hboth => hcalm.livingSuspended kernel hboth.1⟩

/-- The caller has the last handle of this job. -/
structure LastHandle (base : Kernel) (owned : Owned) (handle : Handle) (job : Nat) : Prop where
  held : (handle, ⟨.job job, false⟩) ∈ owned
  base : base.Lacks (.job job)
  sole : ∀ item ∈ owned, item.2.object = .job job → item.1 = handle

theorem holds_at_of_confined (hlast : LastHandle base owned handle job) (hrobust : Robust Tree)
    (hconfined : ∀ kernel, Tree kernel → kernel.Confined job) :
    Holds (At base owned lists Tree) := by
  refine holds_at hrobust fun kernel hat id object hobject hours hruns => ?_
  have hjob := hconfined kernel hat.tree
  refine ⟨handle, job, hjob.members id object hobject hours hruns.1, hjob.limits,
    hat.owns.held _ hlast.held, ?_, hjob.unheld⟩
  exact fun other entry hentry hsame =>
    hat.owns.sole (fun entry => entry.object = .job job) hlast.base hlast.sole hentry hsame

end At

/-! ## Calls -/

variable {ε : Type}

/-- A call whose refusal ends the program. -/
def request (call : KernelCall) (refusal : UInt32 → ε) :
    FallibleCalls KernelCall KernelCall.Reply ε call.Value :=
  SystemCalls.call call fun reply => .done (reply.mapError refusal)

/-- A call whose reply is ignored. -/
def attempt (call : KernelCall) : SystemCalls KernelCall KernelCall.Reply Unit :=
  .call call fun _ => .done ()

def close (handle : Handle) : SystemCalls KernelCall KernelCall.Reply Unit :=
  attempt (.closeHandle handle)

def closeAll (handles : List Handle) : SystemCalls KernelCall KernelCall.Reply Unit :=
  forEach close handles

/-- Calls that change neither handles nor jobs, and processes only by ending them. -/
def KernelCall.isHarmless : KernelCall → Bool
  | .getHandleInformation _ => true
  | .queryInformationJobObject _ => true
  | .queryJobAccounting _ => true
  | .attributeListSize => true
  | .updateHandleList _ => true
  | .getProcessTimes _ => true
  | .isProcessInJob _ _ => true
  | .terminateProcess _ _ => true
  | .terminateJobObject _ _ => true
  | .waitForSingleObject _ _ => true
  | .getExitCodeProcess _ => true
  | .getExtendedTcpTable _ _ _ => true
  | .now => true
  | .sleep _ => true
  | _ => false

section Calls

variable {base kernel : Kernel} {owned rest : Owned} {lists job : Nat} {Tree : Kernel → Prop}
  {handle : Handle} {Before Fail : Kernel → Prop}

theorem ensures_request {call : KernelCall} {refusal : UInt32 → ε}
    {Ok : call.Value → Kernel → Prop} (hbefore : Holds Before) (hok : ∀ value, Holds (Ok value))
    (hfail : Holds Fail) (hstate : Before kernel)
    (hsucceeds : ∀ before value next, Before before → before.Succeeds call value next →
      Ok value next)
    (hrefused : ∀ before, Before before → Fail before) :
    (request call refusal).Ensures kernelSystem Kernel.Contained kernel Ok Fail := by
  refine SystemCalls.Ensures.call hbefore hstate fun before reply next hinv hanswers => ?_
  cases reply with
  | ok value =>
      exact .done (hok value) (hsucceeds before value next hinv hanswers) fun _ => id
  | error code =>
      obtain ⟨-, rfl⟩ := hanswers
      exact .done hfail (hrefused _ hinv) fun _ => id

theorem ensures_attempt {call : KernelCall} {After : Kernel → Prop} (hbefore : Holds Before)
    (hafter : Holds After) (hstate : Before kernel)
    (hsucceeds : ∀ before value next, Before before → before.Succeeds call value next →
      After next)
    (hrefused : call.isInfallible = false → ∀ before, Before before → After before) :
    (attempt call).Ensures kernelSystem Kernel.Contained kernel fun _ stop => After stop := by
  refine SystemCalls.Ensures.call hbefore hstate fun before reply next hinv hanswers => ?_
  cases reply with
  | ok value => exact .done hafter (hsucceeds before value next hinv hanswers) fun _ => id
  | error code =>
      obtain ⟨hfallible, rfl⟩ := hanswers
      exact .done hafter (hrefused hfallible _ hinv) fun _ => id

/-- A program of harmless calls. -/
inductive AsksOnly {α : Type} : SystemCalls KernelCall KernelCall.Reply α → Prop
  | done (a : α) : AsksOnly (.done a)
  | call {call : KernelCall} {next : call.Reply → SystemCalls KernelCall KernelCall.Reply α}
      (hharmless : call.isHarmless = true) (hnext : ∀ reply, AsksOnly (next reply)) :
      AsksOnly (.call call next)

section AsksOnly

variable {α β : Type}

theorem AsksOnly.request {call : KernelCall} {refusal : UInt32 → ε}
    (hharmless : call.isHarmless = true) : AsksOnly (request call refusal) :=
  .call hharmless fun _ => .done _

theorem AsksOnly.sequence {x : SystemCalls KernelCall KernelCall.Reply α}
    {f : α → SystemCalls KernelCall KernelCall.Reply β} (hx : AsksOnly x)
    (hf : ∀ a, AsksOnly (f a)) : AsksOnly (SystemCalls.bind x f) := by
  induction hx with
  | done a => exact hf a
  | call hharmless _ ih => exact .call hharmless ih

theorem AsksOnly.bind {x : FallibleCalls KernelCall KernelCall.Reply ε α}
    {f : α → FallibleCalls KernelCall KernelCall.Reply ε β} (hx : AsksOnly x)
    (hf : ∀ a, AsksOnly (f a)) :
    AsksOnly (x >>= f : FallibleCalls KernelCall KernelCall.Reply ε β) := by
  refine hx.sequence fun outcome => ?_
  cases outcome with
  | ok a => exact hf a
  | error error => exact .done _

end AsksOnly

theorem Kernel.Succeeds.harmless {call : KernelCall} {value : call.Value} {next : Kernel}
    (hharmless : call.isHarmless = true) (hsucceeds : kernel.Succeeds call value next) :
    kernel.Later next ∧ next.handles = kernel.handles ∧
      next.attributeLists = kernel.attributeLists := by
  have hsame : next = kernel → kernel.Later next ∧ next.handles = kernel.handles ∧
      next.attributeLists = kernel.attributeLists := by
    rintro rfl
    exact ⟨.of_processes rfl rfl, rfl, rfl⟩
  cases call <;> try cases hharmless
  case getHandleInformation => exact hsame hsucceeds.2
  case queryInformationJobObject => exact hsame hsucceeds.2
  case queryJobAccounting => exact hsame hsucceeds.2
  case attributeListSize => exact hsame hsucceeds
  case updateHandleList => exact hsame hsucceeds
  case getProcessTimes => exact hsame hsucceeds.2
  case isProcessInJob => exact hsame hsucceeds.2
  case terminateProcess =>
      obtain ⟨target, inheritable, object, -, hobject, rfl⟩ := hsucceeds
      exact ⟨.of_becomes hobject (.ended _ _), rfl, rfl⟩
  case terminateJobObject =>
      obtain ⟨id, inheritable, -, rfl⟩ := hsucceeds
      exact ⟨.of_killMembers id, rfl, rfl⟩
  case waitForSingleObject =>
      cases value with
      | object0 => exact hsame hsucceeds.2
      | timeout => exact hsame hsucceeds
      | other status => exact hsame hsucceeds
  case getExitCodeProcess => exact hsame hsucceeds
  case getExtendedTcpTable => exact hsame hsucceeds.2
  case now => exact hsame hsucceeds
  case sleep => exact hsame hsucceeds

theorem At.harmless {call : KernelCall} {value : call.Value} {next : Kernel}
    (hat : At base owned lists Tree kernel) (hrobust : Robust Tree)
    (hharmless : call.isHarmless = true) (hsucceeds : kernel.Succeeds call value next) :
    At base owned lists Tree next := by
  obtain ⟨hlater, hhandles, hlists⟩ := hsucceeds.harmless hharmless
  exact ⟨hhandles ▸ hat.owns, hlists.trans hat.lists, hrobust kernel next hat.tree hlater⟩

theorem ensures_request_harmless {call : KernelCall} {refusal : UInt32 → ε}
    (hholds : Holds (At base owned lists Tree)) (hrobust : Robust Tree)
    (hharmless : call.isHarmless = true) (hat : At base owned lists Tree kernel) :
    (request call refusal).Ensures kernelSystem Kernel.Contained kernel
      (fun _ => At base owned lists Tree) (At base owned lists Tree) :=
  ensures_request hholds (fun _ => hholds) hholds hat
    (fun _ _ _ hbefore hsucceeds => hbefore.harmless hrobust hharmless hsucceeds) fun _ => id

theorem ensures_attempt_harmless {call : KernelCall} (hholds : Holds (At base owned lists Tree))
    (hrobust : Robust Tree) (hharmless : call.isHarmless = true)
    (hat : At base owned lists Tree kernel) :
    (attempt call).Ensures kernelSystem Kernel.Contained kernel
      fun _ => At base owned lists Tree :=
  ensures_attempt hholds hholds hat
    (fun _ _ _ hbefore hsucceeds => hbefore.harmless hrobust hharmless hsucceeds) fun _ _ => id

/-- A program of harmless calls keeps whatever later states keep. -/
theorem AsksOnly.ensures {α : Type} {x : SystemCalls KernelCall KernelCall.Reply α}
    (hasks : AsksOnly x) (hholds : Holds (At base owned lists Tree)) (hrobust : Robust Tree)
    (hat : At base owned lists Tree kernel) :
    x.Ensures kernelSystem Kernel.Contained kernel fun _ => At base owned lists Tree := by
  induction hasks generalizing kernel with
  | done a => exact .done hholds hat fun _ h => h
  | call hharmless _ ih =>
      refine SystemCalls.Ensures.call hholds hat fun before reply next hbefore hanswers => ?_
      cases reply with
      | ok value => exact ih _ (hbefore.harmless hrobust hharmless hanswers)
      | error code =>
          obtain ⟨-, rfl⟩ := hanswers
          exact ih _ hbefore

theorem ensures_deleteAttributeList (hcalm : Calm Tree)
    (hat : At base owned (lists + 1) Tree kernel) :
    (attempt .deleteAttributeList).Ensures kernelSystem Kernel.Contained kernel
      fun _ => At base owned lists Tree := by
  refine ensures_attempt hcalm.holds hcalm.holds hat ?_ fun hinfallible => by cases hinfallible
  rintro before value next hbefore rfl
  refine ⟨hbefore.owns, ?_, hcalm.robust _ _ hbefore.tree (.of_processes rfl rfl)⟩
  have hlists := hbefore.lists
  change before.attributeLists - 1 = _
  omega

theorem ensures_close {entry : HandleEntry} (hperm : owned.Perm ((handle, entry) :: rest))
    (hbefore : Holds (At base owned lists Tree)) (hafter : Holds (At base rest lists Tree))
    (hrobust : Robust Tree) (hat : At base owned lists Tree kernel) :
    (close handle).Ensures kernelSystem Kernel.Contained kernel
      fun _ => At base rest lists Tree := by
  refine ensures_attempt hbefore hafter hat ?_ fun hinfallible => by cases hinfallible
  rintro before value next hbefore (⟨job, -, rfl⟩ | ⟨-, rfl⟩)
  · exact ⟨(hbefore.owns.perm hperm).close, hbefore.lists,
      hrobust _ _ (hrobust before (before.setHandle handle none) hbefore.tree
        (.of_processes rfl rfl)) (.of_killMembers job)⟩
  · exact ⟨(hbefore.owns.perm hperm).close, hbefore.lists,
      hrobust _ _ hbefore.tree (.of_processes rfl rfl)⟩

/-- The handle may stand anywhere in the list. -/
theorem ensures_closeAmong (others : Owned) {entry : HandleEntry}
    (hbefore : Holds (At base (others ++ (handle, entry) :: rest) lists Tree))
    (hafter : Holds (At base (others ++ rest) lists Tree)) (hrobust : Robust Tree)
    (hat : At base (others ++ (handle, entry) :: rest) lists Tree kernel) :
    (close handle).Ensures kernelSystem Kernel.Contained kernel
      fun _ => At base (others ++ rest) lists Tree :=
  ensures_close List.perm_middle hbefore hafter hrobust hat

theorem ensures_closeAll (hrobust : Robust Tree)
    (hholds : ∀ kept, kept <:+ owned → Holds (At base (kept ++ rest) lists Tree))
    (hat : At base (owned ++ rest) lists Tree kernel) :
    (closeAll (owned.map Prod.fst)).Ensures kernelSystem Kernel.Contained kernel
      fun _ => At base rest lists Tree := by
  induction owned generalizing kernel with
  | nil => exact .done (hholds [] List.suffix_rfl) hat fun _ => id
  | cons item owned ih =>
      have hperm : (item :: owned ++ rest).Perm ((item.1, item.2) :: (owned ++ rest)) := .refl _
      have hfirst := ensures_close hperm (hholds (item :: owned) List.suffix_rfl)
        (hholds owned (List.suffix_cons ..)) hrobust hat
      refine hfirst.bind fun _ middle hmiddle => ih ?_ hmiddle
      exact fun kept hkept => hholds kept (hkept.trans (List.suffix_cons ..))

/-- Closing the last handle of a job with all of ours in it ends them. -/
theorem ensures_closeJob (others : Owned)
    (hlast : LastHandle base (others ++ (handle, ⟨.job job, false⟩) :: rest) handle job)
    (hrobust : Robust Tree) (hconfined : ∀ kernel, Tree kernel → kernel.Confined job)
    (hat : At base (others ++ (handle, ⟨.job job, false⟩) :: rest) lists Tree kernel) :
    (close handle).Ensures kernelSystem Kernel.Contained kernel
      fun _ => At base (others ++ rest) lists Kernel.Gone := by
  refine ensures_attempt (holds_at_of_confined hlast hrobust hconfined) calm_gone.holds hat ?_
    fun hinfallible => by cases hinfallible
  intro before value next hbefore hsucceeds
  have hjob := hconfined before hbefore.tree
  have hkills : before.KillsOnClose handle job := by
    refine ⟨⟨_, hbefore.owns.held _ hlast.held, rfl⟩, ⟨_, hjob.limits, rfl⟩, ?_, ?_⟩
    · exact fun other entry hentry hsame =>
        hbefore.owns.sole (fun entry => entry.object = .job job) hlast.base hlast.sole hentry hsame
    · exact fun id process hprocess _ => hjob.unheld id process hprocess
  obtain ⟨killed, ⟨⟨entry, hentry, hkilled⟩, -⟩, rfl⟩ | ⟨hno, -⟩ := hsucceeds
  · obtain rfl := Option.some.inj ((hbefore.owns.held _ hlast.held).symm.trans hentry)
    obtain rfl := KernelObject.job.inj hkilled
    refine ⟨(hbefore.owns.perm List.perm_middle).close, hbefore.lists, ?_⟩
    intro id later hlater hours
    obtain ⟨object, hobject, rfl⟩ := Option.map_eq_some_iff.mp hlater
    split
    next => rfl
    next hout =>
      rw [if_neg hout] at hours
      exact Bool.eq_false_iff.mpr fun halive =>
        hout (hjob.members id object hobject hours halive)
  · exact absurd hkills (hno job)

end Calls

end WindowsKernel
