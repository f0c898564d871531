import Mathlib.Algebra.Order.Floor.Div

/-! # Token buckets

A bucket gains tokens at a constant rate up to its capacity, and whatever passes takes
tokens out. The level is a function of time, so looking at it in between changes
nothing, and every draw within the level keeps to the long-run rate.
-/

structure TokenBucket where
  rate : Nat
  capacity : Nat
  level : Nat
  last : Nat
  deriving DecidableEq, Repr

namespace TokenBucket

variable (bucket : TokenBucket)

/-- The level at a time from the last one on. -/
def levelAt (time : Nat) : Nat :=
  min bucket.capacity (bucket.level + bucket.rate * (time - bucket.last))

@[simps] def refill (time : Nat) : TokenBucket :=
  { bucket with level := bucket.levelAt time, last := time }

@[simps] def take (amount : Nat) : TokenBucket := { bucket with level := bucket.level - amount }

/-- The first time at which the level reaches this amount. -/
def readyAt (amount : Nat) : Nat := bucket.last + (amount - bucket.level) ⌈/⌉ bucket.rate

/-! ## The level over time -/

theorem levelAt_le_capacity (time : Nat) : bucket.levelAt time ≤ bucket.capacity :=
  Nat.min_le_left _ _

variable {bucket} {start time later amount : Nat}

theorem levelAt_last (hlevel : bucket.level ≤ bucket.capacity) :
    bucket.levelAt bucket.last = bucket.level := by
  rw [levelAt, Nat.sub_self, Nat.mul_zero, Nat.add_zero, Nat.min_eq_right hlevel]

theorem refill_now (hlevel : bucket.level ≤ bucket.capacity) :
    bucket.refill bucket.last = bucket := by
  rw [refill, levelAt_last hlevel]

/-- Between two times the level gains at most the rate. -/
theorem levelAt_le_add (hlast : bucket.last ≤ time) (hle : time ≤ later) :
    bucket.levelAt later ≤ bucket.levelAt time + bucket.rate * (later - time) := by
  have hsplit : later - bucket.last = (time - bucket.last) + (later - time) := by omega
  simp only [levelAt, hsplit, Nat.mul_add]
  omega

/-- Looking at the level in between does not change it. -/
theorem levelAt_refill (hlast : bucket.last ≤ time) (hle : time ≤ later) :
    (bucket.refill time).levelAt later = bucket.levelAt later := by
  have hsplit : later - bucket.last = (time - bucket.last) + (later - time) := by omega
  simp only [levelAt, refill, hsplit, Nat.mul_add]
  omega

theorem refill_refill (hlast : bucket.last ≤ time) (hle : time ≤ later) :
    (bucket.refill time).refill later = bucket.refill later := by
  rw [refill, levelAt_refill hlast hle]
  rfl

/-- Any number of looks in between do not change it. -/
theorem refill_foldl (times : List Nat) {last : Nat}
    (hsorted : (bucket.last :: times ++ [last]).Pairwise (· ≤ ·)) :
    (times.foldl refill bucket).refill last = bucket.refill last := by
  induction times generalizing bucket with
  | nil => rfl
  | cons time rest ih =>
      obtain ⟨hbefore, hrest⟩ := List.pairwise_cons.mp hsorted
      rw [List.foldl_cons, ih hrest]
      refine refill_refill (hbefore time List.mem_cons_self) ?_
      exact (List.pairwise_cons.mp hrest).1 last (List.mem_append_right _ List.mem_cons_self)

/-- The level reaches an amount exactly from the ready time on. -/
theorem le_levelAt_iff (hrate : 0 < bucket.rate) (hcapacity : amount ≤ bucket.capacity)
    (hlast : bucket.last ≤ time) : amount ≤ bucket.levelAt time ↔ bucket.readyAt amount ≤ time := by
  have hgain : bucket.readyAt amount ≤ time ↔
      amount - bucket.level ≤ bucket.rate * (time - bucket.last) := by
    rw [← ceilDiv_le_iff_le_mul hrate, readyAt]
    omega
  rw [hgain, levelAt]
  omega

/-- The ready time does not depend on when the level is looked at. -/
theorem readyAt_refill (hrate : 0 < bucket.rate) (hcapacity : amount ≤ bucket.capacity)
    (hlast : bucket.last ≤ time) (hshort : bucket.levelAt time < amount) :
    (bucket.refill time).readyAt amount = bucket.readyAt amount := by
  have hready : ∀ later, time ≤ later →
      ((bucket.refill time).readyAt amount ≤ later ↔ bucket.readyAt amount ≤ later) := by
    intro later hle
    have hrefilled : amount ≤ (bucket.refill time).levelAt later ↔
        (bucket.refill time).readyAt amount ≤ later := le_levelAt_iff hrate hcapacity hle
    rw [← hrefilled, levelAt_refill hlast hle, le_levelAt_iff hrate hcapacity (hlast.trans hle)]
  have hafter : time ≤ bucket.readyAt amount := by
    by_contra hbefore
    have hreached := (le_levelAt_iff hrate hcapacity hlast).mpr (Nat.le_of_not_le hbefore)
    omega
  have hfirst : time ≤ (bucket.refill time).readyAt amount := Nat.le_add_right _ _
  exact Nat.le_antisymm ((hready _ hafter).mpr (Nat.le_refl _))
    ((hready _ hfirst).mp (Nat.le_refl _))

/-! ## Draws -/

/-- Draws at these times of these amounts, each within the level. -/
def Conforms : TokenBucket → List (Nat × Nat) → Prop
  | _, [] => True
  | bucket, (time, amount) :: rest =>
      bucket.last ≤ time ∧ amount ≤ bucket.levelAt time ∧
        Conforms ((bucket.refill time).take amount) rest

theorem Conforms.last_le {draws : List (Nat × Nat)} (hconforms : bucket.Conforms draws) :
    ∀ draw ∈ draws, bucket.last ≤ draw.1 := by
  induction draws generalizing bucket with
  | nil => exact nofun
  | cons draw rest ih =>
      obtain ⟨hlast, -, hrest⟩ := hconforms
      exact List.forall_mem_cons.mpr
        ⟨hlast, fun later hlater => hlast.trans (ih hrest later hlater)⟩

/-- Over any window conforming draws take at most the level at its start and what is
gained during it. -/
theorem Conforms.total_le {draws : List (Nat × Nat)} (hconforms : bucket.Conforms draws)
    (hstart : bucket.last ≤ start) (hwindow : start ≤ later)
    (hwithin : ∀ draw ∈ draws, start ≤ draw.1 ∧ draw.1 ≤ later) :
    (draws.map Prod.snd).sum ≤ bucket.levelAt start + bucket.rate * (later - start) := by
  induction draws generalizing bucket start with
  | nil => exact Nat.zero_le _
  | cons draw rest ih =>
      obtain ⟨time, amount⟩ := draw
      obtain ⟨hlast, hamount, hrest⟩ := hconforms
      obtain ⟨⟨hafter, hbefore⟩, hothers⟩ := List.forall_mem_cons.mp hwithin
      have hle : _ ≤ ((bucket.refill time).take amount).levelAt time +
          bucket.rate * (later - time) := ih hrest (Nat.le_refl _) hbefore fun draw hdraw =>
        ⟨hrest.last_le draw hdraw, (hothers draw hdraw).2⟩
      have hleft : ((bucket.refill time).take amount).levelAt time + amount =
          bucket.levelAt time := by
        have hcap := bucket.levelAt_le_capacity time
        simp only [levelAt, take, refill, Nat.sub_self, Nat.mul_zero, Nat.add_zero]
          at hcap hamount ⊢
        omega
      have hgain : bucket.levelAt time ≤ bucket.levelAt start + bucket.rate * (time - start) :=
        levelAt_le_add hstart hafter
      have hsplit : bucket.rate * (later - start) =
          bucket.rate * (time - start) + bucket.rate * (later - time) := by
        rw [← Nat.mul_add]
        congr 1
        omega
      simp only [List.map_cons, List.sum_cons]
      omega

end TokenBucket
