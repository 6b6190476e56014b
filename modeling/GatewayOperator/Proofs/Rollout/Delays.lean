import Mathlib.Data.Nat.Fib.Basic
import GatewayOperator.Proofs.Rollout.Retries

/-!
# The delays of a gateway in closed form

The delays after failures are counted in machine words, each of them from the two before it.  This
module says which numbers they are: the multiples of the lower bound by the Fibonacci numbers, as
far as the upper bound lets them grow.

## Main Definitions

* `Backoff.heed`, `Backoff.after` — the delays that are still to come after some failures and
  successes.
* `cappedFib` — a Fibonacci multiple of the lower bound, cut off at the upper one.
* `Backoff.Nth` — the delays stand at a Fibonacci number.

## Main Statements

* `cappedFib_add_two` — cutting off and adding may be swapped.
* `Backoff.Nth.next` — the delays move to the next Fibonacci number.
* `Backoff.nth_after` — they stand at the number of failures since the last success.
* `Backoff.seconds_after` — the next delay in closed form, and its bounds.

## Design Notes

Behind the upper bound the delay before the next one is no Fibonacci multiple any more.  The
invariant is about the multiples that have been cut off, so it goes on there: a sum of cut off
numbers that is cut off again is the sum of the numbers, cut off once.
-/

namespace GatewayOperator

/-! ### Fibonacci multiples that are cut off -/

/-- The multiple of the lower bound by a Fibonacci number, cut off at the upper bound. -/
def cappedFib (low high n : Nat) : Nat := min (Nat.fib n * low) high

variable {low high n m : Nat}

theorem cappedFib_le : cappedFib low high n ≤ high := Nat.min_le_right _ _

@[simp] theorem cappedFib_zero : cappedFib low high 0 = 0 := by
  simp [cappedFib]

theorem cappedFib_one (ordered : low ≤ high) : cappedFib low high 1 = low := by
  simp [cappedFib, ordered]

/-- The sum of two of the numbers, cut off again, is the next number. -/
theorem cappedFib_add_two :
    min (cappedFib low high n + cappedFib low high (n + 1)) high = cappedFib low high (n + 2) := by
  have sum : Nat.fib (n + 2) * low = Nat.fib n * low + Nat.fib (n + 1) * low := by
    rw [Nat.fib_add_two, Nat.add_mul]
  unfold cappedFib
  omega

theorem cappedFib_mono (le : n ≤ m) : cappedFib low high n ≤ cappedFib low high m :=
  Nat.le_min.mpr ⟨(Nat.min_le_left _ _).trans (Nat.mul_le_mul_right low (Nat.fib_mono le)),
    cappedFib_le⟩

theorem le_cappedFib (ordered : low ≤ high) (pos : 0 < n) : low ≤ cappedFib low high n := by
  calc
    low = cappedFib low high 1 := (cappedFib_one ordered).symm
    _ ≤ cappedFib low high n := cappedFib_mono pos

/-! ### The delays after some failures and successes -/

namespace Backoff

variable {low high : UInt64} {b : Backoff} {n : Nat}

/-- The delays behind a failure, which takes the next one, or behind a success. -/
def heed (b : Backoff) : PassOutcome → Backoff
  | .failed => b.next
  | .succeeded => b.reset

/-- The delays that are still to come when passes have come out like this, the first first. -/
def after (low high : UInt64) (outcomes : List PassOutcome) : Backoff :=
  outcomes.foldl heed (start low high)

@[simp] theorem after_append (outcomes : List PassOutcome) (outcome : PassOutcome) :
    after low high (outcomes ++ [outcome]) = (after low high outcomes).heed outcome := by
  unfold after
  rw [List.foldl_append, List.foldl_cons, List.foldl_nil]

/-- The delays stand at a Fibonacci number: this is the delay before the next one, and the next one
is made of the Fibonacci number behind it. -/
structure Nth (low high : UInt64) (n : Nat) (b : Backoff) : Prop where
  /-- The lower bound is kept. -/
  min_eq : b.min = low
  /-- The upper bound is kept. -/
  max_eq : b.max = high
  /-- The delay before the next one. -/
  previous : b.previous.toNat = cappedFib low.toNat high.toNat n
  /-- The next delay. -/
  current : b.current.toNat = cappedFib low.toNat high.toNat (n + 1)

theorem nth_start (ordered : low ≤ high) : Nth low high 0 (start low high) where
  min_eq := rfl
  max_eq := rfl
  previous := cappedFib_zero.symm
  current := (cappedFib_one (UInt64.le_iff_toNat_le.mp ordered)).symm

/-- A success begins with the first delay again, wherever the delays stand. -/
theorem Nth.reset (ordered : low ≤ high) (nth : Nth low high n b) : Nth low high 0 b.reset := by
  have again : b.reset = start low high := by
    unfold Backoff.reset start
    rw [nth.min_eq, nth.max_eq]
  rw [again]
  exact nth_start ordered

/-- The sum of the two delays fits into a word. -/
theorem Nth.sum_lt (small : 60 * high.toNat < 2 ^ 64) (nth : Nth low high n b) :
    b.previous.toNat + b.current.toNat < 2 ^ 64 := by
  have previous : b.previous.toNat ≤ high.toNat := nth.previous ▸ cappedFib_le
  have current : b.current.toNat ≤ high.toNat := nth.current ▸ cappedFib_le
  omega

/-- The next delay in seconds fits into a word. -/
theorem Nth.product_lt (small : 60 * high.toNat < 2 ^ 64) (nth : Nth low high n b) :
    b.current.toNat * 60 < 2 ^ 64 := by
  have current : b.current.toNat ≤ high.toNat := nth.current ▸ cappedFib_le
  omega

/-- A failure moves the delays to the next Fibonacci number as long as their sum fits into a word.
-/
theorem Nth.next (fits : b.previous.toNat + b.current.toNat < 2 ^ 64) (nth : Nth low high n b) :
    Nth low high (n + 1) b.next where
  min_eq := nth.min_eq
  max_eq := nth.max_eq
  previous := nth.current
  current := by
    have sum : (b.previous + b.current).toNat = b.previous.toNat + b.current.toNat := by
      rw [UInt64.toNat_add, Nat.mod_eq_of_lt fits]
    have capped : b.next.current.toNat =
        Nat.min (b.previous.toNat + b.current.toNat) b.max.toNat := by
      show (if b.previous + b.current ≤ b.max then b.previous + b.current else b.max).toNat = _
      rw [← sum, apply_ite UInt64.toNat]
      simp only [UInt64.le_iff_toNat_le]
      exact Nat.min_def.symm
    rw [capped, nth.previous, nth.current, nth.max_eq]
    exact cappedFib_add_two

theorem Nth.heed (ordered : low ≤ high) (small : 60 * high.toNat < 2 ^ 64)
    (outcomes : List PassOutcome) (outcome : PassOutcome)
    (nth : Nth low high (failuresInARow outcomes) b) :
    Nth low high (failuresInARow (outcomes ++ [outcome])) (b.heed outcome) := by
  cases outcome with
  | failed =>
    rw [failuresInARow_append_failed]
    exact nth.next (nth.sum_lt small)
  | succeeded =>
    rw [failuresInARow_append_succeeded]
    exact nth.reset ordered

/-- The delays stand at the number of failures since the last success. -/
theorem nth_after (ordered : low ≤ high) (small : 60 * high.toNat < 2 ^ 64)
    (outcomes : List PassOutcome) :
    Nth low high (failuresInARow outcomes) (after low high outcomes) := by
  induction outcomes using List.reverseRecOn with
  | nil => exact nth_start ordered
  | append_singleton outcomes outcome ih =>
    rw [after_append]
    exact ih.heed ordered small outcomes outcome

theorem Nth.toNat_seconds (small : 60 * high.toNat < 2 ^ 64) (nth : Nth low high n b) :
    b.seconds.toNat = 60 * cappedFib low.toNat high.toNat (n + 1) := by
  unfold seconds
  rw [UInt64.toNat_mul, UInt64.toNat_ofNat, Nat.mod_eq_of_lt (nth.product_lt small), nth.current,
    Nat.mul_comm]

end Backoff

theorem failuresInARow_append_replicate (outcomes : List PassOutcome) (k : Nat) :
    failuresInARow (outcomes ++ List.replicate k .failed) = failuresInARow outcomes + k := by
  induction k with
  | zero => rw [List.replicate_zero, List.append_nil, Nat.add_zero]
  | succ k ih =>
    rw [List.replicate_succ', ← List.append_assoc, failuresInARow_append_failed, ih, Nat.add_assoc]

namespace Backoff

variable {low high : UInt64}

/-- **The delays are the Fibonacci multiples of the lower bound, cut off at the upper one.**  After
any failures and successes the next delay is told by the number of failures since the last success,
counted from one.  So it does not decrease as long as there is no success, it lies between the
bounds, and neither the product that it is nor the sum behind it leaves the words. -/
theorem seconds_after (outcomes : List PassOutcome) (ordered : low ≤ high)
    (small : 60 * high.toNat < 2 ^ 64) :
    let b := after low high outcomes
    b.seconds.toNat =
        60 * Nat.min (Nat.fib (failuresInARow outcomes + 1) * low.toNat) high.toNat ∧
      (∀ k, b.seconds ≤ (after low high (outcomes ++ List.replicate k .failed)).seconds) ∧
      60 * low.toNat ≤ b.seconds.toNat ∧ b.seconds.toNat ≤ 60 * high.toNat ∧
      b.current.toNat * 60 < 2 ^ 64 ∧ b.previous.toNat + b.current.toNat < 2 ^ 64 := by
  intro b
  have nth : Nth low high (failuresInARow outcomes) b := nth_after ordered small outcomes
  have seconds := nth.toNat_seconds small
  refine ⟨seconds, fun k => ?_, ?_, ?_, nth.product_lt small, nth.sum_lt small⟩
  · have later := nth_after ordered small (outcomes ++ List.replicate k .failed)
    rw [UInt64.le_iff_toNat_le, seconds, later.toNat_seconds small,
      failuresInARow_append_replicate]
    exact Nat.mul_le_mul_left 60 (cappedFib_mono (by omega))
  · rw [seconds]
    exact Nat.mul_le_mul_left 60
      (le_cappedFib (UInt64.le_iff_toNat_le.mp ordered) (Nat.succ_pos _))
  · rw [seconds]
    exact Nat.mul_le_mul_left 60 cappedFib_le

/-- With a bound of ten minutes the seventh delay is cut off, also when there was a success
before. -/
theorem seconds_after_six_failures :
    (after 1 10 (.failed :: .succeeded :: List.replicate 6 .failed)).seconds = 600 ∧
      Nat.fib 7 = 13 := by
  obtain ⟨closed, -⟩ :=
    @seconds_after 1 10 (.failed :: .succeeded :: List.replicate 6 .failed)
      (by decide) (by decide)
  refine ⟨UInt64.toNat_inj.mp (closed.trans ?_), by decide⟩
  decide

end Backoff

namespace FailureRecord

variable {low high : UInt64}

/-- The delays of a gateway's record are told by how its passes have come out. -/
theorem backoff_after (outcomes : List PassOutcome) :
    (after low high outcomes).backoff = .after low high outcomes := by
  induction outcomes using List.reverseRecOn with
  | nil => rfl
  | append_singleton outcomes outcome ih =>
    rw [after_append, Backoff.after_append, ← ih]
    cases outcome <;> rfl

end FailureRecord

end GatewayOperator
