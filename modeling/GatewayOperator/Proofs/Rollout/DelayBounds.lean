import GatewayOperator.Proofs.Rollout.Delays
import GatewayOperator.Proofs.Text.Integers
import GatewayOperator.Settings

/-!
# Which bounds keep the delays in bounds

The bounds of the delays come from the environment as two numbers that are read independently of
each other.  This module says for which of them every delay keeps to the upper bound and is computed
without leaving the words.

## Main Definitions

* `FailureLedger.after` — the ledger after some failures and successes, of any gateways.
* `Backoff.Exact` — the next delay, and the one behind it, are computed without leaving the words.
* `Settings.DelaysSafe` — all delays are, and keep to the upper bound.

## Main Statements

* `Backoff.after_zero` — with a lower bound of zero all delays are zero.
* `Backoff.exists_current_eq` — with any other one the delays reach the upper bound.
* `Settings.exists_environment` — an environment may ask for any two bounds.
* `Settings.delaysSafe_iff` — the delays are safe exactly for bounds that are in order and of which
  the upper one is a word in seconds as well, and for a lower bound of zero.

## Design Notes

That a sum of two delays leaves the words is never the first thing to go wrong: both of them are at
most the upper bound, and in seconds they fit into words.  So nothing is asked of the sum.
-/

namespace GatewayOperator

/-! ### The ledger after some passes -/

namespace FailureLedger

variable {min max : UInt64}

/-- The ledger after some passes, each of them under the key of its gateway, the first first. -/
def after (min max : UInt64) (log : List (String × PassOutcome)) : FailureLedger :=
  log.foldl (fun ledger pass => ledger.heed min max pass.1 pass.2) ∅

/-- How the passes under one of the keys have come out. -/
def outcomesUnder (key : String) (log : List (String × PassOutcome)) : List PassOutcome :=
  (log.filter (·.1 = key)).map (·.2)

/-- What is noted under a key is what a record of the passes under that key says. -/
theorem record_after (log : List (String × PassOutcome)) (key : String) :
    (after min max log).record min max key = .after min max (outcomesUnder key log) := by
  induction log using List.reverseRecOn with
  | nil => rfl
  | append_singleton log pass ih =>
    have one : after min max (log ++ [pass]) =
        (after min max log).heed min max pass.1 pass.2 := by
      unfold after
      rw [List.foldl_append, List.foldl_cons, List.foldl_nil]
    have more : outcomesUnder key (log ++ [pass]) =
        outcomesUnder key log ++ if pass.1 = key then [pass.2] else [] := by
      unfold outcomesUnder
      rw [List.filter_append, List.map_append]
      by_cases same : pass.1 = key <;> simp [same]
    rw [one, record_heed, more]
    by_cases same : pass.1 = key
    · rw [if_pos same.symm, if_pos same, same, ih, FailureRecord.after_append]
    · rw [if_neg (Ne.symm same), if_neg same, ih, List.append_nil]

theorem outcomesUnder_map (key : String) (outcomes : List PassOutcome) :
    outcomesUnder key (outcomes.map (key, ·)) = outcomes := by
  unfold outcomesUnder
  rw [List.filter_eq_self.mpr (by simp), List.map_map]
  exact List.map_id outcomes

end FailureLedger

/-! ### Delays that are computed exactly -/

namespace Backoff

variable {low high : UInt64}

/-- The next delay fits into a word in seconds, and so does in minutes the sum that the one behind
it is made of. -/
structure Exact (b : Backoff) : Prop where
  /-- The next delay in seconds. -/
  product : b.current.toNat * 60 < 2 ^ 64
  /-- The sum of the last delay and the next one. -/
  sum : b.previous.toNat + b.current.toNat < 2 ^ 64

theorem Exact.toNat_seconds {b : Backoff} (exactly : b.Exact) :
    b.seconds.toNat = 60 * b.current.toNat := by
  unfold seconds
  rw [UInt64.toNat_mul, UInt64.toNat_ofNat, Nat.mod_eq_of_lt exactly.product, Nat.mul_comm]

/-- With a lower bound of zero nothing is ever added, so all delays are zero. -/
theorem after_zero (outcomes : List PassOutcome) : after 0 high outcomes = start 0 high := by
  induction outcomes using List.reverseRecOn with
  | nil => rfl
  | append_singleton outcomes outcome ih =>
    rw [after_append, ih]
    cases outcome with
    | failed =>
      have least : (0 : UInt64) ≤ high := UInt64.le_iff_toNat_le.mpr (Nat.zero_le _)
      simp [heed, next, start, least]
    | succeeded => rfl

/-- As long as every delay is computed exactly, the delays after failures in a row are the Fibonacci
multiples of the lower bound. -/
theorem nth_failures (ordered : low ≤ high) (exactly : ∀ outcomes, (after low high outcomes).Exact)
    (n : Nat) : Nth low high n (after low high (List.replicate n .failed)) := by
  induction n with
  | zero => exact nth_start ordered
  | succ n ih =>
    rw [List.replicate_succ', after_append]
    exact ih.next (exactly _).sum

/-- A lower bound that is not zero has multiples by Fibonacci numbers beyond any upper bound, so in
the end the delays are the upper bound. -/
theorem exists_current_eq (positive : low ≠ 0) (ordered : low ≤ high)
    (exactly : ∀ outcomes, (after low high outcomes).Exact) :
    ∃ outcomes, (after low high outcomes).current = high := by
  refine ⟨List.replicate high.toNat .failed, UInt64.toNat_inj.mp ?_⟩
  rw [(nth_failures ordered exactly high.toNat).current]
  refine Nat.min_eq_right ?_
  have fib : high.toNat ≤ Nat.fib (high.toNat + 1) := by
    have := Nat.le_fib_add_one (high.toNat + 1)
    omega
  have least : 1 ≤ low.toNat :=
    Nat.one_le_iff_ne_zero.mpr fun zero => positive (UInt64.toNat_inj.mp zero)
  calc
    high.toNat ≤ Nat.fib (high.toNat + 1) := fib
    _ = Nat.fib (high.toNat + 1) * 1 := (Nat.mul_one _).symm
    _ ≤ Nat.fib (high.toNat + 1) * low.toNat := Nat.mul_le_mul_left _ least

/-- The bounds for which every delay is computed exactly and keeps to the upper bound. -/
theorem exact_and_le_iff :
    (∀ outcomes, (after low high outcomes).Exact ∧
        (after low high outcomes).seconds.toNat ≤ 60 * high.toNat) ↔
      low = 0 ∨ low ≤ high ∧ 60 * high.toNat < 2 ^ 64 := by
  constructor
  · intro safe
    by_cases zero : low = 0
    · exact Or.inl zero
    · have first : (start low high).Exact ∧ (start low high).seconds.toNat ≤ 60 * high.toNat :=
        safe []
      have ordered : low ≤ high := by
        have bounded := first.1.toNat_seconds ▸ first.2
        exact UInt64.le_iff_toNat_le.mpr (Nat.le_of_mul_le_mul_left bounded (by decide))
      obtain ⟨outcomes, reached⟩ :=
        exists_current_eq zero ordered fun outcomes => (safe outcomes).1
      have product := (safe outcomes).1.product
      rw [reached, Nat.mul_comm] at product
      exact Or.inr ⟨ordered, product⟩
  · rintro (rfl | ⟨ordered, small⟩) outcomes
    · rw [after_zero]
      exact ⟨⟨by simp [start], by simp [start]⟩, Nat.zero_le _⟩
    · have nth := nth_after ordered small outcomes
      refine ⟨⟨nth.product_lt small, nth.sum_lt small⟩, ?_⟩
      rw [nth.toNat_seconds small]
      exact Nat.mul_le_mul_left 60 cappedFib_le

end Backoff

/-! ### The settings -/

namespace Settings

/-- Whatever has become of the passes over any gateways, the delay that follows from one more
failure is computed without leaving the words, and it is at most the upper bound. -/
def DelaysSafe (s : Settings) : Prop :=
  ∀ log key,
    let ledger := FailureLedger.after s.backoffMinMinutes s.backoffMaxMinutes log
    (ledger.record s.backoffMinMinutes s.backoffMaxMinutes key).backoff.Exact ∧
      (ledger.fail s.backoffMinMinutes s.backoffMaxMinutes key).1.seconds.toNat ≤
        60 * s.backoffMaxMinutes.toNat

/-- A variable that holds a written word is read as that word. -/
theorem toUInt64_read {e : Environment} {name : String} {n : UInt64} (default : Nat)
    (found : e.get? name = some (toString n.toNat)) :
    (e.read name Text.readUnsigned64 default).toUInt64 = n := by
  have word : n.toNat < twoTo 64 := UInt64.toNat_lt n
  unfold Environment.read
  rw [found, Option.map_some, Text.readUnsigned64_toString word]
  exact UInt64.ofNat_toNat

/-- An environment may ask for any two bounds. -/
theorem exists_environment (low high : UInt64) : ∃ e : Environment,
    (ofEnvironment e).backoffMinMinutes = low ∧ (ofEnvironment e).backoffMaxMinutes = high := by
  refine ⟨Dict.ofList [("BACKOFF_MIN_MINUTES", toString low.toNat),
    ("BACKOFF_MAX_MINUTES", toString high.toNat)], toUInt64_read 1 ?_, toUInt64_read 10 ?_⟩
  · rw [Dict.ofList_eq_insertAll, Dict.insertAll_cons, Dict.insertAll_cons, Dict.insertAll_nil,
      Dict.get?_insert_of_ne _ (by decide), Dict.get?_insert_self]
  · rw [Dict.ofList_eq_insertAll, Dict.insertAll_cons, Dict.insertAll_cons, Dict.insertAll_nil,
      Dict.get?_insert_self]

variable {s : Settings}

theorem delaysSafe_iff_forall_outcomes : s.DelaysSafe ↔ ∀ outcomes,
    (Backoff.after s.backoffMinMinutes s.backoffMaxMinutes outcomes).Exact ∧
      (Backoff.after s.backoffMinMinutes s.backoffMaxMinutes outcomes).seconds.toNat ≤
        60 * s.backoffMaxMinutes.toNat := by
  unfold DelaysSafe
  simp only [FailureLedger.fail_fst, FailureLedger.record_after, FailureRecord.retry,
    FailureRecord.backoff_after]
  constructor
  · intro safe outcomes
    have under := safe (outcomes.map ("", ·)) ""
    rwa [FailureLedger.outcomesUnder_map] at under
  · intro safe log key
    exact safe _

/-- **The settings with which the delays are safe.**  Whatever passes fail and succeed, every delay
is computed without leaving the words and is at most the upper bound exactly if the lower bound is
at most the upper one and that is a word in seconds as well, or if the lower bound is zero.  No two
bounds are refused, by `exists_environment`. -/
theorem delaysSafe_iff (e : Environment) :
    (ofEnvironment e).DelaysSafe ↔
      (ofEnvironment e).backoffMinMinutes = 0 ∨
        (ofEnvironment e).backoffMinMinutes ≤ (ofEnvironment e).backoffMaxMinutes ∧
          60 * (ofEnvironment e).backoffMaxMinutes.toNat < 2 ^ 64 :=
  delaysSafe_iff_forall_outcomes.trans Backoff.exact_and_le_iff

/-- With bounds in the wrong order already the first delay exceeds the upper one. -/
theorem reversed_bounds_unsafe :
    let s := ofEnvironment
      (Dict.ofList [("BACKOFF_MIN_MINUTES", "5"), ("BACKOFF_MAX_MINUTES", "3")])
    s.backoffMaxMinutes = 3 ∧
      (FailureLedger.fail s.backoffMinMinutes s.backoffMaxMinutes "apps/edge" ∅).1.seconds = 300 ∧
      ¬s.DelaysSafe := by
  intro s
  have first : (FailureLedger.fail s.backoffMinMinutes s.backoffMaxMinutes "apps/edge"
      ∅).1.seconds = 300 := by
    decide +kernel
  have upper : s.backoffMaxMinutes = 3 := by decide +kernel
  refine ⟨upper, first, fun safe => ?_⟩
  have bounded := (safe [] "apps/edge").2
  rw [upper] at bounded
  revert bounded
  decide +kernel

end Settings

end GatewayOperator
