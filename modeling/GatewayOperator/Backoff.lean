import GatewayOperator.Dict

/-!
# Delays after failures

A gateway whose pass has failed is tried again after a delay.  The delays of a gateway grow like
the Fibonacci numbers up to a bound and start again after a success.

## Main Definitions

* `Backoff` — the delays that are still to come.
* `Backoff.next`, `Backoff.reset` — taking the next delay, and starting again.
* `FailureRecord` — the delays of one gateway, and how often it has failed in a row.
* `FailureLedger` — the records of all gateways that have ever failed.

## Design Notes

Delays are counted in machine words.  The bounds are not compared with each other: the first delay
is the lower bound even where it exceeds the upper one.
-/

namespace GatewayOperator

/-- The delays that are still to come, in minutes. -/
structure Backoff where
  /-- The first delay. -/
  min : UInt64
  /-- The delay before the next one. -/
  previous : UInt64
  /-- The next delay. -/
  current : UInt64
  /-- The greatest delay behind the first. -/
  max : UInt64
  deriving DecidableEq, Repr, Inhabited

namespace Backoff

/-- All the delays within two bounds. -/
def start (min max : UInt64) : Backoff := ⟨min, 0, min, max⟩

/-- The next delay in seconds. -/
def seconds (b : Backoff) : UInt64 := b.current * 60

/-- The delays behind the next one. -/
def next (b : Backoff) : Backoff :=
  let sum := b.previous + b.current
  { b with previous := b.current, current := if sum ≤ b.max then sum else b.max }

/-- The delays from the first one again. -/
def reset (b : Backoff) : Backoff := { b with previous := 0, current := b.min }

end Backoff

/-- The delays of one gateway, and how often it has failed in a row. -/
structure FailureRecord where
  /-- The delays that are still to come. -/
  backoff : Backoff
  /-- The number of failures since the last success. -/
  count : UInt32
  deriving DecidableEq, Repr, Inhabited

namespace FailureRecord

/-- The record of a gateway that has not failed yet. -/
def start (min max : UInt64) : FailureRecord := ⟨.start min max, 0⟩

/-- The record after one more failure. -/
def fail (r : FailureRecord) : FailureRecord := ⟨r.backoff.next, r.count + 1⟩

/-- The record after a success. -/
def succeed (r : FailureRecord) : FailureRecord := ⟨r.backoff.reset, 0⟩

end FailureRecord

/-- What follows from a failure. -/
structure Retry where
  /-- The seconds until the next attempt. -/
  seconds : UInt64
  /-- The number of failures since the last success. -/
  count : UInt32
  deriving DecidableEq, Repr, Inhabited

/-- The records of all gateways that have ever failed. -/
abbrev FailureLedger := Dict String FailureRecord

namespace FailureLedger

/-- The key of a gateway. -/
def key (namespace_ name : String) : String := namespace_ ++ "/" ++ name

/-- The ledger after a failure, and the delay that follows from it. -/
def fail (min max : UInt64) (key : String) (ledger : FailureLedger) : Retry × FailureLedger :=
  let record := (ledger.get? key).getD (.start min max)
  (⟨record.backoff.seconds, record.fail.count⟩, ledger.insert key record.fail)

/-- The ledger after a success. -/
def succeed (key : String) (ledger : FailureLedger) : FailureLedger :=
  match ledger.get? key with
  | some record => ledger.insert key record.succeed
  | none => ledger

end FailureLedger

end GatewayOperator
