/-!
# Powers of two and of ten

The bounds of integer formats are powers of two, and decimal notation is about powers of ten.

## Main Definitions

* `twoTo`, `tenTo` — the powers.
-/

namespace GatewayOperator

/-- A power of two. -/
def twoTo (n : Nat) : Nat := Nat.pow 2 n

/-- A power of ten. -/
def tenTo (n : Nat) : Nat := Nat.pow 10 n

theorem twoTo_succ (n : Nat) : twoTo (n + 1) = twoTo n * 2 := rfl

end GatewayOperator
