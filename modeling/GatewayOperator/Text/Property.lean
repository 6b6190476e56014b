/-!
# Character properties

A property of characters holds on ranges of code points.  It is kept as the ascending list of the
code points at which it begins or ceases to hold.

## Main Definitions

* `Text.Property` — such a list.
* `Text.Property.holds` — whether a character has the property.
-/

namespace GatewayOperator.Text

/-- The code points at which a property begins or ceases to hold, ascending. -/
structure Property where
  /-- The code points. -/
  turns : List Nat

/-- Whether an odd number of turns is at or before a code point. -/
def Property.holdsAt (p : Property) (codePoint : Nat) : Bool :=
  (p.turns.takeWhile (· ≤ codePoint)).length % 2 = 1

/-- Whether a character has the property. -/
def Property.holds (p : Property) (c : Char) : Bool := p.holdsAt c.toNat

end GatewayOperator.Text
