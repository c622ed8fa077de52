/-!
# Ranges of integers

The integers that a number of bits can hold, with a sign or without one.
-/

namespace TypedTables.Number

/-- The integers between two bounds, both included. -/
structure IntRange where
  low : Int
  high : Int
  deriving Repr, DecidableEq

def powerOfTwo (exponent : Nat) : Nat :=
  Nat.pow 2 exponent

namespace IntRange

def contains (range : IntRange) (value : Int) : Bool :=
  range.low ≤ value && value ≤ range.high

/-- The integers that bits of which one is the sign can hold. -/
def signed (bits : Nat) : IntRange :=
  ⟨-Int.ofNat (powerOfTwo (bits - 1)), Int.ofNat (powerOfTwo (bits - 1)) - 1⟩

def unsigned (bits : Nat) : IntRange :=
  ⟨0, Int.ofNat (powerOfTwo bits) - 1⟩

end IntRange

end TypedTables.Number
