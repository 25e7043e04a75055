/-!
# Powers and words

Powers of two and ten, by which numbers are scaled, and the numbers that words of so many bits can
hold.
-/

namespace FleetScaling.Decimal

/-- A power of two. -/
def twoPow (n : Nat) : Nat := Nat.pow 2 n

/-- A power of ten. -/
def tenPow (n : Nat) : Nat := Nat.pow 10 n

/-- The largest number of so many bits. -/
def largest (bits : Nat) : Nat := twoPow bits - 1

/-- Whether a word with a sign and so many other bits can hold a number. -/
def fitsSigned (bits : Nat) (n : Int) : Bool := -(twoPow bits : Int) ≤ n && n < twoPow bits

end FleetScaling.Decimal
