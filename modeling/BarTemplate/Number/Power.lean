/-!
# Powers

Powers of two and of ten, and quotients over a power whose exponent may be negative.
-/

namespace BarTemplate

/-- Two to a power. -/
def twoTo (n : Nat) : Nat := Nat.pow 2 n

/-- Ten to a power. -/
def tenTo (n : Nat) : Nat := Nat.pow 10 n

/-- A quotient over an integral power, as a numerator and a denominator, where `power` gives the natural powers. -/
def overPower (power : Nat → Nat) (n d : Nat) (exponent : Int) : Nat × Nat :=
  if 0 ≤ exponent then (n, d * power exponent.toNat) else (n * power (-exponent).toNat, d)

end BarTemplate
