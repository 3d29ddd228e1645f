/-!
# `ReleaseLag.Double`: which numbers a double can hold

A double holds whole numbers of 53 significant bits, scaled by powers of two
below `2^1024`. Nothing is computed with doubles here; the one question is
whether a number in decimal notation is too large for them. It has two
answers: `exceeds` rounds the exact number once, and `exceedsScaled` rounds
the significand, the power of ten and their product each for itself, as
readers do that multiply doubles.
-/

set_option autoImplicit false

namespace ReleaseLag.Double

/-- The least whole number that is rounded beyond every double: the middle
between the largest of them and `2^1024`. -/
def bound : Nat :=
  Nat.pow 2 1024 - Nat.pow 2 970

/-- The nearest whole multiple of a unit. Between two that are equally near
the even multiple is taken. -/
def roundTo (unit n : Nat) : Nat :=
  let below := n / unit
  let remainder := 2 * (n % unit)
  if remainder < unit ∨ remainder = unit ∧ below % 2 = 0 then below * unit else (below + 1) * unit

/-- The nearest whole number of at most 53 significant bits. -/
def nearest (n : Nat) : Nat :=
  roundTo (Nat.pow 2 (n.log2 + 1 - 53)) n

/-- Whether `mantissa · 10^exponent` is rounded beyond every double, for a
mantissa of so many digits. The number of digits decides wherever it can, so
that no power grows beyond need. -/
def exceeds (digits mantissa : Nat) (exponent : Int) : Bool :=
  let magnitude : Int := digits + exponent
  if mantissa = 0 then false
  else if 310 < magnitude then true
  else if magnitude < 300 then false
  else if 0 ≤ exponent then bound ≤ mantissa * Nat.pow 10 exponent.toNat
  else bound * Nat.pow 10 (-exponent).toNat ≤ mantissa

/-- Whether the product of the doubles nearest to a significand and to a power
of ten is beyond every double. Division never leads there, and no double is
near a power of ten above the 308th. -/
def exceedsScaled (significand : Nat) (exponent : Int) : Bool :=
  if significand = 0 ∨ exponent < 0 then false
  else if 308 < exponent then true
  else bound ≤ nearest significand * nearest (Nat.pow 10 exponent.toNat)

end ReleaseLag.Double
