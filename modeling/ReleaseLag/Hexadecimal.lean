import ReleaseLag.Text.Basic

/-!
# `ReleaseLag.Hexadecimal`: hexadecimal digits

The letters among the digits are read in either case.
-/

set_option autoImplicit false

namespace ReleaseLag.Hexadecimal

/-- The number that a character stands for as a digit. -/
def value? (c : Char) : Option Nat :=
  if c.isDigit then some (c.toNat - 48)
  else if 'a' ≤ c ∧ c ≤ 'f' then some (c.toNat - 87)
  else if 'A' ≤ c ∧ c ≤ 'F' then some (c.toNat - 55)
  else none

/-- The number that a byte stands for as a digit in ASCII. -/
def byteValue? (b : UInt8) : Option Nat :=
  value? (Char.ofNat b.toNat)

def isDigit (c : Char) : Bool :=
  (value? c).isSome

/-- The number that digits stand for, if all of them are digits. -/
def number? (digits : Text) : Option Nat :=
  digits.foldlM (fun n c => do return n * 16 + (← value? c)) 0

end ReleaseLag.Hexadecimal
