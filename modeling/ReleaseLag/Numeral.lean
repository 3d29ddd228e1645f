import ReleaseLag.Text.Basic

/-!
# `ReleaseLag.Numeral`: numbers of a given width

A number is a sign, which may be missing, and at least one digit. Digits are
judged from the left: the first that is none, or that makes the number too
large, is the fault.
-/

set_option autoImplicit false

namespace ReleaseLag.Numeral

/-- Why a text is no number of its width. -/
inductive Fault
  | empty
  | badDigit
  | tooLarge
  | tooSmall
  deriving DecidableEq, Repr

def Fault.message : Fault → String
  | empty => "cannot parse integer from empty string"
  | badDigit => "invalid digit found in string"
  | tooLarge => "number too large to fit in target type"
  | tooSmall => "number too small to fit in target type"

/-- The number of digits, after digits that stand for `n`. -/
def digits (limit : Nat) (excess : Fault) (n : Nat) : Text → Except Fault Nat
  | [] => .ok n
  | c :: rest =>
    if !c.isDigit then .error .badDigit
    else
      let m := n * 10 + (c.toNat - '0'.toNat)
      if limit < m then .error excess else digits limit excess m rest

/-- The number of a non-empty run of digits. -/
def magnitude (limit : Nat) (excess : Fault) : Text → Except Fault Nat
  | [] => .error .badDigit
  | run => digits limit excess 0 run

/-- A number of 64 bits with a sign. -/
def signed : Text → Except Fault Int
  | [] => .error .empty
  | '-' :: run => (magnitude 9223372036854775808 .tooSmall run).map fun n => -(n : Int)
  | '+' :: run => (magnitude 9223372036854775807 .tooLarge run).map fun n => (n : Int)
  | run => (magnitude 9223372036854775807 .tooLarge run).map fun n => (n : Int)

/-- A number up to a limit. A minus sign is no digit of one. -/
def unsigned (limit : Nat) : Text → Except Fault Nat
  | [] => .error .empty
  | '+' :: run => magnitude limit .tooLarge run
  | run => magnitude limit .tooLarge run

end ReleaseLag.Numeral
