import ReleaseLag.Decimal
import ReleaseLag.Hexadecimal
import ReleaseLag.Text.Pair
import ReleaseLag.Text.Split

/-!
# `ReleaseLag.Connection.Address`: numeric addresses

An address of 32 bits is four octets between dots, one of 128 bits eight
groups of up to four hexadecimal digits between colons. A pair of colons
stands for the groups that are missing, and an address of 32 bits for the last
two.

The lenient form of an address of 32 bits has up to four numbers, also in
octal or hexadecimal digits, the last of which fills all bits that are left.
-/

set_option autoImplicit false

namespace ReleaseLag.Connection.Address

/-! ### Strict addresses -/

/-- A number below 256 in no more digits than needed. -/
def isOctet (s : Text) : Bool :=
  s = Decimal.ofNat (Decimal.value s) && Decimal.value s ≤ 255

/-- Four octets between dots. -/
def isDotted (s : Text) : Bool :=
  let octets := Text.pieces '.' s
  octets.length = 4 && octets.all isOctet

/-- One to four hexadecimal digits. -/
def isGroup (s : Text) : Bool :=
  1 ≤ s.length && s.length ≤ 4 && s.all Hexadecimal.isDigit

/-- The number of groups that the pieces between colons stand for. The last of
them may be an address of 32 bits where `dotted` says so. -/
def groups? (dotted : Bool) : List Text → Option Nat
  | [] => some 0
  | [s] => if isGroup s then some 1 else if dotted && isDotted s then some 2 else none
  | s :: rest => if isGroup s then (groups? dotted rest).map (· + 1) else none

/-- The number of groups at one side of a pair of colons. -/
def side? (dotted : Bool) (s : Text) : Option Nat :=
  if s.isEmpty then some 0 else groups? dotted (Text.pieces ':' s)

/-- Eight groups between colons, fewer with one pair of colons among them. -/
def isGrouped (s : Text) : Bool :=
  match Text.cutPair ':' s with
  | none => groups? true (Text.pieces ':' s) = some 8
  | some (before, after) =>
    match side? false before, side? true after with
    | some m, some n => m + n ≤ 7
    | _, _ => false

/-- An address of either width. -/
def isAddress (s : Text) : Bool :=
  isDotted s || isGrouped s

/-! ### Lenient addresses -/

/-- The number of octal digits. -/
def octal? (digits : Text) : Option Nat :=
  if digits.all fun c => '0' ≤ c && c ≤ '7' then
    some (digits.foldl (fun n c => n * 8 + (c.toNat - '0'.toNat)) 0)
  else none

/-- A number in hexadecimal digits after its mark, in octal digits after a
zero, or in decimal digits. A mark alone is zero. -/
def number? : Text → Option Nat
  | [] => none
  | '0' :: 'x' :: digits => Hexadecimal.number? digits
  | '0' :: 'X' :: digits => Hexadecimal.number? digits
  | '0' :: c :: digits => octal? (c :: digits)
  | digits => if digits.all Char.isDigit then some (Decimal.value digits) else none

/-- The pieces of a host name between dots. A dot at the end ends the last
piece and begins none. -/
def labels (s : Text) : List Text :=
  let pieces := Text.pieces '.' s
  if pieces.length ≠ 1 ∧ pieces.getLast? = some [] then pieces.dropLast else pieces

/-- Whether a host name has to be an address: its last piece is a number, or
would be one if octal digits went up to nine. -/
def endsInNumber (s : Text) : Bool :=
  match (labels s).getLast? with
  | some label => !label.isEmpty && (label.all Char.isDigit || (number? label).isSome)
  | none => false

/-- The number of 32 bits that an address in the lenient form stands for. -/
def lenient? (s : Text) : Option Nat := do
  let numbers ← (labels s).mapM number?
  let octets := numbers.dropLast
  let last := numbers.getLastD 0
  let left := Nat.pow 256 (4 - octets.length)
  if octets.length ≤ 3 && octets.all (· ≤ 255) && last < left then
    return octets.foldl (fun n octet => n * 256 + octet) 0 * left + last
  else none

/-- A number of 32 bits as an address. -/
def dotted (n : Nat) : Text :=
  Decimal.ofNat (n / 16777216 % 256) ++ '.' :: Decimal.ofNat (n / 65536 % 256)
    ++ '.' :: Decimal.ofNat (n / 256 % 256) ++ '.' :: Decimal.ofNat (n % 256)

end ReleaseLag.Connection.Address
