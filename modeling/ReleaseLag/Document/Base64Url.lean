import ReleaseLag.Decimal

/-!
# `ReleaseLag.Document.Base64Url`: bytes in sixty-four symbols

Three bytes are written as four symbols of the alphabet that is safe in
addresses, without padding at the end. Reading accepts what writing produces
and nothing else: no padding, no bits beyond the last byte. A fault names the
byte of the text it was met at.
-/

set_option autoImplicit false

namespace ReleaseLag.Document.Base64Url

/-- The symbol of a number below 64. -/
def symbol (n : Nat) : Char :=
  if n < 26 then Char.ofNat (n + 65)
  else if n < 52 then Char.ofNat (n + 71)
  else if n < 62 then Char.ofNat (n - 4)
  else if n = 62 then '-'
  else '_'

/-- The number that a byte stands for as a symbol. -/
def value? (b : UInt8) : Option Nat :=
  let n := b.toNat
  if 65 ≤ n ∧ n ≤ 90 then some (n - 65)
  else if 97 ≤ n ∧ n ≤ 122 then some (n - 71)
  else if 48 ≤ n ∧ n ≤ 57 then some (n + 4)
  else if n = 45 then some 62
  else if n = 95 then some 63
  else none

/-- The byte of the padding sign. -/
def padding : UInt8 := 0x3D

/-- The bytes written in symbols. -/
def encode : Bytes → Text
  | a :: b :: c :: rest =>
    symbol (a.toNat / 4) :: symbol (a.toNat % 4 * 16 + b.toNat / 16)
      :: symbol (b.toNat % 16 * 4 + c.toNat / 64) :: symbol (c.toNat % 64) :: encode rest
  | [a, b] =>
    [symbol (a.toNat / 4), symbol (a.toNat % 4 * 16 + b.toNat / 16), symbol (b.toNat % 16 * 4)]
  | [a] => [symbol (a.toNat / 4), symbol (a.toNat % 4 * 16)]
  | [] => []

/-- Why a text is not bytes in symbols. -/
inductive Fault
  | symbol (byte : UInt8) (offset : Nat)
  | length (length : Nat)
  | lastSymbol (byte : UInt8) (offset : Nat)
  | padding
  deriving DecidableEq, Repr

def Fault.message : Fault → String
  | symbol byte offset =>
    "Invalid symbol " ++ String.ofList (Decimal.ofNat byte.toNat) ++ ", offset "
      ++ String.ofList (Decimal.ofNat offset) ++ "."
  | length n => "Invalid input length: " ++ String.ofList (Decimal.ofNat n)
  | lastSymbol byte offset =>
    "Invalid last symbol " ++ String.ofList (Decimal.ofNat byte.toNat) ++ ", offset "
      ++ String.ofList (Decimal.ofNat offset) ++ "."
  | padding => "Invalid padding"

/-- The value of the byte at an offset. -/
def valueAt (byte : UInt8) (offset : Nat) : Except Fault Nat :=
  match value? byte with
  | some n => .ok n
  | none => .error (.symbol byte offset)

/-- The symbols of the last group up to its padding, with the offset the
group begins at. Padding may not begin before the third place, and nothing
else may follow it. The second part says where the padding begins. -/
def lastSymbols (start : Nat) :
    Nat → Option Nat → Bytes → Except Fault (List (UInt8 × Nat) × Option Nat)
  | _, padded, [] => .ok ([], padded)
  | index, padded, b :: rest =>
    if b = padding then
      if index < 2 then .error (.symbol b (start + index))
      else lastSymbols start (index + 1) (some (padded.getD index)) rest
    else
      match padded with
      | some first => .error (.symbol padding (start + first))
      | none => do
        let n ← valueAt b (start + index)
        let (symbols, padded) ← lastSymbols start (index + 1) none rest
        return ((b, n) :: symbols, padded)

/-- The bytes of the last group, which holds two to four symbols or is the
empty end of an empty text. -/
def decodeLast (start : Nat) (group : Bytes) : Except Fault Bytes := do
  let (symbols, padded) ← lastSymbols start 0 none group
  if !group.isEmpty && symbols.length < 2 then
    throw (.length (start + symbols.length))
  if padded.isSome then
    throw .padding
  match symbols with
  | [(_, a), (y, b)] =>
    if b % 16 ≠ 0 then throw (.lastSymbol y (start + 1))
    return [UInt8.ofNat (a * 4 + b / 16)]
  | [(_, a), (_, b), (z, c)] =>
    if c % 4 ≠ 0 then throw (.lastSymbol z (start + 2))
    return [UInt8.ofNat (a * 4 + b / 16), UInt8.ofNat (b % 16 * 16 + c / 4)]
  | [(_, a), (_, b), (_, c), (_, d)] =>
    return [UInt8.ofNat (a * 4 + b / 16), UInt8.ofNat (b % 16 * 16 + c / 4),
      UInt8.ofNat (c % 4 * 64 + d)]
  | _ => return []

/-- The bytes of a text from an offset on: groups of four, then the last
group. -/
def decodeFrom (start : Nat) : Bytes → Except Fault Bytes
  | a :: b :: c :: d :: e :: rest => do
    let a ← valueAt a start
    let b ← valueAt b (start + 1)
    let c ← valueAt c (start + 2)
    let d ← valueAt d (start + 3)
    let decoded ← decodeFrom (start + 4) (e :: rest)
    return UInt8.ofNat (a * 4 + b / 16) :: UInt8.ofNat (b % 16 * 16 + c / 4)
      :: UInt8.ofNat (c % 4 * 64 + d) :: decoded
  | group => decodeLast start group

/-- A single byte left over after all groups of four, if it is no symbol and
no padding. It is looked at before everything else. -/
def strayEnd? (text : Bytes) : Option Fault :=
  match text.getLast? with
  | some b =>
    if text.length % 4 = 1 ∧ b ≠ padding ∧ (value? b).isNone then
      some (.symbol b (text.length - 1))
    else none
  | none => none

/-- The bytes that a text in UTF-8 stands for. -/
def decode (text : Bytes) : Except Fault Bytes :=
  match strayEnd? text with
  | some fault => .error fault
  | none => decodeFrom 0 text

end ReleaseLag.Document.Base64Url
