import ReleaseLag.Decimal

/-!
# `ReleaseLag.Text.Utf8`: text from bytes that may be faulty

Bytes fall into stretches: characters, and between them as many bytes as
could have begun one. `Utf8.decode` gives the text or the first stretch that
is no character; `Utf8.lossy` puts a replacement character for each of them.
-/

set_option autoImplicit false

namespace ReleaseLag.Text.Utf8

/-- A stretch of bytes. One that is incomplete only lacks bytes at the end. -/
inductive Stretch
  | character (c : Char) (size : Nat)
  | invalid (size : Nat)
  | incomplete (size : Nat)
  deriving DecidableEq, Repr

/-- The number of bytes of a stretch. -/
def Stretch.size : Stretch → Nat
  | character _ size => size
  | invalid size => size
  | incomplete size => size

/-- The stretch whose first `read` bytes gave the number `code`, where a byte
from each of the ranges has to follow. -/
def following (code read : Nat) : List (Nat × Nat) → Bytes → Stretch
  | [], _ => .character (Char.ofNat code) read
  | _ :: _, [] => .incomplete read
  | (low, high) :: ranges, b :: rest =>
    if low ≤ b.toNat ∧ b.toNat ≤ high then
      following (code * 64 + b.toNat % 64) (read + 1) ranges rest
    else .invalid read

/-- The bytes that may follow inside a character. -/
def anyInner : Nat × Nat :=
  (0x80, 0xBF)

/-- The bytes that may stand second. Those left out would spell a character in
more bytes than it needs, a surrogate, or no code point. -/
def second (first : Nat) : Nat × Nat :=
  if first = 0xE0 then (0xA0, 0xBF)
  else if first = 0xED then (0x80, 0x9F)
  else if first = 0xF0 then (0x90, 0xBF)
  else if first = 0xF4 then (0x80, 0x8F)
  else anyInner

/-- The stretch that begins with a byte. -/
def stretch (first : UInt8) (rest : Bytes) : Stretch :=
  let n := first.toNat
  if n < 0x80 then .character (Char.ofNat n) 1
  else if 0xC2 ≤ n ∧ n ≤ 0xDF then following (n % 32) 1 [second n] rest
  else if 0xE0 ≤ n ∧ n ≤ 0xEF then following (n % 16) 1 [second n, anyInner] rest
  else if 0xF0 ≤ n ∧ n ≤ 0xF4 then following (n % 8) 1 [second n, anyInner, anyInner] rest
  else .invalid 1

/-- The stretches of bytes. Each has a byte at least, so the fuel, the number
of bytes, never runs out. -/
def stretches (bytes : Bytes) : List Stretch :=
  go bytes.length bytes
where
  go : Nat → Bytes → List Stretch
    | 0, _ => []
    | _ + 1, [] => []
    | fuel + 1, first :: rest =>
      let s := stretch first rest
      s :: go fuel (rest.drop (s.size - 1))

/-- Why bytes spell no text: the stretch at a place is no character. -/
inductive Fault
  | invalid (size place : Nat)
  | incomplete (place : Nat)
  deriving DecidableEq, Repr

def Fault.message : Fault → String
  | invalid size place =>
    "invalid utf-8 sequence of " ++ String.ofList (Decimal.ofNat size) ++ " bytes from index "
      ++ String.ofList (Decimal.ofNat place)
  | incomplete place =>
    "incomplete utf-8 byte sequence from index " ++ String.ofList (Decimal.ofNat place)

/-- The text of stretches whose first one begins at a place. -/
def spell (place : Nat) : List Stretch → Except Fault Text
  | [] => .ok []
  | .character c size :: later => do return c :: (← spell (place + size) later)
  | .invalid size :: _ => .error (.invalid size place)
  | .incomplete _ :: _ => .error (.incomplete place)

/-- The text that bytes spell, or the first stretch that is no character. -/
def decode (bytes : Bytes) : Except Fault Text :=
  spell 0 (stretches bytes)

/-- The character that is put for a stretch. -/
def Stretch.shown : Stretch → Char
  | character c _ => c
  | invalid _ => '\uFFFD'
  | incomplete _ => '\uFFFD'

/-- The text of bytes with replacement characters where they spell none. -/
def lossy (bytes : Bytes) : Text :=
  (stretches bytes).map Stretch.shown

end ReleaseLag.Text.Utf8
