import ReleaseLag.Hexadecimal
import ReleaseLag.Text.Utf8

/-!
# `ReleaseLag.Connection.Percent`: bytes behind percent signs

Parts of an address write a byte as a percent sign and two hexadecimal
digits. A percent sign with anything else behind it stands for itself.
-/

set_option autoImplicit false

namespace ReleaseLag.Connection.Percent

/-- The byte that two hexadecimal digits stand for. -/
def byte? (high low : UInt8) : Option UInt8 := do
  return UInt8.ofNat ((← Hexadecimal.byteValue? high) * 16 + (← Hexadecimal.byteValue? low))

/-- The bytes with those behind percent signs in their place. -/
def decode : Bytes → Bytes
  | 0x25 :: high :: low :: rest =>
    match byte? high low with
    | some b => b :: decode rest
    | none => 0x25 :: decode (high :: low :: rest)
  | b :: rest => b :: decode rest
  | [] => []

/-- The bytes that a text stands for. -/
def bytes (s : Text) : Bytes :=
  decode (Text.utf8 s)

/-- The text that a text stands for, if the bytes behind its percent signs
spell one. -/
def text (s : Text) : Except Text.Utf8.Fault Text :=
  Text.Utf8.decode (bytes s)

/-- The text that a word of a form stands for: plus signs are spaces, and
faulty bytes are replaced. -/
def formText (s : Text) : Text :=
  Text.Utf8.lossy (bytes (s.map fun c => if c = '+' then ' ' else c))

end ReleaseLag.Connection.Percent
