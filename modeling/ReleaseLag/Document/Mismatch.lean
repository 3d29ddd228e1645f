import ReleaseLag.Text.Quoted
import ReleaseLag.Decimal

/-!
# `ReleaseLag.Document.Mismatch`: documents of another shape

A document is read against the shape its reader asks for. Either it is no
document of its format at all, or it is one and departs from the shape at a
first place: a key, a value or the number of elements.
-/

set_option autoImplicit false

namespace ReleaseLag.Document

/-- What stands where a value of another kind was asked for. The text of a
floating point number is never shown. -/
inductive Found
  | null
  | boolean (b : Bool)
  | integer (n : Int)
  | floating
  | string (s : Text)
  | sequence
  | map
  deriving DecidableEq, Repr

/-- The words a message uses for what was found. -/
def Found.text : Found → String
  | null => "null"
  | boolean b => "boolean `" ++ (if b then "true" else "false") ++ "`"
  | integer n => "integer `" ++ String.ofList (Decimal.ofInt n) ++ "`"
  | floating => "floating point"
  | string s => "string " ++ String.ofList (Text.quoted s)
  | sequence => "sequence"
  | map => "map"

/-- The first place where a text is not the document asked for. -/
inductive Mismatch
  | malformed
  | missingField (name : Text)
  | unknownField (name : Text) (known : List Text)
  | duplicateField (name : Text)
  | invalidType (found : Found) (expected : String)
  | invalidValue (found : Found) (expected : String)
  | invalidLength (length : Nat) (expected : String)
  deriving DecidableEq, Repr

/-- A name between backquotes. -/
def nameText (name : Text) : String :=
  "`" ++ String.ofList name ++ "`"

/-- The words for a mismatch. What makes a text malformed is not told. -/
def Mismatch.message : Mismatch → String
  | malformed => "<syntax>"
  | missingField name => "missing field " ++ nameText name
  | unknownField name known =>
    "unknown field " ++ nameText name ++ ", expected one of "
      ++ String.intercalate ", " (known.map nameText)
  | duplicateField name => "duplicate field " ++ nameText name
  | invalidType found expected => "invalid type: " ++ found.text ++ ", expected " ++ expected
  | invalidValue found expected => "invalid value: " ++ found.text ++ ", expected " ++ expected
  | invalidLength length expected =>
    "invalid length " ++ String.ofList (Decimal.ofNat length) ++ ", expected " ++ expected

/-- The openings of messages that name a mismatch. -/
def openings : List String :=
  ["missing field", "unknown field", "duplicate field", "invalid type", "invalid value",
    "invalid length"]

/-- The last line of a message, where only one line is shown. It tells
nothing if the message was broken inside a name. -/
def Mismatch.lastLine (mismatch : Mismatch) : String :=
  let message := mismatch.message.toList
  let line := String.ofList (message.reverse.takeWhile (· != '\n')).reverse
  if openings.any fun opening => opening.toList.isPrefixOf line.toList then line
  else malformed.message

/-- The range of integers that a field holds, and the word for it. -/
structure Range where
  low : Int
  high : Int
  word : String
  deriving DecidableEq, Repr

namespace Range

def u8 : Range := ⟨0, 255, "u8"⟩
def u32 : Range := ⟨0, 4294967295, "u32"⟩
def u64 : Range := ⟨0, 18446744073709551615, "u64"⟩
def i64 : Range := ⟨-9223372036854775808, 9223372036854775807, "i64"⟩

/-- Both ends belong to a range. -/
def holds (range : Range) (n : Int) : Bool :=
  range.low ≤ n && n ≤ range.high

end Range

end ReleaseLag.Document
