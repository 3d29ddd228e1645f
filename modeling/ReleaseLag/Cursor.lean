import ReleaseLag.Document.Base64Url
import ReleaseLag.Document.Json

/-!
# `ReleaseLag.Cursor`: page tokens

A page token holds the instant that the page before ended at. It is a JSON
record of a version, seconds and nanoseconds, written without blanks and in
that order, in URL-safe base64. Reading accepts exactly the tokens that
writing produces: a token that spells the same record in another way is
refused by writing the instant again and comparing.
-/

set_option autoImplicit false

namespace ReleaseLag.Cursor

open Document

/-- The version written into every token. -/
def version : Nat := 1

/-- Why a text is not a page token, or not one for the request at hand. -/
inductive Fault
  | encoding (fault : Base64Url.Fault)
  | document (mismatch : Mismatch)
  | version (found : Int)
  | outOfRange (secs nanos : Int)
  | notCanonical
  | outsideWindow
  deriving DecidableEq, Repr

def Fault.message : Fault → String
  | encoding fault => "not a page token: " ++ fault.message
  | document mismatch => "malformed page token: " ++ mismatch.message
  | version found => "unsupported page token version " ++ String.ofList (Decimal.ofInt found)
  | outOfRange secs nanos =>
    "release date " ++ String.ofList (Decimal.ofInt secs) ++ "s+"
      ++ String.ofList (Decimal.ofInt nanos) ++ "ns is out of range"
  | notCanonical => "page token is not canonical"
  | outsideWindow => "page token lies outside the requested window"

/-- The record inside a token. -/
def shape : Json.Shape where
  name := "CursorDocument"
  fields := [(['v'], .integer .u8), (['s', 'e', 'c', 's'], .integer .i64),
    (['n', 'a', 'n', 'o', 's'], .integer .u32)]
  closed := true

/-- The record of an instant as JSON. -/
def record (t : Instant) : Text :=
  "\x7b\"v\":".toList ++ Decimal.ofNat version ++ ",\"secs\":".toList ++ Decimal.ofInt t.secs
    ++ ",\"nanos\":".toList ++ Decimal.ofNat t.nanos ++ ['}']

/-- The token of an instant. -/
def encode (t : Instant) : Text :=
  Base64Url.encode (Text.utf8 (record t))

/-- The instant of a record whose version is the one written here. -/
def instantOf : List Json.Cell → Except Fault Instant
  | [.integer v, .integer secs, .integer nanos] =>
    if v ≠ version then .error (.version v)
    else
      match Instant.ofUnix? secs nanos.toNat with
      | some t => .ok t
      | none => .error (.outOfRange secs nanos)
  | _ => .error (.document .malformed)

/-- The instant of a token. -/
def decode (token : Text) : Except Fault Instant := do
  let bytes ← (Base64Url.decode (Text.utf8 token)).mapError .encoding
  let cells ← (shape.read bytes).mapError .document
  let t ← instantOf cells
  if encode t = token then return t else throw .notCanonical

end ReleaseLag.Cursor
