import ReleaseLag.Document.Mismatch
import ReleaseLag.Double
import ReleaseLag.Hexadecimal
import ReleaseLag.Time.Reader

/-!
# `ReleaseLag.Document.Json`: records from JSON

A record is an object with the fields of a `Shape`, in any order, or an array
of their values in the shape's order. `Shape.read` goes through the bytes
once, from the left, and the first departure from the shape or from JSON is
its answer. Bytes are only asked to be UTF-8 where a string is read.
-/

set_option autoImplicit false

namespace ReleaseLag.Document.Json

/-- The text of an ASCII word as bytes. -/
def word (s : String) : Bytes :=
  Text.utf8 s.toList

def isSpace (b : UInt8) : Bool :=
  b = 0x20 || b = 0x09 || b = 0x0A || b = 0x0D

def isDigit (b : UInt8) : Bool :=
  0x30 ≤ b && b ≤ 0x39

/-- The bytes without the white space they begin with. -/
def skipSpace (s : Bytes) : Bytes :=
  s.dropWhile isSpace

/-! ### Numbers -/

/-- A number that fits no range of integers is a floating point number, and
its value is never needed. -/
inductive Number
  | integer (n : Int)
  | floating
  deriving DecidableEq, Repr

/-- The digit of an ASCII byte. -/
def digitValue (b : UInt8) : Nat :=
  b.toNat - 0x30

/-- The number that ASCII digits stand for. -/
def digitsValue (digits : Bytes) : Nat :=
  digits.foldl (fun n b => 10 * n + digitValue b) 0

/-- The greatest unsigned number of 64 bits. -/
def significandLimit : Nat :=
  18446744073709551615

/-- Digits written behind a number as long as it stays within 64 bits, and
the digits that are left over. -/
def appendDigits (n : Nat) : Bytes → Nat × Bytes
  | [] => (n, [])
  | b :: digits =>
    if 10 * n + digitValue b ≤ significandLimit then appendDigits (10 * n + digitValue b) digits
    else (n, b :: digits)

/-- The digits before the point: a zero alone, or digits that begin with
another. -/
def wholeDigits? : Bytes → Option (Bytes × Bytes)
  | 0x30 :: rest =>
    if (rest.head?.map isDigit).getD false then none else some ([0x30], rest)
  | b :: rest =>
    if isDigit b then some (b :: rest.takeWhile isDigit, rest.dropWhile isDigit) else none
  | [] => none

/-- The digits after a point, at least one; `none` inside when there is no
point. -/
def fractionDigits? : Bytes → Option (Option Bytes × Bytes)
  | 0x2E :: rest =>
    match rest.takeWhile isDigit with
    | [] => none
    | digits => some (some digits, rest.dropWhile isDigit)
  | s => some (none, s)

/-- The exponent, with at least one digit; `none` inside when there is none. -/
def exponent? : Bytes → Option (Option Int × Bytes)
  | b :: rest =>
    if b = 0x65 ∨ b = 0x45 then
      let (negative, rest) :=
        match rest with
        | 0x2B :: rest => (false, rest)
        | 0x2D :: rest => (true, rest)
        | rest => (false, rest)
      match rest.takeWhile isDigit with
      | [] => none
      | digits =>
        let n : Int := digitsValue digits
        some (some (if negative then -n else n), rest.dropWhile isDigit)
    else some (none, b :: rest)
  | [] => some (none, [])

/-- A whole number within 64 bits keeps its value down to the least signed
number of 64 bits; minus zero is none of them. -/
def wholeNumber (negative : Bool) (n : Nat) : Number :=
  if negative then
    if 1 ≤ n ∧ n ≤ 9223372036854775808 then .integer (-n) else .floating
  else .integer n

/-- A number at the front of the bytes. Its digits make a significand of 64
bits; those left over of the whole part only scale it, and those left over of
the fraction do nothing. One too large for a double is none. -/
def number? (s : Bytes) : Option (Number × Bytes) := do
  let (negative, s) :=
    match s with
    | 0x2D :: rest => (true, rest)
    | s => (false, s)
  let (whole, s) ← wholeDigits? s
  let (fraction, s) ← fractionDigits? s
  let (exponent, s) ← exponent? s
  let (n, spilled) := appendDigits 0 whole
  match fraction, exponent, spilled with
  | none, none, [] => return (wholeNumber negative n, s)
  | _, _, _ =>
    let fraction := fraction.getD []
    let (significand, dropped) := appendDigits n fraction
    let scale : Int := spilled.length + dropped.length - fraction.length + exponent.getD 0
    if Double.exceedsScaled significand scale then none else return (.floating, s)

/-! ### Strings -/

/-- Four hexadecimal digits. -/
def unit? : Bytes → Option (Nat × Bytes)
  | a :: b :: c :: d :: rest => do
    let high := (← Hexadecimal.byteValue? a) * 16 + (← Hexadecimal.byteValue? b)
    let low := (← Hexadecimal.byteValue? c) * 16 + (← Hexadecimal.byteValue? d)
    return (high * 256 + low, rest)
  | _ => none

/-- The letter escapes. -/
def letterEscape? (b : UInt8) : Option Char :=
  if b = 0x22 then some '"'
  else if b = 0x5C then some '\\'
  else if b = 0x2F then some '/'
  else if b = 0x62 then some '\x08'
  else if b = 0x66 then some '\x0c'
  else if b = 0x6E then some '\n'
  else if b = 0x72 then some '\r'
  else if b = 0x74 then some '\t'
  else none

/-- The character of an escape whose backslash has been read. A character
beyond 16 bits is a pair of surrogates; one alone is none. -/
def escape? : Bytes → Option (Char × Bytes)
  | 0x75 :: rest => do
    let (high, rest) ← unit? rest
    if 0xDC00 ≤ high ∧ high ≤ 0xDFFF then none
    else if 0xD800 ≤ high ∧ high ≤ 0xDBFF then
      match rest with
      | 0x5C :: 0x75 :: rest =>
        let (low, rest) ← unit? rest
        if 0xDC00 ≤ low ∧ low ≤ 0xDFFF then
          return (Char.ofNat (0x10000 + (high - 0xD800) * 0x400 + (low - 0xDC00)), rest)
        else none
      | _ => none
    else return (Char.ofNat high, rest)
  | b :: rest => (letterEscape? b).map fun c => (c, rest)
  | [] => none

/-- The bytes of a string whose opening quote has been read, and what follows
its closing quote. Every step reads a byte at least, so the fuel, the number
of bytes, never runs out. -/
def stringBytes? (s : Bytes) : Option (Bytes × Bytes) :=
  go s.length s
where
  go : Nat → Bytes → Option (Bytes × Bytes)
    | _, [] => none
    | 0, _ :: _ => none
    | fuel + 1, b :: rest =>
      if b = 0x22 then some ([], rest)
      else if b = 0x5C then do
        let (c, rest) ← escape? rest
        let (bytes, rest) ← go fuel rest
        return (String.utf8EncodeChar c ++ bytes, rest)
      else if b < 0x20 then none
      else (go fuel rest).map fun (bytes, rest) => (b :: bytes, rest)

/-- The text of a string whose opening quote has been read. -/
def string? (s : Bytes) : Option (Text × Bytes) := do
  let (bytes, rest) ← stringBytes? s
  return (← Text.ofUtf8? bytes, rest)

/-! ### Values that are passed over -/

/-- What follows a string that is passed over. Escapes have to be spelled
right but need not stand for a character. -/
def skipString? (s : Bytes) : Option Bytes :=
  go s.length s
where
  go : Nat → Bytes → Option Bytes
    | _, [] => none
    | 0, _ :: _ => none
    | fuel + 1, b :: rest =>
      if b = 0x22 then some rest
      else if b = 0x5C then
        match rest with
        | 0x75 :: rest => (unit? rest).bind fun (_, rest) => go fuel rest
        | e :: rest => (letterEscape? e).bind fun _ => go fuel rest
        | [] => none
      else if b < 0x20 then none
      else go fuel rest

/-- What follows a number that is passed over, of any size. -/
def skipNumber? (s : Bytes) : Option Bytes := do
  let s :=
    match s with
    | 0x2D :: rest => rest
    | s => s
  let (_, s) ← wholeDigits? s
  let (_, s) ← fractionDigits? s
  let (_, s) ← exponent? s
  return s

/-- What follows a word at the front. -/
def dropWord? (w s : Bytes) : Option Bytes :=
  if w.isPrefixOf s then some (s.drop w.length) else none

mutual

/-- What follows a value of any kind. -/
def skipValue? : Nat → Bytes → Option Bytes
  | 0, _ => none
  | fuel + 1, s =>
    match skipSpace s with
    | [] => none
    | b :: rest =>
      if b = 0x22 then skipString? rest
      else if b = 0x5B then
        match skipSpace rest with
        | 0x5D :: rest => some rest
        | rest => skipElements? fuel rest
      else if b = 0x7B then
        match skipSpace rest with
        | 0x7D :: rest => some rest
        | rest => skipMembers? fuel rest
      else if b = 0x6E then dropWord? (word "ull") rest
      else if b = 0x74 then dropWord? (word "rue") rest
      else if b = 0x66 then dropWord? (word "alse") rest
      else skipNumber? (b :: rest)

/-- What follows the elements of an array that has some. -/
def skipElements? : Nat → Bytes → Option Bytes
  | 0, _ => none
  | fuel + 1, s => do
    match skipSpace (← skipValue? fuel s) with
    | 0x2C :: rest => skipElements? fuel rest
    | 0x5D :: rest => some rest
    | _ => none

/-- What follows the members of an object that has some. -/
def skipMembers? : Nat → Bytes → Option Bytes
  | 0, _ => none
  | fuel + 1, s =>
    match skipSpace s with
    | 0x22 :: rest => do
      match skipSpace (← skipString? rest) with
      | 0x3A :: rest =>
        match skipSpace (← skipValue? fuel rest) with
        | 0x2C :: rest => skipMembers? fuel rest
        | 0x7D :: rest => some rest
        | _ => none
      | _ => none
    | _ => none

end

/-! ### Records -/

/-- The kinds of value a field can ask for. -/
inductive Kind
  | integer (range : Range)
  | instant

/-- The values of fields. -/
inductive Cell
  | integer (n : Int)
  | instant (t : Instant)

/-- The fields of a record in order, what messages call the record, and
whether it may have no other fields. -/
structure Shape where
  name : String
  fields : List (Text × Kind)
  closed : Bool

/-- Turns the absence of a well-formed text into the mismatch it is. -/
def wellFormed {α : Type} : Option α → Except Mismatch α
  | some a => .ok a
  | none => .error .malformed

/-- The mismatch of a value that stands where another kind was asked for. It
has to be well-formed as far as its kind shows. -/
def wrongKind (s : Bytes) (expected : String) : Mismatch :=
  let invalid (found : Option Found) :=
    match found with
    | some found => .invalidType found expected
    | none => .malformed
  match s with
  | [] => .malformed
  | b :: rest =>
    if b = 0x22 then invalid ((string? rest).map fun (t, _) => .string t)
    else if b = 0x5B then .invalidType .sequence expected
    else if b = 0x7B then .invalidType .map expected
    else if b = 0x6E then invalid ((dropWord? (word "ull") rest).map fun _ => .null)
    else if b = 0x74 then invalid ((dropWord? (word "rue") rest).map fun _ => .boolean true)
    else if b = 0x66 then invalid ((dropWord? (word "alse") rest).map fun _ => .boolean false)
    else invalid ((number? s).map fun (n, _) =>
      match n with
      | .integer n => .integer n
      | .floating => .floating)

/-- A value for a field, after white space. -/
def value (kind : Kind) (s : Bytes) : Except Mismatch (Cell × Bytes) :=
  let s := skipSpace s
  match kind with
  | .integer range =>
    match number? s with
    | some (.integer n, rest) =>
      if range.holds n then .ok (.integer n, rest)
      else .error (.invalidValue (.integer n) range.word)
    | _ => .error (wrongKind s range.word)
  | .instant =>
    match s with
    | 0x22 :: rest => do
      let (text, rest) ← wellFormed (string? rest)
      return (.instant (← wellFormed (Time.lenient? text)), rest)
    | _ => .error (wrongKind s "an RFC 3339 formatted date and time string")

/-- The values of an array's elements, one for each kind; `done` were read
before. -/
def elements (expected : String) :
    List Kind → Nat → Bytes → Except Mismatch (List Cell × Bytes)
  | [], _, s =>
    match skipSpace s with
    | 0x5D :: rest => .ok ([], rest)
    | _ => .error .malformed
  | kind :: kinds, done, s => do
    let s ←
      match skipSpace s with
      | 0x5D :: _ => .error (.invalidLength done expected)
      | 0x2C :: rest =>
        if done = 0 then .error .malformed
        else
          match skipSpace rest with
          | 0x5D :: _ => .error .malformed
          | rest => .ok rest
      | rest => if done = 0 then .ok rest else .error .malformed
    let (cell, s) ← value kind s
    let (cells, s) ← elements expected kinds (done + 1) s
    return (cell :: cells, s)

/-- The values of all fields in order, or the first that is missing. -/
def collect (found : List (Text × Cell)) : List (Text × Kind) → Except Mismatch (List Cell)
  | [] => .ok []
  | (name, _) :: fields =>
    match found.lookup name with
    | none => .error (.missingField name)
    | some cell => do return cell :: (← collect found fields)

/-- A member's key, with the comma that has to divide it from the member
before. -/
def key? (first : Bool) (s : Bytes) : Option (Text × Bytes) :=
  match first, s with
  | true, 0x22 :: rest => string? rest
  | false, 0x2C :: rest =>
    match skipSpace rest with
    | 0x22 :: rest => string? rest
    | _ => none
  | _, _ => none

/-- What follows the colon after a key. -/
def colon? (s : Bytes) : Option Bytes :=
  match skipSpace s with
  | 0x3A :: rest => some rest
  | _ => none

/-- The members of an object up to its closing brace. A key is judged before
its value is read. Every member takes a byte at least, so the fuel, one more
than the number of bytes, never runs out. -/
def members (shape : Shape) :
    Nat → List (Text × Cell) → Bool → Bytes → Except Mismatch (List Cell × Bytes)
  | 0, _, _, _ => .error .malformed
  | fuel + 1, found, first, s =>
    match skipSpace s with
    | 0x7D :: rest => do return (← collect found shape.fields, rest)
    | s => do
      let (key, s) ← wellFormed (key? first s)
      match shape.fields.lookup key with
      | none =>
        if shape.closed then throw (.unknownField key (shape.fields.map Prod.fst))
        let s ← wellFormed (colon? s)
        let s ← wellFormed (skipValue? (s.length + 1) s)
        members shape fuel found false s
      | some kind =>
        if (found.lookup key).isSome then throw (.duplicateField key)
        let (cell, s) ← value kind (← wellFormed (colon? s))
        members shape fuel (found ++ [(key, cell)]) false s

namespace Shape

/-- How a message names a record. -/
def title (shape : Shape) : String :=
  "struct " ++ shape.name

/-- How a message names a record that is written as an array. -/
def arrayTitle (shape : Shape) : String :=
  shape.title ++ " with " ++ String.ofList (Decimal.ofNat shape.fields.length) ++ " elements"

/-- The values of a record's fields in the shape's order, from a document
that holds the record and nothing else. -/
def read (shape : Shape) (document : Bytes) : Except Mismatch (List Cell) := do
  let (cells, rest) ←
    match skipSpace document with
    | 0x5B :: rest => elements shape.arrayTitle (shape.fields.map Prod.snd) 0 rest
    | 0x7B :: rest => members shape (rest.length + 1) [] true rest
    | s => .error (wrongKind s shape.title)
  if (skipSpace rest).isEmpty then return cells else throw .malformed

end Shape

end ReleaseLag.Document.Json
