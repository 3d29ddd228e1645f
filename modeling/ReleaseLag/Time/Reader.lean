import ReleaseLag.Time.Instant
import ReleaseLag.Decimal
import ReleaseLag.Text.Blank

/-!
# `ReleaseLag.Time.Reader`: instants from text

Three readers. `date?` takes a date alone and stands for its midnight.
`rfc3339` takes the strict form and says what is wrong with any other.
`lenient?` takes the form of documents, where blanks may stand around the
numbers and the colon of the offset may be missing.
-/

set_option autoImplicit false

namespace ReleaseLag.Time

/-- Why a text is not an instant in the strict form. -/
inductive ReadFault
  | ended
  | badCharacter
  | outOfRange
  | trailing
  deriving DecidableEq, Repr

def ReadFault.message : ReadFault → String
  | ended => "premature end of input"
  | badCharacter => "input contains invalid characters"
  | outOfRange => "input is out of range"
  | trailing => "trailing input"

/-- The instant of a local date and time of day at an offset in minutes.
Second 60 is second 59 with 10⁹ further nanoseconds. -/
def instantAt? (date : Date) (hour minute second nanos : Nat) (offset : Int) : Option Instant :=
  let secs := date.toDays * 86400 + hour * 3600 + minute * 60 - offset * 60
  if second = 60 then Instant.ofUnix? (secs + 59) (nanos + 1000000000)
  else Instant.ofUnix? (secs + second) nanos

/-- Hours and minutes stay below a day, seconds go up to the leap second. -/
def isTimeOfDay (hour minute second : Nat) : Bool :=
  hour ≤ 23 && minute ≤ 59 && second ≤ 60

/-- Nanoseconds from the digits of a fraction; digits after the ninth are
dropped. -/
def nanosOfDigits (digits : Text) : Nat :=
  Decimal.value (digits.take 9) * Nat.pow 10 (9 - digits.length)

/-- The character at the front, which has to be the given one. -/
def dropChar? (c : Char) : Text → Option Text
  | d :: rest => if d = c then some rest else none
  | [] => none

namespace Lenient

/-- An optional sign and digits; without a sign there are at most four. -/
def year? (s : Text) : Option (Int × Text) :=
  match Text.trimStart s with
  | '-' :: rest => (Decimal.takeNat none rest).map fun (n, rest) => (-(n : Int), rest)
  | '+' :: rest => (Decimal.takeNat none rest).map fun (n, rest) => ((n : Int), rest)
  | rest => (Decimal.takeNat (some 4) rest).map fun (n, rest) => ((n : Int), rest)

/-- One or two digits, after blanks. -/
def twoDigits? (s : Text) : Option (Nat × Text) :=
  Decimal.takeNat (some 2) (Text.trimStart s)

/-- A date at the front of a text. `gap` cuts off what may stand before a
hyphen. -/
def date? (gap : Text → Text) (s : Text) : Option (Date × Text) := do
  let (year, s) ← year? s
  let s ← dropChar? '-' (gap s)
  let (month, s) ← twoDigits? s
  let s ← dropChar? '-' (gap s)
  let (day, s) ← twoDigits? s
  let date ← Date.ofCivil? year month day
  return (date, s)

/-- A fraction at the front of a text; none is zero nanoseconds. -/
def fraction? : Text → Option (Nat × Text)
  | '.' :: rest =>
    match Decimal.takeDigits none rest with
    | ([], _) => none
    | (digits, rest) => some (nanosOfDigits digits, rest)
  | s => some (0, s)

/-- Two digits with nothing before them. -/
def pair? : Text → Option (Nat × Text)
  | a :: b :: rest =>
    if a.isDigit && b.isDigit then some (Decimal.value [a, b], rest) else none
  | _ => none

/-- A zone in minutes: `UTC` in any case, the letter `Z`, or a sign, hours,
any number of colons and blanks, and minutes. -/
def zone? (s : Text) : Option (Int × Text) :=
  if (s.take 3).map Char.toUpper = ['U', 'T', 'C'] then some (0, s.drop 3)
  else
    match s with
    | [] => none
    | c :: rest =>
      if c = 'Z' ∨ c = 'z' then some (0, rest)
      else if c = '+' ∨ c = '-' ∨ c = '\u2212' then do
        let (hours, rest) ← pair? rest
        let (minutes, rest) ← pair? (rest.dropWhile fun c => c = ':' || Text.isBlank c)
        if hours ≤ 23 ∧ minutes ≤ 59 then
          let offset : Int := hours * 60 + minutes
          return (if c = '+' then offset else -offset, rest)
        else none
      else none

/-- A mark that divides the date from the time of day. -/
def dropMark? : Text → Option Text
  | c :: rest => if c = 'T' ∨ c = 't' ∨ c = ' ' then some rest else none
  | [] => none

end Lenient

/-- A date and nothing else, as the instant its day begins at. Blanks may
stand before each number but not before a hyphen. -/
def date? (s : Text) : Option Instant := do
  let (date, rest) ← Lenient.date? id s
  if rest.isEmpty then Instant.ofDate? date else none

open Lenient in
/-- A date, a mark, a time of day and a zone, with blanks allowed around the
numbers. The instant has to exist after the zone is taken into account. -/
def lenient? (s : Text) : Option Instant := do
  let (date, s) ← Lenient.date? Text.trimStart s
  let s ← dropMark? s
  let (hour, s) ← twoDigits? s
  let s ← dropChar? ':' (Text.trimStart s)
  let (minute, s) ← twoDigits? s
  let s ← dropChar? ':' (Text.trimStart s)
  let (second, s) ← twoDigits? s
  let (nanos, s) ← fraction? s
  let (offset, s) ← zone? (Text.trimStart s)
  if isTimeOfDay hour minute second ∧ (Text.trimStart s).isEmpty then
    instantAt? date hour minute second nanos offset
  else none

namespace Strict

/-- A fixed number of digits. -/
def digits (n : Nat) (s : Text) : Except ReadFault (Nat × Text) :=
  if (s.take n).length = n ∧ (s.take n).all Char.isDigit then
    .ok (Decimal.value (s.take n), s.drop n)
  else .error .badCharacter

/-- One character out of a class. -/
def oneOf (cs : List Char) : Text → Except ReadFault Text
  | c :: rest => if c ∈ cs then .ok rest else .error .badCharacter
  | [] => .error .badCharacter

/-- An optional fraction of a second. -/
def fraction (s : Text) : Except ReadFault (Nat × Text) :=
  match Lenient.fraction? s with
  | some found => .ok found
  | none => .error .badCharacter

/-- The two digits of an hour or a minute of the offset. -/
def offsetPair (s : Text) : Except ReadFault (Nat × Text) :=
  if Text.size s < 2 then .error .ended else digits 2 s

/-- The letter `Z`, or a sign, hours, a colon and minutes. Minutes from 60
are out of range at once, hours from 24 only after the end of the text. -/
def zone : Text → Except ReadFault (Int × Text)
  | [] => .error .ended
  | c :: rest =>
    if c = 'Z' ∨ c = 'z' then .ok (0, rest)
    else if c = '+' ∨ c = '-' ∨ c = '\u2212' then do
      let (hours, rest) ← offsetPair rest
      let rest ← if rest.isEmpty then .error .ended else oneOf [':'] rest
      let (minutes, rest) ← offsetPair rest
      if 60 ≤ minutes then .error .outOfRange
      else
        let offset : Int := hours * 60 + minutes
        .ok (if c = '+' then offset else -offset, rest)
    else .error .badCharacter

end Strict

open Strict in
/-- An instant in the strict form of RFC 3339, or the first fault from the
left. -/
def rfc3339 (s : Text) : Except ReadFault Instant := do
  if Text.size s < 19 then
    throw .ended
  let (year, s) ← digits 4 s
  let s ← oneOf ['-'] s
  let (month, s) ← digits 2 s
  let s ← oneOf ['-'] s
  let (day, s) ← digits 2 s
  let some date := Date.ofCivil? year month day | throw .outOfRange
  let s ← oneOf ['T', 't', ' '] s
  let (hour, s) ← digits 2 s
  let s ← oneOf [':'] s
  let (minute, s) ← digits 2 s
  let s ← oneOf [':'] s
  let (second, s) ← digits 2 s
  let (nanos, s) ← fraction s
  if !isTimeOfDay hour minute second then
    throw .outOfRange
  let (offset, s) ← zone s
  if !s.isEmpty then
    throw .trailing
  if 1440 ≤ offset.natAbs then
    throw .outOfRange
  let some instant := instantAt? date hour minute second nanos offset | throw .outOfRange
  return instant

end ReleaseLag.Time
