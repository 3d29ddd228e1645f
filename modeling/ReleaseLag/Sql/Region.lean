import ReleaseLag.Text.Basic
import ReleaseLag.Text.Name

/-!
# `ReleaseLag.Sql.Region`: where a character stands in a query text

A query text is read one character at a time, knowing the next one. Quotes
belong to what they enclose, a comment ends before its line break, and a
placeholder is an at sign with the longest name after it. `regions` gives
the region of each character and `placeholders` the names with their
positions; neither cuts the text into pieces, so they say what a scanner by
pieces has to find.
-/

set_option autoImplicit false

namespace ReleaseLag.Sql

/-- What a character belongs to. -/
inductive Region
  | plain
  | literal
  | identifier
  | comment
  | placeholder
  deriving DecidableEq, Repr

namespace Region

/-- The region of a character that continues no other, and the region that
the character after it may continue. -/
def opened (c : Char) (next : Option Char) : Region × Region :=
  if c = '\'' then (literal, literal)
  else if c = '"' then (identifier, identifier)
  else if c = '-' ∧ next = some '-' then (comment, comment)
  else if c = '@' ∧ next.any Text.isNameStart then (placeholder, placeholder)
  else (plain, plain)

/-- The region of a character that may continue a given one, and the region
that the character after it may continue. A closing quote is the last
character of its region. -/
def step (current : Region) (c : Char) (next : Option Char) : Region × Region :=
  match current with
  | literal => (literal, if c = '\'' then plain else literal)
  | identifier => (identifier, if c = '"' then plain else identifier)
  | comment => if c = '\n' then (plain, plain) else (comment, comment)
  | placeholder =>
    if Text.isNameChar c then (placeholder, placeholder) else opened c next
  | plain => opened c next

end Region

/-- The region of each character of a text that may continue a region. -/
def regionsFrom (current : Region) : Text → List Region
  | [] => []
  | c :: rest =>
    let (region, current) := current.step c rest.head?
    region :: regionsFrom current rest

/-- The region of each character of a text. -/
def regions (s : Text) : List Region :=
  regionsFrom .plain s

/-- The placeholders of a text that may continue a region: the name of each
and the byte its at sign stands at. -/
def placeholdersFrom (current : Region) (position : Nat) : Text → List (Text × Nat)
  | [] => []
  | c :: rest =>
    let (region, current) := current.step c rest.head?
    let later := placeholdersFrom current (position + c.utf8Size) rest
    if region = .placeholder ∧ c = '@' then (rest.takeWhile Text.isNameChar, position) :: later
    else later

/-- The placeholders of a text. -/
def placeholders (s : Text) : List (Text × Nat) :=
  placeholdersFrom .plain 0 s

end ReleaseLag.Sql
