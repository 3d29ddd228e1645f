import ReleaseLag.Text.Basic
import ReleaseLag.Text.Name

/-!
# `ReleaseLag.Sql.Lexer`: query text, one character after the other

The lexer of a query text has a state: plain text, a literal in single or in
double quotes, or a comment. A quote opens a literal that the next quote of its
kind ends, two dashes open a comment that ends before the next line break, and
what is still open at the end of the text runs to the end. In plain text an at
sign in front of the beginning of a name is a placeholder, and its name is the
longest that stands there.

Dialects differ in what two quotes in a row are inside a literal, so that is a
`Rule` the lexer is told.
-/

set_option autoImplicit false

namespace ReleaseLag.Sql.Lexer

/-- The kinds of quotes. -/
inductive Quote
  | single
  | double
  deriving DecidableEq

/-- The character that a quote is written as. -/
def Quote.char : Quote → Char
  | single => '\''
  | double => '"'

/-- What a quote is, inside a literal, that has another of its kind behind it:
the end of the literal, or with the other an escaped quote. -/
inductive Rule
  | ends
  | escapes
  deriving DecidableEq

/-- What the lexer is in. The second of two quotes that are an escaped one has
a state in front of it. -/
inductive State
  | plain
  | quoted (quote : Quote)
  | escaped (quote : Quote)
  | comment
  deriving DecidableEq

/-- The state behind a character, which may be told by the character after
it. -/
def State.next (rule : Rule) (state : State) (c : Char) (following : Option Char) : State :=
  match state with
  | plain =>
    if c = '\'' then quoted .single
    else if c = '"' then quoted .double
    else if c = '-' ∧ following = some '-' then comment
    else plain
  | quoted quote =>
    if c ≠ quote.char then quoted quote
    else if rule = .escapes ∧ following = some quote.char then escaped quote
    else plain
  | escaped quote => quoted quote
  | comment => if c = '\n' then plain else comment

/-- The placeholders of a text that is read in a state: the name of each and
the byte its at sign stands at. -/
def foundFrom (rule : Rule) (state : State) (position : Nat) : Text → List (Text × Nat)
  | [] => []
  | c :: rest =>
    let later :=
      foundFrom rule (state.next rule c rest.head?) (position + c.utf8Size) rest
    if state = .plain ∧ c = '@' ∧ rest.head?.any Text.isNameStart then
      (rest.takeWhile Text.isNameChar, position) :: later
    else later

/-- The placeholders of a text, each with the byte it stands at. -/
def found (rule : Rule) (s : Text) : List (Text × Nat) :=
  foundFrom rule .plain 0 s

end ReleaseLag.Sql.Lexer
