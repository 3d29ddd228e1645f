import ReleaseLag.NameMap
import ReleaseLag.Sql.Piece
import ReleaseLag.Statement.Param

/-!
# `ReleaseLag.Statement.Basic`: parameterised statements

A statement is query text with named placeholders and a value for each name.
Its positional form numbers the names in the order they first occur in, and a
name used twice keeps its number. Values that no placeholder names are kept
but take no number.
-/

set_option autoImplicit false

namespace ReleaseLag

/-- Query text, the values of its placeholders and the form with numbers. -/
structure Statement where
  sql : Text
  params : NameMap ParamValue
  positionalSql : Text
  order : List Text

namespace Statement

open Sql

/-- The names with a further one at the end, unless it is among them. -/
def noteName (names : List Text) (name : Text) : List Text :=
  if names.contains name then names else names ++ [name]

/-- A placeholder with the number a name has among others, from 1. -/
def numbered (names : List Text) (name : Text) : Text :=
  '$' :: Decimal.ofNat (names.idxOf name + 1)

/-- The positional text of pieces and the names they use, after the pieces
that used `names`. The first placeholder without a value is the error. -/
def number (params : NameMap ParamValue) :
    List Text → List Piece → Except Error (Text × List Text)
  | names, [] => .ok ([], names)
  | names, .text s :: pieces => do
    let (text, names) ← number params names pieces
    return (s ++ text, names)
  | names, .placeholder name position :: pieces =>
    match params.get? name with
    | none => .error (.template ⟨position, .unboundPlaceholder name⟩)
    | some _ => do
      let names := noteName names name
      let (text, all) ← number params names pieces
      return (numbered names name ++ text, all)

/-- The statement of a query text and values for its placeholders. -/
def ofSql (sql : Text) (params : NameMap ParamValue) : Except Error Statement := do
  let (positionalSql, order) ← number params [] (Piece.ofText sql)
  return { sql, params, positionalSql, order }

/-- The value of a parameter. -/
def param? (s : Statement) (name : Text) : Option ParamValue :=
  s.params.get? name

/-- The values that take the numbers 1, 2 and so on. -/
def positionalParams (s : Statement) : List ParamValue :=
  s.order.filterMap s.params.get?

end Statement

end ReleaseLag
