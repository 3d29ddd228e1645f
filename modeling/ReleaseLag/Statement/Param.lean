import ReleaseLag.Error
import ReleaseLag.Text.Name

/-!
# `ReleaseLag.Statement.Param`: parameter names and values

Query text holds names of parameters, never their values. A `ParamName` is a
well-formed name by construction, and it is all that a template puts into
query text.
-/

set_option autoImplicit false

namespace ReleaseLag

/-- The name of a statement's parameter. -/
structure ParamName where
  text : Text
  wellFormed : Text.isName text = true
  deriving DecidableEq

/-- The parameter name of a text, if it is one. -/
def ParamName.ofText (text : Text) : Except Error ParamName :=
  if h : Text.isName text = true then .ok ⟨text, h⟩
  else .error (.invalidArgument (.parameterName text))

/-- A value that a statement binds. -/
inductive ParamValue
  | string (s : Text)
  | int (n : Int)
  | timestamp (t : Instant)
  deriving DecidableEq

/-- How a value is shown. Strings stand between quotes as they are. -/
def ParamValue.display : ParamValue → Text
  | string s => '\'' :: s ++ ['\'']
  | int n => Decimal.ofInt n
  | timestamp t => t.rfc3339

end ReleaseLag
