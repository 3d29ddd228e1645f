import ReleaseLag.Text.Basic
import ReleaseLag.Decimal

/-!
# `ReleaseLag.Template.Fault`: what is wrong with a template

A template error is a fault at a position, counted in bytes of the source.
Faults of the data a template is rendered with have no place in the source
and stand at position 0.
-/

set_option autoImplicit false

namespace ReleaseLag.Template

/-- How a field may be bound. -/
inductive FieldKind
  /-- Always bound, to one parameter name. -/
  | scalar
  /-- Bound to one parameter name or absent. -/
  | optional
  /-- Bound to a list of parameter names. -/
  | list
  deriving DecidableEq, Repr

def FieldKind.word : FieldKind → String
  | scalar => "scalar"
  | optional => "optional"
  | list => "list"

/-- What can be wrong with a source, with the data for it, or with the
placeholders of a query text. -/
inductive Fault
  | strayClose
  | unterminatedAction
  | unrecognizedAction (body : Text)
  | unmatchedEnd
  | missingEnd
  | undeclaredField (field : Text)
  | unguardedOptional (field : Text)
  | listSubstituted (field : Text)
  | undeclaredVariable (var : Text)
  | alwaysBound (field : Text)
  | rangeOverNonList (field : Text)
  | shadowedVariable (var : Text)
  | undeclaredBinding (field : Text)
  | wrongBinding (field : Text) (kind : FieldKind)
  | unboundField (field : Text)
  | unboundVariable (var : Text)
  | unboundList (field : Text)
  | unboundPlaceholder (name : Text)
  deriving DecidableEq, Repr

def Fault.message : Fault → String
  | strayClose => "stray '\x7d\x7d' outside an action"
  | unterminatedAction => "unterminated action: missing '\x7d\x7d'"
  | unrecognizedAction body => "unrecognized action '" ++ String.ofList body ++ "'"
  | unmatchedEnd => "\x7b\x7bend\x7d\x7d without a matching if or range"
  | missingEnd => "block is missing \x7b\x7bend\x7d\x7d"
  | undeclaredField field => "undeclared field ." ++ String.ofList field
  | unguardedOptional field =>
    "optional field ." ++ String.ofList field ++ " used outside \x7b\x7bif ."
      ++ String.ofList field ++ "\x7d\x7d"
  | listSubstituted field =>
    "list field ." ++ String.ofList field ++ " can only be used with range"
  | undeclaredVariable var => "undeclared variable $" ++ String.ofList var
  | alwaysBound field =>
    "scalar field ." ++ String.ofList field ++ " is always bound; if is meaningless"
  | rangeOverNonList field => "range over non-list field ." ++ String.ofList field
  | shadowedVariable var => "variable $" ++ String.ofList var ++ " shadows an enclosing range"
  | undeclaredBinding field => "data binds undeclared field ." ++ String.ofList field
  | wrongBinding field kind =>
    "field ." ++ String.ofList field ++ " expects a " ++ kind.word ++ " binding"
  | unboundField field => "field ." ++ String.ofList field ++ " is not bound"
  | unboundVariable var => "variable $" ++ String.ofList var ++ " is not bound"
  | unboundList field => "list field ." ++ String.ofList field ++ " is not bound"
  | unboundPlaceholder name =>
    "placeholder @" ++ String.ofList name ++ " has no bound parameter"

/-- A fault and the byte it stands at. -/
structure Error where
  position : Nat
  fault : Fault
  deriving DecidableEq, Repr

def Error.message (e : Error) : String :=
  "Template error at position " ++ String.ofList (Decimal.ofNat e.position) ++ ": "
    ++ e.fault.message

end ReleaseLag.Template
