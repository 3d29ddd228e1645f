import ReleaseLag.Template.Node
import ReleaseLag.Statement.Param

/-!
# `ReleaseLag.Template.Render`: query text from a template

Data bind fields to parameter names. Rendering copies literal text and puts
names in place of substitutions, so nothing else can reach the query text.
Data that bind a field the schema does not declare, or in a way it does not
allow, are refused before anything is rendered.
-/

set_option autoImplicit false

namespace ReleaseLag

namespace Template

/-- What a field is bound to. -/
inductive Binding
  | name (n : ParamName)
  | names (ns : List ParamName)
  | absent
  deriving DecidableEq

/-- What the fields of a template are bound to, for one rendering. -/
abbrev Data := NameMap Binding

namespace Binding

/-- A binding of the kind that a field is declared as. -/
def fits : FieldKind → Binding → Bool
  | .scalar, name _ => true
  | .optional, name _ => true
  | .optional, absent => true
  | .list, names _ => true
  | _, _ => false

/-- The binding of an optional name. -/
def ofOption : Option ParamName → Binding
  | some n => name n
  | none => absent

end Binding

/-- What a field is bound to; a field that the data do not mention is absent. -/
def Data.binding (data : Data) (field : Text) : Binding :=
  (data.get? field).getD .absent

/-- A block that depends on a field is kept if there is a name bound to it. -/
def Data.isPresent (data : Data) (field : Text) : Bool :=
  match data.binding field with
  | .name _ => true
  | .names ns => !ns.isEmpty
  | .absent => false

/-- Each binding is for a declared field and of its kind. The first one in
the order of names that is not gives the error. -/
def checkData (schema : Schema) : List (Text × Binding) → Except Error Unit
  | [] => .ok ()
  | (field, binding) :: rest =>
    match schema.get? field with
    | none => .error ⟨0, .undeclaredBinding field⟩
    | some kind =>
      if binding.fits kind then checkData schema rest
      else .error ⟨0, .wrongBinding field kind⟩

mutual

/-- The query text of a node, with the variables in scope, innermost first. -/
def Node.render (data : Data) (vars : List (Text × ParamName)) : Node → Except Error Text
  | .text s => .ok s
  | .field name position =>
    match data.binding name with
    | .name n => .ok n.text
    | _ => .error ⟨position, .unboundField name⟩
  | .var name position =>
    match vars.lookup name with
    | some n => .ok n.text
    | none => .error ⟨position, .unboundVariable name⟩
  | .cond field body _ => if data.isPresent field then renderAll data vars body else .ok []
  | .each var list body position =>
    match data.binding list with
    | .names ns => do
      return (← ns.mapM fun n => renderAll data ((var, n) :: vars) body).flatten
    | _ => .error ⟨position, .unboundList list⟩

/-- The query text of nodes, one after the other. -/
def renderAll (data : Data) (vars : List (Text × ParamName)) :
    List Node → Except Error Text
  | [] => .ok []
  | node :: nodes => do
    let text ← node.render data vars
    return text ++ (← renderAll data vars nodes)

end

/-- The query text of a template for some data. -/
def render (template : Template) (data : Data) : Except Error Text := do
  checkData template.schema data.entries
  renderAll data [] template.nodes

end Template

end ReleaseLag
