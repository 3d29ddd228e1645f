import ReleaseLag.Template.Node

/-!
# `ReleaseLag.Template.WellFormed`: trees that templates can be

Two conditions say which lists of nodes are templates. `ScopedAll` is about
meaning: substitutions and blocks are allowed by the schema and by the blocks
around them. `WrittenAll` is about spelling: names are names, and literal
texts are the longest stretches between actions, free of doubled braces even
where they touch an action.
-/

set_option autoImplicit false

namespace ReleaseLag.Template

mutual

/-- A node is allowed inside blocks that depend on the given fields and
declare the given variables. -/
def Node.Scoped (schema : Schema) (guards vars : List Text) : Node → Prop
  | .text _ => True
  | .field name _ =>
    schema.get? name = some .scalar ∨ schema.get? name = some .optional ∧ name ∈ guards
  | .var name _ => name ∈ vars
  | .cond field body _ =>
    (schema.get? field = some .optional ∨ schema.get? field = some .list)
      ∧ ScopedAll schema (field :: guards) vars body
  | .each var list body _ =>
    schema.get? list = some .list ∧ var ∉ vars ∧ ScopedAll schema guards (var :: vars) body

/-- Each node is allowed. -/
def ScopedAll (schema : Schema) (guards vars : List Text) : List Node → Prop
  | [] => True
  | node :: nodes => node.Scoped schema guards vars ∧ ScopedAll schema guards vars nodes

end

/-- A literal text can stand in a source, in front of something or at the
end. -/
def IsLiteral (inFront : Bool) (s : Text) : Prop :=
  s ≠ [] ∧ ¬['{', '{'] <:+: s ∧ ¬['}', '}'] <:+: s
    ∧ (inFront = true → s.getLast? ≠ some '{')

/-- A node is literal text. -/
def Node.isText : Node → Bool
  | .text _ => true
  | _ => false

mutual

/-- A node can be read off its source, in front of something or at the
end. -/
def Node.Written (inFront : Bool) : Node → Prop
  | .text s => IsLiteral inFront s
  | .field name _ => Text.isName name = true
  | .var name _ => Text.isName name = true
  | .cond field body _ => Text.isName field = true ∧ WrittenAll true body
  | .each var list body _ =>
    Text.isName var = true ∧ Text.isName list = true ∧ WrittenAll true body

/-- Nodes can be read off their source, in front of something or at the end.
No two neighbours are literal text. -/
def WrittenAll (inFront : Bool) : List Node → Prop
  | [] => True
  | node :: nodes =>
    node.Written (inFront || !nodes.isEmpty)
      ∧ ¬(node.isText = true ∧ (nodes.head?.any Node.isText) = true)
      ∧ WrittenAll inFront nodes

end

/-- Nodes that are a template for a schema. -/
def WellFormed (schema : Schema) (nodes : List Node) : Prop :=
  ScopedAll schema [] [] nodes ∧ WrittenAll false nodes

theorem scopedAll_append (schema : Schema) (guards vars : List Text) (xs ys : List Node) :
    ScopedAll schema guards vars (xs ++ ys)
      ↔ ScopedAll schema guards vars xs ∧ ScopedAll schema guards vars ys := by
  induction xs with
  | nil => simp [ScopedAll]
  | cons x xs ih => simp [ScopedAll, ih, and_assoc]

end ReleaseLag.Template
