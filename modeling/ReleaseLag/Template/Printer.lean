import ReleaseLag.Template.Node

/-!
# `ReleaseLag.Template.Printer`: templates as text

`printAll` writes nodes back as a source with one spelling for each action.
`locateAll` moves nodes to the places at which they stand in that source:
an action is where its braces open.
-/

set_option autoImplicit false

namespace ReleaseLag.Template

/-- An action with a given body. -/
def braced (body : Text) : Text :=
  ['{', '{'] ++ body ++ ['}', '}']

/-- How an action is spelt between its braces. -/
def Action.body : Action → Text
  | .field name => '.' :: name
  | .var name => '$' :: name
  | .openIf name => ['i', 'f', ' ', '.'] ++ name
  | .openRange loopVar list =>
    ['r', 'a', 'n', 'g', 'e', ' ', '$'] ++ loopVar ++ [' ', ':', '=', ' ', '.'] ++ list
  | .close => ['e', 'n', 'd']

/-- The source of an action. -/
def Action.print (a : Action) : Text :=
  braced a.body

mutual

/-- The source of a node. -/
def Node.print : Node → Text
  | .text s => s
  | .field name _ => (Action.field name).print
  | .var name _ => (Action.var name).print
  | .cond field body _ => (Action.openIf field).print ++ printAll body ++ Action.close.print
  | .each var list body _ =>
    (Action.openRange var list).print ++ printAll body ++ Action.close.print

/-- The source of nodes, one after the other. -/
def printAll : List Node → Text
  | [] => []
  | node :: nodes => node.print ++ printAll nodes

end

mutual

/-- A node as it stands in its source, which begins at a given byte. -/
def Node.locate (start : Nat) : Node → Node
  | .text s => .text s
  | .field name _ => .field name start
  | .var name _ => .var name start
  | .cond field body _ =>
    .cond field (locateAll (start + Text.size (Action.openIf field).print) body) start
  | .each var list body _ =>
    .each var list (locateAll (start + Text.size (Action.openRange var list).print) body) start

/-- Nodes as they stand in their source. -/
def locateAll (start : Nat) : List Node → List Node
  | [] => []
  | node :: nodes => node.locate start :: locateAll (start + Text.size node.print) nodes

end

mutual

/-- Where a node stands does not change its source. -/
theorem Node.print_locate (start : Nat) (node : Node) :
    (node.locate start).print = node.print := by
  cases node with
  | text s => rfl
  | field name position => rfl
  | var name position => rfl
  | cond field body position => simp only [Node.locate, Node.print, printAll_locateAll]
  | each var list body position => simp only [Node.locate, Node.print, printAll_locateAll]

theorem printAll_locateAll (start : Nat) (nodes : List Node) :
    printAll (locateAll start nodes) = printAll nodes := by
  cases nodes with
  | nil => rfl
  | cons node nodes =>
    simp only [locateAll, printAll, Node.print_locate start node, printAll_locateAll]

end

end ReleaseLag.Template
