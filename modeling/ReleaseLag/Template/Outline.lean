import ReleaseLag.Template.Node

/-!
# `ReleaseLag.Template.Outline`: a template at a glance

The outline has a line for each node, indented by two spaces for each block
around it. A text is shown on its line with single spaces for white space,
and cut after 48 characters; one that is nothing but white space has no line.
-/

set_option autoImplicit false

namespace ReleaseLag.Template

/-- How many characters of a text an outline shows. -/
def previewLength : Nat := 48

/-- A text without line breaks, cut to the length that is shown. -/
def preview (s : Text) : Text :=
  if s.length ≤ previewLength then s else s.take previewLength ++ ['…']

/-- A line of an outline inside a number of blocks. -/
def outlineLine (depth : Nat) (content : Text) : Text :=
  (List.replicate depth [' ', ' ']).flatten ++ content ++ ['\n']

/-- The line of a literal text. -/
def textLines (depth : Nat) (s : Text) : List Text :=
  match Text.collapse s with
  | [] => []
  | c :: rest =>
    [outlineLine depth ("text \"".toList ++ preview (c :: rest) ++ ['"'])]

mutual

/-- The lines of a node that stands inside a number of blocks. -/
def Node.outline (depth : Nat) : Node → List Text
  | .text s => textLines depth s
  | .field name _ => [outlineLine depth ("param .".toList ++ name)]
  | .var name _ => [outlineLine depth ("param $".toList ++ name)]
  | .cond field body _ =>
    outlineLine depth ("if .".toList ++ field) :: outlineAll (depth + 1) body
  | .each var list body _ =>
    outlineLine depth ("range $".toList ++ var ++ " := .".toList ++ list)
      :: outlineAll (depth + 1) body

/-- The lines of nodes, one after the other. -/
def outlineAll (depth : Nat) : List Node → List Text
  | [] => []
  | node :: nodes => node.outline depth ++ outlineAll depth nodes

end

/-- The outline of a template. -/
def outline (template : Template) : Text :=
  (outlineAll 0 template.nodes).flatten

end ReleaseLag.Template
