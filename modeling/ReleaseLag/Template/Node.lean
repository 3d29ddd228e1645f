import ReleaseLag.Template.Token
import ReleaseLag.NameMap

/-!
# `ReleaseLag.Template.Node`: templates as trees

A compiled template is a list of nodes: literal text, substitutions, and
blocks that are kept if a field is bound or repeated for each name bound to a
list. `Template.compile` builds it from a source and a schema. Blocks that
are still open stand on a stack of frames, so the fields and variables that
the current place may use are read off the stack.
-/

set_option autoImplicit false

namespace ReleaseLag

namespace Template

/-- A node of a template. Positions are those of the opening braces. -/
inductive Node
  | text (s : Text)
  | field (name : Text) (position : Nat)
  | var (name : Text) (position : Nat)
  | cond (field : Text) (body : List Node) (position : Nat)
  | each (var list : Text) (body : List Node) (position : Nat)
  deriving Repr

/-- The fields that a template may use, and how each may be bound. -/
abbrev Schema := NameMap FieldKind

/-- What opens a block. -/
inductive Opener
  | cond (field : Text)
  | each (var list : Text)
  deriving DecidableEq, Repr

/-- A block that is still open: what opened it and where, and the nodes that
stand before it in the block around it. -/
structure Frame where
  opener : Opener
  position : Nat
  before : List Node

namespace Frame

/-- The node of a block, once its body is known. -/
def node (frame : Frame) (body : List Node) : Node :=
  match frame.opener with
  | .cond field => .cond field body frame.position
  | .each var list => .each var list body frame.position

/-- An open block keeps its body only if this field is bound. -/
def guards (frames : List Frame) (field : Text) : Bool :=
  frames.any fun frame => frame.opener = .cond field

/-- An open block binds this variable. -/
def binds (frames : List Frame) (var : Text) : Bool :=
  frames.any fun frame =>
    match frame.opener with
    | .cond _ => false
    | .each v _ => v = var

end Frame

/-- What a field is declared as. -/
def kindOf (schema : Schema) (field : Text) : Except Fault FieldKind :=
  match schema.get? field with
  | some kind => .ok kind
  | none => .error (.undeclaredField field)

/-- A field may be substituted if it is bound wherever this place is
reached. -/
def checkField (schema : Schema) (frames : List Frame) (field : Text) : Except Fault Unit := do
  match ← kindOf schema field with
  | .scalar => return
  | .optional => if !Frame.guards frames field then throw (.unguardedOptional field)
  | .list => throw (.listSubstituted field)

/-- A variable may be substituted inside the range that declares it. -/
def checkVar (frames : List Frame) (var : Text) : Except Fault Unit :=
  if Frame.binds frames var then .ok () else .error (.undeclaredVariable var)

/-- A block can depend on a field that may be absent or empty. -/
def checkIf (schema : Schema) (field : Text) : Except Fault Unit := do
  if (← kindOf schema field) = .scalar then throw (.alwaysBound field)

/-- A range goes over a list and declares a variable of its own. -/
def checkRange (schema : Schema) (frames : List Frame) (var list : Text) :
    Except Fault Unit := do
  if (← kindOf schema list) ≠ .list then throw (.rangeOverNonList list)
  if Frame.binds frames var then throw (.shadowedVariable var)

/-- A check of what stands at a position. -/
def checkAt (position : Nat) (check : Except Fault Unit) : Except Error Unit :=
  check.mapError fun fault => ⟨position, fault⟩

/-- The nodes of tokens, inside open blocks, innermost first, after the nodes
that the current block already has. -/
def assemble (schema : Schema) :
    List Frame → List Node → List Token → Except Error (List Node)
  | [], nodes, [] => .ok nodes
  | frame :: _, _, [] => .error ⟨frame.position, .missingEnd⟩
  | frames, nodes, .text s :: tokens => assemble schema frames (nodes ++ [.text s]) tokens
  | frames, nodes, .action (.field name) position :: tokens => do
    checkAt position (checkField schema frames name)
    assemble schema frames (nodes ++ [.field name position]) tokens
  | frames, nodes, .action (.var name) position :: tokens => do
    checkAt position (checkVar frames name)
    assemble schema frames (nodes ++ [.var name position]) tokens
  | frames, nodes, .action (.openIf field) position :: tokens => do
    checkAt position (checkIf schema field)
    assemble schema (⟨.cond field, position, nodes⟩ :: frames) [] tokens
  | frames, nodes, .action (.openRange var list) position :: tokens => do
    checkAt position (checkRange schema frames var list)
    assemble schema (⟨.each var list, position, nodes⟩ :: frames) [] tokens
  | [], _, .action .close position :: _ => .error ⟨position, .unmatchedEnd⟩
  | frame :: frames, nodes, .action .close _ :: tokens =>
    assemble schema frames (frame.before ++ [frame.node nodes]) tokens

end Template

/-- A compiled template: its nodes and the schema they keep to. -/
structure Template where
  nodes : List Template.Node
  schema : Template.Schema

/-- The template of a source. -/
def Template.compile (schema : Template.Schema) (source : Text) :
    Except Template.Error Template := do
  let tokens ← Template.Token.tokenize source
  return { nodes := ← Template.assemble schema [] [] tokens, schema }

end ReleaseLag
