import ReleaseLag.Template.Fault
import ReleaseLag.Text.Blank
import ReleaseLag.Text.Name
import ReleaseLag.Text.Pair

/-!
# `ReleaseLag.Template.Token`: text and actions

A template source is literal text with actions between doubled braces. Text
holds no doubled brace; an action holds one of five commands, with blanks
allowed around its words. `tokenize` cuts a source from the left and reports
the first place that fits neither.
-/

set_option autoImplicit false

namespace ReleaseLag.Template

/-- A command between doubled braces. -/
inductive Action
  | field (name : Text)
  | var (name : Text)
  | openIf (field : Text)
  | openRange (var list : Text)
  | close
  deriving DecidableEq, Repr

/-- A token of a source; an action stands at the byte its braces open at. -/
inductive Token
  | text (s : Text)
  | action (a : Action) (position : Nat)
  deriving DecidableEq, Repr

namespace Action

/-- The blanks of an action: space, tab, carriage return and line feed. -/
def isSpace (c : Char) : Bool :=
  c = ' ' || c = '\t' || c = '\r' || c = '\n'

/-- The text without the blanks it begins with. -/
def skipSpace (s : Text) : Text :=
  s.dropWhile isSpace

/-- The text after at least one blank. -/
def skipSpace1? : Text → Option Text
  | c :: rest => if isSpace c then some (skipSpace rest) else none
  | [] => none

/-- A field: a point and a name. -/
def takeField : Text → Option (Text × Text)
  | '.' :: rest => Text.takeName rest
  | _ => none

/-- A variable: a dollar sign and a name. -/
def takeVar : Text → Option (Text × Text)
  | '$' :: rest => Text.takeName rest
  | _ => none

/-- The text after the sign of a definition. -/
def takeDefine : Text → Option Text
  | ':' :: '=' :: rest => some rest
  | _ => none

/-- The command at the front of a text that begins with no blank. -/
def take (s : Text) : Option (Action × Text) :=
  match s with
  | 'i' :: 'f' :: rest => do
    let (name, rest) ← takeField (← skipSpace1? rest)
    return (openIf name, rest)
  | 'r' :: 'a' :: 'n' :: 'g' :: 'e' :: rest => do
    let (loopVar, rest) ← takeVar (← skipSpace1? rest)
    let (list, rest) ← takeField (skipSpace (← takeDefine (skipSpace rest)))
    return (openRange loopVar list, rest)
  | 'e' :: 'n' :: 'd' :: rest => some (close, rest)
  | '.' :: rest => do
    let (name, rest) ← Text.takeName rest
    return (field name, rest)
  | '$' :: rest => do
    let (name, rest) ← Text.takeName rest
    return (var name, rest)
  | _ => none

/-- The command that stands between doubled braces. -/
def ofBody? (body : Text) : Option Action := do
  let (action, rest) ← take (skipSpace body)
  if (skipSpace rest).isEmpty then some action else none

end Action

namespace Token

/-- Literal text as tokens: none at all for the empty text. -/
def ofText (s : Text) : List Token :=
  if s.isEmpty then [] else [text s]

/-- Literal text at a position, unless an action is closed in it that was
never opened. -/
def literal (position : Nat) (s : Text) : Except Error (List Token) :=
  match Text.cutPair '}' s with
  | some (before, _) => .error ⟨position + Text.size before, .strayClose⟩
  | none => .ok (ofText s)

/-- The action with a given body, at a position. -/
def command (position : Nat) (body : Text) : Except Error Token :=
  match Action.ofBody? body with
  | some a => .ok (action a position)
  | none => .error ⟨position, .unrecognizedAction (Text.trim body)⟩

/-- The tokens of a source from a position on. -/
def tokenizeFrom (position : Nat) (s : Text) : Except Error (List Token) :=
  match _hopen : Text.cutPair '{' s with
  | none => literal position s
  | some (before, rest) => do
    let leading ← literal position before
    let start := position + Text.size before
    match _hclose : Text.cutPair '}' rest with
    | none => .error ⟨start, .unterminatedAction⟩
    | some (body, after) =>
      let token ← command start body
      let tokens ← tokenizeFrom (start + Text.size body + 4) after
      return leading ++ token :: tokens
  termination_by s.length
  decreasing_by
    have := Text.length_of_cutPair _hopen
    have := Text.length_of_cutPair _hclose
    omega

/-- The tokens of a source. -/
def tokenize (source : Text) : Except Error (List Token) :=
  tokenizeFrom 0 source

end Token

end ReleaseLag.Template
