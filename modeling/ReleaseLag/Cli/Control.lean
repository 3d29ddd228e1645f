import ReleaseLag.Text.Basic

/-!
# `ReleaseLag.Cli.Control`: text without control sequences

What a terminal would obey is taken out of a text, and what it would show is
kept: `strip` reads the text as a terminal does, one character at a time.

White space inside a sequence is shown at once, and the characters after it
are shown too, up to the next control, which goes on with the sequence.
-/

set_option autoImplicit false

namespace ReleaseLag.Cli.Control

/-- The white space among the controls. -/
def isSpace (c : Char) : Bool :=
  c = '\t' || c = '\n' || c = '\x0c' || c = '\r'

/-- Whether a character is shown where no sequence has begun. -/
def isShown (c : Char) : Bool :=
  isSpace c || (0x20 ≤ c.toNat && c.toNat ≠ 0x7F)

/-- Whether a character's code is between two others. -/
def between (low high : Nat) (c : Char) : Bool :=
  low ≤ c.toNat && c.toNat ≤ high

/-- Where a sequence has got to. Besides the plain escape sequences, with the
bytes that may stand between their two ends, there are the control sequences,
operating system commands, device control strings, whose header is read apart,
and strings that end with another escape. -/
inductive Stage
  | ground
  | escape
  | intermediate
  | sequence
  | command
  | device
  | deviceParameters
  | deviceIntermediate
  | string
  deriving DecidableEq, Repr

namespace Stage

/-- Whether white space inside the sequence is shown. -/
def showsSpace : Stage → Bool
  | escape | intermediate | sequence => true
  | _ => false

/-- Where a device control string has got to after a character of its header.
Parameters may not begin a second time, and nothing but the final character
may follow what is in between. -/
def header (stage : Stage) (parameters : Bool) (c : Char) : Stage :=
  if between 0x20 0x2F c then deviceIntermediate
  else if parameters && between 0x30 0x3B c then deviceParameters
  else if between 0x30 0x7E c then string
  else stage

/-- Where a sequence has got to after a character that does not interrupt it.
A string also ends where the byte `9C` is in the encoding of a character. -/
def next (stage : Stage) (c : Char) : Stage :=
  match stage with
  | ground => ground
  | escape =>
    if c = '[' then sequence
    else if c = ']' then command
    else if c = 'P' then device
    else if c = 'X' ∨ c = '^' ∨ c = '_' then string
    else if between 0x20 0x2F c then intermediate
    else if between 0x30 0x7E c then ground
    else escape
  | intermediate => if between 0x30 0x7E c then ground else intermediate
  | sequence => if between 0x40 0x7E c then ground else sequence
  | command => if c = '\x07' then ground else command
  | device => if between 0x3C 0x3F c then deviceParameters else header device true c
  | deviceParameters => header deviceParameters true c
  | deviceIntermediate => header deviceIntermediate false c
  | string => if (String.utf8EncodeChar c).contains 0x9C then ground else string

end Stage

/-- The stage, and whether characters are shown since white space was. -/
structure State where
  stage : Stage
  showing : Bool
  deriving DecidableEq, Repr

namespace State

/-- No sequence has begun. -/
def start : State where
  stage := .ground
  showing := false

/-- The state after a character, and whether the character is shown. Two
controls break off any sequence, and an escape begins another. -/
def step (state : State) (c : Char) : State × Bool :=
  if c = '\x18' ∨ c = '\x1a' then (start, false)
  else if c = '\x1b' then (⟨.escape, false⟩, false)
  else if (state.stage = .ground || state.showing) && isShown c then
    (if c.toNat < 0x80 then state else start, true)
  else if state.stage.showsSpace && isSpace c then (⟨state.stage, true⟩, true)
  else (⟨state.stage.next c, false⟩, false)

/-- The characters of a text that are shown from a state on. -/
def shown : State → Text → Text
  | _, [] => []
  | state, c :: s =>
    let (next, isKept) := state.step c
    if isKept then c :: next.shown s else next.shown s

end State

/-- A text as a terminal would show it. -/
def strip (s : Text) : Text :=
  State.start.shown s

end ReleaseLag.Cli.Control
