import ReleaseLag.Text.Basic

/-!
# `ReleaseLag.Cli.Paint`: colours on a terminal

A style is a list of escape sequences. Wrapped text stands between them and a
reset. A reset inside the text would end the style early, so painting opens
the style again after each of them.
-/

set_option autoImplicit false

namespace ReleaseLag.Cli

/-- The codes of a style, one escape sequence each. -/
structure Style where
  codes : List String
  deriving DecidableEq, Repr

namespace Style

def cyan : Style := ⟨["36"]⟩
def white : Style := ⟨["37"]⟩
def yellow : Style := ⟨["33"]⟩
def dimmed : Style := ⟨["2"]⟩
def bold : Style := ⟨["1"]⟩
def boldRed : Style := ⟨["1;31"]⟩
def boldGreen : Style := ⟨["1;32"]⟩
def boldCyan : Style := ⟨["1;36"]⟩
def boldWhite : Style := ⟨["1;37"]⟩

/-- The style of the word that usage errors begin with. -/
def usage : Style := ⟨["1", "31"]⟩

/-- The escape sequence of a code. -/
def escape (code : String) : Text :=
  '\x1b' :: '[' :: code.toList ++ ['m']

/-- What ends every style. -/
def reset : Text :=
  escape "0"

/-- What begins a style. -/
def opening (style : Style) : Text :=
  style.codes.flatMap escape

/-- A text between the beginning of a style and a reset. -/
def wrap (style : Style) (s : Text) : Text :=
  style.opening ++ s ++ reset

/-- A text that is in a style to its end, where colours are shown. -/
def paint (style : Style) (color : Bool) (s : Text) : Text :=
  if color then style.wrap (Text.insertAfter reset style.opening s) else s

end Style

end ReleaseLag.Cli
