import ReleaseLag.Cli.Control
import ReleaseLag.Cli.Paint
import ReleaseLag.Cli.Switch
import ReleaseLag.Numeral
import ReleaseLag.Time.Reader

/-!
# `ReleaseLag.Cli.Usage`: arguments that cannot be understood

A usage error is told in one line, and what was typed is quoted in it. The line
is written for a terminal that shows colours and stripped for any other.
-/

set_option autoImplicit false

namespace ReleaseLag.Cli

/-- The name that the program is called by. -/
def programName : String := "featurelag"

/-- Why a value is not one that its option can have. -/
inductive ValueFault
  | timestamp (text : Text) (fault : Time.ReadFault)
  | numeral (fault : Numeral.Fault)
  | outside (n : Int) (low high : Nat)
  deriving DecidableEq, Repr

def ValueFault.message : ValueFault → Text
  | timestamp text fault =>
    "invalid timestamp '".toList ++ text ++ "': ".toList ++ fault.message.toList
  | numeral fault => fault.message.toList
  | outside n low high =>
    Decimal.ofInt n ++ " is not in ".toList ++ Decimal.ofNat low ++ "..=".toList
      ++ Decimal.ofNat high

/-- Why arguments are refused. -/
inductive UsageError
  | noArguments
  | noCommand
  | unrecognizedCommand (word : Text)
  | unexpectedArgument (word : Text)
  | unexpectedValue (value : Text) (s : Switch)
  | missingValue (s : Switch)
  | unknownValue (value : Text) (s : Switch)
  | refusedValue (value : Text) (s : Switch) (fault : ValueFault)
  | repeated (s : Switch)
  | missingRequired (missing : List Switch)
  deriving DecidableEq, Repr

namespace UsageError

/-- A text in single quotes, in a style between them. -/
def quoted (style : Style) (s : Text) : Text :=
  '\'' :: style.wrap s ++ ['\'']

/-- What was wrong, as quoted in messages. -/
def wrong (s : Text) : Text :=
  quoted .yellow s

/-- The option that a value was meant for, as quoted in messages. -/
def meant (s : Switch) : Text :=
  quoted .bold s.usage

/-- What is wrong with the arguments. Required options that are missing have
a line each. -/
def message : UsageError → Text
  | noArguments => "no arguments were given".toList
  | noCommand =>
    wrong programName.toList ++ " requires a subcommand but one was not provided".toList
  | unrecognizedCommand word => "unrecognized subcommand ".toList ++ wrong word
  | unexpectedArgument word => "unexpected argument ".toList ++ wrong word ++ " found".toList
  | unexpectedValue value s =>
    "unexpected value ".toList ++ wrong value ++ " for ".toList ++ meant s
      ++ " found; no more were expected".toList
  | missingValue s =>
    "a value is required for ".toList ++ wrong s.usage ++ " but none was supplied".toList
  | unknownValue value s =>
    "invalid value ".toList ++ wrong value ++ " for ".toList ++ meant s
  | refusedValue value s fault =>
    "invalid value ".toList ++ wrong value ++ " for ".toList ++ meant s
      ++ ": ".toList ++ fault.message
  | repeated s =>
    "the argument ".toList ++ wrong s.usage ++ " cannot be used multiple times".toList
  | missingRequired missing =>
    "the following required arguments were not provided:".toList
      ++ missing.flatMap fun s => "\n  ".toList ++ s.usage

end UsageError

/-- A summary of the arguments that are understood. -/
def usageText : Text :=
  ("Usage: " ++ programName ++ " [OPTIONS] <COMMAND>\n").toList

/-- What is shown for a usage error. Without any arguments that is the
summary alone. Where colours are not shown, no control sequences are: neither
those of the styles nor any that were typed. -/
def UsageError.text (color : Bool) : UsageError → Text
  | .noArguments => usageText
  | e =>
    let told := Style.usage.wrap "error:".toList ++ ' ' :: e.message ++ ['\n']
    if color then told else Control.strip told

end ReleaseLag.Cli
