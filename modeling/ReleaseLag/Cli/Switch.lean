import ReleaseLag.Text.Basic

/-!
# `ReleaseLag.Cli.Switch`: commands and options

Arguments stand at a level: before the command or after it. The options for
settings are known at every level, the others at one. `Level.ofLong?` and
`Level.ofShort?` find an option by what was typed.
-/

set_option autoImplicit false

namespace ReleaseLag.Cli

/-- What the program can be asked to do. -/
inductive Command
  | count
  | template
  | help
  deriving DecidableEq, Repr

def Command.word : Command → String
  | count => "count"
  | template => "template"
  | help => "help"

/-- The command of a word. -/
def Command.ofWord? (word : Text) : Option Command :=
  [count, template, help].find? fun c => c.word.toList = word

/-- The options. -/
inductive Switch
  | config
  | databaseUrl
  | verbose
  | target
  | reference
  | start
  | stop
  | pageSize
  | pageToken
  | all
  | dryRun
  | format
  | help
  | version
  deriving DecidableEq, Repr

namespace Switch

/-- The name after two hyphens. -/
def long : Switch → String
  | config => "config"
  | databaseUrl => "database-url"
  | verbose => "verbose"
  | target => "target"
  | reference => "reference"
  | start => "start"
  | stop => "end"
  | pageSize => "page-size"
  | pageToken => "page-token"
  | all => "all"
  | dryRun => "dry-run"
  | format => "format"
  | help => "help"
  | version => "version"

/-- The letter after one hyphen. -/
def short? : Switch → Option Char
  | config => some 'c'
  | verbose => some 'v'
  | target => some 't'
  | reference => some 'r'
  | pageSize => some 'n'
  | dryRun => some 'd'
  | format => some 'f'
  | help => some 'h'
  | version => some 'V'
  | _ => none

/-- What stands for the value, if the option has one. -/
def placeholder? : Switch → Option String
  | config => some "CONFIG"
  | databaseUrl => some "DATABASE_URL"
  | target => some "TARGET"
  | reference => some "REFERENCE"
  | start => some "START"
  | stop => some "END"
  | pageSize => some "PAGE_SIZE"
  | pageToken => some "PAGE_TOKEN"
  | format => some "FORMAT"
  | _ => none

/-- The option needs a value. -/
def takesValue (s : Switch) : Bool :=
  s.placeholder?.isSome

/-- How messages and the usage text show an option. -/
def usage (s : Switch) : Text :=
  let name := "--".toList ++ s.long.toList
  match s.placeholder? with
  | some placeholder => name ++ " <".toList ++ placeholder.toList ++ ['>']
  | none => name

end Switch

/-- Where an argument stands. -/
inductive Level
  | outer
  | inner (command : Command)
  deriving DecidableEq, Repr

namespace Level

/-- The options known at every level. -/
def sharedSwitches : List Switch :=
  [.config, .databaseUrl, .verbose, .help]

/-- The options known at a level. -/
def switches : Level → List Switch
  | outer => sharedSwitches ++ [.version]
  | inner .count =>
    sharedSwitches ++ [.target, .reference, .start, .stop, .pageSize, .pageToken, .all, .dryRun,
      .format]
  | inner _ => sharedSwitches

/-- The option with a name. -/
def ofLong? (level : Level) (name : Text) : Option Switch :=
  level.switches.find? fun s => s.long.toList = name

/-- The option with a letter. -/
def ofShort? (level : Level) (letter : Char) : Option Switch :=
  level.switches.find? fun s => s.short? = some letter

/-- The command of a word, where commands can stand. -/
def command? (level : Level) (word : Text) : Option Command :=
  match level with
  | outer => Command.ofWord? word
  | inner _ => none

end Level

end ReleaseLag.Cli
