import ReleaseLag.Cli.Value
import ReleaseLag.Text.Split

/-!
# `ReleaseLag.Cli.Arguments`: the command line

Arguments are read from left to right. An option waits for its value, which
is judged when the next option or the end is reached; an argument that cannot
be placed is refused before that. `read` gives the invocation that the
arguments spell, or what else is to be shown.
-/

set_option autoImplicit false

namespace ReleaseLag.Cli

/-- What ends the reading of arguments before they spell a command. -/
inductive Halt
  | help
  | version
  | usage (e : UsageError)
  deriving DecidableEq, Repr

/-- The options that were given at one level. -/
structure Given where
  config : Option Text
  databaseUrl : Option Text
  verbose : Bool
  target : Option Text
  references : List Text
  start : Option Instant
  stop : Option Instant
  pageSize : Option Nat
  pageToken : Option Text
  all : Bool
  dryRun : Bool
  format : Option Format
  deriving DecidableEq

namespace Given

/-- No options. -/
def nothing : Given where
  config := none
  databaseUrl := none
  verbose := false
  target := none
  references := []
  start := none
  stop := none
  pageSize := none
  pageToken := none
  all := false
  dryRun := false
  format := none

/-- An option was given. -/
def has (g : Given) : Switch → Bool
  | .config => g.config.isSome
  | .databaseUrl => g.databaseUrl.isSome
  | .verbose => g.verbose
  | .target => g.target.isSome
  | .reference => !g.references.isEmpty
  | .start => g.start.isSome
  | .stop => g.stop.isSome
  | .pageSize => g.pageSize.isSome
  | .pageToken => g.pageToken.isSome
  | .all => g.all
  | .dryRun => g.dryRun
  | .format => g.format.isSome
  | .help => false
  | .version => false

/-- A value that is refused for an option. -/
def refuse {α : Type} (s : Switch) (value : Text) (x : Except ValueFault α) : Except Halt α :=
  x.mapError fun fault => .usage (.refusedValue value s fault)

/-- The options with one more, which is not among them unless it can be
repeated. -/
def put (g : Given) (s : Switch) (value : Text) : Except Halt Given :=
  match s with
  | .config => .ok { g with config := some value }
  | .databaseUrl => .ok { g with databaseUrl := some value }
  | .verbose => .ok { g with verbose := true }
  | .target => .ok { g with target := some value }
  | .reference => .ok { g with references := g.references ++ Text.pieces ',' value }
  | .start => do return { g with start := some (← refuse s value (Value.instant value)) }
  | .stop => do return { g with stop := some (← refuse s value (Value.instant value)) }
  | .pageSize => do return { g with pageSize := some (← refuse s value (Value.pageSize value)) }
  | .pageToken => .ok { g with pageToken := some value }
  | .all => .ok { g with all := true }
  | .dryRun => .ok { g with dryRun := true }
  | .format =>
    match Format.ofWord? value with
    | some format => .ok { g with format := some format }
    | none =>
      .error (.usage (if value.isEmpty then .missingValue s else .unknownValue value s))
  | .help => .error .help
  | .version => .error .version

/-- The options with one more, with the value that was found for it. -/
def take (g : Given) (s : Switch) (value : Option Text) : Except Halt Given :=
  if s.takesValue && value.isNone then .error (.usage (.missingValue s))
  else if g.has s && s ≠ .reference then .error (.usage (.repeated s))
  else g.put s (value.getD [])

end Given

/-- An option that was met and not yet judged. It waits for its value if
there is none. -/
structure Pending where
  switch : Switch
  value : Option Text
  deriving DecidableEq, Repr

/-- How far the arguments of a level are understood. -/
structure Progress where
  given : Given
  pending : Option Pending
  deriving DecidableEq

namespace Progress

/-- Before the first argument. -/
def start : Progress := ⟨.nothing, none⟩

/-- The next argument can be the value of an option. -/
def awaits (p : Progress) : Bool :=
  p.pending.any fun pending => pending.value.isNone

/-- The pending option is judged. -/
def settle (p : Progress) : Except Halt Progress :=
  match p.pending with
  | none => .ok p
  | some pending => do return ⟨← p.given.take pending.switch pending.value, none⟩

/-- An option with all that belongs to it. -/
def accept (p : Progress) (s : Switch) (value : Option Text) : Except Halt Progress := do
  let p ← p.settle
  return ⟨← p.given.take s value, none⟩

/-- An option whose value is to follow. -/
def await (p : Progress) (s : Switch) : Except Halt Progress := do
  let p ← p.settle
  return { p with pending := some ⟨s, none⟩ }

/-- An argument as the value that was waited for. -/
def supply (p : Progress) (value : Text) : Progress :=
  { p with pending := p.pending.map fun pending => { pending with value := some value } }

/-- An option by its name, with a value after an equals sign or without. -/
def readLong (level : Level) (p : Progress) (body : Text) : Except Halt Progress :=
  let name := body.takeWhile (· != '=')
  let value := (body.dropWhile (· != '=')).tail?
  match level.ofLong? name, value with
  | none, _ => .error (.usage (.unexpectedArgument ('-' :: '-' :: name)))
  | some s, none => if s.takesValue then p.await s else p.accept s none
  | some s, some value =>
    if s.takesValue then p.accept s (some value)
    else .error (.usage (.unexpectedValue value s))

/-- Options by their letters. The value of the first one that has a value is
the rest, without an equals sign at its front. -/
def readShorts (level : Level) (p : Progress) : Text → Except Halt Progress
  | [] => .ok p
  | letter :: rest =>
    match level.ofShort? letter with
    | none => .error (.usage (.unexpectedArgument ['-', letter]))
    | some s =>
      if s.takesValue then
        match rest with
        | [] => p.await s
        | '=' :: value => p.accept s (some value)
        | value => p.accept s (some value)
      else do
        readShorts level (← p.accept s none) rest

end Progress

/-- An argument that is no option and no value. After two hyphens a command
has lost its meaning. -/
def stray (level : Level) (afterHyphens : Bool) (word : Text) : UsageError :=
  match level with
  | .outer =>
    if afterHyphens && (Command.ofWord? word).isSome then .unexpectedArgument word
    else .unrecognizedCommand word
  | .inner _ => .unexpectedArgument word

/-- The options of a level, up to a command if one can stand there, and the
command with the arguments that follow it. -/
def readLevel (level : Level) (p : Progress) :
    List Text → Except Halt (Progress × Option (Command × List Text))
  | [] => .ok (p, none)
  | word :: rest =>
    match if p.awaits then none else level.command? word with
    | some command => .ok (p, some (command, rest))
    | none =>
      match word with
      | ['-', '-'] =>
        match rest with
        | [] => .ok (p, none)
        | next :: _ => .error (.usage (stray level true next))
      | '-' :: '-' :: body => do readLevel level (← p.readLong level body) rest
      | '-' :: letter :: more => do readLevel level (← p.readShorts level (letter :: more)) rest
      | _ =>
        if p.awaits then readLevel level (p.supply word) rest
        else .error (.usage (stray level false word))

/-- What is asked of the program as a whole. -/
structure Common where
  config : Option Text
  databaseUrl : Option Text
  verbose : Bool
  deriving DecidableEq

/-- What is asked of a count. -/
structure CountOptions where
  target : Text
  references : List Text
  start : Instant
  stop : Instant
  pageSize : Option Nat
  pageToken : Option Text
  all : Bool
  dryRun : Bool
  format : Format
  deriving DecidableEq

/-- A run of the program. -/
inductive Invocation
  | count (common : Common) (options : CountOptions)
  | template
  deriving DecidableEq

/-- The options of a count, which has to have a target, references and a
window. -/
def CountOptions.ofGiven (g : Given) : Except Halt CountOptions :=
  match g.target, g.references, g.start, g.stop with
  | some target, reference :: references, some start, some stop =>
    .ok { target, references := reference :: references, start, stop, pageSize := g.pageSize,
          pageToken := g.pageToken, all := g.all, dryRun := g.dryRun,
          format := g.format.getD .table }
  | _, _, _, _ =>
    .error (.usage (.missingRequired
      ([.target, .reference, .start, .stop].filter fun s => !g.has s)))

/-- The options of the program as a whole, from after the command, from
before it or, for the database, from the environment. -/
def Common.of (outer inner : Given) (environmentUrl : Option Text) : Common where
  config := inner.config <|> outer.config
  databaseUrl := inner.databaseUrl <|> outer.databaseUrl <|> environmentUrl
  verbose := inner.verbose || outer.verbose

/-- What `help` was asked about: nothing, or a command, which has no commands
of its own. -/
def readHelp : List Text → Halt
  | [] => .help
  | word :: rest =>
    match Command.ofWord? word, rest with
    | none, _ => .usage (.unrecognizedCommand word)
    | some _, [] => .help
    | some _, next :: _ => .usage (.unrecognizedCommand next)

/-- The invocation that arguments spell. The level before the command is
judged after the one that follows it. -/
def read (environmentUrl : Option Text) (arguments : List Text) : Except Halt Invocation := do
  let (outer, next) ← readLevel .outer .start arguments
  match next with
  | none =>
    let outer ← outer.settle
    throw <| .usage <|
      if outer.given = .nothing ∧ environmentUrl.isNone then .noArguments else .noCommand
  | some (.help, rest) => throw (readHelp rest)
  | some (command, rest) =>
    let (inner, _) ← readLevel (.inner command) .start rest
    let inner ← inner.settle
    let invocation ←
      if command = .count then do
        let options ← CountOptions.ofGiven inner.given
        pure fun common => Invocation.count common options
      else pure fun _ => .template
    let outer ← outer.settle
    return invocation (.of outer.given inner.given environmentUrl)

end ReleaseLag.Cli
