import ReleaseLag.Cli.Run

/-!
# `ReleaseLag.Main`: the program

Gathers what surrounds a run, does the run and prints what is left of it. No
connection is ever made: every server is out of reach.
-/

set_option autoImplicit false

namespace ReleaseLag.Cli

/-- The number of a system's error. Some are handed on negated. -/
def systemNumber (code : UInt32) : Nat :=
  if code < 0x80000000 then code.toNat else 4294967296 - code.toNat

/-- What a system says of a file that it does not let be read. -/
def systemReason : IO.Error → Text
  | .permissionDenied _ code _ => numbered "Permission denied" code
  | .inappropriateType _ code details => numbered details.capitalize code
  | e => (toString e).toList
where
  /-- A reason and its number. -/
  numbered (reason : String) (code : UInt32) : Text :=
    reason.toList ++ " (os error ".toList ++ Decimal.ofNat (systemNumber code) ++ [')']

/-- The content of a file. -/
def readContent (path : String) : IO Settings.FileContent := do
  try
    let content ← IO.FS.readBinFile path
    return .bytes content.toList
  catch
    | .noFileOrDirectory _ _ _ => return .missing
    | e => return .unreadable (systemReason e)

/-- The directory that the user's settings are kept in. One that the
environment names has to be a whole path; otherwise it is the usual one in the
home directory. A home directory that the environment does not name is not
looked for. -/
def userDirectory? (named home : Option Text) : Option Text :=
  match named.filter fun dir => dir.head? = some '/' with
  | some dir => some dir
  | none => (home.filter fun dir => !dir.isEmpty).map fun dir => dir ++ "/.config".toList

/-- The content of the user's own settings, where there is a directory for
them. A file whose place cannot be looked up is none. -/
def readUserContent : IO Settings.FileContent := do
  let named := (← IO.getEnv "XDG_CONFIG_HOME").map String.toList
  let home := (← IO.getEnv "HOME").map String.toList
  match userDirectory? named home with
  | none => return .missing
  | some dir =>
    let path := String.ofList dir ++ "/" ++ programName ++ "/config.toml"
    try
      let _ ← IO.FS.realPath path
    catch _ =>
      return .missing
    readContent path

/-- Colours are shown on a terminal, unless the environment decides. -/
def showsColor : IO Bool := do
  if let some force ← IO.getEnv "CLICOLOR_FORCE" then
    if force != "0" then
      return true
  if (← IO.getEnv "NO_COLOR").isSome then
    return false
  (← IO.getStdout).isTty

/-- The content of the file that an invocation reads its settings from. -/
def readConfig : Except Halt Invocation → IO Settings.FileContent
  | .ok (.count common _) =>
    match common.config with
    | some path => readContent (String.ofList path)
    | none => return .missing
  | _ => return .missing

end ReleaseLag.Cli

open ReleaseLag.Cli in
/-- Runs the program for its arguments. -/
def main (arguments : List String) : IO UInt32 := do
  let arguments := arguments.map String.toList
  let databaseUrl := (← IO.getEnv "FEATURELAG_DATABASE_URL").map String.toList
  let config ← readConfig (read databaseUrl arguments)
  let output := run
    { databaseUrl, file := fun _ => config, userFile := ← readUserContent,
      server := .unreachable noNetwork, color := ← showsColor } arguments
  IO.print (String.ofList output.stdout)
  IO.eprint (String.ofList output.stderr)
  return output.exit.toUInt32
