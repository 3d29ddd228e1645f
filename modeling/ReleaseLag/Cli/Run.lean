import ReleaseLag.Cli.Arguments
import ReleaseLag.Cli.Report
import ReleaseLag.Cli.Server
import ReleaseLag.Settings.File

/-!
# `ReleaseLag.Cli.Run`: runs of the program

A run is a function of the arguments and of what surrounds the program. It
prints its whole result or, if anything fails, nothing but the error.
-/

set_option autoImplicit false

namespace ReleaseLag.Cli

/-- What surrounds a run: the database URL of the environment, the files, the
server, and whether colours are shown. -/
structure Surroundings where
  databaseUrl : Option Text
  file : Text → Settings.FileContent
  userFile : Settings.FileContent
  server : Server
  color : Bool

/-- What is left of a run. -/
structure Output where
  exit : Nat
  stdout : Text
  stderr : Text
  sent : List Query

/-- The settings of a run. A database URL of the command line or of the
environment stands in for the one of the file. -/
def settings (around : Surroundings) (common : Common) : Except Error Settings := do
  let settings ←
    match common.config with
    | some path => Settings.load (around.file path)
    | none => Settings.loadUser around.userFile
  return { settings with databaseUrl := common.databaseUrl <|> settings.databaseUrl }

/-- The request that options spell. -/
def CountOptions.request (options : CountOptions) (settings : Settings) :
    Except Error Request := do
  let window ← Window.between options.start options.stop
  return { target := options.target, references := options.references, window,
           pageSize := options.pageSize.getD settings.defaultPageSize,
           token := options.pageToken }

/-- One page of a request or, if all are asked for, the records of all of
them on one page. A script with no more answers has an empty page next, so
one page more than it has answers is always enough. -/
def fetch (client : Client) (script : List (List Item)) (all : Bool) (request : Request) :
    Except Error Page × Log :=
  if all then
    let (work, log) := client.pages (.ofScript script) (script.length + 1) [] request
    ((work.getD .never).settled.map fun records => ⟨records, none⟩, log)
  else
    let (work, log) := client.page (.ofScript script) [] request
    (work.settled, log)

/-- A page from the server behind a URL. -/
def query (server : Server) (url : Text) (settings : Settings) (all : Bool) (request : Request) :
    Except Error Page × Log :=
  match server.connect url, Client.ofSettings settings with
  | .error e, _ => (.error e, [])
  | .ok _, .error e => (.error e, [])
  | .ok script, .ok client => fetch client script all request

/-- The end of a run: its result, or its error after the notes that were
printed on the way. The log holds the statements that were sent. -/
def conclude (color : Bool) (notes : Text) (log : Log) : Except Error Text → Output
  | .ok stdout =>
    { exit := 0, stdout, stderr := notes, sent := log.map Query.ofStatement }
  | .error e =>
    { exit := if e.isClientError then 2 else 1, stdout := [],
      stderr := notes ++ Report.error color e, sent := log.map Query.ofStatement }

/-- The run of a count whose settings and request are known. -/
def countWith (around : Surroundings) (verbose : Bool) (options : CountOptions)
    (settings : Settings) (request : Request) : Output :=
  let color := around.color
  if options.dryRun then
    conclude color [] [] ((Lagging.statement request settings.maxPageSize).map
      (Report.statement color))
  else
    match settings.databaseUrl with
    | none => conclude color [] [] (.error (.config .noDatabaseUrl))
    | some url =>
      let notes := if verbose then Report.connecting color url else []
      let (page, log) := query around.server url settings options.all request
      conclude color notes log (page.map (Report.page color options.format))

/-- The run of a count. Settings are looked at before the request. -/
def count (around : Surroundings) (common : Common) (options : CountOptions) : Output :=
  match settings around common with
  | .error e => conclude around.color [] [] (.error e)
  | .ok settings =>
    match options.request settings with
    | .error e => conclude around.color [] [] (.error e)
    | .ok request => countWith around common.verbose options settings request

/-- The run of an invocation. -/
def Invocation.run (around : Surroundings) : Invocation → Output
  | .count common options => Cli.count around common options
  | .template =>
    conclude around.color [] []
      ((Lagging.template.mapError .template).map (Report.template around.color))

/-- What is shown when no command is run. -/
def Halt.output (color : Bool) : Halt → Output
  | .help => { exit := 0, stdout := usageText, stderr := [], sent := [] }
  | .version =>
    { exit := 0, stdout := (programName ++ " 0.1.0\n").toList, stderr := [], sent := [] }
  | .usage e => { exit := 2, stdout := [], stderr := e.text color, sent := [] }

/-- The run of the program for some arguments. -/
def run (around : Surroundings) (arguments : List Text) : Output :=
  match read around.databaseUrl arguments with
  | .ok invocation => invocation.run around
  | .error halt => halt.output around.color

end ReleaseLag.Cli
