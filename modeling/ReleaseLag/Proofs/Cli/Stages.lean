import ReleaseLag.Cli.Run
import ReleaseLag.Proofs.Cli.Reports
import ReleaseLag.Proofs.Cli.Wire
import ReleaseLag.Proofs.Settings.Serviceable

/-!
# `ReleaseLag.Proofs.Cli.Stages`: how far a count comes

A count loads its settings, makes a request of its options, and prints a statement
or asks a server. What the first two stages have to come to is said by relations:
`Yields` for what a file comes to, `Loads` for the settings and where they are from,
`Asks` for the request. The program comes to that and to nothing else
(`load_eq_iff`, `settings_eq_iff`, `request_eq_ok_iff`).

A count that does not get past a stage concludes the error there (`count_of_unspelt`).
Settings that were loaded have passed their check, so there is always a client for
them (`ofSettings_of_loads`), and a count that reaches a server concludes what it gets
from it (`count_of_reaches`).
-/

set_option autoImplicit false

namespace ReleaseLag.Proofs.Cli

open ReleaseLag.Cli
open ReleaseLag.Proofs.Settings

variable {around : Surroundings} {common : Common} {options : CountOptions}

/-! ### Settings -/

/-- The file that settings are read from: the one that is named, or else the user's
own if it is there. -/
inductive HasFile (around : Surroundings) (common : Common) : Settings.FileContent → Prop
  | named {path : Text} (h : common.config = some path) : HasFile around common (around.file path)
  | user (hunnamed : common.config = none) (hthere : around.userFile ≠ .missing) :
      HasFile around common around.userFile

/-- What a file comes to: the settings of the document in it, or the error of a file
that is not there, that cannot be read or that is no text. -/
inductive Yields : Settings.FileContent → Except Error Settings → Prop
  | missing : Yields .missing (.error (.io .missing))
  | unreadable (reason : Text) : Yields (.unreadable reason) (.error (.io (.unreadable reason)))
  | notUtf8 {content : Bytes} (h : Text.ofUtf8? content = none) :
      Yields (.bytes content) (.error (.io .notUtf8))
  | document {content : Bytes} {document : Text} (h : Text.ofUtf8? content = some document) :
      Yields (.bytes content) (Settings.ofToml document)

/-- What loading settings comes to: those of the file or its error, and without a
file the default ones. A database URL of the command line or of the environment takes
the place of theirs. -/
inductive Loads (around : Surroundings) (common : Common) : Except Error Settings → Prop
  | file {content : Settings.FileContent} {s : Settings} (hfile : HasFile around common content)
      (h : Yields content (.ok s)) :
      Loads around common (.ok { s with databaseUrl := common.databaseUrl <|> s.databaseUrl })
  | fault {content : Settings.FileContent} {e : Error} (hfile : HasFile around common content)
      (h : Yields content (.error e)) : Loads around common (.error e)
  | default (hunnamed : common.config = none) (hmissing : around.userFile = .missing) :
      Loads around common (.ok { Settings.default with databaseUrl := common.databaseUrl })

theorem load_eq_iff {content : Settings.FileContent} {loaded : Except Error Settings} :
    Settings.load content = loaded ↔ Yields content loaded := by
  cases content with
  | missing =>
    constructor
    · rintro rfl
      exact .missing
    · rintro ⟨⟩
      rfl
  | unreadable reason =>
    constructor
    · rintro rfl
      exact .unreadable reason
    · rintro ⟨⟩
      rfl
  | bytes content =>
    rw [Settings.load, Settings.FileContent.text]
    constructor
    · rintro rfl
      cases h : Text.ofUtf8? content with
      | none => exact .notUtf8 h
      | some document => exact .document h
    · intro h
      cases h with
      | notUtf8 h =>
        rw [h]
        rfl
      | document h =>
        rw [h]
        rfl

/-- With a file, the settings are those of the file. -/
theorem settings_of_hasFile {content : Settings.FileContent} (hfile : HasFile around common content) :
    settings around common = (Settings.load content).map fun s =>
      { s with databaseUrl := common.databaseUrl <|> s.databaseUrl } := by
  have hload : settings around common = (Settings.load content >>= fun s =>
      .ok { s with databaseUrl := common.databaseUrl <|> s.databaseUrl }) := by
    cases hfile with
    | named h =>
      rw [settings, h]
      rfl
    | user hunnamed hthere =>
      -- A file that cannot be read is there: it is loaded, and fails as a named one does.
      rw [settings, hunnamed]
      cases huser : around.userFile with
      | missing => exact absurd huser hthere
      | unreadable reason => rfl
      | bytes content => rfl
  rw [hload]
  cases Settings.load content <;> rfl

/-- Without a file, they are the default ones. -/
theorem settings_of_missing (hunnamed : common.config = none)
    (hmissing : around.userFile = .missing) :
    settings around common
      = .ok { Settings.default with databaseUrl := common.databaseUrl } := by
  rw [settings, hunnamed, hmissing]
  show Except.ok { Settings.default with databaseUrl := common.databaseUrl <|> none } = _
  cases common.databaseUrl <;> rfl

theorem loads_of_hasFile {content : Settings.FileContent} (hfile : HasFile around common content) :
    Loads around common (settings around common) := by
  rw [settings_of_hasFile hfile]
  cases h : Settings.load content with
  | error e => exact .fault hfile (load_eq_iff.mp h)
  | ok s => exact .file hfile (load_eq_iff.mp h)

theorem settings_eq_iff {loaded : Except Error Settings} :
    settings around common = loaded ↔ Loads around common loaded := by
  constructor
  · rintro rfl
    cases hconfig : common.config with
    | some path => exact loads_of_hasFile (.named hconfig)
    | none =>
      by_cases huser : around.userFile = .missing
      · rw [settings_of_missing hconfig huser]
        exact .default hconfig huser
      · exact loads_of_hasFile (.user hconfig huser)
  · intro h
    cases h with
    | file hfile h =>
      rw [settings_of_hasFile hfile, load_eq_iff.mpr h]
      rfl
    | fault hfile h =>
      rw [settings_of_hasFile hfile, load_eq_iff.mpr h]
      rfl
    | default hunnamed hmissing => exact settings_of_missing hunnamed hmissing

/-- Settings that were loaded pass the check, wherever their database URL is from. -/
theorem check_of_loads {s : Settings} (h : Loads around common (.ok s)) : s.check = .ok () := by
  -- The check does not look at the URL.
  have hurl : ∀ (loaded : Settings) (url : Option Text),
      ({ loaded with databaseUrl := url } : Settings).check = loaded.check := fun _ _ => rfl
  cases h with
  | file _ h => rw [hurl, check_of_load (load_eq_iff.mpr h)]
  | default _ _ => rfl

/-- The client for settings: its pages are no larger than they say, and its limit is
theirs in milliseconds. -/
def clientOf (s : Settings) : Client where
  maxPageSize := s.maxPageSize
  timeoutMs := s.queryTimeoutSecs.map (· * 1000)

/-- There is a client for settings that were loaded. -/
theorem ofSettings_of_loads {s : Settings} (h : Loads around common (.ok s)) :
    Client.ofSettings s = .ok (clientOf s) :=
  ofSettings_of_check (check_of_loads h)

/-! ### Requests -/

/-- A request is the one that options spell. Its page size is that of the settings
if the options name none. -/
structure Asks (options : CountOptions) (s : Settings) (request : Request) : Prop where
  target : request.target = options.target
  references : request.references = options.references
  start : request.window.start = options.start
  stop : request.window.stop = options.stop
  ordered : options.start < options.stop
  pageSize : request.pageSize = options.pageSize.getD s.defaultPageSize
  token : request.token = options.pageToken

/-- The settings and the request of a count. -/
structure Spells (around : Surroundings) (common : Common) (options : CountOptions) (s : Settings)
    (request : Request) : Prop where
  loads : Loads around common (.ok s)
  asks : Asks options s request

/-- Why a count has no request: its settings cannot be loaded, or its window does not
begin before its end. -/
inductive Unspelt (around : Surroundings) (common : Common) (options : CountOptions) :
    Error → Prop
  | settings {e : Error} (h : Loads around common (.error e)) : Unspelt around common options e
  | window {s : Settings} (hloads : Loads around common (.ok s))
      (h : ¬options.start < options.stop) :
      Unspelt around common options (.invalidArgument (.windowOrder options.start options.stop))

theorem request_eq (options : CountOptions) (s : Settings) :
    options.request s
      = if options.start < options.stop then
          .ok ⟨options.target, options.references, ⟨options.start, options.stop⟩,
            options.pageSize.getD s.defaultPageSize, options.pageToken⟩
        else .error (.invalidArgument (.windowOrder options.start options.stop)) := by
  rw [CountOptions.request, Window.between, Window.check]
  split
  · rfl
  · rfl

theorem request_eq_ok_iff {s : Settings} {request : Request} :
    options.request s = .ok request ↔ Asks options s request := by
  rw [request_eq]
  constructor
  · intro h
    split at h
    · next hordered =>
      cases h
      exact ⟨rfl, rfl, rfl, rfl, hordered, rfl, rfl⟩
    · cases h
  · rintro ⟨htarget, hreferences, hstart, hstop, hordered, hpageSize, htoken⟩
    rw [if_pos hordered, ← htarget, ← hreferences, ← hstart, ← hstop, ← hpageSize, ← htoken]

/-- A count has its settings and its request, or an error in their place. The order
of a window is all that a request is held against so far. -/
theorem spells_or_unspelt (around : Surroundings) (common : Common) (options : CountOptions) :
    (∃ s request, Spells around common options s request)
      ∨ ∃ e, Unspelt around common options e := by
  cases hsettings : settings around common with
  | error e => exact .inr ⟨e, .settings (settings_eq_iff.mp hsettings)⟩
  | ok s =>
    have hloads := settings_eq_iff.mp hsettings
    by_cases hordered : options.start < options.stop
    · have hrequest := request_eq options s
      rw [if_pos hordered] at hrequest
      exact .inl ⟨s, _, hloads, request_eq_ok_iff.mp hrequest⟩
    · exact .inr ⟨_, .window hloads hordered⟩

/-- Whether a run is a dry one is no part of what its options spell. -/
theorem Spells.withDryRun {s : Settings} {request : Request}
    (h : Spells around common options s request) (dryRun : Bool) :
    Spells around common { options with dryRun } s request :=
  ⟨h.loads, h.asks.target, h.asks.references, h.asks.start, h.asks.stop, h.asks.ordered,
    h.asks.pageSize, h.asks.token⟩

theorem Unspelt.withDryRun {e : Error} (h : Unspelt around common options e) (dryRun : Bool) :
    Unspelt around common { options with dryRun } e := by
  cases h with
  | settings h => exact .settings h
  | window hloads h => exact .window hloads h

/-! ### What a count concludes -/

section

variable {s : Settings} {request : Request}

theorem run_of_read {arguments : List Text}
    (h : read around.databaseUrl arguments = .ok (.count common options)) :
    run around arguments = count around common options := by
  rw [run, h]
  rfl

theorem count_of_unspelt {e : Error} (h : Unspelt around common options e) :
    count around common options = conclude around.color [] [] (.error e) := by
  cases h with
  | settings h => rw [count, settings_eq_iff.mpr h]
  | @window s hloads h =>
    have hrequest := request_eq options s
    rw [if_neg h] at hrequest
    simp only [count, settings_eq_iff.mpr hloads, hrequest]

theorem count_of_spells (h : Spells around common options s request) :
    count around common options = countWith around common.verbose options s request := by
  simp only [count, settings_eq_iff.mpr h.loads, request_eq_ok_iff.mpr h.asks]

/-- A dry run concludes the statement of its request. -/
theorem count_of_dryRun {stated : Except Error Statement} (hdry : options.dryRun = true)
    (hspells : Spells around common options s request)
    (hstatement : Lagging.statement request s.maxPageSize = stated) :
    count around common options
      = conclude around.color [] [] (stated.map (Report.statement around.color)) := by
  rw [count_of_spells hspells]
  simp only [countWith, hdry, hstatement, if_true]

/-- A count that names no server says so. -/
theorem count_of_unnamed (hreal : options.dryRun = false)
    (hspells : Spells around common options s request) (h : s.databaseUrl = none) :
    count around common options
      = conclude around.color [] [] (.error (.config .noDatabaseUrl)) := by
  rw [count_of_spells hspells]
  simp only [countWith, hreal, h]
  rfl

/-- A count that reaches no server concludes why. -/
theorem count_of_unreached {url : Text} {e : Error} (hreal : options.dryRun = false)
    (hspells : Spells around common options s request) (hurl : s.databaseUrl = some url)
    (h : Reaches around.server url (.error e)) :
    count around common options
      = conclude around.color (if common.verbose then Report.connecting around.color url else []) []
        (.error e) := by
  rw [count_of_spells hspells]
  simp only [countWith, hreal, hurl, query, connect_eq_iff.mpr h]
  rfl

/-- A count that reaches a server concludes what is got from it. -/
theorem count_of_reaches {url : Text} {script : List (List Item)} {got : Except Error Page × Log}
    (hreal : options.dryRun = false) (hspells : Spells around common options s request)
    (hurl : s.databaseUrl = some url) (hreaches : Reaches around.server url (.ok script))
    (hfetch : fetch (clientOf s) script options.all request = got) :
    count around common options
      = conclude around.color (if common.verbose then Report.connecting around.color url else [])
        got.2 (got.1.map (Report.page around.color options.format)) := by
  subst hfetch
  rw [count_of_spells hspells]
  simp only [countWith, hreal, hurl, query, connect_eq_iff.mpr hreaches,
    ofSettings_of_loads hspells.loads]
  rfl

end

end ReleaseLag.Proofs.Cli
