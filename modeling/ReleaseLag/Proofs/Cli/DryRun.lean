import ReleaseLag.Proofs.Cli.Flag
import ReleaseLag.Proofs.Cli.Stages
import ReleaseLag.Proofs.Paging.Run

/-!
# `ReleaseLag.Proofs.Cli.DryRun`: what a dry run says about a real one

A dry run builds a statement and prints it. A real run makes a client, which
checks the settings and the template once more, and the client builds its own
statement. Settings that were loaded have passed the check already, so the client
is there, with the limit that the dry run went by (`ofSettings_of_loads`). From then
on both have the statement of one request. If it is refused, the real run sends
nothing and tells the same error (`fetch_of_refused`); if not, it is the first
thing the real run sends (`fetch_of_accepted`).

`dryRun_agrees` says so for all arguments that spell a count, and for any server
that can be reached. What is printed is said by the grammars of
`Proofs.Cli.Reports`, and what is sent by `Carries`.
-/

set_option autoImplicit false

namespace ReleaseLag.Proofs.Cli

open ReleaseLag.Cli
open ReleaseLag.Proofs.Lagging
open ReleaseLag.Proofs.Paging

/-! ### Pages for a request -/

section

variable {client : Client} {script : List (List Item)} {request : Request}

/-- A request that is refused is not sent, be it for one page or for all. -/
theorem fetch_of_refused {e : Error} (h : client.statement request = .error e) (all : Bool) :
    fetch client script all request = (.error e, []) := by
  cases all with
  | false =>
    rw [fetch, page_of_refused h]
    rfl
  | true =>
    rw [fetch, pages_of_refused h]
    rfl

/-- The first statement that is sent is that of the request, be it for one page or
for all. -/
theorem fetch_of_accepted {s : Statement} (h : client.statement request = .ok s) (all : Bool) :
    ∃ asked, (fetch client script all request).2 = s :: asked := by
  cases all with
  | false =>
    refine ⟨[], ?_⟩
    show (client.page (.ofScript script) [] request).2 = [s]
    rw [Client.page, h]
    rfl
  | true => exact first_of_pages h script.length []

end

/-! ### Two runs side by side -/

/-- Why a count has no statement: it has no request, or its request is refused. -/
inductive Unstated (around : Surroundings) (common : Common) (options : CountOptions) :
    Error → Prop
  | unspelt {e : Error} (h : Unspelt around common options e) : Unstated around common options e
  | refused {s : Settings} {request : Request} {e : Error}
      (hspells : Spells around common options s request)
      (h : Lagging.statement request s.maxPageSize = .error e) : Unstated around common options e

/-- What a dry run and a real run of the same options come to:

1. `unsent`: the dry run sends nothing;
2. `fails_iff`: the dry run fails if and only if the real run fails before it
   sends anything;
3. `same_error`: then both end with the same code and print the lines of the same
   error. The real run may say first where it connects to;
4. `same_statement`: otherwise the dry run prints a statement, and the first query
   that the real run sends is its positional text with its values in order. -/
structure Agree (around : Surroundings) (common : Common) (options : CountOptions)
    (dry real : Output) : Prop where
  unsent : dry.sent = []
  fails_iff : dry.exit ≠ 0 ↔ real.exit ≠ 0 ∧ real.sent = []
  same_error : dry.exit ≠ 0 → real.exit = dry.exit ∧ ∃ e notes,
    Unstated around common options e ∧ Shows around.color (IsError e) dry.stderr
      ∧ Shows around.color IsNote notes ∧ real.stderr = notes ++ dry.stderr
  same_statement : dry.exit = 0 → ∃ s request statement values later,
    Spells around common options s request
      ∧ Lagging.statement request s.maxPageSize = .ok statement
      ∧ Shows around.color (IsStatement statement) dry.stdout
      ∧ List.Forall₂ Carries statement.positionalParams values
      ∧ real.sent = ⟨statement.positionalSql, values⟩ :: later

variable {around : Surroundings} {common : Common} {options : CountOptions}

/-- A run that fails does not end with code 0. -/
theorem exit_ne_zero_of_error (color : Bool) (notes : Text) (log : Log) (e : Error) :
    (conclude color notes log (.error e)).exit ≠ 0 := by
  show (if e.isClientError then 2 else 1) ≠ 0
  split
  · decide
  · decide

/-- Runs that fail alike before anything is sent agree. -/
theorem agree_of_error {notes : Text} {e : Error} (he : Unstated around common options e)
    (hnotes : Shows around.color IsNote notes) :
    Agree around common options (conclude around.color [] [] (.error e))
      (conclude around.color notes [] (.error e)) := by
  -- Neither ends with code 0, so all that is left is to compare what they tell.
  have hdry := exit_ne_zero_of_error around.color [] [] e
  have hreal := exit_ne_zero_of_error around.color notes [] e
  refine ⟨rfl, iff_of_true hdry ⟨hreal, rfl⟩, ?_, fun hzero => absurd hzero hdry⟩
  intro _
  exact ⟨rfl, e, notes, he, shows_error around.color e, hnotes, rfl⟩

/-- What was sent does not depend on how a run ends. -/
theorem sent_conclude (color : Bool) (notes : Text) (log : Log) (result : Except Error Text) :
    (conclude color notes log result).sent = log.map Query.ofStatement := by
  cases result with
  | error e => rfl
  | ok stdout => rfl

/-- A dry run that prints a statement agrees with a run that sends it first. -/
theorem agree_of_accepted {s : Settings} {request : Request} {statement : Statement}
    (hspells : Spells around common options s request)
    (hstatement : Lagging.statement request s.maxPageSize = .ok statement) (notes : Text)
    (asked : Log) (result : Except Error Text) :
    Agree around common options
      (conclude around.color [] [] (.ok (Report.statement around.color statement)))
      (conclude around.color notes (statement :: asked) result) := by
  have hsent := sent_conclude around.color notes (statement :: asked) result
  refine ⟨rfl, ?_, fun hfails => absurd rfl hfails, ?_⟩
  · refine iff_of_false (fun hfails => hfails rfl) ?_
    rintro ⟨-, hnothing⟩
    rw [hsent] at hnothing
    cases hnothing
  · intro _
    exact ⟨s, request, statement, _, asked.map Query.ofStatement, hspells, hstatement,
      shows_statement around.color statement, carries_values_iff.mpr rfl, hsent⟩

/-- A count with the flag agrees with the count without it, if the server can be
reached. -/
theorem agree_of_count (hreal : options.dryRun = false)
    (hreachable : ∀ s, Loads around common (.ok s) →
      ∃ url script, s.databaseUrl = some url ∧ Reaches around.server url (.ok script)) :
    Agree around common options (count around common { options with dryRun := true })
      (count around common options) := by
  rcases spells_or_unspelt around common options with ⟨s, request, hspells⟩ | ⟨e, hunspelt⟩
  · obtain ⟨url, script, hurl, hreaches⟩ := hreachable s hspells.loads
    -- From here on both runs have one statement, or one error in its place.
    have hsame : (clientOf s).statement request = Lagging.statement request s.maxPageSize := rfl
    have hdry := hspells.withDryRun true
    cases hstatement : Lagging.statement request s.maxPageSize with
    | error e =>
      have hfetch : fetch (clientOf s) script options.all request = (.error e, []) :=
        fetch_of_refused (hsame.trans hstatement) options.all
      rw [count_of_dryRun rfl hdry hstatement,
        count_of_reaches hreal hspells hurl hreaches hfetch]
      exact agree_of_error (.refused hspells hstatement) (shows_note around.color common.verbose url)
    | ok statement =>
      obtain ⟨asked, hasked⟩ : ∃ asked, (fetch (clientOf s) script options.all request).2
          = statement :: asked := fetch_of_accepted (hsame.trans hstatement) options.all
      have hfetch : fetch (clientOf s) script options.all request
          = ((fetch (clientOf s) script options.all request).1, statement :: asked) :=
        Prod.ext rfl hasked
      rw [count_of_dryRun rfl hdry hstatement,
        count_of_reaches hreal hspells hurl hreaches hfetch]
      exact agree_of_accepted hspells hstatement _ asked _
  · rw [count_of_unspelt (hunspelt.withDryRun true), count_of_unspelt hunspelt]
    exact agree_of_error (.unspelt hunspelt) (shows_no_note around.color)

/-- For all arguments that spell a count without the flag, there are arguments
with it that spell the same count, and whichever they are, the two runs agree. The
hypotheses:

1. the arguments spell a count, and a real run of it;
2. if the settings can be loaded, they name a database, and it can be reached. -/
theorem dryRun_agrees {around : Surroundings} {arguments : List Text} {common : Common}
    {options : CountOptions}
    (hread : read around.databaseUrl arguments = .ok (.count common options))
    (hreal : options.dryRun = false)
    (hreachable : ∀ s, Loads around common (.ok s) →
      ∃ url script, s.databaseUrl = some url ∧ Reaches around.server url (.ok script)) :
    (∃ front rest, arguments = front ++ "count".toList :: rest
        ∧ read around.databaseUrl (front ++ "count".toList :: "--dry-run".toList :: rest)
          = .ok (.count common { options with dryRun := true }))
      ∧ ∀ dry, read around.databaseUrl dry = .ok (.count common { options with dryRun := true }) →
        Agree around common options (run around dry) (run around arguments) := by
  refine ⟨read_with_dryRun hread hreal, ?_⟩
  intro dry hdry
  rw [run_of_read hdry, run_of_read hread]
  exact agree_of_count hreal hreachable

/-- The arguments of a count over the first month of 2024. -/
def sampleArguments : List Text :=
  ["count".toList, "--target=chrome".toList, "-rfirefox".toList, "--start=2024-01-01".toList,
    "--end=2024-02-01".toList]

/-- The options that `sampleArguments` spell. -/
def sampleOptions : CountOptions where
  target := "chrome".toList
  references := ["firefox".toList]
  start := ⟨1704067200, 0, by decide⟩
  stop := ⟨1706745600, 0, by decide⟩
  pageSize := none
  pageToken := none
  all := false
  dryRun := false
  format := .table

def dryFlag : Text := "--dry-run".toList

/-- An option that is read, and refused with the request. -/
def refusedFlag : Text := "--page-size=0".toList

/-- The options with a page of no rows. -/
def refusedOptions : CountOptions :=
  { sampleOptions with pageSize := some 0 }

/-- A server that has no rows. -/
def sampleUrl : Text := "postgres://localhost/features".toList

/-- The environment names the server, and there are no files. -/
def sampleAround : Surroundings where
  databaseUrl := some sampleUrl
  file _ := .missing
  userFile := .missing
  server := .scripted []
  color := false

/-- The options that are common to all commands. -/
def sampleCommon : Common where
  config := none
  databaseUrl := some sampleUrl
  verbose := false

/-- The default settings with the database of the environment. -/
def sampleSettings : Settings :=
  { Settings.default with databaseUrl := some sampleUrl }

/-- The request of `sampleOptions` under these settings. -/
def sampleRequest : Request where
  target := "chrome".toList
  references := ["firefox".toList]
  window := ⟨sampleOptions.start, sampleOptions.stop⟩
  pageSize := 100
  token := none

/-- The options with a page size of zero spell this request but for the size. -/
def refusedRequest : Request :=
  { sampleRequest with pageSize := 0 }

theorem loads_sample : Loads sampleAround sampleCommon (.ok sampleSettings) :=
  .default rfl rfl

/-- Whatever is loaded from the surroundings names the server, which answers. -/
theorem reachable_sample (s : Settings) (h : Loads sampleAround sampleCommon (.ok s)) :
    ∃ url script, s.databaseUrl = some url ∧ Reaches sampleAround.server url (.ok script) := by
  cases settings_eq_iff.mpr h
  exact ⟨sampleUrl, [], rfl, connect_eq_iff.mp rfl⟩

theorem statement_sample : Lagging.statement sampleRequest 1000 = .ok (built sampleRequest none) := by
  have hacceptable : Acceptable sampleRequest 1000 :=
    ⟨by decide, by decide, by decide, by decide, by decide, by decide, by decide, by decide⟩
  exact statement_eq_ok_iff.mpr ⟨hacceptable, none, .fresh rfl, rfl⟩

/-- A count that is accepted and one that is refused, with the flag and without it.
The statement that is printed for the one is the first that is sent. The error of
the other is told twice, and nothing is sent. -/
theorem dryRun_agrees_sample :
    read sampleAround.databaseUrl sampleArguments = .ok (.count sampleCommon sampleOptions)
      ∧ Agree sampleAround sampleCommon sampleOptions
        (run sampleAround (sampleArguments ++ [dryFlag])) (run sampleAround sampleArguments)
      ∧ IsStatement (built sampleRequest none)
        (run sampleAround (sampleArguments ++ [dryFlag])).stdout
      ∧ (run sampleAround (sampleArguments ++ [dryFlag])).stdout
        = Report.text ["Generated SQL:".toList, Text.trim (built sampleRequest none).sql, [],
          "Parameters:".toList, "  @endAt = 2024-02-01T00:00:00+00:00".toList,
          "  @limit = 100".toList, "  @otherBrowser0 = 'firefox'".toList,
          "  @startAt = 2024-01-01T00:00:00+00:00".toList,
          "  @targetBrowserParam = 'chrome'".toList]
      ∧ (∃ later, (run sampleAround sampleArguments).sent
        = ⟨(built sampleRequest none).positionalSql,
          [.text "firefox".toList, .text "chrome".toList, .micros 757382400000000,
            .micros 760060800000000, .integer 100]⟩ :: later)
      ∧ read sampleAround.databaseUrl (sampleArguments ++ [refusedFlag])
        = .ok (.count sampleCommon refusedOptions)
      ∧ Agree sampleAround sampleCommon refusedOptions
        (run sampleAround (sampleArguments ++ [refusedFlag, dryFlag]))
        (run sampleAround (sampleArguments ++ [refusedFlag]))
      ∧ (run sampleAround (sampleArguments ++ [refusedFlag, dryFlag])).stderr
        = Report.text ["Error: Invalid argument: page size must be positive".toList]
      ∧ (run sampleAround (sampleArguments ++ [refusedFlag])).exit = 2
      ∧ (run sampleAround (sampleArguments ++ [refusedFlag])).sent = [] := by
  -- What is read, and what each dry run concludes.
  have hread : read sampleAround.databaseUrl sampleArguments
      = .ok (.count sampleCommon sampleOptions) := by decide
  have hdry : read sampleAround.databaseUrl (sampleArguments ++ [dryFlag])
      = .ok (.count sampleCommon { sampleOptions with dryRun := true }) := by decide
  have hread' : read sampleAround.databaseUrl (sampleArguments ++ [refusedFlag])
      = .ok (.count sampleCommon refusedOptions) := by decide
  have hdry' : read sampleAround.databaseUrl (sampleArguments ++ [refusedFlag, dryFlag])
      = .ok (.count sampleCommon { refusedOptions with dryRun := true }) := by decide
  have hprinted : run sampleAround (sampleArguments ++ [dryFlag])
      = conclude false [] [] (.ok (Report.statement false (built sampleRequest none))) := by
    rw [run_of_read hdry]
    exact count_of_dryRun rfl ⟨loads_sample, request_eq_ok_iff.mp rfl⟩ statement_sample
  have hprinted' : run sampleAround (sampleArguments ++ [refusedFlag, dryFlag])
      = conclude false [] [] (.error (.invalidArgument .zeroPageSize)) := by
    have hrefused : Lagging.statement refusedRequest 1000
        = .error (.invalidArgument .zeroPageSize) := rfl
    rw [run_of_read hdry']
    exact count_of_dryRun rfl ⟨loads_sample, request_eq_ok_iff.mp rfl⟩ hrefused
  -- What the real runs have to come to then.
  have hagree := (dryRun_agrees hread rfl reachable_sample).2 _ hdry
  have hagree' := (dryRun_agrees hread' rfl reachable_sample).2 _ hdry'
  have hzero : (run sampleAround (sampleArguments ++ [dryFlag])).exit = 0 := by
    rw [hprinted]
    rfl
  have htwo : (run sampleAround (sampleArguments ++ [refusedFlag, dryFlag])).exit = 2 := by
    rw [hprinted']
    rfl
  have hfails := ne_of_eq_of_ne htwo (by decide : (2 : Nat) ≠ 0)
  obtain ⟨s, request, statement, values, later, hspells, hbuilt, hshows, hvalues, hsent⟩ :=
    hagree.same_statement hzero
  cases settings_eq_iff.mpr hspells.loads
  cases request_eq_ok_iff.mpr hspells.asks
  obtain rfl := Except.ok.inj (statement_sample.symm.trans hbuilt)
  refine ⟨hread, hagree, kind_of_shows hshows, ?_, ?_, hread', hagree', ?_, ?_,
    (hagree'.fails_iff.mp hfails).2⟩
  · rw [hprinted]
    show Report.statement false (built sampleRequest none) = _
    rw [Report.statement]
    generalize Text.trim (built sampleRequest none).sql = sql
    rfl
  · rw [carries_values_iff, Query.ofStatement, positionalParams_built] at hvalues
    rw [← hvalues] at hsent
    exact ⟨later, hsent⟩
  · rw [hprinted']
    decide +kernel
  · exact (hagree'.same_error hfails).1.trans htwo

end ReleaseLag.Proofs.Cli
