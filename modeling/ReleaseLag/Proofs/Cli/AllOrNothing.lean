import ReleaseLag.Cli.Run
import ReleaseLag.Proofs.Cli.DryRun
import ReleaseLag.Proofs.Paging.Scripted

/-!
# `ReleaseLag.Proofs.Cli.AllOrNothing`: a count prints its whole result or nothing

A count can fail before it is ready to ask for a page (`Unready`), and on any of
its pages (`Broken`). Otherwise it has its `Whole` result. The stages are gone
through one after the other and only the last step prints, so nothing is out
before it is known how the run ends (`ending_of_count`).

For all pages of a request there has to be an end. A server replies at once and
has finitely many answers, so the run comes to its end within the pages that it
is allowed (`pages_settle`): with the records of pages that follow each other, or
with the error of a page after pages that were read (`fetch_ends`). Replies with a
fault are such an error wherever in the run they are given (`fetch_of_spoilt`).

A result is printed if the output holds it as `ShowsPage` says, in the format that
was asked for. An error is told by its `IsError` lines.
-/

set_option autoImplicit false

namespace ReleaseLag.Proofs.Cli

open ReleaseLag.Cli
open ReleaseLag.Proofs.Lagging
open ReleaseLag.Proofs.Paging

/-! ### Stages of a count -/

/-- A count is ready to ask for its first page: it has its settings and its request,
and there is a server that answers. -/
inductive Ready (around : Surroundings) (common : Common) (options : CountOptions) :
    Client → List (List Item) → Request → Prop
  | intro {s : Settings} {request : Request} {url : Text} {script : List (List Item)}
      (hspells : Spells around common options s request) (hurl : s.databaseUrl = some url)
      (hreaches : Reaches around.server url (.ok script)) :
      Ready around common options (clientOf s) script request

/-- What keeps a count from being ready: settings or a request that it does not
have, a server that is not named or one that is not reached. -/
inductive Unready (around : Surroundings) (common : Common) (options : CountOptions) : Error → Prop
  | unspelt {e : Error} (h : Unspelt around common options e) : Unready around common options e
  | unnamed {s : Settings} {request : Request} (hspells : Spells around common options s request)
      (h : s.databaseUrl = none) : Unready around common options (.config .noDatabaseUrl)
  | unreached {s : Settings} {request : Request} {url : Text} {e : Error}
      (hspells : Spells around common options s request) (hurl : s.databaseUrl = some url)
      (h : Reaches around.server url (.error e)) : Unready around common options e

/-- The whole result of a request: its page, or the records of all pages from
it to the last. -/
inductive Whole (client : Client) (script : List (List Item)) (request : Request) :
    Bool → Page → Log → Prop
  | one {page : Page} {log : Log}
      (hpage : client.page (.ofScript script) [] request = (.now (.ok page), log)) :
      Whole client script request false page log
  | all {pages : List Page} {log : Log}
      (hfollows : Follows client (.ofScript script) [] request pages log) :
      Whole client script request true ⟨pages.flatMap Page.records, none⟩ log

/-- The error in place of a page: the one that is asked for, or any after pages
that were read. -/
inductive Broken (client : Client) (script : List (List Item)) (request : Request) :
    Bool → Error → Log → Prop
  | one {e : Error} {log : Log}
      (hpage : client.page (.ofScript script) [] request = (.now (.error e), log)) :
      Broken client script request false e log
  | all {pages : List Page} {ms later : Nat} {between log : Log} {q : Request} {e : Error}
      (hreads : Reads client (.ofScript script) [] request pages ms between q)
      (hpage : client.page (.ofScript script) between q = (.after later (.error e), log)) :
      Broken client script request true e log

/-! ### Pages from a server -/

/-- What is got for a request is its whole result, or an error and nothing
else. -/
theorem fetch_ends {script : List (List Item)}
    (hprompt : ∀ answer ∈ script, ∀ item ∈ answer, Prompt item) (client : Client) (all : Bool)
    (request : Request) :
    (∃ page log, fetch client script all request = (.ok page, log)
        ∧ Whole client script request all page log)
      ∨ ∃ e log, fetch client script all request = (.error e, log)
        ∧ Broken client script request all e log := by
  cases all with
  | false =>
    obtain ⟨result, log, hpage⟩ := page_settles hprompt client [] request
    have hfetch : fetch client script false request = (result, log) := by
      rw [fetch, hpage]
      rfl
    cases result with
    | ok page => exact .inl ⟨page, log, hfetch, .one hpage⟩
    | error e => exact .inr ⟨e, log, hfetch, .one hpage⟩
  | true =>
    have hfuel : script.length < ([] : Log).length + (script.length + 1) := by simp
    obtain ⟨ms, result, log, hpages⟩ :=
      pages_settle hprompt client (Nat.succ_pos script.length) hfuel request
    have hfetch : fetch client script true request
        = (result.map fun records => ⟨records, none⟩, log) := by
      rw [fetch, hpages]
      rfl
    cases result with
    | ok records =>
      obtain ⟨pages, hfollows, rfl⟩ := follows_of_pages hpages
      exact .inl ⟨_, log, hfetch, .all hfollows⟩
    | error e =>
      obtain ⟨pages, ms, between, q, later, hreads, hpage⟩ := reads_of_pages hpages
      exact .inr ⟨e, log, hfetch, .all hreads hpage⟩

/-- Pages that follow each other to the last are printed as one. -/
theorem fetch_of_follows {client : Client} {script : List (List Item)} {request : Request}
    {pages : List Page} {log : Log} (h : Follows client (.ofScript script) [] request pages log)
    (hfuel : pages.length ≤ script.length + 1) :
    fetch client script true request = (.ok ⟨pages.flatMap Page.records, none⟩, log) := by
  obtain ⟨ms, hpages⟩ := h.pages_eq
  obtain ⟨more, hmore⟩ := Nat.exists_eq_add_of_le hfuel
  rw [fetch, hmore, hpages]
  rfl

/-! ### Ends of a run -/

/-- An error is the fault of the request. -/
def OfRequest (e : Error) : Prop :=
  (∃ fault, e = .invalidArgument fault) ∨ ∃ fault, e = .invalidCursor fault

theorem isClientError_iff {e : Error} : e.isClientError = true ↔ OfRequest e := by
  cases e <;> simp [Error.isClientError, OfRequest]

/-- A run that prints a page. -/
structure Prints (around : Surroundings) (options : CountOptions) (page : Page) (log : Log)
    (output : Output) : Prop where
  exit : output.exit = 0
  stdout : ShowsPage around.color page options.format output.stdout
  stderr : Shows around.color IsNote output.stderr
  sent : output.sent = log.map Query.ofStatement

/-- A run that prints nothing but an error, behind a note if any. Its code says
whose fault that is. -/
structure Refuses (around : Surroundings) (e : Error) (log : Log) (output : Output) : Prop where
  stdout : output.stdout = []
  stderr : ∃ notes lines, Shows around.color IsNote notes ∧ Shows around.color (IsError e) lines
    ∧ output.stderr = notes ++ lines
  exit_eq_two : output.exit = 2 ↔ OfRequest e
  exit_eq_one : output.exit = 1 ↔ ¬OfRequest e
  sent : output.sent = log.map Query.ofStatement

/-- An error is concluded with nothing printed. -/
theorem refuses_conclude {around : Surroundings} {notes : Text}
    (hnotes : Shows around.color IsNote notes) (log : Log) (e : Error) :
    Refuses around e log (conclude around.color notes log (.error e)) := by
  have hexit : (conclude around.color notes log (.error e)).exit
      = if e.isClientError then 2 else 1 := rfl
  have hstderr : ∃ notes' lines, Shows around.color IsNote notes'
      ∧ Shows around.color (IsError e) lines
      ∧ (conclude around.color notes log (.error e)).stderr = notes' ++ lines :=
    ⟨notes, _, hnotes, shows_error around.color e, rfl⟩
  cases hclient : e.isClientError with
  | true =>
    have hof : OfRequest e := isClientError_iff.mp hclient
    rw [hclient, if_pos rfl] at hexit
    exact ⟨rfl, hstderr, iff_of_true hexit hof, iff_of_false (by omega) (not_not_intro hof), rfl⟩
  | false =>
    have hnot : ¬OfRequest e := by
      rw [← isClientError_iff, hclient]
      exact Bool.false_ne_true
    rw [hclient, if_neg Bool.false_ne_true] at hexit
    exact ⟨rfl, hstderr, iff_of_false (by omega) hnot, iff_of_true hexit hnot, rfl⟩

/-- How a count ends: with its whole result, or with nothing because it was not
ready or because a page broke. -/
inductive Ending (around : Surroundings) (common : Common) (options : CountOptions)
    (output : Output) : Prop
  | whole {client : Client} {script : List (List Item)} {request : Request} {page : Page} {log : Log}
      (hready : Ready around common options client script request)
      (hwhole : Whole client script request options.all page log)
      (hprints : Prints around options page log output)
  | unready {e : Error} (hunready : Unready around common options e)
      (hrefuses : Refuses around e [] output)
  | broken {client : Client} {script : List (List Item)} {request : Request} {e : Error} {log : Log}
      (hready : Ready around common options client script request)
      (hbroken : Broken client script request options.all e log)
      (hrefuses : Refuses around e log output)

variable {around : Surroundings} {common : Common} {options : CountOptions} {client : Client}
  {script : List (List Item)} {request : Request}

/-- A count is ready, or something keeps it from that. -/
theorem ready_or_unready (around : Surroundings) (common : Common) (options : CountOptions) :
    (∃ client script request, Ready around common options client script request)
      ∨ ∃ e, Unready around common options e := by
  rcases spells_or_unspelt around common options with ⟨s, request, hspells⟩ | ⟨e, hunspelt⟩
  · cases hurl : s.databaseUrl with
    | none => exact .inr ⟨_, .unnamed hspells hurl⟩
    | some url =>
      cases hconnect : around.server.connect url with
      | error e => exact .inr ⟨e, .unreached hspells hurl (connect_eq_iff.mp hconnect)⟩
      | ok script =>
        exact .inl ⟨_, script, request, .intro hspells hurl (connect_eq_iff.mp hconnect)⟩
  · exact .inr ⟨e, .unspelt hunspelt⟩

/-- A count that is not ready concludes what keeps it from that, and sends
nothing. -/
theorem count_of_unready {e : Error} (hreal : options.dryRun = false)
    (hunready : Unready around common options e) :
    ∃ notes, Shows around.color IsNote notes
      ∧ count around common options = conclude around.color notes [] (.error e) := by
  cases hunready with
  | unspelt h => exact ⟨[], shows_no_note _, count_of_unspelt h⟩
  | unnamed hspells h => exact ⟨[], shows_no_note _, count_of_unnamed hreal hspells h⟩
  | @unreached _ _ url _ hspells hurl h =>
    exact ⟨_, shows_note around.color common.verbose url,
      count_of_unreached hreal hspells hurl h⟩

/-- A count that is ready concludes what is got for its request. -/
theorem count_of_ready {got : Except Error Page × Log} (hreal : options.dryRun = false)
    (hready : Ready around common options client script request)
    (hfetch : fetch client script options.all request = got) :
    ∃ notes, Shows around.color IsNote notes
      ∧ count around common options
        = conclude around.color notes got.2
          (got.1.map (Report.page around.color options.format)) := by
  cases hready with
  | @intro _ _ url _ hspells hurl hreaches =>
    exact ⟨_, shows_note around.color common.verbose url,
      count_of_reaches hreal hspells hurl hreaches hfetch⟩

/-- What a ready count is answered from is sent at once. -/
theorem prompt_of_ready (hready : Ready around common options client script request) :
    ∀ answer ∈ script, ∀ item ∈ answer, Prompt item := by
  cases hready with
  | intro _ _ hreaches => exact prompt_of_reaches hreaches

/-- A ready count is answered with the replies of its server. -/
theorem script_of_ready {replies : List (List Reply)} (hserver : around.server = .scripted replies)
    (hready : Ready around common options client script request) :
    script = replies.map fun sent => sent.map Reply.item := by
  cases hready with
  | intro _ _ hreaches =>
    obtain ⟨found, hfound, hscript⟩ := exists_replies_of_reaches hreaches
    rw [hserver] at hfound
    cases hfound
    exact hscript

/-- A count ends in one of three ways. -/
theorem ending_of_count (hreal : options.dryRun = false) :
    Ending around common options (count around common options) := by
  rcases ready_or_unready around common options with
    ⟨client, script, request, hready⟩ | ⟨e, hunready⟩
  · -- A server that answers leads to an end, so there is no third case.
    rcases fetch_ends (prompt_of_ready hready) client options.all request with
      ⟨page, log, hfetch, hwhole⟩ | ⟨e, log, hfetch, hbroken⟩
    · obtain ⟨notes, hnotes, hcount⟩ := count_of_ready hreal hready hfetch
      rw [hcount]
      exact .whole hready hwhole ⟨rfl, showsPage_page _ options.format page, hnotes, rfl⟩
    · obtain ⟨notes, hnotes, hcount⟩ := count_of_ready hreal hready hfetch
      rw [hcount]
      exact .broken hready hbroken (refuses_conclude hnotes log e)
  · obtain ⟨notes, hnotes, hcount⟩ := count_of_unready hreal hunready
    rw [hcount]
    exact .unready hunready (refuses_conclude hnotes [] e)

/-! ### A page that breaks -/

/-- A record as a server sends it. -/
def replyOf (record : Record) : Reply :=
  .row (some record.releaseDate) (some record.count)

/-- A reply that spoils a page after a row of a date: a failure of the server, a
cell that is null, or a row that is not older. -/
inductive Spoils : Option Instant → Reply → Prop
  | failure {previous : Option Instant} (message : Text) : Spoils previous (.fail message)
  | date {previous : Option Instant} (count : Option Int) : Spoils previous (.row none count)
  | count {previous : Option Instant} (releaseDate : Instant) :
      Spoils previous (.row (some releaseDate) none)
  | order {before releaseDate : Instant} (count : Int) (hlate : before ≤ releaseDate) :
      Spoils (some before) (.row (some releaseDate) (some count))

/-- Replies have such a fault behind rows that are in order. -/
def Spoilt (replies : List Reply) : Prop :=
  ∃ records reply rest, replies = records.map replyOf ++ reply :: rest ∧ Descending records
    ∧ Spoils (lastDate none records) reply

/-- The error of such a reply is not the fault of the request. -/
theorem offends_of_spoils {previous : Option Instant} {reply : Reply} (h : Spoils previous reply) :
    ∃ e, Offends previous reply.item e ∧ ¬OfRequest e := by
  cases h with
  | failure message => exact ⟨_, .failure, by simp [OfRequest]⟩
  | date count => exact ⟨_, .date, by simp [OfRequest]⟩
  | count releaseDate => exact ⟨_, .count, by simp [OfRequest]⟩
  | order count hlate => exact ⟨_, .order hlate, by simp [OfRequest]⟩

/-- The page of such replies is the error. -/
theorem pageOf_of_spoilt {replies : List Reply} (h : Spoilt replies) (pageSize : Nat) :
    ∃ e, pageOf pageSize (replies.map Reply.item) = .error e ∧ ¬OfRequest e := by
  obtain ⟨records, reply, rest, rfl, hdesc, hspoils⟩ := h
  obtain ⟨e, hoffends, hnot⟩ := offends_of_spoils hspoils
  have hfront : (records.map replyOf).map Reply.item = records.map itemOf := List.map_map
  have hprompt : ∀ item ∈ records.map itemOf, Prompt item := by
    intro item hmem
    obtain ⟨record, -, rfl⟩ := List.mem_map.mp hmem
    trivial
  have hassemble : Page.assemble pageSize
      (records.map itemOf ++ reply.item :: rest.map Reply.item)
      = .after (waiting (records.map itemOf)) (.error e) :=
    assemble_eq_error_iff.mpr
      ⟨_, _, _, records, rfl, events_of_prompt hprompt, hdesc, hoffends, rfl⟩
  refine ⟨e, ?_, hnot⟩
  rw [List.map_append, hfront, List.map_cons, pageOf, hassemble]
  rfl

/-- All pages that were read are discarded when the replies for the next one have
a fault. There is one query for each of them and one for it. -/
theorem fetch_of_spoilt {replies : List (List Reply)} {sent : List Reply} {pages : List Page}
    {ms : Nat} {between : Log} {q : Request} {s : Statement}
    (hscript : script = replies.map fun sent => sent.map Reply.item)
    (hprompt : ∀ answer ∈ script, ∀ item ∈ answer, Prompt item)
    (hreads : Reads client (.ofScript script) [] request pages ms between q)
    (haccepted : client.statement q = .ok s) (hsent : replies[pages.length]? = some sent)
    (h : Spoilt sent) :
    ∃ e, fetch client script true request = (.error e, between ++ [s]) ∧ ¬OfRequest e
      ∧ (between ++ [s]).length = pages.length + 1 := by
  have hasked : between.length = pages.length := by
    obtain ⟨asked, heq, hlength⟩ := hreads.asked
    rw [heq, List.nil_append, hlength]
  obtain ⟨hacceptable, cursor, hresumes, rfl⟩ := statement_eq_ok_iff.mp haccepted
  have hanswer : answerOf script between.length = sent.map Reply.item := by
    rw [answerOf, hscript, hasked, List.getElem?_map, hsent]
    rfl
  obtain ⟨e, herror, hnot⟩ := pageOf_of_spoilt h q.pageSize
  have hpage : client.page (.ofScript script) between q
      = (.now (.error e), between ++ [built q cursor]) := by
    rw [page_of_script hprompt hacceptable hresumes, hanswer, herror]
  -- The script has an answer for this page, so the run is allowed it.
  have hleft : pages.length < script.length := by
    rw [hscript, List.length_map]
    exact (List.getElem?_eq_some_iff.mp hsent).1
  obtain ⟨more, hmore⟩ := Nat.exists_eq_add_of_le hleft
  have hfuel : script.length + 1 = pages.length + 1 + (more + 1) := by omega
  refine ⟨e, ?_, hnot, ?_⟩
  · rw [fetch, hfuel, hreads.pages_of_error hpage]
    rfl
  · rw [List.length_append, List.length_singleton, hasked]

/-! ### All or nothing -/

/-- A count prints its whole result or nothing:

1. `ends`: it ends with the whole result, code 0 and nothing left out, or it
   prints nothing and its code is 2 exactly if the error is the fault of the
   request, and 1 otherwise;
2. `discards`: if it is for all pages, a fault in the replies for any page
   discards the pages before. The code is 1, and the queries that were sent are
   one for each page up to that one. -/
structure AllOrNothing (around : Surroundings) (common : Common) (options : CountOptions)
    (output : Output) : Prop where
  ends : Ending around common options output
  discards : options.all = true → ∀ replies client script request pages ms between q s sent,
    around.server = .scripted replies → Ready around common options client script request →
    Reads client (.ofScript script) [] request pages ms between q → client.statement q = .ok s →
    replies[pages.length]? = some sent → Spoilt sent →
    output.stdout = [] ∧ output.exit = 1 ∧ output.sent.length = pages.length + 1

/-- Whatever the settings, the request and the server, a count prints its whole
result or nothing. The hypotheses: the arguments spell a count, and not that of
a dry run. -/
theorem count_all_or_nothing {arguments : List Text}
    (hread : read around.databaseUrl arguments = .ok (.count common options))
    (hreal : options.dryRun = false) :
    AllOrNothing around common options (run around arguments) := by
  rw [run_of_read hread]
  refine ⟨ending_of_count hreal, ?_⟩
  intro hall replies client script request pages ms between q s sent hserver hready hreads
    haccepted hsent hspoilt
  obtain ⟨e, hfetch, hnot, hlength⟩ := fetch_of_spoilt (script_of_ready hserver hready)
    (prompt_of_ready hready) hreads haccepted hsent hspoilt
  rw [← hall] at hfetch
  obtain ⟨notes, hnotes, hcount⟩ := count_of_ready hreal hready hfetch
  have hrefuses : Refuses around e (between ++ [s]) (count around common options) :=
    hcount ▸ refuses_conclude hnotes _ e
  refine ⟨hrefuses.stdout, hrefuses.exit_eq_one.mpr hnot, ?_⟩
  rw [hrefuses.sent, List.length_map, hlength]

/-- The arguments of a count of all pages of two rows. -/
def pagedArguments : List Text :=
  sampleArguments ++ ["--page-size=2".toList, "--all".toList]

/-- The options that `pagedArguments` spell. -/
def pagedOptions : CountOptions :=
  { sampleOptions with pageSize := some 2, all := true }

/-- The request of `pagedOptions`. -/
def pagedRequest : Request :=
  { sampleRequest with pageSize := 2 }

/-- The records of a full page. -/
def pagedRecords : List Record :=
  [⟨⟨1705500000, 0, by decide⟩, 5⟩, ⟨⟨1705000000, 0, by decide⟩, 3⟩]

/-- The request that goes on after them. -/
def resumedRequest : Request :=
  { pagedRequest with token := some (Cursor.encode ⟨1705000000, 0, by decide⟩) }

/-- The record of the page after them. -/
def lastRecord : Record :=
  ⟨⟨1704500000, 0, by decide⟩, 8⟩

/-- A row without a count. -/
def nullReply : Reply :=
  .row (some lastRecord.releaseDate) none

/-- A server that has a full page and one reply more. -/
def pagedAround (later : Reply) : Surroundings :=
  { sampleAround with server := .scripted [pagedRecords.map replyOf, [later]] }

/-- What this server answers. -/
def pagedScript (later : Reply) : List (List Item) :=
  [pagedRecords.map itemOf, [later.item]]

/-- The client for the default settings. -/
def pagedClient : Client :=
  clientOf sampleSettings

theorem ready_paged (later : Reply) :
    Ready (pagedAround later) sampleCommon pagedOptions pagedClient (pagedScript later)
      pagedRequest :=
  .intro ⟨.default rfl rfl, request_eq_ok_iff.mp rfl⟩ rfl (connect_eq_iff.mp rfl)

theorem acceptable_paged : Acceptable pagedRequest 1000 :=
  ⟨by decide, by decide, by decide, by decide, by decide, by decide, by decide, by decide⟩

/-- The first page is full, and its last date is in the window. -/
theorem page_paged (later : Reply) :
    pagedClient.page (.ofScript (pagedScript later)) [] pagedRequest
      = (.now (.ok (Page.ofRecords 2 pagedRecords)), [built pagedRequest none]) :=
  page_of_script (prompt_of_ready (ready_paged later)) acceptable_paged (.fresh rfl) []

/-- The same server, but a file with the user's settings that cannot be read. -/
def lockedAround : Surroundings :=
  { pagedAround (replyOf lastRecord) with
    userFile := .unreadable "Permission denied (os error 13)".toList }

/-- Two pages are read and printed as one. If the row of the second page has no
count, the first page is discarded, and there are two queries all the same. If the
settings cannot be read, there is none. -/
theorem count_all_or_nothing_sample :
    read sampleAround.databaseUrl pagedArguments = .ok (.count sampleCommon pagedOptions)
      ∧ pagedOptions.dryRun = false
      ∧ (AllOrNothing (pagedAround (replyOf lastRecord)) sampleCommon pagedOptions
          (run (pagedAround (replyOf lastRecord)) pagedArguments)
        ∧ (run (pagedAround (replyOf lastRecord)) pagedArguments).exit = 0
        ∧ (run (pagedAround (replyOf lastRecord)) pagedArguments).stdout
          = Report.text ["release    │ count".toList, "───────────┼──────".toList,
            "2024-01-17 │ 5".toList, "2024-01-11 │ 3".toList, "2024-01-06 │ 8".toList, [],
            "3 row(s) returned".toList]
        ∧ (run (pagedAround (replyOf lastRecord)) pagedArguments).sent.length = 2)
      ∧ (AllOrNothing (pagedAround nullReply) sampleCommon pagedOptions
          (run (pagedAround nullReply) pagedArguments)
        ∧ (run (pagedAround nullReply) pagedArguments).exit = 1
        ∧ (run (pagedAround nullReply) pagedArguments).stdout = []
        ∧ (run (pagedAround nullReply) pagedArguments).sent.length = 2)
      ∧ AllOrNothing lockedAround sampleCommon pagedOptions (run lockedAround pagedArguments)
        ∧ run lockedAround pagedArguments
          = { exit := 1, stdout := [],
              stderr := Report.text ["Error: IO error: Permission denied (os error 13)".toList,
                "  caused by: Permission denied (os error 13)".toList],
              sent := [] } := by
  have hread : read sampleAround.databaseUrl pagedArguments
      = .ok (.count sampleCommon pagedOptions) := by decide
  have hcount : ∀ later, AllOrNothing (pagedAround later) sampleCommon pagedOptions
      (run (pagedAround later) pagedArguments) :=
    fun _ => count_all_or_nothing hread rfl
  have hresumed : Acceptable resumedRequest 1000 := acceptable_withToken acceptable_paged _
  have hresumes : Resumes resumedRequest (some ⟨1705000000, 0, by decide⟩) :=
    resumes_after (by decide)
  refine ⟨hread, rfl, ⟨hcount _, ?whole⟩, ⟨hcount _, ?broken⟩, count_all_or_nothing hread rfl,
    ?unready⟩
  case whole =>
    have hlast : pagedClient.page (.ofScript (pagedScript (replyOf lastRecord)))
        [built pagedRequest none] resumedRequest
        = (.now (.ok ⟨[lastRecord], none⟩), _) :=
      page_of_script (prompt_of_ready (ready_paged _)) hresumed hresumes _
    have hfollows := Follows.next (page_paged _) rfl (.last hlast rfl)
    obtain ⟨notes, -, hends⟩ :=
      count_of_ready rfl (ready_paged _) (fetch_of_follows hfollows (by decide))
    have hrun : run (pagedAround (replyOf lastRecord)) pagedArguments = count _ _ _ :=
      run_of_read hread
    rw [hrun, hends]
    refine ⟨rfl, ?_, rfl⟩
    show Report.table false ⟨pagedRecords ++ [lastRecord], none⟩ = _
    decide +kernel
  case broken =>
    have haccepted : pagedClient.statement resumedRequest = .ok (built resumedRequest _) :=
      statement_eq_ok_iff.mpr ⟨hresumed, _, hresumes, rfl⟩
    have hspoilt : Spoilt [nullReply] :=
      ⟨[], nullReply, [], rfl, List.Pairwise.nil, .count _⟩
    obtain ⟨hstdout, hexit, hsent⟩ := (hcount nullReply).discards rfl _ _ _ _ _ _ _ _ _ _ rfl
      (ready_paged nullReply) (.next (page_paged nullReply) rfl .start) haccepted rfl hspoilt
    exact ⟨hexit, hstdout, hsent⟩
  case unready =>
    have hunspelt : Unspelt lockedAround sampleCommon pagedOptions
        (.io (.unreadable "Permission denied (os error 13)".toList)) :=
      .settings (.fault (.user rfl nofun) (.unreadable _))
    have hrun : run lockedAround pagedArguments = count _ _ _ := run_of_read hread
    have hstderr : Report.error false (.io (.unreadable "Permission denied (os error 13)".toList))
        = Report.text ["Error: IO error: Permission denied (os error 13)".toList,
          "  caused by: Permission denied (os error 13)".toList] := by decide +kernel
    rw [hrun, count_of_unspelt hunspelt]
    exact congrArg (Output.mk 1 [] · []) hstderr

end ReleaseLag.Proofs.Cli
