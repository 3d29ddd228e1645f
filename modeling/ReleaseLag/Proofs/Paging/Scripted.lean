import ReleaseLag.Proofs.Paging.Lossless
import Mathlib.Data.Nat.Find

/-!
# `ReleaseLag.Proofs.Paging.Scripted`: runs over any script of answers

A script answers whatever it likes: too many rows or too few, rows of no
window, failures. The client only looks at how a page ended. A page goes on if
it is full and ended in the window, and `Stops` is every other way, so that a
run over a script is known without the client: it reads the pages that go on,
asks once more, and comes to what the page that stops comes to.

`reads_of_script` is the induction, over the pages that go on. What the queries
bind comes with it: each is that of the first request with the end of the page
before it as its cursor. A script is finite and a page is not empty, so there
is a page that stops (`exists_first_stop`), and `run_of_script` puts the run
together. One page more than the script has answers is always enough
(`pages_settle`).
-/

set_option autoImplicit false

namespace ReleaseLag.Proofs.Paging

open ReleaseLag.Lagging
open ReleaseLag.Proofs.Lagging

/-- The answer of a script to a query, the first being number 0. -/
def answerOf (script : List (List Item)) (n : Nat) : List Item :=
  (script[n]?).getD []

/-- The page of an answer is the last one of a run: it is an error, has another
length than was asked for, or ends outside the window. -/
inductive Stops (w : Window) (pageSize : Nat) (items : List Item) : Prop
  | failed {e : Error} (hpage : pageOf pageSize items = .error e)
  | odd {page : Page} (hpage : pageOf pageSize items = .ok page)
      (hlength : page.records.length ≠ pageSize)
  | outside {page : Page} {last : Record} (hpage : pageOf pageSize items = .ok page)
      (hlength : page.records.length = pageSize) (hlast : page.records.getLast? = some last)
      (houtside : w.contains last.releaseDate = false)

/-- The instant that a page ended at. -/
def ending (page : Page) : Option Instant :=
  page.records.getLast?.map Record.releaseDate

variable {c : Client} {script : List (List Item)} {r : Request}

/-- A page is put together from its records. -/
theorem eq_ofRecords_of_pageOf {pageSize : Nat} {items : List Item} {page : Page}
    (h : pageOf pageSize items = .ok page) : page = Page.ofRecords pageSize page.records := by
  rw [pageOf, Page.assemble] at h
  cases hcollect : Page.collect none items with
  | never =>
    rw [hcollect] at h
    cases h
  | after ms result =>
    cases result with
    | error e =>
      rw [hcollect] at h
      cases h
    | ok records =>
      rw [hcollect] at h
      cases h
      rfl

/-- A page that does not stop a run is full and ends in the window. -/
theorem goesOn_of_not_stops {items : List Item} (hpos : 1 ≤ r.pageSize)
    (h : ¬Stops r.window r.pageSize items) :
    ∃ page last, pageOf r.pageSize items = .ok page ∧ page.records.getLast? = some last
      ∧ page.nextToken = some (Cursor.encode last.releaseDate)
      ∧ r.window.contains last.releaseDate = true := by
  cases hpage : pageOf r.pageSize items with
  | error e => exact absurd (.failed hpage) h
  | ok page =>
    have hlength : page.records.length = r.pageSize := by
      by_contra hne
      exact h (.odd hpage hne)
    obtain ⟨last, hlast, htoken⟩ := nextToken_of_full hpos hlength
    rw [← eq_ofRecords_of_pageOf hpage] at htoken
    refine ⟨page, last, rfl, hlast, htoken, ?_⟩
    cases hin : r.window.contains last.releaseDate with
    | false => exact absurd (.outside hpage hlength hlast hin) h
    | true => rfl

/-- A full page that stops a run has the token of an instant outside the
window. -/
theorem token_of_stops {items : List Item} {page : Page} (hpos : 1 ≤ r.pageSize)
    (h : Stops r.window r.pageSize items) (hpage : pageOf r.pageSize items = .ok page)
    (hlength : page.records.length = r.pageSize) :
    ∃ last : Record, page.nextToken = some (Cursor.encode last.releaseDate)
      ∧ r.window.contains last.releaseDate = false := by
  cases h with
  | failed herror =>
    rw [hpage] at herror
    cases herror
  | odd hodd hne =>
    rw [hpage] at hodd
    cases hodd
    exact absurd hlength hne
  | @outside full last hfull _ hlast houtside =>
    obtain rfl : page = full := Except.ok.inj (hpage.symm.trans hfull)
    obtain ⟨final, hfinal, htoken⟩ := nextToken_of_full hpos hlength
    obtain rfl : last = final := Option.some.inj (hlast.symm.trans hfinal)
    rw [← eq_ofRecords_of_pageOf hpage] at htoken
    exact ⟨last, htoken, houtside⟩

/-- Past the end of a script, every answer stops a run. -/
theorem stops_of_length_le (hpos : 1 ≤ r.pageSize) {n : Nat} (h : script.length ≤ n) :
    Stops r.window r.pageSize (answerOf script n) := by
  have hempty : answerOf script n = [] := by
    rw [answerOf, List.getElem?_eq_none h, Option.getD_none]
  rw [hempty]
  have hpage : pageOf r.pageSize [] = .ok ⟨[], none⟩ := rfl
  refine .odd hpage ?_
  show 0 ≠ r.pageSize
  omega

/-- Past the end of a script, a page has no successor. -/
theorem nextToken_of_length_le {log after : Log} {page : Page} {ms : Nat}
    (h : c.page (.ofScript script) log r = (.after ms (.ok page), after))
    (hlength : script.length ≤ log.length) : page.nextToken = none := by
  obtain ⟨cursor, records, hacceptable, hresumes, -, hcollect, rfl⟩ := answer_of_page h
  have hanswer : (Store.ofScript script).answer log (built r cursor) = [] := by
    show (script[log.length]?).getD [] = []
    rw [List.getElem?_eq_none hlength, Option.getD_none]
  rw [hanswer] at hcollect
  cases hcollect
  rfl

/-- Some answer is the first that stops a run. -/
theorem exists_first_stop (script : List (List Item)) (hpos : 1 ≤ r.pageSize) :
    ∃ m, Stops r.window r.pageSize (answerOf script m)
      ∧ ∀ k < m, ¬Stops r.window r.pageSize (answerOf script k) := by
  classical
  have hsome : ∃ n, Stops r.window r.pageSize (answerOf script n) :=
    ⟨_, stops_of_length_le hpos (Nat.le_refl script.length)⟩
  exact ⟨Nat.find hsome, Nat.find_spec hsome, fun k hk => Nat.find_min hsome hk⟩

/-! ### What a query binds -/

section

variable (r) (cursor : Option Instant)

/-- The cursor of a statement is bound to the instant that it goes on after. -/
theorem param?_cursor_some (t : Instant) :
    (built r (some t)).param? cursorParam.text = some (.timestamp t) :=
  (get?_params r (some t) _ _).mpr (by simp [entries])

/-- No other parameter has to do with the cursor. -/
theorem param?_of_ne_cursor {name : Text} (h : name ≠ cursorParam.text) :
    (built r cursor).param? name = (built r none).param? name := by
  refine Option.ext fun value => ?_
  show (params r cursor).get? name = some value ↔ (params r none).get? name = some value
  rw [get?_params, get?_params]
  cases cursor with
  | none => rfl
  | some t => simp [entries, h]

end

/-! ### The run -/

section

variable (hprompt : ∀ answer ∈ script, ∀ item ∈ answer, Prompt item)
include hprompt

/-- The answers of a prompt script are prompt, also those past its end. -/
theorem prompt_answerOf (n : Nat) : ∀ item ∈ answerOf script n, Prompt item := by
  intro item hitem
  rw [answerOf] at hitem
  cases hanswer : script[n]? with
  | none => simp [hanswer] at hitem
  | some answer =>
    rw [hanswer, Option.getD_some] at hitem
    exact hprompt answer (List.mem_of_getElem? hanswer) item hitem

/-- A page over a script is that of the next answer. -/
theorem page_of_script {cursor : Option Instant} (hacceptable : Acceptable r c.maxPageSize)
    (hresumes : Resumes r cursor) (log : Log) :
    c.page (.ofScript script) log r
      = (.now (pageOf r.pageSize (answerOf script log.length)), log ++ [built r cursor]) := by
  rw [page_of_resumes hacceptable hresumes]
  show ((Page.assemble r.pageSize (answerOf script log.length)).within c.timeoutMs, _) = _
  rw [assemble_of_prompt _ (prompt_answerOf hprompt _)]
  exact congrArg (·, _) (within_of_le fun most _ => Nat.zero_le most)

/-- A page over a script is there at once, be it an error. -/
theorem page_settles (c : Client) (log : Log) (r : Request) :
    ∃ result after, c.page (.ofScript script) log r = (.now result, after) := by
  cases hstatement : c.statement r with
  | error e => exact ⟨_, _, page_of_refused hstatement log⟩
  | ok s =>
    obtain ⟨hacceptable, cursor, hresumes, -⟩ := statement_eq_ok_iff.mp hstatement
    exact ⟨_, _, page_of_script hprompt hacceptable hresumes log⟩

/-- A run that is allowed one page more than the script has answers left comes
to its end. -/
theorem pages_settle (c : Client) {fuel : Nat} {log : Log} (hsome : 1 ≤ fuel)
    (hfuel : script.length < log.length + fuel) (r : Request) :
    ∃ ms result after, c.pages (.ofScript script) fuel log r = (some (.after ms result), after) := by
  induction fuel generalizing log r with
  | zero => exact absurd hsome (by omega)
  | succ fuel ih =>
    obtain ⟨result, after, hpage⟩ := page_settles hprompt c log r
    rw [Client.pages, hpage]
    cases result with
    | error e => exact ⟨_, _, _, rfl⟩
    | ok page =>
      cases htoken : page.nextToken with
      | none =>
        refine ⟨0, .ok page.records, after, ?_⟩
        simp only [Outcome.now, htoken]
      | some token =>
        -- There is a page after this one, so the script has an answer for this one.
        have hleft : log.length < script.length := by
          by_contra hpast
          rw [nextToken_of_length_le hpage (by omega)] at htoken
          cases htoken
        obtain ⟨s, rfl⟩ := log_of_page hpage
        have hfuel' : script.length < (log ++ [s]).length + fuel := by
          rw [List.length_append, List.length_singleton]
          omega
        obtain ⟨ms, result, later, hrest⟩ := ih (by omega) hfuel' { r with token := some token }
        refine ⟨0 + ms, result.map (page.records ++ ·), later, ?_⟩
        simp only [Outcome.now, htoken, hrest]
        rfl

/-- As long as no page stops it, a run reads them and asks once more. Each query
binds the end of the page before it. -/
theorem reads_of_script {cursor : Option Instant} (hacceptable : Acceptable r c.maxPageSize)
    (hresumes : Resumes r cursor) {log : Log} {count : Nat}
    (hgo : ∀ k < count, ¬Stops r.window r.pageSize (answerOf script (log.length + k))) :
    ∃ pages between q, pages.length = count
      ∧ (∀ k (h : k < pages.length), ∃ last,
          pageOf r.pageSize (answerOf script (log.length + k)) = .ok pages[k]
            ∧ pages[k].records.getLast? = some last ∧ r.window.contains last.releaseDate = true)
      ∧ Reads c (.ofScript script) log r pages 0 between q
      ∧ c.page (.ofScript script) between q
        = (.now (pageOf r.pageSize (answerOf script (log.length + count))),
          log ++ (cursor :: pages.map ending).map (built r)) := by
  induction count generalizing r cursor log with
  | zero =>
    refine ⟨[], log, r, rfl, ?_, .start, page_of_script hprompt hacceptable hresumes log⟩
    intro k hk
    exact absurd hk (Nat.not_lt_zero k)
  | succ count ih =>
    obtain ⟨page, last, hfirst, hlast, htoken, hin⟩ :=
      goesOn_of_not_stops hacceptable.one_le_pageSize (hgo 0 (Nat.succ_pos count))
    have hpage := page_of_script (c := c) hprompt hacceptable hresumes log
    rw [← Nat.add_zero log.length, hfirst] at hpage
    -- The rest of the run is that of the request with the token, one answer on.
    have hshift : ∀ k, (log ++ [built r cursor]).length + k = log.length + (k + 1) := by
      intro k
      rw [List.length_append, List.length_singleton, Nat.add_assoc, Nat.add_comm 1]
    have hgo : ∀ k < count, ¬Stops r.window r.pageSize
        (answerOf script ((log ++ [built r cursor]).length + k)) := by
      intro k hk
      rw [hshift]
      exact hgo (k + 1) (Nat.succ_lt_succ hk)
    obtain ⟨pages, between, q, rfl, hread, hreads, hnext⟩ :=
      ih (acceptable_withToken hacceptable _) (resumes_after hin) hgo
    simp only [hshift] at hread hnext
    refine ⟨page :: pages, between, q, rfl, ?_, .next hpage htoken hreads, ?_⟩
    · intro k hk
      cases k with
      | zero => exact ⟨last, hfirst, hlast, hin⟩
      | succ k => exact hread k (Nat.lt_of_succ_lt_succ hk)
    · have hending : ending page = some last.releaseDate := by rw [ending, hlast, Option.map_some]
      rw [List.map_cons, List.map_cons, hending, List.append_cons log]
      exact hnext

end

/-- The run of a request over a script. It reads `pages`, and stops at the page
of the answer after theirs, which is the first that stops a run:

1. `read`, `goes_on`, `stops`: which page that is;
2. `queries`: there is one query for each page up to it;
3. `failed`: if it is an error, that is the error of the run;
4. `odd`: if it has another length than was asked for, the records of all pages
   up to it are the result;
5. `outside`: if it is full and ends outside the window, the run is an error,
   and no query is sent for the page after it;
6. `first_query`: the first query is the statement of the request;
7. `cursor`: each later one is the statement of the request with the token of
   the page before, and binds the cursor to the date of the last record there;
8. `others`: all other parameters are bound as in the first query.

An error carries no records. All of it holds however many more pages the run is
allowed. -/
structure ScriptedRun (c : Client) (script : List (List Item)) (r : Request) (first : Statement)
    (pages : List Page) (asked : List Statement) : Prop where
  read : ∀ k (h : k < pages.length), pageOf r.pageSize (answerOf script k) = .ok pages[k]
  goes_on : ∀ k < pages.length, ¬Stops r.window r.pageSize (answerOf script k)
  stops : Stops r.window r.pageSize (answerOf script pages.length)
  queries : asked.length = pages.length + 1
  failed : ∀ e, pageOf r.pageSize (answerOf script pages.length) = .error e →
    ∀ more, c.pages (.ofScript script) (pages.length + 2 + more) [] r
      = (some (.now (.error e)), asked)
  odd : ∀ page, pageOf r.pageSize (answerOf script pages.length) = .ok page →
    page.records.length ≠ r.pageSize →
    ∀ more, c.pages (.ofScript script) (pages.length + 2 + more) [] r
      = (some (.now (.ok ((pages ++ [page]).flatMap Page.records))), asked)
  outside : ∀ page, pageOf r.pageSize (answerOf script pages.length) = .ok page →
    page.records.length = r.pageSize →
    ∀ more, c.pages (.ofScript script) (pages.length + 2 + more) [] r
      = (some (.now (.error (.invalidCursor .outsideWindow))), asked)
  first_query : asked[0]? = some first
  cursor : ∀ k (h : k < pages.length), ∃ last query, pages[k].records.getLast? = some last
    ∧ asked[k + 1]? = some query
    ∧ c.statement { r with token := some (Cursor.encode last.releaseDate) } = .ok query
    ∧ query.param? cursorParam.text = some (.timestamp last.releaseDate)
  others : ∀ query ∈ asked, ∀ name, name ≠ cursorParam.text →
    query.param? name = first.param? name

/-- A run over any script of prompt answers comes to its end at the first page
that is an error, is not as long as asked for, or ends outside the window. The
hypotheses:

1. no time passes in any answer;
2. the request is accepted, with a token or without. -/
theorem run_of_script {c : Client} {script : List (List Item)} {r : Request} {first : Statement}
    (hprompt : ∀ answer ∈ script, ∀ item ∈ answer, Prompt item)
    (haccepted : c.statement r = .ok first) :
    ∃ pages asked, ScriptedRun c script r first pages asked := by
  obtain ⟨hacceptable, cursor, hresumes, rfl⟩ := statement_eq_ok_iff.mp haccepted
  obtain ⟨m, hstops, hgo⟩ := exists_first_stop script hacceptable.one_le_pageSize
  have hfresh : ∀ k, ([] : Log).length + k = k := Nat.zero_add
  have hgoes : ∀ k < m, ¬Stops r.window r.pageSize (answerOf script (([] : Log).length + k)) := by
    simpa only [hfresh] using hgo
  obtain ⟨pages, between, q, rfl, hread, hreads, hlast⟩ :=
    reads_of_script (c := c) hprompt hacceptable hresumes hgoes
  simp only [hfresh] at hread hlast
  refine ⟨pages, (cursor :: pages.map ending).map (built r), ?_⟩
  exact {
    read := fun k hk => (hread k hk).choose_spec.1
    goes_on := hgo
    stops := hstops
    queries := by simp
    failed := by
      intro e herror more
      rw [herror] at hlast
      have hrun := hreads.pages_of_error hlast (1 + more)
      rwa [← Nat.add_assoc] at hrun
    odd := by
      intro page hpage hne more
      rw [hpage] at hlast
      have htoken : page.nextToken = none := by
        rw [eq_ofRecords_of_pageOf hpage]
        exact nextToken_of_ne hne
      have hrun := hreads.pages_of_last hlast htoken (1 + more)
      rwa [← Nat.add_assoc] at hrun
    outside := by
      intro page hpage hfull more
      rw [hpage] at hlast
      obtain ⟨last, htoken, houtside⟩ :=
        token_of_stops hacceptable.one_le_pageSize hstops hpage hfull
      -- The page is read, and the request after it is never sent.
      have hrefused : c.statement { q with token := some (Cursor.encode last.releaseDate) }
          = .error (.invalidCursor .outsideWindow) := by
        rw [hreads.request]
        exact statement_outside (acceptable_withToken hacceptable q.token) houtside
      have hrun := (hreads.concat hlast htoken).pages_of_error (page_of_refused hrefused _) more
      rwa [List.length_append, List.length_singleton] at hrun
    first_query := rfl
    cursor := by
      intro k hk
      obtain ⟨last, -, hend, hin⟩ := hread k hk
      refine ⟨last, built r (some last.releaseDate), hend, ?_, ?_, param?_cursor_some r _⟩
      · simp [hk, ending, hend]
      · exact statement_eq_ok_iff.mpr
          ⟨acceptable_withToken hacceptable _, _, resumes_after hin, rfl⟩
    others := by
      intro query hquery name hname
      obtain ⟨bound, -, rfl⟩ := List.mem_map.mp hquery
      rw [param?_of_ne_cursor r bound hname, param?_of_ne_cursor r cursor hname] }

/-- A full page in the window, a page of one row, and a failure that is never
asked for. -/
def sampleScript : List (List Item) :=
  [[itemOf ⟨⟨250000, 0, by decide⟩, 2⟩, itemOf ⟨⟨240000, 0, by decide⟩, 5⟩],
    [itemOf ⟨⟨190000, 0, by decide⟩, 7⟩],
    [.fail (.queryExecution (.store "connection reset".toList))]]

theorem run_of_script_sample :
    (∀ answer ∈ sampleScript, ∀ item ∈ answer, Prompt item)
      ∧ (⟨2, some 1000⟩ : Client).statement sampleRequest = .ok (built sampleRequest none)
      ∧ ∃ pages asked, ScriptedRun ⟨2, some 1000⟩ sampleScript sampleRequest
          (built sampleRequest none) pages asked := by
  have hprompt : ∀ answer ∈ sampleScript, ∀ item ∈ answer, Prompt item := by
    simp [sampleScript, itemOf, Store.Entry.item, Prompt]
  exact ⟨hprompt, statement_sampleRequest, run_of_script hprompt statement_sampleRequest⟩

end ReleaseLag.Proofs.Paging
