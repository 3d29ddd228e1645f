import ReleaseLag.Proofs.Paging.Order

/-!
# `ReleaseLag.Proofs.Paging.Blame`: whom a run blames for its error

An error of the client kind says that the request is at fault. A request that is
accepted can still come to one, and in two ways only (`clientError_of_pages`).
The store sends such an error itself, or it fills a page up to a record outside
the window. No row is held against the window, so the page gets the token of
that record, and the request with this token is refused as if the caller had
made it up. `blamed_request` is a run of the second kind.

A page issues a token that is accepted if and only if its last record lies in
the window (`accepted_iff_contains`). A store that keeps to the window of its
queries never sends another (`HonoursWindow`), and `blameless_of_pages` draws
the conclusion for all pages of a run.
-/

set_option autoImplicit false

namespace ReleaseLag.Proofs.Paging

open ReleaseLag.Lagging
open ReleaseLag.Proofs.Lagging

variable {c : Client} {store : Store} {log between after : Log} {r q : Request}
  {pages : List Page} {ms : Nat} {e : Error}

/-! ### The token of a page -/

/-- The token of a page is that of its last record, and is accepted or refused
by what the window says of it. -/
theorem statement_of_token {page : Page} {token : Text}
    (hpage : c.page store log r = (.after ms (.ok page), between))
    (htoken : page.nextToken = some token) :
    ∃ last, page.records.getLast? = some last
      ∧ c.statement { r with token := some token }
        = if r.window.contains last.releaseDate then .ok (built r (some last.releaseDate))
          else .error (.invalidCursor .outsideWindow) := by
  obtain ⟨_, records, hacceptable, -, -, -, rfl⟩ := answer_of_page hpage
  obtain ⟨last, hlast, rfl⟩ := last_of_nextToken htoken
  refine ⟨last, hlast, ?_⟩
  split
  · next hin =>
    exact statement_eq_ok_iff.mpr ⟨acceptable_withToken hacceptable _, _, resumes_after hin, rfl⟩
  · next hout => exact statement_outside hacceptable (Bool.eq_false_iff.mpr hout)

/-- The token of a page is accepted if and only if the page ended in the
window. -/
theorem accepted_iff_contains {page : Page} {token : Text} {last : Record}
    (hpage : c.page store log r = (.after ms (.ok page), between))
    (htoken : page.nextToken = some token) (hlast : page.records.getLast? = some last) :
    (∃ s, c.statement { r with token := some token } = .ok s)
      ↔ r.window.contains last.releaseDate = true := by
  obtain ⟨final, hfinal, hstatement⟩ := statement_of_token hpage htoken
  obtain rfl : last = final := Option.some.inj (hlast.symm.trans hfinal)
  rw [hstatement]
  cases r.window.contains last.releaseDate with
  | false => simp
  | true => simp

/-- A page ends with a record outside a window. -/
def EndsOutside (w : Window) (page : Page) : Prop :=
  ∃ last, page.records.getLast? = some last ∧ w.contains last.releaseDate = false

/-- A run that began with an accepted request comes to one that is accepted as
well, unless the page before it ended outside the window. -/
theorem Reads.accepted_or (h : Reads c store log r pages ms between q)
    (haccepted : ∃ s, c.statement r = .ok s) :
    (∃ s, c.statement q = .ok s)
      ∨ (c.statement q = .error (.invalidCursor .outsideWindow)
        ∧ ∃ page, pages.getLast? = some page ∧ EndsOutside r.window page) := by
  induction h with
  | start => exact .inl haccepted
  | @next log between after r q ms later page token pages hpage htoken hrest ih =>
    obtain ⟨last, hlast, hstatement⟩ := statement_of_token hpage htoken
    cases hin : r.window.contains last.releaseDate with
    | true =>
      rw [hin, if_pos rfl] at hstatement
      -- The page is in front of those of the rest, so theirs is the last.
      refine (ih ⟨_, hstatement⟩).imp_right fun ⟨hrefused, final, hfinal, houtside⟩ => ?_
      exact ⟨hrefused, final, by rw [List.getLast?_cons, hfinal, Option.getD_some], houtside⟩
    | false =>
      rw [hin, if_neg Bool.false_ne_true] at hstatement
      -- Nothing was read after a token that is refused.
      cases hrest with
      | start => exact .inr ⟨hstatement, page, rfl, last, hlast, hin⟩
      | next hsecond _ _ =>
        rw [page_of_refused hstatement] at hsecond
        cases hsecond

/-! ### The errors of a run -/

/-- An error of the client kind in place of a page is that of the request, or was
sent by the store. -/
theorem clientError_of_page (h : c.page store log r = (.after ms (.error e), after))
    (hclient : e.isClientError = true) :
    c.statement r = .error e ∨ ∃ s, .fail e ∈ store.answer log s := by
  rcases error_of_page h with hstatement | ⟨s, hcollect⟩ | rfl
  · exact .inl hstatement
  · rcases error_of_collect hcollect with hsent | ⟨_, _, rfl⟩ | ⟨_, _, rfl⟩
    · exact .inr ⟨s, hsent⟩
    -- What is wrong with a row is never the caller's fault.
    · cases hclient
    · cases hclient
  · cases hclient

/-- An error of the client kind that an accepted request comes to was sent by the
store, or is that of the token of a page that ended outside the window. -/
theorem clientError_of_pages {fuel : Nat} (haccepted : ∃ s, c.statement r = .ok s)
    (h : c.pages store fuel log r = (some (.after ms (.error e)), after))
    (hclient : e.isClientError = true) :
    (∃ log s, .fail e ∈ store.answer log s)
      ∨ (e = .invalidCursor .outsideWindow
        ∧ ∃ pages ms between q page, Reads c store log r pages ms between q
          ∧ pages.getLast? = some page ∧ EndsOutside r.window page) := by
  obtain ⟨pages, ms, between, q, later, hreads, hpage⟩ := reads_of_pages h
  rcases clientError_of_page hpage hclient with hstatement | ⟨s, hsent⟩
  · rcases hreads.accepted_or haccepted with ⟨s, hok⟩ | ⟨hrefused, page, hlast, houtside⟩
    · rw [hstatement] at hok
      cases hok
    · rw [hstatement] at hrefused
      exact .inr ⟨Except.error.inj hrefused, pages, ms, between, q, page, hreads, hlast, houtside⟩
  · exact .inl ⟨between, s, hsent⟩

/-! ### Stores that keep to the window -/

/-- Every row that a store answers with lies in the window of the query. -/
def HonoursWindow (store : Store) : Prop :=
  ∀ log s row date, .row row ∈ store.answer log s → row.releaseDate = .ok date →
    (∀ start ∈ Store.boundInstant? s startParam, start ≤ date)
      ∧ ∀ stop ∈ Store.boundInstant? s endParam, date < stop

/-- No failure of a store says that a request is at fault. -/
def OwnFailures (store : Store) : Prop :=
  ∀ log s e, .fail e ∈ store.answer log s → e.isClientError = false

/-- A store of tables keeps to the window, however the tables change. -/
theorem honoursWindow_ofTables (tables : Nat → List Store.Entry) :
    HonoursWindow (.ofTables tables) := by
  intro log s row date hrow hdate
  have hselects := selects_of_mem_ofTables hrow hdate
  simp only [Store.selects, Bool.and_eq_true, Option.all_eq_true, decide_eq_true_eq] at hselects
  exact hselects.1

/-- A store of tables does not fail. -/
theorem ownFailures_ofTables (tables : Nat → List Store.Entry) :
    OwnFailures (.ofTables tables) := by
  intro log s e hfail
  obtain ⟨entry, -, hitem⟩ := List.mem_map.mp hfail
  cases hitem

/-- The records of a page lie in the window if the store keeps to it. -/
theorem contains_of_honours {page : Page} (hwindow : HonoursWindow store)
    (h : c.page store log r = (.after ms (.ok page), after)) :
    ∀ record ∈ page.records, r.window.contains record.releaseDate = true := by
  obtain ⟨cursor, records, -, -, -, hcollect, rfl⟩ := answer_of_page h
  intro record hrecord
  obtain ⟨row, hrow, hdate⟩ := row_of_collect hcollect record hrecord
  obtain ⟨hstart, hstop⟩ := hwindow log _ row record.releaseDate hrow hdate
  rw [Window.contains, Bool.and_eq_true, decide_eq_true_eq, decide_eq_true_eq]
  exact ⟨hstart _ (boundInstant?_start r cursor), hstop _ (boundInstant?_end r cursor)⟩

/-- No page that was read ended outside the window if the store keeps to it. -/
theorem Reads.not_endsOutside (hwindow : HonoursWindow store)
    (h : Reads c store log r pages ms between q) : ∀ page ∈ pages, ¬EndsOutside r.window page := by
  induction h with
  | start => exact fun page hmem => absurd hmem List.not_mem_nil
  | next hpage _ _ ih =>
    refine List.forall_mem_cons.mpr ⟨?_, ih⟩
    rintro ⟨last, hlast, houtside⟩
    rw [contains_of_honours hwindow hpage last (List.mem_of_getLast? hlast)] at houtside
    cases houtside

/-- A run of an accepted request comes to no error of the client kind, and every
token that its pages issue is accepted with the request. The hypotheses:

1. the request is accepted, with a token or without;
2. the store keeps to the window of its queries;
3. none of its failures says that the request is at fault. -/
theorem blameless_of_pages {c : Client} {store : Store} {r : Request}
    (haccepted : ∃ s, c.statement r = .ok s) (hwindow : HonoursWindow store)
    (hfailures : OwnFailures store) (log : Log) :
    (∀ fuel ms e after, c.pages store fuel log r = (some (.after ms (.error e)), after) →
        e.isClientError = false)
      ∧ ∀ pages ms between q, Reads c store log r pages ms between q →
        ∃ s, c.statement q = .ok s := by
  constructor
  · intro fuel ms e after h
    by_contra hclient
    have hclient : e.isClientError = true := by simpa using hclient
    rcases clientError_of_pages haccepted h hclient with ⟨log, s, hsent⟩ | ⟨-, houtside⟩
    · rw [hfailures log s e hsent] at hclient
      cases hclient
    · obtain ⟨pages, ms, between, q, page, hreads, hlast, houtside⟩ := houtside
      exact hreads.not_endsOutside hwindow page (List.mem_of_getLast? hlast) houtside
  · intro pages ms between q hreads
    rcases hreads.accepted_or haccepted with hok | ⟨-, page, hlast, houtside⟩
    · exact hok
    · exact absurd houtside (hreads.not_endsOutside hwindow page (List.mem_of_getLast? hlast))

theorem blameless_of_pages_sample :
    (∃ s, (⟨2, some 1000⟩ : Client).statement sampleRequest = .ok s)
      ∧ HonoursWindow (.ofTable (sampleTable.map .ofRecord))
      ∧ OwnFailures (.ofTable (sampleTable.map .ofRecord))
      ∧ (∀ fuel ms e after,
          (⟨2, some 1000⟩ : Client).pages (.ofTable (sampleTable.map .ofRecord)) fuel []
            sampleRequest = (some (.after ms (.error e)), after) → e.isClientError = false)
      ∧ ∀ pages ms between q,
          Reads ⟨2, some 1000⟩ (.ofTable (sampleTable.map .ofRecord)) [] sampleRequest
            pages ms between q →
          ∃ s, (⟨2, some 1000⟩ : Client).statement q = .ok s := by
  have haccepted : ∃ s, (⟨2, some 1000⟩ : Client).statement sampleRequest = .ok s :=
    ⟨_, statement_sampleRequest⟩
  have hwindow : HonoursWindow (.ofTable (sampleTable.map .ofRecord)) :=
    honoursWindow_ofTables fun _ => sampleTable.map .ofRecord
  have hfailures : OwnFailures (.ofTable (sampleTable.map .ofRecord)) :=
    ownFailures_ofTables fun _ => sampleTable.map .ofRecord
  exact ⟨haccepted, hwindow, hfailures, blameless_of_pages haccepted hwindow hfailures []⟩

/-- Years before the window of `yearsRequest`. -/
def strayDate : Instant := ⟨1500000000, 0, by decide⟩

/-- A full page for `yearsRequest`, of a date that was not asked for. -/
def strayScript : List (List Item) :=
  [[itemOf ⟨strayDate, 5⟩]]

/-- A request without a token is accepted, and its run blames a token. -/
theorem blamed_request :
    yearsRequest.token = none
      ∧ (∃ s, defaultClient.statement yearsRequest = .ok s)
      ∧ ∃ ms e after, defaultClient.pages (.ofScript strayScript) 2 [] yearsRequest
          = (some (.after ms (.error e)), after)
        ∧ e.isClientError = true := by
  have hprompt : ∀ answer ∈ strayScript, ∀ item ∈ answer, Prompt item := by
    simp [strayScript, itemOf, Store.Entry.item, Prompt]
  have hfirst := page_of_script (c := defaultClient) hprompt acceptable_yearsRequest (.fresh rfl) []
  have hreads := Reads.next hfirst rfl .start
  have hrefused : defaultClient.statement
      { yearsRequest with token := some (Cursor.encode strayDate) }
        = .error (.invalidCursor .outsideWindow) :=
    statement_outside acceptable_yearsRequest (by decide)
  have hrun := hreads.pages_of_error (page_of_refused hrefused _) 0
  exact ⟨rfl, ⟨_, statement_eq_ok_iff.mpr ⟨acceptable_yearsRequest, none, .fresh rfl, rfl⟩⟩,
    _, _, _, hrun, rfl⟩

end ReleaseLag.Proofs.Paging
