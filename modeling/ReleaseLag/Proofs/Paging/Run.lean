import ReleaseLag.Paging.Client
import ReleaseLag.Proofs.Cursor.RoundTrip
import ReleaseLag.Proofs.Lagging.Statement
import ReleaseLag.Proofs.Paging.Outcome

/-!
# `ReleaseLag.Proofs.Paging.Run`: runs from page to page, over any store

Nothing is said here about what a store answers. A request that is served is
one query (`page_of_resumes`), and one that is refused is none
(`page_of_refused`). A page that is full leads to the request with its token,
which is served if the page ended in the window (`resumes_after`) and
refused if it did not (`statement_outside`).

`Reads` is the part of a run that was good so far: pages, and the request that
is to be made next. `Reads.pages_eq` cuts a run there. The other way round, a
run that came to its end is such a part and one page more, which is the last
(`follows_of_pages`) or an error (`reads_of_pages`). Whatever comes of it, a run
asks for the statement of its request first (`first_of_pages`).
-/

set_option autoImplicit false

namespace ReleaseLag.Proofs.Paging

open ReleaseLag.Proofs.Lagging

variable {c : Client} {store : Store}

/-! ### One page -/

/-- A request that is served is asked for in one query, and its page is put
together from the answer. -/
theorem page_of_resumes {r : Request} {cursor : Option Instant}
    (hacceptable : Acceptable r c.maxPageSize) (hresumes : Resumes r cursor) (log : Log) :
    c.page store log r
      = ((Page.assemble r.pageSize (store.answer log (built r cursor))).within c.timeoutMs,
        log ++ [built r cursor]) := by
  have hstatement : c.statement r = .ok (built r cursor) :=
    statement_eq_ok_iff.mpr ⟨hacceptable, cursor, hresumes, rfl⟩
  rw [Client.page, hstatement]

/-- A request that is refused is not asked for. -/
theorem page_of_refused {r : Request} {e : Error} (h : c.statement r = .error e) (log : Log) :
    c.page store log r = (.now (.error e), log) := by
  rw [Client.page, h]

/-- A page that comes is put together from the records of the answer to one
query, and the request was served. -/
theorem answer_of_page {log after : Log} {r : Request} {ms : Nat} {page : Page}
    (h : c.page store log r = (.after ms (.ok page), after)) :
    ∃ cursor records, Acceptable r c.maxPageSize ∧ Resumes r cursor
      ∧ after = log ++ [built r cursor]
      ∧ Page.collect none (store.answer log (built r cursor)) = .after ms (.ok records)
      ∧ page = Page.ofRecords r.pageSize records := by
  unfold Client.page at h
  split at h
  · cases h
  · next s hstatement =>
    obtain ⟨hacceptable, cursor, hresumes, rfl⟩ := statement_eq_ok_iff.mp hstatement
    obtain ⟨hwork, hafter⟩ := Prod.mk.inj h
    obtain ⟨records, hcollect, hpage⟩ := map_eq_ok_iff.mp (within_eq_ok hwork)
    exact ⟨cursor, records, hacceptable, hresumes, hafter.symm, hcollect, hpage.symm⟩

/-- An error in place of a page is that of the request, which was not sent, or
of the answer, or of the time limit. -/
theorem error_of_page {log after : Log} {r : Request} {ms : Nat} {e : Error}
    (h : c.page store log r = (.after ms (.error e), after)) :
    c.statement r = .error e
      ∨ (∃ s, Page.collect none (store.answer log s) = .after ms (.error e))
      ∨ e = .queryExecution .elapsed := by
  unfold Client.page at h
  split at h
  · next d hstatement =>
    cases h
    exact .inl hstatement
  · next s _ =>
    obtain ⟨hwork, -⟩ := Prod.mk.inj h
    rcases within_eq_error hwork with hassemble | helapsed
    · exact .inr (.inl ⟨s, map_eq_error_iff.mp hassemble⟩)
    · exact .inr (.inr helapsed)

/-- A page that comes is one query. -/
theorem log_of_page {log after : Log} {r : Request} {ms : Nat} {page : Page}
    (h : c.page store log r = (.after ms (.ok page), after)) : ∃ s, after = log ++ [s] := by
  obtain ⟨cursor, _, -, -, hafter, -⟩ := answer_of_page h
  exact ⟨built r cursor, hafter⟩

/-- A page that has another length than asked for has no token. -/
theorem nextToken_of_ne {pageSize : Nat} {records : List Record} (h : records.length ≠ pageSize) :
    (Page.ofRecords pageSize records).nextToken = none := by
  simp only [Page.ofRecords, h, if_false]
  split <;> rfl

/-- A page that is not full has no token. -/
theorem nextToken_of_lt {pageSize : Nat} {records : List Record} (h : records.length < pageSize) :
    (Page.ofRecords pageSize records).nextToken = none :=
  nextToken_of_ne (Nat.ne_of_lt h)

/-- A full page has a last record and its token. -/
theorem nextToken_of_full {pageSize : Nat} {records : List Record} (hpos : 0 < pageSize)
    (hlength : records.length = pageSize) :
    ∃ last, records.getLast? = some last
      ∧ (Page.ofRecords pageSize records).nextToken = some (Cursor.encode last.releaseDate) := by
  cases hlast : records.getLast? with
  | none =>
    rw [List.getLast?_eq_none_iff.mp hlast, List.length_nil] at hlength
    omega
  | some last => exact ⟨last, rfl, by simp only [Page.ofRecords, hlast, hlength, if_true]⟩

/-- A token is that of the last record. -/
theorem last_of_nextToken {pageSize : Nat} {records : List Record} {token : Text}
    (h : (Page.ofRecords pageSize records).nextToken = some token) :
    ∃ last, records.getLast? = some last ∧ token = Cursor.encode last.releaseDate := by
  simp only [Page.ofRecords] at h
  split at h
  · next last hlast =>
    split at h
    · exact ⟨last, hlast, (Option.some.inj h).symm⟩
    · cases h
  · cases h

/-! ### The request for the next page -/

section

variable {r : Request} {maxPageSize : Nat}

/-- A request that goes on after a page is as acceptable as the one before. -/
theorem acceptable_withToken (h : Acceptable r maxPageSize) (token : Option Text) :
    Acceptable { r with token } maxPageSize :=
  ⟨h.target_ne_nil, h.references_ne_nil, h.reference_ne_nil, h.nodup, h.target_not_mem,
    h.one_le_pageSize, h.pageSize_le, h.start_lt_stop⟩

/-- After an instant of its window, a request goes on. -/
theorem resumes_after {t : Instant} (h : r.window.contains t = true) :
    Resumes { r with token := some (Cursor.encode t) } (some t) := by
  simp only [Window.contains, Bool.and_eq_true, decide_eq_true_eq] at h
  exact .after rfl (Cursor.decode_encode t) h.1 h.2

/-- The token of an instant outside the window is refused, like one that the
caller made up. -/
theorem statement_outside {t : Instant} (hacceptable : Acceptable r maxPageSize)
    (h : r.window.contains t = false) :
    Lagging.statement { r with token := some (Cursor.encode t) } maxPageSize
      = .error (.invalidCursor .outsideWindow) := by
  have hcheck : Request.check { r with token := some (Cursor.encode t) } maxPageSize = .ok () :=
    check_eq_ok_iff.mpr (acceptable_withToken hacceptable _)
  have hcursor : Request.cursor { r with token := some (Cursor.encode t) }
      = .error (.invalidCursor .outsideWindow) := by
    simp [Request.cursor, Cursor.decode_encode, h]
  rw [Lagging.statement, hcheck, ok_bind, hcursor, error_bind]

end

/-! ### All pages -/

/-- The pages from a request to the last one, each asked for with the token of
the page before, and the log after them. -/
inductive Follows (c : Client) (store : Store) : Log → Request → List Page → Log → Prop
  | last {log after : Log} {r : Request} {ms : Nat} {page : Page}
      (hpage : c.page store log r = (.after ms (.ok page), after))
      (htoken : page.nextToken = none) : Follows c store log r [page] after
  | next {log between after : Log} {r : Request} {ms : Nat} {page : Page} {token : Text}
      {pages : List Page} (hpage : c.page store log r = (.after ms (.ok page), between))
      (htoken : page.nextToken = some token)
      (hrest : Follows c store between { r with token := some token } pages after) :
      Follows c store log r (page :: pages) after

/-- The first of the pages is that of the request. -/
theorem Follows.first {log after : Log} {r : Request} {pages : List Page}
    (h : Follows c store log r pages after) :
    ∃ ms page rest between, pages = page :: rest
      ∧ c.page store log r = (.after ms (.ok page), between) := by
  cases h with
  | last hpage _ => exact ⟨_, _, [], _, rfl, hpage⟩
  | next hpage _ _ => exact ⟨_, _, _, _, rfl, hpage⟩

/-- There are as many queries as pages. -/
theorem Follows.asked {log after : Log} {r : Request} {pages : List Page}
    (h : Follows c store log r pages after) :
    ∃ asked : List Statement, after = log ++ asked ∧ asked.length = pages.length := by
  induction h with
  | last hpage _ =>
    obtain ⟨s, rfl⟩ := log_of_page hpage
    exact ⟨[s], rfl, rfl⟩
  | next hpage _ _ ih =>
    obtain ⟨s, rfl⟩ := log_of_page hpage
    obtain ⟨asked, rfl, hlength⟩ := ih
    exact ⟨s :: asked, by simp, by simp [hlength]⟩

/-- Asking for all pages gives the records of all of them, if it is allowed as
many pages as there are. -/
theorem Follows.pages_eq {log after : Log} {r : Request} {pages : List Page}
    (h : Follows c store log r pages after) :
    ∃ ms, ∀ more, c.pages store (pages.length + more) log r
      = (some (.after ms (.ok (pages.flatMap Page.records))), after) := by
  induction h with
  | @last log after r ms page hpage htoken =>
    refine ⟨ms, fun more => ?_⟩
    rw [List.length_singleton, Nat.add_comm, Client.pages, hpage]
    simp only [htoken, List.flatMap_singleton]
  | @next log between after r ms page token pages hpage htoken _ ih =>
    obtain ⟨later, ih⟩ := ih
    refine ⟨ms + later, fun more => ?_⟩
    rw [List.length_cons, Nat.add_right_comm, Client.pages, hpage]
    simp only [htoken, ih more, List.flatMap_cons]
    rfl

/-- Asking for all pages comes to nothing if it is allowed fewer than there
are. -/
theorem Follows.pages_of_lt {log after : Log} {r : Request} {pages : List Page}
    (h : Follows c store log r pages after) :
    ∀ fewer < pages.length, (c.pages store fewer log r).1 = none := by
  induction h with
  | last _ _ =>
    intro fewer hfewer
    rw [Nat.lt_one_iff.mp hfewer]
    rfl
  | next hpage htoken _ ih =>
    intro fewer hfewer
    cases fewer with
    | zero => rfl
    | succ fewer =>
      have hrest := ih fewer (Nat.lt_of_succ_lt_succ hfewer)
      rw [Client.pages, hpage]
      simp only [htoken, hrest, Option.map_none]

/-! ### Runs that are not at their end -/

/-- The pages that were read from a request on, how long that took, the log
after them, and the request for the page that is next. -/
inductive Reads (c : Client) (store : Store) :
    Log → Request → List Page → Nat → Log → Request → Prop
  | start {log : Log} {r : Request} : Reads c store log r [] 0 log r
  | next {log between after : Log} {r q : Request} {ms later : Nat} {page : Page} {token : Text}
      {pages : List Page} (hpage : c.page store log r = (.after ms (.ok page), between))
      (htoken : page.nextToken = some token)
      (hrest : Reads c store between { r with token := some token } pages later after q) :
      Reads c store log r (page :: pages) (ms + later) after q

variable {log between after : Log} {r q : Request} {pages : List Page} {page : Page}
  {ms later : Nat}

/-- The request for the next page differs from the first one in its token. -/
theorem Reads.request (h : Reads c store log r pages ms between q) :
    q = { r with token := q.token } := by
  induction h with
  | start => rfl
  | next _ _ _ ih => exact ih

/-- Each page that was read is one query. -/
theorem Reads.asked (h : Reads c store log r pages ms between q) :
    ∃ asked : List Statement, between = log ++ asked ∧ asked.length = pages.length := by
  induction h with
  | start => exact ⟨[], (List.append_nil _).symm, rfl⟩
  | next hpage _ _ ih =>
    obtain ⟨s, rfl⟩ := log_of_page hpage
    obtain ⟨asked, rfl, hlength⟩ := ih
    exact ⟨s :: asked, by simp, by simp [hlength]⟩

/-- One page more was read. -/
theorem Reads.concat {token : Text} (h : Reads c store log r pages ms between q)
    (hpage : c.page store between q = (.after later (.ok page), after))
    (htoken : page.nextToken = some token) :
    Reads c store log r (pages ++ [page]) (ms + later) after { q with token := some token } := by
  induction h with
  | start =>
    rw [Nat.zero_add]
    exact .next hpage htoken .start
  | next hfirst hnext _ ih =>
    rw [Nat.add_assoc]
    exact .next hfirst hnext (ih hpage)

/-- A run goes on from where it was left: its records come after those that
were read, and so much later. -/
theorem Reads.pages_eq (h : Reads c store log r pages ms between q) (more : Nat) :
    c.pages store (pages.length + more) log r
      = ((c.pages store more between q).1.map fun work =>
          (work.map (pages.flatMap Page.records ++ ·)).delay ms,
        (c.pages store more between q).2) := by
  induction h with
  | start =>
    simp only [List.length_nil, Nat.zero_add, List.flatMap_nil, after_nothing, Option.map_id']
  | next hpage htoken _ ih =>
    rw [List.length_cons, Nat.add_right_comm, Client.pages, hpage]
    simp only [htoken, ih, List.flatMap_cons, Option.map_map, Function.comp_def, after_both]

/-- A page without a token ends the run, with the records of all pages. -/
theorem Reads.pages_of_last (h : Reads c store log r pages ms between q)
    (hpage : c.page store between q = (.after later (.ok page), after))
    (htoken : page.nextToken = none) (more : Nat) :
    c.pages store (pages.length + 1 + more) log r
      = (some (.after (ms + later) (.ok ((pages ++ [page]).flatMap Page.records))), after) := by
  rw [Nat.add_assoc, h.pages_eq, Nat.add_comm 1, Client.pages, hpage, List.flatMap_append,
    List.flatMap_singleton]
  simp only [htoken]
  rfl

/-- An error ends the run, whatever was read. -/
theorem Reads.pages_of_error {e : Error} (h : Reads c store log r pages ms between q)
    (hpage : c.page store between q = (.after later (.error e), after)) (more : Nat) :
    c.pages store (pages.length + 1 + more) log r
      = (some (.after (ms + later) (.error e)), after) := by
  rw [Nat.add_assoc, h.pages_eq, Nat.add_comm 1, Client.pages, hpage]
  rfl

/-! ### What a run asks -/

/-- A run only adds to the log. -/
theorem log_of_pages (fuel : Nat) (log : Log) (r : Request) :
    ∃ asked, (c.pages store fuel log r).2 = log ++ asked := by
  induction fuel generalizing log r with
  | zero => exact ⟨[], (List.append_nil log).symm⟩
  | succ fuel ih =>
    have hpage : ∃ asked, (c.page store log r).2 = log ++ asked := by
      unfold Client.page
      split
      · exact ⟨[], (List.append_nil log).symm⟩
      · next s _ => exact ⟨[s], rfl⟩
    obtain ⟨asked, hasked⟩ := hpage
    rw [Client.pages]
    split
    · next h => exact ⟨asked, by rw [← hasked, h]⟩
    · next h => exact ⟨asked, by rw [← hasked, h]⟩
    · next between h =>
      obtain rfl : between = log ++ asked := by rw [← hasked, h]
      split
      · exact ⟨asked, rfl⟩
      · next token _ =>
        obtain ⟨others, hothers⟩ := ih (log ++ asked) { r with token := some token }
        exact ⟨asked ++ others, hothers.trans (List.append_assoc log asked others)⟩

/-- The first query of a run is the statement of its request. -/
theorem first_of_pages {s : Statement} (h : c.statement r = .ok s) (fuel : Nat) (log : Log) :
    ∃ asked, (c.pages store (fuel + 1) log r).2 = log ++ s :: asked := by
  have hpage : (c.page store log r).2 = log ++ [s] := by rw [Client.page, h]
  rw [Client.pages]
  split
  · next h => exact ⟨[], by rw [← hpage, h]⟩
  · next h => exact ⟨[], by rw [← hpage, h]⟩
  · next between h =>
    obtain rfl : between = log ++ [s] := by rw [← hpage, h]
    split
    · exact ⟨[], rfl⟩
    · next token _ =>
      obtain ⟨asked, hasked⟩ := log_of_pages fuel (log ++ [s]) { r with token := some token }
      exact ⟨asked, hasked.trans (List.append_cons log s asked).symm⟩

/-- A run of a request that is refused asks nothing. -/
theorem pages_of_refused {e : Error} (h : c.statement r = .error e) (fuel : Nat) (log : Log) :
    c.pages store (fuel + 1) log r = (some (.now (.error e)), log) := by
  rw [Client.pages, page_of_refused h]
  rfl

/-! ### Runs that came to an end -/

/-- Rows that are given are those of pages that follow each other. -/
theorem follows_of_pages {fuel : Nat} {rows : List Record}
    (h : c.pages store fuel log r = (some (.after ms (.ok rows)), after)) :
    ∃ pages, Follows c store log r pages after ∧ rows = pages.flatMap Page.records := by
  induction fuel generalizing log r ms rows with
  | zero => cases h
  | succ fuel ih =>
    rw [Client.pages] at h
    split at h
    · cases h
    · cases h
    · next t page between hpage =>
      split at h
      · next htoken =>
        cases h
        exact ⟨[page], .last hpage htoken, by rw [List.flatMap_singleton]⟩
      · next token htoken =>
        obtain ⟨hwork, hafter⟩ := Prod.mk.inj h
        obtain ⟨work, hrest, hdelay⟩ := Option.map_eq_some_iff.mp hwork
        obtain ⟨_, hmap, -⟩ := delay_eq_after_iff.mp hdelay
        obtain ⟨rest, rfl, rfl⟩ := map_eq_ok_iff.mp hmap
        obtain ⟨pages, hfollows, rfl⟩ := ih (Prod.ext hrest hafter)
        exact ⟨page :: pages, .next hpage htoken hfollows, rfl⟩

/-- An error that is given is that of a page after pages that were read. -/
theorem reads_of_pages {fuel : Nat} {e : Error}
    (h : c.pages store fuel log r = (some (.after ms (.error e)), after)) :
    ∃ pages ms between q later, Reads c store log r pages ms between q
      ∧ c.page store between q = (.after later (.error e), after) := by
  induction fuel generalizing log r ms with
  | zero => cases h
  | succ fuel ih =>
    rw [Client.pages] at h
    split at h
    · cases h
    · next hpage =>
      cases h
      exact ⟨[], 0, log, r, _, .start, hpage⟩
    · next t page between hpage =>
      split at h
      · cases h
      · next token htoken =>
        obtain ⟨hwork, hafter⟩ := Prod.mk.inj h
        obtain ⟨work, hrest, hdelay⟩ := Option.map_eq_some_iff.mp hwork
        obtain ⟨_, hmap, -⟩ := delay_eq_after_iff.mp hdelay
        obtain rfl := map_eq_error_iff.mp hmap
        obtain ⟨pages, ms, between, q, later, hreads, herror⟩ := ih (Prod.ext hrest hafter)
        exact ⟨page :: pages, _, between, q, later, .next hpage htoken hreads, herror⟩

end ReleaseLag.Proofs.Paging
