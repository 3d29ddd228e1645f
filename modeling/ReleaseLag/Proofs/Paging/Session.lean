import ReleaseLag.Paging.Session
import ReleaseLag.Proofs.Paging.Run

/-!
# `ReleaseLag.Proofs.Paging.Session`: what calls ask of a store

A store shows what it was asked by two numbers of its log: how many queries it
has seen, and the values that the last of them was sent with. `Unasked` lists
the calls that leave it alone, with the answers they get. No store occurs in an
answer of this kind, so none can have been read for it. `AskedOnce` lists the
calls for a single page that send one query. What a call for all pages asks is
told by the pages that it reads (`AllPages`): it sends a query for each, and
none for a request that is rejected on the way.

`callEffect_call` is the step from call to call. `session_of_calls` is the run,
over any sequence of calls.
-/

set_option autoImplicit false

namespace ReleaseLag.Proofs.Paging

open ReleaseLag.Proofs.Lagging

/-- How many queries a store has seen. -/
def queries (log : Log) : Nat :=
  log.length

/-- The values that the last query was sent with. -/
def lastBound (log : Log) : Option (List ParamValue) :=
  log.getLast?.map Statement.positionalParams

@[simp] theorem queries_concat (log : Log) (s : Statement) : queries (log ++ [s]) = queries log + 1 :=
  List.length_append

@[simp] theorem lastBound_concat (log : Log) (s : Statement) :
    lastBound (log ++ [s]) = some s.positionalParams := by
  simp [lastBound]

/-! ### Calls that ask nothing, and calls that ask once -/

/-- A call that asks a store nothing, and its answer: a statement, the error of
a caller who cancelled before anything was done, or the error for which a
request is rejected. -/
inductive Unasked (c : Client) : Call → Answer → Prop
  | statement {r : Request} : Unasked c (.statement r) (.statement (c.statement r))
  | cancelled {r : Request} :
      Unasked c (.pageUnless (some 0) r) (.page (.now (.error (.queryExecution .cancelled))))
  | page {r : Request} {e : Error} (h : Rejected r c.maxPageSize e) :
      Unasked c (.page r) (.page (.now (.error e)))
  | pageUnless {cancel : Option Nat} {r : Request} {e : Error} (hcancel : cancel ≠ some 0)
      (h : Rejected r c.maxPageSize e) : Unasked c (.pageUnless cancel r) (.page (.now (.error e)))
  | pages {r : Request} {e : Error} (h : Rejected r c.maxPageSize e) :
      Unasked c (.pages r) (.pages (some (.now (.error e))))

/-- A call for one page that is neither rejected nor cancelled from the start,
and the statement of its request. -/
inductive AskedOnce (c : Client) : Call → Statement → Prop
  | page {r : Request} {s : Statement} (h : c.statement r = .ok s) : AskedOnce c (.page r) s
  | pageUnless {cancel : Option Nat} {r : Request} {s : Statement} (hcancel : cancel ≠ some 0)
      (h : c.statement r = .ok s) : AskedOnce c (.pageUnless cancel r) s

section

variable {c : Client} {store : Store} {log between after : Log} {r q : Request} {call : Call}
  {limit ms : Nat} {e : Error} {s : Statement} {page : Page} {pages : List Page} {token : Text}

/-- A rejected request is an error at once. -/
theorem page_of_rejected (h : Rejected r c.maxPageSize e) (log : Log) :
    c.page store log r = (.now (.error e), log) :=
  page_of_refused (statement_eq_error_iff.mpr h) log

/-- A page of an accepted request is one query. -/
theorem exists_page_of_accepted (h : c.statement r = .ok s) (store : Store) (log : Log) :
    ∃ work, c.page store log r = (work, log ++ [s]) := by
  refine ⟨(Page.assemble r.pageSize (store.answer log s)).within c.timeoutMs, ?_⟩
  rw [Client.page, h]

/-- A call that asks nothing has the answer that is fixed for it, and leaves the
log as it was. -/
theorem call_of_unasked {fixed : Answer} (h : Unasked c call fixed) :
    c.call store (limit + 1) log call = (fixed, log) := by
  cases h with
  | statement => rfl
  | cancelled => rfl
  | page h =>
    rw [Client.call, page_of_rejected h]
  | @pageUnless cancel r e hcancel h =>
    have hpage : c.pageUnless cancel store log r = (.now (.error e), log) := by
      rw [Client.pageUnless, if_neg hcancel, page_of_rejected h]
      -- An error that is there at once comes before any later cancellation.
      cases cancel with
      | none => rfl
      | some ms =>
        have hpos : 0 < ms := Nat.pos_of_ne_zero fun hzero => hcancel (congrArg some hzero)
        show ((Outcome.after 0 (.error e)).unlessBy (some ms), log) = _
        rw [Outcome.unlessBy, if_pos hpos]
        rfl
    rw [Client.call, hpage]
  | pages h =>
    rw [Client.call, pages_of_refused (statement_eq_error_iff.mpr h)]

/-- A call that asks once adds the statement of its request to the log. -/
theorem call_of_askedOnce (h : AskedOnce c call s) (store : Store) (limit : Nat) (log : Log) :
    ∃ work, c.call store limit log call = (.page work, log ++ [s]) := by
  cases h with
  | page h =>
    obtain ⟨work, hpage⟩ := exists_page_of_accepted h store log
    exact ⟨work, by rw [Client.call, hpage]⟩
  | @pageUnless cancel r s hcancel h =>
    obtain ⟨work, hpage⟩ := exists_page_of_accepted h store log
    exact ⟨work.unlessBy cancel, by rw [Client.call, Client.pageUnless, if_neg hcancel, hpage]⟩

/-! ### Calls for all pages -/

/-- Each page that was read is one query. -/
theorem Reads.queries_eq (h : Reads c store log r pages ms between q) :
    queries between = queries log + pages.length := by
  induction h with
  | start => rfl
  | next hpage _ _ ih =>
    obtain ⟨s, rfl⟩ := log_of_page hpage
    rw [ih, queries_concat, List.length_cons]
    omega

/-- A run goes on as long as it may, or up to a page that has no successor. -/
theorem exists_reads (c : Client) (store : Store) (fuel : Nat) (log : Log) (r : Request) :
    ∃ pages ms between q more, fuel = pages.length + more
      ∧ Reads c store log r pages ms between q
      ∧ (more = 0 ∨ ∀ t page, (c.page store between q).1 = .after t (.ok page) →
          page.nextToken = none) := by
  induction fuel generalizing log r with
  | zero => exact ⟨[], 0, log, r, 0, rfl, .start, .inl rfl⟩
  | succ fuel ih =>
    by_cases hlast : ∀ t page, (c.page store log r).1 = .after t (.ok page) → page.nextToken = none
    · exact ⟨[], 0, log, r, fuel + 1, (Nat.zero_add _).symm, .start, .inr hlast⟩
    · push Not at hlast
      obtain ⟨t, page, hpage, htoken⟩ := hlast
      obtain ⟨token, htoken⟩ := Option.ne_none_iff_exists'.mp htoken
      have hpage : c.page store log r = (.after t (.ok page), (c.page store log r).2) :=
        Prod.ext hpage rfl
      obtain ⟨pages, ms, between, q, more, hfuel, hreads, hend⟩ :=
        ih (c.page store log r).2 { r with token := some token }
      refine ⟨page :: pages, t + ms, between, q, more, ?_, .next hpage htoken hreads, hend⟩
      rw [List.length_cons]
      omega

/-- A page that has no successor is the end of a run. -/
theorem pages_of_final {final : Outcome Page} (hpage : c.page store log r = (final, after))
    (hlast : ∀ t page, final = .after t (.ok page) → page.nextToken = none) (more : Nat) :
    c.pages store (more + 1) log r = (some (final.map Page.records), after) := by
  rw [Client.pages, hpage]
  cases final with
  | never => rfl
  | after t result =>
    cases result with
    | error e => rfl
    | ok page =>
      simp only [hlast t page rfl]
      rfl

/-- A call for all pages that has read some of them, what it comes to, and the
log after it:

1. `rejected`: the request for the next page is rejected, and no query is sent
   for that page;
2. `fetched`: one page more is fetched by one query, and it is the last, an error
   or never there;
3. `unfinished`: no more pages are allowed. -/
inductive AllPages (c : Client) (store : Store) (limit : Nat) (before : Log) (r : Request) :
    Option (Outcome (List Record)) → Log → Prop
  | rejected {pages : List Page} {ms : Nat} {after : Log} {q : Request} {e : Error}
      (hreads : Reads c store before r pages ms after q)
      (hrejected : Rejected q c.maxPageSize e)
      (hqueries : queries after = queries before + pages.length) :
      AllPages c store limit before r (some (.after ms (.error e))) after
  | fetched {pages : List Page} {ms : Nat} {between after : Log} {q : Request} {s : Statement}
      {final : Outcome Page} (hreads : Reads c store before r pages ms between q)
      (haccepted : c.statement q = .ok s) (hpage : c.page store between q = (final, after))
      (hlast : ∀ t page, final = .after t (.ok page) → page.nextToken = none)
      (hqueries : queries after = queries before + (pages.length + 1))
      (hbound : lastBound after = some s.positionalParams) :
      AllPages c store limit before r
        (some (((final.map Page.records).map (pages.flatMap Page.records ++ ·)).delay ms)) after
  | unfinished {pages : List Page} {ms : Nat} {after : Log} {q : Request}
      (hreads : Reads c store before r pages ms after q) (hlimit : pages.length = limit)
      (hqueries : queries after = queries before + pages.length) :
      AllPages c store limit before r none after

/-- A call for all pages sends a query for each page that it fetches. -/
theorem allPages_of_pages (limit : Nat) (log : Log) (r : Request) :
    AllPages c store limit log r (c.pages store limit log r).1 (c.pages store limit log r).2 := by
  obtain ⟨pages, ms, between, q, more, rfl, hreads, hend⟩ :=
    exists_reads c store limit log r
  have hqueries := hreads.queries_eq
  rw [hreads.pages_eq more]
  cases more with
  | zero => exact .unfinished hreads rfl hqueries
  | succ more =>
    have hlast := hend.resolve_left (Nat.succ_ne_zero more)
    cases hstatement : c.statement q with
    | error e =>
      have hrejected := statement_eq_error_iff.mp hstatement
      rw [pages_of_refused hstatement]
      exact .rejected hreads hrejected hqueries
    | ok s =>
      obtain ⟨final, hpage⟩ := exists_page_of_accepted hstatement store between
      rw [hpage] at hlast
      rw [pages_of_final hpage hlast]
      refine .fetched hreads hstatement hpage hlast ?_ (lastBound_concat between s)
      rw [queries_concat, hqueries]
      omega

/-! ### Sessions -/

/-- What a call does to the store behind a log:

1. `kind`: it asks nothing, it asks once, or it is for all pages;
2. `unasked`: if it asks nothing, it has the answer that is fixed for it, and
   the store has seen as many queries as before and the same values last;
3. `asked`: if it asks once, the store has seen one query more, with the values
   that the statement of the request numbers;
4. `all`: if it is for all pages, the store has seen one query more for each page
   that was fetched. -/
structure CallEffect (c : Client) (store : Store) (limit : Nat) (before : Log) (call : Call)
    (answer : Answer) (after : Log) : Prop where
  kind : (∃ fixed, Unasked c call fixed) ∨ (∃ s, AskedOnce c call s) ∨ ∃ r, call = .pages r
  unasked : ∀ fixed, Unasked c call fixed →
    answer = fixed ∧ queries after = queries before ∧ lastBound after = lastBound before
  asked : ∀ s, AskedOnce c call s → (∃ work, answer = .page work)
    ∧ queries after = queries before + 1 ∧ lastBound after = some s.positionalParams
  all : ∀ r, call = .pages r →
    ∃ run, answer = .pages run ∧ AllPages c store limit before r run after

/-- Every call is of one of the three kinds. -/
theorem kind_of_call (c : Client) (call : Call) :
    (∃ fixed, Unasked c call fixed) ∨ (∃ s, AskedOnce c call s) ∨ ∃ r, call = .pages r := by
  cases call with
  | statement r => exact .inl ⟨_, .statement⟩
  | pages r => exact .inr (.inr ⟨r, rfl⟩)
  | page r =>
    cases hstatement : c.statement r with
    | error e => exact .inl ⟨_, .page (statement_eq_error_iff.mp hstatement)⟩
    | ok s => exact .inr (.inl ⟨s, .page hstatement⟩)
  | pageUnless cancel r =>
    by_cases hcancel : cancel = some 0
    · subst hcancel
      exact .inl ⟨_, .cancelled⟩
    · cases hstatement : c.statement r with
      | error e => exact .inl ⟨_, .pageUnless hcancel (statement_eq_error_iff.mp hstatement)⟩
      | ok s => exact .inr (.inl ⟨s, .pageUnless hcancel hstatement⟩)

/-- One call. -/
theorem callEffect_call (c : Client) (store : Store) (limit : Nat) (before : Log) (call : Call) :
    CallEffect c store (limit + 1) before call (c.call store (limit + 1) before call).1
      (c.call store (limit + 1) before call).2 where
  kind := kind_of_call c call
  unasked := by
    intro fixed h
    rw [call_of_unasked h]
    exact ⟨rfl, rfl, rfl⟩
  asked := by
    intro s h
    obtain ⟨work, hcall⟩ := call_of_askedOnce h store (limit + 1) before
    rw [hcall]
    exact ⟨⟨work, rfl⟩, queries_concat before s, lastBound_concat before s⟩
  all := by
    intro r h
    subst h
    exact ⟨_, rfl, allPages_of_pages (limit + 1) before r⟩

/-- The answers of calls made one after the other, each with the log after it:
every call has its effect on the log that the call before it left. -/
inductive Session (c : Client) (store : Store) (limit : Nat) :
    Log → List Call → List (Answer × Log) → Prop
  | done {log : Log} : Session c store limit log [] []
  | call {before after : Log} {call : Call} {answer : Answer} {calls : List Call}
      {answers : List (Answer × Log)} (heffect : CallEffect c store limit before call answer after)
      (hrest : Session c store limit after calls answers) :
      Session c store limit before (call :: calls) ((answer, after) :: answers)

end

/-- Whatever calls are made, of whichever client and store, a call whose request
is rejected, a call for a statement and one that is cancelled from the start
leave the store as it was; every other call for a page is one query, and a call
for all pages is one query for each page. A call for all pages is allowed at
least one. -/
theorem session_of_calls (c : Client) (store : Store) (limit : Nat) (log : Log)
    (calls : List Call) :
    Session c store (limit + 1) log calls (c.calls store (limit + 1) log calls) := by
  induction calls generalizing log with
  | nil => exact .done
  | cons call calls ih =>
    have heffect := callEffect_call c store limit log call
    exact .call heffect (ih (c.call store (limit + 1) log call).2)

end ReleaseLag.Proofs.Paging
