import Mathlib.Data.ENat.Lattice
import ReleaseLag.Proofs.Paging.Assembly
import ReleaseLag.Proofs.Paging.Run

/-!
# `ReleaseLag.Proofs.Paging.Race`: a page against the clock and its caller

Three moments can end the wait for a page: the answer of the store is settled,
the time limit falls due, or the caller cancels. Each is a number of
milliseconds or `⊤`, for never. An answer is settled where it `Ends`, so what a
store would send behind a fault does not count. `race_within_unlessBy` says that
the first of the three moments decides, for work of any kind, and
`race_of_pageUnless` draws the conclusion for a page that can be cancelled.

A run from page to page has no clock of its own. `pages_untimed` says that a
limit which every answer keeps changes nothing about a run, whatever its pages
take together, and `pages_elapsed` that one which an answer misses falls due so
long after that page was begun. The main statement is `first_moment_decides`.
-/

set_option autoImplicit false

namespace ReleaseLag.Proofs.Paging

open ReleaseLag.Proofs.Lagging

/-! ### Moments -/

/-- A moment that may never come. -/
def moment (ms? : Option Nat) : ℕ∞ :=
  ms?.elim ⊤ Nat.cast

/-- The moment at which work is settled. -/
def settledAt {α : Type} : Outcome α → ℕ∞
  | .after ms _ => ms
  | .never => ⊤

section

variable {α β : Type} {work : Outcome α} {limit cancel : Option Nat}

@[simp] theorem moment_none : moment none = ⊤ := rfl

@[simp] theorem moment_some (ms : Nat) : moment (some ms) = ms := rfl

@[simp] theorem settledAt_after (ms : Nat) (result : Except Error α) :
    settledAt (.after ms result) = ms := rfl

@[simp] theorem settledAt_never : settledAt (.never : Outcome α) = ⊤ := rfl

/-- What a result is changed to does not change when it is there. -/
@[simp] theorem settledAt_map (work : Outcome α) (f : α → β) :
    settledAt (work.map f) = settledAt work := by
  cases work <;> rfl

/-- Work that is settled before the limit falls due is not given up. -/
theorem within_of_lt (h : settledAt work < moment limit) : work.within limit = work := by
  cases work with
  | never => exact absurd h not_top_lt
  | after ms result =>
    refine within_of_le fun most hmost => ?_
    cases hmost
    have hlt : ms < most := by simpa using h
    omega

/-- Work is given up when the limit falls due before it is settled. -/
theorem within_of_gt {most : Nat} (h : (most : ℕ∞) < settledAt work) :
    work.within (some most) = .after most (.error (.queryExecution .elapsed)) := by
  cases work with
  | never => rfl
  | after ms result =>
    have hlt : most < ms := by simpa using h
    exact if_neg (by omega)

/-- A limit settles work at the first of the two moments. -/
theorem settledAt_within (work : Outcome α) (limit : Option Nat) :
    settledAt (work.within limit) = min (settledAt work) (moment limit) := by
  cases limit with
  | none => simp [Outcome.within]
  | some most =>
    rcases lt_or_ge (most : ℕ∞) (settledAt work) with hlate | htime
    · rw [within_of_gt hlate, settledAt_after, moment_some, min_eq_right hlate.le]
    · cases work with
      | never => exact absurd htime (by simp)
      | after ms result =>
        have hle : ms ≤ most := by simpa using htime
        have hmin : min (ms : ℕ∞) most = ms := min_eq_left htime
        rw [Outcome.within, if_pos hle, settledAt_after, moment_some, hmin]

/-- Work that is settled before its caller cancels is not cancelled. -/
theorem unlessBy_of_lt (h : settledAt work < moment cancel) : work.unlessBy cancel = work := by
  cases cancel with
  | none => rfl
  | some ms =>
    cases work with
    | never => exact absurd h not_top_lt
    | after t result =>
      have hlt : t < ms := by simpa using h
      exact if_pos hlt

/-- Work is cancelled if its caller cancels before it is settled. -/
theorem unlessBy_of_gt {ms : Nat} (h : (ms : ℕ∞) < settledAt work) :
    work.unlessBy (some ms) = .after ms (.error (.queryExecution .cancelled)) := by
  cases work with
  | never => rfl
  | after t result =>
    have hlt : ms < t := by simpa using h
    exact if_neg (by omega)

/-- Which of three moments decides about work: the work itself, its limit or
its caller, whichever comes first. -/
structure Race (work : Outcome α) (limit cancel : Option Nat) (ended : Outcome α) : Prop where
  settled : settledAt work < moment limit → settledAt work < moment cancel → ended = work
  elapsed : ∀ ms, limit = some ms → (ms : ℕ∞) < settledAt work → (ms : ℕ∞) < moment cancel →
    ended = .after ms (.error (.queryExecution .elapsed))
  cancelled : ∀ ms, cancel = some ms → (ms : ℕ∞) < settledAt work → (ms : ℕ∞) < moment limit →
    ended = .after ms (.error (.queryExecution .cancelled))

/-- A limit inside a cancellation is a race of the three. -/
theorem race_within_unlessBy (work : Outcome α) (limit cancel : Option Nat) :
    Race work limit cancel ((work.within limit).unlessBy cancel) where
  settled := by
    intro hlimit hcancel
    have hwithin : work.within limit = work := within_of_lt hlimit
    rw [hwithin, unlessBy_of_lt hcancel]
  elapsed := by
    intro ms hlimit hlate hcancel
    subst hlimit
    rw [within_of_gt hlate]
    exact unlessBy_of_lt hcancel
  cancelled := by
    intro ms hcancel hlate hlimit
    subst hcancel
    refine unlessBy_of_gt ?_
    rw [settledAt_within]
    exact lt_min hlate hlimit

/-- No two of three moments fall together, unless they never come. -/
def NoTies (a b c : ℕ∞) : Prop :=
  (a = b → a = ⊤) ∧ (b = c → b = ⊤) ∧ (a = c → a = ⊤)

/-- Under a limit, work is settled in time or given up. -/
theorem within_cases (work : Outcome α) (limit : Option Nat) :
    (work.within limit = work ∧ settledAt work ≤ moment limit)
      ∨ ∃ ms, work.within limit = .after ms (.error (.queryExecution .elapsed)) := by
  rcases lt_or_ge (moment limit) (settledAt work) with hlate | htime
  · cases limit with
    | none => exact absurd hlate not_top_lt
    | some most => exact .inr ⟨most, within_of_gt hlate⟩
  · have hsame : work.within limit = work := by
      cases work with
      | never =>
        cases limit with
        | none => rfl
        | some most => exact absurd htime (by simp)
      | after ms result =>
        refine within_of_le fun most hmost => ?_
        cases hmost
        simpa using htime
    exact .inl ⟨hsame, htime⟩

/-- Work is settled before its caller cancels, or it is cancelled. -/
theorem unlessBy_cases (work : Outcome α) (cancel : Option Nat) :
    (work.unlessBy cancel = work ∧ settledAt work ≤ moment cancel)
      ∨ ∃ ms, work.unlessBy cancel = .after ms (.error (.queryExecution .cancelled)) := by
  cases cancel with
  | none => exact .inl ⟨rfl, le_top⟩
  | some ms =>
    rcases lt_or_ge (settledAt work) (moment (some ms)) with htime | hlate
    · exact .inl ⟨unlessBy_of_lt htime, htime.le⟩
    · refine .inr ⟨ms, ?_⟩
      cases work with
      | never => rfl
      | after t result =>
        have hle : ms ≤ t := by simpa using hlate
        exact if_neg (by omega)

/-- An error says that work was cut off just if the work itself was not the
first to come to its end, provided that its own error says nothing of the sort
and that no two of the moments fall together. -/
theorem isCancelled_iff_not_first {ms : Nat} {e : Error}
    (h : (work.within limit).unlessBy cancel = .after ms (.error e))
    (hown : ∀ t d, work = .after t (.error d) → d.isCancelled = false)
    (hties : NoTies (settledAt work) (moment limit) (moment cancel)) :
    e.isCancelled = true
      ↔ ¬(settledAt work < moment limit ∧ settledAt work < moment cancel) := by
  constructor
  · intro hcut
    rintro ⟨hlimit, hcancel⟩
    rw [(race_within_unlessBy work limit cancel).settled hlimit hcancel] at h
    rw [hown ms e h] at hcut
    cases hcut
  · intro hnot
    rcases unlessBy_cases (work.within limit) cancel with ⟨hsame, hcancel⟩ | ⟨t, hcancelled⟩
    · rw [hsame] at h
      rcases within_cases work limit with ⟨hwork, hlimit⟩ | ⟨t, helapsed⟩
      · -- The work came first, so the other two moments fall on its own.
        rw [hwork] at h hcancel
        have hms : settledAt work ≠ ⊤ := by simp [h]
        refine absurd ⟨lt_of_le_of_ne hlimit ?_, lt_of_le_of_ne hcancel ?_⟩ hnot
        · exact fun heq => hms (hties.1 heq)
        · exact fun heq => hms (hties.2.2 heq)
      · rw [helapsed] at h
        cases h
        rfl
    · rw [hcancelled] at h
      cases h
      rfl

end

/-! ### One page -/

/-- No failure of a store says that a query was cut off. -/
def PlainFailures (store : Store) : Prop :=
  ∀ log s e, .fail e ∈ store.answer log s → e.isCancelled = false

/-- The failures of a script, which carry text, do not say so. -/
theorem plainFailures_ofScript {script : List (List Item)}
    (htext : ∀ answer ∈ script, ∀ e, .fail e ∈ answer →
      ∃ reason, e = .queryExecution (.store reason)) :
    PlainFailures (.ofScript script) := by
  intro log s e hfail
  replace hfail : .fail e ∈ (script[log.length]?).getD [] := hfail
  cases hanswer : script[log.length]? with
  | none => simp [hanswer] at hfail
  | some answer =>
    rw [hanswer, Option.getD_some] at hfail
    obtain ⟨reason, rfl⟩ := htext answer (List.mem_of_getElem? hanswer) e hfail
    rfl

section

variable {c : Client} {store : Store} {log between : Log} {r q : Request} {s : Statement}
  {pages : List Page} {own : Outcome (List Record)} {ms : Nat} {e : Error}

/-- The error of an answer says that the query was cut off only if the store
sent one that does. -/
theorem isCancelled_of_ends (hplain : PlainFailures store)
    (hends : Ends none (store.answer log s) (.after ms (.error e))) : e.isCancelled = false := by
  rcases error_of_collect hends.collect_eq with hsent | ⟨_, _, rfl⟩ | ⟨_, _, rfl⟩
  · exact hplain log s e hsent
  · rfl
  · rfl

/-- What keeps a request from being sent does not say so either. -/
theorem isCancelled_of_statement (h : c.statement r = .error e) : e.isCancelled = false := by
  rcases clientError_of_statement h with ⟨fault, rfl⟩ | ⟨fault, rfl⟩ <;> rfl

/-- A request that is accepted is asked for once, and its page is that of the
answer within the time limit. -/
theorem page_of_accepted (haccepted : c.statement r = .ok s)
    (hends : Ends none (store.answer log s) own) :
    c.page store log r
      = ((own.map (Page.ofRecords r.pageSize)).within c.timeoutMs, log ++ [s]) := by
  rw [Client.page, haccepted]
  show ((Page.assemble r.pageSize (store.answer log s)).within c.timeoutMs, log ++ [s]) = _
  rw [Page.assemble, hends.collect_eq]

/-- A page that can be cancelled, for an accepted request. The answer of the
store is settled as `own`, and in no other way:

1. `one_query`: the store is asked once, for the statement of the request;
2. `race`: the page, or the error in its place, is that of the answer if this is
   settled before the limit falls due and before the caller cancels; it is that
   of the limit or of the caller if theirs is the first of the three moments;
3. `cut_off`: the error says that the query was cut off in the latter two cases
   and in no other;
4. `whole`: a page that comes has every row of the answer. -/
structure PageRace (c : Client) (store : Store) (cancel : Option Nat) (log : Log) (r : Request)
    (s : Statement) (own : Outcome (List Record)) : Prop where
  ends : Ends none (store.answer log s) own
  alone : ∀ other, Ends none (store.answer log s) other → other = own
  one_query : (c.pageUnless cancel store log r).2 = log ++ [s]
  race : Race (own.map (Page.ofRecords r.pageSize)) c.timeoutMs cancel
    (c.pageUnless cancel store log r).1
  cut_off : PlainFailures store →
    NoTies (settledAt own) (moment c.timeoutMs) (moment cancel) →
    ∀ ms e, (c.pageUnless cancel store log r).1 = .after ms (.error e) →
      (e.isCancelled = true
        ↔ ¬(settledAt own < moment c.timeoutMs ∧ settledAt own < moment cancel))
  whole : ∀ ms page, (c.pageUnless cancel store log r).1 = .after ms (.ok page) →
    events (store.answer log s) = page.records.map itemOf

/-- A page of an accepted request that is not cancelled from the start is a
race between its answer, the limit and the caller. -/
theorem race_of_pageUnless {cancel : Option Nat} (haccepted : c.statement r = .ok s)
    (hcancel : cancel ≠ some 0) : ∃ own, PageRace c store cancel log r s own := by
  have hends : Ends none (store.answer log s) (Page.collect none (store.answer log s)) :=
    ends_collect none (store.answer log s)
  generalize Page.collect none (store.answer log s) = own at hends
  have hpage : c.pageUnless cancel store log r
      = (((own.map (Page.ofRecords r.pageSize)).within c.timeoutMs).unlessBy cancel,
        log ++ [s]) := by
    rw [Client.pageUnless, if_neg hcancel, page_of_accepted haccepted hends]
  have hrace := race_within_unlessBy (own.map (Page.ofRecords r.pageSize)) c.timeoutMs cancel
  refine ⟨own, hends, fun other hother => ?_, ?_, ?_, ?_, ?_⟩
  · exact hother.collect_eq.symm.trans hends.collect_eq
  · rw [hpage]
  · rw [hpage]
    exact hrace
  · intro hplain hties ms e he
    rw [hpage] at he
    rw [← settledAt_map own (Page.ofRecords r.pageSize)] at hties ⊢
    refine isCancelled_iff_not_first he (fun t d hd => ?_) hties
    have hown : own = .after t (.error d) := map_eq_error_iff.mp hd
    rw [hown] at hends
    exact isCancelled_of_ends hplain hends
  · intro ms page he
    rw [hpage] at he
    rcases unlessBy_cases ((own.map (Page.ofRecords r.pageSize)).within c.timeoutMs) cancel with
      ⟨hsame, -⟩ | ⟨t, hcancelled⟩
    · rw [hsame] at he
      obtain ⟨records, hown, rfl⟩ := map_eq_ok_iff.mp (within_eq_ok he)
      rw [hown] at hends
      exact (collect_eq_ok_iff.mp hends.collect_eq).1
    · rw [hcancelled] at he
      cases he

/-! ### All pages -/

/-- Every query that was sent between two logs was settled before the limit of a
page fell due. -/
def InTime (c : Client) (store : Store) (log after : Log) : Prop :=
  ∀ earlier s later own, after = log ++ earlier ++ s :: later →
    Ends none (store.answer (log ++ earlier) s) own → settledAt own < moment c.timeoutMs

/-- The answers of a script that are each settled before a limit falls due are
so in any run. -/
theorem inTime_of_script {script : List (List Item)} {after : Log}
    (h : ∀ answer ∈ [] :: script, settledAt (Page.collect none answer) < moment c.timeoutMs) :
    InTime c (.ofScript script) log after := by
  intro earlier s later own _ hends
  replace hends : Ends none ((script[(log ++ earlier).length]?).getD []) own := hends
  rw [← hends.collect_eq]
  refine h _ ?_
  cases hanswer : script[(log ++ earlier).length]? with
  | none => exact List.mem_cons_self
  | some answer => exact List.mem_cons_of_mem _ (List.mem_of_getElem? hanswer)

/-- The client without a limit. -/
def untimed (c : Client) : Client :=
  { c with timeoutMs := none }

/-- A run that goes on asks what the rest of it asks. -/
theorem log_of_next {page : Page} {token : Text} {fuel : Nat}
    (hpage : c.page store log r = (.after ms (.ok page), between))
    (htoken : page.nextToken = some token) :
    (c.pages store (fuel + 1) log r).2
      = (c.pages store fuel between { r with token := some token }).2 := by
  rw [Client.pages, hpage]
  simp only [htoken]

/-- Two clients that get the same page, and the same rest of a run after it, get
the same run. -/
theorem pages_congr {d : Client} {fuel : Nat} (hpage : d.page store log r = c.page store log r)
    (hrest : ∀ ms page token between, c.page store log r = (.after ms (.ok page), between) →
      page.nextToken = some token →
      d.pages store fuel between { r with token := some token }
        = c.pages store fuel between { r with token := some token }) :
    d.pages store (fuel + 1) log r = c.pages store (fuel + 1) log r := by
  rw [Client.pages, Client.pages, hpage]
  split
  · rfl
  · rfl
  · next ms page between hgot =>
    split
    · rfl
    · next token htoken => rw [hrest ms page token between hgot htoken]

/-- A page that is settled in time is the page without a limit. -/
theorem page_untimed (htime : ∀ s own, c.statement r = .ok s →
      Ends none (store.answer log s) own → settledAt own < moment c.timeoutMs) :
    (untimed c).page store log r = c.page store log r := by
  cases hstatement : c.statement r with
  | error e =>
    rw [page_of_refused hstatement]
    exact page_of_refused (c := untimed c) hstatement log
  | ok s =>
    have hends := ends_collect none (store.answer log s)
    have hlt := htime s _ hstatement hends
    rw [page_of_accepted hstatement hends, within_of_lt (by rwa [settledAt_map])]
    exact page_of_accepted (c := untimed c) hstatement hends

/-- A limit that every answer keeps changes nothing about a run, whatever its
pages take together. -/
theorem pages_untimed (fuel : Nat) (log : Log) (r : Request)
    (htime : InTime c store log (c.pages store fuel log r).2) :
    (untimed c).pages store fuel log r = c.pages store fuel log r := by
  induction fuel generalizing log r with
  | zero => rfl
  | succ fuel ih =>
    refine pages_congr (page_untimed fun s own hs hends => ?_) ?_
    · obtain ⟨asked, hasked⟩ : ∃ asked, (c.pages store (fuel + 1) log r).2 = log ++ s :: asked :=
        first_of_pages hs fuel log
      refine htime [] s asked own (by simp [hasked]) ?_
      rwa [List.append_nil]
    · intro ms page token between hpage htoken
      obtain ⟨first, rfl⟩ := log_of_page hpage
      -- What the rest of the run asks comes after the first query.
      refine ih _ _ fun earlier s later own hlog hends => ?_
      refine htime (first :: earlier) s later own ?_ ?_
      · rw [log_of_next hpage htoken, hlog]
        simp
      · rwa [List.append_cons]

/-- A run whose answers are settled in time comes to no error that says it was
cut off. -/
theorem isCancelled_of_pages {fuel : Nat} (hplain : PlainFailures store)
    (htime : InTime c store log (c.pages store fuel log r).2)
    (h : (c.pages store fuel log r).1 = some (.after ms (.error e))) : e.isCancelled = false := by
  rw [← pages_untimed fuel log r htime] at h
  obtain ⟨pages, _, between, q, later, -, hpage⟩ := reads_of_pages (Prod.ext h rfl)
  cases hstatement : (untimed c).statement q with
  | error d =>
    rw [page_of_refused hstatement] at hpage
    cases hpage
    exact isCancelled_of_statement hstatement
  | ok s =>
    have hends := ends_collect none (store.answer between s)
    rw [page_of_accepted hstatement hends] at hpage
    -- Without a limit, the error is that of the answer.
    have hown := map_eq_error_iff.mp (Prod.mk.inj hpage).1
    rw [hown] at hends
    exact isCancelled_of_ends hplain hends

/-- A page that misses the limit ends a run so long after it was begun, however
long the pages before it took. -/
theorem pages_elapsed {limit : Nat} (hreads : Reads c store log r pages ms between q)
    (haccepted : c.statement q = .ok s) (hends : Ends none (store.answer between s) own)
    (hlimit : c.timeoutMs = some limit) (hlate : (limit : ℕ∞) < settledAt own) (more : Nat) :
    c.pages store (pages.length + 1 + more) log r
      = (some (.after (ms + limit) (.error (.queryExecution .elapsed))), between ++ [s]) := by
  refine hreads.pages_of_error ?_ more
  rw [page_of_accepted haccepted hends, hlimit, within_of_gt (by rwa [settledAt_map])]

end

/-- The first of three moments decides about a page: its answer is settled, its
limit falls due, or its caller cancels.

1. A page that is cancelled from the start asks nothing and is an error,
   whatever the request.
2. Any other page of an accepted request is one query and a `PageRace`.
3. A run over answers that are each settled before the limit falls due is what
   it would be without a limit, and no error of it says that it was cut off.
4. An answer that is not settled when the limit falls due ends the run then,
   counted from the query for that page.
5. What parts 2 and 3 ask of failures holds for those of a script, which are
   texts. -/
theorem first_moment_decides (c : Client) (store : Store) :
    (∀ log r, c.pageUnless (some 0) store log r
        = (.now (.error (.queryExecution .cancelled)), log))
      ∧ (∀ log r s cancel, c.statement r = .ok s → cancel ≠ some 0 →
          ∃ own, PageRace c store cancel log r s own)
      ∧ (∀ log r fuel, InTime c store log (c.pages store fuel log r).2 →
          (untimed c).pages store fuel log r = c.pages store fuel log r
            ∧ (PlainFailures store → ∀ ms e,
                (c.pages store fuel log r).1 = some (.after ms (.error e)) →
                e.isCancelled = false))
      ∧ (∀ log r pages ms between q s own limit more,
          Reads c store log r pages ms between q → c.statement q = .ok s →
          Ends none (store.answer between s) own → c.timeoutMs = some limit →
          (limit : ℕ∞) < settledAt own →
          c.pages store (pages.length + 1 + more) log r
            = (some (.after (ms + limit) (.error (.queryExecution .elapsed))),
              between ++ [s]))
      ∧ ∀ script : List (List Item), (∀ answer ∈ script, ∀ e, .fail e ∈ answer →
            ∃ reason, e = .queryExecution (.store reason)) →
          PlainFailures (.ofScript script) := by
  refine ⟨fun log r => rfl, ?_, ?_, ?_, ?_⟩
  · intro log r s cancel haccepted hcancel
    exact race_of_pageUnless haccepted hcancel
  · intro log r fuel htime
    refine ⟨pages_untimed fuel log r htime, fun hplain ms e h => ?_⟩
    exact isCancelled_of_pages hplain htime h
  · intro log r pages ms between q s own limit more hreads haccepted hends hlimit hlate
    exact pages_elapsed hreads haccepted hends hlimit hlate more
  · intro script htext
    exact plainFailures_ofScript htext

/-- A request for two records from three days. -/
def racedRequest : Request where
  target := "chrome".toList
  references := ["firefox".toList]
  window := ⟨⟨61000, 0, by decide⟩, ⟨241000, 0, by decide⟩⟩
  pageSize := 2
  token := none

/-- The records of its first page. -/
def racedRecords : List Record :=
  [⟨⟨181000, 0, by decide⟩, 2⟩, ⟨⟨121000, 0, by decide⟩, 5⟩]

/-- The first answer takes two seconds. The second one fails after four. -/
def racedScript : List (List Item) :=
  [.wait 2000 :: racedRecords.map itemOf,
    [.wait 4000, .fail (.queryExecution (.store "reset".toList))]]

/-- The request of the second page. -/
def lateRequest : Request :=
  { racedRequest with token := some (Cursor.encode ⟨121000, 0, by decide⟩) }

/-- With a limit of three seconds, the first page is there after two, if it is not
cancelled before. A run ends three seconds after that, in the middle of the second
answer. A limit of five seconds changes nothing about it. -/
theorem first_moment_decides_sample :
    (Client.pageUnless (some 1000) ⟨2, some 3000⟩ (.ofScript racedScript) [] racedRequest).1
        = .after 1000 (.error (.queryExecution .cancelled))
      ∧ (Client.pageUnless none ⟨2, some 3000⟩ (.ofScript racedScript) [] racedRequest).1
        = .after 2000 (.ok (Page.ofRecords 2 racedRecords))
      ∧ (Client.pages ⟨2, some 3000⟩ (.ofScript racedScript) 2 [] racedRequest).1
        = some (.after 5000 (.error (.queryExecution .elapsed)))
      ∧ Client.pages ⟨2, none⟩ (.ofScript racedScript) 2 [] racedRequest
        = Client.pages ⟨2, some 5000⟩ (.ofScript racedScript) 2 [] racedRequest
      ∧ PlainFailures (.ofScript racedScript) := by
  obtain ⟨-, hraces, -, hlate, hplain⟩ :=
    first_moment_decides ⟨2, some 3000⟩ (.ofScript racedScript)
  obtain ⟨-, -, huntimed, -, -⟩ := first_moment_decides ⟨2, some 5000⟩ (.ofScript racedScript)
  have hacceptable : Acceptable racedRequest 2 := check_eq_ok_iff (u := ()).mp (by decide)
  have haccepted : ∀ limit, (⟨2, limit⟩ : Client).statement racedRequest
      = .ok (built racedRequest none) := fun _ =>
    statement_eq_ok_iff.mpr ⟨hacceptable, none, .fresh rfl, rfl⟩
  have hresumes : Resumes lateRequest (some ⟨121000, 0, by decide⟩) := resumes_after (by decide)
  have hnext : (⟨2, some 3000⟩ : Client).statement lateRequest = .ok (built lateRequest _) :=
    statement_eq_ok_iff.mpr ⟨acceptable_withToken hacceptable _, _, hresumes, rfl⟩
  have hfirst : ∀ s, Ends none ((Store.ofScript racedScript).answer [] s)
      (.after 2000 (.ok racedRecords)) := fun _ => ends_collect none _
  have hsecond : ∀ s, Ends none ((Store.ofScript racedScript).answer [built racedRequest none] s)
      (.after 4000 (.error (.queryExecution (.store "reset".toList)))) :=
    fun _ => ends_collect none _
  have hraced : ∀ cancel, cancel ≠ some 0 → PageRace ⟨2, some 3000⟩ (.ofScript racedScript) cancel
      [] racedRequest (built racedRequest none) (.after 2000 (.ok racedRecords)) := by
    intro cancel hcancel
    obtain ⟨own, hrace⟩ := hraces [] racedRequest _ cancel (haccepted _) hcancel
    rwa [← hrace.alone _ (hfirst _)] at hrace
  have hpage := page_of_accepted (c := ⟨2, some 3000⟩) (haccepted _) (hfirst _)
  refine ⟨?cancelled, ?settled, ?elapsed, ?untimed, ?plain⟩
  case cancelled =>
    exact (hraced (some 1000) (by decide)).race.cancelled 1000 rfl
      (Nat.cast_lt.mpr (by decide : 1000 < 2000)) (Nat.cast_lt.mpr (by decide : 1000 < 3000))
  case settled =>
    exact (hraced none (by decide)).race.settled (Nat.cast_lt.mpr (by decide : 2000 < 3000))
      (ENat.natCast_lt_top 2000)
  case elapsed =>
    exact congrArg Prod.fst (hlate [] racedRequest _ _ _ _ _ _ 3000 0 (.next hpage rfl .start)
      hnext (hsecond _) rfl (Nat.cast_lt.mpr (by decide : 3000 < 4000)))
  case untimed =>
    refine (huntimed [] racedRequest 2 (inTime_of_script ?_)).1
    exact List.forall_mem_cons.mpr ⟨Nat.cast_lt.mpr (by decide : 0 < 5000),
      List.forall_mem_cons.mpr ⟨Nat.cast_lt.mpr (by decide : 2000 < 5000),
        List.forall_mem_singleton.mpr (Nat.cast_lt.mpr (by decide : 4000 < 5000))⟩⟩
  case plain =>
    refine hplain racedScript (List.forall_mem_cons.mpr ⟨?_, List.forall_mem_singleton.mpr ?_⟩)
    · intro e hfail
      simp [racedRecords, itemOf, Store.Entry.item] at hfail
    · intro e hfail
      simp only [List.mem_cons, Item.fail.injEq, List.not_mem_nil, or_false, reduceCtorEq,
        false_or] at hfail
      exact ⟨_, hfail⟩

end ReleaseLag.Proofs.Paging
