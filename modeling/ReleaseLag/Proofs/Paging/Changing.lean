import ReleaseLag.Proofs.Paging.Lossless

/-!
# `ReleaseLag.Proofs.Paging.Changing`: paging while the table changes

Each query may find another table. What stays is the window, and the cursor
that the page before left behind: `Drawn` says which pages come of it, without
the client. Whatever the tables are, the records of the pages that are still
to come lie behind the cursor (`Drawn.qualifies_of_mem`), so nothing comes
twice, and a date that every table has cannot be passed over
(`Drawn.exists_of_kept`): a page either has it, or ends before it.

The cursor only moves back, and there are finitely many instants in a window,
so the pages end even if rows keep coming (`follows_drawn`).
-/

set_option autoImplicit false

namespace ReleaseLag.Proofs.Paging

open ReleaseLag.Proofs.Lagging

/-! ### Pages of changing tables -/

/-- The pages that are drawn from tables, one from each in turn: from the `n`th
on, and before a cursor if there is one. A page that is not the last leaves the
date of its last record as the cursor of the next. -/
inductive Drawn (tables : Nat → List Record) (w : Window) (pageSize : Nat) :
    Nat → Option Instant → List Page → Prop
  | last {n : Nat} {cursor : Option Instant} :
      Drawn tables w pageSize n cursor [Page.ofRecords pageSize (listing (tables n) w cursor)]
  | next {n : Nat} {cursor : Option Instant} {last : Record} {pages : List Page}
      (hlast : ((listing (tables n) w cursor).take pageSize).getLast? = some last)
      (hrest : Drawn tables w pageSize (n + 1) (some last.releaseDate) pages) :
      Drawn tables w pageSize n cursor
        (Page.ofRecords pageSize ((listing (tables n) w cursor).take pageSize) :: pages)

variable {tables : Nat → List Record} {w : Window} {pageSize n : Nat} {cursor : Option Instant}
  {pages : List Page}

/-- The last record of a page qualifies like all of them. -/
theorem qualifies_last {last : Record}
    (hlast : ((listing (tables n) w cursor).take pageSize).getLast? = some last) :
    qualifies w cursor last = true :=
  (mem_listing.mp (List.mem_of_mem_take (List.mem_of_getLast? hlast))).2

/-- What comes after a page qualified before it, and is older than its last
record. -/
theorem qualifies_of_after {last record : Record}
    (hlast : ((listing (tables n) w cursor).take pageSize).getLast? = some last)
    (h : qualifies w (some last.releaseDate) record = true) :
    record.releaseDate < last.releaseDate ∧ qualifies w cursor record = true := by
  have hbefore := (qualifies_iff.mp (qualifies_last hlast)).2.2
  rw [qualifies_after hbefore, Bool.and_eq_true, decide_eq_true_eq] at h
  exact h

/-- All records that come qualify. -/
theorem Drawn.qualifies_of_mem (h : Drawn tables w pageSize n cursor pages) :
    ∀ record ∈ pages.flatMap Page.records, qualifies w cursor record = true := by
  induction h with
  | last =>
    intro record hmem
    rw [List.flatMap_singleton] at hmem
    exact (mem_listing.mp hmem).2
  | next hlast _ ih =>
    intro record hmem
    rw [List.flatMap_cons] at hmem
    rcases List.mem_append.mp hmem with hmem | hmem
    · exact (mem_listing.mp (List.mem_of_mem_take hmem)).2
    · exact (qualifies_of_after hlast (ih record hmem)).2

/-- The records of a page are of the table it was drawn from. -/
theorem Drawn.mem_table (h : Drawn tables w pageSize n cursor pages) :
    ∀ k (hk : k < pages.length), ∀ record ∈ pages[k].records, record ∈ tables (n + k) := by
  induction h with
  | last =>
    intro k hk record hmem
    obtain rfl : k = 0 := Nat.lt_one_iff.mp hk
    exact (mem_listing.mp hmem).1
  | @next n cursor last pages hlast _ ih =>
    intro k hk record hmem
    cases k with
    | zero => exact (mem_listing.mp (List.mem_of_mem_take hmem)).1
    | succ k =>
      have hrecord := ih k (Nat.lt_of_succ_lt_succ hk) record hmem
      rwa [Nat.add_right_comm] at hrecord

section

variable (hdistinct : ∀ n, ((tables n).map Record.releaseDate).Nodup)
include hdistinct

/-- The records of all pages descend strictly, though they come from different
tables. -/
theorem Drawn.descending (h : Drawn tables w pageSize n cursor pages) :
    Descending (pages.flatMap Page.records) := by
  induction h with
  | @last n cursor =>
    rw [List.flatMap_singleton]
    exact descending_listing (hdistinct n) w cursor
  | @next n cursor last pages hlast hrest ih =>
    have hpage : Descending ((listing (tables n) w cursor).take pageSize) :=
      (descending_listing (hdistinct n) w cursor).sublist (List.take_sublist _ _)
    rw [List.flatMap_cons]
    refine List.pairwise_append.mpr ⟨hpage, ih, ?_⟩
    intro newer hnewer older holder
    have hlt := (qualifies_of_after hlast (hrest.qualifies_of_mem older holder)).1
    -- The last record of the page stands between the two, or is the newer one.
    obtain ⟨front, hfront⟩ := List.getLast?_eq_some_iff.mp hlast
    change newer ∈ (listing (tables n) w cursor).take pageSize at hnewer
    rw [hfront] at hnewer hpage
    rcases List.mem_append.mp hnewer with hmem | hmem
    · have hgt := (List.pairwise_append.mp hpage).2.2 newer hmem last (List.mem_singleton_self last)
      exact Instant.lt_trans hlt hgt
    · rwa [List.mem_singleton.mp hmem]

/-- A date that is in the window and in every table is on one of the pages. -/
theorem Drawn.exists_of_kept (h : Drawn tables w pageSize n cursor pages) {d : Instant}
    (hwindow : w.contains d = true) (hcursor : ∀ t, cursor = some t → d < t)
    (hkept : ∀ k < pages.length, ∃ record ∈ tables (n + k), record.releaseDate = d) :
    ∃ record ∈ pages.flatMap Page.records, record.releaseDate = d := by
  have hqualifies : ∀ {cursor : Option Instant} {record : Record}, record.releaseDate = d →
      (∀ t, cursor = some t → d < t) → qualifies w cursor record = true := by
    rintro cursor record rfl hcursor
    simp only [Window.contains, Bool.and_eq_true, decide_eq_true_eq] at hwindow
    exact qualifies_iff.mpr ⟨hwindow.1, hwindow.2, hcursor⟩
  induction h with
  | @last n cursor =>
    obtain ⟨record, hmem, hdate⟩ := hkept 0 (by simp)
    refine ⟨record, ?_, hdate⟩
    rw [List.flatMap_singleton]
    exact mem_listing.mpr ⟨hmem, hqualifies hdate hcursor⟩
  | @next n cursor last pages hlast hrest ih =>
    obtain ⟨record, hmem, hdate⟩ := hkept 0 (by simp)
    have hlisted : record ∈ listing (tables n) w cursor :=
      mem_listing.mpr ⟨hmem, hqualifies hdate hcursor⟩
    rw [List.flatMap_cons]
    -- Of this listing, the date is on the page or among what the page left.
    rw [← List.take_append_drop pageSize (listing (tables n) w cursor)] at hlisted
    rcases List.mem_append.mp hlisted with hpage | hleft
    · exact ⟨record, List.mem_append_left _ hpage, hdate⟩
    · rw [← listing_drop (hdistinct n) hlast] at hleft
      have holder : d < last.releaseDate :=
        hdate ▸ (qualifies_iff.mp (mem_listing.mp hleft).2).2.2 _ rfl
      have hcursor : ∀ t, some last.releaseDate = some t → d < t := by
        rintro t ⟨⟩
        exact holder
      have hrest : ∀ k < pages.length, ∃ record ∈ tables (n + 1 + k), record.releaseDate = d := by
        intro k hk
        have hnext := hkept (k + 1) (Nat.succ_lt_succ hk)
        rwa [← Nat.add_assoc, Nat.add_right_comm] at hnext
      obtain ⟨found, hfound, hdate⟩ := ih hcursor hrest
      exact ⟨found, List.mem_append_right _ hfound, hdate⟩

end

/-! ### Pages of a client -/

/-- A store answers each statement with the rows of a table that it asks for,
in any time that does not exceed a limit. The table is another for each
statement that was asked before. -/
structure ServesInTurn (store : Store) (tables : Nat → List Record) (timeoutMs : Option Nat) :
    Prop where
  rows : ∀ log s, events (store.answer log s)
    = (Store.select ((tables log.length).map Store.Entry.ofRecord) s).map Store.Entry.item
  inTime : ∀ log s, ∀ limit ∈ timeoutMs, waiting (store.answer log s) ≤ limit

/-- The store of changing tables serves them, under any limit. -/
theorem servesInTurn_ofTables (tables : Nat → List Record) (timeoutMs : Option Nat) :
    ServesInTurn (Store.ofTables fun n => (tables n).map Store.Entry.ofRecord) tables timeoutMs where
  rows log s := events_of_prompt (prompt_items _)
  inTime log s limit _ := by
    show waiting ((Store.select ((tables log.length).map Store.Entry.ofRecord) s).map
      Store.Entry.item) ≤ limit
    rw [waiting_of_prompt (prompt_items _)]
    exact Nat.zero_le limit

/-- How many instants there may be before an instant. -/
def rank (t : Instant) : Nat :=
  (t.secs - Instant.minSecs).toNat * 2000000000 + t.nanos

/-- An instant has a lower rank than a later one. -/
theorem rank_lt_rank {a b : Instant} (h : a < b) : rank a < rank b := by
  obtain ⟨hsecs, -, hnanos⟩ := a.admitted
  rw [Instant.lt_iff] at h
  unfold rank
  omega

/-- A record that qualifies lies before the cursor, or before the window's end
if there is none. -/
theorem lt_of_qualifies {record : Record} (h : qualifies w cursor record = true) :
    record.releaseDate < cursor.getD w.stop := by
  obtain ⟨-, hstop, hcursor⟩ := qualifies_iff.mp h
  cases cursor with
  | none => exact hstop
  | some t => exact hcursor t rfl

variable {c : Client} {store : Store}

/-- The pages from a request on are drawn from the tables, and they end. -/
theorem follows_drawn (hdistinct : ∀ n, ((tables n).map Record.releaseDate).Nodup)
    (hserves : ServesInTurn store tables c.timeoutMs) {r : Request} {cursor : Option Instant}
    (hacceptable : Acceptable r c.maxPageSize) (hresumes : Resumes r cursor) (log : Log) :
    ∃ pages after, Follows c store log r pages after
      ∧ Drawn tables r.window r.pageSize log.length cursor pages := by
  -- Rows may come as fast as they are read, but the cursor goes back each time.
  induction hn : rank (cursor.getD r.window.stop) using Nat.strongRecOn
    generalizing r cursor log with
  | _ n ih =>
    obtain ⟨ms, hpage⟩ := page_of_answer (hdistinct log.length) hacceptable hresumes
      (hserves.rows log _) (hserves.inTime log _)
    by_cases hlt : (listing (tables log.length) r.window cursor).length < r.pageSize
    · have htake : (listing (tables log.length) r.window cursor).take r.pageSize
          = listing (tables log.length) r.window cursor :=
        List.take_of_length_le (Nat.le_of_lt hlt)
      rw [htake] at hpage
      exact ⟨_, _, .last hpage (nextToken_of_lt hlt), .last⟩
    · have hfull : ((listing (tables log.length) r.window cursor).take r.pageSize).length
          = r.pageSize := List.length_take_of_le (Nat.not_lt.mp hlt)
      obtain ⟨last, hlast, htoken⟩ := nextToken_of_full hacceptable.one_le_pageSize hfull
      have hqualifies := qualifies_last hlast
      obtain ⟨hstart, hstop, -⟩ := qualifies_iff.mp hqualifies
      have hnext : Resumes { r with token := some (Cursor.encode last.releaseDate) }
          (some last.releaseDate) :=
        .after rfl (Cursor.decode_encode last.releaseDate) hstart hstop
      have hless : rank last.releaseDate < n := hn ▸ rank_lt_rank (lt_of_qualifies hqualifies)
      obtain ⟨pages, after, hfollows, hdrawn⟩ :=
        ih _ hless (acceptable_withToken hacceptable _) hnext (log ++ [built r cursor]) rfl
      rw [List.length_append, List.length_singleton] at hdrawn
      exact ⟨_, after, .next hpage htoken hfollows, .next hlast hdrawn⟩

/-! ### What is kept is found -/

/-- Records of one table with one date are the same. -/
theorem eq_of_releaseDate_eq {table : List Record}
    (hdistinct : (table.map Record.releaseDate).Nodup) {a b : Record} (ha : a ∈ table)
    (hb : b ∈ table) (hdate : a.releaseDate = b.releaseDate) : a = b :=
  List.inj_on_of_nodup_map hdistinct ha hb hdate

theorem nodup_of_descending {rows : List Record} (h : Descending rows) :
    (rows.map Record.releaseDate).Nodup := by
  refine List.pairwise_map.mpr (h.imp ?_)
  intro newer older hlt heq
  rw [heq] at hlt
  exact Instant.lt_irrefl _ hlt

/-- The rows, pages and queries of a run over tables that change between its
queries:

1. `follows`, `queries`: these are the pages that the tokens lead to, with one
   query each, and none of them fails;
2. `rows_eq`, `descending`: the rows are those of the pages in order, newest
   first and no date twice;
3. `qualify`, `in_force`: each row is in the window and before the cursor, and
   it is of the table that was in force when its page was asked for;
4. `kept`: a row that qualifies and is in the tables of all pages comes exactly
   once;
5. `kept_date`: so does a date that has a row in all of these tables, even if
   its count changes;
6. `terminates`, `unfinished`: asking for all pages at once gives these rows,
   however many more pages it might have read, and nothing at all if it may
   not read as many. -/
structure StableRun (c : Client) (store : Store) (tables : Nat → List Record) (log : Log)
    (r : Request) (cursor : Option Instant) (rows : List Record) (pages : List Page)
    (asked : List Statement) : Prop where
  follows : Follows c store log r pages (log ++ asked)
  queries : asked.length = pages.length
  rows_eq : rows = pages.flatMap Page.records
  descending : Descending rows
  qualify : ∀ record ∈ rows, qualifies r.window cursor record = true
  in_force : ∀ k (h : k < pages.length), ∀ record ∈ pages[k].records,
    record ∈ tables (log.length + k)
  kept : ∀ record, qualifies r.window cursor record = true →
    (∀ k < pages.length, record ∈ tables (log.length + k)) → rows.count record = 1
  kept_date : ∀ d, r.window.contains d = true → (∀ t, cursor = some t → d < t) →
    (∀ k < pages.length, ∃ record ∈ tables (log.length + k), record.releaseDate = d) →
    (rows.map Record.releaseDate).count d = 1
  terminates : ∃ ms, ∀ more, c.pages store (pages.length + more) log r
    = (some (.after ms (.ok rows)), log ++ asked)
  unfinished : ∀ fewer < pages.length, (c.pages store fewer log r).1 = none

/-- Paging is stable while the table changes between queries, whatever rows
come, go or get another count. The hypotheses:

1. no two rows of one table have the same date;
2. the request is acceptable, and its token is absent or names an instant of
   its window;
3. the store answers each query with what is asked for of the table in force,
   in time. -/
theorem pages_stable {c : Client} {store : Store} {tables : Nat → List Record} {r : Request}
    {cursor : Option Instant} (log : Log)
    (hdistinct : ∀ n, ((tables n).map Record.releaseDate).Nodup)
    (hacceptable : Acceptable r c.maxPageSize) (hresumes : Resumes r cursor)
    (hserves : ServesInTurn store tables c.timeoutMs) :
    ∃ rows pages asked, StableRun c store tables log r cursor rows pages asked := by
  obtain ⟨pages, after, hfollows, hdrawn⟩ :=
    follows_drawn hdistinct hserves hacceptable hresumes log
  obtain ⟨asked, rfl, hasked⟩ := hfollows.asked
  have hdescending := hdrawn.descending hdistinct
  have hnodup := nodup_of_descending hdescending
  refine ⟨pages.flatMap Page.records, pages, asked, ?_⟩
  exact {
    follows := hfollows
    queries := hasked
    rows_eq := rfl
    descending := hdescending
    qualify := hdrawn.qualifies_of_mem
    in_force := hdrawn.mem_table
    kept := by
      intro record hqualifies hkept
      obtain ⟨hstart, hstop, hcursor⟩ := qualifies_iff.mp hqualifies
      have hwindow : r.window.contains record.releaseDate = true :=
        Bool.and_eq_true_iff.mpr ⟨decide_eq_true hstart, decide_eq_true hstop⟩
      obtain ⟨found, hfound, hdate⟩ :=
        hdrawn.exists_of_kept hdistinct hwindow hcursor fun k hk => ⟨record, hkept k hk, rfl⟩
      -- The row that was found is of a table that has the record as well.
      obtain ⟨page, hpage, hmem⟩ := List.mem_flatMap.mp hfound
      obtain ⟨k, hk, rfl⟩ := List.getElem_of_mem hpage
      have heq : found = record := eq_of_releaseDate_eq (hdistinct _)
        (hdrawn.mem_table k hk found hmem) (hkept k hk) hdate
      rw [← heq]
      exact List.count_eq_one_of_mem (List.Nodup.of_map _ hnodup) hfound
    kept_date := by
      intro d hwindow hcursor hkept
      obtain ⟨found, hfound, hdate⟩ := hdrawn.exists_of_kept hdistinct hwindow hcursor hkept
      rw [← hdate]
      exact List.count_eq_one_of_mem hnodup (List.mem_map_of_mem hfound)
    terminates := hfollows.pages_eq
    unfinished := hfollows.pages_of_lt }

/-- The first query finds `sampleTable`. Behind it a row is gone, one is new on
either side of the cursor, and the others have another count. -/
def sampleTables : Nat → List Record
  | 0 => sampleTable
  | _ =>
    ⟨⟨43200, 0, by decide⟩, 4⟩ :: ⟨⟨200000, 0, by decide⟩, 6⟩
      :: (sampleTable.drop 1).map fun record => { record with count := record.count + 2 }

theorem pages_stable_sample :
    (∀ n, ((sampleTables n).map Record.releaseDate).Nodup) ∧ Acceptable sampleRequest 2
      ∧ Resumes sampleRequest none
      ∧ ∃ rows pages asked, StableRun ⟨2, some 1000⟩
          (Store.ofTables fun n => (sampleTables n).map Store.Entry.ofRecord) sampleTables []
          sampleRequest none rows pages asked := by
  have hdistinct : ∀ n, ((sampleTables n).map Record.releaseDate).Nodup := by
    intro n
    cases n with
    | zero => decide
    | succ n =>
      show (List.map Record.releaseDate (sampleTables 1)).Nodup
      decide
  have hacceptable : Acceptable sampleRequest 2 := check_eq_ok_iff (u := ()).mp (by decide)
  have hresumes : Resumes sampleRequest none := .fresh rfl
  exact ⟨hdistinct, hacceptable, hresumes,
    pages_stable (c := ⟨2, some 1000⟩) [] hdistinct hacceptable hresumes
      (servesInTurn_ofTables sampleTables (some 1000))⟩

end ReleaseLag.Proofs.Paging
