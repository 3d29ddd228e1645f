import ReleaseLag.Proofs.Paging.Listing
import ReleaseLag.Proofs.Paging.Run

/-!
# `ReleaseLag.Proofs.Paging.Lossless`: following the tokens loses nothing

Over a store that keeps to its table, each page is the front of the listing
after the cursor (`page_of_serves`), and the token of a full page leads to
what is left of that listing. The listing gets shorter with every full page,
so the pages end: `follows_listing` is the induction. `pages_lossless` says
what comes of it for all pages together.
-/

set_option autoImplicit false

namespace ReleaseLag.Proofs.Paging

open ReleaseLag.Proofs.Lagging

variable {c : Client} {store : Store}

/-! ### One page of a table -/

/-- A store answers every statement with the rows of a table that it asks for,
in any time that does not exceed a limit. -/
structure Serves (store : Store) (table : List Record) (timeoutMs : Option Nat) : Prop where
  rows : ∀ log s, events (store.answer log s)
    = (Store.select (table.map Store.Entry.ofRecord) s).map Store.Entry.item
  inTime : ∀ log s, ∀ limit ∈ timeoutMs, waiting (store.answer log s) ≤ limit

/-- The rows of a table are prompt items. -/
theorem prompt_items (entries : List Store.Entry) :
    ∀ item ∈ entries.map Store.Entry.item, Prompt item := by
  intro item hitem
  obtain ⟨entry, -, rfl⟩ := List.mem_map.mp hitem
  trivial

/-- The store of a table serves it, under any limit. -/
theorem serves_ofTable (table : List Record) (timeoutMs : Option Nat) :
    Serves (Store.ofTable (table.map Store.Entry.ofRecord)) table timeoutMs where
  rows log s := events_of_prompt (prompt_items _)
  inTime log s limit _ := by
    show waiting ((Store.select (table.map Store.Entry.ofRecord) s).map Store.Entry.item) ≤ limit
    rw [waiting_of_prompt (prompt_items _)]
    exact Nat.zero_le limit

variable {table : List Record}

/-- A page is the front of the listing of the table that the answer to its one
query comes from, as long as a page is. -/
theorem page_of_answer (hdistinct : (table.map Record.releaseDate).Nodup) {r : Request}
    {cursor : Option Instant} (hacceptable : Acceptable r c.maxPageSize)
    (hresumes : Resumes r cursor) {log : Log}
    (hrows : events (store.answer log (built r cursor))
      = (Store.select (table.map Store.Entry.ofRecord) (built r cursor)).map Store.Entry.item)
    (hinTime : ∀ limit ∈ c.timeoutMs, waiting (store.answer log (built r cursor)) ≤ limit) :
    ∃ ms, c.page store log r
      = (.after ms (.ok (Page.ofRecords r.pageSize
          ((listing table r.window cursor).take r.pageSize))), log ++ [built r cursor]) := by
  have hitems : events (store.answer log (built r cursor))
      = ((listing table r.window cursor).take r.pageSize).map itemOf := by
    rw [hrows, select_built, List.map_map]
    rfl
  have hdesc : Descending ((listing table r.window cursor).take r.pageSize) :=
    (descending_listing hdistinct r.window cursor).sublist (List.take_sublist _ _)
  refine ⟨waiting (store.answer log (built r cursor)), ?_⟩
  rw [page_of_resumes hacceptable hresumes, assemble_of_descending r.pageSize hitems hdesc,
    within_of_le hinTime]

/-- A page of a table is the front of the listing, as long as a page is. -/
theorem page_of_serves (hdistinct : (table.map Record.releaseDate).Nodup)
    (hserves : Serves store table c.timeoutMs) {r : Request} {cursor : Option Instant}
    (hacceptable : Acceptable r c.maxPageSize) (hresumes : Resumes r cursor) (log : Log) :
    ∃ ms, c.page store log r
      = (.after ms (.ok (Page.ofRecords r.pageSize
          ((listing table r.window cursor).take r.pageSize))), log ++ [built r cursor]) :=
  page_of_answer hdistinct hacceptable hresumes (hserves.rows log _) (hserves.inTime log _)

/-! ### All pages of a table -/

/-- Records cut into pages. The last page is never full, so it is empty if the
records fill the pages before it. -/
def cuts (pageSize : Nat) (records : List Record) : List Page :=
  (List.range (records.length / pageSize + 1)).map fun k =>
    Page.ofRecords pageSize ((records.drop (k * pageSize)).take pageSize)

/-- Records that fill no page are on one. -/
theorem cuts_of_lt {pageSize : Nat} {records : List Record} (h : records.length < pageSize) :
    cuts pageSize records = [Page.ofRecords pageSize records] := by
  have htake : records.take pageSize = records := List.take_of_length_le (Nat.le_of_lt h)
  rw [cuts, Nat.div_eq_of_lt h]
  simp [htake]

/-- Records that fill a page are on that page and on those of the rest. -/
theorem cuts_of_le {pageSize : Nat} {records : List Record} (hpos : 0 < pageSize)
    (h : pageSize ≤ records.length) :
    cuts pageSize records
      = Page.ofRecords pageSize (records.take pageSize)
        :: cuts pageSize (records.drop pageSize) := by
  have hcount : records.length / pageSize = (records.length - pageSize) / pageSize + 1 :=
    Nat.div_eq_sub_div hpos h
  rw [cuts, cuts, List.length_drop, hcount, List.range_succ_eq_map, List.map_cons, List.map_map]
  congr 1
  · simp
  · refine List.map_congr_left fun k _ => ?_
    simp only [Function.comp_apply, List.drop_drop, Nat.succ_mul, Nat.add_comm]

/-- Cutting records into pages keeps all of them in order. -/
theorem flatMap_records_cuts {pageSize : Nat} (hpos : 0 < pageSize) (records : List Record) :
    (cuts pageSize records).flatMap Page.records = records := by
  induction hn : records.length using Nat.strongRecOn generalizing records with
  | _ n ih =>
    by_cases hlt : records.length < pageSize
    · rw [cuts_of_lt hlt, List.flatMap_singleton]
      rfl
    · have hle : pageSize ≤ records.length := Nat.not_lt.mp hlt
      have hless : (records.drop pageSize).length < n := by
        rw [List.length_drop]
        omega
      rw [cuts_of_le hpos hle, List.flatMap_cons, ih _ hless (records.drop pageSize) rfl]
      exact List.take_append_drop pageSize records

theorem length_cuts (pageSize : Nat) (records : List Record) :
    (cuts pageSize records).length = records.length / pageSize + 1 := by
  rw [cuts, List.length_map, List.length_range]

theorem getElem_cuts {pageSize : Nat} {records : List Record} {k : Nat}
    (h : k < (cuts pageSize records).length) :
    (cuts pageSize records)[k]
      = Page.ofRecords pageSize ((records.drop (k * pageSize)).take pageSize) := by
  simp only [cuts, List.getElem_map, List.getElem_range]

/-- A page before the last is full and has the token of its last record. -/
theorem token_of_cuts {pageSize : Nat} {records : List Record} (hpos : 0 < pageSize) {k : Nat}
    (hk : k < records.length / pageSize) :
    ∃ last, ((records.drop (k * pageSize)).take pageSize).getLast? = some last
      ∧ (Page.ofRecords pageSize ((records.drop (k * pageSize)).take pageSize)).nextToken
        = some (Cursor.encode last.releaseDate) := by
  have hroom : (k + 1) * pageSize ≤ records.length := (Nat.le_div_iff_mul_le hpos).mp hk
  have hfull : ((records.drop (k * pageSize)).take pageSize).length = pageSize := by
    rw [Nat.succ_mul] at hroom
    refine List.length_take_of_le ?_
    rw [List.length_drop]
    omega
  exact nextToken_of_full hpos hfull

/-- The last page is not full and has no token. -/
theorem no_token_of_cuts {pageSize : Nat} {records : List Record} (hpos : 0 < pageSize) :
    (Page.ofRecords pageSize ((records.drop (records.length / pageSize * pageSize)).take
      pageSize)).nextToken = none := by
  -- Behind the full pages, less than a page is left.
  have hmod := Nat.mod_add_div records.length pageSize
  have hlt := Nat.mod_lt records.length hpos
  rw [Nat.mul_comm] at hmod
  refine nextToken_of_lt ?_
  rw [List.length_take, List.length_drop]
  omega

/-- The pages from a request on are the cuts of its listing. -/
theorem follows_listing (hdistinct : (table.map Record.releaseDate).Nodup)
    (hserves : Serves store table c.timeoutMs) {r : Request} {cursor : Option Instant}
    (hacceptable : Acceptable r c.maxPageSize) (hresumes : Resumes r cursor) (log : Log) :
    ∃ after, Follows c store log r (cuts r.pageSize (listing table r.window cursor)) after := by
  -- A full page takes at least one record off the listing.
  induction hn : (listing table r.window cursor).length using Nat.strongRecOn
    generalizing r cursor log with
  | _ n ih =>
    obtain ⟨ms, hpage⟩ := page_of_serves hdistinct hserves hacceptable hresumes log
    by_cases hlt : (listing table r.window cursor).length < r.pageSize
    · have htake : (listing table r.window cursor).take r.pageSize
          = listing table r.window cursor := List.take_of_length_le (Nat.le_of_lt hlt)
      rw [htake] at hpage
      rw [cuts_of_lt hlt]
      exact ⟨_, .last hpage (nextToken_of_lt hlt)⟩
    · have hle : r.pageSize ≤ (listing table r.window cursor).length := Nat.not_lt.mp hlt
      have hpos : 0 < r.pageSize := hacceptable.one_le_pageSize
      have hfull : ((listing table r.window cursor).take r.pageSize).length = r.pageSize :=
        List.length_take_of_le hle
      obtain ⟨last, hlast, htoken⟩ := nextToken_of_full hpos hfull
      have hmem : last ∈ listing table r.window cursor :=
        List.mem_of_mem_take (List.mem_of_getLast? hlast)
      obtain ⟨hstart, hstop, -⟩ := qualifies_iff.mp (mem_listing.mp hmem).2
      -- The token names the last record, and its listing is what the page left.
      have hrest : listing table r.window (some last.releaseDate)
          = (listing table r.window cursor).drop r.pageSize := listing_drop hdistinct hlast
      have hnext : Resumes { r with token := some (Cursor.encode last.releaseDate) }
          (some last.releaseDate) :=
        .after rfl (Cursor.decode_encode last.releaseDate) hstart hstop
      have hless : (listing table r.window (some last.releaseDate)).length < n := by
        rw [hrest, List.length_drop]
        omega
      obtain ⟨after, hfollows⟩ :=
        ih _ hless (acceptable_withToken hacceptable _) hnext (log ++ [built r cursor]) rfl
      rw [cuts_of_le hpos hle, ← hrest]
      exact ⟨after, .next hpage htoken hfollows⟩

/-! ### Nothing is lost -/

/-- The rows, pages and queries of a request that lost nothing:

1. `complete`: the rows are the records of the table that qualify, each as
   often as the table has it;
2. `descending`: they come newest first, no date twice;
3. `follows`: these are the pages that the tokens lead to, with these queries;
4. `queries`, `pages_length`: there is one more of them than full pages;
5. `records`: each page holds the next rows, as many as a page may hold;
6. `token`, `no_token`: each page but the last has a token, and it names the
   date of the page's last row;
7. `terminates`: asking for all pages at once gives all rows, however many
   more pages it might have read. -/
structure LosslessRun (c : Client) (store : Store) (table : List Record) (log : Log) (r : Request)
    (cursor : Option Instant) (rows : List Record) (pages : List Page)
    (asked : List Statement) : Prop where
  complete : rows.Perm (table.filter (qualifies r.window cursor))
  descending : Descending rows
  follows : Follows c store log r pages (log ++ asked)
  queries : asked.length = rows.length / r.pageSize + 1
  pages_length : pages.length = rows.length / r.pageSize + 1
  records : ∀ k (h : k < pages.length),
    pages[k].records = (rows.drop (k * r.pageSize)).take r.pageSize
  token : ∀ k (h : k + 1 < pages.length), ∃ last token,
    pages[k].records.getLast? = some last ∧ pages[k].nextToken = some token
      ∧ Cursor.decode token = .ok last.releaseDate
  no_token : ∀ k (h : k < pages.length), k + 1 = pages.length → pages[k].nextToken = none
  terminates : ∃ ms, ∀ more, c.pages store (pages.length + more) log r
    = (some (.after ms (.ok rows)), log ++ asked)

/-- Paging through a table loses no row and repeats none, whatever the size of
its pages and wherever the request begins. The hypotheses:

1. no two rows of the table have the same date;
2. the request is acceptable, and its token is absent or names an instant of
   its window;
3. the store answers with what is asked for, in time. -/
theorem pages_lossless {c : Client} {store : Store} {table : List Record} {r : Request}
    {cursor : Option Instant} (log : Log) (hdistinct : (table.map Record.releaseDate).Nodup)
    (hacceptable : Acceptable r c.maxPageSize) (hresumes : Resumes r cursor)
    (hserves : Serves store table c.timeoutMs) :
    ∃ rows pages asked, LosslessRun c store table log r cursor rows pages asked := by
  have hpos : 0 < r.pageSize := hacceptable.one_le_pageSize
  obtain ⟨after, hfollows⟩ := follows_listing hdistinct hserves hacceptable hresumes log
  obtain ⟨asked, rfl, hasked⟩ := hfollows.asked
  obtain ⟨ms, hterminates⟩ := hfollows.pages_eq
  rw [flatMap_records_cuts hpos] at hterminates
  refine ⟨listing table r.window cursor, cuts r.pageSize (listing table r.window cursor), asked, ?_⟩
  exact {
    complete := listing_perm table r.window cursor
    descending := descending_listing hdistinct r.window cursor
    follows := hfollows
    queries := hasked.trans (length_cuts _ _)
    pages_length := length_cuts _ _
    records := fun k h => by
      rw [getElem_cuts]
      rfl
    token := fun k h => by
      rw [length_cuts] at h
      obtain ⟨last, hlast, htoken⟩ := token_of_cuts hpos (Nat.lt_of_succ_lt_succ h)
      rw [getElem_cuts]
      exact ⟨last, _, hlast, htoken, Cursor.decode_encode last.releaseDate⟩
    no_token := fun k h hk => by
      rw [length_cuts] at hk
      rw [getElem_cuts, Nat.succ.inj hk]
      exact no_token_of_cuts hpos
    terminates := ⟨ms, hterminates⟩ }

/-- Four days with a release, not in order; the last is not in the window of
`sampleRequest`. -/
def sampleTable : List Record :=
  [⟨⟨86400, 0, by decide⟩, 5⟩, ⟨⟨0, 0, by decide⟩, 7⟩, ⟨⟨172800, 0, by decide⟩, 2⟩,
    ⟨⟨259200, 0, by decide⟩, 1⟩]

/-- A request for two records at a time from the first three of these days. -/
def sampleRequest : Request where
  target := "chrome".toList
  references := ["firefox".toList, "safari".toList]
  window := ⟨⟨0, 0, by decide⟩, ⟨259200, 0, by decide⟩⟩
  pageSize := 2
  token := none

theorem acceptable_sampleRequest : Acceptable sampleRequest 2 :=
  check_eq_ok_iff (u := ()).mp (by decide)

theorem statement_sampleRequest :
    (⟨2, some 1000⟩ : Client).statement sampleRequest = .ok (built sampleRequest none) :=
  statement_eq_ok_iff.mpr ⟨acceptable_sampleRequest, none, .fresh rfl, rfl⟩

theorem pages_lossless_sample :
    (sampleTable.map Record.releaseDate).Nodup ∧ Acceptable sampleRequest 2
      ∧ Resumes sampleRequest none
      ∧ ∃ rows pages asked, LosslessRun ⟨2, some 1000⟩
          (Store.ofTable (sampleTable.map Store.Entry.ofRecord)) sampleTable [] sampleRequest none
          rows pages asked := by
  have hdistinct : (sampleTable.map Record.releaseDate).Nodup := by decide
  have hacceptable : Acceptable sampleRequest 2 := check_eq_ok_iff (u := ()).mp (by decide)
  have hresumes : Resumes sampleRequest none := .fresh rfl
  exact ⟨hdistinct, hacceptable, hresumes,
    pages_lossless (c := ⟨2, some 1000⟩) [] hdistinct hacceptable hresumes
      (serves_ofTable sampleTable (some 1000))⟩

end ReleaseLag.Proofs.Paging
