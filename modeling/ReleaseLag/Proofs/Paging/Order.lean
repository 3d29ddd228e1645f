import ReleaseLag.Proofs.Paging.Scripted

/-!
# `ReleaseLag.Proofs.Paging.Order`: the order of all pages together

A page refuses rows that do not descend, so the rows of one page always do
(`descending_of_page`). Nothing is compared across the end of a page. What the
rows of all pages together are like depends on where each page begins:
`Follows.descending_iff` says that they descend just if every page begins
before the page in front of it ended (`Joins`).

A store that minds the cursor of its queries sees to that (`joins_of_honours`),
as every store of tables does (`honoursCursor_ofTables`). One that does not can
send a newer row on a later page, and `undescending_pages` is such a run: it
ends well, and its rows go up.
-/

set_option autoImplicit false

namespace ReleaseLag.Proofs.Paging

open ReleaseLag.Lagging
open ReleaseLag.Proofs.Lagging

variable {c : Client} {store : Store} {log between after : Log} {r : Request} {ms : Nat}

/-! ### Where pages meet -/

/-- The next page begins with a record that is older than the end of the page. -/
def Joins (page next : Page) : Prop :=
  ∀ newer ∈ page.records.getLast?, ∀ older ∈ next.records.head?,
    older.releaseDate < newer.releaseDate

/-- Two stretches descend together if each does and the second goes on below the
end of the first. -/
theorem descending_append {front back : List Record} :
    Descending (front ++ back) ↔ Descending front ∧ Descending back
      ∧ ∀ newer ∈ front.getLast?, ∀ older ∈ back.head?, older.releaseDate < newer.releaseDate := by
  rw [descending_iff_isChain, descending_iff_isChain, descending_iff_isChain]
  exact List.isChain_append

/-- The records of a page descend, whatever the store answered. -/
theorem descending_of_page {page : Page} (h : c.page store log r = (.after ms (.ok page), after)) :
    Descending page.records := by
  obtain ⟨_, records, -, -, -, hcollect, rfl⟩ := answer_of_page h
  exact descending_of_collect hcollect

/-- A page that has a token has records. -/
theorem records_ne_nil_of_token {page : Page} {token : Text}
    (h : c.page store log r = (.after ms (.ok page), after))
    (htoken : page.nextToken = some token) : page.records ≠ [] := by
  obtain ⟨_, records, -, -, -, -, rfl⟩ := answer_of_page h
  obtain ⟨last, hlast, -⟩ := last_of_nextToken htoken
  intro hnil
  have hnone : records.getLast? = none := List.getLast?_eq_none_iff.mpr hnil
  rw [hnone] at hlast
  cases hlast

section

variable {pages : List Page}

/-- Every page of a run descends. -/
theorem Follows.descending (h : Follows c store log r pages after) :
    ∀ page ∈ pages, Descending page.records := by
  induction h with
  | last hpage _ => exact List.forall_mem_singleton.mpr (descending_of_page hpage)
  | next hpage _ _ ih => exact List.forall_mem_cons.mpr ⟨descending_of_page hpage, ih⟩

/-- The records of a run begin with those of its first page, since only the last
page can be empty. -/
theorem Follows.head?_records (h : Follows c store log r pages after) :
    (pages.flatMap Page.records).head? = pages.head?.bind fun page => page.records.head? := by
  cases h with
  | last hpage _ => rw [List.flatMap_singleton, List.head?_cons, Option.bind_some]
  | next hpage htoken _ =>
    obtain ⟨first, rest, hrecords⟩ :=
      List.exists_cons_of_ne_nil (records_ne_nil_of_token hpage htoken)
    rw [List.flatMap_cons, List.head?_append, List.head?_cons, Option.bind_some, hrecords,
      List.head?_cons, Option.some_or]

/-- The records of a run descend if and only if its pages join. -/
theorem Follows.descending_iff (h : Follows c store log r pages after) :
    Descending (pages.flatMap Page.records) ↔ pages.IsChain Joins := by
  induction h with
  | last hpage _ =>
    rw [List.flatMap_singleton]
    exact ⟨fun _ => .singleton _, fun _ => descending_of_page hpage⟩
  | @next log between after r ms page token pages hpage _ hrest ih =>
    -- The rest begins with the first record of the page that is next.
    have hmeet : (∀ newer ∈ page.records.getLast?, ∀ older ∈ (pages.flatMap Page.records).head?,
        older.releaseDate < newer.releaseDate) ↔ ∀ next ∈ pages.head?, Joins page next := by
      rw [hrest.head?_records]
      constructor
      · intro hbelow next hnext newer hnewer older holder
        exact hbelow newer hnewer older (Option.mem_bind_iff.mpr ⟨next, hnext, holder⟩)
      · intro hjoins newer hnewer older holder
        obtain ⟨next, hnext, holder⟩ := Option.mem_bind_iff.mp holder
        exact hjoins next hnext newer hnewer older holder
    rw [List.flatMap_cons, descending_append, List.isChain_cons, hmeet, ih]
    constructor
    · rintro ⟨-, hpages, hjoins⟩
      exact ⟨hjoins, hpages⟩
    · rintro ⟨hjoins, hpages⟩
      exact ⟨descending_of_page hpage, hpages, hjoins⟩

end

/-! ### Stores that mind the cursor -/

/-- Every row that a store answers with is older than the cursor of the query,
if that has one. -/
def HonoursCursor (store : Store) : Prop :=
  ∀ log s row date t, .row row ∈ store.answer log s → row.releaseDate = .ok date →
    Store.boundInstant? s cursorParam = some t → date < t

/-- A row of a store of tables is one that the query asks for, however the
tables change. -/
theorem selects_of_mem_ofTables {tables : Nat → List Store.Entry} {s : Statement} {row : Row}
    {date : Instant} (hrow : .row row ∈ (Store.ofTables tables).answer log s)
    (hdate : row.releaseDate = .ok date) : Store.selects s date = true := by
  obtain ⟨entry, hentry, hitem⟩ := List.mem_map.mp hrow
  rw [Store.select] at hentry
  have hsorted := by
    split at hentry
    · exact List.mem_of_mem_take hentry
    · exact hentry
  have hselects := (List.mem_filter.mp (List.mem_mergeSort.mp hsorted)).2
  cases hitem
  cases hdate
  exact hselects

/-- A store of tables minds the cursor. -/
theorem honoursCursor_ofTables (tables : Nat → List Store.Entry) :
    HonoursCursor (.ofTables tables) := by
  intro log s row date t hrow hdate hcursor
  have hselects := selects_of_mem_ofTables hrow hdate
  simp only [Store.selects, Bool.and_eq_true, Option.all_eq_true, decide_eq_true_eq] at hselects
  exact hselects.2 t hcursor

/-- A page after a page joins it if the store minds the cursor. -/
theorem joins_of_honours {page next : Page} {token : Text} {later : Nat}
    (hhonours : HonoursCursor store) (hpage : c.page store log r = (.after ms (.ok page), between))
    (htoken : page.nextToken = some token)
    (hnext : c.page store between { r with token := some token }
      = (.after later (.ok next), after)) : Joins page next := by
  obtain ⟨_, records, -, -, -, -, rfl⟩ := answer_of_page hpage
  obtain ⟨last, hlast, rfl⟩ := last_of_nextToken htoken
  obtain ⟨cursor, others, -, hresumes, -, hcollect, rfl⟩ := answer_of_page hnext
  intro newer hnewer older holder
  -- The query for the next page binds the date that this page ended at.
  have hcursor : cursor = some newer.releaseDate := by
    obtain rfl : last = newer := Option.some.inj (hlast.symm.trans hnewer)
    cases hresumes with
    | fresh hnone => cases hnone
    | after htoken hdecode _ _ =>
      cases htoken
      rw [Cursor.decode_encode] at hdecode
      cases hdecode
      rfl
  obtain ⟨row, hrow, hdate⟩ := row_of_collect hcollect older (List.mem_of_mem_head? holder)
  refine hhonours between _ row older.releaseDate newer.releaseDate hrow hdate ?_
  rw [boundInstant?_cursor, hcursor]

/-- All pages join over a store that minds the cursor. -/
theorem Follows.isChain_joins {pages : List Page} (hhonours : HonoursCursor store)
    (h : Follows c store log r pages after) : pages.IsChain Joins := by
  induction h with
  | last _ _ => exact .singleton _
  | next hpage htoken hrest ih =>
    refine List.isChain_cons.mpr ⟨?_, ih⟩
    obtain ⟨_, first, rest, _, rfl, hfirst⟩ := hrest.first
    rintro next ⟨⟩
    exact joins_of_honours hhonours hpage htoken hfirst

/-- Rows that a run gives are those of its pages, and

1. those of one page descend, whatever the store answered;
2. all of them descend if and only if the pages join;
3. all of them descend if the store minds the cursor of its queries. -/
theorem descending_of_pages {fuel : Nat} {rows : List Record}
    (h : c.pages store fuel log r = (some (.after ms (.ok rows)), after)) :
    ∃ pages, Follows c store log r pages after ∧ rows = pages.flatMap Page.records
      ∧ (∀ page ∈ pages, Descending page.records)
      ∧ (Descending rows ↔ pages.IsChain Joins)
      ∧ (HonoursCursor store → Descending rows) := by
  obtain ⟨pages, hfollows, rfl⟩ := follows_of_pages h
  refine ⟨pages, hfollows, rfl, hfollows.descending, hfollows.descending_iff, ?_⟩
  intro hhonours
  exact hfollows.descending_iff.mpr (hfollows.isChain_joins hhonours)

theorem descending_of_pages_sample :
    HonoursCursor (.ofTable (sampleTable.map .ofRecord))
      ∧ ∃ fuel ms rows after,
        (⟨2, some 1000⟩ : Client).pages (.ofTable (sampleTable.map .ofRecord)) fuel [] sampleRequest
            = (some (.after ms (.ok rows)), after)
          ∧ Descending rows := by
  have hhonours : HonoursCursor (.ofTable (sampleTable.map .ofRecord)) :=
    honoursCursor_ofTables fun _ => sampleTable.map .ofRecord
  obtain ⟨after, hfollows⟩ := follows_listing (c := ⟨2, some 1000⟩) (by decide)
    (serves_ofTable sampleTable (some 1000)) acceptable_sampleRequest (.fresh rfl) []
  obtain ⟨ms, hrun⟩ := hfollows.pages_eq
  obtain ⟨_, -, -, -, -, hdesc⟩ := descending_of_pages (hrun 0)
  exact ⟨hhonours, _, ms, _, after, hrun 0, hdesc hhonours⟩

/-- A request for one record at a time from five years. -/
def yearsRequest : Request where
  target := "fooBrowser".toList
  references := ["barBrowser".toList, "bazBrowser".toList]
  window := ⟨⟨1577836800, 0, by decide⟩, ⟨1735689600, 0, by decide⟩⟩
  pageSize := 1
  token := none

theorem acceptable_yearsRequest : Acceptable yearsRequest 1000 :=
  check_eq_ok_iff (u := ()).mp (by decide)

/-- Two days of `yearsRequest`. -/
def tenthOfJanuary : Instant := ⟨1704844800, 0, by decide⟩

@[inherit_doc tenthOfJanuary]
def twentiethOfJanuary : Instant := ⟨1705708800, 0, by decide⟩

/-- The bounds of the default settings. -/
def defaultClient : Client := ⟨1000, some 30000⟩

/-- A record of each day, the older one first. -/
def risingRecords : List Record :=
  [⟨tenthOfJanuary, 5⟩, ⟨twentiethOfJanuary, 7⟩]

/-- The older record is sent on the first page and the newer on the second. -/
def risingScript : List (List Item) :=
  risingRecords.map fun record => [itemOf record]

/-- Rows that rise from page to page are given like any others. -/
theorem undescending_pages :
    (∃ ms after, defaultClient.pages (.ofScript risingScript) 3 [] yearsRequest
        = (some (.after ms (.ok risingRecords)), after))
      ∧ ¬Descending risingRecords := by
  have hprompt : ∀ answer ∈ risingScript, ∀ item ∈ answer, Prompt item := by
    simp [risingScript, itemOf, Store.Entry.item, Prompt]
  have hfirst := page_of_script (c := defaultClient) hprompt acceptable_yearsRequest (.fresh rfl) []
  have hsecond := page_of_script (c := defaultClient) hprompt
    (acceptable_withToken acceptable_yearsRequest _)
    (resumes_after (t := tenthOfJanuary) (by decide)) [built yearsRequest none]
  have hthird := page_of_script (c := defaultClient) hprompt
    (acceptable_withToken acceptable_yearsRequest _)
    (resumes_after (t := twentiethOfJanuary) (by decide))
    [built yearsRequest none, built yearsRequest (some tenthOfJanuary)]
  have hfollows := Follows.next hfirst rfl (.next hsecond rfl (.last hthird rfl))
  obtain ⟨ms, hrun⟩ := hfollows.pages_eq
  exact ⟨⟨ms, _, hrun 0⟩, by decide⟩

end ReleaseLag.Proofs.Paging
