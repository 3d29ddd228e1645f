import ReleaseLag.Proofs.Paging.Assembly
import ReleaseLag.Proofs.Paging.Run

/-!
# `ReleaseLag.Proofs.Paging.Stream`: pages of streams

A stream sends rows and errors, one after the other, and no time passes in
between. Its page is the one of `assemble_eq_ok_iff`, or its error that of
`assemble_eq_error_iff`; here both are said of the stream itself, together with
the token that a page has (`token_of_page`, `decode_token`). The main statement
is `assemble_exact`.
-/

set_option autoImplicit false

namespace ReleaseLag.Proofs.Paging

/-- What a stream sends as an item of an answer. -/
def itemOfResult : Except Error Row → Item
  | .ok row => .row row
  | .error e => .fail e

/-- A record as a stream sends it: a row whose cells can be read. -/
def sent (record : Record) : Except Error Row :=
  .ok ⟨.ok record.releaseDate, .ok record.count⟩

variable {pageSize : Nat} {stream : List (Except Error Row)} {records : List Record}

/-- A row and an error are different items. -/
theorem itemOfResult_injective : Function.Injective itemOfResult := by
  intro one other h
  cases one <;> cases other <;> cases h <;> rfl

/-- What a stream sends is there at once. -/
theorem prompt_stream (stream : List (Except Error Row)) :
    ∀ item ∈ stream.map itemOfResult, Prompt item := by
  intro item hitem
  obtain ⟨result, -, rfl⟩ := List.mem_map.mp hitem
  cases result <;> trivial

/-- A stream has the rows of records when it sends them. -/
theorem events_stream_iff :
    events (stream.map itemOfResult) = records.map itemOf ↔ stream = records.map sent := by
  have hitems : records.map itemOf = (records.map sent).map itemOfResult := by
    rw [List.map_map]
    rfl
  rw [events_of_prompt (prompt_stream stream), hitems]
  exact itemOfResult_injective.list_map.eq_iff

/-- A stream gives the page of the records it sends, if they descend. -/
theorem assemble_stream_ok_iff {page : Page} :
    Page.assemble pageSize (stream.map itemOfResult) = .now (.ok page)
      ↔ ∃ records, stream = records.map sent ∧ Descending records
        ∧ Page.ofRecords pageSize records = page := by
  have hwaiting := waiting_of_prompt (prompt_stream stream)
  rw [Outcome.now, assemble_eq_ok_iff]
  simp only [events_stream_iff, hwaiting, true_and]

/-- A stream gives an error if it sends descending records and then something
with that fault. -/
theorem assemble_stream_error_iff {e : Error} :
    Page.assemble pageSize (stream.map itemOfResult) = .now (.error e)
      ↔ ∃ records result rest, stream = records.map sent ++ result :: rest
        ∧ Descending records ∧ Offends (lastDate none records) (itemOfResult result) e := by
  rw [Outcome.now, assemble_eq_error_iff]
  constructor
  · rintro ⟨front, item, rest, records, hstream, hfront, hdesc, hfault, -⟩
    obtain ⟨first, others, rfl, rfl, hothers⟩ := List.map_eq_append_iff.mp hstream
    obtain ⟨result, later, rfl, rfl, rfl⟩ := List.map_eq_cons_iff.mp hothers
    obtain rfl := events_stream_iff.mp hfront
    exact ⟨records, result, later, rfl, hdesc, hfault⟩
  · rintro ⟨records, result, rest, rfl, hdesc, hfault⟩
    refine ⟨(records.map sent).map itemOfResult, itemOfResult result, rest.map itemOfResult,
      records, ?_, events_stream_iff.mpr rfl, hdesc, hfault, waiting_of_prompt (prompt_stream _)⟩
    rw [List.map_append, List.map_cons]

/-- A page has a token if it has records, and as many as asked for. -/
theorem token_of_page (pageSize : Nat) (records : List Record) :
    (Page.ofRecords pageSize records).nextToken.isSome
      ↔ 0 < records.length ∧ records.length = pageSize := by
  by_cases hfull : records.length = pageSize
  · by_cases hpos : 0 < pageSize
    · obtain ⟨last, -, htoken⟩ := nextToken_of_full hpos hfull
      simp [htoken, hfull, hpos]
    · -- A page of no records is full where none are asked for, but has no last.
      have hnil : records = [] := List.length_eq_zero_iff.mp (by omega)
      simp [hnil, Page.ofRecords]
  · simp [nextToken_of_ne hfull, hfull]

/-- The token of a page stands for the date of its last record. -/
theorem decode_token {token : Text} (h : (Page.ofRecords pageSize records).nextToken = some token) :
    ∃ last, records.getLast? = some last ∧ Cursor.decode token = .ok last.releaseDate := by
  obtain ⟨last, hlast, rfl⟩ := last_of_nextToken h
  exact ⟨last, hlast, Cursor.decode_encode last.releaseDate⟩

/-- A stream of any length comes to a page or to an error, at once:

1. it comes to one of the two;
2. it is a page just if the stream sends rows whose cells can be read, each
   older than the one before;
3. the records of the page are those rows in their order, and it has a token
   just if there are as many as asked for and not none, which stands for the
   date of the last;
4. it is an error just if such rows are followed by the first thing that is not
   another of them, which has that fault, and whatever is sent after it. -/
theorem assemble_exact (pageSize : Nat) (stream : List (Except Error Row)) :
    (∃ result, Page.assemble pageSize (stream.map itemOfResult) = .now result)
      ∧ ((∃ page, Page.assemble pageSize (stream.map itemOfResult) = .now (.ok page))
          ↔ ∃ records, stream = records.map sent ∧ Descending records)
      ∧ (∀ page, Page.assemble pageSize (stream.map itemOfResult) = .now (.ok page) →
          stream = page.records.map sent
            ∧ (page.nextToken.isSome
                ↔ 0 < page.records.length ∧ page.records.length = pageSize)
            ∧ ∀ token ∈ page.nextToken, ∃ last, page.records.getLast? = some last
                ∧ Cursor.decode token = .ok last.releaseDate)
      ∧ ∀ e, Page.assemble pageSize (stream.map itemOfResult) = .now (.error e)
          ↔ ∃ records result rest, stream = records.map sent ++ result :: rest
            ∧ Descending records
            ∧ Offends (lastDate none records) (itemOfResult result) e := by
  refine ⟨⟨_, assemble_of_prompt pageSize (prompt_stream stream)⟩, ?_, ?_,
    fun e => assemble_stream_error_iff⟩
  · constructor
    · rintro ⟨page, hpage⟩
      obtain ⟨records, hstream, hdesc, -⟩ := assemble_stream_ok_iff.mp hpage
      exact ⟨records, hstream, hdesc⟩
    · rintro ⟨records, hstream, hdesc⟩
      exact ⟨_, assemble_stream_ok_iff.mpr ⟨records, hstream, hdesc, rfl⟩⟩
  · intro page hpage
    obtain ⟨records, hstream, -, rfl⟩ := assemble_stream_ok_iff.mp hpage
    exact ⟨hstream, token_of_page pageSize records, fun token htoken => decode_token htoken⟩

end ReleaseLag.Proofs.Paging
