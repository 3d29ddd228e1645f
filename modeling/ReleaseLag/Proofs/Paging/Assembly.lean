import Mathlib.Data.List.Chain
import ReleaseLag.Paging.Store
import ReleaseLag.Proofs.Paging.Outcome

/-!
# `ReleaseLag.Proofs.Paging.Assembly`: pages of answers

What an item is worth depends on the record in front of it, so the lemmas here
say behind which date an answer is read. `Offends` lists the faults an item can
have there. An answer `Ends` in one of three ways (`ends_collect`), and the
three exclude each other (`Ends.collect_eq`): rows that come newest first are
read, and what follows them goes on behind the last (`collect_append`).

So it is read when all its rows come newest first (`collect_eq_ok_iff`), and it
fails when such rows are followed by an item with a fault, whatever comes after
that (`collect_eq_error_iff`). Either takes as long as the items up to there
waited. `assemble_eq_ok_iff` and `assemble_eq_error_iff` say the same of pages.
An answer in which no time passes is read at once (`assemble_of_prompt`).
-/

set_option autoImplicit false

namespace ReleaseLag.Proofs.Paging

/-- Records stand newest first, no two of one date. -/
def Descending (records : List Record) : Prop :=
  records.Pairwise fun newer older => older.releaseDate < newer.releaseDate

instance (records : List Record) : Decidable (Descending records) :=
  inferInstanceAs (Decidable (records.Pairwise _))

/-- Records descend if each is older than the one just before it. -/
theorem descending_iff_isChain {records : List Record} :
    Descending records
      ↔ records.IsChain fun newer older => older.releaseDate < newer.releaseDate := by
  let trans : Trans (fun newer older : Record => older.releaseDate < newer.releaseDate)
      (fun newer older : Record => older.releaseDate < newer.releaseDate)
      (fun newer older : Record => older.releaseDate < newer.releaseDate) :=
    ⟨fun hnewer holder => Instant.lt_trans holder hnewer⟩
  exact List.isChain_iff_pairwise.symm

/-- A record as an item of an answer. -/
def itemOf (record : Record) : Item :=
  (Store.Entry.ofRecord record).item

/-- The items of an answer that are more than time passing. -/
def events : List Item → List Item
  | [] => []
  | .wait _ :: items => events items
  | item :: items => item :: events items

/-- How long an answer waits in all. -/
def waiting : List Item → Nat
  | [] => 0
  | .wait ms :: items => ms + waiting items
  | _ :: items => waiting items

/-- What is more than time passing was sent. -/
theorem mem_of_mem_events {item : Item} {items : List Item} (h : item ∈ events items) :
    item ∈ items := by
  induction items with
  | nil => cases h
  | cons other items ih =>
    cases other with
    | wait ms => exact List.mem_cons_of_mem _ (ih h)
    | _ =>
      rcases List.mem_cons.mp h with rfl | hmem
      · exact List.mem_cons_self
      · exact List.mem_cons_of_mem _ (ih hmem)

/-! ### Rows -/

/-- What is wrong with an item that comes after a record of a given date. A row
has one fault: its count is not looked at when its date cannot be read, and
its place in the order only when both can. -/
inductive Offends : Option Instant → Item → Error → Prop
  | failure {previous : Option Instant} {e : Error} : Offends previous (.fail e) e
  | date {previous : Option Instant} {reason : Text} {count : Except Text Int} :
      Offends previous (.row ⟨.error reason, count⟩) (.rowMapping .releaseDate reason)
  | count {previous : Option Instant} {date : Instant} {reason : Text} :
      Offends previous (.row ⟨.ok date, .error reason⟩) (.rowMapping .count reason)
  | order {before date : Instant} {count : Int} (hlate : before ≤ date) :
      Offends (some before) (.row ⟨.ok date, .ok count⟩)
        (.queryExecution (.outOfOrder date before))

/-- A record is in order if it is older than the one before. -/
theorem checkOrder_eq_ok_iff {previous : Option Instant} {read record : Record} :
    Page.checkOrder previous read = .ok record
      ↔ read = record ∧ ∀ t ∈ previous, record.releaseDate < t := by
  cases previous with
  | none => simp [Page.checkOrder]
  | some before =>
    rw [Page.checkOrder]
    split
    · next hlt =>
      constructor
      · rintro ⟨⟩
        exact ⟨rfl, fun t ht => Option.some.inj ht ▸ hlt⟩
      · rintro ⟨rfl, -⟩
        rfl
    · next hlt =>
      constructor
      · rintro ⟨⟩
      · rintro ⟨rfl, hbehind⟩
        exact absurd (hbehind before rfl) hlt

/-- A row gives a record if both its cells can be read and it is older than the
record before. -/
theorem ofRow_eq_ok_iff {previous : Option Instant} {row : Row} {record : Record} :
    (Record.ofRow row >>= Page.checkOrder previous) = .ok record
      ↔ Item.row row = itemOf record ∧ ∀ t ∈ previous, record.releaseDate < t := by
  obtain ⟨date, count⟩ := row
  cases date with
  | error reason => simp [Record.ofRow, Row.cell, itemOf, Store.Entry.item, Store.Entry.ofRecord]
  | ok date =>
    cases count with
    | error reason => simp [Record.ofRow, Row.cell, itemOf, Store.Entry.item, Store.Entry.ofRecord]
    | ok count =>
      show Page.checkOrder previous ⟨date, count⟩ = .ok record ↔ _
      rw [checkOrder_eq_ok_iff]
      obtain ⟨date', count'⟩ := record
      simp [itemOf, Store.Entry.item, Store.Entry.ofRecord]

/-- A row gives an error if that is what is wrong with it. -/
theorem ofRow_eq_error_iff {previous : Option Instant} {row : Row} {e : Error} :
    (Record.ofRow row >>= Page.checkOrder previous) = .error e ↔ Offends previous (.row row) e := by
  constructor
  · intro h
    obtain ⟨date, count⟩ := row
    cases date with
    | error reason =>
      cases h
      exact .date
    | ok date =>
      cases count with
      | error reason =>
        cases h
        exact .count
      | ok count =>
        cases previous with
        | none => cases h
        | some before =>
          replace h : Page.checkOrder (some before) ⟨date, count⟩ = .error e := h
          rw [Page.checkOrder] at h
          split at h
          · cases h
          · next hlate =>
            cases h
            exact .order (Instant.not_lt.mp hlate)
  · intro h
    cases h with
    | date => rfl
    | count => rfl
    | order hlate => exact if_neg (Instant.not_lt.mpr hlate)

/-! ### Answers -/

/-- The date that the next record has to be older than, once some records were
read. -/
def lastDate (previous : Option Instant) (records : List Record) : Option Instant :=
  (records.getLast?.map Record.releaseDate).or previous

@[simp] theorem lastDate_nil (previous : Option Instant) : lastDate previous [] = previous := rfl

@[simp] theorem lastDate_cons (previous : Option Instant) (record : Record)
    (records : List Record) :
    lastDate previous (record :: records) = lastDate (some record.releaseDate) records := by
  cases hlast : records.getLast? <;> simp [lastDate, List.getLast?_cons, hlast]

/-- Records stand newest first, all of them behind a date. -/
structure Behind (previous : Option Instant) (records : List Record) : Prop where
  descending : Descending records
  older : ∀ record ∈ records, ∀ t ∈ previous, record.releaseDate < t

/-- No record is behind anything. -/
theorem Behind.nil {previous : Option Instant} : Behind previous [] :=
  ⟨.nil, fun _ hmem => nomatch hmem⟩

/-- The first record is behind the date before it, and the others are behind
the first. -/
theorem behind_cons {previous : Option Instant} {record : Record} {records : List Record} :
    Behind previous (record :: records)
      ↔ (∀ t ∈ previous, record.releaseDate < t) ∧ Behind (some record.releaseDate) records := by
  constructor
  · rintro ⟨hdesc, holder⟩
    obtain ⟨hnewer, hdesc⟩ := List.pairwise_cons.mp hdesc
    refine ⟨holder record List.mem_cons_self, hdesc, ?_⟩
    rintro other hother t ⟨⟩
    exact hnewer other hother
  · rintro ⟨hfirst, hdesc, holder⟩
    have hnewer : ∀ other ∈ records, other.releaseDate < record.releaseDate :=
      fun other hother => holder other hother _ rfl
    refine ⟨List.pairwise_cons.mpr ⟨hnewer, hdesc⟩, ?_⟩
    intro other hother t ht
    rcases List.mem_cons.mp hother with rfl | hother
    · exact hfirst t ht
    · exact Instant.lt_trans (hnewer other hother) (hfirst t ht)

/-- Descending records are behind no date in particular. -/
theorem Behind.of_descending {records : List Record} (h : Descending records) :
    Behind none records :=
  ⟨h, fun _ _ _ ht => nomatch ht⟩

/-- Rows that come newest first are read, and the rest of the answer goes on
behind the last of them. -/
theorem collect_append {front : List Item} {records : List Record} {previous : Option Instant}
    (hfront : events front = records.map itemOf) (hbehind : Behind previous records)
    (rest : List Item) :
    Page.collect previous (front ++ rest)
      = ((Page.collect (lastDate previous records) rest).map (records ++ ·)).delay
          (waiting front) := by
  -- Items and records do not come in step: time passes without a record.
  induction front generalizing records previous with
  | nil =>
    obtain rfl : records = [] := List.map_eq_nil_iff.mp hfront.symm
    rw [lastDate_nil]
    exact (after_nothing _).symm
  | cons item front ih =>
    cases item with
    | wait ms =>
      show (Page.collect previous (front ++ rest)).delay ms = _
      rw [ih hfront hbehind]
      exact delay_delay _ _ _
    | fail e =>
      -- No record is a failure, nor the end of all answers.
      cases records <;> cases hfront
    | hang => cases records <;> cases hfront
    | row row =>
      cases records with
      | nil => cases hfront
      | cons record records =>
        -- The row is read, and what comes next is read behind its date.
        obtain ⟨hrow, hfront⟩ := List.cons.inj hfront
        obtain ⟨hfirst, hbehind⟩ := behind_cons.mp hbehind
        have hread : (Record.ofRow row >>= Page.checkOrder previous) = .ok record :=
          ofRow_eq_ok_iff.mpr ⟨hrow, hfirst⟩
        simp only [List.cons_append, Page.collect, hread, ih hfront hbehind, lastDate_cons,
          map_delay, map_map, waiting]
        rfl

/-- An item with a fault ends the answer with it. -/
theorem collect_of_offends {item : Item} {previous : Option Instant} {e : Error}
    (h : Offends previous item e) (rest : List Item) :
    Page.collect previous (item :: rest) = .now (.error e) := by
  cases item with
  | wait ms => cases h
  | hang => cases h
  | fail d =>
    cases h
    rfl
  | row row => rw [Page.collect, ofRow_eq_error_iff.mpr h]

/-- How an answer ends. It is read when its rows come newest first, it fails
when such rows are followed by an item with a fault, and it never ends when they
are followed by the end of all answers. -/
inductive Ends (previous : Option Instant) : List Item → Outcome (List Record) → Prop
  | read {items : List Item} {records : List Record}
      (hitems : events items = records.map itemOf) (hbehind : Behind previous records) :
      Ends previous items (.after (waiting items) (.ok records))
  | fault {front rest : List Item} {item : Item} {records : List Record} {e : Error}
      (hfront : events front = records.map itemOf) (hbehind : Behind previous records)
      (hfault : Offends (lastDate previous records) item e) :
      Ends previous (front ++ item :: rest) (.after (waiting front) (.error e))
  | hang {front rest : List Item} {records : List Record}
      (hfront : events front = records.map itemOf) (hbehind : Behind previous records) :
      Ends previous (front ++ .hang :: rest) .never

/-- An answer that waits first ends as it would, so much later. -/
theorem Ends.wait {previous : Option Instant} {items : List Item} {work : Outcome (List Record)}
    (h : Ends previous items work) (ms : Nat) :
    Ends previous (.wait ms :: items) (work.delay ms) := by
  cases h with
  | @read _ records hitems hbehind =>
    have hitems : events (.wait ms :: items) = records.map itemOf := hitems
    exact .read hitems hbehind
  | @fault front rest item records _ hfront hbehind hfault =>
    have hfront : events (.wait ms :: front) = records.map itemOf := hfront
    show Ends previous ((.wait ms :: front) ++ item :: rest) _
    exact .fault hfront hbehind hfault
  | @hang front rest records hfront hbehind =>
    have hfront : events (.wait ms :: front) = records.map itemOf := hfront
    show Ends previous ((.wait ms :: front) ++ .hang :: rest) _
    exact .hang hfront hbehind

/-- An answer that begins with a row in order ends as it does behind it. -/
theorem Ends.row {previous : Option Instant} {items : List Item} {work : Outcome (List Record)}
    {row : Row} {record : Record} (hrow : Item.row row = itemOf record)
    (hfirst : ∀ t ∈ previous, record.releaseDate < t)
    (h : Ends (some record.releaseDate) items work) :
    Ends previous (.row row :: items) (work.map (record :: ·)) := by
  have hmore : ∀ {front : List Item} {records : List Record},
      events front = records.map itemOf →
        events (.row row :: front) = (record :: records).map itemOf :=
    fun hfront => congrArg₂ List.cons hrow hfront
  cases h with
  | read hitems hbehind => exact .read (hmore hitems) (behind_cons.mpr ⟨hfirst, hbehind⟩)
  | @fault front rest item _ _ hfront hbehind hfault =>
    rw [← lastDate_cons previous] at hfault
    show Ends previous ((.row row :: front) ++ item :: rest) _
    exact .fault (hmore hfront) (behind_cons.mpr ⟨hfirst, hbehind⟩) hfault
  | @hang front rest _ hfront hbehind =>
    show Ends previous ((.row row :: front) ++ .hang :: rest) _
    exact .hang (hmore hfront) (behind_cons.mpr ⟨hfirst, hbehind⟩)

/-- Every answer ends in one of the three ways. -/
theorem ends_collect (previous : Option Instant) (items : List Item) :
    Ends previous items (Page.collect previous items) := by
  have hnone : events [] = ([] : List Record).map itemOf := rfl
  induction items generalizing previous with
  | nil => exact .read hnone .nil
  | cons item items ih =>
    cases item with
    | wait ms => exact (ih previous).wait ms
    | fail e =>
      show Ends previous ([] ++ .fail e :: items) _
      exact .fault hnone .nil .failure
    | hang =>
      show Ends previous ([] ++ .hang :: items) _
      exact .hang hnone .nil
    | row row =>
      rw [Page.collect]
      split
      · next e hfault =>
        show Ends previous ([] ++ .row row :: items) _
        exact .fault hnone .nil (ofRow_eq_error_iff.mp hfault)
      · next record hrecord =>
        obtain ⟨hrow, hfirst⟩ := ofRow_eq_ok_iff.mp hrecord
        exact (ih (some record.releaseDate)).row hrow hfirst

/-- An answer ends in no other way than it is read. -/
theorem Ends.collect_eq {previous : Option Instant} {items : List Item}
    {work : Outcome (List Record)} (h : Ends previous items work) :
    Page.collect previous items = work := by
  cases h with
  | @read _ records hitems hbehind =>
    have happend := collect_append hitems hbehind []
    rw [List.append_nil] at happend
    rw [happend]
    show Outcome.after (waiting items + 0) (.ok (records ++ [])) = _
    rw [Nat.add_zero, List.append_nil]
  | fault hfront hbehind hfault =>
    rw [collect_append hfront hbehind, collect_of_offends hfault]
    rfl
  | hang hfront hbehind =>
    rw [collect_append hfront hbehind]
    rfl

/-- An answer is read when its rows come newest first, which takes as long as
it waits. -/
theorem collect_eq_ok_iff {items : List Item} {records : List Record} {previous : Option Instant}
    {ms : Nat} :
    Page.collect previous items = .after ms (.ok records)
      ↔ events items = records.map itemOf ∧ Behind previous records ∧ waiting items = ms := by
  constructor
  · intro h
    have hends := ends_collect previous items
    rw [h] at hends
    cases hends with
    | read hitems hbehind => exact ⟨hitems, hbehind, rfl⟩
  · rintro ⟨hitems, hbehind, rfl⟩
    exact (Ends.read hitems hbehind).collect_eq

/-- An answer comes to an error when rows that come newest first are followed by
an item with that fault. What comes after that is not waited for. -/
theorem collect_eq_error_iff {items : List Item} {previous : Option Instant} {ms : Nat}
    {e : Error} :
    Page.collect previous items = .after ms (.error e)
      ↔ ∃ front item rest records, items = front ++ item :: rest
        ∧ events front = records.map itemOf ∧ Behind previous records
        ∧ Offends (lastDate previous records) item e ∧ waiting front = ms := by
  constructor
  · intro h
    have hends := ends_collect previous items
    rw [h] at hends
    cases hends with
    | fault hfront hbehind hfault => exact ⟨_, _, _, _, rfl, hfront, hbehind, hfault, rfl⟩
  · rintro ⟨front, item, rest, records, rfl, hfront, hbehind, hfault, rfl⟩
    exact (Ends.fault hfront hbehind hfault).collect_eq

/-- The records of an answer descend. -/
theorem descending_of_collect {items : List Item} {previous : Option Instant} {ms : Nat}
    {records : List Record} (h : Page.collect previous items = .after ms (.ok records)) :
    Descending records :=
  (collect_eq_ok_iff.mp h).2.1.descending

/-- Every record of an answer was a row of it, with this date. -/
theorem row_of_collect {items : List Item} {previous : Option Instant} {ms : Nat}
    {records : List Record} (h : Page.collect previous items = .after ms (.ok records)) :
    ∀ record ∈ records, ∃ row, .row row ∈ items ∧ row.releaseDate = .ok record.releaseDate := by
  intro record hmem
  have hsent : itemOf record ∈ events items :=
    (collect_eq_ok_iff.mp h).1 ▸ List.mem_map_of_mem hmem
  exact ⟨_, mem_of_mem_events hsent, rfl⟩

/-- The error of an answer was sent with it, or is about a row. -/
theorem error_of_collect {items : List Item} {previous : Option Instant} {ms : Nat} {e : Error}
    (h : Page.collect previous items = .after ms (.error e)) :
    .fail e ∈ items ∨ (∃ column reason, e = .rowMapping column reason)
      ∨ ∃ date before, e = .queryExecution (.outOfOrder date before) := by
  obtain ⟨front, item, rest, records, rfl, -, -, hfault, -⟩ := collect_eq_error_iff.mp h
  generalize lastDate previous records = last at hfault
  cases hfault with
  | failure => exact .inl (List.mem_append_right front List.mem_cons_self)
  | date => exact .inr (.inl ⟨_, _, rfl⟩)
  | count => exact .inr (.inl ⟨_, _, rfl⟩)
  | order => exact .inr (.inr ⟨_, _, rfl⟩)

/-! ### Pages -/

/-- The page of an answer whose rows come newest first. -/
theorem assemble_of_descending {items : List Item} {records : List Record} (pageSize : Nat)
    (hitems : events items = records.map itemOf) (hdesc : Descending records) :
    Page.assemble pageSize items
      = .after (waiting items) (.ok (Page.ofRecords pageSize records)) := by
  rw [Page.assemble, collect_eq_ok_iff.mpr ⟨hitems, .of_descending hdesc, rfl⟩]
  rfl

/-- A page is that of descending records. -/
theorem assemble_eq_ok_iff {items : List Item} {pageSize ms : Nat} {page : Page} :
    Page.assemble pageSize items = .after ms (.ok page)
      ↔ ∃ records, events items = records.map itemOf ∧ Descending records
        ∧ waiting items = ms ∧ Page.ofRecords pageSize records = page := by
  constructor
  · intro h
    obtain ⟨records, hcollect, hpage⟩ := map_eq_ok_iff.mp h
    obtain ⟨hitems, hbehind, hms⟩ := collect_eq_ok_iff.mp hcollect
    exact ⟨records, hitems, hbehind.descending, hms, hpage⟩
  · rintro ⟨records, hitems, hdesc, rfl, rfl⟩
    exact assemble_of_descending pageSize hitems hdesc

/-- An error in place of a page is the first fault of the answer. -/
theorem assemble_eq_error_iff {items : List Item} {pageSize ms : Nat} {e : Error} :
    Page.assemble pageSize items = .after ms (.error e)
      ↔ ∃ front item rest records, items = front ++ item :: rest
        ∧ events front = records.map itemOf ∧ Descending records
        ∧ Offends (lastDate none records) item e ∧ waiting front = ms := by
  rw [Page.assemble, map_eq_error_iff, collect_eq_error_iff]
  constructor
  · rintro ⟨front, item, rest, records, hitems, hfront, hbehind, hfault⟩
    exact ⟨front, item, rest, records, hitems, hfront, hbehind.descending, hfault⟩
  · rintro ⟨front, item, rest, records, hitems, hfront, hdesc, hfault⟩
    exact ⟨front, item, rest, records, hitems, hfront, .of_descending hdesc, hfault⟩

/-! ### Answers in which no time passes -/

/-- An item that is there at once: a row, or a failure. -/
def Prompt : Item → Prop
  | .row _ => True
  | .fail _ => True
  | .wait _ => False
  | .hang => False

/-- All items of a prompt answer are more than time passing. -/
theorem events_of_prompt {items : List Item} (hprompt : ∀ item ∈ items, Prompt item) :
    events items = items := by
  induction items with
  | nil => rfl
  | cons item items ih =>
    obtain ⟨hitem, hitems⟩ := List.forall_mem_cons.mp hprompt
    cases item with
    | wait ms => exact hitem.elim
    | hang => exact hitem.elim
    | fail e => exact congrArg (Item.fail e :: ·) (ih hitems)
    | row row => exact congrArg (Item.row row :: ·) (ih hitems)

/-- A prompt answer does not wait. -/
theorem waiting_of_prompt {items : List Item} (hprompt : ∀ item ∈ items, Prompt item) :
    waiting items = 0 := by
  induction items with
  | nil => rfl
  | cons item items ih =>
    obtain ⟨hitem, hitems⟩ := List.forall_mem_cons.mp hprompt
    cases item with
    | wait ms => exact hitem.elim
    | hang => exact hitem.elim
    | fail e => exact ih hitems
    | row row => exact ih hitems

/-- Prompt items are read at once. -/
theorem collect_of_prompt {items : List Item} (hprompt : ∀ item ∈ items, Prompt item)
    (previous : Option Instant) : ∃ result, Page.collect previous items = .now result := by
  have hends := ends_collect previous items
  generalize Page.collect previous items = work at hends
  cases hends with
  | read _ _ =>
    rw [waiting_of_prompt hprompt]
    exact ⟨_, rfl⟩
  | @fault front _ _ _ _ _ _ _ =>
    have hfront : ∀ item ∈ front, Prompt item :=
      fun item hitem => hprompt item (List.mem_append_left _ hitem)
    rw [waiting_of_prompt hfront]
    exact ⟨_, rfl⟩
  | @hang front _ _ _ _ =>
    exact (hprompt .hang (List.mem_append_right front List.mem_cons_self)).elim

/-- What a page of an answer comes to, however long it takes. -/
def pageOf (pageSize : Nat) (items : List Item) : Except Error Page :=
  (Page.assemble pageSize items).settled

/-- The page of a prompt answer is there at once. -/
theorem assemble_of_prompt (pageSize : Nat) {items : List Item}
    (hprompt : ∀ item ∈ items, Prompt item) :
    Page.assemble pageSize items = .now (pageOf pageSize items) := by
  obtain ⟨result, hcollect⟩ := collect_of_prompt hprompt none
  rw [pageOf, Page.assemble, hcollect]
  rfl

end ReleaseLag.Proofs.Paging
