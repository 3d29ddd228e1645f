import ReleaseLag.Proofs.Lagging.Statement
import ReleaseLag.Proofs.Paging.Assembly

/-!
# `ReleaseLag.Proofs.Paging.Listing`: the rows that a request is about

The `listing` of a table is its records in a window, and before a cursor if
there is one, newest first. `select_built` says that a statement asks for as
much of it as fits on a page. `listing_drop` is what paging rests on: the
listing after the last record of a page is what was left of the listing
before, wherever the page was cut.
-/

set_option autoImplicit false

namespace ReleaseLag.Proofs.Paging

open ReleaseLag.Lagging
open ReleaseLag.Proofs.Lagging

/-- A record lies in a window, and before a cursor if there is one. -/
def qualifies (w : Window) (cursor : Option Instant) (record : Record) : Bool :=
  w.contains record.releaseDate && cursor.all (record.releaseDate < ·)

/-- The records of a table in a window and before a cursor, newest first. -/
def listing (table : List Record) (w : Window) (cursor : Option Instant) : List Record :=
  (table.filter (qualifies w cursor)).mergeSort fun a b => b.releaseDate ≤ a.releaseDate

theorem qualifies_iff {w : Window} {cursor : Option Instant} {record : Record} :
    qualifies w cursor record = true
      ↔ w.start ≤ record.releaseDate ∧ record.releaseDate < w.stop
        ∧ ∀ t, cursor = some t → record.releaseDate < t := by
  simp only [qualifies, Window.contains, Bool.and_eq_true, decide_eq_true_eq, and_assoc]
  cases cursor with
  | none => simp
  | some t => simp [eq_comm]

/-! ### The order of a listing -/

/-- Descending records with the same members are the same. -/
theorem eq_of_perm_of_descending {xs ys : List Record} (hperm : xs.Perm ys) (hxs : Descending xs)
    (hys : Descending ys) : xs = ys := by
  refine List.Perm.eq_of_pairwise (fun a b _ _ hab hba => ?_) hxs hys hperm
  exact absurd (Instant.lt_trans hab hba) (Instant.lt_irrefl _)

theorem listing_perm (table : List Record) (w : Window) (cursor : Option Instant) :
    (listing table w cursor).Perm (table.filter (qualifies w cursor)) :=
  List.mergeSort_perm _ _

theorem mem_listing {table : List Record} {w : Window} {cursor : Option Instant}
    {record : Record} :
    record ∈ listing table w cursor ↔ record ∈ table ∧ qualifies w cursor record = true := by
  rw [(listing_perm table w cursor).mem_iff, List.mem_filter]

variable {table : List Record}

/-- A listing descends strictly if no two records of the table have one
date. -/
theorem descending_listing (hdistinct : (table.map Record.releaseDate).Nodup) (w : Window)
    (cursor : Option Instant) : Descending (listing table w cursor) := by
  -- Sorting leaves room for equal dates, which the table does not have.
  have hsorted : (listing table w cursor).Pairwise fun a b =>
      decide (b.releaseDate ≤ a.releaseDate) = true := by
    refine List.pairwise_mergeSort (fun a b c hab hbc => ?_) (fun a b => ?_) _
    · simp only [decide_eq_true_eq, Instant.le_iff] at hab hbc ⊢
      omega
    · simp only [Bool.or_eq_true, decide_eq_true_eq, Instant.le_iff]
      omega
  have hnodup : (listing table w cursor).Pairwise fun a b => a.releaseDate ≠ b.releaseDate := by
    refine List.pairwise_map.mp (((listing_perm table w cursor).map _).nodup_iff.mpr ?_)
    exact hdistinct.sublist (List.filter_sublist.map Record.releaseDate)
  refine (hsorted.and hnodup).imp fun {a b} ⟨hle, hne⟩ => ?_
  rcases Instant.lt_trichotomy b.releaseDate a.releaseDate with hlt | heq | hlt
  · exact hlt
  · exact absurd heq.symm hne
  · exact absurd hlt (Instant.not_lt.mpr (decide_eq_true_eq.mp hle))

/-! ### What is left of a listing -/

/-- Going on after an instant before the cursor asks for what is older than
the instant as well. -/
theorem qualifies_after {w : Window} {cursor : Option Instant} {d : Instant}
    (hbefore : ∀ t, cursor = some t → d < t) (record : Record) :
    qualifies w (some d) record
      = (decide (record.releaseDate < d) && qualifies w cursor record) := by
  rw [Bool.eq_iff_iff, Bool.and_eq_true, decide_eq_true_eq, qualifies_iff, qualifies_iff]
  constructor
  · rintro ⟨hstart, hstop, hlt⟩
    have hlt := hlt d rfl
    exact ⟨hlt, hstart, hstop, fun t ht => Instant.lt_trans hlt (hbefore t ht)⟩
  · rintro ⟨hlt, hstart, hstop, -⟩
    exact ⟨hstart, hstop, fun t ht => Option.some.inj ht ▸ hlt⟩

/-- The listing after an instant is the part of the listing that is older. -/
theorem listing_after (hdistinct : (table.map Record.releaseDate).Nodup) {w : Window}
    {cursor : Option Instant} {d : Instant} (hbefore : ∀ t, cursor = some t → d < t) :
    listing table w (some d)
      = (listing table w cursor).filter fun record => decide (record.releaseDate < d) := by
  refine eq_of_perm_of_descending ?_ (descending_listing hdistinct w (some d))
    ((descending_listing hdistinct w cursor).filter _)
  have hfilter : table.filter (qualifies w (some d))
      = (table.filter (qualifies w cursor)).filter fun record =>
          decide (record.releaseDate < d) := by
    rw [List.filter_filter]
    exact List.filter_congr fun record _ => qualifies_after hbefore record
  rw [(listing_perm table w (some d)).congr_left, hfilter]
  exact ((listing_perm table w cursor).filter _).symm

/-- Of descending records, those older than one of them stand behind it. -/
theorem filter_descending {front back : List Record} {last : Record}
    (hdesc : Descending (front ++ last :: back)) :
    (front ++ last :: back).filter (fun record => decide (record.releaseDate < last.releaseDate))
      = back := by
  obtain ⟨-, hbehind, hfront⟩ := List.pairwise_append.mp hdesc
  obtain ⟨hback, -⟩ := List.pairwise_cons.mp hbehind
  have hnewer : front.filter (fun record => decide (record.releaseDate < last.releaseDate)) = [] := by
    refine List.filter_eq_nil_iff.mpr fun record hmem hlt => ?_
    have hgt := hfront record hmem last List.mem_cons_self
    exact Instant.lt_irrefl _ (Instant.lt_trans (of_decide_eq_true hlt) hgt)
  have holder : back.filter (fun record => decide (record.releaseDate < last.releaseDate)) = back :=
    List.filter_eq_self.mpr fun record hmem => decide_eq_true (hback record hmem)
  rw [List.filter_append, hnewer, List.nil_append, List.filter_cons, holder, if_neg]
  simpa using Instant.lt_irrefl _

/-- Cut at any place, a listing goes on after the last record in front of the
cut with the records behind it. -/
theorem listing_drop (hdistinct : (table.map Record.releaseDate).Nodup) {w : Window}
    {cursor : Option Instant} {count : Nat} {last : Record}
    (hlast : ((listing table w cursor).take count).getLast? = some last) :
    listing table w (some last.releaseDate) = (listing table w cursor).drop count := by
  obtain ⟨front, hfront⟩ := List.getLast?_eq_some_iff.mp hlast
  have hsplit : listing table w cursor
      = front ++ last :: (listing table w cursor).drop count := by
    rw [← List.singleton_append, ← List.append_assoc, ← hfront, List.take_append_drop]
  have hmem : last ∈ listing table w cursor := by
    rw [hsplit]
    simp
  have hbefore := (qualifies_iff.mp (mem_listing.mp hmem).2).2.2
  -- Only the left side is split: on the right the listing stays whole.
  have hdesc := descending_listing hdistinct w cursor
  rw [listing_after hdistinct hbefore]
  rw [hsplit] at hdesc
  conv_lhs => rw [hsplit]
  exact filter_descending hdesc

/-! ### What a statement asks for -/

section

variable (r : Request) (cursor : Option Instant)

theorem boundInstant?_start :
    Store.boundInstant? (built r cursor) startParam = some r.window.start := by
  have hparam : (built r cursor).param? startParam.text = some (.timestamp r.window.start) :=
    (get?_params r cursor _ _).mpr (by simp [entries])
  rw [Store.boundInstant?, hparam]

theorem boundInstant?_end :
    Store.boundInstant? (built r cursor) endParam = some r.window.stop := by
  have hparam : (built r cursor).param? endParam.text = some (.timestamp r.window.stop) :=
    (get?_params r cursor _ _).mpr (by simp [entries])
  rw [Store.boundInstant?, hparam]

theorem boundInt?_limit :
    Store.boundInt? (built r cursor) limitParam = some (r.pageSize : Int) := by
  have hparam : (built r cursor).param? limitParam.text = some (.int r.pageSize) :=
    (get?_params r cursor _ _).mpr (by simp [entries])
  rw [Store.boundInt?, hparam]

/-- Without a cursor, no parameter has its name. -/
theorem param?_cursor_none : (built r none).param? cursorParam.text = none := by
  refine Option.eq_none_iff_forall_ne_some.mpr fun value hvalue => ?_
  have hentry := (get?_params r none cursorParam.text value).mp hvalue
  have hname : cursorParam.text ∈ names r.references.length false := by
    have hmem := List.mem_map_of_mem (f := Prod.fst) hentry
    rwa [map_fst_entries] at hmem
  rcases List.mem_append.mp hname with hreference | hother
  · simp only [referenceParams, List.map_map, List.mem_map] at hreference
    obtain ⟨index, -, heq⟩ := hreference
    exact text_referenceParam_ne (by decide) index heq
  · revert hother
    decide

theorem boundInstant?_cursor : Store.boundInstant? (built r cursor) cursorParam = cursor := by
  cases cursor with
  | none => rw [Store.boundInstant?, param?_cursor_none]
  | some t =>
    have hparam : (built r (some t)).param? cursorParam.text = some (.timestamp t) :=
      (get?_params r (some t) _ _).mpr (by simp [entries])
    rw [Store.boundInstant?, hparam]

/-- A statement asks for the rows that qualify. -/
theorem selects_built (record : Record) :
    Store.selects (built r cursor) record.releaseDate = qualifies r.window cursor record := by
  rw [Store.selects, boundInstant?_start, boundInstant?_end, boundInstant?_cursor]
  rfl

/-- A statement gets as much of the listing as fits on a page. -/
theorem select_built (table : List Record) :
    Store.select (table.map Store.Entry.ofRecord) (built r cursor)
      = ((listing table r.window cursor).take r.pageSize).map Store.Entry.ofRecord := by
  have hfilter : (table.map Store.Entry.ofRecord).filter
        (fun e => Store.selects (built r cursor) e.releaseDate)
      = (table.filter (qualifies r.window cursor)).map Store.Entry.ofRecord := by
    rw [List.filter_map]
    congr 1
    exact List.filter_congr fun record _ => selects_built r cursor record
  rw [Store.select, boundInt?_limit, hfilter]
  rw [← List.map_mergeSort (r := fun a b => decide (b.releaseDate ≤ a.releaseDate))
    fun a _ b _ => rfl, List.map_take]
  rfl

end

end ReleaseLag.Proofs.Paging
