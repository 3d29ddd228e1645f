import ReleaseLag.Proofs.Cursor.RoundTrip
import ReleaseLag.Proofs.Lagging.Statement

/-!
# `ReleaseLag.Proofs.Lagging.Noninterference`: values stay out of query text

The text of a statement shows how many references the request has and whether
it has a token, and nothing else about the request: any two requests that
agree in these have the same texts (`text_hides_values`). What a browser is
called, or what instant a token names, is found among the values alone. So the
references of a request can be put in any order: the request stays acceptable,
its texts stay the same, and the values of the reference parameters are in the
new order.
-/

set_option autoImplicit false

namespace ReleaseLag.Proofs.Lagging

open ReleaseLag.Lagging

/-- Two statements that are sent as the same text, with the same names under
its numbers. -/
structure SameText (s t : Statement) : Prop where
  sql : s.sql = t.sql
  positionalSql : s.positionalSql = t.positionalSql
  order : s.order = t.order

/-- Statements for as many references, with or without a cursor, have the same
text. -/
theorem sameText_built {r q : Request} {cursor cursor' : Option Instant}
    (hcount : r.references.length = q.references.length)
    (hcursor : cursor.isSome = cursor'.isSome) : SameText (built r cursor) (built q cursor') := by
  have hnames : (entries r cursor).map Prod.fst = (entries q cursor').map Prod.fst := by
    rw [map_fst_entries, map_fst_entries, hcount, hcursor]
  refine ⟨?_, ?_, hnames⟩
  · rw [built, built, hcount, hcursor]
  · rw [built, built, hnames, hcount, hcursor]

/-! ### Values and references -/

variable (r : Request) (cursor : Option Instant)

/-- The entries of a request behind those of its references. -/
def otherEntries : List (Text × ParamValue) :=
  (targetParam.text, .string r.target)
    :: (startParam.text, .timestamp r.window.start)
    :: (endParam.text, .timestamp r.window.stop)
    :: ((cursor.map fun t => (cursorParam.text, .timestamp t)).toList
      ++ [(limitParam.text, .int r.pageSize)])

/-- An entry is that of a reference, or one of the others. -/
theorem mem_entries (entry : Text × ParamValue) :
    entry ∈ entries r cursor
      ↔ (∃ i browser, r.references[i]? = some browser
          ∧ ((referenceParam i).text, ParamValue.string browser) = entry)
        ∨ entry ∈ otherEntries r cursor := by
  rw [entries, List.mem_append]
  refine or_congr_left ?_
  rw [List.mem_mapIdx]
  constructor
  · rintro ⟨i, hi, heq⟩
    exact ⟨i, r.references[i], List.getElem?_eq_getElem hi, heq⟩
  · rintro ⟨i, browser, hbrowser, heq⟩
    obtain ⟨hi, rfl⟩ := List.getElem?_eq_some_iff.mp hbrowser
    exact ⟨i, hi, heq⟩

/-- None of the others has the name of a reference. -/
theorem not_mem_otherEntries (index : Nat) (value : ParamValue) :
    ((referenceParam index).text, value) ∉ otherEntries r cursor := by
  intro hmem
  have hnames : ∀ name ∈ (otherEntries r cursor).map Prod.fst, name.head? ≠ some 'o' := by
    cases cursor with
    | none =>
      show ∀ name ∈ [targetParam.text, startParam.text, endParam.text, limitParam.text], _
      decide
    | some t =>
      show ∀ name ∈ [targetParam.text, startParam.text, endParam.text, cursorParam.text,
        limitParam.text], _
      decide
  exact text_referenceParam_ne (hnames _ (List.mem_map_of_mem hmem)) index rfl

/-- The value of a reference parameter is the reference with its index. -/
theorem param?_referenceParam (index : Nat) :
    (built r cursor).param? (referenceParam index).text
      = r.references[index]?.map ParamValue.string := by
  refine Option.ext fun value => ?_
  rw [Option.map_eq_some_iff]
  show (params r cursor).get? _ = some value ↔ _
  rw [get?_params, mem_entries]
  constructor
  · rintro (⟨i, browser, hbrowser, heq⟩ | hother)
    · obtain ⟨hname, rfl⟩ := Prod.mk.inj heq
      have hindex : i = index := Decimal.ofNat_injective (List.append_cancel_left hname)
      exact ⟨browser, hindex ▸ hbrowser, rfl⟩
    · exact absurd hother (not_mem_otherEntries r cursor index value)
  · rintro ⟨browser, hbrowser, rfl⟩
    exact .inl ⟨index, browser, hbrowser, rfl⟩

/-- The value of any other parameter does not depend on the references. -/
theorem param?_of_ne {name : Text} (h : ∀ index, name ≠ (referenceParam index).text)
    (references : List Text) :
    (built { r with references } cursor).param? name = (built r cursor).param? name := by
  have hother : ∀ (q : Request) (value : ParamValue),
      (built q cursor).param? name = some value ↔ (name, value) ∈ otherEntries q cursor := by
    intro q value
    show (params q cursor).get? name = some value ↔ _
    rw [get?_params, mem_entries]
    constructor
    · rintro (⟨i, browser, -, heq⟩ | hother)
      · exact absurd (Prod.mk.inj heq).1.symm (h i)
      · exact hother
    · exact .inr
  refine Option.ext fun value => ?_
  rw [hother, hother]
  rfl

/-! ### References in another order -/

variable {r cursor} {maxPageSize : Nat}

/-- Whether a request is acceptable does not depend on the order of its
references. -/
theorem Acceptable.perm {references : List Text} (h : Acceptable r maxPageSize)
    (hperm : references.Perm r.references) : Acceptable { r with references } maxPageSize where
  target_ne_nil := h.target_ne_nil
  references_ne_nil := fun hnil => h.references_ne_nil (List.nil_perm.mp (hnil ▸ hperm))
  reference_ne_nil := fun browser hmem => h.reference_ne_nil browser (hperm.mem_iff.mp hmem)
  nodup := hperm.nodup_iff.mpr h.nodup
  target_not_mem := fun hmem => h.target_not_mem (hperm.mem_iff.mp hmem)
  one_le_pageSize := h.one_le_pageSize
  pageSize_le := h.pageSize_le
  start_lt_stop := h.start_lt_stop

/-- A token is read without a look at the references. -/
theorem Resumes.withReferences (references : List Text) (h : Resumes r cursor) :
    Resumes { r with references } cursor := by
  cases h with
  | fresh htoken => exact .fresh htoken
  | after htoken hdecode hstart hstop => exact .after htoken hdecode hstart hstop

/-- The statement `t` for references in another order than those of `s`. The
text is the same, each reference parameter has the value at its place in its
own list, and all other parameters keep theirs. -/
structure Reordered (s t : Statement) (references references' : List Text) : Prop where
  text : SameText s t
  first : ∀ index, s.param? (referenceParam index).text = references[index]?.map ParamValue.string
  second : ∀ index,
    t.param? (referenceParam index).text = references'[index]?.map ParamValue.string
  others : ∀ name, (∀ index, name ≠ (referenceParam index).text) → t.param? name = s.param? name

/-- The values of a request do not reach the text of its statement:

1. any other request that has a statement, with as many references and a token
   if this one has one, has it with the same text;
2. with its references in another order, the request has a statement too, which
   differs in the order of their values only. -/
theorem text_hides_values {s : Statement} (h : statement r maxPageSize = .ok s) :
    (∀ q maxPageSize' t, statement q maxPageSize' = .ok t →
        q.references.length = r.references.length → q.token.isSome = r.token.isSome →
        SameText s t)
      ∧ ∀ references, references.Perm r.references →
          ∃ t, statement { r with references } maxPageSize = .ok t
            ∧ Reordered s t r.references references := by
  obtain ⟨hacceptable, cursor, hresumes, rfl⟩ := statement_eq_ok_iff.mp h
  constructor
  · intro q maxPageSize' t ht hcount htoken
    obtain ⟨-, cursor', hresumes', rfl⟩ := statement_eq_ok_iff.mp ht
    refine sameText_built hcount.symm ?_
    rw [hresumes.isSome_eq, hresumes'.isSome_eq, htoken]
  · intro references hperm
    have ht : statement { r with references } maxPageSize
        = .ok (built { r with references } cursor) :=
      statement_eq_ok_iff.mpr
        ⟨hacceptable.perm hperm, cursor, hresumes.withReferences references, rfl⟩
    refine ⟨_, ht, ?_, param?_referenceParam r cursor, param?_referenceParam _ cursor, ?_⟩
    · exact sameText_built hperm.length_eq.symm rfl
    · intro name hname
      exact param?_of_ne r cursor hname references

/-- A request for a later page of ten minutes. -/
def plainRequest : Request where
  target := "foo".toList
  references := ["bar".toList, "baz".toList]
  window := ⟨⟨600, 0, by decide⟩, ⟨1200, 0, by decide⟩⟩
  pageSize := 10
  token := some (Cursor.encode ⟨900, 0, by decide⟩)

/-- The references of `plainRequest` the other way round. -/
def swappedReferences : List Text :=
  ["baz".toList, "bar".toList]

/-- A request with browsers that are called like stretches of a query or of a
template. -/
def hostileRequest : Request where
  target := "x'); DROP TABLE web_features; --".toList
  references := ["@limit\"".toList, "\x7b\x7b.TargetBrowserParam\x7d\x7d $1".toList]
  window := ⟨⟨-5, 0, by decide⟩, ⟨5, 0, by decide⟩⟩
  pageSize := 1
  token := some (Cursor.encode ⟨-1, 1500000000, by decide⟩)

/-- A statement does not show what its request calls its browsers. -/
theorem text_hides_hostileRequest :
    ∃ s t, statement plainRequest 1000 = .ok s ∧ statement hostileRequest 1 = .ok t
      ∧ SameText s t
      ∧ ∃ u, statement { plainRequest with references := swappedReferences } 1000 = .ok u
        ∧ Reordered s u plainRequest.references swappedReferences := by
  have hplain : Acceptable plainRequest 1000 := check_eq_ok_iff (u := ()).mp (by decide)
  have hhostile : Acceptable hostileRequest 1 := check_eq_ok_iff (u := ()).mp (by decide)
  have hresumes : Resumes plainRequest (some ⟨900, 0, by decide⟩) :=
    .after rfl (Cursor.decode_encode _) (by decide) (by decide)
  have hresumes' : Resumes hostileRequest (some ⟨-1, 1500000000, by decide⟩) :=
    .after rfl (Cursor.decode_encode _) (by decide) (by decide)
  have hs := statement_eq_ok_iff.mpr ⟨hplain, _, hresumes, rfl⟩
  have ht := statement_eq_ok_iff.mpr ⟨hhostile, _, hresumes', rfl⟩
  obtain ⟨hsame, hperm⟩ := text_hides_values hs
  have hswap : swappedReferences.Perm plainRequest.references := .swap _ _ []
  exact ⟨_, _, hs, ht, hsame _ _ _ ht rfl rfl, hperm _ hswap⟩

end ReleaseLag.Proofs.Lagging
