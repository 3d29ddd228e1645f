import ReleaseLag.Proofs.Lagging.Acceptance
import ReleaseLag.Proofs.Lagging.Rendering
import ReleaseLag.Proofs.NameMap
import Mathlib.Data.List.Nodup

/-!
# `ReleaseLag.Proofs.Lagging.Statement`: statements of requests

An acceptable request has a statement, and only such a request has one. The
statement is known in full (`statement_eq_ok_iff`): its text is the query for
the number of references, its parameters are the `entries` of the request,
and their order is that of the numbers they are sent under.

The names of parameters are different (`nodup_names`), so no value takes the
place of another. The order of the numbers then follows from where the
clauses stand: the references and the target come twice, and are numbered
where they come first.
-/

set_option autoImplicit false

namespace ReleaseLag.Proofs.Lagging

open ReleaseLag.Lagging
open ReleaseLag.Statement (numbered)
open ReleaseLag.Proofs.Statement

/-! ### Names -/

/-- The names of the parameters, in the order of their numbers. -/
def names (count : Nat) (resumed : Bool) : List Text :=
  (referenceParams count).map ParamName.text
    ++ targetParam.text :: startParam.text :: endParam.text
      :: ((if resumed then [cursorParam.text] else []) ++ [limitParam.text])

/-- The names after those of the references do not begin like them. -/
theorem text_referenceParam_ne {name : Text} (h : name.head? ≠ some 'o') (index : Nat) :
    (referenceParam index).text ≠ name := by
  intro heq
  exact h (heq ▸ rfl)

/-- References with different indices have different names. -/
theorem nodup_referenceParams (count : Nat) :
    ((referenceParams count).map ParamName.text).Nodup := by
  rw [referenceParams, List.map_map]
  refine List.Nodup.map (fun i j heq => ?_) List.nodup_range
  exact Decimal.ofNat_injective (List.append_cancel_left heq)

/-- No two parameters have the same name. -/
theorem nodup_names (count : Nat) (resumed : Bool) : (names count resumed).Nodup := by
  refine List.nodup_append.mpr ⟨nodup_referenceParams count, ?_, ?_⟩
  · cases resumed <;> decide
  · -- All other names are written out, so their first letters can be looked at.
    intro name hreference other hother heq
    have hhead : other.head? ≠ some 'o' := by
      clear heq
      revert other
      cases resumed <;> decide
    simp only [referenceParams, List.map_map, List.mem_map] at hreference
    obtain ⟨index, -, rfl⟩ := hreference
    exact text_referenceParam_ne hhead index heq

/-- The clauses use the references and the target twice. -/
theorem map_name_queryClauses (count : Nat) (resumed : Bool) :
    (queryClauses count resumed).map Clause.name
      = ((referenceParams count).map ParamName.text ++ [targetParam.text])
        ++ (((referenceParams count).map ParamName.text ++ [targetParam.text])
          ++ startParam.text :: endParam.text
            :: ((if resumed then [cursorParam.text] else []) ++ [limitParam.text])) := by
  cases resumed <;>
    simp only [queryClauses, List.map_append, List.map_cons, List.map_map, List.append_assoc,
      List.cons_append] <;>
    rfl

/-- The clauses use the names first in the order of `names`. -/
theorem firstUses_queryClauses (count : Nat) (resumed : Bool) :
    firstUses [] ((queryClauses count resumed).map Clause.name) = names count resumed := by
  have hnodup := nodup_names count resumed
  -- The target belongs to what is used twice.
  rw [names, ← List.singleton_append, ← List.append_assoc] at hnodup
  rw [map_name_queryClauses, firstUses_again hnodup, names, List.append_assoc,
    List.singleton_append]

/-! ### Values -/

/-- The parameters of a request with their values, in the order of their
numbers. -/
def entries (r : Request) (cursor : Option Instant) : List (Text × ParamValue) :=
  r.references.mapIdx (fun i browser => ((referenceParam i).text, .string browser))
    ++ (targetParam.text, .string r.target)
      :: (startParam.text, .timestamp r.window.start)
      :: (endParam.text, .timestamp r.window.stop)
      :: ((cursor.map fun t => (cursorParam.text, .timestamp t)).toList
        ++ [(limitParam.text, .int r.pageSize)])

/-- The statement of a request that goes on after an instant, or begins. -/
def built (r : Request) (cursor : Option Instant) : Statement where
  sql := queryText named r.references.length cursor.isSome
  params := params r cursor
  positionalSql :=
    queryText (numbered ((entries r cursor).map Prod.fst)) r.references.length cursor.isSome
  order := (entries r cursor).map Prod.fst

variable (r : Request) (cursor : Option Instant)

theorem map_fst_entries :
    (entries r cursor).map Prod.fst = names r.references.length cursor.isSome := by
  have hreferences : (r.references.mapIdx fun i browser =>
      ((referenceParam i).text, ParamValue.string browser)).map Prod.fst
        = (referenceParams r.references.length).map ParamName.text := by
    refine List.ext_getElem (by simp [referenceParams]) fun i _ _ => ?_
    simp [referenceParams]
  rw [entries, names, List.map_append, hreferences]
  cases cursor <;> rfl

theorem nodup_map_fst_entries : ((entries r cursor).map Prod.fst).Nodup := by
  rw [map_fst_entries]
  exact nodup_names _ _

/-- The parameters are put into their map in another order than that of their
numbers. -/
theorem params_eq_ofList :
    ∃ pairs, params r cursor = NameMap.ofList pairs ∧ pairs.Perm (entries r cursor) := by
  refine ⟨_, rfl, ?_⟩
  simp only [entries, List.append_assoc, List.singleton_append]
  refine List.Perm.trans (List.Perm.cons _ (List.Perm.append_left _ ?_)) List.perm_middle.symm
  exact List.perm_middle.trans (List.Perm.cons _ List.perm_middle)

/-- The parameters of a request are its entries. -/
theorem get?_params (name : Text) (value : ParamValue) :
    (params r cursor).get? name = some value ↔ (name, value) ∈ entries r cursor := by
  obtain ⟨pairs, hpairs, hperm⟩ := params_eq_ofList r cursor
  have hnodup : (pairs.map Prod.fst).Nodup :=
    (hperm.map Prod.fst).nodup_iff.mpr (nodup_map_fst_entries r cursor)
  rw [hpairs, get?_ofList_eq_some_iff hnodup, hperm.mem_iff]

/-- The statement of the query with the parameters of a request. -/
theorem ofSql_queryText :
    Statement.ofSql (queryText named r.references.length cursor.isSome) (params r cursor)
      = .ok (built r cursor) := by
  have hbound : ∀ c ∈ queryClauses r.references.length cursor.isSome,
      ((params r cursor).get? c.name).isSome = true := by
    intro c hc
    have hmem : c.name ∈ (entries r cursor).map Prod.fst := by
      rw [map_fst_entries, ← firstUses_queryClauses]
      exact mem_firstUses (List.mem_map_of_mem hc)
    obtain ⟨⟨name, value⟩, hentry, heq⟩ := List.mem_map.mp hmem
    rw [← heq, (get?_params r cursor name value).mpr hentry, Option.isSome_some]
  have hsql := ofSql_layout quiet_opening
    (clear_queryClauses r.references.length cursor.isSome) hbound
  rw [firstUses_queryClauses, ← map_fst_entries] at hsql
  exact hsql

/-- A statement's values take their numbers in the order of the entries. -/
theorem positionalParams_built :
    (built r cursor).positionalParams = (entries r cursor).map Prod.snd :=
  filterMap_get? fun pair hpair => (get?_params r cursor pair.1 pair.2).mpr hpair

/-! ### Statements -/

variable {r : Request} {maxPageSize : Nat}

/-- A request has a statement if it is acceptable and its token is, and it is
this one. -/
theorem statement_eq_ok_iff {s : Statement} :
    statement r maxPageSize = .ok s
      ↔ Acceptable r maxPageSize ∧ ∃ cursor, Resumes r cursor ∧ s = built r cursor := by
  simp only [statement, bind_eq_ok_iff, mapError_eq_ok_iff, template_eq, Except.ok.injEq,
    check_eq_ok_iff, cursor_eq_ok_iff]
  constructor
  · rintro ⟨-, hacceptable, cursor, hresumes, _, rfl, sql, hsql, hstatement⟩
    rw [render_template, Except.ok.injEq] at hsql
    rw [← hsql, ofSql_queryText] at hstatement
    exact ⟨hacceptable, cursor, hresumes, (Except.ok.inj hstatement).symm⟩
  · rintro ⟨hacceptable, cursor, hresumes, rfl⟩
    exact ⟨(), hacceptable, cursor, hresumes, _, rfl, _, render_template r cursor,
      ofSql_queryText r cursor⟩

/-- A request is rejected for its arguments, or for its token once the arguments
have passed. -/
inductive Rejected (r : Request) (maxPageSize : Nat) (e : Error) : Prop
  | arguments (hcheck : r.check maxPageSize = .error e)
  | token {u : Unit} (hcheck : r.check maxPageSize = .ok u) (hcursor : r.cursor = .error e)

/-- A request that has no statement is rejected, and with the same error. -/
theorem statement_eq_error_iff {e : Error} :
    statement r maxPageSize = .error e ↔ Rejected r maxPageSize e := by
  constructor
  · intro h
    cases hcheck : r.check maxPageSize with
    | error d =>
      simp only [statement, hcheck, error_bind] at h
      cases h
      exact .arguments hcheck
    | ok u =>
      cases hcursor : r.cursor with
      | error d =>
        simp only [statement, hcheck, hcursor, ok_bind, error_bind] at h
        cases h
        exact .token hcheck hcursor
      | ok cursor =>
        -- Past the checks, nothing can fail any more.
        have hok : statement r maxPageSize = .ok (built r cursor) :=
          statement_eq_ok_iff.mpr ⟨check_eq_ok_iff.mp hcheck, cursor,
            cursor_eq_ok_iff.mp hcursor, rfl⟩
        rw [hok] at h
        cases h
  · intro h
    cases h with
    | arguments hcheck => simp only [statement, hcheck, error_bind]
    | token hcheck hcursor => simp only [statement, hcheck, hcursor, ok_bind, error_bind]

/-- What keeps a request from having a statement is its arguments or its
token. -/
theorem clientError_of_statement {e : Error} (h : statement r maxPageSize = .error e) :
    (∃ fault, e = .invalidArgument fault) ∨ ∃ fault, e = .invalidCursor fault := by
  cases statement_eq_error_iff.mp h with
  | arguments hcheck => exact .inl (invalidArgument_of_check hcheck)
  | token _ hcursor => exact .inr (invalidCursor_of_cursor hcursor)

/-- Statements are exact for any number of references:

1. a request has a statement if and only if it is acceptable and its token is
   absent or names an instant of its window;
2. a request without one is refused for its arguments or its token, never for
   the template;
3. a statement binds the entries of the request and nothing else. Its text is
   the query with a clause for each reference in order, the list of references
   and target, and the clause for the cursor exactly if there was a token. The
   names it is sent under are numbered, and its values sent, in the order of
   the entries. -/
theorem statement_exact (r : Request) (maxPageSize : Nat) :
    ((∃ s, statement r maxPageSize = .ok s)
        ↔ Acceptable r maxPageSize ∧ ∃ cursor, Resumes r cursor)
      ∧ (∀ e, statement r maxPageSize = .error e →
          (∃ fault, e = .invalidArgument fault) ∨ ∃ fault, e = .invalidCursor fault)
      ∧ ∀ s, statement r maxPageSize = .ok s →
          ∃ cursor, Resumes r cursor
            ∧ (∀ name value, s.params.get? name = some value ↔ (name, value) ∈ entries r cursor)
            ∧ s.sql = queryText named r.references.length r.token.isSome
            ∧ s.positionalSql = queryText (numbered s.order) r.references.length r.token.isSome
            ∧ s.order = (entries r cursor).map Prod.fst
            ∧ s.positionalParams = (entries r cursor).map Prod.snd := by
  refine ⟨⟨fun ⟨s, hs⟩ => ?_, fun ⟨hacceptable, cursor, hresumes⟩ => ?_⟩,
    fun e => clientError_of_statement, fun s hs => ?_⟩
  · obtain ⟨hacceptable, cursor, hresumes, -⟩ := statement_eq_ok_iff.mp hs
    exact ⟨hacceptable, cursor, hresumes⟩
  · exact ⟨built r cursor, statement_eq_ok_iff.mpr ⟨hacceptable, cursor, hresumes, rfl⟩⟩
  · obtain ⟨-, cursor, hresumes, rfl⟩ := statement_eq_ok_iff.mp hs
    rw [← hresumes.isSome_eq]
    exact ⟨cursor, hresumes, get?_params r cursor, rfl, rfl, rfl, positionalParams_built r cursor⟩

end ReleaseLag.Proofs.Lagging
