import ReleaseLag.Proofs.Lagging.QueryText
import ReleaseLag.Proofs.Template.Rendering

/-!
# `ReleaseLag.Proofs.Lagging.Rendering`: the template renders to the query

The data of a request bind each field of the template in its kind
(`fits_data`), so nothing about a request can make rendering fail.
`render_template` says what comes out: the query for the number of references
and for a cursor or none, whatever the values of the request are.
-/

set_option autoImplicit false

namespace ReleaseLag.Proofs.Lagging

open ReleaseLag.Lagging
open ReleaseLag.Template
open ReleaseLag.Proofs.Statement
open ReleaseLag.Proofs.Template

variable (r : Request) (cursor : Option Instant)

/-- What the data of a request bind to a field. -/
theorem get?_data (field : Text) :
    (data r cursor).get? field
      = if field = cursorField then some (.ofOption (cursor.map fun _ => cursorParam))
        else if field = referencesField then some (.names (referenceParams r.references.length))
        else if field = targetField then some (.name targetParam)
        else none := by
  show (((NameMap.empty.insert targetField _).insert referencesField _).insert cursorField _).get? field
    = _
  rw [NameMap.get?_insert, NameMap.get?_insert, NameMap.get?_insert, NameMap.get?_empty]

theorem binding_target : (data r cursor).binding targetField = .name targetParam := by
  have hcursor : targetField ≠ cursorField := by decide
  have hreferences : targetField ≠ referencesField := by decide
  rw [Data.binding, get?_data, if_neg hcursor, if_neg hreferences, if_pos rfl, Option.getD_some]

theorem binding_references :
    (data r cursor).binding referencesField = .names (referenceParams r.references.length) := by
  have hcursor : referencesField ≠ cursorField := by decide
  rw [Data.binding, get?_data, if_neg hcursor, if_pos rfl, Option.getD_some]

theorem binding_cursor :
    (data r cursor).binding cursorField = .ofOption (cursor.map fun _ => cursorParam) := by
  rw [Data.binding, get?_data, if_pos rfl, Option.getD_some]

/-- Every field is bound in its kind. -/
theorem fits_data : Fits schema (data r cursor) := by
  intro field binding h
  rw [get?_data] at h
  split at h
  · next hfield =>
    cases h
    refine ⟨.optional, by rw [hfield]; rfl, ?_⟩
    cases cursor <;> rfl
  · split at h
    · next hfield =>
      cases h
      exact ⟨.list, by rw [hfield]; rfl, rfl⟩
    · split at h
      · next hfield =>
        cases h
        exact ⟨.scalar, by rw [hfield]; rfl, rfl⟩
      · cases h

/-- The text of a clause, cut where its name begins and ends. -/
theorem spell_named (c : Clause) : c.spell named = c.before ++ ['@'] ++ (c.name ++ c.after) := by
  simp [Clause.spell, named]

/-- The body of a range is the clause of each name. -/
theorem render_clause {data : Data} {vars : List (Text × ParamName)} {var : Text} {n : ParamName}
    {c : Clause} (position : Nat) (hname : c.name = n.text) (hvar : vars.lookup var = some n) :
    renderAll data vars [.text (c.before ++ ['@']), .var var position, .text c.after]
      = .ok (c.spell named) := by
  rw [spell_named, hname, renderAll_cons_ok rfl (renderAll_cons_ok (render_var_ok position hvar)
    (renderAll_cons_ok rfl rfl)), List.append_nil]

/-- The block for the cursor is its clause, or nothing. -/
theorem render_cursor :
    (Node.cond cursorField
        [.text ((beforeCursor []).before ++ ['@']), .field cursorField 1699,
          .text (beforeCursor []).after] 1637).render (data r cursor) []
      = .ok (((if cursor.isSome then [beforeCursor cursorParam.text] else []) :
          List Clause).flatMap (Clause.spell named)) := by
  have hbinding := binding_cursor r cursor
  cases cursor with
  | none =>
    have habsent : (data r none).isPresent cursorField = false := by rw [Data.isPresent, hbinding]; rfl
    rw [Node.render, habsent]
    rfl
  | some t =>
    have hpresent : (data r (some t)).isPresent cursorField = true := by
      rw [Data.isPresent, hbinding]
      rfl
    have hclause := spell_named (beforeCursor cursorParam.text)
    rw [Node.render, if_pos hpresent, renderAll_cons_ok rfl (renderAll_cons_ok
      (render_field_ok 1699 hbinding) (renderAll_cons_ok rfl rfl))]
    simp only [Option.isSome_some, if_true, List.flatMap_cons, List.flatMap_nil, List.append_nil,
      hclause]
    rfl

/-- The range for the reference browsers is a clause for each of them. -/
theorem render_available :
    (Node.each browserVar referencesField
        [.text ((availableIn []).before ++ ['@']), .var browserVar 653,
          .text (availableIn []).after] 249).render (data r cursor) []
      = .ok ((referenceParams r.references.length).flatMap fun n =>
          (availableIn n.text).spell named) := by
  refine render_each_ok 249 (binding_references r cursor) fun n _ => ?_
  exact render_clause (c := availableIn n.text) 653 rfl List.lookup_cons_self

/-- The range for the list of browsers is a clause for each of them. -/
theorem render_listed :
    (Node.each paramVar referencesField
        [.text ['@'], .var paramVar 1498, .text (listed []).after] 1458).render (data r cursor) []
      = .ok ((referenceParams r.references.length).flatMap fun n => (listed n.text).spell named) := by
  refine render_each_ok 1458 (binding_references r cursor) fun n _ => ?_
  exact render_clause (c := listed n.text) 1498 rfl List.lookup_cons_self

/-- The nodes of the template render to the query. -/
theorem renderAll_skeletonNodes :
    renderAll (data r cursor) [] skeletonNodes
      = .ok (queryText named r.references.length cursor.isSome) := by
  have htarget := binding_target r cursor
  have hmissing := spell_named (missingFrom targetParam.text)
  have hlast := spell_named (listedLast targetParam.text)
  rw [skeletonNodes, renderAll_cons_ok rfl (renderAll_cons_ok (render_available r cursor)
    (renderAll_cons_ok rfl (renderAll_cons_ok (render_field_ok 1237 htarget) (renderAll_cons_ok rfl
    (renderAll_cons_ok (render_listed r cursor) (renderAll_cons_ok rfl (renderAll_cons_ok
    (render_field_ok 1520 htarget) (renderAll_cons_ok rfl (renderAll_cons_ok (render_cursor r cursor)
    (renderAll_cons_ok rfl rfl))))))))))]
  rw [queryText, layout, queryClauses]
  simp only [List.flatMap_append, List.flatMap_cons, List.flatMap_nil, List.flatMap_map, hmissing,
    hlast, List.append_assoc, List.append_nil]
  rfl

/-- Rendering the template for a request gives the query. -/
theorem render_template :
    Template.render ⟨skeletonNodes, schema⟩ (data r cursor)
      = .ok (queryText named r.references.length cursor.isSome) := by
  have hchecked : checkData schema (data r cursor).entries = .ok () :=
    checkData_eq_ok_iff.mpr (fits_data r cursor)
  rw [Template.render, hchecked, ok_bind, renderAll_skeletonNodes]

end ReleaseLag.Proofs.Lagging
