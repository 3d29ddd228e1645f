import ReleaseLag.Proofs.Except
import ReleaseLag.Template.Render

/-!
# `ReleaseLag.Proofs.Template.Bindings`: data that keep to a schema

Before anything is rendered, the bindings of the data are held against the
schema one by one. `checkData_eq_ok_iff` says what passes, in terms of what is
found in the data rather than of the order of their entries.
-/

set_option autoImplicit false

namespace ReleaseLag.Proofs.Template

open ReleaseLag.Template

/-- Each field that the data bind is declared, and bound in its kind. -/
def Fits (schema : Schema) (data : Data) : Prop :=
  ∀ field binding, data.get? field = some binding →
    ∃ kind, schema.get? field = some kind ∧ binding.fits kind = true

/-- Entries pass if each of them does. -/
theorem checkData_entries_eq_ok_iff {schema : Schema} {entries : List (Text × Binding)} {u : Unit} :
    checkData schema entries = .ok u
      ↔ ∀ field binding, (field, binding) ∈ entries →
          ∃ kind, schema.get? field = some kind ∧ binding.fits kind = true := by
  induction entries with
  | nil => simp [checkData]
  | cons entry rest ih =>
    obtain ⟨name, bound⟩ := entry
    rw [checkData]
    cases hkind : schema.get? name with
    | none =>
      simp only [reduceCtorEq, false_iff]
      intro h
      obtain ⟨kind, hsome, -⟩ := h name bound List.mem_cons_self
      simp [hkind] at hsome
    | some kind =>
      by_cases hfits : bound.fits kind = true
      · simp only [hfits, if_true, ih]
        constructor
        · intro h field binding hmem
          rcases List.mem_cons.mp hmem with heq | hmem
          · cases heq
            exact ⟨kind, hkind, hfits⟩
          · exact h field binding hmem
        · intro h field binding hmem
          exact h field binding (List.mem_cons_of_mem _ hmem)
      · simp only [hfits, Bool.false_eq_true, if_false, reduceCtorEq, false_iff]
        intro h
        obtain ⟨other, hsome, hother⟩ := h name bound List.mem_cons_self
        rw [hkind] at hsome
        cases hsome
        exact hfits hother

/-- Data pass if they keep to the schema. -/
theorem checkData_eq_ok_iff {schema : Schema} {data : Data} {u : Unit} :
    checkData schema data.entries = .ok u ↔ Fits schema data := by
  rw [checkData_entries_eq_ok_iff]
  simp only [Fits, NameMap.get?_eq_some_iff]

/-- The fault of data that do not pass is one of their bindings'. -/
theorem fault_of_checkData {schema : Schema} {entries : List (Text × Binding)} {e : Template.Error}
    (h : checkData schema entries = .error e) :
    ∃ field, e.fault = .undeclaredBinding field ∨ ∃ kind, e.fault = .wrongBinding field kind := by
  induction entries with
  | nil => cases h
  | cons entry rest ih =>
    obtain ⟨field, binding⟩ := entry
    rw [checkData] at h
    split at h
    · cases h
      exact ⟨field, .inl rfl⟩
    · next kind _ =>
      split at h
      · exact ih h
      · cases h
        exact ⟨field, .inr ⟨kind, rfl⟩⟩

/-- Some binding is for a field that is not declared, or not of its kind. -/
def Misfits (schema : Schema) (data : Data) : Prop :=
  ∃ field binding, data.get? field = some binding
    ∧ (schema.get? field = none ∨ ∃ kind, schema.get? field = some kind ∧ binding.fits kind = false)

/-- Data keep to a schema unless some binding does not. -/
theorem not_misfits_iff {schema : Schema} {data : Data} :
    ¬Misfits schema data ↔ Fits schema data := by
  simp only [Fits, Misfits, not_exists, not_and, not_or, Bool.not_eq_false]
  refine forall_congr' fun field => forall_congr' fun binding => forall_congr' fun _ => ?_
  cases schema.get? field <;> simp

/-! ### What a field is bound to -/

section

variable {schema : Schema} {data : Data} {field : Text}

theorem binding_of_none (h : data.get? field = none) : data.binding field = .absent := by
  rw [Data.binding, h, Option.getD_none]

theorem binding_of_some {binding : Binding} (h : data.get? field = some binding) :
    data.binding field = binding := by
  rw [Data.binding, h, Option.getD_some]

/-- A binding that is found fits the kind that is declared. -/
theorem fits_of_get? (hfits : Fits schema data) {kind : FieldKind} {binding : Binding}
    (hkind : schema.get? field = some kind) (hbinding : data.get? field = some binding) :
    binding.fits kind = true := by
  obtain ⟨other, hother, hfit⟩ := hfits field binding hbinding
  rw [hkind] at hother
  cases hother
  exact hfit

/-- A scalar that is bound is bound to a name. -/
theorem exists_name_of_scalar (hfits : Fits schema data) (hkind : schema.get? field = some .scalar)
    (hbound : data.get? field ≠ none) : ∃ n, data.binding field = .name n := by
  obtain ⟨binding, hbinding⟩ := Option.ne_none_iff_exists'.mp hbound
  have hfit := fits_of_get? hfits hkind hbinding
  cases binding with
  | name n => exact ⟨n, binding_of_some hbinding⟩
  | names ns => cases hfit
  | absent => cases hfit

/-- A list that is bound is bound to names. -/
theorem exists_names_of_list (hfits : Fits schema data) (hkind : schema.get? field = some .list)
    (hbound : data.get? field ≠ none) : ∃ ns, data.binding field = .names ns := by
  obtain ⟨binding, hbinding⟩ := Option.ne_none_iff_exists'.mp hbound
  have hfit := fits_of_get? hfits hkind hbinding
  cases binding with
  | name n => cases hfit
  | names ns => exact ⟨ns, binding_of_some hbinding⟩
  | absent => cases hfit

/-- An optional field that is present is bound to a name. -/
theorem exists_name_of_isPresent (hfits : Fits schema data)
    (hkind : schema.get? field = some .optional) (hpresent : data.isPresent field = true) :
    ∃ n, data.binding field = .name n := by
  cases hbinding : data.get? field with
  | none => simp [Data.isPresent, binding_of_none hbinding] at hpresent
  | some binding =>
    have hfit := fits_of_get? hfits hkind hbinding
    cases binding with
    | name n => exact ⟨n, binding_of_some hbinding⟩
    | names ns => cases hfit
    | absent => simp [Data.isPresent, binding_of_some hbinding] at hpresent

end

end ReleaseLag.Proofs.Template
