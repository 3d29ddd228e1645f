import Mathlib.Logic.Basic

/-!
# `ReleaseLag.Proofs.Except`: steps that may fail, one after the other

A computation in steps succeeds if each step does (`bind_eq_ok_iff`), and its
error is that of the first step that fails (`bind_eq_error_iff`). Renaming
the errors of a step changes neither (`mapError_eq_ok_iff`,
`mapError_eq_error_iff`). Later modules take functions apart by these four
and unfold no `Except`. A loop over a list breaks off at the first element
that fails, and it has gone through those in front of it (`foldlM_eq_error`).
-/

set_option autoImplicit false

namespace ReleaseLag.Proofs

variable {ε δ α β : Type}

@[simp] theorem ok_bind (a : α) (f : α → Except ε β) : (Except.ok a >>= f) = f a := rfl

@[simp] theorem error_bind (e : ε) (f : α → Except ε β) :
    ((Except.error e : Except ε α) >>= f) = .error e := rfl

@[simp] theorem mapError_ok (f : ε → δ) (a : α) : (Except.ok a).mapError f = .ok a := rfl

@[simp] theorem mapError_error (f : ε → δ) (e : ε) :
    (Except.error e : Except ε α).mapError f = .error (f e) := rfl

@[simp] theorem pure_eq_ok (a : α) : (pure a : Except ε α) = .ok a := rfl

@[simp] theorem throw_eq_error (e : ε) : (throw e : Except ε α) = .error e := rfl

/-- Steps succeed if the first does and then the others do. -/
theorem bind_eq_ok_iff {x : Except ε α} {f : α → Except ε β} {b : β} :
    x >>= f = .ok b ↔ ∃ a, x = .ok a ∧ f a = .ok b := by
  cases x with
  | error e => simp
  | ok a => simp

/-- The error of steps is that of the first that fails. -/
theorem bind_eq_error_iff {x : Except ε α} {f : α → Except ε β} {e : ε} :
    x >>= f = .error e ↔ x = .error e ∨ ∃ a, x = .ok a ∧ f a = .error e := by
  cases x with
  | error d => simp
  | ok a => simp

/-- Renaming errors keeps results. -/
theorem mapError_eq_ok_iff {x : Except ε α} {f : ε → δ} {a : α} :
    x.mapError f = .ok a ↔ x = .ok a := by
  cases x with
  | error e => simp
  | ok b => simp

/-- A renamed error comes from one with the old name. -/
theorem mapError_eq_error_iff {x : Except ε α} {f : ε → δ} {e : δ} :
    x.mapError f = .error e ↔ ∃ d, x = .error d ∧ f d = e := by
  cases x with
  | error d => simp
  | ok b => simp

/-- A step for each element of a list gives a result for each. -/
theorem mapM_eq_ok {f : α → Except ε β} {g : α → β} {l : List α} (h : ∀ a ∈ l, f a = .ok (g a)) :
    l.mapM f = .ok (l.map g) := by
  induction l with
  | nil => rfl
  | cons a l ih =>
    obtain ⟨ha, hl⟩ := List.forall_mem_cons.mp h
    rw [List.mapM_cons, ha, ok_bind, ih hl, ok_bind, pure_eq_ok, List.map_cons]

/-- Steps through a list break off at the first element whose step fails. -/
theorem foldlM_eq_error {f : β → α → Except ε β} {l : List α} {b : β} {e : ε}
    (h : l.foldlM f b = .error e) : ∃ front a back c, l = front ++ a :: back
      ∧ front.foldlM f b = .ok c ∧ f c a = .error e := by
  induction l generalizing b with
  | nil => cases h
  | cons a l ih =>
    rw [List.foldlM_cons] at h
    rcases bind_eq_error_iff.mp h with hfirst | ⟨c, hfirst, hlater⟩
    · exact ⟨[], a, l, b, rfl, rfl, hfirst⟩
    · obtain ⟨front, d, back, c', rfl, hfront, hfails⟩ := ih hlater
      refine ⟨a :: front, d, back, c', rfl, ?_, hfails⟩
      rw [List.foldlM_cons, hfirst, ok_bind, hfront]

/-- Results can be compared where errors cannot. -/
theorem toOption_eq_some_iff {x : Except ε α} {a : α} : x.toOption = some a ↔ x = .ok a := by
  cases x with
  | error e => simp [Except.toOption]
  | ok b => simp [Except.toOption]

end ReleaseLag.Proofs
