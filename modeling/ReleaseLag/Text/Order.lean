import ReleaseLag.Text.Basic

/-!
# `ReleaseLag.Text.Order`: which of two texts comes first

Texts are ordered by their first differing character, and a text comes before
those that continue it. UTF-8 keeps the order of characters, so this is also
the order of the bytes. The order is strict (`not_before_self`,
`before_trans`), and of two different texts one comes first
(`before_of_not_before`).
-/

set_option autoImplicit false

namespace ReleaseLag.Text

/-- Whether a text comes before another. -/
def before : Text → Text → Bool
  | _, [] => false
  | [], _ :: _ => true
  | a :: s, b :: t => a < b || (a = b && before s t)

/-- Texts with a first character each are ordered by it, and by what follows
if it is the same. -/
theorem before_cons_cons {a b : Char} {s t : Text} :
    before (a :: s) (b :: t) ↔ a < b ∨ a = b ∧ before s t := by
  simp [before]

/-- No text comes before itself. -/
theorem not_before_self (s : Text) : ¬before s s := by
  induction s with
  | nil => simp [before]
  | cons c s ih =>
    intro h
    rcases before_cons_cons.mp h with hlt | ⟨_, hbefore⟩
    · exact Char.lt_irrefl c hlt
    · exact ih hbefore

/-- What comes before a text comes before all that the text comes before. -/
theorem before_trans {s t u : Text} (hst : before s t) (htu : before t u) : before s u := by
  induction s generalizing t u with
  | nil =>
    cases u with
    | nil => simp [before] at htu
    | cons => rfl
  | cons a s ih =>
    cases t with
    | nil => simp [before] at hst
    | cons b t =>
      cases u with
      | nil => simp [before] at htu
      | cons c u =>
        refine before_cons_cons.mpr ?_
        rcases before_cons_cons.mp hst with hab | ⟨rfl, hst'⟩
        · rcases before_cons_cons.mp htu with hbc | ⟨rfl, _⟩
          · exact .inl (Char.lt_trans hab hbc)
          · exact .inl hab
        · rcases before_cons_cons.mp htu with hbc | ⟨rfl, htu'⟩
          · exact .inl hbc
          · exact .inr ⟨rfl, ih hst' htu'⟩

/-- Of two different texts one comes first. -/
theorem before_of_not_before {s t : Text} (hne : s ≠ t) (h : ¬before s t) : before t s := by
  induction s generalizing t with
  | nil =>
    cases t with
    | nil => exact absurd rfl hne
    | cons => exact absurd rfl h
  | cons a s ih =>
    cases t with
    | nil => rfl
    | cons b t =>
      refine before_cons_cons.mpr ?_
      have hnlt : ¬a < b := fun hlt => h (before_cons_cons.mpr (.inl hlt))
      by_cases heq : b = a
      · subst heq
        have hst : s ≠ t := fun hst => hne (by rw [hst])
        exact .inr ⟨rfl, ih hst fun hs => h (before_cons_cons.mpr (.inr ⟨rfl, hs⟩))⟩
      · refine .inl (Char.not_le.mp fun hle => heq ?_)
        exact Char.le_antisymm (Char.not_lt.mp hnlt) hle

end ReleaseLag.Text
