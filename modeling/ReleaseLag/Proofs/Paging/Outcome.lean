import ReleaseLag.Paging.Outcome
import ReleaseLag.Proofs.Except

/-!
# `ReleaseLag.Proofs.Paging.Outcome`: outcomes taken apart

Putting work off moves its end and nothing else (`delay_eq_after_iff`).
Changing the result changes a good one and keeps an error (`map_eq_ok_iff`,
`map_eq_error_iff`). So the two can be done in either order, and each of them
twice is once (`map_delay`, `delay_delay`, `map_map`). A time limit lets through
what comes in time, and the only error it adds is that of its own
(`within_eq_ok`, `within_eq_error`).
-/

set_option autoImplicit false

namespace ReleaseLag.Proofs.Paging

variable {α β : Type} {ms t : Nat} {work : Outcome α}

/-- Work that was put off ends so much later, as it would have. -/
theorem delay_eq_after_iff {result : Except Error α} :
    work.delay ms = .after t result ↔ ∃ s, work = .after s result ∧ ms + s = t := by
  cases work with
  | never => simp [Outcome.delay]
  | after s r => simp [Outcome.delay, and_assoc, and_comm]

/-- A good result that was changed was another good result. -/
theorem map_eq_ok_iff {f : α → β} {b : β} :
    work.map f = .after t (.ok b) ↔ ∃ a, work = .after t (.ok a) ∧ f a = b := by
  cases work with
  | never => simp [Outcome.map]
  | after s r =>
    cases r with
    | error e => simp [Outcome.map, Except.map]
    | ok a => simp [Outcome.map, Except.map, and_assoc]

/-- An error is not changed. -/
theorem map_eq_error_iff {f : α → β} {e : Error} :
    work.map f = .after t (.error e) ↔ work = .after t (.error e) := by
  cases work with
  | never => simp [Outcome.map]
  | after s r =>
    cases r with
    | error d => simp [Outcome.map, Except.map]
    | ok a => simp [Outcome.map, Except.map]

/-- Work that keeps to the limit is not given up. -/
theorem within_of_le {limit : Option Nat} {result : Except Error α}
    (h : ∀ most ∈ limit, ms ≤ most) : (Outcome.after ms result).within limit = .after ms result := by
  cases limit with
  | none => rfl
  | some most => exact if_pos (h most rfl)

/-- A good result under a limit is that of the work. -/
theorem within_eq_ok {limit : Option Nat} {a : α} (h : work.within limit = .after t (.ok a)) :
    work = .after t (.ok a) := by
  cases limit with
  | none => exact h
  | some most =>
    cases work with
    | never => cases h
    | after s r =>
      rw [Outcome.within] at h
      split at h
      · exact h
      · cases h

/-- An error under a limit is that of the work, or that of the limit. -/
theorem within_eq_error {limit : Option Nat} {e : Error}
    (h : work.within limit = .after t (.error e)) :
    work = .after t (.error e) ∨ e = .queryExecution .elapsed := by
  cases limit with
  | none => exact .inl h
  | some most =>
    cases work with
    | never =>
      cases h
      exact .inr rfl
    | after s r =>
      rw [Outcome.within] at h
      split at h
      · exact .inl h
      · cases h
        exact .inr rfl

/-- Work that was put off twice was put off for both times. -/
theorem delay_delay (work : Outcome α) (ms later : Nat) :
    (work.delay later).delay ms = work.delay (ms + later) := by
  cases work with
  | never => rfl
  | after s r => simp only [Outcome.delay, Nat.add_assoc]

/-- When work begins has no part in what its result is changed to. -/
theorem map_delay (work : Outcome α) (f : α → β) (ms : Nat) :
    (work.delay ms).map f = (work.map f).delay ms := by
  cases work <;> rfl

/-- A result that is changed twice is changed once, by both. -/
theorem map_map {γ : Type} (work : Outcome α) (f : α → β) (g : β → γ) :
    (work.map f).map g = work.map (g ∘ f) := by
  cases work with
  | never => rfl
  | after s r => cases r <;> rfl

/-- Nothing read in no time changes no outcome. -/
theorem after_nothing (work : Outcome (List α)) : (work.map ([] ++ ·)).delay 0 = work := by
  cases work with
  | never => rfl
  | after s r => cases r <;> simp [Outcome.map, Outcome.delay, Except.map]

/-- What is read first comes first, and the times add up. -/
theorem after_both (first second : List α) (ms later : Nat) (work : Outcome (List α)) :
    (((work.map (second ++ ·)).delay later).map (first ++ ·)).delay ms
      = (work.map ((first ++ second) ++ ·)).delay (ms + later) := by
  rw [map_delay, map_map, delay_delay]
  simp only [Function.comp_def, List.append_assoc]

end ReleaseLag.Proofs.Paging
