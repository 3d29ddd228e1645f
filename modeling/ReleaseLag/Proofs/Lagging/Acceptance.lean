import ReleaseLag.Lagging.Request
import ReleaseLag.Proofs.Except

/-!
# `ReleaseLag.Proofs.Lagging.Acceptance`: which requests are served

`Request.check` stops at the first thing that is wrong with a request.
`check_eq_ok_iff` says what is right with one it lets through: the eight
fields of `Acceptable`, in no order. `cursor_eq_ok_iff` does the same for the
token: `Resumes` says that it is absent, or names an instant of the window
that the page before ended at. Whatever is wrong,
the fault is the request's own (`invalidArgument_of_check`,
`invalidCursor_of_cursor`).
-/

set_option autoImplicit false

namespace ReleaseLag.Proofs.Lagging

/-- The conditions on a request, the token apart. -/
structure Acceptable (r : Request) (maxPageSize : Nat) : Prop where
  target_ne_nil : r.target ≠ []
  references_ne_nil : r.references ≠ []
  reference_ne_nil : ∀ browser ∈ r.references, browser ≠ []
  nodup : r.references.Nodup
  target_not_mem : r.target ∉ r.references
  one_le_pageSize : 1 ≤ r.pageSize
  pageSize_le : r.pageSize ≤ maxPageSize
  start_lt_stop : r.window.start < r.window.stop

/-- The instant that a request goes on after, if it has a token: one that the
token is for and that lies in the window. -/
inductive Resumes (r : Request) : Option Instant → Prop
  | fresh (htoken : r.token = none) : Resumes r none
  | after {token : Text} {t : Instant} (htoken : r.token = some token)
      (hdecode : Cursor.decode token = .ok t) (hstart : r.window.start ≤ t)
      (hstop : t < r.window.stop) : Resumes r (some t)

/-- References pass if none is empty and none repeats another or one that was
seen before. -/
theorem checkReferences_eq_ok_iff {seen references : List Text} {u : Unit} :
    Request.checkReferences seen references = .ok u
      ↔ (∀ browser ∈ references, browser ≠ []) ∧ references.Nodup
        ∧ ∀ browser ∈ references, browser ∉ seen := by
  induction references generalizing seen with
  | nil => simp [Request.checkReferences]
  | cons browser rest ih =>
    rw [Request.checkReferences]
    by_cases hempty : browser = []
    · simp [hempty]
    · by_cases hseen : browser ∈ seen
      · simp [hempty, hseen]
      · rw [if_neg (by simpa using hempty), if_neg hseen, ih, List.forall_mem_cons,
          List.forall_mem_cons, List.nodup_cons]
        -- The browser itself counts as seen for those behind it.
        constructor
        · rintro ⟨hne, hnodup, hnew⟩
          have hnot : browser ∉ rest := fun hmem => hnew browser hmem List.mem_cons_self
          exact ⟨⟨hempty, hne⟩, ⟨hnot, hnodup⟩, hseen,
            fun other hmem hold => hnew other hmem (List.mem_cons_of_mem browser hold)⟩
        · rintro ⟨⟨-, hne⟩, ⟨hnot, hnodup⟩, -, hnew⟩
          refine ⟨hne, hnodup, fun other hmem hold => ?_⟩
          rcases List.mem_cons.mp hold with rfl | hold
          · exact hnot hmem
          · exact hnew other hmem hold

/-- The names of the browsers pass as the fields of `Acceptable` ask. -/
theorem checkBrowsers_eq_ok_iff {r : Request} {u : Unit} :
    r.checkBrowsers = .ok u
      ↔ r.target ≠ [] ∧ r.references ≠ [] ∧ (∀ browser ∈ r.references, browser ≠ [])
        ∧ r.references.Nodup ∧ r.target ∉ r.references := by
  unfold Request.checkBrowsers
  by_cases htarget : r.target = []
  · simp [htarget]
  · by_cases hsome : r.references = []
    · simp [htarget, hsome]
    · by_cases hmem : r.target ∈ r.references
      · simp [htarget, hsome, hmem, bind_eq_ok_iff]
      · simp [htarget, hsome, hmem, bind_eq_ok_iff, checkReferences_eq_ok_iff]

/-- The size of the page passes if it is between one and the maximum. -/
theorem checkPageSize_eq_ok_iff {r : Request} {maxPageSize : Nat} {u : Unit} :
    r.checkPageSize maxPageSize = .ok u ↔ 1 ≤ r.pageSize ∧ r.pageSize ≤ maxPageSize := by
  unfold Request.checkPageSize
  by_cases hzero : r.pageSize = 0
  · simp [hzero]
  · by_cases habove : maxPageSize < r.pageSize
    · simp [hzero, habove]
    · simp only [hzero, habove, if_false, pure_eq_ok, true_iff]
      omega

/-- A window passes if it begins before it ends. -/
theorem windowCheck_eq_ok_iff {w : Window} {u : Unit} :
    w.check = .ok u ↔ w.start < w.stop := by
  unfold Window.check
  by_cases hlt : w.start < w.stop
  · simp [hlt]
  · simp [hlt]

/-- A request passes exactly if it is acceptable. -/
theorem check_eq_ok_iff {r : Request} {maxPageSize : Nat} {u : Unit} :
    r.check maxPageSize = .ok u ↔ Acceptable r maxPageSize := by
  simp only [Request.check, bind_eq_ok_iff, mapError_eq_ok_iff, checkBrowsers_eq_ok_iff,
    checkPageSize_eq_ok_iff, windowCheck_eq_ok_iff]
  constructor
  · rintro ⟨-, ⟨htarget, hsome, hnamed, hnodup, hnot⟩, -, ⟨hone, hmax⟩, hwindow⟩
    exact ⟨htarget, hsome, hnamed, hnodup, hnot, hone, hmax, hwindow⟩
  · rintro ⟨htarget, hsome, hnamed, hnodup, hnot, hone, hmax, hwindow⟩
    exact ⟨(), ⟨htarget, hsome, hnamed, hnodup, hnot⟩, (), ⟨hone, hmax⟩, hwindow⟩

/-- What is wrong with a request, the token apart, is an argument. -/
theorem invalidArgument_of_check {r : Request} {maxPageSize : Nat} {e : Error}
    (h : r.check maxPageSize = .error e) : ∃ fault, e = .invalidArgument fault := by
  simp only [Request.check, bind_eq_error_iff, mapError_eq_error_iff] at h
  rcases h with ⟨fault, -, rfl⟩ | ⟨-, -, ⟨fault, -, rfl⟩ | ⟨-, -, hwindow⟩⟩
  · exact ⟨fault, rfl⟩
  · exact ⟨fault, rfl⟩
  · unfold Window.check at hwindow
    split at hwindow
    · cases hwindow
    · cases hwindow
      exact ⟨_, rfl⟩

/-- The cursor of a request is the instant that it goes on after. -/
theorem cursor_eq_ok_iff {r : Request} {cursor : Option Instant} :
    r.cursor = .ok cursor ↔ Resumes r cursor := by
  unfold Request.cursor
  constructor
  · intro h
    split at h
    · next htoken =>
      cases h
      exact .fresh htoken
    · next token htoken =>
      simp only [bind_eq_ok_iff, mapError_eq_ok_iff] at h
      obtain ⟨t, hdecode, hwindow⟩ := h
      split at hwindow
      · next hin =>
        cases hwindow
        simp only [Window.contains, Bool.and_eq_true, decide_eq_true_eq] at hin
        exact .after htoken hdecode hin.1 hin.2
      · cases hwindow
  · intro h
    cases h with
    | fresh htoken => rw [htoken]
    | after htoken hdecode hstart hstop =>
      have hin : r.window.contains _ = true :=
        Bool.and_eq_true_iff.mpr ⟨decide_eq_true hstart, decide_eq_true hstop⟩
      simp only [htoken, hdecode, mapError_ok, ok_bind, hin, if_true, pure_eq_ok]

/-- A request goes on after an instant exactly if it has a token. -/
theorem Resumes.isSome_eq {r : Request} {cursor : Option Instant} (h : Resumes r cursor) :
    cursor.isSome = r.token.isSome := by
  cases h with
  | fresh htoken => rw [htoken, Option.isSome_none, Option.isSome_none]
  | after htoken _ _ _ => rw [htoken, Option.isSome_some, Option.isSome_some]

/-- What is wrong with a token is a fault of the cursor. -/
theorem invalidCursor_of_cursor {r : Request} {e : Error} (h : r.cursor = .error e) :
    ∃ fault, e = .invalidCursor fault := by
  unfold Request.cursor at h
  split at h
  · cases h
  · simp only [bind_eq_error_iff, mapError_eq_error_iff] at h
    rcases h with ⟨fault, -, rfl⟩ | ⟨t, -, hwindow⟩
    · exact ⟨fault, rfl⟩
    · split at hwindow
      · cases hwindow
      · cases hwindow
        exact ⟨.outsideWindow, rfl⟩

end ReleaseLag.Proofs.Lagging
