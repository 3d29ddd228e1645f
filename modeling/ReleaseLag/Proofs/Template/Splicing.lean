import ReleaseLag.Proofs.Template.Printing

/-!
# `ReleaseLag.Proofs.Template.Splicing`: sources one behind the other

A source can be cut in front of any of its actions: the part in front is a
source of the tokens in front (`exists_cut_of_spelled`). In the other direction
it matters only how the source ends: in front of its last run of text, any
source can go on (`exists_run_of_spelled`). So a source that begins with an
action can stand behind any source that does not end in an opening brace, and
the tokens are those of the one and then those of the other
(`spelled_append`). Cutting and joining go through the source action by action,
since the position of a token counts all bytes in front of it.
-/

set_option autoImplicit false

namespace ReleaseLag.Proofs.Template

open ReleaseLag.Template

/-- The bytes up to the end of what stands behind an action. -/
theorem size_behind (lead body rest : Text) :
    Text.size (lead ++ ['{', '{'] ++ body ++ ['}', '}'] ++ rest)
      = Text.size lead + Text.size body + 4 + Text.size rest := by
  have hbraces : Text.size ['{', '{'] = 2 ∧ Text.size ['}', '}'] = 2 := by decide
  simp only [Text.size_append, hbraces]
  omega

/-! ### Cutting -/

/-- A run of text has no action among its tokens. -/
theorem action_not_mem_ofText {s : Text} {a : Action} {p : Nat} :
    Token.action a p ∉ Token.ofText s := by
  unfold Token.ofText
  split <;> simp

/-- An action behind a run of text and its action is that action or stands
behind it. -/
theorem split_of_ofText {s : Text} {a b : Action} {p q : Nat} {front back later : List Token}
    (h : Token.ofText s ++ .action b q :: later = front ++ .action a p :: back) :
    (front = Token.ofText s ∧ a = b ∧ p = q ∧ back = later)
      ∨ ∃ between, front = Token.ofText s ++ .action b q :: between
        ∧ later = between ++ .action a p :: back := by
  rcases List.append_eq_append_iff.mp h with ⟨between, rfl, hbehind⟩ | ⟨between, hrun, hbehind⟩
  · cases between with
    | nil =>
      cases hbehind
      exact .inl ⟨List.append_nil _, rfl, rfl, rfl⟩
    | cons token between =>
      obtain ⟨rfl, hlater⟩ := List.cons.inj hbehind
      exact .inr ⟨between, rfl, hlater⟩
  · cases between with
    | nil =>
      cases hbehind
      exact .inl ⟨by simpa using hrun.symm, rfl, rfl, rfl⟩
    | cons token between =>
      obtain ⟨rfl, -⟩ := List.cons.inj hbehind
      have hmem : .action a p ∈ Token.ofText s := by rw [hrun]; simp
      exact absurd hmem action_not_mem_ofText

/-- A source is cut in front of an action: what is in front has the tokens in
front, and what is behind begins with the braces of the action. -/
theorem exists_cut_of_spelled {position p : Nat} {s : Text} {a : Action} {front back : List Token}
    (h : Spelled position s (front ++ .action a p :: back)) :
    ∃ before after, s = before ++ after ∧ p = position + Text.size before
      ∧ Spelled position before front ∧ ['{', '{'] <+: after := by
  generalize htokens : front ++ .action a p :: back = tokens at h
  -- On the way to the action, each action in front of it goes to the front part.
  induction h generalizing front with
  | @last position s hopen hclose =>
    have hmem : .action a p ∈ Token.ofText s := by rw [← htokens]; simp
    exact absurd hmem action_not_mem_ofText
  | @action position lead body rest b later hopen hclose hbody _ ih =>
    rcases split_of_ofText htokens.symm with ⟨rfl, -, rfl, -⟩ | ⟨between, rfl, hlater⟩
    · have hlead : Spelled position lead (Token.ofText lead) := .last (not_pair_left hopen) hclose
      exact ⟨lead, ['{', '{'] ++ body ++ ['}', '}'] ++ rest, by simp, rfl, hlead,
        ⟨body ++ ['}', '}'] ++ rest, by simp⟩⟩
    · obtain ⟨before, after, rfl, rfl, hbefore, hbraces⟩ := ih hlater.symm
      refine ⟨lead ++ ['{', '{'] ++ body ++ ['}', '}'] ++ before, after, by simp, ?_,
        .action hopen hclose hbody hbefore, hbraces⟩
      rw [size_behind]
      omega

/-! ### Joining -/

/-- A source ends in a run of text, and what stands in front of that run can
stand in front of any source. -/
theorem exists_run_of_spelled {position : Nat} {s : Text} {tokens : List Token}
    (h : Spelled position s tokens) : ∃ lead run front, s = lead ++ run
      ∧ tokens = front ++ Token.ofText run ∧ ¬['{', '{'] <:+: run ∧ ¬['}', '}'] <:+: run
      ∧ ∀ rest later, Spelled (position + Text.size lead) rest later →
        Spelled position (lead ++ rest) (front ++ later) := by
  induction h with
  | @last position s hopen hclose =>
    exact ⟨[], s, [], rfl, rfl, hopen, hclose, fun rest later hrest => hrest⟩
  | @action position text body behind a tokens hopen hclose hbody _ ih =>
    obtain ⟨lead, run, front, rfl, rfl, hrunOpen, hrunClose, hgoes⟩ := ih
    refine ⟨text ++ ['{', '{'] ++ body ++ ['}', '}'] ++ lead, run,
      Token.ofText text ++ .action a (position + Text.size text) :: front, by simp, by simp,
      hrunOpen, hrunClose, ?_⟩
    intro rest later hrest
    rw [size_behind, ← Nat.add_assoc, ← Nat.add_assoc, ← Nat.add_assoc] at hrest
    have hspelled := Spelled.action hopen hclose hbody (hgoes rest later hrest)
    simpa using hspelled

/-- A source in front of one that begins with an action. -/
theorem spelled_append {position : Nat} {s rest : Text} {tokens later : List Token}
    (h : Spelled position s tokens) (hlast : s.getLast? ≠ some '{') (hbraces : ['{', '{'] <+: rest)
    (hrest : Spelled (position + Text.size s) rest later) :
    Spelled position (s ++ rest) (tokens ++ later) := by
  -- Only the last run can end the source, and it must not take a brace from the rest.
  obtain ⟨lead, run, front, rfl, rfl, hopen, hclose, hgoes⟩ := exists_run_of_spelled h
  have hend : run.getLast? ≠ some '{' := by
    intro hend
    refine hlast ?_
    rw [List.getLast?_append, hend]
    rfl
  rw [Text.size_append, ← Nat.add_assoc] at hrest
  have hspelled := hgoes _ _ (spelled_run hopen hclose hend hbraces hrest)
  rwa [← List.append_assoc, ← List.append_assoc] at hspelled

/-- Ends, one after the other. -/
def ends (n : Nat) : Text :=
  (List.replicate n Action.close.print).flatten

/-- Ends are a source of ends. -/
theorem spelled_ends (position n : Nat) : ∃ positions : List Nat, positions.length = n
    ∧ Spelled position (ends n) (positions.map (Token.action .close)) := by
  induction n generalizing position with
  | zero =>
    have hnone : Spelled position [] [] := .last (by decide) (by decide)
    exact ⟨[], rfl, hnone⟩
  | succ n ih =>
    obtain ⟨positions, hlength, hspelled⟩ := ih (position + Text.size Action.close.print)
    have hclose : Named .close := trivial
    exact ⟨position :: positions, congrArg Nat.succ hlength, spelled_action hclose hspelled⟩

end ReleaseLag.Proofs.Template
