import ReleaseLag.Text.Basic

/-!
# `ReleaseLag.Text.Pair`: two of a kind in a row

`cutPair` cuts a text at the first place where a character stands twice in a
row. `cutPair_eq_none_iff` and `cutPair_eq_some_iff` say which texts have no
such place and that no earlier one is passed over: not even the character
that ends the part before and the first one of the pair make a pair.
`pair_infix_append_iff` says where the pairs of two joined texts come from.
-/

set_option autoImplicit false

namespace ReleaseLag.Text

/-- The text up to the first place where `c` stands twice in a row, and what
follows that pair. -/
def cutPair (c : Char) : Text → Option (Text × Text)
  | a :: b :: rest =>
    if a = c ∧ b = c then some ([], rest)
    else (cutPair c (b :: rest)).map fun (before, after) => (a :: before, after)
  | _ => none

/-- A pair in a text that begins with two characters is made of these or lies
behind the first. -/
theorem pair_infix_cons_iff {c a b : Char} {rest : Text} :
    [c, c] <:+: a :: b :: rest ↔ (a = c ∧ b = c) ∨ [c, c] <:+: b :: rest := by
  rw [List.infix_cons_iff, List.cons_prefix_cons, List.cons_prefix_cons]
  simp [eq_comm]

/-- A pair in two texts, one behind the other, lies in one of them or is made
where they meet. -/
theorem pair_infix_append_iff {c : Char} {s t : Text} :
    [c, c] <:+: s ++ t
      ↔ [c, c] <:+: s ∨ [c, c] <:+: t ∨ (s.getLast? = some c ∧ t.head? = some c) := by
  rw [List.infix_append_iff]
  constructor
  · rintro (hpair | hpair | ⟨front, back, hsplit, hfront, hback⟩)
    · exact .inl hpair
    · exact .inr (.inl hpair)
    · -- The pair is cut in front of it, between its two, or behind it.
      rcases front with _ | ⟨a, _ | ⟨b, front⟩⟩
      · exact .inr (.inl (hsplit ▸ hback.isInfix))
      · obtain ⟨rfl, rfl⟩ : c = a ∧ [c] = back := by simpa using hsplit
        exact .inr (.inr ⟨List.singleton_suffix_iff_getLast?_eq_some.mp hfront,
          List.singleton_prefix_iff_head?_eq_some.mp hback⟩)
      · obtain ⟨rfl, rfl, rfl, rfl⟩ : c = a ∧ c = b ∧ front = [] ∧ back = [] := by
          simpa using hsplit
        exact .inl hfront.isInfix
  · rintro (hpair | hpair | ⟨hlast, hfirst⟩)
    · exact .inl hpair
    · exact .inr (.inl hpair)
    · exact .inr (.inr ⟨[c], [c], rfl, List.singleton_suffix_iff_getLast?_eq_some.mpr hlast,
        List.singleton_prefix_iff_head?_eq_some.mpr hfirst⟩)

/-- Two texts without a pair have none together if they do not meet in `c`. -/
theorem not_pair_append {c : Char} {s t : Text} (hs : ¬[c, c] <:+: s) (ht : ¬[c, c] <:+: t)
    (hmeet : ¬(s.getLast? = some c ∧ t.head? = some c)) : ¬[c, c] <:+: s ++ t := by
  rw [pair_infix_append_iff]
  rintro (hinside | hinside | hends)
  · exact hs hinside
  · exact ht hinside
  · exact hmeet hends

/-- There is no place to cut if and only if there is no pair. -/
theorem cutPair_eq_none_iff {c : Char} {s : Text} : cutPair c s = none ↔ ¬[c, c] <:+: s := by
  fun_induction cutPair c s with
  | case1 a b rest h => simp [pair_infix_cons_iff, h]
  | case2 a b rest h ih => simp [pair_infix_cons_iff, h, ih]
  | case3 s h =>
    simp only [true_iff]
    intro hpair
    match s with
    | [] => exact absurd hpair.length_le (by simp)
    | [_] => exact absurd hpair.length_le (by simp)
    | a :: b :: rest => exact h a b rest rfl

/-- The parts are those around the first pair. -/
theorem cutPair_eq_some_iff {c : Char} {s before after : Text} :
    cutPair c s = some (before, after)
      ↔ s = before ++ c :: c :: after ∧ ¬[c, c] <:+: before ++ [c] := by
  induction s generalizing before after with
  | nil => simp [cutPair]
  | cons a s ih =>
    cases s with
    | nil =>
      simp only [cutPair, reduceCtorEq, false_iff, not_and]
      intro h
      have := congrArg List.length h
      simp at this
      omega
    | cons b rest =>
      rw [cutPair]
      split
      · next h =>
        obtain ⟨rfl, rfl⟩ := h
        cases before with
        | nil =>
          have : ¬[b, b] <:+: [b] := fun h => absurd h.length_le (by simp)
          simp [this, eq_comm]
        | cons d before =>
          simp only [Option.some.injEq, Prod.mk.injEq, reduceCtorEq, false_and, List.cons_append,
            List.cons.injEq, false_iff, not_and]
          rintro ⟨rfl, h⟩ hnot
          -- The first two characters are a pair that the part before would have.
          cases before with
          | nil => exact hnot (by simp)
          | cons e before =>
            simp only [List.cons_append, List.cons.injEq] at h
            exact hnot (by simp [pair_infix_cons_iff, ← h.1])
      · next h =>
        rw [Option.map_eq_some_iff]
        cases before with
        | nil =>
          simp only [Prod.mk.injEq, reduceCtorEq, false_and, and_false, exists_false,
            List.nil_append, List.cons.injEq, false_iff, not_and]
          rintro ⟨rfl, rfl, -⟩
          exact absurd ⟨rfl, rfl⟩ h
        | cons d before =>
          constructor
          · rintro ⟨⟨x, y⟩, hxy, he⟩
            simp only [Prod.mk.injEq, List.cons.injEq] at he
            obtain ⟨⟨rfl, rfl⟩, rfl⟩ := he
            obtain ⟨heq, hnot⟩ := ih.mp hxy
            refine ⟨by rw [heq]; rfl, ?_⟩
            cases x with
            | nil =>
              simp only [List.nil_append, List.cons.injEq] at heq
              simp only [List.cons_append, List.nil_append, pair_infix_cons_iff, not_or]
              exact ⟨fun hac => h ⟨hac.1, heq.1⟩, hnot⟩
            | cons e x =>
              simp only [List.cons_append, List.cons.injEq] at heq
              simp only [List.cons_append, pair_infix_cons_iff, not_or]
              exact ⟨fun hac => h ⟨hac.1, heq.1 ▸ hac.2⟩, hnot⟩
          · rintro ⟨heq, hnot⟩
            simp only [List.cons_append, List.cons.injEq] at heq
            obtain ⟨rfl, heq⟩ := heq
            refine ⟨(before, after), ih.mpr ⟨heq, fun hpair => hnot ?_⟩, rfl⟩
            exact hpair.trans (List.infix_cons (List.infix_refl _))

/-- What is left after the pair is shorter than the text by the pair at
least. -/
theorem length_of_cutPair {c : Char} {s before after : Text}
    (h : cutPair c s = some (before, after)) : after.length + 2 ≤ s.length := by
  rw [(cutPair_eq_some_iff.mp h).1]
  simp

end ReleaseLag.Text
