import ReleaseLag.Text.Blank
import ReleaseLag.Text.Name

/-!
# `ReleaseLag.Proofs.Text.Words`: a text as its words

`ReadsAs` says which words a text has without a scan: white space, if any, then
a word that white space or the end follows, then the rest of the text. Every
text reads as some words (`exists_readsAs`), and `words` finds them, so there
are no others (`words_eq_iff`). A scan of a gap passes over it
(`words_append_gap`), and a scan of a word takes all of it, because the
character behind it is blank (`words_append_word`).

Of the white space in a text nothing is left when its words are joined: the
only blank characters of `collapse` are the spaces put in between
(`unbroken_collapse`), so it stands on one line, whatever breaks lines. Trimming
takes the white space at the ends and nothing else (`isTrimmed_trim`).
-/

set_option autoImplicit false

namespace ReleaseLag.Proofs.Text

open ReleaseLag.Text (isBlank words collapse trim trimStart isName isNameChar)

/-- White space, which may be none at all. -/
def IsGap (s : Text) : Prop :=
  ∀ c ∈ s, isBlank c = true

/-- Something without white space in it. -/
def IsWord (s : Text) : Prop :=
  s ≠ [] ∧ ∀ c ∈ s, isBlank c = false

/-- A text reads as words: they stand in it in this order, each up to where
white space or the end follows, and all else is white space. -/
inductive ReadsAs : Text → List Text → Prop
  | gap {gap : Text} (hgap : IsGap gap) : ReadsAs gap []
  | word {gap word rest : Text} {later : List Text} (hgap : IsGap gap) (hword : IsWord word)
      (hend : ∀ c ∈ rest.head?, isBlank c = true) (hrest : ReadsAs rest later) :
      ReadsAs (gap ++ word ++ rest) (word :: later)

theorem IsGap.cons {c : Char} {gap : Text} (hc : isBlank c = true) (hgap : IsGap gap) :
    IsGap (c :: gap) :=
  List.forall_mem_cons.mpr ⟨hc, hgap⟩

theorem isWord_singleton {c : Char} (hc : isBlank c = false) : IsWord [c] :=
  ⟨List.cons_ne_nil c [], List.forall_mem_singleton.mpr hc⟩

theorem IsWord.cons {c : Char} {word : Text} (hc : isBlank c = false) (hword : IsWord word) :
    IsWord (c :: word) :=
  ⟨List.cons_ne_nil c word, List.forall_mem_cons.mpr ⟨hc, hword.2⟩⟩

/-- The characters of names lie between the space and the other blank ones. -/
theorem isBlank_of_isNameChar {c : Char} (h : isNameChar c = true) : isBlank c = false := by
  have hrange : 48 ≤ c.toNat ∧ c.toNat ≤ 122 := by
    rcases Bool.or_eq_true_iff.mp h with halphanum | hline
    · rcases Bool.or_eq_true_iff.mp halphanum with halpha | hdigit
      · rcases Bool.or_eq_true_iff.mp halpha with hupper | hlower
        · obtain ⟨hlow, hhigh⟩ := of_decide_eq_true hupper
          exact ⟨Nat.le_trans (by decide) hlow, Nat.le_trans hhigh (by decide)⟩
        · obtain ⟨hlow, hhigh⟩ := Bool.and_eq_true_iff.mp hlower
          exact ⟨Nat.le_trans (by decide) (of_decide_eq_true hlow),
            Nat.le_trans (of_decide_eq_true hhigh) (by decide)⟩
      · obtain ⟨hlow, hhigh⟩ := Bool.and_eq_true_iff.mp hdigit
        exact ⟨of_decide_eq_true hlow, Nat.le_trans (of_decide_eq_true hhigh) (by decide)⟩
    · obtain rfl := of_decide_eq_true hline
      decide
  simp only [isBlank, Bool.or_eq_false_iff, Bool.and_eq_false_iff, decide_eq_false_iff_not]
  omega

/-- A name is a word. -/
theorem isWord_of_isName {name : Text} (h : isName name = true) : IsWord name := by
  have hne : name ≠ [] := by
    rintro rfl
    cases h
  exact ⟨hne, fun c hmem => isBlank_of_isNameChar (ReleaseLag.Text.isNameChar_of_mem h c hmem)⟩

/-! ### White space at the ends -/

/-- A text without the white space at its ends. What is left begins and ends with
something else, if anything is left. -/
inductive IsTrimmed : Text → Text → Prop
  | intro {front s back : Text} (hfront : IsGap front) (hback : IsGap back)
      (hhead : ∀ c ∈ s.head?, isBlank c = false) (hlast : ∀ c ∈ s.getLast?, isBlank c = false) :
      IsTrimmed (front ++ s ++ back) s

/-- White space in front is cut off, and all of it. -/
theorem exists_gap_trimStart (s : Text) :
    ∃ gap, IsGap gap ∧ s = gap ++ trimStart s ∧ ∀ c ∈ (trimStart s).head?, isBlank c = false := by
  induction s with
  | nil => exact ⟨[], List.forall_mem_nil _, rfl, fun c h => nomatch h⟩
  | cons c s ih =>
    cases hc : isBlank c with
    | true =>
      obtain ⟨gap, hgap, hs, hhead⟩ := ih
      have htrim : trimStart (c :: s) = trimStart s := List.dropWhile_cons_of_pos hc
      rw [htrim]
      exact ⟨c :: gap, hgap.cons hc, congrArg (c :: ·) hs, hhead⟩
    | false =>
      have htrim : trimStart (c :: s) = c :: s :=
        List.dropWhile_cons_of_neg (Bool.eq_false_iff.mp hc)
      rw [htrim]
      refine ⟨[], List.forall_mem_nil _, rfl, ?_⟩
      rintro d ⟨⟩
      exact hc

theorem isTrimmed_trim (s : Text) : IsTrimmed s (trim s) := by
  obtain ⟨front, hfront, hs, hhead⟩ := exists_gap_trimStart s
  obtain ⟨back, hback, hreverse, hlast⟩ := exists_gap_trimStart (trimStart s).reverse
  have hstart : trimStart s = trim s ++ back.reverse := by
    rw [trim, ← List.reverse_append, ← hreverse, List.reverse_reverse]
  have hsplit : s = front ++ trim s ++ back.reverse := by
    rw [List.append_assoc, ← hstart, ← hs]
  have htrimmed : IsTrimmed (front ++ trim s ++ back.reverse) (trim s) := by
    refine .intro hfront ?_ ?_ ?_
    · intro c hmem
      exact hback c (List.mem_reverse.mp hmem)
    · intro c hmem
      refine hhead c ?_
      rw [hstart, List.head?_append]
      rw [Option.mem_def.mp hmem]
      rfl
    · intro c hmem
      rw [trim, List.getLast?_reverse] at hmem
      exact hlast c hmem
  rwa [← hsplit] at htrimmed
/-! ### The scan -/

theorem words_cons_of_blank {c : Char} (hc : isBlank c = true) (s : Text) :
    words (c :: s) = words s :=
  if_pos hc

theorem words_singleton {c : Char} (hc : isBlank c = false) : words [c] = [[c]] :=
  if_neg (Bool.eq_false_iff.mp hc)

/-- White space ends a word. -/
theorem words_cons_of_blank_next {c d : Char} (hc : isBlank c = false) (hd : isBlank d = true)
    (s : Text) : words (c :: d :: s) = [c] :: words (d :: s) :=
  (if_neg (Bool.eq_false_iff.mp hc)).trans (if_pos hd)

/-- Another character goes on with a word. -/
theorem words_cons_of_found {c d : Char} (hc : isBlank c = false) (hd : isBlank d = false)
    {s word : Text} {later : List Text} (h : words (d :: s) = word :: later) :
    words (c :: d :: s) = (c :: word) :: later := by
  refine (if_neg (Bool.eq_false_iff.mp hc)).trans ((if_neg (Bool.eq_false_iff.mp hd)).trans ?_)
  rw [h]

/-- White space in front of a text is no part of a word. -/
theorem words_append_gap {gap : Text} (hgap : IsGap gap) (s : Text) :
    words (gap ++ s) = words s := by
  induction gap with
  | nil => rfl
  | cons c gap ih =>
    obtain ⟨hc, hgap⟩ := List.forall_mem_cons.mp hgap
    rw [List.cons_append, words_cons_of_blank hc, ih hgap]

/-- A word in front of white space, or at the end, is taken whole. -/
theorem words_append_word {word rest : Text} (hword : IsWord word)
    (hend : ∀ c ∈ rest.head?, isBlank c = true) : words (word ++ rest) = word :: words rest := by
  obtain ⟨hne, hchars⟩ := hword
  induction word with
  | nil => exact absurd rfl hne
  | cons c word ih =>
    obtain ⟨hc, hchars⟩ := List.forall_mem_cons.mp hchars
    cases word with
    | nil =>
      -- The character behind the last one of the word is blank.
      cases rest with
      | nil => exact words_singleton hc
      | cons d rest => exact words_cons_of_blank_next hc (hend d rfl) rest
    | cons d word =>
      have hd : isBlank d = false := hchars d List.mem_cons_self
      have hlater : words (d :: (word ++ rest)) = (d :: word) :: words rest :=
        ih (List.cons_ne_nil d word) hchars
      exact words_cons_of_found hc hd hlater

/-- The words that a text reads as are those that the scan finds. -/
theorem ReadsAs.words_eq {s : Text} {found : List Text} (h : ReadsAs s found) : words s = found := by
  induction h with
  | @gap gap hgap =>
    have hnone := words_append_gap hgap []
    rwa [List.append_nil] at hnone
  | word hgap hword hend _ ih =>
    rw [List.append_assoc, words_append_gap hgap, words_append_word hword hend, ih]

/-- A character that is not blank begins the first word of what follows it, or
is a word by itself. -/
theorem ReadsAs.cons_of_not_blank {c : Char} {s : Text} {found : List Text}
    (hc : isBlank c = false) (h : ReadsAs s found) : ∃ longer, ReadsAs (c :: s) longer := by
  have hnone : IsGap [] := List.forall_mem_nil _
  cases h with
  | gap hgap =>
    have hend : ∀ d ∈ s.head?, isBlank d = true := fun d hd => hgap d (List.mem_of_mem_head? hd)
    exact ⟨_, .word hnone (isWord_singleton hc) hend (.gap hgap)⟩
  | @word gap word rest later hgap hword hend hrest =>
    cases gap with
    | nil => exact ⟨_, .word hnone (hword.cons hc) hend hrest⟩
    | cons d gap =>
      have hblank : isBlank d = true := hgap d List.mem_cons_self
      have hbehind : ∀ e ∈ (d :: gap ++ word ++ rest).head?, isBlank e = true := by
        rintro e ⟨⟩
        exact hblank
      exact ⟨_, .word hnone (isWord_singleton hc) hbehind (.word hgap hword hend hrest)⟩

/-- Every text reads as some words. -/
theorem exists_readsAs (s : Text) : ∃ found, ReadsAs s found := by
  induction s with
  | nil => exact ⟨[], .gap (List.forall_mem_nil _)⟩
  | cons c s ih =>
    obtain ⟨found, hfound⟩ := ih
    cases hc : isBlank c with
    | false => exact hfound.cons_of_not_blank hc
    | true =>
      -- A blank character only lengthens the gap that the text begins with.
      cases hfound with
      | gap hgap => exact ⟨[], .gap (hgap.cons hc)⟩
      | word hgap hword hend hrest => exact ⟨_, .word (hgap.cons hc) hword hend hrest⟩

/-- The scan finds the words that the text reads as, and it reads as no
others. -/
theorem words_eq_iff {s : Text} {found : List Text} : words s = found ↔ ReadsAs s found := by
  constructor
  · rintro rfl
    obtain ⟨found, hfound⟩ := exists_readsAs s
    rwa [hfound.words_eq]
  · exact ReadsAs.words_eq

theorem readsAs_words (s : Text) : ReadsAs s (words s) :=
  words_eq_iff.mp rfl

/-! ### Words joined by spaces -/

/-- What a text reads as are words. -/
theorem ReadsAs.isWord {s : Text} {found : List Text} (h : ReadsAs s found) :
    ∀ word ∈ found, IsWord word := by
  induction h with
  | gap _ => exact List.forall_mem_nil _
  | word _ hword _ _ ih => exact List.forall_mem_cons.mpr ⟨hword, ih⟩

/-- Only white space reads as no words. -/
theorem words_eq_nil_iff {s : Text} : words s = [] ↔ IsGap s := by
  rw [words_eq_iff]
  constructor
  · rintro ⟨hgap⟩
    exact hgap
  · exact .gap

/-- A character of joined words is in one of them or put in between. -/
theorem eq_or_mem_of_mem_intercalate {sep c : Char} {found : List Text}
    (h : c ∈ [sep].intercalate found) : c = sep ∨ ∃ word ∈ found, c ∈ word := by
  induction found with
  | nil => cases h
  | cons word found ih =>
    cases found with
    | nil => exact .inr ⟨word, List.mem_cons_self, by simpa using h⟩
    | cons next found =>
      rw [List.intercalate_cons_cons, List.mem_append, List.mem_append] at h
      rcases h with (hmem | hmem) | hmem
      · exact .inr ⟨word, List.mem_cons_self, hmem⟩
      · exact .inl (List.mem_singleton.mp hmem)
      · rcases ih hmem with heq | ⟨other, hother, hmem⟩
        · exact .inl heq
        · exact .inr ⟨other, List.mem_cons_of_mem word hother, hmem⟩

/-- There is no white space in a text but spaces. -/
def Unbroken (s : Text) : Prop :=
  ∀ c ∈ s, isBlank c = true → c = ' '

instance (s : Text) : Decidable (Unbroken s) :=
  List.decidableBAll (fun c => isBlank c = true → c = ' ') s

theorem unbroken_append_iff {s t : Text} : Unbroken (s ++ t) ↔ Unbroken s ∧ Unbroken t :=
  List.forall_mem_append

/-- An unbroken text has no line feed. -/
theorem Unbroken.newline_not_mem {s : Text} (h : Unbroken s) : '\n' ∉ s := fun hmem =>
  absurd (h '\n' hmem (by decide)) (by decide)

theorem IsWord.unbroken {word : Text} (h : IsWord word) : Unbroken word := by
  intro c hmem hc
  rw [h.2 c hmem] at hc
  cases hc

/-- A collapsed text has only the spaces between its words. -/
theorem unbroken_collapse (s : Text) : Unbroken (collapse s) := by
  intro c hmem hc
  rcases eq_or_mem_of_mem_intercalate hmem with heq | ⟨word, hword, hmem⟩
  · exact heq
  · exact ((readsAs_words s).isWord word hword).unbroken c hmem hc

/-- A text collapses to nothing exactly if it is white space. -/
theorem collapse_eq_nil_iff {s : Text} : collapse s = [] ↔ IsGap s := by
  rw [← words_eq_nil_iff, collapse]
  constructor
  · intro h
    cases hwords : words s with
    | nil => rfl
    | cons word later =>
      -- The first word has a character, and it is still there.
      have hne : word ≠ [] := ((readsAs_words s).isWord word (hwords ▸ List.mem_cons_self)).1
      rw [hwords] at h
      cases later with
      | nil => exact absurd (by simpa using h) hne
      | cons next later => simp [List.intercalate_cons_cons] at h
  · rintro h
    rw [h]
    rfl

end ReleaseLag.Proofs.Text
