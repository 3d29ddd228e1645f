import ReleaseLag.Proofs.Sql.Regions
import ReleaseLag.Proofs.Sql.Scan

/-!
# `ReleaseLag.Proofs.Sql.Replacement`: other words for placeholders

When the placeholders of a query text are replaced by words that open nothing,
the text is scanned again as it was: `grains_scan_replaced` says that its pieces
are those of the text, with plain text for the placeholders, up to where plain
text is cut. So no placeholder is left and none is new, and literals,
identifiers and comments begin and end where they did.

A run is told from its first character and the one after it, and ends where it
did before (`run_append`), because the character behind it stays what it was. It
changes only from an at sign to the beginning of a word, and nothing tells these
two apart: neither is a dash, and neither begins a name (`SameBehind`).
-/

set_option autoImplicit false

namespace ReleaseLag.Proofs.Sql

open ReleaseLag.Sql
open ReleaseLag.Sql.Piece (scan placeholder? quotedRun isOpener)

/-! ### Pieces with words for placeholders -/

/-- A piece with plain text in place of a placeholder. -/
def replaced (place : Text → Text) : Piece → Piece
  | .text s => .text s
  | .placeholder name _ => .text (place name)

/-- A piece of plain text as its characters. Other pieces stay whole. -/
def grain : Piece → List Piece
  | .text s => if regionOf (.text s) = .plain then letters s else [.text s]
  | .placeholder name position => [.placeholder name position]

/-- Words that open nothing, wherever they stand in plain text: they hold no
character that could, and do not begin like a name. -/
structure Inert (s : Text) : Prop where
  plain : ∀ c ∈ s, isOpener c = false
  apart : s.head?.any (fun c => !Text.isNameStart c) = true

/-- Pieces with words for placeholders hold no placeholder. -/
theorem placed_map_replaced (place : Text → Text) (pieces : List Piece) :
    placed (pieces.map (replaced place)) = [] := by
  induction pieces with
  | nil => rfl
  | cons piece pieces ih => cases piece <;> exact ih

theorem placed_append (pieces more : List Piece) :
    placed (pieces ++ more) = placed pieces ++ placed more := by
  induction pieces with
  | nil => rfl
  | cons piece pieces ih => cases piece <;> simp [placed, ih]

theorem placed_letters (s : Text) : placed (letters s) = [] := by
  induction s with
  | nil => rfl
  | cons c s ih => exact ih

/-- Cutting plain text keeps the placeholders. -/
theorem placed_grains (pieces : List Piece) : placed (pieces.flatMap grain) = placed pieces := by
  induction pieces with
  | nil => rfl
  | cons piece pieces ih =>
    rw [List.flatMap_cons, placed_append, ih]
    cases piece with
    | placeholder name position => rfl
    | text s =>
      simp only [grain]
      split
      · rw [placed_letters]
        rfl
      · rfl

/-- Characters that open nothing make a plain piece. -/
theorem grain_of_plain {s : Text} (h : ∀ c ∈ s, isOpener c = false) : grain (.text s) = letters s := by
  have hregion : regionOf (.text s) = .plain := by
    cases s with
    | nil => rfl
    | cons c s =>
      have hc := h c List.mem_cons_self
      refine regionOf_of_ne ?_ ?_
      · rintro (rfl | rfl) <;> cases hc
      · rintro ⟨rfl, -⟩
        cases hc
  rw [grain, if_pos hregion]

/-! ### Behind a run -/

/-- The character behind a run stays, or it was an at sign and is now the
beginning of inert words. -/
def SameBehind (old new : Option Char) : Prop :=
  old = new ∨ (old = some '@' ∧ ∃ c, new = some c ∧ isOpener c = false ∧ Text.isNameStart c = false)

/-- Where a text ended, it still ends. -/
theorem SameBehind.eq_nil {s : Text} (h : SameBehind none s.head?) : s = [] := by
  rcases h with h | ⟨h, -⟩
  · exact List.head?_eq_none_iff.mp h.symm
  · cases h

/-- No dash is new. -/
theorem SameBehind.ne_dash {old new : Option Char} (h : SameBehind old new) (hold : old ≠ some '-') :
    new ≠ some '-' := by
  rcases h with rfl | ⟨-, c, rfl, hc, -⟩
  · exact hold
  · rintro ⟨⟩
    cases hc

/-- No beginning of a name is new. -/
theorem SameBehind.no_start {old new : Option Char} (h : SameBehind old new)
    (hold : old.any Text.isNameStart = false) : new.any Text.isNameStart = false := by
  rcases h with rfl | ⟨-, c, rfl, -, hc⟩
  · exact hold
  · simpa using hc

/-- What a quote encloses goes on up to the next quote of its kind. -/
theorem quotedRun_cons (quote c : Char) (s : Text) :
    quotedRun quote (c :: s)
      = if c = quote then ([c], s) else (c :: (quotedRun quote s).1, (quotedRun quote s).2) := by
  by_cases hc : c = quote
  · simp [quotedRun, hc]
  · simp only [quotedRun, hc, if_false, bne_iff_ne, ne_eq, not_false_eq_true,
      List.takeWhile_cons_of_pos, List.dropWhile_cons_of_pos]
    split <;> rfl

/-- What a quote encloses ends where it did. -/
theorem quotedRun_append {quote : Char} {s new : Text}
    (h : SameBehind (quotedRun quote s).2.head? new.head?) :
    quotedRun quote ((quotedRun quote s).1 ++ new) = ((quotedRun quote s).1, new) := by
  induction s with
  | nil =>
    rw [SameBehind.eq_nil h]
    rfl
  | cons c s ih =>
    rw [quotedRun_cons] at h ⊢
    by_cases hc : c = quote
    · rw [if_pos hc, List.singleton_append, quotedRun_cons, if_pos hc]
    · rw [if_neg hc] at h ⊢
      rw [List.cons_append, quotedRun_cons, if_neg hc, ih h]

/-- Behind a comment there is still a line break, or nothing. -/
theorem break_of_comment {s new : Text} (h : SameBehind (s.dropWhile (· != '\n')).head? new.head?) :
    ∀ c ∈ new.head?, (c != '\n') = false := by
  have hhead := List.head?_dropWhile_not (· != '\n') s
  rcases h with h | ⟨h, -⟩
  · intro c hc
    rw [h, Option.mem_def.mp hc] at hhead
    simpa using hhead
  · rw [h] at hhead
    cases hhead

/-- A run that is no plain text ends where it did. -/
theorem run_append {c : Char} {s new : Text} (hplace : placeholder? c s = none)
    (hopener : isOpener c = true) (h : SameBehind (Piece.run c s).2.head? new.head?) :
    ∃ t, (Piece.run c s).1 = c :: t ∧ placeholder? c (t ++ new) = none
      ∧ Piece.run c (t ++ new) = ((Piece.run c s).1, new) := by
  by_cases hquote : c = '\'' ∨ c = '"'
  · have hrun : Piece.run c s = (c :: (quotedRun c s).1, (quotedRun c s).2) := by
      simp [Piece.run, hquote]
    have hat : c ≠ '@' := by
      rintro rfl
      revert hquote
      decide
    rw [hrun] at h ⊢
    refine ⟨_, rfl, by simp [placeholder?, hat], ?_⟩
    simp [Piece.run, hquote, quotedRun_append h]
  by_cases hdash : c = '-' ∧ s.head? = some '-'
  · obtain ⟨rfl, hhead⟩ := hdash
    obtain ⟨body, rfl⟩ := List.head?_eq_some_iff.mp hhead
    have hrun : Piece.run '-' ('-' :: body)
        = ('-' :: ('-' :: body).takeWhile (· != '\n'), ('-' :: body).dropWhile (· != '\n')) := by
      simp [Piece.run]
    rw [hrun] at h ⊢
    have hline : ∀ c ∈ ('-' :: body).takeWhile (· != '\n'), (c != '\n') = true :=
      fun c => List.mem_takeWhile_imp (p := (· != '\n'))
    obtain ⟨htake, hdrop⟩ := cut_append hline (break_of_comment h)
    refine ⟨_, rfl, rfl, ?_⟩
    have hdashes : (('-' :: body).takeWhile (· != '\n') ++ new).head? = some '-' := rfl
    rw [Piece.run, if_neg hquote, if_pos ⟨rfl, hdashes⟩, htake, hdrop]
  · have hrun : Piece.run c s = ([c], s) := by simp [Piece.run, hquote, hdash, hopener]
    rw [hrun] at h ⊢
    refine ⟨[], rfl, ?_, ?_⟩
    · by_cases hat : c = '@'
      · have hstart : s.head?.any Text.isNameStart = false := by
          have hnone : Text.takeName s = none := by simpa [placeholder?, hat] using hplace
          rw [← Text.isSome_takeName, hnone]
          rfl
        have hnew := h.no_start hstart
        rw [← Text.isSome_takeName] at hnew
        simpa [placeholder?, hat] using hnew
      · simp [placeholder?, hat]
    · have hnew : ¬(c = '-' ∧ new.head? = some '-') := by
        rintro ⟨hc, hhead⟩
        exact h.ne_dash (fun hold => hdash ⟨hc, hold⟩) hhead
      simp [Piece.run, hquote, hnew, hopener]

/-! ### Scanning again -/

/-- Plain characters in front of any text are scanned one by one. -/
theorem grains_scan_plain {s : Text} (h : ∀ c ∈ s, isOpener c = false) (position : Nat) (rest : Text) :
    (scan position (s ++ rest)).flatMap grain
      = letters s ++ (scan (position + Text.size s) rest).flatMap grain := by
  induction s generalizing position with
  | nil => rfl
  | cons c s ih =>
    obtain ⟨hc, hs⟩ := List.forall_mem_cons.mp h
    have hone : (scan position (c :: (s ++ rest))).flatMap grain
        = .text [c] :: (scan (position + c.utf8Size) (s ++ rest)).flatMap grain := by
      rcases scan_plain hc (s ++ rest) position with hscan | ⟨run, pieces, -, hrun, hlater, hscan⟩
      · rw [hscan, List.flatMap_cons, grain_of_plain (by simpa using hc)]
        rfl
      · rw [hscan, hlater, List.flatMap_cons, List.flatMap_cons, grain_of_plain hrun,
          grain_of_plain (List.forall_mem_cons.mpr ⟨hc, hrun⟩)]
        rfl
    rw [List.cons_append, hone, ih hs, Text.size_cons, Nat.add_assoc]
    rfl

/-- A run is scanned again as the piece it was. -/
theorem grains_scan_run {c : Char} {s new : Text} (hplace : placeholder? c s = none)
    (h : SameBehind (Piece.run c s).2.head? new.head?) (position : Nat) :
    (scan position ((Piece.run c s).1 ++ new)).flatMap grain
      = grain (.text (Piece.run c s).1)
        ++ (scan (position + Text.size (Piece.run c s).1) new).flatMap grain := by
  by_cases hopener : isOpener c = true
  · obtain ⟨t, ht, hnone, hrun⟩ := run_append hplace hopener h
    have happend : (Piece.run c s).1 ++ new = c :: (t ++ new) := by rw [ht, List.cons_append]
    rw [happend, scan_run position hnone hrun, List.flatMap_cons]
  · -- A plain run is cut into characters, wherever the scanner cuts it.
    have hc : isOpener c = false := by simpa using hopener
    obtain ⟨-, hrun⟩ := run_of_plain hc s
    have hplain : ∀ d ∈ (Piece.run c s).1, isOpener d = false := by
      rw [hrun]
      intro d hd
      rcases List.mem_cons.mp hd with rfl | hd
      · exact hc
      · simpa using List.mem_takeWhile_imp hd
    rw [grains_scan_plain hplain, grain_of_plain hplain]

/-- What a text begins with is what it began with, but for an at sign. -/
theorem sameBehind_replaced {place : Text → Text} (hplace : ∀ name, Inert (place name))
    (position : Nat) (s : Text) :
    SameBehind s.head? (((scan position s).map (replaced place)).flatMap Piece.spell).head? := by
  fun_cases scan position s with
  | case1 => exact .inl rfl
  | case2 c s name rest h =>
    obtain ⟨rfl, -⟩ := Piece.placeholder?_eq_some h
    obtain ⟨hplain, hapart⟩ := hplace name
    cases hname : place name with
    | nil => simp [hname] at hapart
    | cons d words =>
      have hstart : Text.isNameStart d = false := by simpa [hname] using hapart
      exact .inr ⟨rfl, d, by simp [replaced, Piece.spell, hname], hplain d (by simp [hname]), hstart⟩
  | case3 c s h =>
    obtain ⟨t, ht⟩ := List.head?_eq_some_iff.mp (head?_run c s)
    exact .inl (by simp [replaced, Piece.spell, ht])

/-- A text with inert words for its placeholders has its pieces, with plain text
for them. -/
theorem grains_scan_replaced {place : Text → Text} (hplace : ∀ name, Inert (place name))
    (position again : Nat) (s : Text) :
    (scan again (((scan position s).map (replaced place)).flatMap Piece.spell)).flatMap grain
      = ((scan position s).map (replaced place)).flatMap grain := by
  -- The words have other lengths than the placeholders, so the two scans go on
  -- at different positions.
  fun_induction scan position s generalizing again with
  | case1 => simp [scan]
  | case2 position c s name rest h ih =>
    have hplain := (hplace name).plain
    simp only [List.map_cons, replaced, List.flatMap_cons, Piece.spell]
    rw [grains_scan_plain hplain, grain_of_plain hplain, ih]
  | case3 position c s h ih =>
    simp only [List.map_cons, replaced, List.flatMap_cons, Piece.spell]
    rw [grains_scan_run h (sameBehind_replaced hplace _ _), ih]

end ReleaseLag.Proofs.Sql
