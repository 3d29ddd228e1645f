import ReleaseLag.Sql.Piece
import Mathlib.Data.List.TakeWhile

/-!
# `ReleaseLag.Proofs.Sql.Scan`: scanning one stretch after the other

Where the scanner cuts plain text depends on what comes behind it
(`scan_plain`), so the pieces of two texts are not those of their concatenation.
Their `atoms` are, which cut text into single characters: `atoms_scan_quiet` takes off a stretch
without placeholders in front of any text at all, and `scan_placeholder` a
placeholder that is not continued. A stretch is `Quiet` if it opens nothing
that it does not close; `isQuiet` decides it.
-/

set_option autoImplicit false

namespace ReleaseLag.Proofs.Sql

open ReleaseLag.Sql
open ReleaseLag.Sql.Piece

/-- A text as one piece for each of its characters. -/
def letters (s : Text) : List Piece :=
  s.map fun c => .text [c]

/-- Pieces with their text cut into single characters. -/
def atoms : List Piece → List Piece
  | [] => []
  | .text s :: pieces => letters s ++ atoms pieces
  | .placeholder name position :: pieces => .placeholder name position :: atoms pieces

/-- The placeholders among pieces: the name of each and the byte it stands
at. -/
def placed : List Piece → List (Text × Nat)
  | [] => []
  | .text _ :: pieces => placed pieces
  | .placeholder name position :: pieces => (name, position) :: placed pieces

/-- A stretch without placeholders, quotes or open ends: plain characters and
whole comments, each with the line break behind it. -/
inductive Quiet : Text → Prop
  | nil : Quiet []
  | plain {c : Char} {s : Text} (hc : isOpener c = false) (hs : Quiet s) : Quiet (c :: s)
  | comment {body s : Text} (hbody : '\n' ∉ body) (hs : Quiet s) :
      Quiet ('-' :: '-' :: body ++ '\n' :: s)

/-- The test for quiet stretches, told whether a comment is open. -/
def isQuietFrom : Bool → Text → Bool
  | inComment, [] => !inComment
  | true, c :: s => if c = '\n' then isQuietFrom false s else isQuietFrom true s
  | false, '-' :: '-' :: s => isQuietFrom true s
  | false, c :: s => !isOpener c && isQuietFrom false s

/-- The test for quiet stretches. -/
def isQuiet (s : Text) : Bool :=
  isQuietFrom false s

/-- What the test accepts is quiet, after the comment that was open. -/
theorem quiet_of_isQuietFrom {inComment : Bool} {s : Text} (h : isQuietFrom inComment s = true) :
    if inComment then ∃ body rest, '\n' ∉ body ∧ s = body ++ '\n' :: rest ∧ Quiet rest
    else Quiet s := by
  fun_induction isQuietFrom inComment s with
  | case1 inComment =>
    have hclosed : inComment = false := by simpa using h
    simpa [hclosed] using Quiet.nil
  | case2 s ih =>
    have hs : Quiet s := by simpa using ih h
    exact ⟨[], s, List.not_mem_nil, rfl, hs⟩
  | case3 c s hc ih =>
    obtain ⟨body, rest, hbody, rfl, hrest⟩ :
        ∃ body rest, '\n' ∉ body ∧ s = body ++ '\n' :: rest ∧ Quiet rest := by simpa using ih h
    refine ⟨c :: body, rest, fun hmem => ?_, rfl, hrest⟩
    rcases List.mem_cons.mp hmem with heq | hmem
    · exact hc heq.symm
    · exact hbody hmem
  | case4 s ih =>
    obtain ⟨body, rest, hbody, rfl, hrest⟩ :
        ∃ body rest, '\n' ∉ body ∧ s = body ++ '\n' :: rest ∧ Quiet rest := by simpa using ih h
    exact Quiet.comment hbody hrest
  | case5 c s _ ih =>
    obtain ⟨hc, hs⟩ : isOpener c = false ∧ isQuietFrom false s = true := by simpa using h
    exact Quiet.plain hc (by simpa using ih hs)

/-- What the test accepts is quiet. -/
theorem quiet_of_isQuiet {s : Text} (h : isQuiet s = true) : Quiet s := by
  simpa using quiet_of_isQuietFrom h

theorem letters_append (s t : Text) : letters (s ++ t) = letters s ++ letters t :=
  List.map_append

/-- A run begins where the text does. -/
theorem head?_run (c : Char) (s : Text) : (Piece.run c s).1.head? = some c := by
  unfold Piece.run
  split
  · rfl
  · split
    · rfl
    · split <;> rfl

/-- A run is cut off whole. -/
theorem scan_run {c : Char} {s run rest : Text} (position : Nat) (hplace : placeholder? c s = none)
    (hrun : Piece.run c s = (run, rest)) :
    scan position (c :: s) = .text run :: scan (position + Text.size run) rest := by
  rw [scan]
  split
  · next heq => simp [hplace] at heq
  · rw [hrun]

/-- The atoms of a text that begins with a run. -/
theorem atoms_scan_run {c : Char} {s run rest : Text} (position : Nat)
    (hplace : placeholder? c s = none) (hrun : Piece.run c s = (run, rest)) :
    atoms (scan position (c :: s)) = letters run ++ atoms (scan (position + Text.size run) rest) := by
  rw [scan_run position hplace hrun, atoms]

/-- The run of a plain character is the plain text in front. -/
theorem run_of_plain {c : Char} (hc : isOpener c = false) (s : Text) :
    placeholder? c s = none
      ∧ Piece.run c s = (c :: s.takeWhile (!isOpener ·), s.dropWhile (!isOpener ·)) := by
  obtain ⟨⟨⟨hquote, hdouble⟩, hdash⟩, hat⟩ :
      ((c ≠ '\'' ∧ c ≠ '"') ∧ c ≠ '-') ∧ c ≠ '@' := by simpa [isOpener] using hc
  constructor
  · simp [placeholder?, hat]
  · simp [Piece.run, hquote, hdouble, hdash, hc]

/-- A plain character is a piece of its own in front of anything, or it goes in
front of the plain run that follows it. -/
theorem scan_plain {c : Char} (hc : isOpener c = false) (s : Text) (position : Nat) :
    scan position (c :: s) = .text [c] :: scan (position + c.utf8Size) s
      ∨ ∃ run pieces, run ≠ [] ∧ (∀ d ∈ run, isOpener d = false)
          ∧ scan (position + c.utf8Size) s = .text run :: pieces
          ∧ scan position (c :: s) = .text (c :: run) :: pieces := by
  obtain ⟨hplace, hrun⟩ := run_of_plain hc s
  have hscan := scan_run position hplace hrun
  cases s with
  | nil =>
    rw [scan, hscan]
    exact .inl (by simp [scan])
  | cons d s =>
    by_cases hd : isOpener d = true
    · refine .inl ?_
      rw [hscan]
      simp [hd]
    · -- Alone, the text behind the character begins with the rest of its run.
      have hd : isOpener d = false := by simpa using hd
      obtain ⟨hplace, hrun⟩ := run_of_plain hd s
      refine .inr ⟨_, _, by simp, ?_, scan_run _ hplace hrun, ?_⟩
      · intro e he
        rcases List.mem_cons.mp he with rfl | he
        · exact hd
        · simpa using List.mem_takeWhile_imp he
      · rw [hscan]
        simp [hd, Nat.add_assoc]

/-- A plain character is an atom in front of anything. -/
theorem atoms_scan_plain {c : Char} (hc : isOpener c = false) (s : Text) (position : Nat) :
    atoms (scan position (c :: s)) = .text [c] :: atoms (scan (position + c.utf8Size) s) := by
  rcases scan_plain hc s position with hscan | ⟨run, pieces, -, -, hlater, hscan⟩
  · rw [hscan]
    rfl
  · rw [hscan, hlater]
    rfl

/-- A comment is a run that ends before its line break. -/
theorem atoms_scan_comment {body : Text} (hbody : '\n' ∉ body) (s : Text) (position : Nat) :
    atoms (scan position ('-' :: '-' :: body ++ '\n' :: s))
      = letters ('-' :: '-' :: body)
        ++ atoms (scan (position + Text.size ('-' :: '-' :: body)) ('\n' :: s)) := by
  have hall : ∀ c ∈ '-' :: body, (c != '\n') = true := by
    intro c hmem
    have hne : c ≠ '\n' := by
      rintro rfl
      exact hbody ((List.mem_cons.mp hmem).resolve_left (by decide))
    simpa using hne
  have hbreak : ∀ c ∈ ('\n' :: s).head?, (c != '\n') = false := by
    rintro c ⟨⟩
    rfl
  refine atoms_scan_run position rfl ?_
  obtain ⟨htake, hdrop⟩ := cut_append hall hbreak
  have hrun : Piece.run '-' ('-' :: body ++ '\n' :: s)
      = ('-' :: ('-' :: body ++ '\n' :: s).takeWhile (· != '\n'),
        ('-' :: body ++ '\n' :: s).dropWhile (· != '\n')) := by
    simp [Piece.run]
  rw [htake, hdrop] at hrun
  exact hrun

/-- The atoms of a quiet stretch are its characters, whatever follows it. -/
theorem atoms_scan_quiet {s : Text} (h : Quiet s) (rest : Text) (position : Nat) :
    atoms (scan position (s ++ rest))
      = letters s ++ atoms (scan (position + Text.size s) rest) := by
  induction h generalizing position with
  | nil => simp [letters]
  | plain hc hs ih =>
    rw [List.cons_append, atoms_scan_plain hc, ih, Text.size_cons, Nat.add_assoc]
    rfl
  | @comment body s hbody hs ih =>
    have hbreak : isOpener '\n' = false := by decide
    have hsize : Text.size ('-' :: '-' :: body ++ '\n' :: s)
        = Text.size ('-' :: '-' :: body) + '\n'.utf8Size + Text.size s := by
      simp [Nat.add_assoc]
    have happend : ('-' :: '-' :: body ++ '\n' :: s) ++ rest
        = '-' :: '-' :: body ++ '\n' :: (s ++ rest) := by simp
    rw [happend, atoms_scan_comment hbody, atoms_scan_plain hbreak, ih, letters_append, hsize,
      List.append_assoc]
    simp only [letters, List.map_cons, List.cons_append, Nat.add_assoc]

/-- A placeholder is cut off whole, if what follows does not go on with its
name. -/
theorem scan_placeholder {name rest : Text} (hname : Text.isName name = true)
    (hrest : ∀ c ∈ rest.head?, Text.isNameChar c = false) (position : Nat) :
    scan position ('@' :: (name ++ rest))
      = .placeholder name position :: scan (position + 1 + Text.size name) rest := by
  have hplace : placeholder? '@' (name ++ rest) = some (name, rest) := by
    simp [placeholder?, Text.takeName_append hname hrest]
  rw [scan]
  split
  · next heq =>
    rw [hplace] at heq
    cases heq
    rfl
  · next heq => simp [hplace] at heq

end ReleaseLag.Proofs.Sql
