import ReleaseLag.Sql.Piece

/-!
# `ReleaseLag.Sql.Turn`: the scan as a loop

The scanner goes through a query text in turns. A turn takes a placeholder off
the front; where none begins, it tries a list of readers in order, each of
which takes a stretch of text or refuses, and if all of them refuse the loop
breaks off. Stretches are put together until a placeholder or the end comes, so
a text and a placeholder alternate, and a text may be empty.

On any text but the empty one, the first reader that takes something takes
`Piece.run` (`firstTaken_cons`). This is why the turns come to an end.
-/

set_option autoImplicit false

namespace ReleaseLag.Sql.Turn

open Piece

/-- A reader takes a stretch off the front of a text, or refuses. -/
abbrev Reader := Text → Option (Text × Text)

/-- Takes what a quote encloses. -/
def quoted (quote : Char) : Reader
  | [] => none
  | c :: s => if c = quote then some (c :: (quotedRun c s).1, (quotedRun c s).2) else none

/-- Takes a comment, up to the end of its line. -/
def comment : Reader
  | '-' :: '-' :: s => some ('-' :: '-' :: s.takeWhile (· != '\n'), s.dropWhile (· != '\n'))
  | _ => none

/-- Takes characters that open nothing, and at least one of them. -/
def plain : Reader := fun s =>
  match s.takeWhile (!isOpener ·) with
  | [] => none
  | c :: taken => some (c :: taken, s.dropWhile (!isOpener ·))

/-- Takes a single character. -/
def single : Reader
  | [] => none
  | c :: s => some ([c], s)

/-- The readers, in the order in which they are tried. -/
def readers : List Reader :=
  [quoted '\'', quoted '"', comment, plain, single]

/-- What the first reader takes that does not refuse. -/
def firstTaken : Reader := fun s =>
  readers.findSome? fun reader => reader s

/-- Some reader takes something of every text but the empty one. -/
theorem firstTaken_cons (c : Char) (s : Text) : firstTaken (c :: s) = some (run c s) := by
  -- The readers are tried in the order in which `run` tells the cases apart.
  by_cases hquote : c = '\''
  · simp [firstTaken, readers, quoted, run, hquote]
  by_cases hdouble : c = '"'
  · simp [firstTaken, readers, quoted, run, hdouble]
  have hquoted : quoted '\'' (c :: s) = none ∧ quoted '"' (c :: s) = none := by
    simp [quoted, hquote, hdouble]
  by_cases hdash : c = '-' ∧ s.head? = some '-'
  · obtain ⟨rfl, hhead⟩ := hdash
    obtain ⟨rest, rfl⟩ := List.head?_eq_some_iff.mp hhead
    simp [firstTaken, readers, hquoted, comment, run]
  have hcomment : comment (c :: s) = none := by
    unfold comment
    split
    · next heq =>
      obtain ⟨rfl, rfl⟩ := List.cons.inj heq
      exact absurd ⟨rfl, rfl⟩ hdash
    · rfl
  by_cases hopener : isOpener c = true
  · simp [firstTaken, readers, hquoted, hcomment, plain, single, run, hquote, hdouble, hdash,
      hopener]
  · simp [firstTaken, readers, hquoted, hcomment, plain, run, hquote, hdouble, hdash, hopener]

/-- The text since the last placeholder, as the last piece if there is any. -/
def ending : Text → List Piece
  | [] => []
  | c :: s => [.text (c :: s)]

/-- What the loop ends with: its pieces, and the text that was left when it broke
off. -/
structure Scanned where
  pieces : List Piece
  left : Text

/-- The turns on a text at a position, with the text since the last
placeholder. -/
def turnsFrom (position : Nat) (before : Text) : Text → Scanned
  | [] => ⟨ending before, []⟩
  | c :: s =>
    match h : placeholder? c s with
    | some (name, rest) =>
      let later := turnsFrom (position + 1 + Text.size name) [] rest
      { later with pieces := .text before :: .placeholder name position :: later.pieces }
    | none =>
      match _ : firstTaken (c :: s) with
      | some (taken, rest) => turnsFrom (position + Text.size taken) (before ++ taken) rest
      | none => ⟨ending (before ++ c :: s), c :: s⟩
  termination_by s => s.length
  decreasing_by
  · have := length_takeName_le (placeholder?_eq_some h).2
    simp only [List.length_cons]
    omega
  · have hrun : run c s = (taken, rest) := Option.some.inj ((firstTaken_cons c s).symm.trans ‹_›)
    have hshorter := length_run_le c s
    simp only [hrun, List.length_cons] at hshorter ⊢
    omega

variable {c : Char} {s : Text}

/-- A turn that takes a placeholder. -/
theorem turnsFrom_placeholder {name rest : Text} (h : placeholder? c s = some (name, rest))
    (position : Nat) (before : Text) :
    turnsFrom position before (c :: s)
      = ⟨.text before :: .placeholder name position
            :: (turnsFrom (position + 1 + Text.size name) [] rest).pieces,
          (turnsFrom (position + 1 + Text.size name) [] rest).left⟩ := by
  rw [turnsFrom]
  split
  · next heq =>
    rw [h] at heq
    cases heq
    rfl
  · next heq => simp [h] at heq

/-- A turn that takes text: the loop is never broken off. -/
theorem turnsFrom_run (h : placeholder? c s = none) (position : Nat) (before : Text) :
    turnsFrom position before (c :: s)
      = turnsFrom (position + Text.size (run c s).1) (before ++ (run c s).1) (run c s).2 := by
  rw [turnsFrom]
  split
  · next heq => simp [h] at heq
  · split
    · next taken rest htaken =>
      have hrun : run c s = (taken, rest) := Option.some.inj ((firstTaken_cons c s).symm.trans htaken)
      rw [hrun]
    · next hrefused => simp [firstTaken_cons] at hrefused

/-- The turns on a text. -/
def turns (s : Text) : Scanned :=
  turnsFrom 0 [] s

end ReleaseLag.Sql.Turn
