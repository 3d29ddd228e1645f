import ReleaseLag.Text.Name

/-!
# `ReleaseLag.Sql.Piece`: query text and its placeholders

A query text is cut into pieces from the left. A placeholder is an at sign
with a name; any other piece is a run that no placeholder can begin in: a
quoted literal, a quoted identifier, a comment up to the end of its line,
plain text up to the next character that could open one of these, or else a
single character. `Piece.ofText` gives the pieces with the bytes they stand
at, and they spell the text again (`Piece.spell_ofText`).
-/

set_option autoImplicit false

namespace ReleaseLag.Sql

/-- A piece of query text. -/
inductive Piece
  | text (s : Text)
  | placeholder (name : Text) (position : Nat)
  deriving DecidableEq, Repr

namespace Piece

/-- The text of a piece. -/
def spell : Piece → Text
  | text s => s
  | placeholder name _ => '@' :: name

/-- Characters that can open something else than plain text. -/
def isOpener (c : Char) : Bool :=
  c = '\'' || c = '"' || c = '-' || c = '@'

/-- What stands between quotes, with the closing quote if there is one, after
the opening quote was read. An unclosed literal runs to the end. -/
def quotedRun (quote : Char) (s : Text) : Text × Text :=
  let inside := s.takeWhile (· != quote)
  match s.dropWhile (· != quote) with
  | [] => (inside, [])
  | close :: rest => (inside ++ [close], rest)

/-- The run without placeholders at the front of `c :: s`, and what follows
it. -/
def run (c : Char) (s : Text) : Text × Text :=
  if c = '\'' ∨ c = '"' then
    let (inside, rest) := quotedRun c s
    (c :: inside, rest)
  else if c = '-' ∧ s.head? = some '-' then
    (c :: s.takeWhile (· != '\n'), s.dropWhile (· != '\n'))
  else if isOpener c then ([c], s)
  else (c :: s.takeWhile (!isOpener ·), s.dropWhile (!isOpener ·))

theorem quotedRun_spell (quote : Char) (s : Text) :
    (quotedRun quote s).1 ++ (quotedRun quote s).2 = s := by
  have h := List.takeWhile_append_dropWhile (p := (· != quote)) (l := s)
  unfold quotedRun
  split
  · next hnil => rw [hnil] at h; simpa using h
  · next close rest hcons => rw [hcons] at h; simpa using h

/-- A run and what follows it are the text. -/
theorem run_spell (c : Char) (s : Text) : (run c s).1 ++ (run c s).2 = c :: s := by
  unfold run
  split
  · simp [quotedRun_spell]
  · split
    · simp
    · split <;> simp

/-- A run is not empty, so what follows it is shorter than the text. -/
theorem length_run_le (c : Char) (s : Text) : (run c s).2.length ≤ s.length := by
  have h := congrArg List.length (run_spell c s)
  have : (run c s).1 ≠ [] := by
    unfold run
    split
    · simp
    · split
      · simp
      · split <;> simp
  have := List.length_pos_iff.2 this
  simp only [List.length_append, List.length_cons] at h
  omega

/-- A name and what follows it are no longer than the text. -/
theorem length_takeName_le {s name rest : Text} (h : Text.takeName s = some (name, rest)) :
    rest.length ≤ s.length := by
  have := congrArg List.length (Text.takeName_spell h)
  simp only [List.length_append] at this
  omega

/-- The placeholder at the front of `c :: s`, and what follows it. -/
def placeholder? (c : Char) (s : Text) : Option (Text × Text) :=
  if c = '@' then Text.takeName s else none

theorem placeholder?_eq_some {c : Char} {s name rest : Text}
    (h : placeholder? c s = some (name, rest)) :
    c = '@' ∧ Text.takeName s = some (name, rest) := by
  unfold placeholder? at h
  split at h
  · next hc => exact ⟨hc, h⟩
  · simp at h

/-- The pieces of a text that begins at a position. -/
def scan (position : Nat) : Text → List Piece
  | [] => []
  | c :: s =>
    match h : placeholder? c s with
    | some (name, rest) =>
      placeholder name position :: scan (position + 1 + Text.size name) rest
    | none => text (run c s).1 :: scan (position + Text.size (run c s).1) (run c s).2
  termination_by s => s.length
  decreasing_by
  · have := length_takeName_le (placeholder?_eq_some h).2
    simp only [List.length_cons]
    omega
  · have := length_run_le c s
    simp only [List.length_cons]
    omega

/-- The pieces of a text. -/
def ofText (s : Text) : List Piece :=
  scan 0 s

theorem flatMap_spell_scan (position : Nat) (s : Text) :
    (scan position s).flatMap spell = s := by
  fun_induction scan position s with
  | case1 => rfl
  | case2 position c s name rest h ih =>
    obtain ⟨rfl, hn⟩ := placeholder?_eq_some h
    simp [spell, ih, Text.takeName_spell hn]
  | case3 position c s h ih => simp [spell, ih, run_spell]

/-- The pieces spell the text they were cut from. -/
theorem spell_ofText (s : Text) : (ofText s).flatMap spell = s :=
  flatMap_spell_scan 0 s

end Piece

end ReleaseLag.Sql
