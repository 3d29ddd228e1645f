import ReleaseLag.Text.Basic

/-!
# `ReleaseLag.Text.Split`: parting a text at a character

`pieces` parts a text at every occurrence of a character, and `upTo` and
`behind` at the first. Lines that each end in the character are the pieces,
and one more that is empty (`pieces_terminated`).
-/

set_option autoImplicit false

namespace ReleaseLag.Text

/-- The pieces of a text between the occurrences of a character. There is one
piece more than there are occurrences. -/
def pieces (sep : Char) : Text → List Text
  | [] => [[]]
  | c :: rest =>
    if c = sep then [] :: pieces sep rest
    else
      match pieces sep rest with
      | [] => [[c]]
      | piece :: later => (c :: piece) :: later

/-- The text in front of the first occurrence of a character, all of it if
there is none. -/
def upTo (sep : Char) (s : Text) : Text :=
  s.takeWhile (· != sep)

/-- The text behind the first occurrence of a character, nothing if there is
none. -/
def behind (sep : Char) (s : Text) : Text :=
  (s.dropWhile (· != sep)).drop 1

/-- The first piece is what stands in front of the first occurrence. -/
theorem pieces_append {sep : Char} {s t : Text} (h : sep ∉ s) :
    pieces sep (s ++ sep :: t) = s :: pieces sep t := by
  induction s with
  | nil => rw [List.nil_append, pieces, if_pos rfl]
  | cons c s ih =>
    have hne : c ≠ sep := fun hc => h (hc ▸ List.mem_cons_self)
    rw [List.cons_append, pieces, if_neg hne, ih fun hmem => h (List.mem_cons_of_mem c hmem)]

/-- Lines that each end in the character are parted into the lines. -/
theorem pieces_terminated {sep : Char} {lines : List Text} (h : ∀ line ∈ lines, sep ∉ line) :
    pieces sep (lines.flatMap (· ++ [sep])) = lines ++ [[]] := by
  induction lines with
  | nil => rfl
  | cons line lines ih =>
    obtain ⟨hline, hlines⟩ := List.forall_mem_cons.mp h
    rw [List.flatMap_cons, List.append_assoc, List.singleton_append, pieces_append hline, ih hlines,
      List.cons_append]

end ReleaseLag.Text
