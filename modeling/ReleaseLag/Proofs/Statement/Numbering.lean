import ReleaseLag.Proofs.Except
import ReleaseLag.Proofs.Sql.Scan
import ReleaseLag.Statement.Basic

/-!
# `ReleaseLag.Proofs.Statement.Numbering`: numbers in order of first use

Numbering goes through the pieces of a text once and gives a placeholder its
number before it has seen the names behind it. Since names are only ever
added at the end (`firstUses_front`), that number is the one among all names
(`number_eq_ok`): the positional text is the text with each name replaced by
its place in the order of first use. It stops at the first placeholder without a
value (`number_eq_error`). Neither the text nor the names depend on where plain
text is cut (`flatMap_fill_atoms`, `uses_atoms`).
-/

set_option autoImplicit false

namespace ReleaseLag.Proofs.Statement

open ReleaseLag.Sql
open ReleaseLag.Statement
open ReleaseLag.Proofs.Sql

/-- The text of a piece with something else in place of a placeholder. -/
def fill (place : Text → Text) : Piece → Text
  | .text s => s
  | .placeholder name _ => place name

/-- The names of placeholders, each as often as it is used. -/
def uses : List Piece → List Text
  | [] => []
  | .text _ :: pieces => uses pieces
  | .placeholder name _ :: pieces => name :: uses pieces

/-- The names of placeholders, without the bytes they stand at. -/
theorem map_fst_placed (pieces : List Piece) : (placed pieces).map Prod.fst = uses pieces := by
  induction pieces with
  | nil => rfl
  | cons piece pieces ih => cases piece <;> simp [placed, uses, ih]

/-- Names with those that are used after them, each where it is used first. -/
def firstUses (names used : List Text) : List Text :=
  used.foldl noteName names

/-! ### Names in order of first use -/

theorem firstUses_append (names used more : List Text) :
    firstUses names (used ++ more) = firstUses (firstUses names used) more :=
  List.foldl_append

/-- A name is among the names once it is noted. -/
theorem mem_noteName (names : List Text) (name : Text) : name ∈ noteName names name := by
  unfold noteName
  split
  · next h => simpa using h
  · simp

/-- Noting a name leaves the names in front as they are. -/
theorem noteName_front (names : List Text) (name : Text) : names <+: noteName names name := by
  unfold noteName
  split
  · exact List.prefix_rfl
  · exact List.prefix_append names [name]

/-- Noting names leaves the names in front as they are. -/
theorem firstUses_front (names used : List Text) : names <+: firstUses names used := by
  induction used generalizing names with
  | nil => exact List.prefix_rfl
  | cons name used ih => exact (noteName_front names name).trans (ih _)

/-- A name that is used is among the names. -/
theorem mem_firstUses {names used : List Text} {name : Text} (h : name ∈ used) :
    name ∈ firstUses names used := by
  induction used generalizing names with
  | nil => cases h
  | cons other used ih =>
    rcases List.mem_cons.mp h with rfl | h
    · exact (firstUses_front (noteName names name) used).subset (mem_noteName names name)
    · exact ih h

/-- Names that were used before add nothing. -/
theorem firstUses_of_mem {names used : List Text} (h : ∀ name ∈ used, name ∈ names) :
    firstUses names used = names := by
  induction used with
  | nil => rfl
  | cons name used ih =>
    obtain ⟨hname, hused⟩ := List.forall_mem_cons.mp h
    have hnote : noteName names name = names := by simp [noteName, hname]
    have hstep : firstUses names (name :: used) = firstUses (noteName names name) used := rfl
    rw [hstep, hnote, ih hused]

/-- Names that are all new are added as they stand. -/
theorem firstUses_of_new {names used : List Text} (hnodup : used.Nodup)
    (hnew : ∀ name ∈ used, name ∉ names) : firstUses names used = names ++ used := by
  induction used generalizing names with
  | nil => simp [firstUses]
  | cons name used ih =>
    obtain ⟨hname, hused⟩ := List.forall_mem_cons.mp hnew
    obtain ⟨hfresh, hnodup⟩ := List.nodup_cons.mp hnodup
    have hnote : noteName names name = names ++ [name] := by simp [noteName, hname]
    have hrest : ∀ other ∈ used, other ∉ names ++ [name] := by
      intro other hmem hold
      rcases List.mem_append.mp hold with hold | hold
      · exact hused other hmem hold
      · exact hfresh (List.mem_singleton.mp hold ▸ hmem)
    have hstep : firstUses names (name :: used) = firstUses (noteName names name) used := rfl
    rw [hstep, hnote, ih hnodup hrest, List.append_assoc, List.singleton_append]

/-- Names that are all used and then used again, before others, come once. -/
theorem firstUses_again {names more : List Text} (hnodup : (names ++ more).Nodup) :
    firstUses [] (names ++ (names ++ more)) = names ++ more := by
  obtain ⟨hnames, hmore, hdisjoint⟩ := List.nodup_append.mp hnodup
  have hnew : ∀ name ∈ more, name ∉ names := fun name hmem hold =>
    hdisjoint name hold name hmem rfl
  rw [firstUses_append, firstUses_of_new hnames fun _ _ => List.not_mem_nil, List.nil_append,
    firstUses_append, firstUses_of_mem fun _ hmem => hmem, firstUses_of_new hmore hnew]

/-- The number of a name stays when names are added at the end. -/
theorem numbered_of_front {names all : List Text} {name : Text} (hfront : names <+: all)
    (hmem : name ∈ names) : numbered all name = numbered names name := by
  obtain ⟨more, rfl⟩ := hfront
  rw [numbered, numbered, List.idxOf_append, if_pos hmem]

/-! ### The positional text -/

/-- Pieces whose placeholders all have values are numbered by first use. -/
theorem number_eq_ok {params : NameMap ParamValue} {pieces : List Piece} (names : List Text)
    (hbound : ∀ name ∈ uses pieces, (params.get? name).isSome = true) :
    number params names pieces
      = .ok (pieces.flatMap (fill (numbered (firstUses names (uses pieces)))),
          firstUses names (uses pieces)) := by
  -- The names so far grow along the pieces, so the induction is for any names.
  induction pieces generalizing names with
  | nil => rfl
  | cons piece pieces ih =>
    cases piece with
    | text s =>
      rw [number, ih names hbound]
      rfl
    | placeholder name position =>
      obtain ⟨hname, hrest⟩ := List.forall_mem_cons.mp hbound
      obtain ⟨value, hvalue⟩ := Option.isSome_iff_exists.mp hname
      -- The number is given among the names so far, and stands for good.
      have hnumber : numbered (firstUses (noteName names name) (uses pieces)) name
          = numbered (noteName names name) name :=
        numbered_of_front (firstUses_front _ _) (mem_noteName names name)
      have hstep : firstUses names (uses (.placeholder name position :: pieces))
          = firstUses (noteName names name) (uses pieces) := rfl
      rw [number, hvalue, hstep]
      simp only [ih (noteName names name) hrest, ok_bind, pure_eq_ok, List.flatMap_cons, fill,
        hnumber]

/-- A placeholder whose name has no value. -/
def lacksValue (params : NameMap ParamValue) (placeholder : Text × Nat) : Bool :=
  (params.get? placeholder.1).isNone

/-- The first placeholder without a value ends the numbering. -/
theorem number_eq_error {params : NameMap ParamValue} {pieces : List Piece} {name : Text}
    {position : Nat} (names : List Text)
    (h : (placed pieces).find? (lacksValue params) = some (name, position)) :
    number params names pieces = .error (.template ⟨position, .unboundPlaceholder name⟩) := by
  induction pieces generalizing names with
  | nil => cases h
  | cons piece pieces ih =>
    cases piece with
    | text s => rw [number, ih names h, error_bind]
    | placeholder other found =>
      rw [placed, List.find?_cons] at h
      cases hvalue : params.get? other with
      | none =>
        have hhead : some (other, found) = some (name, position) := by
          simpa [lacksValue, hvalue] using h
        cases hhead
        rw [number, hvalue]
      | some value =>
        have hlater : (placed pieces).find? (lacksValue params) = some (name, position) := by
          simpa [lacksValue, hvalue] using h
        rw [number, hvalue]
        simp only [ih (noteName names other) hlater, error_bind]

/-! ### Where plain text is cut -/

theorem flatMap_fill_letters (place : Text → Text) (s : Text) :
    (letters s).flatMap (fill place) = s := by
  induction s with
  | nil => rfl
  | cons c s ih =>
    have hstep : (letters (c :: s)).flatMap (fill place)
        = c :: (letters s).flatMap (fill place) := rfl
    rw [hstep, ih]

theorem uses_append (pieces more : List Piece) :
    uses (pieces ++ more) = uses pieces ++ uses more := by
  induction pieces with
  | nil => rfl
  | cons piece pieces ih => cases piece <;> simp [uses, ih]

theorem uses_letters (s : Text) : uses (letters s) = [] := by
  induction s with
  | nil => rfl
  | cons c s ih => exact ih

/-- Cutting text into characters does not change the filled text. -/
theorem flatMap_fill_atoms (place : Text → Text) (pieces : List Piece) :
    (atoms pieces).flatMap (fill place) = pieces.flatMap (fill place) := by
  induction pieces with
  | nil => rfl
  | cons piece pieces ih =>
    cases piece with
    | text s => rw [atoms, List.flatMap_append, ih, flatMap_fill_letters, List.flatMap_cons, fill]
    | placeholder name position => rw [atoms, List.flatMap_cons, ih, List.flatMap_cons]

/-- Cutting text into characters does not change the names. -/
theorem uses_atoms (pieces : List Piece) : uses (atoms pieces) = uses pieces := by
  induction pieces with
  | nil => rfl
  | cons piece pieces ih =>
    cases piece with
    | text s => rw [atoms, uses_append, uses_letters, ih, List.nil_append, uses]
    | placeholder name position => rw [atoms, uses, ih, uses]

end ReleaseLag.Proofs.Statement
