import ReleaseLag.Proofs.Statement.Numbering

/-!
# `ReleaseLag.Proofs.Statement.Layout`: query text clause by clause

A query text that somebody composed is words around parameters. A `Clause`
is one parameter with the words before and after it, and a layout is a list
of clauses behind some words. If the words open nothing and no name runs into
the words after it, the statement of the text is known without scanning it:
`ofSql_layout` says that its parameters are those of the clauses, and that its
positional text is the same layout with numbers for names.
-/

set_option autoImplicit false

namespace ReleaseLag.Proofs.Statement

open ReleaseLag.Sql
open ReleaseLag.Sql.Piece (scan)
open ReleaseLag.Statement
open ReleaseLag.Proofs.Sql

/-- A parameter in query text, with the words around it. -/
structure Clause where
  before : Text
  name : Text
  after : Text

/-- A parameter as it is written in query text. -/
def named (name : Text) : Text :=
  '@' :: name

namespace Clause

/-- The text of a clause, with something in place of its parameter. -/
def spell (place : Text → Text) (c : Clause) : Text :=
  c.before ++ (place c.name ++ c.after)

/-- The scanner finds the parameter of a clause and nothing else in it. -/
structure Clear (c : Clause) : Prop where
  before : Quiet c.before
  name : Text.isName c.name = true
  after : Quiet c.after
  apart : c.after.head?.any (fun d => !Text.isNameChar d) = true

/-- The test for the words of a clause, which its name has no part in. -/
def hasClearWords (c : Clause) : Bool :=
  isQuiet c.before && isQuiet c.after && c.after.head?.any (fun d => !Text.isNameChar d)

/-- A clause is clear if its words pass the test and its name is one. -/
theorem clear_of_hasClearWords {c : Clause} (hwords : c.hasClearWords = true)
    (hname : Text.isName c.name = true) : c.Clear := by
  simp only [hasClearWords, Bool.and_eq_true] at hwords
  obtain ⟨⟨hbefore, hafter⟩, hapart⟩ := hwords
  exact ⟨quiet_of_isQuiet hbefore, hname, quiet_of_isQuiet hafter, hapart⟩

end Clause

/-- The text of clauses behind some words. -/
def layout (place : Text → Text) (lead : Text) (clauses : List Clause) : Text :=
  lead ++ clauses.flatMap (Clause.spell place)

/-- The atoms of a clause, whatever follows it. -/
theorem atoms_scan_clause {c : Clause} (h : c.Clear) (rest : Text) (position : Nat) :
    atoms (scan position (c.spell named ++ rest))
      = letters c.before ++ .placeholder c.name (position + Text.size c.before)
          :: (letters c.after ++ atoms (scan (position + Text.size (c.spell named)) rest)) := by
  -- The four parts of a clause are taken off one by one, each in front of the
  -- parts behind it.
  have happend : c.spell named ++ rest
      = c.before ++ ('@' :: (c.name ++ (c.after ++ rest))) := by simp [Clause.spell, named]
  have hapart : ∀ d ∈ (c.after ++ rest).head?, Text.isNameChar d = false := by
    have hapart := h.apart
    cases hafter : c.after with
    | nil => simp [hafter] at hapart
    | cons d after => simpa [hafter] using hapart
  have hat : '@'.utf8Size = 1 := rfl
  have hsize : position + Text.size c.before + 1 + Text.size c.name + Text.size c.after
      = position + Text.size (c.spell named) := by
    simp only [Clause.spell, named, Text.size_append, Text.size_cons, hat]
    omega
  rw [happend, atoms_scan_quiet h.before, scan_placeholder h.name hapart, atoms,
    atoms_scan_quiet h.after, hsize]

/-- The pieces of clauses, filled in, are the clauses filled in. -/
theorem flatMap_fill_scan_clauses {clauses : List Clause} (h : ∀ c ∈ clauses, c.Clear)
    (place : Text → Text) (position : Nat) :
    (scan position (clauses.flatMap (Clause.spell named))).flatMap (fill place)
      = clauses.flatMap (Clause.spell place) := by
  induction clauses generalizing position with
  | nil => simp [scan]
  | cons c clauses ih =>
    obtain ⟨hc, hclauses⟩ := List.forall_mem_cons.mp h
    rw [← flatMap_fill_atoms, List.flatMap_cons, atoms_scan_clause hc, List.flatMap_append,
      flatMap_fill_letters, List.flatMap_cons, List.flatMap_append, flatMap_fill_letters,
      flatMap_fill_atoms, ih hclauses, List.flatMap_cons]
    simp [fill, Clause.spell]

/-- The names used by the pieces of clauses are the names of the clauses. -/
theorem uses_scan_clauses {clauses : List Clause} (h : ∀ c ∈ clauses, c.Clear) (position : Nat) :
    uses (scan position (clauses.flatMap (Clause.spell named))) = clauses.map Clause.name := by
  induction clauses generalizing position with
  | nil => simp [scan, uses]
  | cons c clauses ih =>
    obtain ⟨hc, hclauses⟩ := List.forall_mem_cons.mp h
    rw [← uses_atoms, List.flatMap_cons, atoms_scan_clause hc, uses_append, uses_letters, uses,
      uses_append, uses_letters, uses_atoms, ih hclauses]
    rfl

/-- The statement of a layout whose parameters all have values. -/
theorem ofSql_layout {params : NameMap ParamValue} {lead : Text} {clauses : List Clause}
    (hlead : Quiet lead) (hclear : ∀ c ∈ clauses, c.Clear)
    (hbound : ∀ c ∈ clauses, (params.get? c.name).isSome = true) :
    Statement.ofSql (layout named lead clauses) params
      = .ok {
          sql := layout named lead clauses
          params
          positionalSql := layout (numbered (firstUses [] (clauses.map Clause.name))) lead clauses
          order := firstUses [] (clauses.map Clause.name) } := by
  have hpieces := atoms_scan_quiet hlead (clauses.flatMap (Clause.spell named)) 0
  have huses : uses (Piece.ofText (layout named lead clauses)) = clauses.map Clause.name := by
    rw [Piece.ofText, layout, ← uses_atoms, hpieces, uses_append, uses_letters, uses_atoms,
      uses_scan_clauses hclear, List.nil_append]
  have hfill : ∀ place : Text → Text,
      (Piece.ofText (layout named lead clauses)).flatMap (fill place)
        = layout place lead clauses := by
    intro place
    rw [Piece.ofText, layout, ← flatMap_fill_atoms, hpieces, List.flatMap_append,
      flatMap_fill_letters, flatMap_fill_atoms, flatMap_fill_scan_clauses hclear, layout]
  have hall : ∀ name ∈ uses (Piece.ofText (layout named lead clauses)),
      (params.get? name).isSome = true := by
    rw [huses]
    exact List.forall_mem_map.mpr hbound
  rw [Statement.ofSql, number_eq_ok [] hall, huses, hfill]
  rfl

end ReleaseLag.Proofs.Statement
