import ReleaseLag.Proofs.Sql.Replacement
import ReleaseLag.Proofs.Statement.Positional

/-!
# `ReleaseLag.Proofs.Statement.FixedPoint`: numbering twice

Numbers are words that open nothing (`inert_numbered`), so by
`grains_scan_replaced` the positional text of a statement is scanned as the text
was, with plain text for its placeholders. A text without placeholders is its
own positional text (`ofSql_of_placed_eq_nil`). Together, numbering a second
time changes nothing and binds nothing, whatever the values are:
`positional_fixed`.
-/

set_option autoImplicit false

namespace ReleaseLag.Proofs.Statement

open ReleaseLag.Sql
open ReleaseLag.Sql.Piece (isOpener)
open ReleaseLag.Statement
open ReleaseLag.Proofs.Sql

/-- Numbers open nothing: a dollar sign and digits. -/
theorem inert_numbered (names : List Text) (name : Text) : Inert (numbered names name) := by
  refine ⟨fun c hc => ?_, rfl⟩
  rcases List.mem_cons.mp hc with rfl | hc
  · decide
  · have hdigit := Decimal.isDigit_of_mem_ofNat hc
    have hname : Text.isNameChar c = true := by simp [Text.isNameChar, Char.isAlphanum, hdigit]
    exact isOpener_of_isNameChar hname

/-- Filling the places of placeholders is replacing the pieces. -/
theorem flatMap_fill_eq (place : Text → Text) (pieces : List Piece) :
    pieces.flatMap (fill place) = (pieces.map (replaced place)).flatMap Piece.spell := by
  rw [List.flatMap_map]
  congr 1
  funext piece
  cases piece <;> rfl

/-- Where there are no placeholders, nothing is filled in. -/
theorem flatMap_fill_of_placed_eq_nil {pieces : List Piece} (h : placed pieces = [])
    (place : Text → Text) : pieces.flatMap (fill place) = pieces.flatMap Piece.spell := by
  induction pieces with
  | nil => rfl
  | cons piece pieces ih =>
    cases piece with
    | text s => rw [List.flatMap_cons, List.flatMap_cons, ih h, fill, Piece.spell]
    | placeholder name position => cases h

/-- A text without placeholders is its own positional text, whatever values
there are. -/
theorem ofSql_of_placed_eq_nil {sql : Text} (h : placed (Piece.ofText sql) = [])
    (params : NameMap ParamValue) :
    ∃ s, Statement.ofSql sql params = .ok s ∧ s.positionalSql = sql ∧ s.positionalParams = [] := by
  have huses : uses (Piece.ofText sql) = [] := by rw [← map_fst_placed, h, List.map_nil]
  have hbound : ∀ name ∈ uses (Piece.ofText sql), (params.get? name).isSome = true := by
    rw [huses]
    rintro name ⟨⟩
  obtain ⟨s, hs, hnumbers⟩ := ofSql_of_bound hbound
  refine ⟨s, hs, ?_, ?_⟩
  · rw [hnumbers.text, flatMap_fill_of_placed_eq_nil h, Piece.spell_ofText]
  · have horder : s.order = [] := by
      rw [List.eq_nil_iff_forall_not_mem]
      intro name hname
      have hused := (hnumbers.order.mem_iff name).mp hname
      rw [huses] at hused
      cases hused
    rw [positionalParams, horder, List.filterMap_nil]

/-- The positional text of a statement is a fixed point:

1. it has no placeholder;
2. its pieces are those of the text, with the number for each placeholder, but
   for where plain text is cut, so that literals, identifiers and comments
   begin and end where they did;
3. with any values it has a statement again, which has the same positional text
   and binds no value. -/
theorem positional_fixed {sql : Text} {params : NameMap ParamValue} {s : Statement}
    (h : Statement.ofSql sql params = .ok s) :
    placed (Piece.ofText s.positionalSql) = []
      ∧ (Piece.ofText s.positionalSql).flatMap grain
        = ((Piece.ofText sql).map (replaced (numbered s.order))).flatMap grain
      ∧ ∀ others, ∃ t, Statement.ofSql s.positionalSql others = .ok t
          ∧ t.positionalSql = s.positionalSql ∧ t.positionalParams = [] := by
  have hgrains : (Piece.ofText s.positionalSql).flatMap grain
      = ((Piece.ofText sql).map (replaced (numbered s.order))).flatMap grain := by
    rw [(numbers_of_ofSql h).2.text, flatMap_fill_eq]
    exact grains_scan_replaced (inert_numbered s.order) 0 0 sql
  have hnone : placed (Piece.ofText s.positionalSql) = [] := by
    rw [← placed_grains, hgrains, placed_grains, placed_map_replaced]
  exact ⟨hnone, hgrains, ofSql_of_placed_eq_nil hnone⟩

/-- Placeholders next to each other, behind an at sign, between dashes and in
front of quotes, and names that are none inside a literal, an identifier and a
comment. -/
def crowdedSql : Text :=
  "'it''s @y'@a-@b@@a\"@c\"@b'@d--@e".toList

/-- Values for the placeholders, and one more. -/
def crowdedParams : NameMap ParamValue :=
  .ofList [("a".toList, .int 1), ("b".toList, .int 2), ("z".toList, .int 3)]

/-- The statement of the crowded text. -/
def crowdedStatement : Statement where
  sql := crowdedSql
  params := crowdedParams
  positionalSql := "'it''s @y'$1-$2@$1\"@c\"$2'@d--@e".toList
  order := ["a".toList, "b".toList]

theorem positional_fixed_crowded :
    Statement.ofSql crowdedSql crowdedParams = .ok crowdedStatement
      ∧ placed (Piece.ofText crowdedStatement.positionalSql) = []
      ∧ (Piece.ofText crowdedStatement.positionalSql).flatMap grain
        = ((Piece.ofText crowdedSql).map (replaced (numbered crowdedStatement.order))).flatMap grain
      ∧ ∀ others, ∃ t, Statement.ofSql crowdedStatement.positionalSql others = .ok t
          ∧ t.positionalSql = crowdedStatement.positionalSql ∧ t.positionalParams = [] := by
  have hstatement : Statement.ofSql crowdedSql crowdedParams = .ok crowdedStatement := by
    -- The scan is a recursion on the length of the text, which unfolds only here.
    with_unfolding_all rfl
  exact ⟨hstatement, positional_fixed hstatement⟩

end ReleaseLag.Proofs.Statement
