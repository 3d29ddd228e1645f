import ReleaseLag.Decimal

/-!
# `ReleaseLag.Proofs.Text.Numerals`: what a written number looks like

`IsNatural`, `IsInteger` and `IsField` say which texts are the written forms of
a number, by the digits that are in them and not by how they are found: the
digits stand for the number, and there are no more of them than there have to
be. A field has at least as many digits as it is wide.

`Decimal` writes these forms (`isInteger_ofInt`, `isField_padded`).
-/

set_option autoImplicit false

namespace ReleaseLag.Proofs.Text

/-- Digits that stand for a number. -/
structure IsDigits (n : Nat) (s : Text) : Prop where
  digit : ∀ c ∈ s, c.isDigit = true
  value : Decimal.value s = n

/-- A natural number is written with a digit at least, and a zero in front only if
nothing is behind it. -/
structure IsNatural (n : Nat) (s : Text) : Prop extends IsDigits n s where
  ne_nil : s ≠ []
  shortest : s.head? = some '0' → s = ['0']

/-- An integer is written with a minus sign if it is below zero, and no sign
otherwise. -/
inductive IsInteger : Int → Text → Prop
  | natural {n : Nat} {s : Text} (h : IsNatural n s) : IsInteger n s
  | negative {n : Nat} {s : Text} (hpos : 0 < n) (h : IsNatural n s) : IsInteger (-n) ('-' :: s)

/-- A field is filled up with zeros to its width. A number that is wider has no
zero in front. -/
structure IsField (width n : Nat) (s : Text) : Prop extends IsDigits n s where
  width_le : width ≤ s.length
  shortest : width < s.length → s.head? ≠ some '0'

/-! ### Written numbers -/

theorem isNatural_ofNat (n : Nat) : IsNatural n (Decimal.ofNat n) := by
  refine ⟨⟨?digit, ?value⟩, ?ne_nil, ?shortest⟩
  case digit => exact fun _ hmem => Decimal.isDigit_of_mem_ofNat hmem
  case value => exact Decimal.value_ofNat n
  case ne_nil => exact Decimal.ofNat_ne_nil n
  case shortest =>
    intro hzero
    rcases Nat.eq_zero_or_pos n with rfl | hpos
    · rfl
    · exact absurd hzero (Decimal.head_ofNat_ne_zero hpos)

theorem isInteger_ofInt (n : Int) : IsInteger n (Decimal.ofInt n) := by
  cases n with
  | ofNat n => exact .natural (isNatural_ofNat n)
  | negSucc n => exact .negative (Nat.succ_pos n) (isNatural_ofNat (n + 1))

theorem isField_padded {width : Nat} (hwidth : 0 < width) (n : Nat) :
    IsField width n (Decimal.padded width n) := by
  have hlength := Decimal.length_padded width n
  refine ⟨⟨?digit, ?value⟩, ?width_le, ?shortest⟩
  case digit => exact fun _ hmem => Decimal.isDigit_of_mem_padded hmem
  case value => exact Decimal.value_padded width n
  case width_le => omega
  case shortest =>
    intro hwider
    -- Nothing is filled up then, and only zero has a zero in front.
    have hnone : width - (Decimal.ofNat n).length = 0 := by omega
    rw [Decimal.padded, List.leftpad, hnone]
    refine Decimal.head_ofNat_ne_zero ?_
    rcases Nat.eq_zero_or_pos n with rfl | hpos
    · have hone : (Decimal.ofNat 0).length = 1 := rfl
      omega
    · exact hpos

end ReleaseLag.Proofs.Text
