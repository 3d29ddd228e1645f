import ReleaseLag.Text.Basic

/-!
# `ReleaseLag.Decimal`: whole numbers in decimal digits

Writing uses no more digits than needed and a minus sign below zero. Reading
takes the value of a run of digits; which runs are numbers is for the formats
that hold them.
-/

set_option autoImplicit false

namespace ReleaseLag.Decimal

/-! ### Writing and reading back -/

/-- The digits of a natural number. -/
def ofNat (n : Nat) : Text :=
  Nat.toDigits 10 n

/-- The digits of an integer, after a minus sign when it is below zero. -/
def ofInt : Int → Text
  | .ofNat n => ofNat n
  | .negSucc n => '-' :: ofNat (n + 1)

/-- The digits of a natural number, filled up with zeros to a width. -/
def padded (width n : Nat) : Text :=
  List.leftpad width '0' (ofNat n)

/-- The number that a run of digits stands for. -/
def value (digits : Text) : Nat :=
  Nat.ofDigitChars 10 digits 0

/-- Written digits stand for the number that was written. -/
theorem value_ofNat (n : Nat) : value (ofNat n) = n :=
  Nat.ofDigitChars_toDigits (by decide) (by decide)

/-- What is written of a number is digits. -/
theorem isDigit_of_mem_ofNat {n : Nat} {c : Char} (h : c ∈ ofNat n) : c.isDigit = true :=
  Nat.isDigit_of_mem_toDigits (by decide) (by decide) h

/-- A number has at least one digit. -/
theorem ofNat_ne_nil (n : Nat) : ofNat n ≠ [] :=
  Nat.toDigits_ne_nil

/-- Only zero is written with a zero in front. -/
theorem head_ofNat_ne_zero {n : Nat} (hn : 0 < n) : (ofNat n).head? ≠ some '0' := by
  induction n using Nat.strongRecOn with
  | ind n ih =>
    unfold ofNat at ih ⊢
    by_cases hlt : n < 10
    · rw [Nat.toDigits_of_lt_base hlt, List.head?_cons]
      intro h
      have := Nat.digitChar_eq_zero.mp (Option.some.inj h)
      omega
    · -- The digits of `n / 10` come first.
      have hdiv := ih (n / 10) (by omega) (by omega)
      obtain ⟨c, cs, hcons⟩ := List.exists_cons_of_ne_nil (ofNat_ne_nil (n / 10))
      rw [ofNat] at hcons
      rw [hcons] at hdiv
      rw [Nat.toDigits_of_base_le (by omega) (by omega), hcons]
      exact hdiv

/-- Different numbers are written differently. -/
theorem ofNat_injective {m n : Nat} (h : ofNat m = ofNat n) : m = n := by
  rw [← value_ofNat m, h, value_ofNat]

/-! ### Fields -/

/-- Zeros in front change nothing about the number. -/
theorem value_padded (width n : Nat) : value (padded width n) = n := by
  rw [value, padded, List.leftpad, Nat.ofDigitChars_append, Nat.ofDigitChars_replicate_zero,
    Nat.mul_zero]
  exact value_ofNat n

theorem isDigit_of_mem_padded {width n : Nat} {c : Char} (h : c ∈ padded width n) :
    c.isDigit = true := by
  rcases List.mem_append.mp h with hzero | hdigit
  · rw [List.eq_of_mem_replicate hzero]
    rfl
  · exact isDigit_of_mem_ofNat hdigit

theorem length_padded (width n : Nat) : (padded width n).length = max width (ofNat n).length :=
  List.length_leftpad

/-- A number that has no more digits than the field fills it exactly. -/
theorem length_padded_of_lt {width n : Nat} (hwidth : 0 < width) (h : n < Nat.pow 10 width) :
    (padded width n).length = width := by
  have hdigits : (ofNat n).length ≤ width :=
    (Nat.length_toDigits_le_iff (by decide) hwidth).mpr h
  rw [length_padded, Nat.max_eq_left hdigits]

/-! ### Digits at the front of a text -/

/-- The longest run of digits at the front of a text, no longer than a limit
when there is one, and what follows it. -/
def takeDigits (limit : Option Nat) (s : Text) : Text × Text :=
  let run := (limit.elim s s.take).takeWhile Char.isDigit
  (run, s.drop run.length)

/-- The number that the digits at the front of a text stand for. -/
def takeNat (limit : Option Nat) (s : Text) : Option (Nat × Text) :=
  match takeDigits limit s with
  | ([], _) => none
  | (run, rest) => some (value run, rest)

end ReleaseLag.Decimal
