import ReleaseLag.Document.Json
import ReleaseLag.Proofs.Text.Ascii

/-!
# `ReleaseLag.Proofs.Document.JsonNumber`: integers read back from JSON

`number?_ofInt` says that an integer of 64 bits, written in decimal digits,
is read back as that integer, up to the first byte that cannot go on with a
number. Three facts about decimal digits carry it: they are plain characters
(`utf8_ofNat`), only zero begins with a zero (`Decimal.head_ofNat_ne_zero`), and
appending them one after the other stays within the number they stand for
(`appendDigits_digits`).
-/

set_option autoImplicit false

namespace ReleaseLag.Proofs.Document

open ReleaseLag.Document.Json
open ReleaseLag.Text (utf8)
open ReleaseLag.Proofs.Text

/-! ### Digits as bytes -/

/-- The numbers of digit characters. -/
theorem toNat_of_isDigit {c : Char} (h : c.isDigit = true) : 48 ≤ c.toNat ∧ c.toNat ≤ 57 := by
  simp only [Char.isDigit, Bool.and_eq_true, decide_eq_true_eq, ge_iff_le,
    UInt32.le_iff_toNat_le] at h
  exact h

/-- A digit is one byte, which has the digit's number. -/
theorem toNat_byteOf_digit {c : Char} (h : c.isDigit = true) : (byteOf c).toNat = c.toNat := by
  have hc := toNat_of_isDigit h
  rw [byteOf, UInt8.toNat_ofNat', Nat.mod_eq_of_lt (by omega)]

/-- The byte of a digit is a digit. -/
theorem isDigit_byteOf {c : Char} (h : c.isDigit = true) : isDigit (byteOf c) = true := by
  have hc := toNat_of_isDigit h
  have hb := toNat_byteOf_digit h
  simp only [isDigit, Bool.and_eq_true, decide_eq_true_eq, UInt8.le_iff_toNat_le, hb]
  exact hc

/-- The byte of a digit has the digit's value. -/
theorem digitValue_byteOf {c : Char} (h : c.isDigit = true) :
    digitValue (byteOf c) = c.toNat - '0'.toNat := by
  rw [digitValue, toNat_byteOf_digit h]
  rfl

/-- Written digits are one byte each. -/
theorem utf8_ofNat (n : Nat) : utf8 (Decimal.ofNat n) = (Decimal.ofNat n).map byteOf := by
  refine utf8_of_ascii fun c hc => ?_
  have := toNat_of_isDigit (Decimal.isDigit_of_mem_ofNat hc)
  omega

/-- A written number has a byte at least. -/
theorem utf8_ofNat_ne_nil (n : Nat) : utf8 (Decimal.ofNat n) ≠ [] := by
  rw [utf8_ofNat, Ne, List.map_eq_nil_iff]
  exact Decimal.ofNat_ne_nil n

/-- Each byte of a written number is a digit. -/
theorem isDigit_of_mem_utf8_ofNat {n : Nat} {b : UInt8} (h : b ∈ utf8 (Decimal.ofNat n)) :
    isDigit b = true := by
  rw [utf8_ofNat, List.mem_map] at h
  obtain ⟨c, hc, rfl⟩ := h
  exact isDigit_byteOf (Decimal.isDigit_of_mem_ofNat hc)

/-- Appending digits to a number does not make it smaller. -/
theorem le_ofDigitChars (digits : Text) (n : Nat) : n ≤ Nat.ofDigitChars 10 digits n := by
  induction digits generalizing n with
  | nil => exact Nat.le_of_eq Nat.ofDigitChars_nil.symm
  | cons c digits ih =>
    rw [Nat.ofDigitChars_cons]
    have := ih (10 * n + (c.toNat - '0'.toNat))
    omega

/-- Digits are all appended if the number they make is within 64 bits. -/
theorem appendDigits_digits {digits : Text} (hdigits : ∀ c ∈ digits, c.isDigit = true) {n : Nat}
    (hle : Nat.ofDigitChars 10 digits n ≤ significandLimit) :
    appendDigits n (digits.map byteOf) = (Nat.ofDigitChars 10 digits n, []) := by
  induction digits generalizing n with
  | nil => rw [Nat.ofDigitChars_nil, List.map_nil, appendDigits]
  | cons c digits ih =>
    rw [Nat.ofDigitChars_cons] at hle ⊢
    have hstep := le_ofDigitChars digits (10 * n + (c.toNat - '0'.toNat))
    rw [List.map_cons, appendDigits, digitValue_byteOf (hdigits c List.mem_cons_self),
      if_pos (Nat.le_trans hstep hle)]
    exact ih (fun d hd => hdigits d (List.mem_cons_of_mem c hd)) hle

/-- The digits of a number of 64 bits stand for it. -/
theorem appendDigits_ofNat {n : Nat} (h : n ≤ significandLimit) :
    appendDigits 0 (utf8 (Decimal.ofNat n)) = (n, []) := by
  have hvalue : Nat.ofDigitChars 10 (Decimal.ofNat n) 0 = n := Decimal.value_ofNat n
  rw [utf8_ofNat, appendDigits_digits (fun c hc => Decimal.isDigit_of_mem_ofNat hc), hvalue]
  rw [hvalue]
  exact h

/-! ### Numbers in front of a rest -/

/-- Bytes that cannot go on with a number: they begin with no digit, no point
and no exponent. -/
def EndsNumber (rest : Bytes) : Prop :=
  ∀ b ∈ rest.head?, isDigit b = false ∧ b ≠ 0x2E ∧ b ≠ 0x65 ∧ b ≠ 0x45

/-- The digits of a number are cut off whole. -/
theorem wholeDigits?_ofNat (n : Nat) {rest : Bytes} (hrest : EndsNumber rest) :
    wholeDigits? (utf8 (Decimal.ofNat n) ++ rest) = some (utf8 (Decimal.ofNat n), rest) := by
  cases Nat.eq_zero_or_pos n with
  | inl hzero =>
    subst hzero
    have hhead : (rest.head?.map isDigit).getD false = false := by
      cases rest with
      | nil => rfl
      | cons b rest => exact (hrest b rfl).1
    show wholeDigits? (0x30 :: rest) = some ([0x30], rest)
    rw [wholeDigits?, hhead]
    rfl
  | inr hpos =>
    obtain ⟨c, cs, hcons⟩ := List.exists_cons_of_ne_nil (Decimal.ofNat_ne_nil n)
    have hdigit : ∀ d ∈ c :: cs, d.isDigit = true := fun d hd =>
      Decimal.isDigit_of_mem_ofNat (n := n) (hcons ▸ hd)
    have hc : c ≠ '0' := by
      intro heq
      exact Decimal.head_ofNat_ne_zero hpos (by rw [hcons, heq]; rfl)
    -- Its first byte is no zero, so the run of digits is taken as it is.
    have hb : byteOf c ≠ 0x30 := by
      intro heq
      have hn := toNat_byteOf_digit (hdigit c List.mem_cons_self)
      rw [heq] at hn
      exact hc (Char.toNat_inj.mp hn.symm)
    have hrun : ∀ b ∈ cs.map byteOf, isDigit b = true := by
      intro b hb
      obtain ⟨d, hd, rfl⟩ := List.mem_map.mp hb
      exact isDigit_byteOf (hdigit d (List.mem_cons_of_mem c hd))
    obtain ⟨htake, hdrop⟩ := cut_append hrun fun b hb => (hrest b hb).1
    rw [utf8_ofNat, hcons, List.map_cons, List.cons_append, wholeDigits?.eq_def]
    split
    · next heq => exact absurd (List.cons.inj heq).1 hb
    · next heq =>
      obtain ⟨rfl, rfl⟩ := List.cons.inj heq
      rw [if_pos (isDigit_byteOf (hdigit c List.mem_cons_self)), htake, hdrop]
    · next heq => cases heq

/-- Behind a whole number there is no fraction. -/
theorem fractionDigits?_of_endsNumber {rest : Bytes} (hrest : EndsNumber rest) :
    fractionDigits? rest = some (none, rest) := by
  unfold fractionDigits?
  split
  · exact absurd rfl (hrest 0x2E rfl).2.1
  · rfl

/-- Behind a whole number there is no exponent. -/
theorem exponent?_of_endsNumber {rest : Bytes} (hrest : EndsNumber rest) :
    exponent? rest = some (none, rest) := by
  cases rest with
  | nil => rfl
  | cons b rest =>
    obtain ⟨-, -, he, hE⟩ := hrest b rfl
    have hmark : ¬(b = 0x65 ∨ b = 0x45) := not_or.mpr ⟨he, hE⟩
    unfold exponent?
    exact if_neg hmark

/-- A number without sign of 64 bits is read back. -/
theorem number?_ofNat {n : Nat} (h : n ≤ significandLimit) {rest : Bytes}
    (hrest : EndsNumber rest) :
    number? (utf8 (Decimal.ofNat n) ++ rest) = some (.integer n, rest) := by
  have hsign : ∀ s, utf8 (Decimal.ofNat n) ++ rest ≠ 0x2D :: s := by
    intro s heq
    obtain ⟨b, bs, hcons⟩ := List.exists_cons_of_ne_nil (utf8_ofNat_ne_nil n)
    have hb := isDigit_of_mem_utf8_ofNat (n := n) (b := b) (hcons ▸ List.mem_cons_self)
    rw [hcons] at heq
    rw [(List.cons.inj heq).1] at hb
    exact absurd hb (by decide)
  unfold number?
  split
  next negative s hmatch =>
    split at hmatch
    · next heq => exact absurd heq (hsign _)
    · obtain ⟨rfl, rfl⟩ := Prod.mk.inj hmatch
      simp [wholeDigits?_ofNat n hrest, fractionDigits?_of_endsNumber hrest,
        exponent?_of_endsNumber hrest, appendDigits_ofNat h, wholeNumber]

/-- An integer of 64 bits is read back. -/
theorem number?_ofInt {n : Int} (hlow : -9223372036854775808 ≤ n)
    (hhigh : n ≤ 18446744073709551615) {rest : Bytes} (hrest : EndsNumber rest) :
    number? (utf8 (Decimal.ofInt n) ++ rest) = some (.integer n, rest) := by
  cases n with
  | ofNat n => exact number?_ofNat (Int.ofNat_le.mp hhigh) hrest
  | negSucc n =>
    have hn : n + 1 ≤ 9223372036854775808 := by omega
    have hlimit : n + 1 ≤ significandLimit := Nat.le_trans hn (by decide)
    show number? (0x2D :: (utf8 (Decimal.ofNat (n + 1)) ++ rest)) = _
    simp [number?, wholeDigits?_ofNat (n + 1) hrest, fractionDigits?_of_endsNumber hrest,
      exponent?_of_endsNumber hrest, appendDigits_ofNat hlimit, wholeNumber, hn]
    omega

end ReleaseLag.Proofs.Document
