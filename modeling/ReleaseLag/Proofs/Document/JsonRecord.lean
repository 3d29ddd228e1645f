import ReleaseLag.Proofs.Document.JsonNumber
import ReleaseLag.Proofs.Except

/-!
# `ReleaseLag.Proofs.Document.JsonRecord`: members read one by one

`members_integer` is the step of the reader of records: a member whose key is
a declared field and whose value is an integer in range is read, and the rest
follows. `members_close` is its end. A record that is written member by
member is read by as many steps.
-/

set_option autoImplicit false

namespace ReleaseLag.Proofs.Document

open ReleaseLag.Document
open ReleaseLag.Document.Json
open ReleaseLag.Text (utf8 ofUtf8?)
open ReleaseLag.Proofs.Text

/-- A byte that stands for itself in a string: neither a quote nor a
backslash nor a control character. -/
def IsVerbatim (b : UInt8) : Prop :=
  b ≠ 0x22 ∧ b ≠ 0x5C ∧ ¬b < 0x20

instance (b : UInt8) : Decidable (IsVerbatim b) :=
  inferInstanceAs (Decidable (_ ∧ _ ∧ _))

/-- A name is verbatim if the test says so of all its bytes. -/
theorem isVerbatim_of_all {name : Text}
    (h : (utf8 name).all (fun b => decide (IsVerbatim b)) = true) :
    ∀ b ∈ utf8 name, IsVerbatim b := by
  intro b hb
  exact of_decide_eq_true (List.all_eq_true.mp h b hb)

/-- Verbatim bytes are read up to the closing quote. -/
theorem stringBytes?_go_verbatim {fuel : Nat} {bytes rest : Bytes}
    (hbytes : ∀ b ∈ bytes, IsVerbatim b) (hfuel : bytes.length < fuel) :
    stringBytes?.go fuel (bytes ++ 0x22 :: rest) = some (bytes, rest) := by
  induction bytes generalizing fuel with
  | nil =>
    cases fuel with
    | zero => cases hfuel
    | succ fuel => rfl
  | cons b bytes ih =>
    cases fuel with
    | zero => cases hfuel
    | succ fuel =>
      obtain ⟨hquote, hslash, hcontrol⟩ := hbytes b List.mem_cons_self
      rw [List.cons_append, stringBytes?.go, if_neg hquote, if_neg hslash, if_neg hcontrol,
        ih (fun d hd => hbytes d (List.mem_cons_of_mem b hd)) (Nat.lt_of_succ_lt_succ hfuel)]
      rfl

/-- A key of verbatim bytes is read back. -/
theorem string?_utf8 {name : Text} (hname : ∀ b ∈ utf8 name, IsVerbatim b) (rest : Bytes) :
    string? (utf8 name ++ 0x22 :: rest) = some (name, rest) := by
  have hbytes : stringBytes? (utf8 name ++ 0x22 :: rest) = some (utf8 name, rest) :=
    stringBytes?_go_verbatim hname (by simp)
  simp [string?, hbytes, ofUtf8?_utf8]

/-- A member of a record, written without blanks, behind a comma unless it is
the first. -/
def memberBytes (first : Bool) (name : Text) (n : Int) : Bytes :=
  (if first then [0x22] else [0x2C, 0x22]) ++ utf8 name ++ [0x22, 0x3A] ++ utf8 (Decimal.ofInt n)

/-- A number ends where the next member begins. -/
theorem endsNumber_memberBytes (name : Text) (n : Int) (rest : Bytes) :
    EndsNumber (memberBytes false name n ++ rest) := by
  rintro b ⟨⟩
  decide

/-- A number ends where the record does. -/
theorem endsNumber_close (rest : Bytes) : EndsNumber (0x7D :: rest) := by
  rintro b ⟨⟩
  decide

/-- Nothing is skipped in front of a byte that is no white space. -/
theorem skipSpace_cons {b : UInt8} (h : isSpace b = false) (s : Bytes) :
    skipSpace (b :: s) = b :: s := by
  rw [skipSpace, List.dropWhile_cons_of_neg (by simp [h])]

/-- A written integer begins with no white space. -/
theorem skipSpace_ofInt (n : Int) (rest : Bytes) :
    skipSpace (utf8 (Decimal.ofInt n) ++ rest) = utf8 (Decimal.ofInt n) ++ rest := by
  have hdigit : ∀ b, isDigit b = true → isSpace b = false := by
    intro b hb
    simp only [isDigit, Bool.and_eq_true, decide_eq_true_eq, UInt8.le_iff_toNat_le] at hb
    simp only [isSpace, Bool.or_eq_false_iff, decide_eq_false_iff_not]
    refine ⟨⟨⟨?_, ?_⟩, ?_⟩, ?_⟩ <;> (rintro rfl; revert hb; decide)
  cases n with
  | ofNat n =>
    obtain ⟨b, bs, hcons⟩ := List.exists_cons_of_ne_nil (utf8_ofNat_ne_nil n)
    have hb := isDigit_of_mem_utf8_ofNat (n := n) (b := b) (hcons ▸ List.mem_cons_self)
    show skipSpace (utf8 (Decimal.ofNat n) ++ rest) = utf8 (Decimal.ofNat n) ++ rest
    rw [hcons]
    exact skipSpace_cons (hdigit b hb) _
  | negSucc n => exact skipSpace_cons (by decide) _

section
variable {shape : Shape} {found : List (Text × Cell)} {fuel : Nat} {first : Bool} {rest : Bytes}

/-- The number of a field is read, if it is in the field's range. -/
theorem value_integer {range : Range} {n : Int} (hrange : range.holds n = true)
    (hlow : -9223372036854775808 ≤ range.low) (hhigh : range.high ≤ 18446744073709551615)
    (hrest : EndsNumber rest) :
    Json.value (.integer range) (utf8 (Decimal.ofInt n) ++ rest) = .ok (.integer n, rest) := by
  have hbounds : range.low ≤ n ∧ n ≤ range.high := by
    simpa [Range.holds] using hrange
  have hnumber := number?_ofInt (n := n) (Int.le_trans hlow hbounds.1)
    (Int.le_trans hbounds.2 hhigh) hrest
  simp [Json.value, skipSpace_ofInt, hnumber, hrange]

/-- The key of a written member is found, and its colon and value follow. -/
theorem key?_memberBytes {name : Text} {n : Int} (hname : ∀ b ∈ utf8 name, IsVerbatim b) :
    key? first (memberBytes first name n ++ rest)
      = some (name, 0x3A :: (utf8 (Decimal.ofInt n) ++ rest)) := by
  have hkey := string?_utf8 hname (0x3A :: (utf8 (Decimal.ofInt n) ++ rest))
  cases first with
  | true => simpa [memberBytes, key?] using hkey
  | false =>
    have hquote : ∀ s, skipSpace (0x22 :: s) = 0x22 :: s := skipSpace_cons (by decide)
    simpa [memberBytes, key?, hquote] using hkey

/-- One member is read: its key is declared and new, and its value is in
range. -/
theorem members_integer (range : Range) {name : Text} {n : Int}
    (hname : ∀ b ∈ utf8 name, IsVerbatim b)
    (hfield : shape.fields.lookup name = some (.integer range)) (hnew : found.lookup name = none)
    (hrange : range.holds n = true) (hlow : -9223372036854775808 ≤ range.low)
    (hhigh : range.high ≤ 18446744073709551615) (hrest : EndsNumber rest) :
    members shape (fuel + 1) found first (memberBytes first name n ++ rest)
      = members shape fuel (found ++ [(name, .integer n)]) false rest := by
  -- Neither a quote nor a comma closes the record.
  have hopen : ∃ b s, memberBytes first name n ++ rest = b :: s ∧ isSpace b = false ∧ b ≠ 0x7D := by
    cases first with
    | true => exact ⟨0x22, _, rfl, by decide, by decide⟩
    | false => exact ⟨0x2C, _, rfl, by decide, by decide⟩
  obtain ⟨b, s, hcons, hspace, hbrace⟩ := hopen
  have hkey : key? first (memberBytes first name n ++ rest)
      = some (name, 0x3A :: (utf8 (Decimal.ofInt n) ++ rest)) := key?_memberBytes hname
  have hcolon : colon? (0x3A :: (utf8 (Decimal.ofInt n) ++ rest))
      = some (utf8 (Decimal.ofInt n) ++ rest) := by
    rw [colon?, skipSpace_cons (by decide)]
    rfl
  have hvalue : Json.value (.integer range) (utf8 (Decimal.ofInt n) ++ rest)
      = .ok (.integer n, rest) := value_integer hrange hlow hhigh hrest
  rw [hcons] at hkey ⊢
  rw [members, skipSpace_cons hspace]
  split
  · next heq => exact absurd (List.cons.inj heq).1 hbrace
  · simp [hkey, wellFormed, hfield, hnew, hcolon, hvalue]

/-- A record ends with its closing brace. -/
theorem members_close :
    members shape (fuel + 1) found first (0x7D :: rest)
      = (collect found shape.fields).map fun cells => (cells, rest) := by
  rw [members, skipSpace_cons (by decide)]
  cases collect found shape.fields with
  | error e => rfl
  | ok cells => rfl

end

end ReleaseLag.Proofs.Document
