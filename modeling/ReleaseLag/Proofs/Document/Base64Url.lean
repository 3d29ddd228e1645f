import ReleaseLag.Document.Base64Url
import ReleaseLag.Proofs.Except
import ReleaseLag.Proofs.Text.Ascii

/-!
# `ReleaseLag.Proofs.Document.Base64Url`: bytes read back from symbols

`decode_encode` says that bytes come back from their symbols. Symbols are
plain characters, so the text of symbols is one byte for each
(`utf8_symbol_cons`). The reader works in groups of four and judges the last
group apart: `lastSymbols_symbols` and `decodeLast_*` follow it there, and
`decodeFrom_encode` is the induction over groups of three bytes.

Symbols that are read back determine the bytes, so different bytes have
different texts (`encode_injective`).
-/

set_option autoImplicit false

namespace ReleaseLag.Proofs.Document

open ReleaseLag.Document.Base64Url
open ReleaseLag.Text (utf8)
open ReleaseLag.Proofs.Text

/-- The byte of a symbol. -/
def symbolByte (n : Nat) : UInt8 :=
  byteOf (symbol n)

/-- Symbols are plain characters. -/
theorem symbol_lt : ∀ n, n < 64 → (symbol n).toNat < 128 := by
  decide

/-- A symbol stands for its number. -/
theorem value?_symbolByte : ∀ n, n < 64 → value? (symbolByte n) = some n := by
  decide

/-- No symbol is the padding sign. -/
theorem symbolByte_ne_padding {n : Nat} (h : n < 64) : symbolByte n ≠ padding := by
  intro heq
  have hvalue : value? padding = some n := heq ▸ value?_symbolByte n h
  have hnone : value? padding = none := by decide
  rw [hnone] at hvalue
  cases hvalue

/-- Reading a symbol's byte gives its number. -/
theorem valueAt_symbolByte {n : Nat} (h : n < 64) (offset : Nat) :
    valueAt (symbolByte n) offset = .ok n := by
  rw [valueAt, value?_symbolByte n h]

/-- A symbol in front of a text is one byte in front of its UTF-8. -/
theorem utf8_symbol_cons {n : Nat} (h : n < 64) (s : Text) :
    utf8 (symbol n :: s) = symbolByte n :: utf8 s :=
  utf8_cons_of_ascii (symbol_lt n h) s

/-- Symbols of the last group are read with their numbers, and no padding is
met. -/
theorem lastSymbols_symbols (start index : Nat) (ns : List Nat) (h : ∀ n ∈ ns, n < 64) :
    lastSymbols start index none (ns.map symbolByte)
      = .ok (ns.map fun n => (symbolByte n, n), none) := by
  induction ns generalizing index with
  | nil => rfl
  | cons n ns ih =>
    have hn : n < 64 := h n List.mem_cons_self
    rw [List.map_cons, lastSymbols, if_neg (symbolByte_ne_padding hn)]
    simp only [valueAt_symbolByte hn, ih (index + 1) fun m hm => h m (List.mem_cons_of_mem n hm)]
    rfl

/-- A byte is given by its number, however that is computed. -/
theorem ofNat_eq_of_toNat {n : Nat} {b : UInt8} (h : n = b.toNat) : UInt8.ofNat n = b := by
  rw [h, UInt8.ofNat_toNat]

section
variable {p q r s : Nat} (start : Nat)

/-- Two last symbols are one byte, if no bits are left over. -/
theorem decodeLast_two (hp : p < 64) (hq : q < 64) (hbits : q % 16 = 0) :
    decodeLast start [symbolByte p, symbolByte q] = .ok [UInt8.ofNat (p * 4 + q / 16)] := by
  have hread := lastSymbols_symbols start 0 [p, q] (by simp [hp, hq])
  simp only [List.map_cons, List.map_nil] at hread
  simp [decodeLast, hread, hbits]

/-- Three last symbols are two bytes, if no bits are left over. -/
theorem decodeLast_three (hp : p < 64) (hq : q < 64) (hr : r < 64) (hbits : r % 4 = 0) :
    decodeLast start [symbolByte p, symbolByte q, symbolByte r]
      = .ok [UInt8.ofNat (p * 4 + q / 16), UInt8.ofNat (q % 16 * 16 + r / 4)] := by
  have hread := lastSymbols_symbols start 0 [p, q, r] (by simp [hp, hq, hr])
  simp only [List.map_cons, List.map_nil] at hread
  simp [decodeLast, hread, hbits]

/-- Four symbols are three bytes, whether or not another group follows. -/
theorem decodeFrom_four (hp : p < 64) (hq : q < 64) (hr : r < 64) (hs : s < 64)
    {after : Bytes} {bytes : Bytes}
    (hafter : decodeFrom (start + 4) after = .ok bytes) (hempty : after = [] → bytes = []) :
    decodeFrom start
        (symbolByte p :: symbolByte q :: symbolByte r :: symbolByte s :: after)
      = .ok (UInt8.ofNat (p * 4 + q / 16) :: UInt8.ofNat (q % 16 * 16 + r / 4)
          :: UInt8.ofNat (r % 4 * 64 + s) :: bytes) := by
  cases after with
  | nil =>
    -- The group of four is the last one.
    have hread := lastSymbols_symbols start 0 [p, q, r, s] (by simp [hp, hq, hr, hs])
    simp only [List.map_cons, List.map_nil] at hread
    rw [hempty rfl]
    simp [decodeFrom, decodeLast, hread]
  | cons e after =>
    rw [decodeFrom, valueAt_symbolByte hp, valueAt_symbolByte hq, valueAt_symbolByte hr,
      valueAt_symbolByte hs, hafter]
    rfl

end

/-- Only no bytes have no symbols. -/
theorem eq_nil_of_encode_eq_nil {bytes : Bytes} (h : utf8 (encode bytes) = []) : bytes = [] := by
  have hnil : encode bytes = [] := utf8_injective h
  unfold encode at hnil
  split at hnil
  · cases hnil
  · cases hnil
  · cases hnil
  · rfl

/-- Bytes come back from the text of their symbols, wherever it begins. -/
theorem decodeFrom_encode (start : Nat) (bytes : Bytes) :
    decodeFrom start (utf8 (encode bytes)) = .ok bytes := by
  -- Writing takes three bytes at a time, so the cases are its own; the numbers
  -- of the symbols put the bits of each byte together again.
  fun_induction encode bytes generalizing start with
  | case1 a b c rest ih =>
    have ha := a.toNat_lt
    have hb := b.toNat_lt
    have hc := c.toNat_lt
    rw [utf8_symbol_cons (by omega), utf8_symbol_cons (by omega), utf8_symbol_cons (by omega),
      utf8_symbol_cons (by omega),
      decodeFrom_four start (by omega) (by omega) (by omega) (by omega) (ih (start + 4))
        eq_nil_of_encode_eq_nil,
      ofNat_eq_of_toNat (b := a) (by omega), ofNat_eq_of_toNat (b := b) (by omega),
      ofNat_eq_of_toNat (b := c) (by omega)]
  | case2 a b =>
    have ha := a.toNat_lt
    have hb := b.toNat_lt
    rw [utf8_symbol_cons (by omega), utf8_symbol_cons (by omega), utf8_symbol_cons (by omega)]
    show decodeLast start _ = _
    rw [utf8_nil, decodeLast_three start (by omega) (by omega) (by omega) (by omega),
      ofNat_eq_of_toNat (b := a) (by omega), ofNat_eq_of_toNat (b := b) (by omega)]
  | case3 a =>
    have ha := a.toNat_lt
    rw [utf8_symbol_cons (by omega), utf8_symbol_cons (by omega)]
    show decodeLast start _ = _
    rw [utf8_nil, decodeLast_two start (by omega) (by omega) (by omega),
      ofNat_eq_of_toNat (b := a) (by omega)]
  | case4 => rfl

/-- Each character of a text of symbols is one. -/
theorem exists_symbol_of_mem {bytes : Bytes} {c : Char} (h : c ∈ encode bytes) :
    ∃ n, n < 64 ∧ symbol n = c := by
  fun_induction encode bytes with
  | case1 x y z rest ih =>
    have hx := x.toNat_lt
    have hy := y.toNat_lt
    have hz := z.toNat_lt
    simp only [List.mem_cons] at h
    rcases h with rfl | rfl | rfl | rfl | h
    · exact ⟨_, by omega, rfl⟩
    · exact ⟨_, by omega, rfl⟩
    · exact ⟨_, by omega, rfl⟩
    · exact ⟨_, by omega, rfl⟩
    · exact ih h
  | case2 x y =>
    have hx := x.toNat_lt
    have hy := y.toNat_lt
    simp only [List.mem_cons, List.not_mem_nil, or_false] at h
    rcases h with rfl | rfl | rfl
    · exact ⟨_, by omega, rfl⟩
    · exact ⟨_, by omega, rfl⟩
    · exact ⟨_, by omega, rfl⟩
  | case3 x =>
    have hx := x.toNat_lt
    simp only [List.mem_cons, List.not_mem_nil, or_false] at h
    rcases h with rfl | rfl
    · exact ⟨_, by omega, rfl⟩
    · exact ⟨_, by omega, rfl⟩
  | case4 => cases h

/-- Each byte of a text of symbols stands for a number. -/
theorem isSome_value?_of_mem {bytes : Bytes} {b : UInt8} (h : b ∈ utf8 (encode bytes)) :
    (value? b).isSome = true := by
  have hascii : ∀ c ∈ encode bytes, c.toNat < 128 := by
    intro c hc
    obtain ⟨n, hn, rfl⟩ := exists_symbol_of_mem hc
    exact symbol_lt n hn
  rw [utf8_of_ascii hascii, List.mem_map] at h
  obtain ⟨c, hc, rfl⟩ := h
  obtain ⟨n, hn, rfl⟩ := exists_symbol_of_mem hc
  exact Option.isSome_of_eq_some (value?_symbolByte n hn)

/-- Bytes come back from the text of their symbols. -/
theorem decode_encode (bytes : Bytes) : decode (utf8 (encode bytes)) = .ok bytes := by
  -- The last byte is looked at before the groups are.
  have hstray : strayEnd? (utf8 (encode bytes)) = none := by
    unfold strayEnd?
    split
    · next b hlast =>
      have hb := isSome_value?_of_mem (List.mem_of_getLast? hlast)
      rw [if_neg]
      rintro ⟨-, -, hnone⟩
      rw [Option.isNone_iff_eq_none] at hnone
      rw [hnone] at hb
      cases hb
    · rfl
  rw [decode, hstray]
  exact decodeFrom_encode 0 bytes

/-- Different bytes have different symbols. -/
theorem encode_injective {xs ys : Bytes} (h : encode xs = encode ys) : xs = ys := by
  have hread := decode_encode xs
  rw [h, decode_encode] at hread
  exact (Except.ok.inj hread).symm

end ReleaseLag.Proofs.Document
