import Mathlib.Data.List.Basic
import ReleaseLag.Text.Basic

/-!
# `ReleaseLag.Proofs.Text.Ascii`: bytes of plain characters

A character below 128 is one byte in UTF-8, its own number. So the UTF-8 of a
text of such characters is the text itself, character by character
(`utf8_of_ascii`), and a reader of bytes can be followed along the text.
`ofUtf8?_utf8` reads any text back from its bytes.
-/

set_option autoImplicit false

namespace ReleaseLag.Proofs.Text

open ReleaseLag.Text (utf8 ofUtf8?)

/-- The byte with the number of a character. -/
def byteOf (c : Char) : UInt8 :=
  UInt8.ofNat c.toNat

/-- A plain character is one byte in UTF-8. -/
theorem utf8EncodeChar_of_ascii {c : Char} (h : c.toNat < 128) :
    String.utf8EncodeChar c = [byteOf c] := by
  have hsize : c.utf8Size = 1 := by
    rw [Char.utf8Size_eq_one_iff, UInt32.le_iff_toNat_le]
    exact Nat.le_of_lt_succ h
  rw [String.utf8EncodeChar_eq_singleton hsize]
  rfl

@[simp] theorem utf8_nil : utf8 [] = [] := rfl

@[simp] theorem utf8_append (s t : Text) : utf8 (s ++ t) = utf8 s ++ utf8 t :=
  List.flatMap_append

/-- The first byte of a text that begins with a plain character. -/
theorem utf8_cons_of_ascii {c : Char} (h : c.toNat < 128) (s : Text) :
    utf8 (c :: s) = byteOf c :: utf8 s := by
  show String.utf8EncodeChar c ++ utf8 s = byteOf c :: utf8 s
  rw [utf8EncodeChar_of_ascii h]
  rfl

/-- The UTF-8 of plain characters has one byte for each. -/
theorem utf8_of_ascii {s : Text} (h : ∀ c ∈ s, c.toNat < 128) : utf8 s = s.map byteOf := by
  induction s with
  | nil => rfl
  | cons c s ih =>
    rw [utf8_cons_of_ascii (h c List.mem_cons_self), List.map_cons,
      ih fun d hd => h d (List.mem_cons_of_mem c hd)]

/-- A text is read back from its UTF-8. -/
theorem ofUtf8?_utf8 (s : Text) : ofUtf8? (utf8 s) = some s := by
  have hbytes : ByteArray.mk (utf8 s).toArray = (String.ofList s).toByteArray := by
    rw [String.toByteArray_ofList]
    exact ByteArray.ext List.data_toByteArray.symm
  have hvalid : (String.ofList s).toByteArray.IsValidUTF8 := (String.ofList s).isValidUTF8
  rw [ofUtf8?, hbytes, String.fromUTF8?, dif_pos hvalid, Option.map_some]
  exact congrArg some String.toList_ofList

/-- Different texts have different bytes. -/
theorem utf8_injective {s t : Text} (h : utf8 s = utf8 t) : s = t := by
  have hread := ofUtf8?_utf8 s
  rw [h, ofUtf8?_utf8] at hread
  exact (Option.some.inj hread).symm

end ReleaseLag.Proofs.Text
