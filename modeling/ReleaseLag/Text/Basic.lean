/-!
# `ReleaseLag.Text.Basic`: text and bytes

Text is a list of characters, so that a reader is a recursion on the list and
a proof an induction on it. Positions in messages count the bytes of UTF-8:
`Text.size` measures them, and `Text.size_append` says that the measure adds
up along a text.
-/

set_option autoImplicit false

namespace ReleaseLag

/-- A text, character by character. -/
abbrev Text := List Char

/-- A byte string, for documents that need not be UTF-8. -/
abbrev Bytes := List UInt8

/-- A stretch is cut off whole, if what follows does not go on with it. -/
theorem cut_append {α : Type} {p : α → Bool} {s rest : List α} (hs : ∀ a ∈ s, p a = true)
    (hrest : ∀ a ∈ rest.head?, p a = false) :
    (s ++ rest).takeWhile p = s ∧ (s ++ rest).dropWhile p = rest := by
  rw [List.takeWhile_append_of_pos hs, List.dropWhile_append_of_pos hs]
  cases rest with
  | nil => simp
  | cons a rest => simp [hrest a rfl]

namespace Text

/-- The number of bytes of a text in UTF-8. -/
def size : Text → Nat
  | [] => 0
  | c :: rest => c.utf8Size + size rest

@[simp] theorem size_nil : size [] = 0 := rfl

@[simp] theorem size_cons (c : Char) (s : Text) : size (c :: s) = c.utf8Size + size s := rfl

@[simp] theorem size_append (s t : Text) : size (s ++ t) = size s + size t := by
  induction s with
  | nil => simp
  | cons c s ih => simp [ih, Nat.add_assoc]

/-- The bytes of a text in UTF-8. -/
def utf8 (s : Text) : Bytes :=
  s.flatMap String.utf8EncodeChar

/-- The text that bytes spell in UTF-8, if they spell one. -/
def ofUtf8? (bytes : Bytes) : Option Text :=
  (String.fromUTF8? (ByteArray.mk bytes.toArray)).map String.toList

/-- The text with every occurrence of a word, found from left to right,
followed by an insertion. The word is not empty. -/
def insertAfter (word insertion : Text) (s : Text) : Text :=
  go s.length s
where
  /-- One step either copies the word with its insertion or one character. -/
  go : Nat → Text → Text
    | 0, s => s
    | _ + 1, [] => []
    | n + 1, c :: rest =>
      if word.isPrefixOf (c :: rest) then
        word ++ insertion ++ go n ((c :: rest).drop word.length)
      else c :: go n rest

end Text

end ReleaseLag
