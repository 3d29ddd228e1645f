import ReleaseLag.Text.Basic

/-!
# `ReleaseLag.Text.Blank`: white space

The Unicode property `White_Space` holds of twenty-five characters. Trimming
and splitting into words go by it, so a no-break space or a line separator
counts as white space and a zero-width space does not.
-/

set_option autoImplicit false

namespace ReleaseLag.Text

/-- The characters with the property `White_Space`. -/
def isBlank (c : Char) : Bool :=
  let n := c.toNat
  (0x09 ≤ n && n ≤ 0x0D) || n = 0x20 || n = 0x85 || n = 0xA0 || n = 0x1680
    || (0x2000 ≤ n && n ≤ 0x200A) || n = 0x2028 || n = 0x2029 || n = 0x202F
    || n = 0x205F || n = 0x3000

/-- The text without the white space it begins with. -/
def trimStart (s : Text) : Text :=
  s.dropWhile isBlank

/-- The text without the white space at either end. -/
def trim (s : Text) : Text :=
  (trimStart (trimStart s).reverse).reverse

/-- The maximal runs of characters that are not white space, in order. -/
def words : Text → List Text
  | [] => []
  | c :: rest =>
    if isBlank c then words rest
    else
      match rest, words rest with
      | [], _ => [[c]]
      | next :: _, found =>
        if isBlank next then [c] :: found
        else
          match found with
          | [] => [[c]]
          | word :: later => (c :: word) :: later

/-- The words of a text with one space between each two. -/
def collapse (s : Text) : Text :=
  [' '].intercalate (words s)

end ReleaseLag.Text
