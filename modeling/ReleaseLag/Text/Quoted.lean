import ReleaseLag.Text.Printable

/-!
# `ReleaseLag.Text.Quoted`: text between quotes

A text that a message quotes is written so that one line shows it: quotes and
backslashes get a backslash, the common controls a letter, and every other
character that is not shown as itself its code point in braces.
-/

set_option autoImplicit false

namespace ReleaseLag.Text

/-- A number in hexadecimal digits, lower case. -/
def hexDigits (n : Nat) : Text :=
  Nat.toDigits 16 n

/-- How a character stands between quotes. -/
def quotedChar (c : Char) : Text :=
  if c = '\x00' then ['\\', '0']
  else if c = '\t' then ['\\', 't']
  else if c = '\r' then ['\\', 'r']
  else if c = '\n' then ['\\', 'n']
  else if c = '\\' then ['\\', '\\']
  else if c = '"' then ['\\', '"']
  else if isPrintable c then [c]
  else ['\\', 'u', '{'] ++ hexDigits c.toNat ++ ['}']

/-- A text between quotes. -/
def quoted (s : Text) : Text :=
  '"' :: s.flatMap quotedChar ++ ['"']

end ReleaseLag.Text
