import Interpolation.Text.Printable
import Interpolation.Text.GraphemeExtend

/-!
# The quoted form of a text

A text shown to a person between double quotes, such that every character of it can be told: the quote and
the backslash are escaped, the usual controls have their short escapes, and every other character that has no
glyph of its own is given by its code point in hexadecimal. A single quote stands for itself.
-/

namespace Interpolation.Text

/-- A number in lower-case hexadecimal, without leading zeros. -/
def hexadecimal (n : Nat) : List Char := Nat.toDigits 16 n

/-- How one character is written inside the quotes. -/
def quotedChar (c : Char) : List Char :=
  match c with
  | '\x00' => ['\\', '0']
  | '\t' => ['\\', 't']
  | '\n' => ['\\', 'n']
  | '\r' => ['\\', 'r']
  | '"' => ['\\', '"']
  | '\\' => ['\\', '\\']
  | _ =>
    if isPrintable c && !extendsGrapheme c then
      [c]
    else
      ['\\', 'u', '{'] ++ hexadecimal c.toNat ++ ['}']

/-- A text between double quotes, every character of it visible. -/
def quoted (s : String) : String :=
  String.ofList ('"' :: s.toList.flatMap quotedChar ++ ['"'])

end Interpolation.Text
