import Interpolation.Decimal.Shortest
import Interpolation.Text.Quoted
import Interpolation.Value

/-!
# The text of a data value

Two spellings of a `Interpolation.Value` as a JSON text: `Interpolation.Value.compact` on one line without
blanks, and `Interpolation.Value.pretty` with one element per line, two columns deeper for each level, an
empty array or object staying closed up.
-/

namespace Interpolation.Value

/-- How one character is written inside a string: the quote and the backslash are escaped, the controls have
their short escapes or four hexadecimal digits, and every other character stands for itself. -/
def escapedChar (c : Char) : List Char :=
  match c with
  | '"' => ['\\', '"']
  | '\\' => ['\\', '\\']
  | '\x08' => ['\\', 'b']
  | '\x0c' => ['\\', 'f']
  | '\n' => ['\\', 'n']
  | '\r' => ['\\', 'r']
  | '\t' => ['\\', 't']
  | _ =>
    if c.toNat < 0x20 then
      ['\\', 'u', '0', '0'] ++ (if c.toNat < 0x10 then ['0'] else []) ++ Text.hexadecimal c.toNat
    else
      [c]

/-- A string between its quotes. -/
def stringText (s : String) : String :=
  String.ofList ('"' :: s.toList.flatMap escapedChar ++ ['"'])

/-- The text of a value that has no parts. -/
def scalarText : Value → String
  | boolean true => "true"
  | boolean false => "false"
  | integer n => toString n
  | float x => Decimal.floatText x
  | string s => stringText s
  | _ => "null"

/-- The opening brace of an object. -/
def openBrace : String := "\x7b"

/-- The closing brace of an object. -/
def closeBrace : String := "\x7d"

mutual

/-- **The text of a value on one line**, without blanks. -/
def compact : Value → String
  | array elements => "[" ++ ",".intercalate (compactElements elements) ++ "]"
  | object fields => openBrace ++ ",".intercalate (compactFields fields) ++ closeBrace
  | scalar => scalar.scalarText

/-- The elements of an array, each on one line. -/
def compactElements : List Value → List String
  | [] => []
  | element :: rest => compact element :: compactElements rest

/-- The fields of an object, each on one line. -/
def compactFields : List (String × Value) → List String
  | [] => []
  | (name, value) :: rest => (stringText name ++ ":" ++ compact value) :: compactFields rest

end

/-- The start of a line at the given level. -/
def margin (level : Nat) : String := "".pushn ' ' (2 * level)

/-- Parts between brackets, one a line; without parts the brackets stay together. -/
def block (opening closing : String) (level : Nat) (parts : List String) : String :=
  if parts.isEmpty then
    opening ++ closing
  else
    opening ++ "\n" ++ ",\n".intercalate (parts.map (margin (level + 1) ++ ·)) ++ "\n"
      ++ margin level ++ closing

mutual

/-- The text of a value laid out over several lines, its first line already being indented. -/
def prettyAt (level : Nat) : Value → String
  | array elements => block "[" "]" level (prettyElements (level + 1) elements)
  | object fields => block openBrace closeBrace level (prettyFields (level + 1) fields)
  | scalar => scalar.scalarText

/-- The elements of an array, laid out. -/
def prettyElements (level : Nat) : List Value → List String
  | [] => []
  | element :: rest => prettyAt level element :: prettyElements level rest

/-- The fields of an object, laid out. -/
def prettyFields (level : Nat) : List (String × Value) → List String
  | [] => []
  | (name, value) :: rest =>
    (stringText name ++ ": " ++ prettyAt level value) :: prettyFields level rest

end

/-- **The text of a value over several lines.** -/
def pretty (value : Value) : String := prettyAt 0 value

end Interpolation.Value
