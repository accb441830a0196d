import Interpolation.Text.Cased
import Interpolation.Text.CaseTable

/-!
# Lower and upper case of a text

Both mappings go character by character through their tables, with one exception: a capital sigma becomes
the final form when it ends its word, that is when a cased character stands before it and none behind it,
case-ignorable characters passed over on both sides.
-/

namespace Interpolation.Text

/-- Whether the nearest character that is not case-ignorable is cased. -/
def meetsCased (neighbours : List Char) : Bool :=
  match neighbours.dropWhile isCaseIgnorable with
  | c :: _ => isCased c
  | [] => false

/-- The lower-case form of the rest of a text, `before` being what has been read, in reverse. -/
def lowerAfter (before : List Char) : List Char → List Char
  | [] => []
  | c :: rest =>
    let image :=
      if c = 'Σ' then
        if meetsCased before && !meetsCased rest then ['ς'] else ['σ']
      else
        lowerTable.map c
    image ++ lowerAfter (c :: before) rest

/-- The lower-case form of a text. -/
def lowerCase (s : String) : String := String.ofList (lowerAfter [] s.toList)

/-- The upper-case form of a text. -/
def upperCase (s : String) : String := String.ofList (s.toList.flatMap upperTable.map)

end Interpolation.Text
