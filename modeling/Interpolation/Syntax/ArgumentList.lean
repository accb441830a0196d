import Interpolation.Text.Blank
import Interpolation.Text.Width

/-!
# Argument lists

The text between the parentheses of a call is cut into arguments at its *top-level* commas: those outside
quotes at which as many parentheses have been opened as closed. The state of the walk along the text is an
`Interpolation.Nesting`. Its depth is an integer and may go below zero, where no comma cuts. So a stray closing
parenthesis keeps what is behind it together, but only while the depth is below zero: an opening one brings it
back, and from there on commas cut again.

`Interpolation.ArgumentList.pieces` cuts, `Interpolation.ArgumentList.split` then trims each piece and records
the offset of its first character that is not blank. An empty argument counts, except as the last one.
-/

namespace Interpolation

/-- **The state of the walk along an argument list.** The depth is an integer of any size. In 32 bits it would be
the same for every text of fewer than 2³¹ characters, as it stays within their number
(`Interpolation.Nesting.natAbs_depth_walk_le`). -/
structure Nesting where
  /-- Parentheses opened less parentheses closed. -/
  depth : Int
  /-- The quotation mark that is still to be closed. -/
  quote : Option Char
deriving DecidableEq

namespace Nesting

/-- Outside all parentheses and quotes. -/
def outside : Nesting := ⟨0, none⟩

/-- The state behind one more character. Inside quotes only the mark that opened them counts. -/
def step (state : Nesting) (c : Char) : Nesting :=
  match state.quote with
  | some mark => if c = mark then ⟨state.depth, none⟩ else state
  | none =>
    if c = '"' ∨ c = '\'' then ⟨state.depth, some c⟩
    else if c = '(' then ⟨state.depth + 1, none⟩
    else if c = ')' then ⟨state.depth - 1, none⟩
    else state

/-- Whether a character met in this state ends an argument. -/
def cuts (state : Nesting) (c : Char) : Bool := c == ',' && state == outside

/-- The state behind a text. -/
def walk (state : Nesting) (s : List Char) : Nesting := s.foldl step state

end Nesting

/-- **An argument in an argument list.** -/
structure Argument where
  /-- The byte offset of its first character. -/
  offset : Nat
  /-- The argument without the blanks around it. -/
  text : List Char
deriving DecidableEq

namespace ArgumentList

/-- A character put in front of the first of several pieces. -/
def consFirst (c : Char) : List (List Char) → List (List Char)
  | [] => [[c]]
  | piece :: rest => (c :: piece) :: rest

/-- The pieces of a text between the commas that cut it, a walk along it starting in the given state. -/
def pieces (state : Nesting) : List Char → List (List Char)
  | [] => [[]]
  | c :: rest =>
    if state.cuts c then [] :: pieces state rest
    else consFirst c (pieces (state.step c) rest)

/-- Pieces as arguments, the first of them starting at the given offset and a comma standing between each two
of them. -/
def place (start : Nat) : List (List Char) → List Argument
  | [] => []
  | piece :: rest =>
    ⟨start + Text.width (Text.leading piece), Text.trim piece⟩ :: place (start + Text.width piece + 1) rest

/-- A list of arguments without the last one if that one is empty. -/
def dropEmptyLast : List Argument → List Argument
  | [] => []
  | [argument] => if argument.text.isEmpty then [] else [argument]
  | argument :: rest => argument :: dropEmptyLast rest

/-- **The arguments of an argument list**, with their offsets in it. -/
def split (raw : List Char) : List Argument := dropEmptyLast (place 0 (pieces .outside raw))

end ArgumentList

end Interpolation
