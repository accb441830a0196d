/-!
# Data values

The values that a data document can spell: the default of a keyword parameter is one, and so is everything
that this library reports in a machine-readable form (`Interpolation.Value`). Integers and floats are told
apart, and an object keeps its fields in the order in which they were put.
-/

namespace Interpolation

/-- **A data value.** -/
inductive Value where
  /-- The absent value. -/
  | null
  /-- A truth value. -/
  | boolean (value : Bool)
  /-- An integer. -/
  | integer (value : Int)
  /-- A finite double. -/
  | float (value : Float)
  /-- A text. -/
  | string (value : String)
  /-- A sequence of values. -/
  | array (elements : List Value)
  /-- Named values, in order. -/
  | object (fields : List (String × Value))
deriving Inhabited, BEq

namespace Value

/-- A number of things. -/
def count (n : Nat) : Value := .integer n

/-- An array of texts. -/
def strings (texts : List String) : Value := .array (texts.map .string)

/-- A text, or `null` where there is none. -/
def string? (text : Option String) : Value := text.elim .null .string

end Value

end Interpolation
