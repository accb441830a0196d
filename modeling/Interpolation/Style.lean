/-!
# Styled terminal text

A style (`Interpolation.Style`) is bold or dim type and a colour. `Interpolation.Style.paint` puts the control
sequence of a style in front of a text and the reset behind it; where the text itself holds a reset, the style
is set again after it, so that a painted text may contain painted parts.
-/

namespace Interpolation

/-- The colours in use. -/
inductive Colour where
  | red | green | yellow | blue | cyan
deriving DecidableEq, Repr

/-- The number of a foreground colour in a control sequence. -/
def Colour.code : Colour → String
  | red => "31"
  | green => "32"
  | yellow => "33"
  | blue => "34"
  | cyan => "36"

/-- **How a piece of text is set.** -/
structure Style where
  /-- Heavier type. -/
  bold : Bool := false
  /-- Fainter type. -/
  dim : Bool := false
  /-- A foreground colour. -/
  colour : Option Colour := none

namespace Style

/-- The control sequence that sets a style: weight first, then colour. -/
def sequence (style : Style) : List Char :=
  let codes := (if style.bold then ["1"] else []) ++ (if style.dim then ["2"] else [])
    ++ (style.colour.map Colour.code).toList
  ['\x1b', '['] ++ (";".intercalate codes).toList ++ ['m']

/-- The control sequence that ends every style. -/
def reset : List Char := ['\x1b', '[', '0', 'm']

/-- A text in which every reset is followed by the given control sequence. -/
def resume (sequence : List Char) : List Char → List Char
  | '\x1b' :: '[' :: '0' :: 'm' :: rest => reset ++ sequence ++ resume sequence rest
  | c :: rest => c :: resume sequence rest
  | [] => []

/-- **A text in a style**, or the bare text when colours are off. -/
def paint (style : Style) (coloured : Bool) (text : String) : String :=
  if coloured then
    String.ofList (style.sequence ++ resume style.sequence text.toList ++ reset)
  else
    text

/-- What went well. -/
def good : Style where
  bold := true
  colour := some .green

/-- What went wrong. -/
def bad : Style where
  bold := true
  colour := some .red

/-- What deserves the eye. -/
def strong : Style where
  bold := true

/-- What can be skipped. -/
def faint : Style where
  dim := true

/-- A text in a colour alone. -/
def tint (colour : Colour) : Style where
  colour := some colour

end Style

end Interpolation
