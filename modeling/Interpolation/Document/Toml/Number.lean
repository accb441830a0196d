import Interpolation.Decimal.Nearest
import Interpolation.Document
import Interpolation.Document.Toml.Text

/-!
# Numbers of TOML

Integers are decimal with an optional sign or hexadecimal, octal or binary without one, and have to fit into 64
bits with a sign. Floats are decimal with a fraction or an exponent, or one of the words for infinity and for
no number; the double is the nearest one. A positive float must not be too large, while a negative one that is
too large is infinite. Between two digits there may be an underscore.
-/

namespace Interpolation.Toml

open Grammar

/-- Digits with single underscores between them; the underscores are dropped. -/
def digitRun (isDigit : Char → Bool) : Grammar (List Char) := do
  let first ← satisfy isDigit
  let rest ← many (satisfy isDigit <|> char '_' *> satisfy isDigit)
  return first :: rest

/-- An optional sign; whether it is a minus. -/
def sign : Grammar Bool := do
  return (← optional (satisfy fun c => c == '+' || c == '-')) == some '-'

/-- The digits before a point: a zero alone or digits that do not start with zero. -/
def integralRun : Grammar (List Char) := do
  match ← peek with
  | some '0' => char '0'; return ['0']
  | _ => digitRun Char.isDigit

/-- An integer that fits. -/
def fitting (n : Int) : Grammar Document := do
  require (Int64.minValue.toInt ≤ n && n ≤ Int64.maxValue.toInt)
  return .integer n

/-- A decimal integer. -/
def decimalInteger : Grammar Document := do
  let negative ← sign
  let size := digitsIn 10 (← integralRun)
  fitting (if negative then -size else size)

/-- An integer whose base is given by the letter behind a leading zero. -/
def prefixedInteger (letter : Char) (base : Nat) : Grammar Document := do
  char '0'
  char letter
  fitting (digitsIn base (← digitRun fun c => (digitValue? c).any (· < base)))

/-- An integer. -/
def integer : Grammar Document :=
  prefixedInteger 'x' 16 <|> prefixedInteger 'o' 8 <|> prefixedInteger 'b' 2 <|> decimalInteger

/-- The exponent of a float. -/
def exponent : Grammar Int := do
  let _ ← satisfy fun c => c == 'e' || c == 'E'
  let negative ← sign
  let size := digitsIn 10 (← digitRun Char.isDigit)
  return if negative then -size else size

/-- The double nearest to a decimal, the exponent being cut down to where it cannot matter any more. -/
def nearestDouble (digits : Nat) (exponent : Int) (places : Nat) : Float :=
  let bound : Int := 400 + places
  Decimal.nearestScaled digits (max (-bound) (min bound exponent))

/-- A float in decimal digits. -/
def decimalFloat : Grammar Document := do
  let negative ← sign
  let integral ← integralRun
  let fraction ← optional (char '.' *> digitRun Char.isDigit)
  let power ← if fraction.isSome then optional exponent else some <$> exponent
  let digits := integral ++ fraction.getD []
  let x := nearestDouble (digitsIn 10 digits) (power.getD 0 - (fraction.getD []).length) digits.length
  require (negative || !x.isInf)
  return .float (if negative then -x else x)

/-- Infinity and no number. -/
def specialFloat : Grammar Document := do
  let negative ← sign
  let infinity : Float := 1 / 0
  (do literal "inf"; return .float (if negative then -infinity else infinity))
    <|> (do literal "nan"; return .float (infinity - infinity))

/-- **A number.** -/
def number : Grammar Document := decimalFloat <|> specialFloat <|> integer

end Interpolation.Toml
