import Interpolation.Decimal.Nearest
import Interpolation.Document
import Interpolation.Document.Digits

/-!
# JSON documents

The reader of JSON texts (`Interpolation.Json.document?`): the strict grammar, without comments, trailing commas or a
byte order mark. Nested values are read by a machine with a stack of open containers (`Interpolation.Json.Frame`),
so that no nesting is too deep for the reader; yet a container inside more than 126 others, a string with half
a surrogate pair and a number beyond the doubles are well formed and have no value.

A number is an integer if it is written without fraction and exponent and fits into 64 bits. Else its digits
are gathered into a 64-bit significand, further ones being dropped, and the double is that significand
multiplied or divided by a power of ten: two roundings, which need not give the nearest double.
-/

namespace Interpolation.Json

open Grammar

/-! ### Numbers -/

/-- A significand and a power of ten. -/
structure Scaled where
  /-- The digits gathered so far. -/
  significand : Nat
  /-- The power of ten that goes with them. -/
  exponent : Int

/-- The largest significand. -/
def maxSignificand : Nat := UInt64.size - 1

/-- Gathers the digits before the point. From the first one on that does not fit, each only raises the
power of ten. -/
def Scaled.integral (number : Scaled) : List Char → Scaled
  | [] => number
  | c :: rest =>
    let longer := 10 * number.significand + (digitValue? c).getD 0
    if longer ≤ maxSignificand then
      Scaled.integral { number with significand := longer } rest
    else
      { number with exponent := number.exponent + (rest.length + 1) }

/-- Gathers the digits behind the point, up to the first one that does not fit. -/
def Scaled.fractional (number : Scaled) : List Char → Scaled
  | [] => number
  | c :: rest =>
    let longer := 10 * number.significand + (digitValue? c).getD 0
    if longer ≤ maxSignificand then
      Scaled.fractional ⟨longer, number.exponent - 1⟩ rest
    else
      number

/-- The double nearest to a power of ten. -/
def power (exponent : Nat) : Float := Decimal.nearestScaled 1 exponent

/-- A double divided by a power of ten, in steps that the powers among the doubles allow. -/
def divided (x : Float) (exponent : Nat) : Float :=
  if exponent ≤ 308 then x / power exponent
  else if x == 0 then x
  else divided (x / power 308) (exponent - 308)
termination_by exponent

/-- The double of a significand and a power of ten, unless it is too large. -/
def Scaled.float? (number : Scaled) : Option Float :=
  let x := Decimal.nearest number.significand 1
  if number.exponent < 0 then
    some (divided x number.exponent.natAbs)
  else if number.exponent ≤ 308 then
    let product := x * power number.exponent.toNat
    if product.isInf then none else some product
  else if x == 0 then
    some x
  else
    none

/-- A number as it is written. -/
structure Numeral where
  /-- Whether it has a minus sign. -/
  negative : Bool
  /-- The digits before the point. -/
  integral : List Char
  /-- The digits behind the point. -/
  fraction : Option (List Char)
  /-- The sign and the digits of the exponent. -/
  exponent : Option (Bool × List Char)

/-- The magnitude of a number as a double, unless it is too large. Of an exponent past 31 bits only
the sign counts. -/
def Numeral.magnitude? (number : Numeral) : Option Float :=
  let mantissa := (Scaled.integral ⟨0, 0⟩ number.integral).fractional (number.fraction.getD [])
  match number.exponent with
  | none => mantissa.float?
  | some (negative, written) =>
    let size := digitsIn 10 written
    if size ≤ Int32.maxValue.toInt then
      let shift : Int := if negative then -size else size
      Scaled.float? ⟨mantissa.significand, mantissa.exponent + shift⟩
    else if mantissa.significand = 0 || negative then
      some 0
    else
      none

/-- The value of a number. Minus zero is a double. -/
def Numeral.value (number : Numeral) : Document :=
  let size := digitsIn 10 number.integral
  if number.fraction.isNone && number.exponent.isNone && !number.negative && size ≤ maxSignificand then
    .integer size
  else if number.fraction.isNone && number.exponent.isNone && number.negative && 0 < size
      && Int64.minValue.toInt ≤ -size then
    .integer (-size)
  else
    match number.magnitude? with
    | some x => .float (if number.negative then -x else x)
    | none => .unreadable

/-- The grammar of numbers. -/
def numeral : Grammar Numeral := do
  let negative := (← optional (char '-')).isSome
  let integral ← takeSome Char.isDigit
  require (integral.length == 1 || integral.head? != some '0')
  let fraction ← if (← peek) == some '.' then do
      char '.'
      some <$> takeSome Char.isDigit
    else
      pure none
  let mark ← peek
  let exponent ← if mark == some 'e' || mark == some 'E' then do
      let _ ← next
      let sign ← optional (satisfy fun c => c == '+' || c == '-')
      pure (some (sign == some '-', ← takeSome Char.isDigit))
    else
      pure none
  return ⟨negative, integral, fraction, exponent⟩

/-! ### Strings -/

/-- A part of a string. -/
inductive Symbol where
  /-- A character that stands for itself or has a short escape. -/
  | char (c : Char)
  /-- A code unit escaped by its number. -/
  | unit (code : Nat)

/-- Whether a code unit is the first half of a surrogate pair. -/
def isHigh (code : Nat) : Bool := 0xd800 ≤ code && code < 0xdc00

/-- Whether a code unit is the second half of a surrogate pair. -/
def isLow (code : Nat) : Bool := 0xdc00 ≤ code && code < 0xe000

/-- The text of a string, unless half of a surrogate pair stands alone in it. -/
def join? : List Symbol → Option (List Char)
  | [] => some []
  | .char c :: rest => (join? rest).map (c :: ·)
  | .unit high :: .unit low :: rest =>
    if isHigh high && isLow low then
      (join? rest).map (Char.ofNat (0x10000 + (high - 0xd800) * 0x400 + (low - 0xdc00)) :: ·)
    else if isHigh high || isLow high then
      none
    else
      (join? (.unit low :: rest)).map (Char.ofNat high :: ·)
  | .unit code :: rest =>
    if isHigh code || isLow code then none else (join? rest).map (Char.ofNat code :: ·)

/-- What follows a backslash. -/
def escape : Grammar Symbol := do
  match ← next with
  | '"' => return .char '"'
  | '\\' => return .char '\\'
  | '/' => return .char '/'
  | 'b' => return .char '\x08'
  | 'f' => return .char '\x0c'
  | 'n' => return .char '\n'
  | 'r' => return .char '\r'
  | 't' => return .char '\t'
  | 'u' => return .unit (← hexNumber 4)
  | _ => fail

/-- Whether a character stands for itself inside a string. -/
def isPlain (c : Char) : Bool := c != '"' && c != '\\' && 0x20 ≤ c.toNat

/-- A string with its quotes; none if it has no value. -/
def string : Grammar (Option String) := do
  char '"'
  let symbols ← iterate (fun (done : List Symbol) => do
    let run ← takeWhile isPlain
    let done := (run.map Symbol.char).reverse ++ done
    match ← next with
    | '"' => return .inr done.reverse
    | '\\' => return .inl ((← escape) :: done)
    | _ => fail) []
  return (join? symbols).map String.ofList

/-! ### Values -/

/-- Blanks between the parts of a document. -/
def blanks : Grammar Unit := do
  let _ ← takeWhile fun c => c == ' ' || c == '\n' || c == '\t' || c == '\r'

/-- **A container that is still open.** -/
inductive Frame where
  /-- An array with its elements so far, the latest first. -/
  | array (done : List Document)
  /-- An object with its fields so far, the latest first, and the name of the field being read. A name
  without a value leaves the whole object without one. -/
  | object (done : List (Option (String × Document))) (name : Option String)

/-- How many containers may stand inside each other. -/
def maxDepth : Nat := 127

/-- A container inside so many others. -/
def closed (depth : Nat) (container : Document) : Document :=
  if depth < maxDepth then container else .unreadable

/-- The object with the given fields, the latest first. -/
def objectOf (done : List (Option (String × Document))) : Document :=
  match done.reverse.mapM id with
  | some fields => .mapping fields
  | none => .unreadable

/-- The name of a field and the colon behind it. -/
def fieldName : Grammar (Option String) := do
  blanks
  let name ← string
  blanks
  char ':'
  return name

/-- Puts a finished value into the innermost open container and goes on to where the next value starts, or
ends with the value if no container is open. -/
def deliver (value : Document) : List Frame → Grammar (List Frame ⊕ Document)
  | [] => return .inr value
  | .array done :: outer => do
    blanks
    match ← next with
    | ',' => return .inl (.array (value :: done) :: outer)
    | ']' => deliver (closed outer.length (.sequence (value :: done).reverse)) outer
    | _ => fail
  | .object done name :: outer => do
    let done := name.map (·, value) :: done
    blanks
    match ← next with
    | ',' => return .inl (.object done (← fieldName) :: outer)
    | '}' => deliver (closed outer.length (objectOf done)) outer
    | _ => fail

/-- Whether a container ends before its first part; the bracket is used up if it does. -/
def endsWith (bracket : Char) : Grammar Bool := do
  blanks
  return (← optional (char bracket)).isSome

/-- Reads a scalar or opens a container, inside the given containers. -/
def step (stack : List Frame) : Grammar (List Frame ⊕ Document) := do
  blanks
  match ← peek with
  | some '[' =>
    char '['
    if ← endsWith ']' then deliver (closed stack.length (.sequence [])) stack
    else return .inl (.array [] :: stack)
  | some '{' =>
    char '{'
    if ← endsWith '}' then deliver (closed stack.length (.mapping [])) stack
    else return .inl (.object [] (← fieldName) :: stack)
  | some '"' => deliver (((← string).map Document.text).getD .unreadable) stack
  | some 't' => literal "true"; deliver (.boolean true) stack
  | some 'f' => literal "false"; deliver (.boolean false) stack
  | some 'n' => literal "null"; deliver .null stack
  | _ => deliver (← numeral).value stack

/-- **The document that a JSON text spells.** -/
def document? (s : String) : Option Document :=
  read? (iterate step [] <* blanks) s.toList

end Interpolation.Json
