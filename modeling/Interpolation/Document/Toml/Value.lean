import Interpolation.Document.Toml.DateTime
import Interpolation.Document.Toml.Number
import Interpolation.Document.Toml.Table

/-!
# Values of TOML

The value behind an equals sign. Arrays may run over several lines and end with a comma, inline tables may
not; in both, values are nested, and they are read by a machine with a stack of open containers
(`Interpolation.Toml.Frame`). There is a limit on how many containers may stand inside each other.
-/

namespace Interpolation.Toml

open Grammar

/-- **A container that is still open.** -/
inductive Frame where
  /-- An array with its elements so far, the latest first. -/
  | array (done : List Document)
  /-- An inline table with its parts so far and the key of the part being read. -/
  | inlineTable (done : Table) (key : List String)

/-- How many containers may stand inside each other. -/
def maxDepth : Nat := 79

/-- A key and the equals sign behind it. -/
def keyEquals : Grammar (List String) := key <* char '='

/-- Puts a finished value into the innermost open container and goes on to where the next value starts, or
ends with the value if no container is open. -/
def deliver (value : Document) : List Frame → Grammar (List Frame ⊕ Document)
  | [] => return .inr value
  | .array done :: outer => do
    let done := value :: done
    gaps
    match ← next with
    | ']' => deliver (.sequence done.reverse) outer
    | ',' =>
      gaps
      if (← optional (char ']')).isSome then deliver (.sequence done.reverse) outer
      else return .inl (.array done :: outer)
    | _ => fail
  | .inlineTable done key :: outer => do
    let done ← ofOption (done.assign key value)
    spaces
    match ← next with
    | '}' => deliver done.document outer
    | ',' => return .inl (.inlineTable done (← keyEquals) :: outer)
    | _ => fail

/-- A value that has no parts. -/
def scalar : Grammar Document := do
  match ← peek with
  | some '"' | some '\'' => return .text (← text)
  | some 't' => literal "true"; return .boolean true
  | some 'f' => literal "false"; return .boolean false
  | _ => dateTime <|> number

/-- Reads a scalar or opens a container, inside the given containers. -/
def step (stack : List Frame) : Grammar (List Frame ⊕ Document) := do
  gapsIfArray stack
  match ← peek with
  | some '[' =>
    require (stack.length < maxDepth)
    char '['
    gaps
    if (← optional (char ']')).isSome then deliver (.sequence []) stack
    else return .inl (.array [] :: stack)
  | some '{' =>
    require (stack.length < maxDepth)
    char '{'
    spaces
    if (← optional (char '}')).isSome then deliver (.mapping []) stack
    else return .inl (.inlineTable (.new .opened) (← keyEquals) :: stack)
  | _ => deliver (← scalar) stack
where
  /-- What may stand before a value in the innermost container. -/
  gapsIfArray : List Frame → Grammar Unit
    | .array _ :: _ => gaps
    | _ => spaces

/-- **A value.** -/
def value : Grammar Document := iterate step []

end Interpolation.Toml
