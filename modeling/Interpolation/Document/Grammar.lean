/-!
# Grammars

A grammar (`Interpolation.Grammar`) reads something from the front of a text and leaves the rest, or does not
match. Grammars are sequenced with `do` and tried in turn with `<|>`, the second starting where the first did,
so that `optional` puts back what it cannot use.
Repetition is `Interpolation.Grammar.iterate`: every round has to use up a character, so that the length of what is left
bounds the number of rounds.
-/

namespace Interpolation

/-- **A way to read something from the front of a text.** -/
abbrev Grammar (α : Type) := StateT (List Char) Option α

namespace Grammar

variable {α σ : Type}

/-- The grammar that matches nothing. -/
def fail : Grammar α := fun _ => none

/-- Matches, without using up anything, if the condition holds. -/
def require (condition : Bool) : Grammar Unit := if condition then pure () else fail

/-- Something that has to be there. -/
def ofOption (value : Option α) : Grammar α := fun s => value.map (·, s)

/-- The next character, left where it is; none at the end. -/
def peek : Grammar (Option Char) := fun s => some (s.head?, s)

/-- The next character. -/
def next : Grammar Char
  | [] => none
  | c :: rest => some (c, rest)

/-- The next character, which has to satisfy a condition. -/
def satisfy (p : Char → Bool) : Grammar Char := do
  let c ← next
  require (p c)
  return c

/-- A given character. -/
def char (c : Char) : Grammar Unit := do
  let _ ← satisfy (· == c)

/-- A given text. -/
def literal (s : String) : Grammar Unit := s.toList.forM char

/-- The longest run of characters that satisfy a condition. -/
def takeWhile (p : Char → Bool) : Grammar (List Char) := fun s => some (s.takeWhile p, s.dropWhile p)

/-- The longest run of characters that satisfy a condition, if it is not empty. -/
def takeSome (p : Char → Bool) : Grammar (List Char) := do
  let run ← takeWhile p
  require !run.isEmpty
  return run

/-- The end of the text. -/
def atEnd : Grammar Unit := fun s => if s.isEmpty then some ((), s) else none

/-- Repeats a step until it gives a result. A step that goes on without using up a character
does not match. -/
def iterate (step : σ → Grammar (σ ⊕ α)) (state : σ) : Grammar α := fun s =>
  match step state s with
  | none => none
  | some (.inr result, rest) => some (result, rest)
  | some (.inl state, rest) => if rest.length < s.length then iterate step state rest else none
termination_by s => s.length

/-- As many repetitions of a grammar as match. -/
def many (grammar : Grammar α) : Grammar (List α) :=
  iterate (fun done => do
    match ← optional grammar with
    | some item => return .inl (item :: done)
    | none => return .inr done.reverse) []

/-- What a grammar reads from a whole text. -/
def read? (grammar : Grammar α) (s : List Char) : Option α :=
  (grammar <* atEnd |>.run s).map Prod.fst

end Grammar

end Interpolation
