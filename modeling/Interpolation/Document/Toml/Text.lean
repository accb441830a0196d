import Interpolation.Document.Digits
import Interpolation.Document.Toml.Trivia

/-!
# Texts and keys of TOML

The four kinds of text – basic and literal, on one line or on several – and the keys, which are bare words or
texts on one line, joined by dots.

In a text on several lines a line end right behind the opening marks does not count, every other line end
becomes a line feed, and a backslash at the end of a line swallows all blanks and line ends behind it. One or
two quotation marks are part of the text as long as they are not three, and may also stand right before the
closing ones.
-/

namespace Interpolation.Toml

open Grammar

/-! ### Escapes -/

/-- The character of a code point, if it is the code point of one. -/
def codePoint (code : Nat) : Grammar Char := do
  require (decide code.isValidChar)
  return Char.ofNat code

/-- What follows a backslash. -/
def escape : Grammar Char := do
  match ← next with
  | 'b' => return '\x08'
  | 't' => return '\t'
  | 'n' => return '\n'
  | 'f' => return '\x0c'
  | 'r' => return '\r'
  | '"' => return '"'
  | '\\' => return '\\'
  | 'u' => codePoint (← hexNumber 4)
  | 'U' => codePoint (← hexNumber 8)
  | _ => fail

/-! ### Texts on one line -/

/-- Whether a character may stand for itself in a text: a tab or anything but the ASCII controls. -/
def isTextChar (c : Char) : Bool := isCommentChar c

/-- Whether a character stands for itself in a basic text. -/
def isBasicChar (c : Char) : Bool := isTextChar c && c != '"' && c != '\\'

/-- Whether a character stands for itself in a literal text. -/
def isLiteralChar (c : Char) : Bool := isTextChar c && c != '\''

/-- A basic text on one line. -/
def basicText : Grammar (List Char) := do
  char '"'
  iterate (fun (done : List Char) => do
    let done := (← takeWhile isBasicChar).reverse ++ done
    match ← next with
    | '"' => return .inr done.reverse
    | '\\' => return .inl ((← escape) :: done)
    | _ => fail) []

/-- A literal text on one line. -/
def literalText : Grammar (List Char) := do
  char '\''
  let content ← takeWhile isLiteralChar
  char '\''
  return content

/-! ### Texts on several lines -/

/-- A backslash with nothing but blanks up to the end of its line, and the blanks and line ends behind it. -/
def continuation : Grammar Unit := do
  char '\\'
  spaces
  newline
  iterate (fun _ => do
    match ← peek with
    | some ' ' | some '\t' => spaces; return .inl ()
    | some '\n' | some '\r' => newline; return .inl ()
    | _ => return .inr ()) ()

/-- A run of quotation marks inside or at the end of a text on several lines, the marks so far being given in
reverse: fewer than three go on with the text, up to five end it. -/
def marks (mark : Char) (done : List Char) : Grammar (List Char ⊕ List Char) := do
  let run ← takeWhile (· == mark)
  if run.length < 3 then
    return .inl (run ++ done)
  else
    require (run.length ≤ 5)
    return .inr (run.drop 3 ++ done).reverse

/-- A basic text on several lines. -/
def basicLines : Grammar (List Char) := do
  literal "\"\"\""
  let _ ← optional newline
  iterate (fun (done : List Char) => do
    let done := (← takeWhile isBasicChar).reverse ++ done
    match ← peek with
    | some '"' => marks '"' done
    | some '\\' =>
      if (← optional continuation).isSome then
        return .inl done
      else
        char '\\'
        return .inl ((← escape) :: done)
    | _ => newline; return .inl ('\n' :: done)) []

/-- A literal text on several lines. -/
def literalLines : Grammar (List Char) := do
  literal "'''"
  let _ ← optional newline
  iterate (fun (done : List Char) => do
    let done := (← takeWhile isLiteralChar).reverse ++ done
    match ← peek with
    | some '\'' => marks '\'' done
    | _ => newline; return .inl ('\n' :: done)) []

/-- A text of any kind. -/
def text : Grammar String :=
  String.ofList <$> (basicLines <|> basicText <|> literalLines <|> literalText)

/-! ### Keys -/

/-- Whether a character may stand in a bare key. -/
def isBareChar (c : Char) : Bool := c.isAlphanum || c == '-' || c == '_'

/-- A part of a key, with blanks around it. -/
def keyPart : Grammar String := do
  spaces
  let part ← match ← peek with
    | some '"' => basicText
    | some '\'' => literalText
    | _ => takeSome isBareChar
  spaces
  return String.ofList part

/-- How many parts a key may have, plus one. -/
def keyLimit : Nat := 80

/-- **A key**: its parts in order. -/
def key : Grammar (List String) := do
  let first ← keyPart
  let rest ← many (char '.' *> keyPart)
  require (rest.length + 1 < keyLimit)
  return first :: rest

end Interpolation.Toml
