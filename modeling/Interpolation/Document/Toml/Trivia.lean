import Interpolation.Document.Grammar

/-!
# Blanks, comments and line ends of TOML

What may stand between the parts of a TOML document: spaces and tabs inside a line, comments up to its end,
and line ends, which are a line feed with or without a carriage return in front of it.
-/

namespace Interpolation.Toml

open Grammar

/-- Whether a character is a blank inside a line. -/
def isSpace (c : Char) : Bool := c == ' ' || c == '\t'

/-- Blanks inside a line. -/
def spaces : Grammar Unit := do
  let _ ← takeWhile isSpace

/-- The end of a line. -/
def newline : Grammar Unit := do
  let _ ← optional (char '\r')
  char '\n'

/-- Whether a character may stand in a comment: a tab or anything but the ASCII controls. -/
def isCommentChar (c : Char) : Bool := c == '\t' || (0x20 ≤ c.toNat && c.toNat != 0x7f)

/-- A comment without the end of its line. -/
def comment : Grammar Unit := do
  char '#'
  let _ ← takeWhile isCommentChar

/-- The end of a line or of the document. -/
def lineEnd : Grammar Unit := newline <|> atEnd

/-- What may stand behind the last part of a line. -/
def lineRest : Grammar Unit := do
  spaces
  let _ ← optional comment
  lineEnd

/-- Blanks, comments and line ends in any number. -/
def gaps : Grammar Unit :=
  iterate (fun _ => do
    spaces
    match ← peek with
    | some '#' => comment; newline; return .inl ()
    | some '\n' | some '\r' => newline; return .inl ()
    | _ => return .inr ()) ()

end Interpolation.Toml
