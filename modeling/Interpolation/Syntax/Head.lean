import Interpolation.Text.Width

/-!
# Call heads and keyword arguments

Two shapes are told by the way a text starts. A span is a call when it starts with a *head*, a word, a dot, a
method name and an opening parenthesis (`Interpolation.CallHead.read?`); else it is a variable. An argument is
a keyword argument when it starts with a word and an equals sign (`Interpolation.keyword?`); else it is
positional. Words are made of the ASCII letters, digits and the underscore, and a method name is one or more
words with single hyphens between them.
-/

namespace Interpolation

/-- Whether a character may stand in a word. -/
def isWordChar (c : Char) : Bool := c.isAlphanum || c == '_'

/-- Whether a text is a word. -/
def isWord (s : List Char) : Bool := !s.isEmpty && s.all isWordChar

/-- Whether a text carries on a method name; `complete` says whether the name could end here. -/
def continuesName (complete : Bool) : List Char → Bool
  | [] => complete
  | c :: rest =>
    if isWordChar c then continuesName true rest
    else c == '-' && complete && continuesName false rest

/-- Whether a text is a method name: words with single hyphens between them. -/
def isMethodName (s : List Char) : Bool := continuesName false s

/-- **The head of a call**, and what follows it. -/
structure CallHead where
  /-- The word before the dot. -/
  qualifier : List Char
  /-- The method name. -/
  name : List Char
  /-- The text behind the opening parenthesis. -/
  rest : List Char
deriving DecidableEq

namespace CallHead

/-- The head that a text starts with, if it starts with one. -/
def read? (s : List Char) : Option CallHead :=
  let qualifier := s.takeWhile isWordChar
  match s.dropWhile isWordChar with
  | '.' :: behind =>
    let name := behind.takeWhile fun c => isWordChar c || c == '-'
    match behind.dropWhile fun c => isWordChar c || c == '-' with
    | '(' :: rest => if isWord qualifier && isMethodName name then some ⟨qualifier, name, rest⟩ else none
    | _ => none
  | _ => none

/-- The bytes that a head takes up: its two names, the dot and the parenthesis. -/
def width (head : CallHead) : Nat := Text.width head.qualifier + Text.width head.name + 2

/-- The argument list behind a head: the rest of the span without at most one closing parenthesis at
its end. -/
def arguments (head : CallHead) : List Char :=
  if head.rest.getLast? = some ')' then head.rest.dropLast else head.rest

end CallHead

/-- The word in front of the equals sign and the value behind it, if an argument has this shape. -/
def keyword? (s : List Char) : Option (List Char × List Char) :=
  let word := s.takeWhile isWordChar
  match s.dropWhile isWordChar with
  | '=' :: value => if word.isEmpty then none else some (word, value)
  | _ => none

end Interpolation
