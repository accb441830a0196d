import Interpolation.Style
import Interpolation.Text.Location

/-!
# Errors in an interpolated text

A text that cannot be read has one error: what is wrong (`Interpolation.Fault`) and the byte offset, into the
outermost text, where it shows (`Interpolation.ParseError`). `Interpolation.ParseError.report` shows it to a
person, with the line of the text and a caret under the place.
-/

namespace Interpolation

/-- **What can be wrong with an interpolated text.** -/
inductive Fault where
  /-- An opening pair of braces has no closing one. -/
  | unmatchedBraces
  /-- There are only blanks between the braces. -/
  | emptyInterpolation
  /-- A call names no method of the catalog. -/
  | unknownMethod (qualifier name : String)
  /-- An argument names no keyword parameter of the method. -/
  | unknownKeyword (name : String)
  /-- A keyword argument is given a second time. -/
  | duplicateKeyword (name : String)
  /-- A call has more positional arguments than the method has positional parameters. -/
  | tooManyPositional (qualifier name : String)
  /-- Arguments are nested more deeply than allowed. -/
  | tooDeeplyNested (limit : Nat)
deriving Inhabited, DecidableEq

/-- **An error in an interpolated text.** -/
structure ParseError where
  /-- What is wrong. -/
  fault : Fault
  /-- The byte offset of the place where it shows. -/
  offset : Nat
deriving Inhabited, DecidableEq

namespace Fault

/-- The name of the kind of fault. -/
def kind : Fault → String
  | unmatchedBraces => "unmatched-braces"
  | emptyInterpolation => "empty-interpolation"
  | unknownMethod .. => "unknown-method"
  | unknownKeyword _ => "unknown-keyword-argument"
  | duplicateKeyword _ => "duplicate-keyword-argument"
  | tooManyPositional .. => "too-many-positional-arguments"
  | tooDeeplyNested _ => "too-deeply-nested"

/-- The fault in words. -/
def message : Fault → String
  | unmatchedBraces => "unmatched braces: `\x7b\x7b` is never closed"
  | emptyInterpolation => "empty interpolation `\x7b\x7b\x7d\x7d`"
  | unknownMethod qualifier name => "unknown method `" ++ qualifier ++ "." ++ name ++ "`"
  | unknownKeyword name => "unknown keyword argument `" ++ name ++ "`"
  | duplicateKeyword name => "keyword argument `" ++ name ++ "` supplied more than once"
  | tooManyPositional qualifier name =>
    "too many positional arguments for `" ++ qualifier ++ "." ++ name ++ "`"
  | tooDeeplyNested limit => "expression nested deeper than " ++ toString limit ++ " levels"

end Fault

namespace ParseError

/-- The lines of the report on an error in the given text: the message, the place in numbers, an empty line
of the margin, the line of the text, and the caret. -/
def reportLines (error : ParseError) (source : String) (coloured : Bool) : List String :=
  let place := Text.locate source.toList error.offset
  let number := toString place.line
  let margin := "".pushn ' ' number.length
  let blue := (Style.tint .blue).paint coloured
  let red := Style.bad.paint coloured
  [ red "error:" ++ " " ++ Style.strong.paint coloured error.fault.message,
    margin ++ " " ++ blue "-->" ++ " line " ++ number ++ ", col " ++ toString place.column,
    margin ++ " " ++ blue "|",
    blue number ++ " " ++ blue "|" ++ " " ++ String.ofList place.text,
    margin ++ " " ++ blue "|" ++ " " ++ "".pushn ' ' (place.column - 1) ++ red "^" ]

/-- **The report on an error in the given text**, for a person. -/
def report (error : ParseError) (source : String) (coloured : Bool) : String :=
  "\n".intercalate (error.reportLines source coloured)

end ParseError

end Interpolation
