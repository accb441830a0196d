import Interpolation.Text.Width

/-!
# Lines and columns

An error carries an offset in bytes; a reader wants a line and a column. `Interpolation.Text.locate`
translates: the offset is first drawn back to the nearest character boundary inside the text, then the
lines before it and the characters of its own line before it are counted, both from one.
-/

namespace Interpolation.Text

/-- **A place in a text** as a person counts it, with the line it lies in. -/
structure Location where
  /-- The number of the line, from one. -/
  line : Nat
  /-- The number of the character in the line, from one. -/
  column : Nat
  /-- The line without its line feed. -/
  text : List Char

/-- The part of a text behind its last line feed. -/
def lastLine (s : List Char) : List Char := (s.reverse.takeWhile (· ≠ '\n')).reverse

/-- The place of a byte offset. An offset past the end counts as the end, one inside a character as the
character's start. -/
def locate (source : List Char) (offset : Nat) : Location :=
  let (before, after) := cutAt source offset
  let start := lastLine before
  { line := before.count '\n' + 1
    column := start.length + 1
    text := start ++ after.takeWhile (· ≠ '\n') }

end Interpolation.Text
