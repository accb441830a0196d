import Interpolation.Document
import Interpolation.Document.Digits
import Interpolation.Document.Toml.Trivia

/-!
# Dates and times of TOML

A date, a time, or both with an optional offset. The day has to exist in its month; a second may be the
sixtieth; of a fraction nine digits count. A date or time is kept as its text in normal form, wrapped in a
mapping with one reserved name.
-/

namespace Interpolation.Toml

open Grammar

/-- A number of exactly so many decimal digits within bounds. -/
def bounded (count least most : Nat) : Grammar Nat := do
  let run ← (List.replicate count ()).mapM fun _ => satisfy Char.isDigit
  let n := digitsIn 10 run
  require (least ≤ n && n ≤ most)
  return n

/-- A number with leading zeros up to a width. -/
def padded (width n : Nat) : List Char :=
  let digits := Nat.toDigits 10 n
  List.replicate (width - digits.length) '0' ++ digits

/-- The number of days of a month. -/
def daysIn (year month : Nat) : Nat :=
  if month = 2 then
    if year % 4 = 0 && (year % 100 != 0 || year % 400 = 0) then 29 else 28
  else if month = 4 || month = 6 || month = 9 || month = 11 then 30
  else 31

/-- A date in normal form. -/
def date : Grammar (List Char) := do
  let year ← bounded 4 0 9999
  char '-'
  let month ← bounded 2 1 12
  char '-'
  let day ← bounded 2 1 31
  require (day ≤ daysIn year month)
  return padded 4 year ++ ['-'] ++ padded 2 month ++ ['-'] ++ padded 2 day

/-- The digits of a fraction that count, without zeros at the end. -/
def fractionText (digits : List Char) : List Char :=
  match ((digits.take 9).reverse.dropWhile (· == '0')).reverse with
  | [] => []
  | kept => '.' :: kept

/-- A time in normal form. -/
def time : Grammar (List Char) := do
  let hour ← bounded 2 0 23
  char ':'
  let minute ← bounded 2 0 59
  char ':'
  let second ← bounded 2 0 60
  let fraction ← optional (char '.' *> takeSome Char.isDigit)
  return padded 2 hour ++ [':'] ++ padded 2 minute ++ [':'] ++ padded 2 second
    ++ fractionText (fraction.getD [])

/-- An offset from universal time in normal form; a zero offset has a plus sign. -/
def offset : Grammar (List Char) := do
  match ← next with
  | 'Z' | 'z' => return ['Z']
  | sign =>
    require (sign == '+' || sign == '-')
    let hours ← bounded 2 0 23
    char ':'
    let minutes ← bounded 2 0 59
    let sign := if hours = 0 && minutes = 0 then '+' else sign
    return [sign] ++ padded 2 hours ++ [':'] ++ padded 2 minutes

/-- A time behind a date, with its offset. -/
def timeOfDay : Grammar (List Char) := do
  let _ ← satisfy fun c => c == 'T' || c == 't' || c == ' '
  let time ← time
  let offset ← optional offset
  return ['T'] ++ time ++ offset.getD []

/-- The reserved name under which a date or time is kept. -/
def dateTimeName : String := "$__toml_private_datetime"

/-- **A date, a time or both.** -/
def dateTime : Grammar Document := do
  let content ← (do return (← date) ++ (← optional timeOfDay).getD []) <|> time
  return .mapping [(dateTimeName, .text (String.ofList content))]

end Interpolation.Toml
