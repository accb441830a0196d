import Interpolation.Document.Grammar

/-!
# Digits

Numbers as digits spell them, in any base up to sixteen.
-/

namespace Interpolation

/-- The value of a hexadecimal digit. -/
def digitValue? (c : Char) : Option Nat :=
  if c.isDigit then some (c.toNat - '0'.toNat)
  else if 'a' ≤ c && c ≤ 'f' then some (c.toNat - 'a'.toNat + 10)
  else if 'A' ≤ c && c ≤ 'F' then some (c.toNat - 'A'.toNat + 10)
  else none

/-- The number that digits spell in the given base. -/
def digitsIn (base : Nat) (s : List Char) : Nat :=
  s.foldl (fun n c => base * n + (digitValue? c).getD 0) 0

/-- The number of exactly so many hexadecimal digits. -/
def Grammar.hexNumber : Nat → Grammar Nat
  | 0 => pure 0
  | count + 1 => do
    let first ← ofOption (digitValue? (← next))
    return first * Nat.pow 16 count + (← hexNumber count)

end Interpolation
