/-!
# Sets of characters given by ranges

The character properties of this library are standard tables. Each is a list of code point ranges
(`Interpolation.Text.Ranges`), and membership is the one question asked of it.
-/

namespace Interpolation.Text

/-- A set of characters as a list of code point ranges, both ends included. -/
abbrev Ranges := List (Nat × Nat)

/-- Whether some range of the list holds the character. -/
def Ranges.contains (ranges : Ranges) (c : Char) : Bool :=
  ranges.any fun (first, last) => first ≤ c.toNat && c.toNat ≤ last

end Interpolation.Text
