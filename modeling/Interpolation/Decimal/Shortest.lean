/-!
# The shortest decimal of a double

Many decimals round to one double; `Interpolation.Decimal.shortest` finds the one with the fewest digits, and
of those the one nearest to the double. The double is decoded into `mantissa · 2 ^ exponent`, the numbers that
round to it form an interval around it (ends included exactly when the mantissa is even), and the decimal grids
`10 ^ k` are tried from the coarsest on: the first with a point in the interval wins. All comparisons are
between natural numbers.
-/

namespace Interpolation.Decimal

/-- The magnitude of a finite double: `mantissa · 2 ^ exponent`. -/
structure Binary where
  /-- The integer factor. -/
  mantissa : Nat
  /-- The power of two. -/
  exponent : Int
  /-- Whether the next smaller double is only half as far away as the next larger one. -/
  atPower : Bool

/-- The magnitude in the bits of a finite double. -/
def Binary.ofBits (bits : Nat) : Binary :=
  let field : Nat := (bits >>> 52) % (1 <<< 11)
  let fraction := bits % (1 <<< 52)
  if field = 0 then
    ⟨fraction, -1074, false⟩
  else
    ⟨(1 <<< 52) + fraction, (field : Int) - 1075, fraction == 0 && field > 1⟩

/-- A decimal `digits · 10 ^ exponent`. -/
structure Numeral where
  /-- The digits as one number. -/
  digits : Nat
  /-- The power of ten. -/
  exponent : Int

/-- The point nearest to a binary magnitude on the grid of the multiples of `10 ^ k`, if one of its two
neighbours there rounds to that magnitude. Everything is measured in quarters of the last binary place. -/
def gridPoint? (b : Binary) (k : Int) : Option Numeral :=
  let step := Nat.pow 10 k.toNat <<< (2 - b.exponent).toNat
  let unit := Nat.pow 10 (-k).toNat <<< (b.exponent - 2).toNat
  let value := 4 * b.mantissa * unit
  let low := (4 * b.mantissa - if b.atPower then 1 else 2) * unit
  let high := (4 * b.mantissa + 2) * unit
  let inside (d : Nat) : Bool :=
    if b.mantissa % 2 == 0 then low ≤ d * step && d * step ≤ high
    else low < d * step && d * step < high
  let below := value / step
  let gap := 2 * (value % step)
  let nearer := if gap < step || (gap == step && below % 2 == 0) then below else below + 1
  let farther := if nearer = below then below + 1 else below
  if inside nearer then some ⟨nearer, k⟩ else if inside farther then some ⟨farther, k⟩ else none

/-- The shortest decimal that rounds to a positive binary magnitude. Seventeen digits always suffice, so the
search needs no more than the two dozen grids below the leading digit. -/
def shortest (b : Binary) : Numeral :=
  let top := (b.exponent + b.mantissa.log2) * 30103 / 100000 + 2
  ((List.range 24).findSome? fun (i : Nat) => gridPoint? b (top - i)).getD ⟨b.mantissa, b.exponent⟩

/-- The digits of a number as characters. -/
def digitChars (n : Nat) : List Char := Nat.toDigits 10 n

/-- **The text of a positive decimal.** It is positional while the point lies among the digits, up to sixteen
places to the right of the first or at most four zeros to the left of the digits, and always has a digit on both
sides of the point; else it is scientific. -/
def Numeral.text (n : Numeral) : List Char :=
  let digits := digitChars n.digits
  let point : Int := digits.length + n.exponent
  if 0 ≤ n.exponent && point ≤ 16 then
    digits ++ List.replicate n.exponent.toNat '0' ++ ['.', '0']
  else if 0 < point && point ≤ 16 then
    digits.take point.toNat ++ '.' :: digits.drop point.toNat
  else if -5 < point && point ≤ 0 then
    ['0', '.'] ++ List.replicate (-point).toNat '0' ++ digits
  else
    let fraction := digits.drop 1
    let exponent := point - 1
    digits.take 1 ++ (if fraction.isEmpty then [] else '.' :: fraction) ++ ['e']
      ++ (if exponent < 0 then ['-'] else []) ++ digitChars exponent.natAbs

/-- The bit that makes a double negative. -/
def signBit : Nat := 1 <<< 63

/-- The shortest text of a finite double. -/
def floatText (x : Float) : String :=
  let bits := x.toBits.toNat
  let magnitude := bits % signBit
  String.ofList <|
    (if signBit ≤ bits then ['-'] else [])
      ++ (if magnitude = 0 then ['0', '.', '0'] else (shortest (Binary.ofBits magnitude)).text)

end Interpolation.Decimal
