import Interpolation.Builtin.Group

/-!
# Methods on numbers

Arithmetic, statistics, trigonometry, and the formatting and parsing of numbers. Every group of the
listing is a definition of its own.
-/

namespace Interpolation.Builtin.Math

/-- Basic Arithmetic Operations. -/
def arithmetic : Group where
  key := "arithmetic"
  title := "Basic Arithmetic Operations"
  description := "Includes fundamental arithmetic operations such as addition, subtraction, multiplication, division, modulus, and exponentiation."
  methods := [
    method "add" "number"
      "Adds multiple numbers together."
      [positional "args" "array" "Numbers to be added."]
      [],
    method "subtract" "number"
      "Subtracts multiple numbers from the first number."
      [
        positional "x" "number" "The initial number.",
        positional "args" "array" "Numbers to be subtracted."]
      [],
    method "multiply" "number"
      "Multiplies multiple numbers together."
      [positional "args" "array" "Numbers to be multiplied."]
      [],
    method "divide" "number"
      "Divides the first number by the product of the remaining numbers."
      [
        positional "x" "number" "The initial number.",
        positional "args" "array" "Numbers to divide by."]
      [],
    method "mod" "number"
      "Computes the modulus of two numbers."
      [positional "x" "number" "The dividend.", positional "y" "number" "The divisor."]
      [],
    method "power" "number"
      "Raises a number to the power of another number."
      [positional "x" "number" "The base number.", positional "y" "number" "The exponent."]
      []]

/-- Statistical Operations. -/
def statistical : Group where
  key := "statistical"
  title := "Statistical Operations"
  description := "Crucial methods for data analysis and interpretation"
  methods := [
    method "sum" "number"
      "Calculates the sum of a list of numbers."
      [positional "numbers" "array" "List of numbers to sum."]
      [],
    method "average" "number"
      "Calculates the average of a list of numbers."
      [positional "numbers" "array" "List of numbers to average."]
      [],
    method "max" "number"
      "Finds the maximum value among the given numbers."
      [positional "args" "array" "Numbers to find the maximum of."]
      [],
    method "min" "number"
      "Finds the minimum value among the given numbers."
      [positional "args" "array" "Numbers to find the minimum of."]
      [],
    method "variance" "number"
      "Calculates the variance of a list of numbers."
      [positional "numbers" "array" "List of numbers to calculate variance."]
      [],
    method "stdev" "number"
      "Calculates the standard deviation of a list of numbers."
      [positional "numbers" "array" "List of numbers to calculate standard deviation."]
      [],
    method "median" "number"
      "Calculates the median of a list of numbers."
      [positional "numbers" "array" "List of numbers to calculate median."]
      [],
    method "mode" "number"
      "Calculates the mode of a list of numbers."
      [positional "numbers" "array" "List of numbers to calculate mode."]
      [],
    method "harmonic_mean" "number"
      "Calculates the harmonic mean of a list of numbers."
      [positional "numbers" "array" "List of numbers to calculate harmonic mean."]
      [],
    method "geometric_mean" "number"
      "Calculates the geometric mean of a list of numbers."
      [positional "numbers" "array" "List of numbers to calculate geometric mean."]
      [],
    method "quantiles" "array"
      "Calculates the quantiles of a list of numbers."
      [positional "numbers" "array" "List of numbers to calculate quantiles."]
      [keyword "n" "number" "Number of quantiles to compute." none],
    method "percentile" "number"
      "Calculates the nth percentile of a list of numbers."
      [
        positional "numbers" "array" "List of numbers to calculate percentile.",
        positional "percentile" "number" "The percentile to calculate."]
      []]

/-- Trigonometric Functions. -/
def trigonometric : Group where
  key := "trigonometric"
  title := "Trigonometric Functions"
  description := "Methods for trigonometric calculations, including sine, cosine, tangent, and their hyperbolic counterparts. It also includes methods for converting between degrees and radians. These functions are vital for applications in geometry, physics, and engineering."
  methods := [
    method "sin" "number"
      "Calculates the sine of a number."
      [positional "x" "number" "The angle in radians."]
      [],
    method "cos" "number"
      "Calculates the cosine of a number."
      [positional "x" "number" "The angle in radians."]
      [],
    method "tan" "number"
      "Calculates the tangent of a number."
      [positional "x" "number" "The angle in radians."]
      [],
    method "asin" "number"
      "Calculates the arcsine of a number."
      [positional "x" "number" "The value whose arcsine is to be calculated."]
      [],
    method "acos" "number"
      "Calculates the arccosine of a number."
      [positional "x" "number" "The value whose arccosine is to be calculated."]
      [],
    method "atan" "number"
      "Calculates the arctangent of a number."
      [positional "x" "number" "The value whose arctangent is to be calculated."]
      [],
    method "sinh" "number"
      "Calculates the hyperbolic sine of a number."
      [positional "x" "number" "The value whose hyperbolic sine is to be calculated."]
      [],
    method "cosh" "number"
      "Calculates the hyperbolic cosine of a number."
      [positional "x" "number" "The value whose hyperbolic cosine is to be calculated."]
      [],
    method "tanh" "number"
      "Calculates the hyperbolic tangent of a number."
      [positional "x" "number" "The value whose hyperbolic tangent is to be calculated."]
      [],
    method "degrees" "number"
      "Converts an angle from radians to degrees."
      [positional "x" "number" "The angle in radians."]
      [],
    method "radians" "number"
      "Converts an angle from degrees to radians."
      [positional "x" "number" "The angle in degrees."]
      []]

/-- Logarithmic and Exponential Functions. -/
def logarithmicExponential : Group where
  key := "logarithmic_exponential"
  title := "Logarithmic and Exponential Functions"
  description := "Methods important for growth modeling, decay processes, and various scientific computations."
  methods := [
    method "log" "number"
      "Calculates the logarithm of a number with a specified base."
      [positional "x" "number" "The value whose logarithm is to be calculated."]
      [keyword "base" "number" "The base of the logarithm." none],
    method "log10" "number"
      "Calculates the base-10 logarithm of a number."
      [positional "x" "number" "The value whose base-10 logarithm is to be calculated."]
      [],
    method "log2" "number"
      "Calculates the base-2 logarithm of a number."
      [positional "x" "number" "The value whose base-2 logarithm is to be calculated."]
      [],
    method "exp" "number"
      "Calculates the exponential of a number."
      [positional "x" "number" "The value whose exponential is to be calculated."]
      [],
    method "sqrt" "number"
      "Calculates the square root of a number."
      [positional "x" "number" "The value whose square root is to be calculated."]
      [],
    method "cbrt" "number"
      "Calculates the cube root of a number."
      [positional "x" "number" "The value whose cube root is to be calculated."]
      []]

/-- Number Formatting and Parsing. -/
def formattingParsing : Group where
  key := "formatting_parsing"
  title := "Number Formatting and Parsing"
  description := "Methods useful for data presentation and manipulation."
  methods := [
    method "parseNumber" "number"
      "Parses a string to a number."
      [positional "x" "string" "The string to be parsed."]
      [],
    method "formatNumber" "string"
      "Formats a number according to a specified format."
      [positional "x" "number" "The number to be formatted."]
      [keyword "fmt" "string" "The format to apply." none],
    method "round" "number"
      "Rounds a number to a specified number of decimal places."
      [positional "number" "number" "The number to be rounded."]
      [keyword "ndigits" "number" "The number of decimal places to round to." none],
    method "ceil" "number"
      "Rounds a number up to the nearest integer."
      [positional "x" "number" "The number to be rounded up."]
      [],
    method "floor" "number"
      "Rounds a number down to the nearest integer."
      [positional "x" "number" "The number to be rounded down."]
      []]

/-- Random and Constants. -/
def randomConstants : Group where
  key := "random_constants"
  title := "Random and Constants"
  description := "Methods for generating random numbers and accessing mathematical constants such as pi. These functions are essential for simulations, random sampling, and various probabilistic computations."
  methods := [
    method "random" "number"
      "Generates a random number between 0 and 1."
      []
      [],
    method "pi" "number"
      "Returns the value of pi."
      []
      []]

/-- Miscellaneous. -/
def misc : Group where
  key := "misc"
  title := "Miscellaneous"
  description := "Mathematical methods that do not fit into the other categories."
  methods := [
    method "factorial" "number"
      "Calculates the factorial of a number."
      [positional "x" "number" "The number to calculate the factorial of."]
      [],
    method "is_prime" "boolean"
      "Checks if a number is prime."
      [positional "x" "number" "The number to check for primality."]
      []]

/-- **The namespace `math`.** -/
def space : Namespace :=
  assemble "math" "MATH"
    "Helpers for math formulas, operations and number parsing."
    [
      arithmetic,
      statistical,
      trigonometric,
      logarithmicExponential,
      formattingParsing,
      randomConstants,
      misc]

end Interpolation.Builtin.Math
