import Interpolation.Render
import Interpolation.Scan

/-!
# Dialects

What a text means depends on the methods it may call and on how deeply its arguments may be nested: together
they are a dialect (`Interpolation.Dialect`). This is the entry to the library: `Interpolation.Dialect.scan`
reads a text, `Interpolation.Dialect.bind` reads a single call, and `Interpolation.Dialect.canonicalize`
gives a text its canonical spelling.
-/

namespace Interpolation

/-- **A catalog and a limit on nesting.** -/
structure Dialect where
  /-- The methods that calls can name. -/
  catalog : Catalog
  /-- How many levels of arguments may be entered. -/
  maxDepth : Nat := 32

namespace Dialect

/-- **The tree of a text**, or its first error. -/
def scan (dialect : Dialect) (text : String) : Except ParseError Tree :=
  readWithin dialect.catalog dialect.maxDepth (dialect.maxDepth + 1) 0 text.toList

/-- **The call of a method with the given argument list**, or its first error, with offsets into the list. -/
def bind (dialect : Dialect) (qualifier name raw : String) : Except ParseError Call :=
  bindWith dialect.catalog (readWithin dialect.catalog dialect.maxDepth dialect.maxDepth) 0 0
    qualifier name raw.toList

/-- The canonical spelling of a text. -/
def canonicalize (dialect : Dialect) (text : String) : Except ParseError String :=
  Tree.render <$> dialect.scan text

end Dialect

end Interpolation
