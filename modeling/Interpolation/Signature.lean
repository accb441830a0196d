import Interpolation.Value

/-!
# Method signatures

A method is known by its signature (`Interpolation.Signature`): the namespace it is at home in, its name, its
positional parameters in order, its keyword parameters in order, and the types that they and the result are
documented with. Types are names and nothing checks them; a keyword's default is documentation too.

A call of the method has one slot per parameter (`Interpolation.Signature.arity`), the positional ones first.
-/

namespace Interpolation

/-- **A parameter filled by position.** -/
structure PositionalParameter where
  /-- What it is called in listings. -/
  name : Option String := none
  /-- Its documented type. -/
  type : String
  /-- What it is for. -/
  description : Option String := none
deriving Inhabited, BEq

/-- **A parameter filled by name.** -/
structure KeywordParameter where
  /-- The word that selects it. -/
  name : String
  /-- Its documented type. -/
  type : String
  /-- What it is for. -/
  description : Option String := none
  /-- The documented value of a call that leaves it out. -/
  default : Option Value := none
deriving Inhabited, BEq

/-- A positional parameter in a listing. -/
def PositionalParameter.display (parameter : PositionalParameter) : String :=
  match parameter.name with
  | some name => name ++ ": " ++ parameter.type
  | none => parameter.type

/-- A keyword parameter in a listing. -/
def KeywordParameter.display (parameter : KeywordParameter) : String :=
  parameter.name ++ "=" ++ parameter.type

/-- **The signature of a method.** -/
structure Signature where
  /-- The namespace that the method belongs to. -/
  home : String := ""
  /-- The name of the method. -/
  name : String := ""
  /-- What the method does. -/
  description : String := ""
  /-- The parameters filled by position. -/
  positional : List PositionalParameter := []
  /-- The parameters filled by name. -/
  keyword : List KeywordParameter := []
  /-- The documented type of the result, empty if there is none. -/
  returnType : String := ""
deriving Inhabited, BEq

namespace Signature

/-- The number of slots of every call of the method. -/
def arity (signature : Signature) : Nat := signature.positional.length + signature.keyword.length

/-- Which of the keyword parameters has the given name, the first of several. -/
def keywordIndex? (signature : Signature) (name : String) : Option Nat :=
  signature.keyword.findIdx? (·.name == name)

/-- Whether the last positional parameter is called `args`, by which listings mark the methods that are
documented to take one or more values there. -/
def looksVariadic (signature : Signature) : Bool :=
  (signature.positional.getLast?.bind (·.name)) == some "args"

/-- **A signature on one line**: `home.name(parameters) -> type`. -/
def display (signature : Signature) : String :=
  let parameters := signature.positional.map (·.display) ++ signature.keyword.map (·.display)
  signature.home ++ "." ++ signature.name ++ "(" ++ ", ".intercalate parameters ++ ")"
    ++ if signature.returnType.isEmpty then "" else " -> " ++ signature.returnType

end Signature

end Interpolation
