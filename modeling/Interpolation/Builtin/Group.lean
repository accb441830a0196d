import Interpolation.Catalog

/-!
# Entries of the built-in namespaces

The words in which the built-in namespaces are written down: a namespace is a list of groups
(`Interpolation.Builtin.Group`), each with its methods, and every method stands in exactly one group.
-/

namespace Interpolation.Builtin

/-- A positional parameter. -/
def positional (name type description : String) : PositionalParameter where
  name := some name
  type := type
  description := some description

/-- A keyword parameter. -/
def keyword (name type description : String) (default : Option Value) : KeywordParameter where
  name := name
  type := type
  description := some description
  default := default

/-- A method. -/
def method (name returnType description : String) (positional : List PositionalParameter)
    (keyword : List KeywordParameter) : Signature where
  name := name
  description := description
  positional := positional
  keyword := keyword
  returnType := returnType

/-- **A group of methods.** -/
structure Group where
  /-- What the group is known by. -/
  key : String
  /-- Its heading. -/
  title : String
  /-- What it is about. -/
  description : String
  /-- Its methods, in the order of the listing. -/
  methods : List Signature

/-- The group in the listing of its namespace. -/
def Group.listed (group : Group) : Section where
  key := group.key
  title := group.title
  description := some group.description
  methods := group.methods.map (·.name)

/-- **The namespace made of groups.** -/
def assemble (name title description : String) (groups : List Group) : Namespace :=
  Namespace.defineAll
    { name := name
      title := title
      description := description
      sections := groups.map Group.listed }
    (groups.flatMap (·.methods))

end Interpolation.Builtin
