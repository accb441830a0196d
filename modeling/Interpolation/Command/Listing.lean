import Interpolation.Catalog
import Interpolation.Style
import Interpolation.Text.Case

/-!
# Listings of methods

The methods of a catalog shown to a person: all methods of a namespace, section by section and then those in no
section (`Interpolation.Command.groups`), or the methods that match a query (`Interpolation.Command.matching`).
-/

namespace Interpolation.Command

/-- The lines of a method: its signature, marked if it looks variadic, and what it does. -/
def methodLines (coloured : Bool) (method : Signature) : List String :=
  let mark := if method.looksVariadic then " " ++ (Style.tint .yellow).paint coloured "(variadic?)" else ""
  let signature := (Style.tint .green).paint coloured method.display ++ mark
  if method.description.isEmpty then [signature]
  else [signature, "      " ++ Style.faint.paint coloured method.description]

/-- The lines of a method inside a group: the first of them is indented. -/
def groupedLines (coloured : Bool) (method : Signature) : List String :=
  match methodLines coloured method with
  | first :: rest => ("    " ++ first) :: rest
  | [] => []

/-- **A part of a listing**: methods under a heading. -/
structure Group where
  /-- The heading. -/
  heading : String
  /-- The methods, in the order of the listing. -/
  methods : List Signature

/-- The part of a listing that a section stands for. Names without a method are passed over. -/
def Group.ofSection (space : Namespace) (listed : Section) : Group :=
  ⟨listed.title, listed.methods.filterMap space.method?⟩

/-- The part of a listing for the methods in no section, if there are any. -/
def Group.others (space : Namespace) : List Group :=
  if space.unsectioned.isEmpty then [] else [⟨"Other", space.unsectioned⟩]

/-- **The parts of the listing of a namespace**: its sections in order, then the methods in none. -/
def groups (space : Namespace) : List Group :=
  space.sections.map (Group.ofSection space) ++ Group.others space

/-- The lines of a part of a listing, an empty one first. -/
def Group.lines (coloured : Bool) (group : Group) : List String :=
  "" :: ("  " ++ Style.strong.paint coloured group.heading)
    :: group.methods.flatMap (groupedLines coloured)

/-- The heading of a namespace. -/
def heading (space : Namespace) : String :=
  if space.title.isEmpty then Text.upperCase space.name else space.title

/-- **The lines of a namespace**: its heading and description, the parts of its listing, and an empty
line. -/
def spaceLines (coloured : Bool) (space : Namespace) : List String :=
  let head := { Style.tint .cyan with bold := true }.paint coloured (heading space) ++ " "
    ++ Style.faint.paint coloured ("[" ++ space.name ++ "]")
  let description :=
    if space.description.isEmpty then [] else [Style.faint.paint coloured space.description]
  head :: description ++ (groups space).flatMap (Group.lines coloured) ++ [""]

/-- Whether a text occurs in another. -/
def occurs (query : List Char) : List Char → Bool
  | [] => query.isEmpty
  | c :: rest => query.isPrefixOf (c :: rest) || occurs query rest

/-- Whether a query, given in lower case, occurs in the name or the description of a method, whatever
their case. -/
def answers (query : String) (method : Signature) : Bool :=
  occurs query.toList (Text.lowerCase method.name).toList
    || occurs query.toList (Text.lowerCase method.description).toList

/-- The methods of several namespaces that match a query given in lower case. -/
def matching (query : String) (spaces : List Namespace) : List Signature :=
  spaces.flatMap fun space => space.methods.entries.filter (answers query)

end Interpolation.Command
