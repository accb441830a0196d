import Interpolation.Catalog
import Interpolation.Files.Path
import Interpolation.Text.Blank

/-!
# Manifests

Namespaces come from manifests. A manifest (`Interpolation.Manifest`) declares one namespace with its
methods in the order of the file; a bundle (`Interpolation.Bundle`) declares several, each by its name with
its methods by theirs. Both are refused when a namespace has a blank name; a manifest also when two methods have
the same name, while in a bundle the later one stays, in the order of the names they are listed under.
-/

namespace Interpolation

/-- **Why a manifest cannot be taken up.** -/
inductive CatalogError where
  /-- Its file cannot be read. -/
  | unreadable (path : Path) (reason : String)
  /-- It is no TOML manifest. -/
  | malformedToml (path : Path)
  /-- It is no JSON bundle. -/
  | malformedJson (path : Path)
  /-- It declares a method twice. -/
  | duplicateMethod (space name : String)
  /-- It declares a namespace without a name. -/
  | emptyName (path : Path)
deriving DecidableEq

/-- The reason in words. What exactly is malformed is not part of it. -/
def CatalogError.message : CatalogError → String
  | unreadable path reason => "cannot read " ++ path.text ++ ": " ++ reason
  | malformedToml path => "malformed catalog manifest at " ++ path.text
  | malformedJson path => "malformed JSON catalog at " ++ path.text
  | duplicateMethod space name => "method `" ++ space ++ "." ++ name ++ "` is declared more than once"
  | emptyName path => "catalog manifest at " ++ path.text ++ " declares an empty namespace prefix"

/-- Whether a text has no character but blanks. -/
def isBlankName (name : String) : Bool := Text.isBlankText name.toList

/-- **One namespace as a manifest declares it.** -/
structure Manifest where
  /-- The name of the namespace. -/
  name : String
  /-- Its heading. -/
  title : Option String := none
  /-- What it is about. -/
  description : Option String := none
  /-- Other names for it. -/
  aliases : List String := []
  /-- The groups of its listing. -/
  sections : List Section := []
  /-- Its methods in the order of the file. -/
  methods : List Signature := []

/-- The first name in a list that occurs before it. -/
def firstRepeated? (seen : List String) : List String → Option String
  | [] => none
  | name :: rest => if seen.contains name then some name else firstRepeated? (name :: seen) rest

namespace Manifest

/-- The namespace that a manifest declares, if nothing is wrong with it. -/
def declared (manifest : Manifest) : Namespace :=
  Namespace.defineAll
    { name := manifest.name
      title := manifest.title.getD ""
      description := manifest.description.getD ""
      aliases := manifest.aliases
      sections := manifest.sections }
    manifest.methods

/-- **The namespace of a manifest.** A blank name is reported before a repeated method. -/
def namespace? (manifest : Manifest) (path : Path) : Except CatalogError Namespace :=
  if isBlankName manifest.name then
    .error (.emptyName path)
  else
    match firstRepeated? [] (manifest.methods.map (·.name)) with
    | some name => .error (.duplicateMethod manifest.name name)
    | none => .ok manifest.declared

end Manifest

/-- **Several namespaces as a document declares them**: by name, each with its methods by name. -/
abbrev Bundle := Keyed (String × Keyed (String × Signature) Prod.fst) Prod.fst

namespace Bundle

/-- A method listed under a name, which is its own unless it has one. -/
def named (listed : String × Signature) : Signature :=
  if listed.2.name.isEmpty then { listed.2 with name := listed.1 } else listed.2

/-- The namespace of the given name with the given methods. -/
def declared (name : String) (methods : Keyed (String × Signature) Prod.fst) : Namespace :=
  Namespace.defineAll { name := name } (methods.entries.map named)

/-- **The namespaces of a bundle**, in the order of their names. -/
def namespaces? (bundle : Bundle) (path : Path) : Except CatalogError (List Namespace) :=
  bundle.entries.mapM fun (name, methods) =>
    if isBlankName name then .error (.emptyName path) else .ok (declared name methods)

end Bundle

end Interpolation
