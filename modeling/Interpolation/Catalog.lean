import Interpolation.Catalog.Namespace

/-!
# Catalogs

A catalog (`Interpolation.Catalog`) is what calls are looked up in: namespaces by name, and a table of aliases.
It grows by registering namespaces (`Interpolation.Catalog.register`): the first of its name is taken as it is,
a later one is merged into it, and the aliases that it lists lead to it from then on, whatever they led to
before. An alias takes precedence over a namespace of the same name.
-/

namespace Interpolation

/-- **The methods that calls can name.** -/
structure Catalog where
  /-- The namespaces, by name. -/
  table : Keyed Namespace Namespace.name := .empty
  /-- Aliases with the names that they stand for, the latest first. -/
  aliases : List (String × String) := []

namespace Catalog

/-- The catalog without namespaces. -/
def empty : Catalog := {}

/-- Takes up a namespace, merging it into the one of its name if there is one. -/
def register (catalog : Catalog) (space : Namespace) : Catalog where
  table := catalog.table.insert <|
    match catalog.table.get? space.name with
    | some known => known.merge space
    | none => space
  aliases := space.aliases.map (·, space.name) ++ catalog.aliases

/-- Takes up several namespaces, one after the other. -/
def registerAll (catalog : Catalog) (spaces : List Namespace) : Catalog :=
  spaces.foldl register catalog

/-- The catalog that holds just these namespaces, registered in order. -/
def ofList (spaces : List Namespace) : Catalog := empty.registerAll spaces

/-- The name that an alias stands for; what is no alias stands for itself. -/
def resolve (catalog : Catalog) (name : String) : String :=
  (catalog.aliases.lookup name).getD name

/-- The namespace that a name or an alias leads to. -/
def namespace? (catalog : Catalog) (name : String) : Option Namespace :=
  catalog.table.get? (catalog.resolve name)

/-- **The method that a call names**, by the name or alias of its namespace and its own name. -/
def lookup (catalog : Catalog) (space method : String) : Option Signature :=
  (catalog.namespace? space).bind (·.method? method)

/-- The namespaces in the order of their names. -/
def namespaces (catalog : Catalog) : List Namespace := catalog.table.entries

/-- The number of methods in all namespaces. -/
def size (catalog : Catalog) : Nat := catalog.namespaces.foldl (fun n space => n + space.size) 0

end Catalog

end Interpolation
