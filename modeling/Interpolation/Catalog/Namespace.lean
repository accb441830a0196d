import Interpolation.Keyed
import Interpolation.Signature

/-!
# Namespaces

A namespace (`Interpolation.Namespace`) gathers methods under a common name. Its sections group the methods
for listings and may name methods that it does not have; its aliases are further names by which it can be
called. Whatever method is put in is at home in the namespace afterwards
(`Interpolation.Namespace.define`), and of two methods of one name the later one stays.
-/

namespace Interpolation

/-- **A group of methods in a listing.** -/
structure Section where
  /-- What the group is known by. -/
  key : String
  /-- The heading of the group. -/
  title : String := ""
  /-- What the group is about. -/
  description : Option String := none
  /-- The names of its methods, in the order of the listing. -/
  methods : List String := []
deriving Inhabited, BEq

/-- **A named collection of methods.** -/
structure Namespace where
  /-- The name in front of the dot. -/
  name : String
  /-- The heading in listings. -/
  title : String := ""
  /-- What the namespace is about. -/
  description : String := ""
  /-- Other names for it. -/
  aliases : List String := []
  /-- The groups of its listing. -/
  sections : List Section := []
  /-- The methods, by name. -/
  methods : Keyed Signature Signature.name := .empty

namespace Namespace

/-- The namespace with a method put in, which is at home there from now on. -/
def define (space : Namespace) (method : Signature) : Namespace :=
  { space with methods := space.methods.insert { method with home := space.name } }

/-- The namespace with several methods put in, one after the other. -/
def defineAll (space : Namespace) (methods : List Signature) : Namespace :=
  methods.foldl define space

/-- The method of the given name. -/
def method? (space : Namespace) (name : String) : Option Signature := space.methods.get? name

/-- The number of methods. -/
def size (space : Namespace) : Nat := space.methods.size

/-- Whether some section lists the method. -/
def isSectioned (space : Namespace) (method : String) : Bool :=
  space.sections.any (·.methods.contains method)

/-- The methods that no section lists, by name. -/
def unsectioned (space : Namespace) : List Signature :=
  space.methods.entries.filter fun method => !space.isSectioned method.name

/-- The elements of a second list that the first has not, put behind it one after the other. -/
def appendNew (aliases : List String) (more : List String) : List String :=
  more.foldl (fun known name => if known.contains name then known else known ++ [name]) aliases

/-- **A namespace taken up into another.** A heading or a description replaces the old one unless it is
empty, sections follow the old ones, and methods replace those of the same name. -/
def merge (space other : Namespace) : Namespace :=
  defineAll
    { space with
      title := if other.title.isEmpty then space.title else other.title
      description := if other.description.isEmpty then space.description else other.description
      aliases := appendNew space.aliases other.aliases
      sections := space.sections ++ other.sections }
    other.methods.entries

theorem name_define (space : Namespace) (method : Signature) : (space.define method).name = space.name :=
  rfl

theorem name_defineAll (space : Namespace) (methods : List Signature) :
    (space.defineAll methods).name = space.name := by
  induction methods generalizing space with
  | nil => rfl
  | cons method rest ih => exact (ih (space.define method)).trans (name_define space method)

/-- Merging changes the contents of a namespace, not its name. -/
theorem name_merge (space other : Namespace) : (space.merge other).name = space.name :=
  name_defineAll _ _

end Namespace

end Interpolation
