/-!
# Paths

A path is kept as it was written (`Interpolation.Path`) and understood by its components
(`Interpolation.Path.components`): repeated slashes and dots between them count for nothing. The order of
paths is the order of their components one after the other (`Interpolation.Path.compare`), so that differently
spelled paths can be equal in it.
-/

namespace Interpolation

/-- **A path as it is written.** -/
structure Path where
  /-- The text of the path. -/
  text : String
deriving Inhabited, DecidableEq

/-- **A step along a path.** -/
inductive Component where
  /-- To the root. -/
  | root
  /-- To the same place. -/
  | here
  /-- To the place above. -/
  | up
  /-- To the place of the given name. -/
  | name (name : String)
deriving DecidableEq, Repr

namespace Component

/-- The rank of the kind of a component. -/
def rank : Component → Nat
  | root => 0
  | here => 1
  | up => 2
  | name _ => 3

/-- The order of components: first by kind, then by name. -/
def compare : Component → Component → Ordering
  | name a, name b => if a < b then .lt else if a = b then .eq else .gt
  | a, b => Ord.compare a.rank b.rank

end Component

namespace Path

/-- The pieces of a text between its slashes. -/
def pieces : List Char → List (List Char)
  | [] => [[]]
  | c :: rest =>
    if c = '/' then
      [] :: pieces rest
    else
      match pieces rest with
      | piece :: more => (c :: piece) :: more
      | [] => [[c]]

/-- The component that a piece of a path stands for, if it counts. A dot counts only at the start. -/
def component? (atStart : Bool) (piece : List Char) : Option Component :=
  match piece with
  | [] => none
  | ['.'] => if atStart then some .here else none
  | ['.', '.'] => some .up
  | _ => some (.name (String.ofList piece))

/-- **The components of a path.** -/
def components (path : Path) : List Component :=
  match pieces path.text.toList with
  | [] :: rest@(_ :: _) => .root :: rest.filterMap (component? false)
  | first :: rest => (component? true first).toList ++ rest.filterMap (component? false)
  | [] => []

/-- Whether a path ends in a slash or in a dot behind one, and so can only be a directory's. -/
def namesDirectory (path : Path) : Bool :=
  match (pieces path.text.toList).reverse with
  | last :: _ :: _ => last.isEmpty || last == ['.']
  | _ => false

/-- The order of components, one after the other. -/
def compareComponents : List Component → List Component → Ordering
  | [], [] => .eq
  | [], _ => .lt
  | _, [] => .gt
  | a :: as, b :: bs => (a.compare b).then (compareComponents as bs)

/-- **The order of paths.** -/
def compare (a b : Path) : Ordering := compareComponents a.components b.components

/-- The last component of a path, if it is a name. -/
def fileName? (path : Path) : Option String :=
  match path.components.getLast? with
  | some (.name name) => some name
  | _ => none

/-- What stands behind the last dot of a name that does not begin with it. -/
def extensionOf? (name : List Char) : Option (List Char) :=
  let behind := name.reverse.takeWhile (· != '.')
  if behind.length + 1 < name.length then some behind.reverse else none

/-- **The extension of the last name of a path.** -/
def extension? (path : Path) : Option String :=
  (path.fileName?.bind fun name => extensionOf? name.toList).map String.ofList

/-- A path continued by a name, which replaces it if it begins at the root. -/
def join (path : Path) (name : String) : Path :=
  if name.startsWith "/" then ⟨name⟩
  else if path.text.isEmpty || path.text.endsWith "/" then ⟨path.text ++ name⟩
  else ⟨path.text ++ "/" ++ name⟩

end Path

end Interpolation
