import Interpolation.Document

/-!
# Tables of TOML under construction

A TOML document is built line by line, and what a line may still add depends on how a table came about
(`Interpolation.Toml.Origin`). A table that exists only because a longer header or a dotted key runs through
it can still be opened once by a header of its own; a table opened by a header cannot be opened again, and
neither a header nor a dotted key may run through a finished value. Dotted keys may only run through tables
that dotted keys or longer headers made.
-/

namespace Interpolation.Toml

/-- **How a table came about.** -/
inductive Origin where
  /-- By a header of its own, or as the table of the whole document. -/
  | opened
  /-- By a header that runs through it. -/
  | passed
  /-- By a dotted key that runs through it. -/
  | dotted
deriving DecidableEq

mutual

/-- What a name in a table stands for. -/
inductive Item where
  /-- A finished value. -/
  | value (value : Document)
  /-- A table. -/
  | table (table : Table)
  /-- An array of tables, the latest first. -/
  | tables (done : List Table)

/-- **A table under construction.** -/
structure Table where
  /-- How it came about. -/
  origin : Origin
  /-- Its parts. -/
  entries : List (String × Item)

end

namespace Table

/-- A table without parts. -/
def new (origin : Origin) : Table := ⟨origin, []⟩

/-- What a name stands for. -/
def item? (table : Table) (name : String) : Option Item := table.entries.lookup name

/-- The table with a name standing for something else. -/
def put (table : Table) (name : String) (item : Item) : Table :=
  { table with entries := (name, item) :: table.entries.filter (·.1 != name) }

/-- **Changes the table at the end of a path**, making the tables on the way that are not there yet. In an
array of tables the path goes on in the latest one. -/
def alter (origin : Origin) (change : Table → Option Table) : List String → Table → Option Table
  | [], table => change table
  | name :: path, table =>
    match table.item? name with
    | none => do
      let inner ← alter origin change path (.new origin)
      return table.put name (.table inner)
    | some (.table inner) =>
      if origin = .dotted && inner.origin = .opened then
        none
      else do
        let inner ← alter origin change path inner
        return table.put name (.table inner)
    | some (.tables (latest :: earlier)) => do
      let latest ← alter origin change path latest
      return table.put name (.tables (latest :: earlier))
    | _ => none

/-- Lets a name stand for a value, unless it stands for something already. A dotted key adds only to tables
that dotted keys made, a plain key only to others. -/
def define (viaDots : Bool) (name : String) (value : Document) (table : Table) : Option Table :=
  if (table.origin == .dotted) == viaDots && (table.item? name).isNone then
    some (table.put name (.value value))
  else
    none

/-- Adds a value under a key, given by all its parts. -/
def assign (key : List String) (value : Document) (table : Table) : Option Table :=
  match key.getLast? with
  | none => none
  | some name => alter .dotted (define (1 < key.length) name value) key.dropLast table

/-- Opens the table of a header. -/
def openTable (name : String) (table : Table) : Option Table :=
  match table.item? name with
  | none => some (table.put name (.table (.new .opened)))
  | some (.table inner) =>
    if inner.origin = .passed then some (table.put name (.table { inner with origin := .opened })) else none
  | _ => none

/-- Opens a further table of an array of tables. -/
def openElement (name : String) (table : Table) : Option Table :=
  match table.item? name with
  | none => some (table.put name (.tables [.new .opened]))
  | some (.tables done) => some (table.put name (.tables (.new .opened :: done)))
  | _ => none

/-- Carries out a header, given by all parts of its key and by whether it opens an element of an array. -/
def header (key : List String) (element : Bool) (table : Table) : Option Table :=
  match key.getLast? with
  | none => none
  | some name => alter .passed (if element then openElement name else openTable name) key.dropLast table

end Table

mutual

/-- What a finished item says. -/
def Item.document : Item → Document
  | .value value => value
  | .table table => table.document
  | .tables done => .sequence (Table.documents done).reverse

/-- **What a finished table says.** -/
def Table.document : Table → Document
  | ⟨_, entries⟩ => .mapping (Item.entries entries)

/-- What the parts of a finished table say. -/
def Item.entries : List (String × Item) → List (String × Document)
  | [] => []
  | (name, item) :: rest => (name, item.document) :: Item.entries rest

/-- What several finished tables say. -/
def Table.documents : List Table → List Document
  | [] => []
  | table :: rest => table.document :: Table.documents rest

end

end Interpolation.Toml
