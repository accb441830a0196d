import Interpolation.Files.Path

/-!
# Files

The files that a run can see, as a value (`Interpolation.Files`): the place of the working directory and every
file by the names that lead to it from the root. Reading (`Interpolation.Files.read`), walking
(`Interpolation.Files.walk`) and writing (`Interpolation.Files.write`) go by paths as they are written, and
fail the way a file system does (`Interpolation.FileError`). Writing replaces the contents of one file and
touches nothing else.
-/

namespace Interpolation

/-- **What is at a place.** -/
inductive Entry where
  /-- A file with its bytes. -/
  | file (bytes : ByteArray)
  /-- A file that may not be read. -/
  | locked
  /-- A directory. -/
  | directory

/-- Whether a file is there. -/
def Entry.isFile : Entry → Bool
  | directory => false
  | _ => true

/-- **Why a file cannot be read.** -/
inductive FileError where
  /-- Nothing is there. -/
  | notFound
  /-- A file stands where the path needs a directory. -/
  | notADirectory
  /-- A directory stands where the path needs a file. -/
  | isADirectory
  /-- A name in the path, or the whole path, has too many bytes. -/
  | nameTooLong
  /-- The path holds a character that no path may hold. -/
  | nulInPath
  /-- The file may not be read. -/
  | denied
  /-- The bytes of the file are no text. -/
  | notText
deriving DecidableEq

/-- The reason in words. -/
def FileError.message : FileError → String
  | notFound => "No such file or directory (os error 2)"
  | denied => "Permission denied (os error 13)"
  | notADirectory => "Not a directory (os error 20)"
  | isADirectory => "Is a directory (os error 21)"
  | nameTooLong => "File name too long (os error 36)"
  | nulInPath => "file name contained an unexpected NUL byte"
  | notText => "stream did not contain valid UTF-8"

/-- **The files that a run can see.** A place is given by the names that lead to it from the root. -/
structure Files where
  /-- The place of the working directory. -/
  here : List String
  /-- What is where. A directory that holds something need not be listed. -/
  entries : List (List String × Entry)
  /-- No place is listed twice. -/
  distinct : (entries.map Prod.fst).Nodup

namespace Files

/-! ### Making and changing -/

/-- The entries of a list without those whose place is listed before. -/
def firsts : List (List String × Entry) → List (List String × Entry)
  | [] => []
  | entry :: rest => entry :: (firsts rest).filter (·.1 != entry.1)

/-- Each place occurs once among the first entries. -/
theorem nodup_firsts (entries : List (List String × Entry)) : ((firsts entries).map Prod.fst).Nodup := by
  induction entries with
  | nil => simp [firsts]
  | cons entry rest ih =>
    refine List.nodup_cons.2 ⟨?_, ih.sublist (List.filter_sublist.map _)⟩
    simp

/-- The files with these entries, of which the first counts where a place is listed twice. -/
def ofEntries (here : List String) (entries : List (List String × Entry)) : Files :=
  ⟨here, firsts entries, nodup_firsts entries⟩

/-- Another entry for a place that is listed. -/
def replace (files : Files) (place : List String) (entry : Entry) : Files where
  here := files.here
  entries := files.entries.map fun (listed, old) => (listed, if listed = place then entry else old)
  distinct := by simpa [List.map_map, Function.comp_def] using files.distinct

/-! ### Places -/

/-- What is at a place: what is listed there, or a directory if something lies below it. -/
def at? (files : Files) (place : List String) : Option Entry :=
  match files.entries.lookup place with
  | some entry => some entry
  | none =>
    if place.isEmpty || files.entries.any (place.isPrefixOf ·.1) then some .directory else none

/-- How many bytes a name may have. -/
def longestName : Nat := 255

/-- How many bytes a path may have. -/
def longestPath : Nat := 4095

/-- One step along a path, from a place that has to be a directory. -/
def step (files : Files) (place : List String) (component : Component) : Except FileError (List String) :=
  match component with
  | .root => .ok []
  | component =>
    match files.at? place with
    | none => .error .notFound
    | some .directory =>
      match component with
      | .up => .ok place.dropLast
      | .name name => if longestName < name.utf8ByteSize then .error .nameTooLong else .ok (place ++ [name])
      | _ => .ok place
    | some _ => .error .notADirectory

/-- The place that a path leads to and what is there. -/
def resolve (files : Files) (path : Path) : Except FileError (List String × Entry) :=
  if path.text.toList.contains '\x00' then
    .error .nulInPath
  else if path.text.isEmpty then
    .error .notFound
  else if longestPath < path.text.utf8ByteSize then
    .error .nameTooLong
  else do
    let place ← path.components.foldlM files.step files.here
    match files.at? place with
    | none => .error .notFound
    | some .directory => .ok (place, .directory)
    | some entry => if path.namesDirectory then .error .notADirectory else .ok (place, entry)

/-- Whether a path leads to a directory. -/
def isDirectory (files : Files) (path : Path) : Bool :=
  match files.resolve path with
  | .ok (_, .directory) => true
  | _ => false

/-! ### Reading, walking, writing -/

/-- The text that bytes encode. -/
def decode (bytes : ByteArray) : Except FileError String :=
  match String.fromUTF8? bytes with
  | some text => .ok text
  | none => .error .notText

/-- **The text of the file that a path leads to.** -/
def read (files : Files) (path : Path) : Except FileError String := do
  match ← files.resolve path with
  | (_, .file bytes) => decode bytes
  | (_, .locked) => .error .denied
  | (_, .directory) => .error .isADirectory

/-- **The files at or below the place that a path leads to**, each by the path continued to it. A path that
leads nowhere has none. -/
def walk (files : Files) (path : Path) : List Path :=
  match files.resolve path with
  | .error _ => []
  | .ok (place, .directory) =>
    files.entries.filterMap fun (names, entry) =>
      if entry.isFile && place.isPrefixOf names then
        some ((names.drop place.length).foldl Path.join path)
      else
        none
  | .ok _ => [path]

/-- The files with the one at a path holding another text. -/
def write (files : Files) (path : Path) (text : String) : Files :=
  match files.resolve path with
  | .ok (place, .file _) => files.replace place (.file text.toUTF8)
  | _ => files

end Files

end Interpolation
