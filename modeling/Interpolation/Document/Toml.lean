import Interpolation.Document.Toml.Value

/-!
# TOML documents

The reader of TOML texts (`Interpolation.Toml.document?`): a byte order mark may stand in front, then lines
follow, each of them empty but for a comment, a header, or a key with its value.
-/

namespace Interpolation.Toml

open Grammar

/-- **How far a document has been read.** -/
structure Draft where
  /-- The table of the whole document. -/
  root : Table
  /-- The key of the latest header. -/
  header : List String

/-- A header and what is left of its line. -/
def headerLine (draft : Draft) : Grammar Draft := do
  char '['
  let element := (← optional (char '[')).isSome
  let key ← key
  char ']'
  if element then char ']'
  lineRest
  let root ← ofOption (draft.root.header key element)
  return ⟨root, key⟩

/-- A key, its value and what is left of the line. -/
def assignmentLine (draft : Draft) : Grammar Draft := do
  let key ← keyEquals
  spaces
  let value ← value
  lineRest
  let root ← ofOption (draft.root.alter .passed (·.assign key value) draft.header)
  return { draft with root := root }

/-- A line. -/
def line (draft : Draft) : Grammar (Draft ⊕ Draft) := do
  spaces
  match ← peek with
  | none => return .inr draft
  | some '#' => comment; lineEnd; return .inl draft
  | some '\n' | some '\r' => newline; return .inl draft
  | some '[' => return .inl (← headerLine draft)
  | _ => return .inl (← assignmentLine draft)

/-- **The document that a TOML text spells.** -/
def document? (s : String) : Option Document :=
  (read? (optional (char '\ufeff') *> iterate line ⟨.new .opened, []⟩) s.toList).map (·.root.document)

end Interpolation.Toml
