import Interpolation.Keyed
import Interpolation.Value

/-!
# Data documents

A manifest is written in one of two data formats; both are read into the same intermediate form
(`Interpolation.Document`). It differs from a `Interpolation.Value` in three ways: the fields of a mapping stand as
they were written, repeated names included; a float may be infinite or no number; and a part that is well formed
but has no value – a half surrogate, a number out of range, a nesting too deep – is kept as
`Interpolation.Document.unreadable`, because only a reader who needs that part has to complain about it.

The functions of this module take a document apart by what is expected of it, and fail (`none`) where it is
something else. A record (`Interpolation.Document.record?`) may be written as a mapping of its fields by name,
where unknown names are passed over, or as the sequence of its fields. What a longer sequence comes to is for the
format to say (`Interpolation.Document.Surplus`).
-/

namespace Interpolation

/-- **A data document as written.** -/
inductive Document where
  /-- The absent value. -/
  | null
  /-- A truth value. -/
  | boolean (value : Bool)
  /-- An integer. -/
  | integer (value : Int)
  /-- A double, possibly infinite or no number. -/
  | float (value : Float)
  /-- A text. -/
  | text (value : String)
  /-- A sequence. -/
  | sequence (elements : List Document)
  /-- Named parts in the order in which they were written. -/
  | mapping (entries : List (String × Document))
  /-- A well-formed part without a value. -/
  | unreadable
deriving Inhabited

namespace Document

/-! ### Single values -/

/-- A text. -/
def text? : Document → Option String
  | text s => some s
  | _ => none

/-- A sequence whose elements are all as expected. -/
def sequence? {α : Type} (element? : Document → Option α) : Document → Option (List α)
  | sequence elements => elements.mapM element?
  | _ => none

/-- A mapping whose parts are all as expected, by name; of repeated names the last counts. -/
def table? {α : Type} (part? : Document → Option α) : Document → Option (Keyed (String × α) Prod.fst)
  | mapping entries => do
    let parts ← entries.mapM fun (name, part) => (part? part).map (name, ·)
    return parts.foldl .insert .empty
  | _ => none

/-! ### Records -/

/-- The part of a mapping under any of the given names; two such parts are an error. -/
def only? (entries : List (String × Document)) (names : List String) : Option (Option Document) :=
  match entries.filter (names.contains ·.1) with
  | [] => some none
  | [(_, part)] => some (some part)
  | _ => none

/-- **What becomes of the elements of a sequence that are left over** when a record has taken its fields. -/
inductive Surplus where
  /-- The sequence is no record. -/
  | refused
  /-- They are passed over, whatever they are. -/
  | ignored
deriving DecidableEq

/-- The first so many elements of a sequence, and nothing in place of those that it lacks. -/
def padded : Nat → List Document → List (Option Document)
  | 0, _ => []
  | count + 1, [] => none :: padded count []
  | count + 1, element :: rest => some element :: padded count rest

/-- **The fields of a record**, each given by the names it may have, in the order in which a sequence lists
them. A field may be missing: in a mapping any, in a sequence the last ones. -/
def record? (surplus : Surplus) (fields : List (List String)) : Document → Option (List (Option Document))
  | mapping entries => fields.mapM (only? entries)
  | sequence elements =>
    if surplus = .refused ∧ fields.length < elements.length then none
    else some (padded fields.length elements)
  | _ => none

/-- A field that has to be there. -/
def required? {α : Type} (read? : Document → Option α) (field : Option Document) : Option α :=
  field.bind read?

/-- A field that has a fallback. -/
def orElse? {α : Type} (fallback : α) (read? : Document → Option α) : Option Document → Option α
  | none => some fallback
  | some part => read? part

/-- A field that may be missing or `null`. -/
def optional? {α : Type} (read? : Document → Option α) : Option Document → Option (Option α)
  | none => some none
  | some null => some none
  | some part => (read? part).map some

/-! ### Arbitrary values -/

/-- The value of a float; what is no finite number has none. -/
def floatValue (x : Float) : Value := if x.isFinite then .float x else .null

mutual

/-- **The value of a document**, the fields of its mappings sorted by name; of repeated names the last counts. -/
def value? : Document → Option Value
  | null => some .null
  | boolean b => some (.boolean b)
  | integer n => some (.integer n)
  | float x => some (floatValue x)
  | text s => some (.string s)
  | sequence elements => (values? elements).map .array
  | mapping entries => do
    let fields : List (String × Value) ← entryValues? entries
    let sorted : Keyed (String × Value) Prod.fst := fields.foldl .insert .empty
    return .object sorted.entries
  | unreadable => none

/-- The values of the elements of a sequence. -/
def values? : List Document → Option (List Value)
  | [] => some []
  | element :: rest => do
    let value ← value? element
    return value :: (← values? rest)

/-- The values of the parts of a mapping. -/
def entryValues? : List (String × Document) → Option (List (String × Value))
  | [] => some []
  | (name, part) :: rest => do
    let value ← value? part
    return (name, value) :: (← entryValues? rest)

end

end Document

end Interpolation
