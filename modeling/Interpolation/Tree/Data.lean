import Interpolation.Tree

/-!
# Trees as data

The machine-readable form of a tree: an array of nodes, each an object that says its kind first. A call lists
its slots, filled or not, and each slot says how it is selected.
-/

namespace Interpolation

mutual

/-- A node as an object. -/
def Node.data : Node → Value
  | .text content => .object [("kind", .string "text"), ("content", .string content)]
  | .variable path => .object [("kind", .string "variable"), ("path", .string path)]
  | .call c => .object (("kind", .string "helper") :: c.fields)

/-- The fields of a call. -/
def Call.fields : Call → List (String × Value)
  | ⟨qualifier, signature, slots⟩ =>
    [ ("namespace", .string qualifier),
      ("name", .string signature.name),
      ("arguments", .array (Slot.listData slots)) ]

/-- Several slots as objects. -/
def Slot.listData : List Slot → List Value
  | [] => []
  | slot :: rest => slot.data :: Slot.listData rest

/-- A slot as an object. -/
def Slot.data : Slot → Value
  | ⟨label, type, value⟩ =>
    let selected : List (String × Value) :=
      match label with
      | .positional => [("kind", .string "positional")]
      | .keyword name => [("kind", .string "keyword"), ("name", .string name)]
    .object (selected ++ [("expected_type", .string type), ("value", Slot.valueData value)])

/-- What a slot holds, as an array of nodes, or nothing. -/
def Slot.valueData : Option (List Node) → Value
  | none => .null
  | some tree => .array (Tree.listData tree)

/-- The nodes of a tree as objects. -/
def Tree.listData : List Node → List Value
  | [] => []
  | node :: rest => node.data :: Tree.listData rest

end

/-- **A tree as an array of nodes.** -/
def Tree.data (tree : Tree) : Value := .array (Tree.listData tree)

/-- A call by itself. -/
def Call.data (call : Call) : Value := .object call.fields

end Interpolation
