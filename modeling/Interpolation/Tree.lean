import Interpolation.Catalog

/-!
# Expression trees

What an interpolated text says, as data. A tree (`Interpolation.Tree`) is a sequence of nodes: literal texts,
references to variables, and calls. A call (`Interpolation.Call`) names a method by the namespace as it was
written and carries the method's signature together with one slot per parameter, in the order of the
signature. A slot (`Interpolation.Slot`) is empty or holds a tree of its own.

The walks over a tree (`Interpolation.Tree.calls`, `Interpolation.Tree.variables`) go depth first, a call
coming before the calls in its slots. The edits (`Interpolation.Call.set?`, `Interpolation.Call.setKeyword?`)
replace what a slot holds and leave everything else as it was.
-/

namespace Interpolation

/-- **How a slot is selected.** -/
inductive Label where
  /-- By its place among the positional parameters. -/
  | positional
  /-- By the name of a keyword parameter. -/
  | keyword (name : String)
deriving Inhabited, DecidableEq

mutual

/-- **A piece of an interpolated text.** -/
inductive Node where
  /-- Text outside every span. -/
  | text (content : String)
  /-- A reference to a variable. -/
  | variable (path : String)
  /-- A call of a method. -/
  | call (call : Call)

/-- **A call bound to its signature.** -/
structure Call where
  /-- The name or alias of the namespace, as written. -/
  qualifier : String
  /-- The signature of the method. -/
  signature : Signature
  /-- One slot per parameter, in the order of the signature. -/
  slots : List Slot

/-- **A place for an argument.** -/
structure Slot where
  /-- How the slot is selected. -/
  label : Label
  /-- The documented type of its parameter. -/
  type : String
  /-- What it holds, if anything. -/
  value : Option (List Node)

end

/-- What an interpolated text says: its pieces in order. -/
abbrev Tree := List Node

deriving instance BEq for Node, Call, Slot

instance : Inhabited Node := ⟨.text ""⟩

deriving instance Inhabited for Slot, Call

/-! ### Slots and calls -/

namespace Slot

/-- Whether the slot belongs to a positional parameter. -/
def isPositional (slot : Slot) : Bool := slot.label == .positional

/-- The word that selects the slot, if it belongs to a keyword parameter. -/
def keyword? (slot : Slot) : Option String :=
  match slot.label with
  | .keyword name => some name
  | .positional => none

/-- Whether the slot belongs to the keyword parameter of the given name. -/
def answersTo (name : String) (slot : Slot) : Bool := slot.keyword? == some name

/-- Whether the slot holds a value. -/
def isFilled (slot : Slot) : Bool := slot.value.isSome

end Slot

/-- The empty slots of a signature: the positional parameters' first, then the keyword parameters'. -/
def Signature.slots (signature : Signature) : List Slot :=
  signature.positional.map (fun parameter => ⟨.positional, parameter.type, none⟩)
    ++ signature.keyword.map (fun parameter => ⟨.keyword parameter.name, parameter.type, none⟩)

namespace Call

/-- The call of a method with every slot empty. -/
def blank (qualifier : String) (signature : Signature) : Call := ⟨qualifier, signature, signature.slots⟩

/-- The name of the method. -/
def name (call : Call) : String := call.signature.name

/-- The slot of the positional parameter of the given number. -/
def positional? (call : Call) (index : Nat) : Option Slot := (call.slots.filter Slot.isPositional)[index]?

/-- The slot of the keyword parameter of the given name, the first of several. -/
def keyword? (call : Call) (name : String) : Option Slot := call.slots.find? (Slot.answersTo name)

/-- The number of slots that hold a value. -/
def filled (call : Call) : Nat := call.slots.countP Slot.isFilled

/-- The call with the slot of the given number holding something else. -/
def put (call : Call) (index : Nat) (value : Option Tree) : Call :=
  { call with slots := call.slots.modify index fun slot => { slot with value := value } }

/-- Like `Call.put`, but nothing when there is no such slot. -/
def set? (call : Call) (index : Nat) (value : Option Tree) : Option Call :=
  if index < call.slots.length then some (call.put index value) else none

/-- The call with the slot of a keyword parameter holding something else, or nothing when no keyword
parameter has that name. -/
def setKeyword? (call : Call) (name : String) (value : Option Tree) : Option Call :=
  (call.slots.findIdx? (Slot.answersTo name)).map (call.put · value)

end Call

/-- A call of a catalog's method with every slot empty. -/
def Catalog.instantiate (catalog : Catalog) (qualifier name : String) : Option Call :=
  (catalog.lookup qualifier name).map (Call.blank qualifier)

/-! ### Walks -/

namespace Node

/-- The call that a node is, if it is one. -/
def call? : Node → Option Call
  | call c => some c
  | _ => none

/-- The variable with the given path, which may not be empty: the empty reference is no text that could be
read again. -/
def ofPath? (path : String) : Option Node := if path.isEmpty then none else some (.variable path)

end Node

mutual

/-- The calls of a node, the outer one first. -/
def Node.calls : Node → List Call
  | .text _ => []
  | .variable _ => []
  | .call c => c :: c.innerCalls

/-- The calls in the slots of a call. -/
def Call.innerCalls : Call → List Call
  | ⟨_, _, slots⟩ => Slot.listCalls slots

/-- The calls in several slots. -/
def Slot.listCalls : List Slot → List Call
  | [] => []
  | slot :: rest => slot.calls ++ Slot.listCalls rest

/-- The calls in a slot. -/
def Slot.calls : Slot → List Call
  | ⟨_, _, none⟩ => []
  | ⟨_, _, some tree⟩ => Tree.calls tree

/-- **All calls of a tree**, depth first, a call before those in its slots. -/
def Tree.calls : List Node → List Call
  | [] => []
  | node :: rest => node.calls ++ Tree.calls rest

end

mutual

/-- The paths of the variables in a node. -/
def Node.variables : Node → List String
  | .text _ => []
  | .variable path => [path]
  | .call c => c.variables

/-- The paths of the variables in the slots of a call. -/
def Call.variables : Call → List String
  | ⟨_, _, slots⟩ => Slot.listVariables slots

/-- The paths of the variables in several slots. -/
def Slot.listVariables : List Slot → List String
  | [] => []
  | slot :: rest => slot.variables ++ Slot.listVariables rest

/-- The paths of the variables in a slot. -/
def Slot.variables : Slot → List String
  | ⟨_, _, none⟩ => []
  | ⟨_, _, some tree⟩ => Tree.variables tree

/-- **The paths of all variables of a tree**, depth first, slots in the order of their signature. -/
def Tree.variables : List Node → List String
  | [] => []
  | node :: rest => node.variables ++ Tree.variables rest

end

end Interpolation
