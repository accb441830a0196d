import Interpolation.Style
import Interpolation.Text.Quoted
import Interpolation.Tree

/-!
# Outlines

Trees shown to a person, line by line: a line stands for a node or a slot, the slots of a call are one level
below it, and what a slot holds is one level below the slot.
-/

namespace Interpolation

/-- The start of a line at a level of an outline. -/
def indentation (level : Nat) : String := "".pushn ' ' (2 * level)

/-- How a slot is called in an outline: by its number or by its keyword. -/
def Label.caption (index : Nat) : Label → String
  | .positional => "#" ++ toString index
  | .keyword name => name ++ "="

mutual

/-- The lines of a node. -/
def Node.outline (coloured : Bool) (level : Nat) : Node → List String
  | .text content =>
    [indentation level ++ Style.faint.paint coloured "text" ++ " " ++ Text.quoted content]
  | .variable path =>
    [indentation level ++ (Style.tint .cyan).paint coloured "var " ++ " " ++ path]
  | .call c => Call.outline coloured level c

/-- The lines of a call. -/
def Call.outline (coloured : Bool) (level : Nat) : Call → List String
  | ⟨qualifier, signature, slots⟩ =>
    let result :=
      if signature.returnType.isEmpty then ""
      else Style.faint.paint coloured (" -> " ++ signature.returnType)
    (indentation level ++ Style.good.paint coloured "call" ++ " " ++ qualifier ++ "."
      ++ Style.strong.paint coloured signature.name ++ result)
      :: Slot.listOutline coloured (level + 1) 0 slots

/-- The lines of several slots, the first of them having the given number. -/
def Slot.listOutline (coloured : Bool) (level index : Nat) : List Slot → List String
  | [] => []
  | slot :: rest =>
    Slot.outline coloured level index slot ++ Slot.listOutline coloured level (index + 1) rest

/-- The lines of a slot. -/
def Slot.outline (coloured : Bool) (level index : Nat) : Slot → List String
  | ⟨label, type, value⟩ =>
    let head := indentation level ++ (Style.tint .yellow).paint coloured (label.caption index) ++ " "
      ++ Style.faint.paint coloured (": " ++ type)
    match value with
    | none => [head ++ " " ++ Style.faint.paint coloured "(empty)"]
    | some tree => head :: Tree.outline coloured (level + 1) tree

/-- **The lines of a tree.** -/
def Tree.outline (coloured : Bool) (level : Nat) : List Node → List String
  | [] => []
  | node :: rest => Node.outline coloured level node ++ Tree.outline coloured level rest

end

end Interpolation
