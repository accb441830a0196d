import Interpolation.Tree

/-!
# Canonical text

Every tree has one canonical spelling (`Interpolation.Tree.render`): a variable stands between braces without
blanks, and a call lists its slots in the order of its signature up to the last one that holds a value, with a
comma and a space between two of them. An empty slot in between leaves its place empty; a keyword slot shows
its name in any case.
-/

namespace Interpolation

/-- What is written in front of the value of a slot. -/
def Label.lead : Label → String
  | .positional => ""
  | .keyword name => name ++ "="

/-- A text between the braces of a span. -/
def spanText (inner : String) : String := "\x7b\x7b" ++ inner ++ "\x7d\x7d"

mutual

/-- The canonical text of a node. -/
def Node.render : Node → String
  | .text content => content
  | .variable path => spanText path
  | .call c => c.render

/-- The canonical text of a call. -/
def Call.render : Call → String
  | ⟨qualifier, signature, slots⟩ =>
    spanText (qualifier ++ "." ++ signature.name ++ "(" ++ ", ".intercalate (Slot.renderUsed slots) ++ ")")

/-- The canonical texts of the slots up to the last one that holds a value. -/
def Slot.renderUsed : List Slot → List String
  | [] => []
  | slot :: rest =>
    match Slot.renderUsed rest with
    | [] => if slot.isFilled then [slot.render] else []
    | used => slot.render :: used

/-- The canonical text of a slot. -/
def Slot.render : Slot → String
  | ⟨label, _, none⟩ => label.lead
  | ⟨label, _, some tree⟩ => label.lead ++ Tree.render tree

/-- **The canonical text of a tree.** -/
def Tree.render : List Node → String
  | [] => ""
  | node :: rest => node.render ++ Tree.render rest

end

end Interpolation
