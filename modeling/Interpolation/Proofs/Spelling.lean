import Interpolation.Proofs.Braces
import Interpolation.Proofs.Splitting
import Interpolation.Render

/-!
# Canonical text, character by character

Rendering works on strings, and reading works on lists of characters. Here the canonical text of a node, a
slot and a tree is given as a list of characters (`Interpolation.Node.spelling`,
`Interpolation.Slot.spelling`, `Interpolation.Tree.spelling`), with one equation for each way of building
them. The list of slots that are written at all is cut off behind the last one that holds a value
(`Interpolation.Slot.used`); that it is a list of slots, and not one of texts, is what later inductions go
along.
-/

namespace Interpolation

open Brace

/-! ### Spellings -/

/-- The characters of the canonical text of a tree. -/
def Tree.spelling (tree : Tree) : List Char := (Tree.render tree).toList

/-- The characters of the canonical text of a node. -/
def Node.spelling (node : Node) : List Char := node.render.toList

/-- The characters of the canonical text of a slot. -/
def Slot.spelling (slot : Slot) : List Char := slot.render.toList

/-- The characters in front of the value of a slot. -/
def Label.mark (label : Label) : List Char := label.lead.toList

/-- The characters of the value of a slot, none if it holds nothing. -/
def Slot.content (slot : Slot) : List Char := (slot.value.map Tree.spelling).getD []

/-- **The slots that are written**: all up to the last one that holds a value. -/
def Slot.used : List Slot → List Slot
  | [] => []
  | slot :: rest => if (slot :: rest).any Slot.isFilled then slot :: used rest else []

/-- The characters of several slots as arguments. -/
def Slot.listing (slots : List Slot) : List Char :=
  ArgumentList.separator.intercalate ((Slot.used slots).map Slot.spelling)

/-- The head of the canonical text of a call, and what is written behind it. -/
def Call.head (call : Call) : CallHead :=
  ⟨call.qualifier.toList, call.name.toList, Slot.listing call.slots ++ [')']⟩

/-! ### What is written -/

theorem Slot.content_of_none {slot : Slot} (h : slot.value = none) : slot.content = [] := by
  rw [Slot.content, h]
  rfl

theorem Slot.content_of_some {slot : Slot} {value : Tree} (h : slot.value = some value) :
    slot.content = value.spelling := by
  rw [Slot.content, h]
  rfl

/-- Slots of which none is filled hold nothing. -/
theorem Slot.value_eq_none_of_any {slots : List Slot} (h : slots.any Slot.isFilled = false) {slot : Slot}
    (hmem : slot ∈ slots) : slot.value = none := by
  simpa [Slot.isFilled] using List.any_eq_false.1 h slot hmem

@[simp] theorem Label.mark_positional : Label.positional.mark = [] := rfl

@[simp] theorem Label.mark_keyword (name : String) : (Label.keyword name).mark = name.toList ++ ['='] := by
  rw [Label.mark, Label.lead, String.toList_append]
  rfl

@[simp] theorem Slot.used_nil : Slot.used [] = [] := rfl

/-- Without a value nothing is written. -/
theorem Slot.used_of_none {slots : List Slot} (h : slots.any Slot.isFilled = false) :
    Slot.used slots = [] := by
  cases slots with
  | nil => rfl
  | cons slot rest => rw [Slot.used, if_neg (by simp [h])]

/-- In front of a value every slot is written. -/
theorem Slot.used_of_any {slot : Slot} {rest : List Slot} (h : (slot :: rest).any Slot.isFilled = true) :
    Slot.used (slot :: rest) = slot :: Slot.used rest := by
  rw [Slot.used, if_pos h]

theorem Slot.exists_used_of_any {slots : List Slot} (h : slots.any Slot.isFilled = true) :
    ∃ slot rest, Slot.used slots = slot :: rest := by
  cases slots with
  | nil => simp at h
  | cons slot rest => exact ⟨slot, Slot.used rest, Slot.used_of_any h⟩

theorem Slot.renderUsed_eq (slots : List Slot) :
    Slot.renderUsed slots = (Slot.used slots).map Slot.render := by
  induction slots with
  | nil => rfl
  | cons slot rest ih =>
    -- Rendering looks at what it wrote of the rest, and that is nothing exactly if the rest holds no value.
    rw [Slot.renderUsed, ih]
    cases hrest : rest.any Slot.isFilled with
    | false =>
      rw [Slot.used_of_none hrest, List.map_nil]
      cases hslot : slot.isFilled with
      | false => rw [Slot.used_of_none (by simp [hslot, hrest])]; rfl
      | true => rw [Slot.used_of_any (by simp [hslot]), Slot.used_of_none hrest]; rfl
    | true =>
      obtain ⟨next, more, hmore⟩ := Slot.exists_used_of_any hrest
      rw [Slot.used_of_any (by simp [hrest]), hmore]
      rfl

/-! ### Equations -/

@[simp] theorem Tree.spelling_nil : Tree.spelling [] = [] := by
  rw [Tree.spelling, Tree.render]
  rfl

@[simp] theorem Tree.spelling_cons (node : Node) (rest : Tree) :
    Tree.spelling (node :: rest) = node.spelling ++ Tree.spelling rest := by
  rw [Tree.spelling, Tree.render, String.toList_append]
  rfl

@[simp] theorem Node.spelling_text (content : String) : (Node.text content).spelling = content.toList := by
  rw [Node.spelling, Node.render]

theorem toList_spanText (inner : String) : (spanText inner).toList = braced inner.toList := by
  rw [spanText, String.toList_append, String.toList_append]
  rfl

@[simp] theorem Node.spelling_variable (path : String) :
    (Node.variable path).spelling = braced path.toList := by
  rw [Node.spelling, Node.render, toList_spanText]

/-- A slot is written as its mark and its value. -/
theorem Slot.spelling_eq (slot : Slot) : slot.spelling = slot.label.mark ++ slot.content := by
  obtain ⟨label, type, value⟩ := slot
  cases value with
  | none => simp [Slot.spelling, Slot.render, Label.mark, Slot.content]
  | some tree => simp [Slot.spelling, Slot.render, Label.mark, Slot.content, Tree.spelling]

/-- **A call is written as a span** with its head, its slots and a closing parenthesis. -/
@[simp] theorem Node.spelling_call (call : Call) :
    (Node.call call).spelling = braced (call.head.text ++ call.head.rest) := by
  obtain ⟨qualifier, signature, slots⟩ := call
  rw [Node.spelling, Node.render, Call.render, toList_spanText, Slot.renderUsed_eq]
  simp only [String.toList_append, String.toList_intercalate, List.map_map, Call.head, CallHead.text,
    Slot.listing, Call.name]
  simp
  rfl

theorem Slot.listing_of_none {slots : List Slot} (h : slots.any Slot.isFilled = false) :
    Slot.listing slots = [] := by
  rw [Slot.listing, Slot.used_of_none h]
  rfl

/-- The last slot that holds a value is written alone. -/
theorem Slot.listing_last {slot : Slot} {rest : List Slot} (hslot : slot.isFilled = true)
    (hrest : rest.any Slot.isFilled = false) : Slot.listing (slot :: rest) = slot.spelling := by
  rw [Slot.listing, Slot.used_of_any (by simp [hslot]), Slot.used_of_none hrest]
  simp

/-- Any other slot is written in front of the ones behind it. -/
theorem Slot.listing_cons {slot : Slot} {rest : List Slot} (hrest : rest.any Slot.isFilled = true) :
    Slot.listing (slot :: rest) = slot.spelling ++ ',' :: ' ' :: Slot.listing rest := by
  obtain ⟨next, more, hmore⟩ := Slot.exists_used_of_any hrest
  rw [Slot.listing, Slot.listing, Slot.used_of_any (by simp [hrest]), hmore, List.map_cons, List.map_cons,
    List.intercalate_cons_cons, List.append_assoc]
  rfl

end Interpolation
