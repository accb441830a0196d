import Interpolation.Proofs.Filling
import Interpolation.Proofs.Grammar

/-!
# Canonical trees

The trees that are read back from their own canonical text. What makes a tree canonical is said node by node
and level by level, in terms of what is written and without a word about how it is read
(`Interpolation.Tree.Canonical`):

* nodes may stand in the order in which they stand, and a literal text has nothing in it that would open a
  span, nor close one that it stands inside;
* the path of a variable closes a span and has neither blanks at its ends nor a call head at its beginning;
* a call has the names, the signature and the slots that look-up and binding would give it, and the values of
  its slots, canonical themselves, are texts that binding takes for arguments
  (`Interpolation.Label.Accepts`) and that the splitter leaves whole (`Interpolation.Slot.KeptApart`).

Levels are counted as reading counts them, so that a tree nested too deeply is not canonical.
-/

namespace Interpolation

open Brace Nesting

/-! ### Conditions -/

/-- The text is left as it is when it is given as an argument for the label. -/
def Label.Accepts : Label → List Char → Prop
  | .positional, text => Text.trim text = text ∧ Interpolation.keyword? text = none
  | .keyword _, text => Text.trimEnd text = text

/-- **The values of several slots are left whole by the splitter**: none meets a cut, and those in front of
another value end outside parentheses and quotes. -/
def Slot.KeptApart (slots : List Slot) : Prop :=
  ∀ (before : List Slot) (slot : Slot) (after : List Slot) (value : Tree),
    slots = before ++ slot :: after → slot.value = some value →
      outside.MeetsNoCut value.spelling ∧
        (after.any Slot.isFilled = true → outside.walk value.spelling = outside)

/-- **A canonical call**, given which trees are values. -/
structure Call.IsCanonical (catalog : Catalog) (isValue : Tree → Prop) (call : Call) : Prop where
  /-- The namespace is written as a word. -/
  qualifier_word : isWord call.qualifier.toList = true
  /-- The name of the method is made of words. -/
  name_hyphenated : Hyphenated call.name.toList
  /-- The signature is the one of the catalog. -/
  found : catalog.lookup call.qualifier call.name = some call.signature
  /-- Its keyword parameters have distinct words for names. -/
  named : call.signature.IsWellNamed
  /-- There is one slot for each parameter, in order. -/
  shaped : call.IsShaped
  /-- Every value is a canonical one. -/
  values : ∀ slot ∈ call.slots, ∀ value, slot.value = some value → isValue value
  /-- Every value is one that its label accepts. -/
  accepted : ∀ slot ∈ call.slots, ∀ value : Tree, slot.value = some value →
    slot.label.Accepts value.spelling
  /-- The splitter leaves the values whole. -/
  apart : Slot.KeptApart call.slots

/-- **A canonical node**, given which trees are values. -/
def Node.IsCanonical (catalog : Catalog) (isValue : Tree → Prop) : Node → Prop
  | .text content => content ≠ "" ∧ LacksOpening content.toList
  | .variable path =>
    path ≠ "" ∧ Text.trim path.toList = path.toList ∧ (∀ head : CallHead, ¬head.Begins path.toList) ∧
      Closes path.toList
  | .call c => c.IsCanonical catalog isValue

/-- **Canonical nodes in a row**, given which trees are values. -/
structure Tree.IsCanonical (catalog : Catalog) (isValue : Tree → Prop) (tree : Tree) : Prop where
  /-- There are nodes. -/
  nonempty : tree ≠ []
  /-- Every node is canonical. -/
  nodes : ∀ node ∈ tree, node.IsCanonical catalog isValue
  /-- The nodes may stand in this order. -/
  chain : tree.IsChain Node.MayPrecede

/-- **A canonical value**, so many levels being left for it and what is in it. -/
def Tree.IsValue (catalog : Catalog) : Nat → Tree → Prop
  | 0, _ => False
  | levels + 1, tree =>
    Tree.IsCanonical catalog (IsValue catalog levels) tree ∧
      ∀ content, Node.text content ∈ tree → LacksClosing content.toList

/-- **A canonical tree**: canonical nodes in a row, or the one tree of the empty text. -/
def Tree.Canonical (catalog : Catalog) (maxDepth : Nat) (tree : Tree) : Prop :=
  tree = [.text ""] ∨ tree.IsCanonical catalog (Tree.IsValue catalog maxDepth)

/-! ### Characters -/

theorem not_isBrace_of_isBlank {c : Char} (h : Text.isBlank c = true) : ¬IsBrace c := by
  rintro (rfl | rfl) <;> revert h <;> decide

theorem not_isBrace_of_isWordChar {c : Char} (h : isWordChar c = true) : ¬IsBrace c := by
  rintro (rfl | rfl) <;> revert h <;> decide

/-- The code points of word characters. -/
theorem toNat_of_isWordChar {c : Char} (h : isWordChar c = true) :
    (48 ≤ c.toNat ∧ c.toNat ≤ 57) ∨ (65 ≤ c.toNat ∧ c.toNat ≤ 90) ∨ (97 ≤ c.toNat ∧ c.toNat ≤ 122) ∨
      c.toNat = 95 := by
  have hval : c.toNat = c.val.toNat := rfl
  rw [isWordChar, Bool.or_eq_true, beq_iff_eq] at h
  rcases h with h | rfl
  · have hletter : (decide ('A'.val ≤ c.val ∧ c.val ≤ 'Z'.val) ||
        (decide ('a'.val ≤ c.val) && decide (c.val ≤ 'z'.val)) ||
        (decide ('0'.val ≤ c.val) && decide (c.val ≤ '9'.val))) = true := h
    simp [UInt32.le_iff_toNat_le] at hletter
    omega
  · decide

theorem isBlank_of_isWordChar {c : Char} (h : isWordChar c = true) : Text.isBlank c = false := by
  -- The ranges of blanks and those of word characters do not meet.
  have hrange := toNat_of_isWordChar h
  rw [Text.isBlank, Text.Ranges.contains, List.any_eq_false]
  intro range hmem
  simp only [Text.blanks, List.mem_cons, List.not_mem_nil, or_false] at hmem
  simp only [Bool.and_eq_true, decide_eq_true_eq]
  rcases hmem with rfl | rfl | rfl | rfl | rfl | rfl | rfl | rfl | rfl | rfl <;> dsimp only <;> omega

/-- A word does not start with a blank. -/
theorem startsSolid_append_of_isWord {s : List Char} (hs : isWord s = true) (t : List Char) :
    Text.StartsSolid (s ++ t) := by
  obtain ⟨hne, hchars⟩ := isWord_iff.1 hs
  intro c hc
  rw [List.head?_append_of_ne_nil _ hne] at hc
  exact isBlank_of_isWordChar (hchars c (List.mem_of_mem_head? hc))

/-- A text without braces in front of another one leaves the level as it is. -/
theorem walk_cut_append_of_not_isBrace {s : List Char} (hs : ∀ c ∈ s, ¬IsBrace c) (n : Nat)
    (t : List Char) : walk n (cut (s ++ t)) = walk n (cut t) := by
  induction s with
  | nil => rfl
  | cons c s ih =>
    rw [List.cons_append, cut_cons (hs c List.mem_cons_self), walk_single]
    exact ih fun d hd => hs d (List.mem_cons_of_mem _ hd)

theorem isBalanced_append_of_not_isBrace {s t : List Char} (hs : ∀ c ∈ s, ¬IsBrace c) :
    IsBalanced (s ++ t) ↔ IsBalanced t := by
  rw [IsBalanced, walk_cut_append_of_not_isBrace hs, IsBalanced]

theorem endsStray_append_of_not_isBrace {s t : List Char} (hs : ∀ c ∈ s, ¬IsBrace c) :
    EndsStray (s ++ t) ↔ EndsStray t := by
  induction s with
  | nil => rfl
  | cons c s ih =>
    have hc := hs c List.mem_cons_self
    rw [List.cons_append, endsStray_of_cut_cons (cut_cons hc (s ++ t))]
    · exact ih fun d hd => hs d (List.mem_cons_of_mem _ hd)
    · rintro - hstray
      obtain rfl : c = '}' := by simpa using hstray
      exact hc (Or.inr rfl)

/-- A text without braces in front of another one makes no difference to whether it closes a span. -/
theorem closes_append_of_not_isBrace {s t : List Char} (hs : ∀ c ∈ s, ¬IsBrace c) :
    Closes (s ++ t) ↔ Closes t := by
  rw [closes_iff, closes_iff, isBalanced_append_of_not_isBrace hs, endsStray_append_of_not_isBrace hs]

/-- The characters of a head are no braces. -/
theorem CallHead.Begins.not_isBrace_text {head : CallHead} {s : List Char} (h : head.Begins s) :
    ∀ c ∈ head.text, ¬IsBrace c := by
  obtain ⟨-, hqualifier, hname⟩ := h
  intro c hc
  rw [CallHead.text, List.mem_append, List.mem_append, List.mem_cons, List.mem_singleton] at hc
  rcases hc with (hc | rfl | hc) | rfl
  · exact not_isBrace_of_isWordChar ((isWord_iff.1 hqualifier).2 c hc)
  · decide
  · have hchar := isNameChar_of_isMethodName (isMethodName_iff.2 hname) c hc
    rw [Bool.or_eq_true, beq_iff_eq] at hchar
    rcases hchar with hchar | rfl
    · exact not_isBrace_of_isWordChar hchar
    · decide
  · decide

/-! ### Calls with a closing parenthesis -/

/-- The argument list of a call that ends in a parenthesis. -/
theorem CallHead.arguments_of_rest_eq {head : CallHead} {raw : List Char} (hrest : head.rest = raw ++ [')']) :
    head.arguments = raw := by
  simp [CallHead.arguments, hrest]

/-- A call that ends in a parenthesis has no blanks at its ends. -/
theorem CallHead.Begins.trim_eq_self {head : CallHead} {s raw : List Char} (h : head.Begins s)
    (hrest : head.rest = raw ++ [')']) : Text.trim s = s := by
  obtain ⟨rfl, hqualifier, -⟩ := h
  rw [Text.trim_eq_self_iff]
  constructor
  · rw [CallHead.text, List.append_assoc, List.append_assoc]
    exact startsSolid_append_of_isWord hqualifier _
  · intro c hc
    rw [hrest, ← List.append_assoc, List.getLast?_concat] at hc
    obtain rfl := Option.some.inj hc
    decide

/-- **A call closes its span exactly if what stands behind its head does.** -/
theorem CallHead.Begins.closes_iff_rest {head : CallHead} {s : List Char} (h : head.Begins s) :
    Closes s ↔ Closes head.rest := by
  have hchars := h.not_isBrace_text
  obtain ⟨rfl, -, -⟩ := h
  exact closes_append_of_not_isBrace hchars

/-- A balanced argument list with its closing parenthesis closes a span. -/
theorem closes_concat_of_isBalanced {raw : List Char} (h : IsBalanced raw) : Closes (raw ++ [')']) := by
  rw [closes_iff]
  constructor
  · refine h.append ?_ (apart_of_head ?_)
    · rw [isBalanced_cons (by decide)]
      exact isBalanced_nil
    · intro c hc
      obtain rfl : ')' = c := by simpa using hc
      decide
  · -- The text ends in a parenthesis, which no brace is.
    intro hstray
    have hlast := getLast?_of_getLast?_cut hstray
    simp at hlast

/-! ### Slots as arguments -/

/-- **The label of a slot can be written**: if it is a keyword, it is a word. -/
def Label.IsWritable : Label → Prop
  | .positional => True
  | .keyword name => isWord name.toList = true

theorem Call.IsShaped.isWritable {call : Call} (hshaped : call.IsShaped)
    (hnamed : call.signature.IsWellNamed) {slot : Slot} (hmem : slot ∈ call.slots) :
    slot.label.IsWritable := by
  have hslot : slot.emptied ∈ call.signature.slots := by
    rw [← hshaped]
    exact List.mem_map_of_mem hmem
  rw [Signature.slots, List.mem_append, List.mem_map, List.mem_map] at hslot
  rcases hslot with ⟨parameter, -, heq⟩ | ⟨parameter, hparameter, heq⟩
  · have hlabel : Label.positional = slot.label := congrArg Slot.label heq
    rw [← hlabel]
    trivial
  · have hlabel : Label.keyword parameter.name = slot.label := congrArg Slot.label heq
    rw [← hlabel]
    exact hnamed.word parameter hparameter

/-- The characters of a mark that can be written. -/
theorem Label.IsWritable.mem_mark {label : Label} (h : label.IsWritable) {c : Char} (hc : c ∈ label.mark) :
    isWordChar c = true ∨ c = '=' := by
  cases label with
  | positional => simp at hc
  | keyword name => exact (by simpa using hc : c ∈ name.toList ∨ c = '=').imp_left ((isWord_iff.1 h).2 c)

theorem Label.IsWritable.isInert_mark {label : Label} (h : label.IsWritable) :
    ∀ c ∈ label.mark, IsInert c := by
  intro c hc
  rcases h.mem_mark hc with hword | rfl
  · exact isInert_of_isWordChar hword
  · refine ⟨?_, ?_, ?_, ?_, ?_⟩ <;> decide

theorem Label.IsWritable.not_isBrace_mark {label : Label} (h : label.IsWritable) :
    ∀ c ∈ label.mark, ¬IsBrace c := by
  intro c hc
  rcases h.mem_mark hc with hword | rfl
  · exact not_isBrace_of_isWordChar hword
  · rintro (h | h) <;> revert h <;> decide

/-- A reader that gives back a value from its canonical text. -/
def Reader.ReadsBack (read : Reader) (isValue : Tree → Prop) : Prop :=
  ∀ value : Tree, isValue value →
    value.spelling ≠ [] ∧ IsBalanced value.spelling ∧ read 0 value.spelling = .ok value

/-- **A slot is an argument**: what is written of it is for its own label and gives back what it holds. -/
structure Slot.IsArgument (read : Reader) (slot : Slot) : Prop where
  takes : slot.label.Takes slot.spelling slot.content
  gives : read.Gives slot.content slot.value
  trimmed : Text.trim slot.spelling = slot.spelling
  balanced : IsBalanced slot.spelling
  nonempty : slot.isFilled = true → slot.spelling ≠ []

/-- **The mark of a label and a text that it accepts** are an argument for the label. -/
theorem Label.Accepts.takes {label : Label} {content : List Char} (h : label.Accepts content)
    (hlabel : label.IsWritable) : label.Takes (label.mark ++ content) content := by
  cases label with
  | positional => exact .positional h.2
  | keyword name => simpa using Label.Takes.keyword hlabel

/-- They have no blanks at their ends. -/
theorem Label.Accepts.trim_eq {label : Label} {content : List Char} (h : label.Accepts content)
    (hlabel : label.IsWritable) : Text.trim (label.mark ++ content) = label.mark ++ content := by
  cases label with
  | positional => exact h.1
  | keyword name =>
    rw [Text.trim_eq_self_iff, Label.mark_keyword]
    constructor
    · rw [List.append_assoc]
      exact startsSolid_append_of_isWord hlabel _
    · intro c hc
      rw [List.getLast?_append] at hc
      cases hlast : content.getLast? with
      | none =>
        obtain rfl : '=' = c := by simpa [hlast] using hc
        decide
      | some d =>
        obtain rfl : d = c := by simpa [hlast] using hc
        exact Text.trimEnd_eq_self_iff.1 h d hlast

/-- **A slot is an argument** if its value is given back from a balanced text that its label accepts. -/
theorem Slot.isArgument {read : Reader} {slot : Slot} (hlabel : slot.label.IsWritable)
    (haccepts : slot.label.Accepts slot.content) (hgives : read.Gives slot.content slot.value)
    (hbalanced : IsBalanced slot.content) (hne : slot.isFilled = true → slot.content ≠ []) :
    slot.IsArgument read where
  takes := by
    rw [Slot.spelling_eq]
    exact haccepts.takes hlabel
  gives := hgives
  trimmed := by
    rw [Slot.spelling_eq]
    exact haccepts.trim_eq hlabel
  balanced := by
    rw [Slot.spelling_eq, isBalanced_append_of_not_isBrace hlabel.not_isBrace_mark]
    exact hbalanced
  nonempty hfilled := by
    rw [Slot.spelling_eq]
    exact List.append_ne_nil_of_right_ne_nil _ (hne hfilled)

/-- A label accepts the empty text. -/
theorem Label.accepts_nil (label : Label) : label.Accepts [] := by
  cases label with
  | positional => exact ⟨rfl, rfl⟩
  | keyword name => rfl

/-- What a label accepts has characters other than blanks, if it has any. -/
theorem Label.Accepts.not_isBlankText {label : Label} {content : List Char} (h : label.Accepts content)
    (hne : content ≠ []) : Text.isBlankText content = false := by
  have hend : Text.EndsSolid content := by
    cases label with
    | positional => exact (Text.trim_eq_self_iff.1 h.1).2
    | keyword name => exact Text.trimEnd_eq_self_iff.1 h
  obtain ⟨before, last, rfl⟩ := List.eq_nil_or_concat content |>.resolve_left hne
  have hlast := hend last (by simp)
  simp [Text.isBlankText, hlast]

/-- **The slots of a canonical call are arguments.** -/
theorem Call.IsCanonical.isArgument {catalog : Catalog} {isValue : Tree → Prop} {call : Call}
    (h : call.IsCanonical catalog isValue) {read : Reader} (hread : read.ReadsBack isValue) {slot : Slot}
    (hmem : slot ∈ call.slots) : slot.IsArgument read := by
  have hlabel := h.shaped.isWritable h.named hmem
  cases hvalue : slot.value with
  | none =>
    -- An empty slot is written as its mark alone, and is an argument with a blank value.
    have hcontent := Slot.content_of_none hvalue
    have hempty : slot.isFilled = false := by rw [Slot.isFilled, hvalue]; rfl
    refine Slot.isArgument hlabel ?_ ?_ ?_ ?_
    · rw [hcontent]
      exact slot.label.accepts_nil
    · rw [hcontent, hvalue]
      rfl
    · rw [hcontent]
      exact isBalanced_nil
    · simp [hempty]
  | some value =>
    have hcontent := Slot.content_of_some hvalue
    obtain ⟨hne, hbalanced, hgives⟩ := hread value (h.values slot hmem value hvalue)
    have haccepts := h.accepted slot hmem value hvalue
    refine Slot.isArgument hlabel ?_ ?_ ?_ ?_
    · rwa [hcontent]
    · rw [hcontent, hvalue]
      exact ⟨haccepts.not_isBlankText hne, hgives⟩
    · rwa [hcontent]
    · rw [hcontent]
      exact fun _ => hne

end Interpolation
