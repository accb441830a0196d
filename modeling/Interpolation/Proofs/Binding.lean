import Interpolation.Proofs.Offsets
import Interpolation.Proofs.Splitting

/-!
# How a call comes about

Binding is a fold over the arguments of a list, with offsets for the errors. What it does when there is no
error is a step relation on texts alone (`Interpolation.Binding.Step`): an argument fills the slot of its
keyword or the next positional slot, with a value that the reader gives for its text
(`Interpolation.Reader.Gives`). A call is bound exactly when there are such steps from the blank call through
all arguments (`Interpolation.bindWith_eq_ok_iff`), and this file is the only one that opens the fold.

Steps change values and nothing else: the slots of a call are, but for what they hold, those of its signature
(`Interpolation.Call.IsShaped`, `Interpolation.Binding.Steps.isShaped`).
-/

namespace Interpolation

/-- **What a reader gives for the text of a value**: nothing if it is blank, else the tree of the text. -/
def Reader.Gives (read : Reader) (text : List Char) : Option Tree → Prop
  | none => Text.isBlankText text = true
  | some tree => Text.isBlankText text = false ∧ read 0 text = .ok tree

namespace Binding

/-- **One argument is bound**, without an error. -/
inductive Step (read : Reader) (state : Binding) (text : List Char) : Binding → Prop
  /-- An argument with a keyword fills the slot of that name, which no argument has named before. -/
  | keyword {word rest : List Char} {index : Nat} {value : Option Tree} :
    keyword? text = some (word, rest) →
    state.call.signature.keywordIndex? (String.ofList word) = some index →
    String.ofList word ∉ state.supplied →
    read.Gives rest value →
    Step read state text
      { state with
        call := state.call.put (state.call.signature.positional.length + index) value
        supplied := String.ofList word :: state.supplied }
  /-- Any other argument fills the next positional slot. -/
  | positional {value : Option Tree} :
    keyword? text = none →
    state.positional < state.call.signature.positional.length →
    read.Gives text value →
    Step read state text
      { state with
        call := state.call.put state.positional value
        positional := state.positional + 1 }

/-- **Several arguments are bound**, one after the other. -/
inductive Steps (read : Reader) : Binding → List (List Char) → Binding → Prop
  /-- No argument changes nothing. -/
  | nil (state : Binding) : Steps read state [] state
  /-- The first argument is bound first. -/
  | cons {state next last : Binding} {text : List Char} {texts : List (List Char)} :
    Step read state text next → Steps read next texts last → Steps read state (text :: texts) last

/-! ### The fold is the steps -/

section Fold

variable {read : Reader} (hread : read.Translates)

include hread

theorem value_eq_ok_iff {offset : Nat} {text : List Char} {found : Option Tree} :
    value read offset text = .ok found ↔ read.Gives text found := by
  rw [value]
  cases hblank : Text.isBlankText text with
  | true =>
    cases found with
    | none => simpa [Reader.Gives] using hblank
    | some tree => simp [Reader.Gives, hblank]
  | false =>
    cases found with
    | none =>
      simp only [Reader.Gives, hblank, Bool.false_eq_true, if_false, iff_false]
      cases read offset text <;> simp
    | some tree =>
      rw [Reader.Gives, ← hread.eq_ok_iff offset]
      cases read offset text <;> simp [hblank]

/-- **Binding an argument without an error is a step.** -/
theorem argument_eq_ok_iff {name : String} {start : Nat} {state next : Binding} {given : Argument} :
    argument read name start state given = .ok next ↔ Step read state given.text next := by
  -- There are four ways through the code, of which two end in an error and two are the two kinds of step.
  constructor
  · intro h
    rw [argument] at h
    split at h
    · rename_i word rest hkey
      rw [keyword] at h
      split at h
      · simp at h
      · rename_i index hindex
        split at h
        · simp at h
        · rename_i hnew
          obtain ⟨found, hfound, hnext⟩ := bind_eq_ok_iff.1 h
          obtain rfl := Except.ok.inj hnext
          exact .keyword hkey hindex (by simpa using hnew) ((value_eq_ok_iff hread).1 hfound)
    · rename_i hkey
      rw [Binding.next] at h
      split at h
      · rename_i hroom
        obtain ⟨found, hfound, hnext⟩ := bind_eq_ok_iff.1 h
        obtain rfl := Except.ok.inj hnext
        exact .positional hkey hroom ((value_eq_ok_iff hread).1 hfound)
      · simp at h
  · intro h
    cases h with
    | @keyword word rest index found hkey hindex hnew hgives =>
      rw [argument, hkey]
      dsimp only
      rw [keyword, hindex]
      dsimp only
      rw [if_neg (by simpa using hnew), (value_eq_ok_iff hread).2 hgives]
      rfl
    | @positional found hkey hroom hgives =>
      rw [argument, hkey]
      dsimp only
      rw [Binding.next, if_pos hroom, (value_eq_ok_iff hread).2 hgives]
      rfl

theorem foldlM_argument_eq_ok_iff {name : String} {start : Nat} {state last : Binding}
    {arguments : List Argument} :
    arguments.foldlM (argument read name start) state = .ok last ↔
      Steps read state (arguments.map (·.text)) last := by
  induction arguments generalizing state with
  | nil =>
    constructor
    · intro h
      obtain rfl := Except.ok.inj h
      exact .nil state
    · intro h
      cases h
      rfl
  | cons given arguments ih =>
    rw [List.foldlM_cons, bind_eq_ok_iff, List.map_cons]
    constructor
    · rintro ⟨next, hstep, hrest⟩
      exact .cons ((argument_eq_ok_iff hread).1 hstep) (ih.1 hrest)
    · intro h
      cases h with
      | @cons _ next _ _ _ hstep hrest => exact ⟨next, (argument_eq_ok_iff hread).2 hstep, ih.2 hrest⟩

end Fold

end Binding

/-- **A call is bound** exactly when its method is known and there are steps from the blank call through all
arguments of its list. -/
theorem bindWith_eq_ok_iff {read : Reader} (hread : read.Translates) {catalog : Catalog}
    {callStart listStart : Nat} {qualifier name : String} {raw : List Char} {call : Call} :
    bindWith catalog read callStart listStart qualifier name raw = .ok call ↔
      ∃ signature last, catalog.lookup qualifier name = some signature ∧
        Binding.Steps read (.start qualifier signature) ((ArgumentList.split raw).map (·.text)) last ∧
        last.call = call := by
  rw [bindWith]
  cases catalog.lookup qualifier name with
  | none => simp
  | some signature =>
    simp only [map_eq_ok_iff, Binding.foldlM_argument_eq_ok_iff hread, Option.some.injEq]
    constructor
    · rintro ⟨last, hsteps, hcall⟩
      exact ⟨signature, last, rfl, hsteps, hcall⟩
    · rintro ⟨_, last, rfl, hsteps, hcall⟩
      exact ⟨last, hsteps, hcall⟩

/-! ### The shape of a call -/

/-- The slot without its value. -/
def Slot.emptied (slot : Slot) : Slot := { slot with value := none }

/-- **The slots of a call are those of its signature**, but for what they hold. -/
def Call.IsShaped (call : Call) : Prop := call.slots.map Slot.emptied = call.signature.slots

@[simp] theorem Slot.label_emptied (slot : Slot) : slot.emptied.label = slot.label := rfl

theorem Signature.map_emptied_slots (signature : Signature) :
    signature.slots.map Slot.emptied = signature.slots := by
  simp [Signature.slots, Slot.emptied, Function.comp_def]

theorem Call.map_emptied_put (call : Call) (index : Nat) (value : Option Tree) :
    (call.put index value).slots.map Slot.emptied = call.slots.map Slot.emptied := by
  rw [Call.put]
  apply List.ext_getElem?
  intro n
  rw [List.getElem?_map, List.getElem?_map, List.getElem?_modify]
  cases call.slots[n]? with
  | none => rfl
  | some slot => by_cases h : index = n <;> simp [h, Slot.emptied]

namespace Binding

/-- A step keeps the method of the call and the shape of its slots. -/
theorem Step.keeps {read : Reader} {state next : Binding} {text : List Char}
    (h : Step read state text next) :
    next.call.qualifier = state.call.qualifier ∧ next.call.signature = state.call.signature ∧
      next.call.slots.map Slot.emptied = state.call.slots.map Slot.emptied := by
  cases h with
  | keyword => exact ⟨rfl, rfl, Call.map_emptied_put ..⟩
  | positional => exact ⟨rfl, rfl, Call.map_emptied_put ..⟩

/-- **Binding keeps the method of the call and the shape of its slots.** -/
theorem Steps.keeps {read : Reader} {state last : Binding} {texts : List (List Char)}
    (h : Steps read state texts last) :
    last.call.qualifier = state.call.qualifier ∧ last.call.signature = state.call.signature ∧
      last.call.slots.map Slot.emptied = state.call.slots.map Slot.emptied := by
  induction h with
  | nil state => exact ⟨rfl, rfl, rfl⟩
  | cons hstep _ ih =>
    obtain ⟨hq, hs, hslots⟩ := hstep.keeps
    obtain ⟨hq', hs', hslots'⟩ := ih
    exact ⟨hq'.trans hq, hs'.trans hs, hslots'.trans hslots⟩

/-- A call that is bound has the slots of its signature. -/
theorem Steps.isShaped {read : Reader} {qualifier : String} {signature : Signature}
    {texts : List (List Char)} {last : Binding} (h : Steps read (.start qualifier signature) texts last) :
    last.call.qualifier = qualifier ∧ last.call.signature = signature ∧ last.call.IsShaped := by
  obtain ⟨hq, hs, hslots⟩ := h.keeps
  refine ⟨hq, hs, ?_⟩
  rw [Call.IsShaped, hslots, hs]
  exact Signature.map_emptied_slots signature

end Binding

end Interpolation
