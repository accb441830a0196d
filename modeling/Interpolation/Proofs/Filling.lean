import Interpolation.Proofs.Binding
import Interpolation.Proofs.Spelling

/-!
# Which slot an argument fills

An argument is for a label (`Interpolation.Label.Takes`): for the positional parameters, or for the keyword
parameter that it names. At any time there is at most one slot that the next argument for a label can fill
(`Interpolation.Binding.target?`), and one argument bound is that slot filled
(`Interpolation.Binding.step_iff`).

The slots that are used up are said to be occupied (`Interpolation.Binding.Occupied`). No target is occupied,
and a slot is occupied once it has been filled, so what a slot holds is decided by one argument and never
changed again (`Interpolation.Binding.Steps.slots_of_occupied`), and all that a call holds was given by some
argument (`Interpolation.Binding.Steps.exists_source`).

When keyword parameters have distinct names and exactly the first slots are occupied, the next slot is the
target of its own label (`Interpolation.Binding.Reached.target?_eq`): arguments in the order of the signature
fill the slots in this order.
-/

namespace Interpolation

/-! ### Labels -/

/-- **An argument is for a label**, with the given text for a value. -/
inductive Label.Takes : Label → List Char → List Char → Prop
  /-- An argument without a keyword is all value. -/
  | positional {text : List Char} : keyword? text = none → Takes .positional text text
  /-- An argument with a keyword has its value behind the equals sign. -/
  | keyword {name : String} {content : List Char} :
    isWord name.toList = true → Takes (.keyword name) (name.toList ++ '=' :: content) content

/-- An argument is the mark of its label and a value. -/
theorem Label.Takes.eq_append {label : Label} {text content : List Char} (h : label.Takes text content) :
    text = label.mark ++ content := by
  cases h <;> simp

/-- **The names of the keyword parameters are distinct words.** -/
structure Signature.IsWellNamed (signature : Signature) : Prop where
  /-- No two keyword parameters have the same name. -/
  distinct : (signature.keyword.map (·.name)).Nodup
  /-- Every name is a word. -/
  word : ∀ parameter ∈ signature.keyword, isWord parameter.name.toList = true

/-- The label of the slot of the given number. -/
def Signature.label? (signature : Signature) (index : Nat) : Option Label :=
  signature.slots[index]?.map Slot.label

theorem Signature.label?_of_lt {signature : Signature} {index : Nat}
    (h : index < signature.positional.length) : signature.label? index = some .positional := by
  rw [label?, slots, List.getElem?_append_left (by simpa using h)]
  simp [h]

theorem Signature.label?_add (signature : Signature) (index : Nat) :
    signature.label? (signature.positional.length + index)
      = signature.keyword[index]?.map fun parameter => .keyword parameter.name := by
  rw [label?, slots, List.getElem?_append_right (by simp)]
  simp [Function.comp_def]

theorem Signature.label?_eq_some_of_keywordIndex? {signature : Signature} {name : String} {index : Nat}
    (h : signature.keywordIndex? name = some index) :
    signature.label? (signature.positional.length + index) = some (.keyword name) := by
  obtain ⟨hlt, hname, -⟩ := List.findIdx?_eq_some_iff_getElem.1 h
  rw [label?_add, List.getElem?_eq_getElem hlt]
  simpa using hname

/-- Distinct names lead each to their own parameter. -/
theorem Signature.IsWellNamed.keywordIndex?_eq {signature : Signature} (h : signature.IsWellNamed)
    {name : String} {index : Nat}
    (hlabel : signature.label? (signature.positional.length + index) = some (.keyword name)) :
    signature.keywordIndex? name = some index := by
  rw [label?_add] at hlabel
  obtain ⟨parameter, hfound, hname⟩ := Option.map_eq_some_iff.1 hlabel
  obtain ⟨hlt, rfl⟩ := List.getElem?_eq_some_iff.1 hfound
  refine List.findIdx?_eq_some_iff_getElem.2 ⟨hlt, by simpa using hname, fun j hj => ?_⟩
  have hne : signature.keyword[j].name ≠ signature.keyword[index].name := by
    have hpairs := List.pairwise_iff_getElem.1 h.distinct j index (by simp; omega) (by simpa using hlt) hj
    simpa using hpairs
  have hname : signature.keyword[index].name = name := by simpa using hname
  simpa [hname] using hne

theorem Call.IsShaped.label?_eq {call : Call} (h : call.IsShaped) (index : Nat) :
    call.slots[index]?.map Slot.label = call.signature.label? index := by
  rw [Signature.label?, ← h, List.getElem?_map, Option.map_map]
  rfl

namespace Binding

/-! ### Targets -/

/-- The number of the slot that the next argument for a label fills, if it may fill one. -/
def target? (state : Binding) : Label → Option Nat
  | .positional =>
    if state.positional < state.call.signature.positional.length then some state.positional else none
  | .keyword name =>
    if name ∈ state.supplied then none
    else (state.call.signature.keywordIndex? name).map (state.call.signature.positional.length + ·)

/-- The state behind one more argument. -/
def advance (state : Binding) (label : Label) (index : Nat) (value : Option Tree) : Binding :=
  match label with
  | .positional => { state with call := state.call.put index value, positional := state.positional + 1 }
  | .keyword name => { state with call := state.call.put index value, supplied := name :: state.supplied }

@[simp] theorem call_advance (state : Binding) (label : Label) (index : Nat) (value : Option Tree) :
    (state.advance label index value).call = state.call.put index value := by
  cases label <;> rfl

/-- **A step fills the target of the label that the argument is for.** -/
theorem step_iff {read : Reader} {state next : Binding} {text : List Char} :
    Step read state text next ↔
      ∃ label content index value, label.Takes text content ∧ state.target? label = some index ∧
        read.Gives content value ∧ next = state.advance label index value := by
  constructor
  · intro h
    cases h with
    | @keyword word rest index value hkey hindex hnew hgives =>
      obtain ⟨rfl, hword⟩ := keyword?_eq_some_iff.1 hkey
      refine ⟨.keyword (String.ofList word), rest, _, value, ?_, ?_, hgives, rfl⟩
      · simpa using @Label.Takes.keyword (String.ofList word) rest (by simpa using hword)
      · rw [target?, if_neg hnew, hindex]
        rfl
    | @positional value hkey hroom hgives =>
      exact ⟨.positional, text, _, value, .positional hkey, by rw [target?, if_pos hroom], hgives, rfl⟩
  · rintro ⟨label, content, index, value, htakes, htarget, hgives, rfl⟩
    cases htakes with
    | positional hkey =>
      rw [target?] at htarget
      split at htarget
      · rename_i hroom
        obtain rfl := Option.some.inj htarget
        exact .positional hkey hroom hgives
      · simp at htarget
    | @keyword name content hword =>
      rw [target?] at htarget
      split at htarget
      · simp at htarget
      · rename_i hnew
        obtain ⟨i, hindex, rfl⟩ := Option.map_eq_some_iff.1 htarget
        have hkey : keyword? (name.toList ++ '=' :: content) = some (name.toList, content) :=
          keyword?_eq_some_iff.2 ⟨rfl, hword⟩
        have hstep := @Step.keyword read state _ name.toList content i value hkey
          (by simpa using hindex) (by simpa using hnew) hgives
        rw [String.ofList_toList] at hstep
        exact hstep

theorem label_of_target? {state : Binding} {label : Label} {index : Nat}
    (h : state.target? label = some index) : state.call.signature.label? index = some label := by
  cases label with
  | positional =>
    rw [target?] at h
    split at h
    · rename_i hroom
      obtain rfl := Option.some.inj h
      exact Signature.label?_of_lt hroom
    · simp at h
  | keyword name =>
    rw [target?] at h
    split at h
    · simp at h
    · obtain ⟨i, hindex, rfl⟩ := Option.map_eq_some_iff.1 h
      exact Signature.label?_eq_some_of_keywordIndex? hindex

/-! ### Occupied slots -/

/-- **A slot that is used up**: a positional slot behind which binding has come, or the slot of a keyword that
was used. -/
def Occupied (state : Binding) (index : Nat) : Prop :=
  (index < state.positional ∧ index < state.call.signature.positional.length) ∨
    ∃ name ∈ state.supplied, ∃ i, state.call.signature.keywordIndex? name = some i ∧
      index = state.call.signature.positional.length + i

theorem not_occupied_start (qualifier : String) (signature : Signature) (index : Nat) :
    ¬(start qualifier signature).Occupied index := by
  simp [Occupied, start]

/-- A target is not used up yet. -/
theorem not_occupied_of_target? {state : Binding} {label : Label} {index : Nat}
    (h : state.target? label = some index) : ¬state.Occupied index := by
  cases label with
  | positional =>
    rw [target?] at h
    split at h
    · rename_i hroom
      obtain rfl := Option.some.inj h
      rintro (⟨hlt, -⟩ | ⟨-, -, i, -, heq⟩) <;> omega
    · simp at h
  | keyword name =>
    rw [target?] at h
    split at h
    · simp at h
    · rename_i hnew
      obtain ⟨i, hindex, rfl⟩ := Option.map_eq_some_iff.1 h
      rintro (⟨-, hlt⟩ | ⟨other, hother, j, hj, heq⟩)
      · omega
      · -- A name that was used before would have to be this one, as it leads to the same parameter.
        obtain rfl : i = j := by omega
        have hname := Signature.label?_eq_some_of_keywordIndex? hindex
        rw [Signature.label?_eq_some_of_keywordIndex? hj] at hname
        obtain rfl : other = name := by simpa using hname
        exact hnew hother

/-- Filling a target uses up this slot and no other. -/
theorem occupied_advance_iff {state : Binding} {label : Label} {index : Nat}
    (h : state.target? label = some index) (value : Option Tree) (other : Nat) :
    (state.advance label index value).Occupied other ↔ state.Occupied other ∨ other = index := by
  cases label with
  | positional =>
    rw [target?] at h
    split at h
    · rename_i hroom
      obtain rfl := Option.some.inj h
      simp only [Occupied, advance, Call.put]
      constructor
      · rintro (⟨hlt, hroom'⟩ | hkey)
        · omega
        · exact Or.inl (Or.inr hkey)
      · rintro ((⟨hlt, hroom'⟩ | hkey) | rfl)
        · exact Or.inl ⟨by omega, hroom'⟩
        · exact Or.inr hkey
        · exact Or.inl ⟨by omega, hroom⟩
    · simp at h
  | keyword name =>
    rw [target?] at h
    split at h
    · simp at h
    · obtain ⟨i, hindex, rfl⟩ := Option.map_eq_some_iff.1 h
      simp [Occupied, advance, Call.put, hindex, or_comm, or_left_comm]

/-! ### What stays and where it comes from -/

section Steps

variable {read : Reader} {state last : Binding} {texts : List (List Char)}

/-- **What an occupied slot holds is never changed.** -/
theorem Steps.slots_of_occupied (h : Steps read state texts last) {index : Nat}
    (hocc : state.Occupied index) : last.call.slots[index]? = state.call.slots[index]? := by
  induction h with
  | nil state => rfl
  | @cons state next last text texts hstep _ ih =>
    obtain ⟨label, content, target, value, -, htarget, -, rfl⟩ := step_iff.1 hstep
    rw [ih ((occupied_advance_iff htarget value index).2 (Or.inl hocc)), call_advance, Call.put,
      List.getElem?_modify]
    have hne : target ≠ index := by
      rintro rfl
      exact not_occupied_of_target? htarget hocc
    simp [hne]

/-- **What a call holds is what some argument gives.** -/
theorem Steps.exists_source (h : Steps read state texts last) (hshaped : state.call.IsShaped) {slot : Slot}
    (hslot : slot ∈ last.call.slots) {value : Tree} (hvalue : slot.value = some value) :
    slot ∈ state.call.slots ∨
      ∃ text ∈ texts, ∃ content, slot.label.Takes text content ∧ read.Gives content (some value) := by
  induction h with
  | nil state => exact Or.inl hslot
  | @cons state next last text texts hstep _ ih =>
    have hkeeps := hstep.keeps
    obtain ⟨label, content, target, given, htakes, htarget, hgives, rfl⟩ := step_iff.1 hstep
    have hnext : (state.advance label target given).call.IsShaped := by
      rw [Call.IsShaped, hkeeps.2.2, hkeeps.2.1]
      exact hshaped
    rcases ih hnext hslot with hmem | ⟨text', hmem, hsource⟩
    · obtain ⟨index, hindex⟩ := List.getElem?_of_mem hmem
      rw [call_advance, Call.put, List.getElem?_modify] at hindex
      obtain ⟨old, hold, heq⟩ := Option.map_eq_some_iff.1 hindex
      by_cases hat : target = index
      · -- The slot is the one that this argument fills.
        subst hat
        have hlabel := hshaped.label?_eq target
        rw [hold, label_of_target? htarget] at hlabel
        obtain rfl : old.label = label := by simpa using hlabel
        obtain rfl : { old with value := given } = slot := by simpa using heq
        obtain rfl : given = some value := hvalue
        exact Or.inr ⟨text, List.mem_cons_self, content, htakes, hgives⟩
      · obtain rfl : old = slot := by simpa [hat] using heq
        exact Or.inl (List.mem_of_getElem? hold)
    · exact Or.inr ⟨text', List.mem_cons_of_mem _ hmem, hsource⟩

/-- **The first of several arguments** fills a slot, and the slot holds in the end what it is filled with. -/
theorem Steps.exists_first {text : List Char} (h : Steps read state (text :: texts) last)
    (hshaped : state.call.IsShaped) :
    ∃ label content index value slot, label.Takes text content ∧ state.target? label = some index ∧
      read.Gives content value ∧ Steps read (state.advance label index value) texts last ∧
      last.call.slots[index]? = some slot ∧ slot.label = label ∧ slot.value = value := by
  cases h with
  | cons hstep hsteps =>
    obtain ⟨label, content, index, value, htakes, htarget, hgives, rfl⟩ := step_iff.1 hstep
    have hlabel := hshaped.label?_eq index
    rw [label_of_target? htarget] at hlabel
    obtain ⟨slot, hslot, hlabel⟩ := Option.map_eq_some_iff.1 hlabel
    refine ⟨label, content, index, value, { slot with value := value }, htakes, htarget, hgives, hsteps, ?_,
      hlabel, rfl⟩
    rw [hsteps.slots_of_occupied ((occupied_advance_iff htarget value index).2 (Or.inr rfl)), call_advance,
      Call.put, List.getElem?_modify, hslot]
    simp

end Steps

/-! ### Slots in order -/

/-- **Binding has come to a slot**: those in front of it are occupied and hold what they hold in the end, and
the others are empty. -/
structure Reached (state : Binding) (before after : List Slot) : Prop where
  /-- The call as it is at this point. -/
  slots : state.call.slots = before ++ after.map Slot.emptied
  /-- The shape of the slots. -/
  shaped : state.call.IsShaped
  /-- The slots that are used up. -/
  occupied : ∀ index, state.Occupied index ↔ index < before.length

/-- Before the first argument binding has come to the first slot. -/
theorem reached_start (qualifier : String) {signature : Signature} {slots : List Slot}
    (h : slots.map Slot.emptied = signature.slots) : (start qualifier signature).Reached [] slots where
  slots := h.symm
  shaped := Signature.map_emptied_slots signature
  occupied index := by simp [not_occupied_start]

section Reached

variable {state : Binding} {before rest : List Slot} {slot : Slot}

/-- The label of the slot that binding has come to. -/
theorem Reached.label?_eq (h : state.Reached before (slot :: rest)) :
    state.call.signature.label? before.length = some slot.label := by
  rw [← h.shaped.label?_eq, h.slots]
  simp

/-- **The slot that binding has come to is the target of its label.** -/
theorem Reached.target?_eq (h : state.Reached before (slot :: rest))
    (hnamed : state.call.signature.IsWellNamed) : state.target? slot.label = some before.length := by
  have hlabel := h.label?_eq
  rcases Nat.lt_or_ge before.length state.call.signature.positional.length with hlt | hge
  · rw [Signature.label?_of_lt hlt] at hlabel
    obtain hpositional : Label.positional = slot.label := by simpa using hlabel
    -- The slots in front and no others are occupied, so there have been as many positional arguments.
    have hle : state.positional ≤ before.length := by
      by_contra hgt
      have := (h.occupied before.length).1 (Or.inl ⟨by omega, hlt⟩)
      omega
    have hge : before.length ≤ state.positional := by
      by_contra hgt
      rcases (h.occupied state.positional).2 (by omega) with ⟨hself, -⟩ | ⟨-, -, i, -, heq⟩ <;> omega
    rw [← hpositional, target?, if_pos (by omega), Nat.le_antisymm hle hge]
  · obtain ⟨i, hi⟩ := Nat.exists_eq_add_of_le hge
    have hkeyword := hlabel
    rw [hi, Signature.label?_add] at hkeyword
    obtain ⟨parameter, -, hname⟩ := Option.map_eq_some_iff.1 hkeyword
    rw [hi, ← hname] at hlabel
    have hindex := hnamed.keywordIndex?_eq hlabel
    -- Had the name been used, the slot would be occupied.
    have hnew : parameter.name ∉ state.supplied := by
      intro hmem
      have := (h.occupied before.length).1 (Or.inr ⟨parameter.name, hmem, i, hindex, hi⟩)
      omega
    rw [← hname, target?, if_neg hnew, hindex, hi]
    rfl

/-- A target is not in front of the slot that binding has come to. -/
theorem Reached.le_of_target? {after : List Slot} (h : state.Reached before after) {label : Label}
    {index : Nat} (htarget : state.target? label = some index) : before.length ≤ index := by
  by_contra hlt
  exact not_occupied_of_target? htarget ((h.occupied index).2 (by omega))

/-- Positional arguments come before keyword slots are reached. -/
theorem Reached.label_eq_positional (h : state.Reached before (slot :: rest)) {index : Nat}
    (htarget : state.target? .positional = some index) : slot.label = .positional := by
  have hle := h.le_of_target? htarget
  rw [target?] at htarget
  split at htarget
  · rename_i hroom
    obtain rfl := Option.some.inj htarget
    have hlabel := h.label?_eq
    rw [Signature.label?_of_lt (by omega)] at hlabel
    exact (Option.some.inj hlabel).symm
  · simp at htarget

theorem modify_append_cons (f : Slot → Slot) (before : List Slot) (slot : Slot) (rest : List Slot) :
    (before ++ slot :: rest).modify before.length f = before ++ f slot :: rest := by
  induction before with
  | nil => rfl
  | cons first before ih => simp [ih]

/-- **Filling the slot that binding has come to** leads to the next one. -/
theorem Reached.advance (h : state.Reached before (slot :: rest))
    (htarget : state.target? slot.label = some before.length) :
    (state.advance slot.label before.length slot.value).Reached (before ++ [slot]) rest where
  slots := by
    obtain ⟨label, type, value⟩ := slot
    rw [call_advance, Call.put, h.slots, List.map_cons, modify_append_cons, List.append_assoc]
    rfl
  shaped := by
    rw [Call.IsShaped, call_advance, Call.map_emptied_put]
    exact h.shaped
  occupied index := by
    rw [occupied_advance_iff htarget, h.occupied, List.length_append, List.length_singleton]
    omega

end Reached

end Binding

end Interpolation
