import Interpolation.Proofs.FixedPoint

/-!
# Editing trees

A tree is made by scanning a text, by binding a call or by taking a fresh one of a method, and is changed by
edits (`Interpolation.Edit`), whose values have been made in the same way. The ways to come by a tree are the
rules of `Interpolation.Catalog.Makes`.

Of every call in such a tree the names lead to its method, and it has the slots of the method's signature
(`Interpolation.Call.IsBound`). Scanning gives such calls, at every level
(`Interpolation.readWithin_binds`), and an edit changes nothing but what slots hold
(`Interpolation.Edit.isBound_apply`), so it is true of every tree that is made
(`Interpolation.Catalog.Makes.isBound`). The slots of a bound call are therefore where the signature says they
are, and a slot can be found by its number, by its place among the positional parameters, and by its keyword
(`Interpolation.Call.IsShaped.exists_append`).
-/

namespace Interpolation

/-! ### Edits -/

/-- **A change of a tree.** Calls are changed where they stand, as nodes of the tree itself. -/
inductive Edit where
  /-- Puts a node behind the others. -/
  | push (node : Node)
  /-- Puts another tree in place of this one. -/
  | replace (tree : Tree)
  /-- Fills or empties the slot of the given number, in the call at the given place. -/
  | set (place index : Nat) (value : Option Tree)
  /-- Fills or empties the slot of a keyword, in the call at the given place. -/
  | setKeyword (place : Nat) (name : String) (value : Option Tree)

/-- The tree with the call at a place changed, or the same tree if there is no call or it cannot be changed. -/
def Tree.changeCall (tree : Tree) (place : Nat) (change : Call → Option Call) : Tree :=
  tree.modify place fun node =>
    match node with
    | .call c => .call ((change c).getD c)
    | other => other

namespace Edit

/-- The tree after the edit. -/
def apply : Edit → Tree → Tree
  | push node, tree => tree ++ [node]
  | replace other, _ => other
  | set place index value, tree => Tree.changeCall tree place (·.set? index value)
  | setKeyword place name value, tree => Tree.changeCall tree place (·.setKeyword? name value)

/-- The trees that an edit brings in. -/
def parts : Edit → List Tree
  | push node => [[node]]
  | replace other => [other]
  | set _ _ value => value.toList
  | setKeyword _ _ value => value.toList

end Edit

/-- **The trees that can be made with the methods of a catalog.** -/
inductive Catalog.Makes (catalog : Catalog) : Tree → Prop
  /-- By scanning a text, with any limit on nesting. -/
  | scan {maxDepth : Nat} {text : String} {tree : Tree} :
    Dialect.scan ⟨catalog, maxDepth⟩ text = .ok tree → Makes catalog tree
  /-- By taking a fresh call of a method. -/
  | instantiate {qualifier name : String} {call : Call} :
    catalog.instantiate qualifier name = some call → Makes catalog [.call call]
  /-- By binding a single call. -/
  | bind {maxDepth : Nat} {qualifier name raw : String} {call : Call} :
    Dialect.bind ⟨catalog, maxDepth⟩ qualifier name raw = .ok call → Makes catalog [.call call]
  /-- By starting with nothing. -/
  | new : Makes catalog []
  /-- By writing a text. -/
  | text (content : String) : Makes catalog [.text content]
  /-- By referring to a variable. -/
  | reference (path : String) : Makes catalog [.variable path]
  /-- By copying a node of a tree. -/
  | node {tree : Tree} {node : Node} : Makes catalog tree → node ∈ tree → Makes catalog [node]
  /-- By copying what a slot holds. -/
  | value {tree : Tree} {call : Call} {slot : Slot} {value : Tree} :
    Makes catalog tree → Node.call call ∈ tree → slot ∈ call.slots → slot.value = some value →
      Makes catalog value
  /-- By editing a tree. -/
  | edit {tree : Tree} (edit : Edit) :
    Makes catalog tree → (∀ part ∈ edit.parts, Makes catalog part) → Makes catalog (edit.apply tree)

/-! ### Bound calls -/

/-- **A call is bound**: its names lead to its method, and its slots are those of the signature. -/
structure Call.IsBound (catalog : Catalog) (call : Call) : Prop where
  /-- The signature is the one that is found. -/
  found : catalog.lookup call.qualifier call.name = some call.signature
  /-- There is one slot for each parameter, in order. -/
  shaped : call.IsShaped

/-- **Every call of the tree is bound**, at any depth. -/
def Tree.IsBound (catalog : Catalog) (tree : Tree) : Prop := ∀ call ∈ Tree.calls tree, call.IsBound catalog

variable {catalog : Catalog}

/-- A tree is bound if the calls among its nodes are, and all that they hold. -/
theorem Tree.isBound_iff {tree : Tree} :
    tree.IsBound catalog ↔
      ∀ call, Node.call call ∈ tree → call.IsBound catalog ∧
        ∀ slot ∈ call.slots, ∀ value : Tree, slot.value = some value → value.IsBound catalog := by
  constructor
  · intro h call hmem
    refine ⟨h call (Tree.mem_calls_iff.2 ⟨call, hmem, Or.inl rfl⟩), fun slot hslot value hvalue => ?_⟩
    intro inner hinner
    exact h inner (Tree.mem_calls_iff.2 ⟨call, hmem, Or.inr ⟨slot, hslot, value, hvalue, hinner⟩⟩)
  · intro h call hcall
    obtain ⟨outer, hmem, rfl | ⟨slot, hslot, value, hvalue, hinner⟩⟩ := Tree.mem_calls_iff.1 hcall
    · exact (h call hmem).1
    · exact (h outer hmem).2 slot hslot value hvalue call hinner

theorem Tree.isBound_singleton_iff {call : Call} :
    Tree.IsBound catalog [.call call] ↔ call.IsBound catalog ∧
      ∀ slot ∈ call.slots, ∀ value : Tree, slot.value = some value → value.IsBound catalog := by
  rw [Tree.isBound_iff]
  constructor
  · exact fun h => h call List.mem_cons_self
  · intro h other hmem
    obtain rfl := Node.call.inj (List.mem_singleton.1 hmem)
    exact h

/-! ### Scanning binds -/

/-- The calls in what is read are bound. -/
def Reader.Binds (read : Reader) (catalog : Catalog) : Prop :=
  ∀ s tree, read 0 s = .ok tree → Tree.IsBound catalog tree

section Reading

variable {read : Reader} (htranslates : read.Translates) (hbinds : read.Binds catalog)

include htranslates hbinds

/-- **A call that is read is bound**, and so are those in its slots. -/
theorem isBound_of_bindWith {qualifier name : String} {raw : List Char} {call : Call}
    (h : bindWith catalog read 0 0 qualifier name raw = .ok call) :
    call.IsBound catalog ∧
      ∀ slot ∈ call.slots, ∀ value : Tree, slot.value = some value → value.IsBound catalog := by
  obtain ⟨hqualifier, hname⟩ := names_of_bindWith htranslates h
  obtain ⟨signature, last, hfound, hsteps, rfl⟩ := (bindWith_eq_ok_iff htranslates).1 h
  obtain ⟨-, hsignature, hshaped⟩ := hsteps.isShaped
  refine ⟨⟨?_, hshaped⟩, fun slot hslot value hvalue => ?_⟩
  · rw [hqualifier, hname, hsignature]
    exact hfound
  · obtain ⟨-, -, content, -, -, -, hread⟩ := hsteps.exists_argument hslot hvalue
    exact hbinds content value hread

theorem scanWith_binds : Reader.Binds (scanWith catalog read) catalog := by
  intro s tree h
  rcases (scanWith_eq_ok_iff htranslates).1 h with ⟨-, rfl⟩ | ⟨-, hreads⟩
  · simp [Tree.IsBound, Tree.calls, Node.calls]
  · rw [Tree.isBound_iff]
    intro call hmem
    obtain ⟨piece, -, hread⟩ := exists_piece_of_mem hreads hmem
    cases piece with
    | text content => exact absurd hread (by simp [PieceReads])
    | unclosed behind => exact hread.elim
    | span inner =>
      cases hread with
      | call _ hbind => exact isBound_of_bindWith htranslates hbinds hbind

end Reading

/-- **Scanning binds every call**, at every level. -/
theorem readWithin_binds (catalog : Catalog) (limit levels : Nat) :
    Reader.Binds (readWithin catalog limit levels) catalog := by
  induction levels with
  | zero =>
    intro s tree h
    simp [readWithin] at h
  | succ levels ih => exact scanWith_binds (readWithin_translates catalog limit levels) ih

/-! ### Edits keep calls bound -/

/-- An entry of a list with a changed entry is an entry of the list, or a changed one. -/
theorem mem_or_exists_of_mem_modify {α : Type} {l : List α} {index : Nat} {f : α → α} {a : α}
    (h : a ∈ l.modify index f) : a ∈ l ∨ ∃ b ∈ l, f b = a := by
  obtain ⟨place, hplace⟩ := List.getElem?_of_mem h
  rw [List.getElem?_modify] at hplace
  obtain ⟨b, hb, rfl⟩ := Option.map_eq_some_iff.1 hplace
  have hmem := List.mem_of_getElem? hb
  by_cases hat : index = place
  · exact Or.inr ⟨b, hmem, by rw [if_pos hat]⟩
  · exact Or.inl (by rwa [if_neg hat])

/-- A slot of a call with a changed slot is a slot of the call, or holds the new value. -/
theorem Call.mem_slots_put {call : Call} {index : Nat} {value : Option Tree} {slot : Slot}
    (h : slot ∈ (call.put index value).slots) : slot ∈ call.slots ∨ slot.value = value := by
  rcases mem_or_exists_of_mem_modify h with hmem | ⟨old, -, rfl⟩
  · exact Or.inl hmem
  · exact Or.inr rfl

/-- **Changing what a slot holds keeps a call bound.** -/
theorem Call.IsBound.put {call : Call} (h : call.IsBound catalog) (index : Nat) (value : Option Tree) :
    (call.put index value).IsBound catalog where
  found := h.found
  shaped := (Call.map_emptied_put call index value).trans h.shaped

/-- A keyword leads to some slot. -/
theorem Call.exists_put_of_setKeyword? {call changed : Call} {name : String} {value : Option Tree}
    (h : call.setKeyword? name value = some changed) : ∃ index, changed = call.put index value := by
  obtain ⟨index, -, rfl⟩ := Option.map_eq_some_iff.1 h
  exact ⟨index, rfl⟩

theorem Call.eq_put_of_set? {call changed : Call} {index : Nat} {value : Option Tree}
    (h : call.set? index value = some changed) : changed = call.put index value := by
  rw [Call.set?] at h
  split at h
  · exact (Option.some.inj h).symm
  · simp at h

/-- A tree is bound after a call was changed in one of its slots. -/
theorem Tree.IsBound.changeCall {tree : Tree} (h : tree.IsBound catalog) {value : Option Tree}
    (hvalue : ∀ part ∈ value.toList, Tree.IsBound catalog part) {change : Call → Option Call}
    (hchange : ∀ call changed, change call = some changed → ∃ index, changed = call.put index value)
    (place : Nat) : (Tree.changeCall tree place change).IsBound catalog := by
  rw [Tree.isBound_iff] at h ⊢
  intro call hmem
  rcases mem_or_exists_of_mem_modify hmem with hmem | ⟨old, hold, heq⟩
  · exact h call hmem
  · cases old with
    | text content => simp at heq
    | «variable» path => simp at heq
    | call c =>
      obtain rfl := Node.call.inj heq
      cases hc : change c with
      | none => exact h c hold
      | some changed =>
        obtain ⟨index, rfl⟩ := hchange c changed hc
        obtain ⟨hbound, hvalues⟩ := h c hold
        refine ⟨hbound.put index value, fun slot hslot inner hinner => ?_⟩
        rcases Call.mem_slots_put hslot with hslot | hnew
        · exact hvalues slot hslot inner hinner
        · exact hvalue inner (by simp [← hnew, hinner])

/-- **An edit keeps every call of a tree bound**, if the calls that it brings in are. -/
theorem Edit.isBound_apply {edit : Edit} {tree : Tree} (h : tree.IsBound catalog)
    (hparts : ∀ part ∈ edit.parts, Tree.IsBound catalog part) : (edit.apply tree).IsBound catalog := by
  cases edit with
  | push node =>
    have hnode := hparts [node] List.mem_cons_self
    rw [Tree.isBound_iff] at h hnode ⊢
    intro call hmem
    rcases List.mem_append.1 hmem with hmem | hmem
    · exact h call hmem
    · exact hnode call hmem
  | replace other => exact hparts other List.mem_cons_self
  | set place index value =>
    exact h.changeCall hparts (fun call changed hchanged => ⟨index, Call.eq_put_of_set? hchanged⟩) place
  | setKeyword place name value =>
    exact h.changeCall hparts (fun call changed => Call.exists_put_of_setKeyword?) place

/-- A fresh call is bound, and holds nothing. -/
theorem Call.isBound_of_instantiate {qualifier name : String} {call : Call}
    (h : catalog.instantiate qualifier name = some call) :
    call.IsBound catalog ∧
      ∀ slot ∈ call.slots, ∀ value : Tree, slot.value = some value → value.IsBound catalog := by
  obtain ⟨signature, hfound, rfl⟩ := Option.map_eq_some_iff.1 h
  refine ⟨⟨?_, Signature.map_emptied_slots signature⟩, fun slot hslot value hvalue => ?_⟩
  · rw [Call.name, Call.blank, Catalog.name_of_lookup hfound]
    exact hfound
  · rw [Call.value_eq_none_of_mem_blank hslot] at hvalue
    simp at hvalue

/-- **Every call of a tree that is made is bound**, whatever was done to it. -/
theorem Catalog.Makes.isBound {tree : Tree} (h : catalog.Makes tree) : tree.IsBound catalog := by
  induction h with
  | scan hscan => exact readWithin_binds _ _ _ _ _ hscan
  | instantiate hcall => exact Tree.isBound_singleton_iff.2 (Call.isBound_of_instantiate hcall)
  | bind hcall =>
    exact Tree.isBound_singleton_iff.2
      (isBound_of_bindWith (readWithin_translates _ _ _) (readWithin_binds _ _ _) hcall)
  | new => simp [Tree.IsBound, Tree.calls]
  | text content => simp [Tree.IsBound, Tree.calls, Node.calls]
  | reference path => simp [Tree.IsBound, Tree.calls, Node.calls]
  | node _ hmem ih =>
    rw [Tree.isBound_iff] at ih ⊢
    intro call hcall
    exact ih call (List.mem_singleton.1 hcall ▸ hmem)
  | value _ hmem hslot hvalue ih => exact (Tree.isBound_iff.1 ih _ hmem).2 _ hslot _ hvalue
  | edit edit _ _ ih ihparts => exact Edit.isBound_apply ih ihparts

/-! ### Where the slots of a call are -/

namespace Call.IsShaped

variable {call : Call} (h : call.IsShaped)

include h

/-- There are as many slots as parameters. -/
theorem length_slots : call.slots.length = call.signature.arity := by
  have hlength := congrArg List.length h
  simpa [Signature.slots, Signature.arity] using hlength

/-- **The slots are for the parameters in order**, the positional ones first. -/
theorem map_slots :
    call.slots.map (fun slot => (slot.label, slot.type)) =
      call.signature.positional.map (fun parameter => (Label.positional, parameter.type)) ++
        call.signature.keyword.map (fun parameter => (Label.keyword parameter.name, parameter.type)) := by
  have hmap := congrArg (List.map fun slot : Slot => (slot.label, slot.type)) h
  simpa [Signature.slots, Slot.emptied, Function.comp_def] using hmap

/-- The slots fall into those of the positional parameters and those of the keyword parameters. -/
theorem exists_append :
    ∃ before behind, call.slots = before ++ behind ∧
      before.length = call.signature.positional.length ∧
      (∀ slot ∈ before, slot.isPositional = true) ∧ ∀ slot ∈ behind, slot.isPositional = false := by
  obtain ⟨before, behind, hslots, hbefore, hbehind⟩ := List.map_eq_append_iff.1 h
  refine ⟨before, behind, hslots, ?_, fun slot hmem => ?_, fun slot hmem => ?_⟩
  · simpa using congrArg List.length hbefore
  · have hmem := List.mem_map_of_mem (f := Slot.emptied) hmem
    rw [hbefore, List.mem_map] at hmem
    obtain ⟨parameter, -, heq⟩ := hmem
    rw [Slot.isPositional, ← Slot.label_emptied, ← heq]
    rfl
  · have hmem := List.mem_map_of_mem (f := Slot.emptied) hmem
    rw [hbehind, List.mem_map] at hmem
    obtain ⟨parameter, -, heq⟩ := hmem
    rw [Slot.isPositional, ← Slot.label_emptied, ← heq]
    rfl

/-- **A positional slot is found where it is.** -/
theorem positional?_eq (index : Nat) :
    call.positional? index =
      if index < call.signature.positional.length then call.slots[index]? else none := by
  obtain ⟨before, behind, hslots, hlength, hbefore, hbehind⟩ := h.exists_append
  have hfilter : call.slots.filter Slot.isPositional = before := by
    have hnone := List.filter_eq_nil_iff.2 fun slot hmem => Bool.not_eq_true _ ▸ hbehind slot hmem
    rw [hslots, List.filter_append, List.filter_eq_self.2 hbefore, hnone, List.append_nil]
  rw [Call.positional?, hfilter, hslots, ← hlength]
  split
  · rename_i hlt
    rw [List.getElem?_append_left hlt]
  · rename_i hge
    exact List.getElem?_eq_none (by omega)

/-- **The slot of a keyword** is behind the positional ones, at the place of the first parameter of that
name. -/
theorem findIdx?_answersTo (name : String) :
    call.slots.findIdx? (Slot.answersTo name) =
      (call.signature.keywordIndex? name).map (call.signature.positional.length + ·) := by
  -- Whether a slot answers to a name does not depend on what it holds.
  have hemptied : call.slots.findIdx? (Slot.answersTo name) =
      call.signature.slots.findIdx? (Slot.answersTo name) := by
    rw [← h, List.findIdx?_map]
    rfl
  have hpositional : (call.signature.positional.map fun parameter =>
      (⟨.positional, parameter.type, none⟩ : Slot)).findIdx? (Slot.answersTo name) = none := by
    rw [List.findIdx?_eq_none_iff]
    intro slot hmem
    obtain ⟨parameter, -, rfl⟩ := List.mem_map.1 hmem
    rfl
  have hkeyword : (call.signature.keyword.map fun parameter =>
      (⟨.keyword parameter.name, parameter.type, none⟩ : Slot)).findIdx? (Slot.answersTo name) =
        call.signature.keywordIndex? name := by
    rw [List.findIdx?_map]
    rfl
  rw [hemptied, Signature.slots, List.findIdx?_append, hpositional, hkeyword, List.length_map, Option.none_or]
  simp [Nat.add_comm]

theorem keyword?_eq (name : String) :
    call.keyword? name =
      (call.signature.keywordIndex? name).bind fun index =>
        call.slots[call.signature.positional.length + index]? := by
  rw [Call.keyword?, List.find?_eq_bind_findIdx?_getElem?, h.findIdx?_answersTo, Option.bind_map]
  rfl

/-- **Setting a slot**: there is one of every number below the number of parameters, and the others stay as
they are. -/
theorem set?_eq (index : Nat) (value : Option Tree) :
    call.set? index value = if index < call.signature.arity then some (call.put index value) else none := by
  rw [Call.set?, h.length_slots]

/-- Setting a keyword is setting its slot. -/
theorem setKeyword?_eq (name : String) (value : Option Tree) :
    call.setKeyword? name value =
      (call.signature.keywordIndex? name).bind fun index =>
        call.set? (call.signature.positional.length + index) value := by
  rw [Call.setKeyword?, h.findIdx?_answersTo, Option.map_map]
  cases hindex : call.signature.keywordIndex? name with
  | none => rfl
  | some index =>
    have hlt : index < call.signature.keyword.length := (List.findIdx?_eq_some_iff_getElem.1 hindex).1
    rw [Option.bind_some, h.set?_eq, if_pos (by rw [Signature.arity]; omega)]
    rfl

end Call.IsShaped

/-- A slot that is set holds the new value, and the others are what they were. -/
theorem Call.getElem?_slots_put (call : Call) (index : Nat) (value : Option Tree) (place : Nat) :
    (call.put index value).slots[place]? =
      if place = index then call.slots[place]?.map fun slot => { slot with value := value }
      else call.slots[place]? := by
  rw [Call.put, List.getElem?_modify]
  by_cases hat : place = index
  · simp [hat]
  · simp [hat, Ne.symm hat]

/-- An edit that does not apply changes nothing. -/
theorem Tree.changeCall_of_none {tree : Tree} {place : Nat} {call : Call} {change : Call → Option Call}
    (hcall : tree[place]? = some (.call call)) (hchange : change call = none) :
    Tree.changeCall tree place change = tree := by
  apply List.ext_getElem?
  intro number
  rw [Tree.changeCall, List.getElem?_modify]
  by_cases hat : place = number
  · subst hat
    simp [hcall, hchange]
  · simp [hat]

/-! ### Calls in trees that are made -/

/-- **Calls keep their shape, whatever is done to a tree**: at any depth they have the slots of their signature,
in order, and it is the one that their names lead to. So slots are found where the signature has their
parameters, setting a slot that there is changes this slot alone, and setting one that there is not changes
nothing. -/
theorem Catalog.Makes.call_shape {catalog : Catalog} {tree : Tree} (h : catalog.Makes tree) {call : Call}
    (hcall : call ∈ Tree.calls tree) :
    (call.slots.length = call.signature.arity ∧
      call.slots.map (fun slot => (slot.label, slot.type)) =
        call.signature.positional.map (fun parameter => (Label.positional, parameter.type)) ++
          call.signature.keyword.map (fun parameter => (Label.keyword parameter.name, parameter.type)) ∧
      call.name = call.signature.name ∧
      catalog.lookup call.qualifier call.name = some call.signature) ∧
    (∀ index, call.positional? index =
      if index < call.signature.positional.length then call.slots[index]? else none) ∧
    (∀ name, call.keyword? name =
      (call.signature.keywordIndex? name).bind fun index =>
        call.slots[call.signature.positional.length + index]?) ∧
    (∀ name value, call.setKeyword? name value =
      (call.signature.keywordIndex? name).bind fun index =>
        call.set? (call.signature.positional.length + index) value) ∧
    (∀ index value, call.signature.arity ≤ index → call.set? index value = none ∧
      ∀ (other : Tree) (place : Nat), other[place]? = some (.call call) →
        (Edit.set place index value).apply other = other) ∧
    ∀ index value, index < call.signature.arity → ∃ changed, call.set? index value = some changed ∧
      changed.qualifier = call.qualifier ∧ changed.signature = call.signature ∧
      changed.slots[index]?.map Slot.value = some value ∧
      ∀ other, other ≠ index → changed.slots[other]? = call.slots[other]? := by
  obtain ⟨hfound, hshaped⟩ := h.isBound call hcall
  refine ⟨⟨hshaped.length_slots, hshaped.map_slots, rfl, hfound⟩, hshaped.positional?_eq,
    hshaped.keyword?_eq, hshaped.setKeyword?_eq, fun index value hindex => ?_, fun index value hindex => ?_⟩
  · have hnone : call.set? index value = none := by rw [hshaped.set?_eq, if_neg (by omega)]
    exact ⟨hnone, fun other place hplace => Tree.changeCall_of_none hplace hnone⟩
  · have hput : call.set? index value = some (call.put index value) := by
      rw [hshaped.set?_eq, if_pos hindex]
    refine ⟨call.put index value, hput, rfl, rfl, ?_, fun other hother => ?_⟩
    · have hlt : index < call.slots.length := by rwa [hshaped.length_slots]
      rw [call.getElem?_slots_put, if_pos rfl, List.getElem?_eq_getElem hlt]
      rfl
    · rw [call.getElem?_slots_put, if_neg hother]

namespace Dialect

/-- A fresh call in a slot of another one. -/
def nested : Tree :=
  (Edit.setKeyword 0 "by" (some [.text "-"])).apply <|
    (Edit.set 0 1 (some [.call (.blank "text" joinMethod)])).apply [.call (.blank "text" joinMethod)]

theorem makes_nested : joining.catalog.Makes nested := by
  have hcall : joining.catalog.instantiate "text" "join" = some (.blank "text" joinMethod) := rfl
  have hfresh : joining.catalog.Makes [.call (.blank "text" joinMethod)] := .instantiate hcall
  refine .edit _ (.edit _ hfresh fun part hpart => ?_) fun part hpart => ?_
  · rwa [List.mem_singleton.1 hpart]
  · rw [List.mem_singleton.1 hpart]
    exact .text "-"

end Dialect

open Dialect in
theorem Catalog.Makes.call_shape_nested :
    joining.catalog.Makes nested ∧ Call.blank "text" joinMethod ∈ Tree.calls nested ∧
      (Call.blank "text" joinMethod).keyword? "by" = some ⟨.keyword "by", "string", none⟩ ∧
      (Call.blank "text" joinMethod).set? 3 none = none := by
  have hcall : Call.blank "text" joinMethod ∈ Tree.calls nested :=
    List.mem_cons_of_mem _ List.mem_cons_self
  obtain ⟨-, -, hkeyword, -, hset, -⟩ := makes_nested.call_shape hcall
  refine ⟨makes_nested, hcall, ?_, (hset 3 none (by decide)).1⟩
  rw [hkeyword]
  rfl

end Interpolation
