import Interpolation.Proofs.ListSlices
import Interpolation.Proofs.Offsets

/-!
# Binding with flags

The keywords that a call has used are kept as flags, one for each keyword parameter of the signature, and a
keyword is looked up by the number of its parameter (`Interpolation.Guarded.Binding`). There is a flag for
every keyword that has a number, since both come from the same signature, and it is set exactly if the
keyword is among those used (`Interpolation.Guarded.getElem?_flags`): a number belongs to one name only, the
one that its parameter has.

So the two ways to bind keep step with each other, argument by argument
(`Interpolation.Guarded.argument_eq`) and along the whole list (`Interpolation.Guarded.bindWith_eq`), as
long as texts are read alike.
-/

namespace Interpolation.Guarded

open Text

/-- A way to read interpolated texts that may halt. -/
abbrev Reader := Nat → List Char → Except Halt Tree

/-- **How far binding has come.** -/
structure Binding where
  /-- The call with the slots filled so far. -/
  call : Call
  /-- The number of positional arguments so far. -/
  positional : Nat
  /-- For each keyword parameter, whether it has been used. -/
  supplied : List Bool

/-- The value of an argument: nothing if it is blank. -/
def value (read : Reader) (offset : Nat) (text : List Char) : Except Halt (Option Tree) :=
  if isBlankText text then .ok none else some <$> read offset text

namespace Binding

/-- Binds a keyword argument. -/
def keyword (read : Reader) (state : Binding) (offset : Nat) (word text : List Char) : Except Halt Binding :=
  let name := String.ofList word
  match state.call.signature.keywordIndex? name with
  | none => .error (.fault ⟨.unknownKeyword name, offset⟩)
  | some index =>
    match state.supplied[index]? with
    | none => .error (.trap .noSuchFlag)
    | some true => .error (.fault ⟨.duplicateKeyword name, offset⟩)
    | some false => do
      let tree ← value read (offset + width word + 1) text
      return { state with
        call := state.call.put (state.call.signature.positional.length + index) tree
        supplied := state.supplied.set index true }

/-- Binds a positional argument. -/
def next (read : Reader) (name : String) (state : Binding) (offset : Nat) (text : List Char) :
    Except Halt Binding :=
  if state.positional < state.call.signature.positional.length then do
    let tree ← value read offset text
    return { state with
      call := state.call.put state.positional tree
      positional := state.positional + 1 }
  else
    .error (.fault ⟨.tooManyPositional state.call.qualifier name, offset⟩)

/-- Binds one argument of a list that starts at the given offset. -/
def argument (read : Reader) (name : String) (start : Nat) (state : Binding) (argument : Argument) :
    Except Halt Binding :=
  match keyword? argument.text with
  | some (word, text) => state.keyword read (start + argument.offset) word text
  | none => state.next read name (start + argument.offset) argument.text

end Binding

/-- **Reads a call** from its names and its argument list, which is cut by offsets. -/
def bindWith (catalog : Catalog) (read : Reader) (callStart listStart : Nat) (qualifier name : String)
    (raw : List Char) : Except Halt Call :=
  match catalog.lookup qualifier name with
  | none => .error (.fault ⟨.unknownMethod qualifier name, callStart⟩)
  | some signature => do
    let arguments ← split raw
    (·.call) <$> arguments.foldlM (Binding.argument read name listStart)
      ⟨.blank qualifier signature, 0, List.replicate signature.keyword.length false⟩

/-! ### Flags and names -/

/-- The flags of a signature after some keywords have been used. -/
def flags (signature : Signature) (names : List String) : List Bool :=
  (List.range signature.keyword.length).map fun index =>
    names.any (signature.keywordIndex? · == some index)

section Flags

variable {signature : Signature} {name : String} {index : Nat}

/-- The number of a keyword is that of a parameter with its name. -/
theorem getElem?_of_keywordIndex? (h : signature.keywordIndex? name = some index) :
    ∃ parameter, signature.keyword[index]? = some parameter ∧ parameter.name = name := by
  obtain ⟨hlt, hname, -⟩ := List.findIdx?_eq_some_iff_getElem.1 h
  exact ⟨_, List.getElem?_eq_getElem hlt, by simpa using hname⟩

/-- A number belongs to one name only. -/
theorem keywordIndex?_eq_iff (h : signature.keywordIndex? name = some index) (other : String) :
    signature.keywordIndex? other = some index ↔ other = name := by
  refine ⟨fun hother => ?_, fun heq => heq ▸ h⟩
  obtain ⟨parameter, hparameter, rfl⟩ := getElem?_of_keywordIndex? h
  obtain ⟨parameter', hparameter', rfl⟩ := getElem?_of_keywordIndex? hother
  rw [Option.some.inj (hparameter.symm.trans hparameter')]

/-- **There is a flag for each keyword that has a number**, and it says whether the keyword has been used. -/
theorem getElem?_flags (h : signature.keywordIndex? name = some index) (names : List String) :
    (flags signature names)[index]? = some (names.contains name) := by
  obtain ⟨parameter, hparameter, -⟩ := getElem?_of_keywordIndex? h
  have hlt : index < signature.keyword.length := (List.getElem?_eq_some_iff.1 hparameter).1
  rw [flags, List.getElem?_map, List.getElem?_range hlt, Option.map_some]
  congr 1
  rw [Bool.eq_iff_iff, List.any_eq_true, List.contains_iff_mem]
  simp only [beq_iff_eq, keywordIndex?_eq_iff h, exists_eq_right]

/-- Using a keyword sets its flag and no other. -/
theorem set_flags (h : signature.keywordIndex? name = some index) (names : List String) :
    (flags signature names).set index true = flags signature (name :: names) := by
  refine List.ext_getElem (by simp [flags]) fun other _ _ => ?_
  rw [List.getElem_set]
  by_cases heq : index = other
  · simp [flags, h, heq]
  · simp [flags, h, heq]

theorem flags_nil (signature : Signature) :
    flags signature [] = List.replicate signature.keyword.length false := by
  rw [flags, List.eq_replicate_iff]
  simp

end Flags

/-! ### The two ways to bind -/

/-- **Two readers agree** if they find the same, an error being a fault for the one of them that may halt. -/
def Reader.Agrees (guarded : Reader) (read : Interpolation.Reader) : Prop :=
  ∀ offset s, guarded offset s = (read offset s).mapError .fault

/-- A state of binding with flags in place of names. -/
def flagged (state : Interpolation.Binding) : Binding :=
  ⟨state.call, state.positional, flags state.call.signature state.supplied⟩

/-- Runs that keep step with each other keep step to the end. -/
theorem foldlM_simulates {ε ε' α α' β : Type} (f : ε → ε') (image : α → α') {step : α → β → Except ε α}
    {step' : α' → β → Except ε' α'} (h : ∀ a b, step' (image a) b = (image <$> step a b).mapError f)
    (items : List β) (a : α) : items.foldlM step' (image a) = (image <$> items.foldlM step a).mapError f := by
  induction items generalizing a with
  | nil => rfl
  | cons b items ih =>
    rw [List.foldlM_cons, List.foldlM_cons, h]
    cases step a b with
    | error e => rfl
    | ok next => exact ih next

section Binding

variable {guarded : Reader} {read : Interpolation.Reader} (hread : guarded.Agrees read)

include hread

theorem value_eq (offset : Nat) (text : List Char) :
    value guarded offset text = (Binding.value read offset text).mapError .fault := by
  rw [value, Interpolation.Binding.value, hread]
  split
  · rfl
  · rw [mapError_map]

theorem keyword_eq (state : Interpolation.Binding) (offset : Nat) (word text : List Char) :
    (flagged state).keyword guarded offset word text =
      (flagged <$> state.keyword read offset word text).mapError .fault := by
  rw [Binding.keyword, Interpolation.Binding.keyword]
  have hcall : (flagged state).call = state.call := rfl
  have hsupplied : (flagged state).supplied = flags state.call.signature state.supplied := rfl
  rw [hcall, hsupplied]
  cases hindex : state.call.signature.keywordIndex? (String.ofList word) with
  | none => rfl
  | some index =>
    dsimp only
    rw [getElem?_flags hindex]
    cases state.supplied.contains (String.ofList word) with
    | true => rfl
    | false =>
      dsimp only
      rw [value_eq hread]
      cases Binding.value read (offset + width word + 1) text with
      | error e => rfl
      | ok tree =>
        rw [set_flags hindex]
        rfl

theorem next_eq (name : String) (state : Interpolation.Binding) (offset : Nat) (text : List Char) :
    (flagged state).next guarded name offset text =
      (flagged <$> state.next read name offset text).mapError .fault := by
  rw [Binding.next, Interpolation.Binding.next]
  have hcall : (flagged state).call = state.call := rfl
  have hpositional : (flagged state).positional = state.positional := rfl
  rw [hcall, hpositional]
  split
  · rw [value_eq hread]
    cases Binding.value read offset text with
    | error e => rfl
    | ok tree => rfl
  · rfl

theorem argument_eq (name : String) (start : Nat) (state : Interpolation.Binding) (argument : Argument) :
    (flagged state).argument guarded name start argument =
      (flagged <$> state.argument read name start argument).mapError .fault := by
  rw [Binding.argument, Interpolation.Binding.argument]
  cases keyword? argument.text with
  | some pair => exact keyword_eq hread _ _ _ _
  | none => exact next_eq hread _ _ _ _

theorem bindWith_eq (catalog : Catalog) (callStart listStart : Nat) (qualifier name : String)
    (raw : List Char) :
    bindWith catalog guarded callStart listStart qualifier name raw =
      (Interpolation.bindWith catalog read callStart listStart qualifier name raw).mapError .fault := by
  rw [bindWith, Interpolation.bindWith]
  cases catalog.lookup qualifier name with
  | none => rfl
  | some signature =>
    have hstart : flagged (.start qualifier signature) =
        ⟨.blank qualifier signature, 0, List.replicate signature.keyword.length false⟩ :=
      congrArg _ (flags_nil signature)
    dsimp only
    rw [split_eq, ok_bind, ← hstart, foldlM_simulates .fault flagged (argument_eq hread name listStart)]
    cases (ArgumentList.split raw).foldlM (Interpolation.Binding.argument read name listStart)
      (.start qualifier signature) with
    | error e => rfl
    | ok last => rfl

end Binding

end Interpolation.Guarded
