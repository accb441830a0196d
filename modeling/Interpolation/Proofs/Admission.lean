import Interpolation.Proofs.Filling
import Mathlib.Data.List.Nodup

/-!
# Which arguments a method admits

What a list of arguments comes to, said of the whole list and not of one argument after the other. A signature
admits some arguments (`Interpolation.Signature.Admits`) if each keyword is known and used once and there is
room for the others; the call they give (`Interpolation.Call.ofArguments`) holds in each slot what was given
for it. An argument is refused (`Interpolation.Signature.Refuses`) for one of four reasons, three of which
concern the arguments in front of it and the last one the text of its value.

One more argument that is admitted is one more slot filled, and no other slot of the call changes
(`Interpolation.Call.put_ofArguments_positional`, `Interpolation.Call.put_ofArguments_keyword`).
-/

namespace Interpolation

/-! ### What an argument is for -/

namespace Argument

/-- The label that an argument is for. -/
def label (argument : Argument) : Label :=
  match keyword? argument.text with
  | some (word, _) => .keyword (String.ofList word)
  | none => .positional

/-- The text of the value of an argument: what stands behind the equals sign, or all of it. -/
def content (argument : Argument) : List Char :=
  match keyword? argument.text with
  | some (_, value) => value
  | none => argument.text

/-- The byte offset at which the value of an argument starts. -/
def contentOffset (argument : Argument) : Nat := argument.offset + Text.width argument.label.mark

/-- The keyword of an argument, if it has one. -/
def word? (argument : Argument) : Option String :=
  match argument.label with
  | .keyword word => some word
  | .positional => none

theorem takes (argument : Argument) : argument.label.Takes argument.text argument.content := by
  rw [label, content]
  cases hkey : keyword? argument.text with
  | none => exact .positional hkey
  | some found =>
    obtain ⟨word, value⟩ := found
    obtain ⟨htext, hword⟩ := keyword?_eq_some_iff.1 hkey
    have htakes := @Label.Takes.keyword (String.ofList word) value (by simpa using hword)
    rw [String.toList_ofList] at htakes
    rw [htext]
    exact htakes

/-- **An argument is for one label**, with one value. -/
theorem eq_of_takes {argument : Argument} {label : Label} {content : List Char}
    (h : label.Takes argument.text content) : label = argument.label ∧ content = argument.content := by
  rw [Argument.label, Argument.content]
  generalize argument.text = text at h
  cases h with
  | positional hkey => simp [hkey]
  | @keyword word content hword =>
    have hkey : keyword? (word.toList ++ '=' :: content) = some (word.toList, content) :=
      keyword?_eq_some_iff.2 ⟨rfl, hword⟩
    simp [hkey]

end Argument

/-- The texts of the values given for a label, in order. -/
def given (arguments : List Argument) (label : Label) : List (List Char) :=
  (arguments.filter (·.label = label)).map (·.content)

/-- The keywords used, in order. -/
def words (arguments : List Argument) : List String := arguments.filterMap (·.word?)

@[simp] theorem words_append (first second : List Argument) :
    words (first ++ second) = words first ++ words second := List.filterMap_append

@[simp] theorem given_append (first second : List Argument) (label : Label) :
    given (first ++ second) label = given first label ++ given second label := by
  simp [given]

theorem given_singleton_self (argument : Argument) :
    given [argument] argument.label = [argument.content] := by
  simp [given]

theorem given_singleton_of_ne {argument : Argument} {label : Label} (h : argument.label ≠ label) :
    given [argument] label = [] := by
  simp [given, h]

theorem words_singleton_of_keyword {argument : Argument} {word : String}
    (h : argument.label = .keyword word) : words [argument] = [word] := by
  simp [words, Argument.word?, h]

theorem words_singleton_of_positional {argument : Argument} (h : argument.label = .positional) :
    words [argument] = [] := by
  simp [words, Argument.word?, h]

/-- For a keyword that was not used nothing was given. -/
theorem given_eq_nil_of_notMem {arguments : List Argument} {word : String} (h : word ∉ words arguments) :
    given arguments (.keyword word) = [] := by
  rw [given, List.map_eq_nil_iff, List.filter_eq_nil_iff]
  intro argument hmem hlabel
  refine h (List.mem_filterMap.2 ⟨argument, hmem, ?_⟩)
  simp [Argument.word?, of_decide_eq_true hlabel]

/-! ### What a slot holds -/

namespace Reader

/-- The value is blank, or it can be read. -/
def Accepts (read : Reader) (content : List Char) : Prop :=
  Text.isBlankText content = false → ∃ tree, read 0 content = .ok tree

/-- **What a slot holds** for the text of a value: nothing if it is blank, else the tree of the text. -/
def held (read : Reader) (content : List Char) : Option Tree :=
  if Text.isBlankText content then none else (read 0 content).toOption

theorem gives_iff {read : Reader} {content : List Char} {value : Option Tree} :
    read.Gives content value ↔ read.Accepts content ∧ value = read.held content := by
  rw [Accepts, held]
  cases hblank : Text.isBlankText content with
  | true =>
    cases value with
    | none => simp [Gives, hblank]
    | some tree => simp [Gives, hblank]
  | false =>
    cases value with
    | none =>
      simp only [Gives, hblank, Bool.false_eq_true, if_false, false_iff, not_and]
      intro hread heq
      obtain ⟨tree, htree⟩ := hread trivial
      rw [htree] at heq
      simp [Except.toOption] at heq
    | some tree => cases hread : read 0 content <;> simp [Gives, hblank, hread, Except.toOption, eq_comm]

theorem held_eq_some_iff {read : Reader} {content : List Char} {tree : Tree} :
    read.held content = some tree ↔ Text.isBlankText content = false ∧ read 0 content = .ok tree := by
  rw [held]
  cases Text.isBlankText content <;> cases read 0 content <;> simp [Except.toOption]

end Reader

/-- **The call that some arguments give.** The positional slots hold the values given without a keyword, in
order. A keyword slot holds the value given for its name, if it is the first slot of that name. -/
def Call.ofArguments (read : Reader) (qualifier : String) (signature : Signature)
    (arguments : List Argument) : Call where
  qualifier := qualifier
  signature := signature
  slots :=
    signature.positional.mapIdx (fun index parameter =>
        ⟨.positional, parameter.type, (given arguments .positional)[index]?.bind read.held⟩)
      ++ signature.keyword.mapIdx fun index parameter =>
        ⟨.keyword parameter.name, parameter.type,
          if signature.keywordIndex? parameter.name = some index then
            (given arguments (.keyword parameter.name)).head?.bind read.held
          else none⟩

/-! ### Arguments that are admitted, and arguments that are not -/

namespace Signature

/-- **The signature admits the arguments**, whatever their values are. -/
structure Admits (signature : Signature) (arguments : List Argument) : Prop where
  /-- Each keyword is the name of a parameter. -/
  known : ∀ word ∈ words arguments, ∃ parameter ∈ signature.keyword, parameter.name = word
  /-- No keyword is used twice. -/
  once : (words arguments).Nodup
  /-- There are no more arguments without a keyword than positional parameters. -/
  room : (given arguments .positional).length ≤ signature.positional.length

instance (signature : Signature) (arguments : List Argument) : Decidable (signature.Admits arguments) :=
  decidable_of_iff
    ((∀ word ∈ words arguments, ∃ parameter ∈ signature.keyword, parameter.name = word) ∧
      (words arguments).Nodup ∧ (given arguments .positional).length ≤ signature.positional.length)
    ⟨fun h => ⟨h.1, h.2.1, h.2.2⟩, fun h => ⟨h.known, h.once, h.room⟩⟩

/-- **The signature refuses an argument** behind others, with an error. The argument list starts at the given
offset. -/
inductive Refuses (signature : Signature) (read : Reader) (qualifier name : String) (start : Nat)
    (before : List Argument) (argument : Argument) : ParseError → Prop
  /-- Its keyword is the name of no parameter. -/
  | unknown {word : String} :
    argument.label = .keyword word →
    (∀ parameter ∈ signature.keyword, parameter.name ≠ word) →
    Refuses signature read qualifier name start before argument
      ⟨.unknownKeyword word, start + argument.offset⟩
  /-- Its keyword has been used. -/
  | again {word : String} :
    argument.label = .keyword word →
    (∃ parameter ∈ signature.keyword, parameter.name = word) →
    word ∈ words before →
    Refuses signature read qualifier name start before argument
      ⟨.duplicateKeyword word, start + argument.offset⟩
  /-- It has no keyword, and the positional parameters are used up. -/
  | surplus :
    argument.label = .positional →
    signature.positional.length ≤ (given before .positional).length →
    Refuses signature read qualifier name start before argument
      ⟨.tooManyPositional qualifier name, start + argument.offset⟩
  /-- Its value cannot be read. -/
  | value {error : ParseError} :
    signature.Admits (before ++ [argument]) →
    Text.isBlankText argument.content = false →
    read (start + argument.contentOffset) argument.content = .error error →
    Refuses signature read qualifier name start before argument error

variable {signature : Signature}

theorem admits_nil (signature : Signature) : signature.Admits [] where
  known := by simp [words]
  once := by simp [words]
  room := by simp [given]

/-- Of arguments that are admitted, those in front are. -/
theorem Admits.of_append {first second : List Argument} (h : signature.Admits (first ++ second)) :
    signature.Admits first where
  known word hword := h.known word (by rw [words_append]; exact List.mem_append_left _ hword)
  once := by
    have hnodup := h.once
    rw [words_append] at hnodup
    exact (List.nodup_append.1 hnodup).1
  room := by
    have hroom := h.room
    rw [given_append, List.length_append] at hroom
    omega

theorem exists_keyword_iff {word : String} :
    (∃ parameter ∈ signature.keyword, parameter.name = word) ↔
      ∃ index, signature.keywordIndex? word = some index := by
  rw [← Option.isSome_iff_exists, keywordIndex?, List.findIdx?_isSome, List.any_eq_true]
  simp

theorem keywordIndex?_eq_none_iff {word : String} :
    signature.keywordIndex? word = none ↔ ∀ parameter ∈ signature.keyword, parameter.name ≠ word := by
  simp [keywordIndex?, List.findIdx?_eq_none_iff]

/-! Three of the reasons to refuse an argument are the three ways not to be admitted. -/

section Refused

variable {before : List Argument} {argument : Argument} {word : String}

theorem not_admits_of_unknown (hlabel : argument.label = .keyword word)
    (hnone : ∀ parameter ∈ signature.keyword, parameter.name ≠ word) :
    ¬signature.Admits (before ++ [argument]) := by
  intro h
  obtain ⟨parameter, hmem, hname⟩ := h.known word (by simp [words_singleton_of_keyword hlabel])
  exact hnone parameter hmem hname

theorem not_admits_of_again (hlabel : argument.label = .keyword word) (hused : word ∈ words before) :
    ¬signature.Admits (before ++ [argument]) := by
  intro h
  have honce := h.once
  rw [words_append, words_singleton_of_keyword hlabel, List.nodup_append_comm, List.singleton_append,
    List.nodup_cons] at honce
  exact honce.1 hused

theorem not_admits_of_surplus (hlabel : argument.label = .positional)
    (hfull : signature.positional.length ≤ (given before .positional).length) :
    ¬signature.Admits (before ++ [argument]) := by
  intro h
  have hroom := h.room
  rw [given_append, ← hlabel, given_singleton_self, hlabel, List.length_append,
    List.length_singleton] at hroom
  omega

end Refused

end Signature

/-! ### The slots of the call -/

namespace Call

variable (read : Reader) (qualifier : String) (signature : Signature) (arguments : List Argument)

/-- What stands in the place of a positional parameter. -/
theorem getElem?_ofArguments_of_lt {index : Nat} (h : index < signature.positional.length) :
    (ofArguments read qualifier signature arguments).slots[index]? =
      signature.positional[index]?.map fun parameter =>
        ⟨.positional, parameter.type, (given arguments .positional)[index]?.bind read.held⟩ := by
  rw [ofArguments, List.getElem?_append_left (by simpa using h), List.getElem?_mapIdx]

/-- What stands in the place of a keyword parameter. -/
theorem getElem?_ofArguments_add (index : Nat) :
    (ofArguments read qualifier signature arguments).slots[signature.positional.length + index]? =
      signature.keyword[index]?.map fun parameter =>
        ⟨.keyword parameter.name, parameter.type,
          if signature.keywordIndex? parameter.name = some index then
            (given arguments (.keyword parameter.name)).head?.bind read.held
          else none⟩ := by
  rw [ofArguments, List.getElem?_append_right (by simp), List.length_mapIdx, Nat.add_sub_cancel_left,
    List.getElem?_mapIdx]

variable {read qualifier signature arguments} in
/-- The call depends on nothing but what is read from the values. -/
theorem ofArguments_congr {other : Reader}
    (h : ∀ argument ∈ arguments, read.held argument.content = other.held argument.content) :
    ofArguments read qualifier signature arguments = ofArguments other qualifier signature arguments := by
  have hgiven (label : Label) :
      ∀ content ∈ given arguments label, read.held content = other.held content := by
    intro content hmem
    obtain ⟨argument, hargument, rfl⟩ := List.mem_map.1 hmem
    exact h argument (List.mem_of_mem_filter hargument)
  have hpositional (index : Nat) : (given arguments .positional)[index]?.bind read.held =
      (given arguments .positional)[index]?.bind other.held :=
    Option.bind_congr fun content hcontent => hgiven _ content (List.mem_of_getElem? hcontent)
  have hkeyword (word : String) : (given arguments (.keyword word)).head?.bind read.held =
      (given arguments (.keyword word)).head?.bind other.held :=
    Option.bind_congr fun content hcontent => hgiven _ content (List.mem_of_mem_head? hcontent)
  simp only [ofArguments, hpositional, hkeyword]

section OneMore

variable {signature} {before : List Argument} {argument : Argument}

/-- One more argument without a keyword fills the next positional slot and no other one. -/
theorem put_ofArguments_positional (hlabel : argument.label = .positional)
    (hroom : (given before .positional).length < signature.positional.length) :
    (ofArguments read qualifier signature before).put (given before .positional).length
        (read.held argument.content) =
      ofArguments read qualifier signature (before ++ [argument]) := by
  have hgiven : given (before ++ [argument]) .positional
      = given before .positional ++ [argument.content] := by
    rw [given_append, ← hlabel, given_singleton_self]
  refine congrArg (Call.mk qualifier signature) (List.ext_getElem? fun place => ?_)
  change _ = (ofArguments read qualifier signature (before ++ [argument])).slots[place]?
  rw [List.getElem?_modify]
  rcases Nat.lt_or_ge place signature.positional.length with hlt | hge
  · rw [getElem?_ofArguments_of_lt _ _ _ _ hlt, getElem?_ofArguments_of_lt _ _ _ _ hlt, hgiven,
      List.getElem?_eq_getElem hlt]
    rcases Nat.lt_trichotomy place (given before .positional).length with hplace | rfl | hplace
    · simp [List.getElem?_append_left hplace, Nat.ne_of_gt hplace]
    · simp
    · -- Neither list reaches this far.
      have hnone : (given before .positional)[place]? = none := List.getElem?_eq_none (by omega)
      have hnone' : (given before .positional ++ [argument.content])[place]? = none :=
        List.getElem?_eq_none (by simp; omega)
      simp [hnone, hnone', Nat.ne_of_lt hplace]
  · obtain ⟨i, rfl⟩ := Nat.exists_eq_add_of_le hge
    have hne : (given before .positional).length ≠ signature.positional.length + i := by omega
    rw [getElem?_ofArguments_add, getElem?_ofArguments_add]
    simp [hne, given_singleton_of_ne, hlabel]

/-- One more argument with a keyword fills the first slot of that name and no other one. -/
theorem put_ofArguments_keyword {word : String} {index : Nat} (hlabel : argument.label = .keyword word)
    (hnew : word ∉ words before) (hindex : signature.keywordIndex? word = some index) :
    (ofArguments read qualifier signature before).put (signature.positional.length + index)
        (read.held argument.content) =
      ofArguments read qualifier signature (before ++ [argument]) := by
  refine congrArg (Call.mk qualifier signature) (List.ext_getElem? fun place => ?_)
  change _ = (ofArguments read qualifier signature (before ++ [argument])).slots[place]?
  rw [List.getElem?_modify]
  rcases Nat.lt_or_ge place signature.positional.length with hlt | hge
  · have hne : signature.positional.length + index ≠ place := by omega
    rw [getElem?_ofArguments_of_lt _ _ _ _ hlt, getElem?_ofArguments_of_lt _ _ _ _ hlt, given_append,
      given_singleton_of_ne (by simp [hlabel])]
    simp [hne]
  · obtain ⟨i, rfl⟩ := Nat.exists_eq_add_of_le hge
    rw [getElem?_ofArguments_add, getElem?_ofArguments_add]
    rcases eq_or_ne index i with rfl | hne
    · -- The slot is the first one of its name, and nothing was given for it before.
      obtain ⟨hlt, hname, -⟩ := List.findIdx?_eq_some_iff_getElem.1 hindex
      have hname : signature.keyword[index].name = word := by simpa using hname
      have hgiven : given [argument] (.keyword word) = [argument.content] := by
        rw [← hlabel, given_singleton_self]
      simp [List.getElem?_eq_getElem hlt, hname, hindex, given_eq_nil_of_notMem hnew, hgiven]
    · cases hparameter : signature.keyword[i]? with
      | none => simp
      | some parameter =>
        -- A slot of the same name is not the first one, so that it stays empty.
        rcases eq_or_ne parameter.name word with hname | hname
        · simp [hname, hindex, hne]
        · simp [given_singleton_of_ne, hlabel, hname.symm, hne]

end OneMore

section Held

variable {read qualifier signature arguments}

/-- What a slot holds is the value of an argument. -/
theorem exists_argument_of_mem {slot : Slot}
    (hmem : slot ∈ (ofArguments read qualifier signature arguments).slots)
    {value : Tree} (hvalue : slot.value = some value) :
    ∃ argument ∈ arguments, read.held argument.content = some value := by
  have hgiven {label : Label} {content : List Char} (hcontent : content ∈ given arguments label)
      (hheld : read.held content = some value) :
      ∃ argument ∈ arguments, read.held argument.content = some value := by
    obtain ⟨argument, hargument, rfl⟩ := List.mem_map.1 hcontent
    exact ⟨argument, List.mem_of_mem_filter hargument, hheld⟩
  rcases List.mem_append.1 hmem with hpositional | hkeyword
  · obtain ⟨index, _, rfl⟩ := List.mem_mapIdx.1 hpositional
    obtain ⟨content, hcontent, hheld⟩ := Option.bind_eq_some_iff.1 hvalue
    exact hgiven (List.mem_of_getElem? hcontent) hheld
  · obtain ⟨index, _, rfl⟩ := List.mem_mapIdx.1 hkeyword
    obtain ⟨-, hvalue⟩ := Option.ite_none_right_eq_some.1 hvalue
    obtain ⟨content, hcontent, hheld⟩ := Option.bind_eq_some_iff.1 hvalue
    exact hgiven (List.mem_of_mem_head? hcontent) hheld

/-- **No value is lost**: every argument that is admitted has a slot that holds its value. -/
theorem exists_slot_of_mem (hadmits : signature.Admits arguments) {argument : Argument}
    (hmem : argument ∈ arguments) :
    ∃ slot ∈ (ofArguments read qualifier signature arguments).slots,
      slot.value = read.held argument.content := by
  cases hlabel : argument.label with
  | positional =>
    have hcontent : argument.content ∈ given arguments .positional :=
      List.mem_map_of_mem (List.mem_filter.2 ⟨hmem, by simp [hlabel]⟩)
    obtain ⟨index, hindex⟩ := List.mem_iff_getElem?.1 hcontent
    have hlt : index < signature.positional.length :=
      Nat.lt_of_lt_of_le (List.getElem?_eq_some_iff.1 hindex).1 hadmits.room
    have hslot := getElem?_ofArguments_of_lt read qualifier signature arguments hlt
    rw [List.getElem?_eq_getElem hlt, hindex] at hslot
    exact ⟨_, List.mem_of_getElem? hslot, rfl⟩
  | keyword word =>
    obtain ⟨before, after, rfl⟩ := List.append_of_mem hmem
    have hword : argument.word? = some word := by rw [Argument.word?, hlabel]
    have hused : word ∈ words (before ++ argument :: after) :=
      List.mem_filterMap.2 ⟨argument, hmem, hword⟩
    obtain ⟨index, hindex⟩ := Signature.exists_keyword_iff.1 (hadmits.known word hused)
    obtain ⟨hlt, hname, -⟩ := List.findIdx?_eq_some_iff_getElem.1 hindex
    have hname : signature.keyword[index].name = word := by simpa using hname
    -- The keyword is used only once, so that its argument is the first one.
    have hfirst : (given (before ++ argument :: after) (.keyword word)).head? = some argument.content := by
      have hadmits : signature.Admits (before ++ [argument]) :=
        Signature.Admits.of_append (by rwa [← List.append_cons])
      have hnew : word ∉ words before := fun h => Signature.not_admits_of_again hlabel h hadmits
      rw [List.append_cons, given_append, given_append, given_eq_nil_of_notMem hnew, ← hlabel,
        given_singleton_self]
      rfl
    have hslot := getElem?_ofArguments_add read qualifier signature (before ++ argument :: after) index
    rw [List.getElem?_eq_getElem hlt, Option.map_some, hname, if_pos hindex, hfirst] at hslot
    exact ⟨_, List.mem_of_getElem? hslot, rfl⟩

end Held

end Call

end Interpolation
