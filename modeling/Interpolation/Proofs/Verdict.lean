import Interpolation.Proofs.Admission
import Interpolation.Proofs.Limits

/-!
# The outcome of binding

Binding keeps two cursors, the next positional slot and the keywords used. Behind some arguments that are
admitted, both are functions of these arguments, and so is the whole state (`Interpolation.Binding.reached`).
One step either leads from the state behind them to the state behind one more, or finds that one refused
(`Interpolation.Binding.argument_reached_eq_ok_iff`, `Interpolation.Binding.argument_reached_eq_error_iff`).

The outcome of all steps, `Interpolation.Dialect.bind_outcome`, is these two along the list: the call that the
arguments give, or the error of the first argument that is refused.
-/

namespace Interpolation

/-! ### The state behind some arguments -/

namespace Binding

/-- **The state behind some arguments** that are admitted. -/
def reached (read : Reader) (qualifier : String) (signature : Signature) (arguments : List Argument) :
    Binding where
  call := .ofArguments read qualifier signature arguments
  positional := (given arguments .positional).length
  supplied := (words arguments).reverse

theorem reached_nil (read : Reader) (qualifier : String) (signature : Signature) :
    reached read qualifier signature [] = start qualifier signature := by
  have hslots : (Call.ofArguments read qualifier signature []).slots = signature.slots := by
    simp only [Call.ofArguments, Signature.slots, given, List.filter_nil, List.map_nil, List.getElem?_nil,
      List.head?_nil, Option.bind_none, ite_self]
    congr 1 <;> exact List.ext_getElem? fun index => by simp
  rw [reached, start, Call.blank, ← hslots]
  rfl

section Reached

variable {read : Reader} {qualifier : String} {signature : Signature} {before : List Argument}
  {argument : Argument} {index : Nat}

theorem target?_reached_positional_eq_some_iff :
    (reached read qualifier signature before).target? .positional = some index ↔
      index = (given before .positional).length ∧ index < signature.positional.length := by
  change (if (given before .positional).length < signature.positional.length then
      some (given before .positional).length else none) = some index ↔ _
  rw [Option.ite_none_right_eq_some, Option.some.injEq]
  constructor
  · rintro ⟨hroom, rfl⟩
    exact ⟨rfl, hroom⟩
  · rintro ⟨rfl, hroom⟩
    exact ⟨hroom, rfl⟩

theorem target?_reached_keyword_eq_some_iff {word : String} :
    (reached read qualifier signature before).target? (.keyword word) = some index ↔
      word ∉ words before ∧ ∃ i, signature.keywordIndex? word = some i ∧
        signature.positional.length + i = index := by
  simp only [target?, reached, Call.ofArguments, List.mem_reverse, Option.ite_none_left_eq_some,
    Option.map_eq_some_iff]

/-- **There is a slot for one more argument** exactly if it is admitted, too. -/
theorem exists_target?_reached_iff (hbefore : signature.Admits before) :
    (∃ index, (reached read qualifier signature before).target? argument.label = some index) ↔
      signature.Admits (before ++ [argument]) := by
  cases hlabel : argument.label with
  | positional =>
    have hwords : words (before ++ [argument]) = words before := by
      rw [words_append, words_singleton_of_positional hlabel, List.append_nil]
    have hgiven :
        (given (before ++ [argument]) .positional).length = (given before .positional).length + 1 := by
      rw [given_append, ← hlabel, given_singleton_self, List.length_append, List.length_singleton]
    simp only [target?_reached_positional_eq_some_iff, exists_eq_left]
    constructor
    · intro hroom
      refine ⟨?_, ?_, by rwa [hgiven]⟩
      · rw [hwords]
        exact hbefore.known
      · rw [hwords]
        exact hbefore.once
    · intro h
      have hroom := h.room
      rwa [hgiven] at hroom
  | keyword word =>
    have hwords : words (before ++ [argument]) = words before ++ [word] := by
      rw [words_append, words_singleton_of_keyword hlabel]
    have hgiven : given (before ++ [argument]) .positional = given before .positional := by
      rw [given_append, given_singleton_of_ne (by simp [hlabel]), List.append_nil]
    have honce : (words (before ++ [argument])).Nodup ↔ word ∉ words before ∧ (words before).Nodup := by
      rw [hwords, List.nodup_append_comm, List.singleton_append, List.nodup_cons]
    simp only [target?_reached_keyword_eq_some_iff]
    constructor
    · rintro ⟨index, hnew, i, hi, -⟩
      refine ⟨fun other hother => ?_, honce.2 ⟨hnew, hbefore.once⟩, by rw [hgiven]; exact hbefore.room⟩
      rw [hwords, List.mem_append, List.mem_singleton] at hother
      rcases hother with hother | rfl
      · exact hbefore.known other hother
      · exact Signature.exists_keyword_iff.2 ⟨i, hi⟩
    · intro h
      obtain ⟨i, hi⟩ := Signature.exists_keyword_iff.1 (h.known word (by simp [hwords]))
      exact ⟨_, (honce.1 h.once).1, i, hi, rfl⟩

/-- **Filling the slot for one more argument** leads to the state behind it. -/
theorem advance_reached (h : (reached read qualifier signature before).target? argument.label = some index) :
    (reached read qualifier signature before).advance argument.label index (read.held argument.content) =
      reached read qualifier signature (before ++ [argument]) := by
  cases hlabel : argument.label with
  | positional =>
    rw [hlabel, target?_reached_positional_eq_some_iff] at h
    obtain ⟨rfl, hroom⟩ := h
    have hcall := Call.put_ofArguments_positional read qualifier hlabel hroom
    rw [reached, reached, ← hcall, words_append, words_singleton_of_positional hlabel, List.append_nil,
      given_append,
      ← hlabel, given_singleton_self, List.length_append, List.length_singleton, hlabel]
    rfl
  | keyword word =>
    rw [hlabel, target?_reached_keyword_eq_some_iff] at h
    obtain ⟨hnew, i, hi, rfl⟩ := h
    have hcall := Call.put_ofArguments_keyword read qualifier hlabel hnew hi
    rw [reached, reached, ← hcall, words_append, words_singleton_of_keyword hlabel, List.reverse_append,
      given_append,
      given_singleton_of_ne (by simp [hlabel]), List.append_nil]
    rfl

end Reached

/-! ### One argument -/

section Outcome

variable {read : Reader} (hread : read.Translates) {qualifier name : String} {signature : Signature}
  {start : Nat} {before : List Argument} {argument : Argument}

omit hread in
theorem value_eq_error_iff {offset : Nat} {text : List Char} {error : ParseError} :
    value read offset text = .error error ↔
      Text.isBlankText text = false ∧ read offset text = .error error := by
  rw [value]
  cases Text.isBlankText text with
  | true => simp
  | false => simp [map_eq_error_iff]

include hread

/-- **One more argument is bound** exactly if it is admitted and its value can be read. -/
theorem argument_reached_eq_ok_iff (hbefore : signature.Admits before) {next : Binding} :
    Binding.argument read name start (reached read qualifier signature before) argument = .ok next ↔
      signature.Admits (before ++ [argument]) ∧ read.Accepts argument.content ∧
        next = reached read qualifier signature (before ++ [argument]) := by
  rw [argument_eq_ok_iff hread, step_iff, ← exists_target?_reached_iff hbefore]
  constructor
  · rintro ⟨label, content, index, value, htakes, htarget, hgives, rfl⟩
    obtain ⟨rfl, rfl⟩ := Argument.eq_of_takes htakes
    obtain ⟨haccepts, rfl⟩ := Reader.gives_iff.1 hgives
    exact ⟨⟨index, htarget⟩, haccepts, advance_reached htarget⟩
  · rintro ⟨⟨index, htarget⟩, haccepts, rfl⟩
    exact ⟨_, _, index, _, argument.takes, htarget, Reader.gives_iff.2 ⟨haccepts, rfl⟩,
      (advance_reached htarget).symm⟩

omit hread in
/-- With a slot for it, an argument is its value put into the slot. -/
theorem argument_of_target? {state : Binding} {index : Nat}
    (h : state.target? argument.label = some index) :
    Binding.argument read name start state argument =
      (state.advance argument.label index ·) <$>
        value read (start + argument.contentOffset) argument.content := by
  rw [Binding.argument, Argument.contentOffset, Argument.content]
  rw [Argument.label] at h ⊢
  cases hkey : keyword? argument.text with
  | none =>
    rw [hkey, target?] at h
    obtain ⟨hroom, hindex⟩ := Option.ite_none_right_eq_some.1 h
    obtain rfl := Option.some.inj hindex
    dsimp only
    rw [next, if_pos hroom]
    rfl
  | some found =>
    obtain ⟨word, text⟩ := found
    rw [hkey, target?] at h
    obtain ⟨hnew, hindex⟩ := Option.ite_none_left_eq_some.1 h
    obtain ⟨i, hi, rfl⟩ := Option.map_eq_some_iff.1 hindex
    have hwidth : Text.width (Label.keyword (String.ofList word)).mark = Text.width word + 1 := by
      simp
      decide
    dsimp only
    rw [keyword, hi]
    dsimp only
    rw [if_neg (by simpa using hnew), hwidth, ← Nat.add_assoc, ← Nat.add_assoc]
    rfl

/-- What is wrong with an argument for which there is no slot. -/
def refusal (state : Binding) (name : String) : Label → Fault
  | .positional => .tooManyPositional state.call.qualifier name
  | .keyword word =>
    if state.call.signature.keywordIndex? word = none then .unknownKeyword word else .duplicateKeyword word

omit hread in
/-- Without a slot for it, an argument is an error. -/
theorem argument_of_target?_eq_none {state : Binding} (h : state.target? argument.label = none) :
    Binding.argument read name start state argument =
      .error ⟨state.refusal name argument.label, start + argument.offset⟩ := by
  rw [Binding.argument]
  rw [Argument.label] at h ⊢
  cases hkey : keyword? argument.text with
  | none =>
    rw [hkey, target?] at h
    dsimp only
    rw [next, if_neg (by simpa using h)]
    rfl
  | some found =>
    obtain ⟨word, text⟩ := found
    rw [hkey, target?] at h
    dsimp only
    rw [keyword, refusal]
    cases hindex : state.call.signature.keywordIndex? (String.ofList word) with
    | none => rw [if_pos rfl]
    | some index =>
      rw [if_neg (by simp)]
      dsimp only
      rw [if_pos]
      simpa [hindex] using h

omit hread in
theorem refusal_reached_unknown {word : String}
    (h : ∀ parameter ∈ signature.keyword, parameter.name ≠ word) :
    (reached read qualifier signature before).refusal name (.keyword word) = .unknownKeyword word :=
  if_pos (Signature.keywordIndex?_eq_none_iff.2 h)

omit hread in
theorem refusal_reached_again {word : String}
    (h : ∃ parameter ∈ signature.keyword, parameter.name = word) :
    (reached read qualifier signature before).refusal name (.keyword word) = .duplicateKeyword word := by
  refine if_neg fun hnone => ?_
  obtain ⟨parameter, hmem, hname⟩ := h
  exact Signature.keywordIndex?_eq_none_iff.1 hnone parameter hmem hname

omit hread in
/-- An argument for which there is no slot is refused for it. -/
theorem refuses_of_target?_eq_none
    (h : (reached read qualifier signature before).target? argument.label = none) :
    signature.Refuses read qualifier name start before argument
      ⟨(reached read qualifier signature before).refusal name argument.label, start + argument.offset⟩ := by
  rw [Option.eq_none_iff_forall_ne_some] at h
  cases hlabel : argument.label with
  | positional =>
    rw [hlabel] at h
    have hfull : signature.positional.length ≤ (given before .positional).length := by
      by_contra hroom
      exact h _ (target?_reached_positional_eq_some_iff.2 ⟨rfl, by omega⟩)
    exact .surplus hlabel hfull
  | keyword word =>
    rw [hlabel] at h
    cases hindex : signature.keywordIndex? word with
    | none =>
      have hnone := Signature.keywordIndex?_eq_none_iff.1 hindex
      rw [refusal_reached_unknown hnone]
      exact .unknown hlabel hnone
    | some i =>
      have hused : word ∈ words before := by
        by_contra hnew
        exact h _ (target?_reached_keyword_eq_some_iff.2 ⟨hnew, i, hindex, rfl⟩)
      have hknown := Signature.exists_keyword_iff.2 ⟨i, hindex⟩
      rw [refusal_reached_again hknown]
      exact .again hlabel hknown hused

omit hread in
/-- **One more argument is an error** exactly if it is refused. -/
theorem argument_reached_eq_error_iff (hbefore : signature.Admits before) {error : ParseError} :
    Binding.argument read name start (reached read qualifier signature before) argument = .error error ↔
      signature.Refuses read qualifier name start before argument error := by
  have hadmits : (∃ index, (reached read qualifier signature before).target? argument.label = some index) ↔
      signature.Admits (before ++ [argument]) := exists_target?_reached_iff hbefore
  cases htarget : (reached read qualifier signature before).target? argument.label with
  | some index =>
    -- There is a slot, so the value is to blame.
    rw [htarget] at hadmits
    have hmore := hadmits.1 ⟨index, rfl⟩
    rw [argument_of_target? htarget, map_eq_error_iff, value_eq_error_iff]
    constructor
    · rintro ⟨hblank, hvalue⟩
      exact .value hmore hblank hvalue
    · intro h
      cases h with
      | unknown hlabel hnone => exact absurd hmore (Signature.not_admits_of_unknown hlabel hnone)
      | again hlabel _ hused => exact absurd hmore (Signature.not_admits_of_again hlabel hused)
      | surplus hlabel hfull => exact absurd hmore (Signature.not_admits_of_surplus hlabel hfull)
      | value _ hblank hvalue => exact ⟨hblank, hvalue⟩
  | none =>
    have hrefused : signature.Refuses read qualifier name start before argument
        ⟨(reached read qualifier signature before).refusal name argument.label, start + argument.offset⟩ :=
      refuses_of_target?_eq_none htarget
    rw [htarget] at hadmits
    rw [argument_of_target?_eq_none htarget]
    constructor
    · intro h
      cases h
      exact hrefused
    · intro h
      cases h with
      | unknown hlabel hnone => rw [hlabel, refusal_reached_unknown hnone]
      | again hlabel hknown => rw [hlabel, refusal_reached_again hknown]
      | surplus hlabel =>
        rw [hlabel]
        rfl
      | value hmore =>
        obtain ⟨index, hindex⟩ := hadmits.2 hmore
        simp at hindex

/-! ### All arguments -/

theorem foldlM_reached_eq_ok_iff (hbefore : signature.Admits before) {arguments : List Argument}
    {last : Binding} :
    arguments.foldlM (Binding.argument read name start) (reached read qualifier signature before) = .ok last ↔
      signature.Admits (before ++ arguments) ∧ (∀ given ∈ arguments, read.Accepts given.content) ∧
        last = reached read qualifier signature (before ++ arguments) := by
  induction arguments generalizing before with
  | nil =>
    rw [List.append_nil, List.foldlM_nil]
    constructor
    · intro h
      exact ⟨hbefore, by simp, (Except.ok.inj h).symm⟩
    · rintro ⟨-, -, rfl⟩
      rfl
  | cons argument rest ih =>
    rw [List.foldlM_cons, bind_eq_ok_iff, List.append_cons before argument rest]
    simp only [argument_reached_eq_ok_iff hread hbefore, List.forall_mem_cons]
    constructor
    · rintro ⟨next, ⟨hmore, haccepts, rfl⟩, hrest⟩
      obtain ⟨hall, hvalues, rfl⟩ := (ih hmore).1 hrest
      exact ⟨hall, ⟨haccepts, hvalues⟩, rfl⟩
    · rintro ⟨hall, ⟨haccepts, hvalues⟩, rfl⟩
      have hmore := hall.of_append
      exact ⟨_, ⟨hmore, haccepts, rfl⟩, (ih hmore).2 ⟨hall, hvalues, rfl⟩⟩

theorem foldlM_reached_eq_error_iff (hbefore : signature.Admits before) {arguments : List Argument}
    {error : ParseError} :
    arguments.foldlM (Binding.argument read name start) (reached read qualifier signature before)
        = .error error ↔
      ∃ first refused rest, arguments = first ++ refused :: rest ∧ signature.Admits (before ++ first) ∧
        (∀ given ∈ first, read.Accepts given.content) ∧
        signature.Refuses read qualifier name start (before ++ first) refused error := by
  induction arguments generalizing before with
  | nil =>
    constructor
    · intro h
      cases h
    · rintro ⟨first, refused, rest, hnil, -⟩
      simp at hnil
  | cons argument rest ih =>
    rw [List.foldlM_cons, bind_eq_error_iff]
    simp only [argument_reached_eq_ok_iff hread hbefore, argument_reached_eq_error_iff hbefore]
    constructor
    · rintro (hrefuses | ⟨next, ⟨hmore, haccepts, rfl⟩, hrest⟩)
      · exact ⟨[], argument, rest, rfl, by simpa using hbefore, by simp, by simpa using hrefuses⟩
      · obtain ⟨first, refused, behind, rfl, hfirst, hvalues, hrefuses⟩ := (ih hmore).1 hrest
        rw [← List.append_cons] at hfirst hrefuses
        have hall : ∀ given ∈ argument :: first, read.Accepts given.content :=
          List.forall_mem_cons.2 ⟨haccepts, hvalues⟩
        exact ⟨argument :: first, refused, behind, rfl, hfirst, hall, hrefuses⟩
    · rintro ⟨first, refused, behind, heq, hfirst, hvalues, hrefuses⟩
      cases first with
      | nil =>
        obtain ⟨rfl, rfl⟩ : argument = refused ∧ rest = behind := by simpa using heq
        exact Or.inl (by simpa using hrefuses)
      | cons next first =>
        obtain ⟨rfl, rfl⟩ : argument = next ∧ rest = first ++ refused :: behind := by simpa using heq
        obtain ⟨haccepts, hvalues⟩ := List.forall_mem_cons.1 hvalues
        rw [List.append_cons] at hfirst hrefuses
        have hmore := hfirst.of_append
        have hrest := (ih hmore).2 ⟨first, refused, behind, rfl, hfirst, hvalues, hrefuses⟩
        exact Or.inr ⟨_, ⟨hmore, haccepts, rfl⟩, hrest⟩

end Outcome

end Binding

section Outcome

variable {read : Reader} (hread : read.Translates) {catalog : Catalog} {callStart listStart : Nat}
  {qualifier name : String} {raw : List Char}

include hread

/-- **A call is bound** exactly if its method is known and admits its arguments, and their values can be
read. -/
theorem bindWith_eq_ok_iff_admits {call : Call} :
    bindWith catalog read callStart listStart qualifier name raw = .ok call ↔
      ∃ signature, catalog.lookup qualifier name = some signature ∧
        signature.Admits (ArgumentList.split raw) ∧
        (∀ argument ∈ ArgumentList.split raw, read.Accepts argument.content) ∧
        call = .ofArguments read qualifier signature (ArgumentList.split raw) := by
  rw [bindWith]
  cases catalog.lookup qualifier name with
  | none => simp
  | some signature =>
    dsimp only
    rw [← Binding.reached_nil read]
    simp only [map_eq_ok_iff, Binding.foldlM_reached_eq_ok_iff hread signature.admits_nil, List.nil_append,
      Option.some.injEq, exists_eq_left']
    constructor
    · rintro ⟨last, ⟨hadmits, hvalues, rfl⟩, rfl⟩
      exact ⟨hadmits, hvalues, rfl⟩
    · rintro ⟨hadmits, hvalues, rfl⟩
      exact ⟨_, ⟨hadmits, hvalues, rfl⟩, rfl⟩

/-- **A call is an error** exactly if its method is not known, or else the method refuses one of its
arguments, the first one that is refused being the one that is reported. -/
theorem bindWith_eq_error_iff {error : ParseError} :
    bindWith catalog read callStart listStart qualifier name raw = .error error ↔
      (catalog.lookup qualifier name = none ∧ error = ⟨.unknownMethod qualifier name, callStart⟩) ∨
        ∃ signature, catalog.lookup qualifier name = some signature ∧
          ∃ before refused after, ArgumentList.split raw = before ++ refused :: after ∧
            signature.Admits before ∧ (∀ argument ∈ before, read.Accepts argument.content) ∧
            signature.Refuses read qualifier name listStart before refused error := by
  rw [bindWith]
  cases catalog.lookup qualifier name with
  | none => simpa using eq_comm
  | some signature =>
    dsimp only
    rw [← Binding.reached_nil read]
    simp only [map_eq_error_iff, Binding.foldlM_reached_eq_error_iff hread signature.admits_nil,
      List.nil_append, Option.some.injEq, exists_eq_left', reduceCtorEq, false_and, false_or]

end Outcome

/-- **The outcome of binding.** A call is bound exactly if its method is known and admits the arguments, and
every value that is not blank is a text of the dialect with one level less; it then holds what was given for
each slot. Otherwise the method is not known, or it refuses an argument behind others that are all in order,
and the error is that one's. -/
theorem Dialect.bind_outcome (dialect : Dialect) (qualifier name raw : String) :
    (∀ call : Call, dialect.bind qualifier name raw = .ok call ↔
        ∃ signature, dialect.catalog.lookup qualifier name = some signature ∧
          signature.Admits (ArgumentList.split raw.toList) ∧
          (∀ argument ∈ ArgumentList.split raw.toList, dialect.inner.Accepts argument.content) ∧
          call = .ofArguments dialect.inner qualifier signature (ArgumentList.split raw.toList)) ∧
      ∀ error : ParseError, dialect.bind qualifier name raw = .error error ↔
        (dialect.catalog.lookup qualifier name = none ∧ error = ⟨.unknownMethod qualifier name, 0⟩) ∨
          ∃ signature, dialect.catalog.lookup qualifier name = some signature ∧
            ∃ before refused after, ArgumentList.split raw.toList = before ++ refused :: after ∧
              signature.Admits before ∧ (∀ argument ∈ before, dialect.inner.Accepts argument.content) ∧
              signature.Refuses dialect.inner qualifier name 0 before refused error := by
  have hbind : dialect.bind qualifier name raw =
      bindWith dialect.catalog dialect.inner 0 0 qualifier name raw.toList := by
    rw [← dialect.values_eq_inner]
    rfl
  have htranslates : dialect.inner.Translates := by
    rw [← dialect.values_eq_inner]
    exact dialect.values_translates
  rw [hbind]
  exact ⟨fun call => bindWith_eq_ok_iff_admits htranslates, fun error => bindWith_eq_error_iff htranslates⟩

end Interpolation
