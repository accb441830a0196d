import Interpolation.Proofs.FixedPoint
import Interpolation.Proofs.Verdict

/-!
# The order of arguments

A keyword says which slot its value is for, so that it does not matter where among the arguments it is written.
What matters is the order of the arguments without a keyword, and nothing else
(`Interpolation.Dialect.bind_reordered`).

Binding goes through the arguments one after the other, and on its way it depends on their order in every
respect: in the slots that are filled so far, in the keywords that are used up, in the offsets and in the error
that comes first. But the outcome of it all is said of the list as a whole. What a call holds for a label is what
was given for it (`Interpolation.given`), in order for the positional slots, and for a keyword that is used once
there is no order to speak of.
-/

namespace Interpolation

open Nesting

/-! ### Arguments in another order -/

/-- **The same arguments in another order**, wherever they stand; those without a keyword are in the same one. -/
structure Reordered (first second : List Argument) : Prop where
  /-- The texts are the same. -/
  perm : (first.map (·.text)).Perm (second.map (·.text))
  /-- What is given for the positional slots is given in the same order. -/
  kept : given first .positional = given second .positional

/-- What is given for a label is a matter of the texts of the arguments. -/
theorem given_eq_filterMap (arguments : List Argument) (label : Label) :
    given arguments label = (arguments.map (·.text)).filterMap fun text =>
      if (Argument.mk 0 text).label = label then some (Argument.mk 0 text).content else none := by
  induction arguments with
  | nil => rfl
  | cons argument rest ih =>
    have hlabel : (Argument.mk 0 argument.text).label = argument.label := rfl
    have hcontent : (Argument.mk 0 argument.text).content = argument.content := rfl
    rw [List.map_cons, List.filterMap_cons, ← ih, hlabel, hcontent, given, List.filter_cons]
    by_cases h : argument.label = label <;> simp [h, given]

/-- Which keywords are used is a matter of the texts of the arguments. -/
theorem words_eq_filterMap (arguments : List Argument) :
    words arguments = (arguments.map (·.text)).filterMap fun text => (Argument.mk 0 text).word? := by
  rw [List.filterMap_map]
  rfl

/-- A keyword is used as often as something is given for it. -/
theorem count_words (arguments : List Argument) (word : String) :
    (words arguments).count word = (given arguments (.keyword word)).length := by
  induction arguments with
  | nil => rfl
  | cons argument rest ih =>
    rw [← List.singleton_append, words_append, given_append, List.count_append, List.length_append, ih]
    cases hlabel : argument.label with
    | positional => rw [words_singleton_of_positional hlabel, given_singleton_of_ne (by simp [hlabel])]; rfl
    | keyword other =>
      rw [words_singleton_of_keyword hlabel]
      rcases eq_or_ne other word with rfl | hne
      · rw [← hlabel, given_singleton_self]
        simp
      · rw [given_singleton_of_ne (by simpa [hlabel] using hne)]
        simp [hne]

theorem eq_of_perm_of_length_le_one {α : Type} {first second : List α} (h : first.Perm second)
    (hlength : first.length ≤ 1) : first = second := by
  cases first with
  | nil => exact h.nil_eq
  | cons a rest =>
    obtain rfl : rest = [] := List.length_eq_zero_iff.1 (by simpa using hlength)
    exact List.singleton_perm.1 h

namespace Reordered

variable {first second : List Argument} (h : Reordered first second)

include h

theorem symm : Reordered second first := ⟨h.perm.symm, h.kept.symm⟩

theorem perm_words : (words first).Perm (words second) := by
  rw [words_eq_filterMap, words_eq_filterMap]
  exact h.perm.filterMap _

theorem perm_given (label : Label) : (given first label).Perm (given second label) := by
  rw [given_eq_filterMap, given_eq_filterMap]
  exact h.perm.filterMap _

/-- **Whether arguments are admitted does not depend on their order.** -/
theorem admits {signature : Signature} (hadmits : signature.Admits first) : signature.Admits second where
  known word hword := hadmits.known word (h.perm_words.mem_iff.2 hword)
  once := h.perm_words.nodup_iff.1 hadmits.once
  room := by
    rw [← h.kept]
    exact hadmits.room

/-- Whether their values can be read does not, either. -/
theorem accepts {read : Reader} (haccepts : ∀ argument ∈ first, read.Accepts argument.content) :
    ∀ argument ∈ second, read.Accepts argument.content := by
  intro argument hmem
  obtain ⟨same, hsame, htext⟩ := List.mem_map.1 (h.perm.mem_iff.2 (List.mem_map_of_mem hmem))
  have hcontent : same.content = argument.content := by rw [Argument.content, Argument.content, htext]
  rw [← hcontent]
  exact haccepts same hsame

/-- For a keyword that is used once there is no order. -/
theorem given_eq (honce : (words first).Nodup) (label : Label) : given first label = given second label := by
  cases label with
  | positional => exact h.kept
  | keyword word =>
    refine eq_of_perm_of_length_le_one (h.perm_given _) ?_
    rw [← count_words]
    exact List.nodup_iff_count_le_one.1 honce word

/-- **The call does not depend on the order** in which its arguments are given, if none is given twice. -/
theorem ofArguments_eq (read : Reader) (qualifier : String) (signature : Signature)
    (honce : (words first).Nodup) :
    Call.ofArguments read qualifier signature first = Call.ofArguments read qualifier signature second := by
  simp only [Call.ofArguments, h.given_eq honce]

end Reordered

/-- **Lists of the same arguments in another order** are bound to the same call. -/
theorem bindWith_eq_ok_of_reordered {read : Reader} (hread : read.Translates) {catalog : Catalog}
    {qualifier name : String} {raw other : List Char}
    (h : Reordered (ArgumentList.split raw) (ArgumentList.split other)) {call : Call}
    (hcall : bindWith catalog read 0 0 qualifier name raw = .ok call) :
    bindWith catalog read 0 0 qualifier name other = .ok call := by
  obtain ⟨signature, hlookup, hadmits, haccepts, rfl⟩ := (bindWith_eq_ok_iff_admits hread).1 hcall
  exact (bindWith_eq_ok_iff_admits hread).2
    ⟨signature, hlookup, h.admits hadmits, h.accepts haccepts, h.ofArguments_eq _ _ _ hadmits.once⟩

/-! ### Arguments that can be written anywhere -/

/-- **A text that is an argument wherever it is written**: it is not empty, has no blanks at its ends, and closes
what it opens, with no comma outside parentheses and quotes. -/
structure IsSelfContained (text : List Char) : Prop where
  /-- It would not be dropped at the end of a list. -/
  ne_nil : text ≠ []
  /-- Trimming leaves it alone. -/
  trim_eq : Text.trim text = text
  /-- It is not cut. -/
  meetsNoCut : outside.MeetsNoCut text
  /-- What stands behind it is not inside anything. -/
  walk_eq : outside.walk text = outside

instance (text : List Char) : Decidable (IsSelfContained text) :=
  decidable_of_iff
    (text ≠ [] ∧ Text.trim text = text ∧ outside.MeetsNoCut text ∧ outside.walk text = outside)
    ⟨fun h => ⟨h.1, h.2.1, h.2.2.1, h.2.2.2⟩, fun h => ⟨h.ne_nil, h.trim_eq, h.meetsNoCut, h.walk_eq⟩⟩

/-- Such texts are the arguments of the list they are joined to. -/
theorem ArgumentList.map_text_split_of_isSelfContained {texts : List (List Char)}
    (h : ∀ text ∈ texts, IsSelfContained text) :
    (split (separator.intercalate texts)).map (·.text) = texts := by
  refine map_text_split_intercalate (separable_iff.2 ⟨fun text hmem => (h text hmem).meetsNoCut,
    fun text hmem => (h text (List.dropLast_subset _ hmem)).walk_eq⟩) (fun text hmem => (h text hmem).trim_eq) ?_
  intro hlast
  exact (h [] (List.mem_of_getLast? hlast)).ne_nil rfl

/-- What is given for the positional slots are the arguments without a keyword. -/
theorem given_positional_eq_filter (arguments : List Argument) :
    given arguments .positional = (arguments.map (·.text)).filter fun text => (keyword? text).isNone := by
  rw [given_eq_filterMap, ← List.filterMap_eq_filter]
  congr 1
  funext text
  cases hkey : keyword? text <;> simp [Argument.label, Argument.content, Option.guard, hkey]

/-- Texts in another order are arguments in another order. -/
theorem reordered_split {texts others : List (List Char)} (htexts : ∀ text ∈ texts, IsSelfContained text)
    (hperm : texts.Perm others)
    (hkept : (texts.filter fun text => (keyword? text).isNone) =
      others.filter fun text => (keyword? text).isNone) :
    Reordered (ArgumentList.split (ArgumentList.separator.intercalate texts))
      (ArgumentList.split (ArgumentList.separator.intercalate others)) := by
  have hothers : ∀ text ∈ others, IsSelfContained text := fun text hmem => htexts text (hperm.mem_iff.2 hmem)
  refine ⟨?_, ?_⟩
  · rwa [ArgumentList.map_text_split_of_isSelfContained htexts,
      ArgumentList.map_text_split_of_isSelfContained hothers]
  · rwa [given_positional_eq_filter, given_positional_eq_filter,
      ArgumentList.map_text_split_of_isSelfContained htexts,
      ArgumentList.map_text_split_of_isSelfContained hothers]

namespace Dialect

/-- **It does not matter where keywords are written.** Arguments that can be written anywhere are joined in two
orders, with those without a keyword in the same one. Then both lists are bound to the same call, or both have an
error. -/
theorem bind_reordered (dialect : Dialect) (qualifier name : String) {texts others : List String}
    (htexts : ∀ text ∈ texts, IsSelfContained text.toList) (hperm : texts.Perm others)
    (hkept : (texts.filter fun text => (keyword? text.toList).isNone) =
      others.filter fun text => (keyword? text.toList).isNone) :
    (∃ call, dialect.bind qualifier name (", ".intercalate texts) = .ok call ∧
        dialect.bind qualifier name (", ".intercalate others) = .ok call) ∨
      ((∃ error, dialect.bind qualifier name (", ".intercalate texts) = .error error) ∧
        ∃ error, dialect.bind qualifier name (", ".intercalate others) = .error error) := by
  have hbind (list : List String) : dialect.bind qualifier name (", ".intercalate list) =
      bindWith dialect.catalog dialect.values 0 0 qualifier name
        (ArgumentList.separator.intercalate (list.map String.toList)) := by
    rw [bind, String.toList_intercalate]
    rfl
  have hreordered : Reordered
      (ArgumentList.split (ArgumentList.separator.intercalate (texts.map String.toList)))
      (ArgumentList.split (ArgumentList.separator.intercalate (others.map String.toList))) := by
    refine reordered_split (List.forall_mem_map.2 htexts) (hperm.map _) ?_
    rw [List.filter_map, List.filter_map]
    exact congrArg _ hkept
  have hread := dialect.values_translates
  rw [hbind, hbind]
  cases hfirst : bindWith dialect.catalog dialect.values 0 0 qualifier name
      (ArgumentList.separator.intercalate (texts.map String.toList)) with
  | ok call => exact .inl ⟨call, rfl, bindWith_eq_ok_of_reordered hread hreordered hfirst⟩
  | error error =>
    cases hsecond : bindWith dialect.catalog dialect.values 0 0 qualifier name
        (ArgumentList.separator.intercalate (others.map String.toList)) with
    | ok call =>
      have hback := bindWith_eq_ok_of_reordered hread hreordered.symm hsecond
      rw [hfirst] at hback
      cases hback
    | error other => exact .inr ⟨⟨error, rfl⟩, other, rfl⟩

/-- A keyword behind the other arguments and in front of them, with a comma in quotes and one in parentheses. -/
theorem bind_reordered_joining :
    ["{{a}}", "f(x, y)", "by='-,'"].Perm ["by='-,'", "{{a}}", "f(x, y)"] ∧
      ∃ call, joining.bind "text" "join" (", ".intercalate ["{{a}}", "f(x, y)", "by='-,'"]) = .ok call ∧
        joining.bind "text" "join" (", ".intercalate ["by='-,'", "{{a}}", "f(x, y)"]) = .ok call := by
  have hperm : ["{{a}}", "f(x, y)", "by='-,'"].Perm ["by='-,'", "{{a}}", "f(x, y)"] := by decide
  have hbound : joining.bind "text" "join" (", ".intercalate ["{{a}}", "f(x, y)", "by='-,'"]) =
      .ok ⟨"text", joinMethod, [⟨.positional, "string", some [.variable "a"]⟩,
        ⟨.positional, "string", some [.text "f(x, y)"]⟩, ⟨.keyword "by", "string", some [.text "'-,'"]⟩]⟩ := by
    cbv
  refine ⟨hperm, ?_⟩
  rcases bind_reordered joining "text" "join" (by decide) hperm (by decide) with hcall | ⟨⟨error, herror⟩, -⟩
  · exact hcall
  · rw [hbound] at herror
    cases herror

end Dialect

end Interpolation
