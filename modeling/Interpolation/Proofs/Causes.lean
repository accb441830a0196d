import Interpolation.Proofs.FixedPoint
import Interpolation.Proofs.Limits
import Interpolation.Proofs.Places
import Interpolation.Proofs.Verdict

/-!
# Errors and their causes

Every error points at its cause: at its offset in the outermost text there stands what shows the fault
(`Interpolation.Fault.ShownBy`), however deep the call is in which it was found
(`Interpolation.Dialect.scan_error_shows`).

An error is either found in the text at hand or handed up from the value of an argument
(`Interpolation.ParseError.Traces`). Both cases name a part of the text, and a part of a part is a part, so
the two cases go from an argument to its call, from the call to its span and from the span to the text
without looking at the fault again (`Interpolation.ParseError.Traces.of_part`). A value is always shorter
than the text around it.
-/

namespace Interpolation

open Text (StandsAt)

/-! ### What shows a fault -/

/-- **What shows a fault** at the offset of the error. The limit is the one that an error about nesting
names. -/
def Fault.ShownBy (catalog : Catalog) (limit : Nat) (part : List Char) : Fault → Prop
  | .unmatchedBraces => part = ['{', '{']
  | .emptyInterpolation => part = ['{', '{']
  | .unknownMethod qualifier name =>
    part = qualifier.toList ++ '.' :: name.toList ++ ['('] ∧ catalog.lookup qualifier name = none
  | .unknownKeyword name => part = name.toList ++ ['=']
  | .duplicateKeyword name => part = name.toList ++ ['=']
  | .tooManyPositional _ _ => ∃ c, part = [c] ∧ Text.isBlank c = false
  | .tooDeeplyNested named => (∃ c, part = [c]) ∧ named = limit

/-- **An error points at its cause** in a text. -/
def ParseError.PointsInto (catalog : Catalog) (limit : Nat) (s : List Char) (error : ParseError) : Prop :=
  ∃ part, StandsAt part error.offset s ∧ error.fault.ShownBy catalog limit part

/-- An error that points into a part of a text points into the text, further on. -/
theorem ParseError.PointsInto.shift {catalog : Catalog} {limit : Nat} {part s : List Char} {offset : Nat}
    {error : ParseError} (h : error.PointsInto catalog limit part) (hpart : StandsAt part offset s) :
    (error.shift offset).PointsInto catalog limit s := by
  obtain ⟨shown, hplace, hshown⟩ := h
  exact ⟨shown, hplace.trans hpart, hshown⟩

/-! ### Where an error comes from -/

/-- **Where an error in a text comes from** that starts at the given offset. -/
inductive ParseError.Traces (catalog : Catalog) (limit : Nat) (read : Reader) (s : List Char) (start : Nat) :
    ParseError → Prop
  /-- It was found in the text itself. -/
  | here {part : List Char} {offset : Nat} {fault : Fault} :
    StandsAt part offset s → fault.ShownBy catalog limit part → ¬fault.IsTooDeep →
    Traces catalog limit read s start ⟨fault, start + offset⟩
  /-- It was found when a part of the text was read, the value of an argument. -/
  | value {content : List Char} {offset : Nat} {error : ParseError} :
    StandsAt content offset s → Text.width content < Text.width s → Text.isBlankText content = false →
    read 0 content = .error error →
    Traces catalog limit read s start (error.shift (start + offset))

section Tracing

variable {catalog : Catalog} {limit : Nat} {read : Reader} {s : List Char} {start : Nat} {error : ParseError}

/-- What comes from a part of a text comes from the text. -/
theorem ParseError.Traces.of_part {part : List Char} {offset : Nat} (hpart : StandsAt part offset s)
    (h : error.Traces catalog limit read part (start + offset)) :
    error.Traces catalog limit read s start := by
  have hwidth := hpart.width_le
  cases h with
  | here hplace hshown hdeep =>
    rw [Nat.add_assoc]
    exact .here (hplace.trans hpart) hshown hdeep
  | value hplace hless hblank hvalue =>
    rw [Nat.add_assoc]
    exact .value (hplace.trans hpart) (by omega) hblank hvalue

variable (hread : read.Translates)

include hread

/-- **The error of an argument that is refused** comes from the argument or from its value. -/
theorem Signature.Refuses.traces {head : CallHead} (hhead : CallHead.read? s = some head)
    {signature : Signature} {qualifier name : String} {before : List Argument} {argument : Argument}
    (hmem : argument ∈ ArgumentList.split head.arguments)
    (h : signature.Refuses read qualifier name (start + head.width) before argument error) :
    error.Traces catalog limit read s start := by
  have hlist := CallHead.standsAt_arguments hhead
  have hmark := (argument.standsAt_mark hmem).trans hlist
  have hkeyword {word : String} (hlabel : argument.label = .keyword word) :
      StandsAt (word.toList ++ ['=']) (head.width + argument.offset) s := by
    rwa [hlabel, Label.mark_keyword] at hmark
  cases h with
  | unknown hlabel _ =>
    rw [Nat.add_assoc]
    exact .here (hkeyword hlabel) rfl (by simp [Fault.IsTooDeep])
  | again hlabel _ _ =>
    rw [Nat.add_assoc]
    exact .here (hkeyword hlabel) rfl (by simp [Fault.IsTooDeep])
  | surplus _ _ =>
    obtain ⟨c, hblank, hplace⟩ := ArgumentList.exists_standsAt_of_mem_split hmem
    rw [Nat.add_assoc]
    exact .here (hplace.trans hlist) ⟨c, rfl, hblank⟩ (by simp [Fault.IsTooDeep])
  | value _ hblank hvalue =>
    have hcontent := (argument.standsAt_content hmem).trans hlist
    have hwidth := hcontent.width_le
    have hhead : 0 < head.width := Nat.lt_add_left _ (by decide)
    rw [Nat.add_assoc] at hvalue
    obtain ⟨inner, hinner, rfl⟩ := (hread.eq_error_iff _).1 hvalue
    exact .value hcontent (by omega) hblank hinner

/-- The error of a call comes from the call. -/
theorem traces_of_bindWith {head : CallHead} (hhead : CallHead.read? s = some head)
    (h : bindWith catalog read start (start + head.width) (String.ofList head.qualifier)
      (String.ofList head.name) head.arguments = .error error) : error.Traces catalog limit read s start := by
  rcases (bindWith_eq_error_iff hread).1 h with ⟨hnone, rfl⟩ |
    ⟨signature, -, before, refused, after, hsplit, -, -, hrefuses⟩
  · refine .here (CallHead.standsAt_text hhead) ⟨?_, hnone⟩ (by simp [Fault.IsTooDeep])
    rw [String.toList_ofList, String.toList_ofList]
    rfl
  · exact hrefuses.traces hread hhead (by simp [hsplit])

/-- The error of a piece comes from the piece. -/
theorem PieceFails.traces {piece : Piece} (h : PieceFails catalog read start piece error) :
    error.Traces catalog limit read piece.source start := by
  cases piece with
  | text content => exact h.elim
  | unclosed behind =>
    obtain rfl : error = ⟨.unmatchedBraces, start⟩ := h
    have hopening : StandsAt ['{', '{'] 0 (Piece.unclosed behind).source := .first _ behind
    exact .here hopening rfl (by simp [Fault.IsTooDeep])
  | span inner =>
    cases h with
    | blank hempty => exact .here (Brace.standsAt_opening inner) rfl (by simp [Fault.IsTooDeep])
    | @call head error hhead hbind =>
      refine .of_part (Brace.standsAt_inner inner) (.of_part (Text.standsAt_trim inner) ?_)
      exact traces_of_bindWith hread hhead hbind

variable (limit) in
/-- **The error of a text** comes from the text or from the value of an argument in it. -/
theorem traces_of_scanWith (h : scanWith catalog read start s = .error error) :
    error.Traces catalog limit read s start := by
  obtain ⟨before, piece, after, hcut, -, hfails⟩ := (scanWith_eq_error_iff hread).1 h
  exact .of_part (Piece.standsAt_source hcut) (hfails.traces hread)

end Tracing

/-! ### At any depth -/

/-- **Errors point at their causes**, at every level. -/
theorem readWithin_pointsInto (catalog : Catalog) (limit levels : Nat) {s : List Char} (hs : s ≠ [])
    {error : ParseError} (h : readWithin catalog limit levels 0 s = .error error) :
    error.PointsInto catalog limit s := by
  induction levels generalizing s error with
  | zero =>
    obtain ⟨c, rest, rfl⟩ := List.exists_cons_of_ne_nil hs
    cases h
    exact ⟨[c], .first _ rest, ⟨c, rfl⟩, rfl⟩
  | succ levels ih =>
    have hread := readWithin_translates catalog limit levels
    cases traces_of_scanWith limit hread h with
    | here hplace hshown _ => exact ⟨_, by rwa [Nat.zero_add], hshown⟩
    | @value content _ _ hplace _ hblank hvalue =>
      have hne : content ≠ [] := by
        rintro rfl
        simp [Text.isBlankText] at hblank
      rw [Nat.zero_add]
      exact (ih hne hvalue).shift hplace

namespace Dialect

/-- **Every error points at its cause**: its offset cuts the text in two, and the second half starts with what
shows the fault. -/
theorem scan_error_shows (dialect : Dialect) {text : String} {error : ParseError}
    (h : dialect.scan text = .error error) :
    error.offset ≤ text.utf8ByteSize ∧
      ∃ before behind : String, text = before ++ behind ∧ before.utf8ByteSize = error.offset ∧
        ∃ part, part <+: behind.toList ∧ error.fault.ShownBy dialect.catalog dialect.maxDepth part := by
  have hne : text.toList ≠ [] := by
    intro hempty
    rw [scan_eq, hempty, (scanWith_eq_ok_iff dialect.values_translates).2 (Or.inl ⟨rfl, rfl⟩)] at h
    cases h
  obtain ⟨part, ⟨before, behind, htext, hoffset⟩, hshown⟩ :=
    readWithin_pointsInto dialect.catalog dialect.maxDepth (dialect.maxDepth + 1) hne h
  have hbefore : (String.ofList before).utf8ByteSize = error.offset := by
    rw [← Text.width_toList, String.toList_ofList, hoffset]
  have hcut : text = String.ofList before ++ String.ofList (part ++ behind) := by
    rw [← String.ofList_append, ← List.append_assoc, ← htext, String.ofList_toList]
  refine ⟨?_, _, _, hcut, hbefore, part, by simp, hshown⟩
  rw [hcut, String.utf8ByteSize_append, hbefore]
  exact Nat.le_add_right _ _

/-- Behind a letter of two bytes, the surplus argument of a call in a call: where it should be there is a
comma. -/
theorem scan_error_shows_joining :
    joining.scan "é {{ text.join(by={{ text.join(a, b, , c) }}) }}" =
        .error ⟨.tooManyPositional "text" "join", 38⟩ ∧
      ∃ before behind : String, "é {{ text.join(by={{ text.join(a, b, , c) }}) }}" = before ++ behind ∧
        before.utf8ByteSize = 38 ∧
          ∃ part, part <+: behind.toList ∧ ∃ c, part = [c] ∧ Text.isBlank c = false := by
  have hscan : joining.scan "é {{ text.join(by={{ text.join(a, b, , c) }}) }}" =
      .error ⟨.tooManyPositional "text" "join", 38⟩ := by cbv
  exact ⟨hscan, (scan_error_shows joining hscan).2⟩

end Dialect

end Interpolation
