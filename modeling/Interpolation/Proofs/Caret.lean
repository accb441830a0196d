import Interpolation.Proofs.Lines
import Interpolation.Proofs.Causes

/-!
# The caret of a report

The report on an error quotes the line of the text in which the error is and puts a caret below it. It is read
line by line, so nothing in it may start a line of its own. The quoted line has no line feed, and neither has
the message: a fault names what was written as a name (`Interpolation.Fault.NamesWritten`), and only words,
hyphens and numbers are ever put into it.

With five lines at hand the caret is a matter of counting. The number of the line and the blanks that stand
below it have one length, whatever the number is, so that the caret has in front of it as much as the rest of
the quoted line from the offset on (`Interpolation.ParseError.hasCaret_report`).
-/

namespace Interpolation

/-! ### Numbers and blanks -/

theorem notMem_toDigits (n : Nat) : '\n' ∉ Nat.toDigits 10 n := fun hmem =>
  Bool.false_ne_true (Nat.isDigit_of_mem_toDigits (by decide) (by decide) hmem)

theorem toList_pushn_empty (c : Char) (n : Nat) : ("".pushn c n).toList = List.replicate n c := by
  rw [String.pushn_eq_repeat_push]
  induction n with
  | zero => rfl
  | succ n ih => rw [Nat.repeat, String.toList_push, ih, ← List.replicate_succ']

/-! ### Faults in words -/

/-- **A fault names what was written as a name**: words, and the names of methods. -/
def Fault.NamesWritten : Fault → Prop
  | .unknownMethod qualifier name => isWord qualifier.toList = true ∧ isMethodName name.toList = true
  | .tooManyPositional qualifier name => isWord qualifier.toList = true ∧ isMethodName name.toList = true
  | .unknownKeyword word => isWord word.toList = true
  | .duplicateKeyword word => isWord word.toList = true
  | .unmatchedBraces | .emptyInterpolation | .tooDeeplyNested _ => True

theorem notMem_of_isMethodName {name : List Char} (h : isMethodName name = true) : '\n' ∉ name := fun hmem =>
  absurd (isNameChar_of_isMethodName h _ hmem) (by decide)

theorem notMem_of_isWord {word : List Char} (h : isWord word = true) : '\n' ∉ word := fun hmem =>
  absurd ((isWord_iff.1 h).2 _ hmem) (by decide)

/-- **A message is one line** when names are all that is named in it. -/
theorem Fault.NamesWritten.notMem_message {fault : Fault} (h : fault.NamesWritten) :
    '\n' ∉ fault.message.toList := by
  -- The equations of single cases are slow to come by, with literals on their right sides.
  unfold Fault.message
  cases fault with
  | unmatchedBraces => simp
  | emptyInterpolation => simp
  | unknownMethod qualifier name => simp [notMem_of_isWord h.1, notMem_of_isMethodName h.2]
  | unknownKeyword word => simp [notMem_of_isWord h]
  | duplicateKeyword word => simp [notMem_of_isWord h]
  | tooManyPositional qualifier name => simp [notMem_of_isWord h.1, notMem_of_isMethodName h.2]
  | tooDeeplyNested limit => simp [notMem_toDigits]

section Written

variable {catalog : Catalog} {read : Reader} {offset : Nat} {error : ParseError} (hread : read.Translates)
  (hvalues : ∀ content error, read 0 content = .error error → error.fault.NamesWritten)

theorem Argument.isWord_of_label {argument : Argument} {word : String} (h : argument.label = .keyword word) :
    isWord word.toList = true := by
  have hwritable := argument.takes.isWritable
  rwa [h] at hwritable

include hread hvalues

theorem Signature.Refuses.namesWritten {signature : Signature} {qualifier name : String}
    {before : List Argument} {argument : Argument} (hqualifier : isWord qualifier.toList = true)
    (hname : isMethodName name.toList = true)
    (h : signature.Refuses read qualifier name offset before argument error) : error.fault.NamesWritten := by
  cases h with
  | unknown hlabel _ => exact Argument.isWord_of_label hlabel
  | again hlabel _ _ => exact Argument.isWord_of_label hlabel
  | surplus _ _ => exact ⟨hqualifier, hname⟩
  | value _ _ hvalue =>
    obtain ⟨inner, hinner, rfl⟩ := (hread.eq_error_iff _).1 hvalue
    exact hvalues _ inner hinner

theorem PieceFails.namesWritten {piece : Piece} (h : PieceFails catalog read offset piece error) :
    error.fault.NamesWritten := by
  cases piece with
  | text content => exact h.elim
  | unclosed behind =>
    obtain rfl : error = ⟨.unmatchedBraces, offset⟩ := h
    trivial
  | span inner =>
    cases h with
    | blank _ => trivial
    | @call head error hhead hbind =>
      obtain ⟨-, hqualifier, hname⟩ := CallHead.read?_eq_some_iff.1 hhead
      rw [← String.toList_ofList (l := head.qualifier)] at hqualifier
      rw [← String.toList_ofList (l := head.name)] at hname
      rcases (bindWith_eq_error_iff hread).1 hbind with ⟨-, rfl⟩ | ⟨_, -, _, _, _, -, -, -, hrefuses⟩
      · exact ⟨hqualifier, hname⟩
      · exact hrefuses.namesWritten hread hvalues hqualifier hname

end Written

/-- **Faults name what was written as a name**, at every level. -/
theorem readWithin_namesWritten (catalog : Catalog) (limit levels : Nat) {s : List Char} {error : ParseError}
    (h : readWithin catalog limit levels 0 s = .error error) : error.fault.NamesWritten := by
  induction levels generalizing s error with
  | zero =>
    cases h
    trivial
  | succ levels ih =>
    have hread := readWithin_translates catalog limit levels
    obtain ⟨before, piece, after, -, -, hfails⟩ := (scanWith_eq_error_iff hread).1 h
    exact hfails.namesWritten hread fun _ _ hvalue => ih hvalue

/-! ### Five lines -/

/-- **Lines have their caret under a place**: there are five of them, the fourth ends in the line of the place
and the fifth in the caret, and the caret has as much in front of it as the given rest of that line has. -/
def HasCaret (lines : List (List Char)) (place : Text.Location) (rest : List Char) : Prop :=
  ∃ first second third lead front gap, lines = [first, second, third, lead ++ place.text, gap ++ ['^']] ∧
    '^' ∉ gap ∧ place.text = front ++ rest ∧ gap.length = (lead ++ front).length

/-- The lines of a report are the ones that it is put together from. -/
theorem ParseError.splitOn_report {error : ParseError} (h : error.fault.NamesWritten) (text : String) :
    (error.report text false).toList.splitOn '\n' =
      (error.reportLines text false).map String.toList := by
  have hline := (Text.locate_points text.toList error.offset).notMem
  have hfeed : "\n".toList = ['\n'] := rfl
  rw [report, String.toList_intercalate, hfeed]
  refine List.splitOn_intercalate _ ?_ ?_
  · intro line hmem
    obtain ⟨shown, hshown, rfl⟩ := List.mem_map.1 hmem
    simp only [reportLines, Style.paint, Bool.false_eq_true, if_false, List.mem_cons, List.not_mem_nil,
      or_false] at hshown
    rcases hshown with rfl | rfl | rfl | rfl | rfl
    · simp [h.notMem_message]
    · simp [toList_pushn_empty, notMem_toDigits]
    · simp [toList_pushn_empty]
    · simp [notMem_toDigits, hline]
    · simp [toList_pushn_empty]
  · simp [reportLines]

/-- **A report has its caret under the place of its error.** -/
theorem ParseError.hasCaret_report {error : ParseError} (h : error.fault.NamesWritten) (text : String) :
    HasCaret ((error.report text false).toList.splitOn '\n') (Text.locate text.toList error.offset)
      ((Text.cutAt text.toList error.offset).2.takeWhile (· ≠ '\n')) := by
  rw [splitOn_report h, ← Text.drop_text_locate]
  have hcolumn := (Text.locate_points text.toList error.offset).column_le
  simp only [reportLines, Style.paint, Bool.false_eq_true, if_false]
  generalize Text.locate text.toList error.offset = place at hcolumn ⊢
  have hfourth : (toString place.line ++ " " ++ "|" ++ " " ++ String.ofList place.text).toList =
      (toString place.line).toList ++ " | ".toList ++ place.text := by simp
  have hfifth : ("".pushn ' ' (toString place.line).length ++ " " ++ "|" ++ " "
      ++ "".pushn ' ' (place.column - 1) ++ "^").toList =
      List.replicate (toString place.line).length ' ' ++ " | ".toList
        ++ List.replicate (place.column - 1) ' ' ++ ['^'] := by simp [toList_pushn_empty]
  rw [List.map_cons, List.map_cons, List.map_cons, List.map_cons, List.map_singleton, hfourth, hfifth]
  refine ⟨_, _, _, _, _, _, rfl, ?_, (List.take_append_drop (place.column - 1) _).symm, ?_⟩
  · simp
  · simp only [List.length_append, List.length_replicate, List.length_take, String.length_toList]
    omega

namespace Dialect

/-- **The caret stands under the character at the offset of the error.** The offset of every error is between
two characters or at an end of the text, the report has five lines, and the caret is below the character behind
the offset, or just behind the line where that has an end there. For every offset whatever, the place that is
shown is the one of the greatest boundary that is not past the offset. -/
theorem caret_under :
    (∀ (source : String) (offset : Nat), ∃ bytes,
      IsGreatest {b | Text.IsBoundary source.toList b ∧ b ≤ min offset source.utf8ByteSize} bytes ∧
        (Text.locate source.toList offset).Points source.toList bytes) ∧
    ∀ (dialect : Dialect) (text : String) (error : ParseError), dialect.scan text = .error error →
      ∃ before behind : String, text = before ++ behind ∧ before.utf8ByteSize = error.offset ∧
        HasCaret ((error.report text false).toList.splitOn '\n') (Text.locate text.toList error.offset)
          (behind.toList.takeWhile (· ≠ '\n')) := by
  refine ⟨fun source offset => ⟨_, ?_, Text.locate_points _ _⟩, fun dialect text error h => ?_⟩
  · rw [← Text.width_toList]
    exact Text.isGreatest_cutAt _ _
  · have hne : text.toList ≠ [] := by
      intro hempty
      rw [scan_eq, hempty, (scanWith_eq_ok_iff dialect.values_translates).2 (Or.inl ⟨rfl, rfl⟩)] at h
      cases h
    obtain ⟨part, ⟨before, behind, htext, hoffset⟩, -⟩ :=
      readWithin_pointsInto dialect.catalog dialect.maxDepth (dialect.maxDepth + 1) hne h
    rw [List.append_assoc] at htext
    have hcaret := ParseError.hasCaret_report (readWithin_namesWritten _ _ _ h) text
    rw [htext, ← hoffset, Text.cutAt_append_width, ← htext, hoffset] at hcaret
    refine ⟨String.ofList before, String.ofList (part ++ behind), ?_, ?_, ?_⟩
    · rw [← String.ofList_append, ← htext, String.ofList_toList]
    · rw [← Text.width_toList, String.toList_ofList, hoffset]
    · rwa [String.toList_ofList]

/-- On the second line, behind a letter of two bytes. -/
theorem caret_under_joining :
    joining.scan "a\nü{{ }} b" = .error ⟨.emptyInterpolation, 4⟩ ∧
      ∃ before behind : String, "a\nü{{ }} b" = before ++ behind ∧ before.utf8ByteSize = 4 ∧
        HasCaret ((ParseError.report ⟨.emptyInterpolation, 4⟩ "a\nü{{ }} b" false).toList.splitOn '\n')
          (Text.locate "a\nü{{ }} b".toList 4) (behind.toList.takeWhile (· ≠ '\n')) := by
  have hscan : joining.scan "a\nü{{ }} b" = .error ⟨.emptyInterpolation, 4⟩ := by cbv
  exact ⟨hscan, caret_under.2 joining _ _ hscan⟩

example : ParseError.reportLines ⟨.emptyInterpolation, 4⟩ "a\nü{{ }} b" false =
    ["error: empty interpolation `{{}}`", "  --> line 2, col 2", "  |", "2 | ü{{ }} b",
      "  |  ^"] := by decide +kernel

end Dialect

end Interpolation
