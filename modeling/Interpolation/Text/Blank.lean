import Interpolation.Text.Ranges

/-!
# Blank characters and trimming

A *blank* is a character with the Unicode property `White_Space` (`Interpolation.Text.isBlank`): the ASCII
blanks, the next-line control, the no-break space and the typographic spaces, but neither the zero-width space
nor the byte order mark. Trimming drops blanks from the ends of a text (`trimStart`, `trimEnd`, `trim`), and a text of
blanks alone is what the formula language calls empty (`isBlankText`).

Trimming only cuts at the ends: `trimStart` splits its text in two (`leading_append_trimStart`), and so does
`trimEnd` (`trimEnd_append_trailing`).
-/

namespace Interpolation.Text

/-- The code points with the property `White_Space`. -/
def blanks : Ranges := [
  (0x9, 0xd), (0x20, 0x20), (0x85, 0x85), (0xa0, 0xa0), (0x1680, 0x1680), (0x2000, 0x200a),
  (0x2028, 0x2029), (0x202f, 0x202f), (0x205f, 0x205f), (0x3000, 0x3000)]

/-- Whether a character is white space. -/
def isBlank (c : Char) : Bool := blanks.contains c

/-- Whether a text has no character but blanks. -/
def isBlankText (s : List Char) : Bool := s.all isBlank

/-- The blanks that a text starts with. -/
def leading (s : List Char) : List Char := s.takeWhile isBlank

/-- A text without the blanks it starts with. -/
def trimStart (s : List Char) : List Char := s.dropWhile isBlank

/-- A text without the blanks it ends with. -/
def trimEnd : List Char → List Char
  | [] => []
  | c :: rest =>
    match trimEnd rest with
    | [] => if isBlank c then [] else [c]
    | kept => c :: kept

/-- A text without the blanks at its two ends. -/
def trim (s : List Char) : List Char := trimEnd (trimStart s)

theorem leading_append_trimStart (s : List Char) : leading s ++ trimStart s = s :=
  List.takeWhile_append_dropWhile

/-- What `trimEnd` drops is blank. -/
theorem trimEnd_append_trailing (s : List Char) :
    ∃ trailing, isBlankText trailing ∧ s = trimEnd s ++ trailing := by
  induction s with
  | nil => exact ⟨[], rfl, rfl⟩
  | cons c rest ih =>
    obtain ⟨trailing, blank, eq⟩ := ih
    unfold trimEnd
    split
    · rename_i none_kept
      rw [none_kept, List.nil_append] at eq
      by_cases hc : isBlank c
      · exact ⟨c :: rest, by simp_all [isBlankText], by simp [hc]⟩
      · exact ⟨rest, by simp_all, by simp [hc]⟩
    · exact ⟨trailing, blank, by rw [List.cons_append, ← eq]⟩

/-- Trimming leaves nothing exactly when there is nothing but blanks. -/
theorem trim_eq_nil_iff (s : List Char) : trim s = [] ↔ isBlankText s := by
  have ends (r : List Char) : trimEnd r = [] ↔ isBlankText r := by
    induction r with
    | nil => simp [trimEnd, isBlankText]
    | cons c rest ih =>
      unfold trimEnd
      split
      · rename_i none_kept
        have := ih.1 none_kept
        by_cases hc : isBlank c <;> simp_all [isBlankText]
      · rename_i some_kept
        simp_all [isBlankText]
  rw [trim, ends]
  induction s with
  | nil => rfl
  | cons c rest ih =>
    by_cases hc : isBlank c <;> simp_all [trimStart, isBlankText]

end Interpolation.Text
