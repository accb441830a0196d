import Interpolation.Text.Blank
import Mathlib.Data.List.Basic

/-!
# What trimming leaves

Trimming cuts a text into three, two runs of blanks and what stands between them
(`Interpolation.Text.exists_trim_eq`), and what is left has no blank at either end. Those two facts determine
the cut: a text without blanks at its ends is what is left of it between any blanks
(`Interpolation.Text.trim_append_append`), and it is the only kind of text that trimming leaves alone
(`Interpolation.Text.trim_eq_self_iff`).
-/

namespace Interpolation.Text

/-- The text does not start with a blank. -/
def StartsSolid (s : List Char) : Prop := ∀ c, s.head? = some c → isBlank c = false

/-- The text does not end with a blank. -/
def EndsSolid (s : List Char) : Prop := ∀ c, s.getLast? = some c → isBlank c = false

theorem isBlankText_cons {c : Char} {s : List Char} :
    isBlankText (c :: s) = true ↔ isBlank c = true ∧ isBlankText s = true := by
  simp [isBlankText]

theorem isBlankText_append {s t : List Char} :
    isBlankText (s ++ t) = true ↔ isBlankText s = true ∧ isBlankText t = true := by
  simp [isBlankText]

/-- A text of blanks that does not start with one is empty. -/
theorem eq_nil_of_isBlankText {s : List Char} (hblank : isBlankText s = true) (hs : StartsSolid s) :
    s = [] := by
  cases s with
  | nil => rfl
  | cons c s =>
    have hc := (isBlankText_cons.1 hblank).1
    rw [hs c rfl] at hc
    simp at hc

/-! ### The beginning -/

theorem trimStart_blank_append {w : List Char} (hw : isBlankText w = true) (s : List Char) :
    trimStart (w ++ s) = trimStart s := by
  induction w with
  | nil => rfl
  | cons c w ih =>
    obtain ⟨hc, hw⟩ := isBlankText_cons.1 hw
    rw [List.cons_append, trimStart, List.dropWhile_cons_of_pos hc]
    exact ih hw

theorem trimStart_eq_self {s : List Char} (h : StartsSolid s) : trimStart s = s := by
  cases s with
  | nil => rfl
  | cons c s => rw [trimStart, List.dropWhile_cons_of_neg (by simp [h c rfl])]

theorem startsSolid_trimStart (s : List Char) : StartsSolid (trimStart s) := by
  intro c hc
  have := List.head?_dropWhile_not isBlank s
  rw [trimStart] at hc
  simpa [hc] using this

/-- What is dropped in front is blank. -/
theorem isBlankText_leading (s : List Char) : isBlankText (leading s) = true :=
  List.all_takeWhile

/-! ### The end -/

theorem trimEnd_blank {w : List Char} (hw : isBlankText w = true) : trimEnd w = [] := by
  induction w with
  | nil => rfl
  | cons c w ih =>
    obtain ⟨hc, hw⟩ := isBlankText_cons.1 hw
    rw [trimEnd, ih hw]
    simp [hc]

theorem trimEnd_append_blank {w : List Char} (hw : isBlankText w = true) (s : List Char) :
    trimEnd (s ++ w) = trimEnd s := by
  induction s with
  | nil => exact trimEnd_blank hw
  | cons c s ih => rw [List.cons_append, trimEnd, trimEnd, ih]

theorem endsSolid_trimEnd (s : List Char) : EndsSolid (trimEnd s) := by
  induction s with
  | nil => simp [EndsSolid, trimEnd]
  | cons c s ih =>
    rw [trimEnd]
    split
    · rename_i hrest
      intro d hd
      by_cases hc : isBlank c
      · simp [hc] at hd
      · obtain rfl : c = d := by simpa [hc] using hd
        simpa using hc
    · rename_i hrest
      intro d hd
      rw [List.getLast?_cons_of_ne_nil hrest] at hd
      exact ih d hd

theorem trimEnd_eq_self {s : List Char} (h : EndsSolid s) : trimEnd s = s := by
  obtain ⟨w, hw, heq⟩ := trimEnd_append_trailing s
  rcases List.eq_nil_or_concat w with rfl | ⟨w, c, rfl⟩
  · simpa using heq.symm
  · have hc := h c (by rw [heq]; simp)
    simp [isBlankText_append, isBlankText_cons, hc] at hw

/-! ### Both ends -/

theorem endsSolid_trim (s : List Char) : EndsSolid (trim s) := endsSolid_trimEnd _

theorem startsSolid_trim (s : List Char) : StartsSolid (trim s) := by
  intro c hc
  obtain ⟨w, -, heq⟩ := trimEnd_append_trailing (trimStart s)
  refine startsSolid_trimStart s c ?_
  rw [heq, List.head?_append]
  rw [trim] at hc
  rw [hc]
  rfl

/-- What trimming leaves stands between the blanks in front and others. -/
theorem exists_eq_leading_append_trim (s : List Char) :
    ∃ w, isBlankText w = true ∧ s = leading s ++ trim s ++ w := by
  obtain ⟨w, hw, heq⟩ := trimEnd_append_trailing (trimStart s)
  refine ⟨w, hw, ?_⟩
  rw [trim, List.append_assoc, ← heq, leading_append_trimStart]

/-- **Trimming cuts a text in three**, the outer two of which are blank. -/
theorem exists_trim_eq (s : List Char) :
    ∃ w w', isBlankText w = true ∧ isBlankText w' = true ∧ s = w ++ trim s ++ w' := by
  obtain ⟨w', hw', heq⟩ := exists_eq_leading_append_trim s
  exact ⟨leading s, w', isBlankText_leading s, hw', heq⟩

/-- **Blanks around a text without blanks at its ends** are what trimming drops. -/
theorem trim_append_append {w s v : List Char} (hw : isBlankText w = true) (hv : isBlankText v = true)
    (hstart : StartsSolid s) (hend : EndsSolid s) : trim (w ++ s ++ v) = s := by
  rw [trim, List.append_assoc, trimStart_blank_append hw]
  -- With nothing in between, the two runs of blanks are one.
  rcases eq_or_ne s [] with rfl | hne
  · rw [List.nil_append, ← trim]
    exact (trim_eq_nil_iff v).2 hv
  · rw [trimStart_eq_self, trimEnd_append_blank hv, trimEnd_eq_self hend]
    intro c hc
    rw [List.head?_append_of_ne_nil _ hne] at hc
    exact hstart c hc

/-- Trimming leaves a text alone exactly when neither end is blank. -/
theorem trim_eq_self_iff {s : List Char} : trim s = s ↔ StartsSolid s ∧ EndsSolid s := by
  constructor
  · intro h
    have hstart := startsSolid_trim s
    have hend := endsSolid_trim s
    rw [h] at hstart hend
    exact ⟨hstart, hend⟩
  · rintro ⟨hstart, hend⟩
    simpa using trim_append_append (w := []) (v := []) rfl rfl hstart hend

theorem trimEnd_eq_self_iff {s : List Char} : trimEnd s = s ↔ EndsSolid s := by
  refine ⟨fun h => ?_, trimEnd_eq_self⟩
  have := endsSolid_trimEnd s
  rwa [h] at this

theorem StartsSolid.of_append {s t : List Char} (h : StartsSolid (s ++ t)) : StartsSolid s := by
  intro c hc
  refine h c ?_
  rw [List.head?_append, hc]
  rfl

/-- Trimming drops blanks from the end alone when there are none at the beginning. -/
theorem StartsSolid.exists_eq_trim_append {s : List Char} (h : StartsSolid s) :
    ∃ w, isBlankText w = true ∧ s = trim s ++ w := by
  obtain ⟨w, hw, heq⟩ := trimEnd_append_trailing s
  rw [trim, trimStart_eq_self h]
  exact ⟨w, hw, heq⟩

theorem trim_trim (s : List Char) : trim (trim s) = trim s :=
  trim_eq_self_iff.2 ⟨startsSolid_trim s, endsSolid_trim s⟩

end Interpolation.Text
