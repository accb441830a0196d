import Interpolation.Text.Location
import Interpolation.Proofs.Heads
import Mathlib

/-!
# Offsets, lines and columns

An offset into a text means a character of it, or its end: the one at the greatest character boundary that is
not past the offset (`Interpolation.Text.isGreatest_cutAt`). Cutting the text at its line feeds gives its lines,
and the place of the offset is given by a line and a column in it.

`Interpolation.Text.Location.Points` says what it is for a place to be right: its line is one of the lines, and
the lines above it, the line feeds behind them and the characters in front of the column are together as wide as
the offset is great. The place that is computed is right (`Interpolation.Text.locate_points`). It is put together
from what stands in front of the offset and from what stands behind it, and the one seam that there is lies
within the line itself (`Interpolation.Text.exists_earlier`).
-/

namespace Interpolation.Text

/-! ### Boundaries -/

/-- **An offset between two characters**, or at an end of the text. -/
def IsBoundary (s : List Char) (offset : Nat) : Prop :=
  ∃ before behind, s = before ++ behind ∧ width before = offset

/-- At a boundary a text is cut where the boundary is. -/
theorem cutAt_append_width (before behind : List Char) :
    cutAt (before ++ behind) (width before) = (before, behind) := by
  induction before with
  | nil =>
    cases behind with
    | nil => rfl
    | cons c rest =>
      have hc := c.utf8Size_pos
      simp only [List.nil_append, width_nil, cutAt]
      rw [if_neg (by omega)]
  | cons c before ih =>
    rw [List.cons_append, width_cons, cutAt, if_pos (Nat.le_add_right _ _), Nat.add_sub_cancel_left, ih]

/-- What stands in front of a boundary is part of what is cut off at a greater offset. -/
theorem width_le_cutAt {before behind : List Char} {offset : Nat} (h : width before ≤ offset) :
    width before ≤ width (cutAt (before ++ behind) offset).1 := by
  induction before generalizing offset with
  | nil => exact Nat.zero_le _
  | cons c before ih =>
    rw [width_cons] at h
    have hrest : width before ≤ width (cutAt (before ++ behind) (offset - c.utf8Size)).1 := ih (by omega)
    rw [List.cons_append, cutAt, if_pos (by omega), width_cons, width_cons]
    omega

/-- **A text is cut at the greatest boundary** that is not past the offset. -/
theorem isGreatest_cutAt (s : List Char) (offset : Nat) :
    IsGreatest {bytes | IsBoundary s bytes ∧ bytes ≤ min offset (width s)} (width (cutAt s offset).1) := by
  have hcut := cutAt_append s offset
  refine ⟨⟨⟨_, _, hcut.symm, rfl⟩, ?_⟩, ?_⟩
  · have hwidth := congrArg width hcut
    rw [width_append] at hwidth
    exact Nat.le_min.2 ⟨width_cutAt_le s offset, by omega⟩
  · rintro _ ⟨⟨before, behind, rfl, rfl⟩, hle⟩
    exact width_le_cutAt (Nat.le_trans hle (Nat.min_le_left _ _))

/-! ### Lines -/

/-- A text has one line more than it has line feeds. -/
theorem length_splitOn (s : List Char) : (s.splitOn '\n').length = s.count '\n' + 1 := by
  induction s with
  | nil => rfl
  | cons c s ih =>
    rw [List.splitOn_cons_eq_if_modifyHead]
    by_cases hc : c = '\n'
    · simp [hc, ih]
    · simp [hc, ih]

/-- The lines of a text and a line feed behind each are as wide as the text and one line feed more. -/
theorem sum_splitOn (s : List Char) :
    ((s.splitOn '\n').map (width · + 1)).sum = width s + 1 := by
  have hfeed : Char.utf8Size '\n' = 1 := by decide
  induction s with
  | nil => rfl
  | cons c s ih =>
    obtain ⟨line, lines, hlines⟩ := List.exists_cons_of_ne_nil (List.splitOn_ne_nil '\n' s)
    rw [hlines, List.map_cons, List.sum_cons] at ih
    rw [List.splitOn_cons_eq_if_modifyHead, hlines]
    by_cases hc : c = '\n'
    · rw [if_pos (by simpa using hc), hc]
      simp only [List.map_cons, List.sum_cons, width_cons, width_nil, hfeed]
      omega
    · rw [if_neg (by simpa using hc)]
      simp only [List.modifyHead_cons, List.map_cons, List.sum_cons, width_cons]
      omega

theorem lastLine_of_notMem {s : List Char} (h : '\n' ∉ s) : lastLine s = s := by
  have htake : s.reverse.takeWhile (· ≠ '\n') = s.reverse := by
    rw [List.takeWhile_eq_self_iff]
    intro c hc
    simpa using fun heq : c = '\n' => h (heq ▸ List.mem_reverse.1 hc)
  rw [lastLine, htake, List.reverse_reverse]

theorem lastLine_append {s line : List Char} (h : '\n' ∉ line) : lastLine (s ++ '\n' :: line) = line := by
  have hline : ∀ c ∈ line.reverse, decide (c ≠ '\n') = true := by
    intro c hc
    simpa using fun heq : c = '\n' => h (heq ▸ List.mem_reverse.1 hc)
  rw [lastLine, List.reverse_append, List.reverse_cons, List.append_assoc, List.singleton_append,
    takeWhile_append_cons hline (by simp), List.reverse_reverse]

/-- **The lines of a text** are some lines and the part behind the last line feed, to which text without a line
feed may be added. -/
theorem exists_earlier (s : List Char) :
    '\n' ∉ lastLine s ∧ ∃ earlier, s.splitOn '\n' = earlier ++ [lastLine s] ∧
      ∀ more, '\n' ∉ more → (s ++ more).splitOn '\n' = earlier ++ [lastLine s ++ more] := by
  by_cases hmem : '\n' ∈ s.reverse
  · obtain ⟨line, before, heq, hline⟩ := List.eq_append_cons_of_mem hmem
    obtain rfl : s = before.reverse ++ '\n' :: line.reverse := by
      rw [← List.reverse_reverse s, heq]
      simp
    have hline : '\n' ∉ line.reverse := by simpa using hline
    rw [lastLine_append hline]
    refine ⟨hline, before.reverse.splitOn '\n', ?_, fun more hmore => ?_⟩
    · rw [List.splitOn_append_cons_self, List.splitOn_eq_singleton hline]
    · have hboth : '\n' ∉ line.reverse ++ more := by simpa using ⟨by simpa using hline, hmore⟩
      rw [List.append_assoc, List.cons_append, List.splitOn_append_cons_self, List.splitOn_eq_singleton hboth]
  · have hmem : '\n' ∉ s := by simpa using hmem
    rw [lastLine_of_notMem hmem]
    refine ⟨hmem, [], List.splitOn_eq_singleton hmem, fun more hmore => ?_⟩
    exact List.splitOn_eq_singleton (by simpa using ⟨hmem, hmore⟩)

/-! ### Places -/

/-- **A place points to a boundary of a text.** -/
structure Location.Points (place : Location) (source : List Char) (bytes : Nat) : Prop where
  /-- Lines are counted from one. -/
  line_pos : 1 ≤ place.line
  /-- Columns are counted from one. -/
  column_pos : 1 ≤ place.column
  /-- The line is the one of this number among the lines of the text. -/
  getElem?_eq : (source.splitOn '\n')[place.line - 1]? = some place.text
  /-- There is no line feed in it. -/
  notMem : '\n' ∉ place.text
  /-- The column is in the line or right behind it. -/
  column_le : place.column - 1 ≤ place.text.length
  /-- The lines above with their line feeds and the characters in front are all that is in front. -/
  sum_eq : (((source.splitOn '\n').take (place.line - 1)).map (width · + 1)).sum
    + width (place.text.take (place.column - 1)) = bytes

/-- What stands behind a place in its line is the text from there to the next line feed. -/
theorem drop_text_locate (source : List Char) (offset : Nat) :
    (locate source offset).text.drop ((locate source offset).column - 1) =
      (cutAt source offset).2.takeWhile (· ≠ '\n') := by
  simp [locate]

/-- **The place of an offset** points to the boundary that the offset means. -/
theorem locate_points (source : List Char) (offset : Nat) :
    (locate source offset).Points source (width (cutAt source offset).1) := by
  have hsource := cutAt_append source offset
  generalize hcut : cutAt source offset = halves at hsource
  obtain ⟨before, after⟩ := halves
  have hplace : locate source offset = ⟨before.count '\n' + 1, (lastLine before).length + 1,
      lastLine before ++ after.takeWhile (· ≠ '\n')⟩ := by
    rw [locate, hcut]
  obtain ⟨hlast, earlier, hearlier, hmore⟩ := exists_earlier before
  have hrest : '\n' ∉ after.takeWhile (· ≠ '\n') := by
    intro hmem
    simpa using List.mem_takeWhile_imp hmem
  -- The line ends where the text does, or at the next line feed.
  have hlines : ∃ later, source.splitOn '\n' =
      earlier ++ (lastLine before ++ after.takeWhile (· ≠ '\n')) :: later := by
    have hafter := List.takeWhile_append_dropWhile (p := (· ≠ '\n')) (l := after)
    rw [← hsource]
    conv => enter [1, later, 1]; rw [← hafter, ← List.append_assoc]
    cases htail : after.dropWhile (· ≠ '\n') with
    | nil => exact ⟨[], by rw [List.append_nil, hmore _ hrest]⟩
    | cons c more =>
      have hc := List.head?_dropWhile_not (· ≠ '\n') after
      rw [htail] at hc
      obtain rfl : c = '\n' := by simpa using hc
      exact ⟨more.splitOn '\n', by rw [List.splitOn_append_cons_self, hmore _ hrest, List.append_assoc]; rfl⟩
  obtain ⟨later, hlines⟩ := hlines
  have hlength : earlier.length = before.count '\n' := by
    have := length_splitOn before
    rw [hearlier, List.length_append, List.length_singleton] at this
    omega
  have hsum : (earlier.map (width · + 1)).sum + width (lastLine before) = width before := by
    have := sum_splitOn before
    rw [hearlier, List.map_append, List.sum_append, List.map_singleton, List.sum_singleton] at this
    omega
  rw [hplace]
  refine ⟨Nat.le_add_left _ _, Nat.le_add_left _ _, ?_, ?_, ?_, ?_⟩
  · simp [hlines, ← hlength]
  · simpa using ⟨hlast, by simpa using hrest⟩
  · simp
  · simpa [hlines, ← hlength] using hsum

end Interpolation.Text
