import Interpolation.Proofs.Slices

/-!
# Places by offsets

The place of an offset is found by offsets as well (`Interpolation.Guarded.locate`): the offset is drawn
back byte by byte to a boundary, the line feeds around it are searched for, and what is in front of the
line, what is in front of the column and the line itself are slices of the text.

Drawing back ends at the greatest boundary, since the beginning of a text is one
(`Interpolation.Guarded.retreat_eq`), and a line feed is one byte wide, so that a line starts one byte
behind it (`Interpolation.Guarded.exists_above`). The slices are therefore taken, and the place is the right
one (`Interpolation.Guarded.locate_eq`).
-/

namespace Interpolation.Guarded

open Text

/-- The greatest boundary that is not past an offset. -/
def retreat (s : List Char) : Nat → Except Halt Nat
  | 0 => if isCharBoundary s 0 then .ok 0 else .error (.trap .belowZero)
  | offset + 1 => if isCharBoundary s (offset + 1) then .ok (offset + 1) else retreat s offset

/-- The offset of the first line feed, if there is one. -/
def firstFeed? : List Char → Option Nat
  | [] => none
  | c :: rest => if c = '\n' then some 0 else (firstFeed? rest).map (c.utf8Size + ·)

/-- The offset of the last line feed, if there is one. -/
def lastFeed? : List Char → Option Nat
  | [] => none
  | c :: rest =>
    match lastFeed? rest with
    | some offset => some (c.utf8Size + offset)
    | none => if c = '\n' then some 0 else none

/-- **The place of an offset**, put together from slices. -/
def locate (source : List Char) (offset : Nat) : Except Halt Location := do
  let offset ← retreat source (min offset (width source))
  let before ← slice source 0 offset
  let start := (lastFeed? before).elim 0 (· + 1)
  let behind ← slice source offset (width source)
  let stop := (firstFeed? behind).elim (width source) (offset + ·)
  let above ← slice source 0 start
  let front ← slice source start offset
  let line ← slice source start stop
  return ⟨above.count '\n' + 1, front.length + 1, line⟩

/-- Drawing back ends at the greatest boundary. -/
theorem exists_retreat_eq (s : List Char) (offset : Nat) :
    ∃ bytes, retreat s offset = .ok bytes ∧
      IsGreatest {bytes | IsBoundary s bytes ∧ bytes ≤ offset} bytes := by
  induction offset with
  | zero =>
    have hzero : IsBoundary s 0 := ⟨[], s, rfl, rfl⟩
    exact ⟨0, if_pos (isCharBoundary_iff.2 hzero), ⟨hzero, le_rfl⟩, fun bytes hbytes => hbytes.2⟩
  | succ offset ih =>
    rw [retreat]
    by_cases hboundary : IsBoundary s (offset + 1)
    · exact ⟨offset + 1, if_pos (isCharBoundary_iff.2 hboundary), ⟨hboundary, le_rfl⟩,
        fun bytes hbytes => hbytes.2⟩
    · rw [if_neg (mt isCharBoundary_iff.1 hboundary)]
      obtain ⟨bytes, heq, hmem, hgreatest⟩ := ih
      refine ⟨bytes, heq, ⟨hmem.1, Nat.le_succ_of_le hmem.2⟩, fun other hother => hgreatest ⟨hother.1, ?_⟩⟩
      have hne : other ≠ offset + 1 := fun h => hboundary (h ▸ hother.1)
      have := hother.2
      omega

/-- **An offset is drawn back to where the text is cut.** -/
theorem retreat_eq (s : List Char) (offset : Nat) :
    retreat s (min offset (width s)) = .ok (width (cutAt s offset).1) := by
  obtain ⟨bytes, heq, hgreatest⟩ := exists_retreat_eq s (min offset (width s))
  rw [heq, hgreatest.unique (isGreatest_cutAt s offset)]

/-! ### Line feeds -/

/-- A line ends at the next line feed, or where the text does. -/
theorem getD_firstFeed? (s : List Char) :
    (firstFeed? s).getD (width s) = width (s.takeWhile (· ≠ '\n')) := by
  induction s with
  | nil => rfl
  | cons c s ih =>
    rw [firstFeed?]
    by_cases hc : c = '\n'
    · simp [hc]
    · rw [if_neg hc, List.takeWhile_cons_of_pos (by simpa using hc), width_cons, width_cons, ← ih]
      cases firstFeed? s <;> rfl

theorem lastFeed?_of_notMem {s : List Char} (h : '\n' ∉ s) : lastFeed? s = none := by
  induction s with
  | nil => rfl
  | cons c s ih =>
    obtain ⟨hc, hs⟩ := not_or.1 (mt List.mem_cons.2 h)
    rw [lastFeed?, ih hs]
    exact if_neg (Ne.symm hc)

theorem lastFeed?_append {s line : List Char} (h : '\n' ∉ line) :
    lastFeed? (s ++ '\n' :: line) = some (width s) := by
  induction s with
  | nil =>
    rw [List.nil_append, lastFeed?, lastFeed?_of_notMem h]
    rfl
  | cons c s ih =>
    rw [List.cons_append, lastFeed?, ih]
    rfl

/-- **A line starts behind the last line feed**, or where the text does, and all line feeds are in front of
it. -/
theorem exists_above (s : List Char) :
    ∃ above, s = above ++ lastLine s ∧ above.count '\n' = s.count '\n' ∧
      (lastFeed? s).elim 0 (· + 1) = width above := by
  by_cases hmem : '\n' ∈ s.reverse
  · obtain ⟨line, before, heq, hline⟩ := List.eq_append_cons_of_mem hmem
    obtain rfl : s = before.reverse ++ '\n' :: line.reverse := by
      rw [← List.reverse_reverse s, heq]
      simp
    have hline : '\n' ∉ line.reverse := by simpa using hline
    rw [lastLine_append hline, lastFeed?_append hline]
    refine ⟨before.reverse ++ ['\n'], by simp, ?_, ?_⟩
    · simp [List.count_append, List.count_eq_zero.2 hline]
    · rw [width_append]
      rfl
  · have hmem : '\n' ∉ s := by simpa using hmem
    rw [lastLine_of_notMem hmem, lastFeed?_of_notMem hmem]
    exact ⟨[], rfl, (List.count_eq_zero.2 hmem).symm, rfl⟩

/-- **The place that is put together is that of the offset.** -/
theorem locate_eq (source : List Char) (offset : Nat) :
    locate source offset = .ok (Text.locate source offset) := by
  have hsource := cutAt_append source offset
  have hretreat := retreat_eq source offset
  rw [Text.locate]
  generalize cutAt source offset = halves at hsource hretreat
  obtain ⟨before, behind⟩ := halves
  dsimp only at hsource hretreat ⊢
  obtain ⟨above, hbefore, hcount, hstart⟩ := exists_above before
  obtain ⟨rest, hrest⟩ := List.takeWhile_prefix (p := (· ≠ '\n')) (l := behind)
  have hstop := getD_firstFeed? behind
  generalize behind.takeWhile (· ≠ '\n') = tail at hrest hstop ⊢
  have hlength : width source = width before + width behind := by rw [← hsource, width_append]
  have hstop : (firstFeed? behind).elim (width source) (width before + ·) = width before + width tail := by
    rw [← hstop, hlength]
    cases firstFeed? behind <;> rfl
  have hwidth : width above + width (lastLine before) = width before := by rw [← width_append, ← hbefore]
  -- The text is the lines above, the line in front of the column, the line behind it and the rest.
  have hall : source = above ++ (lastLine before ++ (tail ++ rest)) := by
    rw [← List.append_assoc, ← hbefore, hrest, hsource]
  have hfront : slice source 0 (width before) = .ok before :=
    slice_eq_ok_iff.2 ⟨[], behind, hsource.symm, rfl, Nat.zero_add _⟩
  have hbehind : slice source (width before) (width source) = .ok behind :=
    slice_eq_ok_iff.2 ⟨before, [], by rw [List.append_nil, hsource], rfl, hlength.symm⟩
  have habove : slice source 0 (width above) = .ok above :=
    slice_eq_ok_iff.2 ⟨[], _, hall, rfl, Nat.zero_add _⟩
  have hcolumn : slice source (width above) (width before) = .ok (lastLine before) :=
    slice_eq_ok_iff.2 ⟨above, tail ++ rest, by rw [hall, List.append_assoc], rfl, hwidth⟩
  have hline : slice source (width above) (width before + width tail) = .ok (lastLine before ++ tail) := by
    refine slice_eq_ok_iff.2 ⟨above, rest, ?_, rfl, ?_⟩
    · rw [hall, List.append_assoc, List.append_assoc]
    · rw [width_append, ← hwidth, Nat.add_assoc]
  rw [locate, hretreat, ok_bind, hfront, ok_bind]
  dsimp only
  rw [hbehind, ok_bind, hstart, habove, ok_bind, hcolumn, ok_bind, hstop, hline, ok_bind, hcount]
  rfl

end Interpolation.Guarded
