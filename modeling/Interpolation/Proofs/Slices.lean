import Interpolation.ParseError
import Interpolation.Text.Blank
import Interpolation.Proofs.ByteOrder
import Interpolation.Proofs.Lines

/-!
# Slices of bytes

A text can be kept as its bytes, and parts of it be taken by the offsets of their ends. Such a slice exists
only if the ends are in order, within the text and between two characters; if not, a program has no error to
return, but halts. In `Interpolation.Guarded` texts are read in this way, and whatever could make the program
halt is a result of its own (`Interpolation.Guarded.Trap`). That each function there gives what its namesake
without offsets gives says at once that none of this happens, and that the offsets are the right ones.

This file has the single steps. A slice is taken exactly if the text is the characters in front, those of the
slice and those behind (`Interpolation.Guarded.slice_eq_ok_iff`). Whether an offset is between two characters
is seen from the byte there, which must not carry on a character (`Interpolation.Text.isCharBoundary_iff`).
That bytes can be searched instead of characters is due to the same fact: the bytes of a text are found at a
place exactly if the text is (`Interpolation.Text.encode_prefix_iff`).
-/

namespace Interpolation

namespace Text

open String

/-! ### The bytes of a text -/

/-- The bytes of a text's UTF-8 form. -/
def encode (s : List Char) : List UInt8 := s.flatMap utf8EncodeChar

@[simp]
theorem encode_nil : encode [] = [] := rfl

theorem encode_cons (c : Char) (s : List Char) : encode (c :: s) = utf8EncodeChar c ++ encode s := rfl

theorem encode_append (s t : List Char) : encode (s ++ t) = encode s ++ encode t := List.flatMap_append

@[simp]
theorem length_encode (s : List Char) : (encode s).length = width s := by
  induction s with
  | nil => rfl
  | cons c s ih => rw [encode_cons, List.length_append, length_utf8EncodeChar, ih, width_cons]

theorem drop_width_encode (before rest : List Char) :
    (encode (before ++ rest)).drop (width before) = encode rest := by
  rw [encode_append, ← length_encode, List.drop_left]

/-- Only the empty text has no width. -/
theorem width_eq_zero_iff {s : List Char} : width s = 0 ↔ s = [] := by
  cases s with
  | nil => simp
  | cons c s =>
    have hc := c.utf8Size_pos
    simp only [width_cons, reduceCtorEq, iff_false]
    omega

/-- A character takes up room. -/
theorem width_lt_append (before rest : List Char) (c : Char) :
    width before < width (before ++ c :: rest) := by
  have hc := c.utf8Size_pos
  rw [width_append, width_cons]
  omega

/-- **Texts can be searched by their bytes.** -/
theorem encode_prefix_iff {s t : List Char} : encode t <+: encode s ↔ t <+: s := by
  induction t generalizing s with
  | nil => simp
  | cons c t ih =>
    cases s with
    | nil =>
      have hne : encode (c :: t) ≠ [] := by
        rw [← List.length_pos_iff, length_encode, width_cons]
        exact Nat.add_pos_left c.utf8Size_pos _
      simpa using hne
    | cons d s =>
      rw [List.cons_prefix_cons, ← ih, encode_cons, encode_cons]
      constructor
      · rintro ⟨more, hmore⟩
        rw [List.append_assoc] at hmore
        -- Different characters would put the bytes in order, and these are the same.
        have hcd : c = d := by
          rcases Std.lt_trichotomy c d with h | h | h
          · exact absurd (hmore ▸ utf8EncodeChar_append_lt h _ _) (List.lt_irrefl _)
          · exact h
          · exact absurd (hmore ▸ utf8EncodeChar_append_lt h _ _) (List.lt_irrefl _)
        subst hcd
        exact ⟨rfl, more, List.append_cancel_left hmore⟩
      · rintro ⟨rfl, hprefix⟩
        exact (List.prefix_append_right_inj _).2 hprefix

/-! ### Boundaries by bytes -/

/-- Whether a byte carries on a character, as those from 128 to 191 do. -/
def isContinuation (byte : UInt8) : Bool := byte.toNat / 64 == 2

/-- **The bytes of a character** carry it on, except for the first. -/
theorem isContinuation_iff_of_getElem? {c : Char} {i : Nat} {byte : UInt8}
    (h : (utf8EncodeChar c)[i]? = some byte) : isContinuation byte = true ↔ i ≠ 0 := by
  have hbound : c.val.toNat < 1114112 := by
    rcases c.valid with h | ⟨-, h⟩ <;> omega
  simp only [utf8EncodeChar] at h
  generalize c.val.toNat = v at h hbound
  rw [isContinuation, beq_iff_eq]
  split_ifs at h
  all_goals
    rcases i with _ | _ | _ | _ | i <;>
      simp only [List.getElem?_cons_zero, List.getElem?_cons_succ, List.getElem?_nil, reduceCtorEq,
        Option.some.injEq] at h
  all_goals
    rw [← h, UInt8.toNat_ofNat']
    omega

/-- Whether an offset is between two characters or at an end, as told by the byte there. -/
def isCharBoundary (s : List Char) (offset : Nat) : Bool :=
  match (encode s)[offset]? with
  | some byte => !isContinuation byte
  | none => offset == (encode s).length

theorem isBoundary_cons_iff {c : Char} {s : List Char} {offset : Nat} :
    IsBoundary (c :: s) offset ↔ offset = 0 ∨ c.utf8Size ≤ offset ∧ IsBoundary s (offset - c.utf8Size) := by
  constructor
  · rintro ⟨before, behind, heq, rfl⟩
    cases before with
    | nil => exact .inl rfl
    | cons d before =>
      obtain ⟨rfl, rfl⟩ := List.cons.inj heq
      exact .inr ⟨by simp, before, behind, rfl, by simp⟩
  · rintro (rfl | ⟨hle, before, behind, rfl, hwidth⟩)
    · exact ⟨[], c :: s, rfl, rfl⟩
    · exact ⟨c :: before, behind, rfl, by simp [hwidth, Nat.add_sub_cancel' hle]⟩

/-- **The bytes tell where characters end.** -/
theorem isCharBoundary_iff {s : List Char} {offset : Nat} :
    isCharBoundary s offset = true ↔ IsBoundary s offset := by
  induction s generalizing offset with
  | nil =>
    have hnil : IsBoundary [] offset ↔ offset = 0 := by
      simp [IsBoundary, eq_comm]
    simp [isCharBoundary, hnil]
  | cons c s ih =>
    rw [isBoundary_cons_iff, ← ih, isCharBoundary, isCharBoundary, encode_cons]
    rcases Nat.lt_or_ge offset c.utf8Size with hlt | hge
    · have hi : offset < (utf8EncodeChar c).length := by rwa [length_utf8EncodeChar]
      have hbyte := List.getElem?_eq_getElem hi
      rw [List.getElem?_append_left hi, hbyte]
      simp only [Nat.not_le.2 hlt, false_and, or_false]
      rw [Bool.not_eq_true', ← Bool.not_eq_true, isContinuation_iff_of_getElem? hbyte, not_not]
    · have hne : offset ≠ 0 := by
        have := c.utf8Size_pos
        omega
      rw [List.getElem?_append_right (by rwa [length_utf8EncodeChar]), length_utf8EncodeChar]
      simp only [hne, hge, false_or, true_and]
      cases (encode s)[offset - c.utf8Size]? with
      | some byte => rfl
      | none =>
        simp only [beq_iff_eq, List.length_append, length_utf8EncodeChar]
        omega

/-- **A byte-wise walk that passes over the bytes that carry on a character** comes from behind the first
byte of the character to behind the character. -/
theorem walk_over_character {β : Type} (before rest : List Char) (c : Char) {f : Nat → β}
    (hf : ∀ i byte, (encode (before ++ c :: rest))[i]? = some byte → isContinuation byte = true →
      f i = f (i + 1)) :
    f (width before + 1) = f (width before + c.utf8Size) := by
  have hreach (n : Nat) (hle : 1 ≤ n) : n ≤ c.utf8Size → f (width before + 1) = f (width before + n) := by
    induction n, hle using Nat.le_induction with
    | base => exact fun _ => rfl
    | succ n hpos ih =>
      intro hlt
      have hi : n < (utf8EncodeChar c).length := by rwa [length_utf8EncodeChar]
      have hbyte := List.getElem?_eq_getElem hi
      rw [ih (Nat.le_of_lt hlt)]
      refine hf (width before + n) _ ?_ ((isContinuation_iff_of_getElem? hbyte).2 (by omega))
      rw [encode_append, ← length_encode, List.getElem?_append_right (Nat.le_add_right _ _),
        Nat.add_sub_cancel_left, encode_cons, List.getElem?_append_left hi, hbyte]
  exact hreach c.utf8Size c.utf8Size_pos le_rfl

end Text

namespace Guarded

open Text

/-! ### What makes the program halt -/

/-- **What makes the program halt** where it would have to do something impossible. -/
inductive Trap where
  /-- A slice or a search reaches beyond the end, or ends before it starts. -/
  | outOfRange
  /-- A slice starts or ends within a character. -/
  | insideCharacter
  /-- A difference of numbers would be negative. -/
  | belowZero
  /-- A keyword has no flag. -/
  | noSuchFlag
  /-- A variable has an empty path. -/
  | emptyPath
  /-- A walk along a text does not get on. -/
  | standstill
deriving DecidableEq

/-- **Why there is no result**: the program has halted, or the text is at fault. -/
inductive Halt where
  /-- The program has halted. -/
  | trap (trap : Trap)
  /-- The text is at fault. -/
  | fault (error : ParseError)
deriving DecidableEq

/-- What comes behind a step that has a result starts from this result. -/
theorem ok_bind {α β : Type} (a : α) (next : α → Except Halt β) : (Except.ok a >>= next) = next a := rfl

/-- The difference of two numbers. -/
def difference (a b : Nat) : Except Halt Nat := if b ≤ a then .ok (a - b) else .error (.trap .belowZero)

theorem difference_of_le {a b : Nat} (h : b ≤ a) : difference a b = .ok (a - b) := if_pos h

/-- **The part of a text between two offsets.** -/
def slice (s : List Char) (start stop : Nat) : Except Halt (List Char) :=
  if start ≤ stop ∧ stop ≤ (encode s).length then
    if isCharBoundary s start && isCharBoundary s stop then .ok (cutAt (cutAt s stop).1 start).2
    else .error (.trap .insideCharacter)
  else
    .error (.trap .outOfRange)

/-- **A slice is taken** exactly if its ends are between characters, and it is what stands between them. -/
theorem slice_eq_ok_iff {s piece : List Char} {start stop : Nat} :
    slice s start stop = .ok piece ↔
      ∃ before behind, s = before ++ piece ++ behind ∧ width before = start ∧
        width before + width piece = stop := by
  constructor
  · intro h
    rw [slice] at h
    split at h
    · rename_i hrange
      split at h
      · rename_i hends
        rw [Bool.and_eq_true, isCharBoundary_iff, isCharBoundary_iff] at hends
        obtain ⟨⟨before, rest, heq, rfl⟩, front, behind, rfl, rfl⟩ := hends
        -- What stands before the start is the beginning of what stands before the end.
        have hprefix : before <+: front := by
          rcases List.append_eq_append_iff.1 heq with ⟨more, rfl, -⟩ | ⟨more, rfl, -⟩
          · have hmore : width more = 0 := by
              have := hrange.1
              rw [width_append] at this
              omega
            rw [width_eq_zero_iff.1 hmore, List.append_nil]
          · exact List.prefix_append _ _
        obtain ⟨middle, rfl⟩ := hprefix
        rw [cutAt_append_width] at h
        dsimp only at h
        rw [cutAt_append_width] at h
        obtain rfl := Except.ok.inj h
        exact ⟨before, behind, rfl, rfl, (width_append _ _).symm⟩
      · cases h
    · cases h
  · rintro ⟨before, behind, rfl, rfl, rfl⟩
    have hstart : isCharBoundary (before ++ piece ++ behind) (width before) = true :=
      isCharBoundary_iff.2 ⟨before, piece ++ behind, List.append_assoc _ _ _, rfl⟩
    have hstop : isCharBoundary (before ++ piece ++ behind) (width before + width piece) = true :=
      isCharBoundary_iff.2 ⟨before ++ piece, behind, rfl, width_append _ _⟩
    rw [slice, if_pos ⟨Nat.le_add_right _ _, by simp⟩, hstart, hstop, ← width_append, cutAt_append_width]
    simp [cutAt_append_width]

/-- A slice within a character is not taken. -/
example : slice "aü".toList 1 2 = .error (.trap .insideCharacter) := by cbv

/-- The bytes of the blanks that a text starts with. -/
def lead (s : List Char) : Except Halt Nat := difference (width s) (width (trimStart s))

theorem lead_eq (s : List Char) : lead s = .ok (width (leading s)) := by
  have hwidth := congrArg width (leading_append_trimStart s)
  rw [width_append] at hwidth
  rw [lead, difference_of_le (by omega)]
  exact congrArg _ (by omega)

end Guarded

end Interpolation
