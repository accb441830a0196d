/-!
# Widths in bytes

Offsets into a text are counted in the bytes of its UTF-8 form. The width of a text
(`Interpolation.Text.width`) is the sum of the widths of its characters, so widths add up over
concatenation (`width_append`), and an offset is always the width of the text in front of it.
-/

namespace Interpolation.Text

/-- The number of bytes of a text's UTF-8 form. -/
def width : List Char → Nat
  | [] => 0
  | c :: rest => c.utf8Size + width rest

@[simp]
theorem width_nil : width [] = 0 := rfl

@[simp]
theorem width_cons (c : Char) (s : List Char) : width (c :: s) = c.utf8Size + width s := rfl

@[simp]
theorem width_append (s t : List Char) : width (s ++ t) = width s + width t := by
  induction s with
  | nil => simp
  | cons c rest ih => simp [ih, Nat.add_assoc]

/-- The width of a string's characters is its size. -/
theorem width_toList (s : String) : width s.toList = s.utf8ByteSize := by
  have hlist (l : List Char) : width l = (String.ofList l).utf8ByteSize := by
    induction l with
    | nil => rfl
    | cons c l ih =>
      have hcons : String.ofList (c :: l) = String.singleton c ++ String.ofList l := by simp
      rw [hcons, String.utf8ByteSize_append, String.utf8ByteSize_singleton, width_cons, ih]
  rw [hlist, String.ofList_toList]

/-- **The longest beginning of a text that fits into so many bytes**, and the rest. The cut never falls
inside a character and never past the end. -/
def cutAt : List Char → Nat → List Char × List Char
  | [], _ => ([], [])
  | c :: rest, bytes =>
    if c.utf8Size ≤ bytes then
      let (before, after) := cutAt rest (bytes - c.utf8Size)
      (c :: before, after)
    else
      ([], c :: rest)

/-- A cut loses nothing. -/
theorem cutAt_append (s : List Char) (bytes : Nat) : (cutAt s bytes).1 ++ (cutAt s bytes).2 = s := by
  induction s generalizing bytes with
  | nil => rfl
  | cons c rest ih =>
    by_cases fits : c.utf8Size ≤ bytes
    · simp [cutAt, fits, ih]
    · simp [cutAt, fits]

/-- What stands before a cut fits. -/
theorem width_cutAt_le (s : List Char) (bytes : Nat) : width (cutAt s bytes).1 ≤ bytes := by
  induction s generalizing bytes with
  | nil => simp [cutAt]
  | cons c rest ih =>
    by_cases fits : c.utf8Size ≤ bytes
    · have := ih (bytes - c.utf8Size)
      simp only [cutAt, fits, if_true, width_cons]
      omega
    · simp [cutAt, fits]

end Interpolation.Text
