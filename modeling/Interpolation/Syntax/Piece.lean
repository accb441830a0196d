/-!
# Texts and spans

An interpolated text alternates between literal text and *spans*, the parts between a pair of opening braces
and the pair of closing braces that belongs to it. Braces count in pairs, read from the left: an opening pair
inside a span opens a further level, a closing pair ends one, and a single brace is a character like any other.

`Interpolation.Piece.cut` takes a text apart. It is left to right: the first opening pair starts a span
(`Interpolation.untilOpen?`), the closing pair that brings the level back to zero ends it
(`Interpolation.untilClose?`), and if there is none the rest of the text is an unclosed span.
-/

namespace Interpolation

/-- **A part of an interpolated text.** -/
inductive Piece where
  /-- Literal text. -/
  | text (content : List Char)
  /-- What stands between the braces of a span. -/
  | span (inner : List Char)
  /-- What stands behind opening braces that nothing closes. -/
  | unclosed (rest : List Char)
deriving DecidableEq

/-- The text before the first opening pair of braces and the text behind that pair, if there is one. -/
def untilOpen? : List Char → Option (List Char × List Char)
  | '{' :: '{' :: rest => some ([], rest)
  | c :: rest => (untilOpen? rest).map fun (before, after) => (c :: before, after)
  | [] => none

/-- The text before the closing pair of braces that ends a span, and the text behind that pair, `level`
further pairs being open. -/
def untilClose? (level : Nat) : List Char → Option (List Char × List Char)
  | '{' :: '{' :: rest =>
    (untilClose? (level + 1) rest).map fun (inner, after) => ('{' :: '{' :: inner, after)
  | '}' :: '}' :: rest =>
    match level with
    | 0 => some ([], rest)
    | level + 1 => (untilClose? level rest).map fun (inner, after) => ('}' :: '}' :: inner, after)
  | c :: rest => (untilClose? level rest).map fun (inner, after) => (c :: inner, after)
  | [] => none

/-- An opening pair uses up its two characters. -/
theorem length_of_untilOpen? {s before after : List Char} (h : untilOpen? s = some (before, after)) :
    s.length = before.length + after.length + 2 := by
  fun_induction untilOpen? s generalizing before after with
  | case1 rest => simp_all
  | case2 c rest _ ih =>
    obtain ⟨⟨b, a⟩, found, eq⟩ := Option.map_eq_some_iff.1 h
    have := ih found
    simp only [Prod.mk.injEq] at eq
    obtain ⟨rfl, rfl⟩ := eq
    simp only [List.length_cons]
    omega
  | case3 => simp at h

/-- A closing pair uses up its two characters. -/
theorem length_of_untilClose? {level : Nat} {s inner after : List Char}
    (h : untilClose? level s = some (inner, after)) : s.length = inner.length + after.length + 2 := by
  fun_induction untilClose? level s generalizing inner after with
  | case1 level rest ih =>
    obtain ⟨⟨i, a⟩, found, eq⟩ := Option.map_eq_some_iff.1 h
    have := ih found
    simp only [Prod.mk.injEq] at eq
    obtain ⟨rfl, rfl⟩ := eq
    simp only [List.length_cons]
    omega
  | case2 rest => simp_all
  | case3 rest level ih =>
    obtain ⟨⟨i, a⟩, found, eq⟩ := Option.map_eq_some_iff.1 h
    have := ih found
    simp only [Prod.mk.injEq] at eq
    obtain ⟨rfl, rfl⟩ := eq
    simp only [List.length_cons]
    omega
  | case4 level c rest _ _ ih =>
    obtain ⟨⟨i, a⟩, found, eq⟩ := Option.map_eq_some_iff.1 h
    have := ih found
    simp only [Prod.mk.injEq] at eq
    obtain ⟨rfl, rfl⟩ := eq
    simp only [List.length_cons]
    omega
  | case5 => simp at h

namespace Piece

/-- Literal text as a list of pieces: none if there is no text. -/
def ofText (content : List Char) : List Piece := if content.isEmpty then [] else [text content]

/-- **The pieces of an interpolated text**, in order. -/
def cut (s : List Char) : List Piece :=
  match _opening : untilOpen? s with
  | none => ofText s
  | some (before, behind) =>
    ofText before ++
      match _closing : untilClose? 0 behind with
      | none => [unclosed behind]
      | some (inner, after) => span inner :: cut after
termination_by s.length
decreasing_by
  have := length_of_untilOpen? _opening
  have := length_of_untilClose? _closing
  omega

end Piece

end Interpolation
