import Interpolation.Proofs.Scanning

/-!
# How reading fails

Scanning stops at the first error. It is found in one piece of the text, all pieces in front of which are read
(`Interpolation.scanWith_eq_error_iff`), and a piece fails for what it is or for the call in it
(`Interpolation.PieceFails`). Unlike the results of reading, the errors depend on where the text starts: a
piece fails at the offset behind the sources of the pieces in front of it.
-/

namespace Interpolation

open Brace

/-! ### One piece -/

/-- **A span that starts at the given offset is an error**: there are only blanks in it, or it is a call that
cannot be bound. -/
inductive SpanFails (catalog : Catalog) (read : Reader) (offset : Nat) (inner : List Char) :
    ParseError → Prop
  /-- There are only blanks between the braces. -/
  | blank : Text.trim inner = [] → SpanFails catalog read offset inner ⟨.emptyInterpolation, offset⟩
  /-- The call, which starts behind the braces and the blanks, has an error. -/
  | call {head : CallHead} {error : ParseError} :
    CallHead.read? (Text.trim inner) = some head →
    bindWith catalog read (offset + 2 + Text.width (Text.leading inner))
      (offset + 2 + Text.width (Text.leading inner) + head.width)
      (String.ofList head.qualifier) (String.ofList head.name) head.arguments = .error error →
    SpanFails catalog read offset inner error

/-- **A piece that starts at the given offset is an error.** Literal text never is. -/
def PieceFails (catalog : Catalog) (read : Reader) (offset : Nat) : Piece → ParseError → Prop
  | .text _, _ => False
  | .span inner, error => SpanFails catalog read offset inner error
  | .unclosed _, error => error = ⟨.unmatchedBraces, offset⟩

variable {catalog : Catalog} {read : Reader}

theorem readSpan_eq_error_iff {offset : Nat} {inner : List Char} {error : ParseError} :
    readSpan catalog read offset inner = .error error ↔ SpanFails catalog read offset inner error := by
  rw [readSpan]
  constructor
  · intro h
    split at h
    · rename_i hempty
      cases h
      exact .blank (List.isEmpty_iff.1 hempty)
    · split at h
      · simp at h
      · rename_i head hhead
        exact .call hhead (map_eq_error_iff.1 h)
  · intro h
    cases h with
    | blank hempty => rw [if_pos (List.isEmpty_iff.2 hempty)]
    | @call head error hhead hbind =>
      rw [if_neg, hhead]
      · exact map_eq_error_iff.2 hbind
      · rw [List.isEmpty_iff]
        intro hempty
        rw [hempty] at hhead
        simp [CallHead.read?] at hhead

/-! ### All pieces -/

/-- A span takes up four bytes more than what stands between its braces. -/
theorem Brace.add_width_braced (offset : Nat) (inner : List Char) :
    offset + Text.width (braced inner) = offset + 2 + Text.width inner + 2 := by
  simp only [braced, List.cons_append, Text.width_cons, Text.width_append, Text.width_nil]
  have hopen : Char.utf8Size '{' = 1 := by decide
  have hclose : Char.utf8Size '}' = 1 := by decide
  omega

section Pieces

variable (hread : read.Translates)

include hread

/-- The first piece is an error, or it is read and the others are an error. -/
theorem readPieces_cons_eq_error_iff {offset : Nat} {piece : Piece} {rest : List Piece} {error : ParseError} :
    readPieces catalog read offset (piece :: rest) = .error error ↔
      PieceFails catalog read offset piece error ∨
        ∃ node, PieceReads catalog read piece node ∧
          readPieces catalog read (offset + Text.width piece.source) rest = .error error := by
  cases piece with
  | text content =>
    rw [readPieces, bind_eq_error_iff]
    constructor
    · rintro (h | ⟨nodes, -, h⟩)
      · exact .inr ⟨_, rfl, h⟩
      · cases h
    · rintro (h | ⟨node, -, h⟩)
      · exact h.elim
      · exact .inl h
  | span inner =>
    rw [readPieces, bind_eq_error_iff, readSpan_eq_error_iff, ← Brace.add_width_braced]
    refine or_congr Iff.rfl (exists_congr fun node => and_congr (readSpan_eq_ok_iff hread) ?_)
    rw [bind_eq_error_iff]
    constructor
    · rintro (h | ⟨nodes, -, h⟩)
      · exact h
      · cases h
    · exact .inl
  | unclosed behind =>
    rw [readPieces]
    constructor
    · intro h
      exact .inl (Except.error.inj h).symm
    · rintro (rfl | ⟨node, h, -⟩)
      · rfl
      · exact h.elim

/-- **Pieces are an error** exactly if one of them is and those in front of it are read. -/
theorem readPieces_eq_error_iff {offset : Nat} {pieces : List Piece} {error : ParseError} :
    readPieces catalog read offset pieces = .error error ↔
      ∃ before piece after, pieces = before ++ piece :: after ∧
        (∃ tree, List.Forall₂ (PieceReads catalog read) before tree) ∧
        PieceFails catalog read (offset + Text.width (Piece.sources before)) piece error := by
  induction pieces generalizing offset with
  | nil =>
    constructor
    · intro h
      cases h
    · rintro ⟨before, piece, after, hnil, -⟩
      simp at hnil
  | cons first rest ih =>
    have hwidth (before : List Piece) : offset + Text.width (Piece.sources (first :: before))
        = offset + Text.width first.source + Text.width (Piece.sources before) := by
      rw [Piece.sources_cons, Text.width_append, Nat.add_assoc]
    rw [readPieces_cons_eq_error_iff hread, ih]
    constructor
    · rintro (hfails | ⟨node, hnode, before, piece, after, rfl, ⟨tree, htree⟩, hfails⟩)
      · exact ⟨[], first, rest, rfl, ⟨[], .nil⟩, hfails⟩
      · refine ⟨first :: before, piece, after, rfl, ⟨node :: tree, .cons hnode htree⟩, ?_⟩
        rwa [hwidth]
    · rintro ⟨before, piece, after, heq, ⟨tree, htree⟩, hfails⟩
      cases before with
      | nil =>
        obtain ⟨rfl, -⟩ := List.cons.inj heq
        exact .inl hfails
      | cons _ before =>
        obtain ⟨rfl, rfl⟩ := List.cons.inj heq
        obtain ⟨node, nodes, hnode, hnodes, rfl⟩ := List.forall₂_cons_left_iff.1 htree
        rw [hwidth] at hfails
        exact .inr ⟨node, hnode, before, piece, after, rfl, ⟨nodes, hnodes⟩, hfails⟩

/-- **A text is an error** exactly if one of its pieces is and those in front of it are read. -/
theorem scanWith_eq_error_iff {offset : Nat} {s : List Char} {error : ParseError} :
    scanWith catalog read offset s = .error error ↔
      ∃ before piece after, Piece.cut s = before ++ piece :: after ∧
        (∃ tree, List.Forall₂ (PieceReads catalog read) before tree) ∧
        PieceFails catalog read (offset + Text.width (Piece.sources before)) piece error := by
  rw [scanWith]
  split
  · rename_i hcut
    simp [hcut]
  · exact readPieces_eq_error_iff hread

end Pieces

end Interpolation
