import Interpolation.Proofs.Rereading

/-!
# What a text and its canonical text have in common

A text may differ from the canonical text of its tree anywhere inside a span, and nowhere else. So the two
look alike at their ends (`Interpolation.Alike`): they begin and end with the same character, and if the one
has no keyword in front, neither has the other. Nothing else about a text matters to the label that it is an
argument for (`Interpolation.Label.Accepts.of_alike`), and so the canonical text of a value is accepted
wherever the value was found.
-/

namespace Interpolation

open Brace

/-- **The second text looks like the first one at its ends.** -/
structure Alike (s t : List Char) : Prop where
  head : s.head? = t.head?
  last : s.getLast? = t.getLast?
  keyword : keyword? s = none → keyword? t = none

/-! ### Pieces and nodes -/

section Pieces

variable {catalog : Catalog} {read : Reader}

/-- A piece and the canonical text of its node begin and end alike. -/
theorem ends_of_reads {piece : Piece} {node : Node} (hreads : PieceReads catalog read piece node) :
    piece.source.head? = node.spelling.head? ∧ piece.source.getLast? = node.spelling.getLast? := by
  have hspan (inner inner' : List Char) : (braced inner).head? = (braced inner').head? ∧
      (braced inner).getLast? = (braced inner').getLast? := by
    simp [braced, List.getLast?_cons, List.getLast?_append]
  cases piece with
  | unclosed behind => exact hreads.elim
  | text content =>
    obtain rfl : node = .text (String.ofList content) := hreads
    simp [Piece.source]
  | span inner =>
    cases hreads with
    | path => simpa [Piece.source] using hspan _ _
    | call => simpa [Piece.source] using hspan _ _

/-- So do several pieces. -/
theorem ends_of_forall₂_reads {pieces : List Piece} {tree : Tree}
    (hreads : List.Forall₂ (PieceReads catalog read) pieces tree) :
    (Piece.sources pieces).head? = tree.spelling.head? ∧
      (Piece.sources pieces).getLast? = tree.spelling.getLast? := by
  induction hreads with
  | nil => simp
  | cons hpiece _ ih =>
    obtain ⟨hhead, hlast⟩ := ends_of_reads hpiece
    rw [Piece.sources_cons, Tree.spelling_cons, List.head?_append, List.head?_append, List.getLast?_append,
      List.getLast?_append, hhead, hlast, ih.1, ih.2]
    exact ⟨rfl, rfl⟩

theorem keyword?_eq_none_of_head {s : List Char} (h : s.head? = some '{') : keyword? s = none := by
  refine keyword?_append_eq_none (s := []) rfl fun c hc => ?_
  rw [h] at hc
  obtain rfl := Option.some.inj hc
  decide

/-- A text in front of a span has a keyword exactly when it has one by itself. -/
theorem keyword?_append_eq_none_iff {s t : List Char} (ht : t = [] ∨ t.head? = some '{') :
    keyword? (s ++ t) = none ↔ keyword? s = none := by
  constructor
  · intro h
    by_contra hsome
    obtain ⟨⟨word, value⟩, hfound⟩ := Option.ne_none_iff_exists'.1 hsome
    obtain ⟨rfl, hword⟩ := keyword?_eq_some_iff.1 hfound
    rw [List.append_assoc, List.cons_append, keyword?_eq_some_iff.2 ⟨rfl, hword⟩] at h
    simp at h
  · intro h
    refine keyword?_append_eq_none h fun c hc => ?_
    rcases ht with rfl | ht
    · simp at hc
    · rw [ht] at hc
      obtain rfl := Option.some.inj hc
      decide

/-- **Pieces and the canonical text of their nodes look alike.** -/
theorem alike_of_reads {pieces : List Piece} {tree : Tree} (hchain : pieces.IsChain Piece.MayPrecede)
    (hreads : List.Forall₂ (PieceReads catalog read) pieces tree) :
    Alike (Piece.sources pieces) tree.spelling := by
  obtain ⟨hhead, hlast⟩ := ends_of_forall₂_reads hreads
  refine ⟨hhead, hlast, fun hnone => ?_⟩
  cases hreads with
  | nil => rfl
  | @cons piece node pieces tree hpiece hrest =>
    cases piece with
    | unclosed behind => exact hpiece.elim
    | span inner =>
      refine keyword?_eq_none_of_head ?_
      rw [← hhead]
      rfl
    | text content =>
      obtain rfl : node = .text (String.ofList content) := hpiece
      -- Behind the text there is a span, if anything, and no keyword reaches into one.
      have hrests : Piece.sources pieces = [] ∨ (Piece.sources pieces).head? = some '{' := by
        cases pieces with
        | nil => exact Or.inl rfl
        | cons next pieces =>
          have hnext := (List.isChain_cons_cons.1 hchain).1
          cases next with
          | text _ => exact hnext.elim
          | span inner => exact Or.inr rfl
          | unclosed behind => exact Or.inr rfl
      have hspelled : Tree.spelling tree = [] ∨ (Tree.spelling tree).head? = some '{' := by
        rw [← (ends_of_forall₂_reads hrest).1]
        refine hrests.imp_left fun hnil => ?_
        rwa [← List.head?_eq_none_iff, ← (ends_of_forall₂_reads hrest).1, List.head?_eq_none_iff]
      rw [Tree.spelling_cons, Node.spelling_text, String.toList_ofList,
        keyword?_append_eq_none_iff hspelled]
      exact (keyword?_append_eq_none_iff hrests).1 hnone

end Pieces

/-! ### Readers -/

/-- A text that is read looks like the canonical text of its tree. -/
def Reader.KeepsEnds (read : Reader) : Prop :=
  ∀ s tree, read 0 s = .ok tree → Alike s tree.spelling

theorem scanWith_keepsEnds {catalog : Catalog} {read : Reader} (htranslates : read.Translates) :
    Reader.KeepsEnds (scanWith catalog read) := by
  intro s tree h
  rcases (scanWith_eq_ok_iff htranslates).1 h with ⟨rfl, rfl⟩ | ⟨-, hreads⟩
  · exact ⟨by simp, by simp, fun _ => by simp; rfl⟩
  · obtain ⟨hsource, -, hchain⟩ := Piece.cut_spec s
    have halike := alike_of_reads hchain hreads
    rwa [hsource] at halike

theorem readWithin_keepsEnds (catalog : Catalog) (limit levels : Nat) :
    Reader.KeepsEnds (readWithin catalog limit levels) := by
  cases levels with
  | zero =>
    intro s tree h
    simp [readWithin] at h
  | succ levels => exact scanWith_keepsEnds (readWithin_translates catalog limit levels)

/-! ### Labels -/

/-- **A label accepts what looks like a text that it accepts.** -/
theorem Label.Accepts.of_alike {label : Label} {s t : List Char} (h : label.Accepts s) (halike : Alike s t) :
    label.Accepts t := by
  have hends (hend : Text.EndsSolid s) : Text.EndsSolid t := by
    intro c hc
    rw [← halike.last] at hc
    exact hend c hc
  cases label with
  | positional =>
    obtain ⟨hstart, hend⟩ := Text.trim_eq_self_iff.1 h.1
    refine ⟨Text.trim_eq_self_iff.2 ⟨fun c hc => ?_, hends hend⟩, halike.keyword h.2⟩
    rw [← halike.head] at hc
    exact hstart c hc
  | keyword name => exact Text.trimEnd_eq_self_iff.2 (hends (Text.trimEnd_eq_self_iff.1 h))

/-- An argument without blanks at its ends has a value that its label accepts. -/
theorem Label.Takes.accepts {label : Label} {text content : List Char} (h : label.Takes text content)
    (htrim : Text.trim text = text) : label.Accepts content := by
  obtain ⟨-, hend⟩ := Text.trim_eq_self_iff.1 htrim
  cases h with
  | positional hnone => exact ⟨htrim, hnone⟩
  | @keyword name content hword =>
    refine Text.trimEnd_eq_self_iff.2 fun c hc => hend c ?_
    rw [List.getLast?_append, List.getLast?_cons, hc]
    rfl

end Interpolation
