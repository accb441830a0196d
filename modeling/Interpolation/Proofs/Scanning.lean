import Interpolation.Proofs.Binding
import Interpolation.Proofs.Pieces
import Mathlib.Data.List.Forall2

/-!
# How a tree comes about

Scanning without an error is a relation between the pieces of a text and the nodes of a tree, one node for
each piece (`Interpolation.scanWith_eq_ok_iff`). A piece of literal text is itself; a span is a variable or a
call, as the text between its braces, without the blanks around it, has no call head or has one
(`Interpolation.readSpan_eq_ok_iff`). Offsets occur nowhere any more: a reader that translates gives the same
tree wherever it starts.

The text without pieces is the one exception, being one node all the same.
-/

namespace Interpolation

section Pieces

variable {catalog : Catalog} {read : Reader} (hread : read.Translates)

/-- **A span is read** as a variable if it has no call head, and as the call that its arguments are bound to
if it has one. -/
inductive SpanReads (catalog : Catalog) (read : Reader) (inner : List Char) : Node → Prop
  /-- Without a call head, all that the span holds is the path of a variable. -/
  | path :
    Text.trim inner ≠ [] →
    CallHead.read? (Text.trim inner) = none →
    SpanReads catalog read inner (.variable (String.ofList (Text.trim inner)))
  /-- With a call head, what follows it is the argument list. -/
  | call {head : CallHead} {call : Call} :
    CallHead.read? (Text.trim inner) = some head →
    bindWith catalog read 0 0 (String.ofList head.qualifier) (String.ofList head.name) head.arguments
      = .ok call →
    SpanReads catalog read inner (.call call)

/-- **A piece is read** without an error. -/
def PieceReads (catalog : Catalog) (read : Reader) : Piece → Node → Prop
  | .text content, node => node = .text (String.ofList content)
  | .span inner, node => SpanReads catalog read inner node
  | .unclosed _, _ => False

include hread

/-- What a call is bound to does not depend on where it starts. -/
theorem bindWith_eq_ok_congr {callStart listStart : Nat} {qualifier name : String} {raw : List Char}
    {call : Call} :
    bindWith catalog read callStart listStart qualifier name raw = .ok call ↔
      bindWith catalog read 0 0 qualifier name raw = .ok call := by
  rw [bindWith_eq_ok_iff hread, bindWith_eq_ok_iff hread]

theorem readSpan_eq_ok_iff {offset : Nat} {inner : List Char} {node : Node} :
    readSpan catalog read offset inner = .ok node ↔ SpanReads catalog read inner node := by
  rw [readSpan]
  constructor
  · intro h
    split at h
    · simp at h
    · rename_i hne
      split at h
      · rename_i hhead
        obtain rfl := Except.ok.inj h
        exact .path (by simpa using hne) hhead
      · rename_i head hhead
        obtain ⟨call, hcall, rfl⟩ := map_eq_ok_iff.1 h
        exact .call hhead ((bindWith_eq_ok_congr hread).1 hcall)
  · intro h
    cases h with
    | path hne hhead => rw [if_neg (by simpa using hne), hhead]
    | @call head call hhead hcall =>
      -- The empty text has no head.
      have hne : ¬(Text.trim inner).isEmpty = true := by
        intro hempty
        rw [List.isEmpty_iff.1 hempty] at hhead
        simp [CallHead.read?] at hhead
      rw [if_neg hne, hhead]
      exact map_eq_ok_iff.2 ⟨call, (bindWith_eq_ok_congr hread).2 hcall, rfl⟩

theorem readPieces_eq_ok_iff {offset : Nat} {pieces : List Piece} {tree : Tree} :
    readPieces catalog read offset pieces = .ok tree ↔
      List.Forall₂ (PieceReads catalog read) pieces tree := by
  induction pieces generalizing offset tree with
  | nil =>
    rw [readPieces, List.forall₂_nil_left_iff]
    exact ⟨fun h => (Except.ok.inj h).symm, fun h => by rw [h]⟩
  | cons piece rest ih =>
    rw [List.forall₂_cons_left_iff]
    cases piece with
    | text content =>
      rw [readPieces, bind_eq_ok_iff]
      constructor
      · rintro ⟨nodes, hrest, h⟩
        exact ⟨_, nodes, rfl, ih.1 hrest, (Except.ok.inj h).symm⟩
      · rintro ⟨node, nodes, hnode, hrest, rfl⟩
        obtain rfl : node = .text (String.ofList content) := hnode
        exact ⟨nodes, ih.2 hrest, rfl⟩
    | span inner =>
      rw [readPieces, bind_eq_ok_iff]
      constructor
      · rintro ⟨node, hnode, h⟩
        obtain ⟨nodes, hrest, h⟩ := bind_eq_ok_iff.1 h
        exact ⟨node, nodes, (readSpan_eq_ok_iff hread).1 hnode, ih.1 hrest, (Except.ok.inj h).symm⟩
      · rintro ⟨node, nodes, hnode, hrest, rfl⟩
        exact ⟨node, (readSpan_eq_ok_iff hread).2 hnode, bind_eq_ok_iff.2 ⟨nodes, ih.2 hrest, rfl⟩⟩
    | unclosed behind =>
      rw [readPieces]
      constructor
      · intro h
        simp at h
      · rintro ⟨node, nodes, hnode, -, -⟩
        exact hnode.elim

omit hread in
/-- Where pieces are read, every span is closed. -/
theorem unclosed_notMem_of_reads {pieces : List Piece} {tree : Tree}
    (h : List.Forall₂ (PieceReads catalog read) pieces tree) (behind : List Char) :
    .unclosed behind ∉ pieces := by
  induction h with
  | nil => simp
  | @cons piece node pieces tree hreads _ ih =>
    rw [List.mem_cons, not_or]
    refine ⟨?_, ih⟩
    rintro rfl
    exact hreads.elim

omit hread in
/-- Every node was read from one of the pieces. -/
theorem exists_piece_of_mem {pieces : List Piece} {tree : Tree}
    (h : List.Forall₂ (PieceReads catalog read) pieces tree) {node : Node} (hmem : node ∈ tree) :
    ∃ piece ∈ pieces, PieceReads catalog read piece node := by
  induction h with
  | nil => simp at hmem
  | @cons piece first pieces tree hreads _ ih =>
    rcases List.mem_cons.1 hmem with rfl | hmem
    · exact ⟨piece, List.mem_cons_self, hreads⟩
    · obtain ⟨piece, hpiece, hreads⟩ := ih hmem
      exact ⟨piece, List.mem_cons_of_mem _ hpiece, hreads⟩

omit hread in
/-- The literal texts of a tree are the ones that it was read from. -/
theorem text_mem_iff_of_reads {pieces : List Piece} {tree : Tree}
    (h : List.Forall₂ (PieceReads catalog read) pieces tree) (content : List Char) :
    .text content ∈ pieces ↔ Node.text (String.ofList content) ∈ tree := by
  induction h with
  | nil => simp
  | @cons piece node pieces tree hreads _ ih =>
    rw [List.mem_cons, List.mem_cons, ih]
    refine or_congr ?_ Iff.rfl
    cases piece with
    | text first =>
      obtain rfl : node = .text (String.ofList first) := hreads
      simp [String.ofList_inj]
    | span inner => cases hreads <;> simp
    | unclosed behind => exact hreads.elim

/-- **A text is scanned** by reading its pieces, one node for each; the empty text is one empty node. -/
theorem scanWith_eq_ok_iff {offset : Nat} {s : List Char} {tree : Tree} :
    scanWith catalog read offset s = .ok tree ↔
      (s = [] ∧ tree = [.text ""]) ∨
        (s ≠ [] ∧ List.Forall₂ (PieceReads catalog read) (Piece.cut s) tree) := by
  obtain ⟨hsource, -, -⟩ := Piece.cut_spec s
  rw [scanWith]
  split
  · rename_i hcut
    obtain rfl : s = [] := by rw [← hsource, hcut, Piece.sources_nil]
    simpa using eq_comm
  · rename_i hcut
    have hne : s ≠ [] := by
      rintro rfl
      exact hcut (Piece.cut_of_lacksOpening (by decide))
    rw [readPieces_eq_ok_iff hread]
    simp [hne]

end Pieces

end Interpolation
