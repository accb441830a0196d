import Interpolation.Proofs.Failing
import Interpolation.Proofs.FixedPoint

/-!
# Two texts in a row

What the scanner finds in a text is decided by the text alone, so that a text may be read in two parts. If the
first part is read to a tree, the whole is read like the second part, with that tree in front of it
(`Interpolation.scanWith_append`); and if a span of the first part is an error, nothing behind it matters
(`Interpolation.scanWith_append_of_error`). Only a span that is still open can be mended by what follows.

The two parts do not meet without a trace. Literal text on both sides of the seam is one node of the whole,
which is what `Interpolation.Piece.onto` and `Interpolation.Node.onto` say, and an opening brace at the end of
literal text must not stand in front of another one.

Everything rests on one step, for a single piece in front of a text (`Interpolation.Piece.cut_source_append`,
`Interpolation.readPieces_onto`); the rest is an induction along the pieces of the first part.
-/

namespace Interpolation

open Brace

/-! ### Texts that touch -/

/-- A piece in front of others, as the scanner cuts them: literal text is one piece with literal text behind
it. -/
def Piece.onto : Piece → List Piece → List Piece
  | .text first, .text next :: rest => .text (first ++ next) :: rest
  | .text first, rest => Piece.ofText first ++ rest
  | piece, rest => piece :: rest

/-- A node in front of a tree: a text is one node with a text behind it, and an empty text is none. -/
def Node.onto : Node → Tree → Tree
  | .text first, .text next :: rest => .text (first ++ next) :: rest
  | .text first, rest => if first = "" then rest else .text first :: rest
  | node, rest => node :: rest

/-- Nodes as a tree. Where there are none, the tree is one empty text. -/
def Tree.orEmpty : List Node → Tree
  | [] => [.text ""]
  | nodes => nodes

/-- **Two trees in a row**: their nodes without the empty texts, texts that touch being one. -/
def Tree.join (first second : Tree) : Tree := Tree.orEmpty ((first ++ second).foldr Node.onto [])

/-- A tree whose last node is a text that ends in an opening brace. -/
def Tree.EndsOpening (tree : Tree) : Prop :=
  ∃ content, tree.getLast? = some (.text content) ∧ content.toList.getLast? = some '{'

@[simp] theorem Piece.span_onto (inner : List Char) (rest : List Piece) :
    (Piece.span inner).onto rest = .span inner :: rest := rfl

@[simp] theorem Node.empty_onto (rest : Tree) : (Node.text "").onto rest = rest := by
  cases rest with
  | nil => rfl
  | cons node rest => cases node <;> simp [Node.onto]

@[simp] theorem Tree.foldr_onto_orEmpty (nodes : List Node) (rest : Tree) :
    (Tree.orEmpty nodes).foldr Node.onto rest = nodes.foldr Node.onto rest := by
  cases nodes with
  | nil => simp [Tree.orEmpty]
  | cons node nodes => rfl

/-! ### Cutting -/

/-- An opening pair in a text lies in one of its halves or on the seam. -/
theorem Brace.lacksOpening_append {s t : List Char} :
    LacksOpening (s ++ t) ↔
      LacksOpening s ∧ LacksOpening t ∧ ¬(s.getLast? = some '{' ∧ t.head? = some '{') := by
  induction s with
  | nil => simp [LacksOpening]
  | cons c s ih =>
    rw [List.cons_append, lacksOpening_cons, lacksOpening_cons, ih]
    cases s with
    | nil => simp [LacksOpening, and_comm]
    | cons d s => simp [and_assoc]

/-- Literal text in front of a text that starts with literal text is part of the same piece. -/
theorem Piece.cut_append_of_text {content second s : List Char} {rest : List Piece}
    (hcut : cut s = text second :: rest) (hlacks : LacksOpening content)
    (hseam : ¬(content.getLast? = some '{' ∧ s.head? = some '{')) :
    cut (content ++ s) = text (content ++ second) :: rest := by
  obtain ⟨rfl, hsound, hchain⟩ := cut_eq_iff.1 hcut
  obtain ⟨⟨hne, hsecond⟩, hrest⟩ := List.forall_mem_cons.1 hsound
  rw [sources_cons, source, List.head?_append_of_ne_nil _ hne] at hseam
  have hlast : (content ++ second).getLast? = second.getLast? := List.getLast?_append_of_ne_nil _ hne
  refine cut_eq_iff.2 ⟨?_, List.forall_mem_cons.2 ⟨⟨?_, ?_⟩, hrest⟩, ?_⟩
  · rw [sources_cons, sources_cons, source, source, List.append_assoc]
  · simp [hne]
  · exact lacksOpening_append.2 ⟨hlacks, hsecond, hseam⟩
  · cases rest with
    | nil => exact .singleton _
    | cons third rest =>
      obtain ⟨hfirst, htail⟩ := List.isChain_cons_cons.1 hchain
      refine List.isChain_cons_cons.2 ⟨?_, htail⟩
      cases third with
      | text _ => exact hfirst.elim
      | span _ => exact hlast.trans_ne hfirst
      | unclosed _ => exact hlast.trans_ne hfirst

/-- **One piece in front of a text** does not change how the text is cut. -/
theorem Piece.cut_source_append {piece : Piece} (hsound : piece.Sound)
    (hclosed : ∀ behind, piece ≠ .unclosed behind) {s : List Char}
    (hseam : ∀ content, piece = .text content → ¬(content.getLast? = some '{' ∧ s.head? = some '{')) :
    cut (piece.source ++ s) = piece.onto (cut s) := by
  cases piece with
  | unclosed behind => exact absurd rfl (hclosed behind)
  | span inner =>
    rw [source, braced, List.append_assoc]
    exact cut_span hsound s
  | text content =>
    have hseam := hseam content rfl
    obtain ⟨hsource, -, -⟩ := cut_spec s
    rw [source]
    cases hcut : cut s with
    | nil =>
      rw [hcut] at hsource
      obtain rfl : s = [] := hsource.symm
      rw [List.append_nil, cut_of_lacksOpening hsound.2]
      simp [Piece.onto]
    | cons next rest =>
      rw [hcut] at hsource
      -- What is not literal text starts with an opening pair, which is found as before.
      have hopens {behind : List Char} (hs : s = '{' :: '{' :: behind) :
          cut (content ++ s) = ofText content ++ next :: rest := by
        have hlast : content.getLast? ≠ some '{' := fun h => hseam ⟨h, by rw [hs]; rfl⟩
        rw [hs, cut_of_opening hsound.2 hlast, ← hs, hcut]
      cases next with
      | text second => exact cut_append_of_text hcut hsound.2 hseam
      | span inner => exact hopens hsource.symm
      | unclosed behind => exact hopens hsource.symm

/-- **Pieces in front of a text** do not change how the text is cut, as long as they keep apart from it. -/
theorem Piece.cut_sources_append {pieces : List Piece} (hsound : ∀ piece ∈ pieces, piece.Sound)
    (hchain : pieces.IsChain MayPrecede) (hclosed : ∀ behind, .unclosed behind ∉ pieces) {s : List Char}
    (hseam : ∀ content, pieces.getLast? = some (.text content) →
      ¬(content.getLast? = some '{' ∧ s.head? = some '{')) :
    cut (sources pieces ++ s) = pieces.foldr Piece.onto (cut s) := by
  induction pieces with
  | nil => rfl
  | cons piece rest ih =>
    have hpiece := hsound piece List.mem_cons_self
    rw [sources_cons, List.append_assoc, List.foldr_cons,
      cut_source_append hpiece fun behind h => hclosed behind (by simp [h])]
    · rw [ih (fun p hp => hsound p (List.mem_cons_of_mem _ hp)) hchain.tail
        fun behind h => hclosed behind (List.mem_cons_of_mem _ h)]
      intro content hlast
      refine hseam content ?_
      rw [List.getLast?_cons, hlast]
      rfl
    · rintro content rfl
      cases rest with
      | nil => exact hseam content rfl
      | cons next rest =>
        obtain ⟨hlast, -⟩ := (List.isChain_cons_cons.1 hchain).1.text_opens rest
        exact fun h => hlast h.1

/-- What follows a closed span is cut for itself. -/
theorem Piece.cut_append_of_span {s : List Char} {before after : List Piece} {inner : List Char}
    (h : cut s = before ++ .span inner :: after) (t : List Char) :
    cut (s ++ t) = before ++ .span inner :: cut (sources after ++ t) := by
  obtain ⟨hsource, hsound, hchain⟩ := cut_eq_iff.1 h
  obtain ⟨hrestSource, hrestSound, hrestChain⟩ := cut_spec (sources after ++ t)
  refine cut_eq_iff.2 ⟨?_, ?_, ?_⟩
  · rw [← hsource, sources_append, sources_append, sources_cons, sources_cons, hrestSource]
    simp only [List.append_assoc]
  · intro piece hmem
    rcases List.mem_append.1 hmem with hmem | hmem
    · exact hsound piece (List.mem_append_left _ hmem)
    · rcases List.mem_cons.1 hmem with rfl | hmem
      · exact hsound _ (by simp)
      · exact hrestSound piece hmem
  · refine List.isChain_split.2 ⟨(List.isChain_split.1 hchain).1, ?_⟩
    cases hcut : cut (sources after ++ t) with
    | nil => exact .singleton _
    | cons next rest => exact .cons_cons trivial (hcut ▸ hrestChain)

/-! ### Reading -/

section Reading

variable {catalog : Catalog} {read : Reader}

/-- Where the last piece is literal text, so is the last node. -/
theorem getLast?_of_reads {pieces : List Piece} {tree : Tree}
    (h : List.Forall₂ (PieceReads catalog read) pieces tree) {content : List Char}
    (hlast : pieces.getLast? = some (.text content)) :
    tree.getLast? = some (.text (String.ofList content)) := by
  induction h with
  | nil => simp at hlast
  | @cons piece node pieces tree hreads hrest ih =>
    cases hrest with
    | nil =>
      obtain rfl : piece = .text content := by simpa using hlast
      obtain rfl : node = .text (String.ofList content) := hreads
      rfl
    | cons => exact ih hlast

section Translating

variable (hread : read.Translates)

include hread

/-- A text is scanned by reading its pieces. -/
theorem scanWith_eq (offset : Nat) (s : List Char) :
    scanWith catalog read offset s = Tree.orEmpty <$> readPieces catalog read offset (Piece.cut s) := by
  rw [scanWith]
  split
  · rename_i hcut
    rw [hcut]
    rfl
  · rename_i hne
    cases hresult : readPieces catalog read offset (Piece.cut s) with
    | error error => rfl
    | ok tree =>
      have hlength := ((readPieces_eq_ok_iff hread).1 hresult).length_eq
      cases tree with
      | nil => exact absurd (List.length_eq_zero_iff.1 hlength) hne
      | cons node tree => rfl

/-- **One piece in front of others** is read to one node in front of theirs. -/
theorem readPieces_onto {piece : Piece} {node : Node} (hpiece : PieceReads catalog read piece node)
    (hsound : piece.Sound) (offset : Nat) (rest : List Piece) :
    readPieces catalog read offset (piece.onto rest) =
      node.onto <$> readPieces catalog read (offset + Text.width piece.source) rest := by
  cases piece with
  | unclosed behind => exact hpiece.elim
  | span inner =>
    have honto : node.onto = (node :: ·) := by
      funext tree
      cases hpiece <;> rfl
    rw [Piece.span_onto, readPieces, (readSpan_eq_ok_iff hread).2 hpiece, honto, ← add_width_braced,
      map_eq_pure_bind]
    rfl
  | text content =>
    obtain rfl : node = .text (String.ofList content) := hpiece
    have hne : content ≠ [] := hsound.1
    rw [Piece.source]
    cases rest with
    | nil => simp [Piece.onto, Piece.ofText, hne, readPieces, Node.onto]
    | cons next rest =>
      cases next with
      | text second =>
        rw [Piece.onto, readPieces, readPieces, Text.width_append, ← Nat.add_assoc, map_eq_pure_bind,
          bind_assoc, String.ofList_append]
        rfl
      | unclosed behind =>
        simp [Piece.onto, Piece.ofText, hne, readPieces]
      | span inner =>
        have honto : (Piece.text content).onto (.span inner :: rest)
            = .text content :: .span inner :: rest := by simp [Piece.onto, Piece.ofText, hne]
        rw [honto, readPieces]
        cases hresult : readPieces catalog read (offset + Text.width content) (.span inner :: rest) with
        | error error => rfl
        | ok tree =>
          obtain ⟨node, nodes, hnode, -, rfl⟩ :=
            List.forall₂_cons_left_iff.1 ((readPieces_eq_ok_iff hread).1 hresult)
          cases hnode <;> simp [Node.onto, hne]

/-- **Pieces in front of others** are read to nodes in front of theirs. -/
theorem readPieces_foldr_onto {pieces : List Piece} {nodes : Tree}
    (hreads : List.Forall₂ (PieceReads catalog read) pieces nodes)
    (hsound : ∀ piece ∈ pieces, piece.Sound) (offset : Nat) (rest : List Piece) :
    readPieces catalog read offset (pieces.foldr Piece.onto rest) =
      (nodes.foldr Node.onto ·) <$>
        readPieces catalog read (offset + Text.width (Piece.sources pieces)) rest := by
  induction hreads generalizing offset with
  | nil => simp
  | @cons piece node pieces nodes hpiece _ ih =>
    obtain ⟨hfirst, hrest⟩ := List.forall_mem_cons.1 hsound
    rw [List.foldr_cons, readPieces_onto hread hpiece hfirst, ih hrest, ← comp_map, Piece.sources_cons,
      Text.width_append, Nat.add_assoc]
    rfl

/-- In what the pieces of a text are read to, no texts touch. -/
theorem foldr_onto_of_reads {s : List Char} {nodes : Tree}
    (hreads : List.Forall₂ (PieceReads catalog read) (Piece.cut s) nodes) :
    nodes.foldr Node.onto [] = nodes := by
  obtain ⟨hsource, hsound, hchain⟩ := Piece.cut_spec s
  have hcut := Piece.cut_sources_append hsound hchain (unclosed_notMem_of_reads hreads) (s := []) (by simp)
  have hnodes := readPieces_foldr_onto hread hreads hsound 0 (Piece.cut [])
  rw [← hcut, List.append_nil, hsource, (readPieces_eq_ok_iff hread).2 hreads,
    Piece.cut_of_lacksOpening (by decide)] at hnodes
  exact (Except.ok.inj hnodes).symm

/-- **A text whose first part is read** is read like the rest of it, with the first part's tree in front. -/
theorem scanWith_append {offset : Nat} {s : List Char} {first : Tree}
    (hfirst : scanWith catalog read offset s = .ok first) {t : List Char}
    (hseam : ¬(first.EndsOpening ∧ t.head? = some '{')) :
    scanWith catalog read offset (s ++ t) =
      first.join <$> scanWith catalog read (offset + Text.width s) t := by
  rw [scanWith_eq hread, map_eq_ok_iff] at hfirst
  obtain ⟨nodes, hnodes, rfl⟩ := hfirst
  have hreads := (readPieces_eq_ok_iff hread).1 hnodes
  obtain ⟨hsource, hsound, hchain⟩ := Piece.cut_spec s
  have hcut : Piece.cut (s ++ t) = (Piece.cut s).foldr Piece.onto (Piece.cut t) := by
    conv_lhs => rw [← hsource]
    refine Piece.cut_sources_append hsound hchain (unclosed_notMem_of_reads hreads) ?_
    rintro content hlast ⟨hopening, hhead⟩
    have hlast := getLast?_of_reads hreads hlast
    refine hseam ⟨⟨_, ?_, by rwa [String.toList_ofList]⟩, hhead⟩
    cases nodes with
    | nil => simp at hlast
    | cons => exact hlast
  rw [scanWith_eq hread, scanWith_eq hread, hcut, readPieces_foldr_onto hread hreads hsound, hsource]
  cases hresult : readPieces catalog read (offset + Text.width s) (Piece.cut t) with
  | error error => rfl
  | ok rest =>
    have hrest := foldr_onto_of_reads hread ((readPieces_eq_ok_iff hread).1 hresult)
    simp [Tree.join, hrest]

/-- **An error in a span is not mended** by what follows the text. -/
theorem scanWith_append_of_error {offset : Nat} {s : List Char} {error : ParseError}
    (h : scanWith catalog read offset s = .error error) (hfault : error.fault ≠ .unmatchedBraces)
    (t : List Char) : scanWith catalog read offset (s ++ t) = .error error := by
  obtain ⟨before, piece, after, hcut, hreads, hfails⟩ := (scanWith_eq_error_iff hread).1 h
  cases piece with
  | text content => exact hfails.elim
  | unclosed behind =>
    obtain rfl : error = ⟨.unmatchedBraces, _⟩ := hfails
    exact absurd rfl hfault
  | span inner =>
    exact (scanWith_eq_error_iff hread).2 ⟨before, _, _, Piece.cut_append_of_span hcut t, hreads, hfails⟩

end Translating

end Reading

/-! ### Scanning -/

namespace Dialect

/-- **Scanning two texts in a row.** If the first can be read, the whole is read to the trees of both, or has
the error of the second, so many bytes further on; only two opening braces must not meet. If the first has an
error other than an open span, so has the whole, whatever the second is. -/
theorem scan_append (dialect : Dialect) (first second : String) :
    (∀ tree, dialect.scan first = .ok tree →
      ¬(tree.EndsOpening ∧ second.toList.head? = some '{') →
        (∀ behind, dialect.scan second = .ok behind →
          dialect.scan (first ++ second) = .ok (tree.join behind)) ∧
        (∀ error, dialect.scan second = .error error →
          dialect.scan (first ++ second) = .error (error.shift first.utf8ByteSize))) ∧
    (∀ error, dialect.scan first = .error error → error.fault ≠ .unmatchedBraces →
      dialect.scan (first ++ second) = .error error) := by
  have hread := dialect.values_translates
  simp only [scan_eq, String.toList_append]
  refine ⟨fun tree htree hseam => ?_, fun error herror hfault => ?_⟩
  · rw [scanWith_append hread htree hseam, Nat.zero_add, ← Nat.add_zero (Text.width _),
      scanWith_translates hread, Text.width_toList]
    exact ⟨fun behind hbehind => by rw [hbehind]; rfl, fun error herror => by rw [herror]; rfl⟩
  · exact scanWith_append_of_error hread herror hfault _

/-- A text that is read in front of one that is read and of one that is not, and a text with an error. -/
theorem scan_append_joining :
    joining.scan ("Hi {{a}}, " ++ "you {{text.join(b)}}") =
        .ok [.text "Hi ", .variable "a", .text ", you ",
          .call ⟨"text", joinMethod, [⟨.positional, "string", some [.text "b"]⟩,
            ⟨.positional, "string", none⟩, ⟨.keyword "by", "string", none⟩]⟩] ∧
      joining.scan ("Hi {{a}}, " ++ "you {{text.join(with=b)}}") = .error ⟨.unknownKeyword "with", 26⟩ ∧
      joining.scan ("Hi {{ }}, " ++ "you {{a}}") = .error ⟨.emptyInterpolation, 3⟩ := by
  have hfirst : joining.scan "Hi {{a}}, " = .ok [.text "Hi ", .variable "a", .text ", "] := by cbv
  have hsecond : joining.scan "you {{text.join(b)}}" =
      .ok [.text "you ", .call ⟨"text", joinMethod, [⟨.positional, "string", some [.text "b"]⟩,
        ⟨.positional, "string", none⟩, ⟨.keyword "by", "string", none⟩]⟩] := by cbv
  have hunknown : joining.scan "you {{text.join(with=b)}}" = .error ⟨.unknownKeyword "with", 16⟩ := by cbv
  have hblank : joining.scan "Hi {{ }}, " = .error ⟨.emptyInterpolation, 3⟩ := by cbv
  refine ⟨?_, ?_, ?_⟩
  · rw [((scan_append joining _ _).1 _ hfirst fun h => absurd h.2 (by decide)).1 _ hsecond]
    cbv
  · rw [((scan_append joining _ _).1 _ hfirst fun h => absurd h.2 (by decide)).2 _ hunknown]
    cbv
  · exact (scan_append joining _ _).2 _ hblank (by decide)

end Dialect

end Interpolation
