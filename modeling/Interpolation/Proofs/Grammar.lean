import Interpolation.Proofs.Scanning

/-!
# The grammar of interpolated texts

Which texts a tree may come from, without a word about how texts are read. Each node has a source piece
(`Interpolation.Node.SpelledBy`): a literal text is its own, and a span is what its braces hold, blanks
included, so that one node has many sources. The pieces of a tree stand side by side, under a condition on
neighbours that concerns literal texts alone (`Interpolation.Node.MayPrecede`).

Scanning is this grammar and nothing else (`Interpolation.Dialect.scan_eq_ok_iff`): it accepts exactly the
texts that are spelled by some tree, gives that tree, and loses nothing of the text on the way.
-/

namespace Interpolation

open Brace

/-! ### Source pieces -/

/-- **The head stands at the beginning of a text**: a word, a dot, words with single hyphens between them and
an opening parenthesis. -/
def CallHead.Begins (head : CallHead) (s : List Char) : Prop :=
  s = head.text ++ head.rest ∧ isWord head.qualifier = true ∧ Hyphenated head.name

theorem CallHead.read?_eq_some_iff_begins {s : List Char} {head : CallHead} :
    CallHead.read? s = some head ↔ head.Begins s := by
  rw [CallHead.read?_eq_some_iff, isMethodName_iff]
  rfl

theorem CallHead.read?_eq_none_iff_begins {s : List Char} :
    CallHead.read? s = none ↔ ∀ head : CallHead, ¬head.Begins s := by
  rw [Option.eq_none_iff_forall_ne_some]
  exact forall_congr' fun head => not_congr CallHead.read?_eq_some_iff_begins

/-- **The source pieces of a node.** -/
inductive Node.SpelledBy (dialect : Dialect) : Node → List Char → Prop
  /-- Literal text is its own source. It is not empty and has no opening pair of braces. -/
  | text {content : String} :
    content ≠ "" →
    LacksOpening content.toList →
    SpelledBy dialect (.text content) content.toList
  /-- A span without a call head is the variable of its path. -/
  | path {inner : List Char} :
    Closes inner →
    Text.isBlankText inner = false →
    (∀ head : CallHead, ¬head.Begins (Text.trim inner)) →
    SpelledBy dialect (.variable (String.ofList (Text.trim inner))) (braced inner)
  /-- A span with a call head is what binding makes of the text behind it. -/
  | call {inner : List Char} {head : CallHead} {call : Call} :
    Closes inner →
    Text.isBlankText inner = false →
    head.Begins (Text.trim inner) →
    dialect.bind (String.ofList head.qualifier) (String.ofList head.name) (String.ofList head.arguments)
      = .ok call →
    SpelledBy dialect (.call call) (braced inner)

/-- **What is true of a node and the next one**: two literal texts do not meet, and none ends in an opening
brace in front of a span. -/
def Node.MayPrecede : Node → Node → Prop
  | .text _, .text _ => False
  | .text content, _ => content.toList.getLast? ≠ some '{'
  | _, _ => True

/-- **The texts that a tree is spelled by**: one source piece for each node, side by side. -/
def Tree.SpelledBy (dialect : Dialect) (tree : Tree) (text : List Char) : Prop :=
  ∃ sources : List (List Char), List.Forall₂ (Node.SpelledBy dialect) tree sources ∧
    sources.flatten = text ∧ tree.IsChain Node.MayPrecede

/-! ### The grammar and the scanner -/

section Reading

variable {dialect : Dialect}

/-- The reader of the values of arguments. -/
def Dialect.values (dialect : Dialect) : Reader :=
  readWithin dialect.catalog dialect.maxDepth dialect.maxDepth

theorem Dialect.values_translates (dialect : Dialect) : dialect.values.Translates :=
  readWithin_translates _ _ _

theorem Dialect.scan_eq (dialect : Dialect) (text : String) :
    dialect.scan text = scanWith dialect.catalog dialect.values 0 text.toList := rfl

theorem Dialect.bind_ofList (dialect : Dialect) (qualifier name : String) (raw : List Char) :
    dialect.bind qualifier name (String.ofList raw)
      = bindWith dialect.catalog dialect.values 0 0 qualifier name raw := by
  rw [Dialect.bind, String.toList_ofList]
  rfl

/-- **A source piece of a node** is the source of a sound piece that is read as the node. -/
theorem Node.spelledBy_iff {node : Node} {source : List Char} :
    node.SpelledBy dialect source ↔
      ∃ piece : Piece, PieceReads dialect.catalog dialect.values piece node ∧ piece.Sound ∧
        piece.source = source := by
  constructor
  · intro h
    cases h with
    | @text content hne hlacks =>
      exact ⟨.text content.toList, by simp [PieceReads], ⟨by simpa using hne, hlacks⟩, rfl⟩
    | @path inner hcloses hblank hnone =>
      refine ⟨.span inner, .path ?_ ?_, hcloses, rfl⟩
      · rw [Ne, Text.trim_eq_nil_iff, hblank]
        exact Bool.false_ne_true
      · exact CallHead.read?_eq_none_iff_begins.2 hnone
    | @call inner head call hcloses hblank hhead hbind =>
      refine ⟨.span inner, .call (CallHead.read?_eq_some_iff_begins.2 hhead) ?_, hcloses, rfl⟩
      rwa [Dialect.bind_ofList] at hbind
  · rintro ⟨piece, hreads, hsound, rfl⟩
    cases piece with
    | text content =>
      obtain rfl : node = .text (String.ofList content) := hreads
      have hspelled := @Node.SpelledBy.text dialect (String.ofList content) (by simpa using hsound.1)
        (by simpa using hsound.2)
      simpa [Piece.source] using hspelled
    | unclosed rest => exact hreads.elim
    | span inner =>
      have hblank (hne : Text.trim inner ≠ []) : Text.isBlankText inner = false := by
        rwa [Ne, Text.trim_eq_nil_iff, Bool.not_eq_true] at hne
      cases hreads with
      | path hne hnone =>
        exact .path hsound (hblank hne) (CallHead.read?_eq_none_iff_begins.1 hnone)
      | @call head call hhead hbind =>
        refine .call hsound (hblank ?_) (CallHead.read?_eq_some_iff_begins.1 hhead) ?_
        · intro hempty
          rw [hempty] at hhead
          simp [CallHead.read?] at hhead
        · rwa [Dialect.bind_ofList]

/-- Nodes may stand in a row exactly when the pieces that they are read from may. -/
theorem mayPrecede_iff {catalog : Catalog} {read : Reader} {first second : Piece} {node next : Node}
    (hfirst : PieceReads catalog read first node) (hsecond : PieceReads catalog read second next) :
    first.MayPrecede second ↔ node.MayPrecede next := by
  cases first with
  | unclosed rest => exact hfirst.elim
  | span inner => cases hfirst <;> exact Iff.rfl
  | text content =>
    obtain rfl : node = .text (String.ofList content) := hfirst
    cases second with
    | unclosed rest => exact hsecond.elim
    | text content =>
      obtain rfl : next = .text (String.ofList content) := hsecond
      exact Iff.rfl
    | span inner => cases hsecond <;> simp [Piece.MayPrecede, Node.MayPrecede]

/-- The same for all pieces in a row. -/
theorem isChain_mayPrecede_iff {catalog : Catalog} {read : Reader} {pieces : List Piece} {tree : Tree}
    (h : List.Forall₂ (PieceReads catalog read) pieces tree) :
    pieces.IsChain Piece.MayPrecede ↔ tree.IsChain Node.MayPrecede := by
  induction h with
  | nil => exact ⟨fun _ => .nil, fun _ => .nil⟩
  | @cons piece node pieces tree hreads hrest ih =>
    cases hrest with
    | nil => exact ⟨fun _ => .singleton _, fun _ => .singleton _⟩
    | @cons second next pieces tree hsecond hrest =>
      rw [List.isChain_cons_cons, List.isChain_cons_cons, ih, mayPrecede_iff hreads hsecond]

/-- Source pieces of a tree are the sources of pieces that are read as its nodes. -/
theorem forall₂_spelledBy_iff {tree : Tree} {sources : List (List Char)} :
    List.Forall₂ (Node.SpelledBy dialect) tree sources ↔
      ∃ pieces : List Piece, List.Forall₂ (PieceReads dialect.catalog dialect.values) pieces tree ∧
        (∀ piece ∈ pieces, piece.Sound) ∧ pieces.map Piece.source = sources := by
  induction tree generalizing sources with
  | nil => simp [List.forall₂_nil_right_iff, eq_comm]
  | cons node tree ih =>
    rw [List.forall₂_cons_left_iff]
    constructor
    · rintro ⟨source, rest, hnode, hrest, rfl⟩
      obtain ⟨piece, hreads, hsound, rfl⟩ := Node.spelledBy_iff.1 hnode
      obtain ⟨pieces, hreads', hsound', rfl⟩ := ih.1 hrest
      exact ⟨piece :: pieces, .cons hreads hreads', by simpa using ⟨hsound, hsound'⟩, rfl⟩
    · rintro ⟨pieces, hreads, hsound, rfl⟩
      obtain ⟨piece, pieces, hpiece, hpieces, rfl⟩ := List.forall₂_cons_right_iff.1 hreads
      refine ⟨piece.source, pieces.map Piece.source, ?_, ?_, rfl⟩
      · exact Node.spelledBy_iff.2 ⟨piece, hpiece, hsound piece List.mem_cons_self, rfl⟩
      · exact ih.2 ⟨pieces, hpieces, fun p hp => hsound p (List.mem_cons_of_mem _ hp), rfl⟩

end Reading

namespace Dialect

/-- **Scanning accepts exactly the texts that a tree is spelled by**, and gives the tree. The empty text is
one empty node. -/
theorem scan_eq_ok_iff (dialect : Dialect) (text : String) (tree : Tree) :
    dialect.scan text = .ok tree ↔
      (text = "" ∧ tree = [.text ""]) ∨ (text ≠ "" ∧ tree.SpelledBy dialect text.toList) := by
  rw [scan_eq, scanWith_eq_ok_iff dialect.values_translates]
  have hnil : text.toList = [] ↔ text = "" := String.toList_eq_nil_iff
  rw [hnil, Ne, hnil]
  refine or_congr Iff.rfl (and_congr_right fun _ => ?_)
  obtain ⟨hsource, hsound, hchain⟩ := Piece.cut_spec text.toList
  constructor
  · intro hreads
    refine ⟨(Piece.cut text.toList).map Piece.source, ?_, hsource, (isChain_mayPrecede_iff hreads).1 hchain⟩
    exact forall₂_spelledBy_iff.2 ⟨_, hreads, hsound, rfl⟩
  · -- Whatever pieces the tree is spelled by, they are the ones that the scanner cuts.
    rintro ⟨sources, hspelled, hflat, hchain⟩
    obtain ⟨pieces, hreads, hsound, rfl⟩ := forall₂_spelledBy_iff.1 hspelled
    have hcut : Piece.cut text.toList = pieces :=
      Piece.cut_eq_iff.2 ⟨hflat, hsound, (isChain_mayPrecede_iff hreads).2 hchain⟩
    rwa [hcut]

end Dialect

end Interpolation
