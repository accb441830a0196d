import Interpolation.Proofs.Gaps
import Interpolation.Proofs.Strewn
import Interpolation.Proofs.Verdict

/-!
# The variables that are written in a text

`Interpolation.Text.references` lists the spans of variables that are written in a text, those in the values of
its calls included, in the order in which they are written. It knows of no methods: it cuts a text into its
pieces and an argument list at its commas, and leaves open what the arguments are for.

Where a text is read, these are the spans of variables that it holds (`Interpolation.readWithin_holds`). That is
put together along the text. An argument list is its arguments and next to nothing around them, a call is its
list between an opening and an end without variables, and a text is its pieces, with no opening pair across
their seams.
-/

namespace Interpolation

open Brace

/-- The spans of variables that are written in a piece, if one knows those in the values of arguments. -/
def Piece.references (inside : List Char → List (List Char)) : Piece → List (List Char)
  | .text _ => []
  | .unclosed _ => []
  | .span inner =>
    match CallHead.read? (Text.trim inner) with
    | none => [inner]
    | some head => (ArgumentList.split head.arguments).flatMap fun argument => inside argument.content

/-- **The spans of variables that are written in a text**, in order, down to so many levels. -/
def Text.references : Nat → List Char → List (List Char)
  | 0, _ => []
  | levels + 1, s => (Piece.cut s).flatMap (Piece.references (references levels))

section References

variable {inside : List Char → List (List Char)} {inner : List Char}

theorem Piece.references_span_of_none (h : CallHead.read? (Text.trim inner) = none) :
    (span inner).references inside = [inner] := by
  rw [references, h]

theorem Piece.references_span_of_some {head : CallHead} (h : CallHead.read? (Text.trim inner) = some head) :
    (span inner).references inside =
      (ArgumentList.split head.arguments).flatMap fun argument => inside argument.content := by
  rw [references, h]

end References

/-- In blanks no variable is written. -/
theorem Text.references_of_isBlankText {s : List Char} (hs : isBlankText s = true) (levels : Nat) :
    references levels s = [] := by
  cases levels with
  | zero => rfl
  | succ levels =>
    have hlacks : LacksOpening s := fun hlies => notMem_of_isBlankText hs (hlies.subset (by simp))
    rw [references, Piece.cut_of_lacksOpening hlacks, Piece.ofText]
    split <;> rfl

/-- What is written in a text are spans of variables. -/
theorem Text.isReference_of_mem_references {levels : Nat} {s inner : List Char}
    (h : inner ∈ references levels s) : IsReference inner := by
  induction levels generalizing s with
  | zero => simp [references] at h
  | succ levels ih =>
    obtain ⟨-, hsound, -⟩ := Piece.cut_spec s
    obtain ⟨piece, hpiece, hmem⟩ := List.mem_flatMap.1 h
    cases piece with
    | text content => simp [Piece.references] at hmem
    | unclosed behind => simp [Piece.references] at hmem
    | span text =>
      cases hhead : CallHead.read? (trim text) with
      | none =>
        rw [Piece.references_span_of_none hhead, List.mem_singleton] at hmem
        subst hmem
        exact ⟨hsound _ hpiece, hhead⟩
      | some head =>
        rw [Piece.references_span_of_some hhead] at hmem
        obtain ⟨argument, -, hmem⟩ := List.mem_flatMap.1 hmem
        exact ih hmem

/-! ### Argument lists -/

section Arguments

variable {inside : List Char → List (List Char)}

/-- An argument holds the variables of its value. -/
theorem Argument.holds_text {argument : Argument} {spans : List (List Char)}
    (h : Holds spans argument.content) : Holds spans argument.text := by
  rw [argument.takes.eq_append]
  exact h.append_left fun hmem => argument.takes.isWritable.not_isBrace_mark '{' hmem (Or.inl rfl)

/-- **An argument list** holds the variables of its arguments. -/
theorem ArgumentList.Tiling.holds {front s : List Char} {arguments : List Argument}
    (h : Tiling front s arguments)
    (hvalues : ∀ argument ∈ arguments, Holds (inside argument.content) argument.content) :
    Holds (arguments.flatMap fun argument => inside argument.content) s := by
  induction h with
  | blank hw => exact holds_nil_of_notMem (notMem_of_isBlankText hw)
  | last hw hv _ =>
    have hargument := Argument.holds_text (hvalues _ List.mem_cons_self)
    rw [List.flatMap_singleton]
    exact (hargument.append_left (notMem_of_isBlankText hw)).append_right (notMem_of_isBlankText hv)
  | @cons front w text v rest arguments hw hv _ _ ih =>
    have hargument := Argument.holds_text (hvalues _ List.mem_cons_self)
    have hcomma : '{' ∉ [','] := by decide
    have hfirst := (hargument.append_left (notMem_of_isBlankText hw)).append_right (notMem_of_isBlankText hv)
    have hrest := ih fun argument hmem => hvalues argument (List.mem_cons_of_mem _ hmem)
    rw [List.flatMap_cons, List.append_cons]
    refine (hfirst.append_right hcomma).append hrest fun hlast => ?_
    rw [List.getLast?_concat] at hlast
    exact absurd hlast (by decide)

end Arguments

/-! ### Pieces -/

section Pieces

variable {catalog : Catalog} {read : Reader} {inside : List Char → List (List Char)} (hread : read.Translates)
  (hvalues : ∀ content, read.Accepts content → Holds (inside content) content)

include hread hvalues

/-- **A piece that is read** holds the variables that are written in it. -/
theorem PieceReads.holds {piece : Piece} {node : Node} (h : PieceReads catalog read piece node)
    (hsound : piece.Sound) : Holds (piece.references inside) piece.source := by
  cases piece with
  | text content => exact holds_nil_of_lacksOpening hsound.2
  | unclosed behind => exact h.elim
  | span inner =>
    cases h with
    | path _ hhead =>
      rw [Piece.references_span_of_none hhead]
      exact IsReference.holds ⟨hsound, hhead⟩
    | @call head call hhead hbind =>
      obtain ⟨signature, -, -, haccepts, -⟩ := (bindWith_eq_ok_iff_admits hread).1 hbind
      rw [Piece.references_span_of_some hhead]
      exact .call hhead ((ArgumentList.tiling_split _).holds fun argument hmem =>
        hvalues _ (haccepts argument hmem))

omit hvalues hread in
/-- No opening pair lies across the seam of two pieces. -/
theorem Piece.unpaired_sources {piece : Piece} {rest : List Piece}
    (hchain : (piece :: rest).IsChain MayPrecede) (hclosed : ∀ behind, piece ≠ unclosed behind) :
    Unpaired piece.source (sources rest) := by
  intro hlast
  cases piece with
  | unclosed behind => exact absurd rfl (hclosed behind)
  | span inner =>
    rw [source, braced, List.getLast?_append] at hlast
    simp at hlast
  | text content =>
    cases rest with
    | nil => simp
    | cons next rest =>
      obtain ⟨hnext, -⟩ := List.isChain_cons_cons.1 hchain
      exact absurd hlast (hnext.text_opens rest).1

/-- **Pieces that are read** hold the variables that are written in them. -/
theorem holds_sources {pieces : List Piece} {tree : Tree}
    (h : List.Forall₂ (PieceReads catalog read) pieces tree) (hsound : ∀ piece ∈ pieces, piece.Sound)
    (hchain : pieces.IsChain Piece.MayPrecede) :
    Holds (pieces.flatMap (Piece.references inside)) (Piece.sources pieces) := by
  induction h with
  | nil => exact holds_nil_of_notMem (by simp)
  | @cons piece node pieces tree hreads hrest ih =>
    rw [List.flatMap_cons, Piece.sources_cons]
    refine (hreads.holds hread hvalues (hsound piece List.mem_cons_self)).append
      (ih (fun next hmem => hsound next (List.mem_cons_of_mem _ hmem)) hchain.of_cons) ?_
    refine Piece.unpaired_sources hchain ?_
    rintro behind rfl
    exact hreads.elim

end Pieces

/-! ### Texts -/

/-- What holds of the texts that are read at a level holds of the values that are accepted. -/
theorem Reader.Accepts.holds {read : Reader} {levels : Nat} {content : List Char} (h : read.Accepts content)
    (hread : ∀ tree, read 0 content = .ok tree → Holds (Text.references levels content) content) :
    Holds (Text.references levels content) content := by
  cases hblank : Text.isBlankText content with
  | false =>
    obtain ⟨tree, htree⟩ := h hblank
    exact hread tree htree
  | true =>
    rw [Text.references_of_isBlankText hblank]
    exact holds_nil_of_notMem (notMem_of_isBlankText hblank)

/-- **A text that is read holds the variables that are written in it**, at every level. -/
theorem readWithin_holds (catalog : Catalog) (limit levels : Nat) {s : List Char} {tree : Tree}
    (h : readWithin catalog limit levels 0 s = .ok tree) : Holds (Text.references levels s) s := by
  induction levels generalizing s tree with
  | zero => simp [readWithin] at h
  | succ levels ih =>
    have hread := readWithin_translates catalog limit levels
    rcases (scanWith_eq_ok_iff hread).1 h with ⟨rfl, -⟩ | ⟨-, hpieces⟩
    · rw [Text.references_of_isBlankText rfl]
      exact holds_nil_of_notMem (by simp)
    · obtain ⟨hsource, hsound, hchain⟩ := Piece.cut_spec s
      have hholds := holds_sources hread (fun content haccepts => haccepts.holds fun _ => ih) hpieces hsound
        hchain
      rwa [hsource] at hholds

end Interpolation
