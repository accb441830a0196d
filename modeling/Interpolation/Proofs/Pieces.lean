import Interpolation.Proofs.Braces
import Mathlib.Data.List.Chain

/-!
# A text and its pieces

`Interpolation.Piece.cut` takes a text apart from the left. Read the other way round, a list of pieces has a
source, the text that the pieces were cut from, and this file says which lists of pieces are the pieces of
their own source: each piece is sound by itself (`Interpolation.Piece.Sound`), and each may stand in front of
the next one (`Interpolation.Piece.MayPrecede`). Both conditions are local, and together they are exact
(`Interpolation.Piece.cut_eq_iff`): a text is cut into these pieces and into no others.

The condition on neighbours is about literal text only. Two texts in a row would be one, and an opening brace
at the end of a text would be taken for the first of the pair that follows.
-/

namespace Interpolation

open Brace

namespace Piece

/-- The text that a piece was cut from. -/
def source : Piece → List Char
  | text content => content
  | span inner => braced inner
  | unclosed rest => '{' :: '{' :: rest

/-- The text that several pieces were cut from. -/
def sources (pieces : List Piece) : List Char := pieces.flatMap source

/-- **What is true of a piece by itself.** -/
def Sound : Piece → Prop
  | text content => content ≠ [] ∧ LacksOpening content
  | span inner => Closes inner
  | unclosed rest => untilClose? 0 rest = none

/-- **What is true of a piece and the next one.** -/
def MayPrecede : Piece → Piece → Prop
  | text _, text _ => False
  | text content, _ => content.getLast? ≠ some '{'
  | span _, _ => True
  | unclosed _, _ => False

@[simp] theorem sources_nil : sources [] = [] := rfl

@[simp] theorem sources_cons (piece : Piece) (pieces : List Piece) :
    sources (piece :: pieces) = piece.source ++ sources pieces := rfl

@[simp] theorem sources_append (first second : List Piece) :
    sources (first ++ second) = sources first ++ sources second := List.flatMap_append

/-- Behind a literal text there is an opening pair, and no brace of the text gets into it. -/
theorem MayPrecede.text_opens {content : List Char} {next : Piece} (h : MayPrecede (text content) next)
    (rest : List Piece) :
    content.getLast? ≠ some '{' ∧ ∃ behind, sources (next :: rest) = '{' :: '{' :: behind := by
  cases next with
  | text _ => exact h.elim
  | span inner => exact ⟨h, _, rfl⟩
  | unclosed behind => exact ⟨h, _, rfl⟩

/-! ### One piece at a time -/

/-- How a text is cut, without the proofs that the recursion needs. -/
theorem cut_eq (s : List Char) :
    cut s = match untilOpen? s with
      | none => ofText s
      | some (before, behind) =>
        ofText before ++
          match untilClose? 0 behind with
          | none => [unclosed behind]
          | some (inner, after) => span inner :: cut after := by
  conv_lhs => rw [cut]
  split
  · rename_i hopen
    rw [hopen]
  · rename_i before behind hopen
    rw [hopen]
    dsimp only
    split
    · rename_i hclose
      rw [hclose]
    · rename_i inner after hclose
      rw [hclose]

/-- Text without an opening pair is one piece, or none. -/
theorem cut_of_lacksOpening {s : List Char} (h : LacksOpening s) : cut s = ofText s := by
  rw [cut_eq, untilOpen?_eq_none_iff.2 h]

/-- Text in front of the first opening pair is cut off first. -/
theorem cut_of_opening {before : List Char} (hlacks : LacksOpening before)
    (hlast : before.getLast? ≠ some '{') (behind : List Char) :
    cut (before ++ '{' :: '{' :: behind) = ofText before ++ cut ('{' :: '{' :: behind) := by
  have hfound : untilOpen? (before ++ '{' :: '{' :: behind) = some (before, behind) :=
    untilOpen?_eq_some_iff.2 ⟨rfl, hlacks, hlast⟩
  have hnow : untilOpen? ('{' :: '{' :: behind) = some ([], behind) := by rw [untilOpen?]
  rw [cut_eq, hfound, cut_eq ('{' :: '{' :: behind), hnow]
  rfl

/-- A span that is closed is cut off as a piece. -/
theorem cut_span {inner : List Char} (h : Closes inner) (after : List Char) :
    cut ('{' :: '{' :: inner ++ '}' :: '}' :: after) = span inner :: cut after := by
  have hopen : untilOpen? ('{' :: '{' :: (inner ++ '}' :: '}' :: after))
      = some ([], inner ++ '}' :: '}' :: after) := by rw [untilOpen?]
  have hclose : untilClose? 0 (inner ++ '}' :: '}' :: after) = some (inner, after) :=
    untilClose?_zero_eq_some_iff.2 ⟨rfl, h⟩
  rw [List.cons_append, List.cons_append, cut_eq, hopen]
  dsimp only
  rw [hclose]
  rfl

/-- A span that nothing closes is the last piece. -/
theorem cut_unclosed {rest : List Char} (h : untilClose? 0 rest = none) :
    cut ('{' :: '{' :: rest) = [unclosed rest] := by
  have hopen : untilOpen? ('{' :: '{' :: rest) = some ([], rest) := by rw [untilOpen?]
  rw [cut_eq, hopen]
  dsimp only
  rw [h]
  rfl

/-! ### All pieces at once -/

/-- **Sound pieces, each of which may stand in front of the next, are the pieces of their source.** -/
theorem cut_sources {pieces : List Piece} (hsound : ∀ piece ∈ pieces, piece.Sound)
    (hchain : pieces.IsChain MayPrecede) : cut (sources pieces) = pieces := by
  induction pieces with
  | nil =>
    rw [sources_nil, cut_of_lacksOpening (by decide)]
    rfl
  | cons piece rest ih =>
    have ih := ih (fun p hp => hsound p (List.mem_cons_of_mem _ hp)) hchain.tail
    have hpiece := hsound piece List.mem_cons_self
    rw [sources_cons]
    cases piece with
    | text content =>
      obtain ⟨hne, hlacks⟩ := hpiece
      have htext : ofText content = [text content] := by simp [ofText, hne]
      cases rest with
      | nil => rw [sources_nil, List.append_nil, source, cut_of_lacksOpening hlacks, htext]
      | cons next rest =>
        obtain ⟨hlast, behind, hbehind⟩ := (List.isChain_cons_cons.1 hchain).1.text_opens rest
        rw [source, hbehind, cut_of_opening hlacks hlast, ← hbehind, ih, htext]
        rfl
    | span inner =>
      rw [source, braced, List.append_assoc]
      exact (cut_span hpiece (sources rest)).trans (by rw [ih])
    | unclosed behind =>
      cases rest with
      | nil => rw [sources_nil, List.append_nil, source, cut_unclosed hpiece]
      | cons next rest => exact (List.isChain_cons_cons.1 hchain).1.elim

/-- Text may be put in front of pieces that start with a span. -/
theorem isChain_ofText_append {before : List Char} {piece : Piece} {pieces : List Piece}
    (hlast : before.getLast? ≠ some '{') (hpiece : ∀ content, piece ≠ text content)
    (hchain : (piece :: pieces).IsChain MayPrecede) :
    (ofText before ++ piece :: pieces).IsChain MayPrecede := by
  rw [ofText]
  split
  · exact hchain
  · refine List.isChain_cons_cons.2 ⟨?_, hchain⟩
    cases piece with
    | text content => exact absurd rfl (hpiece content)
    | span inner => exact hlast
    | unclosed rest => exact hlast

/-- **Every text has pieces**: some list of sound pieces, each of which may stand in front of the next, has it
as its source. -/
theorem exists_sources_eq (s : List Char) :
    ∃ pieces : List Piece, sources pieces = s ∧ (∀ piece ∈ pieces, piece.Sound) ∧
      pieces.IsChain MayPrecede := by
  -- On the length: the pieces behind a span are those of what the span leaves over.
  induction hn : s.length using Nat.strong_induction_on generalizing s with
  | _ n ih =>
    subst hn
    cases hopen : untilOpen? s with
    | none =>
      have hlacks := untilOpen?_eq_none_iff.1 hopen
      rcases eq_or_ne s [] with rfl | hne
      · exact ⟨[], rfl, by simp, .nil⟩
      · exact ⟨[text s], by simp [source], by simpa [Sound] using ⟨hne, hlacks⟩, .singleton _⟩
    | some found =>
      obtain ⟨before, behind⟩ := found
      obtain ⟨rfl, hlacks, hlast⟩ := untilOpen?_eq_some_iff.1 hopen
      have hsource : sources (ofText before) = before := by
        by_cases hne : before = [] <;> simp [ofText, hne, source]
      have hsound : ∀ piece ∈ ofText before, piece.Sound := by
        by_cases hne : before = [] <;> simp [ofText, hne, Sound, hlacks]
      cases hclose : untilClose? 0 behind with
      | none =>
        refine ⟨ofText before ++ [unclosed behind], ?_, ?_, ?_⟩
        · rw [sources_append, hsource, sources_cons, sources_nil, List.append_nil, source]
        · intro piece hmem
          rcases List.mem_append.1 hmem with hmem | hmem
          · exact hsound piece hmem
          · obtain rfl := List.mem_singleton.1 hmem
            exact hclose
        · exact isChain_ofText_append hlast (by simp) (.singleton _)
      | some closed =>
        obtain ⟨inner, after⟩ := closed
        obtain ⟨rfl, hinner⟩ := untilClose?_zero_eq_some_iff.1 hclose
        obtain ⟨rest, hrest, hrestSound, hrestChain⟩ := ih after.length (by simp; omega) after rfl
        refine ⟨ofText before ++ span inner :: rest, ?_, ?_, ?_⟩
        · simp [hsource, hrest, source, braced]
        · intro piece hmem
          rcases List.mem_append.1 hmem with hmem | hmem
          · exact hsound piece hmem
          · rcases List.mem_cons.1 hmem with rfl | hmem
            · exact hinner
            · exact hrestSound piece hmem
        · refine isChain_ofText_append hlast (by simp) ?_
          cases rest with
          | nil => exact .singleton _
          | cons next rest => exact .cons_cons trivial hrestChain

/-- **The pieces of a text** are sound, may stand in this order, and have the text as their source; and no
other pieces do. -/
theorem cut_eq_iff {s : List Char} {pieces : List Piece} :
    cut s = pieces ↔
      sources pieces = s ∧ (∀ piece ∈ pieces, piece.Sound) ∧ pieces.IsChain MayPrecede := by
  constructor
  · rintro rfl
    obtain ⟨pieces, hsource, hsound, hchain⟩ := exists_sources_eq s
    have hcut := cut_sources hsound hchain
    rw [hsource] at hcut
    rw [hcut]
    exact ⟨hsource, hsound, hchain⟩
  · rintro ⟨rfl, hsound, hchain⟩
    exact cut_sources hsound hchain

/-- What every text is cut into. -/
theorem cut_spec (s : List Char) :
    sources (cut s) = s ∧ (∀ piece ∈ cut s, piece.Sound) ∧ (cut s).IsChain MayPrecede :=
  cut_eq_iff.1 rfl

/-! ### Levels across pieces -/

/-- A piece does not pair a brace with the pieces behind it. -/
theorem apart_sources {piece : Piece} {rest : List Piece} (hsound : piece.Sound)
    (hchain : (piece :: rest).IsChain MayPrecede) (hclosed : ∀ behind, piece ≠ unclosed behind) :
    Apart piece.source (sources rest) := by
  cases piece with
  | unclosed behind => exact absurd rfl (hclosed behind)
  | span inner => exact Closes.apart hsound _
  | text content =>
    cases rest with
    | nil => exact apart_of_head (by simp)
    | cons next rest =>
      obtain ⟨hlast, behind, hbehind⟩ := (List.isChain_cons_cons.1 hchain).1.text_opens rest
      intro c hc _ hcut
      rw [hbehind] at hc
      obtain rfl : '{' = c := by simpa using hc
      exact hlast (getLast?_of_getLast?_cut hcut)

section Levels

variable {pieces : List Piece} (hsound : ∀ piece ∈ pieces, piece.Sound)
  (hchain : pieces.IsChain MayPrecede) (hclosed : ∀ behind, unclosed behind ∉ pieces)

include hsound hchain hclosed

/-- **Spans and texts without closing pairs** are balanced together. -/
theorem isBalanced_sources (htexts : ∀ content, text content ∈ pieces → LacksClosing content) :
    IsBalanced (sources pieces) := by
  induction pieces with
  | nil => exact isBalanced_nil
  | cons piece rest ih =>
    have hpiece := hsound piece List.mem_cons_self
    have happart : Apart piece.source (sources rest) :=
      apart_sources hpiece hchain fun behind h => hclosed behind (by simp [h])
    have hrest : IsBalanced (sources rest) :=
      ih (fun p hp => hsound p (List.mem_cons_of_mem _ hp)) hchain.tail
        (fun behind h => hclosed behind (List.mem_cons_of_mem _ h))
        fun content h => htexts content (List.mem_cons_of_mem _ h)
    refine IsBalanced.append ?_ hrest happart
    cases piece with
    | unclosed behind => exact absurd List.mem_cons_self (hclosed behind)
    | span inner => exact Closes.balanced hpiece
    | text content => exact isBalanced_of_lacks hpiece.2 (htexts content List.mem_cons_self)

/-- **Nothing is left for a text to close**: where the walk along pieces does not fail, it has come back to
the bottom behind each of them, and no text has a closing pair. -/
theorem lacksClosing_of_walk {m : Nat} (hwalk : walk 0 (Brace.cut (sources pieces)) = some m) :
    ∀ content, text content ∈ pieces → LacksClosing content := by
  induction pieces with
  | nil => simp
  | cons piece rest ih =>
    have hpiece := hsound piece List.mem_cons_self
    have happart : Apart piece.source (sources rest) :=
      apart_sources hpiece hchain fun behind h => hclosed behind (by simp [h])
    rw [sources_cons, cut_append happart, walk_append] at hwalk
    obtain ⟨k, hfirst, hwalk⟩ := Option.bind_eq_some_iff.1 hwalk
    have hrest (hk : k = 0) : ∀ content, text content ∈ rest → LacksClosing content :=
      ih (fun p hp => hsound p (List.mem_cons_of_mem _ hp)) hchain.tail
        (fun behind h => hclosed behind (List.mem_cons_of_mem _ h)) (by rwa [hk] at hwalk)
    intro content hmem
    cases piece with
    | unclosed behind => exact absurd List.mem_cons_self (hclosed behind)
    | span inner =>
      rw [source, Closes.balanced hpiece] at hfirst
      exact hrest (Option.some.inj hfirst).symm content (by simpa using hmem)
    | text first =>
      obtain ⟨hlacks, hk⟩ := closing_notMem_of_walk ((lacksOpening_iff first).1 hpiece.2) hfirst
      rcases List.mem_cons.1 hmem with heq | hmem
      · obtain rfl : content = first := by simpa using heq
        exact (lacksClosing_iff content).2 hlacks
      · exact hrest hk content hmem

end Levels

end Piece

end Interpolation
