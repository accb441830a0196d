import Interpolation.Proofs.Ends
import Interpolation.Proofs.Settled

/-!
# What scanning gives

A tree that comes from a text is canonical as soon as it is settled
(`Interpolation.Dialect.canonical_of_scan`). The point is what becomes of braces inside a call. The text of a
span is balanced, but the splitter knows nothing of braces, and cut at its commas a balanced text need not be
balanced in its parts. It is here, from the left: a part that is read has all its spans closed, so that the
walk along the braces is at the bottom again when it comes to the comma, and can start anew behind it
(`Interpolation.Binding.Steps.balanced_texts`).
-/

namespace Interpolation

open Brace

/-! ### Texts that never go below the bottom -/

/-- **A text that never closes more than it has opened.** -/
def NeverBelow (s : List Char) : Prop := ∃ m, walk 0 (cut s) = some m

theorem Brace.IsBalanced.neverBelow {s : List Char} (h : IsBalanced s) : NeverBelow s := ⟨0, h⟩

theorem not_isBrace_of_isBlankText {s : List Char} (h : Text.isBlankText s = true) : ∀ c ∈ s, ¬IsBrace c :=
  fun c hc => not_isBrace_of_isBlank (List.all_eq_true.1 h c hc)

theorem isBalanced_of_not_isBrace {s : List Char} (h : ∀ c ∈ s, ¬IsBrace c) : IsBalanced s := by
  have hwalk := walk_cut_append_of_not_isBrace h 0 []
  rwa [List.append_nil] at hwalk

/-- A text without braces behind another one leaves the level as it is. -/
theorem walk_cut_append_of_not_isBrace' {t : List Char} (ht : ∀ c ∈ t, ¬IsBrace c) (n : Nat)
    (s : List Char) : walk n (cut (s ++ t)) = walk n (cut s) := by
  have happart : Apart s t := apart_of_head fun c hc => ht c (List.mem_of_mem_head? hc)
  rw [cut_append happart, walk_append]
  cases walk n (cut s) with
  | none => rfl
  | some m =>
    have hwalk := walk_cut_append_of_not_isBrace ht m []
    rw [List.append_nil, cut_nil, walk_nil] at hwalk
    exact hwalk

/-- Trimming leaves the level as it is. -/
theorem walk_cut_trim (n : Nat) (s : List Char) : walk n (cut (Text.trim s)) = walk n (cut s) := by
  obtain ⟨w, w', hw, hw', heq⟩ := Text.exists_trim_eq s
  conv_rhs => rw [heq]
  rw [walk_cut_append_of_not_isBrace' (not_isBrace_of_isBlankText hw'),
    walk_cut_append_of_not_isBrace (not_isBrace_of_isBlankText hw)]

/-- A comma divides the walk. -/
theorem walk_cut_append_comma (s t : List Char) :
    walk 0 (cut (s ++ ',' :: t)) = (walk 0 (cut s)).bind (walk · (cut t)) := by
  have happart : Apart s (',' :: t) := by
    refine apart_of_head fun c hc => ?_
    obtain rfl : ',' = c := by simpa using hc
    decide
  rw [cut_append happart, walk_append, cut_cons (by decide)]
  simp only [walk_single]

/-! ### Readers come down -/

/-- What is read is back at the bottom in the end, if it never goes below. -/
def Reader.ComesDown (read : Reader) : Prop :=
  ∀ s tree, read 0 s = .ok tree → NeverBelow s → IsBalanced s

section Reading

variable {catalog : Catalog} {read : Reader} (htranslates : read.Translates)

include htranslates

/-- A text that is read and never goes below the bottom has no closing pair outside its spans. -/
theorem lacksClosing_of_scanWith {s : List Char} {tree : Tree} (h : scanWith catalog read 0 s = .ok tree)
    (hs : NeverBelow s) (content : String) (hmem : Node.text content ∈ tree) :
    LacksClosing content.toList := by
  rcases (scanWith_eq_ok_iff htranslates).1 h with ⟨rfl, rfl⟩ | ⟨-, hreads⟩
  · obtain rfl : content = "" := by simpa using hmem
    decide
  · obtain ⟨hsource, hsound, hchain⟩ := Piece.cut_spec s
    obtain ⟨m, hm⟩ := hs
    rw [← hsource] at hm
    refine Piece.lacksClosing_of_walk hsound hchain (unclosed_notMem_of_reads hreads) hm content.toList ?_
    rw [text_mem_iff_of_reads hreads, String.ofList_toList]
    exact hmem

theorem scanWith_comesDown : Reader.ComesDown (scanWith catalog read) := by
  intro s tree h hs
  have hlacks := lacksClosing_of_scanWith htranslates h hs
  rcases (scanWith_eq_ok_iff htranslates).1 h with ⟨rfl, -⟩ | ⟨-, hreads⟩
  · exact isBalanced_nil
  · obtain ⟨hsource, hsound, hchain⟩ := Piece.cut_spec s
    rw [← hsource]
    refine Piece.isBalanced_sources hsound hchain (unclosed_notMem_of_reads hreads) fun content hmem => ?_
    simpa using hlacks _ ((text_mem_iff_of_reads hreads content).1 hmem)

end Reading

theorem readWithin_comesDown (catalog : Catalog) (limit levels : Nat) :
    Reader.ComesDown (readWithin catalog limit levels) := by
  cases levels with
  | zero =>
    intro s tree h
    simp [readWithin] at h
  | succ levels => exact scanWith_comesDown (readWithin_translates catalog limit levels)

/-! ### Arguments -/

theorem Label.Takes.isWritable {label : Label} {text content : List Char} (h : label.Takes text content) :
    label.IsWritable := by
  cases h with
  | positional => trivial
  | keyword hword => exact hword

section Arguments

variable {read : Reader} (hread : read.ComesDown)

include hread

/-- An argument that is bound is balanced if it never goes below the bottom. -/
theorem Binding.Step.balanced {state next : Binding} {text : List Char}
    (h : Binding.Step read state text next) (htext : NeverBelow text) : IsBalanced text := by
  obtain ⟨label, content, index, value, htakes, -, hgives, -⟩ := Binding.step_iff.1 h
  have hmark := htakes.isWritable.not_isBrace_mark
  obtain rfl := htakes.eq_append
  rw [isBalanced_append_of_not_isBrace hmark]
  cases value with
  | none => exact isBalanced_of_not_isBrace (not_isBrace_of_isBlankText hgives)
  | some tree =>
    obtain ⟨m, hm⟩ := htext
    rw [walk_cut_append_of_not_isBrace hmark] at hm
    exact hread content tree hgives.2 ⟨m, hm⟩

/-- **The arguments of a list that never goes below the bottom are balanced**, one after the other. -/
theorem Binding.Steps.balanced_texts {raw : List Char} {state last : Binding}
    (h : Binding.Steps read state ((ArgumentList.split raw).map (·.text)) last) (hraw : NeverBelow raw) :
    ∀ text ∈ (ArgumentList.split raw).map (·.text), IsBalanced text := by
  -- On the length, one argument at a time, since the list is cut at its first comma.
  induction hn : raw.length using Nat.strong_induction_on generalizing raw state with
  | _ n ih =>
    obtain ⟨m, hm⟩ := hraw
    rcases ArgumentList.map_text_split_cases raw with ⟨-, htexts⟩ | ⟨first, rest, rfl, -, -, htexts⟩
    · rw [htexts, ArgumentList.dropEmptyText] at h ⊢
      split at h
      · simp_all
      · rename_i hne
        rw [if_neg hne]
        cases h with
        | cons hstep _ =>
          have hbalanced := hstep.balanced hread ⟨m, by rwa [walk_cut_trim]⟩
          simpa using hbalanced
    · rw [htexts] at h ⊢
      cases h with
      | cons hstep hsteps =>
        rw [walk_cut_append_comma] at hm
        obtain ⟨k, hk, hm⟩ := Option.bind_eq_some_iff.1 hm
        have hfirst := hstep.balanced hread ⟨k, by rwa [walk_cut_trim]⟩
        -- The first argument leads back to the bottom, so the others never go below it either.
        have hzero : k = 0 := by
          rw [IsBalanced, walk_cut_trim, hk] at hfirst
          exact Option.some.inj hfirst
        rw [hzero] at hm
        have hrest := ih rest.length (by rw [← hn]; simp; omega) hsteps ⟨m, hm⟩ rfl
        intro text hmem
        rcases List.mem_cons.1 hmem with rfl | hmem
        · exact hfirst
        · exact hrest text hmem

end Arguments

/-! ### Spans and trees -/

/-- **The keyword parameters of every method have distinct words for names.** -/
def Catalog.IsWellNamed (catalog : Catalog) : Prop :=
  ∀ qualifier name signature, catalog.lookup qualifier name = some signature → signature.IsWellNamed

/-- A method is found under its own name. -/
theorem Catalog.name_of_lookup {catalog : Catalog} {qualifier name : String} {signature : Signature}
    (h : catalog.lookup qualifier name = some signature) : signature.name = name := by
  rw [Catalog.lookup] at h
  obtain ⟨space, -, hmethod⟩ := Option.bind_eq_some_iff.1 h
  exact (Keyed.get?_eq_some hmethod).2

/-- A call that is bound has the names that it was called by. -/
theorem names_of_bindWith {catalog : Catalog} {read : Reader} (htranslates : read.Translates)
    {callStart listStart : Nat} {qualifier name : String} {raw : List Char} {call : Call}
    (h : bindWith catalog read callStart listStart qualifier name raw = .ok call) :
    call.qualifier = qualifier ∧ call.name = name := by
  obtain ⟨signature, last, hfound, hsteps, rfl⟩ := (bindWith_eq_ok_iff htranslates).1 h
  obtain ⟨hqualifier, hsignature, -⟩ := hsteps.isShaped
  refine ⟨hqualifier, ?_⟩
  rw [Call.name, hsignature]
  exact Catalog.name_of_lookup hfound

/-- What is read as a settled tree from a text with something in it is a value. -/
def Reader.Settles (read : Reader) (isValue : Tree → Prop) : Prop :=
  ∀ s tree, read 0 s = .ok tree → s ≠ [] → NeverBelow s → Tree.Settled tree → isValue tree

/-- The argument list of a call never goes below the bottom. -/
theorem CallHead.Begins.neverBelow_arguments {head : CallHead} {inner : List Char}
    (hhead : head.Begins (Text.trim inner)) (hcloses : Closes inner) : NeverBelow head.arguments := by
  have hrest : walk 0 (cut head.rest) = some 0 := by
    rw [← walk_cut_append_of_not_isBrace hhead.not_isBrace_text, ← hhead.1, walk_cut_trim]
    exact ((closes_iff inner).1 hcloses).1
  -- A parenthesis that is dropped from the end is no brace.
  rw [CallHead.arguments]
  split
  · rename_i hlast
    obtain ⟨before, hbefore⟩ := List.getLast?_eq_some_iff.1 hlast
    have hparenthesis : ∀ c ∈ [')'], ¬IsBrace c := by simp [IsBrace]
    rw [hbefore, walk_cut_append_of_not_isBrace' hparenthesis] at hrest
    rw [hbefore, List.dropLast_concat]
    exact ⟨0, hrest⟩
  · exact ⟨0, hrest⟩

/-- A call that nothing has been bound to holds nothing. -/
theorem Call.value_eq_none_of_mem_blank {qualifier : String} {signature : Signature} {slot : Slot}
    (h : slot ∈ (Call.blank qualifier signature).slots) : slot.value = none := by
  rw [Call.blank, Signature.slots, List.mem_append, List.mem_map, List.mem_map] at h
  rcases h with ⟨parameter, -, rfl⟩ | ⟨parameter, -, rfl⟩ <;> rfl

/-- **Every value of a call was read from an argument** that its label accepts. -/
theorem Binding.Steps.exists_argument {read : Reader} {qualifier : String} {signature : Signature}
    {raw : List Char} {last : Binding}
    (h : Binding.Steps read (.start qualifier signature) ((ArgumentList.split raw).map (·.text)) last)
    {slot : Slot} (hslot : slot ∈ last.call.slots) {value : Tree} (hvalue : slot.value = some value) :
    ∃ text ∈ (ArgumentList.split raw).map (·.text), ∃ content, slot.label.Takes text content ∧
      slot.label.Accepts content ∧ Text.isBlankText content = false ∧ read 0 content = .ok value := by
  rcases h.exists_source (Signature.map_emptied_slots signature) hslot hvalue with
    hmem | ⟨text, hmem, content, htakes, hblank, hread⟩
  · rw [Call.value_eq_none_of_mem_blank hmem] at hvalue
    simp at hvalue
  · have haccepts := htakes.accepts (ArgumentList.trim_eq_of_mem_split hmem)
    exact ⟨text, hmem, content, htakes, haccepts, hblank, hread⟩

section Reading

variable {catalog : Catalog} (hcatalog : catalog.IsWellNamed) {read : Reader} {isValue : Tree → Prop}
  (htranslates : read.Translates) (hcomes : read.ComesDown) (hends : read.KeepsEnds)
  (hsettles : read.Settles isValue)

include hcatalog htranslates hcomes hends hsettles

/-- **A call that is bound is canonical**, as soon as it is settled. -/
theorem isCanonical_of_bindWith {head : CallHead} {inner : List Char} {call : Call}
    (hhead : head.Begins (Text.trim inner)) (hcloses : Closes inner)
    (hbind : bindWith catalog read 0 0 (String.ofList head.qualifier) (String.ofList head.name)
      head.arguments = .ok call)
    (hsettled : (Node.call call).Settled) : call.IsCanonical catalog isValue := by
  obtain ⟨hqualifier, hname⟩ := names_of_bindWith htranslates hbind
  obtain ⟨signature, last, hfound, hsteps, rfl⟩ := (bindWith_eq_ok_iff htranslates).1 hbind
  obtain ⟨-, hsignature, hshaped⟩ := hsteps.isShaped
  obtain ⟨hapart, hvalues⟩ := Node.settled_call_iff.1 hsettled
  refine ⟨?_, ?_, ?_, ?_, hshaped, ?_, ?_, hapart⟩
  · rw [hqualifier, String.toList_ofList]
    exact hhead.2.1
  · rw [hname, String.toList_ofList]
    exact hhead.2.2
  · rw [hqualifier, hname, hsignature]
    exact hfound
  · rw [hsignature]
    exact hcatalog _ _ _ hfound
  · -- The arguments are balanced, and the mark of a label has no braces.
    intro slot hslot value hvalue
    obtain ⟨text, hmem, content, htakes, -, hblank, hread⟩ := hsteps.exists_argument hslot hvalue
    have hbalanced := hsteps.balanced_texts hcomes (hhead.neverBelow_arguments hcloses) text hmem
    rw [htakes.eq_append, isBalanced_append_of_not_isBrace htakes.isWritable.not_isBrace_mark] at hbalanced
    refine hsettles content value hread ?_ hbalanced.neverBelow (hvalues slot hslot value hvalue)
    rintro rfl
    simp [Text.isBlankText] at hblank
  · -- The label accepts what was read, and what is written instead looks like it.
    intro slot hslot value hvalue
    obtain ⟨-, -, content, -, haccepts, -, hread⟩ := hsteps.exists_argument hslot hvalue
    exact haccepts.of_alike (hends content value hread)

/-- A node that is read is canonical, as soon as it is settled. -/
theorem isCanonical_of_pieceReads {piece : Piece} {node : Node} (hsound : piece.Sound)
    (hreads : PieceReads catalog read piece node) (hsettled : node.Settled) :
    node.IsCanonical catalog isValue := by
  cases piece with
  | unclosed behind => exact hreads.elim
  | text content =>
    obtain rfl : node = .text (String.ofList content) := hreads
    rw [Node.IsCanonical, String.toList_ofList]
    exact ⟨by simpa using hsound.1, hsound.2⟩
  | span inner =>
    cases hreads with
    | path hne hnone =>
      rw [Node.settled_variable_iff, String.toList_ofList] at hsettled
      rw [Node.IsCanonical, String.toList_ofList]
      refine ⟨by simpa using hne, Text.trim_trim inner, CallHead.read?_eq_none_iff_begins.1 hnone, ?_⟩
      rw [closes_iff]
      refine ⟨?_, hsettled⟩
      rw [IsBalanced, walk_cut_trim]
      exact ((closes_iff inner).1 hsound).1
    | call hhead hbind =>
      exact isCanonical_of_bindWith hcatalog htranslates hcomes hends hsettles
        (CallHead.read?_eq_some_iff_begins.1 hhead) hsound hbind hsettled

/-- Nodes that are read are canonical in a row, as soon as they are settled. -/
theorem isCanonical_of_scanWith {s : List Char} {tree : Tree} (h : scanWith catalog read 0 s = .ok tree)
    (hne : s ≠ []) (hsettled : Tree.Settled tree) : Tree.IsCanonical catalog isValue tree := by
  rcases (scanWith_eq_ok_iff htranslates).1 h with ⟨hnil, -⟩ | ⟨-, hreads⟩
  · exact absurd hnil hne
  · obtain ⟨hsource, hsound, hchain⟩ := Piece.cut_spec s
    refine ⟨?_, ?_, (isChain_mayPrecede_iff hreads).1 hchain⟩
    · rintro rfl
      rw [List.forall₂_nil_right_iff.1 hreads] at hsource
      exact hne hsource.symm
    · intro node hmem
      obtain ⟨piece, hpiece, hread⟩ := exists_piece_of_mem hreads hmem
      exact isCanonical_of_pieceReads hcatalog htranslates hcomes hends hsettles (hsound piece hpiece) hread
        (Tree.settled_iff.1 hsettled node hmem)

end Reading

/-- **Settled values are canonical**, at every level. -/
theorem readWithin_settles {catalog : Catalog} (hcatalog : catalog.IsWellNamed) (limit levels : Nat) :
    Reader.Settles (readWithin catalog limit levels) (Tree.IsValue catalog levels) := by
  induction levels with
  | zero =>
    intro s tree h
    simp [readWithin] at h
  | succ levels ih =>
    intro s tree h hne hbelow hsettled
    have htranslates := readWithin_translates catalog limit levels
    have hcanonical := isCanonical_of_scanWith hcatalog htranslates
      (readWithin_comesDown catalog limit levels) (readWithin_keepsEnds catalog limit levels) ih h hne
      hsettled
    exact ⟨hcanonical, lacksClosing_of_scanWith htranslates h hbelow⟩

/-- **A settled tree that a text is scanned to is canonical.** -/
theorem Dialect.canonical_of_scan {dialect : Dialect} (hcatalog : dialect.catalog.IsWellNamed) {text : String}
    {tree : Tree} (h : dialect.scan text = .ok tree) (hsettled : tree.Settled) :
    tree.Canonical dialect.catalog dialect.maxDepth := by
  rw [Dialect.scan_eq] at h
  rcases eq_or_ne text.toList [] with hnil | hne
  · rw [hnil, scanWith_eq_ok_iff dialect.values_translates] at h
    simp at h
    exact Or.inl h
  · exact Or.inr (isCanonical_of_scanWith hcatalog dialect.values_translates (readWithin_comesDown _ _ _)
      (readWithin_keepsEnds _ _ _) (readWithin_settles hcatalog _ _) h hne hsettled)

end Interpolation
