import Interpolation.Proofs.Canonical

/-!
# Canonical text is read back

Reading finds every boundary that writing has put. From the inside out: the arguments of a canonical call are
the slots that were written (`Interpolation.Slot.separable_used`), each of them fills the slot that it was
written for (`Interpolation.Binding.Reached.exists_steps`), the head and the closing parenthesis around them
make a text that closes its span (`Interpolation.Call.IsCanonical.closes`), and the nodes of a tree are the
pieces of its text (`Interpolation.Tree.IsCanonical.scanWith_spelling`). The recursion through values is one
induction on levels (`Interpolation.readWithin_readsBack`).
-/

namespace Interpolation

open Brace Nesting

/-! ### The argument list -/

/-- **Slots are kept apart** one by one, each with an eye on the values behind it. -/
theorem Slot.keptApart_cons {slot : Slot} {rest : List Slot} :
    Slot.KeptApart (slot :: rest) ↔
      (outside.MeetsNoCut slot.content ∧
        (rest.any Slot.isFilled = true → outside.walk slot.content = outside)) ∧ Slot.KeptApart rest := by
  constructor
  · intro h
    refine ⟨?_, fun before s after value heq => h (slot :: before) s after value (by rw [heq]; rfl)⟩
    cases hvalue : slot.value with
    | none =>
      rw [Slot.content_of_none hvalue]
      exact ⟨meetsNoCut_nil _, fun _ => rfl⟩
    | some value =>
      rw [Slot.content_of_some hvalue]
      exact h [] slot rest value rfl hvalue
  · rintro ⟨hslot, hrest⟩ before s after value heq hvalue
    cases before with
    | nil =>
      obtain ⟨rfl, rfl⟩ : slot = s ∧ rest = after := by simpa using heq
      rwa [Slot.content_of_some hvalue] at hslot
    | cons first before =>
      obtain ⟨rfl, rfl⟩ : slot = first ∧ rest = before ++ s :: after := by simpa using heq
      exact hrest before s after value rfl hvalue

instance Slot.decidableKeptApart : (slots : List Slot) → Decidable (Slot.KeptApart slots)
  | [] => isTrue fun before slot after value heq => by simp at heq
  | slot :: rest =>
    have := decidableKeptApart rest
    decidable_of_iff _ Slot.keptApart_cons.symm

/-- What is written of slots that are kept apart stays apart when it is joined. -/
theorem Slot.separable_used {slots : List Slot} (hlabels : ∀ slot ∈ slots, slot.label.IsWritable)
    (hapart : Slot.KeptApart slots) :
    ArgumentList.Separable ((Slot.used slots).map Slot.spelling) := by
  induction slots with
  | nil => trivial
  | cons slot rest ih =>
    obtain ⟨⟨hcut, hend⟩, hrest⟩ := Slot.keptApart_cons.1 hapart
    have ih := ih (fun s hs => hlabels s (List.mem_cons_of_mem _ hs)) hrest
    have hmark := (hlabels slot List.mem_cons_self).isInert_mark
    have hcut : outside.MeetsNoCut slot.spelling := by
      rwa [Slot.spelling_eq, meetsNoCut_inert_append hmark]
    cases hany : (slot :: rest).any Slot.isFilled with
    | false => rw [Slot.used_of_none hany]; trivial
    | true =>
      rw [Slot.used_of_any hany]
      cases hfilled : rest.any Slot.isFilled with
      | false => rw [Slot.used_of_none hfilled]; exact hcut
      | true =>
        have hend : outside.walk slot.spelling = outside := by
          rw [Slot.spelling_eq, walk_inert_append hmark]
          exact hend hfilled
        obtain ⟨next, more, hmore⟩ := Slot.exists_used_of_any hfilled
        rw [hmore] at ih ⊢
        exact ArgumentList.separable_cons_cons.2 ⟨hcut, hend, ih⟩

/-- The last slot that is written holds a value. -/
theorem Slot.isFilled_of_getLast?_used {slots : List Slot} {last : Slot}
    (h : (Slot.used slots).getLast? = some last) : last ∈ slots ∧ last.isFilled = true := by
  induction slots with
  | nil => simp at h
  | cons slot rest ih =>
    cases hany : (slot :: rest).any Slot.isFilled with
    | false => rw [Slot.used_of_none hany] at h; simp at h
    | true =>
      rw [Slot.used_of_any hany] at h
      cases hfilled : rest.any Slot.isFilled with
      | false =>
        rw [Slot.used_of_none hfilled] at h
        obtain rfl : slot = last := by simpa using h
        exact ⟨List.mem_cons_self, by simpa [hfilled] using hany⟩
      | true =>
        obtain ⟨next, more, hmore⟩ := Slot.exists_used_of_any hfilled
        rw [hmore, List.getLast?_cons_cons, ← hmore] at h
        exact ⟨List.mem_cons_of_mem _ (ih h).1, (ih h).2⟩

/-- Only slots of the list are written. -/
theorem Slot.mem_of_mem_used {slots : List Slot} {slot : Slot} (h : slot ∈ Slot.used slots) :
    slot ∈ slots := by
  induction slots with
  | nil => simp at h
  | cons first rest ih =>
    cases hany : (first :: rest).any Slot.isFilled with
    | false => rw [Slot.used_of_none hany] at h; simp at h
    | true =>
      rw [Slot.used_of_any hany] at h
      exact (List.mem_cons.1 h).elim (fun heq => by simp [heq]) fun hmem => List.mem_cons_of_mem _ (ih hmem)

/-- The arguments of what is written of several slots. -/
theorem Slot.map_text_split_listing {read : Reader} {slots : List Slot}
    (hlabels : ∀ slot ∈ slots, slot.label.IsWritable) (hslots : ∀ slot ∈ slots, slot.IsArgument read)
    (hapart : Slot.KeptApart slots) :
    (ArgumentList.split (Slot.listing slots)).map (·.text) = (Slot.used slots).map Slot.spelling := by
  refine ArgumentList.map_text_split_intercalate (Slot.separable_used hlabels hapart) ?_ ?_
  · intro text hmem
    obtain ⟨slot, hslot, rfl⟩ := List.mem_map.1 hmem
    exact (hslots slot (Slot.mem_of_mem_used hslot)).trimmed
  · intro hlast
    rw [List.getLast?_map] at hlast
    obtain ⟨last, hmem, hnil⟩ := Option.map_eq_some_iff.1 hlast
    obtain ⟨hmem, hfilled⟩ := Slot.isFilled_of_getLast?_used hmem
    exact (hslots last hmem).nonempty hfilled hnil

/-- What is written of slots with balanced values is balanced. -/
theorem Slot.balanced_listing {read : Reader} {slots : List Slot}
    (hslots : ∀ slot ∈ slots, slot.IsArgument read) : IsBalanced (Slot.listing slots) := by
  induction slots with
  | nil => exact isBalanced_nil
  | cons slot rest ih =>
    have hslot := (hslots slot List.mem_cons_self).balanced
    have ih := ih fun s hs => hslots s (List.mem_cons_of_mem _ hs)
    cases hrest : rest.any Slot.isFilled with
    | false =>
      cases hfilled : slot.isFilled with
      | false =>
        rw [Slot.listing_of_none (by simp [hfilled, hrest])]
        exact isBalanced_nil
      | true =>
        rw [Slot.listing_last hfilled hrest]
        exact hslot
    | true =>
      rw [Slot.listing_cons hrest]
      refine hslot.append ?_ (apart_of_head ?_)
      · rw [isBalanced_cons (by decide), isBalanced_cons (by decide)]
        exact ih
      · intro c hc
        obtain rfl : ',' = c := by simpa using hc
        decide

/-! ### A call -/

/-- Slots that hold nothing are as they are before binding. -/
theorem Slot.map_emptied_of_none {slots : List Slot} (h : slots.any Slot.isFilled = false) :
    slots.map Slot.emptied = slots := by
  conv_rhs => rw [← List.map_id slots]
  refine List.map_congr_left fun slot hmem => ?_
  have hvalue := Slot.value_eq_none_of_any h hmem
  obtain ⟨label, type, value⟩ := slot
  obtain rfl : value = none := hvalue
  rfl

/-- **Arguments in the order of the slots fill the slots.** -/
theorem Binding.Reached.exists_steps {read : Reader} {state : Binding} {before slots : List Slot}
    (h : state.Reached before slots) (hnamed : state.call.signature.IsWellNamed)
    (hslots : ∀ slot ∈ slots, slot.IsArgument read) :
    ∃ last, Binding.Steps read state ((Slot.used slots).map Slot.spelling) last ∧
      last.call.slots = before ++ slots := by
  induction slots generalizing state before with
  | nil => exact ⟨state, .nil state, by simpa using h.slots⟩
  | cons slot rest ih =>
    cases hany : (slot :: rest).any Slot.isFilled with
    | false =>
      rw [Slot.used_of_none hany]
      exact ⟨state, .nil state, by rw [h.slots, Slot.map_emptied_of_none hany]⟩
    | true =>
      rw [Slot.used_of_any hany]
      -- The first argument fills the slot that binding has come to, and so on from the next one.
      have hslot := hslots slot List.mem_cons_self
      have htarget := h.target?_eq hnamed
      have hstep := Binding.step_iff.2 ⟨_, _, _, _, hslot.takes, htarget, hslot.gives, rfl⟩
      obtain ⟨last, hsteps, hlast⟩ := ih (h.advance htarget) (by rwa [Binding.call_advance])
        fun s hs => hslots s (List.mem_cons_of_mem _ hs)
      exact ⟨last, .cons hstep hsteps, by rw [hlast, List.append_assoc]; rfl⟩

theorem Call.eq_of {call other : Call} (hqualifier : call.qualifier = other.qualifier)
    (hsignature : call.signature = other.signature) (hslots : call.slots = other.slots) : call = other := by
  cases call
  cases other
  simp_all

namespace Call.IsCanonical

variable {catalog : Catalog} {isValue : Tree → Prop} {call : Call} (h : call.IsCanonical catalog isValue)
  {read : Reader} (hread : read.ReadsBack isValue)

include h

/-- The head of the canonical text. -/
theorem begins : call.head.Begins (call.head.text ++ call.head.rest) :=
  ⟨rfl, h.qualifier_word, h.name_hyphenated⟩

omit h in
/-- The argument list of the canonical text. -/
theorem arguments_head : call.head.arguments = Slot.listing call.slots := CallHead.arguments_of_rest_eq rfl

/-- It has no blanks at its ends. -/
theorem trim_text : Text.trim (call.head.text ++ call.head.rest) = call.head.text ++ call.head.rest :=
  h.begins.trim_eq_self rfl

include hread

/-- **The canonical text of a call closes its span**, the list of its slots being balanced. -/
theorem closes : Closes (call.head.text ++ call.head.rest) :=
  h.begins.closes_iff_rest.2 <| closes_concat_of_isBalanced <|
    Slot.balanced_listing fun _ hmem => h.isArgument hread hmem

/-- **Binding gives the call back** from its argument list. -/
theorem bindWith_eq (htranslates : read.Translates) :
    bindWith catalog read 0 0 call.qualifier call.name (Slot.listing call.slots) = .ok call := by
  have hslots : ∀ slot ∈ call.slots, slot.IsArgument read := fun slot hmem => h.isArgument hread hmem
  have hlabels : ∀ slot ∈ call.slots, slot.label.IsWritable := fun slot hmem =>
    h.shaped.isWritable h.named hmem
  obtain ⟨last, hsteps, hlast⟩ :=
    (Binding.reached_start call.qualifier h.shaped).exists_steps h.named hslots
  obtain ⟨hqualifier, hsignature, -⟩ := hsteps.isShaped
  refine (bindWith_eq_ok_iff htranslates).2 ⟨call.signature, last, h.found, ?_, ?_⟩
  · rw [Slot.map_text_split_listing hlabels hslots h.apart]
    exact hsteps
  · exact Call.eq_of hqualifier hsignature hlast

end Call.IsCanonical

/-! ### Nodes and trees -/

section Trees

variable {catalog : Catalog} {isValue : Tree → Prop} {read : Reader} (hread : read.ReadsBack isValue)
  (htranslates : read.Translates)

include hread htranslates

/-- **A canonical node is a piece of its own text.** -/
theorem Node.IsCanonical.exists_piece {node : Node} (h : node.IsCanonical catalog isValue) :
    ∃ piece : Piece, PieceReads catalog read piece node ∧ piece.Sound ∧ piece.source = node.spelling := by
  match node, h with
  | .text content, ⟨hne, hlacks⟩ =>
    refine ⟨.text content.toList, ?_, ⟨?_, hlacks⟩, ?_⟩
    · simp [PieceReads]
    · simpa using hne
    · rw [Node.spelling_text, Piece.source]
  | .variable path, ⟨hne, htrim, hhead, hcloses⟩ =>
    refine ⟨.span path.toList, ?_, hcloses, by rw [Node.spelling_variable, Piece.source]⟩
    have hnone : CallHead.read? (Text.trim path.toList) = none := by
      rw [htrim]
      exact CallHead.read?_eq_none_iff_begins.2 hhead
    have hpath := @SpanReads.path catalog read path.toList (by rw [htrim]; simpa using hne) hnone
    rw [htrim, String.ofList_toList] at hpath
    exact hpath
  | .call c, h =>
    refine ⟨.span (c.head.text ++ c.head.rest), ?_, h.closes hread, ?_⟩
    · have hfound : CallHead.read? (Text.trim (c.head.text ++ c.head.rest)) = some c.head := by
        rw [h.trim_text]
        exact CallHead.read?_eq_some_iff_begins.2 h.begins
      refine .call hfound ?_
      rw [Call.IsCanonical.arguments_head]
      simpa [Call.head] using h.bindWith_eq hread htranslates
    · rw [Node.spelling_call, Piece.source]

/-- Canonical nodes in a row are the pieces of their text. -/
theorem exists_pieces_of_isCanonical {tree : Tree} (h : ∀ node ∈ tree, node.IsCanonical catalog isValue) :
    ∃ pieces : List Piece, List.Forall₂ (PieceReads catalog read) pieces tree ∧
      (∀ piece ∈ pieces, piece.Sound) ∧ Piece.sources pieces = tree.spelling := by
  induction tree with
  | nil => exact ⟨[], .nil, by simp, by simp⟩
  | cons node rest ih =>
    obtain ⟨piece, hreads, hsound, hsource⟩ := (h node List.mem_cons_self).exists_piece hread htranslates
    obtain ⟨pieces, hreads', hsound', hsource'⟩ := ih fun n hn => h n (List.mem_cons_of_mem _ hn)
    refine ⟨piece :: pieces, .cons hreads hreads', by simpa using ⟨hsound, hsound'⟩, ?_⟩
    rw [Piece.sources_cons, hsource, hsource', Tree.spelling_cons]

/-- **Canonical nodes in a row are read back** from their text. -/
theorem Tree.IsCanonical.scanWith_spelling {tree : Tree} (h : tree.IsCanonical catalog isValue) :
    tree.spelling ≠ [] ∧ scanWith catalog read 0 tree.spelling = .ok tree := by
  obtain ⟨pieces, hreads, hsound, hsource⟩ := exists_pieces_of_isCanonical hread htranslates h.nodes
  have hcut : Piece.cut tree.spelling = pieces :=
    Piece.cut_eq_iff.2 ⟨hsource, hsound, (isChain_mayPrecede_iff hreads).2 h.chain⟩
  have hne : tree.spelling ≠ [] := by
    intro hnil
    rw [hnil, Piece.cut_of_lacksOpening (by decide)] at hcut
    obtain rfl : pieces = [] := hcut.symm
    exact h.nonempty (List.forall₂_nil_left_iff.1 hreads)
  refine ⟨hne, (scanWith_eq_ok_iff htranslates).2 (Or.inr ⟨hne, ?_⟩)⟩
  rwa [hcut]

/-- The text of canonical nodes is balanced if their literal texts have no closing pairs. -/
theorem Tree.IsCanonical.balanced_spelling {tree : Tree} (h : tree.IsCanonical catalog isValue)
    (htexts : ∀ content, Node.text content ∈ tree → LacksClosing content.toList) :
    IsBalanced tree.spelling := by
  obtain ⟨pieces, hreads, hsound, hsource⟩ := exists_pieces_of_isCanonical hread htranslates h.nodes
  rw [← hsource]
  refine Piece.isBalanced_sources hsound ((isChain_mayPrecede_iff hreads).2 h.chain)
    (unclosed_notMem_of_reads hreads) fun content hmem => ?_
  simpa using htexts _ ((text_mem_iff_of_reads hreads content).1 hmem)

end Trees

/-- **Canonical values are read back**, at every level. -/
theorem readWithin_readsBack (catalog : Catalog) (limit levels : Nat) :
    Reader.ReadsBack (readWithin catalog limit levels) (Tree.IsValue catalog levels) := by
  -- On the levels: the values in a value have one level less, and reading them back is the hypothesis.
  induction levels with
  | zero => exact fun _ h => h.elim
  | succ levels ih =>
    rintro value ⟨hcanonical, htexts⟩
    have htranslates := readWithin_translates catalog limit levels
    obtain ⟨hne, hscan⟩ := hcanonical.scanWith_spelling ih htranslates
    exact ⟨hne, hcanonical.balanced_spelling ih htranslates htexts, hscan⟩

/-- **Canonical trees are read back** from their text. -/
theorem Tree.Canonical.scan_render {dialect : Dialect} {tree : Tree}
    (h : tree.Canonical dialect.catalog dialect.maxDepth) : dialect.scan (Tree.render tree) = .ok tree := by
  rw [Dialect.scan_eq]
  rcases h with rfl | h
  · rw [scanWith_eq_ok_iff dialect.values_translates]
    exact Or.inl ⟨by decide, rfl⟩
  · have hread := readWithin_readsBack dialect.catalog dialect.maxDepth dialect.maxDepth
    exact (h.scanWith_spelling hread dialect.values_translates).2

end Interpolation
