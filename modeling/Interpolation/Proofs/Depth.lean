import Interpolation.Proofs.Causes

/-!
# Depth and the limit on it

The depth of a tree (`Interpolation.Tree.depth`) is the number of calls that enclose one another by values. It
is all that the limit on nesting looks at in a text that can be read: a text is read in so many levels exactly
if it is read in more of them and its tree is less deep than they are many
(`Interpolation.readWithin_within`). This goes along the tree. A call holds the values of all its
arguments and of no others, so that its depth says how deep the values are that were read.

A text that cannot be read has no tree. With a higher limit it has the same error, or the error was that
arguments are nested too deeply; and this is never the error of a text with no more bytes than there are
levels, since values are shorter than the texts around them (`Interpolation.not_isTooDeep_of_width_lt`).
-/

namespace Interpolation

/-! ### Depth -/

mutual

/-- The depth of a node. -/
def Node.depth : Node → Nat
  | .text _ => 0
  | .variable _ => 0
  | .call c => c.depth

/-- The depth of a call. -/
def Call.depth : Call → Nat
  | ⟨_, _, slots⟩ => Slot.listDepth slots

/-- The depth of several slots. -/
def Slot.listDepth : List Slot → Nat
  | [] => 0
  | slot :: rest => max slot.depth (Slot.listDepth rest)

/-- The depth of a slot: nothing if it is empty, else one more than that of its value. -/
def Slot.depth : Slot → Nat
  | ⟨_, _, none⟩ => 0
  | ⟨_, _, some tree⟩ => 1 + Tree.depth tree

/-- **The depth of a tree**: nothing if no call of the tree holds a value, else one more than the greatest
depth of such a value. -/
def Tree.depth : Tree → Nat
  | [] => 0
  | node :: rest => max node.depth (Tree.depth rest)

end

theorem Tree.depth_le_iff {tree : Tree} {levels : Nat} :
    tree.depth ≤ levels ↔ ∀ node ∈ tree, node.depth ≤ levels := by
  induction tree with
  | nil => simp [Tree.depth]
  | cons node rest ih => rw [Tree.depth, Nat.max_le, ih, List.forall_mem_cons]

theorem Slot.listDepth_le_iff {slots : List Slot} {levels : Nat} :
    Slot.listDepth slots ≤ levels ↔ ∀ slot ∈ slots, slot.depth ≤ levels := by
  induction slots with
  | nil => simp [Slot.listDepth]
  | cons slot rest ih => rw [Slot.listDepth, Nat.max_le, ih, List.forall_mem_cons]

theorem Slot.depth_le_iff {slot : Slot} {levels : Nat} :
    slot.depth ≤ levels ↔ ∀ value : Tree, slot.value = some value → value.depth < levels := by
  obtain ⟨label, type, value⟩ := slot
  cases value with
  | none => simp [Slot.depth]
  | some tree =>
    rw [Slot.depth]
    simp [Nat.add_comm 1]

/-- A call is as deep as the deepest value makes it. -/
theorem Call.depth_le_iff {call : Call} {levels : Nat} :
    call.depth ≤ levels ↔
      ∀ slot ∈ call.slots, ∀ value : Tree, slot.value = some value → value.depth < levels := by
  obtain ⟨qualifier, signature, slots⟩ := call
  rw [Call.depth, Slot.listDepth_le_iff]
  exact forall₂_congr fun slot _ => Slot.depth_le_iff

/-! ### Levels -/

section Levels

variable {read more : Reader} {levels : Nat}

/-- **One reader reads less deep than another**: it reads what the other one reads, as far as that has less
than so many levels. -/
def Reader.Within (read more : Reader) (levels : Nat) : Prop :=
  ∀ s tree, read 0 s = .ok tree ↔ more 0 s = .ok tree ∧ Tree.depth tree < levels

variable (hwithin : read.Within more levels)

include hwithin

theorem Reader.Within.accepts {content : List Char} (h : read.Accepts content) : more.Accepts content := by
  intro hblank
  obtain ⟨tree, htree⟩ := h hblank
  exact ⟨tree, ((hwithin content tree).1 htree).1⟩

theorem Reader.Within.held_eq {content : List Char} (h : read.Accepts content) :
    read.held content = more.held content := by
  rw [Reader.held, Reader.held]
  split
  · rfl
  · rename_i hblank
    obtain ⟨tree, htree⟩ := h (by simpa using hblank)
    rw [htree, ((hwithin content tree).1 htree).1]

/-- **What a call needs**: it can be bound to values of fewer levels exactly if it can be bound and its values
have fewer levels. -/
theorem Reader.Within.bindWith_eq_ok_iff (hread : read.Translates) (hmore : more.Translates)
    {catalog : Catalog} {qualifier name : String} {raw : List Char} {call : Call} :
    bindWith catalog read 0 0 qualifier name raw = .ok call ↔
      bindWith catalog more 0 0 qualifier name raw = .ok call ∧ call.depth ≤ levels := by
  rw [bindWith_eq_ok_iff_admits hread, bindWith_eq_ok_iff_admits hmore, Call.depth_le_iff]
  constructor
  · rintro ⟨signature, hlookup, hadmits, hvalues, rfl⟩
    refine ⟨⟨signature, hlookup, hadmits, fun argument hmem => ?_, ?_⟩, ?_⟩
    · exact hwithin.accepts (hvalues argument hmem)
    · exact Call.ofArguments_congr fun argument hmem => hwithin.held_eq (hvalues argument hmem)
    · intro slot hslot value hvalue
      obtain ⟨argument, -, hheld⟩ := Call.exists_argument_of_mem hslot hvalue
      exact ((hwithin _ value).1 (Reader.held_eq_some_iff.1 hheld).2).2
  · rintro ⟨⟨signature, hlookup, hadmits, hvalues, rfl⟩, hdepth⟩
    -- Each value is held by a slot, so that its depth is bounded by that of the call.
    have hless : ∀ argument ∈ ArgumentList.split raw, read.Accepts argument.content := by
      intro argument hmem hblank
      obtain ⟨value, hvalue⟩ := hvalues argument hmem hblank
      obtain ⟨slot, hslot, hheld⟩ := Call.exists_slot_of_mem hadmits hmem
      refine ⟨value, (hwithin _ value).2 ⟨hvalue, hdepth slot hslot value ?_⟩⟩
      rw [hheld, Reader.held_eq_some_iff]
      exact ⟨hblank, hvalue⟩
    refine ⟨signature, hlookup, hadmits, hless, ?_⟩
    exact (Call.ofArguments_congr fun argument hmem => hwithin.held_eq (hless argument hmem)).symm

/-- What a piece needs. -/
theorem Reader.Within.pieceReads_iff (hread : read.Translates) (hmore : more.Translates) {catalog : Catalog}
    {piece : Piece} {node : Node} :
    PieceReads catalog read piece node ↔ PieceReads catalog more piece node ∧ node.depth ≤ levels := by
  cases piece with
  | unclosed behind => exact ⟨fun h => h.elim, fun h => h.1.elim⟩
  | text content =>
    constructor
    · rintro rfl
      exact ⟨rfl, Nat.zero_le _⟩
    · exact fun h => h.1
  | span inner =>
    constructor
    · intro h
      cases h with
      | path hne hhead => exact ⟨.path hne hhead, Nat.zero_le _⟩
      | call hhead hbind =>
        obtain ⟨hbind, hdepth⟩ := (hwithin.bindWith_eq_ok_iff hread hmore).1 hbind
        exact ⟨.call hhead hbind, hdepth⟩
    · rintro ⟨h, hdepth⟩
      cases h with
      | path hne hhead => exact .path hne hhead
      | call hhead hbind => exact .call hhead ((hwithin.bindWith_eq_ok_iff hread hmore).2 ⟨hbind, hdepth⟩)

/-- What pieces need. -/
theorem Reader.Within.forall₂_pieceReads_iff (hread : read.Translates) (hmore : more.Translates)
    {catalog : Catalog} {pieces : List Piece} {tree : Tree} :
    List.Forall₂ (PieceReads catalog read) pieces tree ↔
      List.Forall₂ (PieceReads catalog more) pieces tree ∧ tree.depth ≤ levels := by
  induction pieces generalizing tree with
  | nil =>
    rw [List.forall₂_nil_left_iff, List.forall₂_nil_left_iff]
    constructor
    · rintro rfl
      exact ⟨rfl, Nat.zero_le _⟩
    · exact fun h => h.1
  | cons piece rest ih =>
    rw [List.forall₂_cons_left_iff, List.forall₂_cons_left_iff]
    constructor
    · rintro ⟨node, nodes, hnode, hnodes, rfl⟩
      obtain ⟨hnode, hdepth⟩ := (hwithin.pieceReads_iff hread hmore).1 hnode
      obtain ⟨hnodes, hrest⟩ := ih.1 hnodes
      exact ⟨⟨node, nodes, hnode, hnodes, rfl⟩, Nat.max_le.2 ⟨hdepth, hrest⟩⟩
    · rintro ⟨⟨node, nodes, hnode, hnodes, rfl⟩, hdepth⟩
      obtain ⟨hdepth, hrest⟩ := Nat.max_le.1 hdepth
      have hnode := (hwithin.pieceReads_iff hread hmore).2 ⟨hnode, hdepth⟩
      exact ⟨node, nodes, hnode, ih.2 ⟨hnodes, hrest⟩, rfl⟩

/-- **What a text needs**: one level more than the values in it. -/
theorem Reader.Within.scanWith (hread : read.Translates) (hmore : more.Translates) (catalog : Catalog) :
    Reader.Within (scanWith catalog read) (scanWith catalog more) (levels + 1) := by
  intro s tree
  rw [scanWith_eq_ok_iff hread, scanWith_eq_ok_iff hmore, hwithin.forall₂_pieceReads_iff hread hmore,
    Nat.lt_succ_iff]
  constructor
  · rintro (⟨hs, rfl⟩ | ⟨hs, hreads, hdepth⟩)
    · exact ⟨Or.inl ⟨hs, rfl⟩, Nat.zero_le _⟩
    · exact ⟨Or.inr ⟨hs, hreads⟩, hdepth⟩
  · rintro ⟨⟨hs, rfl⟩ | ⟨hs, hreads⟩, hdepth⟩
    · exact Or.inl ⟨hs, rfl⟩
    · exact Or.inr ⟨hs, hreads, hdepth⟩

end Levels

/-- **The levels that a text needs** are more than its tree is deep. -/
theorem readWithin_within (catalog : Catalog) (limit : Nat) {levels more : Nat} (h : levels ≤ more) :
    Reader.Within (readWithin catalog limit levels) (readWithin catalog limit more) levels := by
  induction levels generalizing more with
  | zero =>
    intro s tree
    constructor
    · intro htree
      cases htree
    · rintro ⟨-, hless⟩
      exact absurd hless (Nat.not_lt_zero _)
  | succ levels ih =>
    obtain ⟨more, rfl⟩ := Nat.exists_eq_add_of_le' (Nat.lt_of_lt_of_le (Nat.succ_pos levels) h)
    exact (ih (Nat.le_of_succ_le_succ h)).scanWith (readWithin_translates catalog limit levels)
      (readWithin_translates catalog limit more) catalog

/-- **As many levels as bytes are enough**, since each value is shorter than the text around it. -/
theorem not_isTooDeep_of_width_lt (catalog : Catalog) (limit : Nat) {levels : Nat} {s : List Char}
    (h : Text.width s < levels) {error : ParseError}
    (herror : readWithin catalog limit levels 0 s = .error error) : ¬error.fault.IsTooDeep := by
  induction levels generalizing s error with
  | zero => exact absurd h (Nat.not_lt_zero _)
  | succ levels ih =>
    have hread := readWithin_translates catalog limit levels
    cases traces_of_scanWith limit hread herror with
    | here _ _ hdeep => exact hdeep
    | value _ hless _ hvalue =>
      -- The error of the value is shifted, but its fault is the same.
      have hinner := ih (Nat.lt_of_lt_of_le hless (Nat.le_of_lt_succ h)) hvalue
      exact hinner

namespace Dialect

/-- **The limit on nesting decides nothing but whether nesting is too deep.** Under the higher of two limits:

* a text with a tree has the same tree under the lower one if the tree is not deeper than that, and else the
  error that it is nested too deeply;
* a text with a tree under the lower one, which is not deeper than that, has the same tree;
* a text with an error under the lower one has the same error, if that is not about nesting.

And a text is never nested too deeply for a limit as great as its size. -/
theorem scan_under_limits (catalog : Catalog) {limit more : Nat} (h : limit ≤ more) (text : String) :
    (∀ tree, scan ⟨catalog, more⟩ text = .ok tree →
      (tree.depth ≤ limit → scan ⟨catalog, limit⟩ text = .ok tree) ∧
      (limit < tree.depth →
        ∃ offset, scan ⟨catalog, limit⟩ text = .error ⟨.tooDeeplyNested limit, offset⟩)) ∧
    (∀ tree, scan ⟨catalog, limit⟩ text = .ok tree →
      scan ⟨catalog, more⟩ text = .ok tree ∧ tree.depth ≤ limit) ∧
    (∀ error, scan ⟨catalog, limit⟩ text = .error error → ¬error.fault.IsTooDeep →
      scan ⟨catalog, more⟩ text = .error error) ∧
    (text.utf8ByteSize ≤ limit →
      ∀ error, scan ⟨catalog, limit⟩ text = .error error → ¬error.fault.IsTooDeep) := by
  have hlevels : limit + 1 ≤ more + 1 := Nat.succ_le_succ h
  have hmore : scan ⟨catalog, more⟩ text =
      (readWithin catalog limit (more + 1) 0 text.toList).mapError (ParseError.withLimit more) :=
    readWithin_withLimit catalog limit more (more + 1) 0 text.toList
  have hdepth (tree : Tree) : scan ⟨catalog, limit⟩ text = .ok tree ↔
      scan ⟨catalog, more⟩ text = .ok tree ∧ tree.depth ≤ limit := by
    rw [hmore, mapError_eq_ok_iff, ← Nat.lt_succ_iff]
    exact readWithin_within catalog limit hlevels text.toList tree
  have hless := readWithin_unlessTooDeep catalog limit hlevels 0 text.toList
  refine ⟨fun tree htree => ⟨fun hle => (hdepth tree).2 ⟨htree, hle⟩, fun hlt => ?_⟩,
    fun tree htree => (hdepth tree).1 htree, fun error herror hdeep => ?_, fun hsize error herror => ?_⟩
  · rcases hless with hsame | hdeep
    · rw [hmore, mapError_eq_ok_iff, ← hsame] at htree
      exact absurd ((hdepth tree).1 htree).2 (Nat.not_le.2 hlt)
    · exact hdeep
  · rcases hless with hsame | ⟨place, hplace⟩
    · have hfound : readWithin catalog limit (limit + 1) 0 text.toList = .error error := herror
      rw [hmore, ← hsame, hfound, mapError_error, ParseError.withLimit_eq_self hdeep]
    · obtain rfl := Except.error.inj (hplace.symm.trans herror)
      exact absurd ⟨limit, rfl⟩ hdeep
  · refine not_isTooDeep_of_width_lt catalog limit ?_ herror
    rw [Text.width_toList]
    exact Nat.lt_succ_of_le hsize

/-- With one level less than it needs, the text of a call in a call is nested too deeply; what is more than it
needs changes nothing. -/
theorem scan_under_limits_joining :
    (∃ offset, scan ⟨joining.catalog, 1⟩ "Hi {{ text.join( by=-, {{a }},{{text.join(,b)}} }}" =
        .error ⟨.tooDeeplyNested 1, offset⟩) ∧
      scan ⟨joining.catalog, 7⟩ "Hi {{ text.join( by=-, {{a }},{{text.join(,b)}} }}" = .ok joined ∧
      scan ⟨joining.catalog, 7⟩ "{{text.join(with={{text.join(a)}})}}" =
        .error ⟨.unknownKeyword "with", 12⟩ := by
  have hdeep : 1 < joined.depth := by decide
  have hunknown : scan ⟨joining.catalog, 1⟩ "{{text.join(with={{text.join(a)}})}}" =
      .error ⟨.unknownKeyword "with", 12⟩ := by cbv
  refine ⟨?_, ?_, ?_⟩
  · exact ((scan_under_limits joining.catalog (by decide) _).1 joined scan_joined).2 hdeep
  · exact ((scan_under_limits joining.catalog (by decide) _).2.1 joined scan_joined).1
  · exact (scan_under_limits joining.catalog (by decide) _).2.2.1 _ hunknown (by simp [Fault.IsTooDeep])

end Dialect

end Interpolation
