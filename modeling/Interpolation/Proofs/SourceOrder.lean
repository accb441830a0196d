import Interpolation.Proofs.FixedPoint
import Interpolation.Proofs.Written

/-!
# Variables in the order of the text

A tree lists its variables call by call and slot by slot, in the order of the parameters, and a text has them in
the order of the arguments. The lists are permutations of each other (`Interpolation.readWithin_variables_perm`):
every argument fills one slot that was empty, so that the variables of its value are added to those of the call
somewhere.

Paths follow a text (`Interpolation.Follows`) if they can be found in it, one behind the other, between braces
and blanks. The variables that are written in a text do, and no other order of them does, save one that is the
same list (`Interpolation.Holds.follows_iff`). It is not that each path must be found where it was read; what
settles it is that the braces around the paths and in them are just as many as the text has around its variables
and in them, so that there is none to spare.
-/

namespace Interpolation

open Brace

/-- The path of the variable between whose braces a text stands. -/
def Text.path (inner : List Char) : String := String.ofList (trim inner)

/-- **The variables that are written in a text**, in the order of the text. -/
def Dialect.written (dialect : Dialect) (text : String) : List String :=
  (Text.references (dialect.maxDepth + 1) text.toList).map Text.path

/-! ### Variables in slots -/

/-- The variables of what a slot holds. -/
def heldVariables (value : Option Tree) : List String := value.elim [] Tree.variables

theorem Slot.listVariables_eq_flatMap (slots : List Slot) :
    listVariables slots = slots.flatMap fun slot => heldVariables slot.value := by
  induction slots with
  | nil => rfl
  | cons slot rest ih =>
    obtain ⟨label, type, value⟩ := slot
    rw [listVariables, ih, List.flatMap_cons]
    cases value <;> rfl

theorem Call.variables_eq (call : Call) :
    call.variables = call.slots.flatMap fun slot => heldVariables slot.value := by
  obtain ⟨qualifier, signature, slots⟩ := call
  exact Slot.listVariables_eq_flatMap slots

/-- **Filling an empty slot** adds the variables of the value. -/
theorem Call.variables_put_perm {call : Call} {index : Nat} {slot : Slot} (hslot : call.slots[index]? = some slot)
    (hempty : slot.value = none) (value : Option Tree) :
    (call.put index value).variables.Perm (call.variables ++ heldVariables value) := by
  rw [variables_eq, variables_eq]
  change ((call.slots.modify index _).flatMap _).Perm _
  generalize call.slots = slots at hslot
  induction slots generalizing index with
  | nil => simp at hslot
  | cons first rest ih =>
    cases index with
    | zero =>
      obtain rfl : first = slot := by simpa using hslot
      have hfirst : heldVariables first.value = [] := by rw [hempty]; rfl
      rw [List.modify_zero_cons, List.flatMap_cons, List.flatMap_cons, hfirst, List.nil_append]
      exact List.perm_append_comm
    | succ index =>
      rw [List.modify_succ_cons, List.flatMap_cons, List.flatMap_cons, List.append_assoc]
      exact (ih (by simpa using hslot)).append_left _

/-- **The variables of a call** are those of its arguments, in some order. -/
theorem Call.variables_ofArguments_perm {read : Reader} {qualifier : String} {signature : Signature}
    {arguments : List Argument} (hadmits : signature.Admits arguments) :
    (ofArguments read qualifier signature arguments).variables.Perm
      (arguments.flatMap fun argument => heldVariables (read.held argument.content)) := by
  -- From the left, the last argument filling a slot that those in front of it leave empty.
  induction arguments using List.reverseRecOn with
  | nil =>
    have hblank : ofArguments read qualifier signature [] = blank qualifier signature :=
      congrArg Binding.call (Binding.reached_nil read qualifier signature)
    rw [hblank, variables_eq, List.flatMap_nil]
    refine (List.flatMap_eq_nil_iff.2 fun slot hslot => ?_).symm ▸ List.Perm.refl _
    rcases List.mem_append.1 hslot with hslot | hslot
    · obtain ⟨parameter, -, rfl⟩ := List.mem_map.1 hslot
      rfl
    · obtain ⟨parameter, -, rfl⟩ := List.mem_map.1 hslot
      rfl
  | append_singleton before argument ih =>
    have hbefore := ih hadmits.of_append
    rw [List.flatMap_append, List.flatMap_singleton]
    refine List.Perm.trans ?_ (hbefore.append_right _)
    obtain ⟨index, hindex⟩ : ∃ index,
        (Binding.reached read qualifier signature before).target? argument.label = some index :=
      (Binding.exists_target?_reached_iff hadmits.of_append).2 hadmits
    have hput := congrArg Binding.call (Binding.advance_reached hindex)
    rw [Binding.call_advance] at hput
    change (ofArguments read qualifier signature before).put index _ =
      ofArguments read qualifier signature (before ++ [argument]) at hput
    rw [← hput]
    cases hlabel : argument.label with
    | positional =>
      rw [hlabel, Binding.target?_reached_positional_eq_some_iff] at hindex
      obtain ⟨rfl, hroom⟩ := hindex
      have hslot := getElem?_ofArguments_of_lt read qualifier signature before hroom
      rw [List.getElem?_eq_getElem hroom, Option.map_some] at hslot
      exact variables_put_perm hslot (by simp) _
    | keyword word =>
      rw [hlabel, Binding.target?_reached_keyword_eq_some_iff] at hindex
      obtain ⟨hnew, i, hi, rfl⟩ := hindex
      obtain ⟨hlt, hname, -⟩ := List.findIdx?_eq_some_iff_getElem.1 hi
      have hslot := getElem?_ofArguments_add read qualifier signature before i
      rw [List.getElem?_eq_getElem hlt, Option.map_some] at hslot
      have hname : signature.keyword[i].name = word := by simpa using hname
      exact variables_put_perm hslot (by simp [hname, given_eq_nil_of_notMem hnew]) _

/-! ### Variables of what is read -/

section Reading

variable {catalog : Catalog} {read : Reader} {inside : List Char → List (List Char)} (hread : read.Translates)
  (hvalues : ∀ content, read.Accepts content →
    (heldVariables (read.held content)).Perm ((inside content).map Text.path))

include hread hvalues

theorem PieceReads.variables_perm {piece : Piece} {node : Node} (h : PieceReads catalog read piece node) :
    node.variables.Perm ((piece.references inside).map Text.path) := by
  cases piece with
  | text content =>
    obtain rfl : node = .text (String.ofList content) := h
    exact List.Perm.refl _
  | unclosed behind => exact h.elim
  | span inner =>
    cases h with
    | path _ hhead =>
      rw [Piece.references_span_of_none hhead]
      exact List.Perm.refl _
    | @call head call hhead hbind =>
      obtain ⟨signature, -, hadmits, haccepts, rfl⟩ := (bindWith_eq_ok_iff_admits hread).1 hbind
      rw [Piece.references_span_of_some hhead, List.map_flatMap, Node.variables]
      refine (Call.variables_ofArguments_perm hadmits).trans (List.Perm.flatMap_left _ fun argument hmem => ?_)
      exact hvalues _ (haccepts argument hmem)

theorem variables_perm_of_reads {pieces : List Piece} {tree : Tree}
    (h : List.Forall₂ (PieceReads catalog read) pieces tree) :
    (Tree.variables tree).Perm ((pieces.flatMap (Piece.references inside)).map Text.path) := by
  induction h with
  | nil => exact List.Perm.refl _
  | @cons piece node pieces tree hreads _ ih =>
    rw [Tree.variables, List.flatMap_cons, List.map_append]
    exact (hreads.variables_perm hread hvalues).append ih

end Reading

/-- **The variables of a tree are those that are written in the text**, in some order, at every level. -/
theorem readWithin_variables_perm (catalog : Catalog) (limit levels : Nat) {s : List Char} {tree : Tree}
    (h : readWithin catalog limit levels 0 s = .ok tree) :
    (Tree.variables tree).Perm ((Text.references levels s).map Text.path) := by
  induction levels generalizing s tree with
  | zero => simp [readWithin] at h
  | succ levels ih =>
    have hread := readWithin_translates catalog limit levels
    have hvalues (content : List Char) (haccepts : (readWithin catalog limit levels).Accepts content) :
        (heldVariables ((readWithin catalog limit levels).held content)).Perm
          ((Text.references levels content).map Text.path) := by
      cases hblank : Text.isBlankText content with
      | true =>
        rw [Text.references_of_isBlankText hblank, Reader.held, if_pos hblank]
        exact List.Perm.refl _
      | false =>
        obtain ⟨value, hvalue⟩ := haccepts hblank
        rw [Reader.held_eq_some_iff.2 ⟨hblank, hvalue⟩]
        exact ih hvalue
    rcases (scanWith_eq_ok_iff hread).1 h with ⟨rfl, rfl⟩ | ⟨-, hpieces⟩
    · rw [Text.references_of_isBlankText rfl]
      exact List.Perm.refl _
    · exact variables_perm_of_reads hread hvalues hpieces

/-! ### Paths in a text -/

/-- **Paths follow a text**: there are stretches of it, one behind the other, that hold the paths in their order,
each between an opening pair, blanks, blanks again and a closing pair. -/
inductive Follows : List String → List Char → Prop
  /-- No paths. -/
  | nil (s : List Char) : Follows [] s
  /-- A stretch behind anything, and the stretches of further paths behind it. -/
  | cons (gap : List Char) {w v : List Char} {path : String} {rest : List String} {s : List Char} :
    Text.isBlankText w = true → Text.isBlankText v = true → Follows rest s →
    Follows (path :: rest) (gap ++ braced (w ++ path.toList ++ v) ++ s)

/-- The characters of paths that follow a text are characters of it, in their order. -/
theorem Follows.sublist {paths : List String} {s : List Char} (h : Follows paths s) :
    (paths.flatMap String.toList).Sublist s := by
  induction h with
  | nil s => exact List.nil_sublist s
  | @cons gap w v path rest s _ _ _ ih =>
    rw [List.flatMap_cons]
    have hstretch : path.toList.Sublist (gap ++ braced (w ++ path.toList ++ v)) := by
      have hinner : path.toList.Sublist (w ++ path.toList ++ v) :=
        (List.sublist_append_right w _).trans (List.sublist_append_left _ v)
      have hbraced : (w ++ path.toList ++ v).Sublist (braced (w ++ path.toList ++ v)) :=
        (List.sublist_append_left _ ['}', '}']).trans (List.sublist_append_right ['{', '{'] _)
      exact (hinner.trans hbraced).trans (List.sublist_append_right gap _)
    exact hstretch.append ih

/-- **Spans that are strewn over a text** have their paths follow it. -/
theorem Strewn.follows {spans : List (List Char)} {s : List Char} (h : Strewn spans s) :
    Follows (spans.map Text.path) s := by
  induction h with
  | nil s => exact .nil s
  | @cons gap inner rest s _ ih =>
    obtain ⟨w, v, hw, hv, heq⟩ := Text.exists_trim_eq inner
    have hpath : braced inner = braced (w ++ (Text.path inner).toList ++ v) := by
      rw [Text.path, String.toList_ofList, ← heq]
    rw [hpath]
    exact .cons gap hw hv ih

/-- **What a stretch of the text holds for a path**: as many opening braces as the path, and the path, or less. -/
structure StandsFor (path : String) (inner : List Char) : Prop where
  /-- It is what a span of a variable holds. -/
  reference : IsReference inner
  /-- It has the opening braces of the path. -/
  count_eq : inner.count '{' = path.toList.count '{'
  /-- It is the path between blanks, or shorter than it. -/
  path_eq : path = Text.path inner ∨ (Text.trim inner).length < path.toList.length

theorem count_of_isBlankText {w : List Char} (hw : Text.isBlankText w = true) : w.count '{' = 0 :=
  List.count_eq_zero.2 (notMem_of_isBlankText hw)

theorem Text.count_trim (s : List Char) : (trim s).count '{' = s.count '{' := by
  obtain ⟨w, v, hw, hv, heq⟩ := exists_trim_eq s
  conv_rhs => rw [heq]
  rw [List.count_append, List.count_append, count_of_isBlankText hw, count_of_isBlankText hv]
  omega

theorem Text.length_trim_le (s : List Char) : (trim s).length ≤ s.length := by
  obtain ⟨w, v, -, -, heq⟩ := exists_trim_eq s
  have hlength := congrArg List.length heq
  rw [List.length_append, List.length_append] at hlength
  omega

/-- A span of a variable stands for its path. -/
theorem IsReference.standsFor {inner : List Char} (h : IsReference inner) : StandsFor (Text.path inner) inner where
  reference := h
  count_eq := by rw [Text.path, String.toList_ofList, Text.count_trim]
  path_eq := .inl rfl

/-- Of a text that ends in a stray closing brace, the brace is a unit of its own. -/
theorem Brace.EndsStray.exists_eq_append {s : List Char} (h : EndsStray s) :
    ∃ before, s = before ++ ['}'] ∧ ¬EndsStray before ∧ cut s = cut before ++ [single '}'] := by
  fun_induction cut s with
  | case1 rest ih =>
    obtain ⟨before, rfl, hbefore, hcut⟩ := ih ((endsStray_of_cut_cons (cut_opening rest) (by simp)).1 h)
    refine ⟨'{' :: '{' :: before, rfl, ?_, by rw [cut_opening, hcut, List.cons_append]⟩
    rwa [endsStray_of_cut_cons (cut_opening before) (by simp)]
  | case2 rest ih =>
    obtain ⟨before, rfl, hbefore, hcut⟩ := ih ((endsStray_of_cut_cons (cut_closing rest) (by simp)).1 h)
    refine ⟨'}' :: '}' :: before, rfl, ?_, by rw [cut_closing, hcut, List.cons_append]⟩
    rwa [endsStray_of_cut_cons (cut_closing before) (by simp)]
  | case3 c rest hopen hclose ih =>
    have hpair := head?_ne_of_not_pair hopen hclose
    by_cases hrest : rest = []
    · subst hrest
      obtain rfl : c = '}' := by simpa using getLast?_of_getLast?_cut h
      exact ⟨[], rfl, by decide, rfl⟩
    · obtain ⟨before, rfl, hbefore, hcut⟩ := ih ((endsStray_of_cut_cons (cut_single hpair) (absurd · hrest)).1 h)
      have hsingle : cut (c :: before) = single c :: cut before := cut_single_of_append hpair
      refine ⟨c :: before, rfl, ?_, by rw [hsingle, hcut, List.cons_append]⟩
      rwa [endsStray_of_cut_cons hsingle]
      -- Right in front of the last brace, this one would be the first of a pair.
      rintro rfl hc
      obtain rfl : c = '}' := by simpa using hc
      exact hpair (Or.inr rfl) rfl
  | case4 => exact absurd h (by decide)

/-- **A balanced text that ends in a stray closing brace** closes a span without it. -/
theorem Brace.IsBalanced.exists_closes {s : List Char} (h : IsBalanced s) (hstray : EndsStray s) :
    ∃ before, s = before ++ ['}'] ∧ Closes before := by
  obtain ⟨before, heq, hbefore, hcut⟩ := hstray.exists_eq_append
  refine ⟨before, heq, (closes_iff before).2 ⟨?_, hbefore⟩⟩
  rw [IsBalanced, hcut, walk_append] at h
  rw [IsBalanced]
  cases hwalk : walk 0 (cut before) with
  | none => simp [hwalk] at h
  | some n => simpa [hwalk] using h

/-- A character that is not blank is not one of the blanks around a text. -/
theorem Text.exists_eq_append_of_solid {w s v before : List Char} {c : Char} (hw : isBlankText w = true)
    (hv : isBlankText v = true) (hc : isBlank c = false) (h : w ++ s ++ v = before ++ [c]) :
    ∃ y, s = y ++ [c] ∧ before = w ++ y := by
  have hlast := congrArg List.getLast? h
  rw [List.getLast?_concat] at hlast
  have hsolid {t : List Char} (ht : isBlankText t = true) : t.getLast? ≠ some c := by
    intro hmem
    rw [List.all_eq_true.1 ht c (List.mem_of_getLast? hmem)] at hc
    simp at hc
  rcases List.eq_nil_or_concat v with rfl | ⟨v, d, rfl⟩
  · rcases List.eq_nil_or_concat s with rfl | ⟨y, d, rfl⟩
    · rw [List.append_nil, List.append_nil] at hlast
      exact absurd hlast (hsolid hw)
    · rw [List.append_nil, List.concat_eq_append, ← List.append_assoc] at h
      obtain ⟨rfl, hd⟩ := List.append_inj' h rfl
      exact ⟨y, by rw [List.concat_eq_append, hd], rfl⟩
  · refine absurd ?_ (hsolid hv)
    rw [List.concat_eq_append, ← List.append_assoc, List.getLast?_concat] at hlast
    rw [List.concat_eq_append, List.getLast?_concat, hlast]

section Stretch

variable {inner : List Char} (h : IsReference inner)

include h

/-- The path of a variable is balanced between any blanks. -/
theorem IsReference.isBalanced {w v : List Char} (hw : Text.isBlankText w = true)
    (hv : Text.isBlankText v = true) : IsBalanced (w ++ Text.trim inner ++ v) := by
  rw [IsBalanced, walk_cut_append_of_not_isBrace' (not_isBrace_of_isBlankText hv),
    walk_cut_append_of_not_isBrace (not_isBrace_of_isBlankText hw), walk_cut_trim]
  exact ((closes_iff inner).1 h.closes).1

/-- There is no call head at the beginning of the path of a variable, and none of a part of it. -/
theorem IsReference.headless_of_eq_append {y more : List Char} (hpath : Text.trim inner = y ++ more) :
    CallHead.read? (Text.trim y) = none := by
  have hstart : Text.StartsSolid y := Text.StartsSolid.of_append (hpath ▸ Text.startsSolid_trim inner)
  obtain ⟨u, -, hu⟩ := hstart.exists_eq_trim_append
  rw [Option.eq_none_iff_forall_ne_some]
  intro head hhead
  obtain ⟨other, hother⟩ := CallHead.exists_read?_append hhead (u ++ more)
  rw [← List.append_assoc, ← hu, ← hpath, h.headless] at hother
  simp at hother

/-- **A stretch that holds a path** starts with a span that stands for the path. A path that ends in a brace of
its own may come with its last brace as the first half of the closing pair. -/
theorem IsReference.exists_standsFor {w v : List Char} (hw : Text.isBlankText w = true)
    (hv : Text.isBlankText v = true) :
    ∃ x more, braced (w ++ Text.trim inner ++ v) = braced x ++ more ∧ StandsFor (Text.path inner) x := by
  have hpath : (Text.path inner).toList = Text.trim inner := String.toList_ofList
  have hbalanced := h.isBalanced hw hv
  have hcount : (w ++ Text.trim inner ++ v).count '{' = (Text.trim inner).count '{' := by
    rw [List.count_append, List.count_append, count_of_isBlankText hw, count_of_isBlankText hv]
    omega
  by_cases hstray : EndsStray (w ++ Text.trim inner ++ v)
  · obtain ⟨before, heq, hcloses⟩ := hbalanced.exists_closes hstray
    obtain ⟨y, hy, rfl⟩ := Text.exists_eq_append_of_solid hw hv (by decide) heq
    have htrim := Text.trim_blank_append hw y
    refine ⟨w ++ y, ['}'], by rw [heq]; simp [braced], ⟨hcloses, ?_⟩, ?_, .inr ?_⟩
    · rw [htrim]
      exact h.headless_of_eq_append hy
    · rw [hpath, ← hcount, heq]
      simp
    · rw [hpath, hy, htrim, List.length_append, List.length_singleton]
      exact Nat.lt_succ_of_le (Text.length_trim_le y)
  · have htrim : Text.trim (w ++ Text.trim inner ++ v) = Text.trim inner :=
      Text.trim_append_append hw hv (Text.startsSolid_trim inner) (Text.endsSolid_trim inner)
    refine ⟨_, [], (List.append_nil _).symm, ⟨(closes_iff _).2 ⟨hbalanced, hstray⟩, ?_⟩, ?_, .inl ?_⟩
    · rw [htrim, h.headless]
    · rw [hpath, hcount]
    · rw [Text.path, Text.path, htrim]

end Stretch

theorem Follows.exists_strewn {paths : List String} {s : List Char} (h : Follows paths s)
    (hpaths : ∀ path ∈ paths, ∃ inner, IsReference inner ∧ path = Text.path inner) :
    ∃ spans, Strewn spans s ∧ List.Forall₂ StandsFor paths spans := by
  induction h with
  | nil s => exact ⟨[], .nil s, .nil⟩
  | @cons gap w v path rest s hw hv _ ih =>
    obtain ⟨hpath, hrest⟩ := List.forall_mem_cons.1 hpaths
    obtain ⟨inner, hinner, rfl⟩ := hpath
    obtain ⟨spans, hstrewn, hstands⟩ := ih hrest
    obtain ⟨x, more, hbraced, hx⟩ := hinner.exists_standsFor hw hv
    refine ⟨x :: spans, ?_, .cons hx hstands⟩
    rw [Text.path, String.toList_ofList, hbraced, ← List.append_assoc, List.append_assoc _ more]
    exact .cons gap (hstrewn.append_left more)

section Order

variable {paths : List String} {spans : List (List Char)}

theorem isReference_of_forall₂ (h : List.Forall₂ StandsFor paths spans) :
    ∀ inner ∈ spans, IsReference inner := by
  induction h with
  | nil => simp
  | cons hfirst _ ih => exact List.forall_mem_cons.2 ⟨hfirst.reference, ih⟩

/-- The opening braces around paths and in them. -/
theorem openingBraces_of_forall₂ (h : List.Forall₂ StandsFor paths spans) :
    openingBraces spans = (paths.map fun path => path.toList.count '{' + 2).sum := by
  induction h with
  | nil => rfl
  | cons hfirst _ ih => rw [openingBraces_cons, count_braced, hfirst.count_eq, ih, List.map_cons, List.sum_cons]

theorem sum_length_le_of_forall₂ (h : List.Forall₂ StandsFor paths spans) :
    ((spans.map Text.path).map (·.toList.length)).sum ≤ (paths.map (·.toList.length)).sum := by
  induction h with
  | nil => exact Nat.le_refl _
  | @cons path inner paths spans hfirst _ ih =>
    have hle : (Text.path inner).toList.length ≤ path.toList.length := by
      rcases hfirst.path_eq with rfl | hlt
      · exact Nat.le_refl _
      · rw [Text.path, String.toList_ofList]
        exact Nat.le_of_lt hlt
    simp only [List.map_cons, List.sum_cons]
    omega

/-- **What stands for paths** that are no longer than its own paths has these paths. -/
theorem eq_map_path_of_forall₂ (h : List.Forall₂ StandsFor paths spans)
    (hlength : (paths.map (·.toList.length)).sum ≤ ((spans.map Text.path).map (·.toList.length)).sum) :
    paths = spans.map Text.path := by
  induction h with
  | nil => rfl
  | @cons path inner paths spans hfirst hrest ih =>
    have hle := sum_length_le_of_forall₂ hrest
    simp only [List.map_cons, List.sum_cons] at hlength
    rcases hfirst.path_eq with rfl | hlt
    · rw [List.map_cons, ← ih (by omega)]
    · rw [Text.path, String.toList_ofList] at hlength
      omega

/-- **Of all orders of the variables that a text holds, the paths follow the text in their own order alone.** -/
theorem Holds.follows_iff {s : List Char} (h : Holds spans s) (hspans : ∀ inner ∈ spans, IsReference inner)
    (hperm : paths.Perm (spans.map Text.path)) : Follows paths s ↔ paths = spans.map Text.path := by
  constructor
  · intro hfollows
    have hpaths : ∀ path ∈ paths, ∃ inner, IsReference inner ∧ path = Text.path inner := by
      intro path hmem
      obtain ⟨inner, hinner, rfl⟩ := List.mem_map.1 (hperm.subset hmem)
      exact ⟨inner, hspans inner hinner, rfl⟩
    obtain ⟨others, hstrewn, hstands⟩ := hfollows.exists_strewn hpaths
    rw [← List.append_nil s] at hstrewn
    obtain ⟨inside, behind, rfl, hbehind, hmost⟩ := h.most (unpaired_of_notMem_right (by simp) s)
      (isReference_of_forall₂ hstands) hstrewn
    obtain rfl := hbehind.eq_nil_of_nil
    rw [List.append_nil] at hstands
    -- The braces around the paths and in them do not depend on the order of the paths.
    have hown : List.Forall₂ StandsFor (spans.map Text.path) spans :=
      List.forall₂_map_left_iff.2 (List.forall₂_same.2 fun inner hmem => (hspans inner hmem).standsFor)
    have hcount : openingBraces inside = openingBraces spans := by
      rw [openingBraces_of_forall₂ hstands, openingBraces_of_forall₂ hown]
      exact (hperm.map _).sum_eq
    obtain rfl : inside = spans := hmost.resolve_left (by omega)
    exact eq_map_path_of_forall₂ hstands (Nat.le_of_eq (hperm.map _).sum_eq)
  · rintro rfl
    exact h.strewn.follows

end Order

namespace Dialect

/-- **The variables of a tree and their places in the text.** The variables that are written in the text follow
it. Those of the tree are the same in some order, and they follow the text exactly if the order is the same. -/
theorem variables_follow_iff (dialect : Dialect) {text : String} {tree : Tree} (h : dialect.scan text = .ok tree) :
    Follows (dialect.written text) text.toList ∧ (Tree.variables tree).Perm (dialect.written text) ∧
      (Follows (Tree.variables tree) text.toList ↔ Tree.variables tree = dialect.written text) := by
  have hholds := readWithin_holds dialect.catalog dialect.maxDepth (dialect.maxDepth + 1) h
  have hperm := readWithin_variables_perm dialect.catalog dialect.maxDepth (dialect.maxDepth + 1) h
  exact ⟨hholds.strewn.follows, hperm, hholds.follows_iff (fun _ => Text.isReference_of_mem_references) hperm⟩

/-- In a call in a call, the arguments are written in the order of the parameters. -/
theorem variables_follow_iff_nested :
    joining.scan "{{x}} {{text.join({{text.join({{y}}, by={{ z }})}}, {{x}})}}" =
        .ok [.variable "x", .text " ",
          .call ⟨"text", joinMethod,
            [⟨.positional, "string", some [.call ⟨"text", joinMethod,
              [⟨.positional, "string", some [.variable "y"]⟩, ⟨.positional, "string", none⟩,
                ⟨.keyword "by", "string", some [.variable "z"]⟩]⟩]⟩,
              ⟨.positional, "string", some [.variable "x"]⟩, ⟨.keyword "by", "string", none⟩]⟩] ∧
      Follows ["x", "y", "z", "x"] "{{x}} {{text.join({{text.join({{y}}, by={{ z }})}}, {{x}})}}".toList := by
  have hscan : joining.scan "{{x}} {{text.join({{text.join({{y}}, by={{ z }})}}, {{x}})}}" =
        .ok [.variable "x", .text " ",
          .call ⟨"text", joinMethod,
            [⟨.positional, "string", some [.call ⟨"text", joinMethod,
              [⟨.positional, "string", some [.variable "y"]⟩, ⟨.positional, "string", none⟩,
                ⟨.keyword "by", "string", some [.variable "z"]⟩]⟩]⟩,
              ⟨.positional, "string", some [.variable "x"]⟩, ⟨.keyword "by", "string", none⟩]⟩] := by cbv
  exact ⟨hscan, (variables_follow_iff joining hscan).2.2.2 (by decide +kernel)⟩

/-- With the keyword first, the variables of the tree are not in the order of the text. -/
theorem not_follows_variables :
    ¬∀ (dialect : Dialect) (text : String) (tree : Tree), dialect.scan text = .ok tree →
      Follows (Tree.variables tree) text.toList := by
  intro h
  have hscan : joining.scan "{{text.join(by={{q}}, {{p}})}}" = .ok [.call ⟨"text", joinMethod,
      [⟨.positional, "string", some [.variable "p"]⟩, ⟨.positional, "string", none⟩,
        ⟨.keyword "by", "string", some [.variable "q"]⟩]⟩] := by cbv
  have hsublist := (h _ _ _ hscan).sublist
  exact absurd hsublist (by decide +kernel)

end Dialect

end Interpolation
