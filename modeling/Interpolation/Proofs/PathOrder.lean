import Interpolation.Files.Path
import Mathlib.Data.List.Forall2
import Mathlib.Data.List.Perm.Basic

/-!
# The order of paths

A path continued by a name has the components of the path and behind them the name
(`Interpolation.Path.components_join`). So of the files below a directory, each has its own components.

Paths are ordered by their components one after the other, and components by their kind and their name. This is
an order like that of the words in a dictionary (`Interpolation.Path.compareComponents_eq`), and two paths are
equal in it if they have the same components (`Interpolation.Path.compare_eq_iff`). Paths with different
components can therefore be put in order in one way only (`Interpolation.Path.pairwise_mergeSort`,
`Interpolation.Path.eq_of_pairwise_lt`), and how they are spelled makes no difference to it
(`Interpolation.Path.forall₂_of_pairwise_lt`).
-/

namespace Interpolation

/-! ### Lists in order -/

/-- A list in strict order is given by its elements. -/
theorem eq_of_pairwise_cmp_lt {α : Type} {cmp : α → α → Ordering} [Std.TransCmp cmp] {first second : List α}
    (hfirst : first.Pairwise fun a b => cmp a b = .lt) (hsecond : second.Pairwise fun a b => cmp a b = .lt)
    (h : ∀ item, item ∈ first ↔ item ∈ second) : first = second := by
  have hirrefl (item : α) : cmp item item ≠ .lt := by
    rw [(Std.ReflCmp.compare_self : cmp item item = .eq)]
    decide
  have hnodup {items : List α} (hitems : items.Pairwise fun a b => cmp a b = .lt) : items.Nodup :=
    hitems.imp fun {a b} hlt heq => by
      subst heq
      exact hirrefl a hlt
  refine List.Perm.eq_of_pairwise (fun a b _ _ hlt hgt => ?_) hfirst hsecond
    ((List.perm_ext_iff_of_nodup (hnodup hfirst) (hnodup hsecond)).2 h)
  exact absurd (Std.TransCmp.lt_trans hlt hgt) (hirrefl a)

/-! ### Components in order -/

namespace Component

/-- The name of a component that has one. -/
def label : Component → String
  | name text => text
  | _ => ""

/-- Components are compared by their kind, and those of a kind by their name. -/
theorem compare_eq : Component.compare = compareLex (compareOn rank) (compareOn label) := by
  funext a b
  cases a <;> cases b <;> rfl

instance : Std.TransCmp Component.compare := by
  rw [compare_eq]
  infer_instance

instance : Std.LawfulEqCmp Component.compare where
  compare_self {a} := by
    rw [compare_eq]
    exact Std.ReflCmp.compare_self
  eq_of_compare {a b} h := by
    rw [compare_eq, compareLex, Ordering.then_eq_eq] at h
    have hrank : a.rank = b.rank := Std.LawfulEqCmp.eq_of_compare h.1
    have hlabel : a.label = b.label := Std.LawfulEqCmp.eq_of_compare h.2
    cases a <;> cases b <;> simp_all [rank, label]

end Component

namespace Path

/-! ### Paths in order -/

/-- **The order of paths is that of a dictionary.** -/
theorem compareComponents_eq : compareComponents = List.compareLex Component.compare := by
  funext a b
  induction a generalizing b with
  | nil => cases b <;> rfl
  | cons first rest ih =>
    cases b with
    | nil => rfl
    | cons other more => rw [compareComponents, List.compareLex_cons_cons, ih]

instance : Std.TransCmp compareComponents := by
  rw [compareComponents_eq]
  infer_instance

instance : Std.LawfulEqCmp compareComponents := by
  rw [compareComponents_eq]
  infer_instance

instance : Std.TransCmp Path.compare where
  eq_swap {a b} := @Std.OrientedCmp.eq_swap _ compareComponents _ a.components b.components
  isLE_trans {a b c} := @Std.TransCmp.isLE_trans _ compareComponents _ a.components b.components c.components

theorem compare_eq_iff {a b : Path} : a.compare b = .eq ↔ a.components = b.components :=
  @Std.LawfulEqCmp.compare_eq_iff_eq _ compareComponents _ _ _

theorem isLE_total (a b : Path) : ((a.compare b).isLE || (b.compare a).isLE) = true := by
  rw [@Std.OrientedCmp.eq_swap _ Path.compare _ b a]
  cases a.compare b <;> rfl

/-- Paths with different components are put in strict order. -/
theorem pairwise_mergeSort {paths : List Path} (h : paths.Pairwise (·.components ≠ ·.components)) :
    (paths.mergeSort fun a b => (a.compare b).isLE).Pairwise fun a b => a.compare b = .lt := by
  have hsorted := List.pairwise_mergeSort (fun _ _ _ => Std.TransCmp.isLE_trans) isLE_total paths
  have hperm := List.mergeSort_perm paths fun a b => (a.compare b).isLE
  have hdistinct := hperm.symm.pairwise h fun hne => hne.symm
  refine hsorted.imp₂ (fun a b hle hne => ?_) hdistinct
  rcases (Ordering.isLE_iff_eq_lt_or_eq_eq).1 hle with hlt | heq
  · exact hlt
  · exact absurd (compare_eq_iff.1 heq) hne

/-- **Two lists of paths in strict order are the same** if they have the same elements. -/
theorem eq_of_pairwise_lt {first second : List Path} (hfirst : first.Pairwise fun a b => a.compare b = .lt)
    (hsecond : second.Pairwise fun a b => a.compare b = .lt) (h : ∀ path, path ∈ first ↔ path ∈ second) :
    first = second :=
  eq_of_pairwise_cmp_lt hfirst hsecond h

/-- Up to their spelling, it is enough that equal paths are elements of both. -/
theorem forall₂_of_pairwise_lt {first second : List Path} (hfirst : first.Pairwise fun a b => a.compare b = .lt)
    (hsecond : second.Pairwise fun a b => a.compare b = .lt)
    (h : ∀ path, (∃ found ∈ first, found.compare path = .eq) ↔ ∃ found ∈ second, found.compare path = .eq) :
    List.Forall₂ (fun a b => a.compare b = .eq) first second := by
  have hmap : first.map components = second.map components := by
    have hmem (list : List Path) (path : Path) :
        path.components ∈ list.map components ↔ ∃ found ∈ list, found.compare path = .eq := by
      simp only [List.mem_map, compare_eq_iff]
    refine eq_of_pairwise_cmp_lt (List.pairwise_map.2 hfirst) (List.pairwise_map.2 hsecond) fun item => ?_
    constructor
    · intro hitem
      obtain ⟨path, -, rfl⟩ := List.mem_map.1 hitem
      rwa [hmem, ← h, ← hmem]
    · intro hitem
      obtain ⟨path, -, rfl⟩ := List.mem_map.1 hitem
      rwa [hmem, h, ← hmem]
  rw [← List.forall₂_eq_eq_eq, List.forall₂_map_left_iff, List.forall₂_map_right_iff] at hmap
  exact hmap.imp fun _ _ => compare_eq_iff.2

/-! ### Pieces -/

theorem pieces_ne_nil (s : List Char) : pieces s ≠ [] := by
  fun_induction pieces s <;> simp

/-- A text without a slash is one piece. -/
theorem pieces_eq_singleton {s : List Char} (h : '/' ∉ s) : pieces s = [s] := by
  induction s with
  | nil => rfl
  | cons c rest ih =>
    obtain ⟨hne, hrest⟩ := not_or.1 (mt List.mem_cons.2 h)
    rw [pieces, if_neg (Ne.symm hne), ih hrest]

/-- The pieces in front of a slash and those behind it. -/
theorem pieces_append_slash (s t : List Char) : pieces (s ++ '/' :: t) = pieces s ++ pieces t := by
  induction s with
  | nil => rfl
  | cons c rest ih =>
    obtain ⟨piece, more, hpieces⟩ := List.exists_cons_of_ne_nil (pieces_ne_nil rest)
    by_cases hslash : c = '/'
    · simp [pieces, hslash, ih]
    · simp [pieces, hslash, ih, hpieces]

/-- Only the empty text is one empty piece. -/
theorem pieces_eq_nil_iff {s : List Char} : pieces s = [[]] ↔ s = [] := by
  cases s with
  | nil => simp [pieces]
  | cons c rest =>
    obtain ⟨piece, more, hpieces⟩ := List.exists_cons_of_ne_nil (pieces_ne_nil rest)
    by_cases hslash : c = '/' <;> simp [pieces, hslash, hpieces]

/-- The characters of a text are those of its pieces and the slashes. -/
theorem exists_mem_pieces_iff {s : List Char} {c : Char} (hc : c ≠ '/') :
    (∃ piece ∈ pieces s, c ∈ piece) ↔ c ∈ s := by
  induction s with
  | nil => simp [pieces]
  | cons d rest ih =>
    obtain ⟨piece, more, hpieces⟩ := List.exists_cons_of_ne_nil (pieces_ne_nil rest)
    rw [hpieces] at ih
    by_cases hslash : d = '/'
    · subst hslash
      simpa [pieces, hpieces, hc] using ih
    · simp only [pieces, if_neg hslash, hpieces]
      rw [List.exists_mem_cons_iff] at ih ⊢
      rw [List.mem_cons, List.mem_cons, or_assoc, ih]

/-! ### Components of a path that goes on -/

/-- **What a place can be named**: not with nothing, a dot or two, and not with a slash in it. -/
structure IsName (name : String) : Prop where
  ne_empty : name ≠ ""
  ne_dot : name ≠ "."
  ne_dots : name ≠ ".."
  slash_notMem : '/' ∉ name.toList

instance (name : String) : Decidable (IsName name) :=
  decidable_of_iff (name ≠ "" ∧ name ≠ "." ∧ name ≠ ".." ∧ '/' ∉ name.toList)
    ⟨fun ⟨h₁, h₂, h₃, h₄⟩ => ⟨h₁, h₂, h₃, h₄⟩, fun ⟨h₁, h₂, h₃, h₄⟩ => ⟨h₁, h₂, h₃, h₄⟩⟩

theorem component?_of_isName {name : String} (h : IsName name) (atStart : Bool) :
    component? atStart name.toList = some (.name name) := by
  rw [component?, String.ofList_toList]
  · exact fun hnil => h.ne_empty (String.toList_injective hnil)
  · exact fun hdot => h.ne_dot (String.toList_injective hdot)
  · exact fun hdots => h.ne_dots (String.toList_injective hdots)

/-- The components that the first piece of a path stands for, of a path that is not empty. -/
def start (piece : List Char) : List Component :=
  if piece.isEmpty then [.root] else (component? true piece).toList

/-- The components of a path are those of its pieces, of which the first is understood in its own way. -/
theorem components_of_pieces {path : Path} {first : List Char} {rest : List (List Char)}
    (hpieces : pieces path.text.toList = first :: rest) (hne : path.text ≠ "") :
    path.components = start first ++ rest.filterMap (component? false) := by
  rw [components, hpieces]
  cases first with
  | cons c more => rfl
  | nil =>
    cases rest with
    | nil => exact absurd (String.toList_injective (pieces_eq_nil_iff.1 hpieces)) hne
    | cons piece rest => rfl

theorem components_ne_nil {path : Path} (hne : path.text ≠ "") : path.components ≠ [] := by
  obtain ⟨first, rest, hpieces⟩ := List.exists_cons_of_ne_nil (pieces_ne_nil path.text.toList)
  rw [components_of_pieces hpieces hne]
  have hstart : start first ≠ [] := by
    fun_cases component? true first <;> simp_all [start, component?]
  exact fun hnil => hstart (List.append_eq_nil_iff.1 hnil).1

theorem components_eq_nil_iff {path : Path} : path.components = [] ↔ path.text = "" := by
  constructor
  · intro hnil
    by_contra hne
    exact components_ne_nil hne hnil
  · intro hempty
    rw [components, hempty]
    rfl

theorem exists_component?_iff {piece : List Char} {c : Char} (hc : c ≠ '.') (atStart : Bool) :
    (∃ name, component? atStart piece = some (.name name) ∧ c ∈ name.toList) ↔ c ∈ piece := by
  fun_cases component? atStart piece <;> simp_all

/-- The characters of a path are those of its names, the slashes and the dots. -/
theorem exists_mem_components_iff {path : Path} {c : Char} (hslash : c ≠ '/') (hdot : c ≠ '.') :
    (∃ name, .name name ∈ path.components ∧ c ∈ name.toList) ↔ c ∈ path.text.toList := by
  by_cases hne : path.text = ""
  · simp [components_eq_nil_iff.2 hne, hne]
  obtain ⟨first, rest, hpieces⟩ := List.exists_cons_of_ne_nil (pieces_ne_nil path.text.toList)
  have hstart (name : String) : .name name ∈ start first ↔ component? true first = some (.name name) := by
    cases first <;> simp [start, component?, eq_comm]
  rw [components_of_pieces hpieces hne, ← exists_mem_pieces_iff hslash, hpieces]
  simp only [List.mem_append, List.mem_filterMap, hstart, List.exists_mem_cons_iff, or_and_right, exists_or,
    exists_component?_iff hdot]
  refine or_congr_right ⟨?_, ?_⟩
  · rintro ⟨name, ⟨piece, hpiece, hname⟩, hc⟩
    exact ⟨piece, hpiece, (exists_component?_iff hdot false).1 ⟨name, hname, hc⟩⟩
  · rintro ⟨piece, hpiece, hc⟩
    obtain ⟨name, hname, hc⟩ := (exists_component?_iff hdot false).2 hc
    exact ⟨name, ⟨piece, hpiece, hname⟩, hc⟩

/-- A slash stands in front of the name by which a path is continued: the last one of the path, or a new one. -/
theorem exists_text_join {path : Path} {name : String} (h : IsName name) (hne : path.text ≠ "") :
    ∃ before, (path.join name).text.toList = before ++ '/' :: name.toList ∧
      (path.text.toList = before ∨ path.text.toList = before ++ ['/']) := by
  have hname : ¬name.startsWith "/" = true := by
    rw [String.startsWith_string_iff]
    rintro ⟨rest, heq⟩
    exact h.slash_notMem (by simp [← heq])
  have hempty : ¬path.text.isEmpty = true := by simpa using hne
  rw [join, if_neg hname]
  by_cases hend : path.text.endsWith "/" = true
  · obtain ⟨before, heq⟩ : ['/'] <:+ path.text.toList := by
      rw [String.endsWith_eq_endsWith_toSlice, String.Slice.endsWith_string_iff] at hend
      simpa using hend
    exact ⟨before, by simp [hend, ← heq], .inr heq.symm⟩
  · exact ⟨path.text.toList, by simp [hend, hempty], .inl rfl⟩

theorem text_join_ne {path : Path} {name : String} (h : IsName name) (hne : path.text ≠ "") :
    (path.join name).text ≠ "" := by
  obtain ⟨before, hjoin, -⟩ := exists_text_join h hne
  intro hempty
  simp [hempty] at hjoin

/-- **A path continued by a name has that component more.** -/
theorem components_join {path : Path} {name : String} (h : IsName name) (hne : path.text ≠ "") :
    (path.join name).components = path.components ++ [.name name] := by
  have hname : (pieces name.toList).filterMap (component? false) = [.name name] := by
    rw [pieces_eq_singleton h.slash_notMem]
    simp [component?_of_isName h]
  obtain ⟨before, hjoin, hpath⟩ := exists_text_join h hne
  obtain ⟨first, rest, hpieces⟩ := List.exists_cons_of_ne_nil (pieces_ne_nil before)
  have hjoined : pieces (path.join name).text.toList = first :: (rest ++ pieces name.toList) := by
    rw [hjoin, pieces_append_slash, hpieces, List.cons_append]
  rw [components_of_pieces hjoined (text_join_ne h hne), List.filterMap_append, hname, ← List.append_assoc]
  congr 1
  rcases hpath with hpath | hpath
  · rw [components_of_pieces (hpath ▸ hpieces) hne]
  · have hslash : pieces path.text.toList = first :: (rest ++ [[]]) := by
      rw [hpath, pieces_append_slash, hpieces]
      rfl
    rw [components_of_pieces hslash hne, List.filterMap_append]
    simp [component?]

/-- A path continued by several names has them as components behind its own. -/
theorem components_foldl_join {path : Path} {names : List String} (hne : path.text ≠ "")
    (hnames : ∀ name ∈ names, IsName name) :
    (names.foldl join path).components = path.components ++ names.map .name := by
  induction names generalizing path with
  | nil => simp
  | cons name rest ih =>
    obtain ⟨hname, hrest⟩ := List.forall_mem_cons.1 hnames
    rw [List.foldl_cons, ih (text_join_ne hname hne) hrest, components_join hname hne]
    simp

end Path

end Interpolation
