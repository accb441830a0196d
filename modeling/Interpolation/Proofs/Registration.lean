import Interpolation.Catalog

/-!
# What a registration changes

A catalog is read in two steps, from a name to the namespace that it stands for and from there to a method, and
a registration changes what is read in either. This file says how, as equations between what is read before
and after:

* the aliases of the new namespace lead to it, and every other name leads to where it led before
  (`Interpolation.Catalog.resolve_register`);
* the namespace of that name is the new one or the known one with the new one merged in, and the others are
  what they were (`Interpolation.Catalog.get?_register_of_none` and the two lemmas after it);
* of a merged namespace, a method is the one of the latter if it has one of that name, and else the one of the
  former (`Interpolation.Namespace.method?_merge`).

Nothing behind this file looks into the tables.
-/

namespace Interpolation

/-! ### Tables -/

namespace Keyed

variable {α : Type} {key : α → String} {table : Keyed α key} {name : String}

/-- **What is found under a key is the entry that has it.** -/
theorem get?_eq_some_iff {entry : α} :
    table.get? name = some entry ↔ entry ∈ table.entries ∧ key entry = name := by
  constructor
  · exact get?_eq_some
  · rintro ⟨hmem, rfl⟩
    obtain ⟨before, after, hentries⟩ := List.append_of_mem hmem
    -- The entries in front have smaller keys.
    have hsorted := table.sorted
    rw [hentries, List.pairwise_append] at hsorted
    refine List.find?_eq_some_iff_append.2 ⟨by simp, before, after, hentries, fun other hother => ?_⟩
    have hbelow := hsorted.2.2 other hother entry List.mem_cons_self
    have hne : key other ≠ key entry := fun heq => String.lt_irrefl _ (heq ▸ hbelow)
    simpa using hne

theorem get?_eq_none_iff : table.get? name = none ↔ ∀ entry ∈ table.entries, key entry ≠ name := by
  rw [get?, List.find?_eq_none]
  exact forall₂_congr fun entry _ => by rw [beq_iff_eq]

theorem get?_empty (name : String) : (empty : Keyed α key).get? name = none := rfl

/-- The keys of a table are distinct. -/
theorem pairwise_ne (table : Keyed α key) : table.entries.Pairwise (key · ≠ key ·) :=
  table.sorted.imp fun {first second} hlt (heq : key first = key second) => by
    rw [heq] at hlt
    exact String.lt_irrefl _ hlt

end Keyed

/-! ### Namespaces -/

namespace Namespace

/-- The method that is put in is found, at home in the namespace. -/
theorem method?_define (space : Namespace) (method : Signature) (name : String) :
    (space.define method).method? name =
      if method.name = name then some { method with home := space.name } else space.method? name :=
  Keyed.get?_insert space.methods { method with home := space.name } name

/-- Of methods with distinct names, each is found. -/
theorem method?_defineAll (space : Namespace) {methods : List Signature}
    (h : methods.Pairwise (·.name ≠ ·.name)) (name : String) :
    (space.defineAll methods).method? name =
      ((methods.find? (·.name == name)).map fun method => { method with home := space.name }).or
        (space.method? name) := by
  induction methods generalizing space with
  | nil => rfl
  | cons method rest ih =>
    obtain ⟨hdistinct, hrest⟩ := List.pairwise_cons.1 h
    have hstep : (space.defineAll (method :: rest)).method? name =
        ((space.define method).defineAll rest).method? name := rfl
    rw [hstep, ih _ hrest, name_define, method?_define]
    by_cases hname : method.name = name
    · have hnone : rest.find? (·.name == name) = none := by
        rw [List.find?_eq_none]
        intro other hother
        simpa [← hname] using (hdistinct other hother).symm
      simp [hname, hnone]
    · simp [hname]

/-- **A merged namespace has the methods of both**, at home in the first, and of two with the same name that of
the second. -/
theorem method?_merge (space other : Namespace) (name : String) :
    (space.merge other).method? name =
      ((other.method? name).map fun method => { method with home := space.name }).or (space.method? name) := by
  rw [merge, method?_defineAll _ other.methods.pairwise_ne]
  rfl

/-- Putting in methods changes the methods alone. -/
theorem exists_defineAll_eq (space : Namespace) (methods : List Signature) :
    ∃ table, space.defineAll methods = { space with methods := table } := by
  induction methods generalizing space with
  | nil => exact ⟨space.methods, rfl⟩
  | cons method rest ih => exact ih (space.define method)

theorem title_merge (space other : Namespace) :
    (space.merge other).title = if other.title.isEmpty then space.title else other.title := by
  obtain ⟨table, heq⟩ := exists_defineAll_eq _ _
  rw [merge, heq]

theorem description_merge (space other : Namespace) :
    (space.merge other).description =
      if other.description.isEmpty then space.description else other.description := by
  obtain ⟨table, heq⟩ := exists_defineAll_eq _ _
  rw [merge, heq]

theorem sections_merge (space other : Namespace) :
    (space.merge other).sections = space.sections ++ other.sections := by
  obtain ⟨table, heq⟩ := exists_defineAll_eq _ _
  rw [merge, heq]

theorem mem_appendNew_iff {known more : List String} {name : String} :
    name ∈ appendNew known more ↔ name ∈ known ∨ name ∈ more := by
  induction more generalizing known with
  | nil => simp [appendNew]
  | cons first rest ih =>
    have hstep : appendNew known (first :: rest) =
        appendNew (if known.contains first then known else known ++ [first]) rest := rfl
    rw [hstep, ih]
    split
    · -- A name that is there already is not put in again.
      have hknown : first ∈ known := by simpa using ‹known.contains first = true›
      grind
    · grind

theorem mem_aliases_merge_iff {space other : Namespace} {name : String} :
    name ∈ (space.merge other).aliases ↔ name ∈ space.aliases ∨ name ∈ other.aliases := by
  obtain ⟨table, heq⟩ := exists_defineAll_eq _ _
  rw [merge, heq]
  exact mem_appendNew_iff

end Namespace

/-! ### Catalogs -/

namespace Catalog

variable {catalog : Catalog} {space : Namespace}

/-- **The aliases of a namespace that is registered lead to it**, and every other name to where it led
before. -/
theorem resolve_register (catalog : Catalog) (space : Namespace) (name : String) :
    (catalog.register space).resolve name =
      if name ∈ space.aliases then space.name else catalog.resolve name := by
  have hlookup : (space.aliases.map (·, space.name)).lookup name =
      if name ∈ space.aliases then some space.name else none := by
    induction space.aliases with
    | nil => rfl
    | cons first rest ih =>
      rw [List.map_cons, List.lookup_cons, ih]
      by_cases hname : name = first
      · simp [hname]
      · have hbeq : (name == first) = false := by simpa using hname
        simp [hname, hbeq]
  rw [resolve, register, List.lookup_append, hlookup]
  split <;> rfl

theorem get?_register_of_ne (catalog : Catalog) {name : String} (h : space.name ≠ name) :
    (catalog.register space).table.get? name = catalog.table.get? name := by
  rw [register, Keyed.get?_insert, if_neg]
  -- What is put in has the name of the namespace that is registered.
  split
  · rename_i known hknown
    rwa [Namespace.name_merge, (Keyed.get?_eq_some hknown).2]
  · exact h

theorem get?_register_of_none (h : catalog.table.get? space.name = none) :
    (catalog.register space).table.get? space.name = some space := by
  rw [register, Keyed.get?_insert, h, if_pos rfl]

theorem get?_register_of_some {known : Namespace} (h : catalog.table.get? space.name = some known) :
    (catalog.register space).table.get? space.name = some (known.merge space) := by
  rw [register, Keyed.get?_insert, h, if_pos]
  exact (Namespace.name_merge known space).trans (Keyed.get?_eq_some h).2

/-- A registration behind others. -/
theorem ofList_concat (spaces : List Namespace) (space : Namespace) :
    ofList (spaces ++ [space]) = (ofList spaces).register space := by
  rw [ofList, registerAll, List.foldl_append]
  rfl

end Catalog

end Interpolation
