/-!
# Tables sorted by a key

A table of entries that carry their own key (`Interpolation.Keyed`): no key occurs twice, and the entries are
in the order of their keys, the order of strings by code points. The invariant is a field of the type, so that
listings are sorted by construction. Inserting replaces the entry of the same key, which `get?_insert` says
as an equation.
-/

namespace Interpolation

/-- **A table of entries with distinct keys, in the order of the keys.** -/
structure Keyed (α : Type) (key : α → String) where
  /-- The entries in order. -/
  entries : List α
  /-- Every key is below the ones after it. -/
  sorted : entries.Pairwise (key · < key ·)

namespace Keyed

variable {α : Type} {key : α → String}

/-- The table without entries. -/
def empty : Keyed α key := ⟨[], .nil⟩

/-- The number of entries. -/
def size (table : Keyed α key) : Nat := table.entries.length

/-- The entry with the given key. -/
def get? (table : Keyed α key) (name : String) : Option α := table.entries.find? (key · == name)

/-! ### Inserting -/

/-- Puts an entry where its key belongs in a sorted list, in the place of the one with the same key if
there is one. -/
def place (key : α → String) (entry : α) : List α → List α
  | [] => [entry]
  | head :: rest =>
    if key entry = key head then entry :: rest
    else if key entry < key head then entry :: head :: rest
    else head :: place key entry rest

/-- Nothing comes into a list by placing but the entry placed. -/
theorem eq_or_mem_of_mem_place {entry other : α} {entries : List α}
    (h : other ∈ place key entry entries) : other = entry ∨ other ∈ entries := by
  induction entries with
  | nil => simp_all [place]
  | cons head rest ih =>
    unfold place at h
    split at h
    · simp_all only [List.mem_cons]
      exact h.imp_right .inr
    · split at h
      · simpa using h
      · rcases List.mem_cons.1 h with rfl | h
        · exact .inr List.mem_cons_self
        · exact (ih h).imp_right (List.mem_cons_of_mem _)

/-- Placing keeps a list sorted. -/
theorem sorted_place (entry : α) {entries : List α} (h : entries.Pairwise (key · < key ·)) :
    (place key entry entries).Pairwise (key · < key ·) := by
  induction entries with
  | nil => simp [place]
  | cons head rest ih =>
    obtain ⟨above, rest_sorted⟩ := List.pairwise_cons.1 h
    unfold place
    split
    · rename_i same
      exact List.pairwise_cons.2 ⟨fun other mem => same ▸ above other mem, rest_sorted⟩
    · rename_i differ
      split
      · rename_i below
        refine List.pairwise_cons.2 ⟨fun other mem => ?_, h⟩
        rcases List.mem_cons.1 mem with rfl | mem
        · exact below
        · exact String.lt_trans below (above other mem)
      · rename_i not_below
        refine List.pairwise_cons.2 ⟨fun other mem => ?_, ih rest_sorted⟩
        rcases eq_or_mem_of_mem_place mem with rfl | mem
        · rcases Std.lt_trichotomy (key other) (key head) with lt | eq | gt
          · exact absurd lt not_below
          · exact absurd eq differ
          · exact gt
        · exact above other mem

/-- The table with the entry put in, in the place of the one with the same key if there is one. -/
def insert (table : Keyed α key) (entry : α) : Keyed α key :=
  ⟨place key entry table.entries, sorted_place entry table.sorted⟩

/-- **After an insertion the key of the new entry leads to it, and every other key to what it led to
before.** -/
theorem get?_insert (table : Keyed α key) (entry : α) (name : String) :
    (table.insert entry).get? name = if key entry = name then some entry else table.get? name := by
  obtain ⟨entries, sorted⟩ := table
  simp only [insert, get?]
  induction entries with
  | nil => by_cases same : key entry = name <;> simp [place, same]
  | cons head rest ih =>
    have ih := ih (List.pairwise_cons.1 sorted).2
    unfold place
    split
    · rename_i clash
      by_cases same : key entry = name
      · simp [same]
      · simp [same, ← clash]
    · rename_i differ
      split
      · by_cases same : key entry = name
        · simp [same]
        · simp [List.find?_cons, same]
      · by_cases first : key head = name
        · have : key entry ≠ name := fun same => differ (same.trans first.symm)
          simp [first, this]
        · have : (key head == name) = false := by simpa using first
          simp only [List.find?_cons, this, ih]

/-- The entry found under a key is in the table and has that key. -/
theorem get?_eq_some {table : Keyed α key} {name : String} {entry : α}
    (h : table.get? name = some entry) : entry ∈ table.entries ∧ key entry = name := by
  have found := List.find?_some h
  exact ⟨List.mem_of_find?_eq_some h, by simpa using found⟩

end Keyed

end Interpolation
