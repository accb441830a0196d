import Interpolation.Builtin
import Interpolation.Proofs.Outcome

/-!
# Catalogs with good keywords

Keyword parameters whose names are distinct words are the one thing that the theory asks of a catalog
(`Interpolation.Catalog.IsWellNamed`). A namespace has the property if all its methods have it
(`Interpolation.Namespace.IsWellNamed`), and whatever is put together from such namespaces has it too
(`Interpolation.Catalog.isWellNamed_ofList`): what is registered may be merged or replaced, but no signature
comes about that was not given. So the property can be read off the methods that were written down, and the
built-in catalog has it (`Interpolation.Catalog.isWellNamed_builtin`).
-/

namespace Interpolation

instance (signature : Signature) : Decidable signature.IsWellNamed :=
  decidable_of_iff ((signature.keyword.map (·.name)).Nodup ∧
      ∀ parameter ∈ signature.keyword, isWord parameter.name.toList = true)
    ⟨fun h => ⟨h.1, h.2⟩, fun h => ⟨h.distinct, h.word⟩⟩

/-- Every entry of a table after an insertion was in it before or is the new one. -/
theorem Keyed.eq_or_mem_of_mem_insert {α : Type} {key : α → String} {table : Keyed α key}
    {entry other : α} (h : other ∈ (table.insert entry).entries) : other = entry ∨ other ∈ table.entries :=
  eq_or_mem_of_mem_place h

namespace Namespace

variable {space : Namespace}

/-- **Every method of the namespace** has keyword parameters with distinct words for names. -/
def IsWellNamed (space : Namespace) : Prop := ∀ method ∈ space.methods.entries, method.IsWellNamed

instance (space : Namespace) : Decidable space.IsWellNamed :=
  inferInstanceAs (Decidable (∀ _ ∈ _, _))

theorem IsWellNamed.define (h : space.IsWellNamed) {method : Signature} (hmethod : method.IsWellNamed) :
    (space.define method).IsWellNamed := by
  intro other hother
  rcases Keyed.eq_or_mem_of_mem_insert hother with rfl | hmem
  · exact ⟨hmethod.distinct, hmethod.word⟩
  · exact h other hmem

theorem IsWellNamed.defineAll (h : space.IsWellNamed) {methods : List Signature}
    (hmethods : ∀ method ∈ methods, method.IsWellNamed) : (space.defineAll methods).IsWellNamed := by
  induction methods generalizing space with
  | nil => exact h
  | cons method rest ih =>
    exact ih (h.define (hmethods method List.mem_cons_self))
      fun other hother => hmethods other (List.mem_cons_of_mem _ hother)

theorem IsWellNamed.merge (h : space.IsWellNamed) {other : Namespace} (hother : other.IsWellNamed) :
    (space.merge other).IsWellNamed := by
  rw [Namespace.merge]
  refine IsWellNamed.defineAll ?_ hother
  exact h

end Namespace

namespace Catalog

variable {catalog : Catalog}

/-- A catalog of well-named namespaces is well named. -/
theorem isWellNamed_of_namespaces (h : ∀ space ∈ catalog.namespaces, space.IsWellNamed) :
    catalog.IsWellNamed := by
  intro qualifier name signature hfound
  rw [lookup] at hfound
  obtain ⟨space, hspace, hmethod⟩ := Option.bind_eq_some_iff.1 hfound
  exact h space (Keyed.get?_eq_some hspace).1 signature (Keyed.get?_eq_some hmethod).1

theorem isWellNamed_register {space : Namespace} (hspace : space.IsWellNamed)
    (h : ∀ known ∈ catalog.namespaces, known.IsWellNamed) :
    ∀ known ∈ (catalog.register space).namespaces, known.IsWellNamed := by
  intro known hknown
  -- What is registered is merged into the namespace of its name, if there is one.
  rcases Keyed.eq_or_mem_of_mem_insert hknown with rfl | hmem
  · split
    · rename_i old hold
      exact (h old (Keyed.get?_eq_some hold).1).merge hspace
    · exact hspace
  · exact h known hmem

/-- **A catalog that is put together from well-named namespaces is well named.** -/
theorem isWellNamed_ofList {spaces : List Namespace} (h : ∀ space ∈ spaces, space.IsWellNamed) :
    (ofList spaces).IsWellNamed := by
  have hall : ∀ start : Catalog, (∀ known ∈ start.namespaces, known.IsWellNamed) →
      ∀ known ∈ (start.registerAll spaces).namespaces, known.IsWellNamed := by
    induction spaces with
    | nil => exact fun _ hstart => hstart
    | cons space rest ih =>
      intro start hstart
      exact ih (fun other hother => h other (List.mem_cons_of_mem _ hother)) _
        (isWellNamed_register (h space List.mem_cons_self) hstart)
  refine isWellNamed_of_namespaces (hall empty fun known hknown => ?_)
  simp [empty, namespaces, Keyed.empty] at hknown

end Catalog

/-- A namespace made of groups is well named if their methods are. -/
theorem Builtin.isWellNamed_assemble {name title description : String} {groups : List Group}
    (h : ∀ group ∈ groups, ∀ method ∈ group.methods, method.IsWellNamed) :
    (assemble name title description groups).IsWellNamed := by
  refine Namespace.IsWellNamed.defineAll (fun method hmem => ?_) fun method hmem => ?_
  · simp [Keyed.empty] at hmem
  · obtain ⟨group, hgroup, hmem⟩ := List.mem_flatMap.1 hmem
    exact h group hgroup method hmem

/-- **The built-in catalog is well named.** -/
theorem Catalog.isWellNamed_builtin : builtin.IsWellNamed := by
  refine isWellNamed_ofList fun space hspace => ?_
  simp only [List.mem_cons, List.not_mem_nil, or_false] at hspace
  rcases hspace with rfl | rfl | rfl | rfl | rfl
  · exact Builtin.isWellNamed_assemble (by decide)
  · exact Builtin.isWellNamed_assemble (by decide)
  · exact Builtin.isWellNamed_assemble (by decide)
  · exact Builtin.isWellNamed_assemble (by decide)
  · exact Builtin.isWellNamed_assemble (by decide)

end Interpolation
