import Interpolation.Proofs.FixedPoint
import Interpolation.Proofs.Limits
import Interpolation.Proofs.Registration

/-!
# Extending a catalog

A catalog extends another one if every method that is found in the other is found in it too, under the same
names (`Interpolation.Catalog.Extends`). Reading looks methods up and does nothing else with a catalog, and it
stops with an error where it finds none. So what a text means stays the same in an extension, and an error too,
unless it is about an unknown method (`Interpolation.readWithin_unlessUnknown`).

A registration may put an alias in front of a namespace or override methods, and then it extends nothing. It
does extend the catalog if it does neither (`Interpolation.Catalog.extends_register`).
-/

namespace Interpolation

/-- **Every method of one catalog is one of a larger catalog**, under the same names. -/
def Catalog.Extends (larger catalog : Catalog) : Prop :=
  ∀ qualifier name signature, catalog.lookup qualifier name = some signature →
    larger.lookup qualifier name = some signature

/-- The fault is that there is no method of the given names. -/
def Fault.IsUnknownMethod (fault : Fault) : Prop := ∃ qualifier name, fault = .unknownMethod qualifier name

/-! ### Reading with more methods -/

/-- The first outcome is the second, or an error about an unknown method. -/
def Comparison.unlessUnknown : Comparison where
  Related x y := x = y ∨ ∃ e, e.fault.IsUnknownMethod ∧ x = .error e
  ok _ := Or.inl rfl
  error _ _ := Or.inl rfl
  bind := by
    rintro α β x y f g (rfl | ⟨e, hunknown, rfl⟩) hfg
    · cases x with
      | error e => exact Or.inl rfl
      | ok a => exact hfg a
    · exact Or.inr ⟨e, hunknown, rfl⟩

section Larger

variable {catalog larger : Catalog} (hextends : larger.Extends catalog)

include hextends

/-- A call is the same in a larger catalog, unless its method or one in it is unknown. -/
theorem bindWith_unlessUnknown {read read' : Reader}
    (hread : ∀ offset s, Comparison.unlessUnknown.Related (read offset s) (read' offset s))
    (callStart listStart : Nat) (qualifier name : String) (raw : List Char) :
    Comparison.unlessUnknown.Related (bindWith catalog read callStart listStart qualifier name raw)
      (bindWith larger read' callStart listStart qualifier name raw) := by
  cases hlookup : catalog.lookup qualifier name with
  | none =>
    refine Or.inr ⟨⟨.unknownMethod qualifier name, callStart⟩, ⟨qualifier, name, rfl⟩, ?_⟩
    rw [bindWith, hlookup]
  | some signature =>
    rw [bindWith, bindWith, hlookup, hextends qualifier name signature hlookup]
    exact Comparison.unlessUnknown.map_related
      (Comparison.unlessUnknown.foldlM_argument_related hread name listStart _ _) _

/-- **More methods change nothing unless one was unknown.** -/
theorem readWithin_unlessUnknown (limit levels offset : Nat) (s : List Char) :
    Comparison.unlessUnknown.Related (readWithin catalog limit levels offset s)
      (readWithin larger limit levels offset s) := by
  induction levels generalizing offset s with
  | zero => exact Or.inl rfl
  | succ levels ih =>
    have hcalls := bindWith_unlessUnknown hextends ih
    exact Comparison.unlessUnknown.scanWith_related hcalls offset s

end Larger

/-! ### Registering more methods -/

namespace Catalog

variable {catalog : Catalog} {space : Namespace}

/-- A name that leads to a namespace leads to the one of the same name after a registration whose aliases lead
nowhere before. -/
theorem resolve_register_of_some (haliases : ∀ name ∈ space.aliases, catalog.namespace? name = none)
    {name : String} {found : Namespace} (hfound : catalog.namespace? name = some found) :
    (catalog.register space).resolve name = catalog.resolve name := by
  rw [resolve_register, if_neg]
  intro hmem
  rw [haliases name hmem] at hfound
  simp at hfound

/-- A namespace keeps its methods when it, or another one, is registered without any of their names. -/
theorem exists_get?_register
    (hmethods : ∀ known ∈ catalog.namespaces, known.name = space.name →
      ∀ method ∈ space.methods.entries, known.method? method.name = none)
    {name : String} {found : Namespace} (hfound : catalog.table.get? name = some found) :
    ∃ next, (catalog.register space).table.get? name = some next ∧
      ∀ method signature, found.method? method = some signature → next.method? method = some signature := by
  by_cases hname : space.name = name
  · subst hname
    refine ⟨found.merge space, get?_register_of_some hfound, fun method signature hmethod => ?_⟩
    obtain ⟨hmem, hnamed⟩ := Keyed.get?_eq_some hfound
    have hnew : space.method? method = none := by
      rw [Option.eq_none_iff_forall_ne_some]
      intro other hother
      obtain ⟨hdeclared, rfl⟩ := Keyed.get?_eq_some hother
      rw [hmethods found hmem hnamed other hdeclared] at hmethod
      simp at hmethod
    rw [Namespace.method?_merge, hnew]
    exact hmethod
  · exact ⟨found, (get?_register_of_ne catalog hname).trans hfound, fun _ _ hmethod => hmethod⟩

/-- **A registration extends the catalog** if its methods have other names than those of the namespace that it
is merged into, and its aliases lead nowhere before. -/
theorem extends_register
    (hmethods : ∀ known ∈ catalog.namespaces, known.name = space.name →
      ∀ method ∈ space.methods.entries, known.method? method.name = none)
    (haliases : ∀ name ∈ space.aliases, catalog.namespace? name = none) :
    (catalog.register space).Extends catalog := by
  intro qualifier name signature hlookup
  obtain ⟨found, hfound, hmethod⟩ := Option.bind_eq_some_iff.1 hlookup
  obtain ⟨next, hnext, hkeeps⟩ := exists_get?_register hmethods hfound
  rw [lookup, namespace?, resolve_register_of_some haliases hfound, hnext]
  exact hkeeps name signature hmethod

end Catalog

namespace Dialect

/-- **Extending a catalog never changes what a text means.** In an extension a text has the same tree, or the
same error unless that is about an unknown method; and a registration makes an extension if none of its methods
has the name of a method already held under its name and none of its aliases leads anywhere before. -/
theorem scan_of_extends :
    (∀ catalog larger : Catalog, larger.Extends catalog → ∀ (maxDepth : Nat) (text : String),
      (∀ error, scan ⟨catalog, maxDepth⟩ text = .error error → ¬error.fault.IsUnknownMethod) →
        scan ⟨larger, maxDepth⟩ text = scan ⟨catalog, maxDepth⟩ text) ∧
      ∀ (catalog : Catalog) (space : Namespace),
        (∀ known ∈ catalog.namespaces, known.name = space.name →
          ∀ method ∈ space.methods.entries, known.method? method.name = none) →
        (∀ name ∈ space.aliases, catalog.namespace? name = none) →
          (catalog.register space).Extends catalog := by
  constructor
  · intro catalog larger hextends maxDepth text hknown
    rcases readWithin_unlessUnknown hextends maxDepth (maxDepth + 1) 0 text.toList with
      hsame | ⟨error, hunknown, herror⟩
    · exact hsame.symm
    · exact absurd hunknown (hknown error herror)
  · intro catalog space hmethods haliases
    exact Catalog.extends_register hmethods haliases

/-- A namespace with a method and an alias that are new to the dialect `joining`. -/
def padding : Namespace :=
  Namespace.define { name := "text", aliases := ["t"] } { name := "pad", positional := [{ type := "string" }] }

theorem scan_of_extends_padding :
    (joining.catalog.register padding).Extends joining.catalog ∧
      scan ⟨joining.catalog.register padding, 2⟩ "Hi {{ text.join( by=-, {{a }},{{text.join(,b)}} }}" =
        .ok joined := by
  obtain ⟨hscan, hregister⟩ := scan_of_extends
  have hextends := hregister joining.catalog padding (by decide) (by decide)
  refine ⟨hextends, ?_⟩
  rw [hscan _ _ hextends 2 _ fun error herror => ?_]
  · exact scan_joined
  · exact absurd (scan_joined.symm.trans herror) (by simp)

end Dialect

end Interpolation
