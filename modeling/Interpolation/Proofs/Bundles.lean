import Interpolation.Proofs.Manifests

/-!
# What a bundle keeps

A bundle lists methods under names, and a signature may have another name of its own, which then counts. Two
entries can come to one name in this way, and there is nothing to prevent it: the namespace has one method
of that name, from the latest of these entries, and the others are lost without an error
(`Interpolation.Bundle.not_found_listed`).

An entry is therefore found again exactly if the latest one of its name says the same, and a namespace has
all of its entries exactly if their names are distinct (`Interpolation.Bundle.found_listed_iff`).
-/

namespace Interpolation

namespace Namespace

/-- A new namespace has as many methods as there are names in what was put in. -/
theorem size_defineAll (name : String) (methods : List Signature) :
    (defineAll { name := name } methods).size = (methods.map (·.name)).toFinset.card := by
  have hnodup : ((defineAll { name := name } methods).methods.entries.map (·.name)).Nodup :=
    List.pairwise_map.2 (Keyed.pairwise_ne _)
  have hnames : ((defineAll { name := name } methods).methods.entries.map (·.name)).toFinset =
      (methods.map (·.name)).toFinset := by
    ext key
    rw [List.mem_toFinset, List.mem_toFinset, mem_map_name_defineAll_iff]
  rw [← hnames, List.toFinset_card_of_nodup hnodup, List.length_map]
  rfl

end Namespace

namespace Bundle

/-- **A listed method is found** in a namespace: under its own name, or under the one it is listed under if it
has none, and at home there. -/
def Found (space : Namespace) (listed : String × Signature) : Prop :=
  space.method? (named listed).name = some { named listed with home := space.name }

/-- **The latest of several entries with a name.** -/
def IsLatest (listed : List (String × Signature)) (name : String) (latest : String × Signature) : Prop :=
  ∃ before after, listed = before ++ latest :: after ∧ (named latest).name = name ∧
    ∀ other ∈ after, (named other).name ≠ name

theorem find?_reverse_eq_some_iff {listed : List (String × Signature)} {name : String} {method : Signature} :
    (listed.map named).reverse.find? (·.name == name) = some method ↔
      ∃ latest, IsLatest listed name latest ∧ named latest = method := by
  rw [← List.map_reverse, List.find?_map, Option.map_eq_some_iff]
  refine exists_congr fun latest => and_congr_left fun _ => ?_
  rw [List.find?_eq_some_iff_append, IsLatest]
  constructor
  · rintro ⟨hname, after, before, heq, hafter⟩
    refine ⟨before.reverse, after.reverse, ?_, by simpa using hname, fun other hother => ?_⟩
    · rw [← List.reverse_reverse listed, heq]
      simp
    · simpa using hafter other (List.mem_reverse.1 hother)
  · rintro ⟨before, after, rfl, hname, hafter⟩
    refine ⟨by simpa using hname, after.reverse, before.reverse, by simp, fun other hother => ?_⟩
    simpa using hafter other (List.mem_reverse.1 hother)

section Declared

variable {name : String} {methods : Keyed (String × Signature) Prod.fst}

theorem name_declared : (declared name methods).name = name := Namespace.name_defineAll _ _

/-- **The method of a name is the latest** that is listed with it. -/
theorem method?_declared_eq_some_iff {key : String} {method : Signature} :
    (declared name methods).method? key = some method ↔
      ∃ latest, IsLatest methods.entries key latest ∧ { named latest with home := name } = method := by
  have hnone : Namespace.method? { name := name } key = none := rfl
  rw [declared, Namespace.method?_defineAll_latest, hnone, Option.or_none, Option.map_eq_some_iff]
  constructor
  · rintro ⟨_, hfound, rfl⟩
    obtain ⟨latest, hlatest, rfl⟩ := find?_reverse_eq_some_iff.1 hfound
    exact ⟨latest, hlatest, rfl⟩
  · rintro ⟨latest, hlatest, rfl⟩
    exact ⟨_, find?_reverse_eq_some_iff.2 ⟨latest, hlatest, rfl⟩, rfl⟩

/-- **Every entry is found, and there is a method for each**, exactly if the names are distinct. -/
theorem forall_found_declared_iff :
    ((∀ listed ∈ methods.entries, Found (declared name methods) listed) ∧
      (declared name methods).size = methods.size) ↔
        (methods.entries.map fun listed => (named listed).name).Nodup := by
  have hnames : (methods.entries.map named).map (·.name) =
      methods.entries.map fun listed => (named listed).name := List.map_map
  have hsize : (declared name methods).size =
      (methods.entries.map fun listed => (named listed).name).toFinset.card := by
    rw [declared, Namespace.size_defineAll, hnames]
  constructor
  · rintro ⟨-, hall⟩
    have hlength : (methods.entries.map fun listed => (named listed).name).length = methods.size :=
      List.length_map _
    rw [hsize, ← hlength] at hall
    exact Multiset.coe_nodup.1 (Multiset.toFinset_card_eq_card_iff_nodup.1 hall)
  · intro h
    refine ⟨fun listed hmem => ?_, ?_⟩
    · rw [Found, name_declared, method?_declared_eq_some_iff]
      -- An entry is the latest of its name, there being no other one.
      obtain ⟨before, after, heq⟩ := List.append_of_mem hmem
      refine ⟨listed, ⟨before, after, heq, rfl, fun other hother hname => ?_⟩, rfl⟩
      rw [heq, List.map_append, List.map_cons] at h
      exact (List.nodup_cons.1 h.of_append_right).1 (hname ▸ List.mem_map_of_mem hother)
    · rw [hsize, List.toFinset_card_of_nodup h, List.length_map, Keyed.size]

end Declared

variable {text : String} {path : Path} {bundle : Bundle} {spaces : List Namespace}

/-- **What of a bundle is found again.** It has one namespace for each name that it lists, and of each of
these:

* an entry is found exactly if the latest entry of its name has the same signature;
* all entries are found, and there are as many methods as entries, exactly if the names are distinct. -/
theorem found_listed_iff (hdocument : (Json.document? text).bind decode? = some bundle)
    (h : ofJson text path = .ok spaces) :
    List.Forall₂ (fun entry space => space.name = entry.1 ∧
      (∀ listed ∈ entry.2.entries, Found space listed ↔
        ∃ latest, IsLatest entry.2.entries (named listed).name latest ∧
          { named latest with home := entry.1 } = { named listed with home := entry.1 }) ∧
      (((∀ listed ∈ entry.2.entries, Found space listed) ∧ space.size = entry.2.size) ↔
        (entry.2.entries.map fun listed => (named listed).name).Nodup)) bundle.entries spaces := by
  obtain ⟨other, hother, hspaces⟩ := ofJson_eq_ok_iff.1 h
  obtain rfl := Option.some.inj (hdocument.symm.trans hother)
  refine hspaces.imp fun entry space hdeclared => ?_
  obtain ⟨-, rfl⟩ := hdeclared
  refine ⟨name_declared, fun listed _ => ?_, forall_found_declared_iff⟩
  rw [Found, name_declared, method?_declared_eq_some_iff]

/-- A bundle with a namespace that lists a method under another name than its own, and then one without. -/
def overwriting : String :=
  "\x7b\"g\": \x7b\"a\": \x7b\"name\": \"b\"\x7d, \"b\": \x7b\"returnType\": \"text\"\x7d\x7d\x7d"

/-- The entries of the namespace, as they are read. -/
def overwritten : Keyed (String × Signature) Prod.fst :=
  ⟨[("a", { name := "b" }), ("b", { returnType := "text" })], by decide⟩

theorem decode?_overwriting :
    (Json.document? overwriting).bind decode? = some ⟨[("g", overwritten)], List.pairwise_singleton _ _⟩ := by
  cbv

theorem ofJson_overwriting : ofJson overwriting ⟨"g.json"⟩ = .ok [declared "g" overwritten] :=
  ofJson_eq_ok_iff.2 ⟨_, decode?_overwriting, .cons ⟨by decide, rfl⟩ .nil⟩

/-- Of two entries that come to one name the second is found. -/
theorem found_listed_iff_overwriting :
    (Json.document? overwriting).bind decode? = some ⟨[("g", overwritten)], List.pairwise_singleton _ _⟩ ∧
      ofJson overwriting ⟨"g.json"⟩ = .ok [declared "g" overwritten] ∧
      Found (declared "g" overwritten) ("b", { returnType := "text" }) ∧
      ¬((∀ listed ∈ overwritten.entries, Found (declared "g" overwritten) listed) ∧
        (declared "g" overwritten).size = overwritten.size) := by
  have h := found_listed_iff decode?_overwriting ofJson_overwriting
  obtain ⟨⟨-, hfound, hall⟩, -⟩ := List.forall₂_cons.1 h
  refine ⟨decode?_overwriting, ofJson_overwriting, (hfound _ (by simp [overwritten])).2 ?_, ?_⟩
  · exact ⟨_, ⟨[("a", { name := "b" })], [], rfl, rfl, by simp⟩, rfl⟩
  · rw [hall]
    decide

/-- A bundle can lose a method without an error. -/
theorem not_found_listed :
    ¬∀ (text : String) (path : Path) (bundle : Bundle) (spaces : List Namespace),
      (Json.document? text).bind decode? = some bundle → ofJson text path = .ok spaces →
        List.Forall₂
          (fun entry space => (∀ listed ∈ entry.2.entries, Found space listed) ∧ space.size = entry.2.size)
          bundle.entries spaces := by
  intro h
  have hall := h overwriting ⟨"g.json"⟩ _ _ decode?_overwriting ofJson_overwriting
  obtain ⟨⟨-, hsize⟩, -⟩ := List.forall₂_cons.1 hall
  revert hsize
  decide

end Bundle

end Interpolation
