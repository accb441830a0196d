import Interpolation.Proofs.Loading
import Mathlib

/-!
# What a manifest declares

A manifest is refused for the first of two reasons, a blank name or a method whose name occurs before it,
and else it declares a namespace with all its methods (`Interpolation.Manifest.ofToml_verdict`). The method
that is reported is the earliest one that repeats a name (`Interpolation.Manifest.Repeats`): the names in
front of it are distinct, so there is exactly one.

What is declared depends on how the methods are put in, one after the other, and of those with one name the
latest stays (`Interpolation.Namespace.method?_defineAll_latest`). This holds of any methods, with repeated
names or without, so that bundles are settled by the same lemma; without repeated names nothing is lost
(`Interpolation.Namespace.perm_defineAll`).
-/

namespace Interpolation

/-! ### The earliest repetition -/

theorem firstRepeated?_eq_none_iff {seen names : List String} :
    firstRepeated? seen names = none ↔ names.Nodup ∧ ∀ name ∈ names, name ∉ seen := by
  induction names generalizing seen with
  | nil => simp [firstRepeated?]
  | cons name rest ih =>
    rw [firstRepeated?]
    by_cases hseen : name ∈ seen
    · simp [hseen]
    · rw [if_neg (by simpa using hseen), ih, List.nodup_cons]
      constructor
      · rintro ⟨hrest, hall⟩
        refine ⟨⟨fun hmem => hall name hmem List.mem_cons_self, hrest⟩, ?_⟩
        rintro other (_ | ⟨_, hmem⟩)
        · exact hseen
        · exact fun hother => hall other hmem (List.mem_cons_of_mem _ hother)
      · rintro ⟨⟨hname, hrest⟩, hall⟩
        refine ⟨hrest, fun other hmem hother => ?_⟩
        rcases List.mem_cons.1 hother with rfl | hother
        · exact hname hmem
        · exact hall other (List.mem_cons_of_mem _ hmem) hother

/-- **The earliest repetition** stands behind distinct names and is one of them, or one of those seen
before. -/
theorem firstRepeated?_eq_some_iff {seen names : List String} {name : String} :
    firstRepeated? seen names = some name ↔
      ∃ before after, names = before ++ name :: after ∧ before.Nodup ∧ (∀ other ∈ before, other ∉ seen) ∧
        (name ∈ before ∨ name ∈ seen) := by
  induction names generalizing seen with
  | nil => simp [firstRepeated?]
  | cons first rest ih =>
    rw [firstRepeated?]
    by_cases hseen : first ∈ seen
    · rw [if_pos (by simpa using hseen)]
      constructor
      · intro h
        obtain rfl := Option.some.inj h
        exact ⟨[], rest, rfl, .nil, by simp, .inr hseen⟩
      · rintro ⟨before, after, heq, -, hbefore, -⟩
        cases before with
        | nil => exact congrArg some (List.cons.inj heq).1
        | cons other before =>
          obtain ⟨rfl, -⟩ := List.cons.inj heq
          exact absurd hseen (hbefore first List.mem_cons_self)
    · rw [if_neg (by simpa using hseen), ih]
      constructor
      · rintro ⟨before, after, rfl, hnodup, hbefore, hname⟩
        -- The first name is seen by the rest, and so it is not among the names in front.
        have hfirst : first ∉ before := fun hmem => hbefore first hmem List.mem_cons_self
        refine ⟨first :: before, after, rfl, List.nodup_cons.2 ⟨hfirst, hnodup⟩, ?_, ?_⟩
        · refine List.forall_mem_cons.2 ⟨hseen, fun other hmem hother => ?_⟩
          exact hbefore other hmem (List.mem_cons_of_mem _ hother)
        · rw [List.mem_cons] at hname ⊢
          tauto
      · rintro ⟨before, after, heq, hnodup, hbefore, hname⟩
        cases before with
        | nil =>
          obtain ⟨rfl, -⟩ := List.cons.inj heq
          exact absurd (hname.resolve_left List.not_mem_nil) hseen
        | cons other before =>
          obtain ⟨rfl, rfl⟩ := List.cons.inj heq
          obtain ⟨hfirst, hnodup⟩ := List.nodup_cons.1 hnodup
          refine ⟨before, after, rfl, hnodup, fun other hmem hother => ?_, ?_⟩
          · rcases List.mem_cons.1 hother with rfl | hother
            · exact hfirst hmem
            · exact hbefore other (List.mem_cons_of_mem _ hmem) hother
          · rw [List.mem_cons] at hname ⊢
            tauto

/-! ### Methods put in one after the other -/

namespace Namespace

/-- **Of methods with one name the latest is found**, at home in the namespace. -/
theorem method?_defineAll_latest (space : Namespace) (methods : List Signature) (key : String) :
    (space.defineAll methods).method? key =
      ((methods.reverse.find? (·.name == key)).map fun method => { method with home := space.name }).or
        (space.method? key) := by
  induction methods generalizing space with
  | nil => rfl
  | cons method rest ih =>
    have hstep : (space.defineAll (method :: rest)).method? key =
        ((space.define method).defineAll rest).method? key := rfl
    rw [hstep, ih, name_define, method?_define, List.reverse_cons, List.find?_append, List.find?_singleton]
    cases rest.reverse.find? (·.name == key) with
    | some latest => rfl
    | none =>
      by_cases hname : method.name = key
      · simp [hname]
      · simp [hname]

/-- The names of the methods of a new namespace are the names of what was put in. -/
theorem mem_map_name_defineAll_iff {name key : String} {methods : List Signature} :
    key ∈ (defineAll { name := name } methods).methods.entries.map (·.name) ↔
      key ∈ methods.map (·.name) := by
  have hsome : ((defineAll { name := name } methods).method? key).isSome ↔ key ∈ methods.map (·.name) := by
    rw [method?_defineAll_latest]
    simp [method?, Keyed.get?_empty]
  rw [← hsome, Option.isSome_iff_exists, List.mem_map]
  exact exists_congr fun method => Keyed.get?_eq_some_iff.symm

/-- **Nothing is lost of methods with distinct names**, and nothing is added. -/
theorem perm_defineAll {space : Namespace} {methods : List Signature} (hempty : space.methods = .empty)
    (h : (methods.map (·.name)).Nodup) :
    (space.defineAll methods).methods.entries.Perm
      (methods.map fun method => { method with home := space.name }) := by
  have hpairwise : methods.Pairwise (·.name ≠ ·.name) := List.pairwise_map.1 h
  have hstamped : (methods.map fun method => { method with home := space.name }).Nodup := by
    refine List.Nodup.of_map (·.name) ?_
    rw [List.map_map]
    exact h
  have hentries := ((space.defineAll methods).methods.pairwise_ne).imp
    fun {first second} hne (heq : first = second) => hne (congrArg (·.name) heq)
  refine (List.perm_ext_iff_of_nodup hentries hstamped).2 fun entry => ?_
  have hfound : entry ∈ (space.defineAll methods).methods.entries ↔
      (space.defineAll methods).method? entry.name = some entry := by
    rw [method?, Keyed.get?_eq_some_iff, and_iff_left rfl]
  have hnone : space.method? entry.name = none := by
    rw [method?, hempty]
    rfl
  rw [hfound, method?_defineAll space hpairwise, hnone, Option.or_none, Option.map_eq_some_iff, List.mem_map]
  constructor
  · rintro ⟨method, hmethod, heq⟩
    exact ⟨method, List.mem_of_find?_eq_some hmethod, heq⟩
  · rintro ⟨method, hmem, rfl⟩
    refine ⟨method, ?_, rfl⟩
    -- A method is the first of its name, there being no other one.
    obtain ⟨before, after, rfl⟩ := List.append_of_mem hmem
    refine List.find?_eq_some_iff_append.2 ⟨by simp, before, after, rfl, fun other hother => ?_⟩
    simpa using (List.pairwise_append.1 hpairwise).2.2 other hother method List.mem_cons_self

/-- **What it is for a namespace to be the one that a manifest declares.** -/
structure Declares (space : Namespace) (manifest : Manifest) : Prop where
  /-- It has the name of the manifest. -/
  sameName : space.name = manifest.name
  /-- Its title is the one of the manifest, if there is one. -/
  title : space.title = manifest.title.getD ""
  /-- Its description is the one of the manifest, if there is one. -/
  description : space.description = manifest.description.getD ""
  /-- Its aliases are those of the manifest, in order. -/
  aliases : space.aliases = manifest.aliases
  /-- Its sections are those of the manifest, in order. -/
  sections : space.sections = manifest.sections
  /-- It has one method for each declaration, which differs from it by where it is at home. -/
  perm : space.methods.entries.Perm
    (manifest.methods.map fun method => { method with home := manifest.name })
  /-- Its methods are in the order of their names, byte by byte. -/
  pairwise : space.methods.entries.Pairwise fun first second =>
    Text.bytes first.name < Text.bytes second.name
  /-- Every declared method is found under its name. -/
  method? : ∀ method ∈ manifest.methods,
    space.method? method.name = some { method with home := manifest.name }

end Namespace

/-! ### Manifests -/

namespace Manifest

/-- **The earliest method with the name of one before it.** -/
def Repeats (manifest : Manifest) (method : Signature) : Prop :=
  ∃ before after, manifest.methods = before ++ method :: after ∧ (before.map (·.name)).Nodup ∧
    method.name ∈ before.map (·.name)

variable {manifest : Manifest} {path : Path}

theorem firstRepeated?_methods_iff {name : String} :
    firstRepeated? [] (manifest.methods.map (·.name)) = some name ↔
      ∃ method, manifest.Repeats method ∧ method.name = name := by
  rw [firstRepeated?_eq_some_iff]
  constructor
  · rintro ⟨before, after, heq, hnodup, -, hname⟩
    obtain ⟨front, rest, hmethods, rfl, hrest⟩ := List.map_eq_append_iff.1 heq
    obtain ⟨method, behind, rfl, rfl, rfl⟩ := List.map_eq_cons_iff.1 hrest
    exact ⟨method, ⟨front, behind, hmethods, hnodup, by simpa using hname⟩, rfl⟩
  · rintro ⟨method, ⟨before, after, hmethods, hnodup, hname⟩, rfl⟩
    exact ⟨_, after.map (·.name), by simp [hmethods], hnodup, by simp, .inl hname⟩

theorem firstRepeated?_methods_eq_none_iff :
    firstRepeated? [] (manifest.methods.map (·.name)) = none ↔ (manifest.methods.map (·.name)).Nodup := by
  rw [firstRepeated?_eq_none_iff]
  simp

/-- There is a repeated name exactly if the names are not distinct. -/
theorem exists_repeats_iff :
    (∃ method, manifest.Repeats method) ↔ ¬(manifest.methods.map (·.name)).Nodup := by
  rw [← firstRepeated?_methods_eq_none_iff, ← ne_eq, Option.ne_none_iff_exists']
  simp only [firstRepeated?_methods_iff]
  exact ⟨fun ⟨method, h⟩ => ⟨_, method, h, rfl⟩, fun ⟨_, method, h, _⟩ => ⟨method, h⟩⟩

/-- **Declared methods are all there** if their names are distinct. -/
theorem declares_declared (h : (manifest.methods.map (·.name)).Nodup) :
    manifest.declared.Declares manifest := by
  obtain ⟨table, htable⟩ := Namespace.exists_defineAll_eq
    { name := manifest.name
      title := manifest.title.getD ""
      description := manifest.description.getD ""
      aliases := manifest.aliases
      sections := manifest.sections } manifest.methods
  have hperm : manifest.declared.methods.entries.Perm
      (manifest.methods.map fun method => { method with home := manifest.name }) :=
    Namespace.perm_defineAll rfl h
  exact {
    sameName := congrArg Namespace.name htable
    title := congrArg Namespace.title htable
    description := congrArg Namespace.description htable
    aliases := congrArg Namespace.aliases htable
    sections := congrArg Namespace.sections htable
    perm := hperm
    pairwise := manifest.declared.methods.sorted.imp Text.lt_iff_bytes_lt.1
    method? := fun method hmem =>
      Keyed.get?_eq_some_iff.2 ⟨hperm.mem_iff.2 (List.mem_map.2 ⟨method, hmem, rfl⟩), rfl⟩ }

/-- **A manifest declares all its methods, or is refused for the first reason there is**: a blank name
before a repeated method, and of the repeated methods the earliest. -/
theorem ofToml_verdict {text : String} (h : (Toml.document? text).bind decode? = some manifest)
    (path : Path) :
    (∀ other, ofToml text path = .error (.emptyName other) ↔
      Text.trim manifest.name.toList = [] ∧ other = path) ∧
    (∀ space name, ofToml text path = .error (.duplicateMethod space name) ↔
      Text.trim manifest.name.toList ≠ [] ∧ space = manifest.name ∧
        ∃ method, manifest.Repeats method ∧ method.name = name) ∧
    ((∃ method, manifest.Repeats method) ↔ ¬(manifest.methods.map (·.name)).Nodup) ∧
    ((∃ space, ofToml text path = .ok space) ↔
      Text.trim manifest.name.toList ≠ [] ∧ (manifest.methods.map (·.name)).Nodup) ∧
    ∀ space, ofToml text path = .ok space → space.Declares manifest := by
  have hload : ofToml text path = manifest.namespace? path := by
    unfold ofToml
    rw [h]
  have hblank : Text.trim manifest.name.toList = [] ↔ isBlankName manifest.name = true :=
    Text.trim_eq_nil_iff _
  rw [hload, ne_eq, hblank, namespace?]
  refine ⟨fun other => ?_, fun space name => ?_, exists_repeats_iff, ?_, fun space hspace => ?_⟩
  · cases isBlankName manifest.name with
    | true => simp [eq_comm]
    | false => cases firstRepeated? [] (manifest.methods.map (·.name)) <;> simp
  · rw [← firstRepeated?_methods_iff]
    cases isBlankName manifest.name with
    | true => simp
    | false => cases firstRepeated? [] (manifest.methods.map (·.name)) <;> simp [eq_comm]
  · rw [← firstRepeated?_methods_eq_none_iff]
    cases isBlankName manifest.name with
    | true => simp
    | false => cases firstRepeated? [] (manifest.methods.map (·.name)) <;> simp
  · split at hspace
    · cases hspace
    · split at hspace
      · cases hspace
      · rename_i hnone
        obtain rfl := Except.ok.inj hspace
        exact declares_declared (firstRepeated?_methods_eq_none_iff.1 hnone)

/-- A manifest in which two names come up again, the second one first. -/
def retelling : String :=
  "[namespace]\nprefix = \"d\"\n[[method]]\nname = \"x\"\n[[method]]\nname = \"y\"\n" ++
    "[[method]]\nname = \"y\"\n[[method]]\nname = \"x\"\n"

/-- What is read in it. -/
def retold : Manifest :=
  { name := "d", methods := [{ name := "x" }, { name := "y" }, { name := "y" }, { name := "x" }] }

/-- The name that is reported is the one that comes up again first. -/
theorem ofToml_verdict_retelling :
    (Toml.document? retelling).bind decode? = some retold ∧
      ofToml retelling ⟨"d.toml"⟩ = .error (.duplicateMethod "d" "y") := by
  have hdecode : (Toml.document? retelling).bind decode? = some retold := by cbv
  obtain ⟨-, hrepeats, -⟩ := ofToml_verdict hdecode ⟨"d.toml"⟩
  refine ⟨hdecode, (hrepeats "d" "y").2 ⟨by decide, rfl, { name := "y" }, ?_, rfl⟩⟩
  exact ⟨[{ name := "x" }, { name := "y" }], [{ name := "x" }], rfl, by decide, by decide⟩

end Manifest

end Interpolation
