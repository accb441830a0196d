import Interpolation.Proofs.ByteOrder
import Interpolation.Proofs.Registration
import Mathlib.Data.Finset.Card

/-!
# A catalog and what was registered

A catalog is the sum of the namespaces that were registered, in the order in which they were. What was
registered is a list of namespaces, the earliest first, and what a catalog answers is read off this list:

* a name stands for the namespace of the latest one that lists it among its aliases
  (`Interpolation.History.target`);
* of all that were registered under a name (`Interpolation.History.under`), the latest that has a method of
  some name gives it, the latest with a title or a description gives these, and sections and aliases come from
  all of them (`Interpolation.Namespace.Sums`).

Both are invariants of registering one more namespace, and hold of every catalog by induction from the last one
(`Interpolation.Catalog.resolve_ofList`, `Interpolation.Catalog.get?_ofList`).
-/

namespace Interpolation

/-! ### Putting a namespace together -/

/-- **A namespace that was put together**: whatever its methods are, they were put in. -/
inductive Namespace.Built : Namespace → Prop
  /-- A new namespace has no methods. -/
  | new (name : String) : Built { name }
  /-- What it says about itself can be anything. -/
  | describe {space : Namespace} (title description : String) (aliases : List String)
    (sections : List Section) : Built space → Built { space with title, description, aliases, sections }
  /-- A method is put in. -/
  | define {space : Namespace} (method : Signature) : Built space → Built (space.define method)

/-- The methods of a namespace that was put together are at home in it. -/
theorem Namespace.Built.home_eq {space : Namespace} (h : space.Built) {key : String} {method : Signature}
    (hmethod : space.method? key = some method) : method.home = space.name := by
  induction h with
  | new name => simp [method?, Keyed.get?_empty] at hmethod
  | describe title description aliases sections _ ih => exact ih hmethod
  | @define space other _ ih =>
    rw [method?_define] at hmethod
    split at hmethod
    · rw [← Option.some.inj hmethod]
      rfl
    · exact ih hmethod

/-- The names of the methods, each with that of the namespace in front. -/
def Namespace.fullNames (space : Namespace) : List (String × String) :=
  space.methods.entries.map fun method => (space.name, method.name)

theorem Namespace.mem_fullNames_iff {space : Namespace} {name method : String} :
    (name, method) ∈ space.fullNames ↔ space.name = name ∧ (space.method? method).isSome := by
  rw [Namespace.fullNames, List.mem_map, Option.isSome_iff_exists]
  constructor
  · rintro ⟨signature, hmem, heq⟩
    simp only [Prod.mk.injEq] at heq
    exact ⟨heq.1, signature, Keyed.get?_eq_some_iff.2 ⟨hmem, heq.2⟩⟩
  · rintro ⟨rfl, signature, hmethod⟩
    obtain ⟨hmem, rfl⟩ := Keyed.get?_eq_some hmethod
    exact ⟨signature, hmem, rfl⟩

/-! ### What was registered -/

namespace History

/-- **What a name stands for**: the namespace of the latest registration that lists it among its aliases, or
what it says if there is none. -/
def target (spaces : List Namespace) (name : String) : String :=
  ((spaces.reverse.find? (·.aliases.contains name)).map (·.name)).getD name

/-- What was registered under a name. -/
def under (spaces : List Namespace) (name : String) : List Namespace := spaces.filter (·.name == name)

/-- The method of the latest of several namespaces that has one of the given name. -/
def latestMethod? (parts : List Namespace) (name : String) : Option Signature :=
  parts.reverse.findSome? (·.method? name)

/-- The latest of several texts that is not empty, or the empty text. -/
def latestText (texts : List String) : String := (texts.reverse.find? (!·.isEmpty)).getD ""

theorem target_concat (spaces : List Namespace) (space : Namespace) (name : String) :
    target (spaces ++ [space]) name = if name ∈ space.aliases then space.name else target spaces name := by
  rw [target, List.reverse_concat, List.find?_cons]
  by_cases hmem : name ∈ space.aliases
  · simp [hmem]
  · simp [hmem, target]

theorem under_concat_self (spaces : List Namespace) (space : Namespace) :
    under (spaces ++ [space]) space.name = under spaces space.name ++ [space] := by
  simp [under]

theorem under_concat_of_ne (spaces : List Namespace) {space : Namespace} {name : String}
    (h : space.name ≠ name) : under (spaces ++ [space]) name = under spaces name := by
  simp [under, h]

theorem mem_under_iff {spaces : List Namespace} {name : String} {space : Namespace} :
    space ∈ under spaces name ↔ space ∈ spaces ∧ space.name = name := by
  simp [under]

theorem latestMethod?_concat (parts : List Namespace) (part : Namespace) (name : String) :
    latestMethod? (parts ++ [part]) name = (part.method? name).or (latestMethod? parts name) := by
  rw [latestMethod?, List.reverse_concat, List.findSome?_cons]
  cases part.method? name <;> rfl

theorem latestMethod?_isSome_iff {parts : List Namespace} {name : String} :
    (latestMethod? parts name).isSome ↔ ∃ part ∈ parts, (part.method? name).isSome := by
  simp [latestMethod?, List.findSome?_isSome_iff]

theorem latestText_concat (texts : List String) (text : String) :
    latestText (texts ++ [text]) = if text.isEmpty then latestText texts else text := by
  rw [latestText, List.reverse_concat, List.find?_cons]
  cases text.isEmpty <;> rfl

theorem latestText_singleton (text : String) : latestText [text] = text := by
  rw [← List.nil_append [text], latestText_concat]
  split
  · rename_i hempty
    exact (String.isEmpty_iff.1 hempty).symm
  · rfl

end History

open History

/-! ### Sums -/

/-- **A namespace is the sum of several ones**, which were registered under its name in this order. -/
structure Namespace.Sums (found : Namespace) (name : String) (parts : List Namespace) : Prop where
  /-- It has their name. -/
  sameName : found.name = name
  /-- It has the latest method of every name. -/
  method? : ∀ key, found.method? key = latestMethod? parts key
  /-- Its methods are known by their own names and are at home in it. -/
  named : ∀ key method, found.method? key = some method → method.name = key ∧ method.home = name
  /-- Its title is the latest one. -/
  title : found.title = latestText (parts.map (·.title))
  /-- Its description is the latest one. -/
  description : found.description = latestText (parts.map (·.description))
  /-- It has all sections, in order. -/
  sections : found.sections = parts.flatMap (·.sections)
  /-- It has all aliases. -/
  aliases : ∀ other, other ∈ found.aliases ↔ ∃ part ∈ parts, other ∈ part.aliases

namespace Namespace

variable {space found : Namespace} {parts : List Namespace}

/-- The first namespace of a name is its own sum. -/
theorem Built.sums (h : space.Built) : space.Sums space.name [space] where
  sameName := rfl
  method? key := by
    rw [← List.nil_append [space], latestMethod?_concat]
    exact (Option.or_none).symm
  named key method hmethod := ⟨(Keyed.get?_eq_some hmethod).2, h.home_eq hmethod⟩
  title := (latestText_singleton space.title).symm
  description := (latestText_singleton space.description).symm
  sections := by simp
  aliases := by simp

/-- **Merging a further namespace adds it to the sum.** -/
theorem Sums.merge (h : found.Sums space.name parts) (hspace : space.Built) :
    (found.merge space).Sums space.name (parts ++ [space]) where
  sameName := (name_merge found space).trans h.sameName
  method? key := by
    rw [method?_merge, latestMethod?_concat, ← h.method?, h.sameName]
    cases hmethod : space.method? key with
    | none => rfl
    | some method =>
      -- The method is at home where it comes to already.
      rw [Option.map_some, ← hspace.home_eq hmethod]
  named key method hmethod := by
    refine ⟨(Keyed.get?_eq_some hmethod).2, ?_⟩
    rw [method?_merge] at hmethod
    rcases Option.or_eq_some_iff.1 hmethod with hnew | ⟨-, hold⟩
    · obtain ⟨other, -, rfl⟩ := Option.map_eq_some_iff.1 hnew
      exact h.sameName
    · exact (h.named key method hold).2
  title := by rw [title_merge, List.map_append, List.map_singleton, latestText_concat, h.title]
  description := by
    rw [description_merge, List.map_append, List.map_singleton, latestText_concat, h.description]
  sections := by rw [sections_merge, h.sections, List.flatMap_append, List.flatMap_singleton]
  aliases name := by
    rw [mem_aliases_merge_iff, h.aliases]
    simp [or_and_right, exists_or]

end Namespace

/-! ### Catalogs -/

namespace Catalog

variable {spaces : List Namespace}

/-- **A name leads to what the latest registration makes of it.** -/
theorem resolve_ofList (spaces : List Namespace) (name : String) :
    (ofList spaces).resolve name = target spaces name := by
  induction spaces using List.reverseRecOn with
  | nil => rfl
  | append_singleton spaces space ih => rw [ofList_concat, resolve_register, target_concat, ih]

/-- **What is found under a name is the sum of what was registered under it**, if there was anything. -/
theorem get?_ofList (h : ∀ space ∈ spaces, space.Built) (name : String) :
    (under spaces name = [] ∧ (ofList spaces).table.get? name = none) ∨
      (under spaces name ≠ [] ∧
        ∃ found, (ofList spaces).table.get? name = some found ∧ found.Sums name (under spaces name)) := by
  induction spaces using List.reverseRecOn with
  | nil => exact Or.inl ⟨rfl, rfl⟩
  | append_singleton spaces space ih =>
    have hspace : space.Built := h space (by simp)
    have ih := ih fun other hother => h other (by simp [hother])
    rw [ofList_concat]
    by_cases hname : space.name = name
    · subst hname
      rw [under_concat_self]
      refine Or.inr ⟨by simp, ?_⟩
      rcases ih with ⟨hunder, hnone⟩ | ⟨-, found, hfound, hsums⟩
      · refine ⟨space, get?_register_of_none hnone, ?_⟩
        rw [hunder]
        exact hspace.sums
      · exact ⟨found.merge space, get?_register_of_some hfound, hsums.merge hspace⟩
    · rw [under_concat_of_ne spaces hname, get?_register_of_ne _ hname]
      exact ih

/-- A namespace that is found is a sum. -/
theorem sums_of_get?_ofList (h : ∀ space ∈ spaces, space.Built) {name : String} {found : Namespace}
    (hfound : (ofList spaces).table.get? name = some found) :
    under spaces name ≠ [] ∧ found.Sums name (under spaces name) := by
  rcases get?_ofList h name with ⟨-, hnone⟩ | ⟨hne, other, hother, hsums⟩
  · rw [hnone] at hfound
    simp at hfound
  · obtain rfl := Option.some.inj (hfound.symm.trans hother)
    exact ⟨hne, hsums⟩

/-- Nothing is found where nothing was registered. -/
theorem get?_ofList_eq_none_iff (h : ∀ space ∈ spaces, space.Built) {name : String} :
    (ofList spaces).table.get? name = none ↔ ∀ space ∈ spaces, space.name ≠ name := by
  have hunder : under spaces name = [] ↔ ∀ space ∈ spaces, space.name ≠ name := by
    simp [under]
  rw [← hunder]
  rcases get?_ofList h name with ⟨hnil, hnone⟩ | ⟨hne, found, hfound, -⟩
  · exact iff_of_true hnone hnil
  · exact iff_of_false (by simp [hfound]) hne

/-- **A method is looked up** among what was registered under the name that its namespace stands for. -/
theorem lookup_ofList (h : ∀ space ∈ spaces, space.Built) (name method : String) :
    (ofList spaces).lookup name method = latestMethod? (under spaces (target spaces name)) method := by
  rw [lookup, namespace?, resolve_ofList]
  rcases get?_ofList h (target spaces name) with ⟨hnil, hnone⟩ | ⟨-, found, hfound, hsums⟩
  · rw [hnone, hnil]
    rfl
  · rw [hfound]
    exact hsums.method? method

/-! ### The number of methods -/

/-- The methods of a catalog, counted by their names. -/
theorem size_eq_length (catalog : Catalog) :
    catalog.size = (catalog.namespaces.flatMap Namespace.fullNames).length := by
  have hcount (spaces : List Namespace) (n : Nat) :
      spaces.foldl (fun n space => n + space.size) n = n + (spaces.flatMap Namespace.fullNames).length := by
    induction spaces generalizing n with
    | nil => rfl
    | cons space rest ih =>
      have hsize : space.fullNames.length = space.size := List.length_map _
      rw [List.foldl_cons, ih, List.flatMap_cons, List.length_append, hsize, Nat.add_assoc]
  rw [size, hcount, Nat.zero_add]

/-- No method of a catalog is counted twice. -/
theorem nodup_fullNames (catalog : Catalog) : (catalog.namespaces.flatMap Namespace.fullNames).Nodup := by
  rw [List.nodup_flatMap]
  constructor
  · intro space _
    rw [Namespace.fullNames, List.Nodup, List.pairwise_map]
    exact space.methods.pairwise_ne.imp fun hne heq => hne (congrArg Prod.snd heq)
  · refine catalog.table.pairwise_ne.imp fun {first second} hne => ?_
    -- Full names in different namespaces differ in front.
    intro full hfirst hsecond
    obtain ⟨_, -, rfl⟩ := List.mem_map.1 hfirst
    obtain ⟨_, -, heq⟩ := List.mem_map.1 hsecond
    exact hne (congrArg Prod.fst heq).symm

/-- A catalog has a method of the given full name if a namespace with such a method was registered. -/
theorem mem_fullNames_ofList_iff (h : ∀ space ∈ spaces, space.Built) {full : String × String} :
    full ∈ (ofList spaces).namespaces.flatMap Namespace.fullNames ↔
      full ∈ spaces.flatMap Namespace.fullNames := by
  obtain ⟨name, method⟩ := full
  simp only [List.mem_flatMap, Namespace.mem_fullNames_iff]
  constructor
  · rintro ⟨found, hmem, rfl, hmethod⟩
    obtain ⟨-, hsums⟩ := sums_of_get?_ofList h (Keyed.get?_eq_some_iff.2 ⟨hmem, rfl⟩)
    rw [hsums.method?, latestMethod?_isSome_iff] at hmethod
    obtain ⟨space, hspace, hmethod⟩ := hmethod
    exact ⟨space, (mem_under_iff.1 hspace).1, (mem_under_iff.1 hspace).2, hmethod⟩
  · rintro ⟨space, hspace, rfl, hmethod⟩
    have hunder := mem_under_iff.2 ⟨hspace, rfl⟩
    rcases get?_ofList h space.name with ⟨hnil, -⟩ | ⟨-, found, hfound, hsums⟩
    · rw [hnil] at hunder
      simp at hunder
    · refine ⟨found, (Keyed.get?_eq_some hfound).1, hsums.sameName, ?_⟩
      rw [hsums.method?, latestMethod?_isSome_iff]
      exact ⟨space, hunder, hmethod⟩

/-! ### Everything that a catalog answers -/

/-- **A catalog is the sum of its registrations**, with the latest one given precedence. -/
theorem ofList_sums {spaces : List Namespace} (h : ∀ space ∈ spaces, space.Built) :
    (∀ name, (ofList spaces).namespace? name = none ↔
      ∀ space ∈ spaces, space.name ≠ target spaces name) ∧
    (∀ name found, (ofList spaces).namespace? name = some found →
      found.Sums (target spaces name) (under spaces (target spaces name))) ∧
    (∀ name method, (ofList spaces).lookup name method =
      latestMethod? (under spaces (target spaces name)) method) ∧
    (∀ found ∈ (ofList spaces).namespaces, found.Sums found.name (under spaces found.name)) ∧
    (∀ name, name ∈ (ofList spaces).namespaces.map (·.name) ↔ ∃ space ∈ spaces, space.name = name) ∧
    ((ofList spaces).namespaces.map (·.name)).Pairwise (Text.bytes · < Text.bytes ·) ∧
    (ofList spaces).size = (spaces.flatMap Namespace.fullNames).toFinset.card := by
  refine ⟨fun name => ?_, fun name found hfound => ?_, lookup_ofList h, fun found hmem => ?_, fun name => ?_,
    ?_, ?_⟩
  · rw [namespace?, resolve_ofList]
    exact get?_ofList_eq_none_iff h
  · rw [namespace?, resolve_ofList] at hfound
    exact (sums_of_get?_ofList h hfound).2
  · exact (sums_of_get?_ofList h (Keyed.get?_eq_some_iff.2 ⟨hmem, rfl⟩)).2
  · have hnone : (ofList spaces).table.get? name = none ↔ _ := get?_ofList_eq_none_iff h
    rw [Keyed.get?_eq_none_iff] at hnone
    exact not_iff_not.1 (by simpa [namespaces] using hnone)
  · rw [List.pairwise_map]
    exact (ofList spaces).table.sorted.imp fun hlt => Text.lt_iff_bytes_lt.1 hlt
  · rw [size_eq_length, ← List.toFinset_card_of_nodup (nodup_fullNames _)]
    congr 1
    ext full
    rw [List.mem_toFinset, List.mem_toFinset, mem_fullNames_ofList_iff h]

/-- Two registrations under one name, with one under another name in between that takes an alias over. -/
def retold : List Namespace :=
  [Namespace.define { name := "text", title := "Text", aliases := ["t"] } { name := "trim" },
    Namespace.define { name := "time", aliases := ["t"] } { name := "now" },
    Namespace.define { name := "text", aliases := ["str"] } { name := "trim", returnType := "string" }]

theorem built_of_mem_retold : ∀ space ∈ retold, space.Built := by
  intro space hmem
  simp only [retold, List.mem_cons, List.not_mem_nil, or_false] at hmem
  rcases hmem with rfl | rfl | rfl
  · exact .define _ (.describe "Text" "" ["t"] [] (.new "text"))
  · exact .define _ (.describe "" "" ["t"] [] (.new "time"))
  · exact .define _ (.describe "" "" ["str"] [] (.new "text"))

theorem ofList_sums_retold :
    (∀ space ∈ retold, space.Built) ∧
      (ofList retold).lookup "t" "now" = some { home := "time", name := "now" } ∧
      (ofList retold).lookup "str" "trim" =
        some { home := "text", name := "trim", returnType := "string" } ∧
      (ofList retold).size = 2 := by
  obtain ⟨-, -, hlookup, -, -, -, hsize⟩ := ofList_sums built_of_mem_retold
  refine ⟨built_of_mem_retold, ?_, ?_, ?_⟩
  · rw [hlookup]
    rfl
  · rw [hlookup]
    rfl
  · rw [hsize]
    decide

/-! ### Methods that are listed -/

/-- **A listed method can be called by its own full name** exactly if the name of its namespace stands for the
namespace: if other registrations list this name among their aliases, the latest of them all must be one of the
namespace itself. -/
theorem lookup_listed_iff {spaces : List Namespace} (h : ∀ space ∈ spaces, space.Built) {space : Namespace}
    (hspace : space ∈ (ofList spaces).namespaces) {method : Signature}
    (hmethod : method ∈ space.methods.entries) :
    (ofList spaces).lookup method.home method.name = some method ↔
      target spaces space.name = space.name := by
  have hfound := Keyed.get?_eq_some_iff.2 ⟨hspace, rfl⟩
  have hheld : space.method? method.name = some method := Keyed.get?_eq_some_iff.2 ⟨hmethod, rfl⟩
  obtain ⟨-, hsums⟩ := sums_of_get?_ofList h hfound
  rw [(hsums.named _ _ hheld).2, lookup, namespace?, resolve_ofList]
  constructor
  · intro hlookup
    -- What is found under the name is at home where the name leads to.
    obtain ⟨other, hother, hmethod⟩ := Option.bind_eq_some_iff.1 hlookup
    obtain ⟨-, hsums'⟩ := sums_of_get?_ofList h hother
    rw [← (hsums'.named _ _ hmethod).2, (hsums.named _ _ hheld).2]
  · intro htarget
    rw [htarget, hfound]
    exact hheld

/-- A namespace with a method, and another one that has the name of the former for an alias. -/
def shadowed : List Namespace :=
  [Namespace.define { name := "a" } { name := "m" }, { name := "b", aliases := ["a"] }]

theorem built_of_mem_shadowed : ∀ space ∈ shadowed, space.Built := by
  intro space hmem
  simp only [shadowed, List.mem_cons, List.not_mem_nil, or_false] at hmem
  rcases hmem with rfl | rfl
  · exact .define _ (.new "a")
  · exact .describe "" "" ["a"] [] (.new "b")

theorem lookup_listed_iff_shadowed :
    Namespace.define { name := "a" } { name := "m" } ∈ (ofList shadowed).namespaces ∧
      (ofList shadowed).lookup "a" "m" ≠ some { home := "a", name := "m" } := by
  have hspace : Namespace.define { name := "a" } { name := "m" } ∈ (ofList shadowed).namespaces :=
    List.mem_cons_self
  have hmethod : ({ home := "a", name := "m" } : Signature) ∈
      (Namespace.define { name := "a" } { name := "m" }).methods.entries := List.mem_cons_self
  refine ⟨hspace, fun hlookup => ?_⟩
  have htarget := (lookup_listed_iff built_of_mem_shadowed hspace hmethod).1 hlookup
  revert htarget
  decide

/-- A method that is listed need not be one that can be called. -/
theorem not_lookup_listed :
    ¬∀ spaces : List Namespace, (∀ space ∈ spaces, space.Built) →
      ∀ space ∈ (ofList spaces).namespaces, ∀ method ∈ space.methods.entries,
        (ofList spaces).lookup method.home method.name = some method := by
  intro h
  have hspace : Namespace.define { name := "a" } { name := "m" } ∈ (ofList shadowed).namespaces :=
    List.mem_cons_self
  have hlookup := h shadowed built_of_mem_shadowed _ hspace { home := "a", name := "m" } List.mem_cons_self
  have hnone : (ofList shadowed).lookup "a" "m" = none := by rfl
  rw [hnone] at hlookup
  simp at hlookup

end Catalog

end Interpolation
