import Interpolation.Proofs.ByteOrder
import Interpolation.Proofs.Registration
import Interpolation.Proofs.Walking

/-!
# What files declare

A file that can be read and is not malformed declares namespaces, all of them or none
(`Interpolation.Files.Loads`). The path is needed to find the file and to tell its format from the extension, and
else it is only what errors refer to. Since a path that leads to a file ends in the name of the file
(`Interpolation.Files.fileName?_of_resolve`), it does not matter by which path a file is loaded, and it is a
property of the file that it cannot be loaded (`Interpolation.Files.spoiled_of_not_loads`).

The namespaces of a bundle are in the order of their names (`Interpolation.Files.pairwise_namespaces`), and one
that is wrong spoils the whole bundle (`Interpolation.Files.not_loads_of_mem`).
-/

namespace Interpolation

/-! ### Tables -/

/-- Going through a list without a failure gives something for every element. -/
theorem exists_mem_of_mapM_eq_some {α β : Type} {f : α → Option β} {items : List α} {results : List β} {item : α}
    (h : items.mapM f = some results) (hmem : item ∈ items) : ∃ result ∈ results, f item = some result := by
  induction items generalizing results with
  | nil => cases hmem
  | cons first rest ih =>
    rw [List.mapM_cons] at h
    obtain ⟨result, hfirst, hmore⟩ := Option.bind_eq_some_iff.1 h
    obtain ⟨others, hrest, heq⟩ := Option.bind_eq_some_iff.1 hmore
    obtain rfl := Option.some.inj heq
    rcases List.mem_cons.1 hmem with rfl | hmem
    · exact ⟨result, List.mem_cons_self, hfirst⟩
    · obtain ⟨other, hother, hitem⟩ := ih hrest hmem
      exact ⟨other, List.mem_cons_of_mem _ hother, hitem⟩

/-- A key that leads to an entry does so after more entries are put in. -/
theorem Keyed.get?_foldl_insert_ne_none {α : Type} {key : α → String} {table : Keyed α key} {name : String}
    (h : table.get? name ≠ none) (entries : List α) : (entries.foldl .insert table).get? name ≠ none := by
  induction entries generalizing table with
  | nil => exact h
  | cons entry rest ih =>
    refine ih ?_
    rw [get?_insert]
    split
    · simp
    · exact h

/-- The keys of what is put into a table are keys of the table. -/
theorem Keyed.exists_key_eq_of_mem {α : Type} {key : α → String} {entries : List α} {entry : α}
    (h : entry ∈ entries) (table : Keyed α key) :
    ∃ held ∈ (entries.foldl .insert table).entries, key held = key entry := by
  obtain ⟨before, after, rfl⟩ := List.append_of_mem h
  have hput : ((before.foldl Keyed.insert table).insert entry).get? (key entry) ≠ none := by
    rw [get?_insert, if_pos rfl]
    simp
  obtain ⟨held, hheld⟩ := Option.ne_none_iff_exists'.1 (get?_foldl_insert_ne_none hput after)
  rw [List.foldl_append, List.foldl_cons]
  exact ⟨held, get?_eq_some hheld⟩

/-- The parts of a mapping that is read as a table are all read, and their names are names of the table. -/
theorem Document.exists_of_mem_table? {α : Type} {part? : Document → Option α}
    {entries : List (String × Document)} {table : Keyed (String × α) Prod.fst} {name : String} {part : Document}
    (h : (Document.mapping entries).table? part? = some table) (hmem : (name, part) ∈ entries) :
    (∃ value, part? part = some value) ∧ ∃ held ∈ table.entries, held.1 = name := by
  obtain ⟨parts, hparts, htable⟩ := Option.bind_eq_some_iff.1 h
  obtain rfl := Option.some.inj htable
  obtain ⟨listed, hlisted, hread⟩ := exists_mem_of_mapM_eq_some hparts hmem
  obtain ⟨value, hvalue, rfl⟩ := Option.map_eq_some_iff.1 hread
  exact ⟨⟨value, hvalue⟩, Keyed.exists_key_eq_of_mem hlisted .empty⟩

/-! ### Texts -/

/-- Going through a list without an error gives a result for every element. -/
theorem mapM_eq_ok_iff {ε α β : Type} {f : α → Except ε β} {items : List α} {results : List β} :
    items.mapM f = .ok results ↔ List.Forall₂ (fun item result => f item = .ok result) items results := by
  induction items generalizing results with
  | nil => cases results <;> simp [pure, Except.pure]
  | cons item rest ih =>
    rw [List.mapM_cons, bind_eq_ok_iff, List.forall₂_cons_left_iff]
    refine exists_congr fun first => ?_
    rw [bind_eq_ok_iff]
    constructor
    · rintro ⟨hfirst, others, hrest, heq⟩
      exact ⟨others, hfirst, ih.1 hrest, (Except.ok.inj heq).symm⟩
    · rintro ⟨others, hfirst, hrest, rfl⟩
      exact ⟨hfirst, others, ih.2 hrest, rfl⟩

namespace Bundle

variable {bundle : Bundle} {path : Path} {spaces : List Namespace}

/-- **A bundle declares all its namespaces**, and no name is blank. -/
def Declares (bundle : Bundle) (spaces : List Namespace) : Prop :=
  List.Forall₂ (fun entry space => isBlankName entry.1 = false ∧ space = declared entry.1 entry.2)
    bundle.entries spaces

theorem Declares.isBlankName_eq_false (h : bundle.Declares spaces) :
    ∀ entry ∈ bundle.entries, isBlankName entry.1 = false :=
  ((List.forall₂_and_left _ _).1 h).1

/-- The namespaces of a bundle have the names that it lists. -/
theorem Declares.map_name (h : bundle.Declares spaces) : spaces.map (·.name) = bundle.entries.map (·.1) := by
  have hnames : List.Forall₂ (fun entry space => space.name = entry.1) bundle.entries spaces :=
    h.imp fun entry space hboth => by
      rw [hboth.2]
      exact Namespace.name_defineAll _ _
  rw [← List.forall₂_eq_eq_eq, List.forall₂_map_left_iff, List.forall₂_map_right_iff]
  exact hnames.flip

theorem namespaces?_eq_ok_iff : bundle.namespaces? path = .ok spaces ↔ bundle.Declares spaces := by
  rw [namespaces?, mapM_eq_ok_iff, Declares]
  have hentry (entry : String × Keyed (String × Signature) Prod.fst) (space : Namespace) :
      ((if isBlankName entry.1 then .error (.emptyName path) else .ok (declared entry.1 entry.2) :
        Except CatalogError Namespace) = .ok space) ↔
        isBlankName entry.1 = false ∧ space = declared entry.1 entry.2 := by
    cases isBlankName entry.1 <;> simp [eq_comm]
  simp only [hentry]

theorem ofJson_eq_ok_iff {text : String} :
    ofJson text path = .ok spaces ↔
      ∃ bundle, (Json.document? text).bind decode? = some bundle ∧ bundle.Declares spaces := by
  rw [ofJson]
  cases (Json.document? text).bind decode? <;> simp [namespaces?_eq_ok_iff]

end Bundle

theorem Manifest.ofToml_eq_ok_iff {text : String} {path : Path} {space : Namespace} :
    Manifest.ofToml text path = .ok space ↔
      ∃ manifest, (Toml.document? text).bind Manifest.decode? = some manifest ∧
        isBlankName manifest.name = false ∧ firstRepeated? [] (manifest.methods.map (·.name)) = none ∧
          space = manifest.declared := by
  unfold ofToml
  cases (Toml.document? text).bind decode? with
  | none => simp
  | some manifest =>
    simp only [namespace?, Option.some.injEq, exists_eq_left']
    cases isBlankName manifest.name <;> cases firstRepeated? [] (manifest.methods.map (·.name)) <;> simp [eq_comm]

/-! ### Files -/

namespace Files

variable {files : Files} {place : List String} {entry : Entry} {path : Path} {spaces : List Namespace}

/-- **A file can be loaded**: it can be read, and what it declares is in order. -/
def Loads (files : Files) (path : Path) : Prop := ∃ spaces, files.namespaces path = .ok spaces

/-- The bytes of a text are read as this text. -/
theorem decode_toUTF8 (text : String) : decode text.toUTF8 = .ok text := by
  have hvalid : String.fromUTF8? text.toUTF8 = some text := dif_pos text.isValidUTF8
  rw [decode, hvalid]

theorem read_eq_ok_iff {text : String} :
    files.read path = .ok text ↔
      ∃ place bytes, files.resolve path = .ok (place, .file bytes) ∧ decode bytes = .ok text := by
  rw [read, bind_eq_ok_iff]
  constructor
  · rintro ⟨⟨place, entry⟩, hresolve, hread⟩
    cases entry with
    | file bytes => exact ⟨place, bytes, hresolve, hread⟩
    | locked => cases hread
    | directory => cases hread
  · rintro ⟨place, bytes, hresolve, hread⟩
    exact ⟨_, hresolve, hread⟩

theorem namespaces_eq_ok_iff :
    files.namespaces path = .ok spaces ↔ ∃ text, files.read path = .ok text ∧
      if path.extension? = some Bundle.extension then Bundle.ofJson text path = .ok spaces
      else ∃ space, Manifest.ofToml text path = .ok space ∧ spaces = [space] := by
  rw [namespaces]
  cases files.read path with
  | error reason => simp
  | ok text =>
    simp only [Except.ok.injEq, exists_eq_left']
    split
    · rfl
    · cases Manifest.ofToml text path <;> simp [Except.map, eq_comm]

/-- **The namespaces of a bundle are in the order of their names**, byte by byte. -/
theorem pairwise_namespaces (hextension : path.extension? = some Bundle.extension)
    (h : files.namespaces path = .ok spaces) :
    spaces.Pairwise fun first second => Text.bytes first.name < Text.bytes second.name := by
  obtain ⟨text, -, htext⟩ := namespaces_eq_ok_iff.1 h
  rw [if_pos hextension] at htext
  obtain ⟨bundle, -, hspaces⟩ := Bundle.ofJson_eq_ok_iff.1 htext
  have hsorted : (bundle.entries.map (·.1)).Pairwise (· < ·) := List.pairwise_map.2 bundle.sorted
  rw [← hspaces.map_name, List.pairwise_map] at hsorted
  exact hsorted.imp Text.lt_iff_bytes_lt.1

/-- **One namespace that is wrong spoils its bundle.** -/
theorem not_loads_of_mem {text name : String} {entries : List (String × Document)} {part : Document}
    (hextension : path.extension? = some Bundle.extension) (hread : files.read path = .ok text)
    (hdocument : Json.document? text = some (.mapping entries)) (hmem : (name, part) ∈ entries)
    (hwrong : isBlankName name = true ∨ part.table? (Signature.decode? .refused) = none) : ¬files.Loads path := by
  rintro ⟨spaces, h⟩
  obtain ⟨text', hread', htext⟩ := namespaces_eq_ok_iff.1 h
  obtain rfl := Except.ok.inj (hread.symm.trans hread')
  rw [if_pos hextension] at htext
  obtain ⟨bundle, hbundle, hspaces⟩ := Bundle.ofJson_eq_ok_iff.1 htext
  rw [hdocument] at hbundle
  obtain ⟨⟨methods, hmethods⟩, held, hheld, rfl⟩ := Document.exists_of_mem_table? hbundle hmem
  rcases hwrong with hblank | hnone
  · cases hblank.symm.trans (hspaces.isBlankName_eq_false held hheld)
  · rw [hnone] at hmethods
    cases hmethods

/-! ### Several files -/

/-- **What several files declare**, each of them its namespaces. -/
def Declare (files : Files) (paths : List Path) (loaded : List (List Namespace)) : Prop :=
  List.Forall₂ (fun path spaces => files.namespaces path = .ok spaces) paths loaded

variable {paths : List Path} {loaded loaded' : List (List Namespace)}

theorem declare_nil_iff : files.Declare [] loaded ↔ loaded = [] := List.forall₂_nil_left_iff

theorem declare_cons_iff :
    files.Declare (path :: paths) loaded ↔
      ∃ spaces more, files.namespaces path = .ok spaces ∧ files.Declare paths more ∧ loaded = spaces :: more :=
  List.forall₂_cons_left_iff

theorem Declare.cons (h : files.namespaces path = .ok spaces) (hmore : files.Declare paths loaded) :
    files.Declare (path :: paths) (spaces :: loaded) :=
  declare_cons_iff.2 ⟨spaces, loaded, h, hmore, rfl⟩

theorem Declare.unique (h : files.Declare paths loaded) (h' : files.Declare paths loaded') : loaded = loaded' :=
  List.right_unique_forall₂' (fun _ _ _ h h' => Except.ok.inj (h.symm.trans h')) h h'

/-- Several files can be loaded if each of them can be. -/
theorem exists_declare_iff : (∃ loaded, files.Declare paths loaded) ↔ ∀ path ∈ paths, files.Loads path := by
  induction paths with
  | nil => exact iff_of_true ⟨[], declare_nil_iff.2 rfl⟩ fun path hmem => by cases hmem
  | cons path rest ih =>
    rw [List.forall_mem_cons, ← ih]
    constructor
    · rintro ⟨loaded, hloaded⟩
      obtain ⟨spaces, more, hspaces, hmore, -⟩ := declare_cons_iff.1 hloaded
      exact ⟨⟨spaces, hspaces⟩, more, hmore⟩
    · rintro ⟨⟨spaces, hspaces⟩, more, hmore⟩
      exact ⟨spaces :: more, hmore.cons hspaces⟩

/-- Passing over what cannot be loaded leaves the namespaces of what can, in the order of the paths. -/
theorem exists_flatMap_eq (files : Files) (paths : List Path) :
    ∃ loaded, files.Declare (paths.filter fun path => (files.namespaces path).isOk) loaded ∧
      (paths.flatMap fun path =>
        match files.namespaces path with
        | .ok spaces => spaces
        | .error _ => []) = loaded.flatten := by
  induction paths with
  | nil => exact ⟨[], declare_nil_iff.2 rfl, rfl⟩
  | cons path rest ih =>
    obtain ⟨loaded, hloaded, heq⟩ := ih
    cases hpath : files.namespaces path with
    | error error =>
      refine ⟨loaded, ?_, ?_⟩
      · rwa [List.filter_cons_of_neg (by simp [hpath, Except.isOk, Except.toBool])]
      · rw [List.flatMap_cons, hpath, heq]
        rfl
    | ok spaces =>
      refine ⟨spaces :: loaded, ?_, ?_⟩
      · rw [List.filter_cons_of_pos (by simp [hpath, Except.isOk, Except.toBool])]
        exact hloaded.cons hpath
      · rw [List.flatMap_cons, hpath, heq]
        rfl

/-- **What is loaded from a directory** are the namespaces of its manifests that can be loaded, in the order of
paths. -/
theorem exists_loadable_eq (hproper : files.IsProper) (directory : Path) :
    ∃ found loaded, found.Pairwise (fun first second => first.compare second = .lt) ∧
      (∀ path, path ∈ found ↔ path ∈ files.manifests directory ∧ files.Loads path) ∧
      files.Declare found loaded ∧ files.loadable directory = loaded.flatten := by
  obtain ⟨loaded, hloaded, heq⟩ := files.exists_flatMap_eq (files.manifests directory)
  refine ⟨_, loaded, (pairwise_manifests hproper directory).filter _, fun path => ?_, hloaded, heq⟩
  rw [List.mem_filter, Loads]
  cases files.namespaces path <;> simp [Except.isOk, Except.toBool]

/-! ### Files by several paths -/

/-- The only step that leads to a file is the one down to it. -/
theorem exists_name_of_step (hproper : files.IsProper) {base : List String} {component : Component}
    (h : files.step base component = .ok place) (hplace : files.HasFile place) :
    ∃ name, component = .name name ∧ place = base ++ [name] := by
  rcases step_eq_ok_iff.1 h with ⟨rfl, rfl⟩ | ⟨hbase, ⟨rfl, rfl⟩ | ⟨rfl, rfl⟩ | ⟨name, rfl, -, rfl⟩⟩
  · exact absurd rfl (hplace.ne_nil hproper)
  · obtain ⟨entry, hlisted, hfile⟩ := hplace
    obtain rfl := Option.some.inj (hbase.symm.trans ((at?_eq_some_iff hfile).2 hlisted))
    cases hfile
  · -- Something is at or below the place that the step goes up from, and so below the file.
    have hne : base ≠ [] := by
      rintro rfl
      exact hplace.ne_nil hproper rfl
    obtain ⟨listed, hbelow, habove⟩ := exists_listed_of_at? hbase hne
    have heq := hplace.eq_of_listed_below hproper hbelow ((List.dropLast_prefix base).trans habove)
    have hlength := (heq ▸ habove).length_le
    have hpos := List.length_pos_iff.2 hne
    rw [List.length_dropLast] at hlength
    omega
  · exact ⟨name, rfl, rfl⟩

/-- **A path that leads to a file ends with its name.** -/
theorem fileName?_of_resolve (hproper : files.IsProper) (h : files.resolve path = .ok (place, entry))
    (hfile : entry.isFile = true) : path.fileName? = place.getLast? := by
  have hgiven := isGiven_of_resolve h
  obtain ⟨hwalk, hat, -⟩ := (resolve_eq_ok_iff hgiven).1 h
  obtain ⟨before, last, hsplit⟩ := (List.eq_nil_or_concat path.components).resolve_left
    (Path.components_ne_nil hgiven.ne_empty)
  rw [hsplit, List.concat_eq_append, List.foldlM_append, bind_eq_ok_iff] at hwalk
  obtain ⟨base, -, hend⟩ := hwalk
  rw [List.foldlM_cons, bind_eq_ok_iff] at hend
  obtain ⟨target, hlast, heq⟩ := hend
  obtain rfl := Except.ok.inj heq
  obtain ⟨name, rfl, rfl⟩ := exists_name_of_step hproper hlast (hasFile_of_at? hat hfile)
  simp [Path.fileName?, hsplit]

/-- What is declared depends on the text of a file and on its extension. -/
theorem namespaces_eq_ok_congr {other : Path} (hread : files.read path = files.read other)
    (hextension : path.extension? = other.extension?) :
    files.namespaces path = .ok spaces ↔ files.namespaces other = .ok spaces := by
  simp only [namespaces_eq_ok_iff, hread, hextension, Bundle.ofJson_eq_ok_iff, Manifest.ofToml_eq_ok_iff]

/-- **A file that cannot be loaded**, by whatever path. -/
structure Spoiled (files : Files) (place : List String) : Prop where
  hasFile : files.HasFile place
  not_loads : ∀ path entry, files.resolve path = .ok (place, entry) → ¬files.Loads path

/-- **It does not matter by which path a file is loaded**: if it cannot be loaded by one, it is spoiled. -/
theorem spoiled_of_not_loads (hproper : files.IsProper) (h : files.resolve path = .ok (place, entry))
    (hfile : entry.isFile = true) (hfails : ¬files.Loads path) : files.Spoiled place := by
  have hat := ((resolve_eq_ok_iff (isGiven_of_resolve h)).1 h).2.1
  refine ⟨hasFile_of_at? hat hfile, fun other found hother hloads => hfails ?_⟩
  have hfound := ((resolve_eq_ok_iff (isGiven_of_resolve hother)).1 hother).2.1
  obtain rfl := Option.some.inj (hfound.symm.trans hat)
  obtain ⟨spaces, hspaces⟩ := hloads
  refine ⟨spaces, (namespaces_eq_ok_congr ?_ ?_).1 hspaces⟩
  · rw [read, read, h, hother]
  · rw [Path.extension?, Path.extension?, fileName?_of_resolve hproper h hfile,
      fileName?_of_resolve hproper hother hfile]

end Files

end Interpolation
