import Interpolation.Dialect.Sources
import Interpolation.Proofs.Deletion
import Interpolation.Proofs.FixedPoint

/-!
# The layers of a catalog

A dialect is extended by registering namespaces one after the other, and where they overlap it is the order that
counts: what a file declares is merged into what the files before it have declared. The order is that of the
sources (`Interpolation.Dialect.extend_layers`): behind the catalog that is there, first what can be loaded from
the directory, file by file in the order of paths, and then the single manifests as they are given; within a
bundle, the order of names.

The two kinds of sources differ in what a file does that cannot be loaded. A single manifest is missed, and there
is no extension. In a directory the file might as well be deleted.
-/

namespace Interpolation

variable {files : Files}

/-! ### One layer after the other -/

theorem Catalog.registerAll_append (catalog : Catalog) (first second : List Namespace) :
    catalog.registerAll (first ++ second) = (catalog.registerAll first).registerAll second :=
  List.foldl_append

theorem Catalog.load_file_eq_ok_iff {catalog last : Catalog} {path : Path} :
    catalog.load files (.file path) = .ok last ↔
      ∃ spaces, files.namespaces path = .ok spaces ∧ catalog.registerAll spaces = last :=
  map_eq_ok_iff

/-- **Loading several files** is registering what each of them declares, in their order. -/
theorem Catalog.foldlM_load_eq_ok_iff {catalog last : Catalog} {paths : List Path} :
    paths.foldlM (fun catalog path => catalog.load files (.file path)) catalog = .ok last ↔
      ∃ given, files.Declare paths given ∧ catalog.registerAll given.flatten = last := by
  induction paths generalizing catalog with
  | nil =>
    constructor
    · intro h
      exact ⟨[], Files.declare_nil_iff.2 rfl, Except.ok.inj h⟩
    · rintro ⟨given, hgiven, rfl⟩
      obtain rfl := Files.declare_nil_iff.1 hgiven
      rfl
  | cons path rest ih =>
    rw [List.foldlM_cons, bind_eq_ok_iff]
    constructor
    · rintro ⟨next, hnext, hrest⟩
      obtain ⟨spaces, hspaces, rfl⟩ := load_file_eq_ok_iff.1 hnext
      obtain ⟨more, hmore, rfl⟩ := ih.1 hrest
      exact ⟨spaces :: more, hmore.cons hspaces, catalog.registerAll_append _ _⟩
    · rintro ⟨given, hgiven, rfl⟩
      obtain ⟨spaces, more, hspaces, hmore, rfl⟩ := Files.declare_cons_iff.1 hgiven
      exact ⟨_, load_file_eq_ok_iff.2 ⟨spaces, hspaces, rfl⟩,
        ih.2 ⟨more, hmore, (catalog.registerAll_append _ _).symm⟩⟩

namespace Sources

/-- The catalog to begin with. -/
def start (sources : Sources) (catalog : Catalog) : Catalog := if sources.alone then .empty else catalog

/-- **A file that the directory contributes**: at or below it, with the extension of a manifest, and in order. -/
def Finds (sources : Sources) (files : Files) (path : Path) : Prop :=
  ∃ directory ∈ sources.directory, (∃ place, files.Continues directory place path) ∧
    Files.isManifest path = true ∧ files.Loads path

/-- What the directory contributes, if there is one. -/
def found (sources : Sources) (files : Files) : List Namespace := (sources.directory.map files.loadable).getD []

theorem exists_found_eq (sources : Sources) (hproper : files.IsProper) :
    ∃ found loaded, found.Pairwise (fun first second => first.compare second = .lt) ∧
      (∀ path, path ∈ found ↔ sources.Finds files path) ∧
      files.Declare found loaded ∧ sources.found files = loaded.flatten := by
  cases hdirectory : sources.directory with
  | none =>
    refine ⟨[], [], .nil, fun path => ?_, Files.declare_nil_iff.2 rfl, ?_⟩
    · simp [Finds, hdirectory]
    · rw [found, hdirectory]
      rfl
  | some directory =>
    obtain ⟨found, loaded, hsorted, hmem, hloaded, heq⟩ := Files.exists_loadable_eq hproper directory
    refine ⟨found, loaded, hsorted, fun path => ?_, hloaded, ?_⟩
    · rw [hmem, Files.mem_manifests_iff hproper, and_assoc, Finds, hdirectory]
      simp
    · rw [Sources.found, hdirectory]
      exact heq

end Sources

namespace Dialect

/-- **An extension is there if every manifest can be loaded**, and then the catalog has first what the directory
contributes and then what the manifests declare. -/
theorem extend_eq_ok_iff {dialect extended : Dialect} {sources : Sources} :
    dialect.extend files sources = .ok extended ↔
      ∃ given, files.Declare sources.manifests given ∧
        { dialect with
          catalog := (sources.start dialect.catalog).registerAll (sources.found files ++ given.flatten) } =
            extended := by
  have hextend : dialect.extend files sources =
      sources.manifests.foldlM (fun catalog path => catalog.load files (.file path))
          ((sources.start dialect.catalog).registerAll (sources.found files)) >>= fun catalog =>
        pure { dialect with catalog := catalog } := by
    rw [extend, Sources.found]
    cases sources.directory <;> rfl
  rw [hextend, bind_eq_ok_iff]
  constructor
  · rintro ⟨catalog, hcatalog, heq⟩
    obtain ⟨given, hgiven, rfl⟩ := Catalog.foldlM_load_eq_ok_iff.1 hcatalog
    refine ⟨given, hgiven, ?_⟩
    rw [Catalog.registerAll_append]
    exact Except.ok.inj heq
  · rintro ⟨given, hgiven, rfl⟩
    refine ⟨_, Catalog.foldlM_load_eq_ok_iff.2 ⟨given, hgiven, rfl⟩, ?_⟩
    rw [Catalog.registerAll_append]
    rfl

/-- **Sources are layers of a catalog.** Of files as a file system has them, where a walk comes to each of them
once:

* there is an extension exactly if every single manifest can be loaded;
* then its catalog is the one to begin with after what the loadable manifests of the directory declare, in the
  strict order of their paths, and after what each single manifest declares, in the order given;
* the namespaces of a bundle are in the order of their names;
* a bundle cannot be loaded if one of its namespaces has a blank name or methods that are wrong;
* a file that cannot be loaded by one path cannot be by any, and when it is deleted the extension is the same
  dialect as before, with the same methods and the same trees. -/
theorem extend_layers (dialect : Dialect) (hproper : files.IsProper) (sources : Sources) :
    ((∃ extended, dialect.extend files sources = .ok extended) ↔
      ∀ path ∈ sources.manifests, files.Loads path) ∧
    (∀ extended, dialect.extend files sources = .ok extended →
      ∃ found loaded given, found.Pairwise (fun first second => first.compare second = .lt) ∧
        (∀ path, path ∈ found ↔ sources.Finds files path) ∧
        files.Declare found loaded ∧ files.Declare sources.manifests given ∧
        extended = { dialect with
          catalog := (if sources.alone then Catalog.empty else dialect.catalog).registerAll
            (loaded.flatten ++ given.flatten) }) ∧
    (∀ path spaces, path.extension? = some Bundle.extension → files.namespaces path = .ok spaces →
      spaces.Pairwise fun first second => Text.bytes first.name < Text.bytes second.name) ∧
    (∀ path text entries name part, path.extension? = some Bundle.extension → files.read path = .ok text →
      Json.document? text = some (.mapping entries) → (name, part) ∈ entries →
      (isBlankName name = true ∨ part.table? (Signature.decode? .refused) = none) → ¬files.Loads path) ∧
    (∀ path place entry, files.resolve path = .ok (place, entry) → entry.isFile = true → ¬files.Loads path →
      files.Spoiled place) ∧
    (∀ place, files.Spoiled place → ∀ extended,
      dialect.extend (files.delete place) sources = .ok extended ↔
        dialect.extend files sources = .ok extended) := by
  refine ⟨?_, fun extended hextended => ?_, fun _ _ => Files.pairwise_namespaces,
    fun _ _ _ _ _ => Files.not_loads_of_mem, fun _ _ _ => Files.spoiled_of_not_loads hproper,
    fun place hspoiled extended => ?_⟩
  · rw [← Files.exists_declare_iff]
    constructor
    · rintro ⟨extended, hextended⟩
      obtain ⟨given, hgiven, -⟩ := extend_eq_ok_iff.1 hextended
      exact ⟨given, hgiven⟩
    · rintro ⟨given, hgiven⟩
      exact ⟨_, extend_eq_ok_iff.2 ⟨given, hgiven, rfl⟩⟩
  · obtain ⟨given, hgiven, rfl⟩ := extend_eq_ok_iff.1 hextended
    obtain ⟨found, loaded, hsorted, hmem, hloaded, heq⟩ := sources.exists_found_eq hproper
    refine ⟨found, loaded, given, hsorted, hmem, hloaded, hgiven, ?_⟩
    rw [heq, Sources.start]
  · have hfound : sources.found (files.delete place) = sources.found files := by
      rw [Sources.found, Sources.found]
      cases sources.directory with
      | none => rfl
      | some directory => exact hspoiled.loadable_delete hproper directory
    rw [extend_eq_ok_iff, extend_eq_ok_iff, hfound]
    simp only [hspoiled.declare_delete_iff hproper]

/-- A bundle in disorder: its second namespace has a blank name. -/
def disorderly : String := "\x7b\"text\": \x7b\x7d, \" \": \x7b\x7d\x7d"

/-- A directory with a manifest and with this bundle, and another manifest beside it. -/
def shelf : Files where
  here := ["home"]
  entries := [
    (["home", "shelf", "a.toml"], .file "[namespace]\nprefix = \"text\"\n[[method]]\nname = \"cut\"\n".toUTF8),
    (["home", "shelf", "b.json"], .file disorderly.toUTF8),
    (["home", "more.toml"], .file "[namespace]\nprefix = \"text\"\n[[method]]\nname = \"pad\"\n".toUTF8)]
  distinct := by decide

/-- The directory and the manifest beside it. -/
def shelfSources : Sources where
  directory := some ⟨"shelf"⟩
  manifests := [⟨"more.toml"⟩]

theorem isProper_shelf : shelf.IsProper := ⟨by decide, by decide, by decide⟩

theorem resolve_shelf : shelf.resolve ⟨"shelf"⟩ = .ok (["home", "shelf"], .directory) :=
  (Files.resolve_eq_ok_iff ⟨by decide, by decide, by decide⟩).2 ⟨by cbv, by rfl, fun h => by cases h⟩

theorem resolve_disorderly :
    shelf.resolve ⟨"shelf/b.json"⟩ = .ok (["home", "shelf", "b.json"], .file disorderly.toUTF8) :=
  (Files.resolve_eq_ok_iff ⟨by decide, by decide, by decide⟩).2 ⟨by cbv, by rfl, fun _ => by cbv⟩

/-- A manifest on the shelf or beside it that declares a single method. -/
theorem namespaces_shelf {path : Path} {place : List String} {text method : String} (hgiven : Files.IsGiven path)
    (hplace : path.components.foldlM shelf.step shelf.here = .ok place)
    (hat : shelf.at? place = some (.file text.toUTF8)) (hspelled : path.namesDirectory = false)
    (hextension : path.extension? ≠ some Bundle.extension)
    (htext : Manifest.ofToml text path = .ok (Namespace.define { name := "text" } { name := method })) :
    shelf.namespaces path = .ok [Namespace.define { name := "text" } { name := method }] := by
  have hresolve := (Files.resolve_eq_ok_iff hgiven).2 ⟨hplace, hat, fun _ => hspelled⟩
  refine Files.namespaces_eq_ok_iff.2 ⟨text, Files.read_eq_ok_iff.2 ⟨_, _, hresolve, Files.decode_toUTF8 _⟩, ?_⟩
  rw [if_neg hextension]
  exact ⟨_, htext, rfl⟩

theorem namespaces_on_shelf :
    shelf.namespaces ⟨"shelf/a.toml"⟩ = .ok [Namespace.define { name := "text" } { name := "cut" }] :=
  namespaces_shelf ⟨by decide, by decide, by decide⟩ (by cbv) (by rfl) (by cbv) (by decide) (by cbv)

theorem namespaces_beside_shelf :
    shelf.namespaces ⟨"more.toml"⟩ = .ok [Namespace.define { name := "text" } { name := "pad" }] :=
  namespaces_shelf ⟨by decide, by decide, by decide⟩ (by cbv) (by rfl) (by cbv) (by decide) (by cbv)

/-- There are paths to two files on the shelf. -/
theorem eq_or_eq_of_continues_shelf {path : Path} {place : List String}
    (h : shelf.Continues ⟨"shelf"⟩ place path) : path = ⟨"shelf/a.toml"⟩ ∨ path = ⟨"shelf/b.json"⟩ := by
  obtain @⟨base, below, kind, entry, hdirectory, hlisted, -⟩ := h
  obtain ⟨rfl, -⟩ := Prod.mk.inj (Except.ok.inj (resolve_shelf.symm.trans hdirectory))
  have hbelow : below = ["a.toml"] ∨ below = ["b.json"] := by
    simp only [shelf, List.mem_cons, Prod.mk.injEq, List.cons_append, List.nil_append] at hlisted
    grind
  rcases hbelow with rfl | rfl
  · exact .inl (by cbv)
  · exact .inr (by cbv)

/-- There is an extension from the manifests, with the methods of both behind the one that was there, and the same
one without the bundle. -/
theorem extend_layers_shelf :
    (∃ extended, joining.extend shelf shelfSources = .ok extended ∧
        extended.catalog.lookup "text" "join" = some { joinMethod with home := "text" } ∧
        extended.catalog.lookup "text" "cut" = some { home := "text", name := "cut" } ∧
        extended.catalog.lookup "text" "pad" = some { home := "text", name := "pad" }) ∧
      ∀ extended, joining.extend (shelf.delete ["home", "shelf", "b.json"]) shelfSources = .ok extended ↔
        joining.extend shelf shelfSources = .ok extended := by
  obtain ⟨hsuccess, hlayers, -, hbundle, hspoiled, hdelete⟩ := extend_layers joining isProper_shelf shelfSources
  have hfails : ¬shelf.Loads ⟨"shelf/b.json"⟩ := by
    have hread : shelf.read ⟨"shelf/b.json"⟩ = .ok disorderly :=
      Files.read_eq_ok_iff.2 ⟨_, _, resolve_disorderly, Files.decode_toUTF8 _⟩
    have hdocument : Json.document? disorderly = some (.mapping [("text", .mapping []), (" ", .mapping [])]) := by
      cbv
    exact hbundle _ _ _ " " (.mapping []) (by decide) hread hdocument (by simp) (.inl (by decide))
  obtain ⟨extended, hextended⟩ := hsuccess.2 fun path hpath => by
    obtain rfl := List.mem_singleton.1 hpath
    exact ⟨_, namespaces_beside_shelf⟩
  refine ⟨⟨extended, hextended, ?_⟩, hdelete _ (hspoiled _ _ _ resolve_disorderly rfl hfails)⟩
  obtain ⟨found, loaded, given, hsorted, hmem, hloaded, hgiven, rfl⟩ := hlayers extended hextended
  -- Of the two files on the shelf, only the manifest can be loaded.
  obtain rfl : found = [⟨"shelf/a.toml"⟩] := by
    refine Path.eq_of_pairwise_lt hsorted (List.pairwise_singleton _ _) fun path => ?_
    rw [hmem, List.mem_singleton]
    constructor
    · rintro ⟨directory, hdirectory, ⟨place, hcontinues⟩, -, hloads⟩
      obtain rfl := Option.some.inj hdirectory
      rcases eq_or_eq_of_continues_shelf hcontinues with rfl | rfl
      · rfl
      · exact absurd hloads hfails
    · rintro rfl
      have hlisted : (["home", "shelf"] ++ ["a.toml"], _) ∈ shelf.entries := List.mem_cons_self
      have hcontinues := Files.Continues.of_listed resolve_shelf hlisted rfl
      have hpath : ["a.toml"].foldl Path.join ⟨"shelf"⟩ = ⟨"shelf/a.toml"⟩ := by cbv
      rw [hpath] at hcontinues
      exact ⟨_, rfl, ⟨_, hcontinues⟩, by cbv, _, namespaces_on_shelf⟩
  obtain rfl := hloaded.unique ((Files.declare_nil_iff.2 rfl).cons namespaces_on_shelf)
  obtain rfl := hgiven.unique ((Files.declare_nil_iff.2 rfl).cons namespaces_beside_shelf)
  exact ⟨by rfl, by rfl, by rfl⟩

end Dialect

end Interpolation
