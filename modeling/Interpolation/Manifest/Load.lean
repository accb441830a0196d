import Interpolation.Document.Json
import Interpolation.Document.Toml
import Interpolation.Files
import Interpolation.Manifest.Decode

/-!
# Loading manifests

From texts, files and directories to namespaces, and from there into a catalog. A file with the extension
`json` is a bundle, every other one a TOML manifest. A load that fails takes up nothing; in a directory, the files
that fail are passed over (`Interpolation.Files.loadable`).
-/

namespace Interpolation

/-! ### From texts -/

/-- The namespace of a TOML manifest. The path is what errors refer to. -/
def Manifest.ofToml (text : String) (path : Path) : Except CatalogError Namespace :=
  match (Toml.document? text).bind Manifest.decode? with
  | some manifest => manifest.namespace? path
  | none => .error (.malformedToml path)

/-- The namespaces of a JSON bundle. The path is what errors refer to. -/
def Bundle.ofJson (text : String) (path : Path) : Except CatalogError (List Namespace) :=
  match (Json.document? text).bind Bundle.decode? with
  | some bundle => bundle.namespaces? path
  | none => .error (.malformedJson path)

/-! ### From files -/

/-- The extension of bundles. -/
def Bundle.extension : String := "json"

/-- The extension of manifests. -/
def Manifest.extension : String := "toml"

namespace Files

/-- **The namespaces that the file at a path declares.** -/
def namespaces (files : Files) (path : Path) : Except CatalogError (List Namespace) :=
  match files.read path with
  | .error reason => .error (.unreadable path reason.message)
  | .ok text =>
    if path.extension? = some Bundle.extension then Bundle.ofJson text path
    else (Manifest.ofToml text path).map ([·])

/-- Whether a path has an extension by which a directory's files are taken for manifests. -/
def isManifest (path : Path) : Bool :=
  path.extension? = some Manifest.extension || path.extension? = some Bundle.extension

/-- **The manifests at or below a path**, in the order of paths. -/
def manifests (files : Files) (path : Path) : List Path :=
  ((files.walk path).filter isManifest).mergeSort fun a b => (a.compare b).isLE

/-- The namespaces of all manifests at or below a path that can be loaded, in the order of paths. -/
def loadable (files : Files) (path : Path) : List Namespace :=
  (files.manifests path).flatMap fun path =>
    match files.namespaces path with
    | .ok spaces => spaces
    | .error _ => []

end Files

/-! ### Into a catalog -/

/-- **What a catalog can be loaded from.** -/
inductive Load where
  /-- The text of a TOML manifest. -/
  | toml (text : String)
  /-- The text of a JSON bundle. -/
  | json (text : String)
  /-- A file. -/
  | file (path : Path)

namespace Load

/-- The path that errors in a text without a file refer to. -/
def inlinePath : Path := ⟨"<inline>"⟩

/-- The namespaces that a load takes up. -/
def namespaces (files : Files) : Load → Except CatalogError (List Namespace)
  | toml text => (Manifest.ofToml text inlinePath).map ([·])
  | json text => Bundle.ofJson text inlinePath
  | file path => files.namespaces path

/-- **A load as an action on the catalog at hand**: the source is read, and then one namespace after the other is
registered. What is registered when the action fails stays registered. -/
def run (files : Files) (load : Load) : ExceptT CatalogError (StateM Catalog) Unit := do
  let spaces ← MonadExcept.ofExcept (load.namespaces files)
  spaces.forM fun space => modify (·.register space)

/-- What becomes of a load, and the catalog behind it. -/
def outcome (files : Files) (load : Load) (catalog : Catalog) : Except CatalogError Unit × Catalog :=
  ((load.run files).run.run catalog).run

end Load

namespace Catalog

/-- **The catalog behind a load**, or the reason why there is none. -/
def load (catalog : Catalog) (files : Files) (load : Load) : Except CatalogError Catalog :=
  (load.namespaces files).map catalog.registerAll

/-- The catalog behind a load that may fail. -/
def attempt (catalog : Catalog) (files : Files) (load : Load) : Catalog := (load.outcome files catalog).2

/-- Takes up the namespaces of all files at or below a path that can be loaded. -/
def loadDirectory (catalog : Catalog) (files : Files) (path : Path) : Catalog :=
  catalog.registerAll (files.loadable path)

end Catalog

/-- The directory in which manifests are looked for unless another is named: the one that the environment
names, or the usual place below the home directory. -/
def defaultDirectory (named home : Option String) : Path :=
  match named with
  | some directory => ⟨directory⟩
  | none => [".local", "share", "formulary", "catalog"].foldl Path.join ⟨home.getD "."⟩

end Interpolation
