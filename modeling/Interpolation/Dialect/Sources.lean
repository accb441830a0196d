import Interpolation.Dialect
import Interpolation.Manifest.Load

/-!
# Where a dialect takes its methods from

A dialect is extended from files (`Interpolation.Dialect.extend`): first by what can be loaded from a directory, then by
single manifests, every one of which has to load.
-/

namespace Interpolation

/-- **Where methods come from**, besides the catalog that is there already. -/
structure Sources where
  /-- A directory with manifests, of which those that cannot be loaded are passed over. -/
  directory : Option Path := none
  /-- Single manifests, each of which has to load. -/
  manifests : List Path := []
  /-- Whether the catalog that is there already counts for nothing. -/
  alone : Bool := false

/-- **The dialect with the methods of its sources taken up**, or the error of the first single manifest that
cannot be loaded. -/
def Dialect.extend (dialect : Dialect) (files : Files) (sources : Sources) : Except CatalogError Dialect := do
  let start := if sources.alone then Catalog.empty else dialect.catalog
  let found := match sources.directory with
    | some path => start.loadDirectory files path
    | none => start
  let catalog ← sources.manifests.foldlM (fun catalog path => catalog.load files (.file path)) found
  return { dialect with catalog := catalog }

end Interpolation
