import ScreenPattern.Catalog.Builtin
import ScreenPattern.Catalog.Listed
import ScreenPattern.Catalog.Overlay
import ScreenPattern.Config.Basic
import ScreenPattern.FileTree
import ScreenPattern.Json.Parser
import ScreenPattern.Registry

namespace ScreenPattern

/-- The catalog document in a file. The catalog is named by the path. -/
def ListedCatalog.ofFile (tree : FileTree) (path : String) :
    Except CatalogError ListedCatalog := do
  let content ← (tree.read path).mapError (.unreadableFile path)
  let document ← (Json.ofUtf8? content).elim (.error (.parseJson path)) .ok
  ListedCatalog.ofJson path document

namespace RegistryConfig

/-- The configuration in a TOML text that came from `origin`. -/
def ofText (text origin : String) : Except CatalogError RegistryConfig :=
  (ofToml? text).elim (.error (.parseToml origin)) .ok

/-- The configuration in a file. A catalog path in it is seen from the directory of the file. -/
def ofFile (tree : FileTree) (path : String) : Except CatalogError RegistryConfig := do
  let text ← (tree.readText path).mapError (.unreadableFile path)
  let config ← ofText text path
  let catalogPath := config.catalog.path.map (FileTree.resolve (FileTree.parent path))
  return { config with catalog := { config.catalog with path := catalogPath } }

def catalogSource (tree : FileTree) (config : RegistryConfig) :
    Except CatalogError CatalogSource :=
  match config.catalog.origin, config.catalog.path with
  | .builtin, _ => .ok Builtin.source
  | .file, none =>
      .error (.malformed "catalog.path is required when catalog.source = \"file\"")
  | .file, some path => do
      let file ← ListedCatalog.ofFile tree path
      return if config.catalog.overlayBuiltin then file.source.overlay Builtin.source
        else file.source

end RegistryConfig

namespace Registry

def ofConfig (tree : FileTree) (config : RegistryConfig) : Except RegistryError Registry := do
  let source ← (config.catalogSource tree).mapError .catalog
  let registry : Registry := { source }
  if config.preload then
    let (answer, loaded) := registry.preload
    let _ ← answer
    return loaded
  else return registry

def builtin : Registry := { source := Builtin.source }

end Registry

end ScreenPattern
