import ScreenPattern.Toml.Parser
import ScreenPattern.Vocabulary.Tokens

/-!
The configuration of a registry, read from TOML or from JSON. Every setting has a default, and
settings that are not known are ignored.
-/

namespace ScreenPattern

inductive CatalogOrigin
  | builtin
  | file
  deriving Repr, DecidableEq

instance : Tokens CatalogOrigin where
  all := [.builtin, .file]
  token
    | .builtin => "builtin"
    | .file => "file"

structure CatalogConfig where
  origin : CatalogOrigin := .builtin
  path : Option String := none
  /-- Builtin contracts answer for the keys that the file lacks. -/
  overlayBuiltin : Bool := false
  deriving Repr, DecidableEq

structure RegistryConfig where
  catalog : CatalogConfig := {}
  /-- Load every contract when the registry is made. -/
  preload : Bool := false
  deriving Repr, DecidableEq

namespace CatalogConfig

def settings : List String := ["source", "path", "overlay_builtin"]

def ofJson? (j : Json) : Option CatalogConfig := do
  let fields ← j.record? settings
  let origin ← fields.defaulted "source" .builtin Tokens.ofJson?
  let path ← fields.optional "path" Json.asStr?
  let overlayBuiltin ← fields.defaulted "overlay_builtin" false Json.asBool?
  return { origin, path, overlayBuiltin }

def toJson (config : CatalogConfig) : Json :=
  .obj [("overlay_builtin", .bool config.overlayBuiltin),
    ("path", config.path.elim .null .str), ("source", Tokens.toJson config.origin)]

end CatalogConfig

namespace RegistryConfig

def preloadOfJson? (j : Json) : Option Bool := do
  let fields ← j.record? ["preload"]
  fields.defaulted "preload" false Json.asBool?

def ofJson? (j : Json) : Option RegistryConfig := do
  let fields ← j.record? ["catalog", "registry"]
  let catalog ← fields.defaulted "catalog" {} CatalogConfig.ofJson?
  let preload ← fields.defaulted "registry" false preloadOfJson?
  return { catalog, preload }

def toJson (config : RegistryConfig) : Json :=
  .obj [("catalog", config.catalog.toJson), ("registry", .obj [("preload", .bool config.preload)])]

end RegistryConfig

namespace Toml.Value

/-- The settings of a section, by name or by position. A date has none. -/
def settings? (names : List String) : Value → Option (Fields Value)
  | table _ entries => some entries
  | array items => some (names.zip items)
  | tables items => some (names.zip items.reverse)
  | moment _ => some []
  | _ => none

def asText? : Value → Option String
  | text s => some s
  | _ => none

def asBool? : Value → Option Bool
  | bool b => some b
  | _ => none

/-- A token stands by itself or as the only key of a table, over an empty table or array. -/
def token? : Value → Option String
  | text s => some s
  | table _ [(s, table _ [])] | table _ [(s, array [])] => some s
  | _ => none

def setting {α : Type} (name : String) (default : α) (read : Value → Option α)
    (fields : Fields Value) : Option α :=
  match fields.get? name with
  | none => some default
  | some v => read v

end Toml.Value

namespace CatalogConfig

open Toml (Value)

def ofToml? (group : Value) : Option CatalogConfig := do
  let fields ← group.settings? settings
  let origin ← Value.setting "source" .builtin (fun v => v.token?.bind Tokens.ofToken?) fields
  let path ← Value.setting "path" none (fun v => v.asText?.map some) fields
  let overlayBuiltin ← Value.setting "overlay_builtin" false Value.asBool? fields
  return { origin, path, overlayBuiltin }

end CatalogConfig

namespace RegistryConfig

open Toml (Value)

def preloadOfToml? (group : Value) : Option Bool := do
  let fields ← group.settings? ["preload"]
  Value.setting "preload" false Value.asBool? fields

def ofToml? (text : String) : Option RegistryConfig := do
  let root ← Toml.parse? text
  let catalog ← Value.setting "catalog" {} CatalogConfig.ofToml? root
  let preload ← Value.setting "registry" false preloadOfToml? root
  return { catalog, preload }

end RegistryConfig

end ScreenPattern
