import ScreenPattern.Contract.Loading

/-!
Catalog sources. A source maps contract keys to contract literals; it vouches for none of them. The
registry checks every literal that it takes from a source.
-/

namespace ScreenPattern

inductive FileFault
  | notFound
  | notDirectory
  | isDirectory
  | nameTooLong
  | nulInName
  | invalidUtf8
  deriving Repr, DecidableEq

def FileFault.message : FileFault → String
  | notFound => "No such file or directory (os error 2)"
  | notDirectory => "Not a directory (os error 20)"
  | isDirectory => "Is a directory (os error 21)"
  | nameTooLong => "File name too long (os error 36)"
  | nulInName => "file name contained an unexpected NUL byte"
  | invalidUtf8 => "stream did not contain valid UTF-8"

inductive CatalogError
  | unreadableFile (path : String) (fault : FileFault)
  | parseJson (path : String)
  | parseToml (path : String)
  | malformed (reason : String)
  | duplicateEntry (key : ContractKey)
  deriving Repr, DecidableEq

def CatalogError.message : CatalogError → String
  | unreadableFile path fault => "failed to read file: " ++ path ++ ": " ++ fault.message
  | parseJson path => "invalid json at " ++ path ++ ": <serde>"
  | parseToml path => "invalid toml at " ++ path ++ ": <toml>"
  | malformed reason => "catalog is malformed: " ++ reason
  | duplicateEntry key => "catalog declares " ++ toString key ++ " more than once"

/-- A mapping from contract keys to literals. -/
structure CatalogSource where
  name : String
  /-- The literal at a key, if the source has one. -/
  entry : ContractKey → Except CatalogError (Option Json)
  keys : List ContractKey

end ScreenPattern
