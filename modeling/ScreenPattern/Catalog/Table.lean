import ScreenPattern.Catalog.Source

namespace ScreenPattern.CatalogTable

inductive Answer
  | literal (value : Json)
  | nothing
  | failure (reason : String)
  deriving Repr, DecidableEq

/-- The source of a table, which lists the keys of the rows as they come. -/
def source (name : String) (rows : List (ContractKey × Answer)) : CatalogSource where
  name := name
  entry key :=
    match rows.find? fun row => row.1 == key with
    | some (_, .failure reason) => .error (.malformed reason)
    | some (_, .literal value) => .ok (some value)
    | some (_, .nothing) | none => .ok none
  keys := rows.map (·.1)

end ScreenPattern.CatalogTable
