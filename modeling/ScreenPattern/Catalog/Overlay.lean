import ScreenPattern.Ascending
import ScreenPattern.Catalog.Source

/-!
Overlays. The fallback answers for the keys at which the primary source has nothing.
-/

namespace ScreenPattern.CatalogSource

def overlay (primary fallback : CatalogSource) : CatalogSource where
  name := primary.name ++ "+" ++ fallback.name
  entry key :=
    match primary.entry key with
    | .ok none => fallback.entry key
    | answer => answer
  keys := ascending (fun a b => a ≤ b) (primary.keys ++ fallback.keys)

end ScreenPattern.CatalogSource
