import ScreenPattern.Component.Basic
import ScreenPattern.Palette
import ScreenPattern.Vocabulary.ContractKey

namespace ScreenPattern

structure ImageRef where
  id : String
  url : String
  prompt : Option String := none
  seed : Option Int64 := none
  aspectRatio : Option String := none
  style : Option String := none
  palette : Option ExtractedPalette := none
  vibe : Option Vibe := none
  deriving Repr, DecidableEq

inductive Navigation
  | internal (screenId : String)
  | external (url : String)
  deriving Repr, DecidableEq

structure Document where
  heroImage : Option ImageRef
  supportingImages : List ImageRef
  palette : Palette
  vibe : Vibe
  family : Family
  variant : Variant
  components : List Component
  navigation : Option Navigation
  animations : Fields Json
  metadata : Fields Json
  deriving Repr, DecidableEq

namespace Document

/-- The key of the contract that the document declares. -/
def key (document : Document) : ContractKey :=
  ⟨document.family, document.variant⟩

def kinds (document : Document) : List ComponentKind :=
  document.components.map Component.kind

end Document

end ScreenPattern
