import ScreenPattern.Vocabulary.Basic

/-!
Slot names. Each component kind may occupy the slots listed for it, whose first is the kind's own
name, and no slot name is listed twice.
-/

namespace ScreenPattern.Slot

def synonyms : ComponentKind → List String
  | .title => ["title", "heading", "headline"]
  | .subtitle => ["subtitle", "subheading", "tagline"]
  | .button => ["button", "cta", "action"]
  | .form => ["form", "input", "fields"]
  | .text => ["text", "body", "description"]
  | .image => ["image", "media", "illustration"]

/-- The kind that may occupy a slot. White space around the name does not count. -/
def kind? (slot : String) : Option ComponentKind :=
  Tokens.all.find? fun kind => (synonyms kind).contains (Text.trim slot)

end ScreenPattern.Slot
