import ScreenPattern.Document.Codec

namespace ScreenPattern

inductive NavigationKind
  | internal
  | external
  deriving Repr, DecidableEq

instance : Tokens NavigationKind where
  all := [.internal, .external]
  token
    | .internal => "internal"
    | .external => "external"

structure NavigationInput where
  kind : NavigationKind
  screenId : Option String := none
  url : Option String := none
  deriving Repr, DecidableEq

namespace NavigationInput

def internal (screenId : String) : NavigationInput :=
  { kind := .internal, screenId := some screenId }

def external (url : String) : NavigationInput :=
  { kind := .external, url := some url }

/-- The navigation of a document, with its target trimmed. Without a target there is none. -/
def normalize (input : NavigationInput) : Option Navigation :=
  match input.kind with
  | .internal => (input.screenId.bind Text.filled?).map Navigation.internal
  | .external => (input.url.bind Text.filled?).map Navigation.external

def ofJson? (j : Json) : Option NavigationInput := do
  let fields ← j.record? ["type", "screenId", "url"]
  let kind ← fields.required "type" Tokens.ofJson?
  let screenId ← match ← Navigation.screenId? fields with
    | none | some .null => some none
    | some value => value.asStr?.map some
  let url ← fields.optional "url" Json.asStr?
  return { kind, screenId, url }

def toJson (input : NavigationInput) : Json :=
  .obj (Fields.entry? "screenId" Json.str input.screenId ++ [("type", Tokens.toJson input.kind)] ++
    Fields.entry? "url" Json.str input.url)

end NavigationInput

end ScreenPattern
