import ScreenPattern.Json.Record

namespace ScreenPattern

structure GeneratedText where
  title : String := ""
  subtitle : String := ""
  body : String := ""
  buttonLabels : List String := []
  formLabels : List String := []
  deriving Repr, DecidableEq

namespace GeneratedText

def ofJson? (j : Json) : Option GeneratedText := do
  let fields ← j.record? ["title", "subtitle", "body", "buttonLabels", "formLabels"]
  let title ← fields.defaulted "title" "" Json.asStr?
  let subtitle ← fields.defaulted "subtitle" "" Json.asStr?
  let body ← fields.defaulted "body" "" Json.asStr?
  let buttonLabels ← fields.defaulted "buttonLabels" [] Json.strings?
  let formLabels ← fields.defaulted "formLabels" [] Json.strings?
  return { title, subtitle, body, buttonLabels, formLabels }

def toJson (text : GeneratedText) : Json :=
  .obj [("body", .str text.body), ("buttonLabels", .ofStrings text.buttonLabels),
    ("formLabels", .ofStrings text.formLabels), ("subtitle", .str text.subtitle),
    ("title", .str text.title)]

end GeneratedText

end ScreenPattern
