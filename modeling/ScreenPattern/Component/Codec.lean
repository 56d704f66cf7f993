import ScreenPattern.Component.Basic

/-!
Components as JSON: tagged by kind, with the properties left out when there are none. An open
property that has the name of a typed one is written in its place.
-/

namespace ScreenPattern

open Json (asStr?)

namespace TextProps

def declared : List String := ["align"]

def ofJson? (j : Json) : Option TextProps := do
  let fields ← j.asObj?
  let align ← fields.optional "align" Tokens.ofNestedJson?
  return { align, extra := fields.without declared }

def toFields (props : TextProps) : Fields Json :=
  Fields.beside (Fields.entry? "align" Tokens.toJson props.align) props.extra

end TextProps

namespace ButtonProps

def declared : List String := ["variant", "size"]

def ofJson? (j : Json) : Option ButtonProps := do
  let fields ← j.asObj?
  let style ← fields.optional "variant" Tokens.ofNestedJson?
  let size ← fields.optional "size" Tokens.ofNestedJson?
  return { style, size, extra := fields.without declared }

def toFields (props : ButtonProps) : Fields Json :=
  Fields.beside (Fields.entry? "variant" Tokens.toJson props.style ++
    Fields.entry? "size" Tokens.toJson props.size) props.extra

end ButtonProps

namespace FormProps

def declared : List String := ["fields", "submit_label"]

def ofJson? (j : Json) : Option FormProps := do
  let entries ← j.asObj?
  let fields ← entries.defaulted "fields" [] (Json.list? FormField.ofNestedJson?)
  let submitLabel ← entries.optional "submit_label" asStr?
  return { fields, submitLabel, extra := entries.without declared }

def toFields (props : FormProps) : Fields Json :=
  Fields.beside (Fields.entryOfList "fields" FormField.toJson props.fields ++
    Fields.entry? "submit_label" Json.str props.submitLabel) props.extra

end FormProps

namespace ImageProps

def declared : List String := ["alt"]

def ofJson? (j : Json) : Option ImageProps := do
  let fields ← j.asObj?
  let alt ← fields.optional "alt" asStr?
  return { alt, extra := fields.without declared }

def toFields (props : ImageProps) : Fields Json :=
  Fields.beside (Fields.entry? "alt" Json.str props.alt) props.extra

end ImageProps

namespace Component

/-- The typed form of a component, if its tag, its content and its properties are well formed. -/
def ofJson? (j : Json) : Option Component := do
  let (tag, fields) ← j.tagged? "type" fun _ => ["content", "props"]
  let kind : ComponentKind ← Tokens.ofToken? tag
  let content ← fields.required "content" asStr?
  match kind with
  | .title => (fields.defaulted "props" {} TextProps.ofJson?).map (title content)
  | .subtitle => (fields.defaulted "props" {} TextProps.ofJson?).map (subtitle content)
  | .button => (fields.defaulted "props" {} ButtonProps.ofJson?).map (button content)
  | .form => (fields.defaulted "props" {} FormProps.ofJson?).map (form content)
  | .text => (fields.defaulted "props" {} TextProps.ofJson?).map (text content)
  | .image => (fields.defaulted "props" {} ImageProps.ofJson?).map (image content)

def propFields : Component → Fields Json
  | title _ props | subtitle _ props | text _ props => props.toFields
  | button _ props => props.toFields
  | form _ props => props.toFields
  | image _ props => props.toFields

def toJson (c : Component) : Json :=
  .obj ([("content", .str c.content)] ++ Fields.entryOfFields "props" c.propFields ++
    [("type", Tokens.toJson c.kind)])

end Component

end ScreenPattern
