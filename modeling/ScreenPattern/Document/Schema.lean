import ScreenPattern.Document.Codec
import ScreenPattern.Report

/-!
The schema of raw documents, independent of any contract. The walk reports every defect under the
path that the client wrote. `null` counts as absence. Each function gives the issues of one part,
and no part looks at another.
-/

namespace ScreenPattern.Document

inductive Failure
  | fieldMissing
  | fieldInvalid
  | hexInvalid
  | enumInvalid
  | variantOutOfRange
  | componentsEmpty
  | navigationInvalid
  deriving Repr, DecidableEq

def Failure.name : Failure → String
  | fieldMissing => "document_field_missing"
  | fieldInvalid => "document_field_invalid"
  | hexInvalid => "document_hex_invalid"
  | enumInvalid => "document_enum_invalid"
  | variantOutOfRange => "document_variant_out_of_range"
  | componentsEmpty => "document_components_empty"
  | navigationInvalid => "document_navigation_invalid"

def Failure.at (failure : Failure) (path message : String) : Issue :=
  { failureClass := failure.name, path, message }

namespace Schema

open Text (quote)

/-- A text with something besides white space in it. -/
def isFilled (value : Option Json) : Bool :=
  (value.bind Json.asStr?).any fun s => !Text.isBlank s

def textIssues (fields : Fields Json) (key parent : String) : List Issue :=
  let path := Path.join parent key
  match fields.present? key with
  | none => [Failure.fieldMissing.at path (key ++ " is required")]
  | value =>
      if isFilled value then []
      else [Failure.fieldInvalid.at path (key ++ " must be a non-empty string")]

/-- A token of a vocabulary, with white space around it allowed. -/
def tokenIssues (α : Type) [Vocabulary α] (fields : Fields Json) (key parent : String)
    (required : Bool) : List Issue :=
  let path := Path.join parent key
  match fields.present? key with
  | none => if required then [Failure.fieldMissing.at path (key ++ " is required")] else []
  | some (.str token) =>
      if (Vocabulary.parse (α := α) token).isOk then []
      else [Failure.enumInvalid.at path (quote token ++ " is not a known " ++ key)]
  | some _ => [Failure.fieldInvalid.at path (key ++ " must be a string")]

def variantIssues (root : Fields Json) : List Issue :=
  match root.present? "pattern_variant" with
  | none => [Failure.fieldMissing.at "pattern_variant" "pattern_variant is required"]
  | some value =>
      match value.asNat? with
      | none => [Failure.fieldInvalid.at "pattern_variant" "pattern_variant must be an integer"]
      | some n =>
          if (Variant.ofNat? n).isSome then []
          else [Failure.variantOutOfRange.at "pattern_variant"
            ("pattern_variant " ++ toString n ++ " is outside " ++ toString Variant.min ++ "..="
              ++ toString Variant.max)]

def colorIssues (palette : Fields Json) (parent key : String) (required : Bool) : List Issue :=
  let path := Path.join parent key
  match palette.present? key with
  | none => if required then [Failure.fieldMissing.at path (key ++ " color is required")] else []
  | some (.str color) =>
      if isHexColor color then []
      else [Failure.hexInvalid.at path (quote color ++ " is not a hex color")]
  | some _ => [Failure.fieldInvalid.at path (key ++ " must be a hex color string")]

/-- A palette of which some colors are required and the others are not. -/
def paletteIssues (path : String) (required optional : List String) : Json → List Issue
  | .obj palette =>
      (required.flatMap fun key => colorIssues palette path key true) ++
        optional.flatMap fun key => colorIssues palette path key false
  | _ => [Failure.fieldInvalid.at path "palette must be an object"]

/-- A field that is a string if it is there at all. -/
def optionalTextIssues (image : Fields Json) (path key : String) : List Issue :=
  if (image.present? key).all fun v => v.asStr?.isSome then []
  else [Failure.fieldInvalid.at (Path.join path key) (key ++ " must be a string")]

def imageIssues (path : String) : Json → List Issue
  | .obj image =>
      textIssues image "id" path ++ textIssues image "url" path ++
        (["prompt", "aspect_ratio", "style"].flatMap (optionalTextIssues image path)) ++
        (if (Fields.present? "seed" image).all fun v => v.asInt64?.isSome then []
        else [Failure.fieldInvalid.at (Path.join path "seed") "seed must be an integer"]) ++
        (match Fields.present? "palette" image with
          | none => []
          | some palette =>
              paletteIssues (Path.join path "palette") ["primary"]
                ["secondary", "accent", "background"] palette) ++
        tokenIssues Vibe image "vibe" path false
  | _ => [Failure.fieldInvalid.at path "image must be an object"]

def heroIssues (root : Fields Json) : List Issue :=
  match root.present? "hero_image" with
  | none => [Failure.fieldMissing.at "hero_image" "hero_image is required"]
  | some image => imageIssues "hero_image" image

def supportingIssues (root : Fields Json) : List Issue :=
  match root.present? "supporting_images" with
  | none => []
  | some (.arr images) =>
      images.zipIdx.flatMap fun (image, i) => imageIssues (Path.index "supporting_images" i) image
  | some _ => [Failure.fieldInvalid.at "supporting_images" "supporting_images must be an array"]

def documentPaletteIssues (root : Fields Json) : List Issue :=
  match root.present? "palette" with
  | none => [Failure.fieldMissing.at "palette" "palette is required"]
  | some palette =>
      paletteIssues "palette" ["primary", "secondary", "accent", "background"] [] palette

/-- The kind, the content and the object that holds the properties. -/
def envelopeIssues (path : String) (component : Fields Json) : List Issue :=
  tokenIssues ComponentKind component "type" path true ++
    (match component.present? "content" with
      | some (.str _) => []
      | some _ =>
          [Failure.fieldInvalid.at (Path.join path "content") "content must be a string"]
      | none => [Failure.fieldMissing.at (Path.join path "content") "content is required"]) ++
    (match component.present? "props" with
      | none | some (.obj _) => []
      | some _ => [Failure.fieldInvalid.at (Path.join path "props") "props must be an object"])

/-- A component whose envelope is sound must have a typed form. -/
def componentIssues (path : String) (raw : Json) : List Issue :=
  match raw with
  | .obj component =>
      match envelopeIssues path component with
      | [] =>
          if (Component.ofJson? raw).isSome then []
          else [Failure.fieldInvalid.at (Path.join path "props")
            "props do not match the component kind: <serde>"]
      | found => found
  | _ => [Failure.fieldInvalid.at path "component must be an object"]

def componentsIssues (root : Fields Json) : List Issue :=
  match root.present? "components" with
  | none => [Failure.fieldMissing.at "components" "components is required"]
  | some (.arr []) => [Failure.componentsEmpty.at "components"
      "components must contain at least one component"]
  | some (.arr components) =>
      components.zipIdx.flatMap fun (c, i) => componentIssues (Path.index "components" i) c
  | some _ => [Failure.fieldInvalid.at "components" "components must be an array"]

/-- Internal navigation has a screen and no url; external navigation has a url and no screen. -/
def navigationIssues : Json → List Issue
  | .obj navigation =>
      let invalid := fun field message =>
        [Failure.navigationInvalid.at ("navigation." ++ field) message]
      let screenId := (Fields.present? "screenId" navigation).or
        (Fields.present? "screen_id" navigation)
      let url := Fields.present? "url" navigation
      match (Fields.get? "type" navigation).bind Json.asStr? with
      | some "internal" =>
          (if isFilled screenId then []
          else invalid "screenId" "internal navigation requires a non-empty screenId") ++
          (if url.isNone then []
          else invalid "url" "internal navigation must not carry a url")
      | some "external" =>
          (if isFilled url then []
          else invalid "url" "external navigation requires a non-empty url") ++
          (if screenId.isNone then []
          else invalid "screenId" "external navigation must not carry a screenId")
      | some other => invalid "type" (quote other ++ " is not internal or external")
      | none => invalid "type" "navigation.type is required"
  | _ => [Failure.navigationInvalid.at "navigation" "navigation must be an object"]

def bagIssues (root : Fields Json) (name : String) : List Issue :=
  match root.present? name with
  | none | some (.obj _) => []
  | some _ => [Failure.fieldInvalid.at name (name ++ " must be an object")]

def issues : Json → List Issue
  | .obj root =>
      heroIssues root ++ supportingIssues root ++ documentPaletteIssues root ++
        tokenIssues Vibe root "vibe" "" true ++
        tokenIssues Family root "pattern_family" "" true ++
        variantIssues root ++ componentsIssues root ++
        ((Fields.present? "navigation" root).elim [] navigationIssues) ++
        bagIssues root "animations" ++ bagIssues root "metadata"
  | _ => [Failure.fieldInvalid.at "" "document must be an object"]

end Schema

/-- The issue of a document in which the walk finds nothing but which has no typed form. -/
def unreadable : Issue :=
  Failure.fieldInvalid.at "" "document does not deserialize: <serde>"

def rawReport (raw : Json) : Report :=
  .ofIssues <| match Schema.issues raw with
    | [] => if (ofJson? raw).isSome then [] else [unreadable]
    | found => found

/-- The report on a typed document, by way of its JSON form. -/
def report (document : Document) : Report :=
  rawReport document.toJson

inductive ParseError
  | schemaInvalid (issues : List Issue)
  | unreadable
  deriving Repr, DecidableEq

def ParseError.message : ParseError → String
  | schemaInvalid issues => "document schema invalid: " ++ Issue.summary issues
  | unreadable => "document does not deserialize: <serde>"

def parse (raw : Json) : Except ParseError Document :=
  match Schema.issues raw with
  | [] => (ofJson? raw).elim (.error .unreadable) .ok
  | found => .error (.schemaInvalid (Report.ofIssues found).issues)

end ScreenPattern.Document
