import ScreenPattern.Component.Codec
import ScreenPattern.Document.Basic

namespace ScreenPattern

open Json (asStr? asInt64? ofInt64)

namespace ImageRef

def ofJson? (j : Json) : Option ImageRef := do
  let fields ← j.record? ["id", "url", "prompt", "seed", "aspect_ratio", "style", "palette", "vibe"]
  let id ← fields.required "id" asStr?
  let url ← fields.required "url" asStr?
  let prompt ← fields.optional "prompt" asStr?
  let seed ← fields.optional "seed" asInt64?
  let aspectRatio ← fields.optional "aspect_ratio" asStr?
  let style ← fields.optional "style" asStr?
  let palette ← fields.optional "palette" ExtractedPalette.ofJson?
  let vibe ← fields.optional "vibe" Tokens.ofJson?
  return { id, url, prompt, seed, aspectRatio, style, palette, vibe }

def toJson (image : ImageRef) : Json :=
  .obj (Fields.entry? "aspect_ratio" Json.str image.aspectRatio ++ [("id", .str image.id)] ++
    Fields.entry? "palette" ExtractedPalette.toJson image.palette ++
    Fields.entry? "prompt" Json.str image.prompt ++ Fields.entry? "seed" ofInt64 image.seed ++
    Fields.entry? "style" Json.str image.style ++ [("url", .str image.url)] ++
    Fields.entry? "vibe" Tokens.toJson image.vibe)

end ImageRef

namespace Navigation

/-- The screen, which a client may give under either of two names but not under both. -/
def screenId? (fields : Fields Json) : Option (Option Json) :=
  match fields.get? "screenId", fields.get? "screen_id" with
  | some _, some _ => none
  | some j, none | none, some j => some (some j)
  | none, none => some none

def ofJson? (j : Json) : Option Navigation := do
  let (tag, fields) ← j.tagged? "type" fun tag =>
    if tag == "internal" then ["screenId"] else ["url"]
  match tag with
  | "internal" => ((← screenId? fields).bind asStr?).map internal
  | "external" => (fields.required "url" asStr?).map external
  | _ => none

def toJson : Navigation → Json
  | internal screenId => .obj [("screenId", .str screenId), ("type", .str "internal")]
  | external url => .obj [("type", .str "external"), ("url", .str url)]

end Navigation

namespace Document

def ofJson? (j : Json) : Option Document := do
  let fields ← j.record? ["hero_image", "supporting_images", "palette", "vibe", "pattern_family",
    "pattern_variant", "components", "navigation", "animations", "metadata"]
  let heroImage ← fields.optional "hero_image" ImageRef.ofJson?
  let supportingImages ← fields.defaulted "supporting_images" [] (Json.list? ImageRef.ofJson?)
  let palette ← fields.required "palette" Palette.ofJson?
  let vibe : Vibe ← fields.required "vibe" Tokens.ofJson?
  let family : Family ← fields.required "pattern_family" Tokens.ofJson?
  let variant ← fields.required "pattern_variant" Variant.ofJson?
  let components ← fields.required "components" (Json.list? Component.ofJson?)
  let navigation ← fields.optional "navigation" Navigation.ofJson?
  let animations ← fields.defaulted "animations" [] Json.asObj?
  let metadata ← fields.defaulted "metadata" [] Json.asObj?
  return ⟨heroImage, supportingImages, palette, vibe, family, variant, components, navigation,
    animations, metadata⟩

def toJson (document : Document) : Json :=
  .obj (Fields.entryOfFields "animations" document.animations ++
    [("components", .arr (document.components.map Component.toJson))] ++
    Fields.entry? "hero_image" ImageRef.toJson document.heroImage ++
    Fields.entryOfFields "metadata" document.metadata ++
    Fields.entry? "navigation" Navigation.toJson document.navigation ++
    [("palette", document.palette.toJson), ("pattern_family", Tokens.toJson document.family),
      ("pattern_variant", document.variant.toJson)] ++
    Fields.entryOfList "supporting_images" ImageRef.toJson document.supportingImages ++
    [("vibe", Tokens.toJson document.vibe)])

end Document

end ScreenPattern
