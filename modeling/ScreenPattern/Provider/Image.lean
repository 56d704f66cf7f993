import ScreenPattern.Digest.ContentHash
import ScreenPattern.Document.Codec

namespace ScreenPattern

open Json (asStr? asInt64? ofInt64)
open Digest (FieldValue)

structure GeneratedImage where
  /-- The id in the image store, if the store has the image. -/
  imageId : Option String := none
  url : String
  prompt : Option String := none
  seed : Option Int64 := none
  aspectRatio : Option String := none
  style : Option String := none
  palette : ExtractedPalette
  vibe : Option Vibe := none
  deriving Repr, DecidableEq

namespace GeneratedImage

/-- What distinguishes images that are not in the store. -/
def hashFields (image : GeneratedImage) : List (String × FieldValue) :=
  [("image_id", .ofText? image.imageId), ("url", .text image.url),
    ("prompt", .ofText? image.prompt), ("seed", .ofInteger? image.seed)]

/-- The id in the store, or else one derived from the content. A blank id is no id. -/
def documentId (image : GeneratedImage) : String :=
  (image.imageId.filter fun id => !Text.isBlank id).getD
    (Digest.shortId "img" (Digest.contentHash image.hashFields))

def toRef (image : GeneratedImage) : ImageRef where
  id := image.documentId
  url := image.url
  prompt := image.prompt
  seed := image.seed
  aspectRatio := image.aspectRatio
  style := image.style
  palette := some image.palette
  vibe := image.vibe

def ofJson? (j : Json) : Option GeneratedImage := do
  let fields ← j.record? ["imageId", "url", "prompt", "seed", "aspectRatio", "style", "palette",
    "vibe"]
  let imageId ← fields.optional "imageId" asStr?
  let url ← fields.required "url" asStr?
  let prompt ← fields.optional "prompt" asStr?
  let seed ← fields.optional "seed" asInt64?
  let aspectRatio ← fields.optional "aspectRatio" asStr?
  let style ← fields.optional "style" asStr?
  let palette ← fields.required "palette" ExtractedPalette.ofJson?
  let vibe ← fields.optional "vibe" Tokens.ofJson?
  return { imageId, url, prompt, seed, aspectRatio, style, palette, vibe }

def toJson (image : GeneratedImage) : Json :=
  .obj (Fields.entry? "aspectRatio" Json.str image.aspectRatio ++
    Fields.entry? "imageId" Json.str image.imageId ++ [("palette", image.palette.toJson)] ++
    Fields.entry? "prompt" Json.str image.prompt ++ Fields.entry? "seed" ofInt64 image.seed ++
    Fields.entry? "style" Json.str image.style ++ [("url", .str image.url)] ++
    Fields.entry? "vibe" Tokens.toJson image.vibe)

end GeneratedImage

end ScreenPattern
