import ScreenPattern.Json.Record

/-!
Colors and palettes. An extracted palette guarantees its primary color only; resolving it fills in
the others.
-/

namespace ScreenPattern

open Json (asStr?)

def isHexDigit (c : Char) : Bool :=
  c.isDigit || ('a' ≤ c && c ≤ 'f') || ('A' ≤ c && c ≤ 'F')

/-- A number sign and 3, 6 or 8 hexadecimal digits. -/
def isHexColor (s : String) : Bool :=
  match s.toList with
  | '#' :: digits => [3, 6, 8].contains digits.length && digits.all isHexDigit
  | _ => false

structure Palette where
  primary : String
  secondary : String
  accent : String
  background : String
  deriving Repr, DecidableEq

namespace Palette

def colors (palette : Palette) : List String :=
  [palette.primary, palette.secondary, palette.accent, palette.background]

def ofJson? (j : Json) : Option Palette := do
  let fields ← j.record? ["primary", "secondary", "accent", "background"]
  let primary ← fields.required "primary" asStr?
  let secondary ← fields.required "secondary" asStr?
  let accent ← fields.required "accent" asStr?
  let background ← fields.required "background" asStr?
  return { primary, secondary, accent, background }

def toJson (palette : Palette) : Json :=
  .obj [("accent", .str palette.accent), ("background", .str palette.background),
    ("primary", .str palette.primary), ("secondary", .str palette.secondary)]

end Palette

/-- A palette as an image or a client supplies it. -/
structure ExtractedPalette where
  primary : String
  secondary : Option String := none
  accent : Option String := none
  background : Option String := none
  deriving Repr, DecidableEq

namespace ExtractedPalette

def colors (palette : ExtractedPalette) : List String :=
  palette.primary ::
    (palette.secondary.toList ++ palette.accent.toList ++ palette.background.toList)

/-- The palette with every color: secondary and accent are the primary color and the background is
white unless they are given. -/
def resolve (palette : ExtractedPalette) : Palette where
  primary := palette.primary
  secondary := palette.secondary.getD palette.primary
  accent := palette.accent.getD palette.primary
  background := palette.background.getD "#FFFFFF"

def ofJson? (j : Json) : Option ExtractedPalette := do
  let fields ← j.record? ["primary", "secondary", "accent", "background"]
  let primary ← fields.required "primary" asStr?
  let secondary ← fields.optional "secondary" asStr?
  let accent ← fields.optional "accent" asStr?
  let background ← fields.optional "background" asStr?
  return { primary, secondary, accent, background }

def toJson (palette : ExtractedPalette) : Json :=
  .obj (Fields.entry? "accent" Json.str palette.accent ++
    Fields.entry? "background" Json.str palette.background ++ [("primary", .str palette.primary)] ++
    Fields.entry? "secondary" Json.str palette.secondary)

end ExtractedPalette

end ScreenPattern
