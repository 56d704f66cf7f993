import ScreenPattern.Contract.Basic

namespace ScreenPattern

open Json (asStr? asUInt32? ofUInt32)

namespace SlotPosition

def ofJson? (j : Json) : Option SlotPosition := do
  let fields ← j.record? ["x", "y", "width", "height"]
  let x ← fields.required "x" asUInt32?
  let y ← fields.required "y" asUInt32?
  let width ← fields.required "width" asUInt32?
  let height ← fields.optional "height" asUInt32?
  return { x, y, width, height }

def toJson (p : SlotPosition) : Json :=
  .obj (Fields.entry? "height" ofUInt32 p.height ++
    [("width", ofUInt32 p.width), ("x", ofUInt32 p.x), ("y", ofUInt32 p.y)])

end SlotPosition

namespace Arrangement

/-- Which arrangement a layout has: named by its kind, or by its place among the kinds. -/
def isGrid? : Json → Option Bool
  | .str "grid" | .int 0 => some true
  | .str "flex" | .int 1 => some false
  | _ => none

def ofFields? (fields : Fields Json) : Option Arrangement := do
  if ← fields.required "structure" isGrid? then
    (fields.required "gridTemplate" asStr?).map grid
  else
    (fields.required "flexDirection" Tokens.ofNestedJson?).map flex

def toFields : Arrangement → Fields Json
  | grid template => [("gridTemplate", .str template), ("structure", .str "grid")]
  | flex direction => [("flexDirection", Tokens.toJson direction), ("structure", .str "flex")]

end Arrangement

namespace Layout

def ofJson? (j : Json) : Option Layout := do
  let fields ← j.asObj?
  let positions ← fields.required "positions" (Json.dict? SlotPosition.ofJson?)
  let arrangement ← Arrangement.ofFields? fields
  return { arrangement, positions }

def toJson (layout : Layout) : Json :=
  .obj (layout.arrangement.toFields ++
    [("positions", .obj (layout.positions.map fun p => (p.1, p.2.toJson)))])

end Layout

namespace Slots

def ofJson? (j : Json) : Option Slots := do
  let fields ← j.record? ["required", "optional"]
  let required ← fields.required "required" Json.strings?
  let optional ← fields.defaulted "optional" [] Json.strings?
  return { required, optional }

def toJson (slots : Slots) : Json :=
  .obj [("optional", .ofStrings slots.optional), ("required", .ofStrings slots.required)]

end Slots

namespace Spacing

def ofJson? (j : Json) : Option Spacing := do
  let fields ← j.record? ["padding", "gap"]
  let padding ← fields.required "padding" asUInt32?
  let gap ← fields.required "gap" asUInt32?
  return { padding, gap }

def toJson (spacing : Spacing) : Json :=
  .obj [("gap", ofUInt32 spacing.gap), ("padding", ofUInt32 spacing.padding)]

end Spacing

namespace Override

def ofJson? (j : Json) : Option Override := do
  let fields ← j.record? ["padding", "gap", "gridTemplate"]
  let padding ← fields.optional "padding" asUInt32?
  let gap ← fields.optional "gap" asUInt32?
  let gridTemplate ← fields.optional "gridTemplate" asStr?
  return { padding, gap, gridTemplate }

def toJson (override : Override) : Json :=
  .obj (Fields.entry? "gap" ofUInt32 override.gap ++
    Fields.entry? "gridTemplate" Json.str override.gridTemplate ++
    Fields.entry? "padding" ofUInt32 override.padding)

end Override

namespace Responsive

def ofJson? (j : Json) : Option Responsive := do
  let fields ← j.record? names
  let mobile ← fields.optional "mobile" Override.ofJson?
  let tablet ← fields.optional "tablet" Override.ofJson?
  let desktop ← fields.optional "desktop" Override.ofJson?
  return { mobile, tablet, desktop }

def toJson (responsive : Responsive) : Json :=
  .obj (Fields.entry? "desktop" Override.toJson responsive.desktop ++
    Fields.entry? "mobile" Override.toJson responsive.mobile ++
    Fields.entry? "tablet" Override.toJson responsive.tablet)

end Responsive

namespace Placement

def ofJson? (j : Json) : Option Placement := do
  let fields ← j.record? ["position", "size"]
  let position ← fields.required "position" Tokens.ofJson?
  let size ← fields.required "size" Tokens.ofJson?
  return { position, size }

def toJson (placement : Placement) : Json :=
  .obj [("position", Tokens.toJson placement.position), ("size", Tokens.toJson placement.size)]

end Placement

namespace ImagePlacement

def ofJson? (j : Json) : Option ImagePlacement := do
  let fields ← j.record? ["hero", "supporting"]
  let hero ← fields.optional "hero" Placement.ofJson?
  let supporting ← fields.defaulted "supporting" [] (Json.list? Placement.ofJson?)
  return { hero, supporting }

def toJson (images : ImagePlacement) : Json :=
  .obj (Fields.entry? "hero" Placement.toJson images.hero ++
    Fields.entryOfList "supporting" Placement.toJson images.supporting)

end ImagePlacement

namespace Contract

def ofJson? (j : Json) : Option Contract := do
  let fields ← j.record? ["family", "variant", "name", "version", "layout", "componentSlots",
    "spacing", "responsive", "imagePlacement"]
  let family ← fields.required "family" Tokens.ofJson?
  let variant ← fields.required "variant" Variant.ofJson?
  let name ← fields.required "name" asStr?
  let version ← fields.required "version" asStr?
  let layout ← fields.required "layout" Layout.ofJson?
  let slots ← fields.required "componentSlots" Slots.ofJson?
  let spacing ← fields.required "spacing" Spacing.ofJson?
  let responsive ← fields.defaulted "responsive" {} Responsive.ofJson?
  let images ← fields.required "imagePlacement" ImagePlacement.ofJson?
  return { family, variant, name, version, layout, slots, spacing, responsive, images }

def toJson (contract : Contract) : Json :=
  .obj ([("componentSlots", contract.slots.toJson), ("family", Tokens.toJson contract.family),
      ("imagePlacement", contract.images.toJson), ("layout", contract.layout.toJson),
      ("name", .str contract.name)] ++
    (if contract.responsive.isEmpty then [] else [("responsive", contract.responsive.toJson)]) ++
    [("spacing", contract.spacing.toJson), ("variant", contract.variant.toJson),
      ("version", .str contract.version)])

end Contract

end ScreenPattern
