import ScreenPattern.Contract.Codec
import ScreenPattern.Proofs.ValueReading

namespace ScreenPattern.Proofs.ContractReading

open FieldReading ValueReading
open Fields (get?)

instance : LawfulTokens FlexDirection := ⟨fun a => by cases a <;> rfl⟩

instance : LawfulTokens ImagePosition := ⟨fun a => by cases a <;> rfl⟩

instance : LawfulTokens ImageSize := ⟨fun a => by cases a <;> rfl⟩

theorem reads_uint32 : Reads Json.asUInt32? Json.ofUInt32 :=
  ⟨fun n => by simp [Json.asUInt32?, Json.ofUInt32], fun _ => nofun⟩

theorem reads_strings : Reads Json.strings? Json.ofStrings :=
  ⟨fun _ => list?_arr fun s _ => reads_str.read_encode s, fun _ => nofun⟩

theorem reads_slotPosition : Reads SlotPosition.ofJson? SlotPosition.toJson := by
  refine ⟨fun position => ?_, fun _ => nofun⟩
  let fields : Fields Json := Fields.entry? "height" Json.ofUInt32 position.height ++
    [("width", .ofUInt32 position.width), ("x", .ofUInt32 position.x),
      ("y", .ofUInt32 position.y)]
  have hx : fields.required "x" Json.asUInt32? = some position.x :=
    required_eq reads_uint32 (by simp [fields])
  have hy : fields.required "y" Json.asUInt32? = some position.y :=
    required_eq reads_uint32 (by simp [fields])
  have hwidth : fields.required "width" Json.asUInt32? = some position.width :=
    required_eq reads_uint32 (by simp [fields])
  have hheight : Fields.optional "height" Json.asUInt32? fields = some position.height :=
    optional_eq reads_uint32 (by simp [fields])
  change SlotPosition.ofJson? (.obj fields) = some position
  simp [SlotPosition.ofJson?, Json.record?, hx, hy, hwidth, hheight]

theorem ofFields?_arrangement (arrangement : Arrangement) (rest : Fields Json) :
    Arrangement.ofFields? (arrangement.toFields ++ rest) = some arrangement := by
  cases arrangement with
  | grid template => rfl
  | flex direction =>
      have hdirection : Tokens.ofNestedJson? (Tokens.toJson direction) = some direction :=
        reads_nestedToken.read_encode direction
      simp [Arrangement.ofFields?, Arrangement.toFields, Fields.required, Arrangement.isGrid?,
        hdirection]

theorem reads_layout : Reads Layout.ofJson? Layout.toJson := by
  refine ⟨fun layout => ?_, fun _ => nofun⟩
  have habsent : get? "positions" layout.arrangement.toFields = none := by
    cases layout.arrangement with
    | grid template => rfl
    | flex direction => rfl
  have hpositions : Fields.required "positions" (Json.dict? SlotPosition.ofJson?)
      (layout.arrangement.toFields ++
        [("positions", .obj (layout.positions.map fun p => (p.1, p.2.toJson)))]) =
      some layout.positions := by
    rw [Fields.required, get?_append, habsent]
    exact dict?_obj reads_slotPosition layout.positions
  simp [Layout.ofJson?, Layout.toJson, Json.asObj?, hpositions, ofFields?_arrangement]

theorem reads_slots : Reads Slots.ofJson? Slots.toJson := by
  refine ⟨fun slots => ?_, fun _ => nofun⟩
  let fields : Fields Json :=
    [("optional", .ofStrings slots.optional), ("required", .ofStrings slots.required)]
  have hrequired : fields.required "required" Json.strings? = some slots.required :=
    required_eq reads_strings (by simp [fields])
  have hoptional : fields.defaulted "optional" [] Json.strings? = some slots.optional :=
    (defaulted_eq_some rfl).trans (reads_strings.read_encode _)
  change Slots.ofJson? (.obj fields) = some slots
  simp [Slots.ofJson?, Json.record?, hrequired, hoptional]

theorem reads_spacing : Reads Spacing.ofJson? Spacing.toJson := by
  refine ⟨fun spacing => ?_, fun _ => nofun⟩
  simp [Spacing.ofJson?, Spacing.toJson, Json.record?, Fields.required, reads_uint32.read_encode]

theorem reads_override : Reads Override.ofJson? Override.toJson := by
  refine ⟨fun change => ?_, fun _ => nofun⟩
  let fields : Fields Json := Fields.entry? "gap" Json.ofUInt32 change.gap ++
    Fields.entry? "gridTemplate" Json.str change.gridTemplate ++
    Fields.entry? "padding" Json.ofUInt32 change.padding
  have hpadding : Fields.optional "padding" Json.asUInt32? fields = some change.padding :=
    optional_eq reads_uint32 (by simp [fields])
  have hgap : Fields.optional "gap" Json.asUInt32? fields = some change.gap :=
    optional_eq reads_uint32 (by simp [fields])
  have htemplate : Fields.optional "gridTemplate" Json.asStr? fields =
      some change.gridTemplate :=
    optional_eq reads_str (by simp [fields])
  change Override.ofJson? (.obj fields) = some change
  simp [Override.ofJson?, Json.record?, hpadding, hgap, htemplate]

theorem reads_responsive : Reads Responsive.ofJson? Responsive.toJson := by
  refine ⟨fun responsive => ?_, fun _ => nofun⟩
  let fields : Fields Json := Fields.entry? "desktop" Override.toJson responsive.desktop ++
    Fields.entry? "mobile" Override.toJson responsive.mobile ++
    Fields.entry? "tablet" Override.toJson responsive.tablet
  have hmobile : Fields.optional "mobile" Override.ofJson? fields = some responsive.mobile :=
    optional_eq reads_override (by simp [fields])
  have htablet : Fields.optional "tablet" Override.ofJson? fields = some responsive.tablet :=
    optional_eq reads_override (by simp [fields])
  have hdesktop : Fields.optional "desktop" Override.ofJson? fields = some responsive.desktop :=
    optional_eq reads_override (by simp [fields])
  change Responsive.ofJson? (.obj fields) = some responsive
  simp [Responsive.ofJson?, Json.record?, hmobile, htablet, hdesktop]

theorem eq_empty_of_isEmpty {responsive : Responsive} (h : responsive.isEmpty = true) :
    responsive = {} := by
  obtain ⟨mobile, tablet, desktop⟩ := responsive
  simpa [Responsive.isEmpty, and_assoc] using h

theorem reads_placement : Reads Placement.ofJson? Placement.toJson := by
  refine ⟨fun placement => ?_, fun _ => nofun⟩
  have hposition : Tokens.ofJson? (Tokens.toJson placement.position) = some placement.position :=
    reads_token.read_encode _
  have hsize : Tokens.ofJson? (Tokens.toJson placement.size) = some placement.size :=
    reads_token.read_encode _
  simp [Placement.ofJson?, Placement.toJson, Json.record?, Fields.required, hposition, hsize]

theorem reads_imagePlacement : Reads ImagePlacement.ofJson? ImagePlacement.toJson := by
  refine ⟨fun images => ?_, fun _ => nofun⟩
  let fields : Fields Json := Fields.entry? "hero" Placement.toJson images.hero ++
    Fields.entryOfList "supporting" Placement.toJson images.supporting
  have hhero : Fields.optional "hero" Placement.ofJson? fields = some images.hero :=
    optional_eq reads_placement (by simp [fields])
  have hsupporting : fields.defaulted "supporting" [] (Json.list? Placement.ofJson?) =
      some images.supporting :=
    defaulted_list_eq (fun placement _ => reads_placement.read_encode placement)
      (by simp [fields])
  change ImagePlacement.ofJson? (.obj fields) = some images
  simp [ImagePlacement.ofJson?, Json.record?, hhero, hsupporting]

theorem reads_contract : Reads Contract.ofJson? Contract.toJson := by
  refine ⟨fun contract => ?_, fun _ => nofun⟩
  let fields : Fields Json :=
    [("componentSlots", contract.slots.toJson), ("family", Tokens.toJson contract.family),
      ("imagePlacement", contract.images.toJson), ("layout", contract.layout.toJson),
      ("name", .str contract.name)] ++
    (if contract.responsive.isEmpty then [] else [("responsive", contract.responsive.toJson)]) ++
    [("spacing", contract.spacing.toJson), ("variant", contract.variant.toJson),
      ("version", .str contract.version)]
  have hfamily : fields.required "family" Tokens.ofJson? = some contract.family :=
    required_eq reads_token (by simp [fields])
  have hvariant : fields.required "variant" Variant.ofJson? = some contract.variant :=
    required_eq reads_variant (by simp [fields])
  have hname : fields.required "name" Json.asStr? = some contract.name :=
    required_eq reads_str (by simp [fields])
  have hversion : fields.required "version" Json.asStr? = some contract.version :=
    required_eq reads_str (by simp [fields])
  have hlayout : fields.required "layout" Layout.ofJson? = some contract.layout :=
    required_eq reads_layout (by simp [fields])
  have hslots : fields.required "componentSlots" Slots.ofJson? = some contract.slots :=
    required_eq reads_slots (by simp [fields])
  have hspacing : fields.required "spacing" Spacing.ofJson? = some contract.spacing :=
    required_eq reads_spacing (by simp [fields])
  have himages : fields.required "imagePlacement" ImagePlacement.ofJson? =
      some contract.images :=
    required_eq reads_imagePlacement (by simp [fields])
  have hresponsive : fields.defaulted "responsive" {} Responsive.ofJson? =
      some contract.responsive := by
    cases hempty : contract.responsive.isEmpty with
    | true =>
        rw [defaulted_eq_none (by simp [fields, hempty]), eq_empty_of_isEmpty hempty]
    | false =>
        have hget : get? "responsive" fields = some contract.responsive.toJson := by
          simp [fields, hempty]
        rw [defaulted_eq_some hget]
        exact reads_responsive.read_encode _
  change Contract.ofJson? (.obj fields) = some contract
  simp [Contract.ofJson?, Json.record?, hfamily, hvariant, hname, hversion, hlayout, hslots,
    hspacing, hresponsive, himages]

end ScreenPattern.Proofs.ContractReading
