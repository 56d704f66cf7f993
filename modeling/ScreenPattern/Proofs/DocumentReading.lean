import ScreenPattern.Document.Schema
import ScreenPattern.Proofs.ComponentReading
import ScreenPattern.Proofs.ReportAcceptance

namespace ScreenPattern.Proofs.DocumentReading

open ComponentReading FieldReading ReportAcceptance ValueReading
open Fields (get?)

theorem reads_palette : Reads Palette.ofJson? Palette.toJson := by
  refine ⟨fun palette => ?_, fun _ => nofun⟩
  simp [Palette.ofJson?, Palette.toJson, Json.record?, Fields.required, Json.asStr?]

theorem reads_extractedPalette : Reads ExtractedPalette.ofJson? ExtractedPalette.toJson := by
  refine ⟨fun palette => ?_, fun _ => nofun⟩
  let fields : Fields Json := Fields.entry? "accent" Json.str palette.accent ++
    Fields.entry? "background" Json.str palette.background ++ [("primary", .str palette.primary)] ++
    Fields.entry? "secondary" Json.str palette.secondary
  have hprimary : fields.required "primary" Json.asStr? = some palette.primary :=
    required_eq reads_str (by simp [fields])
  have hsecondary : Fields.optional "secondary" Json.asStr? fields = some palette.secondary :=
    optional_eq reads_str (by simp [fields])
  have haccent : Fields.optional "accent" Json.asStr? fields = some palette.accent :=
    optional_eq reads_str (by simp [fields])
  have hbackground : Fields.optional "background" Json.asStr? fields = some palette.background :=
    optional_eq reads_str (by simp [fields])
  change ExtractedPalette.ofJson? (.obj fields) = some palette
  simp [ExtractedPalette.ofJson?, Json.record?, hprimary, hsecondary, haccent, hbackground]

theorem reads_imageRef : Reads ImageRef.ofJson? ImageRef.toJson := by
  refine ⟨fun image => ?_, fun _ => nofun⟩
  let fields : Fields Json := Fields.entry? "aspect_ratio" Json.str image.aspectRatio ++
    [("id", .str image.id)] ++ Fields.entry? "palette" ExtractedPalette.toJson image.palette ++
    Fields.entry? "prompt" Json.str image.prompt ++ Fields.entry? "seed" Json.ofInt64 image.seed ++
    Fields.entry? "style" Json.str image.style ++ [("url", .str image.url)] ++
    Fields.entry? "vibe" Tokens.toJson image.vibe
  have hid : fields.required "id" Json.asStr? = some image.id :=
    required_eq reads_str (by simp [fields])
  have hurl : fields.required "url" Json.asStr? = some image.url :=
    required_eq reads_str (by simp [fields])
  have hprompt : Fields.optional "prompt" Json.asStr? fields = some image.prompt :=
    optional_eq reads_str (by simp [fields])
  have hseed : Fields.optional "seed" Json.asInt64? fields = some image.seed :=
    optional_eq reads_int64 (by simp [fields])
  have hratio : Fields.optional "aspect_ratio" Json.asStr? fields = some image.aspectRatio :=
    optional_eq reads_str (by simp [fields])
  have hstyle : Fields.optional "style" Json.asStr? fields = some image.style :=
    optional_eq reads_str (by simp [fields])
  have hpalette : Fields.optional "palette" ExtractedPalette.ofJson? fields = some image.palette :=
    optional_eq reads_extractedPalette (by simp [fields])
  have hvibe : Fields.optional "vibe" Tokens.ofJson? fields = some image.vibe :=
    optional_eq reads_token (by simp [fields])
  change ImageRef.ofJson? (.obj fields) = some image
  simp [ImageRef.ofJson?, Json.record?, hid, hurl, hprompt, hseed, hratio, hstyle, hpalette, hvibe]

theorem reads_navigation : Reads Navigation.ofJson? Navigation.toJson := by
  refine ⟨fun navigation => ?_, fun navigation => by cases navigation <;> nofun⟩
  cases navigation with
  | internal screenId =>
      simp [Navigation.ofJson?, Navigation.toJson, Json.tagged?, Navigation.screenId?, Json.asStr?]
  | external url =>
      simp [Navigation.ofJson?, Navigation.toJson, Json.tagged?, Fields.required, Json.asStr?]

/-- All but the components reads as it was written, and they read as what is read of each. -/
theorem document_read_of_components {document : Document} {components : List Component}
    (hread : (document.components.map Component.toJson).mapM Component.ofJson? =
      some components) :
    Document.ofJson? document.toJson = some { document with components } := by
  let fields : Fields Json := Fields.entryOfFields "animations" document.animations ++
    [("components", .arr (document.components.map Component.toJson))] ++
    Fields.entry? "hero_image" ImageRef.toJson document.heroImage ++
    Fields.entryOfFields "metadata" document.metadata ++
    Fields.entry? "navigation" Navigation.toJson document.navigation ++
    [("palette", document.palette.toJson), ("pattern_family", Tokens.toJson document.family),
      ("pattern_variant", document.variant.toJson)] ++
    Fields.entryOfList "supporting_images" ImageRef.toJson document.supportingImages ++
    [("vibe", Tokens.toJson document.vibe)]
  have hhero : Fields.optional "hero_image" ImageRef.ofJson? fields = some document.heroImage :=
    optional_eq reads_imageRef (by simp [fields])
  have hsupporting : fields.defaulted "supporting_images" [] (Json.list? ImageRef.ofJson?) =
      some document.supportingImages :=
    defaulted_list_eq (fun image _ => reads_imageRef.read_encode image) (by simp [fields])
  have hpalette : fields.required "palette" Palette.ofJson? = some document.palette :=
    required_eq reads_palette (by simp [fields])
  have hvibe : fields.required "vibe" Tokens.ofJson? = some document.vibe :=
    required_eq reads_token (by simp [fields])
  have hfamily : fields.required "pattern_family" Tokens.ofJson? = some document.family :=
    required_eq reads_token (by simp [fields])
  have hvariant : fields.required "pattern_variant" Variant.ofJson? = some document.variant :=
    required_eq reads_variant (by simp [fields])
  have hcomponents : fields.required "components" (Json.list? Component.ofJson?) =
      some components := by
    simpa [fields, Fields.required, Json.list?] using hread
  have hnavigation : Fields.optional "navigation" Navigation.ofJson? fields =
      some document.navigation :=
    optional_eq reads_navigation (by simp [fields])
  have hanimations : fields.defaulted "animations" [] Json.asObj? = some document.animations :=
    defaulted_fields_eq (by simp [fields])
  have hmetadata : fields.defaulted "metadata" [] Json.asObj? = some document.metadata :=
    defaulted_fields_eq (by simp [fields])
  change Document.ofJson? (.obj fields) = _
  simp [Document.ofJson?, Json.record?, hhero, hsupporting, hpalette, hvibe, hfamily, hvariant,
    hcomponents, hnavigation, hanimations, hmetadata]

theorem document_read {document : Document} (hapart : ∀ c ∈ document.components, Apart c) :
    Document.ofJson? document.toJson = some document :=
  document_read_of_components (mapM_map_eq fun c hc => component_read_iff.mpr (hapart c hc))

theorem parse_eq_ok_iff (raw : Json) (document : Document) :
    Document.parse raw = .ok document ↔
      Document.Schema.issues raw = [] ∧ Document.ofJson? raw = some document := by
  unfold Document.parse
  cases Document.Schema.issues raw with
  | nil => cases Document.ofJson? raw <;> simp
  | cons issue rest => simp

theorem isAccepted_rawReport_iff (raw : Json) :
    (Document.rawReport raw).isAccepted = true ↔
      Document.Schema.issues raw = [] ∧ (Document.ofJson? raw).isSome = true := by
  rw [Document.rawReport, isAccepted_ofIssues_iff]
  cases Document.Schema.issues raw with
  | nil => cases Document.ofJson? raw <;> simp
  | cons issue rest => simp

/-- A document whose open properties keep off the names of typed ones reads back from its JSON form
as it was, and the JSON form parses as the document exactly if the document is accepted. -/
theorem ofJson?_toJson_and_parse_iff (document : Document)
    (hapart : ∀ c ∈ document.components, Apart c) :
    Document.ofJson? document.toJson = some document ∧
    (Document.parse document.toJson = .ok document ↔ document.report.isAccepted = true) := by
  have hread := document_read hapart
  refine ⟨hread, ?_⟩
  rw [parse_eq_ok_iff, Document.report, isAccepted_rawReport_iff, hread]
  simp

/-- A document with typed and open properties side by side, and with every kind of component. -/
def signUp : Document where
  heroImage := some
    { id := "hero", url := "https://cdn.example/hero.png", seed := some (-7)
      palette := some { primary := "#123456", accent := some "#abc" }, vibe := some .bold }
  supportingImages := [{ id := "side", url := "https://cdn.example/side.png" }]
  palette := ⟨"#112233", "#445566", "#778899", "#FFFFFF"⟩
  vibe := .modern
  family := .actionFormMinimal
  variant := .first
  components :=
    [.title "Join" { align := some .center, extra := [("level", .int 1)] }, .subtitle "Today" {},
      .button "Go" { size := some .large, extra := [("icon", .obj [("align", .null)])] },
      .form "Email" { fields := [.ofLabel "Email"], submitLabel := some "Send" },
      .text "" { extra := [("size", .arr [.real "0.5"])] }, .image "logo.png" { alt := some "" }]
  navigation := some (.external "https://example.com")
  animations := [("enter", .str "fade")]
  metadata := []

theorem signUp_ofJson?_toJson_and_parse_iff :
    (∀ c ∈ signUp.components, Apart c) ∧ signUp.report.isAccepted = true ∧
    Document.ofJson? signUp.toJson = some signUp ∧ Document.parse signUp.toJson = .ok signUp := by
  have hapart : ∀ c ∈ signUp.components, Apart c := by decide +kernel
  have haccepted : signUp.report.isAccepted = true :=
    (isAccepted_rawReport_iff _).mpr (by decide +kernel)
  obtain ⟨hread, hparse⟩ := ofJson?_toJson_and_parse_iff signUp hapart
  exact ⟨hapart, haccepted, hread, hparse.mpr haccepted⟩

end ScreenPattern.Proofs.DocumentReading
