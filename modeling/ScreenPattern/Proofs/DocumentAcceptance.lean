import ScreenPattern.Proofs.DocumentReading
import ScreenPattern.Proofs.SchemaWalk

/-!
Which documents the schema accepts, said of the typed document. What can be read from a raw document
in which the walk finds nothing is well formed, and in the JSON form of a well-formed document the
walk finds nothing.
-/

namespace ScreenPattern.Proofs.DocumentAcceptance

open ComponentReading DocumentReading FieldReading SchemaWalk ValueReading
open Fields (get? present?)

structure WellFormedImage (image : ImageRef) : Prop where
  id : Text.isBlank image.id = false
  url : Text.isBlank image.url = false
  colors : ∀ palette, image.palette = some palette →
    ∀ color ∈ palette.colors, isHexColor color = true

/-- Where navigation leads to: a screen or a url. -/
def target : Navigation → String
  | .internal screenId => screenId
  | .external url => url

structure WellFormed (document : Document) : Prop where
  hero : ∃ image, document.heroImage = some image ∧ WellFormedImage image
  supporting : ∀ image ∈ document.supportingImages, WellFormedImage image
  colors : ∀ color ∈ document.palette.colors, isHexColor color = true
  components : document.components ≠ []
  navigation : ∀ navigation, document.navigation = some navigation →
    Text.isBlank (target navigation) = false

variable {fields : Fields Json} {key : String}

theorem isBlank_of_required {s : String} (h : Has fields key IsText)
    (hread : fields.required key Json.asStr? = some s) : Text.isBlank s = false := by
  obtain ⟨_, ⟨_, rfl, hfilled⟩, hs⟩ := h.of_required hread
  cases hs
  exact hfilled

theorem isHexColor_of_required {s : String} (h : Has fields key IsColor)
    (hread : fields.required key Json.asStr? = some s) : isHexColor s = true := by
  obtain ⟨_, ⟨_, rfl, hcolor⟩, hs⟩ := h.of_required hread
  cases hs
  exact hcolor

theorem isHexColor_of_optional {value : Option String} (h : MayHave fields key IsColor)
    (hread : fields.optional key Json.asStr? = some value) :
    ∀ color ∈ value.toList, isHexColor color = true := by
  intro color hmem
  obtain rfl : value = some color := by simpa using hmem
  obtain ⟨_, ⟨_, rfl, hcolor⟩, hs⟩ := h.of_optional hread
  cases hs
  exact hcolor

theorem colors_of_palette {palette : Palette}
    (hclean : CleanPalette ["primary", "secondary", "accent", "background"] [] fields)
    (hread : Palette.ofJson? (.obj fields) = some palette) :
    ∀ color ∈ palette.colors, isHexColor color = true := by
  simp only [Palette.ofJson?, Json.record?, Option.bind_eq_bind, Option.bind_some,
    Option.bind_eq_some_iff] at hread
  obtain ⟨primary, hprimary, secondary, hsecondary, accent, haccent, background, hbackground,
    hpalette⟩ := hread
  cases hpalette
  intro color hmem
  simp only [Palette.colors, List.mem_cons, List.not_mem_nil, or_false] at hmem
  rcases hmem with rfl | rfl | rfl | rfl
  · exact isHexColor_of_required (hclean.required _ (by simp)) hprimary
  · exact isHexColor_of_required (hclean.required _ (by simp)) hsecondary
  · exact isHexColor_of_required (hclean.required _ (by simp)) haccent
  · exact isHexColor_of_required (hclean.required _ (by simp)) hbackground

theorem colors_of_extractedPalette {palette : ExtractedPalette}
    (hclean : CleanPalette ["primary"] ["secondary", "accent", "background"] fields)
    (hread : ExtractedPalette.ofJson? (.obj fields) = some palette) :
    ∀ color ∈ palette.colors, isHexColor color = true := by
  simp only [ExtractedPalette.ofJson?, Json.record?, Option.bind_eq_bind, Option.bind_some,
    Option.bind_eq_some_iff] at hread
  obtain ⟨primary, hprimary, secondary, hsecondary, accent, haccent, background, hbackground,
    hpalette⟩ := hread
  cases hpalette
  intro color hmem
  simp only [ExtractedPalette.colors, List.mem_cons, List.mem_append, or_assoc] at hmem
  rcases hmem with rfl | hmem | hmem | hmem
  · exact isHexColor_of_required (hclean.required _ (by simp)) hprimary
  · exact isHexColor_of_optional (hclean.optional _ (by simp)) hsecondary color hmem
  · exact isHexColor_of_optional (hclean.optional _ (by simp)) haccent color hmem
  · exact isHexColor_of_optional (hclean.optional _ (by simp)) hbackground color hmem

theorem wellFormedImage_of_read {image : ImageRef} (hclean : CleanImage fields)
    (hread : ImageRef.ofJson? (.obj fields) = some image) : WellFormedImage image := by
  simp only [ImageRef.ofJson?, Json.record?, Option.bind_eq_bind, Option.bind_some,
    Option.bind_eq_some_iff] at hread
  obtain ⟨id, hid, url, hurl, _, _, _, _, _, _, _, _, palette, hpalette, _, _, himage⟩ := hread
  cases himage
  refine ⟨isBlank_of_required hclean.id hid, isBlank_of_required hclean.url hurl, ?_⟩
  rintro extracted rfl
  obtain ⟨_, ⟨_, rfl, hcolors⟩, hextracted⟩ := hclean.palette.of_optional hpalette
  exact colors_of_extractedPalette hcolors hextracted

/-- The screen that is read is the one that the walk has looked at. -/
theorem screen?_of_screenId? {j : Json} (hread : Navigation.screenId? fields = some (some j))
    (hj : j ≠ .null) : screen? fields = some j := by
  unfold Navigation.screenId? at hread
  unfold screen? present?
  split at hread
  · cases hread
  · rename_i i hfirst hsecond
    cases hread
    simp [hfirst, (isNull_eq_false_iff j).mpr hj]
  · rename_i i hfirst hsecond
    cases hread
    simp [hfirst, hsecond, (isNull_eq_false_iff j).mpr hj]
  · cases hread

theorem isBlank_target_of_read {navigation : Navigation} (hclean : CleanNavigation fields)
    (hread : Navigation.ofJson? (.obj fields) = some navigation) :
    Text.isBlank (target navigation) = false := by
  cases hclean with
  | internal htag hscreen _ =>
      obtain ⟨j, hj, s, rfl, hfilled⟩ := hscreen
      simp only [Navigation.ofJson?, Json.tagged?, htag, Option.bind_some, Json.asStr?,
        Option.map_some, Option.bind_eq_bind, Option.map_eq_some_iff,
        Option.bind_eq_some_iff] at hread
      obtain ⟨_, hnamed, screenId, ⟨i, rfl, hi⟩, rfl⟩ := hread
      obtain rfl := (asStr?_eq_some_iff i screenId).mp hi
      cases hj.symm.trans (screen?_of_screenId? hnamed (by simp))
      exact hfilled
  | external htag hurl _ =>
      simp only [Navigation.ofJson?, Json.tagged?, htag, Option.bind_some, Json.asStr?,
        Option.map_some, Option.bind_eq_bind, Option.map_eq_some_iff] at hread
      obtain ⟨url, hread, rfl⟩ := hread
      exact isBlank_of_required hurl hread

/-- What the walk lets pass is well formed as far as it can be read. -/
theorem wellFormed_of_read {document : Document} (hclean : CleanDocument fields)
    (hread : Document.ofJson? (.obj fields) = some document) : WellFormed document := by
  simp only [Document.ofJson?, Json.record?, Option.bind_eq_bind, Option.bind_some,
    Option.bind_eq_some_iff] at hread
  obtain ⟨heroImage, hhero, supportingImages, hsupporting, palette, hpalette, _, _, _, _, _, _,
    components, hcomponents, navigation, hnavigation, _, _, _, _, hdocument⟩ := hread
  cases hdocument
  refine ⟨?_, ?_, ?_, ?_, ?_⟩
  · obtain ⟨_, image, rfl, ⟨_, rfl, hclean⟩, himage⟩ := hclean.hero.of_optional hhero
    exact ⟨image, rfl, wellFormedImage_of_read hclean himage⟩
  · intro image hmem
    have himages := hclean.supporting.of_defaulted rfl hsupporting
    rcases himages with rfl | ⟨_, ⟨items, rfl, hitems⟩, hlist⟩
    · cases hmem
    · obtain ⟨_, hread⟩ := mem_of_mapM hlist
      obtain ⟨j, hj, himage⟩ := hread image hmem
      obtain ⟨_, rfl, hclean⟩ := hitems j hj
      exact wellFormedImage_of_read hclean himage
  · obtain ⟨_, ⟨_, rfl, hclean⟩, hread⟩ := hclean.palette.of_required hpalette
    exact colors_of_palette hclean hread
  · obtain ⟨_, ⟨hne, items, rfl, _⟩, hlist⟩ := hclean.components.of_required hcomponents
    obtain ⟨hlength, _⟩ := mem_of_mapM hlist
    rintro rfl
    have hnil : items = [] := List.eq_nil_of_length_eq_zero hlength.symm
    exact hne (by rw [hnil])
  · rintro navigation rfl
    obtain ⟨_, ⟨_, rfl, hclean⟩, hread⟩ := hclean.navigation.of_optional hnavigation
    exact isBlank_target_of_read hclean hread

theorem clean_palette {palette : Palette}
    (hcolors : ∀ color ∈ palette.colors, isHexColor color = true) :
    OfObject (CleanPalette ["primary", "secondary", "accent", "background"] []) palette.toJson := by
  have hcolor : ∀ color ∈ palette.colors, IsColor (.str color) := by
    intro color hmem
    exact ⟨color, rfl, hcolors color hmem⟩
  refine ⟨_, rfl, ?_, ?_⟩
  · intro key hkey
    simp only [List.mem_cons, List.not_mem_nil, or_false] at hkey
    rcases hkey with rfl | rfl | rfl | rfl
    · refine has_of_get? (.str palette.primary) (by simp) nofun ?_
      exact hcolor _ (by simp [Palette.colors])
    · refine has_of_get? (.str palette.secondary) (by simp) nofun ?_
      exact hcolor _ (by simp [Palette.colors])
    · refine has_of_get? (.str palette.accent) (by simp) nofun ?_
      exact hcolor _ (by simp [Palette.colors])
    · refine has_of_get? (.str palette.background) (by simp) nofun ?_
      exact hcolor _ (by simp [Palette.colors])
  · intro key hkey
    cases hkey

theorem clean_extractedPalette {palette : ExtractedPalette}
    (hcolors : ∀ color ∈ palette.colors, isHexColor color = true) :
    OfObject (CleanPalette ["primary"] ["secondary", "accent", "background"]) palette.toJson := by
  have hoptional : ∀ value : Option String, (∀ color ∈ value.toList, color ∈ palette.colors) →
      ∀ color, value = some color → IsColor (.str color) := by
    intro value hsub color hvalue
    exact ⟨color, rfl, hcolors color (hsub color (by simp [hvalue]))⟩
  refine ⟨_, rfl, fun key hkey => ?_, fun key hkey => ?_⟩
  · rw [List.mem_singleton] at hkey
    subst hkey
    exact has_of_get? (.str palette.primary) (by simp) nofun
      ⟨_, rfl, hcolors _ (by simp [ExtractedPalette.colors])⟩
  · simp only [List.mem_cons, List.not_mem_nil, or_false] at hkey
    rcases hkey with rfl | rfl | rfl
    · exact mayHave_of_get? Json.str palette.secondary (by simp) (hoptional _ fun color h => by
        simp [ExtractedPalette.colors, h])
    · exact mayHave_of_get? Json.str palette.accent (by simp) (hoptional _ fun color h => by
        simp [ExtractedPalette.colors, h])
    · exact mayHave_of_get? Json.str palette.background (by simp) (hoptional _ fun color h => by
        simp [ExtractedPalette.colors, h])

theorem clean_image {image : ImageRef} (h : WellFormedImage image) :
    OfObject CleanImage image.toJson := by
  refine ⟨_, rfl, ?_⟩
  constructor
  · exact has_of_get? (.str image.id) (by simp) nofun ⟨_, rfl, h.id⟩
  · exact has_of_get? (.str image.url) (by simp) nofun ⟨_, rfl, h.url⟩
  · intro key hkey
    simp only [List.mem_cons, List.not_mem_nil, or_false] at hkey
    rcases hkey with rfl | rfl | rfl
    · exact mayHave_of_get? Json.str image.prompt (by simp) fun s _ => ⟨s, rfl⟩
    · exact mayHave_of_get? Json.str image.aspectRatio (by simp) fun s _ => ⟨s, rfl⟩
    · exact mayHave_of_get? Json.str image.style (by simp) fun s _ => ⟨s, rfl⟩
  · refine mayHave_of_get? Json.ofInt64 image.seed (by simp) fun n _ => ?_
    rw [reads_int64.read_encode]
    rfl
  · refine mayHave_of_get? ExtractedPalette.toJson image.palette (by simp) ?_
    intro palette hpalette
    exact clean_extractedPalette (h.colors palette hpalette)
  · exact mayHave_of_get? Tokens.toJson image.vibe (by simp) fun vibe _ => isToken_toJson vibe

theorem clean_navigation {navigation : Navigation} (h : Text.isBlank (target navigation) = false) :
    OfObject CleanNavigation navigation.toJson := by
  cases navigation with
  | internal screenId =>
      refine ⟨_, rfl, ?_⟩
      exact .internal (by simp) ⟨_, rfl, screenId, rfl, h⟩ (by simp [present?])
  | external url =>
      refine ⟨_, rfl, ?_⟩
      exact .external (by simp) (has_of_get? (.str url) (by simp) (by simp) ⟨url, rfl, h⟩)
        (by simp [screen?, present?])

/-- The walk lets the JSON form of a well-formed document pass. -/
theorem clean_toJson {document : Document}
    (hread : ∀ c ∈ document.components, (Component.ofJson? c.toJson).isSome = true)
    (h : WellFormed document) : OfObject CleanDocument document.toJson := by
  refine ⟨_, rfl, ?_⟩
  constructor
  · obtain ⟨image, himage, hwell⟩ := h.hero
    exact has_of_get? image.toJson (by simp [himage]) (reads_imageRef.ne_null image)
      (clean_image hwell)
  · refine mayHave_of_forall fun j hj => ?_
    obtain ⟨_, rfl⟩ : document.supportingImages ≠ [] ∧
        .arr (document.supportingImages.map ImageRef.toJson) = j := by simpa using hj
    rw [eachOf_arr_iff]
    intro item hitem
    obtain ⟨image, himage, rfl⟩ := List.mem_map.mp hitem
    exact clean_image (h.supporting image himage)
  · exact has_of_get? document.palette.toJson (by simp) (reads_palette.ne_null _)
      (clean_palette h.colors)
  · exact has_of_get? (Tokens.toJson document.vibe) (by simp) nofun (isToken_toJson _)
  · exact has_of_get? (Tokens.toJson document.family) (by simp) nofun (isToken_toJson _)
  · refine has_of_get? document.variant.toJson (by simp) nofun ?_
    rw [reads_variant.read_encode]
    rfl
  · refine has_of_get? (.arr (document.components.map Component.toJson)) (by simp) nofun ⟨?_, ?_⟩
    · simpa using h.components
    · rw [eachOf_arr_iff]
      intro item hitem
      obtain ⟨c, hc, rfl⟩ := List.mem_map.mp hitem
      rw [toJson_eq, ofObject_obj_iff, ← toJson_eq]
      exact hread c hc
  · refine mayHave_of_get? Navigation.toJson document.navigation (by simp) ?_
    intro navigation hnavigation
    exact clean_navigation (h.navigation navigation hnavigation)
  · intro name hname
    refine mayHave_of_forall fun j hj => ?_
    simp only [List.mem_cons, List.not_mem_nil, or_false] at hname
    rcases hname with rfl | rfl
    · obtain ⟨_, rfl⟩ : document.animations ≠ [] ∧ .obj document.animations = j := by
        simpa using hj
      exact ⟨_, rfl, trivial⟩
    · obtain ⟨_, rfl⟩ : document.metadata ≠ [] ∧ .obj document.metadata = j := by
        simpa using hj
      exact ⟨_, rfl, trivial⟩

/-- The components of a clean document can be read one by one. -/
theorem components_read_of_clean {document : Document}
    (h : OfObject CleanDocument document.toJson) :
    ∀ c ∈ document.components, (Component.ofJson? c.toJson).isSome = true := by
  obtain ⟨root, hroot, hclean⟩ := h
  obtain ⟨j, hj, _, hitems⟩ := hclean.components
  have hget : get? "components" root =
      some (.arr (document.components.map Component.toJson)) := by
    cases hroot
    simp
  cases hget.symm.trans ((present?_eq_some_iff _ _ _).mp hj).1
  intro c hc
  obtain ⟨_, hfields, hread⟩ := (eachOf_arr_iff _ _).mp hitems _ (List.mem_map_of_mem hc)
  rw [hfields]
  exact hread

theorem document_read_of_components_read {document : Document}
    (h : ∀ c ∈ document.components, (Component.ofJson? c.toJson).isSome = true) :
    ∃ components : List Component, components.length = document.components.length ∧
      Document.ofJson? document.toJson = some { document with components } := by
  have hsome : ((document.components.map Component.toJson).mapM Component.ofJson?).isSome =
      true := by
    rw [isSome_mapM_iff, List.forall_mem_map]
    exact h
  obtain ⟨components, hread⟩ := Option.isSome_iff_exists.mp hsome
  have hlength := (mem_of_mapM hread).1
  rw [List.length_map] at hlength
  exact ⟨components, hlength, document_read_of_components hread⟩

/-- What a typed document is written as can be read if the walk finds nothing, so a report on it is
made by the walk alone. -/
theorem report_eq_ofIssues (document : Document) :
    document.report = Report.ofIssues (Document.Schema.issues document.toJson) := by
  rw [Document.report, Document.rawReport]
  cases hissues : Document.Schema.issues document.toJson with
  | cons issue rest => rfl
  | nil =>
      have hcomponents := components_read_of_clean ((issues_eq_nil_iff _).mp hissues)
      obtain ⟨components, _, hread⟩ := document_read_of_components_read hcomponents
      simp only [hread, Option.isSome_some, if_true]

/-- A document is accepted exactly if it is well formed and each of its components, once written,
can be read again. -/
theorem isAccepted_report_iff_wellFormed_and_read (document : Document) :
    document.report.isAccepted = true ↔
      WellFormed document ∧
      ∀ c ∈ document.components, (Component.ofJson? c.toJson).isSome = true := by
  rw [Document.report, isAccepted_rawReport_iff, issues_eq_nil_iff]
  constructor
  · rintro ⟨hclean, _⟩
    have hcomponents := components_read_of_clean hclean
    obtain ⟨components, hlength, hread⟩ := document_read_of_components_read hcomponents
    obtain ⟨root, hroot, hclean⟩ := hclean
    rw [hroot] at hread
    obtain ⟨hhero, hsupporting, hcolors, hne, hnavigation⟩ := wellFormed_of_read hclean hread
    refine ⟨⟨hhero, hsupporting, hcolors, ?_, hnavigation⟩, hcomponents⟩
    intro hnil
    exact hne (List.eq_nil_of_length_eq_zero (by rw [hlength, hnil, List.length_nil]))
  · rintro ⟨hwell, hcomponents⟩
    obtain ⟨components, _, hread⟩ := document_read_of_components_read hcomponents
    refine ⟨clean_toJson hcomponents hwell, ?_⟩
    rw [hread]
    rfl

/-- A document whose open properties keep off the names of typed ones is accepted exactly if it is
well formed. -/
theorem isAccepted_report_iff {document : Document} (hapart : ∀ c ∈ document.components, Apart c) :
    document.report.isAccepted = true ↔ WellFormed document := by
  have hread : ∀ c ∈ document.components, (Component.ofJson? c.toJson).isSome = true := by
    intro c hc
    rw [component_read_iff.mpr (hapart c hc)]
    rfl
  rw [isAccepted_report_iff_wellFormed_and_read]
  exact and_iff_left hread

end ScreenPattern.Proofs.DocumentAcceptance
