import ScreenPattern.Proofs.DocumentReading
import ScreenPattern.Proofs.SchemaWalk

/-!
The walk over a raw document and the reading of the typed one do not look at the same things. For
each part of a document that the walk lets pass it is said here when the part cannot be read; put
together, this is all in which the two differ.
-/

namespace ScreenPattern.Proofs.UnreadableDocuments

open DocumentReading FieldReading ReportAcceptance SchemaWalk ValueReading
open Document
open Fields (get? present?)

def HasPaddedVibe (image : Json) : Prop :=
  ∃ vibe, image.get? "vibe" = some vibe ∧ IsPadded vibe

def HasPaddedImage (images : Json) : Prop :=
  ∃ items, images = .arr items ∧ ∃ image ∈ items, HasPaddedVibe image

/-- Internal navigation that gives the screen under both of its names, be it as `null`. -/
def NamesTwoScreens (navigation : Json) : Prop :=
  navigation.get? "type" = some (.str "internal") ∧
    (navigation.get? "screenId").isSome = true ∧ (navigation.get? "screen_id").isSome = true

/-- What the walk lets pass although it cannot be read. -/
inductive Drifts (raw : Json) : Prop
  | vibe (vibe : Json) (hget : raw.get? "vibe" = some vibe) (hpadded : IsPadded vibe)
  | family (family : Json) (hget : raw.get? "pattern_family" = some family)
      (hpadded : IsPadded family)
  | hero (image : Json) (hget : raw.get? "hero_image" = some image) (hpadded : HasPaddedVibe image)
  | supporting (images : Json) (hget : raw.get? "supporting_images" = some images)
      (hpadded : HasPaddedImage images)
  | null (name : String) (hname : name ∈ ["supporting_images", "animations", "metadata"])
      (hget : raw.get? name = some .null)
  | navigation (navigation : Json) (hget : raw.get? "navigation" = some navigation)
      (htwo : NamesTwoScreens navigation)

section Parts

variable {fields : Fields Json}

theorem isSome_ofJson?_palette
    (h : CleanPalette ["primary", "secondary", "accent", "background"] [] fields) :
    (Palette.ofJson? (.obj fields)).isSome = true := by
  have hcolor : ∀ key ∈ ["primary", "secondary", "accent", "background"],
      (fields.required key Json.asStr?).isSome = true := by
    intro key hkey
    exact (h.required key hkey).isSome_required fun _ => isSome_asStr?_of_isColor
  simp only [List.forall_mem_cons] at hcolor
  simp [Palette.ofJson?, Json.record?, Option.isSome_bind, hcolor]

theorem isSome_ofJson?_extractedPalette
    (h : CleanPalette ["primary"] ["secondary", "accent", "background"] fields) :
    (ExtractedPalette.ofJson? (.obj fields)).isSome = true := by
  have hprimary : (fields.required "primary" Json.asStr?).isSome = true :=
    (h.required _ (by simp)).isSome_required fun _ => isSome_asStr?_of_isColor
  have hcolor : ∀ key ∈ ["secondary", "accent", "background"],
      (fields.optional key Json.asStr?).isSome = true := by
    intro key hkey
    exact (h.optional key hkey).isSome_optional fun _ => isSome_asStr?_of_isColor
  simp only [List.forall_mem_cons] at hcolor
  simp [ExtractedPalette.ofJson?, Json.record?, Option.isSome_bind, hprimary, hcolor]

theorem isSome_ofJson?_image_iff (h : CleanImage fields) :
    (ImageRef.ofJson? (.obj fields)).isSome = true ↔ ¬ HasPaddedVibe (.obj fields) := by
  have hid : (fields.required "id" Json.asStr?).isSome = true :=
    h.id.isSome_required fun _ => isSome_asStr?_of_isText
  have hurl : (fields.required "url" Json.asStr?).isSome = true :=
    h.url.isSome_required fun _ => isSome_asStr?_of_isText
  have htext : ∀ key ∈ ["prompt", "aspect_ratio", "style"],
      (fields.optional key Json.asStr?).isSome = true := by
    intro key hkey
    exact (h.texts key hkey).isSome_optional fun j => (isSome_asStr?_iff j).mpr
  have hseed : (fields.optional "seed" Json.asInt64?).isSome = true :=
    h.seed.isSome_optional fun _ hj => hj
  have hpalette : (fields.optional "palette" ExtractedPalette.ofJson?).isSome = true :=
    h.palette.isSome_optional (forall_ofObject_iff.mpr fun _ => isSome_ofJson?_extractedPalette)
  have hvibe : (fields.optional "vibe" (Tokens.ofJson? (α := Vibe))).isSome = true ↔
      ∀ vibe, get? "vibe" fields = some vibe → ¬ IsPadded vibe :=
    h.vibe.isSome_optional_iff nofun fun _ => isSome_ofJson?_token_iff
  simp only [List.forall_mem_cons] at htext
  simp [ImageRef.ofJson?, Json.record?, Option.isSome_bind, hid, hurl, htext, hseed, hpalette,
    hvibe, HasPaddedVibe, Json.get?]

theorem isSome_list?_images_iff {images : Json} (h : EachOf (OfObject CleanImage) images) :
    (Json.list? ImageRef.ofJson? images).isSome = true ↔ ¬ HasPaddedImage images := by
  obtain ⟨items, rfl, hclean⟩ := h
  have hread : ∀ image ∈ items,
      ((ImageRef.ofJson? image).isSome = true ↔ ¬ HasPaddedVibe image) := by
    intro image himage
    obtain ⟨fields, rfl, hfields⟩ := hclean image himage
    exact isSome_ofJson?_image_iff hfields
  refine (isSome_mapM_iff items).trans ((forall₂_congr hread).trans ?_)
  simp [HasPaddedImage]

theorem isSome_list?_components {components : Json}
    (h : EachOf (OfObject fun c => (Component.ofJson? (.obj c)).isSome = true) components) :
    (Json.list? Component.ofJson? components).isSome = true := by
  obtain ⟨items, rfl, hitems⟩ := h
  refine (isSome_mapM_iff items).mpr fun item hitem => ?_
  obtain ⟨_, rfl, hread⟩ := hitems item hitem
  exact hread

/-- The screen is read under the name that the walk has found it under, unless there are two. -/
theorem screenId?_of_screen? {j : Json} (h : screen? fields = some j) :
    Navigation.screenId? fields =
      if (get? "screenId" fields).isSome ∧ (get? "screen_id" fields).isSome then none
      else some (some j) := by
  unfold screen? present? at h
  unfold Navigation.screenId?
  cases hfirst : get? "screenId" fields with
  | none =>
      cases hsecond : get? "screen_id" fields with
      | none => simp [hfirst, hsecond] at h
      | some i =>
          rw [hfirst, hsecond, Option.filter_none, Option.none_or] at h
          have hij := (Option.filter_eq_some_iff.mp h).1
          simp [Option.some.inj hij]
  | some i =>
      cases hsecond : get? "screen_id" fields with
      | none =>
          rw [hfirst, hsecond, Option.filter_none, Option.or_none] at h
          have hij := (Option.filter_eq_some_iff.mp h).1
          simp [Option.some.inj hij]
      | some _ => simp

theorem isSome_ofJson?_navigation_iff (h : CleanNavigation fields) :
    (Navigation.ofJson? (.obj fields)).isSome = true ↔ ¬ NamesTwoScreens (.obj fields) := by
  cases h with
  | internal htag hscreen _ =>
      obtain ⟨_, hj, s, rfl, _⟩ := hscreen
      simp only [Navigation.ofJson?, Json.tagged?, htag, Json.asStr?, screenId?_of_screen? hj,
        NamesTwoScreens, Json.get?, Option.bind_some, Option.map_some, Option.bind_eq_bind]
      split
      · simp [*]
      · simp [*, Json.asStr?]
  | external htag hurl _ =>
      have hread : (fields.required "url" Json.asStr?).isSome = true :=
        hurl.isSome_required fun _ => isSome_asStr?_of_isText
      have hother : ¬ NamesTwoScreens (.obj fields) := by
        rintro ⟨hinternal, _, _⟩
        simp [Json.get?, htag] at hinternal
      simp [Navigation.ofJson?, Json.tagged?, htag, Json.asStr?, hread, hother]

theorem isSome_bag_iff {name : String} (h : MayHave fields name (OfObject fun _ => True)) :
    (fields.defaulted name [] Json.asObj?).isSome = true ↔ get? name fields ≠ some .null := by
  have hread : ∀ j, OfObject (fun _ => True) j → (j.asObj?.isSome = true ↔ ¬ False) := by
    rintro _ ⟨fields, rfl, _⟩
    simp [Json.asObj?]
  rw [h.isSome_defaulted_iff rfl hread]
  simp

end Parts

theorem isSome_ofJson?_document_iff {root : Fields Json} (h : CleanDocument root) :
    (Document.ofJson? (.obj root)).isSome = true ↔ ¬ Drifts (.obj root) := by
  have hhero : (root.optional "hero_image" ImageRef.ofJson?).isSome = true ↔
      ∀ image, get? "hero_image" root = some image → ¬ HasPaddedVibe image := by
    refine h.hero.mayHave.isSome_optional_iff ?_ ?_
    · rintro ⟨_, hget, _⟩
      cases hget
    · exact forall_ofObject_iff.mpr fun _ => isSome_ofJson?_image_iff
  have hsupporting :
      (root.defaulted "supporting_images" [] (Json.list? ImageRef.ofJson?)).isSome = true ↔
        get? "supporting_images" root ≠ some .null ∧
        ∀ images, get? "supporting_images" root = some images → ¬ HasPaddedImage images :=
    h.supporting.isSome_defaulted_iff rfl fun _ => isSome_list?_images_iff
  have hpalette : (root.required "palette" Palette.ofJson?).isSome = true :=
    h.palette.isSome_required (forall_ofObject_iff.mpr fun _ => isSome_ofJson?_palette)
  have hvibe : (root.required "vibe" (Tokens.ofJson? (α := Vibe))).isSome = true ↔
      ∀ vibe, get? "vibe" root = some vibe → ¬ IsPadded vibe :=
    h.vibe.isSome_required_iff fun _ => isSome_ofJson?_token_iff
  have hfamily : (root.required "pattern_family" (Tokens.ofJson? (α := Family))).isSome = true ↔
      ∀ family, get? "pattern_family" root = some family → ¬ IsPadded family :=
    h.family.isSome_required_iff fun _ => isSome_ofJson?_token_iff
  have hvariant : (root.required "pattern_variant" Variant.ofJson?).isSome = true :=
    h.variant.isSome_required fun _ hj => hj
  have hcomponents : (root.required "components" (Json.list? Component.ofJson?)).isSome = true :=
    h.components.isSome_required fun _ hj => isSome_list?_components hj.2
  have hnavigation : (root.optional "navigation" Navigation.ofJson?).isSome = true ↔
      ∀ navigation, get? "navigation" root = some navigation → ¬ NamesTwoScreens navigation := by
    refine h.navigation.isSome_optional_iff ?_ ?_
    · rintro ⟨htag, _, _⟩
      cases htag
    · exact forall_ofObject_iff.mpr fun _ => isSome_ofJson?_navigation_iff
  have hanimations := isSome_bag_iff (h.bags "animations" (by simp))
  have hmetadata := isSome_bag_iff (h.bags "metadata" (by simp))
  simp only [Document.ofJson?, Json.record?, Option.bind_eq_bind, Option.bind_some, Option.pure_def,
    Option.isSome_bind, Option.isSome_some, any_const, Bool.and_eq_true, hhero, hsupporting,
    hpalette, hvibe, hfamily, hvariant, hcomponents, hnavigation, hanimations, hmetadata, true_and,
    and_true]
  constructor
  · rintro ⟨hhero, ⟨hlist, hsupporting⟩, hvibe, hfamily, hnavigation, hanimations, hmetadata⟩
      hdrifts
    cases hdrifts with
    | vibe vibe hget hpadded => exact hvibe vibe hget hpadded
    | family family hget hpadded => exact hfamily family hget hpadded
    | hero image hget hpadded => exact hhero image hget hpadded
    | supporting images hget hpadded => exact hsupporting images hget hpadded
    | null name hname hget =>
        simp only [List.mem_cons, List.not_mem_nil, or_false] at hname
        rcases hname with rfl | rfl | rfl
        · exact hlist hget
        · exact hanimations hget
        · exact hmetadata hget
    | navigation navigation hget htwo => exact hnavigation navigation hget htwo
  · intro hread
    refine ⟨?_, ⟨?_, ?_⟩, ?_, ?_, ?_, ?_, ?_⟩
    · exact fun image hget hpadded => hread (.hero image hget hpadded)
    · exact fun hget => hread (.null "supporting_images" (by simp) hget)
    · exact fun images hget hpadded => hread (.supporting images hget hpadded)
    · exact fun vibe hget hpadded => hread (.vibe vibe hget hpadded)
    · exact fun family hget hpadded => hread (.family family hget hpadded)
    · exact fun navigation hget htwo => hread (.navigation navigation hget htwo)
    · exact fun hget => hread (.null "animations" (by simp) hget)
    · exact fun hget => hread (.null "metadata" (by simp) hget)

theorem parse_of_unread {raw : Json} (hwalk : Schema.issues raw = [])
    (hread : Document.ofJson? raw = none) :
    Document.parse raw = .error .unreadable ∧
      (Document.rawReport raw).issues = [Document.unreadable] := by
  constructor
  · simp [Document.parse, hwalk, hread]
  · rw [Document.rawReport, hwalk, hread]
    exact issues_ofIssues_singleton _

/-- A raw document in which the walk finds nothing cannot be read exactly if it drifts; its one
issue is then about the document as a whole. Any other parses. -/
theorem unread_iff_drifts {raw : Json} (hwalk : Schema.issues raw = []) :
    (Document.ofJson? raw = none ↔ Drifts raw) ∧
    (Drifts raw → Document.parse raw = .error .unreadable ∧
      ∃ issue, (Document.rawReport raw).issues = [issue] ∧ issue.path = "") ∧
    (¬ Drifts raw → ∃ document, Document.parse raw = .ok document ∧
      (Document.rawReport raw).isAccepted = true) := by
  have hreads : (Document.ofJson? raw).isSome = true ↔ ¬ Drifts raw := by
    obtain ⟨root, rfl, hclean⟩ := (issues_eq_nil_iff raw).mp hwalk
    exact isSome_ofJson?_document_iff hclean
  have hunread : Document.ofJson? raw = none ↔ Drifts raw := by
    rw [← Option.not_isSome_iff_eq_none, hreads, Classical.not_not]
  refine ⟨hunread, ?_, ?_⟩
  · intro hdrifts
    obtain ⟨hparse, hissues⟩ := parse_of_unread hwalk (hunread.mpr hdrifts)
    exact ⟨hparse, Document.unreadable, hissues, rfl⟩
  · intro hdrifts
    have hsome := hreads.mpr hdrifts
    obtain ⟨document, hread⟩ := Option.isSome_iff_exists.mp hsome
    exact ⟨document, (parse_eq_ok_iff raw document).mpr ⟨hwalk, hread⟩,
      (isAccepted_rawReport_iff raw).mpr ⟨hwalk, hsome⟩⟩

/-- The screen is named once as a text, and once more as `null`. -/
def twiceNamed : Json :=
  .obj
    [("components", .arr [.obj [("type", .str "title"), ("content", .str "Join")]]),
      ("hero_image", .obj [("id", .str "hero"), ("url", .str "https://cdn.example/hero.png")]),
      ("navigation", .obj [("type", .str "internal"), ("screenId", .str "home"),
        ("screen_id", .null)]),
      ("palette", .obj [("primary", .str "#112233"), ("secondary", .str "#445566"),
        ("accent", .str "#778899"), ("background", .str "#FFFFFF")]),
      ("pattern_family", .str "ACT_FORM_MINIMAL"), ("pattern_variant", .int 1),
      ("vibe", .str "modern")]

theorem twiceNamed_unread_iff_drifts :
    Schema.issues twiceNamed = [] ∧ Drifts twiceNamed ∧
    Document.parse twiceNamed = .error .unreadable ∧
    Schema.issues signUp.toJson = [] ∧ ¬ Drifts signUp.toJson := by
  have hwalk : Schema.issues twiceNamed = [] := by decide +kernel
  have hdrifts : Drifts twiceNamed :=
    .navigation _ rfl ⟨rfl, rfl, rfl⟩
  have hsignUp : Schema.issues signUp.toJson = [] := by decide +kernel
  have hread : Document.ofJson? signUp.toJson ≠ none := by decide +kernel
  refine ⟨hwalk, hdrifts, ((unread_iff_drifts hwalk).2.1 hdrifts).1, hsignUp, ?_⟩
  exact fun h => hread ((unread_iff_drifts hsignUp).1.mpr h)

end ScreenPattern.Proofs.UnreadableDocuments
