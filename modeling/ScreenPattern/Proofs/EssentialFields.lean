import ScreenPattern.Proofs.DocumentAcceptance

namespace ScreenPattern.Proofs.EssentialFields

open ComponentReading DocumentAcceptance DocumentReading

def hexDigits : List Char :=
  "0123456789abcdefABCDEF".toList

/-- A number sign with 3, 6 or 8 hexadecimal digits behind it and nothing else. -/
def IsHexNotation (color : String) : Prop :=
  ∃ digits : List Char, color.toList = '#' :: digits ∧
    (digits.length = 3 ∨ digits.length = 6 ∨ digits.length = 8) ∧
    ∀ digit ∈ digits, digit ∈ hexDigits

structure Presentable (image : ImageRef) : Prop where
  id : Text.isBlank image.id = false
  url : Text.isBlank image.url = false
  colors : ∀ palette, image.palette = some palette → ∀ color ∈ palette.colors, IsHexNotation color

theorem toNat_lt_of_isHexDigit {c : Char} (h : isHexDigit c = true) : c.toNat < 103 := by
  simp only [isHexDigit, Char.isDigit, Bool.or_eq_true, Bool.and_eq_true, decide_eq_true_eq] at h
  change (48 ≤ c.toNat ∧ c.toNat ≤ 57 ∨ 97 ≤ c.toNat ∧ c.toNat ≤ 102) ∨
    65 ≤ c.toNat ∧ c.toNat ≤ 70 at h
  omega

theorem isHexDigit_iff (c : Char) : isHexDigit c = true ↔ c ∈ hexDigits := by
  constructor
  · intro h
    have hall : ∀ n < 103, isHexDigit (Char.ofNat n) = true → Char.ofNat n ∈ hexDigits := by
      decide
    have hmem := hall c.toNat (toNat_lt_of_isHexDigit h)
    rw [Char.ofNat_toNat] at hmem
    exact hmem h
  · intro h
    have hall : hexDigits.all isHexDigit = true := by decide
    exact List.all_eq_true.mp hall c h

theorem isHexColor_iff (color : String) : isHexColor color = true ↔ IsHexNotation color := by
  unfold isHexColor IsHexNotation
  split
  · rename_i digits hcolor
    simp [hcolor, isHexDigit_iff]
  · rename_i hother
    simp only [Bool.false_eq_true, false_iff, not_exists, not_and]
    intro digits hcolor
    exact absurd hcolor (hother digits)

theorem wellFormedImage_iff (image : ImageRef) : WellFormedImage image ↔ Presentable image := by
  constructor
  · intro h
    refine ⟨h.id, h.url, fun palette hpalette color hcolor => ?_⟩
    exact (isHexColor_iff color).mp (h.colors palette hpalette color hcolor)
  · intro h
    refine ⟨h.id, h.url, fun palette hpalette color hcolor => ?_⟩
    exact (isHexColor_iff color).mpr (h.colors palette hpalette color hcolor)

def essentialImage (image : ImageRef) : ImageRef :=
  { id := image.id, url := image.url, palette := image.palette }

/-- The document with nothing in its place wherever the schema cannot object. -/
def essential (document : Document) : Document where
  heroImage := document.heroImage.map essentialImage
  supportingImages := document.supportingImages.map essentialImage
  palette := document.palette
  vibe := .default
  family := .onboardingHeroTop
  variant := .first
  components := document.components.map fun _ => .plain .title ""
  navigation := document.navigation
  animations := []
  metadata := []

theorem wellFormed_essentialImage_iff (image : ImageRef) :
    WellFormedImage (essentialImage image) ↔ WellFormedImage image := by
  constructor
  · intro h
    exact ⟨h.id, h.url, h.colors⟩
  · intro h
    exact ⟨h.id, h.url, h.colors⟩

theorem wellFormed_essential_iff (document : Document) :
    WellFormed (essential document) ↔ WellFormed document := by
  constructor
  · intro h
    obtain ⟨_, hhero, himage⟩ := h.hero
    obtain ⟨image, himage', rfl⟩ := Option.map_eq_some_iff.mp hhero
    refine ⟨⟨image, himage', (wellFormed_essentialImage_iff image).mp himage⟩, ?_, h.colors, ?_,
      h.navigation⟩
    · intro image hmem
      exact (wellFormed_essentialImage_iff image).mp (h.supporting _ (List.mem_map_of_mem hmem))
    · rintro hnone
      exact h.components (by simp [essential, hnone])
  · intro h
    obtain ⟨image, hhero, himage⟩ := h.hero
    refine ⟨⟨essentialImage image, by simp [essential, hhero],
      (wellFormed_essentialImage_iff image).mpr himage⟩, ?_, h.colors, ?_, h.navigation⟩
    · intro image hmem
      obtain ⟨source, hsource, rfl⟩ := List.mem_map.mp hmem
      exact (wellFormed_essentialImage_iff source).mpr (h.supporting source hsource)
    · simpa [essential] using h.components

theorem apart_plain (kind : ComponentKind) (content : String) : Apart (.plain kind content) := by
  cases kind <;> exact fun _ _ => List.not_mem_nil

theorem report_essential {document : Document} (hapart : ∀ c ∈ document.components, Apart c) :
    (essential document).report.isAccepted = document.report.isAccepted := by
  have hplain : ∀ c ∈ (essential document).components, Apart c := by
    intro c hc
    obtain ⟨_, _, rfl⟩ := List.mem_map.mp hc
    exact apart_plain .title ""
  rw [Bool.eq_iff_iff, isAccepted_report_iff hplain, isAccepted_report_iff hapart]
  exact wellFormed_essential_iff document

theorem isBlank_target_iff (navigation : Option Navigation) :
    (∀ n, navigation = some n → Text.isBlank (target n) = false) ↔
      (∀ screenId, navigation = some (.internal screenId) → Text.isBlank screenId = false) ∧
      (∀ url, navigation = some (.external url) → Text.isBlank url = false) := by
  constructor
  · intro h
    exact ⟨fun screenId hn => h (.internal screenId) hn, fun url hn => h (.external url) hn⟩
  · rintro ⟨hinternal, hexternal⟩ n hn
    cases n with
    | internal screenId => exact hinternal screenId hn
    | external url => exact hexternal url hn

/-- A document whose open properties keep off the names of typed ones is accepted exactly if it has
a hero image, its images can be presented, its own colors are written as they should be, there is a
component, and navigation, if there is any, leads somewhere. What else it has makes no difference.
-/
theorem isAccepted_iff_presentable_and_report_essential (document : Document)
    (hapart : ∀ c ∈ document.components, Apart c) :
    (document.report.isAccepted = true ↔
      (∃ hero, document.heroImage = some hero ∧ Presentable hero) ∧
      (∀ image ∈ document.supportingImages, Presentable image) ∧
      (∀ color ∈ document.palette.colors, IsHexNotation color) ∧
      document.components ≠ [] ∧
      (∀ screenId, document.navigation = some (.internal screenId) →
        Text.isBlank screenId = false) ∧
      (∀ url, document.navigation = some (.external url) → Text.isBlank url = false)) ∧
    (essential document).report.isAccepted = document.report.isAccepted := by
  refine ⟨?_, report_essential hapart⟩
  rw [isAccepted_report_iff hapart, ← isBlank_target_iff]
  simp only [← wellFormedImage_iff, ← isHexColor_iff]
  constructor
  · intro h
    exact ⟨h.hero, h.supporting, h.colors, h.components, h.navigation⟩
  · rintro ⟨hhero, hsupporting, hcolors, hcomponents, hnavigation⟩
    exact ⟨hhero, hsupporting, hcolors, hcomponents, hnavigation⟩

/-- The document with a color that lacks a digit. -/
def misprinted : Document :=
  { signUp with palette := { signUp.palette with accent := "#77889" } }

theorem signUp_isAccepted_and_misprinted_not :
    (∀ c ∈ signUp.components, Apart c) ∧ signUp.report.isAccepted = true ∧
    (essential signUp).report.isAccepted = true ∧ essential signUp ≠ signUp ∧
    ¬ misprinted.report.isAccepted = true := by
  have hapart : ∀ c ∈ signUp.components, Apart c := by decide +kernel
  obtain ⟨hiff, hsame⟩ := isAccepted_iff_presentable_and_report_essential signUp hapart
  obtain ⟨hmisprinted, _⟩ := isAccepted_iff_presentable_and_report_essential misprinted hapart
  have hcolors : ∀ color ∈ ["#123456", "#abc", "#112233", "#445566", "#778899", "#FFFFFF"],
      IsHexNotation color := by
    intro color hcolor
    have hall : ∀ color ∈ ["#123456", "#abc", "#112233", "#445566", "#778899", "#FFFFFF"],
        isHexColor color = true := by decide
    exact (isHexColor_iff color).mp (hall color hcolor)
  have haccepted : signUp.report.isAccepted = true := by
    refine hiff.mpr ⟨⟨_, rfl, ⟨by decide, by decide, ?_⟩⟩, ?_, ?_, by decide, nofun, ?_⟩
    · rintro _ ⟨⟩ color hcolor
      exact hcolors color (List.mem_of_mem_take (i := 2) hcolor)
    · rintro image hmem
      obtain rfl := List.mem_singleton.mp hmem
      exact ⟨by decide, by decide, nofun⟩
    · intro color hcolor
      exact hcolors color (List.mem_of_mem_drop (i := 2) hcolor)
    · rintro _ ⟨⟩
      decide
  refine ⟨hapart, haccepted, hsame.trans haccepted, by decide, fun h => ?_⟩
  have haccent := (hmisprinted.mp h).2.2.1 "#77889" (by decide)
  exact absurd ((isHexColor_iff _).mpr haccent) (by decide)

end ScreenPattern.Proofs.EssentialFields
