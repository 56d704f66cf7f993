import ScreenPattern.Assembly.Assembler
import ScreenPattern.Proofs.DocumentAcceptance
import ScreenPattern.Proofs.TextTrimming

namespace ScreenPattern.Proofs.DraftAcceptance

open ComponentReading DocumentAcceptance TextTrimming

theorem isBlank_documentId (image : GeneratedImage) : Text.isBlank image.documentId = false := by
  unfold GeneratedImage.documentId
  cases hid : image.imageId.filter fun id => !Text.isBlank id with
  | some id =>
      have hfilled := (Option.filter_eq_some_iff.mp hid).2
      rw [Bool.not_eq_true'] at hfilled
      exact hfilled
  | none =>
      change Text.isBlank (Digest.shortId "img" _) = false
      rw [Digest.shortId, isBlank_append, isBlank_append]
      rfl

theorem colors_resolve_iff (palette : ExtractedPalette) :
    (∀ color ∈ palette.resolve.colors, isHexColor color = true) ↔
      ∀ color ∈ palette.colors, isHexColor color = true := by
  obtain ⟨primary, secondary, accent, background⟩ := palette
  have hwhite : isHexColor "#FFFFFF" = true := by decide
  cases secondary <;> cases accent <;> cases background <;>
    simp +contextual [ExtractedPalette.resolve, ExtractedPalette.colors, Palette.colors, hwhite]

theorem isBlank_target_of_normalize {input : NavigationInput} {navigation : Navigation}
    (h : input.normalize = some navigation) : Text.isBlank (target navigation) = false := by
  unfold NavigationInput.normalize at h
  split at h
  · obtain ⟨screenId, hfilled, rfl⟩ := Option.map_eq_some_iff.mp h
    obtain ⟨_, _, hfilled⟩ := Option.bind_eq_some_iff.mp hfilled
    exact isBlank_of_filled? hfilled
  · obtain ⟨url, hfilled, rfl⟩ := Option.map_eq_some_iff.mp h
    obtain ⟨_, _, hfilled⟩ := Option.bind_eq_some_iff.mp hfilled
    exact isBlank_of_filled? hfilled

/-- An image that can be shown. -/
structure Usable (image : GeneratedImage) : Prop where
  url : Text.isBlank image.url = false
  colors : ∀ color ∈ image.palette.colors, isHexColor color = true

theorem wellFormedImage_toRef_iff (image : GeneratedImage) :
    WellFormedImage image.toRef ↔ Usable image := by
  constructor
  · intro h
    exact ⟨h.url, h.colors image.palette rfl⟩
  · intro h
    refine ⟨isBlank_documentId image, h.url, ?_⟩
    rintro palette hpalette
    cases hpalette
    exact h.colors

variable {assembler : Assembler} {input : AssemblyInput} {components : List Component}

theorem wellFormed_draft_iff :
    WellFormed (assembler.draft input components) ↔
      components ≠ [] ∧ (∀ image ∈ input.heroImage :: input.supportingImages, Usable image) ∧
        ∀ palette, input.palette = some palette →
          ∀ color ∈ palette.colors, isHexColor color = true := by
  constructor
  · intro h
    obtain ⟨hero, hhero, hwell⟩ := h.hero
    cases hhero
    refine ⟨h.components, ?_, ?_⟩
    · intro image hmem
      rcases List.mem_cons.mp hmem with rfl | hmem
      · exact (wellFormedImage_toRef_iff _).mp hwell
      · exact (wellFormedImage_toRef_iff _).mp (h.supporting _ (List.mem_map_of_mem hmem))
    · intro palette hpalette
      have hcolors := h.colors
      simp only [Assembler.draft, hpalette, Option.getD_some] at hcolors
      exact (colors_resolve_iff palette).mp hcolors
  · rintro ⟨hcomponents, himages, hpalette⟩
    have hhero := himages input.heroImage List.mem_cons_self
    refine ⟨⟨_, rfl, (wellFormedImage_toRef_iff _).mpr hhero⟩, ?_, ?_, hcomponents, ?_⟩
    · intro image hmem
      obtain ⟨source, hsource, rfl⟩ := List.mem_map.mp hmem
      exact (wellFormedImage_toRef_iff _).mpr (himages source (List.mem_cons_of_mem _ hsource))
    · refine (colors_resolve_iff _).mpr ?_
      cases hgiven : input.palette with
      | none => exact hhero.colors
      | some palette => exact hpalette palette hgiven
    · intro navigation hnavigation
      obtain ⟨given, _, hnormal⟩ := Option.bind_eq_some_iff.mp hnavigation
      exact isBlank_target_of_normalize hnormal

theorem isAccepted_report_draft_iff (hapart : ∀ c ∈ components, Apart c) :
    (assembler.draft input components).report.isAccepted = true ↔
      components ≠ [] ∧ (∀ image ∈ input.heroImage :: input.supportingImages, Usable image) ∧
        ∀ palette, input.palette = some palette →
          ∀ color ∈ palette.colors, isHexColor color = true := by
  rw [isAccepted_report_iff hapart, wellFormed_draft_iff]

end ScreenPattern.Proofs.DraftAcceptance
