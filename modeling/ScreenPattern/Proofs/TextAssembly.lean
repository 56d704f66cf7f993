import ScreenPattern.Proofs.AssemblyModes
import ScreenPattern.Proofs.DraftAcceptance
import ScreenPattern.Proofs.SynthesizedComponents

namespace ScreenPattern.Proofs.TextAssembly

open AssemblyModes ComponentReading ContractConformance ContractSlots DraftAcceptance
open ReportAcceptance SynthesizedComponents
open Synthesis (Material)

theorem conforms_draft_iff {contract : Contract} {material : Material}
    (hregular : Regular contract.slots.all) (assembler : Assembler) (input : AssemblyInput) :
    Conforms contract (assembler.draft input (synthesized contract.slots material)) ↔
      input.family = contract.family ∧ input.variant = contract.variant ∧
        input.supportingImages.length ≤ contract.supportingCapacity := by
  constructor
  · intro h
    have hcapacity := h.capacity
    simp only [Assembler.draft, List.length_map] at hcapacity
    exact ⟨h.family, h.variant, hcapacity⟩
  · rintro ⟨hfamily, hvariant, hcapacity⟩
    refine ⟨hfamily, hvariant, ?_, ?_, rfl, ?_⟩
    · apply (missingSlotErrors_eq_nil_iff _ _).mp
      exact missingSlotErrors_synthesized contract material hregular
    · apply (kindErrors_eq_nil_iff _ _).mp
      exact kindErrors_synthesized contract material
    · simpa only [Assembler.draft, List.length_map] using hcapacity

def materialOf (input : AssemblyInput) (text : GeneratedText) : Material :=
  ⟨text, input.heroImage, input.supportingImages⟩

theorem components_inMode {input : AssemblyInput} {text : GeneratedText}
    (hnone : ∀ list, input.components = some list → list = []) (htext : input.text = some text)
    (contract : Contract) (vibe : Vibe) (mode : AssemblyMode) :
    (inMode (some contract) vibe mode).components input =
      .ok (synthesized contract.slots (materialOf input text)) := by
  have hlist : input.components.filter (fun list => !list.isEmpty) = none := by
    apply Option.filter_eq_none_iff.mpr
    intro list hsome
    simp [hnone list hsome]
  simp only [Assembler.components, hlist, htext]
  show Except.ok (Synthesis.components (materialOf input text) []
    (Synthesis.slotPlaces contract.slots)) = _
  rw [components_slotPlaces]

/-- An input that strict assembly takes under a contract, where `made` are the components made for
it. -/
structure Assemblable (contract : Contract) (input : AssemblyInput) (made : List Component) :
    Prop where
  family : input.family = contract.family
  variant : input.variant = contract.variant
  capacity : input.supportingImages.length ≤ contract.supportingCapacity
  components : made ≠ []
  images : ∀ image ∈ input.heroImage :: input.supportingImages, Usable image
  palette : ∀ palette, input.palette = some palette →
    ∀ color ∈ palette.colors, isHexColor color = true

theorem exists_strict_assemble_iff_assemblable {contract : Contract} {input : AssemblyInput}
    {text : GeneratedText} (hregular : Regular contract.slots.all)
    (hnone : ∀ list, input.components = some list → list = []) (htext : input.text = some text)
    (vibe : Vibe) :
    (∃ outcome, (inMode (some contract) vibe .strict).assemble input = .ok outcome) ↔
      Assemblable contract input (synthesized contract.slots (materialOf input text)) := by
  have hapart : ∀ c ∈ synthesized contract.slots (materialOf input text), Apart c := by
    intro c hc
    rw [eq_component_of_mem_synthesized hc]
    exact apart_component _ _
  refine (exists_strict_assemble_iff
    (components_inMode hnone htext contract vibe .strict)).trans ?_
  rw [isAccepted_report_draft_iff hapart]
  simp only [Option.some.injEq, forall_eq', valid_check_iff,
    conforms_draft_iff hregular]
  constructor
  · rintro ⟨⟨hcomponents, himages, hpalette⟩, hfamily, hvariant, hcapacity⟩
    exact ⟨hfamily, hvariant, hcapacity, hcomponents, himages, hpalette⟩
  · intro h
    exact ⟨⟨h.components, h.images, h.palette⟩, h.family, h.variant, h.capacity⟩

/-- The part of an input that can be at fault when it is assembled from text. -/
def examined (input : AssemblyInput) :
    Family × Variant × Option ExtractedPalette × List (String × ExtractedPalette) :=
  (input.family, input.variant, input.palette,
    (input.heroImage :: input.supportingImages).map fun image => (image.url, image.palette))

theorem Assemblable.of_examined_eq {contract : Contract} {input changed : AssemblyInput}
    {made remade : List Component} (h : Assemblable contract input made)
    (hsame : examined changed = examined input) (hremade : remade ≠ []) :
    Assemblable contract changed remade := by
  simp only [examined, Prod.mk.injEq] at hsame
  obtain ⟨hfamily, hvariant, hpalette, himages⟩ := hsame
  have hlength := congrArg List.length himages
  simp only [List.length_map, List.length_cons, Nat.add_right_cancel_iff] at hlength
  refine ⟨hfamily.trans h.family, hvariant.trans h.variant, hlength ▸ h.capacity, hremade, ?_,
    hpalette ▸ h.palette⟩
  intro image hmem
  have hexamined := himages ▸ List.mem_map_of_mem hmem
  obtain ⟨source, hsource, heq⟩ := List.mem_map.mp hexamined
  obtain ⟨hurl, hcolors⟩ := Prod.mk.inj heq
  have husable := h.images source hsource
  exact ⟨hurl ▸ husable.url, hcolors ▸ husable.colors⟩

def withoutId (image : GeneratedImage) : GeneratedImage :=
  { image with imageId := none }

/-- An input without what has no part in whether it can be assembled from text. -/
def bare (input : AssemblyInput) : AssemblyInput :=
  { input with
    heroImage := withoutId input.heroImage
    supportingImages := input.supportingImages.map withoutId
    navigation := none
    animations := []
    metadata := [] }

theorem examined_bare (input : AssemblyInput) : examined (bare input) = examined input := by
  simp [examined, bare, withoutId]

theorem component_bare (input : AssemblyInput) (text : GeneratedText) (kind : ComponentKind) :
    Synthesis.component (materialOf (bare input) text) kind =
      Synthesis.component (materialOf input text) kind := by
  cases kind with
  | image =>
      simp only [Synthesis.component, materialOf, bare]
      cases input.supportingImages <;> rfl
  | _ => rfl

theorem synthesized_bare (slots : Slots) (input : AssemblyInput) (text : GeneratedText) :
    synthesized slots (materialOf (bare input) text) =
      synthesized slots (materialOf input text) := by
  have hcomponent : Synthesis.component (materialOf (bare input) text) =
      Synthesis.component (materialOf input text) := funext (component_bare input text)
  simp only [synthesized, synthesizedKinds, hasContent, hcomponent]

theorem exists_strict_assemble_iff_of_bare_eq {contract : Contract}
    {input changed : AssemblyInput} {text : GeneratedText} (hregular : Regular contract.slots.all)
    (hnone : ∀ list, input.components = some list → list = []) (htext : input.text = some text)
    (hbare : bare changed = bare input) (vibe : Vibe) :
    (∃ outcome, (inMode (some contract) vibe .strict).assemble changed = .ok outcome) ↔
      ∃ outcome, (inMode (some contract) vibe .strict).assemble input = .ok outcome := by
  have hexamined : examined changed = examined input := by
    rw [← examined_bare changed, hbare, examined_bare]
  have hmade : synthesized contract.slots (materialOf changed text) =
      synthesized contract.slots (materialOf input text) := by
    rw [← synthesized_bare, hbare, synthesized_bare]
  have hgiven : changed.components = input.components := by
    change (bare changed).components = (bare input).components
    rw [hbare]
  have htextChanged : changed.text = some text := by
    change (bare changed).text = some text
    rw [hbare]
    exact htext
  rw [exists_strict_assemble_iff_assemblable hregular (hgiven ▸ hnone) htextChanged,
    exists_strict_assemble_iff_assemblable hregular hnone htext, hmade]
  exact ⟨fun h => h.of_examined_eq hexamined.symm h.components,
    fun h => h.of_examined_eq hexamined h.components⟩

/-- Assembly from text under a contract that passes its checks. The components are one for every
required kind and one for every other declared kind that there is content for, in declared order;
the contract never finds fault with them; and strict assembly succeeds exactly for the inputs with
the key of the contract, no more supporting images than it places, something to make a component of,
urls that are not blank and colors that are colors. Navigation, image ids, animations and metadata
have no part in it, and the text, form labels included, none but to leave a component to make. -/
theorem assemble_from_text {contract : Contract} {input : AssemblyInput} {text : GeneratedText}
    (haccepted : contract.report.isAccepted = true)
    (hnone : ∀ list, input.components = some list → list = []) (htext : input.text = some text) :
    let material := materialOf input text
    let made := synthesized contract.slots material
    (∀ vibe mode, (inMode (some contract) vibe mode).components input = .ok made) ∧
    (∀ c ∈ made, c = Synthesis.component material c.kind) ∧
    (∀ kind, (made.map Component.kind).count kind =
      if kind ∈ kindsOf contract.slots.required ∨
        kind ∈ kindsOf contract.slots.all ∧ hasContent material kind = true then 1 else 0) ∧
    made.map Component.kind = (kindsOf contract.slots.all).eraseDups.filter (fun kind =>
      (kindsOf contract.slots.required).contains kind || hasContent material kind) ∧
    (∀ document, document.components = made →
      ∀ v ∈ (contract.check document).errors ++ (contract.check document).warnings,
        v.code ∉ [.missingRequiredSlot, .invalidComponentType, .duplicateSlotComponent]) ∧
    (∀ vibe, (∃ outcome, (inMode (some contract) vibe .strict).assemble input = .ok outcome) ↔
      Assemblable contract input made) ∧
    (∀ changed, bare changed = bare input → ∀ vibe,
      (∃ outcome, (inMode (some contract) vibe .strict).assemble changed = .ok outcome) ↔
        ∃ outcome, (inMode (some contract) vibe .strict).assemble input = .ok outcome) ∧
    (∀ changed changedText, (∀ list, changed.components = some list → list = []) →
      changed.text = some changedText → examined changed = examined input →
      synthesized contract.slots (materialOf changed changedText) ≠ [] →
      ∀ vibe, (∃ outcome, (inMode (some contract) vibe .strict).assemble input = .ok outcome) →
        ∃ outcome, (inMode (some contract) vibe .strict).assemble changed = .ok outcome) := by
  intro material made
  have hregular : Regular contract.slots.all :=
    regular_of_invariantIssues ((isAccepted_ofIssues_iff _).mp haccepted)
  have hassemble := exists_strict_assemble_iff_assemblable hregular hnone htext
  refine ⟨components_inMode hnone htext contract, ?_, ?_, ?_, ?_, hassemble, ?_, ?_⟩
  · intro c hc
    exact eq_component_of_mem_synthesized hc
  · intro kind
    rw [map_kind_synthesized, (nodup_synthesizedKinds _ _).count]
    simp only [mem_synthesizedKinds_iff]
  · exact map_kind_synthesized contract.slots material
  · intro document hcomponents v hv
    exact code_of_mem_findings contract material hregular hcomponents hv
  · intro changed hbare
    exact exists_strict_assemble_iff_of_bare_eq hregular hnone htext hbare
  · intro changed changedText hchanged htextChanged hsame hne vibe hassembled
    refine (exists_strict_assemble_iff_assemblable hregular hchanged htextChanged vibe).mpr ?_
    exact ((hassemble vibe).mp hassembled).of_examined_eq hsame hne

/-- A profile without a name, whose image the store does not know. -/
def walker : AssemblyInput where
  family := .profileCard
  variant := .first
  heroImage := { imageId := some " ", url := "https://cdn.example/walker.png",
                 palette := { primary := "#123456" } }
  components := some []
  text := some { title := "  ", body := "Walks at dawn", formLabels := ["", "!?"] }
  navigation := some (.internal " ")

theorem walker_assemble_from_text :
    let contract := Builtin.contract ⟨.profileCard, .first⟩
    let strict := inMode (some contract) .default .strict
    let stored : AssemblyInput :=
      { walker with
        heroImage := { walker.heroImage with imageId := some "walker" }
        navigation := some (.external "https://cdn.example/walks")
        animations := [("hero", .str "fade")]
        metadata := [("author", .str "ranger")] }
    contract.report.isAccepted = true ∧
    strict.components walker =
      .ok [.title "" {}, .subtitle "" {}, .text "Walks at dawn" {},
        .imageAt "https://cdn.example/walker.png" none] ∧
    (∃ outcome, strict.assemble walker = .ok outcome) ∧
    ∃ outcome, strict.assemble stored = .ok outcome := by
  intro contract strict stored
  have haccepted : contract.report.isAccepted = true :=
    (isAccepted_ofIssues_iff _).mpr (by decide +kernel)
  have hnone : ∀ list, walker.components = some list → list = [] := by
    rintro list ⟨⟩
    rfl
  obtain ⟨hcomponents, _, _, _, _, hassemble, hbare, _⟩ := assemble_from_text haccepted hnone rfl
  have hwalker : ∃ outcome, strict.assemble walker = .ok outcome := by
    refine (hassemble .default).mpr ⟨rfl, rfl, by decide, by decide +kernel, ?_, nofun⟩
    intro image hmem
    obtain rfl := List.mem_singleton.mp hmem
    exact ⟨by decide +kernel, by decide +kernel⟩
  refine ⟨haccepted, ?_, hwalker, (hbare stored rfl .default).mpr hwalker⟩
  rw [hcomponents]
  decide +kernel

/-- A splash whose only slot is for a form, which may be left out. -/
def formSplash : Contract :=
  { Builtin.contract ⟨.splashFullscreen, .first⟩ with slots := ⟨[], ["form"]⟩ }

def signUpSheet (labels : List String) : AssemblyInput where
  family := .splashFullscreen
  variant := .first
  heroImage := { imageId := some "hero", url := "https://cdn.example/harbor.png",
                 palette := { primary := "#123456" } }
  text := some { formLabels := labels }

/-- With nothing else to make a component of, it is the form labels that assembly fails for. -/
theorem signUpSheet_needs_labels :
    let strict := inMode (some formSplash) .default .strict
    formSplash.report.isAccepted = true ∧
    (∃ outcome, strict.assemble (signUpSheet ["Name"]) = .ok outcome) ∧
    strict.assemble (signUpSheet []) =
      .error (.schemaInvalid [Document.Failure.componentsEmpty.at "components"
        "components must contain at least one component"]) := by
  intro strict
  have haccepted : formSplash.report.isAccepted = true :=
    (isAccepted_ofIssues_iff _).mpr (by decide +kernel)
  have hregular : Regular formSplash.slots.all :=
    regular_of_invariantIssues ((isAccepted_ofIssues_iff _).mp haccepted)
  have hnone : ∀ list, (signUpSheet ["Name"]).components = some list → list = [] := by
    rintro list ⟨⟩
  refine ⟨haccepted, ?_, by decide +kernel⟩
  refine (exists_strict_assemble_iff_assemblable hregular hnone rfl .default).mpr ?_
  refine ⟨rfl, rfl, by decide, by decide +kernel, ?_, by rintro palette ⟨⟩⟩
  intro image hmem
  obtain rfl := List.mem_singleton.mp hmem
  exact ⟨by decide +kernel, by decide +kernel⟩

end ScreenPattern.Proofs.TextAssembly
