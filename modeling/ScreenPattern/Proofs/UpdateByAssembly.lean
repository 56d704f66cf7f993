import ScreenPattern.Proofs.DocumentAcceptance
import ScreenPattern.Proofs.SuppliedComponents

namespace ScreenPattern.Proofs.UpdateByAssembly

open AssemblyModes DocumentAcceptance FieldReading MigrationChain SchemaWalk SuppliedComponents
open Document.Schema (bagIssues)
open Fields (get?)

section Metadata

variable (document : Document) (metadata : Fields Json)

/-- Metadata is an object in any case, so the walk never faults it. -/
theorem bagIssues_metadata {root : Fields Json} (hroot : document.toJson = .obj root) :
    bagIssues root "metadata" = [] := by
  rw [bagIssues_eq_nil_iff]
  refine mayHave_of_forall fun j hj => ?_
  cases hroot
  obtain ⟨_, rfl⟩ : document.metadata ≠ [] ∧ .obj document.metadata = j := by simpa using hj
  exact ⟨_, rfl, trivial⟩

theorem issues_toJson_with_metadata :
    Document.Schema.issues { document with metadata }.toJson =
      Document.Schema.issues document.toJson := by
  refine issues_congr_of_agree "metadata" ?_ ?_
  · intro key hkey
    have hmetadata : ∀ fields : Fields Json,
        get? key (Fields.entryOfFields "metadata" fields) = none := by
      intro fields
      rw [get?_entryOfFields, if_neg fun h => hkey h.1.symm]
    simp only [get?_append, hmetadata]
  · intro part hpart hname
    obtain rfl := eq_of_name_eq hpart
      (show ("metadata", fun root => bagIssues root "metadata") ∈ parts by simp [parts]) hname
    exact (bagIssues_metadata { document with metadata } rfl).trans
      (bagIssues_metadata document rfl).symm

theorem report_with_metadata :
    ({ document with metadata } : Document).report = document.report := by
  rw [report_eq_ofIssues, report_eq_ofIssues, issues_toJson_with_metadata]

end Metadata

def withoutMetadata (outcome : AssemblyOutcome) : AssemblyOutcome :=
  { outcome with document := { outcome.document with metadata := [] } }

def amend (input : AssemblyInput) (update : DocumentUpdate) (metadata : Fields Json) :
    AssemblyInput :=
  { input with
    heroImage := update.heroImage.getD input.heroImage
    supportingImages := update.supportingImages.getD input.supportingImages
    components := update.components.or input.components
    navigation := match update.navigation with
      | .keep => input.navigation
      | .clear => none
      | .put navigation => some navigation
    palette := update.palette.or input.palette
    vibe := update.vibe.or input.vibe
    animations := update.animations.getD input.animations
    metadata }

section Finish

variable (assembler : Assembler) (document : Document) (metadata : Fields Json)

theorem outcome_with_metadata :
    assembler.outcome { document with metadata } =
      { assembler.outcome document with document := { document with metadata } } := by
  simp only [Assembler.outcome, report_with_metadata]
  rfl

theorem map_finish_with_metadata :
    (assembler.finish { document with metadata }).map withoutMetadata =
      (assembler.finish document).map withoutMetadata := by
  simp only [Assembler.finish, outcome_with_metadata]
  split
  · rfl
  · split
    · rfl
    · rfl

end Finish

section Paths

variable {assembler : Assembler} {input : AssemblyInput} {components : List Component}
  {update : DocumentUpdate} {document : Document}

/-- Field by field, an update of what was drafted is what is drafted from the amended input. The
palette and the vibe have to be those of the input, since those of a hero image change with it. -/
theorem revise_draft (hpalette : input.palette.isSome = true) (hvibe : input.vibe.isSome = true)
    (metadata : Fields Json) :
    { Assembler.revise (assembler.draft input components) update with metadata } =
      assembler.draft (amend input update metadata) (update.components.getD components) := by
  obtain ⟨palette, hpalette⟩ := Option.isSome_iff_exists.mp hpalette
  obtain ⟨vibe, hvibe⟩ := Option.isSome_iff_exists.mp hvibe
  simp only [Assembler.revise, Assembler.draft, amend, hpalette, hvibe, Document.mk.injEq, true_and,
    and_true]
  refine ⟨?_, ?_, ?_, ?_, ?_⟩
  · cases update.heroImage <;> rfl
  · cases update.supportingImages <;> rfl
  · cases update.palette <;> rfl
  · cases update.vibe <;> rfl
  · cases update.navigation <;> rfl

/-- Components that were assembled once are accepted again, so it does not matter that an update
without components does not check them. -/
theorem update_eq_bind (haccepts : assembler.accepts components = .ok ()) :
    assembler.update document update =
      (assembler.accepts (update.components.getD components)).bind fun _ =>
        assembler.finish (Assembler.revise document update) := by
  rw [Assembler.update]
  cases update.components with
  | none =>
      simp only [Option.getD_none, haccepts]
      rfl
  | some list => rfl

theorem assemble_amend_eq_bind (hcomponents : input.components = some components)
    (hne : components ≠ []) (hupdate : ∀ list, update.components = some list → list ≠ [])
    (metadata : Fields Json) :
    assembler.assemble (amend input update metadata) =
      (assembler.accepts (update.components.getD components)).bind fun _ =>
        assembler.finish (assembler.draft (amend input update metadata)
          (update.components.getD components)) := by
  have hgiven : supplied (.assemble (amend input update metadata)) =
      some (update.components.getD components) := by
    change update.components.or input.components = _
    rw [hcomponents]
    cases update.components <;> rfl
  have hfilled : update.components.getD components ≠ [] := by
    cases hlist : update.components with
    | none => exact hne
    | some list => exact hupdate list hlist
  exact perform_supplied_eq assembler hfilled hgiven

theorem map_update_draft_eq (hpalette : input.palette.isSome = true)
    (hvibe : input.vibe.isSome = true) (hcomponents : input.components = some components)
    (hne : components ≠ []) (haccepts : assembler.accepts components = .ok ())
    (hupdate : ∀ list, update.components = some list → list ≠ []) (metadata : Fields Json) :
    (assembler.update (assembler.draft input components) update).map withoutMetadata =
      (assembler.assemble (amend input update metadata)).map withoutMetadata := by
  rw [update_eq_bind haccepts, assemble_amend_eq_bind hcomponents hne hupdate metadata,
    ← revise_draft hpalette hvibe metadata]
  cases assembler.accepts (update.components.getD components) with
  | error error => simp only [Except.bind, Except.map]
  | ok _ =>
      simp only [Except.bind]
      exact (map_finish_with_metadata assembler
        (Assembler.revise (assembler.draft input components) update) metadata).symm

end Paths

theorem accepts_and_document_of_assemble {contract : Option Contract} {vibe : Vibe}
    {input : AssemblyInput} {components : List Component} {outcome : AssemblyOutcome}
    (hcomponents : input.components = some components) (hne : components ≠ [])
    (hassembled : (inMode contract vibe .collect).assemble input = .ok outcome)
    (mode : AssemblyMode) :
    (inMode contract vibe mode).accepts components = .ok () ∧
      outcome.document = (inMode contract vibe mode).draft input components := by
  have hperform : (inMode contract vibe .collect).assemble input =
      ((inMode contract vibe mode).accepts components).bind fun _ =>
        .ok ((inMode contract vibe .collect).outcome
          ((inMode contract vibe mode).draft input components)) :=
    perform_supplied_eq _ hne (show supplied (.assemble input) = some components from hcomponents)
  rw [hassembled] at hperform
  cases haccepts : (inMode contract vibe mode).accepts components with
  | error error =>
      rw [haccepts] at hperform
      cases hperform
  | ok _ =>
      rw [haccepts] at hperform
      cases hperform
      exact ⟨rfl, rfl⟩

/-- To update a document is to assemble it from the amended input. Both fail in the same way, or the
outcomes differ in the metadata of their documents at most. Since the input may have any metadata,
neither the metadata of the update nor its time has a part in this; and neither check says anything
else of a document when its metadata is another. -/
theorem update_eq_assemble_amend (contract : Option Contract) (vibe : Vibe) (mode : AssemblyMode)
    (input : AssemblyInput) (hpalette : input.palette.isSome = true)
    (hvibe : input.vibe.isSome = true) (components : List Component)
    (hcomponents : input.components = some components) (hne : components ≠ [])
    (outcome : AssemblyOutcome)
    (hassembled : (inMode contract vibe .collect).assemble input = .ok outcome)
    (update : DocumentUpdate) (hupdate : ∀ list, update.components = some list → list ≠ [])
    (metadata : Fields Json) :
    let assembler := inMode contract vibe mode
    (assembler.update outcome.document update).map withoutMetadata =
      (assembler.assemble (amend input update metadata)).map withoutMetadata ∧
    ∀ document : Document,
      ({ document with metadata } : Document).report = document.report ∧
        ∀ bound : Contract, bound.check { document with metadata } = bound.check document := by
  intro assembler
  obtain ⟨haccepts, hdocument⟩ :=
    accepts_and_document_of_assemble hcomponents hne hassembled mode
  refine ⟨?_, fun document => ⟨report_with_metadata document metadata, fun bound => rfl⟩⟩
  rw [hdocument]
  exact map_update_draft_eq hpalette hvibe hcomponents hne haccepts hupdate metadata

def trailGuideInput : AssemblyInput where
  family := trailGuide.family
  variant := trailGuide.variant
  heroImage := { imageId := some "hero", url := "https://cdn.example/lakes.png",
                 palette := { primary := "#112233" }, vibe := some .bold }
  components := some trailGuide.components
  navigation := some (.internal "map")
  palette := some { primary := "#112233", accent := some "#778899" }
  vibe := some .calm

/-- The new hero image keeps its palette and its vibe to itself, and the new navigation is trimmed.
-/
theorem trailGuide_update_eq_assemble_amend :
    let contract := some (Builtin.contract trailGuide.key)
    let collect := inMode contract .default .collect
    let strict := inMode contract .default .strict
    let update : DocumentUpdate :=
      { heroImage := some { imageId := some "peak", url := "https://cdn.example/peak.png",
                            palette := { primary := "#008080" }, vibe := some .dark }
        components := some [.title "Peak guide" {}, .text "One peak in a day" {}]
        navigation := .put (.internal " peaks ")
        metadata := [("updated_at", .str "never")]
        now := ⟨1700000000, 0⟩ }
    let updated := Assembler.revise (collect.draft trailGuideInput trailGuide.components) update
    trailGuideInput.palette.isSome = true ∧ trailGuideInput.vibe.isSome = true ∧
    trailGuideInput.components = some trailGuide.components ∧ trailGuide.components ≠ [] ∧
    (∀ list, update.components = some list → list ≠ []) ∧
    (updated.heroImage.map ImageRef.id = some "peak" ∧ updated.palette.primary = "#112233" ∧
      updated.vibe = .calm ∧ updated.navigation = some (.internal "peaks")) ∧
    ∃ outcome, collect.assemble trailGuideInput = .ok outcome ∧
      strict.update outcome.document update = .ok (strict.outcome updated) ∧
      (strict.update outcome.document update).map withoutMetadata =
        (strict.assemble (amend trailGuideInput update [("author", .str "ranger")])).map
          withoutMetadata := by
  intro contract collect strict update updated
  have hne : trailGuide.components ≠ [] := by decide
  have hupdate : ∀ list, update.components = some list → list ≠ [] := by
    rintro list hlist
    cases hlist
    decide
  have haccepts : collect.accepts trailGuide.components = .ok () := by decide +kernel
  have hassembled : collect.assemble trailGuideInput =
      .ok (collect.outcome (collect.draft trailGuideInput trailGuide.components)) := by
    have hperform := perform_supplied_eq collect hne
      (show supplied (.assemble trailGuideInput) = some trailGuide.components from rfl)
    rw [haccepts] at hperform
    exact hperform
  refine ⟨rfl, rfl, rfl, hne, hupdate, by decide +kernel, _, hassembled, by decide +kernel, ?_⟩
  exact (update_eq_assemble_amend contract .default .strict trailGuideInput rfl rfl
    trailGuide.components rfl hne _ hassembled update hupdate [("author", .str "ranger")]).1

end ScreenPattern.Proofs.UpdateByAssembly
