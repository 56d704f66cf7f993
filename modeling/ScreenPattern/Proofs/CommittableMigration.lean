import ScreenPattern.Proofs.ContractConformance
import ScreenPattern.Proofs.DocumentAcceptance
import ScreenPattern.Proofs.MigrationChain

namespace ScreenPattern.Proofs.CommittableMigration

open ContractConformance DocumentAcceptance DocumentReading FieldReading MigrationChain
  MigrationProjection ReportAcceptance SchemaWalk
open Document
open Fields (get?)

variable {document : Document} {target : Contract} {keep : ComponentKind → Bool}

theorem wellFormed_restrict_iff (h : WellFormed document) :
    WellFormed (restrict document target keep) ↔
      ∃ c ∈ document.components, keep c.kind = true := by
  have hcomponents : (restrict document target keep).components ≠ [] ↔
      ∃ c ∈ document.components, keep c.kind = true := by
    simp [restrict]
  constructor
  · intro hwell
    exact hcomponents.mp hwell.components
  · intro hkept
    exact ⟨h.hero, h.supporting, h.colors, hcomponents.mpr hkept, h.navigation⟩

theorem isAccepted_restrict_iff (h : document.report.isAccepted = true) :
    (restrict document target keep).report.isAccepted = true ↔
      ∃ c ∈ document.components, keep c.kind = true := by
  obtain ⟨hwell, hread⟩ := (isAccepted_report_iff_wellFormed_and_read document).mp h
  have hkept : ∀ c ∈ (restrict document target keep).components,
      (Component.ofJson? c.toJson).isSome = true := by
    intro c hc
    exact hread c (List.mem_filter.mp hc).1
  rw [isAccepted_report_iff_wellFormed_and_read, wellFormed_restrict_iff hwell]
  exact and_iff_left hkept

theorem issues_toJson_without_components (hclean : Schema.issues document.toJson = []) :
    Schema.issues { document with components := [] }.toJson =
      [Failure.componentsEmpty.at "components"
        "components must contain at least one component"] := by
  refine (issues_eq_componentsIssues ?_ hclean).trans ?_
  · intro key hkey
    have hcomponents : ∀ value : Json, get? key [("components", value)] = none := by
      intro value
      rw [get?_cons, if_neg (Ne.symm hkey), get?_nil]
    simp only [get?_append, hcomponents]
  · have hpresent := fun fields => (present?_eq_some_iff "components" fields (.arr [])).mpr
    rw [Schema.componentsIssues, hpresent _ ⟨by simp, by simp⟩]

theorem issues_report_restrict (h : document.report.isAccepted = true)
    (hnone : ∀ c ∈ document.components, keep c.kind = false) :
    (restrict document target keep).report.issues =
      [Failure.componentsEmpty.at "components"
        "components must contain at least one component"] := by
  have hmoved : (restrict document target fun _ => true).report.isAccepted = true := by
    obtain ⟨hwell, _⟩ := (isAccepted_report_iff_wellFormed_and_read document).mp h
    obtain ⟨c, hc⟩ := List.exists_mem_of_ne_nil _ hwell.components
    exact (isAccepted_restrict_iff h).mpr ⟨c, hc, rfl⟩
  have hclean := ((isAccepted_rawReport_iff _).mp hmoved).1
  have hempty : restrict document target keep =
      { restrict document target (fun _ => true) with components := [] } := by
    simpa [restrict] using hnone
  rw [hempty, Document.report, Document.rawReport, issues_toJson_without_components hclean]
  exact issues_ofIssues_singleton _

theorem exists_allowed_of_migrated (hmigrated : (document.migrate target).migrated = true)
    (hrequired : target.slots.required ≠ []) :
    ∃ c ∈ document.components, target.slots.allows c.kind = true := by
  have hvalid : (target.check (document.migrate target).document).valid = true :=
    List.isEmpty_iff.mpr (migrated_iff.mp hmigrated).1
  have hconforms := (valid_check_iff _ _).mp hvalid
  obtain ⟨slot, hslot⟩ := List.exists_mem_of_ne_nil _ hrequired
  obtain ⟨kind, _, hfilled⟩ := (isFilled_kind?_iff _ slot).mp (hconforms.filled slot hslot)
  rw [migrate_document] at hfilled
  obtain ⟨c, hc, _⟩ := List.mem_map.mp hfilled
  obtain ⟨hmem, hallowed⟩ := List.mem_filter.mp hc
  exact ⟨c, hmem, hallowed⟩

/-- The contract finds nothing in a document that is migrated. The schema accepts it as long as some
component has a place in the target, which a required slot makes sure of; of a document that is left
without components the schema reports just that. -/
theorem migrated_clean_and_isAccepted_iff (haccepted : document.report.isAccepted = true)
    (hmigrated : (document.migrate target).migrated = true) :
    (target.check (document.migrate target).document).errors = [] ∧
    (target.check (document.migrate target).document).warnings = [] ∧
    ((document.migrate target).document.report.isAccepted = true ↔
      ∃ c ∈ document.components, target.slots.allows c.kind = true) ∧
    (target.slots.required ≠ [] →
      (document.migrate target).document.report.isAccepted = true) ∧
    ((∀ c ∈ document.components, target.slots.allows c.kind = false) →
      (document.migrate target).document.report.issues =
        [Failure.componentsEmpty.at "components"
          "components must contain at least one component"]) := by
  obtain ⟨herrors, hwarnings⟩ := migrated_iff.mp hmigrated
  refine ⟨herrors, hwarnings, ?_⟩
  rw [migrate_document]
  refine ⟨isAccepted_restrict_iff haccepted, ?_, issues_report_restrict haccepted⟩
  intro hrequired
  exact (isAccepted_restrict_iff haccepted).mpr (exists_allowed_of_migrated hmigrated hrequired)

theorem trailGuide_migrated_clean :
    let splash := Builtin.contract ⟨.splashFullscreen, .first⟩
    trailGuide.report.isAccepted = true ∧ (trailGuide.migrate splash).migrated = true ∧
    splash.slots.required ≠ [] ∧
    (trailGuide.migrate splash).document.report.isAccepted = true := by
  intro splash
  have haccepted : trailGuide.report.isAccepted = true :=
    (isAccepted_rawReport_iff _).mpr (by decide +kernel)
  have hmigrated : (trailGuide.migrate splash).migrated = true := by decide +kernel
  have hrequired : splash.slots.required ≠ [] := by decide
  obtain ⟨_, _, _, hreport, _⟩ := migrated_clean_and_isAccepted_iff haccepted hmigrated
  exact ⟨haccepted, hmigrated, hrequired, hreport hrequired⟩

def subtitleOnly : Contract :=
  { Builtin.contract ⟨.splashFullscreen, .first⟩ with slots := ⟨[], ["subtitle"]⟩ }

def titleOnly : Document :=
  { trailGuide with components := [.title "Trail guide" {}] }

/-- Nothing is wrong with what is migrated but that nothing is left of it. -/
theorem titleOnly_migrated_not_isAccepted :
    titleOnly.report.isAccepted = true ∧ subtitleOnly.report.isAccepted = true ∧
    (titleOnly.migrate subtitleOnly).migrated = true ∧
    ¬ (titleOnly.migrate subtitleOnly).document.report.isAccepted = true := by
  refine ⟨(isAccepted_rawReport_iff _).mpr ?_, (isAccepted_ofIssues_iff _).mpr ?_, ?_,
    fun h => absurd ((isAccepted_rawReport_iff _).mp h) ?_⟩ <;> decide +kernel

end ScreenPattern.Proofs.CommittableMigration
