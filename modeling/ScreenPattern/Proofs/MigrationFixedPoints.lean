import ScreenPattern.Proofs.ContractFindings

namespace ScreenPattern.Proofs.MigrationFixedPoints

open ContractConformance ContractFindings MigrationChain MigrationProjection SlotOccupancy

variable {document : Document} {target : Contract}

theorem restrict_eq_self_iff {keep : ComponentKind → Bool} :
    restrict document target keep = document ↔
      document.family = target.family ∧ document.variant = target.variant ∧
        ∀ c ∈ document.components, keep c.kind = true := by
  constructor
  · intro h
    have hfamily : target.family = document.family := congrArg Document.family h
    have hvariant : target.variant = document.variant := congrArg Document.variant h
    have hcomponents : document.components.filter (fun c => keep c.kind) = document.components :=
      congrArg Document.components h
    exact ⟨hfamily.symm, hvariant.symm, List.filter_eq_self.mp hcomponents⟩
  · rintro ⟨hfamily, hvariant, hkeep⟩
    apply restrict_eq_self _ hkeep
    rw [Contract.key, Document.key, hfamily, hvariant]

theorem forall_code_ne_invalid_iff :
    (∀ v ∈ (target.check document).errors, v.code ≠ .invalidComponentType) ↔
      ∀ c ∈ document.components, target.slots.allows c.kind = true := by
  rw [← kindErrors_eq_nil_iff, ← filter_invalid_errors, List.filter_eq_nil_iff]
  simp only [beq_iff_eq, ne_eq]

theorem migrate_document_eq_self_iff :
    (document.migrate target).document = document ↔
      document.family = target.family ∧ document.variant = target.variant ∧
        ∀ v ∈ (target.check document).errors, v.code ≠ .invalidComponentType := by
  rw [migrate_document, restrict_eq_self_iff, forall_code_ne_invalid_iff]

theorem lost_eq_nil_of_fixed (h : (document.migrate target).document = document) :
    (document.migrate target).lost = [] := by
  rw [migrate_document] at h
  exact (migrate_lost_eq_nil_iff document target).mpr (restrict_eq_self_iff.mp h).2.2

/-- No row of the plan is without a slot, so the warnings are left to the contract. -/
theorem warnings_of_fixed (h : (document.migrate target).document = document) :
    (document.migrate target).warnings = (target.check document).messages := by
  have hrows : (MigrationPlan.of document target).rows.filter (fun m => m.slot.isNone) = [] :=
    List.map_eq_nil_iff.mp (lost_eq_nil_of_fixed h)
  have hlosses : (MigrationPlan.of document target).lossWarnings = [] := by
    rw [MigrationPlan.lossWarnings, hrows]
    rfl
  have hwarnings : (document.migrate target).warnings =
      (MigrationPlan.of document target).lossWarnings ++
        (target.check (document.migrate target).document).messages := rfl
  rw [hwarnings, hlosses, h, List.nil_append]

theorem fixed_of_valid (h : (target.check document).valid = true) :
    (document.migrate target).document = document := by
  have hconforms := (valid_check_iff target document).mp h
  rw [migrate_document, restrict_eq_self_iff]
  exact ⟨hconforms.family, hconforms.variant, hconforms.allowed⟩

/-- A migration leaves a document as it is exactly if the document has the key of the target and the
contract finds no component of a wrong kind in it. Then nothing is lost and the warnings are the
messages of the contract. For a valid document these are about repeated components only. -/
theorem migrate_eq_self_iff_and_warnings (document : Document) (target : Contract) :
    let report := document.migrate target
    let findings := target.check document
    (report.document = document ↔
      document.family = target.family ∧ document.variant = target.variant ∧
        ∀ v ∈ findings.errors, v.code ≠ .invalidComponentType) ∧
    (report.document = document → report.lost = [] ∧ report.warnings = findings.messages) ∧
    (findings.valid = true →
      report.document = document ∧ report.lost = [] ∧
        report.warnings = findings.warnings.map Violation.text ∧
        ∀ v ∈ findings.warnings, v.code = .duplicateSlotComponent) := by
  intro report findings
  refine ⟨migrate_document_eq_self_iff, ?_, ?_⟩
  · intro hfixed
    exact ⟨lost_eq_nil_of_fixed hfixed, warnings_of_fixed hfixed⟩
  · intro hvalid
    have hfixed : report.document = document := fixed_of_valid hvalid
    have herrors : findings.errors = [] := List.isEmpty_iff.mp hvalid
    refine ⟨hfixed, lost_eq_nil_of_fixed hfixed, ?_, ?_⟩
    · refine (warnings_of_fixed hfixed).trans ?_
      change (findings.errors ++ findings.warnings).map Violation.text = _
      rw [herrors, List.nil_append]
    · intro v hv
      exact code_of_mem_repetitionWarnings hv

/-- Two texts in one slot are no reason to change anything, and neither is a hero image that is
missing. -/
theorem trailGuide_migrate_eq_self :
    let detail := Builtin.contract trailGuide.key
    let bare := { trailGuide with heroImage := none }
    (detail.check trailGuide).valid = true ∧ (trailGuide.migrate detail).document = trailGuide ∧
    (trailGuide.migrate detail).warnings = [(repetition detail
      (.text "A loop through the high country" {}, 3)).text] ∧
    (detail.check bare).valid = false ∧ (bare.migrate detail).document = bare ∧
    (bare.migrate detail).warnings = (detail.check bare).messages := by
  intro detail bare
  obtain ⟨_, _, hvalid⟩ := migrate_eq_self_iff_and_warnings trailGuide detail
  obtain ⟨hfixed, hwarnings, _⟩ := migrate_eq_self_iff_and_warnings bare detail
  have hchecked : (detail.check trailGuide).valid = true := by decide +kernel
  obtain ⟨hsame, _, hrepeated, _⟩ := hvalid hchecked
  have hbare : (bare.migrate detail).document = bare :=
    hfixed.mpr ⟨rfl, rfl, by decide +kernel⟩
  refine ⟨hchecked, hsame, hrepeated.trans ?_, ?_, hbare, (hwarnings hbare).2⟩
  · decide +kernel
  · decide +kernel

end ScreenPattern.Proofs.MigrationFixedPoints
