import ScreenPattern.Migration.Report

namespace ScreenPattern.Proofs.MigrationProjection

/-- The document under another contract, with the components whose kind is kept. -/
def restrict (document : Document) (target : Contract) (keep : ComponentKind → Bool) : Document :=
  { document with
    family := target.family
    variant := target.variant
    components := document.components.filter fun c => keep c.kind }

theorem restrict_restrict (document : Document) (first second : Contract)
    (keepFirst keepSecond : ComponentKind → Bool) :
    restrict (restrict document first keepFirst) second keepSecond =
      restrict document second fun kind => keepFirst kind && keepSecond kind := by
  simp only [restrict, List.filter_filter, Bool.and_comm]

theorem restrict_eq_self {document : Document} {target : Contract} {keep : ComponentKind → Bool}
    (hkey : target.key = document.key) (hkeep : ∀ c ∈ document.components, keep c.kind = true) :
    restrict document target keep = document := by
  obtain ⟨hfamily, hvariant⟩ := ContractKey.mk.inj hkey
  have hcomponents : document.components.filter (fun c => keep c.kind) = document.components :=
    List.filter_eq_self.mpr hkeep
  simp only [restrict, hfamily, hvariant, hcomponents]

/-- The row of a plan for the component at an index. -/
def row (target : Contract) (e : Component × Nat) : ComponentMatch :=
  ⟨e.2, e.1.kind, (target.slots.slotFor? e.1.kind).map Text.trim⟩

theorem row_isSome (target : Contract) (e : Component × Nat) :
    (row target e).slot.isSome = target.slots.allows e.1.kind := by
  simp [row, Slots.allows]

theorem row_isNone (target : Contract) (e : Component × Nat) :
    (row target e).slot.isNone = !target.slots.allows e.1.kind := by
  simp [row, Slots.allows]

theorem rows_of (document : Document) (target : Contract) :
    (MigrationPlan.of document target).rows = document.components.zipIdx.map (row target) :=
  rfl

/-- Row and component stay side by side. -/
theorem zip_rows (document : Document) (target : Contract) :
    document.components.zip (MigrationPlan.of document target).rows =
      document.components.zipIdx.map fun e => (e.1, row target e) := by
  calc
    _ = (document.components.zipIdx.map Prod.fst).zip
          (document.components.zipIdx.map (row target)) := by
      rw [List.zipIdx_map_fst, rows_of]
    _ = _ := List.zip_map'

theorem filter_zipIdx_fst (components : List Component) (keep : ComponentKind → Bool) :
    (components.zipIdx.filter fun e => keep e.1.kind).map (·.1) =
      components.filter fun c => keep c.kind := by
  calc
    _ = (components.zipIdx.map Prod.fst).filter fun c => keep c.kind := by
      rw [List.filter_map]
      rfl
    _ = _ := by rw [List.zipIdx_map_fst]

theorem project_of (document : Document) (target : Contract) :
    (MigrationPlan.of document target).project document =
      restrict document target target.slots.allows := by
  have hcomponents : ((document.components.zip (MigrationPlan.of document target).rows).filter
        fun cm => cm.2.slot.isSome).map (·.1) =
      document.components.filter fun c => target.slots.allows c.kind := by
    rw [zip_rows, List.filter_map, List.map_map, ← filter_zipIdx_fst]
    simp only [Function.comp_def, row_isSome]
  simp only [MigrationPlan.project, hcomponents]
  rfl

theorem migrate_document (document : Document) (target : Contract) :
    (document.migrate target).document = restrict document target target.slots.allows :=
  project_of document target

theorem kinds_restrict (document : Document) (target : Contract) (keep : ComponentKind → Bool) :
    (restrict document target keep).kinds = document.kinds.filter keep := by
  simp only [restrict, Document.kinds, List.filter_map]
  rfl

theorem migrated_iff {document : Document} {target : Contract} :
    (document.migrate target).migrated = true ↔
      (target.check (document.migrate target).document).errors = [] ∧
      (target.check (document.migrate target).document).warnings = [] := by
  change ((target.check _).errors.isEmpty && (target.check _).warnings.isEmpty) = true ↔ _
  rw [Bool.and_eq_true, List.isEmpty_iff, List.isEmpty_iff]
  rfl

theorem migrate_lost (document : Document) (target : Contract) :
    (document.migrate target).lost =
      document.kinds.filter fun kind => !target.slots.allows kind := by
  change ((MigrationPlan.of document target).rows.filter fun m => m.slot.isNone).map (·.kind) = _
  rw [rows_of, List.filter_map, List.map_map, Document.kinds, List.filter_map]
  change _ = (document.components.filter fun c => !target.slots.allows c.kind).map Component.kind
  rw [← filter_zipIdx_fst document.components fun kind => !target.slots.allows kind, List.map_map]
  simp only [Function.comp_def, row_isNone]
  rfl

theorem migrate_lost_eq_nil_iff (document : Document) (target : Contract) :
    (document.migrate target).lost = [] ↔
      ∀ c ∈ document.components, target.slots.allows c.kind = true := by
  rw [migrate_lost]
  simp [Document.kinds]

end ScreenPattern.Proofs.MigrationProjection
