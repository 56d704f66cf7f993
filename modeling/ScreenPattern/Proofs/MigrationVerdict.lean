import ScreenPattern.Proofs.ContractConformance
import ScreenPattern.Proofs.MigrationChain

namespace ScreenPattern.Proofs.MigrationVerdict

open ContractConformance MigrationChain MigrationProjection

variable {document : Document} {target : Contract}

/-- What a document has to be like for a contract to take it over without a finding. -/
structure Suits (target : Contract) (document : Document) : Prop where
  filled : ∀ slot ∈ target.slots.required, ∃ kind, Slot.kind? slot = some kind ∧
    kind ∈ document.kinds
  single : ∀ kind, target.slots.allows kind = true → document.kinds.count kind ≤ 1
  hero : document.heroImage.isSome = true
  capacity : document.supportingImages.length ≤ target.supportingCapacity

/-- A required slot allows its own kind, so no component that could fill it is lost. -/
theorem isFilled_restrict_iff {slot : String} (hslot : slot ∈ target.slots.required) :
    Contract.isFilled (restrict document target target.slots.allows).components
        (Slot.kind? slot) = true ↔
      ∃ kind, Slot.kind? slot = some kind ∧ kind ∈ document.kinds := by
  refine (isFilled_kind?_iff _ slot).trans
    (exists_congr fun kind => and_congr_right fun hkind => ?_)
  have hallowed : target.slots.allows kind = true :=
    (allows_iff _ _).mpr ⟨slot, List.mem_append_left _ hslot, hkind⟩
  change kind ∈ (restrict document target target.slots.allows).kinds ↔ _
  rw [kinds_restrict, List.mem_filter]
  exact and_iff_left hallowed

theorem conforms_restrict_iff :
    Conforms target (restrict document target target.slots.allows) ↔
      (∀ slot ∈ target.slots.required, ∃ kind, Slot.kind? slot = some kind ∧
        kind ∈ document.kinds) ∧
      document.heroImage.isSome = true ∧
      document.supportingImages.length ≤ target.supportingCapacity := by
  constructor
  · intro h
    exact ⟨fun slot hslot => (isFilled_restrict_iff hslot).mp (h.filled slot hslot), h.hero,
      h.capacity⟩
  · rintro ⟨hfilled, hhero, hcapacity⟩
    have hallowed : ∀ c ∈ (restrict document target target.slots.allows).components,
        target.slots.allows c.kind = true :=
      fun c hc => (List.mem_filter.mp hc).2
    exact ⟨rfl, rfl, fun slot hslot => (isFilled_restrict_iff hslot).mpr (hfilled slot hslot),
      hallowed, hhero, hcapacity⟩

theorem warnings_check_restrict_eq_nil_iff :
    (target.check (restrict document target target.slots.allows)).warnings = [] ↔
      ∀ kind, target.slots.allows kind = true → document.kinds.count kind ≤ 1 := by
  refine (repetitionWarnings_eq_nil_iff_count _ _).trans ?_
  refine forall₂_congr fun kind hallowed => ?_
  change (restrict document target target.slots.allows).kinds.count kind ≤ 1 ↔ _
  rw [kinds_restrict, List.count_filter hallowed]

theorem migrated_iff_suits : (document.migrate target).migrated = true ↔ Suits target document := by
  have hvalid : (target.check (restrict document target target.slots.allows)).errors = [] ↔
      Conforms target (restrict document target target.slots.allows) :=
    List.isEmpty_iff.symm.trans (valid_check_iff _ _)
  rw [migrated_iff, migrate_document, hvalid, conforms_restrict_iff,
    warnings_check_restrict_eq_nil_iff]
  constructor
  · rintro ⟨⟨hfilled, hhero, hcapacity⟩, hsingle⟩
    exact ⟨hfilled, hsingle, hhero, hcapacity⟩
  · intro h
    exact ⟨⟨h.filled, h.hero, h.capacity⟩, h.single⟩

/-- What a contract finds in a document that was moved to it is never about what the move settles.
-/
theorem code_of_mem_check_restrict {v : Violation}
    (hv : v ∈ (target.check (restrict document target target.slots.allows)).errors ++
      (target.check (restrict document target target.slots.allows)).warnings) :
    v.code ∉ [.familyMismatch, .variantMismatch, .invalidComponentType] := by
  have hidentity : target.identityErrors (restrict document target target.slots.allows) = [] :=
    (identityErrors_eq_nil_iff _ _).mpr ⟨rfl, rfl⟩
  have hkinds : target.kindErrors
      (restrict document target target.slots.allows).components = [] :=
    (kindErrors_eq_nil_iff _ _).mpr fun c hc => (List.mem_filter.mp hc).2
  simp only [Contract.check, hidentity, hkinds, List.nil_append, List.append_nil,
    List.mem_append] at hv
  rcases hv with ((hv | hv) | hv) | hv
  · simp [code_of_mem_missingSlotErrors hv]
  · simp [code_of_mem_heroErrors hv]
  · rcases code_of_mem_supportingErrors hv with h | h <;> simp [h]
  · simp [code_of_mem_repetitionWarnings hv]

theorem warnings_migrate_eq_nil_iff :
    (document.migrate target).warnings = [] ↔
      (document.migrate target).migrated = true ∧ (document.migrate target).lost = [] := by
  have hsplit : (document.migrate target).warnings = [] ↔
      (MigrationPlan.of document target).lossWarnings = [] ∧
      (target.check (document.migrate target).document).messages = [] :=
    List.append_eq_nil_iff
  have hlost : (MigrationPlan.of document target).lossWarnings = [] ↔
      (document.migrate target).lost = [] :=
    List.map_eq_nil_iff.trans List.map_eq_nil_iff.symm
  rw [hsplit, hlost, migrated_iff, and_comm, Conformance.messages, List.map_eq_nil_iff,
    List.append_eq_nil_iff]

/-- A document is migrated exactly if the source suits the contract. What the contract can still
find in the moved document is about slots that are left empty, components that are repeated and
images; and nothing at all is reported exactly if the document is migrated and no component is
lost. -/
theorem migrated_iff_and_findings (document : Document) (target : Contract) :
    let report := document.migrate target
    let findings := target.check report.document
    (report.migrated = true ↔ Suits target document) ∧
    (∀ v ∈ findings.errors ++ findings.warnings,
      v.code ∉ [.familyMismatch, .variantMismatch, .invalidComponentType]) ∧
    (report.warnings = [] ↔ report.migrated = true ∧ report.lost = []) := by
  intro report findings
  refine ⟨migrated_iff_suits, fun v hv => ?_, warnings_migrate_eq_nil_iff⟩
  have hmoved : findings = target.check (restrict document target target.slots.allows) :=
    congrArg target.check (migrate_document document target)
  rw [hmoved] at hv
  exact code_of_mem_check_restrict hv

theorem trailGuide_migrated_iff :
    let splash := Builtin.contract ⟨.splashFullscreen, .first⟩
    let detail := Builtin.contract trailGuide.key
    Suits splash trailGuide ∧ (trailGuide.migrate splash).migrated = true ∧
    (trailGuide.migrate splash).warnings ≠ [] ∧
    trailGuide.kinds.count .text = 2 ∧ ¬ (trailGuide.migrate detail).migrated = true ∧
    (∀ v ∈ (detail.check (trailGuide.migrate detail).document).warnings,
      v.code ≠ .invalidComponentType) := by
  intro splash detail
  obtain ⟨hsplash, _, hwarnings⟩ := migrated_iff_and_findings trailGuide splash
  obtain ⟨hdetail, hcodes, _⟩ := migrated_iff_and_findings trailGuide detail
  have hsuits : Suits splash trailGuide := by
    refine ⟨?_, fun kind => ?_, rfl, Nat.zero_le _⟩
    · intro slot hslot
      obtain rfl := List.mem_singleton.mp hslot
      exact ⟨.title, by decide +kernel, by decide⟩
    · cases kind <;> decide +kernel
  have hlost : (trailGuide.migrate splash).lost ≠ [] := by decide +kernel
  have htexts : trailGuide.kinds.count .text = 2 := by decide
  refine ⟨hsuits, hsplash.mpr hsuits, fun h => hlost (hwarnings.mp h).2, htexts, ?_, ?_⟩
  · intro hmigrated
    have hsingle := (hdetail.mp hmigrated).single .text (by decide +kernel)
    omega
  · intro v hv
    have hcode := hcodes v (List.mem_append_right _ hv)
    exact fun h => hcode (by simp [h])

end ScreenPattern.Proofs.MigrationVerdict
