import ScreenPattern.Proofs.ContractRoundTrip

namespace ScreenPattern.Proofs.ContractAcceptance

open ContractRoundTrip ContractSlots FieldReading ReportAcceptance SchemaWalk
open Contract

/-- A slot position that takes up space. -/
structure IsSized (position : SlotPosition) : Prop where
  width : 0 < position.width
  height : position.height ≠ some 0

/-- No breakpoint of a flex layout brings in a grid template. -/
def IsUngridded (contract : Contract) : Prop :=
  ∀ direction, contract.layout.arrangement = .flex direction →
    ∀ breakpoint ∈ contract.responsive.breakpoints, breakpoint.2.gridTemplate = none

structure WellMade (contract : Contract) : Prop where
  slots : Regular contract.slots.all
  placed : ∀ slot ∈ contract.slots.required, slot ∈ contract.layout.positions.keys
  hero : heroSlot ∈ contract.layout.positions.keys ∨ contract.images.hero.isSome = true
  sized : ∀ entry ∈ contract.layout.positions, IsSized entry.2
  template : IsDrawn contract.layout.arrangement
  breakpoints : IsUngridded contract
  name : Text.isBlank contract.name = false
  version : Text.isBlank contract.version = false

theorem contains_iff {α : Type} (key : String) (fields : Fields α) :
    Fields.contains key fields = true ↔ key ∈ fields.keys := by
  rw [Fields.contains, Option.isSome_iff_ne_none, ne_eq, get?_eq_none_iff, not_not]

section Parts

variable (contract : Contract)

theorem unpositionedIssues_eq_nil_iff :
    unpositionedIssues contract = [] ↔
      ∀ slot ∈ contract.slots.required, slot ∈ contract.layout.positions.keys := by
  have hslot : ∀ (slot : String) (i : Nat),
      (if Fields.contains slot contract.layout.positions then []
      else [Failure.requiredSlotUnpositioned.at (Path.index "componentSlots.required" i)
        ("required slot " ++ Text.quote slot ++ " has no entry in layout.positions")]) = [] ↔
      slot ∈ contract.layout.positions.keys := by
    intro slot i
    rw [← contains_iff]
    split <;> simp [*]
  exact flatMap_zipIdx_eq_nil_iff hslot contract.slots.required

theorem heroIssues_eq_nil_iff :
    heroIssues contract = [] ↔
      heroSlot ∈ contract.layout.positions.keys ∨ contract.images.hero.isSome = true := by
  rw [← contains_iff, ← Bool.or_eq_true, heroIssues]
  change _ ↔ contract.declaresHero = true
  split <;> simp [*]

theorem positionIssues_eq_nil_iff (name : String) (position : SlotPosition) :
    positionIssues name position = [] ↔ IsSized position := by
  have hwidth : position.width ≠ 0 ↔ 0 < position.width := UInt32.pos_iff_ne_zero.symm
  simp only [positionIssues, List.append_eq_nil_iff, ite_eq_right_iff, reduceCtorEq, imp_false,
    hwidth]
  constructor
  · rintro ⟨hpositive, hheight⟩
    exact ⟨hpositive, hheight⟩
  · intro h
    exact ⟨h.width, h.height⟩

theorem arrangementIssues_eq_nil_iff :
    arrangementIssues contract = [] ↔
      IsDrawn contract.layout.arrangement ∧ IsUngridded contract := by
  unfold arrangementIssues IsDrawn IsUngridded
  cases contract.layout.arrangement with
  | grid template => cases hblank : Text.isBlank template <;> simp [hblank]
  | flex direction => simp

end Parts

theorem invariantIssues_eq_nil_iff (contract : Contract) :
    contract.invariantIssues = [] ↔ WellMade contract := by
  simp only [invariantIssues, List.append_eq_nil_iff, groupIssues_both_eq_nil_iff,
    unpositionedIssues_eq_nil_iff, heroIssues_eq_nil_iff, List.flatMap_eq_nil_iff,
    positionIssues_eq_nil_iff, arrangementIssues_eq_nil_iff, filledIssues_eq_nil_iff]
  constructor
  · rintro ⟨⟨⟨⟨⟨⟨hslots, hplaced⟩, hhero⟩, hsized⟩, htemplate, hbreakpoints⟩, hname⟩, hversion⟩
    exact ⟨hslots, hplaced, hhero, hsized, htemplate, hbreakpoints, hname, hversion⟩
  · intro h
    exact ⟨⟨⟨⟨⟨⟨h.slots, h.placed⟩, h.hero⟩, h.sized⟩, h.template, h.breakpoints⟩, h.name⟩,
      h.version⟩

/-- A contract is accepted exactly if its slots are regular, every required slot has a position
under its very name, a hero image is declared, positions take up space, a grid has its template and
a flex layout has none at any breakpoint, and neither name nor version is blank. -/
theorem isAccepted_report_iff_wellMade (contract : Contract) :
    contract.report.isAccepted = true ↔ WellMade contract := by
  rw [Contract.report, isAccepted_ofIssues_iff, invariantIssues_eq_nil_iff]

end ScreenPattern.Proofs.ContractAcceptance
