import Mathlib.Data.List.Nodup
import ScreenPattern.Proofs.SlotOccupancy

namespace ScreenPattern.Proofs.ContractConformance

open Contract SlotOccupancy

variable (contract : Contract) (document : Document) (components : List Component)

theorem allows_iff (slots : Slots) (kind : ComponentKind) :
    slots.allows kind = true ↔ ∃ slot ∈ slots.all, Slot.kind? slot = some kind := by
  simp [Slots.allows, Slots.slotFor?, List.find?_isSome]

theorem isFilled_some_iff (kind : ComponentKind) :
    isFilled components (some kind) = true ↔ kind ∈ components.map Component.kind := by
  simp [isFilled]

theorem isFilled_kind?_iff (slot : String) :
    isFilled components (Slot.kind? slot) = true ↔
      ∃ kind, Slot.kind? slot = some kind ∧ kind ∈ components.map Component.kind := by
  cases hkind : Slot.kind? slot with
  | none => simp [isFilled]
  | some kind =>
      rw [isFilled_some_iff]
      simp

theorem identityErrors_eq_nil_iff :
    contract.identityErrors document = [] ↔
      document.family = contract.family ∧ document.variant = contract.variant := by
  simp [identityErrors]

theorem missingSlotErrors_eq_nil_iff :
    contract.missingSlotErrors components = [] ↔
      ∀ slot ∈ contract.slots.required, isFilled components (Slot.kind? slot) = true := by
  simp [missingSlotErrors, Slots.requiredKinds]

theorem kindErrors_eq_nil_iff :
    contract.kindErrors components = [] ↔
      ∀ c ∈ components, contract.slots.allows c.kind = true := by
  simp only [kindErrors, List.flatMap_eq_nil_iff, Prod.forall, ite_eq_left_iff, reduceCtorEq,
    imp_false, not_not]
  constructor
  · intro h c hc
    obtain ⟨i, hi⟩ := List.mem_iff_getElem?.mp hc
    exact h c i (List.mem_zipIdx_iff_getElem?.mpr hi)
  · intro h c i hmem
    exact h c (List.mem_of_getElem? (List.mem_zipIdx_iff_getElem?.mp hmem))

/-- Nothing is repeated at an index if the component there is of no allowed kind or of another kind
than all the components before it. -/
theorem repetitionWarnings_eq_nil_iff_getElem? :
    contract.repetitionWarnings components = [] ↔
      ∀ i c, components[i]? = some c → contract.slots.allows c.kind = true →
        ∀ earlier ∈ components.take i, earlier.kind ≠ c.kind := by
  rw [repetitionWarnings_eq, List.map_eq_nil_iff, List.eq_nil_iff_forall_not_mem, Prod.forall,
    forall_comm]
  simp only [mem_filter_isRepeated_iff, not_and, not_exists, ne_eq]

theorem repetitionWarnings_eq_nil_iff :
    contract.repetitionWarnings components = [] ↔
      components.Pairwise fun earlier c =>
        contract.slots.allows c.kind = true → earlier.kind ≠ c.kind := by
  rw [repetitionWarnings_eq_nil_iff_getElem?, List.pairwise_iff_getElem]
  constructor
  · intro h i j hi hj hij hallowed
    have hearlier : components[i] ∈ components.take j :=
      List.mem_take_iff_getElem.mpr ⟨i, by omega, rfl⟩
    exact h j _ (List.getElem?_eq_getElem hj) hallowed _ hearlier
  · intro h j c hc hallowed earlier hearlier
    obtain ⟨hj, rfl⟩ := List.getElem?_eq_some_iff.mp hc
    obtain ⟨i, hi, rfl⟩ := List.mem_take_iff_getElem.mp hearlier
    exact h i j (by omega) hj (by omega) hallowed

/-- Nothing is repeated exactly if there is at most one component of each allowed kind. -/
theorem repetitionWarnings_eq_nil_iff_count :
    contract.repetitionWarnings components = [] ↔
      ∀ kind, contract.slots.allows kind = true →
        (components.map Component.kind).count kind ≤ 1 := by
  have hnodup : contract.repetitionWarnings components = [] ↔
      ((components.map Component.kind).filter contract.slots.allows).Nodup := by
    rw [repetitionWarnings_eq_nil_iff, List.Nodup, List.pairwise_filter, List.pairwise_map]
    refine List.Pairwise.iff fun earlier c => ?_
    constructor
    · exact fun h _ => h
    · exact fun h hallowed hsame => h (hsame ▸ hallowed) hallowed hsame
  rw [hnodup, List.nodup_iff_count_le_one]
  refine forall_congr' fun kind => ?_
  by_cases hallowed : contract.slots.allows kind = true
  · rw [List.count_filter hallowed]
    simp only [hallowed, forall_const]
  · have habsent : kind ∉ (components.map Component.kind).filter contract.slots.allows :=
      fun hmem => hallowed (List.mem_filter.mp hmem).2
    simp [hallowed, List.count_eq_zero_of_not_mem habsent]

theorem heroErrors_eq_nil_iff :
    heroErrors document = [] ↔ document.heroImage.isSome = true := by
  unfold heroErrors
  split
  · simp [*]
  · simp [*]

theorem supportingErrors_eq_nil_iff :
    contract.supportingErrors document = [] ↔
      document.supportingImages.length ≤ contract.supportingCapacity := by
  unfold supportingErrors
  simp only []
  split
  · rename_i hfits
    simp only [hfits]
  · rename_i hexceeds
    simp only [hexceeds, iff_false]
    split <;> simp

/-- What a contract asks of a document. -/
structure Conforms : Prop where
  family : document.family = contract.family
  variant : document.variant = contract.variant
  filled : ∀ slot ∈ contract.slots.required,
    isFilled document.components (Slot.kind? slot) = true
  allowed : ∀ c ∈ document.components, contract.slots.allows c.kind = true
  hero : document.heroImage.isSome = true
  capacity : document.supportingImages.length ≤ contract.supportingCapacity

theorem valid_check_iff : (contract.check document).valid = true ↔ Conforms contract document := by
  simp only [check, List.isEmpty_iff, List.append_eq_nil_iff, identityErrors_eq_nil_iff,
    missingSlotErrors_eq_nil_iff, kindErrors_eq_nil_iff, heroErrors_eq_nil_iff,
    supportingErrors_eq_nil_iff]
  constructor
  · rintro ⟨⟨⟨⟨⟨hfamily, hvariant⟩, hfilled⟩, hallowed⟩, hhero⟩, hcapacity⟩
    exact ⟨hfamily, hvariant, hfilled, hallowed, hhero, hcapacity⟩
  · intro h
    exact ⟨⟨⟨⟨⟨h.family, h.variant⟩, h.filled⟩, h.allowed⟩, h.hero⟩, h.capacity⟩

section Codes

variable {contract document components} {v : Violation}

theorem code_of_mem_identityErrors (h : v ∈ contract.identityErrors document) :
    v.code = .familyMismatch ∨ v.code = .variantMismatch := by
  simp only [identityErrors, List.mem_append] at h
  rcases h with h | h
  · split at h
    · cases h
    · exact .inl (List.mem_singleton.mp h ▸ rfl)
  · split at h
    · cases h
    · exact .inr (List.mem_singleton.mp h ▸ rfl)

theorem code_of_mem_missingSlotErrors (h : v ∈ contract.missingSlotErrors components) :
    v.code = .missingRequiredSlot := by
  obtain ⟨⟨slot, kind⟩, _, hslot⟩ := List.mem_flatMap.mp h
  simp only [] at hslot
  split at hslot
  · cases hslot
  · exact List.mem_singleton.mp hslot ▸ rfl

theorem code_of_mem_repetitionWarnings (h : v ∈ contract.repetitionWarnings components) :
    v.code = .duplicateSlotComponent := by
  rw [repetitionWarnings_eq] at h
  obtain ⟨_, _, rfl⟩ := List.mem_map.mp h
  rfl

theorem code_of_mem_heroErrors (h : v ∈ heroErrors document) : v.code = .missingHeroImage := by
  unfold heroErrors at h
  split at h
  · cases h
  · exact List.mem_singleton.mp h ▸ rfl

theorem code_of_mem_supportingErrors (h : v ∈ contract.supportingErrors document) :
    v.code = .unsupportedSupportingImages ∨ v.code = .tooManySupportingImages := by
  unfold supportingErrors at h
  simp only [] at h
  split at h
  · cases h
  · split at h
    · exact .inl (List.mem_singleton.mp h ▸ rfl)
    · exact .inr (List.mem_singleton.mp h ▸ rfl)

end Codes

end ScreenPattern.Proofs.ContractConformance
