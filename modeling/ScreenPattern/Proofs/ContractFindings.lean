import Mathlib.Data.Finset.Card
import Mathlib.Data.List.Induction
import ScreenPattern.Proofs.ContractConformance
import ScreenPattern.Proofs.MigrationChain

namespace ScreenPattern.Proofs.ContractFindings

open ContractConformance MigrationChain SlotOccupancy
open Text (quote)

variable (contract : Contract) (document : Document) (components : List Component)

/-- No component is of the kind of the slot, if it has one. -/
def Vacant (components : List Component) (slot : String) : Prop :=
  ∀ kind ∈ Slot.kind? slot, kind ∉ components.map Component.kind

instance (slot : String) : Decidable (Vacant components slot) :=
  inferInstanceAs (Decidable (∀ kind ∈ Slot.kind? slot, kind ∉ components.map Component.kind))

/-- No slot of the contract is for the kind. -/
def Slotless (contract : Contract) (kind : ComponentKind) : Prop :=
  ∀ slot ∈ contract.slots.all, Slot.kind? slot ≠ some kind

instance (kind : ComponentKind) : Decidable (Slotless contract kind) :=
  inferInstanceAs (Decidable (∀ slot ∈ contract.slots.all, Slot.kind? slot ≠ some kind))

/-- The required slots that are vacant, as often as they are declared. -/
def vacancies : List String :=
  contract.slots.required.filter fun slot => Vacant components slot

/-- The components that no slot is for, each with its index. -/
def strays : List (Component × Nat) :=
  components.zipIdx.filter fun e => Slotless contract e.1.kind

/-- The components that have a slot and repeat an earlier one, each with its index. -/
def repeats : List (Component × Nat) :=
  components.zipIdx.filter fun e =>
    ¬ Slotless contract e.1.kind ∧ e.1.kind ∈ (components.map Component.kind).take e.2

/-- The kinds that components have and slots are for. -/
def placedKinds : Finset ComponentKind :=
  (components.map Component.kind).toFinset.filter fun kind => ¬ Slotless contract kind

def vacancy (slot : String) : Violation :=
  ⟨.missingRequiredSlot, "components", "required slot " ++ quote slot ++ " has no component"⟩

def stray (contract : Contract) (e : Component × Nat) : Violation :=
  ⟨.invalidComponentType, Path.index "components" e.2 ++ ".type",
    toString e.1.kind ++ " is not allowed by " ++ contract.title⟩

theorem slotless_iff (kind : ComponentKind) :
    Slotless contract kind ↔ ¬ contract.slots.allows kind = true := by
  rw [allows_iff]
  simp [Slotless]

theorem vacant_iff (slot : String) :
    Vacant components slot ↔ ¬ Contract.isFilled components (Slot.kind? slot) = true := by
  rw [isFilled_kind?_iff]
  simp only [Vacant, Option.mem_def, not_exists, not_and]

theorem flatMap_ite_nil {α β : Type} (items : List α) (p : α → Prop) [DecidablePred p]
    (f : α → β) :
    (items.flatMap fun a => if p a then [] else [f a]) =
      (items.filter fun a => ¬ p a).map f := by
  induction items with
  | nil => rfl
  | cons a rest ih =>
      rw [List.flatMap_cons, ih]
      by_cases ha : p a
      · simp [ha]
      · simp [ha]

theorem missingSlotErrors_eq :
    contract.missingSlotErrors components = (vacancies contract components).map vacancy := by
  rw [Contract.missingSlotErrors, Slots.requiredKinds, List.flatMap_map]
  refine (flatMap_ite_nil contract.slots.required
    (fun slot => Contract.isFilled components (Slot.kind? slot) = true) vacancy).trans ?_
  simp only [vacancies, vacant_iff]

theorem kindErrors_eq :
    contract.kindErrors components = (strays contract components).map (stray contract) := by
  refine (flatMap_ite_nil components.zipIdx
    (fun e => contract.slots.allows e.1.kind = true) (stray contract)).trans ?_
  simp only [strays, slotless_iff]

theorem repetitionWarnings_eq_repeats :
    contract.repetitionWarnings components =
      (repeats contract components).map (repetition contract) := by
  have hfilter : components.zipIdx.filter (isRepeated contract.slots components) =
      repeats contract components := by
    refine List.filter_congr ?_
    rintro ⟨c, i⟩ _
    rw [Bool.eq_iff_iff, decide_eq_true_eq, slotless_iff, not_not, ← List.map_take]
    simp only [isRepeated, Bool.and_eq_true, List.any_eq_true, beq_iff_eq, List.mem_map]
  rw [repetitionWarnings_eq, hfilter]

theorem code_of_mem_kindErrors {v : Violation} (h : v ∈ contract.kindErrors components) :
    v.code = .invalidComponentType := by
  rw [kindErrors_eq] at h
  obtain ⟨_, _, rfl⟩ := List.mem_map.mp h
  rfl

theorem filter_eq_nil_of_code {found : List Violation} {code : ViolationCode}
    (h : ∀ v ∈ found, v.code ≠ code) : (found.filter fun v => v.code == code) = [] := by
  rw [List.filter_eq_nil_iff]
  intro v hv
  simpa using h v hv

theorem filter_eq_self_of_code {found : List Violation} {code : ViolationCode}
    (h : ∀ v ∈ found, v.code = code) : (found.filter fun v => v.code == code) = found := by
  rw [List.filter_eq_self]
  intro v hv
  simpa using h v hv

/-- Only the rules about slots find what is wrong with slots. -/
theorem filter_errors_of_slot_code {code : ViolationCode}
    (hcode : code = .missingRequiredSlot ∨ code = .invalidComponentType) :
    ((contract.check document).errors.filter fun v => v.code == code) =
      (contract.missingSlotErrors document.components ++
        contract.kindErrors document.components).filter fun v => v.code == code := by
  have hidentity : ((contract.identityErrors document).filter fun v => v.code == code) = [] := by
    refine filter_eq_nil_of_code fun v hv => ?_
    rcases code_of_mem_identityErrors hv with h | h <;> rcases hcode with rfl | rfl <;> simp [h]
  have hhero : ((Contract.heroErrors document).filter fun v => v.code == code) = [] := by
    refine filter_eq_nil_of_code fun v hv => ?_
    rcases hcode with rfl | rfl <;> simp [code_of_mem_heroErrors hv]
  have hsupporting :
      ((contract.supportingErrors document).filter fun v => v.code == code) = [] := by
    refine filter_eq_nil_of_code fun v hv => ?_
    rcases code_of_mem_supportingErrors hv with h | h <;> rcases hcode with rfl | rfl <;> simp [h]
  simp only [Contract.check, List.filter_append, hidentity, hhero, hsupporting, List.nil_append,
    List.append_nil]

theorem filter_invalid_errors :
    ((contract.check document).errors.filter fun v => v.code == .invalidComponentType) =
      contract.kindErrors document.components := by
  have hmissing : ((contract.missingSlotErrors document.components).filter fun v =>
      v.code == .invalidComponentType) = [] := by
    refine filter_eq_nil_of_code fun v hv => ?_
    simp [code_of_mem_missingSlotErrors hv]
  rw [filter_errors_of_slot_code contract document (.inr rfl), List.filter_append, hmissing,
    List.nil_append]
  exact filter_eq_self_of_code fun v hv => code_of_mem_kindErrors _ _ hv

theorem filter_missing_errors :
    ((contract.check document).errors.filter fun v => v.code == .missingRequiredSlot) =
      contract.missingSlotErrors document.components := by
  have hkinds : ((contract.kindErrors document.components).filter fun v =>
      v.code == .missingRequiredSlot) = [] := by
    refine filter_eq_nil_of_code fun v hv => ?_
    simp [code_of_mem_kindErrors _ _ hv]
  rw [filter_errors_of_slot_code contract document (.inl rfl), List.filter_append, hkinds,
    List.append_nil]
  exact filter_eq_self_of_code fun v hv => code_of_mem_missingSlotErrors hv

section Counting

variable (before : List Component) (c : Component)

theorem strays_append_singleton :
    strays contract (before ++ [c]) =
      strays contract before ++ if Slotless contract c.kind then [(c, before.length)] else [] := by
  rw [strays, List.zipIdx_append, List.filter_append, ← strays]
  by_cases hslotless : Slotless contract c.kind
  · simp [hslotless]
  · simp [hslotless]

/-- What comes after a component does not make it a repeated one. -/
theorem repeats_append_singleton :
    repeats contract (before ++ [c]) =
      repeats contract before ++
        if ¬ Slotless contract c.kind ∧ c.kind ∈ before.map Component.kind then
          [(c, before.length)] else [] := by
  have hbefore : before.zipIdx.filter (fun e => ¬ Slotless contract e.1.kind ∧
      e.1.kind ∈ ((before ++ [c]).map Component.kind).take e.2) = repeats contract before := by
    refine List.filter_congr ?_
    rintro ⟨e, i⟩ hmem
    have hi : i ≤ (before.map Component.kind).length := by
      have hlt := (List.mem_zipIdx hmem).2.1
      rw [List.length_map]
      omega
    rw [List.map_append, List.take_append_of_le_length hi]
  have hkinds : ((before ++ [c]).map Component.kind).take before.length =
      before.map Component.kind := by
    rw [List.map_append]
    exact List.take_left' (List.length_map _)
  rw [repeats, List.zipIdx_append, List.filter_append, hbefore, List.zipIdx_singleton,
    Nat.zero_add]
  by_cases hrepeats : ¬ Slotless contract c.kind ∧ c.kind ∈ before.map Component.kind
  · rw [if_pos hrepeats, List.filter_cons_of_pos (by simpa [hkinds] using hrepeats)]
    rfl
  · rw [if_neg hrepeats, List.filter_cons_of_neg (by simpa [hkinds] using hrepeats)]
    rfl

theorem placedKinds_append_singleton :
    placedKinds contract (before ++ [c]) =
      if Slotless contract c.kind then placedKinds contract before
      else insert c.kind (placedKinds contract before) := by
  have hkinds : ((before ++ [c]).map Component.kind).toFinset =
      insert c.kind (before.map Component.kind).toFinset := by
    rw [List.map_append, List.toFinset_append, Finset.union_comm]
    rfl
  rw [placedKinds, hkinds, Finset.filter_insert, ite_not]
  rfl

end Counting

/-- Each component is a stray one, a repeated one or the first of its kind. -/
theorem length_eq_strays_add_repeats :
    components.length = (strays contract components).length +
      (repeats contract components).length + (placedKinds contract components).card := by
  induction components using List.reverseRecOn with
  | nil => rfl
  | append_singleton before c ih =>
      rw [strays_append_singleton, repeats_append_singleton, placedKinds_append_singleton,
        List.length_append, List.length_append, List.length_append, List.length_singleton]
      by_cases hslotless : Slotless contract c.kind
      · simp only [hslotless, if_true, not_true_eq_false, false_and, if_false,
          List.length_singleton, List.length_nil]
        omega
      · have hmem : c.kind ∈ placedKinds contract before ↔ c.kind ∈ before.map Component.kind := by
          simp [placedKinds, hslotless]
        by_cases hbefore : c.kind ∈ before.map Component.kind
        · rw [if_neg hslotless, if_neg hslotless, if_pos ⟨hslotless, hbefore⟩,
            Finset.insert_eq_of_mem (hmem.mpr hbefore), List.length_singleton, List.length_nil]
          omega
        · rw [if_neg hslotless, if_neg hslotless, if_neg fun h => hbefore h.2,
            Finset.card_insert_of_notMem fun h => hbefore (hmem.mp h), List.length_nil]
          omega

/-- What a document is like in which a contract finds nothing at all. -/
structure Fits (contract : Contract) (document : Document) : Prop where
  family : document.family = contract.family
  variant : document.variant = contract.variant
  hero : document.heroImage.isSome = true
  capacity : document.supportingImages.length ≤ contract.supportingCapacity
  allowed : ∀ kind ∈ document.kinds, ∃ slot ∈ contract.slots.all, Slot.kind? slot = some kind
  required : ∀ slot ∈ contract.slots.required, ∃ kind, Slot.kind? slot = some kind ∧
    document.kinds.count kind = 1
  optional : ∀ slot ∈ contract.slots.optional, ∀ kind, Slot.kind? slot = some kind →
    document.kinds.count kind ≤ 1

theorem clean_check_iff_fits :
    (contract.check document).valid = true ∧ (contract.check document).warnings = [] ↔
      Fits contract document := by
  have hwarnings : (contract.check document).warnings = [] ↔
      ∀ kind, contract.slots.allows kind = true → document.kinds.count kind ≤ 1 :=
    repetitionWarnings_eq_nil_iff_count contract document.components
  rw [valid_check_iff, hwarnings]
  constructor
  · rintro ⟨h, hsingle⟩
    refine ⟨h.family, h.variant, h.hero, h.capacity, ?_, ?_, ?_⟩
    · intro kind hkind
      obtain ⟨c, hc, rfl⟩ := List.mem_map.mp hkind
      exact (allows_iff _ _).mp (h.allowed c hc)
    · intro slot hslot
      obtain ⟨kind, hkind, hmem⟩ := (isFilled_kind?_iff _ slot).mp (h.filled slot hslot)
      have hallowed : contract.slots.allows kind = true :=
        (allows_iff _ _).mpr ⟨slot, List.mem_append_left _ hslot, hkind⟩
      have hsome : 0 < document.kinds.count kind := List.count_pos_iff.mpr hmem
      have hone := hsingle kind hallowed
      exact ⟨kind, hkind, by omega⟩
    · intro slot hslot kind hkind
      exact hsingle kind ((allows_iff _ _).mpr ⟨slot, List.mem_append_right _ hslot, hkind⟩)
  · intro h
    refine ⟨⟨h.family, h.variant, ?_, ?_, h.hero, h.capacity⟩, ?_⟩
    · intro slot hslot
      obtain ⟨kind, hkind, hone⟩ := h.required slot hslot
      have hmem : kind ∈ document.kinds := List.count_pos_iff.mp (by omega)
      exact (isFilled_kind?_iff _ slot).mpr ⟨kind, hkind, hmem⟩
    · intro c hc
      exact (allows_iff _ _).mpr (h.allowed c.kind (List.mem_map_of_mem hc))
    · intro kind hallowed
      obtain ⟨slot, hslot, hkind⟩ := (allows_iff _ _).mp hallowed
      rcases List.mem_append.mp hslot with hrequired | hoptional
      · obtain ⟨own, hown, hone⟩ := h.required slot hrequired
        obtain rfl := Option.some.inj (hkind.symm.trans hown)
        omega
      · exact h.optional slot hoptional kind hkind

/-- Code and path of each finding. -/
def places (found : List Violation) : List (ViolationCode × String) :=
  found.map fun v => (v.code, v.path)

theorem places_identityErrors :
    places (contract.identityErrors document) =
      (if document.family = contract.family then [] else [(.familyMismatch, "pattern_family")]) ++
      if document.variant = contract.variant then []
        else [(.variantMismatch, "pattern_variant")] := by
  simp only [places, Contract.identityErrors, List.map_append, apply_ite (List.map _),
    List.map_nil, List.map_cons]

theorem places_imageErrors :
    places (Contract.heroErrors document ++ contract.supportingErrors document) =
      (if document.heroImage.isSome then [] else [(.missingHeroImage, "hero_image")]) ++
      if document.supportingImages.length ≤ contract.supportingCapacity then []
      else if contract.supportingCapacity = 0 then
        [(.unsupportedSupportingImages, "supporting_images")]
      else [(.tooManySupportingImages, "supporting_images")] := by
  simp only [places, Contract.heroErrors, Contract.supportingErrors, List.map_append,
    apply_ite (List.map _), List.map_nil, List.map_cons]

/-- The findings of a contract, each of them once: vacant required slots as they are declared,
components that no slot is for and components that repeat an earlier one by their index, besides
those about key and images. So the components are the invalid ones, the repeated ones and one for
each kind that is placed; and nothing is found exactly if the document fits. -/
theorem check_findings (contract : Contract) (document : Document) :
    let found := contract.check document
    let identity := contract.identityErrors document
    let images := Contract.heroErrors document ++ contract.supportingErrors document
    found.errors =
      identity ++ (vacancies contract document.components).map vacancy ++
        (strays contract document.components).map (stray contract) ++ images ∧
    found.warnings = (repeats contract document.components).map (repetition contract) ∧
    places identity =
      (if document.family = contract.family then [] else [(.familyMismatch, "pattern_family")]) ++
      (if document.variant = contract.variant then []
        else [(.variantMismatch, "pattern_variant")]) ∧
    places images =
      (if document.heroImage.isSome then [] else [(.missingHeroImage, "hero_image")]) ++
      (if document.supportingImages.length ≤ contract.supportingCapacity then []
      else if contract.supportingCapacity = 0 then
        [(.unsupportedSupportingImages, "supporting_images")]
      else [(.tooManySupportingImages, "supporting_images")]) ∧
    document.components.length = found.count .invalidComponentType + found.warnings.length +
      (document.kinds.toFinset.filter fun kind => ¬ Slotless contract kind).card ∧
    (found.valid = true ∧ found.warnings = [] ↔ Fits contract document) := by
  intro found identity images
  have hwarnings := repetitionWarnings_eq_repeats contract document.components
  refine ⟨?_, hwarnings, places_identityErrors contract document,
    places_imageErrors contract document, ?_, clean_check_iff_fits contract document⟩
  · rw [← missingSlotErrors_eq, ← kindErrors_eq]
    exact List.append_assoc _ _ _
  · have hinvalid : found.count .invalidComponentType =
        (strays contract document.components).length := by
      rw [Conformance.count, List.countP_eq_length_filter, filter_invalid_errors, kindErrors_eq,
        List.length_map]
    have hrepeated : found.warnings.length = (repeats contract document.components).length :=
      (congrArg List.length hwarnings).trans (List.length_map _)
    rw [hinvalid, hrepeated]
    exact length_eq_strays_add_repeats contract document.components

/-- A required slot for which nothing is there, one that is for no kind at all, and a text slot with
white space around its name. -/
def unfinishedGuide : Contract :=
  { Builtin.contract trailGuide.key with slots := ⟨["headline", "tagline", "sidebar"], [" body"]⟩ }

theorem trailGuide_check_findings :
    let found := unfinishedGuide.check trailGuide
    found.errors = [vacancy "tagline", vacancy "sidebar",
      stray unfinishedGuide (.button "Save route" { style := some .primary }, 2)] ∧
    found.warnings = [repetition unfinishedGuide
      (.text "A loop through the high country" {}, 3)] ∧
    trailGuide.components.length = found.count .invalidComponentType + found.warnings.length + 2 ∧
    ¬ Fits unfinishedGuide trailGuide := by
  intro found
  obtain ⟨herrors, hwarnings, _, _, hlength, hclean⟩ := check_findings unfinishedGuide trailGuide
  have hkinds : (trailGuide.kinds.toFinset.filter fun kind =>
      ¬ Slotless unfinishedGuide kind).card = 2 := by decide +kernel
  rw [hkinds] at hlength
  refine ⟨herrors.trans (by decide +kernel), hwarnings.trans (by decide +kernel), hlength, ?_⟩
  intro hfits
  have hnone := (hclean.mpr hfits).2
  rw [hwarnings] at hnone
  revert hnone
  decide +kernel

end ScreenPattern.Proofs.ContractFindings
