import Mathlib.Data.List.Induction
import Mathlib.Data.List.Nodup
import ScreenPattern.Assembly.Synthesis
import ScreenPattern.Proofs.ComponentReading
import ScreenPattern.Proofs.ContractConformance
import ScreenPattern.Proofs.ContractSlots

namespace ScreenPattern.Proofs.SynthesizedComponents

open ComponentReading ContractConformance ContractSlots
open Synthesis (Material Place)

section Repeats

variable {α : Type} [DecidableEq α]

theorem eraseDups_append_singleton (before : List α) (a : α) :
    (before ++ [a]).eraseDups = before.eraseDups ++ if a ∈ before then [] else [a] := by
  rw [List.eraseDups_append]
  by_cases hmem : a ∈ before
  · simp [List.removeAll, hmem]
  · simp [List.removeAll, hmem, List.eraseDups_cons]

theorem nodup_eraseDups (members : List α) : members.eraseDups.Nodup := by
  induction members using List.reverseRecOn with
  | nil => simp
  | append_singleton before a ih =>
      rw [eraseDups_append_singleton]
      split
      · rwa [List.append_nil]
      · rename_i hnew
        have hdisjoint : List.Disjoint before.eraseDups [a] := by simpa using hnew
        exact ih.append (List.nodup_singleton a) hdisjoint

theorem eraseDups_filter (p : α → Bool) (members : List α) :
    (members.filter p).eraseDups = members.eraseDups.filter p := by
  induction members using List.reverseRecOn with
  | nil => rfl
  | append_singleton before a ih =>
      rw [eraseDups_append_singleton, List.filter_append, List.filter_append]
      by_cases ha : p a = true
      · rw [List.filter_cons_of_pos ha, List.filter_nil, eraseDups_append_singleton, ih]
        by_cases hmem : a ∈ before
        · simp [hmem, ha]
        · simp [hmem, ha]
      · rw [List.filter_cons_of_neg ha, List.filter_nil, List.append_nil, ih]
        split <;> simp [ha]

end Repeats

/-- There is something to put into a component of the kind. -/
def hasContent (material : Material) (kind : ComponentKind) : Bool :=
  !Text.isBlank (Synthesis.component material kind).content

def kindsOf (slots : List String) : List ComponentKind :=
  slots.filterMap Slot.kind?

/-- The declared kinds in the order of their slots, each of them once, without those that are not
required and that there is no content for. -/
def synthesizedKinds (slots : Slots) (material : Material) : List ComponentKind :=
  (kindsOf slots.all).eraseDups.filter fun kind =>
    (kindsOf slots.required).contains kind || hasContent material kind

def synthesized (slots : Slots) (material : Material) : List Component :=
  (synthesizedKinds slots material).map (Synthesis.component material)

@[simp] theorem kind_component (material : Material) (kind : ComponentKind) :
    (Synthesis.component material kind).kind = kind := by
  cases kind <;> rfl

theorem apart_component (material : Material) (kind : ComponentKind) :
    Apart (Synthesis.component material kind) := by
  intro name _ hmem
  cases kind <;> cases hmem

/-- The kind of the component that a place asks for, if it asks for one. -/
def wanted (material : Material) (place : Place) : Option ComponentKind :=
  place.kind.filter fun kind => place.required || hasContent material kind

theorem components_eq (material : Material) (made : List ComponentKind) (places : List Place) :
    Synthesis.components material made places =
      (((places.filterMap (wanted material)).filter fun kind => !made.contains kind).eraseDups).map
        (Synthesis.component material) := by
  induction places generalizing made with
  | nil => simp [Synthesis.components]
  | cons place rest ih =>
      obtain ⟨kind, required⟩ := place
      cases kind with
      | none =>
          have hnone : wanted material ⟨none, required⟩ = none := rfl
          rw [List.filterMap_cons_none hnone, Synthesis.components, ih]
      | some kind =>
          have hskip : (!required && Text.isBlank (Synthesis.component material kind).content) =
              !(required || hasContent material kind) := by
            simp [hasContent]
          rw [Synthesis.components]
          simp only [hskip]
          cases hwanted : required || hasContent material kind with
          | false =>
              have hnone : wanted material ⟨some kind, required⟩ = none := by
                simp only [wanted, Option.filter_some, hwanted, Bool.false_eq_true, if_false]
              rw [List.filterMap_cons_none hnone, Bool.not_false, Bool.or_true, if_pos rfl, ih]
          | true =>
              have hsome : wanted material ⟨some kind, required⟩ = some kind := by
                simp only [wanted, Option.filter_some, hwanted, if_true]
              rw [List.filterMap_cons_some hsome, Bool.not_true, Bool.or_false]
              by_cases hmade : made.contains kind = true
              · rw [if_pos hmade, List.filter_cons_of_neg (by simpa using hmade), ih]
              · rw [if_neg hmade, List.filter_cons_of_pos (by simpa using hmade),
                  List.eraseDups_cons, List.map_cons, ih, List.filter_filter]
                simp only [List.contains_cons, Bool.not_or]

/-- The place of an optional slot may be marked as required, namely if its name stands among the
required ones too; but then a required slot has its kind. -/
theorem removeAll_wanted_optional (material : Material) (slots : Slots) :
    (slots.optional.filterMap fun slot =>
        wanted material ⟨Slot.kind? slot, slots.isRequired slot⟩).removeAll
          (kindsOf slots.required) =
      ((kindsOf slots.optional).filter (hasContent material)).removeAll
        (kindsOf slots.required) := by
  simp only [List.removeAll, kindsOf, List.filter_filterMap]
  apply List.filterMap_congr
  intro slot _
  cases hkind : Slot.kind? slot with
  | none => rfl
  | some kind =>
      by_cases hrequired : slots.isRequired slot = true
      · have hmade : ∃ slot ∈ slots.required, Slot.kind? slot = some kind :=
          ⟨slot, List.contains_iff_mem.mp hrequired, hkind⟩
        have hdropped (content : Bool) : (if content = true then some kind else none).filter
            (fun kind => !(slots.required.filterMap Slot.kind?).elem kind) = none := by
          cases content <;> simp [Option.filter_some, hmade]
        rw [wanted, Option.filter_some, Option.filter_some, hdropped, hdropped]
      · simp [wanted, hrequired]

theorem filterMap_wanted_slotPlaces (material : Material) (slots : Slots) :
    (Synthesis.slotPlaces slots).filterMap (wanted material) =
      kindsOf slots.required ++ slots.optional.filterMap fun slot =>
        wanted material ⟨Slot.kind? slot, slots.isRequired slot⟩ := by
  have hrequired : slots.required.filterMap (fun slot =>
      wanted material ⟨Slot.kind? slot, slots.isRequired slot⟩) = kindsOf slots.required := by
    apply List.filterMap_congr
    intro slot hslot
    have hmust : slots.isRequired slot = true := List.contains_iff_mem.mpr hslot
    cases Slot.kind? slot <;> simp [wanted, hmust]
  rw [Synthesis.slotPlaces, List.filterMap_map, Slots.all, List.filterMap_append]
  simp only [Function.comp_def, hrequired]

/-- Required kinds pass the filter, so it can be applied to the optional ones alone. -/
theorem synthesizedKinds_eq (slots : Slots) (material : Material) :
    synthesizedKinds slots material =
      (kindsOf slots.required ++
        (kindsOf slots.optional).filter (hasContent material)).eraseDups := by
  have hall : kindsOf slots.all = kindsOf slots.required ++ kindsOf slots.optional :=
    List.filterMap_append
  have hrequired : ((kindsOf slots.required).filter fun kind =>
      (kindsOf slots.required).contains kind || hasContent material kind) =
        kindsOf slots.required := by
    apply List.filter_eq_self.mpr
    intro kind hkind
    rw [List.contains_iff_mem.mpr hkind, Bool.true_or]
  have hoptional : ((kindsOf slots.optional).filter fun kind =>
      (kindsOf slots.required).contains kind || hasContent material kind).removeAll
        (kindsOf slots.required) =
      ((kindsOf slots.optional).filter (hasContent material)).removeAll
        (kindsOf slots.required) := by
    simp only [List.removeAll, List.filter_filter, List.elem_eq_contains]
    apply List.filter_congr
    intro kind _
    cases (kindsOf slots.required).contains kind <;> simp
  rw [synthesizedKinds, ← eraseDups_filter, hall, List.filter_append, List.eraseDups_append,
    List.eraseDups_append, hrequired, hoptional]

theorem components_slotPlaces (material : Material) (slots : Slots) :
    Synthesis.components material [] (Synthesis.slotPlaces slots) = synthesized slots material := by
  rw [components_eq, filterMap_wanted_slotPlaces, synthesized, synthesizedKinds_eq]
  simp only [List.contains_nil, Bool.not_false, List.filter_true, List.eraseDups_append,
    removeAll_wanted_optional]

theorem map_kind_synthesized (slots : Slots) (material : Material) :
    (synthesized slots material).map Component.kind = synthesizedKinds slots material := by
  have hkind : Component.kind ∘ Synthesis.component material = id := by
    funext kind
    exact kind_component material kind
  rw [synthesized, List.map_map, hkind, List.map_id]

theorem eq_component_of_mem_synthesized {slots : Slots} {material : Material} {c : Component}
    (h : c ∈ synthesized slots material) : c = Synthesis.component material c.kind := by
  obtain ⟨kind, _, rfl⟩ := List.mem_map.mp h
  rw [kind_component]

theorem mem_synthesizedKinds_iff (slots : Slots) (material : Material) (kind : ComponentKind) :
    kind ∈ synthesizedKinds slots material ↔
      kind ∈ kindsOf slots.required ∨
        kind ∈ kindsOf slots.all ∧ hasContent material kind = true := by
  have hdeclared : kind ∈ kindsOf slots.required → kind ∈ kindsOf slots.all := by
    intro h
    obtain ⟨slot, hslot, hkind⟩ := List.mem_filterMap.mp h
    exact List.mem_filterMap.mpr ⟨slot, List.mem_append_left _ hslot, hkind⟩
  rw [synthesizedKinds, List.mem_filter, List.mem_eraseDups, Bool.or_eq_true,
    List.contains_iff_mem]
  constructor
  · rintro ⟨hall, hrequired | hcontent⟩
    · exact .inl hrequired
    · exact .inr ⟨hall, hcontent⟩
  · rintro (hrequired | ⟨hall, hcontent⟩)
    · exact ⟨hdeclared hrequired, .inl hrequired⟩
    · exact ⟨hall, .inr hcontent⟩

theorem nodup_synthesizedKinds (slots : Slots) (material : Material) :
    (synthesizedKinds slots material).Nodup :=
  (nodup_eraseDups _).filter _

section Findings

variable (contract : Contract) (material : Material)

theorem missingSlotErrors_synthesized (hregular : Regular contract.slots.all) :
    contract.missingSlotErrors (synthesized contract.slots material) = [] := by
  rw [missingSlotErrors_eq_nil_iff]
  intro slot hslot
  obtain ⟨kind, hkind⟩ :=
    Option.isSome_iff_exists.mp (hregular.resolves slot (List.mem_append_left _ hslot))
  rw [hkind, isFilled_some_iff, map_kind_synthesized, mem_synthesizedKinds_iff]
  exact .inl (List.mem_filterMap.mpr ⟨slot, hslot, hkind⟩)

theorem kindErrors_synthesized :
    contract.kindErrors (synthesized contract.slots material) = [] := by
  rw [kindErrors_eq_nil_iff]
  intro c hc
  have hkind : c.kind ∈ synthesizedKinds contract.slots material := by
    rw [← map_kind_synthesized]
    exact List.mem_map_of_mem hc
  have hdeclared := List.mem_eraseDups.mp (List.mem_filter.mp hkind).1
  rw [allows_iff]
  exact List.mem_filterMap.mp hdeclared

theorem repetitionWarnings_synthesized :
    contract.repetitionWarnings (synthesized contract.slots material) = [] := by
  have hnodup := nodup_synthesizedKinds contract.slots material
  rw [← map_kind_synthesized, List.Nodup, List.pairwise_map] at hnodup
  rw [repetitionWarnings_eq_nil_iff]
  apply hnodup.imp
  intro earlier c hne _
  exact hne

/-- The slots of the contract have nothing to do with what else may be wrong with the document. -/
theorem code_of_mem_findings (hregular : Regular contract.slots.all) {document : Document}
    (hcomponents : document.components = synthesized contract.slots material) {v : Violation}
    (hv : v ∈ (contract.check document).errors ++ (contract.check document).warnings) :
    v.code ∉ [.missingRequiredSlot, .invalidComponentType, .duplicateSlotComponent] := by
  simp only [Contract.check, hcomponents, missingSlotErrors_synthesized contract material hregular,
    kindErrors_synthesized, repetitionWarnings_synthesized, List.append_nil,
    List.mem_append] at hv
  rcases hv with (hv | hv) | hv
  · rcases code_of_mem_identityErrors hv with h | h <;> simp [h]
  · simp [code_of_mem_heroErrors hv]
  · rcases code_of_mem_supportingErrors hv with h | h <;> simp [h]

end Findings

end ScreenPattern.Proofs.SynthesizedComponents
