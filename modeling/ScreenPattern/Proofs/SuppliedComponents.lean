import ScreenPattern.Proofs.AssemblyModes
import ScreenPattern.Proofs.ContractFindings
import ScreenPattern.Proofs.MigrationLosses

namespace ScreenPattern.Proofs.SuppliedComponents

open AssemblyModes ContractConformance ContractFindings MigrationChain MigrationLosses

/-- What a contract may say of a document whose slots are in order. -/
def otherCodes : List ViolationCode :=
  [.familyMismatch, .variantMismatch, .unsupportedSupportingImages, .tooManySupportingImages]

section Checks

variable (contract : Contract) (components : List Component) (document : Document)

theorem find?_not_allowed :
    (components.find? fun c => !contract.slots.allows c.kind) =
      (strays contract components).head?.map Prod.fst := by
  have htest : (fun c : Component => !contract.slots.allows c.kind) ∘ Prod.fst =
      fun e : Component × Nat => decide (Slotless contract e.1.kind) := by
    funext e
    simp [slotless_iff]
  calc
    _ = (components.zipIdx.map Prod.fst).find? fun c => !contract.slots.allows c.kind := by
      rw [List.zipIdx_map_fst]
    _ = _ := by rw [List.find?_map, htest, strays, List.head?_filter]

theorem find?_not_filled :
    (contract.slots.requiredKinds.find? fun slot => !Contract.isFilled components slot.2) =
      (vacancies contract components).head?.map fun slot => (slot, Slot.kind? slot) := by
  have htest : (fun slot : String × Option ComponentKind =>
      !Contract.isFilled components slot.2) ∘ (fun slot => (slot, Slot.kind? slot)) =
      fun slot => decide (Vacant components slot) := by
    funext slot
    simp [vacant_iff]
  rw [Slots.requiredKinds, List.find?_map, htest, vacancies, List.head?_filter]

theorem accepts_eq :
    contract.accepts components =
      match (strays contract components).head?, (vacancies contract components).head? with
      | some e, _ => .error (.unsupportedComponent e.1.kind contract.key)
      | none, some slot => .error (.missingRequiredSlot slot contract.key)
      | none, none => .ok () := by
  rw [Contract.accepts, find?_not_allowed, find?_not_filled]
  cases (strays contract components).head? with
  | some e => rfl
  | none => cases (vacancies contract components).head? <;> rfl

theorem find?_invalid_errors :
    ((contract.check document).errors.find? fun v => v.code == .invalidComponentType) =
      (strays contract document.components).head?.map (stray contract) := by
  rw [← List.head?_filter, filter_invalid_errors, kindErrors_eq, List.head?_map]

theorem find?_missing_errors :
    ((contract.check document).errors.find? fun v => v.code == .missingRequiredSlot) =
      (vacancies contract document.components).head?.map vacancy := by
  rw [← List.head?_filter, filter_missing_errors, missingSlotErrors_eq, List.head?_map]

theorem code_of_mem_errors_of_placed {document : Document} {v : Violation}
    (hstrays : strays contract document.components = [])
    (hvacancies : vacancies contract document.components = [])
    (hv : v ∈ (contract.check document).errors) :
    v.code ∈ otherCodes ∨ v.code = .missingHeroImage ∧ document.heroImage = none := by
  simp only [Contract.check, missingSlotErrors_eq, kindErrors_eq, hstrays, hvacancies,
    List.map_nil, List.append_nil, List.mem_append] at hv
  rcases hv with (hv | hv) | hv
  · rcases code_of_mem_identityErrors hv with hcode | hcode <;> simp [hcode, otherCodes]
  · refine .inr ⟨code_of_mem_heroErrors hv, ?_⟩
    have hsome := mt (heroErrors_eq_nil_iff document).mpr (List.ne_nil_of_mem hv)
    simpa using hsome
  · rcases code_of_mem_supportingErrors hv with hcode | hcode <;> simp [hcode, otherCodes]

end Checks

def supplied : Task → Option (List Component)
  | .assemble input => input.components
  | .update _ update => update.components

def made (assembler : Assembler) (components : List Component) : Task → Document
  | .assemble input => assembler.draft input components
  | .update document update => Assembler.revise document update

/-- The violations of the contract that come out of a task, in an outcome or in an error. -/
def reported : Except AssemblyError AssemblyOutcome → List Violation
  | .ok outcome => outcome.contractErrors
  | .error (.contractViolation violations) => violations
  | .error _ => []

def isSlotFault : AssemblyError → Bool
  | .unsupportedComponent .. | .missingRequiredSlot .. => true
  | .componentsRequired | .schemaInvalid _ | .contractViolation _ => false

section Tasks

variable {assembler : Assembler} {components : List Component} {document : Document} {task : Task}

theorem components_made (h : supplied task = some components) :
    (made assembler components task).components = components := by
  cases task with
  | assemble input => rfl
  | update document update =>
      change update.components = some components at h
      change update.components.getD document.components = components
      rw [h]
      rfl

theorem perform_supplied_eq (assembler : Assembler) (hne : components ≠ [])
    (h : supplied task = some components) :
    perform assembler task =
      (assembler.accepts components).bind fun _ =>
        assembler.finish (made assembler components task) := by
  rw [perform_eq]
  cases task with
  | assemble input =>
      have hcomponents : assembler.components input =
          (assembler.accepts components).map fun _ => components := by
        have hgiven : input.components.filter (fun list => !list.isEmpty) = some components := by
          change input.components = some components at h
          simp [h, hne]
        rw [Assembler.components, hgiven]
      rw [prepare, hcomponents]
      cases assembler.accepts components <;> rfl
  | update document update =>
      change update.components = some components at h
      rw [prepare, h]
      simp only []
      cases assembler.accepts components <;> rfl

theorem isSlotFault_of_finish {error : AssemblyError}
    (h : assembler.finish document = .error error) : isSlotFault error = false := by
  simp only [Assembler.finish] at h
  split at h
  · cases h
    rfl
  · split at h
    · cases h
      rfl
    · cases h

end Tasks

section Bound

variable {components : List Component} {task : Task} (contract : Contract)
  (options : AssemblyOptions) (hne : components ≠ []) (htask : supplied task = some components)

theorem mem_errors_of_reported {document : Document} {v : Violation}
    (h : v ∈ reported ((⟨some contract, options⟩ : Assembler).finish document)) :
    v ∈ (contract.check document).errors := by
  simp only [Assembler.finish] at h
  split at h
  · cases h
  · split at h
    · exact h
    · exact h

theorem exists_slot_error_iff (document : Document) :
    (∃ v ∈ (contract.check document).errors,
      v.code = .invalidComponentType ∨ v.code = .missingRequiredSlot) ↔
      strays contract document.components ≠ [] ∨ vacancies contract document.components ≠ [] := by
  have hfound : ∀ code, (∃ v ∈ (contract.check document).errors, v.code = code) ↔
      (contract.check document).errors.find? (fun v => v.code == code) ≠ none := by
    intro code
    simp [List.find?_eq_none]
  simp only [and_or_left, exists_or, hfound, find?_invalid_errors, find?_missing_errors, ne_eq,
    Option.map_eq_none_iff, List.head?_eq_none_iff]

include hne htask

theorem perform_supplied_cases :
    (∃ e rest, strays contract components = e :: rest ∧
      perform ⟨some contract, options⟩ task =
        .error (.unsupportedComponent e.1.kind contract.key)) ∨
    (∃ slot rest, strays contract components = [] ∧ vacancies contract components = slot :: rest ∧
      perform ⟨some contract, options⟩ task = .error (.missingRequiredSlot slot contract.key)) ∨
    (strays contract components = [] ∧ vacancies contract components = [] ∧
      perform ⟨some contract, options⟩ task =
        Assembler.finish ⟨some contract, options⟩
          (made ⟨some contract, options⟩ components task)) := by
  have hperform : perform ⟨some contract, options⟩ task =
      (contract.accepts components).bind fun _ => Assembler.finish ⟨some contract, options⟩
        (made ⟨some contract, options⟩ components task) := perform_supplied_eq _ hne htask
  rw [accepts_eq] at hperform
  cases hstrays : strays contract components with
  | cons e rest =>
      rw [hstrays] at hperform
      exact .inl ⟨e, rest, rfl, hperform⟩
  | nil =>
      rw [hstrays] at hperform
      cases hvacancies : vacancies contract components with
      | cons slot rest =>
          rw [hvacancies] at hperform
          exact .inr (.inl ⟨slot, rest, rfl, rfl, hperform⟩)
      | nil =>
          rw [hvacancies] at hperform
          exact .inr (.inr ⟨rfl, rfl, hperform⟩)

theorem exists_slotFault_iff :
    (∃ error, isSlotFault error = true ∧
      perform ⟨some contract, options⟩ task = .error error) ↔
      strays contract components ≠ [] ∨ vacancies contract components ≠ [] := by
  rcases perform_supplied_cases contract options hne htask with
    ⟨e, rest, hstrays, hperform⟩ | ⟨slot, rest, _, hvacancies, hperform⟩ |
      ⟨hstrays, hvacancies, hperform⟩
  · exact iff_of_true ⟨_, rfl, hperform⟩ (.inl (by simp [hstrays]))
  · exact iff_of_true ⟨_, rfl, hperform⟩ (.inr (by simp [hvacancies]))
  · refine iff_of_false ?_ (by simp [hstrays, hvacancies])
    rintro ⟨error, hfault, herror⟩
    rw [hperform] at herror
    rw [isSlotFault_of_finish herror] at hfault
    cases hfault

theorem perform_of_first_stray {e : Component × Nat}
    (h : (strays contract components).head? = some e) :
    components[e.2]? = some e.1 ∧
      perform ⟨some contract, options⟩ task =
        .error (.unsupportedComponent e.1.kind contract.key) := by
  have hmem := List.mem_of_mem_head? h
  refine ⟨List.mem_zipIdx_iff_getElem?.mp (List.mem_filter.mp hmem).1, ?_⟩
  rcases perform_supplied_cases contract options hne htask with
    ⟨first, rest, hstrays, hperform⟩ | ⟨_, _, hstrays, _⟩ | ⟨hstrays, _⟩
  · rw [hstrays] at h
    cases h
    exact hperform
  · rw [hstrays] at h
    cases h
  · rw [hstrays] at h
    cases h

theorem perform_of_first_vacancy {slot : String} (hstrays : strays contract components = [])
    (h : (vacancies contract components).head? = some slot) :
    slot ∈ contract.slots.required ∧
      perform ⟨some contract, options⟩ task = .error (.missingRequiredSlot slot contract.key) := by
  have hmem := List.mem_of_mem_head? h
  refine ⟨(List.mem_filter.mp hmem).1, ?_⟩
  rcases perform_supplied_cases contract options hne htask with
    ⟨_, _, hcons, _⟩ | ⟨first, rest, _, hvacancies, hperform⟩ | ⟨_, hvacancies, _⟩
  · rw [hstrays] at hcons
    cases hcons
  · rw [hvacancies] at h
    cases h
    exact hperform
  · rw [hvacancies] at h
    cases h

theorem code_of_mem_reported {v : Violation}
    (hv : v ∈ reported (perform ⟨some contract, options⟩ task)) :
    v.code ∈ otherCodes ∨ v.code = .missingHeroImage ∧
      (made ⟨some contract, options⟩ components task).heroImage = none := by
  rcases perform_supplied_cases contract options hne htask with
    ⟨_, _, _, hperform⟩ | ⟨_, _, _, _, hperform⟩ | ⟨hstrays, hvacancies, hperform⟩
  · rw [hperform] at hv
    cases hv
  · rw [hperform] at hv
    cases hv
  · have hmade : (made ⟨some contract, options⟩ components task).components = components :=
      components_made htask
    rw [hperform] at hv
    rw [← hmade] at hstrays hvacancies
    exact code_of_mem_errors_of_placed contract hstrays hvacancies
      (mem_errors_of_reported contract options hv)

end Bound

/-- A task with a list that is supplied fails for its slots exactly if the contract finds such a
fault in a document with these components. It names the kind of the first component that the
contract finds invalid, or else the first required slot that it finds missing. Otherwise the
document goes on to the checks. What the contract says there is about the key and the supporting
images, and of a hero image only if an update leaves a document without one. -/
theorem perform_supplied_faults (contract : Contract) (options : AssemblyOptions)
    (components : List Component) (hne : components ≠ []) (document : Document)
    (hdocument : document.components = components) (task : Task)
    (htask : supplied task = some components) :
    let assembler : Assembler := ⟨some contract, options⟩
    let result := perform assembler task
    let errors := (contract.check document).errors
    ((∃ error, isSlotFault error = true ∧ result = .error error) ↔
      ∃ v ∈ errors, v.code = .invalidComponentType ∨ v.code = .missingRequiredSlot) ∧
    (∀ v, errors.find? (fun v => v.code == .invalidComponentType) = some v →
      ∃ c i, components[i]? = some c ∧ v = stray contract (c, i) ∧
        result = .error (.unsupportedComponent c.kind contract.key)) ∧
    (errors.find? (fun v => v.code == .invalidComponentType) = none →
      ∀ v, errors.find? (fun v => v.code == .missingRequiredSlot) = some v →
        ∃ slot ∈ contract.slots.required, v = vacancy slot ∧
          result = .error (.missingRequiredSlot slot contract.key)) ∧
    ((¬ ∃ v ∈ errors, v.code = .invalidComponentType ∨ v.code = .missingRequiredSlot) →
      result = assembler.finish (made assembler components task)) ∧
    (∀ v ∈ reported result, v.code ∈ otherCodes ∨
      v.code = .missingHeroImage ∧ (made assembler components task).heroImage = none) ∧
    (∀ input, task = .assemble input → ∀ v ∈ reported result, v.code ∈ otherCodes) := by
  intro assembler result errors
  subst hdocument
  have hslots := exists_slot_error_iff contract document
  have hreported : ∀ v ∈ reported result, v.code ∈ otherCodes ∨ v.code = .missingHeroImage ∧
      (made assembler document.components task).heroImage = none :=
    fun v hv => code_of_mem_reported contract options hne htask hv
  refine ⟨?_, ?_, ?_, ?_, hreported, ?_⟩
  · exact (exists_slotFault_iff contract options hne htask).trans hslots.symm
  · intro v hv
    rw [find?_invalid_errors, Option.map_eq_some_iff] at hv
    obtain ⟨⟨c, i⟩, hfirst, rfl⟩ := hv
    obtain ⟨hget, hperform⟩ := perform_of_first_stray contract options hne htask hfirst
    exact ⟨c, i, hget, rfl, hperform⟩
  · intro hnone v hv
    rw [find?_invalid_errors, Option.map_eq_none_iff, List.head?_eq_none_iff] at hnone
    rw [find?_missing_errors, Option.map_eq_some_iff] at hv
    obtain ⟨slot, hfirst, rfl⟩ := hv
    obtain ⟨hrequired, hperform⟩ :=
      perform_of_first_vacancy contract options hne htask hnone hfirst
    exact ⟨slot, hrequired, rfl, hperform⟩
  · intro hnone
    rw [hslots, not_or, not_not, not_not] at hnone
    rcases perform_supplied_cases contract options hne htask with
      ⟨_, _, hcons, _⟩ | ⟨_, _, _, hcons, _⟩ | ⟨_, _, hperform⟩
    · simp [hnone.1] at hcons
    · simp [hnone.2] at hcons
    · exact hperform
  · rintro input rfl v hv
    rcases hreported v hv with hcode | ⟨_, hhero⟩
    · exact hcode
    · cases hhero

def herolessGuide : Document :=
  { trailGuide with heroImage := none }

/-- The button is named before the slots that are vacant. Without it the first of these is. Under a
contract that has a place for everything the document goes on to the checks. -/
theorem trailGuide_perform_supplied_faults :
    let button : Component := .button "Save route" { style := some .primary }
    let texts := trailGuide.components.erase button
    let assembly : Task := .assemble { tealWelcome with components := some trailGuide.components }
    let edit (document : Document) (list : List Component) : Task :=
      .update document { components := some list, now := ⟨1700000000, 0⟩ }
    let detail : Assembler := inMode (some (Builtin.contract trailGuide.key)) .default .collect
    trailGuide.components ≠ [] ∧ supplied assembly = some trailGuide.components ∧
    perform ⟨some unfinishedGuide, {}⟩ assembly =
      .error (.unsupportedComponent .button unfinishedGuide.key) ∧
    texts ≠ [] ∧ supplied (edit trailGuide texts) = some texts ∧
    (∃ slot ∈ unfinishedGuide.slots.required, vacancy "tagline" = vacancy slot ∧
      perform ⟨some unfinishedGuide, {}⟩ (edit trailGuide texts) =
        .error (.missingRequiredSlot slot unfinishedGuide.key)) ∧
    perform detail (edit herolessGuide trailGuide.components) =
      detail.finish (made detail trailGuide.components
        (edit herolessGuide trailGuide.components)) ∧
    perform detail assembly = detail.finish (made detail trailGuide.components assembly) ∧
    (reported (perform detail assembly)).map Violation.code = [.familyMismatch] ∧
    ∀ v ∈ reported (perform detail assembly), v.code ∈ otherCodes := by
  intro button texts assembly edit detail
  have hwhole : trailGuide.components ≠ [] := by decide
  have hpart : texts ≠ [] := by decide +kernel
  have hplaced : ¬ ∃ v ∈ ((Builtin.contract trailGuide.key).check trailGuide).errors,
      v.code = .invalidComponentType ∨ v.code = .missingRequiredSlot := by decide +kernel
  obtain ⟨_, hinvalid, _⟩ := perform_supplied_faults unfinishedGuide {} trailGuide.components hwhole
    trailGuide rfl assembly rfl
  obtain ⟨_, _, hmissing, _⟩ := perform_supplied_faults unfinishedGuide {} texts hpart
    { trailGuide with components := texts } rfl (edit trailGuide texts) rfl
  obtain ⟨_, _, _, hupdated, _⟩ := perform_supplied_faults (Builtin.contract trailGuide.key)
    detail.options trailGuide.components hwhole trailGuide rfl
    (edit herolessGuide trailGuide.components) rfl
  obtain ⟨_, _, _, hassembled, _, hcodes⟩ := perform_supplied_faults
    (Builtin.contract trailGuide.key) detail.options trailGuide.components hwhole trailGuide rfl
    assembly rfl
  refine ⟨hwhole, rfl, ?_, hpart, rfl, ?_, hupdated hplaced, hassembled hplaced, ?_,
    hcodes _ rfl⟩
  · obtain ⟨c, i, _, hstray, hperform⟩ :=
      hinvalid (stray unfinishedGuide (button, 2)) (by decide +kernel)
    have htext : toString button.kind ++ (" is not allowed by " ++ unfinishedGuide.title) =
        toString c.kind ++ (" is not allowed by " ++ unfinishedGuide.title) := by
      simpa only [stray, String.append_assoc] using congrArg Violation.message hstray
    rw [← kind_eq_of_append_eq htext] at hperform
    exact hperform
  · exact hmissing (by decide +kernel) (vacancy "tagline") (by decide +kernel)
  · decide +kernel

/-- Components that pass the check do not bring back a hero image. -/
theorem herolessGuide_update_missing_hero :
    let contract := Builtin.contract trailGuide.key
    let update : DocumentUpdate :=
      { components := some trailGuide.components, now := ⟨1700000000, 0⟩ }
    contract.accepts trailGuide.components = .ok () ∧
    ∃ outcome,
      (inMode (some contract) .default .collect).update herolessGuide update = .ok outcome ∧
      outcome.contractErrors.map Violation.code = [.missingHeroImage] ∧
      .missingHeroImage ∉ otherCodes := by
  intro contract update
  exact ⟨by decide +kernel, _, rfl, by decide +kernel, by decide⟩

end ScreenPattern.Proofs.SuppliedComponents
