import ScreenPattern.Proofs.SuppliedComponents

/-!
The order of components. Checks report on components by their index, stop at the first fault and
pair by position; but whether they find anything, and how much of each kind, is settled by the
components there are, in whatever order they come.
-/

namespace ScreenPattern.Proofs.ComponentOrder

open AssemblyModes ContractFindings MigrationChain MigrationProjection SuppliedComponents

/-- Two results of a check that find equally much, code by code. -/
structure SameVerdict (first second : Conformance) : Prop where
  valid : first.valid = second.valid
  count : ∀ code, first.count code = second.count code
  warnings : first.warnings.map Violation.code = second.warnings.map Violation.code

/-- Two tasks that the check of their component lists passes or stops alike. Of several kinds that
are not allowed it may name another. -/
structure SameFault (first second : Except AssemblyError AssemblyOutcome) : Prop where
  stray : ∀ key, (∃ kind, first = .error (.unsupportedComponent kind key)) ↔
    ∃ kind, second = .error (.unsupportedComponent kind key)
  vacancy : ∀ slot key, first = .error (.missingRequiredSlot slot key) ↔
    second = .error (.missingRequiredSlot slot key)

/-- A task with a component list that is supplied for it. -/
def supply (components : List Component) : Task → Task
  | .assemble input => .assemble { input with components := some components }
  | .update document update => .update document { update with components := some components }

theorem SameVerdict.isClean_eq {first second : Conformance} (h : SameVerdict first second) :
    first.isClean = second.isClean := by
  have hempty : first.warnings.isEmpty = second.warnings.isEmpty := by
    rw [← List.isEmpty_map, h.warnings, List.isEmpty_map]
  rw [Conformance.isClean, h.valid, hempty, Conformance.isClean]

theorem SameFault.refl (result : Except AssemblyError AssemblyOutcome) : SameFault result result :=
  ⟨fun _ => .rfl, fun _ _ => .rfl⟩

theorem supplied_supply (components : List Component) (task : Task) :
    supplied (supply components task) = some components := by
  cases task <;> rfl

section Lists

variable {shuffled components : List Component} (contract : Contract)
  (hperm : shuffled.Perm components)

theorem length_strays (components : List Component) :
    (strays contract components).length =
      components.countP fun c => Slotless contract c.kind := by
  calc
    (strays contract components).length =
        ((components.zipIdx.filter fun e => Slotless contract e.1.kind).map (·.1)).length :=
      (List.length_map _).symm
    _ = (components.filter fun c => Slotless contract c.kind).length := by
      rw [filter_zipIdx_fst components fun kind => Slotless contract kind]
    _ = components.countP fun c => Slotless contract c.kind :=
      List.countP_eq_length_filter.symm

include hperm

theorem length_strays_of_perm :
    (strays contract shuffled).length = (strays contract components).length := by
  rw [length_strays, length_strays, hperm.countP_eq]

theorem vacancies_of_perm : vacancies contract shuffled = vacancies contract components := by
  have hkinds := hperm.map Component.kind
  refine List.filter_congr fun slot _ => decide_eq_decide.mpr ?_
  simp only [Vacant, hkinds.mem_iff]

theorem placedKinds_of_perm : placedKinds contract shuffled = placedKinds contract components := by
  rw [placedKinds, List.toFinset_eq_of_perm _ _ (hperm.map Component.kind), placedKinds]

/-- The components that are repeated are as many as are left over when those that no slot is for and
one of each other kind have been taken away. -/
theorem length_repeats_of_perm :
    (repeats contract shuffled).length = (repeats contract components).length := by
  have hshuffled := length_eq_strays_add_repeats contract shuffled
  have hcomponents := length_eq_strays_add_repeats contract components
  rw [length_strays_of_perm contract hperm, placedKinds_of_perm contract hperm,
    hperm.length_eq] at hshuffled
  omega

theorem codes_kindErrors_of_perm :
    (contract.kindErrors shuffled).map Violation.code =
      (contract.kindErrors components).map Violation.code := by
  have hcodes : ∀ list : List Component, (contract.kindErrors list).map Violation.code =
      List.replicate (strays contract list).length .invalidComponentType := by
    intro list
    rw [kindErrors_eq, List.map_map]
    exact List.map_const'
  rw [hcodes, hcodes, length_strays_of_perm contract hperm]

theorem codes_repetitionWarnings_of_perm :
    (contract.repetitionWarnings shuffled).map Violation.code =
      (contract.repetitionWarnings components).map Violation.code := by
  have hcodes : ∀ list : List Component, (contract.repetitionWarnings list).map Violation.code =
      List.replicate (repeats contract list).length .duplicateSlotComponent := by
    intro list
    rw [repetitionWarnings_eq_repeats, List.map_map]
    exact List.map_const'
  rw [hcodes, hcodes, length_repeats_of_perm contract hperm]

end Lists

section Checks

variable {shuffled : List Component} (contract : Contract) {document : Document}
  (hperm : shuffled.Perm document.components)

include hperm

/-- The errors come in another order at most among the components that no slot is for. -/
theorem codes_errors_of_perm :
    (contract.check { document with components := shuffled }).errors.map Violation.code =
      (contract.check document).errors.map Violation.code := by
  have hmissing : contract.missingSlotErrors shuffled =
      contract.missingSlotErrors document.components := by
    rw [missingSlotErrors_eq, missingSlotErrors_eq, vacancies_of_perm contract hperm]
  simp only [Contract.check, List.map_append, hmissing, codes_kindErrors_of_perm contract hperm]
  rfl

theorem sameVerdict_of_perm :
    SameVerdict (contract.check { document with components := shuffled })
      (contract.check document) := by
  have hcodes := codes_errors_of_perm contract hperm
  refine ⟨?_, fun code => ?_, codes_repetitionWarnings_of_perm contract hperm⟩
  · have hvalid : ∀ found : Conformance,
        found.errors.isEmpty = (found.errors.map Violation.code).isEmpty :=
      fun _ => List.isEmpty_map.symm
    calc
      (contract.check { document with components := shuffled }).valid =
          (contract.check { document with components := shuffled }).errors.isEmpty := rfl
      _ = (contract.check document).errors.isEmpty := by rw [hvalid, hcodes, ← hvalid]
  · have hcount : ∀ found : Conformance,
        found.count code = (found.errors.map Violation.code).countP (· == code) := fun found => by
      rw [List.countP_map]
      rfl
    rw [hcount, hcount, hcodes]

end Checks

section Supplied

variable {shuffled components : List Component} (hperm : shuffled.Perm components)

/-- A fault of the slots is found by the check of the list that is supplied, and by nothing after
it. -/
theorem perform_supply_eq_error_iff (assembler : Assembler) (hne : components ≠ []) (task : Task)
    {error : AssemblyError} (hfault : isSlotFault error = true) :
    perform assembler (supply components task) = .error error ↔
      assembler.accepts components = .error error := by
  rw [perform_supplied_eq assembler hne (supplied_supply components task)]
  cases hchecked : assembler.accepts components with
  | error found => simp only [Except.bind, Except.error.injEq]
  | ok _ =>
      refine iff_of_false (fun herror => ?_) nofun
      rw [isSlotFault_of_finish herror] at hfault
      cases hfault

include hperm

theorem accepts_of_perm (assembler : Assembler) :
    (∀ key, (∃ kind, assembler.accepts shuffled = .error (.unsupportedComponent kind key)) ↔
      ∃ kind, assembler.accepts components = .error (.unsupportedComponent kind key)) ∧
    ∀ slot key, assembler.accepts shuffled = .error (.missingRequiredSlot slot key) ↔
      assembler.accepts components = .error (.missingRequiredSlot slot key) := by
  cases hbound : assembler.contract with
  | none => simp [Assembler.accepts, hbound]
  | some contract =>
      have hstrays := length_strays_of_perm contract hperm
      simp only [Assembler.accepts, hbound, accepts_eq, vacancies_of_perm contract hperm]
      cases hfirst : strays contract shuffled with
      | nil =>
          rw [hfirst, List.length_nil, eq_comm, List.length_eq_zero_iff] at hstrays
          simp [hstrays]
      | cons e rest =>
          obtain ⟨other, others, hother⟩ :
              ∃ other others, strays contract components = other :: others :=
            List.exists_cons_of_length_pos (by rw [← hstrays, hfirst]; exact Nat.succ_pos _)
          simp [hother]

theorem sameFault_of_perm (assembler : Assembler) (task : Task) :
    SameFault (perform assembler (supply shuffled task))
      (perform assembler (supply components task)) := by
  by_cases hne : components = []
  · subst hne
    rw [hperm.eq_nil]
    exact .refl _
  · have hshuffled : shuffled ≠ [] := fun hnil => hne (hnil ▸ hperm).symm.eq_nil
    obtain ⟨hstray, hvacancy⟩ := accepts_of_perm hperm assembler
    constructor
    · intro key
      have hchecked : ∀ {list : List Component}, list ≠ [] →
          ((∃ kind, perform assembler (supply list task) =
            .error (.unsupportedComponent kind key)) ↔
          ∃ kind, assembler.accepts list = .error (.unsupportedComponent kind key)) :=
        fun hlist => exists_congr fun _ => perform_supply_eq_error_iff assembler hlist task rfl
      rw [hchecked hshuffled, hchecked hne]
      exact hstray key
    · intro slot key
      rw [perform_supply_eq_error_iff assembler hshuffled task rfl,
        perform_supply_eq_error_iff assembler hne task rfl]
      exact hvacancy slot key

end Supplied

/-- However the components of a document are ordered, a contract finds equally much in it, the check
of a list that is supplied passes it or stops at the same slot, and a migration comes to the same:
with the same losses and the same components, in the new order. -/
theorem verdicts_of_perm (document : Document) (contract : Contract) {shuffled : List Component}
    (hperm : shuffled.Perm document.components) :
    let reordered := { document with components := shuffled }
    let report := document.migrate contract
    SameVerdict (contract.check reordered) (contract.check document) ∧
    (∀ assembler task, SameFault (perform assembler (supply shuffled task))
      (perform assembler (supply document.components task))) ∧
    (reordered.migrate contract).migrated = report.migrated ∧
    (reordered.migrate contract).lost.Perm report.lost ∧
    ∃ moved, moved.Perm report.document.components ∧
      (reordered.migrate contract).document = { report.document with components := moved } := by
  intro reordered report
  have hmoved : (shuffled.filter fun c => contract.slots.allows c.kind).Perm
      report.document.components := by
    rw [migrate_document]
    exact hperm.filter _
  have hdocument : (reordered.migrate contract).document = { report.document with
      components := shuffled.filter fun c => contract.slots.allows c.kind } := by
    rw [migrate_document, migrate_document]
    rfl
  have hverdict := sameVerdict_of_perm contract hmoved
  rw [← hdocument] at hverdict
  refine ⟨sameVerdict_of_perm contract hperm, sameFault_of_perm hperm, ?_, ?_, _, hmoved, hdocument⟩
  · calc
      (reordered.migrate contract).migrated =
          (contract.check (reordered.migrate contract).document).isClean := rfl
      _ = (contract.check report.document).isClean := hverdict.isClean_eq
  · rw [migrate_lost, migrate_lost]
    exact (hperm.map Component.kind).filter _

/-- With the button in front the check of the list stops as it did, and of the two texts still one
is a repetition. -/
theorem trailGuide_verdicts_of_perm :
    let splash := Builtin.contract ⟨.splashFullscreen, .first⟩
    let shuffled : List Component := [.button "Save route" { style := some .primary },
      .text "A loop through the high country" {}, .title "Trail guide" {},
      .text "Six lakes in a day" {}]
    let reordered : Document := { trailGuide with components := shuffled }
    shuffled.Perm trailGuide.components ∧
    (splash.check reordered).count .invalidComponentType = 3 ∧
    (∃ kind, perform ⟨some splash, {}⟩ (supply shuffled (.assemble tealWelcome)) =
      .error (.unsupportedComponent kind splash.key)) ∧
    (reordered.migrate splash).lost.Perm [.text, .button, .text] ∧
    (unfinishedGuide.check reordered).warnings.map Violation.code = [.duplicateSlotComponent] := by
  intro splash shuffled reordered
  have hperm : shuffled.Perm trailGuide.components := by decide +kernel
  obtain ⟨hsplash, hfaults, _, hlost, _⟩ := verdicts_of_perm trailGuide splash hperm
  obtain ⟨hunfinished, _⟩ := verdicts_of_perm trailGuide unfinishedGuide hperm
  have hinvalid : (splash.check trailGuide).count .invalidComponentType = 3 := by decide +kernel
  have hwarnings : (unfinishedGuide.check trailGuide).warnings.map Violation.code =
      [.duplicateSlotComponent] := by decide +kernel
  have hstopped : perform ⟨some splash, {}⟩
      (supply trailGuide.components (.assemble tealWelcome)) =
        .error (.unsupportedComponent .text splash.key) := by
    apply (perform_supply_eq_error_iff _ (by decide) _ rfl).mpr
    decide +kernel
  have hgone : (trailGuide.migrate splash).lost = [.text, .button, .text] := by decide +kernel
  refine ⟨hperm, (hsplash.count _).trans hinvalid, ?_, hgone ▸ hlost,
    hunfinished.warnings.trans hwarnings⟩
  exact ((hfaults _ _).stray _).mpr ⟨_, hstopped⟩

end ScreenPattern.Proofs.ComponentOrder
