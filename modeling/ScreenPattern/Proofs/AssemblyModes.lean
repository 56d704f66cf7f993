import ScreenPattern.Assembly.Assembler
import ScreenPattern.Catalog.Builtin
import ScreenPattern.Proofs.DocumentReading

namespace ScreenPattern.Proofs.AssemblyModes

open DocumentReading

/-- What a client asks an assembler for. -/
inductive Task
  | assemble (input : AssemblyInput)
  | update (document : Document) (update : DocumentUpdate)

def perform (assembler : Assembler) : Task → Except AssemblyError AssemblyOutcome
  | .assemble input => assembler.assemble input
  | .update document update => assembler.update document update

/-- The document of a task as it goes into the checks. -/
def prepare (assembler : Assembler) : Task → Except AssemblyError Document
  | .assemble input => (assembler.components input).map (assembler.draft input)
  | .update document update =>
      match update.components with
      | some components =>
          (assembler.accepts components).map fun _ => Assembler.revise document update
      | none => .ok (Assembler.revise document update)

/-- Errors that end a task before there is a document. -/
def isImmediate : AssemblyError → Bool
  | .componentsRequired | .unsupportedComponent .. | .missingRequiredSlot .. => true
  | .schemaInvalid _ | .contractViolation _ => false

/-- An assembler that is the same in every mode but for the mode. -/
def inMode (contract : Option Contract) (vibe : Vibe) (mode : AssemblyMode) : Assembler where
  contract
  options := { mode, defaultVibe := vibe }

theorem perform_eq (assembler : Assembler) (task : Task) :
    perform assembler task = (prepare assembler task).bind assembler.finish := by
  cases task with
  | assemble input =>
      simp only [perform, prepare, Assembler.assemble, bind]
      cases assembler.components input <;> rfl
  | update document update =>
      simp only [perform, prepare, Assembler.update, bind]
      cases update.components with
      | none => rfl
      | some components =>
          simp only []
          cases assembler.accepts components <;> rfl

theorem isImmediate_of_accepts {assembler : Assembler} {components : List Component}
    {error : AssemblyError} (h : assembler.accepts components = .error error) :
    isImmediate error = true := by
  unfold Assembler.accepts at h
  split at h
  · cases h
  · unfold Contract.accepts at h
    split at h
    · cases h
      rfl
    · split at h
      · cases h
        rfl
      · cases h

theorem eq_error_of_map {α β ε : Type} {x : Except ε α} {f : α → β} {error : ε}
    (h : x.map f = .error error) : x = .error error := by
  cases x with
  | ok a => cases h
  | error fault =>
      cases h
      rfl

theorem isImmediate_of_prepare {assembler : Assembler} {task : Task} {error : AssemblyError}
    (h : prepare assembler task = .error error) : isImmediate error = true := by
  cases task with
  | assemble input =>
      have hcomponents := eq_error_of_map h
      unfold Assembler.components at hcomponents
      split at hcomponents
      · exact isImmediate_of_accepts (eq_error_of_map hcomponents)
      · cases hcomponents
      · cases hcomponents
        rfl
  | update document update =>
      simp only [prepare] at h
      split at h
      · exact isImmediate_of_accepts (eq_error_of_map h)
      · cases h

theorem prepare_inMode (contract : Option Contract) (vibe : Vibe) (first second : AssemblyMode)
    (task : Task) :
    prepare (inMode contract vibe first) task = prepare (inMode contract vibe second) task := by
  cases task <;> rfl

theorem valid_outcome_iff (assembler : Assembler) (document : Document) :
    (assembler.outcome document).valid = true ↔
      (assembler.outcome document).schemaIssues = [] ∧
        (assembler.outcome document).contractErrors = [] := by
  simp [Assembler.outcome]

theorem schemaIssues_outcome_eq_nil_iff (assembler : Assembler) (document : Document) :
    (assembler.outcome document).schemaIssues = [] ↔ document.report.isAccepted = true := by
  simp [Assembler.outcome, Report.isAccepted]

theorem valid_outcome_iff_checks (assembler : Assembler) (document : Document) :
    (assembler.outcome document).valid = true ↔
      document.report.isAccepted = true ∧
        ∀ bound, assembler.contract = some bound → (bound.check document).valid = true := by
  cases hbound : assembler.contract with
  | none => simp [Assembler.outcome, Report.isAccepted, hbound]
  | some contract => simp [Assembler.outcome, Report.isAccepted, Contract.check, hbound]

theorem finish_collect (contract : Option Contract) (vibe : Vibe) (document : Document) :
    (inMode contract vibe .collect).finish document =
      .ok ((inMode contract vibe .collect).outcome document) :=
  rfl

/-- What strict mode makes of what it finds, which is what collect mode finds. -/
theorem finish_strict (contract : Option Contract) (vibe : Vibe) (document : Document) :
    let found := (inMode contract vibe .collect).outcome document
    (inMode contract vibe .strict).finish document =
      if found.schemaIssues ≠ [] then .error (.schemaInvalid found.schemaIssues)
      else if found.contractErrors ≠ [] then .error (.contractViolation found.contractErrors)
      else .ok found := by
  intro found
  change (if true && !found.schemaIssues.isEmpty then
      Except.error (AssemblyError.schemaInvalid found.schemaIssues)
    else if true && !found.contractErrors.isEmpty then
      .error (.contractViolation found.contractErrors)
    else .ok found) = _
  simp only [Bool.true_and, Bool.not_eq_true', List.isEmpty_eq_false_iff]

section Strict

variable (contract : Option Contract) (vibe : Vibe) (document : Document)

theorem finish_strict_eq_ok_iff (outcome : AssemblyOutcome) :
    let found := (inMode contract vibe .collect).outcome document
    (inMode contract vibe .strict).finish document = .ok outcome ↔
      outcome = found ∧ found.valid = true := by
  intro found
  rw [finish_strict, valid_outcome_iff]
  by_cases hissues : found.schemaIssues = []
  · by_cases herrors : found.contractErrors = []
    · simp [found, hissues, herrors, eq_comm]
    · simp [found, hissues, herrors]
  · simp [found, hissues]

theorem finish_strict_eq_schemaInvalid_iff (issues : List Issue) :
    let found := (inMode contract vibe .collect).outcome document
    (inMode contract vibe .strict).finish document = .error (.schemaInvalid issues) ↔
      issues = found.schemaIssues ∧ found.schemaIssues ≠ [] := by
  intro found
  rw [finish_strict]
  by_cases hissues : found.schemaIssues = []
  · by_cases herrors : found.contractErrors = []
    · simp [found, hissues, herrors]
    · simp [found, hissues, herrors]
  · simp [found, hissues, eq_comm]

theorem finish_strict_eq_contractViolation_iff (violations : List Violation) :
    let found := (inMode contract vibe .collect).outcome document
    (inMode contract vibe .strict).finish document = .error (.contractViolation violations) ↔
      violations = found.contractErrors ∧ found.schemaIssues = [] ∧ found.contractErrors ≠ [] := by
  intro found
  rw [finish_strict]
  by_cases hissues : found.schemaIssues = []
  · by_cases herrors : found.contractErrors = []
    · simp [found, hissues, herrors]
    · simp [found, hissues, herrors, eq_comm]
  · simp [found, hissues]

end Strict

theorem eq_outcome_of_finish {assembler : Assembler} {document : Document}
    {outcome : AssemblyOutcome} (h : assembler.finish document = .ok outcome) :
    outcome = assembler.outcome document := by
  simp only [Assembler.finish] at h
  split at h
  · cases h
  · split at h
    · cases h
    · exact (Except.ok.inj h).symm

theorem exists_finish_of_perform {assembler : Assembler} {task : Task} {outcome : AssemblyOutcome}
    (h : perform assembler task = .ok outcome) :
    ∃ document, prepare assembler task = .ok document ∧
      assembler.finish document = .ok outcome := by
  rw [perform_eq] at h
  cases hprepare : prepare assembler task with
  | error error =>
      rw [hprepare] at h
      cases h
  | ok document =>
      rw [hprepare] at h
      exact ⟨document, rfl, h⟩

/-- An outcome that either mode returns is what the checks made of its document. -/
theorem eq_outcome_of_perform {assembler : Assembler} {task : Task} {outcome : AssemblyOutcome}
    (h : perform assembler task = .ok outcome) :
    outcome = assembler.outcome outcome.document := by
  obtain ⟨document, _, hfinish⟩ := exists_finish_of_perform h
  rw [eq_outcome_of_finish hfinish]
  rfl

/-- With the components settled, strict mode returns an outcome exactly if both checks pass. -/
theorem exists_strict_assemble_iff {contract : Option Contract} {vibe : Vibe}
    {input : AssemblyInput} {components : List Component}
    (h : (inMode contract vibe .strict).components input = .ok components) :
    let strict := inMode contract vibe .strict
    let document := strict.draft input components
    (∃ outcome, strict.assemble input = .ok outcome) ↔
      document.report.isAccepted = true ∧
        ∀ bound, contract = some bound → (bound.check document).valid = true := by
  intro strict document
  have hassemble : strict.assemble input = strict.finish document := by
    simp only [Assembler.assemble, bind, Except.bind, strict, h, document]
  rw [hassemble]
  refine Iff.trans ?_ (valid_outcome_iff_checks (inMode contract vibe .collect) document)
  constructor
  · rintro ⟨outcome, houtcome⟩
    exact ((finish_strict_eq_ok_iff contract vibe document outcome).mp houtcome).2
  · intro hvalid
    exact ⟨_, (finish_strict_eq_ok_iff contract vibe document _).mpr ⟨rfl, hvalid⟩⟩

theorem assembleDocument_inMode (contract : Option Contract) (vibe : Vibe) (mode : AssemblyMode)
    (input : AssemblyInput) :
    (inMode contract vibe mode).assembleDocument input =
      (perform (inMode contract vibe .strict) (.assemble input)).map AssemblyOutcome.document :=
  rfl

/-- The two modes agree. A task fails in both of them before there is a document, or it has an
outcome in collect mode, and strict mode returns that outcome if it is valid and otherwise turns it
into an error with the schema issues or, when there are none, the contract errors. -/
theorem perform_strict_collect (contract : Option Contract) (vibe : Vibe) :
    let strict := inMode contract vibe .strict
    let collect := inMode contract vibe .collect
    (∀ task,
      (∃ error, isImmediate error = true ∧ perform strict task = .error error ∧
        perform collect task = .error error) ∨
      ∃ found, perform collect task = .ok found ∧
        (∀ outcome, perform strict task = .ok outcome ↔ outcome = found ∧ found.valid = true) ∧
        (∀ issues, perform strict task = .error (.schemaInvalid issues) ↔
          issues = found.schemaIssues ∧ found.schemaIssues ≠ []) ∧
        (∀ violations, perform strict task = .error (.contractViolation violations) ↔
          violations = found.contractErrors ∧ found.schemaIssues = [] ∧
            found.contractErrors ≠ [])) ∧
    (∀ mode task outcome, perform (inMode contract vibe mode) task = .ok outcome →
      (outcome.valid = true ↔ outcome.document.report.isAccepted = true ∧
        ∀ bound, contract = some bound → (bound.check outcome.document).valid = true) ∧
      (outcome.valid = true ↔ outcome.schemaIssues = [] ∧ outcome.contractErrors = [])) ∧
    (∀ mode input document, (inMode contract vibe mode).assembleDocument input = .ok document ↔
      ∃ outcome, strict.assemble input = .ok outcome ∧ outcome.document = document) := by
  intro strict collect
  refine ⟨?_, ?_, ?_⟩
  · intro task
    have hstrict := perform_eq strict task
    have hcollect := perform_eq collect task
    rw [prepare_inMode contract vibe .collect .strict] at hcollect
    cases hprepare : prepare strict task with
    | error error =>
        rw [hprepare] at hstrict hcollect
        exact .inl ⟨error, isImmediate_of_prepare hprepare, hstrict, hcollect⟩
    | ok document =>
        rw [hprepare] at hstrict hcollect
        change _ = strict.finish document at hstrict
        rw [hstrict]
        refine .inr ⟨_, hcollect.trans (finish_collect contract vibe document), ?_, ?_, ?_⟩
        · exact finish_strict_eq_ok_iff contract vibe document
        · exact finish_strict_eq_schemaInvalid_iff contract vibe document
        · exact finish_strict_eq_contractViolation_iff contract vibe document
  · intro mode task outcome h
    have houtcome := eq_outcome_of_perform h
    have hchecks := valid_outcome_iff_checks (inMode contract vibe mode) outcome.document
    have hfindings := valid_outcome_iff (inMode contract vibe mode) outcome.document
    rw [← houtcome] at hchecks hfindings
    exact ⟨hchecks, hfindings⟩
  · intro mode input document
    rw [assembleDocument_inMode]
    change _ ↔ ∃ outcome, perform strict (.assemble input) = .ok outcome ∧ _
    cases perform strict (.assemble input) with
    | error error => simp [Except.map]
    | ok outcome => simp [Except.map]

/-- The first screen of an app, with an image whose palette names a color in words. -/
def tealWelcome : AssemblyInput where
  family := .onboardingHeroTop
  variant := .first
  heroImage := { imageId := some "hero", url := "https://cdn.example/harbor.png",
                 palette := { primary := "teal" } }
  text := some { title := "Welcome", buttonLabels := ["Start"] }

/-- A screen whose title is aligned twice. The open property is written in the place of the typed
one, and it names no alignment. -/
def wideWelcome : AssemblyInput :=
  { tealWelcome with
    heroImage := { tealWelcome.heroImage with palette := { primary := "#008080" } }
    components := some
      [.title "Welcome" { align := some .center, extra := [("align", .str "wide")] },
        .subtitle "" {}, .button "Start" {}] }

theorem tealWelcome_strict_collect :
    let contract := some (Builtin.contract ⟨.onboardingHeroTop, .first⟩)
    let strict := perform (inMode contract .default .strict)
    let collect := perform (inMode contract .default .collect)
    (∃ found, collect (.assemble tealWelcome) = .ok found ∧
      found.document.report.isAccepted = false ∧ found.valid = false ∧
      strict (.assemble tealWelcome) = .error (.schemaInvalid found.schemaIssues)) ∧
    ∃ found, collect (.assemble wideWelcome) = .ok found ∧ found.valid = false ∧
      found.schemaIssues = [Document.Failure.fieldInvalid.at "components.0.props"
        "props do not match the component kind: <serde>"] ∧
      strict (.assemble wideWelcome) = .error (.schemaInvalid found.schemaIssues) := by
  intro contract strict collect
  obtain ⟨hagree, hchecks, _⟩ := perform_strict_collect contract .default
  constructor
  · rcases hagree (.assemble tealWelcome) with
      ⟨_, _, _, hcollect⟩ | ⟨found, hcollect, _, hissues, _⟩
    · cases hcollect
    · have hrejected : ¬ found.document.report.isAccepted = true := by
        cases hcollect
        rw [Document.report, isAccepted_rawReport_iff]
        decide +kernel
      have hvalid : ¬ found.valid = true := fun hvalid =>
        hrejected ((hchecks _ _ _ hcollect).1.mp hvalid).1
      have hfound : found.schemaIssues ≠ [] := by
        rw [eq_outcome_of_perform hcollect, Ne, schemaIssues_outcome_eq_nil_iff]
        exact hrejected
      refine ⟨found, hcollect, Bool.eq_false_iff.mpr hrejected, Bool.eq_false_iff.mpr hvalid, ?_⟩
      exact (hissues _).mpr ⟨rfl, hfound⟩
  · rcases hagree (.assemble wideWelcome) with
      ⟨_, _, _, hcollect⟩ | ⟨found, hcollect, _, hissues, _⟩
    · cases hcollect
    · have hfound : found.schemaIssues = [Document.Failure.fieldInvalid.at "components.0.props"
          "props do not match the component kind: <serde>"] := by
        cases hcollect
        decide +kernel
      have hvalid : ¬ found.valid = true := by
        rw [(hchecks _ _ _ hcollect).2, hfound]
        simp
      refine ⟨found, hcollect, Bool.eq_false_iff.mpr hvalid, hfound, ?_⟩
      exact (hissues _).mpr ⟨rfl, by simp [hfound]⟩

end ScreenPattern.Proofs.AssemblyModes
