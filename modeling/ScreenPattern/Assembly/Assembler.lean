import ScreenPattern.Assembly.Error
import ScreenPattern.Assembly.Synthesis
import ScreenPattern.Document.Schema
import ScreenPattern.Json.Merge
import ScreenPattern.Provider.Navigation
import ScreenPattern.Timestamp

/-!
The assembler makes documents from what the providers return and from updates of earlier documents.
Every document goes through the document schema and, under a contract, through the contract check.
In strict mode a document with findings is an error; in collect mode it is returned with its
findings and is not marked valid.
-/

namespace ScreenPattern

inductive AssemblyMode
  | strict
  | collect
  deriving Repr, DecidableEq

instance : Tokens AssemblyMode where
  all := [.strict, .collect]
  token
    | .strict => "strict"
    | .collect => "collect"

structure AssemblyOptions where
  mode : AssemblyMode := .strict
  defaultVibe : Vibe := .default
  deriving Repr, DecidableEq

namespace AssemblyOptions

def ofJson? (j : Json) : Option AssemblyOptions := do
  let fields ← j.record? ["mode", "default_vibe"]
  let mode ← fields.defaulted "mode" .strict Tokens.ofJson?
  let defaultVibe ← fields.defaulted "default_vibe" .default Tokens.ofJson?
  return { mode, defaultVibe }

def toJson (options : AssemblyOptions) : Json :=
  .obj [("default_vibe", Tokens.toJson options.defaultVibe), ("mode", Tokens.toJson options.mode)]

end AssemblyOptions

structure AssemblyInput where
  family : Family
  variant : Variant
  heroImage : GeneratedImage
  supportingImages : List GeneratedImage := []
  components : Option (List Component) := none
  text : Option GeneratedText := none
  navigation : Option NavigationInput := none
  palette : Option ExtractedPalette := none
  vibe : Option Vibe := none
  animations : Fields Json := []
  metadata : Fields Json := []
  deriving Repr, DecidableEq

/-- What becomes of a field in an update. -/
inductive Change (α : Type)
  | keep
  | clear
  | put (value : α)
  deriving Repr, DecidableEq

/-- Partial edits of a document. A field that is not given stays as it is; metadata is merged into
the metadata of the document. -/
structure DocumentUpdate where
  heroImage : Option GeneratedImage := none
  supportingImages : Option (List GeneratedImage) := none
  palette : Option ExtractedPalette := none
  vibe : Option Vibe := none
  components : Option (List Component) := none
  navigation : Change NavigationInput := .keep
  animations : Option (Fields Json) := none
  metadata : Fields Json := []
  now : Timestamp
  deriving Repr, DecidableEq

/-- A document with everything that the checks found in it. -/
structure AssemblyOutcome where
  document : Document
  valid : Bool
  schemaIssues : List Issue
  contractErrors : List Violation
  warnings : List Violation
  deriving Repr, DecidableEq

def AssemblyOutcome.toJson (outcome : AssemblyOutcome) : Json :=
  .obj (Fields.entryOfList "contractErrors" Violation.toJson outcome.contractErrors ++
    [("document", outcome.document.toJson)] ++
    Fields.entryOfList "schemaIssues" Issue.toJson outcome.schemaIssues ++
    [("valid", .bool outcome.valid)] ++
    Fields.entryOfList "warnings" Violation.toJson outcome.warnings)

structure Assembler where
  contract : Option Contract := none
  options : AssemblyOptions := {}
  deriving Repr, DecidableEq

/-- A component list supplied by a caller must have allowed kinds only, and a component for every
required slot. -/
def Contract.accepts (contract : Contract) (components : List Component) :
    Except AssemblyError Unit :=
  match components.find? fun c => !contract.slots.allows c.kind with
  | some c => .error (.unsupportedComponent c.kind contract.key)
  | none =>
      match contract.slots.requiredKinds.find? fun slot => !isFilled components slot.2 with
      | some (slot, _) => .error (.missingRequiredSlot slot contract.key)
      | none => .ok ()

namespace Assembler

def accepts (assembler : Assembler) (components : List Component) : Except AssemblyError Unit :=
  match assembler.contract with
  | none => .ok ()
  | some contract => contract.accepts components

/-- The places that generated text is put into. -/
def places (assembler : Assembler) : List Synthesis.Place :=
  match assembler.contract with
  | some contract => Synthesis.slotPlaces contract.slots
  | none => Synthesis.freePlaces

/-- The components of a new document: the list supplied, unless it is empty, or else components made
from generated text. -/
def components (assembler : Assembler) (input : AssemblyInput) :
    Except AssemblyError (List Component) :=
  match input.components.filter (fun list => !list.isEmpty), input.text with
  | some list, _ => (assembler.accepts list).map fun _ => list
  | none, some text =>
      .ok (Synthesis.components ⟨text, input.heroImage, input.supportingImages⟩ []
        assembler.places)
  | none, none => .error .componentsRequired

def outcome (assembler : Assembler) (document : Document) : AssemblyOutcome :=
  let schemaIssues := document.report.issues
  let conformance := assembler.contract.map fun contract => contract.check document
  let contractErrors := conformance.elim [] Conformance.errors
  { document
    valid := schemaIssues.isEmpty && contractErrors.isEmpty
    schemaIssues
    contractErrors
    warnings := conformance.elim [] Conformance.warnings }

/-- In strict mode findings are errors, those of the schema first. -/
def finish (assembler : Assembler) (document : Document) :
    Except AssemblyError AssemblyOutcome :=
  let outcome := assembler.outcome document
  if assembler.options.mode = .strict && !outcome.schemaIssues.isEmpty then
    .error (.schemaInvalid outcome.schemaIssues)
  else if assembler.options.mode = .strict && !outcome.contractErrors.isEmpty then
    .error (.contractViolation outcome.contractErrors)
  else .ok outcome

def draft (assembler : Assembler) (input : AssemblyInput) (components : List Component) :
    Document where
  heroImage := some input.heroImage.toRef
  supportingImages := input.supportingImages.map GeneratedImage.toRef
  palette := (input.palette.getD input.heroImage.palette).resolve
  vibe := (input.vibe.or input.heroImage.vibe).getD assembler.options.defaultVibe
  family := input.family
  variant := input.variant
  components
  navigation := input.navigation.bind NavigationInput.normalize
  animations := input.animations
  metadata := input.metadata

def assemble (assembler : Assembler) (input : AssemblyInput) :
    Except AssemblyError AssemblyOutcome := do
  let components ← assembler.components input
  assembler.finish (assembler.draft input components)

/-- Assembles in strict mode, whatever mode is set. -/
def assembleDocument (assembler : Assembler) (input : AssemblyInput) :
    Except AssemblyError Document :=
  let strict := { assembler with options := { assembler.options with mode := .strict } }
  (strict.assemble input).map AssemblyOutcome.document

def updatedAtKey : String := "updated_at"

def revise (document : Document) (update : DocumentUpdate) : Document :=
  let metadata := Json.mergeMembers document.metadata update.metadata
  { document with
    heroImage := (update.heroImage.map GeneratedImage.toRef).or document.heroImage
    supportingImages := (update.supportingImages.map fun images =>
      images.map GeneratedImage.toRef).getD document.supportingImages
    palette := (update.palette.map ExtractedPalette.resolve).getD document.palette
    vibe := update.vibe.getD document.vibe
    components := update.components.getD document.components
    navigation := match update.navigation with
      | .keep => document.navigation
      | .clear => none
      | .put input => input.normalize
    animations := update.animations.getD document.animations
    metadata := Fields.set updatedAtKey (.str update.now.rfc3339) metadata }

def update (assembler : Assembler) (document : Document) (update : DocumentUpdate) :
    Except AssemblyError AssemblyOutcome := do
  match update.components with
  | some components => assembler.accepts components
  | none => .ok ()
  assembler.finish (revise document update)

end Assembler

/-- The error of a document that its schema rejects. -/
def Document.assertValid (document : Document) : Except AssemblyError Unit :=
  if document.report.isAccepted then .ok () else .error (.schemaInvalid document.report.issues)

/-- The conformance of a document, or the error of one that violates the contract. -/
def Contract.assertSatisfied (contract : Contract) (document : Document) :
    Except AssemblyError Conformance :=
  let conformance := contract.check document
  if conformance.valid then .ok conformance else .error (.contractViolation conformance.errors)

end ScreenPattern
