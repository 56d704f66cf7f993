import ScreenPattern.Contract.Basic
import ScreenPattern.Document.Basic
import ScreenPattern.Report

/-!
Documents against contracts. Every rule is checked and every violation is reported, in the order of
the rules: pattern identity, required slots, component kinds, hero image, supporting images. A
component that repeats the kind of an earlier one is no violation but a warning.
-/

namespace ScreenPattern

inductive ViolationCode
  | familyMismatch
  | variantMismatch
  | missingRequiredSlot
  | invalidComponentType
  | missingHeroImage
  | unsupportedSupportingImages
  | tooManySupportingImages
  | duplicateSlotComponent
  deriving Repr, DecidableEq

instance : Tokens ViolationCode where
  all := [.familyMismatch, .variantMismatch, .missingRequiredSlot, .invalidComponentType,
    .missingHeroImage, .unsupportedSupportingImages, .tooManySupportingImages,
    .duplicateSlotComponent]
  token
    | .familyMismatch => "PATTERN_FAMILY_MISMATCH"
    | .variantMismatch => "PATTERN_VARIANT_MISMATCH"
    | .missingRequiredSlot => "MISSING_REQUIRED_SLOT"
    | .invalidComponentType => "INVALID_COMPONENT_TYPE"
    | .missingHeroImage => "MISSING_HERO_IMAGE"
    | .unsupportedSupportingImages => "UNSUPPORTED_SUPPORTING_IMAGES"
    | .tooManySupportingImages => "TOO_MANY_SUPPORTING_IMAGES"
    | .duplicateSlotComponent => "DUPLICATE_SLOT_COMPONENT"

structure Violation where
  code : ViolationCode
  path : String
  message : String
  deriving Repr, DecidableEq

namespace Violation

def text (v : Violation) : String :=
  v.path ++ ": " ++ v.message ++ " (" ++ Tokens.token v.code ++ ")"

def summary (violations : List Violation) : String :=
  "; ".intercalate (violations.map text)

def ofJson? (j : Json) : Option Violation := do
  let fields ← j.record? ["code", "path", "message"]
  let code ← fields.required "code" Tokens.ofJson?
  let path ← fields.required "path" Json.asStr?
  let message ← fields.required "message" Json.asStr?
  return { code, path, message }

def toJson (v : Violation) : Json :=
  .obj [("code", Tokens.toJson v.code), ("message", .str v.message), ("path", .str v.path)]

end Violation

/-- The result of checking a document against a contract. Warnings do not make it invalid. -/
structure Conformance where
  valid : Bool
  errors : List Violation
  warnings : List Violation
  deriving Repr, DecidableEq

namespace Conformance

def count (c : Conformance) (code : ViolationCode) : Nat :=
  c.errors.countP fun v => v.code == code

/-- The texts of the errors and then of the warnings. -/
def messages (c : Conformance) : List String :=
  (c.errors ++ c.warnings).map Violation.text

def isClean (c : Conformance) : Bool :=
  c.valid && c.warnings.isEmpty

def ofJson? (j : Json) : Option Conformance := do
  let fields ← j.record? ["valid", "errors", "warnings"]
  let valid ← fields.required "valid" Json.asBool?
  let errors ← fields.required "errors" (Json.list? Violation.ofJson?)
  let warnings ← fields.defaulted "warnings" [] (Json.list? Violation.ofJson?)
  return { valid, errors, warnings }

def toJson (c : Conformance) : Json :=
  .obj ([("errors", .arr (c.errors.map Violation.toJson)), ("valid", .bool c.valid)] ++
    Fields.entryOfList "warnings" Violation.toJson c.warnings)

end Conformance

/-- How many components each slot has taken. -/
abbrev Occupancy := Fields Nat

namespace Occupancy

def taken (slot : String) (occupied : Occupancy) : Nat :=
  (Fields.get? slot occupied).getD 0

/-- One more component in a slot. -/
def add (slot : String) (occupied : Occupancy) : Occupancy :=
  Fields.set slot (occupied.taken slot + 1) occupied

@[simp] theorem taken_nil (slot : String) : taken slot [] = 0 :=
  rfl

theorem taken_add (slot other : String) (occupied : Occupancy) :
    (occupied.add slot).taken other =
      if other = slot then occupied.taken slot + 1 else occupied.taken other := by
  rw [taken, add, Fields.get?_set]
  split
  · rfl
  · rfl

end Occupancy

namespace Contract

open Text (quote)

/-- Family and variant as messages name them. -/
def title (contract : Contract) : String :=
  toString contract.family ++ " variant " ++ toString contract.variant

def identityErrors (contract : Contract) (document : Document) : List Violation :=
  (if document.family = contract.family then []
  else [⟨.familyMismatch, "pattern_family",
    "document declares " ++ toString document.family ++ " but the contract is "
      ++ toString contract.family⟩]) ++
  (if document.variant = contract.variant then []
  else [⟨.variantMismatch, "pattern_variant",
    "document declares variant " ++ toString document.variant ++ " but the contract is variant "
      ++ toString contract.variant⟩])

def isFilled (components : List Component) (kind : Option ComponentKind) : Bool :=
  kind.any fun kind => components.any fun c => c.kind == kind

def missingSlotErrors (contract : Contract) (components : List Component) : List Violation :=
  contract.slots.requiredKinds.flatMap fun (slot, kind) =>
    if isFilled components kind then []
    else [⟨.missingRequiredSlot, "components",
      "required slot " ++ quote slot ++ " has no component"⟩]

def kindErrors (contract : Contract) (components : List Component) : List Violation :=
  components.zipIdx.flatMap fun (c, i) =>
    if contract.slots.allows c.kind then []
    else [⟨.invalidComponentType, Path.index "components" i ++ ".type",
      toString c.kind ++ " is not allowed by " ++ contract.title⟩]

/-- Counts the components into their slots, in order. One that finds another in its slot is
reported. -/
def repetitionsFrom (contract : Contract) (occupied : Occupancy) :
    List (Component × Nat) → List Violation
  | [] => []
  | (c, i) :: rest =>
      match contract.slots.slotFor? c.kind with
      | none => contract.repetitionsFrom occupied rest
      | some slot =>
          let counted := occupied.add slot
          let found := contract.repetitionsFrom counted rest
          if 1 < counted.taken slot then
            ⟨.duplicateSlotComponent, Path.index "components" i,
              toString c.kind ++ " component repeats slot " ++ quote slot⟩ :: found
          else found

def repetitionWarnings (contract : Contract) (components : List Component) : List Violation :=
  contract.repetitionsFrom [] components.zipIdx

def heroErrors (document : Document) : List Violation :=
  if document.heroImage.isSome then []
  else [⟨.missingHeroImage, "hero_image", "hero image is required"⟩]

def supportingErrors (contract : Contract) (document : Document) : List Violation :=
  let count := document.supportingImages.length
  let capacity := contract.supportingCapacity
  if count ≤ capacity then []
  else if capacity = 0 then
    [⟨.unsupportedSupportingImages, "supporting_images",
      contract.title ++ " places no supporting images"⟩]
  else
    [⟨.tooManySupportingImages, "supporting_images",
      toString count ++ " supporting images exceed the " ++ toString capacity
        ++ " placements declared"⟩]

def check (contract : Contract) (document : Document) : Conformance :=
  let errors := contract.identityErrors document ++
    contract.missingSlotErrors document.components ++ contract.kindErrors document.components ++
    heroErrors document ++ contract.supportingErrors document
  { valid := errors.isEmpty
    errors
    warnings := contract.repetitionWarnings document.components }

end Contract

end ScreenPattern
