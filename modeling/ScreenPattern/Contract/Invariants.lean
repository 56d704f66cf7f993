import ScreenPattern.Contract.Basic
import ScreenPattern.Report

namespace ScreenPattern.Contract

inductive Failure
  | fieldMissing
  | fieldInvalid
  | requiredSlotUnpositioned
  | heroUndeclared
  | slotsOverlap
  | slotDuplicate
  | slotKindDuplicate
  | slotUnknown
  | positionInvalid
  | layoutInvalid
  deriving Repr, DecidableEq

def Failure.name : Failure → String
  | fieldMissing => "contract_field_missing"
  | fieldInvalid => "contract_field_invalid"
  | requiredSlotUnpositioned => "contract_required_slot_unpositioned"
  | heroUndeclared => "contract_hero_undeclared"
  | slotsOverlap => "contract_slots_overlap"
  | slotDuplicate => "contract_slot_duplicate"
  | slotKindDuplicate => "contract_slot_kind_duplicate"
  | slotUnknown => "contract_slot_unknown"
  | positionInvalid => "contract_position_invalid"
  | layoutInvalid => "contract_layout_invalid"

def Failure.at (failure : Failure) (path message : String) : Issue :=
  { failureClass := failure.name, path, message }

open Text (quote)

/-- The name of the first slot that resolves to `kind`, trimmed. -/
def firstOfKind? (slots : List String) (kind : ComponentKind) : Option String :=
  (slots.find? fun slot => Slot.kind? slot == some kind).map Text.trim

/-- A slot must resolve to a kind, and every other slot of that kind must have the same trimmed
name. -/
def kindIssues (path : String) (before : List String) (slot : String) : List Issue :=
  match Slot.kind? slot with
  | none => [Failure.slotUnknown.at path
      ("slot " ++ quote slot ++ " does not name a known component type")]
  | some kind =>
      match firstOfKind? before kind with
      | none => []
      | some first =>
          if first = Text.trim slot then []
          else [Failure.slotKindDuplicate.at path
            ("slots " ++ quote first ++ " and " ++ quote slot ++ " both resolve to "
              ++ toString kind ++ " components")]

/-- The issues of the slot at `path`, where `required` are the required slots if this is an optional
one, and `earlier` the slots before it in its group. -/
def slotIssues (group path : String) (required earlier : List String) (slot : String) :
    List Issue :=
  if Text.isBlank slot then
    [Failure.fieldInvalid.at path "slot name must be a non-empty string"]
  else
    (if earlier.contains slot then
      [Failure.slotDuplicate.at path ("slot " ++ quote slot ++ " is declared twice in " ++ group)]
    else []) ++
    kindIssues path (required ++ earlier) slot ++
    (if required.contains slot then
      [Failure.slotsOverlap.at path ("slot " ++ quote slot ++ " is both required and optional")]
    else [])

def groupIssues (group : String) (required names : List String) : List Issue :=
  names.zipIdx.flatMap fun (slot, i) =>
    slotIssues group (Path.index ("componentSlots." ++ group) i) required (names.take i) slot

/-- Every required slot has a position under exactly its name. -/
def unpositionedIssues (contract : Contract) : List Issue :=
  contract.slots.required.zipIdx.flatMap fun (slot, i) =>
    if Fields.contains slot contract.layout.positions then []
    else [Failure.requiredSlotUnpositioned.at (Path.index "componentSlots.required" i)
      ("required slot " ++ quote slot ++ " has no entry in layout.positions")]

def heroIssues (contract : Contract) : List Issue :=
  if contract.declaresHero then []
  else [Failure.heroUndeclared.at "imagePlacement.hero"
    "hero image must be declared via layout.positions.hero_image or imagePlacement.hero"]

def positionIssues (name : String) (position : SlotPosition) : List Issue :=
  (if position.width = 0 then
    [Failure.positionInvalid.at (Path.join "layout.positions" (Path.join name "width"))
      "width must be positive"]
  else []) ++
  (if position.height = some 0 then
    [Failure.positionInvalid.at (Path.join "layout.positions" (Path.join name "height"))
      "height must be positive when present"]
  else [])

/-- A grid has a template, and only a grid has templates for breakpoints. -/
def arrangementIssues (contract : Contract) : List Issue :=
  match contract.layout.arrangement with
  | .grid template =>
      if Text.isBlank template then
        [Failure.layoutInvalid.at "layout.gridTemplate"
          "grid layouts require a non-empty grid template"]
      else []
  | .flex _ =>
      contract.responsive.breakpoints.flatMap fun (breakpoint, change) =>
        if change.gridTemplate.isSome then
          [Failure.layoutInvalid.at ("responsive." ++ breakpoint ++ ".gridTemplate")
            "flex layouts cannot override a grid template"]
        else []

def filledIssues (path text : String) : List Issue :=
  if Text.isBlank text then
    [Failure.fieldInvalid.at path (path ++ " must be a non-empty string")]
  else []

/-- Every way in which the contract breaks the rules. -/
def invariantIssues (contract : Contract) : List Issue :=
  groupIssues "required" [] contract.slots.required ++
    groupIssues "optional" contract.slots.required contract.slots.optional ++
    unpositionedIssues contract ++
    heroIssues contract ++
    (contract.layout.positions.flatMap fun p => positionIssues p.1 p.2) ++
    arrangementIssues contract ++
    filledIssues "name" contract.name ++
    filledIssues "version" contract.version

def report (contract : Contract) : Report :=
  .ofIssues contract.invariantIssues

end ScreenPattern.Contract
