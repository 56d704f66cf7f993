import ScreenPattern.Contract.Invariants

/-!
The shape of a raw contract literal. The walk goes through the literal's fields and reports every
one that is missing or has the wrong form, under the path that the client wrote.
-/

namespace ScreenPattern.Contract.Shape

def missing (path : String) : Issue :=
  Failure.fieldMissing.at path "required field is missing"

def invalid (path message : String) : Issue :=
  Failure.fieldInvalid.at path message

/-- The tokens of a type, for a message that lists them. -/
def choices (α : Type) [Tokens α] : String :=
  ", ".intercalate ((Tokens.all (α := α)).map Tokens.token)

/-- A text with something besides white space in it. -/
def textIssues (fields : Fields Json) (key path : String) : List Issue :=
  match fields.get? key with
  | none => [missing path]
  | some value =>
      if value.asStr?.any fun s => !Text.isBlank s then []
      else [invalid path "must be a non-empty string"]

def pixelIssues (fields : Fields Json) (key path : String) : List Issue :=
  match fields.get? key with
  | none => [missing path]
  | some value =>
      if value.asUInt32?.isSome then [] else [invalid path "must be a non-negative integer"]

/-- One of the tokens of `α`. What is not a string counts as missing. -/
def tokenIssues (α : Type) [Tokens α] (fields : Fields Json) (key path : String) : List Issue :=
  match (fields.get? key).bind Json.asStr? with
  | none => [missing path]
  | some s =>
      if (Tokens.ofToken? (α := α) s).isSome then []
      else [invalid path (key ++ " must be one of " ++ choices α)]

def familyIssues (root : Fields Json) : List Issue :=
  match root.get? "family" with
  | none => [missing "family"]
  | some value =>
      let known := value.asStr?.any fun s => (Vocabulary.parse (α := Family) s).isOk
      if known then []
      else [invalid "family" ("family must be one of the "
        ++ toString (Tokens.all (α := Family)).length ++ " pattern families")]

def variantIssues (root : Fields Json) : List Issue :=
  match root.get? "variant" with
  | none => [missing "variant"]
  | some value =>
      if (Variant.ofJson? value).isSome then []
      else [invalid "variant" ("variant must be an integer in [" ++ toString Variant.min ++ ", "
        ++ toString Variant.max ++ "]")]

def arrangementIssues (layout : Fields Json) : List Issue :=
  match (layout.get? "structure").bind Json.asStr? with
  | some "grid" => textIssues layout "gridTemplate" "layout.gridTemplate"
  | some "flex" => tokenIssues FlexDirection layout "flexDirection" "layout.flexDirection"
  | some other =>
      [invalid "layout.structure" ("structure must be grid or flex, got " ++ Text.quote other)]
  | none => [missing "layout.structure"]

def positionIssues (name : String) (position : Json) : List Issue :=
  let path := Path.join "layout.positions" name
  match position with
  | .obj fields =>
      (["x", "y", "width"].flatMap fun key => pixelIssues fields key (Path.join path key)) ++
      (if (Fields.present? "height" fields).all fun v => v.asNat?.isSome then []
      else [invalid (Path.join path "height") "height must be a non-negative integer"])
  | _ => [invalid path "position must be an object"]

def positionsIssues (layout : Fields Json) : List Issue :=
  match layout.get? "positions" with
  | none => [missing "layout.positions"]
  | some (.obj positions) => positions.flatMap fun p => positionIssues p.1 p.2
  | some _ => [invalid "layout.positions" "positions must be an object"]

def namesIssues (path : String) : Json → List Issue
  | .arr rows => rows.zipIdx.flatMap fun (row, i) =>
      if row.asStr?.isSome then [] else [invalid (Path.index path i) "slot name must be a string"]
  | _ => [invalid path "must be a list of slot names"]

def slotsIssues (slots : Fields Json) : List Issue :=
  (match slots.get? "required" with
    | none => [missing "componentSlots.required"]
    | some value => namesIssues "componentSlots.required" value) ++
  (match slots.get? "optional" with
    | none => []
    | some value => namesIssues "componentSlots.optional" value)

def spacingIssues (spacing : Fields Json) : List Issue :=
  pixelIssues spacing "padding" "spacing.padding" ++ pixelIssues spacing "gap" "spacing.gap"

def overrideIssues (breakpoint : String) (change : Json) : List Issue :=
  let path := Path.join "responsive" breakpoint
  if breakpoint ∈ Responsive.names then
    match change with
    | .obj fields =>
        (["padding", "gap"].flatMap fun key =>
          if (Fields.get? key fields).all fun v => v.asNat?.isSome then []
          else [invalid (Path.join path key) "override must be a non-negative integer"]) ++
        (if (Fields.get? "gridTemplate" fields).all fun v => v.asStr?.isSome then []
        else [invalid (Path.join path "gridTemplate") "gridTemplate override must be a string"])
    | _ => [invalid path "breakpoint override must be an object"]
  else
    [invalid path
      ("unknown breakpoint; expected one of " ++ ", ".intercalate Responsive.names)]

def responsiveIssues (root : Fields Json) : List Issue :=
  match root.get? "responsive" with
  | none => []
  | some (.obj breakpoints) => breakpoints.flatMap fun b => overrideIssues b.1 b.2
  | some _ => [invalid "responsive" "responsive must be an object"]

def placementIssues (path : String) : Json → List Issue
  | .obj fields =>
      tokenIssues ImagePosition fields "position" (Path.join path "position") ++
        tokenIssues ImageSize fields "size" (Path.join path "size")
  | _ => [invalid path "placement must be an object"]

def imagesIssues (images : Fields Json) : List Issue :=
  (match images.get? "hero" with
    | none => []
    | some hero => placementIssues "imagePlacement.hero" hero) ++
  (match images.get? "supporting" with
    | none => []
    | some (.arr rows) => rows.zipIdx.flatMap fun (row, i) =>
        placementIssues (Path.index "imagePlacement.supporting" i) row
    | some _ => [invalid "imagePlacement.supporting" "supporting placements must be a list"])

/-- A section of the literal that must be an object. -/
def sectionIssues (root : Fields Json) (name : String) (issues : Fields Json → List Issue) :
    List Issue :=
  match root.get? name with
  | none => [missing name]
  | some (.obj fields) => issues fields
  | some _ => [invalid name (name ++ " must be an object")]

def issues : Json → List Issue
  | .obj root =>
      familyIssues root ++ variantIssues root ++
        textIssues root "name" "name" ++ textIssues root "version" "version" ++
        sectionIssues root "layout" (fun layout =>
          arrangementIssues layout ++ positionsIssues layout) ++
        sectionIssues root "componentSlots" slotsIssues ++
        sectionIssues root "spacing" spacingIssues ++
        responsiveIssues root ++
        sectionIssues root "imagePlacement" imagesIssues
  | _ => [invalid "" "contract literal must be an object"]

end ScreenPattern.Contract.Shape
