import ScreenPattern.Catalog.Source

/-!
The builtin catalog: one contract for every key. The family decides the slots; the variant decides
the arrangement, the spacing, the hero image, the supporting images and the breakpoints.
-/

namespace ScreenPattern.Builtin

/-- What a family contributes to its contracts. -/
structure FamilyPlan where
  name : String
  required : List String
  optional : List String := []
  /-- Supporting images beyond those of the variant. -/
  extraSupporting : Nat := 0

def familyPlan : Family → FamilyPlan
  | .onboardingHeroTop =>
      { name := "Onboarding hero top", required := ["title", "subtitle", "button"] }
  | .actionFormMinimal =>
      { name := "Action form minimal", required := ["title", "form", "button"],
        optional := ["subtitle"] }
  | .heroCenterText =>
      { name := "Hero center text", required := ["title"],
        optional := ["subtitle", "button", "text"] }
  | .ctaSplitScreen =>
      { name := "Call-to-action split screen", required := ["title", "button"],
        optional := ["subtitle", "text"] }
  | .galleryMasonry =>
      { name := "Gallery masonry", required := ["title", "image"],
        optional := ["subtitle", "button"], extraSupporting := 3 }
  | .profileCard =>
      { name := "Profile card", required := ["title", "subtitle"],
        optional := ["text", "button", "image"] }
  | .featureList =>
      { name := "Feature list", required := ["title", "text"],
        optional := ["subtitle", "button", "image"] }
  | .splashFullscreen =>
      { name := "Splash fullscreen", required := ["title"], optional := ["subtitle"] }
  | .checkoutSummary =>
      { name := "Checkout summary", required := ["title", "form", "button"],
        optional := ["text"] }
  | .detailMediaTop =>
      { name := "Detail media top", required := ["title", "text"],
        optional := ["subtitle", "button", "image"], extraSupporting := 1 }
  | .settingsStack =>
      { name := "Settings stack", required := ["title", "form"],
        optional := ["subtitle", "text", "button"] }
  | .confirmCentered =>
      { name := "Confirm centered", required := ["title", "button"],
        optional := ["text", "subtitle"] }

def stackedRows (slots : List String) : String :=
  " ".intercalate (slots.map fun slot => "\"" ++ slot ++ "\"")

/-- The hero image on top of the slots. -/
def stackedGrid (slots : List String) : Arrangement :=
  .grid ("\"" ++ Contract.heroSlot ++ "\" " ++ stackedRows slots)

def splitGrid (slots : List String) : Arrangement :=
  .grid (" ".intercalate (slots.map fun slot => "\"" ++ Contract.heroSlot ++ " " ++ slot ++ "\""))

/-- What a variant contributes, given the slots. -/
structure VariantPlan where
  arrangement : Arrangement
  /-- The hero image has a layout position. -/
  heroInLayout : Bool := true
  /-- The slots take the right half of the screen. -/
  split : Bool := false
  spacing : Spacing
  hero : Placement
  supporting : Nat := 0
  responsive : Responsive := {}

def variantPlan (slots : List String) (variant : Variant) : VariantPlan :=
  match variant.number with
  | 1 =>
      { arrangement := stackedGrid slots
        spacing := ⟨24, 16⟩
        hero := ⟨.top, .large⟩ }
  | 2 =>
      { arrangement := .flex .column
        heroInLayout := false
        spacing := ⟨32, 20⟩
        hero := ⟨.center, .medium⟩
        supporting := 1 }
  | 3 =>
      { arrangement := splitGrid slots
        split := true
        spacing := ⟨24, 24⟩
        hero := ⟨.left, .large⟩
        supporting := 2
        responsive :=
          { mobile := some
              { padding := some 16, gap := some 12, gridTemplate := some (stackedRows slots) } } }
  | 4 =>
      { arrangement := .flex .row
        split := true
        spacing := ⟨40, 24⟩
        hero := ⟨.background, .full⟩
        responsive :=
          { tablet := some { padding := some 32 }
            desktop := some { padding := some 48, gap := some 32 } } }
  | _ =>
      { arrangement := stackedGrid slots
        spacing := ⟨16, 8⟩
        hero := ⟨.top, .medium⟩
        supporting := 3
        responsive :=
          { mobile := some { padding := some 12, gap := some 6 }
            tablet := some { padding := some 20 }
            desktop := some { padding := some 24, gap := some 12 } } }

/-- The hero image, if it has a position, then one row for each slot. -/
def positions (plan : VariantPlan) (slots : List String) : Fields SlotPosition :=
  let hero : SlotPosition :=
    if plan.split then ⟨0, 0, 6, some 12⟩ else ⟨0, 0, 12, some 6⟩
  let firstRow := if plan.heroInLayout && !plan.split then 6 else 0
  let x := if plan.split then 6 else 0
  let width := if plan.split then 6 else 12
  let rows := slots.zipIdx.map fun (slot, i) =>
    (slot, (⟨x, UInt32.ofNat (firstRow + i), width, none⟩ : SlotPosition))
  .ofList ((if plan.heroInLayout then [(Contract.heroSlot, hero)] else []) ++ rows)

def contract (key : ContractKey) : Contract :=
  let family := familyPlan key.family
  let slots := family.required ++ family.optional
  let variant := variantPlan slots key.variant
  { family := key.family
    variant := key.variant
    name := family.name ++ " v" ++ toString key.variant
    version := "1.0.0"
    layout := { arrangement := variant.arrangement, positions := positions variant slots }
    slots := { required := family.required, optional := family.optional }
    spacing := variant.spacing
    responsive := variant.responsive
    images :=
      { hero := some variant.hero
        supporting := List.replicate (variant.supporting + family.extraSupporting)
          ⟨.inline, .small⟩ } }

def source : CatalogSource where
  name := "builtin"
  entry key := .ok (some (contract key).toJson)
  keys := ContractKey.all

end ScreenPattern.Builtin
