import ScreenPattern.Fields
import ScreenPattern.Vocabulary.ContractKey
import ScreenPattern.Vocabulary.Slot

/-!
Pattern contracts. A contract is the layout rule set of one family and variant: where slots sit,
which component kinds may occupy them, spacing, overrides per breakpoint, and image placement.
-/

namespace ScreenPattern

inductive FlexDirection
  | row
  | column
  | rowReverse
  | columnReverse
  deriving Repr, DecidableEq

instance : Tokens FlexDirection where
  all := [.row, .column, .rowReverse, .columnReverse]
  token
    | .row => "row"
    | .column => "column"
    | .rowReverse => "row-reverse"
    | .columnReverse => "column-reverse"

inductive Arrangement
  | grid (template : String)
  | flex (direction : FlexDirection)
  deriving Repr, DecidableEq

def Arrangement.kind : Arrangement → String
  | grid _ => "grid"
  | flex _ => "flex"

structure SlotPosition where
  x : UInt32
  y : UInt32
  width : UInt32
  height : Option UInt32 := none
  deriving Repr, DecidableEq

structure Layout where
  arrangement : Arrangement
  positions : Fields SlotPosition
  deriving Repr, DecidableEq

/-- Slot names in the order of their declaration. -/
structure Slots where
  required : List String
  optional : List String
  deriving Repr, DecidableEq

namespace Slots

/-- All slot names, the required ones first. -/
def all (slots : Slots) : List String :=
  slots.required ++ slots.optional

def isRequired (slots : Slots) (slot : String) : Bool :=
  slots.required.contains slot

/-- The first declared slot that a component of this kind may occupy. -/
def slotFor? (slots : Slots) (kind : ComponentKind) : Option String :=
  slots.all.find? fun slot => Slot.kind? slot == some kind

def allows (slots : Slots) (kind : ComponentKind) : Bool :=
  (slots.slotFor? kind).isSome

def requiredKinds (slots : Slots) : List (String × Option ComponentKind) :=
  slots.required.map fun slot => (slot, Slot.kind? slot)

end Slots

structure Spacing where
  padding : UInt32
  gap : UInt32
  deriving Repr, DecidableEq

structure Override where
  padding : Option UInt32 := none
  gap : Option UInt32 := none
  gridTemplate : Option String := none
  deriving Repr, DecidableEq

structure Responsive where
  mobile : Option Override := none
  tablet : Option Override := none
  desktop : Option Override := none
  deriving Repr, DecidableEq

namespace Responsive

/-- The names of the breakpoints, from the smallest screen to the largest. -/
def names : List String := ["mobile", "tablet", "desktop"]

/-- The breakpoints that have an override, in the order of their names. -/
def breakpoints (responsive : Responsive) : List (String × Override) :=
  (responsive.mobile.map ("mobile", ·)).toList ++ (responsive.tablet.map ("tablet", ·)).toList ++
    (responsive.desktop.map ("desktop", ·)).toList

def isEmpty (responsive : Responsive) : Bool :=
  responsive.mobile.isNone && responsive.tablet.isNone && responsive.desktop.isNone

end Responsive

inductive ImagePosition
  | top
  | center
  | left
  | right
  | bottom
  | background
  | inline
  deriving Repr, DecidableEq

instance : Tokens ImagePosition where
  all := [.top, .center, .left, .right, .bottom, .background, .inline]
  token
    | .top => "top"
    | .center => "center"
    | .left => "left"
    | .right => "right"
    | .bottom => "bottom"
    | .background => "background"
    | .inline => "inline"

inductive ImageSize
  | full
  | large
  | medium
  | small
  deriving Repr, DecidableEq

instance : Tokens ImageSize where
  all := [.full, .large, .medium, .small]
  token
    | .full => "full"
    | .large => "large"
    | .medium => "medium"
    | .small => "small"

structure Placement where
  position : ImagePosition
  size : ImageSize
  deriving Repr, DecidableEq

structure ImagePlacement where
  hero : Option Placement
  supporting : List Placement
  deriving Repr, DecidableEq

structure Contract where
  family : Family
  variant : Variant
  name : String
  version : String
  layout : Layout
  slots : Slots
  spacing : Spacing
  responsive : Responsive
  images : ImagePlacement
  deriving Repr, DecidableEq

namespace Contract

/-- The layout position that declares the hero image. -/
def heroSlot : String := "hero_image"

def key (contract : Contract) : ContractKey :=
  ⟨contract.family, contract.variant⟩

/-- A hero image is declared by a position or by a placement. -/
def declaresHero (contract : Contract) : Bool :=
  Fields.contains heroSlot contract.layout.positions || contract.images.hero.isSome

def supportingCapacity (contract : Contract) : Nat :=
  contract.images.supporting.length

end Contract

end ScreenPattern
