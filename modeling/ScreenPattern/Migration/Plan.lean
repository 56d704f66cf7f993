import ScreenPattern.Conformance
import ScreenPattern.Document.Codec

/-!
Where the components of a document land under another contract. A component is preserved when the
target declares a slot for its kind, and lost otherwise.
-/

namespace ScreenPattern

structure ComponentMatch where
  index : Nat
  kind : ComponentKind
  /-- The slot of the target, trimmed; absent when the component is lost. -/
  slot : Option String
  deriving Repr, DecidableEq

def ComponentMatch.toJson (m : ComponentMatch) : Json :=
  .obj [("componentType", Tokens.toJson m.kind), ("index", .ofNat m.index),
    ("slot", m.slot.elim .null .str)]

structure MigrationPlan where
  source : ContractKey
  target : ContractKey
  rows : List ComponentMatch
  deriving Repr, DecidableEq

namespace MigrationPlan

def of (document : Document) (target : Contract) : MigrationPlan where
  source := document.key
  target := target.key
  rows := document.components.zipIdx.map fun (c, i) =>
    ⟨i, c.kind, (target.slots.slotFor? c.kind).map Text.trim⟩

def preserved (plan : MigrationPlan) : List ComponentKind :=
  (plan.rows.filter fun m => m.slot.isSome).map (·.kind)

def lost (plan : MigrationPlan) : List ComponentKind :=
  (plan.rows.filter fun m => m.slot.isNone).map (·.kind)

def lossWarnings (plan : MigrationPlan) : List String :=
  (plan.rows.filter fun m => m.slot.isNone).map fun m =>
    toString m.kind ++ " component at position " ++ toString m.index ++ " has no slot in "
      ++ toString plan.target.family ++ " variant " ++ toString plan.target.variant
      ++ " and will be removed"

/-- The document under the target contract, without the components that are lost. -/
def project (plan : MigrationPlan) (document : Document) : Document :=
  { document with
    family := plan.target.family
    variant := plan.target.variant
    components :=
      ((document.components.zip plan.rows).filter fun cm => cm.2.slot.isSome).map (·.1) }

def toJson (plan : MigrationPlan) : Json :=
  .obj [("matches", .arr (plan.rows.map ComponentMatch.toJson)),
    ("source", plan.source.toJson), ("target", plan.target.toJson)]

end MigrationPlan

end ScreenPattern
