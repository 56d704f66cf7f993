import ScreenPattern.Migration.Report
import ScreenPattern.Registry

namespace ScreenPattern

/-- A migration fails only when its target cannot be loaded. -/
structure MigrationError where
  cause : RegistryError
  deriving Repr, DecidableEq

def MigrationError.message (e : MigrationError) : String :=
  "target contract unavailable: " ++ e.cause.message

structure TargetScore where
  target : ContractKey
  preserved : Nat
  lost : Nat
  valid : Bool
  deriving Repr, DecidableEq

namespace TargetScore

def of (document : Document) (target : Contract) : TargetScore :=
  let preview := document.previewMigration target
  { target := target.key
    preserved := preview.preserved.length
    lost := preview.lost.length
    valid := preview.wouldMigrate }

/-- The share of components that are preserved, as a 64-bit binary floating point number. A document
without components scores zero. -/
def share (score : TargetScore) : Float :=
  let total := score.preserved + score.lost
  if total = 0 then 0 else score.preserved.toFloat / total.toFloat

/-- More components preserved come first, then valid targets, then catalog order. For one document
the scores have the same total, so the number preserved orders them as the share does. -/
def before (a b : TargetScore) : Bool :=
  a.preserved > b.preserved ||
    (a.preserved == b.preserved &&
      ((a.valid && !b.valid) || (a.valid == b.valid && a.target ≤ b.target)))

end TargetScore

namespace Registry

def migrate (registry : Registry) (document : Document) (key : ContractKey) :
    Except MigrationError MigrationReport × Registry :=
  let (answer, after) := registry.get key
  ((answer.map document.migrate).mapError MigrationError.mk, after)

def previewMigration (registry : Registry) (document : Document) (key : ContractKey) :
    Except MigrationError MigrationPreview × Registry :=
  let (answer, after) := registry.get key
  ((answer.map document.previewMigration).mapError MigrationError.mk, after)

def switchVariant (registry : Registry) (document : Document) (variant : Variant) :
    Except MigrationError MigrationReport × Registry :=
  registry.migrate document ⟨document.family, variant⟩

/-- Moves a document to another family, to its first variant unless one is named. -/
def switchFamily (registry : Registry) (document : Document) (family : Family)
    (variant : Option Variant) : Except MigrationError MigrationReport × Registry :=
  registry.migrate document ⟨family, variant.getD .first⟩

/-- Scores every key of the catalog but the document's own, the best first. -/
def rankTargets (registry : Registry) (document : Document) :
    Except MigrationError (List TargetScore) × Registry :=
  let candidates := registry.source.keys.filter fun key => key ≠ document.key
  let (answer, after) := registry.getAll candidates
  let scores := answer.map fun targets =>
    (targets.map (TargetScore.of document)).mergeSort TargetScore.before
  (scores.mapError MigrationError.mk, after)

end Registry

end ScreenPattern
