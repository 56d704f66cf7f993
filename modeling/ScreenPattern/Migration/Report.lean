import ScreenPattern.Migration.Plan

/-!
What a migration reports. Losing content is never an error: the report names what is lost, and the
caller decides.
-/

namespace ScreenPattern

structure MigrationReport where
  document : Document
  /-- The document conforms to the target without any finding. -/
  migrated : Bool
  warnings : List String
  lost : List ComponentKind
  deriving Repr, DecidableEq

structure MigrationPreview where
  target : ContractKey
  preserved : List ComponentKind
  lost : List ComponentKind
  warnings : List String
  wouldMigrate : Bool
  deriving Repr, DecidableEq

/-- The losses of a plan and then the findings in the document that it leads to. -/
def MigrationPlan.warnings (plan : MigrationPlan) (conformance : Conformance) : List String :=
  plan.lossWarnings ++ conformance.messages

namespace Document

def migrate (document : Document) (target : Contract) : MigrationReport :=
  let plan := MigrationPlan.of document target
  let projected := plan.project document
  let conformance := target.check projected
  { document := projected
    migrated := conformance.isClean
    warnings := plan.warnings conformance
    lost := plan.lost }

def previewMigration (document : Document) (target : Contract) : MigrationPreview :=
  let plan := MigrationPlan.of document target
  let conformance := target.check (plan.project document)
  { target := target.key
    preserved := plan.preserved
    lost := plan.lost
    warnings := plan.warnings conformance
    wouldMigrate := conformance.isClean }

end Document

def MigrationReport.toJson (report : MigrationReport) : Json :=
  .obj [("lostComponents", .arr (report.lost.map Tokens.toJson)),
    ("migrated", .bool report.migrated), ("migratedDocument", report.document.toJson),
    ("warnings", .ofStrings report.warnings)]

def MigrationPreview.toJson (preview : MigrationPreview) : Json :=
  .obj [("lostComponents", .arr (preview.lost.map Tokens.toJson)),
    ("preserved", .arr (preview.preserved.map Tokens.toJson)),
    ("target", preview.target.toJson), ("warnings", .ofStrings preview.warnings),
    ("wouldMigrate", .bool preview.wouldMigrate)]

end ScreenPattern
