import ScreenPattern.Proofs.DocumentAcceptance

/-!
Parsing as normalization. A raw document may write a field as `null` or under its other name, give
properties by position, and carry fields that no one knows. Parsing it and writing the result leaves
all that behind, and the written document parses as what it was written from.
-/

namespace ScreenPattern.Proofs.DocumentNormalization

open ComponentReading DocumentAcceptance DocumentReading FieldReading SchemaWalk

/-- Open properties are what the typed ones leave over, so none of them has the name of a typed
one. -/
theorem apart_of_read {root : Fields Json} {document : Document} (hclean : CleanDocument root)
    (hread : Document.ofJson? (.obj root) = some document) :
    ∀ c ∈ document.components, Apart c := by
  simp only [Document.ofJson?, Json.record?, Option.bind_eq_bind, Option.bind_some,
    Option.bind_eq_some_iff] at hread
  obtain ⟨_, _, _, _, _, _, _, _, _, _, _, _, components, hcomponents, _, _, _, _, _, _,
    hdocument⟩ := hread
  cases hdocument
  intro c hc
  obtain ⟨_, ⟨_, items, rfl, hitems⟩, hlist⟩ := hclean.components.of_required hcomponents
  obtain ⟨j, hj, hread⟩ := (mem_of_mapM hlist).2 c hc
  obtain ⟨fields, rfl, _⟩ := hitems j hj
  exact (readFrom_of_read hread).apart

theorem isAccepted_report_of_parse {raw : Json} {document : Document}
    (hparse : Document.parse raw = .ok document) :
    (∀ c ∈ document.components, Apart c) ∧ document.report.isAccepted = true := by
  obtain ⟨hissues, hread⟩ := (parse_eq_ok_iff raw document).mp hparse
  obtain ⟨root, rfl, hclean⟩ := (issues_eq_nil_iff raw).mp hissues
  have hapart := apart_of_read hclean hread
  exact ⟨hapart, (isAccepted_report_iff hapart).mpr (wellFormed_of_read hclean hread)⟩

/-- A raw document is accepted exactly if it parses. What it parses as is accepted, too, and parses
from its own JSON form as itself. -/
theorem isAccepted_iff_parse_and_parse_toJson (raw : Json) :
    ((Document.rawReport raw).isAccepted = true ↔ ∃ document, Document.parse raw = .ok document) ∧
    ∀ document, Document.parse raw = .ok document →
      document.report.isAccepted = true ∧ Document.parse document.toJson = .ok document := by
  constructor
  · rw [isAccepted_rawReport_iff, Option.isSome_iff_exists]
    constructor
    · rintro ⟨hissues, document, hread⟩
      exact ⟨document, (parse_eq_ok_iff raw document).mpr ⟨hissues, hread⟩⟩
    · rintro ⟨document, hparse⟩
      obtain ⟨hissues, hread⟩ := (parse_eq_ok_iff raw document).mp hparse
      exact ⟨hissues, document, hread⟩
  · intro document hparse
    obtain ⟨hapart, haccepted⟩ := isAccepted_report_of_parse hparse
    have hissues := ((isAccepted_rawReport_iff document.toJson).mp haccepted).1
    exact ⟨haccepted, (parse_eq_ok_iff _ _).mpr ⟨hissues, document_read hapart⟩⟩

/-- A raw document that is not written as the library writes documents. -/
def clientForm : Json :=
  .obj [
    ("animations", .obj []),
    ("components", .arr [
      .obj [("content", .str "Join"), ("props", .obj [("align", .null), ("level", .int 1)]),
        ("type", .str "title")],
      .obj [("content", .str ""), ("id", .int 7),
        ("props", .obj [("fields", .arr [.arr [.str "email", .str "Email"]])]),
        ("type", .str "form")]]),
    ("hero_image", .obj [("id", .str "hero"), ("palette", .null), ("seed", .int (-7)),
      ("url", .str "https://cdn.example/hero.png"), ("vibe", .str "bold")]),
    ("navigation", .obj [("screen_id", .str " map "), ("type", .str "internal"), ("url", .null)]),
    ("palette", .obj [("accent", .str "#abc"), ("background", .str "#FFFFFF"),
      ("primary", .str "#112233"), ("secondary", .str "#11223344"), ("tint", .null)]),
    ("pattern_family", .str "ACT_FORM_MINIMAL"),
    ("pattern_variant", .int 1),
    ("vibe", .str "calm")]

def clientDocument : Document where
  heroImage := some
    { id := "hero", url := "https://cdn.example/hero.png", seed := some (-7), vibe := some .bold }
  supportingImages := []
  palette := ⟨"#112233", "#11223344", "#abc", "#FFFFFF"⟩
  vibe := .calm
  family := .actionFormMinimal
  variant := .first
  components := [.title "Join" { extra := [("level", .int 1)] },
    .form "" { fields := [{ name := "email", label := "Email" }] }]
  navigation := some (.internal " map ")
  animations := []
  metadata := []

theorem clientForm_isAccepted_and_parse_toJson :
    Document.parse clientForm = .ok clientDocument ∧ clientDocument.toJson ≠ clientForm ∧
    (Document.rawReport clientForm).isAccepted = true ∧
    clientDocument.report.isAccepted = true ∧
    Document.parse clientDocument.toJson = .ok clientDocument := by
  have hparse : Document.parse clientForm = .ok clientDocument :=
    (parse_eq_ok_iff _ _).mpr (by decide +kernel)
  obtain ⟨haccepted, hstable⟩ := isAccepted_iff_parse_and_parse_toJson clientForm
  exact ⟨hparse, by decide +kernel, haccepted.mpr ⟨_, hparse⟩, hstable _ hparse⟩

end ScreenPattern.Proofs.DocumentNormalization
