import ScreenPattern.Proofs.ContractReading
import ScreenPattern.Proofs.ContractSlots
import ScreenPattern.Proofs.ReportAcceptance
import ScreenPattern.Proofs.ShapeWalk

/-!
Contracts and their own JSON form. The shape of what a contract writes is right unless one of its
texts is blank, and to that the invariants object as well, so a contract loads from what it writes
exactly if its report accepts it.
-/

namespace ScreenPattern.Proofs.ContractRoundTrip

open ContractReading ContractSlots FieldReading ReportAcceptance SchemaWalk ShapeWalk ValueReading
open Contract
open Fields (get?)

/-- A grid has a template that is not blank. -/
def IsDrawn (arrangement : Arrangement) : Prop :=
  ∀ template, arrangement = .grid template → Text.isBlank template = false

/-- The texts without which a literal does not have the right shape. -/
structure IsFilled (contract : Contract) : Prop where
  name : Text.isBlank contract.name = false
  version : Text.isBlank contract.version = false
  template : IsDrawn contract.layout.arrangement

theorem filledIssues_eq_nil_iff (path text : String) :
    filledIssues path text = [] ↔ Text.isBlank text = false := by
  unfold filledIssues
  cases Text.isBlank text <;> simp

theorem isDrawn_of_arrangementIssues {contract : Contract}
    (h : Contract.arrangementIssues contract = []) : IsDrawn contract.layout.arrangement := by
  intro template htemplate
  unfold Contract.arrangementIssues at h
  rw [htemplate] at h
  cases hblank : Text.isBlank template with
  | false => rfl
  | true => simp [hblank] at h

theorem isFilled_of_invariantIssues {contract : Contract} (h : contract.invariantIssues = []) :
    IsFilled contract := by
  simp only [invariantIssues, List.append_eq_nil_iff, filledIssues_eq_nil_iff] at h
  obtain ⟨⟨⟨_, harrangement⟩, hname⟩, hversion⟩ := h
  exact ⟨hname, hversion, isDrawn_of_arrangementIssues harrangement⟩

theorem isPixel_ofUInt32 (n : UInt32) : IsPixel (.ofUInt32 n) := by
  rw [IsPixel, reads_uint32.read_encode]
  rfl

theorem isNat_ofUInt32 (n : UInt32) : IsNat (.ofUInt32 n) := by
  have hlt : (n.toNat : Int) < UInt64.size := by
    have hsize := n.toNat_lt
    rw [show UInt64.size = 18446744073709551616 from rfl]
    omega
  simp only [IsNat, Json.asNat?, Json.ofUInt32, Int.natCast_nonneg, hlt, and_self, if_true,
    Option.isSome_some]

theorem isChoice_toJson {α : Type} [Tokens α] [LawfulTokens α] (a : α) :
    IsChoice α (Tokens.toJson a) :=
  ⟨Tokens.token a, rfl, by rw [LawfulTokens.ofToken?_token]; rfl⟩

theorem eachOf_ofStrings (texts : List String) : EachOf IsString (.ofStrings texts) := by
  rw [Json.ofStrings, eachOf_arr_iff, List.forall_mem_map]
  exact fun s _ => ⟨s, rfl⟩

section Parts

variable {fields : Fields Json} {key : String} {P : Json → Prop}

theorem has_iff_of_get? (j : Json) (hget : get? key fields = some j) (hne : j ≠ .null) :
    Has fields key P ↔ P j := by
  constructor
  · rintro ⟨i, hpresent, hP⟩
    cases hget.symm.trans ((present?_eq_some_iff _ _ _).mp hpresent).1
    exact hP
  · exact has_of_get? j hget hne

theorem ifSet_of_get? {α : Type} (encode : α → Json) (value : Option α)
    (hget : get? key fields = value.map encode) (hP : ∀ a, P (encode a)) : IfSet fields key P := by
  intro j hj
  rw [hget, Option.map_eq_some_iff] at hj
  obtain ⟨a, _, rfl⟩ := hj
  exact hP a

theorem isText_str_iff (s : String) : IsText (.str s) ↔ Text.isBlank s = false := by
  simp [IsText]

theorem sound_position (position : SlotPosition) : OfObject SoundPosition position.toJson := by
  refine ⟨_, rfl, ?_, ?_⟩
  · intro key hkey
    simp only [List.mem_cons, List.not_mem_nil, or_false] at hkey
    rcases hkey with rfl | rfl | rfl
    · exact has_of_get? (.ofUInt32 position.x) (by simp) nofun (isPixel_ofUInt32 _)
    · exact has_of_get? (.ofUInt32 position.y) (by simp) nofun (isPixel_ofUInt32 _)
    · exact has_of_get? (.ofUInt32 position.width) (by simp) nofun (isPixel_ofUInt32 _)
  · exact mayHave_of_get? Json.ofUInt32 position.height (by simp) fun n _ => isNat_ofUInt32 n

theorem sound_arrangement_iff (arrangement : Arrangement) (rest : Fields Json) :
    SoundArrangement (arrangement.toFields ++ rest) ↔ IsDrawn arrangement := by
  cases arrangement with
  | grid template =>
      have htemplate : Has ((Arrangement.grid template).toFields ++ rest) "gridTemplate" IsText ↔
          Text.isBlank template = false :=
        (has_iff_of_get? (.str template) rfl (by simp)).trans (isText_str_iff template)
      have hdrawn : IsDrawn (.grid template) ↔ Text.isBlank template = false := by
        simp [IsDrawn]
      rw [hdrawn, ← htemplate]
      constructor
      · intro h
        rcases h with ⟨_, hfilled⟩ | ⟨hkind, _⟩
        · exact hfilled
        · simp [Arrangement.toFields] at hkind
      · exact .grid rfl
  | flex direction =>
      have hdrawn : IsDrawn (.flex direction) := by
        intro template htemplate
        cases htemplate
      refine iff_of_true (.flex rfl ?_) hdrawn
      exact has_of_get? (Tokens.toJson direction) rfl (by simp [Tokens.toJson])
        (isChoice_toJson direction)

theorem sound_layout_iff (layout : Layout) :
    OfObject SoundLayout layout.toJson ↔ IsDrawn layout.arrangement := by
  have hpositions : Has (layout.arrangement.toFields ++
      [("positions", .obj (layout.positions.map fun p => (p.1, p.2.toJson)))]) "positions"
      (OfObject fun positions => ∀ p ∈ positions, OfObject SoundPosition p.2) := by
    refine has_of_get? (.obj (layout.positions.map fun p => (p.1, p.2.toJson))) ?_ nofun ?_
    · cases layout.arrangement with
      | grid template => rfl
      | flex direction => rfl
    · rw [ofObject_obj_iff, List.forall_mem_map]
      exact fun p _ => sound_position p.2
  rw [Layout.toJson, ofObject_obj_iff, ← sound_arrangement_iff]
  constructor
  · intro h
    exact h.arrangement
  · intro harrangement
    exact ⟨harrangement, hpositions⟩

theorem sound_slots (slots : Slots) : OfObject SoundSlots slots.toJson := by
  refine ⟨_, rfl, ?_, ?_⟩
  · exact has_of_get? (.ofStrings slots.required) rfl nofun (eachOf_ofStrings _)
  · rintro _ ⟨⟩
    exact eachOf_ofStrings _

theorem sound_spacing (spacing : Spacing) : OfObject SoundSpacing spacing.toJson := by
  refine ⟨_, rfl, fun key hkey => ?_⟩
  simp only [List.mem_cons, List.not_mem_nil, or_false] at hkey
  rcases hkey with rfl | rfl
  · exact has_of_get? (.ofUInt32 spacing.padding) rfl nofun (isPixel_ofUInt32 _)
  · exact has_of_get? (.ofUInt32 spacing.gap) rfl nofun (isPixel_ofUInt32 _)

theorem sound_override (change : Override) : OfObject SoundOverride change.toJson := by
  refine ⟨_, rfl, ?_, ?_⟩
  · intro key hkey
    simp only [List.mem_cons, List.not_mem_nil, or_false] at hkey
    rcases hkey with rfl | rfl
    · exact ifSet_of_get? Json.ofUInt32 change.padding (by simp) isNat_ofUInt32
    · exact ifSet_of_get? Json.ofUInt32 change.gap (by simp) isNat_ofUInt32
  · exact ifSet_of_get? Json.str change.gridTemplate (by simp) fun s => ⟨s, rfl⟩

theorem sound_responsive (responsive : Responsive) :
    OfObject SoundResponsive responsive.toJson := by
  have hentry : ∀ name ∈ Responsive.names, ∀ change : Option Override,
      SoundResponsive (Fields.entry? name Override.toJson change) := by
    intro name hname change
    cases change with
    | none => nofun
    | some change => exact List.forall_mem_singleton.mpr ⟨hname, sound_override change⟩
  refine ⟨_, rfl, List.forall_mem_append.mpr ⟨List.forall_mem_append.mpr ⟨?_, ?_⟩, ?_⟩⟩
  · exact hentry "desktop" (by simp [Responsive.names]) _
  · exact hentry "mobile" (by simp [Responsive.names]) _
  · exact hentry "tablet" (by simp [Responsive.names]) _

theorem sound_placement (placement : Placement) : OfObject SoundPlacement placement.toJson := by
  refine ⟨_, rfl, ?_, ?_⟩
  · exact has_of_get? (Tokens.toJson placement.position) rfl nofun (isChoice_toJson _)
  · exact has_of_get? (Tokens.toJson placement.size) rfl nofun (isChoice_toJson _)

theorem sound_images (images : ImagePlacement) : OfObject SoundImages images.toJson := by
  refine ⟨_, rfl, ?_, ?_⟩
  · exact ifSet_of_get? Placement.toJson images.hero (by simp) sound_placement
  · intro j hj
    obtain ⟨_, rfl⟩ : images.supporting ≠ [] ∧
        .arr (images.supporting.map Placement.toJson) = j := by simpa using hj
    rw [eachOf_arr_iff, List.forall_mem_map]
    exact fun placement _ => sound_placement placement

end Parts

/-- What a contract writes has the right shape exactly if none of its texts is blank. -/
theorem sound_toJson_iff (contract : Contract) :
    OfObject SoundContract contract.toJson ↔ IsFilled contract := by
  let fields : Fields Json :=
    [("componentSlots", contract.slots.toJson), ("family", Tokens.toJson contract.family),
      ("imagePlacement", contract.images.toJson), ("layout", contract.layout.toJson),
      ("name", .str contract.name)] ++
    (if contract.responsive.isEmpty then [] else [("responsive", contract.responsive.toJson)]) ++
    [("spacing", contract.spacing.toJson), ("variant", contract.variant.toJson),
      ("version", .str contract.version)]
  have hname : Has fields "name" IsText ↔ Text.isBlank contract.name = false :=
    (has_iff_of_get? (.str contract.name) (by simp [fields]) nofun).trans (isText_str_iff _)
  have hversion : Has fields "version" IsText ↔ Text.isBlank contract.version = false :=
    (has_iff_of_get? (.str contract.version) (by simp [fields]) nofun).trans (isText_str_iff _)
  have hlayout : Has fields "layout" (OfObject SoundLayout) ↔
      IsDrawn contract.layout.arrangement :=
    (has_iff_of_get? contract.layout.toJson (by simp [fields]) nofun).trans (sound_layout_iff _)
  change OfObject SoundContract (.obj fields) ↔ _
  rw [ofObject_obj_iff]
  constructor
  · intro h
    exact ⟨hname.mp (h.texts _ (by simp)), hversion.mp (h.texts _ (by simp)),
      hlayout.mp h.layout⟩
  · intro h
    constructor
    · exact has_of_get? (Tokens.toJson contract.family) (by simp [fields]) nofun
        (isToken_toJson _)
    · refine has_of_get? contract.variant.toJson (by simp [fields]) nofun ?_
      rw [reads_variant.read_encode]
      rfl
    · intro key hkey
      simp only [List.mem_cons, List.not_mem_nil, or_false] at hkey
      rcases hkey with rfl | rfl
      · exact hname.mpr h.name
      · exact hversion.mpr h.version
    · exact hlayout.mpr h.template
    · exact has_of_get? contract.slots.toJson (by simp [fields]) nofun (sound_slots _)
    · exact has_of_get? contract.spacing.toJson (by simp [fields]) nofun (sound_spacing _)
    · intro j hj
      obtain ⟨_, rfl⟩ : contract.responsive.isEmpty = false ∧ contract.responsive.toJson = j := by
        simpa [fields] using hj
      exact sound_responsive _
    · exact has_of_get? contract.images.toJson (by simp [fields]) nofun (sound_images _)

theorem shapeIssues_toJson_eq_nil_iff (contract : Contract) :
    Shape.issues contract.toJson = [] ↔ IsFilled contract :=
  (ShapeWalk.issues_eq_nil_iff _).trans (sound_toJson_iff contract)

theorem load_toJson_eq_ok_iff (contract : Contract) :
    Contract.load contract.toJson = .ok contract ↔ contract.invariantIssues = [] := by
  rw [load_eq_ok_iff, shapeIssues_toJson_eq_nil_iff, reads_contract.read_encode]
  constructor
  · rintro ⟨_, _, hinvariants⟩
    exact hinvariants
  · intro hinvariants
    exact ⟨isFilled_of_invariantIssues hinvariants, rfl, hinvariants⟩

theorem literalReport_toJson {contract : Contract} (h : IsFilled contract) :
    Contract.literalReport contract.toJson = contract.report := by
  have hload := load_of_read ((shapeIssues_toJson_eq_nil_iff contract).mpr h)
    (reads_contract.read_encode contract)
  rw [Contract.literalReport, hload, Contract.report]
  by_cases hinvariants : contract.invariantIssues = []
  · rw [if_pos hinvariants, hinvariants]
    rfl
  · rw [if_neg hinvariants]

/-- The check of a typed contract and that of what it writes agree, so a contract that has loaded
once loads again from what it writes. -/
theorem load_toJson_iff_and_literalReport (contract : Contract) :
    (Contract.load contract.toJson = .ok contract ↔ contract.report.isAccepted = true) ∧
    (IsFilled contract → Contract.literalReport contract.toJson = contract.report) ∧
    (∀ literal, Contract.load literal = .ok contract →
      Contract.load contract.toJson = .ok contract) := by
  refine ⟨?_, literalReport_toJson, ?_⟩
  · rw [load_toJson_eq_ok_iff, Contract.report, isAccepted_ofIssues_iff]
  · intro literal hload
    obtain ⟨_, _, hinvariants⟩ := (load_eq_ok_iff literal contract).mp hload
    exact (load_toJson_eq_ok_iff contract).mpr hinvariants

/-- A literal with a key that no contract has, and with nothing to say for any breakpoint. -/
def loose : Json :=
  .obj
    [("componentSlots", .obj [("required", .arr [.str "title"])]), ("comment", .str "draft"),
      ("family", .str "SPLASH_FULLSCREEN"), ("imagePlacement", .obj []),
      ("layout", .obj [("flexDirection", .str "column"),
        ("positions", .obj
          [("hero_image", .obj [("height", .null), ("width", .int 12), ("x", .int 0),
            ("y", .int 0)]),
          ("title", .obj [("width", .int 12), ("x", .int 0), ("y", .int 6)])]),
        ("structure", .str "flex")]),
      ("name", .str "Splash"), ("responsive", .obj []),
      ("spacing", .obj [("gap", .int 16), ("padding", .int 24)]), ("variant", .int 1),
      ("version", .str "1.0.0")]

/-- A contract with a slot that is of no kind. -/
def oddSlot : Contract :=
  { Builtin.contract ⟨.splashFullscreen, .first⟩ with slots := ⟨["title"], ["banner"]⟩ }

theorem oddSlot_and_loose_load_toJson :
    IsFilled oddSlot ∧ oddSlot.report.isAccepted = false ∧
    Contract.literalReport oddSlot.toJson = oddSlot.report ∧
    ∃ contract, Contract.load loose = .ok contract ∧ contract.toJson ≠ loose ∧
      Contract.load contract.toJson = .ok contract := by
  have hfilled : IsFilled oddSlot := by
    refine ⟨by decide +kernel, by decide +kernel, ?_⟩
    rintro _ ⟨⟩
    decide +kernel
  have hrejected : oddSlot.report.isAccepted = false :=
    Bool.eq_false_iff.mpr fun h => absurd ((isAccepted_ofIssues_iff _).mp h) (by decide +kernel)
  have hloads : ((Contract.load loose).toOption.any fun c => c.toJson ≠ loose) = true := by
    decide +kernel
  obtain ⟨_, hreport, _⟩ := load_toJson_iff_and_literalReport oddSlot
  refine ⟨hfilled, hrejected, hreport hfilled, ?_⟩
  cases hload : Contract.load loose with
  | error found => simp [hload, Except.toOption] at hloads
  | ok contract =>
      obtain ⟨_, _, hagain⟩ := load_toJson_iff_and_literalReport contract
      have hne : contract.toJson ≠ loose := by
        simpa [hload, Except.toOption] using hloads
      exact ⟨contract, rfl, hne, hagain loose hload⟩

end ScreenPattern.Proofs.ContractRoundTrip
