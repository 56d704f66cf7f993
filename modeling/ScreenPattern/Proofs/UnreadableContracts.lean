import ScreenPattern.Catalog.Builtin
import ScreenPattern.Proofs.ShapeWalk

namespace ScreenPattern.Proofs.UnreadableContracts

open FieldReading SchemaWalk ShapeWalk ValueReading
open Contract
open Fields (get? present?)

/-- A number that is too large for 32 bits. -/
def IsWide (j : Json) : Prop :=
  ∃ n : Nat, j = .int n ∧ UInt32.size ≤ n

def HasWide (key : String) (j : Json) : Prop :=
  ∃ size, j.get? key = some size ∧ IsWide size

def HasTallPosition (layout : Json) : Prop :=
  ∃ positions, layout.get? "positions" = some (.obj positions) ∧
    ∃ p ∈ positions, HasWide "height" p.2

def HasWideOverride (responsive : Json) : Prop :=
  ∃ breakpoint ∈ Responsive.names, ∃ change, responsive.get? breakpoint = some change ∧
    ∃ key ∈ ["padding", "gap"], HasWide key change

/-- What the walk lets pass although it cannot be read. -/
inductive Drifts (literal : Json) : Prop
  | family (family : Json) (hget : literal.get? "family" = some family)
      (hpadded : IsPadded family)
  | layout (layout : Json) (hget : literal.get? "layout" = some layout)
      (htall : HasTallPosition layout)
  | responsive (responsive : Json) (hget : literal.get? "responsive" = some responsive)
      (hwide : HasWideOverride responsive)

theorem isSome_asUInt32?_iff {j : Json} (h : IsNat j) :
    j.asUInt32?.isSome = true ↔ ¬ IsWide j := by
  obtain ⟨n, rfl⟩ : ∃ n : Nat, j = .int n := by
    unfold IsNat Json.asNat? at h
    split at h
    · rename_i i
      split at h
      · rename_i hi
        exact ⟨i.toNat, by rw [Int.toNat_of_nonneg hi.1]⟩
      · cases h
    · cases h
  have hwide : IsWide (.int n) ↔ UInt32.size ≤ n := by
    constructor
    · rintro ⟨m, hm, hsize⟩
      rwa [Int.ofNat_inj.mp (Json.int.inj hm)]
    · intro hsize
      exact ⟨n, rfl, hsize⟩
  have hread : (Json.int n).asUInt32?.isSome = true ↔ n % UInt32.size = n := by
    simp only [Json.asUInt32?, Int.toNat_natCast, UInt32.toNat_ofNat', Int.ofNat_inj]
    by_cases hmod : n % UInt32.size = n
    · rw [if_pos hmod]
      exact iff_of_true rfl hmod
    · rw [if_neg hmod]
      exact iff_of_false nofun hmod
  rw [hwide, hread, Nat.not_le]
  constructor
  · intro hmod
    rw [← hmod]
    exact Nat.mod_lt _ (by decide)
  · exact Nat.mod_eq_of_lt

section Parts

variable {fields : Fields Json}

theorem isSome_ofJson?_position_iff (h : SoundPosition fields) :
    (SlotPosition.ofJson? (.obj fields)).isSome = true ↔ ¬ HasWide "height" (.obj fields) := by
  have hpixel : ∀ key ∈ ["x", "y", "width"],
      (fields.required key Json.asUInt32?).isSome = true := by
    intro key hkey
    exact (h.pixels key hkey).isSome_required fun _ hj => hj
  have hheight : (fields.optional "height" Json.asUInt32?).isSome = true ↔
      ∀ size, get? "height" fields = some size → ¬ IsWide size :=
    h.height.isSome_optional_iff nofun fun _ => isSome_asUInt32?_iff
  simp only [List.forall_mem_cons] at hpixel
  simp [SlotPosition.ofJson?, Json.record?, Option.isSome_bind, hpixel, hheight, HasWide,
    Json.get?]

theorem isSome_ofFields?_arrangement (h : SoundArrangement fields) :
    (Arrangement.ofFields? fields).isSome = true := by
  cases h with
  | grid hkind htemplate =>
      have hstructure : fields.required "structure" Arrangement.isGrid? = some true := by
        rw [Fields.required, hkind]
        rfl
      have hread : (fields.required "gridTemplate" Json.asStr?).isSome = true :=
        htemplate.isSome_required fun _ => isSome_asStr?_of_isText
      simp [Arrangement.ofFields?, hstructure, hread]
  | flex hkind hdirection =>
      have hstructure : fields.required "structure" Arrangement.isGrid? = some false := by
        rw [Fields.required, hkind]
        rfl
      have hread : (fields.required "flexDirection"
          (Tokens.ofNestedJson? (α := FlexDirection))).isSome = true := by
        refine hdirection.isSome_required ?_
        rintro _ ⟨s, rfl, hs⟩
        exact hs
      simp [Arrangement.ofFields?, hstructure, hread]

theorem isSome_dict?_positions_iff {positions : Fields Json}
    (h : ∀ p ∈ positions, OfObject SoundPosition p.2) :
    (Json.dict? SlotPosition.ofJson? (.obj positions)).isSome = true ↔
      ¬ ∃ p ∈ positions, HasWide "height" p.2 := by
  have hread : ∀ p ∈ positions, (((SlotPosition.ofJson? p.2).map (p.1, ·)).isSome = true ↔
      ¬ HasWide "height" p.2) := by
    intro p hp
    obtain ⟨fields, hfields, hsound⟩ := h p hp
    rw [hfields, Option.isSome_map, isSome_ofJson?_position_iff hsound]
  refine (isSome_mapM_iff positions).trans ((forall₂_congr hread).trans ?_)
  simp

theorem isSome_ofJson?_layout_iff (h : SoundLayout fields) :
    (Layout.ofJson? (.obj fields)).isSome = true ↔ ¬ HasTallPosition (.obj fields) := by
  have harrangement := isSome_ofFields?_arrangement h.arrangement
  have hpositions :
      (fields.required "positions" (Json.dict? SlotPosition.ofJson?)).isSome = true ↔
        ¬ HasTallPosition (.obj fields) := by
    obtain ⟨_, hpresent, positions, rfl, hsound⟩ := h.positions
    have hget := ((present?_eq_some_iff _ _ _).mp hpresent).1
    rw [Fields.required, hget, Option.bind_some, isSome_dict?_positions_iff hsound]
    simp [HasTallPosition, Json.get?, hget]
  simp [Layout.ofJson?, Json.asObj?, Option.isSome_bind, harrangement, hpositions]

theorem isSome_strings? {names : Json} (h : EachOf IsString names) :
    (Json.strings? names).isSome = true := by
  obtain ⟨items, rfl, hitems⟩ := h
  exact (isSome_mapM_iff items).mpr fun item hitem =>
    (isSome_asStr?_iff item).mpr (hitems item hitem)

theorem isSome_ofJson?_slots (h : SoundSlots fields) :
    (Slots.ofJson? (.obj fields)).isSome = true := by
  have hrequired : (fields.required "required" Json.strings?).isSome = true :=
    h.required.isSome_required fun _ => isSome_strings?
  have hoptional : (fields.defaulted "optional" [] Json.strings?).isSome = true :=
    (isSome_defaulted_iff _ _ _ _).mpr fun j hj => isSome_strings? (h.optional j hj)
  simp [Slots.ofJson?, Json.record?, Option.isSome_bind, hrequired, hoptional]

theorem isSome_ofJson?_spacing (h : SoundSpacing fields) :
    (Spacing.ofJson? (.obj fields)).isSome = true := by
  have hpixel : ∀ key ∈ ["padding", "gap"],
      (fields.required key Json.asUInt32?).isSome = true := by
    intro key hkey
    exact (h key hkey).isSome_required fun _ hj => hj
  simp only [List.forall_mem_cons] at hpixel
  simp [Spacing.ofJson?, Json.record?, Option.isSome_bind, hpixel]

theorem isSome_ofJson?_override_iff (h : SoundOverride fields) :
    (Override.ofJson? (.obj fields)).isSome = true ↔
      ¬ ∃ key ∈ ["padding", "gap"], HasWide key (.obj fields) := by
  have hsize : ∀ key ∈ ["padding", "gap"],
      ((fields.optional key Json.asUInt32?).isSome = true ↔ ¬ HasWide key (.obj fields)) := by
    intro key hkey
    refine ((h.sizes key hkey).mayHave.isSome_optional_iff nofun fun _ =>
      isSome_asUInt32?_iff).trans ?_
    simp [HasWide, Json.get?]
  have htemplate : (fields.optional "gridTemplate" Json.asStr?).isSome = true :=
    h.template.mayHave.isSome_optional fun j => (isSome_asStr?_iff j).mpr
  simp only [List.forall_mem_cons] at hsize
  simp [Override.ofJson?, Json.record?, Option.isSome_bind, hsize, htemplate]

theorem isSome_ofJson?_responsive_iff (h : SoundResponsive fields) :
    (Responsive.ofJson? (.obj fields)).isSome = true ↔ ¬ HasWideOverride (.obj fields) := by
  have hbreakpoint : ∀ name, (fields.optional name Override.ofJson?).isSome = true ↔
      ∀ change, get? name fields = some change →
        ¬ ∃ key ∈ ["padding", "gap"], HasWide key change := by
    intro name
    have hset : IfSet fields name (OfObject SoundOverride) := fun change hget =>
      (h _ (mem_of_get? hget)).2
    refine hset.mayHave.isSome_optional_iff ?_ ?_
    · rintro ⟨_, _, _, hget, _⟩
      cases hget
    · exact forall_ofObject_iff.mpr fun _ => isSome_ofJson?_override_iff
  simp [Responsive.ofJson?, Json.record?, Option.isSome_bind, hbreakpoint, HasWideOverride,
    Responsive.names, Json.get?]

theorem isSome_ofJson?_choice {α : Type} [Tokens α] {j : Json} (h : IsChoice α j) :
    (Tokens.ofJson? (α := α) j).isSome = true := by
  obtain ⟨s, rfl, hs⟩ := h
  exact hs

theorem isSome_ofJson?_placement (h : SoundPlacement fields) :
    (Placement.ofJson? (.obj fields)).isSome = true := by
  have hposition : (fields.required "position" (Tokens.ofJson? (α := ImagePosition))).isSome =
      true :=
    h.position.isSome_required fun _ => isSome_ofJson?_choice
  have hsize : (fields.required "size" (Tokens.ofJson? (α := ImageSize))).isSome = true :=
    h.size.isSome_required fun _ => isSome_ofJson?_choice
  simp [Placement.ofJson?, Json.record?, Option.isSome_bind, hposition, hsize]

theorem isSome_ofJson?_images (h : SoundImages fields) :
    (ImagePlacement.ofJson? (.obj fields)).isSome = true := by
  have hplacement : ∀ j, OfObject SoundPlacement j → (Placement.ofJson? j).isSome = true :=
    forall_ofObject_iff.mpr fun _ => isSome_ofJson?_placement
  have hhero : (fields.optional "hero" Placement.ofJson?).isSome = true :=
    h.hero.mayHave.isSome_optional hplacement
  have hsupporting : (fields.defaulted "supporting" []
      (Json.list? Placement.ofJson?)).isSome = true := by
    refine (isSome_defaulted_iff _ _ _ _).mpr fun j hj => ?_
    obtain ⟨rows, rfl, hrows⟩ := h.supporting j hj
    exact (isSome_mapM_iff rows).mpr fun row hrow => hplacement row (hrows row hrow)
  simp [ImagePlacement.ofJson?, Json.record?, Option.isSome_bind, hhero, hsupporting]

end Parts

theorem isSome_ofJson?_contract_iff {root : Fields Json} (h : SoundContract root) :
    (Contract.ofJson? (.obj root)).isSome = true ↔ ¬ Drifts (.obj root) := by
  have hfamily : (root.required "family" (Tokens.ofJson? (α := Family))).isSome = true ↔
      ∀ family, get? "family" root = some family → ¬ IsPadded family :=
    h.family.isSome_required_iff fun _ => isSome_ofJson?_token_iff
  have hvariant : (root.required "variant" Variant.ofJson?).isSome = true :=
    h.variant.isSome_required fun _ hj => hj
  have htext : ∀ key ∈ ["name", "version"], (root.required key Json.asStr?).isSome = true := by
    intro key hkey
    exact (h.texts key hkey).isSome_required fun _ => isSome_asStr?_of_isText
  have hlayout : (root.required "layout" Layout.ofJson?).isSome = true ↔
      ∀ layout, get? "layout" root = some layout → ¬ HasTallPosition layout :=
    h.layout.isSome_required_iff (forall_ofObject_iff.mpr fun _ => isSome_ofJson?_layout_iff)
  have hslots : (root.required "componentSlots" Slots.ofJson?).isSome = true :=
    h.slots.isSome_required (forall_ofObject_iff.mpr fun _ => isSome_ofJson?_slots)
  have hspacing : (root.required "spacing" Spacing.ofJson?).isSome = true :=
    h.spacing.isSome_required (forall_ofObject_iff.mpr fun _ => isSome_ofJson?_spacing)
  have hresponsive : (root.defaulted "responsive" {} Responsive.ofJson?).isSome = true ↔
      ∀ responsive, get? "responsive" root = some responsive →
        ¬ HasWideOverride responsive := by
    rw [isSome_defaulted_iff]
    refine forall₂_congr fun responsive hget => ?_
    obtain ⟨fields, rfl, hsound⟩ := h.responsive responsive hget
    exact isSome_ofJson?_responsive_iff hsound
  have himages : (root.required "imagePlacement" ImagePlacement.ofJson?).isSome = true :=
    h.images.isSome_required (forall_ofObject_iff.mpr fun _ => isSome_ofJson?_images)
  simp only [List.forall_mem_cons] at htext
  simp only [Contract.ofJson?, Json.record?, Option.bind_eq_bind, Option.bind_some, Option.pure_def,
    Option.isSome_bind, Option.isSome_some, any_const, Bool.and_eq_true, hfamily, hvariant, htext,
    hlayout, hslots, hspacing, hresponsive, himages, true_and, and_true]
  constructor
  · rintro ⟨hfamily, hlayout, hresponsive⟩ hdrifts
    cases hdrifts with
    | family family hget hpadded => exact hfamily family hget hpadded
    | layout layout hget htall => exact hlayout layout hget htall
    | responsive responsive hget hwide => exact hresponsive responsive hget hwide
  · intro hread
    refine ⟨?_, ?_, ?_⟩
    · exact fun family hget hpadded => hread (.family family hget hpadded)
    · exact fun layout hget htall => hread (.layout layout hget htall)
    · exact fun responsive hget hwide => hread (.responsive responsive hget hwide)

/-- A literal of the right shape cannot be read exactly if it drifts; its one issue is then about
the literal as a whole. Of any other the invariants alone decide whether it loads. -/
theorem unloadable_iff_drifts {literal : Json} (hwalk : Shape.issues literal = []) :
    (Contract.ofJson? literal = none ↔ Drifts literal) ∧
    (Drifts literal → ∃ issue, Contract.load literal = .error [issue] ∧ issue.path = "") ∧
    (¬ Drifts literal → ∃ contract, Contract.ofJson? literal = some contract ∧
      Contract.load literal =
        if contract.invariantIssues = [] then .ok contract
        else .error contract.invariantIssues) := by
  have hreads : (Contract.ofJson? literal).isSome = true ↔ ¬ Drifts literal := by
    obtain ⟨root, rfl, hsound⟩ := (ShapeWalk.issues_eq_nil_iff literal).mp hwalk
    exact isSome_ofJson?_contract_iff hsound
  have hunread : Contract.ofJson? literal = none ↔ Drifts literal := by
    rw [← Option.not_isSome_iff_eq_none, hreads, Classical.not_not]
  refine ⟨hunread, ?_, ?_⟩
  · intro hdrifts
    refine ⟨Contract.unreadable, ?_, rfl⟩
    rw [Contract.load, hwalk, hunread.mpr hdrifts]
  · intro hdrifts
    obtain ⟨contract, hread⟩ := Option.isSome_iff_exists.mp (hreads.mpr hdrifts)
    exact ⟨contract, hread, load_of_read hwalk hread⟩

/-- The hero image is one row taller than 32 bits can say. -/
def tallHero : Json :=
  .obj
    [("componentSlots", .obj [("required", .arr [.str "title"])]),
      ("family", .str "SPLASH_FULLSCREEN"), ("imagePlacement", .obj []),
      ("layout", .obj [("flexDirection", .str "column"),
        ("positions", .obj
          [("hero_image", .obj [("height", .int 4294967296), ("width", .int 12), ("x", .int 0),
            ("y", .int 0)]),
          ("title", .obj [("width", .int 12), ("x", .int 0), ("y", .int 4294967295)])]),
        ("structure", .str "flex")]),
      ("name", .str "Splash"), ("spacing", .obj [("gap", .int 16), ("padding", .int 24)]),
      ("variant", .int 1), ("version", .str "1.0.0")]

theorem tallHero_unloadable_iff_drifts :
    Shape.issues tallHero = [] ∧ Drifts tallHero ∧ Contract.ofJson? tallHero = none ∧
    Shape.issues (Builtin.contract ⟨.splashFullscreen, .first⟩).toJson = [] ∧
    ¬ Drifts (Builtin.contract ⟨.splashFullscreen, .first⟩).toJson := by
  have hwalk : Shape.issues tallHero = [] := by decide +kernel
  have htall : Drifts tallHero :=
    .layout _ rfl ⟨_, rfl, _, .head _, _, rfl, 4294967296, rfl, Nat.le_refl _⟩
  have hsplash : Shape.issues (Builtin.contract ⟨.splashFullscreen, .first⟩).toJson = [] := by
    decide +kernel
  have hread : Contract.ofJson? (Builtin.contract ⟨.splashFullscreen, .first⟩).toJson ≠ none := by
    decide +kernel
  refine ⟨hwalk, htall, (unloadable_iff_drifts hwalk).1.mpr htall, hsplash, ?_⟩
  exact fun h => hread ((unloadable_iff_drifts hsplash).1.mpr h)

end ScreenPattern.Proofs.UnreadableContracts
