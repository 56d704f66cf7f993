import ScreenPattern.Contract.Loading
import ScreenPattern.Proofs.SchemaWalk

/-!
What it means that a contract literal has the right shape, part by part. Here `null` is a value like
any other, except for the height of a position.
-/

namespace ScreenPattern.Proofs.ShapeWalk

open FieldReading SchemaWalk ValueReading
open Contract.Shape
open Fields (get? present?)

/-- The field is as `P` says if it is there, be it as `null`. -/
def IfSet (fields : Fields Json) (key : String) (P : Json → Prop) : Prop :=
  ∀ j, get? key fields = some j → P j

/-- A natural number of at most 64 bits. -/
def IsNat (j : Json) : Prop :=
  j.asNat?.isSome = true

/-- A natural number of at most 32 bits. -/
def IsPixel (j : Json) : Prop :=
  j.asUInt32?.isSome = true

/-- A token exactly as it is written. -/
def IsChoice (α : Type) [Tokens α] (j : Json) : Prop :=
  ∃ s, j = .str s ∧ (Tokens.ofToken? (α := α) s).isSome = true

structure SoundPosition (position : Fields Json) : Prop where
  pixels : ∀ key ∈ ["x", "y", "width"], Has position key IsPixel
  height : MayHave position "height" IsNat

inductive SoundArrangement (layout : Fields Json) : Prop
  | grid (kind : get? "structure" layout = some (.str "grid"))
      (template : Has layout "gridTemplate" IsText)
  | flex (kind : get? "structure" layout = some (.str "flex"))
      (direction : Has layout "flexDirection" (IsChoice FlexDirection))

structure SoundLayout (layout : Fields Json) : Prop where
  arrangement : SoundArrangement layout
  positions : Has layout "positions"
    (OfObject fun positions => ∀ p ∈ positions, OfObject SoundPosition p.2)

structure SoundSlots (slots : Fields Json) : Prop where
  required : Has slots "required" (EachOf IsString)
  optional : IfSet slots "optional" (EachOf IsString)

def SoundSpacing (spacing : Fields Json) : Prop :=
  ∀ key ∈ ["padding", "gap"], Has spacing key IsPixel

structure SoundOverride (change : Fields Json) : Prop where
  sizes : ∀ key ∈ ["padding", "gap"], IfSet change key IsNat
  template : IfSet change "gridTemplate" IsString

def SoundResponsive (breakpoints : Fields Json) : Prop :=
  ∀ b ∈ breakpoints, b.1 ∈ Responsive.names ∧ OfObject SoundOverride b.2

structure SoundPlacement (placement : Fields Json) : Prop where
  position : Has placement "position" (IsChoice ImagePosition)
  size : Has placement "size" (IsChoice ImageSize)

structure SoundImages (images : Fields Json) : Prop where
  hero : IfSet images "hero" (OfObject SoundPlacement)
  supporting : IfSet images "supporting" (EachOf (OfObject SoundPlacement))

structure SoundContract (root : Fields Json) : Prop where
  family : Has root "family" (IsToken Family)
  variant : Has root "variant" fun j => (Variant.ofJson? j).isSome = true
  texts : ∀ key ∈ ["name", "version"], Has root key IsText
  layout : Has root "layout" (OfObject SoundLayout)
  slots : Has root "componentSlots" (OfObject SoundSlots)
  spacing : Has root "spacing" (OfObject SoundSpacing)
  responsive : IfSet root "responsive" (OfObject SoundResponsive)
  images : Has root "imagePlacement" (OfObject SoundImages)

section Fields

variable {fields : Fields Json} {key : String} {P : Json → Prop}

theorem IfSet.mayHave (h : IfSet fields key P) : MayHave fields key P :=
  mayHave_of_forall h

/-- Where `null` will not do, a field that is `null` is no better than one that is not there. -/
theorem has_iff (hnull : ¬ P .null) : Has fields key P ↔ ∃ j, get? key fields = some j ∧ P j := by
  constructor
  · rintro ⟨j, hpresent, hP⟩
    exact ⟨j, ((present?_eq_some_iff _ _ _).mp hpresent).1, hP⟩
  · rintro ⟨j, hget, hP⟩
    refine has_of_get? j hget ?_ hP
    rintro rfl
    exact hnull hP

/-- Issues of a field that must be there. -/
theorem requiredIssues_eq_nil_iff {issues : Json → List Issue} (fields : Fields Json)
    (key : String) (missing : Issue) (hnull : ¬ P .null) (h : ∀ j, issues j = [] ↔ P j) :
    (match get? key fields with
      | none => [missing]
      | some j => issues j) = [] ↔ Has fields key P := by
  rw [has_iff hnull]
  cases hget : get? key fields with
  | none => simp
  | some j => simp [h]

/-- Issues of a field that may be left out. -/
theorem ifSetIssues_eq_nil_iff {issues : Json → List Issue} (fields : Fields Json)
    (key : String) (h : ∀ j, issues j = [] ↔ P j) :
    (match get? key fields with
      | none => []
      | some j => issues j) = [] ↔ IfSet fields key P := by
  cases hget : get? key fields with
  | none => simp [IfSet, hget]
  | some j => simp [IfSet, hget, h]

end Fields

theorem any_asStr?_iff (ok : String → Bool) (j : Json) :
    j.asStr?.any ok = true ↔ ∃ s, j = .str s ∧ ok s = true := by
  cases j <;> simp [Json.asStr?]

theorem textIssues_eq_nil_iff (fields : Fields Json) (key path : String) :
    textIssues fields key path = [] ↔ Has fields key IsText := by
  refine requiredIssues_eq_nil_iff fields key (missing path) nofun fun j => ?_
  rw [issueUnless_eq_nil_iff, any_asStr?_iff]
  simp [IsText]

theorem pixelIssues_eq_nil_iff (fields : Fields Json) (key path : String) :
    pixelIssues fields key path = [] ↔ Has fields key IsPixel :=
  requiredIssues_eq_nil_iff fields key (missing path) nofun fun _ => issueUnless_eq_nil_iff _

theorem familyIssues_eq_nil_iff (root : Fields Json) :
    familyIssues root = [] ↔ Has root "family" (IsToken Family) := by
  refine requiredIssues_eq_nil_iff root "family" (missing "family") nofun fun j => ?_
  rw [issueUnless_eq_nil_iff, any_asStr?_iff]
  rfl

theorem variantIssues_eq_nil_iff (root : Fields Json) :
    variantIssues root = [] ↔
      Has root "variant" fun j => (Variant.ofJson? j).isSome = true :=
  requiredIssues_eq_nil_iff root "variant" (missing "variant") nofun fun _ =>
    issueUnless_eq_nil_iff _

theorem tokenIssues_eq_nil_iff (α : Type) [Tokens α] (fields : Fields Json) (key path : String) :
    tokenIssues α fields key path = [] ↔ Has fields key (IsChoice α) := by
  have hnull : ¬ IsChoice α .null := nofun
  rw [has_iff hnull]
  unfold tokenIssues
  split
  · rename_i hother
    refine iff_of_false (List.cons_ne_nil _ _) ?_
    rintro ⟨_, hget, s, rfl, _⟩
    rw [(bind_asStr?_eq_some_iff _ _ _).mpr hget] at hother
    cases hother
  · rename_i s hs
    rw [bind_asStr?_eq_some_iff] at hs
    rw [issueUnless_eq_nil_iff]
    simp [hs, IsChoice]

theorem arrangementIssues_eq_nil_iff (layout : Fields Json) :
    arrangementIssues layout = [] ↔ SoundArrangement layout := by
  unfold arrangementIssues
  split
  · rename_i hkind
    rw [bind_asStr?_eq_some_iff] at hkind
    rw [textIssues_eq_nil_iff]
    constructor
    · exact .grid hkind
    · rintro (⟨_, htemplate⟩ | ⟨hother, _⟩)
      · exact htemplate
      · simp [hkind] at hother
  · rename_i hkind
    rw [bind_asStr?_eq_some_iff] at hkind
    rw [tokenIssues_eq_nil_iff]
    constructor
    · exact .flex hkind
    · rintro (⟨hother, _⟩ | ⟨_, hdirection⟩)
      · simp [hkind] at hother
      · exact hdirection
  · rename_i other hgrid hflex hkind
    rw [bind_asStr?_eq_some_iff] at hkind
    refine iff_of_false (List.cons_ne_nil _ _) ?_
    rintro (⟨hother, _⟩ | ⟨hother, _⟩)
    · exact hgrid (by simpa [hkind] using hother)
    · exact hflex (by simpa [hkind] using hother)
  · rename_i hnone
    refine iff_of_false (List.cons_ne_nil _ _) ?_
    rintro (⟨hother, _⟩ | ⟨hother, _⟩)
    · rw [(bind_asStr?_eq_some_iff _ _ _).mpr hother] at hnone
      cases hnone
    · rw [(bind_asStr?_eq_some_iff _ _ _).mpr hother] at hnone
      cases hnone

theorem positionIssues_eq_nil_iff (name : String) (j : Json) :
    positionIssues name j = [] ↔ OfObject SoundPosition j := by
  unfold positionIssues
  split
  · rename_i position
    have hheight : ((present? "height" position).all fun v => v.asNat?.isSome) = true ↔
        MayHave position "height" IsNat := by
      simp only [Option.all_eq_true, MayHave, IsNat]
    simp only [List.append_eq_nil_iff, List.flatMap_eq_nil_iff, pixelIssues_eq_nil_iff,
      issueUnless_eq_nil_iff, hheight, ofObject_obj_iff]
    constructor
    · rintro ⟨hpixels, hheight⟩
      exact ⟨hpixels, hheight⟩
    · intro h
      exact ⟨h.pixels, h.height⟩
  · rename_i hother
    exact iff_of_false (List.cons_ne_nil _ _) (not_ofObject hother)

theorem positionsIssues_eq_nil_iff (layout : Fields Json) :
    positionsIssues layout = [] ↔ Has layout "positions"
      (OfObject fun positions => ∀ p ∈ positions, OfObject SoundPosition p.2) := by
  rw [has_iff (not_ofObject nofun)]
  unfold positionsIssues
  split
  · rename_i habsent
    simp [habsent]
  · rename_i positions hpositions
    simp [hpositions, positionIssues_eq_nil_iff]
  · rename_i j hother hpositions
    simp [hpositions, not_ofObject hother]

theorem namesIssues_eq_nil_iff (path : String) (j : Json) :
    namesIssues path j = [] ↔ EachOf IsString j := by
  unfold namesIssues
  split
  · rename_i rows
    have hrow : ∀ (row : Json) (i : Nat),
        (if row.asStr?.isSome then []
          else [invalid (Path.index path i) "slot name must be a string"]) = [] ↔
          IsString row := by
      intro row i
      rw [issueUnless_eq_nil_iff, isSome_asStr?_iff]
    rw [eachOf_arr_iff]
    exact flatMap_zipIdx_eq_nil_iff hrow rows
  · rename_i hother
    exact iff_of_false (List.cons_ne_nil _ _) (not_eachOf hother)

theorem slotsIssues_eq_nil_iff (slots : Fields Json) :
    slotsIssues slots = [] ↔ SoundSlots slots := by
  have hrequired := requiredIssues_eq_nil_iff slots "required"
    (missing "componentSlots.required") (not_eachOf nofun)
    (namesIssues_eq_nil_iff "componentSlots.required")
  have hoptional := ifSetIssues_eq_nil_iff slots "optional"
    (namesIssues_eq_nil_iff "componentSlots.optional")
  rw [slotsIssues, List.append_eq_nil_iff]
  constructor
  · rintro ⟨hnames, hothers⟩
    exact ⟨hrequired.mp hnames, hoptional.mp hothers⟩
  · intro h
    exact ⟨hrequired.mpr h.required, hoptional.mpr h.optional⟩

theorem spacingIssues_eq_nil_iff (spacing : Fields Json) :
    spacingIssues spacing = [] ↔ SoundSpacing spacing := by
  simp [spacingIssues, SoundSpacing, pixelIssues_eq_nil_iff]

theorem overrideIssues_eq_nil_iff (breakpoint : String) (j : Json) :
    overrideIssues breakpoint j = [] ↔
      breakpoint ∈ Responsive.names ∧ OfObject SoundOverride j := by
  unfold overrideIssues
  split
  · rename_i hname
    split
    · rename_i change
      have hset : ∀ (P : Json → Prop) (ok : Json → Bool) (key : String),
          (∀ j, ok j = true ↔ P j) →
          ((get? key change).all ok = true ↔ IfSet change key P) := by
        intro P ok key hok
        simp only [Option.all_eq_true, hok, IfSet]
      simp only [List.append_eq_nil_iff, List.flatMap_eq_nil_iff, issueUnless_eq_nil_iff,
        hset IsNat _ _ fun _ => Iff.rfl, hset IsString _ _ isSome_asStr?_iff, hname, true_and,
        ofObject_obj_iff]
      constructor
      · rintro ⟨hsizes, htemplate⟩
        exact ⟨hsizes, htemplate⟩
      · intro h
        exact ⟨h.sizes, h.template⟩
    · rename_i hother
      simp [not_ofObject hother]
  · rename_i hname
    simp [hname]

theorem responsiveIssues_eq_nil_iff (root : Fields Json) :
    responsiveIssues root = [] ↔ IfSet root "responsive" (OfObject SoundResponsive) := by
  unfold responsiveIssues
  split
  · rename_i habsent
    simp [IfSet, habsent]
  · rename_i breakpoints hget
    simp [IfSet, hget, overrideIssues_eq_nil_iff, SoundResponsive]
  · rename_i j hother hget
    simp [IfSet, hget, not_ofObject hother]

theorem placementIssues_eq_nil_iff (path : String) (j : Json) :
    placementIssues path j = [] ↔ OfObject SoundPlacement j := by
  unfold placementIssues
  split
  · simp only [List.append_eq_nil_iff, tokenIssues_eq_nil_iff, ofObject_obj_iff]
    constructor
    · rintro ⟨hposition, hsize⟩
      exact ⟨hposition, hsize⟩
    · intro h
      exact ⟨h.position, h.size⟩
  · rename_i hother
    exact iff_of_false (List.cons_ne_nil _ _) (not_ofObject hother)

theorem imagesIssues_eq_nil_iff (images : Fields Json) :
    imagesIssues images = [] ↔ SoundImages images := by
  have hsound : SoundImages images ↔ IfSet images "hero" (OfObject SoundPlacement) ∧
      IfSet images "supporting" (EachOf (OfObject SoundPlacement)) := by
    constructor
    · intro h
      exact ⟨h.hero, h.supporting⟩
    · rintro ⟨hhero, hsupporting⟩
      exact ⟨hhero, hsupporting⟩
  rw [imagesIssues, List.append_eq_nil_iff, hsound]
  refine and_congr (ifSetIssues_eq_nil_iff images "hero"
    (placementIssues_eq_nil_iff "imagePlacement.hero")) ?_
  split
  · rename_i habsent
    simp [IfSet, habsent]
  · rename_i rows hget
    have hrows := flatMap_zipIdx_eq_nil_iff
      (fun row i => placementIssues_eq_nil_iff (Path.index "imagePlacement.supporting" i) row) rows
    refine hrows.trans ?_
    simp [IfSet, hget]
  · rename_i j hother hget
    simp [IfSet, hget, not_eachOf hother]

theorem sectionIssues_eq_nil_iff {issues : Fields Json → List Issue} {P : Fields Json → Prop}
    (root : Fields Json) (name : String) (h : ∀ fields, issues fields = [] ↔ P fields) :
    sectionIssues root name issues = [] ↔ Has root name (OfObject P) := by
  rw [has_iff (not_ofObject nofun)]
  unfold sectionIssues
  split
  · rename_i habsent
    simp [habsent]
  · rename_i fields hget
    simp [hget, h]
  · rename_i j hother hget
    simp [hget, not_ofObject hother]

theorem layoutIssues_eq_nil_iff (layout : Fields Json) :
    arrangementIssues layout ++ positionsIssues layout = [] ↔ SoundLayout layout := by
  rw [List.append_eq_nil_iff, arrangementIssues_eq_nil_iff, positionsIssues_eq_nil_iff]
  constructor
  · rintro ⟨harrangement, hpositions⟩
    exact ⟨harrangement, hpositions⟩
  · intro h
    exact ⟨h.arrangement, h.positions⟩

/-- The walk finds nothing exactly if the literal is an object that is sound in all its parts. -/
theorem issues_eq_nil_iff (literal : Json) :
    Contract.Shape.issues literal = [] ↔ OfObject SoundContract literal := by
  unfold Contract.Shape.issues
  split
  · rename_i root
    simp only [List.append_eq_nil_iff, familyIssues_eq_nil_iff, variantIssues_eq_nil_iff,
      textIssues_eq_nil_iff, sectionIssues_eq_nil_iff root _ layoutIssues_eq_nil_iff,
      sectionIssues_eq_nil_iff root _ slotsIssues_eq_nil_iff,
      sectionIssues_eq_nil_iff root _ spacingIssues_eq_nil_iff, responsiveIssues_eq_nil_iff,
      sectionIssues_eq_nil_iff root _ imagesIssues_eq_nil_iff, ofObject_obj_iff]
    constructor
    · rintro ⟨⟨⟨⟨⟨⟨⟨⟨hfamily, hvariant⟩, hname⟩, hversion⟩, hlayout⟩, hslots⟩, hspacing⟩,
        hresponsive⟩, himages⟩
      refine ⟨hfamily, hvariant, ?_, hlayout, hslots, hspacing, hresponsive, himages⟩
      intro key hkey
      simp only [List.mem_cons, List.not_mem_nil, or_false] at hkey
      rcases hkey with rfl | rfl
      · exact hname
      · exact hversion
    · intro h
      exact ⟨⟨⟨⟨⟨⟨⟨⟨h.family, h.variant⟩, h.texts _ (by simp)⟩, h.texts _ (by simp)⟩, h.layout⟩,
        h.slots⟩, h.spacing⟩, h.responsive⟩, h.images⟩
  · rename_i hother
    exact iff_of_false (List.cons_ne_nil _ _) (not_ofObject hother)

/-- Once a literal has the right shape and is read, the invariants decide. -/
theorem load_of_read {literal : Json} {contract : Contract}
    (hwalk : Contract.Shape.issues literal = [])
    (hread : Contract.ofJson? literal = some contract) :
    Contract.load literal =
      if contract.invariantIssues = [] then .ok contract
      else .error contract.invariantIssues := by
  rw [Contract.load, hwalk, hread]
  simp only []
  cases contract.invariantIssues with
  | nil => simp
  | cons issue rest => simp

end ScreenPattern.Proofs.ShapeWalk
