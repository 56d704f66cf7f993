import Mathlib.Data.List.Nodup
import ScreenPattern.Document.Schema
import ScreenPattern.Proofs.ComponentReading

/-!
What it means that the walk over a raw document finds nothing. Each part of the walk has a condition
on the raw value beside it, and the part is silent exactly if the condition holds, whatever the path
is under which the part would report.
-/

namespace ScreenPattern.Proofs.SchemaWalk

open ComponentReading FieldReading ValueReading
open Document Document.Schema
open Fields (get? present?)

/-- The field is there and is as `P` says. -/
def Has (fields : Fields Json) (key : String) (P : Json → Prop) : Prop :=
  ∃ j, present? key fields = some j ∧ P j

/-- The field is as `P` says if it is there. -/
def MayHave (fields : Fields Json) (key : String) (P : Json → Prop) : Prop :=
  ∀ j, present? key fields = some j → P j

def OfObject (P : Fields Json → Prop) (j : Json) : Prop :=
  ∃ fields, j = .obj fields ∧ P fields

def EachOf (P : Json → Prop) (j : Json) : Prop :=
  ∃ items, j = .arr items ∧ ∀ item ∈ items, P item

def IsString (j : Json) : Prop :=
  ∃ s, j = .str s

/-- A text that is not blank. -/
def IsText (j : Json) : Prop :=
  ∃ s, j = .str s ∧ Text.isBlank s = false

def IsColor (j : Json) : Prop :=
  ∃ color, j = .str color ∧ isHexColor color = true

/-- A token, perhaps with white space around it. -/
def IsToken (α : Type) [Vocabulary α] (j : Json) : Prop :=
  ∃ token, j = .str token ∧ (Vocabulary.parse (α := α) token).isOk = true

/-- A string with white space around it. -/
def IsPadded (j : Json) : Prop :=
  ∃ s, j = .str s ∧ Text.trim s ≠ s

structure CleanPalette (required optional : List String) (palette : Fields Json) : Prop where
  required : ∀ key ∈ required, Has palette key IsColor
  optional : ∀ key ∈ optional, MayHave palette key IsColor

structure CleanImage (image : Fields Json) : Prop where
  id : Has image "id" IsText
  url : Has image "url" IsText
  texts : ∀ key ∈ ["prompt", "aspect_ratio", "style"], MayHave image key IsString
  seed : MayHave image "seed" fun j => j.asInt64?.isSome = true
  palette : MayHave image "palette"
    (OfObject (CleanPalette ["primary"] ["secondary", "accent", "background"]))
  vibe : MayHave image "vibe" (IsToken Vibe)

/-- The screen that navigation names, under the name that the walk looks at first. -/
def screen? (navigation : Fields Json) : Option Json :=
  (present? "screenId" navigation).or (present? "screen_id" navigation)

inductive CleanNavigation (navigation : Fields Json) : Prop
  | internal (tag : get? "type" navigation = some (.str "internal"))
      (screen : ∃ j, screen? navigation = some j ∧ IsText j)
      (noUrl : present? "url" navigation = none)
  | external (tag : get? "type" navigation = some (.str "external"))
      (url : Has navigation "url" IsText)
      (noScreen : screen? navigation = none)

structure CleanDocument (root : Fields Json) : Prop where
  hero : Has root "hero_image" (OfObject CleanImage)
  supporting : MayHave root "supporting_images" (EachOf (OfObject CleanImage))
  palette : Has root "palette"
    (OfObject (CleanPalette ["primary", "secondary", "accent", "background"] []))
  vibe : Has root "vibe" (IsToken Vibe)
  family : Has root "pattern_family" (IsToken Family)
  variant : Has root "pattern_variant" fun j => (Variant.ofJson? j).isSome = true
  components : Has root "components" fun j => j ≠ .arr [] ∧
    EachOf (OfObject fun c => (Component.ofJson? (.obj c)).isSome = true) j
  navigation : MayHave root "navigation" (OfObject CleanNavigation)
  bags : ∀ name ∈ ["animations", "metadata"], MayHave root name (OfObject fun _ => True)

@[simp] theorem ofObject_obj_iff (P : Fields Json → Prop) (fields : Fields Json) :
    OfObject P (.obj fields) ↔ P fields := by
  simp [OfObject]

theorem not_ofObject {P : Fields Json → Prop} {j : Json} (h : ∀ fields, j = .obj fields → False) :
    ¬ OfObject P j := by
  rintro ⟨fields, hj, _⟩
  exact h fields hj

theorem forall_ofObject_iff {P : Fields Json → Prop} {Q : Json → Prop} :
    (∀ j, OfObject P j → Q j) ↔ ∀ fields, P fields → Q (.obj fields) := by
  constructor
  · intro h fields hP
    exact h _ ⟨fields, rfl, hP⟩
  · rintro h _ ⟨fields, rfl, hP⟩
    exact h fields hP

@[simp] theorem eachOf_arr_iff (P : Json → Prop) (items : List Json) :
    EachOf P (.arr items) ↔ ∀ item ∈ items, P item := by
  simp [EachOf]

theorem not_eachOf {P : Json → Prop} {j : Json} (h : ∀ items, j = .arr items → False) :
    ¬ EachOf P j := by
  rintro ⟨items, hj, _⟩
  exact h items hj

section Readers

variable {α : Type} {fields : Fields Json} {key : String} {P Q : Json → Prop}
  {read : Json → Option α}

theorem Has.mayHave (h : Has fields key P) : MayHave fields key P := by
  obtain ⟨j, hpresent, hP⟩ := h
  intro i hi
  cases hpresent.symm.trans hi
  exact hP

theorem Has.of_required {read : Json → Option α} {a : α} (h : Has fields key P)
    (hread : fields.required key read = some a) : ∃ j, P j ∧ read j = some a := by
  obtain ⟨j, hpresent, hP⟩ := h
  obtain ⟨i, hget, hi⟩ := (required_eq_some_iff _ _ _ _).mp hread
  obtain ⟨hj, _⟩ := (present?_eq_some_iff _ _ _).mp hpresent
  cases hj.symm.trans hget
  exact ⟨j, hP, hi⟩

theorem MayHave.of_optional {read : Json → Option α} {a : α} (h : MayHave fields key P)
    (hread : fields.optional key read = some (some a)) : ∃ j, P j ∧ read j = some a := by
  rw [optional_eq_elim] at hread
  cases hpresent : present? key fields with
  | none => simp [hpresent] at hread
  | some j =>
      simp only [hpresent, Option.elim_some, Option.map_eq_some_iff, Option.some.injEq] at hread
      obtain ⟨_, hj, rfl⟩ := hread
      exact ⟨j, h j hpresent, hj⟩

theorem Has.of_optional {read : Json → Option α} {value : Option α} (h : Has fields key P)
    (hread : fields.optional key read = some value) :
    ∃ j a, value = some a ∧ P j ∧ read j = some a := by
  obtain ⟨j, hpresent, hP⟩ := h
  rw [optional_eq_elim, hpresent] at hread
  simp only [Option.elim_some, Option.map_eq_some_iff] at hread
  obtain ⟨a, ha, rfl⟩ := hread
  exact ⟨j, a, rfl, hP, ha⟩

/-- A field that is `null` counts as absent for the walk, but it has no default. -/
theorem MayHave.of_defaulted {read : Json → Option α} {default a : α} (h : MayHave fields key P)
    (hnull : read .null = none) (hread : fields.defaulted key default read = some a) :
    a = default ∨ ∃ j, P j ∧ read j = some a := by
  unfold Fields.defaulted at hread
  split at hread
  · exact .inl (Option.some.inj hread).symm
  · rename_i j hget
    have hne : j ≠ .null := by
      rintro rfl
      rw [hnull] at hread
      cases hread
    exact .inr ⟨j, h j ((present?_eq_some_iff _ _ _).mpr ⟨hget, hne⟩), hread⟩

theorem Has.isSome_required (h : Has fields key P) (hread : ∀ j, P j → (read j).isSome = true) :
    (fields.required key read).isSome = true := by
  obtain ⟨j, hpresent, hP⟩ := h
  exact (isSome_required_iff key read fields).mpr
    ⟨j, ((present?_eq_some_iff _ _ _).mp hpresent).1, hread j hP⟩

theorem MayHave.isSome_optional (h : MayHave fields key P)
    (hread : ∀ j, P j → (read j).isSome = true) : (fields.optional key read).isSome = true :=
  (isSome_optional_iff key read fields).mpr fun j hj => hread j (h j hj)

theorem Has.isSome_required_iff (h : Has fields key P)
    (hread : ∀ j, P j → ((read j).isSome = true ↔ ¬ Q j)) :
    (fields.required key read).isSome = true ↔ ∀ j, get? key fields = some j → ¬ Q j := by
  obtain ⟨j, hpresent, hP⟩ := h
  have hget := ((present?_eq_some_iff _ _ _).mp hpresent).1
  rw [FieldReading.isSome_required_iff, hget]
  simp [hread j hP]

theorem MayHave.isSome_optional_iff (h : MayHave fields key P) (hnull : ¬ Q .null)
    (hread : ∀ j, P j → ((read j).isSome = true ↔ ¬ Q j)) :
    (fields.optional key read).isSome = true ↔ ∀ j, get? key fields = some j → ¬ Q j := by
  rw [FieldReading.isSome_optional_iff]
  constructor
  · intro hsome j hget hQ
    have hne : j ≠ .null := by
      rintro rfl
      exact hnull hQ
    have hpresent := (present?_eq_some_iff _ _ _).mpr ⟨hget, hne⟩
    exact (hread j (h j hpresent)).mp (hsome j hpresent) hQ
  · intro hnone j hpresent
    have hget := ((present?_eq_some_iff _ _ _).mp hpresent).1
    exact (hread j (h j hpresent)).mpr (hnone j hget)

theorem MayHave.isSome_defaulted_iff {default : α} (h : MayHave fields key P)
    (hnull : read .null = none) (hread : ∀ j, P j → ((read j).isSome = true ↔ ¬ Q j)) :
    (fields.defaulted key default read).isSome = true ↔
      get? key fields ≠ some .null ∧ ∀ j, get? key fields = some j → ¬ Q j := by
  rw [FieldReading.isSome_defaulted_iff]
  constructor
  · intro hsome
    have hne : get? key fields ≠ some .null := by
      intro hget
      simpa [hnull] using hsome .null hget
    refine ⟨hne, fun j hget => ?_⟩
    have hj : j ≠ .null := fun hj => hne (hj ▸ hget)
    exact (hread j (h j ((present?_eq_some_iff _ _ _).mpr ⟨hget, hj⟩))).mp (hsome j hget)
  · rintro ⟨hne, hnone⟩ j hget
    have hj : j ≠ .null := fun hj => hne (hj ▸ hget)
    exact (hread j (h j ((present?_eq_some_iff _ _ _).mpr ⟨hget, hj⟩))).mpr (hnone j hget)

theorem has_of_get? (j : Json) (hget : get? key fields = some j) (hne : j ≠ .null) (hP : P j) :
    Has fields key P :=
  ⟨j, (present?_eq_some_iff _ _ _).mpr ⟨hget, hne⟩, hP⟩

theorem mayHave_of_forall (h : ∀ j, get? key fields = some j → P j) : MayHave fields key P := by
  intro j hpresent
  exact h j ((present?_eq_some_iff _ _ _).mp hpresent).1

theorem mayHave_of_get? (encode : α → Json) (value : Option α)
    (hget : get? key fields = value.map encode) (hP : ∀ a, value = some a → P (encode a)) :
    MayHave fields key P := by
  refine mayHave_of_forall fun j hj => ?_
  rw [hget, Option.map_eq_some_iff] at hj
  obtain ⟨a, ha, rfl⟩ := hj
  exact hP a ha

end Readers

theorem isSome_asStr?_iff (j : Json) : j.asStr?.isSome = true ↔ IsString j := by
  simp [Option.isSome_iff_exists, asStr?_eq_some_iff, IsString]

theorem isSome_asStr?_of_isText {j : Json} (h : IsText j) : j.asStr?.isSome = true := by
  obtain ⟨s, rfl, _⟩ := h
  rfl

theorem isSome_asStr?_of_isColor {j : Json} (h : IsColor j) : j.asStr?.isSome = true := by
  obtain ⟨color, rfl, _⟩ := h
  rfl

theorem isToken_toJson {α : Type} [Vocabulary α] [LawfulTokens α] [BareTokens α] (a : α) :
    IsToken α (Tokens.toJson a) :=
  ⟨Tokens.token a, rfl, by rw [parse_token]; rfl⟩

/-- A token with white space around it is a token for the walk only. -/
theorem isSome_ofJson?_token_iff {α : Type} [Vocabulary α] [BareTokens α] {j : Json}
    (h : IsToken α j) : (Tokens.ofJson? (α := α) j).isSome = true ↔ ¬ IsPadded j := by
  obtain ⟨s, rfl, hparse⟩ := h
  have hpadded : IsPadded (.str s) ↔ Text.trim s ≠ s := by simp [IsPadded]
  rw [hpadded, Classical.not_not]
  change (Tokens.ofToken? s : Option α).isSome = true ↔ _
  constructor
  · intro hread
    obtain ⟨a, ha⟩ := Option.isSome_iff_exists.mp hread
    rw [eq_token_of_ofToken? ha, BareTokens.trim_token]
  · intro htrim
    rw [Vocabulary.parse, htrim] at hparse
    cases hread : (Tokens.ofToken? s : Option α) with
    | none => simp [hread, Except.isOk, Except.toBool] at hparse
    | some a => rfl

theorem bind_asStr?_eq_some_iff (fields : Fields Json) (key s : String) :
    (get? key fields).bind Json.asStr? = some s ↔ get? key fields = some (.str s) := by
  simp [Option.bind_eq_some_iff, asStr?_eq_some_iff]

theorem issueUnless_eq_nil_iff {p : Prop} [Decidable p] (issue : Issue) :
    (if p then [] else [issue]) = [] ↔ p := by
  simp

theorem isFilled_iff (value : Option Json) :
    isFilled value = true ↔ ∃ j, value = some j ∧ IsText j := by
  cases value with
  | none => simp [isFilled]
  | some j => cases j <;> simp [isFilled, IsText, Json.asStr?]

theorem textIssues_eq_nil_iff (fields : Fields Json) (key parent : String) :
    textIssues fields key parent = [] ↔ Has fields key IsText := by
  unfold textIssues
  split
  · rename_i habsent
    simp [Has, habsent]
  · rw [Has, ← isFilled_iff]
    simp

/-- Issues of a field that holds a string: `ok` judges the string, and the field may be absent
unless it is required. -/
theorem stringIssues_eq_nil_iff {β : Type} (fields : Fields Json) (key : String) (required : Bool)
    (ok : String → Bool) (missing wrongType : β) (wrong : String → β) :
    (match present? key fields with
      | none => if required then [missing] else []
      | some (.str s) => if ok s then [] else [wrong s]
      | some _ => [wrongType]) = [] ↔
      if required then Has fields key fun j => ∃ s, j = .str s ∧ ok s = true
      else MayHave fields key fun j => ∃ s, j = .str s ∧ ok s = true := by
  split
  · rename_i habsent
    simp [Has, MayHave, habsent]
  · rename_i s hpresent
    simp [Has, MayHave, hpresent]
  · rename_i j hother hpresent
    have hnot : ¬ ∃ s, j = .str s ∧ ok s = true := by
      rintro ⟨s, rfl, _⟩
      exact hother s rfl
    simp [Has, MayHave, hpresent, hnot]

theorem tokenIssues_eq_nil_iff (α : Type) [Vocabulary α] (fields : Fields Json)
    (key parent : String) (required : Bool) :
    tokenIssues α fields key parent required = [] ↔
      if required then Has fields key (IsToken α) else MayHave fields key (IsToken α) :=
  stringIssues_eq_nil_iff fields key required (fun s => (Vocabulary.parse (α := α) s).isOk) _ _ _

theorem colorIssues_eq_nil_iff (palette : Fields Json) (parent key : String) (required : Bool) :
    colorIssues palette parent key required = [] ↔
      if required then Has palette key IsColor else MayHave palette key IsColor :=
  stringIssues_eq_nil_iff palette key required isHexColor _ _ _

theorem paletteIssues_eq_nil_iff (path : String) (required optional : List String) (j : Json) :
    paletteIssues path required optional j = [] ↔ OfObject (CleanPalette required optional) j := by
  unfold paletteIssues
  split
  · rename_i palette
    simp only [List.append_eq_nil_iff, List.flatMap_eq_nil_iff, colorIssues_eq_nil_iff, if_true,
      Bool.false_eq_true, if_false, ofObject_obj_iff]
    constructor
    · rintro ⟨hrequired, hoptional⟩
      exact ⟨hrequired, hoptional⟩
    · intro h
      exact ⟨h.required, h.optional⟩
  · rename_i hother
    exact iff_of_false (List.cons_ne_nil _ _) (not_ofObject hother)

theorem optionalTextIssues_eq_nil_iff (image : Fields Json) (path key : String) :
    optionalTextIssues image path key = [] ↔ MayHave image key IsString := by
  simp [optionalTextIssues, MayHave, Option.all_eq_true, isSome_asStr?_iff]

theorem seedIssues_eq_nil_iff (image : Fields Json) (issue : Issue) :
    (if (present? "seed" image).all fun v => v.asInt64?.isSome then [] else [issue]) = [] ↔
      MayHave image "seed" fun j => j.asInt64?.isSome = true := by
  rw [issueUnless_eq_nil_iff, MayHave, Option.all_eq_true]

theorem optionalIssues_eq_nil_iff {issues : Json → List Issue} {P : Json → Prop}
    (fields : Fields Json) (key : String) (h : ∀ j, issues j = [] ↔ P j) :
    (match present? key fields with
      | none => []
      | some j => issues j) = [] ↔ MayHave fields key P := by
  split
  · rename_i habsent
    simp [MayHave, habsent]
  · rename_i j hpresent
    simp [MayHave, hpresent, h]

theorem imageIssues_eq_nil_iff (path : String) (j : Json) :
    imageIssues path j = [] ↔ OfObject CleanImage j := by
  unfold imageIssues
  split
  · rename_i image
    have hpalette := optionalIssues_eq_nil_iff image "palette" (paletteIssues_eq_nil_iff
      (Path.join path "palette") ["primary"] ["secondary", "accent", "background"])
    simp only [List.append_eq_nil_iff, textIssues_eq_nil_iff, List.flatMap_eq_nil_iff,
      optionalTextIssues_eq_nil_iff, seedIssues_eq_nil_iff, tokenIssues_eq_nil_iff,
      Bool.false_eq_true, if_false, ofObject_obj_iff]
    constructor
    · rintro ⟨⟨⟨⟨⟨hid, hurl⟩, htexts⟩, hseed⟩, hclean⟩, hvibe⟩
      exact ⟨hid, hurl, htexts, hseed, hpalette.mp hclean, hvibe⟩
    · intro h
      exact ⟨⟨⟨⟨⟨h.id, h.url⟩, h.texts⟩, h.seed⟩, hpalette.mpr h.palette⟩, h.vibe⟩
  · rename_i hother
    exact iff_of_false (List.cons_ne_nil _ _) (not_ofObject hother)

/-- Items are checked one by one, each under its own path. -/
theorem flatMap_zipIdx_eq_nil_iff {α β : Type} {issues : α → Nat → List β} {P : α → Prop}
    (h : ∀ a i, issues a i = [] ↔ P a) (items : List α) :
    (items.zipIdx.flatMap fun e => issues e.1 e.2) = [] ↔ ∀ a ∈ items, P a := by
  simp only [List.flatMap_eq_nil_iff, h]
  constructor
  · intro hclean a ha
    obtain ⟨i, hi, rfl⟩ := List.getElem_of_mem ha
    exact hclean (items[i], i) (List.mk_mem_zipIdx_iff_getElem?.mpr (by simp [hi]))
  · intro hclean e he
    exact hclean e.1 (List.fst_mem_of_mem_zipIdx he)

theorem heroIssues_eq_nil_iff (root : Fields Json) :
    heroIssues root = [] ↔ Has root "hero_image" (OfObject CleanImage) := by
  unfold heroIssues
  cases hpresent : present? "hero_image" root with
  | none => simp [Has, hpresent]
  | some image => simp [Has, hpresent, imageIssues_eq_nil_iff]

theorem supportingIssues_eq_nil_iff (root : Fields Json) :
    supportingIssues root = [] ↔
      MayHave root "supporting_images" (EachOf (OfObject CleanImage)) := by
  unfold supportingIssues
  split
  · rename_i habsent
    simp [MayHave, habsent]
  · rename_i images hpresent
    have hitems := flatMap_zipIdx_eq_nil_iff
      (fun image i => imageIssues_eq_nil_iff (Path.index "supporting_images" i) image) images
    refine hitems.trans ?_
    simp [MayHave, hpresent]
  · rename_i j hother hpresent
    simp [MayHave, hpresent, not_eachOf hother]

theorem documentPaletteIssues_eq_nil_iff (root : Fields Json) :
    documentPaletteIssues root = [] ↔ Has root "palette"
      (OfObject (CleanPalette ["primary", "secondary", "accent", "background"] [])) := by
  unfold documentPaletteIssues
  cases hpresent : present? "palette" root with
  | none => simp [Has, hpresent]
  | some palette => simp [Has, hpresent, paletteIssues_eq_nil_iff]

theorem variantIssues_eq_nil_iff (root : Fields Json) :
    variantIssues root = [] ↔
      Has root "pattern_variant" fun j => (Variant.ofJson? j).isSome = true := by
  unfold variantIssues
  split
  · rename_i habsent
    simp [Has, habsent]
  · rename_i value hpresent
    cases hnat : value.asNat? with
    | none => simp [Has, hpresent, hnat, Variant.ofJson?]
    | some n =>
        by_cases hn : (Variant.ofNat? n).isSome = true <;>
          simp [Has, hpresent, hnat, Variant.ofJson?, hn]

theorem envelopeIssues_eq_nil_of_read {component : Fields Json} {c : Component} (path : String)
    (hread : ReadFrom component c) : envelopeIssues path component = [] := by
  have htag : present? "type" component = some (.str (Tokens.token c.kind)) :=
    (present?_eq_some_iff _ _ _).mpr ⟨hread.tag, nofun⟩
  have hcontent : present? "content" component = some (.str c.content) :=
    (present?_eq_some_iff _ _ _).mpr ⟨hread.content, nofun⟩
  have htype : tokenIssues ComponentKind component "type" path true = [] := by
    rw [tokenIssues_eq_nil_iff, if_pos rfl]
    exact ⟨_, htag, _, rfl, by rw [parse_token]; rfl⟩
  simp only [envelopeIssues, htype, hcontent, List.nil_append]
  split
  · rfl
  · rfl
  · rename_i props hother hprops
    obtain ⟨written, rfl⟩ := hread.props props ((present?_eq_some_iff _ _ _).mp hprops).1
    exact absurd rfl (hother written)

/-- The envelope of a component that can be read is sound, so it is all that counts whether the
component can be read. -/
theorem componentIssues_eq_nil_iff (path : String) (j : Json) :
    componentIssues path j = [] ↔
      OfObject (fun c => (Component.ofJson? (.obj c)).isSome = true) j := by
  unfold componentIssues
  split
  · rename_i component
    cases hread : Component.ofJson? (.obj component) with
    | none =>
        rw [ofObject_obj_iff, hread]
        refine iff_of_false ?_ nofun
        split
        · simp
        · assumption
    | some c =>
        rw [envelopeIssues_eq_nil_of_read path (readFrom_of_read hread)]
        simp [hread]
  · rename_i hother
    exact iff_of_false (List.cons_ne_nil _ _) (not_ofObject hother)

theorem componentsIssues_eq_nil_iff (root : Fields Json) :
    componentsIssues root = [] ↔ Has root "components" fun j => j ≠ .arr [] ∧
      EachOf (OfObject fun c => (Component.ofJson? (.obj c)).isSome = true) j := by
  unfold componentsIssues
  split
  · rename_i habsent
    simp [Has, habsent]
  · rename_i hpresent
    simp [Has, hpresent]
  · rename_i components hsome hpresent
    have hitems := flatMap_zipIdx_eq_nil_iff
      (fun c i => componentIssues_eq_nil_iff (Path.index "components" i) c) components
    refine hitems.trans ?_
    have hne : components ≠ [] := hsome
    simp [Has, hpresent, hne]
  · rename_i j hempty hother hpresent
    simp [Has, hpresent, not_eachOf hother]

theorem navigationIssues_eq_nil_iff (j : Json) :
    navigationIssues j = [] ↔ OfObject CleanNavigation j := by
  unfold navigationIssues
  split
  · rename_i navigation
    rw [ofObject_obj_iff]
    split
    · rename_i htag
      rw [bind_asStr?_eq_some_iff] at htag
      simp only [List.append_eq_nil_iff, issueUnless_eq_nil_iff, Option.isNone_iff_eq_none,
        isFilled_iff]
      constructor
      · rintro ⟨hscreen, hurl⟩
        exact .internal htag hscreen hurl
      · rintro (⟨_, hscreen, hurl⟩ | ⟨hother, _, _⟩)
        · exact ⟨hscreen, hurl⟩
        · simp [htag] at hother
    · rename_i htag
      rw [bind_asStr?_eq_some_iff] at htag
      simp only [List.append_eq_nil_iff, issueUnless_eq_nil_iff, Option.isNone_iff_eq_none,
        isFilled_iff]
      constructor
      · rintro ⟨hurl, hscreen⟩
        exact .external htag hurl hscreen
      · rintro (⟨hother, _, _⟩ | ⟨_, hurl, hscreen⟩)
        · simp [htag] at hother
        · exact ⟨hurl, hscreen⟩
    · rename_i other hinternal hexternal htag
      rw [bind_asStr?_eq_some_iff] at htag
      refine iff_of_false (by simp) ?_
      rintro (⟨hother, _, _⟩ | ⟨hother, _, _⟩)
      · exact hinternal (by simpa [htag] using hother)
      · exact hexternal (by simpa [htag] using hother)
    · rename_i htag
      refine iff_of_false (by simp) ?_
      rintro (⟨hother, _, _⟩ | ⟨hother, _, _⟩)
      · rw [(bind_asStr?_eq_some_iff _ _ _).mpr hother] at htag
        cases htag
      · rw [(bind_asStr?_eq_some_iff _ _ _).mpr hother] at htag
        cases htag
  · rename_i hother
    exact iff_of_false (List.cons_ne_nil _ _) (not_ofObject hother)

theorem bagIssues_eq_nil_iff (root : Fields Json) (name : String) :
    bagIssues root name = [] ↔ MayHave root name (OfObject fun _ => True) := by
  unfold bagIssues
  split
  · rename_i habsent
    simp [MayHave, habsent]
  · rename_i bag hpresent
    simp [MayHave, hpresent]
  · rename_i j hother hpresent
    simp [MayHave, hpresent, not_ofObject hother]

/-- The walk finds nothing exactly if the raw value is an object that is clean in all its parts. -/
theorem issues_eq_nil_iff (raw : Json) : Schema.issues raw = [] ↔ OfObject CleanDocument raw := by
  unfold Schema.issues
  split
  · rename_i root
    have hnavigation : (present? "navigation" root).elim [] navigationIssues = [] ↔
        MayHave root "navigation" (OfObject CleanNavigation) := by
      cases hpresent : present? "navigation" root with
      | none => simp [MayHave, hpresent]
      | some navigation => simp [MayHave, hpresent, navigationIssues_eq_nil_iff]
    simp only [List.append_eq_nil_iff, heroIssues_eq_nil_iff, supportingIssues_eq_nil_iff,
      documentPaletteIssues_eq_nil_iff, tokenIssues_eq_nil_iff, if_true, variantIssues_eq_nil_iff,
      componentsIssues_eq_nil_iff, hnavigation, bagIssues_eq_nil_iff, ofObject_obj_iff]
    constructor
    · rintro ⟨⟨⟨⟨⟨⟨⟨⟨⟨hhero, hsupporting⟩, hpalette⟩, hvibe⟩, hfamily⟩, hvariant⟩, hcomponents⟩,
        hnavigation⟩, hanimations⟩, hmetadata⟩
      refine ⟨hhero, hsupporting, hpalette, hvibe, hfamily, hvariant, hcomponents,
        hnavigation, ?_⟩
      intro name hname
      simp only [List.mem_cons, List.not_mem_nil, or_false] at hname
      rcases hname with rfl | rfl
      · exact hanimations
      · exact hmetadata
    · intro h
      exact ⟨⟨⟨⟨⟨⟨⟨⟨⟨h.hero, h.supporting⟩, h.palette⟩, h.vibe⟩, h.family⟩, h.variant⟩,
        h.components⟩, h.navigation⟩, h.bags _ (by simp)⟩, h.bags _ (by simp)⟩
  · rename_i hother
    exact iff_of_false (List.cons_ne_nil _ _) (not_ofObject hother)

/-- The parts of the walk, each with the field that it looks at. -/
def parts : List (String × (Fields Json → List Issue)) :=
  [("hero_image", heroIssues), ("supporting_images", supportingIssues),
    ("palette", documentPaletteIssues), ("vibe", fun root => tokenIssues Vibe root "vibe" "" true),
    ("pattern_family", fun root => tokenIssues Family root "pattern_family" "" true),
    ("pattern_variant", variantIssues), ("components", componentsIssues),
    ("navigation", fun root => (present? "navigation" root).elim [] navigationIssues),
    ("animations", fun root => bagIssues root "animations"),
    ("metadata", fun root => bagIssues root "metadata")]

theorem issues_eq_parts (root : Fields Json) :
    Schema.issues (.obj root) = parts.flatMap fun part => part.2 root := by
  simp only [Schema.issues, parts, List.flatMap_cons, List.flatMap_nil, List.append_nil,
    List.append_assoc]

theorem eq_of_name_eq {part other : String × (Fields Json → List Issue)} (hpart : part ∈ parts)
    (hother : other ∈ parts) (h : part.1 = other.1) : part = other :=
  List.inj_on_of_nodup_map (by decide) hpart hother h

section Agreement

variable {root other : Fields Json}

/-- No part looks at any other field. -/
theorem part_congr {part : String × (Fields Json → List Issue)} (hpart : part ∈ parts)
    (h : get? part.1 root = get? part.1 other) : part.2 root = part.2 other := by
  have hpresent : present? part.1 root = present? part.1 other := by
    rw [present?, h, present?]
  simp only [parts, List.mem_cons, List.not_mem_nil, or_false] at hpart
  rcases hpart with rfl | rfl | rfl | rfl | rfl | rfl | rfl | rfl | rfl | rfl
  · simp only [heroIssues, hpresent]
  · simp only [supportingIssues, hpresent]
  · simp only [documentPaletteIssues, hpresent]
  · simp only [tokenIssues, hpresent]
  · simp only [tokenIssues, hpresent]
  · simp only [variantIssues, hpresent]
  · simp only [componentsIssues, hpresent]
  · simp only [hpresent]
  · simp only [bagIssues, hpresent]
  · simp only [bagIssues, hpresent]

/-- Where two documents differ in one field only, so does what the walk finds. -/
theorem issues_congr_of_agree (name : String)
    (hagree : ∀ key ≠ name, get? key root = get? key other)
    (hown : ∀ part ∈ parts, part.1 = name → part.2 root = part.2 other) :
    Schema.issues (.obj root) = Schema.issues (.obj other) := by
  rw [issues_eq_parts, issues_eq_parts, List.flatMap_def, List.flatMap_def]
  refine congrArg List.flatten (List.map_congr_left fun part hpart => ?_)
  by_cases hname : part.1 = name
  · exact hown part hpart hname
  · exact part_congr hpart (hagree part.1 hname)

theorem issues_eq_componentsIssues
    (hagree : ∀ key ≠ "components", get? key root = get? key other)
    (hclean : Schema.issues (.obj other) = []) :
    Schema.issues (.obj root) = componentsIssues root := by
  rw [issues_eq_parts, List.flatMap_eq_nil_iff] at hclean
  have hothers : ∀ part ∈ parts, part.1 ≠ "components" → part.2 root = [] := by
    intro part hpart hname
    exact (part_congr hpart (hagree part.1 hname)).trans (hclean part hpart)
  rw [issues_eq_parts]
  simp only [parts, List.forall_mem_cons, ne_eq, String.reduceEq, not_false_eq_true, forall_const,
    not_true_eq_false, false_implies, true_and, List.not_mem_nil, and_true] at hothers
  simp only [parts, List.flatMap_cons, List.flatMap_nil, hothers, List.nil_append, List.append_nil]

end Agreement

end ScreenPattern.Proofs.SchemaWalk
