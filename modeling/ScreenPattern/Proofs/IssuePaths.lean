import ScreenPattern.Proofs.DelimitedTexts
import ScreenPattern.Proofs.SchemaWalk

/-!
Where the issues of a walk are. Each part of the walk reports at the place that it looks at or below
it, and places that differ in a segment have nothing in common below them.
-/

namespace ScreenPattern.Proofs.IssuePaths

open DelimitedTexts SchemaWalk
open Document Document.Schema

/-- The path of a place, or of something below it. -/
def within (place path : String) : Bool :=
  path == place || (place ++ ".").toList.isPrefixOf path.toList

section Places

variable {place path : String}

theorem within_iff :
    within place path = true ↔ path = place ∨ ∃ rest, path = place ++ "." ++ rest := by
  simp only [within, Bool.or_eq_true, beq_iff_eq, List.isPrefixOf_iff_prefix]
  refine or_congr_right ⟨?_, ?_⟩
  · rintro ⟨rest, hrest⟩
    refine ⟨String.ofList rest, String.toList_inj.mp ?_⟩
    rw [String.toList_append, String.toList_ofList, hrest]
  · rintro ⟨rest, rfl⟩
    exact ⟨rest.toList, String.toList_append.symm⟩

theorem within_self (place : String) : within place place = true :=
  within_iff.mpr (.inl rfl)

theorem join_eq (hplace : place ≠ "") (child : String) :
    Path.join place child = place ++ "." ++ child := by
  rw [Path.join, if_neg (by simpa [String.isEmpty_iff] using hplace)]

theorem length_lt_length_join (hplace : place ≠ "") (child : String) :
    place.length < (Path.join place child).length := by
  have hdot : ".".length = 1 := rfl
  rw [join_eq hplace, String.length_append, String.length_append, hdot]
  omega

theorem length_le_of_within (h : within place path = true) : place.length ≤ path.length := by
  rcases within_iff.mp h with rfl | ⟨rest, rfl⟩
  · exact Nat.le_refl _
  · simp only [String.length_append]
    omega

theorem within_of_join (hplace : place ≠ "") {child : String}
    (h : within (Path.join place child) path = true) : within place path = true := by
  rw [join_eq hplace] at h
  rw [within_iff] at h ⊢
  rcases h with rfl | ⟨rest, rfl⟩
  · exact .inr ⟨child, rfl⟩
  · exact .inr ⟨child ++ "." ++ rest, by simp only [String.append_assoc]⟩

/-- Below a stem, a path goes on with one segment only. -/
theorem eq_of_within (stem : String) {a b : String} (ha : '.' ∉ a.toList) (hb : '.' ∉ b.toList)
    (hwithin : within (stem ++ a) path = true) (hother : within (stem ++ b) path = true) :
    a = b := by
  have hdotted : ∀ segment, within (stem ++ segment) path = true →
      ∃ rest, path ++ "." = stem ++ segment ++ "." ++ rest := by
    intro segment h
    rcases within_iff.mp h with rfl | ⟨rest, rfl⟩
    · exact ⟨"", by simp⟩
    · exact ⟨rest ++ ".", by simp only [String.append_assoc]⟩
  obtain ⟨rest, hrest⟩ := hdotted a hwithin
  obtain ⟨other, hother⟩ := hdotted b hother
  have hchars := congrArg String.toList (hrest.symm.trans hother)
  simp only [String.append_assoc, String.toList_append, List.append_cancel_left_eq] at hchars
  exact String.toList_inj.mp (eq_of_append_cons_eq ha hb hchars).1

end Places

/-- Every issue is at the path. -/
def At (path : String) (issues : List Issue) : Prop :=
  ∀ issue ∈ issues, issue.path = path

/-- Every issue is at the place or below it. -/
def Within (place : String) (issues : List Issue) : Prop :=
  ∀ issue ∈ issues, within place issue.path = true

section Composition

variable {α : Type} {place path : String} {issues others : List Issue}

theorem At.within (h : At path issues) : Within path issues := by
  intro issue hmem
  rw [h issue hmem]
  exact within_self path

theorem at_singleton (failure : Failure) (path message : String) :
    At path [failure.at path message] := by
  intro issue hmem
  rw [List.mem_singleton.mp hmem]
  rfl

theorem Within.here (failure : Failure) (place message : String) :
    Within place [failure.at place message] :=
  (at_singleton failure place message).within

theorem Within.nil : Within place [] := by
  intro issue hmem
  cases hmem

theorem Within.append (hissues : Within place issues) (hothers : Within place others) :
    Within place (issues ++ others) := by
  intro issue hmem
  exact (List.mem_append.mp hmem).elim (hissues issue) (hothers issue)

theorem Within.unless {p : Prop} [Decidable p] (h : Within place issues) :
    Within place (if p then [] else issues) := by
  split
  · exact .nil
  · exact h

theorem Within.flatMap {found : α → List Issue} (items : List α)
    (h : ∀ item ∈ items, Within place (found item)) : Within place (items.flatMap found) := by
  intro issue hmem
  obtain ⟨item, hitem, hissue⟩ := List.mem_flatMap.mp hmem
  exact h item hitem issue hissue

theorem Within.of_join (hplace : place ≠ "") {child : String}
    (h : Within (Path.join place child) issues) : Within place issues :=
  fun issue hmem => within_of_join hplace (h issue hmem)

theorem At.below (hplace : place ≠ "") {child : String} (h : At (Path.join place child) issues) :
    Within place issues :=
  h.within.of_join hplace

end Composition

/-- What is reported on the content of a component. -/
def contentIssues (path : String) (component : Fields Json) : List Issue :=
  match component.present? "content" with
  | some (.str _) => []
  | some _ => [Failure.fieldInvalid.at (Path.join path "content") "content must be a string"]
  | none => [Failure.fieldMissing.at (Path.join path "content") "content is required"]

/-- What is reported on the properties of a component before they are read. -/
def propsIssues (path : String) (component : Fields Json) : List Issue :=
  match component.present? "props" with
  | none | some (.obj _) => []
  | some _ => [Failure.fieldInvalid.at (Path.join path "props") "props must be an object"]

theorem envelopeIssues_eq (path : String) (component : Fields Json) :
    envelopeIssues path component =
      tokenIssues ComponentKind component "type" path true ++ contentIssues path component ++
        propsIssues path component :=
  rfl

section Parts

variable (fields root : Fields Json) (key parent path : String)

theorem at_textIssues : At (Path.join parent key) (textIssues fields key parent) := by
  intro issue hmem
  grind [textIssues, Failure.at]

theorem at_tokenIssues (α : Type) [Vocabulary α] (required : Bool) :
    At (Path.join parent key) (tokenIssues α fields key parent required) := by
  intro issue hmem
  grind [tokenIssues, Failure.at]

theorem at_colorIssues (required : Bool) :
    At (Path.join parent key) (colorIssues fields parent key required) := by
  intro issue hmem
  grind [colorIssues, Failure.at]

theorem at_optionalTextIssues :
    At (Path.join path key) (optionalTextIssues fields path key) := by
  intro issue hmem
  grind [optionalTextIssues, Failure.at]

theorem at_variantIssues : At "pattern_variant" (variantIssues root) := by
  intro issue hmem
  grind [variantIssues, Failure.at]

theorem at_bagIssues (name : String) : At name (bagIssues root name) := by
  intro issue hmem
  grind [bagIssues, Failure.at]

theorem within_paletteIssues (required optional : List String) (j : Json) (hpath : path ≠ "") :
    Within path (paletteIssues path required optional j) := by
  cases j with
  | obj palette =>
      refine .append (.flatMap _ fun key _ => ?_) (.flatMap _ fun key _ => ?_)
      · exact (at_colorIssues palette key path true).below hpath
      · exact (at_colorIssues palette key path false).below hpath
  | _ => exact .here _ _ _

theorem within_imageIssues (j : Json) (hpath : path ≠ "") : Within path (imageIssues path j) := by
  cases j with
  | obj image =>
      have hseed : At (Path.join path "seed")
          (if (Fields.present? "seed" image).all fun v => v.asInt64?.isSome then []
          else [Failure.fieldInvalid.at (Path.join path "seed") "seed must be an integer"]) := by
        intro issue hmem
        grind [Failure.at]
      refine .append (.append (.append (.append (.append ?_ ?_) ?_) ?_) ?_) ?_
      · exact (at_textIssues image "id" path).below hpath
      · exact (at_textIssues image "url" path).below hpath
      · exact .flatMap _ fun key _ => (at_optionalTextIssues image key path).below hpath
      · exact hseed.below hpath
      · split
        · exact .nil
        · refine (within_paletteIssues _ _ _ _ ?_).of_join hpath
          simp [join_eq hpath]
      · exact (at_tokenIssues image "vibe" path Vibe false).below hpath
  | _ => exact .here _ _ _

theorem at_contentIssues (component : Fields Json) :
    At (Path.join path "content") (contentIssues path component) := by
  intro issue hmem
  grind [contentIssues, Failure.at]

theorem at_propsIssues (component : Fields Json) :
    At (Path.join path "props") (propsIssues path component) := by
  intro issue hmem
  grind [propsIssues, Failure.at]

theorem within_envelopeIssues (component : Fields Json) (hpath : path ≠ "") :
    Within path (envelopeIssues path component) := by
  rw [envelopeIssues_eq]
  refine .append (.append ?_ ?_) ?_
  · exact (at_tokenIssues component "type" path ComponentKind true).below hpath
  · exact (at_contentIssues path component).below hpath
  · exact (at_propsIssues path component).below hpath

theorem within_componentIssues (j : Json) (hpath : path ≠ "") :
    Within path (componentIssues path j) := by
  cases j with
  | obj component =>
      simp only [componentIssues]
      split
      · split
        · exact .nil
        · exact (Within.here _ (Path.join path "props") _).of_join hpath
      · exact within_envelopeIssues path component hpath
  | _ => exact .here _ _ _

theorem within_navigationIssues (j : Json) : Within "navigation" (navigationIssues j) := by
  have hfield : ∀ field message, Within "navigation"
      [Failure.navigationInvalid.at ("navigation." ++ field) message] := by
    intro field message issue hmem
    rw [List.mem_singleton.mp hmem]
    exact within_iff.mpr (.inr ⟨field, rfl⟩)
  cases j with
  | obj navigation =>
      simp only [navigationIssues]
      split
      · exact .append (.unless (hfield _ _)) (.unless (hfield _ _))
      · exact .append (.unless (hfield _ _)) (.unless (hfield _ _))
      · exact hfield _ _
      · exact hfield _ _
  | _ => exact .here _ _ _

theorem index_ne_empty (place : String) (hplace : place ≠ "") (i : Nat) :
    Path.index place i ≠ "" := by
  rw [Path.index, join_eq hplace]
  simp

/-- Items are reported on at their places in the list. -/
theorem within_items {place : String} (hplace : place ≠ "")
    {found : String → Json → List Issue}
    (h : ∀ path j, path ≠ "" → Within path (found path j)) (items : List Json) :
    Within place (items.zipIdx.flatMap fun e => found (Path.index place e.2) e.1) :=
  .flatMap _ fun e _ => (h _ e.1 (index_ne_empty place hplace e.2)).of_join hplace

theorem within_heroIssues : Within "hero_image" (heroIssues root) := by
  unfold heroIssues
  split
  · exact .here _ _ _
  · exact within_imageIssues _ _ (by decide)

theorem within_supportingIssues : Within "supporting_images" (supportingIssues root) := by
  unfold supportingIssues
  split
  · exact .nil
  · exact within_items (by decide) within_imageIssues _
  · exact .here _ _ _

theorem within_documentPaletteIssues : Within "palette" (documentPaletteIssues root) := by
  unfold documentPaletteIssues
  split
  · exact .here _ _ _
  · exact within_paletteIssues _ _ _ _ (by decide)

theorem within_componentsIssues : Within "components" (componentsIssues root) := by
  unfold componentsIssues
  split
  · exact .here _ _ _
  · exact .here _ _ _
  · exact within_items (by decide) within_componentIssues _
  · exact .here _ _ _

/-- Each part of the walk reports on its own field. -/
theorem within_part {part : String × (Fields Json → List Issue)} (hpart : part ∈ parts) :
    Within part.1 (part.2 root) := by
  simp only [parts, List.mem_cons, List.not_mem_nil, or_false] at hpart
  rcases hpart with rfl | rfl | rfl | rfl | rfl | rfl | rfl | rfl | rfl | rfl
  · exact within_heroIssues root
  · exact within_supportingIssues root
  · exact within_documentPaletteIssues root
  · exact (at_tokenIssues root "vibe" "" Vibe true).within
  · exact (at_tokenIssues root "pattern_family" "" Family true).within
  · exact (at_variantIssues root).within
  · exact within_componentsIssues root
  · cases hpresent : Fields.present? "navigation" root with
    | none => simpa [hpresent] using Within.nil
    | some navigation => simpa [hpresent] using within_navigationIssues navigation
  · exact (at_bagIssues root "animations").within
  · exact (at_bagIssues root "metadata").within

end Parts

end ScreenPattern.Proofs.IssuePaths
