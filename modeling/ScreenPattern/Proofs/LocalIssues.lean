import ScreenPattern.Proofs.IssuePaths
import ScreenPattern.Proofs.ReportAcceptance

namespace ScreenPattern.Proofs.LocalIssues

open AscendingLists DelimitedTexts FieldReading IssuePaths ReportAcceptance SchemaWalk
open Document Document.Schema
open Fields (get? present?)

/-- What the walk finds, as a client gets to see it: in order, and each issue once. -/
def found (raw : Json) : List Issue :=
  match Document.parse raw with
  | .error (.schemaInvalid issues) => issues
  | _ => []

def inside (place : String) (issues : List Issue) : List Issue :=
  issues.filter fun issue => within place issue.path

def outside (place : String) (issues : List Issue) : List Issue :=
  issues.filter fun issue => !within place issue.path

def item? (list : String) (i : Nat) (raw : Json) : Option Json :=
  ((raw.get? list).bind Json.asArr?).bind fun items => items[i]?

theorem found_eq_ascending (raw : Json) : found raw = ascending Issue.le (Schema.issues raw) := by
  unfold found Document.parse
  cases hissues : Schema.issues raw with
  | nil =>
      rw [(ascending_eq_nil_iff Issue.le []).mpr rfl]
      cases Document.ofJson? raw <;> rfl
  | cons issue rest => rfl

theorem mem_found_iff (raw : Json) (issue : Issue) :
    issue ∈ found raw ↔ issue ∈ Schema.issues raw := by
  rw [found_eq_ascending, mem_ascending]

theorem inside_found_eq {raw : Json} {place : String} {issues : List Issue}
    (h : ∀ issue, issue ∈ Schema.issues raw ∧ within place issue.path = true ↔ issue ∈ issues) :
    inside place (found raw) = ascending Issue.le issues := by
  rw [inside, found_eq_ascending, filter_ascending linear_issueLe,
    ascending_eq_iff linear_issueLe]
  intro issue
  rw [List.mem_filter, h]

section Fields

variable {root other : Fields Json}

theorem mem_part_of_within {part : String × (Fields Json → List Issue)} (hpart : part ∈ parts)
    {issue : Issue} (hmem : issue ∈ Schema.issues (.obj root))
    (hwithin : within part.1 issue.path = true) : issue ∈ part.2 root := by
  rw [issues_eq_parts] at hmem
  obtain ⟨own, hown, hissue⟩ := List.mem_flatMap.mp hmem
  have hundotted : ∀ part ∈ parts, '.' ∉ part.1.toList := by decide
  have hsame : own.1 = part.1 := eq_of_within "" (hundotted own hown) (hundotted part hpart)
    (by simpa using within_part root hown issue hissue) (by simpa using hwithin)
  rwa [eq_of_name_eq hown hpart hsame] at hissue

/-- A part is either silent outside of the field, or looks at nothing in which the two differ. -/
theorem outside_found_eq {name : String}
    (hagree : ∀ key, key ≠ name → get? key root = get? key other) :
    outside name (found (.obj root)) = outside name (found (.obj other)) := by
  have hsilent : ∀ root : Fields Json, ∀ part ∈ parts, part.1 = name →
      (part.2 root).filter (fun issue => !within name issue.path) = [] := by
    rintro root part hpart rfl
    rw [List.filter_eq_nil_iff]
    intro issue hmem
    simp [within_part root hpart issue hmem]
  simp only [outside, found_eq_ascending, filter_ascending linear_issueLe, issues_eq_parts,
    List.filter_flatMap]
  congr 1
  rw [List.flatMap_def, List.flatMap_def]
  refine congrArg List.flatten (List.map_congr_left fun part hpart => ?_)
  by_cases hname : part.1 = name
  · rw [hsilent root part hpart hname, hsilent other part hpart hname]
  · rw [part_congr hpart (hagree part.1 hname)]

end Fields

section Items

variable {place : String} {check : String → Json → List Issue}

theorem eq_of_within_index (hplace : place ≠ "") {i j : Nat} {path : String}
    (hi : within (Path.index place i) path = true) (hj : within (Path.index place j) path = true) :
    i = j := by
  rw [Path.index, join_eq hplace] at hi hj
  exact decimal_injective (eq_of_within _ (notMem_toList_decimal (by decide) i)
    (notMem_toList_decimal (by decide) j) hi hj)

theorem mem_items_and_within_iff (hplace : place ≠ "")
    (hcheck : ∀ path j, path ≠ "" → Within path (check path j)) (items : List Json) (i : Nat)
    (issue : Issue) :
    (issue ∈ items.zipIdx.flatMap fun e => check (Path.index place e.2) e.1) ∧
        within (Path.index place i) issue.path = true ↔
      issue ∈ (items[i]?).elim [] (check (Path.index place i)) := by
  constructor
  · rintro ⟨hmem, hwithin⟩
    obtain ⟨⟨item, j⟩, hitem, hissue⟩ := List.mem_flatMap.mp hmem
    have hown := hcheck _ item (index_ne_empty place hplace j) issue hissue
    obtain rfl := eq_of_within_index hplace hown hwithin
    rw [List.mk_mem_zipIdx_iff_getElem?.mp hitem]
    exact hissue
  · intro hissue
    cases hitem : items[i]? with
    | none =>
        rw [hitem] at hissue
        cases hissue
    | some item =>
        rw [hitem] at hissue
        exact ⟨List.mem_flatMap.mpr ⟨(item, i), List.mk_mem_zipIdx_iff_getElem?.mpr hitem, hissue⟩,
          hcheck _ item (index_ne_empty place hplace i) issue hissue⟩

theorem not_within_index (hplace : place ≠ "") (i : Nat) {path : String}
    (hpath : path.length ≤ place.length) : ¬ within (Path.index place i) path = true := by
  intro h
  have hlength := length_le_of_within h
  have hindex : place.length < (Path.index place i).length := length_lt_length_join hplace _
  omega

/-- A part reports on a list item by item, or it reports on the field as a whole because there are
no items. -/
def ChecksItems (list : String) (check : String → Json → List Issue)
    (part : Fields Json → List Issue) : Prop :=
  ∀ root : Fields Json,
    (∃ items, get? list root = some (.arr items) ∧
      part root = items.zipIdx.flatMap fun e => check (Path.index list e.2) e.1) ∨
    At list (part root) ∧ ∀ i, item? list i (.obj root) = none

theorem item?_of_absent {root : Fields Json} {list : String} (h : present? list root = none)
    (i : Nat) : item? list i (.obj root) = none := by
  rw [item?, Json.get?]
  cases hget : get? list root with
  | none => rfl
  | some j =>
      cases j with
      | null => rfl
      | _ => simp [present?, hget, Json.isNull] at h

theorem item?_of_not_arr {root : Fields Json} {list : String} {j : Json}
    (h : present? list root = some j) (hother : ∀ items, j = .arr items → False) (i : Nat) :
    item? list i (.obj root) = none := by
  rw [item?, Json.get?, get?_of_present? h]
  cases j with
  | arr items => exact (hother items rfl).elim
  | _ => rfl

theorem checksItems_supportingIssues :
    ChecksItems "supporting_images" imageIssues supportingIssues := by
  intro root
  unfold supportingIssues
  split
  · rename_i habsent
    exact .inr ⟨nofun, item?_of_absent habsent⟩
  · rename_i images hpresent
    exact .inl ⟨images, get?_of_present? hpresent, rfl⟩
  · rename_i j hother hpresent
    exact .inr ⟨at_singleton _ _ _, item?_of_not_arr hpresent hother⟩

theorem checksItems_componentsIssues :
    ChecksItems "components" componentIssues componentsIssues := by
  intro root
  unfold componentsIssues
  split
  · rename_i habsent
    exact .inr ⟨at_singleton _ _ _, item?_of_absent habsent⟩
  · rename_i hpresent
    refine .inr ⟨at_singleton _ _ _, fun i => ?_⟩
    rw [item?, Json.get?, get?_of_present? hpresent]
    rfl
  · rename_i components _ hpresent
    exact .inl ⟨components, get?_of_present? hpresent, rfl⟩
  · rename_i j _ hother hpresent
    exact .inr ⟨at_singleton _ _ _, item?_of_not_arr hpresent hother⟩

theorem inside_item_eq {part : Fields Json → List Issue} (hpart : (place, part) ∈ parts)
    (hplace : place ≠ "") (hcheck : ∀ path j, path ≠ "" → Within path (check path j))
    (hitems : ChecksItems place check part) (raw : Json) (i : Nat) :
    inside (Path.index place i) (found raw) =
      ascending Issue.le ((item? place i raw).elim [] (check (Path.index place i))) := by
  refine inside_found_eq fun issue => ?_
  cases raw with
  | obj root =>
      have hown : issue ∈ Schema.issues (.obj root) ∧
          within (Path.index place i) issue.path = true ↔
          issue ∈ part root ∧ within (Path.index place i) issue.path = true := by
        refine and_congr_left fun hwithin => ⟨fun hmem => ?_, fun hmem => ?_⟩
        · exact mem_part_of_within hpart hmem (within_of_join hplace hwithin)
        · rw [issues_eq_parts]
          exact List.mem_flatMap.mpr ⟨_, hpart, hmem⟩
      rw [hown]
      rcases hitems root with ⟨items, hget, heach⟩ | ⟨hat, hnone⟩
      · have hitem : item? place i (.obj root) = items[i]? := by
          simp [item?, Json.get?, hget, Json.asArr?]
        rw [heach, hitem]
        exact mem_items_and_within_iff hplace hcheck items i issue
      · rw [hnone i]
        refine iff_of_false ?_ List.not_mem_nil
        rintro ⟨hmem, hwithin⟩
        exact not_within_index hplace i (Nat.le_of_eq (congrArg String.length (hat issue hmem)))
          hwithin
  | _ =>
      refine iff_of_false ?_ List.not_mem_nil
      rintro ⟨hmem, hwithin⟩
      have hempty : issue.path = "" := by
        simp only [Schema.issues, List.mem_singleton] at hmem
        rw [hmem]
        rfl
      refine not_within_index hplace i ?_ hwithin
      rw [hempty]
      exact Nat.zero_le _

end Items

theorem inside_component_eq (raw : Json) (i : Nat) :
    inside (Path.index "components" i) (found raw) =
      ascending Issue.le ((item? "components" i raw).elim []
        (componentIssues (Path.index "components" i))) := by
  have hpart : ("components", componentsIssues) ∈ parts := by simp [parts]
  exact inside_item_eq hpart (by decide) within_componentIssues checksItems_componentsIssues raw i

theorem inside_supportingImage_eq (raw : Json) (i : Nat) :
    inside (Path.index "supporting_images" i) (found raw) =
      ascending Issue.le ((item? "supporting_images" i raw).elim []
        (imageIssues (Path.index "supporting_images" i))) := by
  have hpart : ("supporting_images", supportingIssues) ∈ parts := by simp [parts]
  exact inside_item_eq hpart (by decide) within_imageIssues checksItems_supportingIssues raw i

/-- What is found outside of a field is the same for any two documents that agree on all other
fields. What is found at an item of a list and below it is what the check of that item under its own
path has to say, whatever else is in the document. -/
theorem found_local :
    (∀ (root other : Fields Json) (name : String),
      (∀ key, key ≠ name → get? key root = get? key other) →
      outside name (found (.obj root)) = outside name (found (.obj other))) ∧
    (∀ (raw : Json) (i : Nat), inside (Path.index "components" i) (found raw) =
      ascending Issue.le ((item? "components" i raw).elim []
        (componentIssues (Path.index "components" i)))) ∧
    ∀ (raw : Json) (i : Nat), inside (Path.index "supporting_images" i) (found raw) =
      ascending Issue.le ((item? "supporting_images" i raw).elim []
        (imageIssues (Path.index "supporting_images" i))) :=
  ⟨fun _ _ _ => outside_found_eq, inside_component_eq, inside_supportingImage_eq⟩

/-- A document with a fault in its hero image and one in each of its components. -/
def misprinted : Fields Json :=
  [("components", .arr [.null, .obj [("content", .int 1), ("type", .str "title")]]),
    ("hero_image", .obj [("id", .str "hero"), ("url", .str " ")]),
    ("palette", .obj [("accent", .str "#778899"), ("background", .str "#FFFFFF"),
      ("primary", .str "#112233"), ("secondary", .str "#445566")]),
    ("pattern_family", .str "ACT_FORM_MINIMAL"), ("pattern_variant", .int 1),
    ("vibe", .str "modern")]

def corrected : Fields Json :=
  Fields.set "hero_image"
    (.obj [("id", .str "hero"), ("url", .str "https://cdn.example/hero.png")]) misprinted

theorem misprinted_found_local :
    (∀ key, key ≠ "hero_image" → get? key misprinted = get? key corrected) ∧
    outside "hero_image" (found (.obj misprinted)) =
      outside "hero_image" (found (.obj corrected)) ∧
    found (.obj misprinted) ≠ found (.obj corrected) ∧
    (∃ issue ∈ found (.obj corrected), issue.path = "components.1.content") ∧
    inside (Path.index "components" 0) (found (.obj misprinted)) =
      inside (Path.index "components" 0) (found (.obj [("components", .arr [.null])])) := by
  obtain ⟨houtside, hcomponent, _⟩ := found_local
  have hagree : ∀ key, key ≠ "hero_image" → get? key misprinted = get? key corrected := by
    intro key hkey
    rw [corrected, Fields.get?_set, if_neg hkey]
  refine ⟨hagree, houtside misprinted corrected "hero_image" hagree, ?_, ?_, ?_⟩
  · intro h
    have hissue : Failure.fieldInvalid.at "hero_image.url" "url must be a non-empty string" ∈
        found (.obj misprinted) := by
      rw [mem_found_iff]
      decide +kernel
    rw [h, mem_found_iff] at hissue
    exact absurd hissue (by decide +kernel)
  · simp only [mem_found_iff]
    decide +kernel
  · rw [hcomponent, hcomponent]
    rfl

end ScreenPattern.Proofs.LocalIssues
