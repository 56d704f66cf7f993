import ScreenPattern.Proofs.LocalIssues

namespace ScreenPattern.Proofs.UnsentProperties

open FieldReading IssuePaths LocalIssues SchemaWalk
open Document Document.Schema
open Fields (get? present?)

def HasPaddedKind (component : Fields Json) : Prop :=
  Has component "type" fun j => IsToken ComponentKind j ∧ IsPadded j

/-- The component carries no properties, and nothing is wrong with it but the white space around its
kind. -/
structure BareAndPadded (component : Fields Json) : Prop where
  props : get? "props" component = none
  kind : HasPaddedKind component
  content : Has component "content" IsString

def SendsProps (raw : Json) (i : Nat) : Prop :=
  ∃ component props, item? "components" i raw = some (.obj component) ∧
    get? "props" component = some props

def ReportsProps (raw : Json) (i : Nat) : Prop :=
  ∃ issue ∈ found raw, issue.path = Path.join (Path.index "components" i) "props"

/-- The paths under which a component without properties is reported on. -/
inductive Blamed (place : String) (component : Fields Json) : String → Prop
  | kind (hkind : ¬ Has component "type" (IsToken ComponentKind)) :
      Blamed place component (Path.join place "type")
  | content (hcontent : ¬ Has component "content" IsString) :
      Blamed place component (Path.join place "content")
  | padded (hbare : BareAndPadded component) : Blamed place component (Path.join place "props")

theorem exists_path_iff_of_at {path : String} {issues : List Issue} (h : At path issues)
    (target : String) :
    (∃ issue ∈ issues, issue.path = target) ↔ issues ≠ [] ∧ path = target := by
  constructor
  · rintro ⟨issue, hmem, rfl⟩
    exact ⟨List.ne_nil_of_mem hmem, (h issue hmem).symm⟩
  · rintro ⟨hne, rfl⟩
    obtain ⟨issue, hmem⟩ := List.exists_mem_of_ne_nil issues hne
    exact ⟨issue, hmem, h issue hmem⟩

section Components

variable {component : Fields Json}

theorem contentIssues_eq_nil_iff (path : String) (component : Fields Json) :
    contentIssues path component = [] ↔ Has component "content" IsString := by
  unfold contentIssues
  split
  · rename_i content hpresent
    simp [Has, hpresent, IsString]
  · rename_i j hother hpresent
    refine iff_of_false (List.cons_ne_nil _ _) ?_
    rintro ⟨_, hj, content, rfl⟩
    exact hother content (Option.some.inj (hpresent.symm.trans hj))
  · rename_i habsent
    simp [Has, habsent]

theorem propsIssues_of_absent (path : String) (h : get? "props" component = none) :
    propsIssues path component = [] := by
  have hpresent : present? "props" component = none := by simp [present?, h]
  rw [propsIssues, hpresent]

theorem isSome_ofJson?_iff (hprops : get? "props" component = none)
    (hkind : Has component "type" (IsToken ComponentKind))
    (hcontent : Has component "content" IsString) :
    (Component.ofJson? (.obj component)).isSome = true ↔ ¬ HasPaddedKind component := by
  obtain ⟨_, hpresent, token, rfl, hparse⟩ := hkind
  obtain ⟨_, hsent, content, rfl⟩ := hcontent
  have htag := get?_of_present? hpresent
  have htext := get?_of_present? hsent
  have hpadded : HasPaddedKind component ↔ IsPadded (.str token) := by
    simp [HasPaddedKind, Has, hpresent, IsToken, hparse]
  rw [hpadded, ← isSome_ofJson?_token_iff (α := ComponentKind) ⟨token, rfl, hparse⟩]
  change _ ↔ (Tokens.ofToken? token : Option ComponentKind).isSome = true
  cases hread : (Tokens.ofToken? token : Option ComponentKind) with
  | none => simp [Component.ofJson?, Json.tagged?, htag, Json.asStr?, hread]
  | some kind =>
      cases kind <;>
        simp [Component.ofJson?, Json.tagged?, htag, Json.asStr?, hread, Fields.required, htext,
          defaulted_eq_none hprops]

theorem HasPaddedKind.has_token (h : HasPaddedKind component) :
    Has component "type" (IsToken ComponentKind) := by
  obtain ⟨j, hpresent, htoken, _⟩ := h
  exact ⟨j, hpresent, htoken⟩

theorem exists_path_envelopeIssues_iff (hprops : get? "props" component = none)
    (place path : String) :
    (∃ issue ∈ envelopeIssues place component, issue.path = path) ↔
      (¬ Has component "type" (IsToken ComponentKind) ∧ Path.join place "type" = path) ∨
        (¬ Has component "content" IsString ∧ Path.join place "content" = path) := by
  have hkind := exists_path_iff_of_at
    (at_tokenIssues component "type" place ComponentKind true) path
  have hcontent := exists_path_iff_of_at (at_contentIssues place component) path
  rw [ne_eq, tokenIssues_eq_nil_iff, if_pos rfl] at hkind
  rw [ne_eq, contentIssues_eq_nil_iff] at hcontent
  rw [envelopeIssues_eq, propsIssues_of_absent place hprops, List.append_nil, ← hkind, ← hcontent]
  simp only [List.mem_append, or_and_right, exists_or]

theorem envelopeIssues_eq_nil_iff (hprops : get? "props" component = none) (place : String) :
    envelopeIssues place component = [] ↔
      Has component "type" (IsToken ComponentKind) ∧ Has component "content" IsString := by
  rw [envelopeIssues_eq, propsIssues_of_absent place hprops, List.append_nil,
    List.append_eq_nil_iff, tokenIssues_eq_nil_iff, if_pos rfl, contentIssues_eq_nil_iff]

/-- Once the envelope is sound, only white space around the kind is left to be reported. -/
theorem exists_path_componentIssues_iff (hprops : get? "props" component = none)
    (place path : String) :
    (∃ issue ∈ componentIssues place (.obj component), issue.path = path) ↔
      Blamed place component path := by
  simp only [componentIssues]
  split
  · rename_i hsound
    obtain ⟨hkind, hcontent⟩ := (envelopeIssues_eq_nil_iff hprops place).mp hsound
    have hread := isSome_ofJson?_iff hprops hkind hcontent
    by_cases hpadded : HasPaddedKind component
    · rw [if_neg fun h => hread.mp h hpadded]
      constructor
      · rintro ⟨issue, hmem, rfl⟩
        rw [List.mem_singleton.mp hmem]
        exact .padded ⟨hprops, hpadded, hcontent⟩
      · rintro (hbad | hbad | _)
        · exact absurd hkind hbad
        · exact absurd hcontent hbad
        · exact ⟨_, List.mem_singleton_self _, rfl⟩
    · rw [if_pos (hread.mpr hpadded)]
      refine iff_of_false (by simp) ?_
      rintro (hbad | hbad | hbad)
      · exact hbad hkind
      · exact hbad hcontent
      · exact hpadded hbad.kind
  · rename_i hunsound
    rw [exists_path_envelopeIssues_iff hprops]
    constructor
    · rintro (⟨hkind, rfl⟩ | ⟨hcontent, rfl⟩)
      · exact .kind hkind
      · exact .content hcontent
    · rintro (hkind | hcontent | hbare)
      · exact .inl ⟨hkind, rfl⟩
      · exact .inr ⟨hcontent, rfl⟩
      · refine absurd ?_ hunsound
        exact (envelopeIssues_eq_nil_iff hprops place).mpr ⟨hbare.kind.has_token, hbare.content⟩

end Components

theorem exists_path_inside_iff {raw : Json} {i : Nat} {path : String} :
    (∃ issue ∈ inside (Path.index "components" i) (found raw), issue.path = path) ↔
      ∃ j, item? "components" i raw = some j ∧
        ∃ issue ∈ componentIssues (Path.index "components" i) j, issue.path = path := by
  simp only [inside_component_eq, AscendingLists.mem_ascending]
  cases item? "components" i raw with
  | none => simp
  | some j => simp

theorem join_inj {place first second : String} (hplace : place ≠ "") :
    Path.join place first = Path.join place second ↔ first = second := by
  rw [join_eq hplace, join_eq hplace, String.append_right_inj]

theorem sendsProps_or_of_reportsProps {raw : Json} {i : Nat} (h : ReportsProps raw i) :
    SendsProps raw i ∨ ∃ component, item? "components" i raw = some (.obj component) ∧
      BareAndPadded component := by
  have hplace := index_ne_empty "components" (by decide) i
  obtain ⟨issue, hissue, hpath⟩ := h
  have hwithin : within (Path.index "components" i) issue.path = true := by
    rw [hpath]
    exact within_of_join hplace (within_self _)
  obtain ⟨j, hitem, hfound⟩ := exists_path_inside_iff.mp
    ⟨issue, List.mem_filter.mpr ⟨hissue, hwithin⟩, hpath⟩
  cases j with
  | obj component =>
      cases hprops : get? "props" component with
      | some props => exact .inl ⟨component, props, hitem, hprops⟩
      | none =>
          have hblamed := (exists_path_componentIssues_iff hprops _ _).mp hfound
          generalize htarget : Path.join (Path.index "components" i) "props" = target at hblamed
          cases hblamed with
          | kind => exact absurd ((join_inj hplace).mp htarget) (by decide)
          | content => exact absurd ((join_inj hplace).mp htarget) (by decide)
          | padded hbare => exact .inr ⟨component, hitem, hbare⟩
  | _ =>
      obtain ⟨issue, hmem, hpath⟩ := hfound
      have hself : issue.path = Path.index "components" i := by
        simp only [componentIssues, List.mem_singleton] at hmem
        rw [hmem]
        rfl
      have hlonger := length_lt_length_join hplace "props"
      rw [← hpath, hself] at hlonger
      exact absurd hlonger (Nat.lt_irrefl _)

theorem exists_path_inside_iff_blamed {raw : Json} {i : Nat} {component : Fields Json}
    (hitem : item? "components" i raw = some (.obj component))
    (hprops : get? "props" component = none) (path : String) :
    (∃ issue ∈ inside (Path.index "components" i) (found raw), issue.path = path) ↔
      Blamed (Path.index "components" i) component path := by
  rw [exists_path_inside_iff, hitem, ← exists_path_componentIssues_iff hprops]
  simp

theorem reportsProps_of_bareAndPadded {raw : Json} {i : Nat} {component : Fields Json}
    (hitem : item? "components" i raw = some (.obj component)) (h : BareAndPadded component) :
    ReportsProps raw i := by
  obtain ⟨issue, hmem, hpath⟩ :=
    (exists_path_inside_iff_blamed hitem h.props _).mpr (.padded h)
  exact ⟨issue, List.mem_of_mem_filter hmem, hpath⟩

/-- A report on properties means that they were sent, unless there is nothing wrong with the
component but the white space around its kind. What is reported on a component without properties
is at its kind exactly if that is no kind, at its content exactly if that is no text, and otherwise
at the properties in that one case. -/
theorem sendsProps_of_reportsProps_iff_and_blamed (raw : Json) (i : Nat) :
    ((ReportsProps raw i → SendsProps raw i) ↔
      ∀ component, item? "components" i raw = some (.obj component) →
        ¬ BareAndPadded component) ∧
    ∀ component, item? "components" i raw = some (.obj component) →
      get? "props" component = none →
      ∀ path, (∃ issue ∈ inside (Path.index "components" i) (found raw), issue.path = path) ↔
        Blamed (Path.index "components" i) component path := by
  refine ⟨⟨?_, ?_⟩, fun component hitem hprops => exists_path_inside_iff_blamed hitem hprops⟩
  · intro hmeets component hitem hbare
    obtain ⟨other, props, hother, hsent⟩ := hmeets (reportsProps_of_bareAndPadded hitem hbare)
    cases hitem.symm.trans hother
    rw [hbare.props] at hsent
    cases hsent
  · intro hnone hreports
    rcases sendsProps_or_of_reportsProps hreports with hsends | ⟨component, hitem, hbare⟩
    · exact hsends
    · exact absurd hbare (hnone component hitem)

/-- A document whose first component has white space before its kind, and no properties. -/
def paddedTitle : Json :=
  .obj
    [("components", .arr [.obj [("content", .str "Join"), ("type", .str " title")],
      .obj [("content", .int 1), ("type", .str "subtitle")]]),
      ("hero_image", .obj [("id", .str "hero"), ("url", .str "https://cdn.example/hero.png")]),
      ("palette", .obj [("accent", .str "#778899"), ("background", .str "#FFFFFF"),
        ("primary", .str "#112233"), ("secondary", .str "#445566")]),
      ("pattern_family", .str "ACT_FORM_MINIMAL"), ("pattern_variant", .int 1),
      ("vibe", .str "modern")]

theorem paddedTitle_reportsProps_not_sendsProps :
    ReportsProps paddedTitle 0 ∧ ¬ SendsProps paddedTitle 0 := by
  constructor
  · simp only [ReportsProps, mem_found_iff]
    decide +kernel
  · rintro ⟨component, props, hitem, hprops⟩
    cases hitem
    cases hprops

theorem paddedTitle_sendsProps_iff_and_blamed :
    ∃ subtitle : Fields Json,
      item? "components" 1 paddedTitle = some (.obj subtitle) ∧
      get? "props" subtitle = none ∧
      (ReportsProps paddedTitle 1 → SendsProps paddedTitle 1) ∧
      ∀ issue ∈ inside (Path.index "components" 1) (found paddedTitle),
        issue.path = Path.join (Path.index "components" 1) "content" := by
  obtain ⟨hmeets, hblamed⟩ := sendsProps_of_reportsProps_iff_and_blamed paddedTitle 1
  have hnoText : ∀ subtitle : Fields Json, item? "components" 1 paddedTitle = some (.obj subtitle) →
      ¬ Has subtitle "content" IsString := by
    rintro subtitle hitem ⟨_, hpresent, _, rfl⟩
    cases hitem
    cases hpresent
  refine ⟨_, rfl, rfl, hmeets.mpr fun subtitle hitem hbare => ?_, fun issue hmem => ?_⟩
  · exact hnoText subtitle hitem hbare.content
  · have hpath := (hblamed _ rfl rfl issue.path).mp ⟨issue, hmem, rfl⟩
    generalize issue.path = path at hpath
    cases hpath with
    | kind hkind => exact absurd ⟨_, rfl, "subtitle", rfl, by decide⟩ hkind
    | content => rfl
    | padded hbare => exact absurd hbare.content (hnoText _ rfl)

end ScreenPattern.Proofs.UnsentProperties
