import ScreenPattern.Component.Codec
import ScreenPattern.Proofs.ValueReading

/-!
Reading components. The typed properties of a component stand beside open ones in one object, so
what is written reads as the component exactly if no open property has the name of a typed one.
-/

namespace ScreenPattern.Proofs.ComponentReading

open FieldReading ValueReading
open Fields (get? entryOfList)

/-- The names that the typed properties of a component take. -/
def declared : Component → List String
  | .title .. | .subtitle .. | .text .. => TextProps.declared
  | .button .. => ButtonProps.declared
  | .form .. => FormProps.declared
  | .image .. => ImageProps.declared

/-- The open properties of a component. -/
def extra : Component → Fields Json
  | .title _ props | .subtitle _ props | .text _ props => props.extra
  | .button _ props => props.extra
  | .form _ props => props.extra
  | .image _ props => props.extra

/-- No open property has the name of a typed one. -/
def Apart (c : Component) : Prop :=
  ∀ name ∈ declared c, name ∉ (extra c).keys

instance (c : Component) : Decidable (Apart c) :=
  inferInstanceAs (Decidable (∀ name ∈ declared c, name ∉ (extra c).keys))

theorem formField_read (field : FormField) :
    FormField.ofNestedJson? field.toJson = some field := by
  have htype : Tokens.ofNestedJson? (Tokens.toJson field.inputType) = some field.inputType :=
    reads_nestedToken.read_encode _
  simp [FormField.ofNestedJson?, FormField.read?, FormField.toJson, Json.record?, Fields.required,
    Fields.defaulted, Json.asStr?, Json.asBool?, htype]

/-- Typed properties are read beside open ones with other names as they are read alone. -/
theorem read_beside {α : Type} {names : List String} {typed extra : Fields Json}
    {read : Json → Option α} {props : α} (htyped : ∀ e ∈ typed, e.1 ∈ names)
    (hapart : ∀ name ∈ names, name ∉ extra.keys)
    (hread : ∀ fields : Fields Json, (∀ name ∈ names, get? name fields = get? name typed) →
      fields.without names = extra → read (.obj fields) = some props) :
    read (.obj (Fields.beside typed extra)) = some props :=
  hread _ (fun name hname => get?_beside_of_notMem (hapart name hname) typed)
    (without_beside htyped hapart)

theorem textProps_read {props : TextProps}
    (hapart : ∀ name ∈ TextProps.declared, name ∉ props.extra.keys) :
    TextProps.ofJson? (.obj props.toFields) = some props := by
  refine read_beside ?_ hapart fun fields hget hextra => ?_
  · cases props.align <;> simp [TextProps.declared, Fields.entry?]
  · have halign : fields.optional "align" Tokens.ofNestedJson? = some props.align :=
      optional_eq reads_nestedToken ((hget _ (by simp [TextProps.declared])).trans (by simp))
    simp [TextProps.ofJson?, Json.asObj?, halign, hextra]

theorem buttonProps_read {props : ButtonProps}
    (hapart : ∀ name ∈ ButtonProps.declared, name ∉ props.extra.keys) :
    ButtonProps.ofJson? (.obj props.toFields) = some props := by
  refine read_beside ?_ hapart fun fields hget hextra => ?_
  · cases props.style <;> cases props.size <;> simp [ButtonProps.declared, Fields.entry?]
  · have hstyle : fields.optional "variant" Tokens.ofNestedJson? = some props.style :=
      optional_eq reads_nestedToken ((hget _ (by simp [ButtonProps.declared])).trans (by simp))
    have hsize : fields.optional "size" Tokens.ofNestedJson? = some props.size :=
      optional_eq reads_nestedToken ((hget _ (by simp [ButtonProps.declared])).trans (by simp))
    simp [ButtonProps.ofJson?, Json.asObj?, hstyle, hsize, hextra]

theorem formProps_read {props : FormProps}
    (hapart : ∀ name ∈ FormProps.declared, name ∉ props.extra.keys) :
    FormProps.ofJson? (.obj props.toFields) = some props := by
  refine read_beside ?_ hapart fun fields hget hextra => ?_
  · cases props.fields <;> cases props.submitLabel <;>
      simp [FormProps.declared, Fields.entry?, entryOfList]
  · have hfields : fields.defaulted "fields" [] (Json.list? FormField.ofNestedJson?) =
        some props.fields :=
      defaulted_list_eq (fun field _ => formField_read field)
        ((hget _ (by simp [FormProps.declared])).trans (by simp))
    have hlabel : fields.optional "submit_label" Json.asStr? = some props.submitLabel :=
      optional_eq reads_str ((hget _ (by simp [FormProps.declared])).trans (by simp))
    simp [FormProps.ofJson?, Json.asObj?, hfields, hlabel, hextra]

theorem imageProps_read {props : ImageProps}
    (hapart : ∀ name ∈ ImageProps.declared, name ∉ props.extra.keys) :
    ImageProps.ofJson? (.obj props.toFields) = some props := by
  refine read_beside ?_ hapart fun fields hget hextra => ?_
  · cases props.alt <;> simp [ImageProps.declared, Fields.entry?]
  · have halt : fields.optional "alt" Json.asStr? = some props.alt :=
      optional_eq reads_str ((hget _ (by simp [ImageProps.declared])).trans (by simp))
    simp [ImageProps.ofJson?, Json.asObj?, halt, hextra]

/-- The entries of a component's object. -/
def entries (c : Component) : Fields Json :=
  [("content", .str c.content)] ++ Fields.entryOfFields "props" c.propFields ++
    [("type", Tokens.toJson c.kind)]

theorem toJson_eq (c : Component) : c.toJson = .obj (entries c) :=
  rfl

theorem tagged?_entries (c : Component) (names : String → List String) :
    Json.tagged? "type" names (.obj (entries c)) = some (Tokens.token c.kind, entries c) := by
  simp [Json.tagged?, entries, Tokens.toJson, Json.asStr?]

theorem required_content_entries (c : Component) :
    (entries c).required "content" Json.asStr? = some c.content :=
  required_eq reads_str (by simp [entries])

theorem get?_props_entries (c : Component) :
    get? "props" (entries c) = if c.propFields ≠ [] then some (.obj c.propFields) else none := by
  simp [entries]

/-- Properties read back as they were, and where none are written the default stands for them. -/
theorem map_defaulted_props_eq {α : Type} (make : α → Component) {default props : α}
    {read : Json → Option α} {written fields : Fields Json}
    (hread : read (.obj written) = some props) (hdefault : read (.obj []) = some default)
    (hget : get? "props" fields = if written ≠ [] then some (.obj written) else none) :
    (fields.defaulted "props" default read).map make = some (make props) := by
  by_cases hnil : written = []
  · subst hnil
    rw [if_neg (by simp)] at hget
    rw [defaulted_eq_none hget, ← hdefault, hread, Option.map_some]
  · rw [if_pos hnil] at hget
    rw [defaulted_eq_some hget, hread, Option.map_some]

theorem component_read {c : Component} (hapart : Apart c) :
    Component.ofJson? c.toJson = some c := by
  have hkind : Tokens.ofToken? (Tokens.token c.kind) = some c.kind :=
    LawfulTokens.ofToken?_token c.kind
  have hprops := get?_props_entries c
  rw [toJson_eq]
  simp only [Component.ofJson?, tagged?_entries, hkind, required_content_entries,
    Option.bind_eq_bind, Option.bind_some]
  cases c with
  | title content _ =>
      exact map_defaulted_props_eq (.title content) (textProps_read hapart) rfl hprops
  | subtitle content _ =>
      exact map_defaulted_props_eq (.subtitle content) (textProps_read hapart) rfl hprops
  | button content _ =>
      exact map_defaulted_props_eq (.button content) (buttonProps_read hapart) rfl hprops
  | form content _ =>
      exact map_defaulted_props_eq (.form content) (formProps_read hapart) rfl hprops
  | text content _ =>
      exact map_defaulted_props_eq (.text content) (textProps_read hapart) rfl hprops
  | image content _ =>
      exact map_defaulted_props_eq (.image content) (imageProps_read hapart) rfl hprops

section Readers

variable {α β γ : Type} {names : List String} {open? : α → Fields Json} {read : Json → Option α}

/-- What is read stood in an object, and its entries under other names than `names` are kept. -/
def KeepsOthers (names : List String) (open? : α → Fields Json) (read : Json → Option α) : Prop :=
  ∀ j props, read j = some props →
    ∃ written : Fields Json, j = .obj written ∧ open? props = written.without names

theorem keepsOthers_of_obj {rest : Fields Json → Option α}
    (hrest : ∀ written props, rest written = some props → open? props = written.without names) :
    KeepsOthers names open? fun j => j.asObj?.bind rest := by
  intro j props h
  obtain ⟨written, hwritten, hprops⟩ := Option.bind_eq_some_iff.mp h
  exact ⟨written, (asObj?_eq_some_iff _ _).mp hwritten, hrest written props hprops⟩

theorem forall_of_bind {value : Option β} {rest : β → Option γ} {p : γ → Prop}
    (hrest : ∀ b c, rest b = some c → p c) : ∀ c, value.bind rest = some c → p c := by
  intro c h
  obtain ⟨b, _, hc⟩ := Option.bind_eq_some_iff.mp h
  exact hrest b c hc

/-- Properties that were read stood in an object, or nowhere, and no open one has a typed name. -/
theorem defaulted_props_of_read {make : α → Component} {default : α} {fields : Fields Json}
    {c : Component} (hread : KeepsOthers names open? read) (hdefault : open? default = [])
    (h : (fields.defaulted "props" default read).map make = some c) :
    (∀ j, get? "props" fields = some j → ∃ written, j = .obj written) ∧
      ∃ props, c = make props ∧ ∀ name ∈ names, name ∉ (open? props).keys := by
  obtain ⟨props, hprops, rfl⟩ := Option.map_eq_some_iff.mp h
  cases hget : get? "props" fields with
  | none =>
      rw [defaulted_eq_none hget] at hprops
      cases hprops
      refine ⟨fun _ => nofun, default, rfl, fun name _ => ?_⟩
      simp [hdefault, Fields.keys]
  | some j =>
      rw [defaulted_eq_some hget] at hprops
      obtain ⟨written, rfl, hopen⟩ := hread j props hprops
      refine ⟨fun j hj => ⟨written, (Option.some.inj hj).symm⟩, props, rfl, fun name hname => ?_⟩
      rw [hopen]
      exact notMem_keys_without hname written

end Readers

theorem textProps_keepsOthers :
    KeepsOthers TextProps.declared TextProps.extra TextProps.ofJson? :=
  keepsOthers_of_obj fun _ => forall_of_bind fun _ _ hprops => by
    cases hprops
    rfl

theorem buttonProps_keepsOthers :
    KeepsOthers ButtonProps.declared ButtonProps.extra ButtonProps.ofJson? :=
  keepsOthers_of_obj fun _ => forall_of_bind fun _ => forall_of_bind fun _ _ hprops => by
    cases hprops
    rfl

theorem formProps_keepsOthers :
    KeepsOthers FormProps.declared FormProps.extra FormProps.ofJson? :=
  keepsOthers_of_obj fun _ => forall_of_bind fun _ => forall_of_bind fun _ _ hprops => by
    cases hprops
    rfl

theorem imageProps_keepsOthers :
    KeepsOthers ImageProps.declared ImageProps.extra ImageProps.ofJson? :=
  keepsOthers_of_obj fun _ => forall_of_bind fun _ _ hprops => by
    cases hprops
    rfl

/-- What a component was read from. -/
structure ReadFrom (fields : Fields Json) (c : Component) : Prop where
  tag : get? "type" fields = some (.str (Tokens.token c.kind))
  content : get? "content" fields = some (.str c.content)
  props : ∀ j, get? "props" fields = some j → ∃ written, j = .obj written
  apart : Apart c

theorem readFrom_of_read {fields : Fields Json} {c : Component}
    (h : Component.ofJson? (.obj fields) = some c) : ReadFrom fields c := by
  simp only [Component.ofJson?, Json.tagged?, Option.bind_eq_bind, Option.bind_eq_some_iff,
    Option.map_eq_some_iff, asStr?_eq_some_iff, required_eq_some_iff] at h
  obtain ⟨_, ⟨tag, ⟨_, htag, rfl⟩, rfl⟩, kind, hkind, content, ⟨_, hcontent, rfl⟩, hprops⟩ := h
  have htoken : get? "type" fields = some (.str (Tokens.token kind)) :=
    eq_token_of_ofToken? hkind ▸ htag
  cases kind with
  | title =>
      obtain ⟨hobject, props, rfl, hapart⟩ :=
        defaulted_props_of_read textProps_keepsOthers rfl hprops
      exact ⟨htoken, hcontent, hobject, hapart⟩
  | subtitle =>
      obtain ⟨hobject, props, rfl, hapart⟩ :=
        defaulted_props_of_read textProps_keepsOthers rfl hprops
      exact ⟨htoken, hcontent, hobject, hapart⟩
  | button =>
      obtain ⟨hobject, props, rfl, hapart⟩ :=
        defaulted_props_of_read buttonProps_keepsOthers rfl hprops
      exact ⟨htoken, hcontent, hobject, hapart⟩
  | form =>
      obtain ⟨hobject, props, rfl, hapart⟩ :=
        defaulted_props_of_read formProps_keepsOthers rfl hprops
      exact ⟨htoken, hcontent, hobject, hapart⟩
  | text =>
      obtain ⟨hobject, props, rfl, hapart⟩ :=
        defaulted_props_of_read textProps_keepsOthers rfl hprops
      exact ⟨htoken, hcontent, hobject, hapart⟩
  | image =>
      obtain ⟨hobject, props, rfl, hapart⟩ :=
        defaulted_props_of_read imageProps_keepsOthers rfl hprops
      exact ⟨htoken, hcontent, hobject, hapart⟩

theorem component_read_iff {c : Component} : Component.ofJson? c.toJson = some c ↔ Apart c :=
  ⟨fun h => (readFrom_of_read h).apart, component_read⟩

end ScreenPattern.Proofs.ComponentReading
