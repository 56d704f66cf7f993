import Mathlib.Data.List.Forall2
import ScreenPattern.Proofs.AssemblyModes
import ScreenPattern.Proofs.MigrationChain
import ScreenPattern.Proofs.SynthesizedComponents
import ScreenPattern.Proofs.TextTrimming

/-!
What the names of slots are good for. A contract looks at nothing but the kinds that its slots have,
so a contract whose slots are named otherwise, but have the same kinds in the same places, does the
same with every document. The names show only where a message quotes a slot.
-/

namespace ScreenPattern.Proofs.InterchangeableContracts

open AssemblyModes ContractSlots MigrationChain MigrationProjection SlotOccupancy
open SynthesizedComponents TextTrimming

/-- Two contracts with the same key and capacity whose slots have, one by one, the same kind. -/
structure Interchangeable (first second : Contract) : Prop where
  family : first.family = second.family
  variant : first.variant = second.variant
  capacity : first.supportingCapacity = second.supportingCapacity
  required : first.slots.required.map Slot.kind? = second.slots.required.map Slot.kind?
  optional : first.slots.optional.map Slot.kind? = second.slots.optional.map Slot.kind?

/-- A slot of the first contract and the slot in its place in the second. -/
def Counterpart (first second : Contract) (s t : String) : Prop :=
  (s, t) ∈ first.slots.all.zip second.slots.all ∧ Slot.kind? s = Slot.kind? t

/-- Texts that are the same, but for a quoted slot that may be replaced by its counterpart. -/
inductive SameText (first second : Contract) : String → String → Prop
  | same (text : String) : SameText first second text text
  | quoting {s t : String} (before after : String) (h : Counterpart first second s t) :
      SameText first second (before ++ Text.quote s ++ after) (before ++ Text.quote t ++ after)

structure SameViolation (first second : Contract) (v w : Violation) : Prop where
  code : v.code = w.code
  path : v.path = w.path
  message : SameText first second v.message w.message

structure SameConformance (first second : Contract) (c d : Conformance) : Prop where
  valid : c.valid = d.valid
  errors : List.Forall₂ (SameViolation first second) c.errors d.errors
  warnings : List.Forall₂ (SameViolation first second) c.warnings d.warnings

structure SameOutcome (first second : Contract) (a b : AssemblyOutcome) : Prop where
  document : a.document = b.document
  valid : a.valid = b.valid
  schemaIssues : a.schemaIssues = b.schemaIssues
  contractErrors : List.Forall₂ (SameViolation first second) a.contractErrors b.contractErrors
  warnings : List.Forall₂ (SameViolation first second) a.warnings b.warnings

inductive SameError (first second : Contract) : AssemblyError → AssemblyError → Prop
  | same (error : AssemblyError) : SameError first second error error
  | missingRequiredSlot {s t : String} (key : ContractKey) (h : Counterpart first second s t) :
      SameError first second (.missingRequiredSlot s key) (.missingRequiredSlot t key)
  | contractViolation {vs ws : List Violation}
      (h : List.Forall₂ (SameViolation first second) vs ws) :
      SameError first second (.contractViolation vs) (.contractViolation ws)

/-- Results that are related, or errors that are the same up to the quoted slot. -/
inductive SameResult {α : Type} (first second : Contract) (R : α → α → Prop) :
    Except AssemblyError α → Except AssemblyError α → Prop
  | ok {a b : α} (h : R a b) : SameResult first second R (.ok a) (.ok b)
  | error {e f : AssemblyError} (h : SameError first second e f) :
      SameResult first second R (.error e) (.error f)

section Lists

variable {α β : Type}

theorem find?_of_forall₂ {R : α → β → Prop} {p : α → Bool} {q : β → Bool} {xs : List α}
    {ys : List β} (h : List.Forall₂ R xs ys) (hpq : ∀ a b, R a b → p a = q b) :
    Option.Rel R (xs.find? p) (ys.find? q) := by
  induction h with
  | nil => exact .none
  | @cons a b xs ys hab _ ih =>
      rw [List.find?_cons, List.find?_cons, hpq a b hab]
      cases q b with
      | true => exact .some hab
      | false => exact ih

theorem isSome_eq_of_rel {R : α → β → Prop} {a : Option α} {b : Option β} (h : Option.Rel R a b) :
    a.isSome = b.isSome := by
  cases h <;> rfl

theorem forall₂_of_map_eq {γ : Type} {f : α → γ} {g : β → γ} {xs : List α} {ys : List β}
    (h : xs.map f = ys.map g) : List.Forall₂ (fun a b => f a = g b) xs ys := by
  have hsame : List.Forall₂ Eq (xs.map f) (ys.map g) := by rw [List.forall₂_eq_eq_eq, h]
  exact List.forall₂_map_right_iff.mp (List.forall₂_map_left_iff.mp hsame)

theorem isEmpty_eq_of_forall₂ {R : α → β → Prop} {xs : List α} {ys : List β}
    (h : List.Forall₂ R xs ys) : xs.isEmpty = ys.isEmpty := by
  cases h <;> rfl

end Lists

theorem forall₂_same_violation (first second : Contract) (violations : List Violation) :
    List.Forall₂ (SameViolation first second) violations violations :=
  List.forall₂_same.mpr fun v _ => ⟨rfl, rfl, .same v.message⟩

theorem SameText.wrap {first second : Contract} {x y : String} (h : SameText first second x y)
    (before after : String) :
    SameText first second (before ++ x ++ after) (before ++ y ++ after) := by
  cases h with
  | same _ => exact .same _
  | @quoting s t inner outer hst =>
      have hwider : SameText first second ((before ++ inner) ++ Text.quote s ++ (outer ++ after))
          ((before ++ inner) ++ Text.quote t ++ (outer ++ after)) := .quoting _ _ hst
      simpa only [String.append_assoc] using hwider

theorem SameViolation.text {first second : Contract} {v w : Violation}
    (h : SameViolation first second v w) : SameText first second v.text w.text := by
  have hwrapped := h.message.wrap (v.path ++ ": ") (" (" ++ Tokens.token v.code ++ ")")
  rw [h.path, h.code] at hwrapped
  simp only [Violation.text, h.path, h.code]
  simpa only [String.append_assoc] using hwrapped

theorem SameConformance.messages {first second : Contract} {c d : Conformance}
    (h : SameConformance first second c d) :
    List.Forall₂ (SameText first second) c.messages d.messages := by
  refine List.forall₂_map_left_iff.mpr (List.forall₂_map_right_iff.mpr ?_)
  exact (List.rel_append h.errors h.warnings).imp fun v w hvw => hvw.text

theorem kindsOf_eq (slots : List String) :
    kindsOf slots = (slots.map Slot.kind?).filterMap id := by
  rw [List.filterMap_map, Function.id_comp, kindsOf]

section Results

variable {first second : Contract} {α β : Type} {R : β → β → Prop}

theorem SameResult.bind {x y : Except AssemblyError α} {f g : α → Except AssemblyError β}
    (h : SameResult first second Eq x y) (hfg : ∀ a, SameResult first second R (f a) (g a)) :
    SameResult first second R (x.bind f) (y.bind g) := by
  cases h with
  | ok hab =>
      cases hab
      exact hfg _
  | error herror => exact .error herror

theorem SameResult.map {x y : Except AssemblyError α} (h : SameResult first second Eq x y)
    (f : α → β) : SameResult first second Eq (x.map f) (y.map f) := by
  cases h with
  | ok hab => exact .ok (congrArg f hab)
  | error herror => exact .error herror

end Results

section Slots

variable {first second : Contract} (h : Interchangeable first second)

include h

theorem Interchangeable.key : first.key = second.key := by
  rw [Contract.key, Contract.key, h.family, h.variant]

theorem Interchangeable.title : first.title = second.title := by
  rw [Contract.title, Contract.title, h.family, h.variant]

theorem Interchangeable.all :
    first.slots.all.map Slot.kind? = second.slots.all.map Slot.kind? := by
  rw [Slots.all, Slots.all, List.map_append, List.map_append, h.required, h.optional]

theorem Interchangeable.counterparts :
    List.Forall₂ (Counterpart first second) first.slots.all second.slots.all := by
  obtain ⟨hlength, hkinds⟩ := List.forall₂_iff_zip.mp (forall₂_of_map_eq h.all)
  refine List.forall₂_iff_zip.mpr ⟨hlength, ?_⟩
  intro s t hmem
  exact ⟨hmem, hkinds hmem⟩

theorem Interchangeable.requiredCounterparts :
    List.Forall₂ (Counterpart first second) first.slots.required second.slots.required := by
  obtain ⟨hlength, hkinds⟩ := List.forall₂_iff_zip.mp (forall₂_of_map_eq h.required)
  refine List.forall₂_iff_zip.mpr ⟨hlength, ?_⟩
  intro s t hmem
  refine ⟨?_, hkinds hmem⟩
  rw [Slots.all, Slots.all, List.zip_append hlength]
  exact List.mem_append_left _ hmem

theorem Interchangeable.slotFor? (kind : ComponentKind) :
    Option.Rel (Counterpart first second) (first.slots.slotFor? kind)
      (second.slots.slotFor? kind) := by
  refine find?_of_forall₂ h.counterparts ?_
  rintro s t ⟨_, hkind⟩
  rw [hkind]

theorem Interchangeable.allows : first.slots.allows = second.slots.allows := by
  funext kind
  exact isSome_eq_of_rel (h.slotFor? kind)

theorem Interchangeable.synthesizedKinds :
    synthesizedKinds first.slots = synthesizedKinds second.slots := by
  have hall : kindsOf first.slots.all = kindsOf second.slots.all := by
    rw [kindsOf_eq, kindsOf_eq, h.all]
  have hrequired : kindsOf first.slots.required = kindsOf second.slots.required := by
    rw [kindsOf_eq, kindsOf_eq, h.required]
  funext material
  simp only [SynthesizedComponents.synthesizedKinds, hall, hrequired]

theorem Interchangeable.identityErrors (document : Document) :
    first.identityErrors document = second.identityErrors document := by
  simp only [Contract.identityErrors, h.family, h.variant]

theorem Interchangeable.kindErrors (components : List Component) :
    first.kindErrors components = second.kindErrors components := by
  simp only [Contract.kindErrors, h.allows, h.title]

theorem Interchangeable.supportingErrors (document : Document) :
    first.supportingErrors document = second.supportingErrors document := by
  simp only [Contract.supportingErrors, h.capacity, h.title]

theorem Interchangeable.requiredKinds :
    List.Forall₂ (fun a b => Counterpart first second a.1 b.1 ∧ a.2 = b.2)
      first.slots.requiredKinds second.slots.requiredKinds := by
  unfold Slots.requiredKinds
  rw [List.forall₂_map_left_iff, List.forall₂_map_right_iff]
  refine h.requiredCounterparts.imp ?_
  intro s t hst
  dsimp only
  exact ⟨hst, hst.2⟩

theorem Interchangeable.missingSlotErrors (components : List Component) :
    List.Forall₂ (SameViolation first second) (first.missingSlotErrors components)
      (second.missingSlotErrors components) := by
  refine List.rel_flatMap h.requiredKinds ?_
  rintro ⟨s, kind⟩ ⟨t, _⟩ ⟨hst, rfl⟩
  simp only []
  split
  · exact .nil
  · exact .cons ⟨rfl, rfl, .quoting "required slot " " has no component" hst⟩ .nil

theorem Interchangeable.repetitionWarnings (components : List Component) :
    List.Forall₂ (SameViolation first second) (first.repetitionWarnings components)
      (second.repetitionWarnings components) := by
  have hrepeated : isRepeated first.slots components = isRepeated second.slots components := by
    funext e
    rw [isRepeated, isRepeated, h.allows]
  rw [repetitionWarnings_eq, repetitionWarnings_eq, hrepeated, List.forall₂_map_left_iff,
    List.forall₂_map_right_iff]
  refine List.forall₂_same.mpr ?_
  rintro ⟨c, i⟩ hmem
  obtain ⟨_, hallowed, _⟩ := (mem_filter_isRepeated_iff components c i).mp hmem
  obtain ⟨t, ht⟩ := Option.isSome_iff_exists.mp hallowed
  have hslot := h.slotFor? c.kind
  rw [ht] at hslot
  rw [repetition, repetition, ht]
  generalize first.slots.slotFor? c.kind = named at hslot ⊢
  cases hslot with
  | @some s _ hst =>
      have hmessage : SameText first second
          (toString c.kind ++ " component repeats slot " ++ Text.quote s ++ "")
          (toString c.kind ++ " component repeats slot " ++ Text.quote t ++ "") :=
        .quoting _ "" hst
      simp only [String.append_empty] at hmessage
      exact ⟨rfl, rfl, hmessage⟩

theorem Interchangeable.check (document : Document) :
    SameConformance first second (first.check document) (second.check document) := by
  have herrors : List.Forall₂ (SameViolation first second) (first.check document).errors
      (second.check document).errors := by
    simp only [Contract.check, h.identityErrors, h.kindErrors, h.supportingErrors]
    have hidentity := forall₂_same_violation first second (second.identityErrors document)
    have hkinds := forall₂_same_violation first second (second.kindErrors document.components)
    have hhero := forall₂_same_violation first second (Contract.heroErrors document)
    have hsupporting := forall₂_same_violation first second (second.supportingErrors document)
    exact List.rel_append (List.rel_append (List.rel_append (List.rel_append hidentity
      (h.missingSlotErrors _)) hkinds) hhero) hsupporting
  exact ⟨isEmpty_eq_of_forall₂ herrors, herrors, h.repetitionWarnings _⟩

theorem Interchangeable.accepts (components : List Component) :
    SameResult first second Eq (first.accepts components) (second.accepts components) := by
  unfold Contract.accepts
  simp only [h.allows, h.key]
  cases components.find? fun c => !second.slots.allows c.kind with
  | some c => exact .error (.same _)
  | none =>
      simp only []
      have hslot : Option.Rel _
          (first.slots.requiredKinds.find? fun slot => !Contract.isFilled components slot.2)
          (second.slots.requiredKinds.find? fun slot => !Contract.isFilled components slot.2) :=
        find?_of_forall₂ h.requiredKinds fun a b hab => by rw [hab.2]
      generalize first.slots.requiredKinds.find?
        (fun slot => !Contract.isFilled components slot.2) = named at hslot ⊢
      generalize second.slots.requiredKinds.find?
        (fun slot => !Contract.isFilled components slot.2) = renamed at hslot ⊢
      cases hslot with
      | none => exact .ok rfl
      | some hst => exact .error (.missingRequiredSlot _ hst.1)

theorem Interchangeable.prepare (options : AssemblyOptions) (task : Task) :
    SameResult first second Eq (prepare ⟨some first, options⟩ task)
      (prepare ⟨some second, options⟩ task) := by
  cases task with
  | assemble input =>
      refine SameResult.map ?_ (Assembler.draft ⟨some first, options⟩ input)
      unfold Assembler.components
      cases input.components.filter fun list => !list.isEmpty with
      | some list => exact (h.accepts list).map _
      | none =>
          cases input.text with
          | none => exact .error (.same _)
          | some text =>
              refine .ok ?_
              simp only [Assembler.places, components_slotPlaces, synthesized, h.synthesizedKinds]
  | update document update =>
      simp only [AssemblyModes.prepare]
      cases update.components with
      | none => exact .ok rfl
      | some components => exact (h.accepts components).map _

theorem Interchangeable.outcome (options : AssemblyOptions) (document : Document) :
    SameOutcome first second ((⟨some first, options⟩ : Assembler).outcome document)
      ((⟨some second, options⟩ : Assembler).outcome document) := by
  obtain ⟨_, herrors, hwarnings⟩ := h.check document
  refine ⟨rfl, ?_, rfl, herrors, hwarnings⟩
  simp only [Assembler.outcome, Option.map_some, Option.elim_some, isEmpty_eq_of_forall₂ herrors]

theorem Interchangeable.finish (options : AssemblyOptions) (document : Document) :
    SameResult first second (SameOutcome first second)
      ((⟨some first, options⟩ : Assembler).finish document)
      ((⟨some second, options⟩ : Assembler).finish document) := by
  have houtcome := h.outcome options document
  unfold Assembler.finish
  simp only [houtcome.schemaIssues, isEmpty_eq_of_forall₂ houtcome.contractErrors]
  split
  · exact .error (.same _)
  · split
    · exact .error (.contractViolation houtcome.contractErrors)
    · exact .ok houtcome

theorem Interchangeable.perform (options : AssemblyOptions) (task : Task) :
    SameResult first second (SameOutcome first second) (perform ⟨some first, options⟩ task)
      (perform ⟨some second, options⟩ task) := by
  rw [perform_eq, perform_eq]
  exact (h.prepare options task).bind (h.finish options)

theorem Interchangeable.migrate_document (document : Document) :
    (document.migrate first).document = (document.migrate second).document := by
  rw [MigrationProjection.migrate_document, MigrationProjection.migrate_document, restrict,
    restrict, h.family, h.variant, h.allows]

theorem Interchangeable.lossWarnings (document : Document) :
    (MigrationPlan.of document first).lossWarnings =
      (MigrationPlan.of document second).lossWarnings := by
  have hkey : (MigrationPlan.of document first).target =
      (MigrationPlan.of document second).target := h.key
  simp only [MigrationPlan.lossWarnings, rows_of, List.filter_map, List.map_map, hkey,
    Function.comp_def, row_isNone, h.allows]
  rfl

theorem Interchangeable.migrate (document : Document) :
    (document.migrate first).document = (document.migrate second).document ∧
    (document.migrate first).lost = (document.migrate second).lost ∧
    (document.migrate first).migrated = (document.migrate second).migrated ∧
    List.Forall₂ (SameText first second) (document.migrate first).warnings
      (document.migrate second).warnings := by
  have hdocument := h.migrate_document document
  have hconformance := h.check (document.migrate second).document
  refine ⟨hdocument, ?_, ?_, ?_⟩
  · rw [migrate_lost, migrate_lost, h.allows]
  · change (first.check (document.migrate first).document).isClean =
      (second.check (document.migrate second).document).isClean
    rw [hdocument, Conformance.isClean, Conformance.isClean, hconformance.valid,
      isEmpty_eq_of_forall₂ hconformance.warnings]
  · change List.Forall₂ _ ((MigrationPlan.of document first).lossWarnings ++
        (first.check (document.migrate first).document).messages)
      ((MigrationPlan.of document second).lossWarnings ++
        (second.check (document.migrate second).document).messages)
    rw [hdocument, h.lossWarnings]
    have hlosses : List.Forall₂ (SameText first second)
        (MigrationPlan.of document second).lossWarnings
        (MigrationPlan.of document second).lossWarnings :=
      List.forall₂_same.mpr fun text _ => .same text
    exact List.rel_append hlosses hconformance.messages

end Slots

/-- The same slot under another name: a synonym, or the name with white space around it. -/
inductive Respelled : String → String → Prop
  | same (slot : String) : Respelled slot slot
  | synonym {s t : String} (kind : ComponentKind) (hs : Text.trim s ∈ Slot.synonyms kind)
      (ht : Text.trim t ∈ Slot.synonyms kind) : Respelled s t
  | padded {before after : String} (slot : String) (hbefore : Text.isBlank before = true)
      (hafter : Text.isBlank after = true) : Respelled slot (before ++ slot ++ after)

theorem Respelled.kind?_eq {s t : String} (h : Respelled s t) : Slot.kind? s = Slot.kind? t := by
  cases h with
  | same _ => rfl
  | synonym kind hs ht => rw [(kind?_eq_some_iff s kind).mpr hs, (kind?_eq_some_iff t kind).mpr ht]
  | padded _ hbefore hafter => exact kind?_eq_of_trim_eq (trim_append hbefore hafter s).symm

theorem map_kind?_eq_of_respelled {names respelled : List String}
    (h : List.Forall₂ Respelled names respelled) :
    names.map Slot.kind? = respelled.map Slot.kind? := by
  induction h with
  | nil => rfl
  | cons hslot _ ih => rw [List.map_cons, List.map_cons, hslot.kind?_eq, ih]

/-- Contracts act on documents only through the kinds of their slots. If two have the same key and
capacity and, one by one, slots of the same kinds, then checks, assembly and updates, and migrations
end the same under both, but for the slots that messages quote. In particular this is so if slots
are respelled. -/
theorem same_results_of_interchangeable :
    (∀ first second, Interchangeable first second →
      (∀ document, SameConformance first second (first.check document) (second.check document)) ∧
      (∀ options task, SameResult first second (SameOutcome first second)
        (perform ⟨some first, options⟩ task) (perform ⟨some second, options⟩ task)) ∧
      (∀ document : Document,
        (document.migrate first).document = (document.migrate second).document ∧
        (document.migrate first).lost = (document.migrate second).lost ∧
        (document.migrate first).migrated = (document.migrate second).migrated ∧
        List.Forall₂ (SameText first second) (document.migrate first).warnings
          (document.migrate second).warnings)) ∧
    (∀ (contract : Contract) (required optional : List String),
      List.Forall₂ Respelled contract.slots.required required →
      List.Forall₂ Respelled contract.slots.optional optional →
      Interchangeable contract { contract with slots := ⟨required, optional⟩ }) := by
  constructor
  · intro first second h
    exact ⟨h.check, h.perform, h.migrate⟩
  · intro contract required optional hrequired hoptional
    exact ⟨rfl, rfl, rfl, map_kind?_eq_of_respelled hrequired, map_kind?_eq_of_respelled hoptional⟩

/-- A builtin contract with most of its slots respelled. -/
def respelledProfile : Contract :=
  { Builtin.contract ⟨.profileCard, .first⟩ with
    slots := ⟨[" headline ", "tagline"], ["text", "cta", "image\n"]⟩ }

/-- A profile to be made from text, or from the components that are supplied instead. -/
def ranger (components : List Component) : Task :=
  .assemble
    { family := .profileCard
      variant := .first
      heroImage := { imageId := some "ranger", url := "https://cdn.example/ranger.png",
                     palette := { primary := "#123456" } }
      components := some components
      text := some { title := "Ranger", body := "Walks at dawn" } }

/-- From text the same profile is made under both names of the slots; the check of a list quotes the
name that the contract has. -/
theorem trailGuide_same_results :
    let profile := Builtin.contract ⟨.profileCard, .first⟩
    let assembled (components : List Component) (contract : Contract) :=
      perform ⟨some contract, {}⟩ (ranger components)
    let same := SameResult profile respelledProfile (SameOutcome profile respelledProfile)
    Interchangeable profile respelledProfile ∧
    SameConformance profile respelledProfile (profile.check trailGuide)
      (respelledProfile.check trailGuide) ∧
    same (assembled [] profile) (assembled [] respelledProfile) ∧
    (assembled [] profile).map (fun outcome => outcome.document.components) =
      .ok [.title "Ranger" {}, .subtitle "" {}, .text "Walks at dawn" {},
        .imageAt "https://cdn.example/ranger.png" none] ∧
    same (assembled [.title "Ranger" {}] profile)
      (assembled [.title "Ranger" {}] respelledProfile) ∧
    assembled [.title "Ranger" {}] profile =
      .error (.missingRequiredSlot "subtitle" ⟨.profileCard, .first⟩) ∧
    assembled [.title "Ranger" {}] respelledProfile =
      .error (.missingRequiredSlot "tagline" ⟨.profileCard, .first⟩) ∧
    (trailGuide.migrate profile).document = (trailGuide.migrate respelledProfile).document ∧
    ⟨.missingRequiredSlot, "components", "required slot \"subtitle\" has no component"⟩ ∈
      (profile.check trailGuide).errors ∧
    ⟨.missingRequiredSlot, "components", "required slot \"tagline\" has no component"⟩ ∈
      (respelledProfile.check trailGuide).errors := by
  intro profile assembled same
  obtain ⟨halike, hrespelled⟩ := same_results_of_interchangeable
  have hpadded : Respelled "image" ("" ++ "image" ++ "\n") := .padded "image" rfl rfl
  have hinterchangeable : Interchangeable profile respelledProfile := by
    refine hrespelled profile _ _ ?_ ?_
    · refine .cons (.synonym .title ?_ ?_) (.cons (.synonym .subtitle ?_ ?_) .nil) <;>
        decide +kernel
    · refine .cons (.same "text") (.cons (.synonym .button ?_ ?_) (.cons hpadded .nil)) <;>
        decide +kernel
  obtain ⟨hcheck, hperform, hmigrate⟩ := halike profile respelledProfile hinterchangeable
  refine ⟨hinterchangeable, hcheck trailGuide, hperform {} (ranger []), ?_,
    hperform {} (ranger [.title "Ranger" {}]), ?_, ?_, (hmigrate trailGuide).1, ?_, ?_⟩ <;>
    decide +kernel

end ScreenPattern.Proofs.InterchangeableContracts
