import Mathlib.Data.List.Nodup
import Mathlib.Data.List.TakeWhile
import ScreenPattern.Catalog.Builtin
import ScreenPattern.Contract.Loading

/-!
The slots of a contract that passes the checks. The checks compare a slot with the first slot of its
kind, by trimmed name; so slots of one kind may stand side by side as long as they differ in nothing
but the white space around their names.
-/

namespace ScreenPattern.Proofs.ContractSlots

open Contract

theorem kind?_eq_of_trim_eq {s t : String} (h : Text.trim s = Text.trim t) :
    Slot.kind? s = Slot.kind? t := by
  simp only [Slot.kind?, h]

theorem find?_synonyms (kind : ComponentKind) :
    ∀ name ∈ Slot.synonyms kind,
      Tokens.all.find? (fun kind => (Slot.synonyms kind).contains name) = some kind := by
  cases kind <;> decide +kernel

theorem kind?_eq_some_iff (s : String) (kind : ComponentKind) :
    Slot.kind? s = some kind ↔ Text.trim s ∈ Slot.synonyms kind := by
  constructor
  · intro h
    have hlisted := List.find?_some h
    exact List.contains_iff_mem.mp hlisted
  · intro h
    exact find?_synonyms kind (Text.trim s) h

theorem kind?_of_isBlank {s : String} (h : Text.isBlank s = true) : Slot.kind? s = none := by
  have hdrop : s.toList.dropWhile Text.isBlankChar = [] := by
    rw [List.dropWhile_eq_nil_iff]
    exact List.all_eq_true.mp h
  have htrim : Text.trim s = "" := by
    simp only [Text.trim, Text.stripEnds, hdrop]
    rfl
  simp only [Slot.kind?, htrim]
  decide +kernel

/-- Slot names without ambiguity: no name stands twice, each has a kind, and names of one kind are
the same when trimmed. -/
structure Regular (names : List String) : Prop where
  distinct : names.Nodup
  resolves : ∀ s ∈ names, (Slot.kind? s).isSome
  agrees : ∀ s ∈ names, ∀ t ∈ names, Slot.kind? s = Slot.kind? t → Text.trim s = Text.trim t

theorem regular_nil : Regular [] := by
  constructor <;> simp

theorem Regular.of_append {before after : List String} (h : Regular (before ++ after)) :
    Regular before where
  distinct := (List.nodup_append.mp h.distinct).1
  resolves s hs := h.resolves s (List.mem_append_left after hs)
  agrees s hs t ht := h.agrees s (List.mem_append_left after hs) t (List.mem_append_left after ht)

structure Fits (before : List String) (slot : String) : Prop where
  new : slot ∉ before
  resolves : (Slot.kind? slot).isSome
  agrees : ∀ s ∈ before, Slot.kind? s = Slot.kind? slot → Text.trim s = Text.trim slot

theorem regular_append_singleton_iff (before : List String) (slot : String) :
    Regular (before ++ [slot]) ↔ Regular before ∧ Fits before slot := by
  constructor
  · intro h
    refine ⟨h.of_append, ?_, h.resolves slot (by simp), ?_⟩
    · intro hmem
      exact (List.nodup_append.mp h.distinct).2.2 slot hmem slot (by simp) rfl
    · intro s hs hkind
      exact h.agrees s (by simp [hs]) slot (by simp) hkind
  · rintro ⟨hbefore, hfits⟩
    refine ⟨?_, ?_, ?_⟩
    · refine List.nodup_append.mpr ⟨hbefore.distinct, by simp, ?_⟩
      rintro s hs t ht rfl
      rw [List.mem_singleton] at ht
      exact hfits.new (ht ▸ hs)
    · intro s hs
      rcases List.mem_append.mp hs with hs | hs
      · exact hbefore.resolves s hs
      · exact List.mem_singleton.mp hs ▸ hfits.resolves
    · intro s hs t ht hkind
      simp only [List.mem_append, List.mem_singleton] at hs ht
      rcases hs with hs | rfl
      · rcases ht with ht | rfl
        · exact hbefore.agrees s hs t ht hkind
        · exact hfits.agrees s hs hkind
      · rcases ht with ht | rfl
        · exact (hfits.agrees t ht hkind.symm).symm
        · rfl

/-- Looking at the first slot of a kind is as good as looking at all of them. -/
theorem kindIssues_eq_nil_iff {before : List String} (hbefore : Regular before)
    (path slot : String) :
    kindIssues path before slot = [] ↔
      (Slot.kind? slot).isSome ∧
        ∀ s ∈ before, Slot.kind? s = Slot.kind? slot → Text.trim s = Text.trim slot := by
  unfold kindIssues
  cases hkind : Slot.kind? slot with
  | none => simp
  | some kind =>
      simp only [Option.isSome_some, true_and, firstOfKind?]
      cases hfirst : before.find? (fun s => Slot.kind? s == some kind) with
      | none =>
          simp only [List.find?_eq_none, beq_iff_eq] at hfirst
          simp only [Option.map_none, true_iff]
          intro s hs hsame
          exact absurd hsame (hfirst s hs)
      | some first =>
          have hmem := List.mem_of_find?_eq_some hfirst
          have hsome : Slot.kind? first = some kind := by
            simpa using List.find?_some hfirst
          simp only [Option.map_some, ite_eq_left_iff, reduceCtorEq, imp_false, not_not]
          constructor
          · intro heq s hs hsame
            exact (hbefore.agrees s hs first hmem (hsame.trans hsome.symm)).trans heq
          · intro h
            exact h first hmem hsome

theorem slotIssues_eq_nil_iff {required earlier : List String}
    (hbefore : Regular (required ++ earlier)) (group path slot : String) :
    slotIssues group path required earlier slot = [] ↔ Fits (required ++ earlier) slot := by
  unfold slotIssues
  by_cases hblank : Text.isBlank slot = true
  · rw [if_pos hblank]
    constructor
    · intro h
      cases h
    · intro h
      have hresolves := h.resolves
      rw [kind?_of_isBlank hblank] at hresolves
      cases hresolves
  · rw [if_neg hblank, List.append_eq_nil_iff, List.append_eq_nil_iff,
      kindIssues_eq_nil_iff hbefore]
    simp only [List.contains_iff_mem, ite_eq_right_iff, reduceCtorEq, imp_false]
    constructor
    · rintro ⟨⟨hearlier, hresolves, hagrees⟩, hrequired⟩
      exact ⟨by simp [hearlier, hrequired], hresolves, hagrees⟩
    · intro h
      have hnew := h.new
      rw [List.mem_append, not_or] at hnew
      exact ⟨⟨hnew.2, h.resolves, h.agrees⟩, hnew.1⟩

/-- Slot by slot, from the first slot after `earlier` on. -/
theorem flatMap_slotIssues_eq_nil_iff {required earlier : List String}
    (hbefore : Regular (required ++ earlier)) (group : String) (names : List String) :
    ((names.zipIdx earlier.length).flatMap fun e =>
        slotIssues group (Path.index ("componentSlots." ++ group) e.2) required
          ((earlier ++ names).take e.2) e.1) = [] ↔
      Regular (required ++ (earlier ++ names)) := by
  induction names generalizing earlier with
  | nil => simpa using hbefore
  | cons slot rest ih =>
      simp only [List.zipIdx_cons, List.flatMap_cons, List.append_eq_nil_iff, List.take_left,
        slotIssues_eq_nil_iff hbefore]
      -- The rest starts after `earlier ++ [slot]`, which is regular only if the slot fits.
      have hsplit := regular_append_singleton_iff (required ++ earlier) slot
      rw [List.append_assoc] at hsplit
      have hrest (h : Regular (required ++ (earlier ++ [slot]))) := ih h
      simp only [List.length_append, List.length_singleton, List.append_assoc,
        List.singleton_append] at hrest
      constructor
      · rintro ⟨hfits, hnone⟩
        exact (hrest (hsplit.mpr ⟨hbefore, hfits⟩)).mp hnone
      · intro h
        have hall : Regular ((required ++ (earlier ++ [slot])) ++ rest) := by simpa using h
        have hslot := hall.of_append
        exact ⟨(hsplit.mp hslot).2, (hrest hslot).mpr h⟩

theorem groupIssues_eq_nil_iff {required : List String} (hrequired : Regular required)
    (group : String) (names : List String) :
    groupIssues group required names = [] ↔ Regular (required ++ names) := by
  have hstart : Regular (required ++ []) := by rwa [List.append_nil]
  exact flatMap_slotIssues_eq_nil_iff hstart group names

/-- The optional slots are checked behind the required ones, so one list of regular slots comes out
of both groups. -/
theorem groupIssues_both_eq_nil_iff (slots : Slots) :
    groupIssues "required" [] slots.required = [] ∧
        groupIssues "optional" slots.required slots.optional = [] ↔
      Regular slots.all := by
  have hrequired := groupIssues_eq_nil_iff regular_nil "required" slots.required
  rw [List.nil_append] at hrequired
  constructor
  · rintro ⟨hfirst, hsecond⟩
    exact (groupIssues_eq_nil_iff (hrequired.mp hfirst) _ _).mp hsecond
  · intro h
    have hfirst : Regular slots.required := h.of_append
    exact ⟨hrequired.mpr hfirst, (groupIssues_eq_nil_iff hfirst _ _).mpr h⟩

theorem load_eq_ok_iff (literal : Json) (contract : Contract) :
    Contract.load literal = .ok contract ↔
      Shape.issues literal = [] ∧ ofJson? literal = some contract ∧
        contract.invariantIssues = [] := by
  constructor
  · intro h
    unfold Contract.load at h
    split at h
    · rename_i hshape
      split at h
      · cases h
      · rename_i typed hread
        split at h
        · rename_i hinvariants
          cases h
          exact ⟨hshape, hread, hinvariants⟩
        · cases h
    · cases h
  · rintro ⟨hshape, hread, hinvariants⟩
    simp [Contract.load, hshape, hread, hinvariants]

theorem regular_of_invariantIssues {contract : Contract}
    (hinvariants : contract.invariantIssues = []) : Regular contract.slots.all := by
  simp only [invariantIssues, List.append_eq_nil_iff, groupIssues_both_eq_nil_iff] at hinvariants
  obtain ⟨⟨⟨⟨⟨⟨hregular, _⟩, _⟩, _⟩, _⟩, _⟩, _⟩ := hinvariants
  exact hregular

theorem regular_of_load {literal : Json} {contract : Contract}
    (hload : Contract.load literal = .ok contract) : Regular contract.slots.all := by
  obtain ⟨_, _, hinvariants⟩ := (load_eq_ok_iff literal contract).mp hload
  exact regular_of_invariantIssues hinvariants

theorem Regular.kind?_eq_iff {names : List String} (h : Regular names) {s t : String}
    (hs : s ∈ names) (ht : t ∈ names) :
    Slot.kind? s = Slot.kind? t ↔ Text.trim s = Text.trim t :=
  ⟨h.agrees s hs t ht, kind?_eq_of_trim_eq⟩

theorem Regular.nodup_kinds_iff {names : List String} (h : Regular names) :
    (names.map Slot.kind?).Nodup ↔ (names.map Text.trim).Nodup := by
  unfold List.Nodup
  rw [List.pairwise_map, List.pairwise_map]
  exact List.Pairwise.iff_of_mem fun hs ht => not_congr (h.kind?_eq_iff hs ht)

/-- Looking a kind up finds the slot that has it, for every slot, exactly if no two names are the
same when trimmed. -/
theorem slotFor?_kind_iff {slots : Slots} (h : Regular slots.all) :
    (∀ s ∈ slots.all, ∀ kind, Slot.kind? s = some kind → slots.slotFor? kind = some s) ↔
      (slots.all.map Text.trim).Nodup := by
  constructor
  · intro hfound
    unfold List.Nodup
    rw [List.pairwise_map]
    refine List.Pairwise.imp_of_mem ?_ h.distinct
    intro s t hs ht hne htrim
    obtain ⟨kind, hkind⟩ := Option.isSome_iff_exists.mp (h.resolves s hs)
    have hsame : Slot.kind? t = some kind := (kind?_eq_of_trim_eq htrim).symm.trans hkind
    exact hne (Option.some.inj ((hfound s hs kind hkind).symm.trans (hfound t ht kind hsame)))
  · intro hnodup s hs kind hkind
    cases hfirst : slots.slotFor? kind with
    | none =>
        have habsent := List.find?_eq_none.mp hfirst s hs
        simp [hkind] at habsent
    | some first =>
        have hmem := List.mem_of_find?_eq_some hfirst
        have hsome : Slot.kind? first = some kind := by simpa using List.find?_some hfirst
        have htrim := (h.kind?_eq_iff hmem hs).mp (hsome.trans hkind.symm)
        rw [List.inj_on_of_nodup_map hnodup hmem hs htrim]

/-- The slots of a loaded contract are different names that all have a kind, and two of them have
the same kind exactly if they are the same when trimmed. So the slots have different kinds, and each
is what its kind is looked up to, exactly if no two of them differ only in white space at the ends;
and required and optional slots share a kind exactly if they share a trimmed name. -/
theorem load_kinds_nodup_iff {literal : Json} {contract : Contract}
    (hload : Contract.load literal = .ok contract) :
    contract.slots.all.Nodup ∧
    (∀ s ∈ contract.slots.all, (Slot.kind? s).isSome) ∧
    (∀ s ∈ contract.slots.all, ∀ t ∈ contract.slots.all,
      Slot.kind? s = Slot.kind? t ↔ Text.trim s = Text.trim t) ∧
    ((contract.slots.all.map Slot.kind?).Nodup ↔ (contract.slots.all.map Text.trim).Nodup) ∧
    ((∀ s ∈ contract.slots.all, ∀ kind, Slot.kind? s = some kind →
      contract.slots.slotFor? kind = some s) ↔ (contract.slots.all.map Text.trim).Nodup) ∧
    ((∀ s ∈ contract.slots.required, ∀ t ∈ contract.slots.optional,
      Slot.kind? s ≠ Slot.kind? t) ↔
      ∀ s ∈ contract.slots.required, ∀ t ∈ contract.slots.optional,
        Text.trim s ≠ Text.trim t) := by
  have hregular := regular_of_load hload
  refine ⟨hregular.distinct, hregular.resolves, ?_, hregular.nodup_kinds_iff,
    slotFor?_kind_iff hregular, ?_⟩
  · intro s hs t ht
    exact hregular.kind?_eq_iff hs ht
  · have hiff : ∀ s ∈ contract.slots.required, ∀ t ∈ contract.slots.optional,
        (Slot.kind? s ≠ Slot.kind? t ↔ Text.trim s ≠ Text.trim t) := fun s hs t ht =>
      not_congr (hregular.kind?_eq_iff (List.mem_append_left _ hs) (List.mem_append_right _ ht))
    constructor
    · intro h s hs t ht
      exact (hiff s hs t ht).mp (h s hs t ht)
    · intro h s hs t ht
      exact (hiff s hs t ht).mpr (h s hs t ht)

/-- A builtin contract with its title slot declared again, followed by a space. -/
def paddedTitle : Contract :=
  { Builtin.contract ⟨.splashFullscreen, .first⟩ with slots := ⟨["title"], ["title ", "subtitle"]⟩ }

theorem load_paddedTitle_kinds_nodup_iff :
    Contract.load paddedTitle.toJson = .ok paddedTitle ∧
    ((paddedTitle.slots.all.map Slot.kind?).Nodup ↔
      (paddedTitle.slots.all.map Text.trim).Nodup) := by
  have hload : Contract.load paddedTitle.toJson = .ok paddedTitle :=
    (load_eq_ok_iff _ _).mpr (by decide +kernel)
  exact ⟨hload, (load_kinds_nodup_iff hload).2.2.2.1⟩

/-- Two slots of one kind can pass the checks. -/
theorem load_paddedTitle_not_nodup :
    Contract.load paddedTitle.toJson = .ok paddedTitle ∧
    ¬ (paddedTitle.slots.all.map Slot.kind?).Nodup ∧
    Slot.kind? "title " = some .title ∧ paddedTitle.slots.slotFor? .title = some "title" := by
  refine ⟨(load_eq_ok_iff _ _).mpr ?_, ?_⟩ <;> decide +kernel

end ScreenPattern.Proofs.ContractSlots
