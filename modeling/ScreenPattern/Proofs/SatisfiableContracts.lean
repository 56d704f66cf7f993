import ScreenPattern.Proofs.ContractAcceptance
import ScreenPattern.Proofs.ContractConformance
import ScreenPattern.Proofs.EssentialFields

namespace ScreenPattern.Proofs.SatisfiableContracts

open ComponentReading ContractAcceptance ContractConformance ContractSlots DocumentAcceptance
  EssentialFields ReportAcceptance

variable {contract : Contract} {document : Document}

/-- Some slot of the contract is for the kind. -/
def Declares (contract : Contract) (kind : ComponentKind) : Prop :=
  ∃ slot ∈ contract.slots.all, Slot.kind? slot = some kind

/-- A document under the contract's key with one component of every kind that the contract declares,
with a hero image that can be shown, and with no other image and no navigation. -/
structure FilledOnce (contract : Contract) (document : Document) : Prop where
  key : document.key = contract.key
  hero : ∃ image, document.heroImage = some image ∧ WellFormedImage image
  colors : ∀ color ∈ document.palette.colors, isHexColor color = true
  supporting : document.supportingImages = []
  navigation : document.navigation = none
  single : document.kinds.Nodup
  declared : ∀ kind, kind ∈ document.kinds ↔ Declares contract kind
  apart : ∀ c ∈ document.components, Apart c

theorem exists_declared (hregular : Regular contract.slots.all) (hslots : contract.slots.all ≠ []) :
    ∃ kind, Declares contract kind := by
  obtain ⟨slot, hslot⟩ := List.exists_mem_of_ne_nil _ hslots
  obtain ⟨kind, hkind⟩ := Option.isSome_iff_exists.mp (hregular.resolves slot hslot)
  exact ⟨kind, slot, hslot, hkind⟩

theorem FilledOnce.wellFormed (h : FilledOnce contract document)
    (hregular : Regular contract.slots.all) (hslots : contract.slots.all ≠ []) :
    WellFormed document := by
  refine ⟨h.hero, by simp [h.supporting], h.colors, ?_, by simp [h.navigation]⟩
  obtain ⟨kind, hkind⟩ := exists_declared hregular hslots
  have hmem : kind ∈ document.components.map Component.kind := (h.declared kind).mpr hkind
  rintro hnone
  simp [hnone] at hmem

theorem FilledOnce.conforms (h : FilledOnce contract document)
    (hregular : Regular contract.slots.all) : Conforms contract document := by
  obtain ⟨hfamily, hvariant⟩ := ContractKey.mk.inj h.key
  obtain ⟨image, hhero, _⟩ := h.hero
  refine ⟨hfamily, hvariant, ?_, ?_, by simp [hhero], by simp [h.supporting]⟩
  · intro slot hslot
    have hall : slot ∈ contract.slots.all := List.mem_append_left _ hslot
    obtain ⟨kind, hkind⟩ := Option.isSome_iff_exists.mp (hregular.resolves slot hall)
    exact (isFilled_kind?_iff _ slot).mpr ⟨kind, hkind, (h.declared kind).mpr ⟨slot, hall, hkind⟩⟩
  · intro c hc
    exact (allows_iff _ _).mpr ((h.declared c.kind).mp (List.mem_map_of_mem hc))

theorem FilledOnce.warnings (h : FilledOnce contract document) :
    (contract.check document).warnings = [] := by
  refine (repetitionWarnings_eq_nil_iff_count _ _).mpr fun kind _ => ?_
  exact List.nodup_iff_count_le_one.mp h.single kind

theorem clean_of_filledOnce (hregular : Regular contract.slots.all)
    (hslots : contract.slots.all ≠ []) (h : FilledOnce contract document) :
    document.report.isAccepted = true ∧ (contract.check document).valid = true ∧
      (contract.check document).warnings = [] :=
  ⟨(isAccepted_report_iff h.apart).mpr (h.wellFormed hregular hslots),
    (valid_check_iff _ _).mpr (h.conforms hregular), h.warnings⟩

/-- The kinds that the contract declares, in the order of the vocabulary. -/
def declaredKinds (contract : Contract) : List ComponentKind :=
  Tokens.all.filter contract.slots.allows

theorem mem_declaredKinds_iff (kind : ComponentKind) :
    kind ∈ declaredKinds contract ↔ Declares contract kind := by
  have hlisted : kind ∈ Tokens.all (α := ComponentKind) := by cases kind <;> decide
  rw [declaredKinds, List.mem_filter, allows_iff]
  exact and_iff_right hlisted

theorem nodup_declaredKinds : (declaredKinds contract).Nodup := by
  have hall : (Tokens.all (α := ComponentKind)).Nodup := by decide
  exact hall.filter _

/-- The plainest screen of a contract: components without content, and no color but black and
white. -/
def plainScreen (contract : Contract) : Document where
  heroImage := some { id := "hero", url := "hero.png" }
  supportingImages := []
  palette := ⟨"#000", "#000", "#000", "#FFF"⟩
  vibe := .default
  family := contract.family
  variant := contract.variant
  components := (declaredKinds contract).map fun kind => .plain kind ""
  navigation := none
  animations := []
  metadata := []

theorem kinds_plainScreen : (plainScreen contract).kinds = declaredKinds contract := by
  simp [Document.kinds, plainScreen, Function.comp_def]

theorem filledOnce_plainScreen (contract : Contract) :
    FilledOnce contract (plainScreen contract) := by
  have hcolors : ∀ color ∈ ["#000", "#000", "#000", "#FFF"], isHexColor color = true := by decide
  refine ⟨rfl, ⟨_, rfl, by decide, by decide, nofun⟩, hcolors, rfl, rfl, ?_, ?_, ?_⟩
  · rw [kinds_plainScreen]
    exact nodup_declaredKinds
  · intro kind
    rw [kinds_plainScreen]
    exact mem_declaredKinds_iff kind
  · intro c hc
    obtain ⟨kind, _, rfl⟩ := List.mem_map.mp hc
    exact apart_plain kind ""

theorem slots_ne_nil_of_conforming (haccepted : document.report.isAccepted = true)
    (hvalid : (contract.check document).valid = true) : contract.slots.all ≠ [] := by
  obtain ⟨hwell, _⟩ := (isAccepted_report_iff_wellFormed_and_read document).mp haccepted
  obtain ⟨c, hc⟩ := List.exists_mem_of_ne_nil _ hwell.components
  have hallowed := ((valid_check_iff _ _).mp hvalid).allowed c hc
  obtain ⟨slot, hslot, _⟩ := (allows_iff _ _).mp hallowed
  exact List.ne_nil_of_mem hslot

/-- Some document passes the schema and satisfies an accepted contract exactly if the contract has a
slot; and then every document does, and without a warning, that has one component of each declared
kind and nothing wrong with its hero image and its colors. -/
theorem exists_conforming_iff_and_clean (haccepted : contract.report.isAccepted = true) :
    ((∃ document : Document, document.report.isAccepted = true ∧
        (contract.check document).valid = true) ↔ contract.slots.all ≠ []) ∧
    (contract.slots.all ≠ [] → ∀ document, FilledOnce contract document →
      document.report.isAccepted = true ∧ (contract.check document).valid = true ∧
        (contract.check document).warnings = []) := by
  have hmade := (invariantIssues_eq_nil_iff contract).mp ((isAccepted_ofIssues_iff _).mp haccepted)
  have hclean : contract.slots.all ≠ [] → ∀ document, FilledOnce contract document →
      document.report.isAccepted = true ∧ (contract.check document).valid = true ∧
        (contract.check document).warnings = [] :=
    fun hslots _ hfilled => clean_of_filledOnce hmade.slots hslots hfilled
  refine ⟨⟨?_, fun hslots => ?_⟩, hclean⟩
  · rintro ⟨document, hreport, hvalid⟩
    exact slots_ne_nil_of_conforming hreport hvalid
  · obtain ⟨hreport, hvalid, _⟩ := hclean hslots _ (filledOnce_plainScreen contract)
    exact ⟨_, hreport, hvalid⟩

/-- A screen for a contract whose title slot is declared twice, with the title below the subtitle.
-/
def paddedScreen : Document :=
  { plainScreen paddedTitle with
    vibe := .retro
    components := [.subtitle "Six lakes in a day" { extra := [("level", .int 2)] },
      .title "Trail guide" { align := some .center }]
    metadata := [("author", .str "ranger")] }

theorem paddedScreen_clean :
    paddedTitle.report.isAccepted = true ∧ paddedTitle.slots.all ≠ [] ∧
    FilledOnce paddedTitle paddedScreen ∧ paddedScreen.report.isAccepted = true ∧
    (paddedTitle.check paddedScreen).valid = true ∧
    (paddedTitle.check paddedScreen).warnings = [] := by
  have haccepted : paddedTitle.report.isAccepted = true :=
    (isAccepted_ofIssues_iff _).mpr (by decide +kernel)
  have hslots : paddedTitle.slots.all ≠ [] := by decide
  have hplain := filledOnce_plainScreen paddedTitle
  have hfilled : FilledOnce paddedTitle paddedScreen := by
    refine ⟨rfl, hplain.hero, hplain.colors, rfl, rfl, by decide, fun kind => ?_, by decide⟩
    rw [← hplain.declared]
    cases kind <;> decide +kernel
  obtain ⟨_, hclean⟩ := exists_conforming_iff_and_clean haccepted
  exact ⟨haccepted, hslots, hfilled, hclean hslots _ hfilled⟩

end ScreenPattern.Proofs.SatisfiableContracts
