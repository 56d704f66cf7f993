import ScreenPattern.Proofs.ContractReading
import ScreenPattern.Proofs.ContractSlots
import ScreenPattern.Proofs.ListedEntries
import ScreenPattern.Proofs.OverlaidSources

namespace ScreenPattern.Proofs.IndexedCatalogs

open CatalogOrder ContractReading ContractSlots FieldReading ListedEntries OverlaidSources
open ValueReading
open Fields (get?)
open RegistryCache (get_answer sound_fresh)

/-- Everything that can be put together from the builtin catalog and documents. -/
inductive Assembled : CatalogSource → Prop
  | builtin : Assembled Builtin.source
  | listed {name : String} {document : Json} {catalog : ListedCatalog}
      (hread : ListedCatalog.ofJson name document = .ok catalog) : Assembled catalog.source
  | overlay {primary fallback : CatalogSource} (hprimary : Assembled primary)
      (hfallback : Assembled fallback) : Assembled (primary.overlay fallback)

/-- A source that lists exactly the keys at which it has a literal, and has literals nowhere but
under the keys that they declare. -/
structure Indexed (source : CatalogSource) : Prop where
  ordered : source.keys.Pairwise (· < ·)
  listed : ∀ key ∈ source.keys, ∃ literal, source.entry key = .ok (some literal)
  unlisted : ∀ key, key ∉ source.keys → source.entry key = .ok none
  declared : ∀ key literal contract, source.entry key = .ok (some literal) →
    Contract.load literal = .ok contract → contract.key = key

theorem required_of_ofJson? {fields : Fields Json} {contract : Contract}
    (h : Contract.ofJson? (.obj fields) = some contract) :
    fields.required "family" Tokens.ofJson? = some contract.family ∧
      fields.required "variant" Variant.ofJson? = some contract.variant := by
  simp only [Contract.ofJson?, Json.record?, Option.bind_eq_bind, Option.bind_some,
    Option.bind_eq_some_iff] at h
  obtain ⟨family, hfamily, variant, hvariant, _, _, _, _, _, _, _, _, _, _, _, _, _, _, h⟩ := h
  cases h
  exact ⟨hfamily, hvariant⟩

/-- A row is filed under its trimmed family, but is read only if there was nothing to trim. -/
theorem key_eq_of_rowKey {row : Json} {key : ContractKey} {contract : Contract}
    (hrow : ListedCatalog.rowKey row = .ok key) (hread : Contract.ofJson? row = some contract) :
    contract.key = key := by
  obtain ⟨⟨text, htext, hparse⟩, hnumber⟩ := (rowKey_eq_ok_iff row key).mp hrow
  cases row with
  | obj fields =>
      obtain ⟨hfamily, hvariant⟩ := required_of_ofJson? hread
      have hfamily : contract.family = key.family := by
        obtain ⟨j, hget, hj⟩ := (required_eq_some_iff _ _ _ _).mp hfamily
        cases htext.symm.trans hget
        rw [eq_token_of_ofToken? hj, parse_token] at hparse
        exact Except.ok.inj hparse
      have hvariant : contract.variant = key.variant := by
        obtain ⟨j, hget, hj⟩ := (required_eq_some_iff _ _ _ _).mp hvariant
        obtain ⟨other, hother, hn⟩ := Option.bind_eq_some_iff.mp hnumber
        cases hget.symm.trans hother
        rw [Variant.ofJson?, hn, Option.bind_some, Variant.ofNat?_number] at hj
        exact (Option.some.inj hj).symm
      rw [Contract.key, hfamily, hvariant]
  | _ => cases htext

theorem indexed_builtin : Indexed Builtin.source where
  ordered := pairwise_lt_all
  listed key _ := ⟨_, rfl⟩
  unlisted key habsent := absurd (mem_all key) habsent
  declared key literal contract hentry hload := by
    cases hentry
    obtain ⟨_, hread, _⟩ := (load_eq_ok_iff _ contract).mp hload
    rw [reads_contract.read_encode] at hread
    cases hread
    rfl

theorem indexed_listed {catalog : ListedCatalog} (hfiled : Filed catalog.entries) :
    Indexed catalog.source where
  ordered := hfiled.ordered
  listed key hkey := by
    obtain ⟨row, hrow⟩ := Option.isSome_iff_exists.mp (isSome_find?_iff.mpr hkey)
    exact ⟨row, congrArg Except.ok hrow⟩
  unlisted key habsent := by
    have hnone : ¬ (ListedCatalog.find? key catalog.entries).isSome = true :=
      mt isSome_find?_iff.mp habsent
    rw [Option.not_isSome_iff_eq_none] at hnone
    exact congrArg Except.ok hnone
  declared key literal contract hentry hload := by
    have hmem := mem_of_find? (Except.ok.inj hentry)
    obtain ⟨_, hread, _⟩ := (load_eq_ok_iff literal contract).mp hload
    exact key_eq_of_rowKey (hfiled.keyed _ hmem) hread

section Sources

variable {source primary fallback : CatalogSource}

theorem Indexed.entry_eq_none_iff (h : Indexed source) (key : ContractKey) :
    source.entry key = .ok none ↔ key ∉ source.keys := by
  refine ⟨fun hnone hkey => ?_, h.unlisted key⟩
  obtain ⟨literal, hentry⟩ := h.listed key hkey
  cases hnone.symm.trans hentry

theorem indexed_overlay (hprimary : Indexed primary) (hfallback : Indexed fallback) :
    Indexed (primary.overlay fallback) where
  ordered := pairwise_lt_ascending _
  listed key hkey := by
    by_cases hsilent : primary.entry key = .ok none
    · rw [entry_overlay_of_eq hsilent]
      have habsent := (hprimary.entry_eq_none_iff key).mp hsilent
      exact hfallback.listed key ((mem_keys_overlay.mp hkey).resolve_left habsent)
    · rw [entry_overlay_of_ne hsilent]
      exact hprimary.listed key (not_not.mp (mt (hprimary.unlisted key) hsilent))
  unlisted key habsent := by
    rw [mem_keys_overlay, not_or] at habsent
    rw [entry_overlay_of_eq (hprimary.unlisted key habsent.1)]
    exact hfallback.unlisted key habsent.2
  declared key literal contract hentry := by
    by_cases hsilent : primary.entry key = .ok none
    · rw [entry_overlay_of_eq hsilent] at hentry
      exact hfallback.declared key literal contract hentry
    · rw [entry_overlay_of_ne hsilent] at hentry
      exact hprimary.declared key literal contract hentry

theorem indexed_of_assembled (h : Assembled source) : Indexed source := by
  induction h with
  | builtin => exact indexed_builtin
  | listed hread => exact indexed_listed (filed_ofJson hread)
  | overlay _ _ hprimary hfallback => exact indexed_overlay hprimary hfallback

theorem Indexed.mem_keys_iff (h : Indexed source) (key : ContractKey) :
    key ∈ source.keys ↔ ∃ literal, source.entry key = .ok (some literal) := by
  refine ⟨h.listed key, ?_⟩
  rintro ⟨literal, hentry⟩
  by_contra habsent
  cases hentry.symm.trans (h.unlisted key habsent)

/-- What loading from an indexed source comes to: nothing is there, or what is there decides. -/
theorem Indexed.load_cases (h : Indexed source) (key : ContractKey) :
    (key ∉ source.keys ∧ source.load key = .error (.contractNotFound key)) ∨
    (∃ literal contract, source.entry key = .ok (some literal) ∧
      Contract.load literal = .ok contract ∧ contract.key = key ∧
      source.load key = .ok contract) ∨
    (∃ literal issues, source.entry key = .ok (some literal) ∧
      Contract.load literal = .error issues ∧
      source.load key = .error (.contractInvalid key issues)) := by
  by_cases hkey : key ∈ source.keys
  · obtain ⟨literal, hentry⟩ := h.listed key hkey
    cases hload : Contract.load literal with
    | ok contract =>
        have hdeclared := h.declared key literal contract hentry hload
        refine .inr (.inl ⟨literal, contract, hentry, hload, hdeclared, ?_⟩)
        simp [CatalogSource.load, hentry, hload, hdeclared]
    | error issues =>
        refine .inr (.inr ⟨literal, issues, hentry, hload, ?_⟩)
        simp [CatalogSource.load, hentry, hload]
  · refine .inl ⟨hkey, ?_⟩
    simp [CatalogSource.load, h.unlisted key hkey]

theorem Indexed.load_eq_notFound_iff (h : Indexed source) (key named : ContractKey) :
    source.load key = .error (.contractNotFound named) ↔ named = key ∧ key ∉ source.keys := by
  obtain ⟨habsent, hload⟩ | ⟨literal, _, hentry, _, _, hload⟩ | ⟨literal, _, hentry, _, hload⟩ :=
    h.load_cases key
  · simp [hload, habsent, eq_comm]
  · have hkey : key ∈ source.keys := (h.mem_keys_iff key).mpr ⟨literal, hentry⟩
    simp [hload, hkey]
  · have hkey : key ∈ source.keys := (h.mem_keys_iff key).mpr ⟨literal, hentry⟩
    simp [hload, hkey]

theorem Indexed.load_eq_ok_iff (h : Indexed source) (key : ContractKey) (contract : Contract) :
    source.load key = .ok contract ↔ ∃ literal, source.entry key = .ok (some literal) ∧
      Contract.load literal = .ok contract := by
  rw [RegistryCache.load_eq_ok_iff]
  constructor
  · rintro ⟨literal, hentry, hread, _⟩
    exact ⟨literal, hentry, hread⟩
  · rintro ⟨literal, hentry, hread⟩
    exact ⟨literal, hentry, hread, h.declared key literal contract hentry hread⟩

theorem Indexed.load_eq_invalid_iff (h : Indexed source) (key named : ContractKey)
    (issues : List Issue) :
    source.load key = .error (.contractInvalid named issues) ↔ named = key ∧
      ∃ literal, source.entry key = .ok (some literal) ∧ Contract.load literal = .error issues := by
  obtain ⟨habsent, hload⟩ | ⟨literal, _, hentry, hread, _, hload⟩ |
    ⟨literal, _, hentry, hread, hload⟩ := h.load_cases key
  · simp [hload, h.unlisted key habsent]
  · simp [hload, hentry, hread]
  · simp [hload, hentry, hread, eq_comm]

theorem Indexed.entry_ne_error (h : Indexed source) (key : ContractKey) (error : CatalogError) :
    source.entry key ≠ .error error := by
  intro hentry
  by_cases hkey : key ∈ source.keys
  · obtain ⟨literal, hliteral⟩ := h.listed key hkey
    cases hentry.symm.trans hliteral
  · cases hentry.symm.trans (h.unlisted key hkey)

theorem Indexed.load_ne_catalog (h : Indexed source) (key : ContractKey) (error : CatalogError) :
    source.load key ≠ .error (.catalog error) := by
  obtain ⟨_, hload⟩ | ⟨_, _, _, _, _, hload⟩ | ⟨_, _, _, _, hload⟩ := h.load_cases key
  · simp [hload]
  · simp [hload]
  · simp [hload]

end Sources

/-- A catalog that is put together from the builtin one and from documents lists, in order, the keys
at which it has a literal. A fresh registry over it finds nothing at the other keys, and at a listed
key gives what the literal loads to, a contract of that key or the issues of the literal. It never
meets a literal of another key, nor an error of the catalog. -/
theorem get_of_assembled {source : CatalogSource} (h : Assembled source) (key : ContractKey) :
    let answer := (Registry.get { source } key).1
    source.keys.Pairwise (· < ·) ∧
    (key ∈ source.keys ↔ ∃ literal, source.entry key = .ok (some literal)) ∧
    (∀ named, answer = .error (.contractNotFound named) ↔ named = key ∧ key ∉ source.keys) ∧
    (∀ contract, answer = .ok contract ↔ ∃ literal, source.entry key = .ok (some literal) ∧
      Contract.load literal = .ok contract) ∧
    (∀ contract, answer = .ok contract → contract.key = key) ∧
    (∀ named issues, answer = .error (.contractInvalid named issues) ↔ named = key ∧
      ∃ literal, source.entry key = .ok (some literal) ∧ Contract.load literal = .error issues) ∧
    (∀ literal contract, source.entry key = .ok (some literal) →
      Contract.load literal = .ok contract → contract.key = key) ∧
    (∀ error, source.entry key ≠ .error error) ∧
    (∀ error, answer ≠ .error (.catalog error)) := by
  intro answer
  have hanswer : answer = source.load key := get_answer (sound_fresh source) key
  have hindexed := indexed_of_assembled h
  rw [hanswer]
  refine ⟨hindexed.ordered, hindexed.mem_keys_iff key, hindexed.load_eq_notFound_iff key,
    hindexed.load_eq_ok_iff key, ?_, hindexed.load_eq_invalid_iff key, hindexed.declared key,
    hindexed.entry_ne_error key, hindexed.load_ne_catalog key⟩
  intro contract hload
  obtain ⟨literal, hentry, hread⟩ := (hindexed.load_eq_ok_iff key contract).mp hload
  exact hindexed.declared key literal contract hentry hread

/-- The builtin profile card, with a space in front of its family. -/
def paddedProfile : Json :=
  .obj (Fields.set "family" (.str " PROFILE_CARD")
    ((Builtin.contract ⟨.profileCard, .first⟩).toJson.asObj?.getD []))

def padded : ListedCatalog :=
  ⟨"padded", [(⟨.profileCard, .first⟩, paddedProfile)]⟩

def paddedDocument : Json :=
  .obj [("catalogKind", .str "screenflow.pattern_catalog.v1"), ("contracts", .arr [paddedProfile])]

/-- The row is found at its key, where it hides the builtin contract, but it does not load. -/
theorem padded_get_of_assembled :
    let source := padded.source.overlay Builtin.source
    Assembled source ∧
    (Registry.get { source } ⟨.profileCard, .first⟩).1 =
      .error (.contractInvalid ⟨.profileCard, .first⟩ [Contract.unreadable]) ∧
    (Registry.get { source } ⟨.splashFullscreen, .first⟩).1 =
      .ok (Builtin.contract ⟨.splashFullscreen, .first⟩) := by
  intro source
  have hread : ListedCatalog.ofJson "padded" paddedDocument = .ok padded := by rfl
  have h : Assembled source := .overlay (.listed hread) .builtin
  have hpadded : Contract.load paddedProfile = .error [Contract.unreadable] := by decide +kernel
  have hsplash : Contract.load (Builtin.contract ⟨.splashFullscreen, .first⟩).toJson =
      .ok (Builtin.contract ⟨.splashFullscreen, .first⟩) := by decide +kernel
  obtain ⟨_, _, _, _, _, hinvalid, _⟩ := get_of_assembled h ⟨.profileCard, .first⟩
  obtain ⟨_, _, _, hok, _⟩ := get_of_assembled h ⟨.splashFullscreen, .first⟩
  exact ⟨h, (hinvalid _ _).mpr ⟨rfl, paddedProfile, rfl, hpadded⟩,
    (hok _).mpr ⟨_, rfl, hsplash⟩⟩

end ScreenPattern.Proofs.IndexedCatalogs
