import ScreenPattern.Registry

namespace ScreenPattern.Proofs.RegistryCache

/-- The literal that a source has at a key loads to the contract, which declares that key. -/
def Vouches (source : CatalogSource) (key : ContractKey) (contract : Contract) : Prop :=
  ∃ literal, source.entry key = .ok (some literal) ∧ Contract.load literal = .ok contract ∧
    contract.key = key

theorem load_eq_ok_iff (source : CatalogSource) (key : ContractKey) (contract : Contract) :
    source.load key = .ok contract ↔ Vouches source key contract := by
  constructor
  · intro h
    unfold CatalogSource.load at h
    split at h
    · cases h
    · cases h
    · rename_i literal hentry
      split at h
      · cases h
      · rename_i loaded hload
        split at h
        · rename_i hkey
          cases h
          exact ⟨literal, hentry, hload, hkey⟩
        · cases h
  · rintro ⟨literal, hentry, hload, hkey⟩
    simp [CatalogSource.load, hentry, hload, hkey]

/-- No key is cached twice, and the source vouches for every cached pair. -/
structure Sound (registry : Registry) : Prop where
  distinct : (registry.cache.map (·.1)).Nodup
  vouched : ∀ entry ∈ registry.cache, Vouches registry.source entry.1 entry.2

theorem sound_fresh (source : CatalogSource) : Sound { source } := by
  constructor <;> simp

theorem cached?_eq_none_iff (registry : Registry) (key : ContractKey) :
    registry.cached? key = none ↔ key ∉ registry.cache.map (·.1) := by
  simp only [Registry.cached?, Option.map_eq_none_iff, List.find?_eq_none, List.mem_map, beq_iff_eq]
  constructor
  · rintro habsent ⟨entry, hentry, hkey⟩
    exact habsent entry hentry hkey
  · intro habsent entry hentry hkey
    exact habsent ⟨entry, hentry, hkey⟩

theorem cached?_eq_some_iff {registry : Registry} (hsound : Sound registry) (key : ContractKey)
    (contract : Contract) :
    registry.cached? key = some contract ↔ (key, contract) ∈ registry.cache := by
  have hdistinct := hsound.distinct
  unfold Registry.cached?
  generalize registry.cache = cache at hdistinct
  induction cache with
  | nil => simp
  | cons entry rest ih =>
      obtain ⟨hnew, hrest⟩ := List.nodup_cons.mp hdistinct
      by_cases hkey : entry.1 = key
      · subst hkey
        have habsent : (entry.1, contract) ∉ rest := fun hmem =>
          hnew (List.mem_map.mpr ⟨_, hmem, rfl⟩)
        simp [Prod.ext_iff, habsent, eq_comm]
      · have hother : (key, contract) ≠ entry := by
          rintro rfl
          exact hkey rfl
        simpa [List.find?_cons, hkey, hother] using ih hrest

theorem vouches_of_cached {registry : Registry} (hsound : Sound registry) {key : ContractKey}
    {contract : Contract} (hcached : registry.cached? key = some contract) :
    Vouches registry.source key contract :=
  hsound.vouched (key, contract) ((cached?_eq_some_iff hsound key contract).mp hcached)

/-- What every operation does to a registry: the source stays, and pairs are put on top of the
cache without harm to it. -/
structure Grows (before after : Registry) : Prop where
  source_eq : after.source = before.source
  suffix : before.cache <:+ after.cache
  sound : Sound before → Sound after

theorem Grows.refl (registry : Registry) : Grows registry registry :=
  ⟨rfl, List.suffix_refl _, id⟩

theorem Grows.trans {first second third : Registry} (h₁ : Grows first second)
    (h₂ : Grows second third) : Grows first third :=
  ⟨h₂.source_eq.trans h₁.source_eq, h₁.suffix.trans h₂.suffix, h₂.sound ∘ h₁.sound⟩

theorem Grows.cached? {before after : Registry} (h : Grows before after) (hsound : Sound before)
    {key : ContractKey} {contract : Contract} (hcached : before.cached? key = some contract) :
    after.cached? key = some contract := by
  rw [cached?_eq_some_iff hsound] at hcached
  exact (cached?_eq_some_iff (h.sound hsound) key contract).mpr (h.suffix.subset hcached)

/-- What a lookup can do: answer from the cache, add what the source gives, or fail. -/
theorem get_cases (registry : Registry) (key : ContractKey) :
    (∃ contract, registry.cached? key = some contract ∧ (registry.get key).1 = .ok contract ∧
      (registry.get key).2 = { registry with cacheHits := registry.cacheHits + 1 }) ∨
    (∃ contract, registry.cached? key = none ∧ registry.source.load key = .ok contract ∧
      (registry.get key).1 = .ok contract ∧
      (registry.get key).2 = { registry with
        cache := (key, contract) :: registry.cache
        loadsSucceeded := registry.loadsSucceeded + 1 }) ∨
    (∃ error, registry.cached? key = none ∧ registry.source.load key = .error error ∧
      (registry.get key).1 = .error error ∧
      (registry.get key).2 = { registry with loadsFailed := registry.loadsFailed + 1 }) := by
  unfold Registry.get
  cases hcached : registry.cached? key with
  | some contract => exact .inl ⟨contract, rfl, rfl, rfl⟩
  | none =>
      cases hload : registry.source.load key with
      | ok contract => exact .inr (.inl ⟨contract, rfl, rfl, rfl, rfl⟩)
      | error error => exact .inr (.inr ⟨error, rfl, rfl, rfl, rfl⟩)

theorem get_grows (registry : Registry) (key : ContractKey) :
    Grows registry (registry.get key).2 := by
  obtain ⟨_, _, _, hafter⟩ | ⟨contract, hnew, hload, _, hafter⟩ | ⟨_, _, _, _, hafter⟩ :=
    get_cases registry key
  · rw [hafter]
    exact ⟨rfl, List.suffix_refl _, fun h => ⟨h.distinct, h.vouched⟩⟩
  · rw [hafter]
    refine ⟨rfl, List.suffix_cons _ _, fun h => ⟨?_, ?_⟩⟩
    · exact List.nodup_cons.mpr ⟨(cached?_eq_none_iff registry key).mp hnew, h.distinct⟩
    · intro entry hentry
      rcases List.mem_cons.mp hentry with rfl | hold
      · exact (load_eq_ok_iff _ _ _).mp hload
      · exact h.vouched entry hold
  · rw [hafter]
    exact ⟨rfl, List.suffix_refl _, fun h => ⟨h.distinct, h.vouched⟩⟩

/-- A lookup in a sound registry answers as its source does. -/
theorem get_answer {registry : Registry} (hsound : Sound registry) (key : ContractKey) :
    (registry.get key).1 = registry.source.load key := by
  obtain ⟨contract, hcached, hanswer, _⟩ | ⟨_, _, hload, hanswer, _⟩ | ⟨_, _, hload, hanswer, _⟩ :=
    get_cases registry key
  · rw [hanswer]
    exact ((load_eq_ok_iff _ _ _).mpr (vouches_of_cached hsound hcached)).symm
  · rw [hanswer, hload]
  · rw [hanswer, hload]

theorem get_error_cache {registry : Registry} {key : ContractKey} {error : RegistryError}
    (hfailed : (registry.get key).1 = .error error) :
    (registry.get key).2.cache = registry.cache := by
  obtain ⟨_, _, hanswer, _⟩ | ⟨_, _, _, hanswer, _⟩ | ⟨_, _, _, _, hafter⟩ :=
    get_cases registry key
  · cases hanswer.symm.trans hfailed
  · cases hanswer.symm.trans hfailed
  · rw [hafter]

theorem getAll_cons (registry : Registry) (key : ContractKey) (rest : List ContractKey) :
    registry.getAll (key :: rest) =
      match (registry.get key).1 with
      | .error error => (.error error, (registry.get key).2)
      | .ok contract =>
          (((registry.get key).2.getAll rest).1.map (contract :: ·),
            ((registry.get key).2.getAll rest).2) := by
  rw [Registry.getAll]
  rcases registry.get key with ⟨answer, after⟩
  cases answer <;> rfl

theorem getAll_grows (registry : Registry) (keys : List ContractKey) :
    Grows registry (registry.getAll keys).2 := by
  induction keys generalizing registry with
  | nil => exact .refl registry
  | cons key rest ih =>
      rw [getAll_cons]
      cases (registry.get key).1 with
      | error error => exact get_grows registry key
      | ok contract => exact (get_grows registry key).trans (ih _)

/-- Several lookups answer as the source does for the keys in turn. -/
theorem getAll_answer {registry : Registry} (hsound : Sound registry) (keys : List ContractKey) :
    (registry.getAll keys).1 = keys.mapM registry.source.load := by
  induction keys generalizing registry with
  | nil => rfl
  | cons key rest ih =>
      have hgrows := get_grows registry key
      rw [getAll_cons, get_answer hsound, List.mapM_cons]
      cases registry.source.load key with
      | error error => rfl
      | ok contract =>
          simp only [ih (hgrows.sound hsound), hgrows.source_eq]
          cases rest.mapM registry.source.load <;> rfl

end ScreenPattern.Proofs.RegistryCache
