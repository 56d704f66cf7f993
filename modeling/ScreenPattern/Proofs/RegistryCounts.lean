import ScreenPattern.Proofs.CatalogOrder
import ScreenPattern.Proofs.FirstFailure
import ScreenPattern.Proofs.RegistryHistory

/-!
What a registry counts. Every operation comes down to keys that are got one by one, and each of them
counts once: as a hit, as a load or as a failure. A load that succeeds puts one contract into the
cache, so what is cached can be read off the keys that were got, and preloading leaves those up to
the first that does not load.
-/

namespace ScreenPattern.Proofs.RegistryCounts

open AscendingLists CatalogOrder FirstFailure RegistryCache RegistryHistory

/-- The keys that are got when several are asked for: all of them, up to the first that does not
load. -/
def lookedUp (source : CatalogSource) : List ContractKey → List ContractKey
  | [] => []
  | key :: rest =>
      match source.load key with
      | .ok _ => key :: lookedUp source rest
      | .error _ => [key]

/-- The keys that an operation gets. -/
def fetches (source : CatalogSource) : Operation → List ContractKey
  | .get key | .migrate _ key | .preview _ key => [key]
  | .switchVariant document variant => [⟨document.family, variant⟩]
  | .switchFamily _ family variant => [⟨family, variant.getD .first⟩]
  | .contains _ | .cachedKeys => []
  | .preload => lookedUp source source.keys
  | .rankTargets document => lookedUp source (source.keys.filter fun key => key ≠ document.key)

/-- The registry after keys have been got one by one. -/
def getEach (registry : Registry) (keys : List ContractKey) : Registry :=
  keys.foldl (fun registry key => (registry.get key).2) registry

/-- How often a key has been got. -/
def lookups (registry : Registry) : Nat :=
  registry.loadsSucceeded + registry.loadsFailed + registry.cacheHits

/-- The first of several keys that does not load, after others that do. -/
structure FirstUnloadable (source : CatalogSource) (keys earlier : List ContractKey)
    (key : ContractKey) (error : RegistryError) : Prop where
  split : ∃ later, keys = earlier ++ key :: later
  loads : ∀ k ∈ earlier, ∃ contract, source.load k = .ok contract
  fails : source.load key = .error error

section LookedUp

variable {source : CatalogSource} {keys earlier : List ContractKey} {key : ContractKey}
  {error : RegistryError}

theorem lookedUp_append (h : ∀ k ∈ earlier, ∃ contract, source.load k = .ok contract)
    (keys : List ContractKey) :
    lookedUp source (earlier ++ keys) = earlier ++ lookedUp source keys := by
  induction earlier with
  | nil => rfl
  | cons first rest ih =>
      obtain ⟨⟨contract, hload⟩, hrest⟩ := List.forall_mem_cons.mp h
      simp only [List.cons_append, lookedUp, hload, ih hrest]

theorem lookedUp_of_loads (h : ∀ k ∈ keys, ∃ contract, source.load k = .ok contract) :
    lookedUp source keys = keys := by
  simpa [lookedUp] using lookedUp_append h []

theorem FirstUnloadable.lookedUp_eq (h : FirstUnloadable source keys earlier key error) :
    lookedUp source keys = earlier ++ [key] := by
  obtain ⟨later, rfl⟩ := h.split
  simp only [lookedUp_append h.loads, lookedUp, h.fails]

theorem mapM_load_eq_error_iff :
    keys.mapM source.load = .error error ↔
      ∃ earlier key, FirstUnloadable source keys earlier key error := by
  have hloads : ∀ k, (!!(source.load k).isOk) = true ↔
      ∃ contract, source.load k = .ok contract := by
    intro k
    cases source.load k <;> simp [Except.isOk, Except.toBool]
  simp only [mapM_eq_error_iff, List.find?_eq_some_iff_append, hloads]
  constructor
  · rintro ⟨key, ⟨_, earlier, later, hsplit, hearlier⟩, hfails⟩
    exact ⟨earlier, key, ⟨later, hsplit⟩, hearlier, hfails⟩
  · rintro ⟨earlier, key, ⟨later, hsplit⟩, hearlier, hfails⟩
    refine ⟨key, ⟨?_, earlier, later, hsplit, hearlier⟩, hfails⟩
    simp [hfails, Except.isOk, Except.toBool]

end LookedUp

section Steps

variable {registry : Registry} (hsound : Sound registry)

theorem lookups_get (registry : Registry) (key : ContractKey) :
    lookups (registry.get key).2 = lookups registry + 1 := by
  obtain ⟨_, _, _, hafter⟩ | ⟨_, _, _, _, hafter⟩ | ⟨_, _, _, _, hafter⟩ := get_cases registry key
  · simp only [hafter, lookups]
    omega
  · simp only [hafter, lookups]
    omega
  · simp only [hafter, lookups]
    omega

theorem loadsSucceeded_get (h : registry.loadsSucceeded = registry.cache.length)
    (key : ContractKey) :
    (registry.get key).2.loadsSucceeded = (registry.get key).2.cache.length := by
  obtain ⟨_, _, _, hafter⟩ | ⟨_, _, _, _, hafter⟩ | ⟨_, _, _, _, hafter⟩ := get_cases registry key
  · rw [hafter]
    exact h
  · rw [hafter]
    exact congrArg (· + 1) h
  · rw [hafter]
    exact h

include hsound

theorem cached?_get (key k : ContractKey) (contract : Contract) :
    (registry.get key).2.cached? k = some contract ↔
      registry.cached? k = some contract ∨ k = key ∧ registry.source.load k = .ok contract := by
  have hafterSound := (get_grows registry key).sound hsound
  rw [cached?_eq_some_iff hafterSound, cached?_eq_some_iff hsound]
  obtain ⟨found, hcached, _, hafter⟩ | ⟨found, hnew, hload, _, hafter⟩ |
    ⟨error, hnew, hload, _, hafter⟩ := get_cases registry key
  · rw [hafter]
    refine ⟨.inl, ?_⟩
    rintro (hold | ⟨rfl, hload⟩)
    · exact hold
    · have hfound := (load_eq_ok_iff _ _ _).mpr (vouches_of_cached hsound hcached)
      cases hload.symm.trans hfound
      exact (cached?_eq_some_iff hsound k contract).mp hcached
  · rw [hafter, List.mem_cons, Prod.mk.injEq, or_comm]
    refine or_congr_right (and_congr_right ?_)
    rintro rfl
    rw [hload, Except.ok.injEq, eq_comm]
  · rw [hafter]
    refine ⟨.inl, ?_⟩
    rintro (hold | ⟨rfl, hother⟩)
    · exact hold
    · cases hload.symm.trans hother

theorem length_cachedKeys : registry.cachedKeys.length = registry.cache.length := by
  have hascends := ascends_ascending linear_le (registry.cache.map (·.1))
  have hperm : registry.cachedKeys.Perm (registry.cache.map (·.1)) :=
    (List.perm_ext_iff_of_nodup hascends.nodup hsound.distinct).mpr fun key => mem_ascending _ key
  rw [hperm.length_eq, List.length_map]

/-- Several look-ups leave what the keys that are looked up leave one by one. -/
theorem getAll_after (keys : List ContractKey) :
    (registry.getAll keys).2 = getEach registry (lookedUp registry.source keys) := by
  induction keys generalizing registry with
  | nil => rfl
  | cons key rest ih =>
      have hgrows := get_grows registry key
      rw [getAll_cons, get_answer hsound, lookedUp]
      cases hload : registry.source.load key with
      | error error => rfl
      | ok contract =>
          have hrest := ih (hgrows.sound hsound)
          rw [hgrows.source_eq] at hrest
          exact hrest

theorem perform_after (operation : Operation) :
    (perform registry operation).2 = getEach registry (fetches registry.source operation) := by
  cases operation with
  | get key => rfl
  | contains key => rfl
  | cachedKeys => rfl
  | preload => exact getAll_after hsound registry.source.keys
  | migrate document key => rfl
  | switchVariant document variant => rfl
  | switchFamily document family variant => rfl
  | preview document key => rfl
  | rankTargets document => exact getAll_after hsound _

end Steps

section Runs

variable {registry : Registry}

theorem lookups_getEach (registry : Registry) (keys : List ContractKey) :
    lookups (getEach registry keys) = lookups registry + keys.length := by
  induction keys generalizing registry with
  | nil => rfl
  | cons key rest ih =>
      calc
        lookups (getEach registry (key :: rest)) =
            lookups (registry.get key).2 + rest.length := ih _
        _ = lookups registry + (rest.length + 1) := by
          rw [lookups_get]
          omega

theorem loadsSucceeded_getEach (h : registry.loadsSucceeded = registry.cache.length)
    (keys : List ContractKey) :
    (getEach registry keys).loadsSucceeded = (getEach registry keys).cache.length := by
  induction keys generalizing registry with
  | nil => exact h
  | cons key rest ih => exact ih (loadsSucceeded_get h key)

theorem cached?_getEach (hsound : Sound registry) (keys : List ContractKey) (k : ContractKey)
    (contract : Contract) :
    (getEach registry keys).cached? k = some contract ↔
      registry.cached? k = some contract ∨ k ∈ keys ∧ registry.source.load k = .ok contract := by
  induction keys generalizing registry with
  | nil => simp [getEach]
  | cons key rest ih =>
      have hgrows := get_grows registry key
      have hrest := ih (hgrows.sound hsound)
      rw [hgrows.source_eq, cached?_get hsound] at hrest
      refine hrest.trans ?_
      rw [List.mem_cons, or_and_right, or_assoc]

theorem run_eq_getEach (hsound : Sound registry) (history : List Operation) :
    run registry history = getEach registry (history.flatMap (fetches registry.source)) := by
  induction history generalizing registry with
  | nil => rfl
  | cons operation rest ih =>
      have hgrows := perform_grows registry operation
      have hrest := ih (hgrows.sound hsound)
      rw [hgrows.source_eq] at hrest
      calc
        run registry (operation :: rest) =
            getEach (perform registry operation).2
              (rest.flatMap (fetches registry.source)) := hrest
        _ = getEach (getEach registry (fetches registry.source operation))
              (rest.flatMap (fetches registry.source)) := by rw [perform_after hsound]
        _ = getEach registry ((operation :: rest).flatMap (fetches registry.source)) :=
            List.foldl_append.symm

end Runs

section Preloads

variable {registry : Registry} (hsound : Sound registry)

include hsound

theorem preload_answer :
    registry.preload.1 = (registry.source.keys.mapM registry.source.load).map fun _ =>
      registry.source.keys.length :=
  congrArg (Except.map _) (getAll_answer hsound registry.source.keys)

theorem preload_eq_ok_iff (n : Nat) :
    registry.preload.1 = .ok n ↔ n = registry.source.keys.length ∧
      ∀ key ∈ registry.source.keys, ∃ contract, registry.source.load key = .ok contract := by
  rw [preload_answer hsound, ← exists_mapM_eq_ok_iff]
  cases registry.source.keys.mapM registry.source.load <;> simp [Except.map, eq_comm]

theorem preload_eq_error_iff (error : RegistryError) :
    registry.preload.1 = .error error ↔
      ∃ earlier key, FirstUnloadable registry.source registry.source.keys earlier key error := by
  rw [preload_answer hsound, ← mapM_load_eq_error_iff]
  cases registry.source.keys.mapM registry.source.load <;> simp [Except.map]

theorem cached?_preload (k : ContractKey) (contract : Contract) :
    registry.preload.2.cached? k = some contract ↔ registry.cached? k = some contract ∨
      k ∈ lookedUp registry.source registry.source.keys ∧
        registry.source.load k = .ok contract := by
  have hafter : registry.preload.2 =
      getEach registry (lookedUp registry.source registry.source.keys) :=
    getAll_after hsound registry.source.keys
  rw [hafter, cached?_getEach hsound]

theorem cached?_preload_of_loads
    (h : ∀ key ∈ registry.source.keys, ∃ contract, registry.source.load key = .ok contract)
    (k : ContractKey) (contract : Contract) :
    registry.preload.2.cached? k = some contract ↔ registry.cached? k = some contract ∨
      k ∈ registry.source.keys ∧ registry.source.load k = .ok contract := by
  rw [cached?_preload hsound, lookedUp_of_loads h]

theorem cached?_preload_of_firstUnloadable {earlier : List ContractKey} {key : ContractKey}
    {error : RegistryError}
    (h : FirstUnloadable registry.source registry.source.keys earlier key error)
    (k : ContractKey) (contract : Contract) :
    registry.preload.2.cached? k = some contract ↔ registry.cached? k = some contract ∨
      k ∈ earlier ∧ registry.source.load k = .ok contract := by
  rw [cached?_preload hsound, h.lookedUp_eq]
  -- The key that does not load is looked up, too, but leaves nothing.
  refine or_congr_right (and_congr_left fun hload => ?_)
  rw [List.mem_append, List.mem_singleton, or_iff_left]
  rintro rfl
  cases hload.symm.trans h.fails

end Preloads

/-- In every state that a registry can reach, preloading counts the keys of the source if all of
them load, and then all are cached; otherwise it fails as the first of them that does not load, and
the cache gains those before it and nothing else. What led to the state are keys that were got one
by one: they are as many as the registry has counted, and as many of them as are cached were loads
that succeeded. -/
theorem preload_and_counts (source : CatalogSource) (history : List Operation) :
    let registry := run { source } history
    let fetched := history.flatMap (fetches source)
    (∀ n, registry.preload.1 = .ok n ↔
      n = source.keys.length ∧ ∀ key ∈ source.keys, ∃ contract, source.load key = .ok contract) ∧
    (∀ n, registry.preload.1 = .ok n →
      (∀ key ∈ source.keys, registry.preload.2.contains key = true) ∧
      ∀ key contract, registry.preload.2.cached? key = some contract ↔
        registry.cached? key = some contract ∨
          key ∈ source.keys ∧ source.load key = .ok contract) ∧
    (∀ error, registry.preload.1 = .error error ↔
      ∃ earlier key, FirstUnloadable source source.keys earlier key error) ∧
    (∀ earlier key error, FirstUnloadable source source.keys earlier key error →
      ∀ k contract, registry.preload.2.cached? k = some contract ↔
        registry.cached? k = some contract ∨ k ∈ earlier ∧ source.load k = .ok contract) ∧
    registry = getEach { source } fetched ∧
    registry.loadsSucceeded + registry.loadsFailed + registry.cacheHits = fetched.length ∧
    registry.loadsSucceeded = registry.cachedKeys.length := by
  intro registry fetched
  have hgrows : Grows { source } registry := run_grows _ history
  have hsound : Sound registry := hgrows.sound (sound_fresh source)
  have hsource : registry.source = source := hgrows.source_eq
  have hfetched : registry = getEach { source } fetched :=
    run_eq_getEach (sound_fresh source) history
  have hok := preload_eq_ok_iff hsound
  have herror := preload_eq_error_iff hsound
  have hloads := cached?_preload_of_loads hsound
  rw [hsource] at hok herror hloads
  refine ⟨hok, fun n hn => ?_, herror, fun earlier key error hfirst => ?_, hfetched, ?_, ?_⟩
  · have hall := ((hok n).mp hn).2
    refine ⟨fun key hkey => ?_, hloads hall⟩
    obtain ⟨contract, hload⟩ := hall key hkey
    exact Option.isSome_of_eq_some ((hloads hall key contract).mpr (.inr ⟨hkey, hload⟩))
  · have hcached := cached?_preload_of_firstUnloadable hsound (hsource.symm ▸ hfirst)
    rw [hsource] at hcached
    exact hcached
  · have hcount := lookups_getEach { source } fetched
    rw [← hfetched] at hcount
    exact hcount.trans (Nat.zero_add _)
  · rw [length_cachedKeys hsound, hfetched]
    exact loadsSucceeded_getEach rfl fetched

/-- A source that lists its one key twice. -/
def repeating : CatalogSource :=
  CatalogTable.source "repeating" <|
    List.replicate 2
      (⟨.profileCard, .first⟩, .literal (Builtin.contract ⟨.profileCard, .first⟩).toJson)

/-- The first key of a source is loaded and found again, the second one fails three times. A key
that is listed twice is counted twice. -/
theorem mislabelled_and_repeating_preload_and_counts :
    let registry := run { source := mislabelled } [.get ⟨.featureList, .first⟩, .preload, .preload]
    let preloaded := Registry.preload { source := repeating }
    (∃ error,
      FirstUnloadable mislabelled mislabelled.keys [⟨.profileCard, .first⟩] ⟨.featureList, .first⟩
        error ∧
      registry.preload.1 = .error error) ∧
    registry.preload.2.cached? ⟨.profileCard, .first⟩ =
      some (Builtin.contract ⟨.profileCard, .first⟩) ∧
    registry.loadsSucceeded + registry.loadsFailed + registry.cacheHits = 5 ∧
    registry.loadsSucceeded = registry.cachedKeys.length ∧
    preloaded.1 = .ok 2 ∧ preloaded.2.contains ⟨.profileCard, .first⟩ = true := by
  intro registry preloaded
  obtain ⟨_, _, herrors, hcached, _, hcounts, hcachedKeys⟩ :=
    preload_and_counts mislabelled [.get ⟨.featureList, .first⟩, .preload, .preload]
  obtain ⟨hok, hall, _⟩ := preload_and_counts repeating []
  have hprofile : mislabelled.load ⟨.profileCard, .first⟩ =
      .ok (Builtin.contract ⟨.profileCard, .first⟩) := by decide +kernel
  have hfeature : (mislabelled.load ⟨.featureList, .first⟩).isOk = false := by decide +kernel
  have hrepeating : repeating.load ⟨.profileCard, .first⟩ =
      .ok (Builtin.contract ⟨.profileCard, .first⟩) := by decide +kernel
  have htwo : preloaded.1 = .ok 2 := by
    apply (hok 2).mpr
    have hkeys : repeating.keys = List.replicate 2 ⟨.profileCard, .first⟩ := rfl
    rw [hkeys]
    refine ⟨rfl, fun key hkey => ?_⟩
    rw [List.eq_of_mem_replicate hkey]
    exact ⟨_, hrepeating⟩
  have hfetched : ([.get ⟨.featureList, .first⟩, .preload, .preload].flatMap
      (fetches mislabelled)).length = 5 := by decide +kernel
  cases hfails : mislabelled.load ⟨.featureList, .first⟩ with
  | ok contract => simp [hfails, Except.isOk, Except.toBool] at hfeature
  | error error =>
      have hfirst : FirstUnloadable mislabelled mislabelled.keys [⟨.profileCard, .first⟩]
          ⟨.featureList, .first⟩ error :=
        ⟨⟨[], rfl⟩, List.forall_mem_singleton.mpr ⟨_, hprofile⟩, hfails⟩
      refine ⟨⟨error, hfirst, (herrors error).mpr ⟨_, _, hfirst⟩⟩, ?_, hcounts.trans hfetched,
        hcachedKeys, htwo, (hall 2 htwo).1 _ List.mem_cons_self⟩
      exact (hcached _ _ _ hfirst _ _).mpr (.inr ⟨List.mem_singleton_self _, hprofile⟩)

end ScreenPattern.Proofs.RegistryCounts
