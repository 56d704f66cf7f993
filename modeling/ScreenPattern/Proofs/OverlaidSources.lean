import ScreenPattern.Catalog.Overlay
import ScreenPattern.Proofs.CatalogOrder
import ScreenPattern.Proofs.RegistryHistory

namespace ScreenPattern.Proofs.OverlaidSources

open AscendingLists CatalogOrder RegistryCache RegistryHistory

/-- A source is asked for its entry and for nothing else. -/
theorem load_congr {first second : CatalogSource} {key : ContractKey}
    (h : first.entry key = second.entry key) : first.load key = second.load key := by
  simp only [CatalogSource.load, h]

theorem run_get_answer (source : CatalogSource) (history : List Operation) (key : ContractKey) :
    ((run { source } history).get key).1 = source.load key := by
  have hgrows : Grows { source } (run { source } history) := run_grows _ history
  rw [get_answer (hgrows.sound (sound_fresh source)), hgrows.source_eq]

section Entries

variable {primary fallback : CatalogSource} {key : ContractKey}

theorem entry_overlay_of_ne (h : primary.entry key ≠ .ok none) :
    (primary.overlay fallback).entry key = primary.entry key := by
  cases hentry : primary.entry key with
  | error error => simp only [CatalogSource.overlay, hentry]
  | ok answer =>
      cases answer with
      | none => exact absurd hentry h
      | some literal => simp only [CatalogSource.overlay, hentry]

theorem entry_overlay_of_eq (h : primary.entry key = .ok none) :
    (primary.overlay fallback).entry key = fallback.entry key := by
  simp only [CatalogSource.overlay, h]

theorem mem_keys_overlay :
    key ∈ (primary.overlay fallback).keys ↔ key ∈ primary.keys ∨ key ∈ fallback.keys := by
  rw [CatalogSource.overlay, mem_ascending, List.mem_append]

end Entries

theorem entry_overlay_assoc (a b c : CatalogSource) (key : ContractKey) :
    ((a.overlay b).overlay c).entry key = (a.overlay (b.overlay c)).entry key := by
  by_cases ha : a.entry key = .ok none
  · by_cases hb : b.entry key = .ok none
    · rw [entry_overlay_of_eq ((entry_overlay_of_eq ha).trans hb), entry_overlay_of_eq ha,
        entry_overlay_of_eq hb]
    · have hab : (a.overlay b).entry key ≠ .ok none := by rwa [entry_overlay_of_eq ha]
      rw [entry_overlay_of_ne hab, entry_overlay_of_eq ha, entry_overlay_of_eq ha,
        entry_overlay_of_ne hb]
  · have hab : (a.overlay b).entry key ≠ .ok none := by rwa [entry_overlay_of_ne ha]
    rw [entry_overlay_of_ne hab, entry_overlay_of_ne ha, entry_overlay_of_ne ha]

theorem keys_overlay_assoc (a b c : CatalogSource) :
    ((a.overlay b).overlay c).keys = (a.overlay (b.overlay c)).keys := by
  refine (ascending_eq_iff linear_le _ _).mpr fun key => ?_
  rw [List.mem_append, List.mem_append, mem_keys_overlay, mem_keys_overlay, or_assoc]

theorem eq_of_entry_eq {first second : CatalogSource} (hname : first.name = second.name)
    (hentry : ∀ key, first.entry key = second.entry key) (hkeys : first.keys = second.keys) :
    first = second := by
  obtain ⟨name, entry, keys⟩ := first
  obtain ⟨otherName, otherEntry, otherKeys⟩ := second
  obtain rfl : entry = otherEntry := funext hentry
  subst hname hkeys
  rfl

theorem overlay_assoc (a b c : CatalogSource) :
    (a.overlay b).overlay c = a.overlay (b.overlay c) := by
  refine eq_of_entry_eq ?_ (entry_overlay_assoc a b c) (keys_overlay_assoc a b c)
  simp only [CatalogSource.overlay, String.append_assoc]

/-- Whatever a registry over an overlay has done so far, it answers at a key as a fresh registry
over the primary source does, unless that source has nothing there. A literal of the primary source
that does not load is therefore an error, whatever the fallback has. Of three sources the middle one
may be taken together with either of the others. -/
theorem get_overlay_and_assoc (primary fallback : CatalogSource) (history : List Operation)
    (key : ContractKey) :
    let registry := run { source := primary.overlay fallback } history
    (primary.entry key ≠ .ok none →
      (registry.get key).1 = (Registry.get { source := primary } key).1) ∧
    (primary.entry key = .ok none →
      (registry.get key).1 = (Registry.get { source := fallback } key).1) ∧
    (∀ literal issues, primary.entry key = .ok (some literal) →
      Contract.load literal = .error issues →
      (registry.get key).1 = .error (.contractInvalid key issues)) ∧
    ∀ third : CatalogSource,
      (primary.overlay fallback).overlay third = primary.overlay (fallback.overlay third) := by
  intro registry
  have hanswer : (registry.get key).1 = (primary.overlay fallback).load key :=
    run_get_answer _ history key
  have hfresh : ∀ source : CatalogSource,
      (Registry.get { source } key).1 = source.load key :=
    fun source => get_answer (sound_fresh source) key
  refine ⟨?_, ?_, ?_, overlay_assoc primary fallback⟩
  · intro hspeaks
    rw [hanswer, hfresh, load_congr (entry_overlay_of_ne hspeaks)]
  · intro hsilent
    rw [hanswer, hfresh, load_congr (entry_overlay_of_eq hsilent)]
  · intro literal issues hentry hload
    have hspeaks : primary.entry key ≠ .ok none := by
      rw [hentry]
      nofun
    rw [hanswer, load_congr (entry_overlay_of_ne hspeaks), CatalogSource.load, hentry]
    simp only [hload]

/-- A source that fails at one key, has no contract at a second, and keeps a third for itself
without having anything there. -/
def patchy : CatalogSource :=
  CatalogTable.source "patchy"
    [(⟨.profileCard, .first⟩, .failure "offline"), (⟨.featureList, .first⟩, .literal .null),
      (⟨.splashFullscreen, .first⟩, .nothing)]

theorem patchy_get_overlay :
    let registry := run { source := patchy.overlay Builtin.source }
      [.get ⟨.splashFullscreen, .first⟩, .preload]
    patchy.entry ⟨.profileCard, .first⟩ ≠ .ok none ∧
    (registry.get ⟨.profileCard, .first⟩).1 =
      (Registry.get { source := patchy } ⟨.profileCard, .first⟩).1 ∧
    patchy.entry ⟨.featureList, .first⟩ = .ok (some .null) ∧
    (∃ issues, Contract.load .null = .error issues ∧
      (registry.get ⟨.featureList, .first⟩).1 =
        .error (.contractInvalid ⟨.featureList, .first⟩ issues)) ∧
    patchy.entry ⟨.splashFullscreen, .first⟩ = .ok none ∧
    (registry.get ⟨.splashFullscreen, .first⟩).1 =
      (Registry.get { source := Builtin.source } ⟨.splashFullscreen, .first⟩).1 := by
  intro registry
  have hfails : patchy.entry ⟨.profileCard, .first⟩ ≠ .ok none := nofun
  have hspeaks := (get_overlay_and_assoc patchy Builtin.source
    [.get ⟨.splashFullscreen, .first⟩, .preload] ⟨.profileCard, .first⟩).1
  have hinvalid := (get_overlay_and_assoc patchy Builtin.source
    [.get ⟨.splashFullscreen, .first⟩, .preload] ⟨.featureList, .first⟩).2.2.1
  have hsilent := (get_overlay_and_assoc patchy Builtin.source
    [.get ⟨.splashFullscreen, .first⟩, .preload] ⟨.splashFullscreen, .first⟩).2.1
  exact ⟨hfails, hspeaks hfails, rfl, ⟨_, rfl, hinvalid .null _ rfl rfl⟩, rfl, hsilent rfl⟩

end ScreenPattern.Proofs.OverlaidSources
