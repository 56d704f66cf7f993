import ScreenPattern.Catalog.Builtin
import ScreenPattern.Catalog.Table
import ScreenPattern.Migration.Ranking
import ScreenPattern.Proofs.RegistryCache

namespace ScreenPattern.Proofs.RegistryHistory

open RegistryCache

/-- What a client can ask a registry for. -/
inductive Operation
  | get (key : ContractKey)
  | contains (key : ContractKey)
  | cachedKeys
  | preload
  | migrate (document : Document) (key : ContractKey)
  | switchVariant (document : Document) (variant : Variant)
  | switchFamily (document : Document) (family : Family) (variant : Option Variant)
  | preview (document : Document) (key : ContractKey)
  | rankTargets (document : Document)

inductive Answer
  | contract (answer : Except RegistryError Contract)
  | contained (answer : Bool)
  | keys (answer : List ContractKey)
  | count (answer : Except RegistryError Nat)
  | report (answer : Except MigrationError MigrationReport)
  | preview (answer : Except MigrationError MigrationPreview)
  | ranking (answer : Except MigrationError (List TargetScore))

/-- The two operations whose answer is about the cache itself. -/
def Operation.isCacheQuery : Operation → Bool
  | contains _ | cachedKeys => true
  | _ => false

def perform (registry : Registry) : Operation → Answer × Registry
  | .get key => let (answer, after) := registry.get key; (.contract answer, after)
  | .contains key => (.contained (registry.contains key), registry)
  | .cachedKeys => (.keys registry.cachedKeys, registry)
  | .preload => let (answer, after) := registry.preload; (.count answer, after)
  | .migrate document key =>
      let (answer, after) := registry.migrate document key; (.report answer, after)
  | .switchVariant document variant =>
      let (answer, after) := registry.switchVariant document variant; (.report answer, after)
  | .switchFamily document family variant =>
      let (answer, after) := registry.switchFamily document family variant; (.report answer, after)
  | .preview document key =>
      let (answer, after) := registry.previewMigration document key; (.preview answer, after)
  | .rankTargets document =>
      let (answer, after) := registry.rankTargets document; (.ranking answer, after)

def run (registry : Registry) : List Operation → Registry
  | [] => registry
  | operation :: rest => run (perform registry operation).2 rest

theorem perform_grows (registry : Registry) (operation : Operation) :
    Grows registry (perform registry operation).2 := by
  cases operation with
  | get key => exact get_grows registry key
  | contains key => exact .refl registry
  | cachedKeys => exact .refl registry
  | preload => exact getAll_grows registry registry.source.keys
  | migrate document key => exact get_grows registry key
  | switchVariant document variant => exact get_grows registry ⟨document.family, variant⟩
  | switchFamily document family variant => exact get_grows registry ⟨family, variant.getD .first⟩
  | preview document key => exact get_grows registry key
  | rankTargets document => exact getAll_grows registry _

theorem run_grows (registry : Registry) (operations : List Operation) :
    Grows registry (run registry operations) := by
  induction operations generalizing registry with
  | nil => exact .refl registry
  | cons operation rest ih => exact (perform_grows registry operation).trans (ih _)

theorem perform_answer_eq {first second : Registry} (hfirst : Sound first) (hsecond : Sound second)
    (hsource : first.source = second.source) (operation : Operation)
    (hquery : operation.isCacheQuery = false) :
    (perform first operation).1 = (perform second operation).1 := by
  have hget : ∀ key, (first.get key).1 = (second.get key).1 := fun key => by
    rw [get_answer hfirst, get_answer hsecond, hsource]
  have hgetAll : ∀ keys, (first.getAll keys).1 = (second.getAll keys).1 := fun keys => by
    rw [getAll_answer hfirst, getAll_answer hsecond, hsource]
  cases operation with
  | get key => exact congrArg Answer.contract (hget key)
  | contains key => cases hquery
  | cachedKeys => cases hquery
  | preload => simp only [perform, Registry.preload, hsource, hgetAll]
  | migrate document key => simp only [perform, Registry.migrate, hget]
  | switchVariant document variant =>
      simp only [perform, Registry.switchVariant, Registry.migrate, hget]
  | switchFamily document family variant =>
      simp only [perform, Registry.switchFamily, Registry.migrate, hget]
  | preview document key => simp only [perform, Registry.previewMigration, hget]
  | rankTargets document => simp only [perform, Registry.rankTargets, hsource, hgetAll]

/-- In every state that a registry can reach, the cache holds what the source vouches for, at most
one contract for each key; it never loses or changes a pair, and not even gains one by a lookup that
fails; and no answer but one about the cache itself depends on how the state was reached. -/
theorem run_cache_sound (source : CatalogSource) (history : List Operation) :
    let registry := run { source } history
    (∀ key contract, (key, contract) ∈ registry.cache ↔ registry.cached? key = some contract) ∧
    (∀ key contract, (key, contract) ∈ registry.cache →
      ∃ literal, source.entry key = .ok (some literal) ∧ Contract.load literal = .ok contract ∧
        contract.key = key) ∧
    (∀ operation key contract, registry.cached? key = some contract →
      (perform registry operation).2.cached? key = some contract) ∧
    (∀ key error, (registry.get key).1 = .error error →
      (registry.get key).2.cache = registry.cache) ∧
    (∀ operation, operation.isCacheQuery = false →
      (perform registry operation).1 = (perform { source } operation).1) := by
  intro registry
  have hgrows : Grows { source } registry := run_grows _ history
  have hsource : registry.source = source := hgrows.source_eq
  have hsound : Sound registry := hgrows.sound (sound_fresh source)
  refine ⟨?_, ?_, ?_, ?_, ?_⟩
  · intro key contract
    exact (cached?_eq_some_iff hsound key contract).symm
  · intro key contract hmem
    exact hsource ▸ hsound.vouched _ hmem
  · intro operation key contract hcached
    exact (perform_grows registry operation).cached? hsound hcached
  · intro key error hfailed
    exact get_error_cache hfailed
  · intro operation hquery
    exact perform_answer_eq hsound (sound_fresh source) hsource operation hquery

/-- A source that has the literal of its first key at its second key, too. -/
def mislabelled : CatalogSource :=
  CatalogTable.source "mislabelled" <|
    [⟨.profileCard, .first⟩, ⟨.featureList, .first⟩].map fun key =>
      (key, .literal (Builtin.contract ⟨.profileCard, .first⟩).toJson)

theorem mislabelled_run_cache_sound :
    let registry := run { source := mislabelled } [.get ⟨.featureList, .first⟩, .preload]
    (⟨.profileCard, .first⟩, Builtin.contract ⟨.profileCard, .first⟩) ∈ registry.cache ∧
    (∃ literal, mislabelled.entry ⟨.profileCard, .first⟩ = .ok (some literal) ∧
      Contract.load literal = .ok (Builtin.contract ⟨.profileCard, .first⟩) ∧
      (Builtin.contract ⟨.profileCard, .first⟩).key = ⟨.profileCard, .first⟩) ∧
    (perform registry .preload).2.cached? ⟨.profileCard, .first⟩ =
      some (Builtin.contract ⟨.profileCard, .first⟩) ∧
    (registry.get ⟨.featureList, .first⟩).2.cache = registry.cache ∧
    (perform registry .preload).1 = (perform { source := mislabelled } .preload).1 := by
  intro registry
  obtain ⟨hpairs, hvouched, hkept, hfailed, hanswers⟩ :=
    run_cache_sound mislabelled [.get ⟨.featureList, .first⟩, .preload]
  have hmem : (⟨.profileCard, .first⟩, Builtin.contract ⟨.profileCard, .first⟩) ∈
      registry.cache := by decide +kernel
  have hfails : (registry.get ⟨.featureList, .first⟩).1.isOk = false := by decide +kernel
  cases hanswer : (registry.get ⟨.featureList, .first⟩).1 with
  | ok contract => simp [hanswer, Except.isOk, Except.toBool] at hfails
  | error error =>
      exact ⟨hmem, hvouched _ _ hmem, hkept _ _ _ ((hpairs _ _).mp hmem), hfailed _ _ hanswer,
        hanswers _ rfl⟩

end ScreenPattern.Proofs.RegistryHistory
