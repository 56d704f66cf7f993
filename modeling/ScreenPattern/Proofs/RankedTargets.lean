import Mathlib.Algebra.Order.Field.Rat
import ScreenPattern.Proofs.FirstFailure
import ScreenPattern.Proofs.MigrationLosses
import ScreenPattern.Proofs.OverlaidSources

namespace ScreenPattern.Proofs.RankedTargets

open CatalogOrder FirstFailure MigrationChain MigrationLosses MigrationProjection OverlaidSources
  RegistryCache RegistryHistory

/-- The keys that a document can be moved to, as the source lists them. -/
def candidates (source : CatalogSource) (document : Document) : List ContractKey :=
  source.keys.filter fun key => key ≠ document.key

def ranking (document : Document) (targets : List Contract) : List TargetScore :=
  (targets.map (TargetScore.of document)).mergeSort TargetScore.before

/-- The exact share of the components that are preserved, which is zero if there are none. -/
def exactShare (score : TargetScore) : ℚ :=
  score.preserved / (score.preserved + score.lost : ℕ)

/-- A score stands before another: by the measure, then by validity, then in catalog order. -/
def Precedes {α : Type} [LT α] (measure : TargetScore → α) (a b : TargetScore) : Prop :=
  measure b < measure a ∨
    measure a = measure b ∧
      (a.valid = true ∧ b.valid = false ∨ a.valid = b.valid ∧ a.target ≤ b.target)

/-- A score tells what a migration to its target would report. -/
structure Tells (registry : Registry) (document : Document) (score : TargetScore) : Prop where
  total : score.preserved + score.lost = document.components.length
  report : ∃ report, (registry.migrate document score.target).1 = .ok report ∧
    score.preserved = report.document.components.length ∧ score.lost = report.lost.length ∧
    score.valid = report.migrated

section Order

variable {a b c : TargetScore}

theorem before_iff : a.before b = true ↔ Precedes TargetScore.preserved a b := by
  simp [TargetScore.before, Precedes]

theorem toNat_eq_iff (p q : Bool) : p.toNat = q.toNat ↔ p = q := by
  cases p <;> cases q <;> decide

theorem before_iff_numbers :
    a.before b = true ↔ b.preserved < a.preserved ∨ a.preserved = b.preserved ∧
      (b.valid.toNat < a.valid.toNat ∨
        a.valid.toNat = b.valid.toNat ∧ a.target.position ≤ b.target.position) := by
  have hvalid : a.valid = true ∧ b.valid = false ↔ b.valid.toNat < a.valid.toNat := by
    cases a.valid <;> cases b.valid <;> decide
  rw [before_iff, Precedes, hvalid, ← toNat_eq_iff a.valid]
  rfl

theorem before_trans (a b c : TargetScore) (hab : a.before b = true) (hbc : b.before c = true) :
    a.before c = true := by
  rw [before_iff_numbers] at *
  omega

theorem before_total (a b : TargetScore) : (a.before b || b.before a) = true := by
  rw [Bool.or_eq_true, before_iff_numbers, before_iff_numbers]
  omega

/-- Two scores that stand before each other are the same if they count the same components. -/
theorem before_antisymm (htotal : a.preserved + a.lost = b.preserved + b.lost)
    (hab : a.before b = true) (hba : b.before a = true) : a = b := by
  rw [before_iff_numbers] at hab hba
  have hpreserved : a.preserved = b.preserved := by omega
  have hlost : a.lost = b.lost := by omega
  have hvalid : a.valid = b.valid := (toNat_eq_iff _ _).mp (by omega)
  have htarget : a.target = b.target := eq_of_position_eq (by omega)
  cases a
  cases b
  simp_all

theorem exactShare_lt_iff (htotal : a.preserved + a.lost = b.preserved + b.lost) :
    exactShare a < exactShare b ↔ a.preserved < b.preserved := by
  unfold exactShare
  rw [htotal]
  rcases Nat.eq_zero_or_pos (b.preserved + b.lost) with hnone | hsome
  · have hpreserved : a.preserved = b.preserved := by omega
    simp [hpreserved]
  · rw [div_lt_div_iff_of_pos_right (Nat.cast_pos.mpr hsome), Nat.cast_lt]

theorem precedes_exactShare_iff (htotal : a.preserved + a.lost = b.preserved + b.lost) :
    Precedes exactShare a b ↔ a.before b = true := by
  have hlt := exactShare_lt_iff htotal.symm
  have heq : exactShare a = exactShare b ↔ a.preserved = b.preserved := by
    rw [le_antisymm_iff, ← not_lt, ← not_lt, hlt, exactShare_lt_iff htotal]
    omega
  rw [before_iff, Precedes, Precedes, hlt, heq]

end Order

section Scores

variable (document : Document)

theorem of_preserved (target : Contract) :
    (TargetScore.of document target).preserved =
      (document.migrate target).document.components.length := by
  change (MigrationPlan.of document target).preserved.length = _
  rw [preserved_of, Document.kinds, List.length_map]

theorem of_total (target : Contract) :
    (TargetScore.of document target).preserved + (TargetScore.of document target).lost =
      document.components.length := by
  have hlost : (TargetScore.of document target).lost =
      (document.kinds.filter fun kind => !target.slots.allows kind).length :=
    congrArg List.length (migrate_lost document target)
  have hpreserved : (TargetScore.of document target).preserved =
      (document.kinds.filter target.slots.allows).length := by
    change (MigrationPlan.of document target).preserved.length = _
    rw [preserved_of, migrate_document, kinds_restrict]
  rw [hpreserved, hlost, ← List.length_eq_length_filter_add, Document.kinds, List.length_map]

theorem mem_ranking_iff {targets : List Contract} {score : TargetScore} :
    score ∈ ranking document targets ↔
      ∃ target ∈ targets, TargetScore.of document target = score := by
  rw [ranking, List.mem_mergeSort, List.mem_map]

theorem pairwise_ranking (targets : List Contract) :
    (ranking document targets).Pairwise fun a b => a.before b = true :=
  List.pairwise_mergeSort before_trans before_total _

theorem ranking_perm {others targets : List Contract} (hperm : others.Perm targets) :
    ranking document others = ranking document targets := by
  have hscores : (ranking document others).Perm (ranking document targets) :=
    (List.mergeSort_perm _ _).trans ((hperm.map _).trans (List.mergeSort_perm _ _).symm)
  refine hscores.eq_of_pairwise ?_ (pairwise_ranking document others)
    (pairwise_ranking document targets)
  -- The comparison does not look at what is lost; it is settled by the document's length.
  intro a b ha hb hab hba
  obtain ⟨first, _, rfl⟩ := (mem_ranking_iff document).mp ha
  obtain ⟨second, _, rfl⟩ := (mem_ranking_iff document).mp hb
  apply before_antisymm _ hab hba
  rw [of_total, of_total]

end Scores

section Runs

variable {source : CatalogSource} {history : List Operation} {document : Document}

theorem run_rankTargets_answer (source : CatalogSource) (history : List Operation)
    (document : Document) :
    ((run { source } history).rankTargets document).1 =
      (((candidates source document).mapM source.load).map (ranking document)).mapError
        MigrationError.mk := by
  have hgrows : Grows { source } (run { source } history) := run_grows _ history
  have hsound := hgrows.sound (sound_fresh source)
  simp only [Registry.rankTargets, getAll_answer hsound, hgrows.source_eq]
  rfl

theorem rankTargets_eq_ok_iff {scores : List TargetScore} :
    ((run { source } history).rankTargets document).1 = .ok scores ↔
      ∃ targets, (candidates source document).mapM source.load = .ok targets ∧
        ranking document targets = scores := by
  rw [run_rankTargets_answer]
  cases (candidates source document).mapM source.load <;> simp [Except.map, Except.mapError]

theorem rankTargets_eq_error_iff {error : MigrationError} :
    ((run { source } history).rankTargets document).1 = .error error ↔
      (candidates source document).mapM source.load = .error error.cause := by
  rw [run_rankTargets_answer]
  obtain ⟨cause⟩ := error
  cases (candidates source document).mapM source.load <;> simp [Except.map, Except.mapError]

theorem key_of_load {key : ContractKey} {contract : Contract}
    (h : source.load key = .ok contract) : contract.key = key := by
  obtain ⟨_, _, _, hkey⟩ := (load_eq_ok_iff source key contract).mp h
  exact hkey

theorem map_target_ranking {targets : List Contract}
    (h : (candidates source document).mapM source.load = .ok targets) :
    ((ranking document targets).map TargetScore.target).Perm (candidates source document) := by
  have hkeys : (targets.map (TargetScore.of document)).map TargetScore.target =
      candidates source document := by
    rw [List.map_map]
    exact map_of_mapM_eq_ok (fun _ _ => key_of_load) h
  rw [← hkeys]
  exact (List.mergeSort_perm _ _).map _

theorem tells_of_mem_ranking {targets : List Contract}
    (h : (candidates source document).mapM source.load = .ok targets) {score : TargetScore}
    (hscore : score ∈ ranking document targets) :
    Tells (run { source } history) document score := by
  obtain ⟨target, htarget, rfl⟩ := (mem_ranking_iff document).mp hscore
  obtain ⟨key, _, hload⟩ := mem_of_mapM_eq_ok h htarget
  refine ⟨of_total document target, document.migrate target, ?_, of_preserved document target, rfl,
    rfl⟩
  have hget : ((run { source } history).get target.key).1 = .ok target := by
    rw [run_get_answer, key_of_load hload, hload]
  change ((((run { source } history).get target.key).1.map document.migrate).mapError
    MigrationError.mk) = _
  rw [hget]
  rfl

theorem exists_rankTargets_iff :
    (∃ scores, ((run { source } history).rankTargets document).1 = .ok scores) ↔
      ∀ key ∈ source.keys, key ≠ document.key → ∃ contract, source.load key = .ok contract := by
  have hload : (∀ key ∈ candidates source document, ∃ contract, source.load key = .ok contract) ↔
      ∀ key ∈ source.keys, key ≠ document.key → ∃ contract, source.load key = .ok contract := by
    simp [candidates]
  simp only [← hload, ← exists_mapM_eq_ok_iff, rankTargets_eq_ok_iff]
  constructor
  · rintro ⟨_, targets, htargets, _⟩
    exact ⟨targets, htargets⟩
  · rintro ⟨targets, htargets⟩
    exact ⟨_, targets, htargets, rfl⟩

theorem find?_candidates :
    ((candidates source document).find? fun key => !(source.load key).isOk) =
      source.keys.find? fun key => key ≠ document.key && !(source.load key).isOk := by
  rw [candidates, List.find?_filter]
  congr 1
  funext key
  simp

theorem mapM_load_congr {other : CatalogSource}
    (hentry : ∀ key, key ≠ document.key → other.entry key = source.entry key) :
    (candidates source document).mapM other.load =
      (candidates source document).mapM source.load := by
  refine mapM_congr fun key hkey => load_congr (hentry key ?_)
  simpa using (List.mem_filter.mp hkey).2

end Runs

/-- A ranking is made exactly if every key but the document's own can be loaded; otherwise it ends
with the error of the first that cannot. It has these keys as often as they are listed, tells of
each what a migration to it would report, and puts more components preserved first, then what is
valid, then what comes first in catalog order. Neither the order of the keys in the catalog nor the
entry of the document's own key makes a difference. -/
theorem rankTargets_ranks (source : CatalogSource) (history : List Operation)
    (document : Document) :
    let registry := run { source } history
    let answer := (registry.rankTargets document).1
    ((∃ scores, answer = .ok scores) ↔
      ∀ key ∈ source.keys, key ≠ document.key → ∃ contract, source.load key = .ok contract) ∧
    (∀ error, answer = .error error ↔ ∃ key,
      (source.keys.find? fun key => key ≠ document.key && !(source.load key).isOk) = some key ∧
        source.load key = .error error.cause) ∧
    (∀ scores, answer = .ok scores →
      (scores.map TargetScore.target).Perm (source.keys.filter fun key => key ≠ document.key) ∧
      (∀ score ∈ scores, Tells registry document score) ∧
      scores.Pairwise (Precedes TargetScore.preserved) ∧ scores.Pairwise (Precedes exactShare)) ∧
    ∀ (other : CatalogSource) (otherHistory : List Operation),
      (∀ key, key ≠ document.key → other.entry key = source.entry key) →
      let otherAnswer := ((run { source := other } otherHistory).rankTargets document).1
      (other.keys = source.keys → otherAnswer = answer) ∧
      (other.keys.Perm source.keys → ∀ scores, answer = .ok scores →
        otherAnswer = .ok scores) := by
  intro registry answer
  refine ⟨exists_rankTargets_iff, ?_, ?_, ?_⟩
  · intro error
    rw [rankTargets_eq_error_iff, mapM_eq_error_iff, find?_candidates]
  · intro scores hscores
    obtain ⟨targets, htargets, rfl⟩ := rankTargets_eq_ok_iff.mp hscores
    have htells : ∀ score ∈ ranking document targets, Tells registry document score :=
      fun score hscore => tells_of_mem_ranking htargets hscore
    have hordered := pairwise_ranking document targets
    refine ⟨map_target_ranking htargets, htells, ?_, ?_⟩
    · exact hordered.imp before_iff.mp
    · refine hordered.imp_of_mem fun ha hb hab => ?_
      exact (precedes_exactShare_iff ((htells _ ha).total.trans (htells _ hb).total.symm)).mpr hab
  · intro other otherHistory hentry otherAnswer
    have hother : otherAnswer =
        (((candidates other document).mapM other.load).map (ranking document)).mapError
          MigrationError.mk := run_rankTargets_answer other otherHistory document
    constructor
    · intro hkeys
      have hcandidates : candidates other document = candidates source document := by
        rw [candidates, hkeys, candidates]
      rw [hother, hcandidates, mapM_load_congr hentry]
      exact (run_rankTargets_answer source history document).symm
    · intro hkeys scores hscores
      obtain ⟨targets, htargets, rfl⟩ := rankTargets_eq_ok_iff.mp hscores
      have hcandidates : (candidates other document).Perm (candidates source document) :=
        hkeys.filter _
      rw [← mapM_load_congr hentry] at htargets
      obtain ⟨reordered, hreordered, hperm⟩ := mapM_perm hcandidates htargets
      exact rankTargets_eq_ok_iff.mpr ⟨reordered, hreordered, ranking_perm document hperm⟩

/-- A source with a page torn out, and with one key listed twice. -/
def scrapbook : CatalogSource :=
  CatalogTable.source "scrapbook" <| (trailGuide.key, .failure "torn page") ::
    [⟨.featureList, .first⟩, ⟨.splashFullscreen, .first⟩, ⟨.featureList, .first⟩,
      ⟨.profileCard, .first⟩].map fun key => (key, .literal (Builtin.contract key).toJson)

/-- The torn page is missed only where it is not the document's own. -/
theorem scrapbook_rankTargets :
    let registry := run { source := scrapbook } [.preload]
    let turned : CatalogSource := { scrapbook with keys := scrapbook.keys.reverse }
    let feature : TargetScore := ⟨⟨.featureList, .first⟩, 4, 0, false⟩
    let splash : TargetScore := ⟨⟨.splashFullscreen, .first⟩, 1, 3, true⟩
    let scores := [⟨⟨.profileCard, .first⟩, 4, 0, false⟩, feature, feature, splash]
    (registry.rankTargets trailGuide).1 = .ok scores ∧ Tells registry trailGuide splash ∧
    scores.Pairwise (Precedes exactShare) ∧
    ((run { source := turned } []).rankTargets trailGuide).1 = .ok scores ∧
    (registry.rankTargets { trailGuide with family := .profileCard }).1 =
      .error ⟨.catalog (.malformed "torn page")⟩ := by
  intro registry turned feature splash scores
  obtain ⟨_, _, hranked, hsame⟩ := rankTargets_ranks scrapbook [.preload] trailGuide
  obtain ⟨_, hfailed, _⟩ :=
    rankTargets_ranks scrapbook [.preload] { trailGuide with family := .profileCard }
  let contract := fun family => Builtin.contract ⟨family, .first⟩
  have hload : (candidates scrapbook trailGuide).mapM scrapbook.load =
      .ok [contract .featureList, contract .splashFullscreen, contract .featureList,
        contract .profileCard] := by
    decide +kernel
  have hperm : [contract .featureList, contract .splashFullscreen, contract .featureList,
      contract .profileCard].Perm [contract .profileCard, contract .featureList,
        contract .featureList, contract .splashFullscreen] := by
    decide +kernel
  have hscores : ([contract .profileCard, contract .featureList, contract .featureList,
      contract .splashFullscreen].map (TargetScore.of trailGuide)) = scores := by
    decide +kernel
  have hok : (registry.rankTargets trailGuide).1 = .ok scores := by
    refine rankTargets_eq_ok_iff.mpr ⟨_, hload, ?_⟩
    rw [ranking_perm trailGuide hperm, ranking, hscores]
    exact List.mergeSort_of_pairwise (by decide)
  obtain ⟨_, htells, _, hshares⟩ := hranked scores hok
  obtain ⟨_, hturned⟩ := hsame turned [] fun _ _ => rfl
  refine ⟨hok, htells splash (by decide), hshares, ?_, ?_⟩
  · exact hturned (List.reverse_perm _) scores hok
  · exact (hfailed _).mpr ⟨trailGuide.key, by decide +kernel, by decide +kernel⟩

end ScreenPattern.Proofs.RankedTargets
