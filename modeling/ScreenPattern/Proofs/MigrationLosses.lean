import Mathlib.Data.List.Nodup
import ScreenPattern.Proofs.MigrationChain

namespace ScreenPattern.Proofs.MigrationLosses

open MigrationChain MigrationProjection

/-- The components of the kinds that are kept, each with its position. -/
def placed (document : Document) (keep : ComponentKind → Bool) : List (Component × Nat) :=
  document.components.zipIdx.filter fun e => keep e.1.kind

/-- The warning that a component at a position is lost. -/
def lossText (target : Contract) (kind : ComponentKind) (position : Nat) : String :=
  toString kind ++ " component at position " ++ toString position ++ " has no slot in "
    ++ toString target.family ++ " variant " ++ toString target.variant ++ " and will be removed"

section Positions

variable (document : Document) (keep : ComponentKind → Bool)

theorem map_fst_placed : (placed document keep).map (·.1) =
    document.components.filter fun c => keep c.kind :=
  filter_zipIdx_fst document.components keep

theorem map_kind_placed : ((placed document keep).map fun e => e.1.kind) =
    document.kinds.filter keep := by
  have hkinds := congrArg (List.map Component.kind) (map_fst_placed document keep)
  rw [List.map_map] at hkinds
  refine hkinds.trans ?_
  rw [Document.kinds, List.filter_map]
  rfl

theorem mem_placed_iff (c : Component) (i : Nat) :
    (c, i) ∈ placed document keep ↔ document.components[i]? = some c ∧ keep c.kind = true := by
  rw [placed, List.mem_filter, List.mem_zipIdx_iff_getElem?]

theorem placed_sublist : (placed document keep).Sublist document.components.zipIdx :=
  List.filter_sublist

theorem nodup_positions : ((placed document keep).map (·.2)).Nodup := by
  have hall : (document.components.zipIdx.map (·.2)).Nodup := by
    rw [List.zipIdx_map_snd]
    exact List.nodup_range'
  exact hall.sublist ((placed_sublist document keep).map _)

theorem placed_append_perm :
    (placed document keep ++ placed document fun kind => !keep kind).Perm
      document.components.zipIdx :=
  List.filter_append_perm _ _

end Positions

/-- The names of the kinds begin differently, so the kind can be read off a text that names it
first. -/
theorem kind_eq_of_append_eq {kind other : ComponentKind} {s t : String}
    (h : toString kind ++ s = toString other ++ t) : kind = other := by
  have hstart : ∀ (kind : ComponentKind) (s : String),
      (toString kind ++ s).toList.take 2 = (toString kind).toList.take 2 := by
    intro kind s
    rw [String.toList_append, List.take_append_of_le_length]
    cases kind <;> decide
  have hsame : (toString kind).toList.take 2 = (toString other).toList.take 2 := by
    rw [← hstart kind s, h, hstart]
  revert hsame
  cases kind <;> cases other <;> decide

theorem eq_of_toString_eq {i j : Nat} (h : toString i = toString j) : i = j := by
  rw [Nat.toString_eq_ofList_toDigits, Nat.toString_eq_ofList_toDigits, String.ofList_inj] at h
  rw [← Nat.ofDigitChars_ten_toDigits (n := i), h, Nat.ofDigitChars_ten_toDigits]

theorem lossText_injective {target : Contract} {kind other : ComponentKind} {i j : Nat}
    (h : lossText target kind i = lossText target other j) : i = j := by
  simp only [lossText, String.append_left_inj] at h
  obtain rfl : kind = other := by
    simp only [String.append_assoc] at h
    exact kind_eq_of_append_eq h
  rw [String.append_right_inj] at h
  exact eq_of_toString_eq h

section Plans

variable (document : Document) (target : Contract)

theorem preserved_of : (MigrationPlan.of document target).preserved =
    (document.migrate target).document.kinds := by
  have hrows : (MigrationPlan.of document target).preserved =
      (placed document target.slots.allows).map fun e => e.1.kind := by
    rw [MigrationPlan.preserved, rows_of, List.filter_map, List.map_map]
    simp only [Function.comp_def, row_isSome]
    rfl
  rw [hrows, map_kind_placed, migrate_document, kinds_restrict]

theorem lossWarnings_of : (MigrationPlan.of document target).lossWarnings =
    (placed document fun kind => !target.slots.allows kind).map fun e =>
      lossText target e.1.kind e.2 := by
  rw [MigrationPlan.lossWarnings, rows_of, List.filter_map, List.map_map]
  simp only [Function.comp_def, row_isNone]
  rfl

/-- Every loss has a warning of its own. -/
theorem nodup_lossWarnings : (MigrationPlan.of document target).lossWarnings.Nodup := by
  rw [lossWarnings_of]
  have hpositions := nodup_positions document fun kind => !target.slots.allows kind
  rw [List.Nodup, List.pairwise_map] at hpositions ⊢
  exact hpositions.imp fun hne htext => hne (lossText_injective htext)

end Plans

/-- The components that are kept and those that are lost make up the document, each at its position.
The moved document has the kept ones; the report names the kinds of the lost ones, and warns of each
of them once, before it says what the contract finds. A preview tells the same, and the kinds that
it says are preserved are those of the moved document. -/
theorem migrate_eq_division (document : Document) (target : Contract) :
    let report := document.migrate target
    let preview := document.previewMigration target
    let findings := target.check report.document
    let kept := placed document target.slots.allows
    let gone := placed document fun kind => !target.slots.allows kind
    let losses := gone.map fun e => lossText target e.1.kind e.2
    (preview.warnings = report.warnings ∧ preview.lost = report.lost ∧
      preview.wouldMigrate = report.migrated ∧ preview.preserved = report.document.kinds) ∧
    ((kept ++ gone).Perm document.components.zipIdx ∧
      kept.Sublist document.components.zipIdx ∧ gone.Sublist document.components.zipIdx) ∧
    (∀ c i, document.components[i]? = some c →
      ((c, i) ∈ kept ↔ target.slots.allows c.kind = true) ∧
      ((c, i) ∈ gone ↔ target.slots.allows c.kind = false)) ∧
    report.document.components = kept.map (·.1) ∧
    report.lost = gone.map (fun e => e.1.kind) ∧
    losses.Nodup ∧
    report.warnings =
      losses ++ findings.errors.map Violation.text ++ findings.warnings.map Violation.text := by
  intro report preview findings kept gone losses
  refine ⟨⟨rfl, rfl, rfl, preserved_of document target⟩,
    ⟨placed_append_perm document target.slots.allows, placed_sublist _ _, placed_sublist _ _⟩,
    ?_, ?_, ?_, ?_, ?_⟩
  · intro c i hget
    rw [mem_placed_iff, mem_placed_iff, Bool.not_eq_true']
    exact ⟨and_iff_right hget, and_iff_right hget⟩
  · rw [map_fst_placed]
    exact congrArg Document.components (migrate_document document target)
  · rw [map_kind_placed]
    exact migrate_lost document target
  · have hlosses : (MigrationPlan.of document target).lossWarnings = losses :=
      lossWarnings_of document target
    rw [← hlosses]
    exact nodup_lossWarnings document target
  · have hwarnings : report.warnings =
        (MigrationPlan.of document target).lossWarnings ++ findings.messages := rfl
    rw [hwarnings, lossWarnings_of, Conformance.messages, List.map_append, List.append_assoc]

/-- Of two texts each is lost by itself. -/
theorem trailGuide_division :
    let splash := Builtin.contract ⟨.splashFullscreen, .first⟩
    let gone := placed trailGuide fun kind => !splash.slots.allows kind
    trailGuide.components[3]? = some (.text "A loop through the high country" {}) ∧
    splash.slots.allows .text = false ∧
    (.text "A loop through the high country" {}, 3) ∈ gone ∧
    (trailGuide.migrate splash).lost = [.text, .button, .text] ∧
    (trailGuide.migrate splash).document.components = [.title "Trail guide" {}] ∧
    (trailGuide.migrate splash).warnings =
      [lossText splash .text 1, lossText splash .button 2, lossText splash .text 3] := by
  intro splash gone
  obtain ⟨_, _, hmarked, hkept, hlost, _, hwarnings⟩ := migrate_eq_division trailGuide splash
  have hget : trailGuide.components[3]? = some (.text "A loop through the high country" {}) := rfl
  have htext : splash.slots.allows .text = false := by decide +kernel
  refine ⟨hget, htext, (hmarked _ 3 hget).2.mpr htext, ?_, ?_, ?_⟩
  · rw [hlost]
    decide +kernel
  · rw [hkept]
    decide +kernel
  · rw [hwarnings]
    decide +kernel

end ScreenPattern.Proofs.MigrationLosses
