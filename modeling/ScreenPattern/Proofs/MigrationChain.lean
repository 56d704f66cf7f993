import ScreenPattern.Catalog.Builtin
import ScreenPattern.Proofs.MigrationProjection

namespace ScreenPattern.Proofs.MigrationChain

open MigrationProjection

def migrateAlong (document : Document) : List Contract → Document
  | [] => document
  | target :: rest => migrateAlong (document.migrate target).document rest

/-- The kinds of the components that a document loses on its way. -/
def lostAlong (document : Document) : List Contract → List ComponentKind
  | [] => []
  | target :: rest =>
      (document.migrate target).lost ++ lostAlong (document.migrate target).document rest

def allAllow (targets : List Contract) (kind : ComponentKind) : Bool :=
  targets.all fun target => target.slots.allows kind

theorem migrateAlong_append_singleton (document : Document) (targets : List Contract)
    (last : Contract) :
    migrateAlong document (targets ++ [last]) =
      restrict document last (allAllow (targets ++ [last])) := by
  induction targets generalizing document with
  | nil =>
      have hallows : allAllow [last] = last.slots.allows := by
        funext kind
        simp [allAllow]
      rw [List.nil_append, hallows]
      exact migrate_document document last
  | cons target rest ih =>
      calc
        migrateAlong document (target :: (rest ++ [last])) =
            restrict (restrict document target target.slots.allows) last
              (allAllow (rest ++ [last])) := by
          rw [migrateAlong, ih, migrate_document]
        _ = restrict document last (allAllow (target :: (rest ++ [last]))) := by
          rw [restrict_restrict]
          rfl

theorem allAllow_perm {targets reordered : List Contract} (h : reordered.Perm targets) :
    allAllow reordered = allAllow targets := by
  funext kind
  exact h.all_eq

theorem lostAlong_eq_nil_iff (document : Document) (targets : List Contract) :
    lostAlong document targets = [] ↔
      ∀ c ∈ document.components, allAllow targets c.kind = true := by
  induction targets generalizing document with
  | nil => simp [lostAlong, allAllow]
  | cons target rest ih =>
      rw [lostAlong, List.append_eq_nil_iff, migrate_lost_eq_nil_iff, ih, migrate_document]
      simp only [restrict, List.mem_filter, allAllow, List.all_cons, Bool.and_eq_true]
      constructor
      · rintro ⟨htarget, hrest⟩ c hc
        exact ⟨htarget c hc, hrest c ⟨hc, htarget c hc⟩⟩
      · intro h
        exact ⟨fun c hc => (h c hc).1, fun c hc => (h c hc.1).2⟩

/-- A chain ends under its last contract with the components of the kinds that all its contracts
allow. Hence the order of the contracts before the last does not matter, nor does it matter whether
the last stands there twice, and a way that loses nothing leads back to where it began. -/
theorem migrateAlong_eq (document : Document) (targets : List Contract) (last : Contract) :
    migrateAlong document (targets ++ [last]) =
      { document with
        family := last.family
        variant := last.variant
        components := document.components.filter fun c =>
          (targets ++ [last]).all fun target => target.slots.allows c.kind } ∧
    (∀ reordered, reordered.Perm targets →
      migrateAlong document (reordered ++ [last]) = migrateAlong document (targets ++ [last])) ∧
    migrateAlong document (targets ++ [last, last]) = migrateAlong document (targets ++ [last]) ∧
    (last.key = document.key → (∀ c ∈ document.components, last.slots.allows c.kind = true) →
      lostAlong document targets = [] → migrateAlong document (targets ++ [last]) = document) := by
  refine ⟨?_, ?_, ?_, ?_⟩
  · exact migrateAlong_append_singleton document targets last
  · intro reordered hperm
    rw [migrateAlong_append_singleton, migrateAlong_append_singleton,
      allAllow_perm (hperm.append_right [last])]
  · have htwice : targets ++ [last, last] = (targets ++ [last]) ++ [last] := by simp
    have hsame : allAllow (targets ++ [last, last]) = allAllow (targets ++ [last]) := by
      funext kind
      simp [allAllow]
    rw [htwice, migrateAlong_append_singleton, migrateAlong_append_singleton, ← htwice, hsame]
  · intro hkey hallowed hlost
    rw [migrateAlong_append_singleton]
    apply restrict_eq_self hkey
    intro c hc
    have htargets := (lostAlong_eq_nil_iff document targets).mp hlost c hc
    simp only [allAllow, List.all_append, List.all_cons, List.all_nil, Bool.and_true,
      Bool.and_eq_true]
    exact ⟨htargets, hallowed c hc⟩

def trailGuide : Document where
  heroImage := some { id := "hero", url := "https://cdn.example/lakes.png", seed := some 7 }
  supportingImages := []
  palette := ⟨"#112233", "#445566", "#778899", "#FFFFFF"⟩
  vibe := .calm
  family := .detailMediaTop
  variant := .first
  components := [.title "Trail guide" {}, .text "Six lakes in a day" {},
    .button "Save route" { style := some .primary }, .text "A loop through the high country" {}]
  navigation := some (.internal "map")
  animations := []
  metadata := [("author", .str "ranger")]

theorem trailGuide_migrateAlong_eq :
    let feature := Builtin.contract ⟨.featureList, .first⟩
    let profile := Builtin.contract ⟨.profileCard, .first⟩
    let detail := Builtin.contract trailGuide.key
    migrateAlong trailGuide [profile, feature, detail] =
      migrateAlong trailGuide [feature, profile, detail] ∧
    detail.key = trailGuide.key ∧
    (∀ c ∈ trailGuide.components, detail.slots.allows c.kind = true) ∧
    lostAlong trailGuide [feature, profile] = [] ∧
    migrateAlong trailGuide [feature, profile, detail] = trailGuide := by
  intro feature profile detail
  obtain ⟨_, hreordered, _, hback⟩ := migrateAlong_eq trailGuide [feature, profile] detail
  have hkey : detail.key = trailGuide.key := rfl
  have hallowed : ∀ c ∈ trailGuide.components, detail.slots.allows c.kind = true := by
    decide +kernel
  have hlost : lostAlong trailGuide [feature, profile] = [] := by decide +kernel
  exact ⟨hreordered _ (.swap feature profile []), hkey, hallowed, hlost, hback hkey hallowed hlost⟩

end ScreenPattern.Proofs.MigrationChain
