import ScreenPattern.Proofs.AssemblyModes
import ScreenPattern.Proofs.MergedObjects
import ScreenPattern.Proofs.MigrationChain

namespace ScreenPattern.Proofs.RepeatedUpdates

open AssemblyModes MergedObjects
open Assembler (revise updatedAtKey)
open Fields (get?)

/-- What an update leaves alone in a document, and the time that it always writes. -/
structure Framed (document : Document) (update : DocumentUpdate) (next : Document) : Prop where
  family : next.family = document.family
  variant : next.variant = document.variant
  heroImage : update.heroImage = none → next.heroImage = document.heroImage
  supportingImages : update.supportingImages = none →
    next.supportingImages = document.supportingImages
  palette : update.palette = none → next.palette = document.palette
  vibe : update.vibe = none → next.vibe = document.vibe
  components : update.components = none → next.components = document.components
  navigation : update.navigation = .keep → next.navigation = document.navigation
  animations : update.animations = none → next.animations = document.animations
  metadata : ∀ key, key ≠ updatedAtKey → get? key update.metadata = none →
    get? key next.metadata = get? key document.metadata
  keys : ∀ key, (get? key document.metadata).isSome = true →
    (get? key next.metadata).isSome = true
  updatedAt : get? updatedAtKey next.metadata = some (.str update.now.rfc3339)

variable {assembler : Assembler} {document : Document} {update : DocumentUpdate}
  {outcome : AssemblyOutcome}

theorem isSome_get?_mergeMembers {key : String} {present incoming : Fields Json}
    (h : (get? key present).isSome = true) :
    (get? key (Json.mergeMembers present incoming)).isSome = true := by
  rw [Json.get?_mergeMembers]
  cases get? key incoming with
  | none => exact h
  | some value => rfl

theorem framed_revise (document : Document) (update : DocumentUpdate) :
    Framed document update (revise document update) := by
  constructor
  case family => rfl
  case variant => rfl
  case heroImage | supportingImages | palette | vibe | components | navigation | animations =>
    intro h
    simp [revise, h]
  case metadata =>
    intro key hkey hmention
    rw [revise, Fields.get?_set, if_neg hkey, Json.get?_mergeMembers, hmention]
  case keys =>
    intro key hkey
    rw [revise, Fields.get?_set]
    split
    · rfl
    · exact isSome_get?_mergeMembers hkey
  case updatedAt => rw [revise, Fields.get?_set, if_pos rfl]

/-- The update writes the same again, field by field; the time stands over what the update may have
for it among its own metadata. -/
theorem revise_revise (document : Document) (update : DocumentUpdate) :
    revise (revise document update) update = revise document update := by
  simp only [revise, Document.mk.injEq, true_and]
  refine ⟨?_, ?_, ?_, ?_, ?_, ?_, ?_, ?_⟩
  · cases update.heroImage <;> rfl
  · cases update.supportingImages <;> rfl
  · cases update.palette <;> rfl
  · cases update.vibe <;> rfl
  · cases update.components <;> rfl
  · cases update.navigation <;> rfl
  · cases update.animations <;> rfl
  · exact set_mergeMembers_set updatedAtKey (.str update.now.rfc3339)
      (settled_mergeMembers document.metadata fun _ value _ => stable value)

theorem eq_revise_of_prepare {prepared : Document}
    (h : prepare assembler (.update document update) = .ok prepared) :
    prepared = revise document update := by
  simp only [prepare] at h
  split at h
  · rename_i components _
    cases haccepts : assembler.accepts components with
    | error error =>
        rw [haccepts] at h
        cases h
    | ok _ =>
        rw [haccepts] at h
        cases h
        rfl
  · cases h
    rfl

theorem document_of_update (h : assembler.update document update = .ok outcome) :
    outcome.document = revise document update := by
  obtain ⟨prepared, hprepare, hfinish⟩ := exists_finish_of_perform
    (show perform assembler (.update document update) = .ok outcome from h)
  rw [eq_outcome_of_finish hfinish]
  exact eq_revise_of_prepare hprepare

theorem update_revise (assembler : Assembler) (document : Document) (update : DocumentUpdate) :
    assembler.update (revise document update) update = assembler.update document update := by
  rw [Assembler.update, Assembler.update, revise_revise]

/-- An update that succeeds succeeds again with the same outcome. It changes what it supplies, the
metadata that it names and the time of the last update, and nothing else. -/
theorem update_update_and_framed (h : assembler.update document update = .ok outcome) :
    assembler.update outcome.document update = .ok outcome ∧
      Framed document update outcome.document := by
  rw [document_of_update h]
  exact ⟨(update_revise assembler document update).trans h, framed_revise document update⟩

/-- The update puts an object in the place of a text and a text in the place of an object, adds a
member, and names a time that is not its own. -/
def trailUpdate : DocumentUpdate where
  vibe := some .dark
  components := some []
  navigation := .put (.external " ")
  metadata :=
    [("author", .obj [("name", .str "ranger")]), ("flow", .obj [("exit", .null), ("step", .int 2)]),
      ("updated_at", .obj [("by", .str "ranger")])]
  now := ⟨1700000000, 0⟩

def datedGuide : Document :=
  { MigrationChain.trailGuide with
    metadata :=
      [("author", .str "ranger"),
        ("flow", .obj [("exit", .obj []), ("id", .str "f1"), ("step", .int 1)]),
        ("region", .str "north"), ("updated_at", .str "1970-01-01T00:00:00.000Z")] }

theorem datedGuide_update_update :
    let assembler : Assembler := { options := { mode := .collect } }
    let next := Assembler.outcome assembler (revise datedGuide trailUpdate)
    assembler.update datedGuide trailUpdate = .ok next ∧
      assembler.update next.document trailUpdate = .ok next ∧
      get? "region" next.document.metadata = get? "region" datedGuide.metadata ∧
      get? "updated_at" next.document.metadata = some (.str trailUpdate.now.rfc3339) ∧
      get? "flow" next.document.metadata =
        some (.obj [("exit", .null), ("id", .str "f1"), ("step", .int 2)]) := by
  intro assembler next
  have hupdate : assembler.update datedGuide trailUpdate = .ok next := rfl
  obtain ⟨hagain, hframed⟩ := update_update_and_framed hupdate
  exact ⟨hupdate, hagain, hframed.metadata "region" (by decide) (by decide), hframed.updatedAt,
    by decide +kernel⟩

end ScreenPattern.Proofs.RepeatedUpdates
