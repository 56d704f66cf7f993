import ScreenPattern.Json.Merge
import ScreenPattern.Proofs.FieldReading

namespace ScreenPattern.Proofs.MergedObjects

open FieldReading
open Fields (contains get? place replace set without)
open Json (merge mergeMembers)

section Setting

variable {α : Type} {k l : String} {x y : α} {fields : Fields α}

theorem contains_set_of_ne (h : k ≠ l) : contains k (set l y fields) = contains k fields := by
  rw [contains, Fields.get?_set, if_neg h, contains]

theorem contains_set_self : contains k (set k y fields) = true := by
  rw [contains, Fields.get?_set, if_pos rfl, Option.isSome_some]

theorem replace_replace_self : replace k x (replace k y fields) = replace k x fields := by
  induction fields with
  | nil => rfl
  | cons e rest ih => grind [replace]

theorem replace_place_self (habsent : get? k fields = none) :
    replace k x (place k y fields) = place k x fields := by
  induction fields with
  | nil => grind [replace, place]
  | cons e rest ih => grind [replace, place, get?]

theorem replace_of_get? (h : get? k fields = some x) : replace k x fields = fields := by
  induction fields with
  | nil => rfl
  | cons e rest ih => grind [replace, get?]

theorem replace_comm (hne : k ≠ l) :
    replace k x (replace l y fields) = replace l y (replace k x fields) := by
  induction fields with
  | nil => rfl
  | cons e rest ih => grind [replace]

theorem replace_place_comm (hne : k ≠ l) :
    replace k x (place l y fields) = place l y (replace k x fields) := by
  induction fields with
  | nil => grind [replace, place]
  | cons e rest ih => grind [replace, place]

theorem place_comm (hne : k ≠ l) :
    place k x (place l y fields) = place l y (place k x fields) := by
  have hlt : k < l ∧ ¬ l < k ∨ l < k ∧ ¬ k < l := by
    rcases String.le_total k l with hle | hle
    · have hkl := String.not_le.mp fun hlk => hne (String.le_antisymm hle hlk)
      exact .inl ⟨hkl, String.lt_asymm hkl⟩
    · have hlk := String.not_le.mp fun hkl => hne (String.le_antisymm hkl hle)
      exact .inr ⟨hlk, String.lt_asymm hlk⟩
  induction fields with
  | nil => rcases hlt with ⟨hkl, hlk⟩ | ⟨hlk, hkl⟩ <;> simp [place, hkl, hlk]
  | cons e rest ih =>
      obtain ⟨m, v⟩ := e
      have htrans : ∀ a b c : String, a < b → b < c → a < c := fun _ _ _ => String.lt_trans
      grind [place]

theorem set_set_self : set k x (set k y fields) = set k x fields := by
  rw [Fields.set, contains_set_self, if_pos rfl]
  unfold Fields.set
  split
  · exact replace_replace_self
  · rename_i habsent
    exact replace_place_self (by simpa [contains] using habsent)

theorem set_of_get? (h : get? k fields = some x) : set k x fields = fields := by
  rw [Fields.set, contains, h, Option.isSome_some, if_pos rfl]
  exact replace_of_get? h

theorem set_comm (hne : k ≠ l) : set k x (set l y fields) = set l y (set k x fields) := by
  rw [Fields.set, contains_set_of_ne hne, Fields.set, Fields.set, contains_set_of_ne hne.symm,
    Fields.set]
  split
  · split
    · exact replace_comm hne
    · exact replace_place_comm hne
  · split
    · exact (replace_place_comm hne.symm).symm
    · exact place_comm hne

end Setting

section Merging

variable {present incoming : Fields Json}

/-- What is merged in at a key does not matter if the key is set afterwards. -/
theorem set_mergeMembers_without (key : String) (value : Json) (present incoming : Fields Json) :
    set key value (mergeMembers present (without [key] incoming)) =
      set key value (mergeMembers present incoming) := by
  induction incoming with
  | nil => rfl
  | cons e rest ih =>
      obtain ⟨k, v⟩ := e
      by_cases hk : k = key
      · have hskip : without [key] ((k, v) :: rest) = without [key] rest := by simp [without, hk]
        rw [hskip, ih, mergeMembers, hk, set_set_self]
      · have hkeep : without [key] ((k, v) :: rest) = (k, v) :: without [key] rest := by
          simp [without, hk]
        rw [hkeep, mergeMembers, mergeMembers, set_comm (Ne.symm hk), ih, set_comm hk]

/-- Every value to be merged in is there already, as far as it can be. -/
def Settled (present incoming : Fields Json) : Prop :=
  ∀ key value, get? key incoming = some value →
    ∃ current, get? key present = some current ∧ merge current value = current

theorem mergeMembers_of_settled {present : Fields Json} (incoming : Fields Json)
    (h : Settled present incoming) : mergeMembers present incoming = present := by
  match incoming with
  | [] => rfl
  | (key, value) :: rest =>
      obtain ⟨current, hcurrent, hmerge⟩ := h key value (by simp)
      have hrest : Settled present (without [key] rest) := by
        intro k v hget
        rw [get?_without] at hget
        split at hget
        · cases hget
        · rename_i hk
          refine h k v ?_
          rw [get?_cons, if_neg fun hkey => hk (by simp [hkey]), hget]
      have hshorter : (without [key] rest).length ≤ rest.length := List.length_filter_le _ rest
      calc
        mergeMembers present ((key, value) :: rest) =
            set key current (mergeMembers present rest) := by
          rw [mergeMembers, hcurrent]
          simp only [hmerge]
        _ = set key current (mergeMembers present (without [key] rest)) :=
          (set_mergeMembers_without key current present rest).symm
        _ = set key current present := by rw [mergeMembers_of_settled _ hrest]
        _ = present := set_of_get? hcurrent
  termination_by incoming.length

theorem Settled.set_without (h : Settled present incoming) (key : String) (value : Json) :
    Settled (set key value present) (without [key] incoming) := by
  intro k v hget
  rw [get?_without] at hget
  split at hget
  · cases hget
  · rename_i hk
    rw [Fields.get?_set, if_neg fun hkey => hk (by simp [hkey])]
    exact h k v hget

/-- A key that is set after each merging keeps its value, whatever the merging does to it. -/
theorem set_mergeMembers_set (key : String) (value : Json)
    (h : Settled (mergeMembers present incoming) incoming) :
    set key value (mergeMembers (set key value (mergeMembers present incoming)) incoming) =
      set key value (mergeMembers present incoming) := by
  rw [← set_mergeMembers_without, mergeMembers_of_settled _ (h.set_without key value), set_set_self]

end Merging

/-- Merging the value in once more changes nothing. -/
def Stable (value : Json) : Prop :=
  ∀ present, merge (merge present value) value = merge present value

section Stability

variable {incoming : Fields Json}

theorem Stable.merge_self {value : Json} (h : Stable value) : merge value value = value := by
  have hnull : merge .null value = value := by cases value <;> simp only [merge]
  simpa only [hnull] using h .null

theorem settled_self (h : ∀ key value, get? key incoming = some value → Stable value) :
    Settled incoming incoming :=
  fun key value hget => ⟨value, hget, (h key value hget).merge_self⟩

theorem settled_mergeMembers (present : Fields Json)
    (h : ∀ key value, get? key incoming = some value → Stable value) :
    Settled (mergeMembers present incoming) incoming := by
  intro key value hget
  rw [Json.get?_mergeMembers, hget]
  refine ⟨_, rfl, ?_⟩
  cases get? key present with
  | none => exact (h key value hget).merge_self
  | some current => exact h key value hget current

/-- What holds of a value as soon as it holds of the members that can be looked up in it, holds of
every value. -/
@[elab_as_elim]
theorem memberInduction {motive : Json → Prop}
    (members : ∀ j : Json, (∀ key member, j.get? key = some member → motive member) → motive j)
    (j : Json) : motive j := by
  refine members j fun key member hget => ?_
  match j with
  | .obj fields =>
      have hmem : (key, member) ∈ fields := mem_of_get? hget
      have hsmaller := List.sizeOf_lt_of_mem hmem
      exact memberInduction members member
  | .null | .bool _ | .int _ | .real _ | .str _ | .arr _ => cases hget
  termination_by sizeOf j
  decreasing_by
    simp only [Prod.mk.sizeOf_spec] at hsmaller
    simp only [Json.obj.sizeOf_spec]
    omega

theorem stable (value : Json) : Stable value := by
  induction value using memberInduction with
  | members value ih =>
  intro present
  match value with
  | .obj incoming =>
      match present with
      | .obj fields =>
          simp only [merge, Json.obj.injEq]
          exact mergeMembers_of_settled incoming (settled_mergeMembers fields ih)
      | .null | .bool _ | .int _ | .real _ | .str _ | .arr _ =>
          simp only [merge, Json.obj.injEq]
          exact mergeMembers_of_settled incoming (settled_self ih)
  | .null | .bool _ | .int _ | .real _ | .str _ | .arr _ => simp only [merge]

end Stability

end ScreenPattern.Proofs.MergedObjects
