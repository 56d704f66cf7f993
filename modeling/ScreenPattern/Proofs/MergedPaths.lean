import ScreenPattern.Proofs.RepeatedUpdates

/-!
Deep merge seen from the leaves. A path is a list of object keys, and the values that are no objects
are the leaves. A merged value has every leaf that is merged in and every present one that nothing
stands in the way of, each at its path, and no others.
-/

namespace ScreenPattern.Proofs.MergedPaths

open FieldReading
open Assembler (revise updatedAtKey)
open Fields (get? keys)
open Json (merge mergeMembers)

/-- The value at a path of object keys. -/
def valueAt? : List String → Json → Option Json
  | [], j => some j
  | key :: rest, j => (j.get? key).bind (valueAt? rest)

/-- A value that is no object, so that no path goes on below it. -/
def IsLeaf (j : Json) : Prop :=
  j.asObj? = none

/-- No leaf stands above the end of the path. -/
def OpenTo (path : List String) (j : Json) : Prop :=
  ∀ before, before <+: path → before ≠ path →
    ∀ value, valueAt? before j = some value → ¬ IsLeaf value

theorem valueAt?_cons_obj (key : String) (rest : List String) (fields : Fields Json) :
    valueAt? (key :: rest) (.obj fields) = (get? key fields).bind (valueAt? rest) :=
  rfl

theorem isLeaf_or_obj (j : Json) : IsLeaf j ∨ ∃ fields, j = .obj fields := by
  cases j with
  | obj fields => exact .inr ⟨fields, rfl⟩
  | null | bool | int | real | str | arr => exact .inl rfl

theorem not_isLeaf_obj (fields : Fields Json) : ¬ IsLeaf (.obj fields) := by
  simp [IsLeaf, Json.asObj?]

theorem get?_of_isLeaf {j : Json} (h : IsLeaf j) (key : String) : j.get? key = none := by
  cases j with
  | obj fields => exact absurd h (not_isLeaf_obj fields)
  | null | bool | int | real | str | arr => rfl

theorem valueAt?_cons_of_isLeaf {j : Json} (h : IsLeaf j) (key : String) (rest : List String) :
    valueAt? (key :: rest) j = none := by
  rw [valueAt?, get?_of_isLeaf h, Option.bind_none]

theorem not_openTo_of_isLeaf {j : Json} (h : IsLeaf j) (key : String) (rest : List String) :
    ¬ OpenTo (key :: rest) j :=
  fun hopen => hopen [] List.nil_prefix (by simp) j rfl h

theorem openTo_cons_obj_iff (key : String) (rest : List String) (fields : Fields Json) :
    OpenTo (key :: rest) (.obj fields) ↔
      ∀ member, get? key fields = some member → OpenTo rest member := by
  constructor
  · intro hopen member hmember before hbefore hproper value hvalue
    refine hopen (key :: before) (List.cons_prefix_cons.mpr ⟨rfl, hbefore⟩) (by simpa) value ?_
    rw [valueAt?_cons_obj, hmember, Option.bind_some, hvalue]
  · intro hopen before hbefore hproper value hvalue
    rcases before with _ | ⟨first, before⟩
    · cases hvalue
      exact not_isLeaf_obj fields
    · obtain ⟨rfl, hrest⟩ := List.cons_prefix_cons.mp hbefore
      rw [valueAt?_cons_obj, Option.bind_eq_some_iff] at hvalue
      obtain ⟨member, hmember, hbelow⟩ := hvalue
      exact hopen member hmember before hrest (by simpa using hproper) value hbelow

section Merging

theorem merge_of_isLeaf (present : Json) {incoming : Json} (h : IsLeaf incoming) :
    merge present incoming = incoming := by
  cases incoming with
  | obj fields => exact absurd h (not_isLeaf_obj fields)
  | null | bool | int | real | str | arr => simp only [merge]

theorem merge_obj_of_isLeaf {present : Json} (h : IsLeaf present) (incoming : Fields Json) :
    merge present (.obj incoming) = .obj incoming := by
  cases present with
  | obj fields => exact absurd h (not_isLeaf_obj fields)
  | null | bool | int | real | str | arr => simp only [merge]

/-- Whatever an object is merged into, each member of the outcome is an incoming one, a present one,
or one merged into the other. -/
theorem exists_merge_obj (present : Json) (incoming : Fields Json) :
    ∃ merged, merge present (.obj incoming) = .obj merged ∧
      ∀ key, get? key merged =
        match get? key incoming with
        | none => present.get? key
        | some value =>
            some (match present.get? key with
              | some current => merge current value
              | none => value) := by
  rcases isLeaf_or_obj present with hleaf | ⟨fields, rfl⟩
  · refine ⟨incoming, merge_obj_of_isLeaf hleaf incoming, fun key => ?_⟩
    rw [get?_of_isLeaf hleaf]
    cases get? key incoming <;> rfl
  · exact ⟨mergeMembers fields incoming, by simp only [merge],
      fun key => Json.get?_mergeMembers key fields incoming⟩

/-- A merged value has a leaf at a path exactly if it is merged in there, or is present there and no
incoming value covers it. -/
theorem valueAt?_merge_eq_some_iff {value : Json} (hleaf : IsLeaf value) (path : List String)
    (present incoming : Json) :
    valueAt? path (merge present incoming) = some value ↔
      valueAt? path incoming = some value ∨
        (valueAt? path incoming = none ∧ OpenTo path incoming ∧
          valueAt? path present = some value) := by
  -- One step down the path a present member may be merged with an incoming one, so both values
  -- vary.
  induction path generalizing present incoming with
  | nil =>
      rcases isLeaf_or_obj incoming with hincoming | ⟨others, rfl⟩
      · simp [valueAt?, merge_of_isLeaf present hincoming]
      · obtain ⟨merged, hmerged, -⟩ := exists_merge_obj present others
        have hne : ∀ fields, Json.obj fields ≠ value := by
          rintro fields rfl
          exact not_isLeaf_obj fields hleaf
        simp [valueAt?, hmerged, hne]
  | cons key rest ih =>
      rcases isLeaf_or_obj incoming with hincoming | ⟨others, rfl⟩
      · rw [merge_of_isLeaf present hincoming, valueAt?_cons_of_isLeaf hincoming]
        simp [not_openTo_of_isLeaf hincoming]
      · obtain ⟨merged, hmerged, hmember⟩ := exists_merge_obj present others
        rw [hmerged, openTo_cons_obj_iff, valueAt?_cons_obj, valueAt?_cons_obj, hmember, valueAt?]
        cases hothers : get? key others with
        | none => simp
        | some member =>
            cases hpresent : present.get? key with
            | none => simp
            | some current => simpa using ih current member

end Merging

section Keys

variable {key : String} {value : Json} {fields : Fields Json}

theorem mem_keys_iff (key : String) (fields : Fields Json) :
    key ∈ keys fields ↔ ∃ value, get? key fields = some value := by
  rw [← Option.ne_none_iff_exists', ne_eq, get?_eq_none_iff, Classical.not_not]

theorem mem_keys_mergeMembers_iff (key : String) (present incoming : Fields Json) :
    key ∈ keys (mergeMembers present incoming) ↔ key ∈ keys present ∨ key ∈ keys incoming := by
  simp only [mem_keys_iff, Json.get?_mergeMembers]
  cases get? key incoming with
  | none => simp
  | some value => simp

theorem keys_replace (key : String) (value : Json) (fields : Fields Json) :
    keys (Fields.replace key value fields) = keys fields := by
  induction fields with
  | nil => rfl
  | cons e rest ih => grind [Fields.replace, keys]

theorem mem_keys_place_iff (k : String) :
    k ∈ keys (Fields.place key value fields) ↔ k = key ∨ k ∈ keys fields := by
  induction fields with
  | nil => simp [Fields.place, keys]
  | cons e rest ih => grind [Fields.place, keys]

/-- Every key is below all that come after it. -/
def KeysAscend (fields : Fields Json) : Prop :=
  (keys fields).Pairwise (· < ·)

instance : DecidablePred KeysAscend :=
  fun fields => inferInstanceAs (Decidable ((keys fields).Pairwise (· < ·)))

theorem keysAscend_place (h : KeysAscend fields) (habsent : key ∉ keys fields) :
    KeysAscend (Fields.place key value fields) := by
  induction fields with
  | nil => exact List.pairwise_singleton _ key
  | cons e rest ih =>
      obtain ⟨name, other⟩ := e
      obtain ⟨hbelow, hrest⟩ := List.pairwise_cons.mp h
      rw [keys, List.map_cons, List.mem_cons, not_or] at habsent
      unfold Fields.place
      split
      · rename_i hlt
        refine List.pairwise_cons.mpr ⟨fun k hk => ?_, h⟩
        rcases List.mem_cons.mp hk with rfl | hlater
        · exact hlt
        · exact String.lt_trans hlt (hbelow k hlater)
      · rename_i hle
        have hlt : name < key := Std.lt_of_le_of_ne (String.not_lt.mp hle) (Ne.symm habsent.1)
        refine List.pairwise_cons.mpr ⟨fun k hk => ?_, ih hrest habsent.2⟩
        rcases (mem_keys_place_iff k).mp hk with rfl | hlater
        · exact hlt
        · exact hbelow k hlater

theorem keysAscend_set (key : String) (value : Json) (h : KeysAscend fields) :
    KeysAscend (Fields.set key value fields) := by
  unfold Fields.set
  split
  · rw [KeysAscend, keys_replace]
    exact h
  · rename_i habsent
    refine keysAscend_place h ?_
    rw [← get?_eq_none_iff]
    simpa [Fields.contains] using habsent

theorem keysAscend_mergeMembers {present : Fields Json} (h : KeysAscend present)
    (incoming : Fields Json) : KeysAscend (mergeMembers present incoming) := by
  induction incoming with
  | nil => exact h
  | cons e rest ih =>
      rw [mergeMembers]
      exact keysAscend_set _ _ ih

end Keys

/-- Of the metadata an update writes its own leaves and keeps those of the document that they do not
cover. Only the time of the update is not merged in. -/
theorem valueAt?_metadata_revise_eq_some_iff (document : Document) (update : DocumentUpdate)
    {key : String} (hkey : key ≠ updatedAtKey) {value : Json} (hleaf : IsLeaf value)
    (rest : List String) :
    valueAt? (key :: rest) (.obj (revise document update).metadata) = some value ↔
      valueAt? (key :: rest) (.obj update.metadata) = some value ∨
        (valueAt? (key :: rest) (.obj update.metadata) = none ∧
          OpenTo (key :: rest) (.obj update.metadata) ∧
          valueAt? (key :: rest) (.obj document.metadata) = some value) := by
  have hmerged : merge (.obj document.metadata) (.obj update.metadata) =
      .obj (mergeMembers document.metadata update.metadata) := by
    simp only [merge]
  have hother : get? key (revise document update).metadata =
      get? key (mergeMembers document.metadata update.metadata) := by
    rw [revise, Fields.get?_set, if_neg hkey]
  rw [← valueAt?_merge_eq_some_iff hleaf, hmerged, valueAt?_cons_obj, valueAt?_cons_obj, hother]

/-- Merging loses no incoming leaf and no present one that nothing incoming covers, and invents
none. The keys of two objects are the keys of the merged one, which has them in order if the
present object has. -/
theorem leaves_and_keys_of_merge (present incoming : Json) :
    (∀ path value, IsLeaf value → valueAt? path incoming = some value →
      valueAt? path (merge present incoming) = some value) ∧
    (∀ path value, IsLeaf value → valueAt? path present = some value →
      valueAt? path incoming = none → OpenTo path incoming →
      valueAt? path (merge present incoming) = some value) ∧
    (∀ path value, IsLeaf value → valueAt? path (merge present incoming) = some value →
      (valueAt? path incoming).or (valueAt? path present) = some value) ∧
    (∀ fields others, present = .obj fields → incoming = .obj others →
      ∃ merged, merge present incoming = .obj merged ∧
        (∀ key, key ∈ keys merged ↔ key ∈ keys fields ∨ key ∈ keys others) ∧
        (KeysAscend fields → KeysAscend merged)) := by
  refine ⟨fun path value hleaf hincoming => ?_, fun path value hleaf hpresent habsent hopen => ?_,
    fun path value hleaf hmerged => ?_, ?_⟩
  · apply (valueAt?_merge_eq_some_iff hleaf path present incoming).mpr
    exact .inl hincoming
  · apply (valueAt?_merge_eq_some_iff hleaf path present incoming).mpr
    exact .inr ⟨habsent, hopen, hpresent⟩
  · rcases (valueAt?_merge_eq_some_iff hleaf path present incoming).mp hmerged with
      hincoming | ⟨habsent, -, hpresent⟩
    · rw [hincoming, Option.some_or]
    · rw [habsent, Option.none_or, hpresent]
  · rintro fields others rfl rfl
    exact ⟨mergeMembers fields others, by simp only [merge],
      fun key => mem_keys_mergeMembers_iff key fields others,
      fun hascend => keysAscend_mergeMembers hascend others⟩

/-- A number is replaced and an empty object gives way to `null`, while what stands beside them
stays. A member that an object brings stands where the present value was a text. -/
theorem datedGuide_leaves_and_keys :
    let present : Json := .obj RepeatedUpdates.datedGuide.metadata
    let incoming : Json := .obj RepeatedUpdates.trailUpdate.metadata
    let merged := merge present incoming
    valueAt? ["flow", "step"] present = some (.int 1) ∧
      valueAt? ["flow", "step"] merged = some (.int 2) ∧
      valueAt? ["flow", "exit"] merged = some .null ∧
      OpenTo ["flow", "id"] incoming ∧ valueAt? ["flow", "id"] merged = some (.str "f1") ∧
      (valueAt? ["author", "name"] incoming).or (valueAt? ["author", "name"] present) =
        some (.str "ranger") ∧
      ∃ fields, merged = .obj fields ∧ KeysAscend fields ∧
        ∀ key, key ∈ keys fields ↔ key = "author" ∨ key = "flow" ∨ key = "region" ∨
          key = "updated_at" := by
  intro present incoming merged
  obtain ⟨hincoming, hpresent, hmerged, hkeys⟩ := leaves_and_keys_of_merge present incoming
  have hflow : get? "flow" RepeatedUpdates.trailUpdate.metadata =
      some (.obj [("exit", .null), ("step", .int 2)]) := rfl
  have hopen : OpenTo ["flow", "id"] incoming := by
    refine (openTo_cons_obj_iff _ _ _).mpr fun member hmember => ?_
    obtain rfl := Option.some.inj (hflow.symm.trans hmember)
    exact (openTo_cons_obj_iff _ _ _).mpr fun member hmember => by cases hmember
  refine ⟨rfl, hincoming _ _ rfl rfl, hincoming _ _ rfl rfl, hopen,
    hpresent _ _ rfl rfl rfl hopen, hmerged _ _ rfl (hincoming _ _ rfl rfl), ?_⟩
  obtain ⟨fields, hfields, hunion, hascend⟩ := hkeys _ _ rfl rfl
  have hfirst : keys RepeatedUpdates.datedGuide.metadata =
      ["author", "flow", "region", "updated_at"] := rfl
  have hsecond : keys RepeatedUpdates.trailUpdate.metadata = ["author", "flow", "updated_at"] := rfl
  refine ⟨fields, hfields, hascend (by decide +kernel), fun key => (hunion key).trans ?_⟩
  rw [hfirst, hsecond]
  grind

end ScreenPattern.Proofs.MergedPaths
