import ScreenPattern.Json.Record

/-!
Reading the fields of an object that was written entry by entry. A look-up goes through the parts in
the order in which they were written; a part that writes nothing is passed over.
-/

namespace ScreenPattern.Proofs.FieldReading

open Fields

variable {α β : Type}

/-- `read` gives back what `encode` writes, and `encode` writes something. -/
structure Reads (read : Json → Option α) (encode : α → Json) : Prop where
  read_encode : ∀ a, read (encode a) = some a
  ne_null : ∀ a, encode a ≠ .null

@[simp] theorem get?_append (key : String) (first second : Fields α) :
    get? key (first ++ second) = (get? key first).or (get? key second) := by
  induction first with
  | nil => simp [get?]
  | cons e rest ih =>
      rw [List.cons_append]
      simp only [get?]
      split
      · rfl
      · exact ih

@[simp] theorem get?_cons (key name : String) (value : α) (rest : Fields α) :
    get? key ((name, value) :: rest) = if name = key then some value else get? key rest :=
  rfl

@[simp] theorem get?_nil (key : String) : get? key ([] : Fields α) = none :=
  rfl

@[simp] theorem get?_entry? (key name : String) (encode : α → Json) (value : Option α) :
    get? key (Fields.entry? name encode value) = if name = key then value.map encode else none := by
  cases value <;> simp [Fields.entry?]

@[simp] theorem get?_entryOfList (key name : String) (encode : α → Json) (values : List α) :
    get? key (entryOfList name encode values) =
      if name = key ∧ values ≠ [] then some (.arr (values.map encode)) else none := by
  cases values <;> simp [entryOfList]

@[simp] theorem get?_entryOfFields (key name : String) (fields : Fields Json) :
    get? key (entryOfFields name fields) =
      if name = key ∧ fields ≠ [] then some (.obj fields) else none := by
  cases fields <;> simp [entryOfFields]

@[simp] theorem get?_ite_nil (key name : String) (p : Prop) [Decidable p] (value : α) :
    get? key (if p then [] else [(name, value)]) =
      if name = key ∧ ¬ p then some value else none := by
  by_cases hp : p <;> simp [hp]

theorem mem_of_get? {key : String} {fields : Fields α} {a : α} (h : get? key fields = some a) :
    (key, a) ∈ fields := by
  induction fields with
  | nil => cases h
  | cons e rest ih =>
      obtain ⟨name, value⟩ := e
      rw [get?_cons] at h
      split at h
      · rename_i hname
        cases h
        simp [hname]
      · exact List.mem_cons_of_mem _ (ih h)

theorem get?_eq_none_iff (key : String) (fields : Fields α) :
    get? key fields = none ↔ key ∉ fields.keys := by
  induction fields with
  | nil => simp [keys]
  | cons e rest ih =>
      obtain ⟨name, value⟩ := e
      by_cases hname : name = key
      · simp [keys, hname]
      · simpa [keys, hname, Ne.symm hname] using ih

theorem isNull_eq_false_iff (j : Json) : j.isNull = false ↔ j ≠ .null := by
  cases j <;> simp [Json.isNull]

theorem present?_eq_some_iff (name : String) (fields : Fields Json) (j : Json) :
    fields.present? name = some j ↔ get? name fields = some j ∧ j ≠ .null := by
  simp [present?, Option.filter_eq_some_iff, isNull_eq_false_iff]

theorem get?_of_present? {name : String} {fields : Fields Json} {j : Json}
    (h : fields.present? name = some j) : get? name fields = some j :=
  ((present?_eq_some_iff name fields j).mp h).1

/-- A field that may be `null` is read as if `null` were not there. -/
theorem optional_eq_elim (name : String) (read : Json → Option α) (fields : Fields Json) :
    fields.optional name read =
      (fields.present? name).elim (some none) fun j => (read j).map some := by
  unfold Fields.optional present?
  cases get? name fields with
  | none => rfl
  | some j => cases j <;> rfl

theorem required_eq_some_iff (name : String) (read : Json → Option α) (fields : Fields Json)
    (a : α) :
    fields.required name read = some a ↔ ∃ j, get? name fields = some j ∧ read j = some a :=
  Option.bind_eq_some_iff

/-- Where the rest of a reading succeeds or fails whatever is read, it counts only that something is
read. -/
@[simp] theorem any_const (value : Option α) (b : Bool) :
    (value.any fun _ => b) = (value.isSome && b) := by
  cases value <;> rfl

theorem isSome_required_iff (name : String) (read : Json → Option α) (fields : Fields Json) :
    (fields.required name read).isSome = true ↔
      ∃ j, get? name fields = some j ∧ (read j).isSome = true := by
  simp only [required, Option.isSome_bind, Option.any_eq_true]

theorem isSome_optional_iff (name : String) (read : Json → Option α) (fields : Fields Json) :
    (fields.optional name read).isSome = true ↔
      ∀ j, fields.present? name = some j → (read j).isSome = true := by
  rw [optional_eq_elim]
  cases fields.present? name with
  | none => simp
  | some j => simp

theorem isSome_defaulted_iff (name : String) (default : α) (read : Json → Option α)
    (fields : Fields Json) :
    (fields.defaulted name default read).isSome = true ↔
      ∀ j, get? name fields = some j → (read j).isSome = true := by
  unfold defaulted
  cases get? name fields with
  | none => simp
  | some j => simp

theorem isSome_mapM_iff {read : α → Option β} (items : List α) :
    (items.mapM read).isSome = true ↔ ∀ item ∈ items, (read item).isSome = true := by
  induction items with
  | nil => simp
  | cons item rest ih =>
      simp only [List.mapM_cons, Option.bind_eq_bind, Option.pure_def, Option.isSome_bind,
        any_const, Option.isSome_some, Bool.and_true, Bool.and_eq_true, ih, List.forall_mem_cons]

theorem required_eq {name : String} {read : Json → Option α} {encode : α → Json}
    {fields : Fields Json} {a : α} (hreads : Reads read encode)
    (hget : get? name fields = some (encode a)) : fields.required name read = some a := by
  simp [required, hget, hreads.read_encode]

theorem mapM_map_eq {read : Json → Option α} {encode : α → Json} {values : List α}
    (hread : ∀ a ∈ values, read (encode a) = some a) :
    (values.map encode).mapM read = some values := by
  induction values with
  | nil => rfl
  | cons a rest ih =>
      simp [hread a (by simp), ih fun b hb => hread b (by simp [hb])]

theorem mem_of_mapM {read : Json → Option α} {items : List Json} {values : List α}
    (h : items.mapM read = some values) :
    values.length = items.length ∧ ∀ a ∈ values, ∃ j ∈ items, read j = some a := by
  induction items generalizing values with
  | nil =>
      cases h
      simp
  | cons j rest ih =>
      simp only [List.mapM_cons, Option.bind_eq_bind, Option.bind_eq_some_iff] at h
      obtain ⟨a, ha, others, hothers, hvalues⟩ := h
      cases hvalues
      obtain ⟨hlength, hmem⟩ := ih hothers
      refine ⟨by simp [hlength], fun b hb => ?_⟩
      rcases List.mem_cons.mp hb with rfl | hb
      · exact ⟨j, by simp, ha⟩
      · obtain ⟨i, hi, hib⟩ := hmem b hb
        exact ⟨i, by simp [hi], hib⟩

theorem list?_arr {read : Json → Option α} {encode : α → Json} {values : List α}
    (hread : ∀ a ∈ values, read (encode a) = some a) :
    Json.list? read (.arr (values.map encode)) = some values :=
  mapM_map_eq hread

/-- An object all of whose values are read, under the keys they stand at. -/
theorem dict?_obj {read : Json → Option α} {encode : α → Json}
    (hreads : Reads read encode) (values : Fields α) :
    Json.dict? read (.obj (values.map fun e => (e.1, encode e.2))) = some values := by
  unfold Json.dict?
  simp only []
  induction values with
  | nil => rfl
  | cons e rest ih => simp [hreads.read_encode, ih]

theorem optional_eq {name : String} {read : Json → Option α} {encode : α → Json}
    {fields : Fields Json} {value : Option α} (hreads : Reads read encode)
    (hget : get? name fields = value.map encode) : fields.optional name read = some value := by
  unfold Fields.optional
  rw [hget]
  cases value with
  | none => rfl
  | some a =>
      have hread := hreads.read_encode a
      rw [Option.map_some]
      split
      · contradiction
      · rename_i hnull
        exact absurd (Option.some.inj hnull) (hreads.ne_null a)
      · rename_i j _ hj
        rw [← Option.some.inj hj, hread, Option.map_some]

theorem defaulted_eq_some {name : String} {default : α} {read : Json → Option α}
    {fields : Fields Json} {value : Json} (hget : get? name fields = some value) :
    fields.defaulted name default read = read value := by
  simp [defaulted, hget]

theorem defaulted_eq_none {name : String} {default : α} {read : Json → Option α}
    {fields : Fields Json} (hget : get? name fields = none) :
    fields.defaulted name default read = some default := by
  simp [defaulted, hget]

theorem defaulted_list_eq {name : String} {read : Json → Option α} {encode : α → Json}
    {fields : Fields Json} {values : List α} (hread : ∀ a ∈ values, read (encode a) = some a)
    (hget : get? name fields = if values ≠ [] then some (.arr (values.map encode)) else none) :
    fields.defaulted name [] (Json.list? read) = some values := by
  by_cases hnil : values = []
  · rw [if_neg (by simp [hnil])] at hget
    rw [defaulted_eq_none hget, hnil]
  · rw [if_pos hnil] at hget
    rw [defaulted_eq_some hget, list?_arr hread]

theorem defaulted_fields_eq {name : String} {fields values : Fields Json}
    (hget : get? name fields = if values ≠ [] then some (.obj values) else none) :
    fields.defaulted name [] Json.asObj? = some values := by
  by_cases hnil : values = []
  · rw [if_neg (by simp [hnil])] at hget
    rw [defaulted_eq_none hget, hnil]
  · rw [if_pos hnil] at hget
    rw [defaulted_eq_some hget]
    rfl

theorem get?_without (key : String) (names : List String) (fields : Fields α) :
    get? key (fields.without names) = if key ∈ names then none else get? key fields := by
  induction fields with
  | nil => simp [without]
  | cons e rest ih => grind [without, get?]

theorem notMem_keys_without {names : List String} {name : String} (hname : name ∈ names)
    (fields : Fields α) : name ∉ (fields.without names).keys := by
  rw [← get?_eq_none_iff, get?_without, if_pos hname]

/-- An open entry is found in the place of a typed one. -/
theorem get?_beside (key : String) (typed extra : Fields α) :
    get? key (beside typed extra) = (get? key extra).or (get? key typed) := by
  rw [beside, get?_append, get?_without]
  by_cases hkey : key ∈ extra.keys
  · have hfound : get? key extra ≠ none := mt (get?_eq_none_iff key extra).mp (not_not_intro hkey)
    obtain ⟨value, hvalue⟩ := Option.ne_none_iff_exists'.mp hfound
    rw [if_pos hkey, hvalue, Option.none_or, Option.some_or]
  · rw [if_neg hkey, (get?_eq_none_iff key extra).mpr hkey, Option.or_none, Option.none_or]

theorem get?_beside_of_notMem {key : String} {extra : Fields α} (hkey : key ∉ extra.keys)
    (typed : Fields α) : get? key (beside typed extra) = get? key typed := by
  rw [get?_beside, (get?_eq_none_iff key extra).mpr hkey, Option.none_or]

/-- Typed entries leave the open ones behind when they are taken away by name. -/
theorem without_beside {names : List String} {typed extra : Fields α}
    (htyped : ∀ e ∈ typed, e.1 ∈ names) (hextra : ∀ name ∈ names, name ∉ extra.keys) :
    (beside typed extra).without names = extra := by
  have hgone : (typed.without extra.keys).without names = [] := by
    refine List.filter_eq_nil_iff.mpr fun e he => ?_
    simpa using htyped e (List.mem_filter.mp he).1
  have hkept : extra.without names = extra := by
    refine List.filter_eq_self.mpr fun e he => ?_
    have hkey : e.1 ∈ extra.keys := List.mem_map.mpr ⟨e, he, rfl⟩
    simpa using fun hname => hextra e.1 hname hkey
  calc
    (beside typed extra).without names =
        (typed.without extra.keys).without names ++ extra.without names := List.filter_append ..
    _ = extra := by rw [hgone, hkept, List.nil_append]

end ScreenPattern.Proofs.FieldReading
