import ScreenPattern.Proofs.CatalogRows

namespace ScreenPattern.Proofs.DeclaredSchemas

open CatalogRows FieldReading ListedEntries ValueReading
open ListedCatalog
open Fields (get?)

/-- A value that is no natural number of 64 bits. -/
def Overlooked (schema : Json) : Prop :=
  ∀ n : Nat, n < UInt64.size → schema ≠ .int n

/-- What must be right in a catalog document besides its schema. -/
structure Lists (root : Fields Json) (rows : List Json) : Prop where
  kind : ∃ text, get? "catalogKind" root = some (.str text) ∧ Text.trim text = documentKind
  listed : get? "contracts" root = some (.arr rows)
  keyed : ∀ row ∈ rows, ∃ key, rowKey row = .ok key
  distinct : (rows.map rowKey).Nodup

theorem asNat?_eq_some_iff (j : Json) (n : Nat) :
    j.asNat? = some n ↔ j = .int n ∧ n < UInt64.size := by
  cases j with
  | int i =>
      simp only [Json.asNat?, Option.ite_none_right_eq_some, Option.some.injEq, Json.int.injEq]
      omega
  | _ => simp [Json.asNat?]

theorem asNat?_eq_none_iff (j : Json) : j.asNat? = none ↔ Overlooked j := by
  simp only [Option.eq_none_iff_forall_ne_some, ne_eq, asNat?_eq_some_iff, Overlooked]
  exact forall_congr' fun n => ⟨fun h hn hj => h ⟨hj, hn⟩, fun h hj => h hj.2 hj.1⟩

section Members

variable {root : Fields Json} {rows : List Json}

theorem bind_asNat?_iff :
    (∀ n, (get? "schema" root).bind Json.asNat? = some n → n = documentSchema) ↔
      ∀ schema, get? "schema" root = some schema → schema = .int 1 ∨ Overlooked schema := by
  cases get? "schema" root with
  | none => simp
  | some schema =>
      simp only [Option.bind_some, Option.some.injEq, forall_eq', documentSchema]
      constructor
      · intro h
        cases hn : schema.asNat? with
        | none => exact .inr ((asNat?_eq_none_iff schema).mp hn)
        | some n =>
            obtain rfl : n = 1 := h n hn
            exact .inl ((asNat?_eq_some_iff schema 1).mp hn).1
      · rintro (rfl | hoverlooked) n hn
        · have hone : (1 : Int) = n := Json.int.inj ((asNat?_eq_some_iff _ n).mp hn).1
          omega
        · rw [(asNat?_eq_none_iff schema).mpr hoverlooked] at hn
          cases hn

theorem kind_iff :
    ((get? "catalogKind" root).bind Json.asStr?).map Text.trim = some documentKind ↔
      ∃ text, get? "catalogKind" root = some (.str text) ∧ Text.trim text = documentKind := by
  simp only [Option.map_eq_some_iff, Option.bind_eq_some_iff, asStr?_eq_some_iff]
  constructor
  · rintro ⟨text, ⟨_, hget, rfl⟩, htrim⟩
    exact ⟨text, hget, htrim⟩
  · rintro ⟨text, hget, htrim⟩
    exact ⟨text, ⟨_, hget, rfl⟩, htrim⟩

theorem rows_iff :
    (get? "contracts" root).bind Json.asArr? = some rows ↔
      get? "contracts" root = some (.arr rows) := by
  simp only [Option.bind_eq_some_iff, asArr?_eq_some_iff, exists_eq_right]

theorem envelope_and_sound_iff :
    Envelope root rows ∧ Sound rows ↔ Lists root rows ∧
      ∀ schema, get? "schema" root = some schema → schema = .int 1 ∨ Overlooked schema := by
  rw [← bind_asNat?_iff]
  constructor
  · rintro ⟨henvelope, hsound⟩
    exact ⟨⟨kind_iff.mp henvelope.kind, rows_iff.mp henvelope.rows, hsound.readable,
      hsound.distinct⟩, henvelope.schema⟩
  · rintro ⟨hlists, hschema⟩
    exact ⟨⟨hschema, kind_iff.mpr hlists.kind, rows_iff.mpr hlists.listed⟩, hlists.keyed,
      hlists.distinct⟩

end Members

theorem exists_ofJson_iff_lists (name : String) (document : Json) :
    (∃ catalog, ListedCatalog.ofJson name document = .ok catalog) ↔
      ∃ root rows, document = .obj root ∧ Lists root rows ∧
        ∀ schema, get? "schema" root = some schema → schema = .int 1 ∨ Overlooked schema := by
  simp only [← envelope_and_sound_iff]
  constructor
  · rintro ⟨catalog, hread⟩
    obtain ⟨root, rows, rfl, henvelope⟩ := envelope_of_ofJson hread
    exact ⟨root, rows, rfl, henvelope, (exists_ofJson_iff henvelope name).mp ⟨catalog, hread⟩⟩
  · rintro ⟨root, rows, rfl, henvelope, hsound⟩
    exact (exists_ofJson_iff henvelope name).mpr hsound

theorem ofJson_of_otherSchema {root : Fields Json} {n : Nat}
    (hget : get? "schema" root = some (.int n)) (hsize : n < UInt64.size) (hn : n ≠ 1)
    (name : String) :
    ListedCatalog.ofJson name (.obj root) =
      .error (.malformed ("catalog schema must equal 1, got " ++ toString n)) := by
  have hnat : (get? "schema" root).bind Json.asNat? = some n := by
    rw [hget, Option.bind_some, asNat?_eq_some_iff]
    exact ⟨rfl, hsize⟩
  have hother : n ≠ documentSchema := hn
  have hroot : (Json.obj root).asObj? = some root := rfl
  simp only [ListedCatalog.ofJson, hroot, hnat, Option.elim_some, bind, Except.bind, hother, ne_eq,
    not_false_eq_true, if_true]
  rfl

/-- Nothing else is read of a document than three of its members. -/
theorem ofJson_congr {root other : Fields Json}
    (hschema : (get? "schema" root).bind Json.asNat? = (get? "schema" other).bind Json.asNat?)
    (hkind : get? "catalogKind" root = get? "catalogKind" other)
    (hrows : get? "contracts" root = get? "contracts" other) (name : String) :
    ListedCatalog.ofJson name (.obj root) = ListedCatalog.ofJson name (.obj other) := by
  have hroot : ∀ fields : Fields Json, (Json.obj fields).asObj? = some fields := fun _ => rfl
  simp only [ListedCatalog.ofJson, hroot, Option.elim_some, bind, Except.bind, hschema, hkind,
    hrows]

theorem ofJson_without_schema {root : Fields Json} {schema : Json}
    (hget : get? "schema" root = some schema) (hoverlooked : Overlooked schema) (name : String) :
    ListedCatalog.ofJson name (.obj root) =
      ListedCatalog.ofJson name (.obj (Fields.without ["schema"] root)) := by
  apply ofJson_congr
  · rw [hget, get?_without, Option.bind_some, (asNat?_eq_none_iff schema).mpr hoverlooked]
    rfl
  · rw [get?_without]
    rfl
  · rw [get?_without]
    rfl

/-- A catalog is read from an object of the right kind whose rows have keys that can be read and are
all different, unless it declares a natural number other than 1 as its schema. So of what is read
the schema is 1 or not declared exactly if it is not one that is overlooked; and one that is makes
no difference to what is read. -/
theorem accepted_iff_and_overlooked (name : String) (document : Json) :
    ((∃ catalog, ListedCatalog.ofJson name document = .ok catalog) ↔
      ∃ root rows, document = .obj root ∧ Lists root rows ∧
        ∀ schema, get? "schema" root = some schema → schema = .int 1 ∨ Overlooked schema) ∧
    ∀ root, document = .obj root →
      (∀ catalog, ListedCatalog.ofJson name document = .ok catalog →
        ((∀ schema, get? "schema" root = some schema → schema = .int 1) ↔
          ∀ schema, get? "schema" root = some schema → ¬ Overlooked schema)) ∧
      (∀ n : Nat, get? "schema" root = some (.int n) → n < UInt64.size → n ≠ 1 →
        ListedCatalog.ofJson name document =
          .error (.malformed ("catalog schema must equal 1, got " ++ toString n))) ∧
      ∀ schema, get? "schema" root = some schema → Overlooked schema →
        ListedCatalog.ofJson name document =
          ListedCatalog.ofJson name (.obj (Fields.without ["schema"] root)) := by
  have hread := exists_ofJson_iff_lists name document
  refine ⟨hread, ?_⟩
  rintro root rfl
  refine ⟨fun catalog hcatalog => ?_, fun n hget hsize hn => ?_, fun schema hget hoverlooked => ?_⟩
  · obtain ⟨_, _, hroot, _, hschema⟩ := hread.mp ⟨catalog, hcatalog⟩
    cases hroot
    constructor
    · intro hone schema hget hoverlooked
      exact hoverlooked 1 (by decide) (hone schema hget)
    · intro hseen schema hget
      exact (hschema schema hget).resolve_right (hseen schema hget)
  · exact ofJson_of_otherSchema hget hsize hn name
  · exact ofJson_without_schema hget hoverlooked name

/-- A catalog document that declares its schema as the text of a number. -/
def versioned : Fields Json :=
  [("catalogKind", .str documentKind), ("contracts", .arr [bareRow "SPLASH_FULLSCREEN" 1]),
    ("schema", .str "2")]

def numbered : Fields Json :=
  [("catalogKind", .str documentKind), ("contracts", .arr [bareRow "SPLASH_FULLSCREEN" 1]),
    ("schema", .int 2)]

theorem lists_versioned : Lists versioned [bareRow "SPLASH_FULLSCREEN" 1] where
  kind := ⟨documentKind, rfl, by decide +kernel⟩
  listed := rfl
  keyed := List.forall_mem_singleton.mpr
    ⟨⟨.splashFullscreen, .first⟩, by decide +kernel⟩
  distinct := List.nodup_singleton _

/-- It is read, although its schema is not 1. -/
theorem versioned_accepted_not_one :
    (∃ catalog, ListedCatalog.ofJson "versioned" (.obj versioned) = .ok catalog) ∧
    ¬ ∃ root rows, Json.obj versioned = .obj root ∧ Lists root rows ∧
      ∀ schema, get? "schema" root = some schema → schema = .int 1 := by
  constructor
  · apply (exists_ofJson_iff_lists "versioned" (.obj versioned)).mpr
    refine ⟨versioned, _, rfl, lists_versioned, ?_⟩
    rintro schema hget
    cases hget
    exact .inr fun n _ => nofun
  · rintro ⟨root, rows, hroot, _, hone⟩
    cases hroot
    cases hone (.str "2") rfl

/-- The text is overlooked, and the number is not. -/
theorem versioned_accepted_iff :
    Overlooked (.str "2") ∧
    (∃ catalog, ListedCatalog.ofJson "versioned" (.obj versioned) = .ok catalog ∧
      ¬ ∀ schema, get? "schema" versioned = some schema → ¬ Overlooked schema) ∧
    ListedCatalog.ofJson "versioned" (.obj versioned) =
      ListedCatalog.ofJson "versioned" (.obj (Fields.without ["schema"] versioned)) ∧
    get? "schema" numbered = some (.int 2) ∧
    ListedCatalog.ofJson "numbered" (.obj numbered) =
      .error (.malformed ("catalog schema must equal 1, got " ++ toString 2)) := by
  have htext : Overlooked (.str "2") := fun n _ => nofun
  obtain ⟨hread, hmembers⟩ := accepted_iff_and_overlooked "versioned" (.obj versioned)
  obtain ⟨hone, _, hwithout⟩ := hmembers versioned rfl
  obtain ⟨_, hnumbers⟩ := accepted_iff_and_overlooked "numbered" (.obj numbered)
  obtain ⟨_, hrefused, _⟩ := hnumbers numbered rfl
  obtain ⟨catalog, hcatalog⟩ := hread.mpr ⟨versioned, _, rfl, lists_versioned, fun schema hget => by
    cases hget
    exact .inr htext⟩
  refine ⟨htext, ⟨catalog, hcatalog, fun hseen => ?_⟩, hwithout _ rfl htext, rfl,
    hrefused 2 rfl (by decide) (by decide)⟩
  cases (hone catalog hcatalog).mpr hseen (.str "2") rfl

end ScreenPattern.Proofs.DeclaredSchemas
