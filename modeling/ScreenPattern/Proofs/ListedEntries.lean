import ScreenPattern.Catalog.Listed
import ScreenPattern.Proofs.CatalogOrder
import ScreenPattern.Proofs.ValueReading

namespace ScreenPattern.Proofs.ListedEntries

open CatalogOrder ValueReading
open ListedCatalog
open Fields (get?)

section Results

variable {ε ε' α β : Type}

theorem bind_eq_ok_iff {x : Except ε α} {f : α → Except ε β} {b : β} :
    (x >>= f) = .ok b ↔ ∃ a, x = .ok a ∧ f a = .ok b := by
  cases x <;> simp [bind, Except.bind]

theorem mapError_eq_ok_iff {x : Except ε α} {f : ε → ε'} {a : α} :
    x.mapError f = .ok a ↔ x = .ok a := by
  cases x <;> simp [Except.mapError]

theorem elim_error_ok_eq_ok_iff {value : Option α} {error : ε} {a : α} :
    value.elim (.error error) Except.ok = .ok a ↔ value = some a := by
  cases value <;> simp

end Results

theorem ofNat_eq_ok_iff (n : Nat) (variant : Variant) :
    Variant.ofNat n = .ok variant ↔ n = variant.number := by
  constructor
  · intro h
    unfold Variant.ofNat Variant.ofNat? at h
    split at h
    · rename_i found hfound
      cases h
      split at hfound
      · cases hfound
        rfl
      · cases hfound
    · cases h
  · rintro rfl
    simp [Variant.ofNat]

theorem rowKey_eq_ok_iff (row : Json) (key : ContractKey) :
    rowKey row = .ok key ↔
      (∃ text, row.get? "family" = some (.str text) ∧ Vocabulary.parse text = .ok key.family) ∧
        (row.get? "variant").bind Json.asNat? = some key.variant.number := by
  have hsmall : key.variant.number < 256 := by
    have hle := key.variant.le_five
    omega
  simp only [rowKey, bind_eq_ok_iff, mapError_eq_ok_iff, elim_error_ok_eq_ok_iff]
  constructor
  · rintro ⟨text, htext, family, hfamily, n, hn, variant, hvariant, hkey⟩
    cases hkey
    obtain ⟨j, hget, hj⟩ := Option.bind_eq_some_iff.mp htext
    rw [(asStr?_eq_some_iff j text).mp hj] at hget
    rw [ofNat_eq_ok_iff] at hvariant
    subst hvariant
    exact ⟨⟨text, hget, hfamily⟩, (Option.filter_eq_some_iff.mp hn).1⟩
  · rintro ⟨⟨text, hget, hfamily⟩, hn⟩
    refine ⟨text, by rw [hget]; rfl, key.family, hfamily, key.variant.number, ?_, key.variant,
      (ofNat_eq_ok_iff _ _).mpr rfl, rfl⟩
    exact Option.filter_eq_some_iff.mpr ⟨hn, decide_eq_true hsmall⟩

/-- Entries in catalog order, each under the key of its row. -/
structure Filed (entries : List (ContractKey × Json)) : Prop where
  ordered : (entries.map (·.1)).Pairwise (· < ·)
  keyed : ∀ e ∈ entries, rowKey e.2 = .ok e.1

theorem filed_nil : Filed [] := by
  constructor <;> simp

variable {entries : List (ContractKey × Json)} {key : ContractKey} {row : Json}

theorem isSome_find?_iff : (find? key entries).isSome = true ↔ key ∈ entries.map (·.1) := by
  simp [ListedCatalog.find?]

theorem mem_of_find? (h : find? key entries = some row) : (key, row) ∈ entries := by
  obtain ⟨e, hfound, rfl⟩ := Option.map_eq_some_iff.mp h
  have hkey : e.1 = key := by simpa using List.find?_some hfound
  subst hkey
  exact List.mem_of_find?_eq_some hfound

theorem mem_place (e : ContractKey × Json) :
    e ∈ place key row entries ↔ e = (key, row) ∨ e ∈ entries := by
  induction entries with
  | nil => simp [place]
  | cons first rest ih =>
      rw [place]
      split
      · exact List.mem_cons
      · rw [List.mem_cons, ih, List.mem_cons, or_left_comm]

theorem ordered_place (hordered : (entries.map (·.1)).Pairwise (· < ·))
    (hnew : key ∉ entries.map (·.1)) : ((place key row entries).map (·.1)).Pairwise (· < ·) := by
  induction entries with
  | nil => simp [place]
  | cons first rest ih =>
      obtain ⟨hbelow, hrest⟩ := List.pairwise_cons.mp hordered
      have hne : key ≠ first.1 := fun h => hnew (h ▸ List.mem_cons_self)
      have hnew : key ∉ rest.map (·.1) := fun h => hnew (List.mem_cons_of_mem _ h)
      rw [place]
      split
      · rename_i hlt
        refine List.pairwise_cons.mpr ⟨fun other hother => ?_, hordered⟩
        rcases List.mem_cons.mp hother with rfl | hlater
        · exact hlt
        · exact Nat.lt_trans hlt (hbelow other hlater)
      · rename_i hnlt
        refine List.pairwise_cons.mpr ⟨fun other hother => ?_, ih hrest hnew⟩
        obtain ⟨e, he, rfl⟩ := List.mem_map.mp hother
        rcases (mem_place e).mp he with rfl | hold
        · exact lt_of_not_lt hnlt hne
        · exact hbelow e.1 (List.mem_map_of_mem hold)

theorem filed_place (hfiled : Filed entries) (hrow : rowKey row = .ok key)
    (hnew : key ∉ entries.map (·.1)) : Filed (place key row entries) := by
  refine ⟨ordered_place hfiled.ordered hnew, fun e he => ?_⟩
  rcases (mem_place e).mp he with rfl | hold
  · exact hrow
  · exact hfiled.keyed e hold

/-- Rows are added only under keys of their own, so whatever is added the entries stay filed. -/
theorem filed_addRows {final : List (ContractKey × Json)} {i : Nat} {rows : List Json}
    (hfiled : Filed entries) (hadded : addRows entries i rows = .ok final) : Filed final := by
  induction rows generalizing entries i with
  | nil =>
      cases hadded
      exact hfiled
  | cons row rest ih =>
      rw [addRows] at hadded
      split at hadded
      · cases hadded
      · rename_i key hrow
        split at hadded
        · cases hadded
        · rename_i habsent
          exact ih (filed_place hfiled hrow fun hmem => habsent (isSome_find?_iff.mpr hmem)) hadded

/-- A document that is a catalog, whatever its rows are. -/
structure Envelope (root : Fields Json) (rows : List Json) : Prop where
  schema : ∀ n, (get? "schema" root).bind Json.asNat? = some n → n = documentSchema
  kind : ((get? "catalogKind" root).bind Json.asStr?).map Text.trim = some documentKind
  rows : (get? "contracts" root).bind Json.asArr? = some rows

theorem ofJson_obj {root : Fields Json} {rows : List Json} (h : Envelope root rows)
    (name : String) :
    ofJson name (.obj root) = (addRows [] 0 rows).map (ListedCatalog.mk name) := by
  have hroot : (Json.obj root).asObj? = some root := rfl
  simp only [ofJson, hroot, h.kind, h.rows, Option.elim_some, bind, Except.bind, pure, Except.pure,
    ne_eq, not_true_eq_false, if_false]
  cases hschema : (get? "schema" root).bind Json.asNat? with
  | none => cases addRows [] 0 rows <;> rfl
  | some n =>
      simp only [h.schema n hschema, not_true_eq_false, if_false]
      cases addRows [] 0 rows <;> rfl

theorem envelope_of_ofJson {name : String} {document : Json} {catalog : ListedCatalog}
    (hread : ofJson name document = .ok catalog) :
    ∃ root rows, document = .obj root ∧ Envelope root rows := by
  obtain ⟨root, hroot, hchecks⟩ := bind_eq_ok_iff.mp hread
  have hdocument : document = .obj root :=
    (asObj?_eq_some_iff _ _).mp (elim_error_ok_eq_ok_iff.mp hroot)
  have hschema : ∀ n, (get? "schema" root).bind Json.asNat? = some n → n = documentSchema := by
    intro n hn
    by_contra hother
    simp only [hn, ne_eq, hother, not_false_eq_true, if_true] at hchecks
    cases hchecks
  have hkind : ((get? "catalogKind" root).bind Json.asStr?).map Text.trim = some documentKind := by
    by_contra hother
    simp only [ne_eq, hother, not_false_eq_true, if_true] at hchecks
    split at hchecks
    · split at hchecks <;> cases hchecks
    · cases hchecks
  have hrows : ((get? "contracts" root).bind Json.asArr?).isSome = true := by
    by_contra hother
    rw [Option.not_isSome_iff_eq_none] at hother
    simp only [hkind, hother, ne_eq, not_true_eq_false, if_false, Option.elim_none] at hchecks
    split at hchecks
    · split at hchecks <;> cases hchecks
    · cases hchecks
  obtain ⟨rows, hrows⟩ := Option.isSome_iff_exists.mp hrows
  exact ⟨root, rows, hdocument, hschema, hkind, hrows⟩

theorem filed_ofJson {name : String} {document : Json} {catalog : ListedCatalog}
    (hread : ofJson name document = .ok catalog) : Filed catalog.entries := by
  obtain ⟨root, rows, rfl, henvelope⟩ := envelope_of_ofJson hread
  rw [ofJson_obj henvelope] at hread
  cases hadded : addRows [] 0 rows with
  | error error =>
      rw [hadded] at hread
      cases hread
  | ok entries =>
      rw [hadded] at hread
      cases hread
      exact filed_addRows filed_nil hadded

end ScreenPattern.Proofs.ListedEntries
