import Mathlib.Data.List.Nodup
import ScreenPattern.Proofs.ListedEntries

namespace ScreenPattern.Proofs.CatalogRows

open CatalogOrder ListedEntries
open ListedCatalog

/-- What is wrong with the row at an index: no key can be read from it, or its key is that of an
earlier row. -/
inductive Fault (rows : List Json) (i : Nat) : CatalogError → Prop
  | unreadable {row : Json} {reason : String} (hrow : rows[i]? = some row)
      (hkey : rowKey row = .error reason) :
      Fault rows i (.malformed ("contracts[" ++ toString i ++ "]: " ++ reason))
  | repeated {row earlier : Json} {j : Nat} {key : ContractKey} (hrow : rows[i]? = some row)
      (hkey : rowKey row = .ok key) (hlt : j < i) (hearlier : rows[j]? = some earlier)
      (hsame : rowKey earlier = .ok key) :
      Fault rows i (.duplicateEntry key)

/-- The fault at the least index that has one. -/
structure FirstFault (rows : List Json) (i : Nat) (error : CatalogError) : Prop where
  fault : Fault rows i error
  least : ∀ j < i, ∀ other, ¬ Fault rows j other

/-- Every row has a key that can be read, and no two rows have the same. -/
structure Sound (rows : List Json) : Prop where
  readable : ∀ row ∈ rows, ∃ key, rowKey row = .ok key
  distinct : (rows.map rowKey).Nodup

/-- The entries are the rows, each under its key, in catalog order. -/
structure Files (rows : List Json) (entries : List (ContractKey × Json)) : Prop
    extends Filed entries where
  perm : (entries.map fun e => (Except.ok e.1, e.2)).Perm (rows.map fun row => (rowKey row, row))

section Faults

variable {rows earlier later : List Json} {i j : Nat} {error other : CatalogError}

theorem Fault.unique (h : Fault rows i error) (h' : Fault rows i other) : error = other := by
  cases h with
  | unreadable hrow hkey =>
      cases h' with
      | unreadable hrow' hkey' =>
          cases hrow.symm.trans hrow'
          cases hkey.symm.trans hkey'
          rfl
      | repeated hrow' hkey' =>
          cases hrow.symm.trans hrow'
          cases hkey.symm.trans hkey'
  | repeated hrow hkey =>
      cases h' with
      | unreadable hrow' hkey' =>
          cases hrow.symm.trans hrow'
          cases hkey.symm.trans hkey'
      | repeated hrow' hkey' =>
          cases hrow.symm.trans hrow'
          cases hkey.symm.trans hkey'
          rfl

theorem FirstFault.unique (h : FirstFault rows i error) (h' : FirstFault rows j other) :
    error = other := by
  rcases Nat.lt_trichotomy i j with hlt | rfl | hlt
  · exact absurd h.fault (h'.least i hlt error)
  · exact h.fault.unique h'.fault
  · exact absurd h'.fault (h.least j hlt other)

/-- Later rows do not put an earlier one at fault. -/
theorem Fault.of_append (h : Fault (earlier ++ later) i error) (hi : i < earlier.length) :
    Fault earlier i error := by
  have hget : ∀ {j : Nat}, j < earlier.length → (earlier ++ later)[j]? = earlier[j]? :=
    fun hj => List.getElem?_append_left hj
  cases h with
  | unreadable hrow hkey => exact .unreadable (hget hi ▸ hrow) hkey
  | repeated hrow hkey hlt hearlier hsame =>
      exact .repeated (hget hi ▸ hrow) hkey hlt (hget (Nat.lt_trans hlt hi) ▸ hearlier) hsame

theorem Sound.not_fault (h : Sound rows) : ¬ Fault rows i error := by
  intro hfault
  cases hfault with
  | unreadable hrow hkey =>
      obtain ⟨key, hread⟩ := h.readable _ (List.mem_of_getElem? hrow)
      cases hkey.symm.trans hread
  | @repeated _ _ j _ hrow hkey hlt hearlier hsame =>
      have hlength : i < (rows.map rowKey).length := by
        rw [List.length_map]
        exact (List.getElem?_eq_some_iff.mp hrow).1
      have hi : i = j := by
        apply (List.getElem?_inj hlength h.distinct).mp
        simp [hrow, hearlier, hkey, hsame]
      exact Nat.lt_irrefl j (hi ▸ hlt)

end Faults

section Entries

variable {rows : List Json} {entries : List (ContractKey × Json)} {key : ContractKey} {row : Json}

theorem place_perm (key : ContractKey) (row : Json) (entries : List (ContractKey × Json)) :
    (place key row entries).Perm ((key, row) :: entries) := by
  induction entries with
  | nil => exact .refl _
  | cons first rest ih =>
      rw [place]
      split
      · exact .refl _
      · exact (ih.cons first).trans (.swap (key, row) first rest)

theorem addRows_cons_of_unreadable {reason : String} (hkey : rowKey row = .error reason) (i : Nat)
    (rest : List Json) :
    addRows entries i (row :: rest) =
      .error (.malformed ("contracts[" ++ toString i ++ "]: " ++ reason)) := by
  rw [addRows, hkey]

theorem addRows_cons_of_mem (hkey : rowKey row = .ok key) (hmem : key ∈ entries.map (·.1)) (i : Nat)
    (rest : List Json) : addRows entries i (row :: rest) = .error (.duplicateEntry key) := by
  rw [addRows, hkey]
  exact if_pos (isSome_find?_iff.mpr hmem)

theorem addRows_cons_of_notMem (hkey : rowKey row = .ok key) (hnew : key ∉ entries.map (·.1))
    (i : Nat) (rest : List Json) :
    addRows entries i (row :: rest) = addRows (place key row entries) (i + 1) rest := by
  rw [addRows, hkey]
  exact if_neg (mt isSome_find?_iff.mp hnew)

theorem files_nil : Files [] [] :=
  ⟨filed_nil, .refl _⟩

theorem Files.distinct (h : Files rows entries) : (entries.map (·.1)).Nodup :=
  h.ordered.imp fun hlt => ((lt_iff_le_and_ne _ _).mp hlt).2

theorem Files.mem_iff (h : Files rows entries) :
    (key, row) ∈ entries ↔ row ∈ rows ∧ rowKey row = .ok key := by
  have hmem := h.perm.mem_iff (a := ((.ok key : Except String ContractKey), row))
  simp only [List.mem_map, Prod.mk.injEq, Except.ok.injEq] at hmem
  constructor
  · intro he
    obtain ⟨found, hfound, hkey, rfl⟩ := hmem.mp ⟨_, he, rfl, rfl⟩
    exact ⟨hfound, hkey⟩
  · rintro ⟨hrow, hkey⟩
    obtain ⟨e, he, rfl, rfl⟩ := hmem.mpr ⟨row, hrow, hkey, rfl⟩
    exact he

theorem Files.mem_keys_iff (h : Files rows entries) :
    key ∈ entries.map (·.1) ↔ ∃ row ∈ rows, rowKey row = .ok key := by
  rw [List.mem_map]
  constructor
  · rintro ⟨e, he, rfl⟩
    exact ⟨e.2, h.mem_iff.mp he⟩
  · rintro ⟨row, hrow⟩
    exact ⟨(key, row), h.mem_iff.mpr hrow, rfl⟩

theorem Files.length_eq (h : Files rows entries) : entries.length = rows.length := by
  simpa using h.perm.length_eq

theorem Files.find?_eq_some_iff (h : Files rows entries) :
    find? key entries = some row ↔ row ∈ rows ∧ rowKey row = .ok key := by
  rw [← h.mem_iff]
  refine ⟨mem_of_find?, fun hmem => ?_⟩
  obtain ⟨found, hfound⟩ := Option.isSome_iff_exists.mp
    (isSome_find?_iff.mpr (List.mem_map_of_mem (f := Prod.fst) hmem))
  have hsame : (key, found) = (key, row) :=
    List.inj_on_of_nodup_map h.distinct (mem_of_find? hfound) hmem rfl
  exact hfound.trans (congrArg (some ∘ Prod.snd) hsame)

theorem Files.find?_eq_none_iff (h : Files rows entries) :
    find? key entries = none ↔ ∀ row ∈ rows, rowKey row ≠ .ok key := by
  rw [← Option.not_isSome_iff_eq_none, isSome_find?_iff, h.mem_keys_iff, not_exists]
  simp only [not_and, ne_eq]

theorem Files.sound (h : Files rows entries) : Sound rows := by
  have hkeys : ((entries.map (·.1)).map Except.ok).Perm (rows.map rowKey) := by
    simpa [Function.comp_def] using h.perm.map Prod.fst
  constructor
  · intro row hrow
    have hmem := hkeys.mem_iff.mpr (List.mem_map_of_mem (f := rowKey) hrow)
    obtain ⟨key, _, hkey⟩ := List.mem_map.mp hmem
    exact ⟨key, hkey.symm⟩
  · apply hkeys.nodup_iff.mp
    exact List.Nodup.map (fun _ _ hsame => Except.ok.inj hsame) h.distinct

theorem Files.append (h : Files rows entries) (hrow : rowKey row = .ok key)
    (hnew : key ∉ entries.map (·.1)) : Files (rows ++ [row]) (place key row entries) := by
  refine ⟨filed_place h.toFiled hrow hnew, ?_⟩
  rw [List.map_append, List.map_singleton, hrow]
  apply ((place_perm key row entries).map _).trans
  apply (h.perm.cons (Except.ok key, row)).trans
  exact (List.perm_append_singleton _ _).symm

end Entries

/-- How the rows can be taken in after others: all of them without a fault, or up to the first
fault. -/
theorem addRows_cases {earlier : List Json} {entries : List (ContractKey × Json)}
    (hfiles : Files earlier entries) (rows : List Json) :
    (∃ final, addRows entries earlier.length rows = .ok final ∧ Files (earlier ++ rows) final) ∨
    (∃ i error, addRows entries earlier.length rows = .error error ∧
      FirstFault (earlier ++ rows) i error) := by
  induction rows generalizing earlier entries with
  | nil =>
      refine .inl ⟨entries, rfl, ?_⟩
      rw [List.append_nil]
      exact hfiles
  | cons row rest ih =>
      have hrow : (earlier ++ row :: rest)[earlier.length]? = some row := by simp
      have hleast : ∀ j < earlier.length, ∀ other, ¬ Fault (earlier ++ row :: rest) j other :=
        fun j hj _ hfault => hfiles.sound.not_fault (hfault.of_append hj)
      cases hkey : rowKey row with
      | error reason =>
          rw [addRows_cons_of_unreadable hkey]
          exact .inr ⟨earlier.length, _, rfl, .unreadable hrow hkey, hleast⟩
      | ok key =>
          by_cases hmem : key ∈ entries.map (·.1)
          · obtain ⟨other, hother, hsame⟩ := hfiles.mem_keys_iff.mp hmem
            obtain ⟨j, hj⟩ := List.mem_iff_getElem?.mp hother
            have hlt : j < earlier.length := (List.getElem?_eq_some_iff.mp hj).1
            have hearlier : (earlier ++ row :: rest)[j]? = some other :=
              (List.getElem?_append_left hlt).trans hj
            rw [addRows_cons_of_mem hkey hmem]
            exact .inr ⟨earlier.length, _, rfl, .repeated hrow hkey hlt hearlier hsame, hleast⟩
          · have hrest := ih (hfiles.append hkey hmem)
            rw [List.length_append, List.length_singleton, List.append_assoc,
              List.singleton_append] at hrest
            rw [addRows_cons_of_notMem hkey hmem]
            exact hrest

theorem exists_addRows_iff (rows : List Json) :
    (∃ entries, addRows [] 0 rows = .ok entries) ↔ Sound rows := by
  obtain ⟨entries, hadded, hfiles⟩ | ⟨i, error, hadded, hfirst⟩ := addRows_cases files_nil rows
  · exact iff_of_true ⟨entries, hadded⟩ hfiles.sound
  · refine iff_of_false ?_ fun hsound => hsound.not_fault hfirst.fault
    rintro ⟨entries, hother⟩
    cases hadded.symm.trans hother

theorem addRows_eq_error_iff (rows : List Json) (error : CatalogError) :
    addRows [] 0 rows = .error error ↔ ∃ i, FirstFault rows i error := by
  obtain ⟨entries, hadded, hfiles⟩ | ⟨i, found, hadded, hfirst⟩ := addRows_cases files_nil rows
  · refine iff_of_false ?_ ?_
    · intro hother
      cases hadded.symm.trans hother
    · rintro ⟨i, hfirst⟩
      exact hfiles.sound.not_fault hfirst.fault
  · constructor
    · intro hother
      cases hadded.symm.trans hother
      exact ⟨i, hfirst⟩
    · rintro ⟨j, hother⟩
      rw [hother.unique hfirst]
      exact hadded

section Documents

variable {root : Fields Json} {rows : List Json} (h : Envelope root rows) (name : String)

include h

theorem exists_ofJson_iff :
    (∃ catalog, ListedCatalog.ofJson name (.obj root) = .ok catalog) ↔ Sound rows := by
  rw [← exists_addRows_iff, ofJson_obj h]
  cases addRows [] 0 rows <;> simp [Except.map]

theorem ofJson_eq_error_iff (error : CatalogError) :
    ListedCatalog.ofJson name (.obj root) = .error error ↔ ∃ i, FirstFault rows i error := by
  rw [← addRows_eq_error_iff, ofJson_obj h]
  cases addRows [] 0 rows <;> simp [Except.map]

theorem files_of_ofJson {catalog : ListedCatalog}
    (hread : ListedCatalog.ofJson name (.obj root) = .ok catalog) :
    catalog.name = name ∧ Files rows catalog.entries := by
  rw [ofJson_obj h] at hread
  obtain ⟨entries, hadded, hfiles⟩ | ⟨i, error, hadded, _⟩ := addRows_cases files_nil rows
  · cases hread.symm.trans (congrArg (Except.map (ListedCatalog.mk name)) hadded)
    exact ⟨rfl, hfiles⟩
  · cases hread.symm.trans (congrArg (Except.map (ListedCatalog.mk name)) hadded)

end Documents

/-- A catalog document is read exactly if every row has a key that can be read and no two rows have
the same; otherwise the first row at fault gives the error. What is read has the rows as entries,
each under its key and nothing under any other, and lists the keys in ascending order. -/
theorem ofJson_decided_by_rows {root : Fields Json} {rows : List Json} (h : Envelope root rows)
    (name : String) :
    let answer := ListedCatalog.ofJson name (.obj root)
    ((∃ catalog, answer = .ok catalog) ↔
      (∀ row ∈ rows, ∃ key, rowKey row = .ok key) ∧ (rows.map rowKey).Nodup) ∧
    (∀ error, answer = .error error ↔ ∃ i, FirstFault rows i error) ∧
    ∀ catalog, answer = .ok catalog →
      catalog.name = name ∧
      catalog.entries.length = rows.length ∧
      (catalog.entries.map fun e => (Except.ok e.1, e.2)).Perm
        (rows.map fun row => (rowKey row, row)) ∧
      (∀ key row, catalog.source.entry key = .ok (some row) ↔ row ∈ rows ∧ rowKey row = .ok key) ∧
      (∀ key, catalog.source.entry key = .ok none ↔ ∀ row ∈ rows, rowKey row ≠ .ok key) ∧
      (∀ key, key ∈ catalog.source.keys ↔ ∃ row ∈ rows, rowKey row = .ok key) ∧
      catalog.source.keys.Pairwise (· < ·) := by
  intro answer
  have hsound : (∃ catalog, answer = .ok catalog) ↔ Sound rows := exists_ofJson_iff h name
  refine ⟨?_, ofJson_eq_error_iff h name, ?_⟩
  · rw [hsound]
    exact ⟨fun hrows => ⟨hrows.readable, hrows.distinct⟩, fun hrows => ⟨hrows.1, hrows.2⟩⟩
  · intro catalog hread
    obtain ⟨hname, hfiles⟩ := files_of_ofJson h name hread
    refine ⟨hname, hfiles.length_eq, hfiles.perm, fun key row => ?_, fun key => ?_,
      fun key => hfiles.mem_keys_iff, hfiles.ordered⟩
    · exact (Except.ok.injEq _ _).to_iff.trans hfiles.find?_eq_some_iff
    · exact (Except.ok.injEq _ _).to_iff.trans hfiles.find?_eq_none_iff

/-- A row that says its family and its variant, and nothing else. -/
def bareRow (family : String) (variant : Nat) : Json :=
  .obj [("family", .str family), ("variant", .ofNat variant)]

def catalogOf (rows : List Json) : Fields Json :=
  [("catalogKind", .str "screenflow.pattern_catalog.v1 "), ("contracts", .arr rows)]

theorem envelope_catalogOf (rows : List Json) : Envelope (catalogOf rows) rows where
  schema := nofun
  kind := by
    change some (Text.trim "screenflow.pattern_catalog.v1 ") = some documentKind
    decide +kernel
  rows := rfl

/-- The third row has the key of the first, but for white space. The fourth has no key at all, which
is not looked at any more. Without these two the others are read. -/
theorem twoLists_ofJson_decided :
    let sound := [bareRow " FEATURE_LIST" 2, bareRow "PROFILE_CARD" 1]
    let faulty := sound ++ [bareRow "FEATURE_LIST\n" 2, bareRow "FEATURE_LIST" 9]
    Envelope (catalogOf faulty) faulty ∧ Envelope (catalogOf sound) sound ∧
    ListedCatalog.ofJson "faulty" (.obj (catalogOf faulty)) =
      .error (.duplicateEntry ⟨.featureList, { number := 2 }⟩) ∧
    ∃ catalog, ListedCatalog.ofJson "sound" (.obj (catalogOf sound)) = .ok catalog ∧
      catalog.entries.length = 2 ∧
      catalog.source.entry ⟨.featureList, { number := 2 }⟩ =
        .ok (some (bareRow " FEATURE_LIST" 2)) ∧
      catalog.source.entry ⟨.featureList, .first⟩ = .ok none ∧
      catalog.source.keys.Pairwise (· < ·) := by
  intro sound faulty
  have hfaulty := envelope_catalogOf faulty
  have hsound := envelope_catalogOf sound
  obtain ⟨_, herrors, _⟩ := ofJson_decided_by_rows hfaulty "faulty"
  obtain ⟨hread, _, hcatalog⟩ := ofJson_decided_by_rows hsound "sound"
  have hfeature : rowKey (bareRow " FEATURE_LIST" 2) = .ok ⟨.featureList, { number := 2 }⟩ := by
    decide +kernel
  have hprofile : rowKey (bareRow "PROFILE_CARD" 1) = .ok ⟨.profileCard, .first⟩ := by
    decide +kernel
  have hrows : Sound sound := by
    refine ⟨List.forall_mem_cons.mpr ⟨⟨_, hfeature⟩, ?_⟩, by decide +kernel⟩
    exact List.forall_mem_singleton.mpr ⟨_, hprofile⟩
  have hfirst : FirstFault faulty 2 (.duplicateEntry ⟨.featureList, { number := 2 }⟩) := by
    refine ⟨.repeated (j := 0) rfl (by decide +kernel) (by decide) rfl hfeature, ?_⟩
    intro j hj other hfault
    exact hrows.not_fault (hfault.of_append hj)
  obtain ⟨catalog, hok⟩ := hread.mpr ⟨hrows.readable, hrows.distinct⟩
  obtain ⟨_, hlength, _, hentry, hnone, _, hordered⟩ := hcatalog catalog hok
  refine ⟨hfaulty, hsound, (herrors _).mpr ⟨2, hfirst⟩, catalog, hok, hlength, ?_, ?_, hordered⟩
  · exact (hentry _ _).mpr ⟨List.mem_cons_self, hfeature⟩
  · exact (hnone _).mpr (by decide +kernel)

end ScreenPattern.Proofs.CatalogRows
