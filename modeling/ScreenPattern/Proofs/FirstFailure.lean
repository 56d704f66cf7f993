import Mathlib.Data.List.Basic

namespace ScreenPattern.Proofs.FirstFailure

variable {ε α β : Type} {f : α → Except ε β} {items : List α} {values : List β}

theorem mapM_cons_of_ok {a : α} {b : β} (h : f a = .ok b) (rest : List α) :
    (a :: rest).mapM f = (rest.mapM f).map (b :: ·) := by
  rw [List.mapM_cons, h]
  cases rest.mapM f <;> rfl

theorem mapM_cons_of_error {a : α} {e : ε} (h : f a = .error e) (rest : List α) :
    (a :: rest).mapM f = .error e := by
  rw [List.mapM_cons, h]
  rfl

theorem mapM_congr {g : α → Except ε β} (h : ∀ a ∈ items, f a = g a) :
    items.mapM f = items.mapM g := by
  induction items with
  | nil => rfl
  | cons a rest ih =>
      obtain ⟨ha, hrest⟩ := List.forall_mem_cons.mp h
      rw [List.mapM_cons, List.mapM_cons, ha, ih hrest]

theorem mapM_eq_ok_iff : items.mapM f = .ok values ↔ items.map f = values.map .ok := by
  induction items generalizing values with
  | nil => cases values <;> simp [pure, Except.pure]
  | cons a rest ih =>
      cases ha : f a with
      | error e =>
          rw [mapM_cons_of_error ha, List.map_cons, ha]
          cases values <;> simp
      | ok b =>
          rw [mapM_cons_of_ok ha, List.map_cons, ha]
          cases values with
          | nil => cases rest.mapM f <;> simp [Except.map]
          | cons c others =>
              rw [List.map_cons, List.cons_eq_cons, ← ih]
              cases rest.mapM f <;> simp [Except.map]

theorem exists_mapM_eq_ok_iff :
    (∃ values, items.mapM f = .ok values) ↔ ∀ a ∈ items, ∃ b, f a = .ok b := by
  constructor
  · rintro ⟨values, h⟩ a ha
    have hmem : f a ∈ values.map .ok := mapM_eq_ok_iff.mp h ▸ List.mem_map_of_mem ha
    obtain ⟨b, _, hb⟩ := List.mem_map.mp hmem
    exact ⟨b, hb.symm⟩
  · intro h
    induction items with
    | nil => exact ⟨[], rfl⟩
    | cons a rest ih =>
        obtain ⟨b, hb⟩ := h a List.mem_cons_self
        obtain ⟨values, hvalues⟩ := ih fun c hc => h c (List.mem_cons_of_mem a hc)
        refine ⟨b :: values, ?_⟩
        rw [mapM_cons_of_ok hb, hvalues]
        rfl

theorem mapM_eq_error_iff {e : ε} :
    items.mapM f = .error e ↔
      ∃ a, items.find? (fun a => !(f a).isOk) = some a ∧ f a = .error e := by
  induction items with
  | nil => simp [pure, Except.pure]
  | cons a rest ih =>
      cases ha : f a with
      | error other =>
          have hfind : (a :: rest).find? (fun a => !(f a).isOk) = some a := by
            simp [ha, Except.isOk, Except.toBool]
          rw [mapM_cons_of_error ha, hfind]
          simp [ha]
      | ok b =>
          have hfind : (a :: rest).find? (fun a => !(f a).isOk) =
              rest.find? fun a => !(f a).isOk := by
            simp [ha, Except.isOk, Except.toBool]
          rw [mapM_cons_of_ok ha, hfind, ← ih]
          cases rest.mapM f <;> simp [Except.map]

theorem mem_of_mapM_eq_ok (h : items.mapM f = .ok values) {b : β} (hb : b ∈ values) :
    ∃ a ∈ items, f a = .ok b := by
  have hmem : Except.ok b ∈ items.map f := mapM_eq_ok_iff.mp h ▸ List.mem_map_of_mem hb
  exact List.mem_map.mp hmem

theorem values_of_mapM_eq_ok (h : items.mapM f = .ok values) :
    values = items.filterMap fun a => (f a).toOption := by
  calc
    values = (values.map Except.ok).filterMap (Except.toOption (ε := ε)) := by
      rw [List.filterMap_map]
      exact List.filterMap_some.symm
    _ = items.filterMap fun a => (f a).toOption := by
      rw [← mapM_eq_ok_iff.mp h, List.filterMap_map]
      rfl

/-- What the items were can be read off the results, if it can be read off each. -/
theorem map_of_mapM_eq_ok {g : β → α} (hg : ∀ a b, f a = .ok b → g b = a)
    (h : items.mapM f = .ok values) : values.map g = items := by
  rw [values_of_mapM_eq_ok h, List.map_filterMap]
  refine (List.filterMap_congr fun a ha => ?_).trans List.filterMap_some
  obtain ⟨b, hb⟩ := exists_mapM_eq_ok_iff.mp ⟨values, h⟩ a ha
  rw [hb]
  exact congrArg some (hg a b hb)

/-- In another order the steps have the same results, in another order. -/
theorem mapM_perm {others : List α} (hperm : others.Perm items) (h : items.mapM f = .ok values) :
    ∃ reordered, others.mapM f = .ok reordered ∧ reordered.Perm values := by
  have hall := exists_mapM_eq_ok_iff.mp ⟨values, h⟩
  obtain ⟨reordered, hreordered⟩ :=
    exists_mapM_eq_ok_iff.mpr fun a ha => hall a (hperm.mem_iff.mp ha)
  refine ⟨reordered, hreordered, ?_⟩
  rw [values_of_mapM_eq_ok h, values_of_mapM_eq_ok hreordered]
  exact hperm.filterMap _

end ScreenPattern.Proofs.FirstFailure
