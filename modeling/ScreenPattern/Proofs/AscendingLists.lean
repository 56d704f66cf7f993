import ScreenPattern.Ascending

namespace ScreenPattern.Proofs.AscendingLists

variable {α : Type} {le : α → α → Bool}

/-- A comparison that leaves no doubt about the order of two values. -/
structure Linear (le : α → α → Bool) : Prop where
  trans : ∀ a b c, le a b = true → le b c = true → le a c = true
  total : ∀ a b, (le a b || le b a) = true
  antisymm : ∀ a b, le a b = true → le b a = true → a = b

/-- Every member is below all that come after it. -/
def Ascends (le : α → α → Bool) (members : List α) : Prop :=
  members.Pairwise fun a b => le a b = true ∧ a ≠ b

theorem Ascends.nodup {members : List α} (h : Ascends le members) : members.Nodup :=
  h.imp And.right

theorem Ascends.eq_of_mem_iff (hle : Linear le) {first second : List α} (hfirst : Ascends le first)
    (hsecond : Ascends le second) (hmem : ∀ a, a ∈ first ↔ a ∈ second) : first = second := by
  have hperm : first.Perm second :=
    (List.perm_ext_iff_of_nodup hfirst.nodup hsecond.nodup).mpr hmem
  exact hperm.eq_of_pairwise (fun a b _ _ => hle.antisymm a b) (hfirst.imp And.left)
    (hsecond.imp And.left)

variable [DecidableEq α]

theorem mem_dropRepeats (members : List α) (a : α) : a ∈ dropRepeats members ↔ a ∈ members := by
  fun_induction dropRepeats members with
  | case1 => rfl
  | case2 b => rfl
  | case3 b rest ih => simp [ih]
  | case4 b c rest hne ih => simp [ih]

/-- In an ordered list equal members are neighbours, so none of them is left twice. -/
theorem ascends_dropRepeats (hle : Linear le) {members : List α}
    (hordered : members.Pairwise fun a b => le a b = true) : Ascends le (dropRepeats members) := by
  fun_induction dropRepeats members with
  | case1 => exact .nil
  | case2 b => exact List.pairwise_singleton _ b
  | case3 b rest ih => exact ih hordered.of_cons
  | case4 b c rest hne ih =>
      obtain ⟨hbelow, hrest⟩ := List.pairwise_cons.mp hordered
      refine List.pairwise_cons.mpr ⟨fun d hd => ?_, ih hrest⟩
      have hmem : d ∈ c :: rest := (mem_dropRepeats _ d).mp hd
      refine ⟨hbelow d hmem, ?_⟩
      rintro rfl
      rcases List.mem_cons.mp hmem with rfl | hlater
      · exact hne rfl
      · have hcb : le c b = true := (List.pairwise_cons.mp hrest).1 b hlater
        exact hne (hle.antisymm b c (hbelow c List.mem_cons_self) hcb)

theorem mem_ascending (members : List α) (a : α) : a ∈ ascending le members ↔ a ∈ members := by
  rw [ascending, mem_dropRepeats, List.mem_mergeSort]

theorem ascends_ascending (hle : Linear le) (members : List α) :
    Ascends le (ascending le members) :=
  ascends_dropRepeats hle (List.pairwise_mergeSort hle.trans hle.total members)

theorem ascending_eq_iff (hle : Linear le) (first second : List α) :
    ascending le first = ascending le second ↔ ∀ a, a ∈ first ↔ a ∈ second := by
  constructor
  · intro h a
    calc
      a ∈ first ↔ a ∈ ascending le first := (mem_ascending first a).symm
      _ ↔ a ∈ second := by rw [h, mem_ascending]
  · intro h
    refine (ascends_ascending hle first).eq_of_mem_iff hle (ascends_ascending hle second) ?_
    intro a
    rw [mem_ascending, mem_ascending, h]

/-- It does not matter whether members are left out before a list is put in order or after it. -/
theorem filter_ascending (hle : Linear le) (p : α → Bool) (members : List α) :
    (ascending le members).filter p = ascending le (members.filter p) := by
  have hfiltered : Ascends le ((ascending le members).filter p) :=
    (ascends_ascending hle members).filter p
  refine hfiltered.eq_of_mem_iff hle (ascends_ascending hle (members.filter p)) fun a => ?_
  rw [List.mem_filter, mem_ascending, mem_ascending, List.mem_filter]

end ScreenPattern.Proofs.AscendingLists
