import Mathlib.Data.List.Basic
import ScreenPattern.Proofs.AscendingLists
import ScreenPattern.Vocabulary.ContractKey

namespace ScreenPattern.Proofs.CatalogOrder

open AscendingLists

theorem mem_families (family : Family) : family ∈ Tokens.all (α := Family) := by
  cases family <;> decide

theorem mem_variants (variant : Variant) : variant ∈ Variant.all := by
  obtain ⟨number, hone, hfive⟩ := variant
  have hnumber : number = 1 ∨ number = 2 ∨ number = 3 ∨ number = 4 ∨ number = 5 := by omega
  rcases hnumber with rfl | rfl | rfl | rfl | rfl <;> simp [Variant.all]

theorem mem_all (key : ContractKey) : key ∈ ContractKey.all :=
  List.mem_flatMap.mpr
    ⟨key.family, mem_families _, List.mem_map.mpr ⟨key.variant, mem_variants _, rfl⟩⟩

theorem eq_of_position_eq {a b : ContractKey} (h : a.position = b.position) : a = b := by
  obtain ⟨family, number, hone, hfive⟩ := a
  obtain ⟨otherFamily, otherNumber, hone', hfive'⟩ := b
  simp only [ContractKey.position] at h
  have hnumber : number = otherNumber := by omega
  have hplace : (Tokens.all (α := Family)).idxOf family =
      (Tokens.all (α := Family)).idxOf otherFamily := by omega
  have hfamily : family = otherFamily := (List.idxOf_inj (mem_families family)).mp hplace
  subst hnumber hfamily
  rfl

theorem lt_iff_le_and_ne (a b : ContractKey) : a < b ↔ a ≤ b ∧ a ≠ b := by
  change a.position < b.position ↔ a.position ≤ b.position ∧ a ≠ b
  constructor
  · intro h
    refine ⟨Nat.le_of_lt h, ?_⟩
    rintro rfl
    exact Nat.lt_irrefl _ h
  · rintro ⟨hle, hne⟩
    exact Nat.lt_of_le_of_ne hle fun h => hne (eq_of_position_eq h)

theorem lt_of_not_lt {a b : ContractKey} (hnlt : ¬ a < b) (hne : a ≠ b) : b < a :=
  (lt_iff_le_and_ne b a).mpr ⟨Nat.le_of_not_lt hnlt, hne.symm⟩

theorem linear_le : Linear fun a b : ContractKey => decide (a ≤ b) := by
  refine ⟨fun a b c hab hbc => ?_, fun a b => ?_, fun a b hab hba => ?_⟩
  · exact decide_eq_true (Nat.le_trans (of_decide_eq_true hab) (of_decide_eq_true hbc))
  · rw [Bool.or_eq_true, decide_eq_true_iff, decide_eq_true_iff]
    exact Nat.le_total a.position b.position
  · exact eq_of_position_eq (Nat.le_antisymm (of_decide_eq_true hab) (of_decide_eq_true hba))

theorem ascends_iff (keys : List ContractKey) :
    Ascends (fun a b => a ≤ b) keys ↔ keys.Pairwise (· < ·) := by
  simp only [Ascends, decide_eq_true_eq, ← lt_iff_le_and_ne]

theorem pairwise_lt_ascending (keys : List ContractKey) :
    (ascending (fun a b => a ≤ b) keys).Pairwise (· < ·) :=
  (ascends_iff _).mp (ascends_ascending linear_le keys)

theorem pairwise_lt_all : ContractKey.all.Pairwise (· < ·) := by
  decide

end ScreenPattern.Proofs.CatalogOrder
