import ScreenPattern.Proofs.AscendingLists
import ScreenPattern.Report

namespace ScreenPattern.Proofs.ReportAcceptance

open AscendingLists (Linear)

theorem dropRepeats_eq_nil_iff {α : Type} [DecidableEq α] (members : List α) :
    dropRepeats members = [] ↔ members = [] := by
  induction members with
  | nil => simp [dropRepeats]
  | cons a rest ih =>
      cases rest with
      | nil => simp [dropRepeats]
      | cons b rest =>
          rw [dropRepeats]
          split
          · simpa using ih
          · simp

theorem ascending_eq_nil_iff {α : Type} [DecidableEq α] (le : α → α → Bool) (members : List α) :
    ascending le members = [] ↔ members = [] := by
  rw [ascending, dropRepeats_eq_nil_iff]
  constructor
  · intro h
    have hlength : (members.mergeSort le).length = members.length := List.length_mergeSort members
    rw [h] at hlength
    exact List.eq_nil_of_length_eq_zero hlength.symm
  · rintro rfl
    exact List.mergeSort_nil

theorem isAccepted_ofIssues_iff (found : List Issue) :
    (Report.ofIssues found).isAccepted = true ↔ found = [] := by
  simp [Report.isAccepted, Report.ofIssues, ascending_eq_nil_iff]

theorem issues_ofIssues_singleton (issue : Issue) :
    (Report.ofIssues [issue]).issues = [issue] := by
  simp [Report.ofIssues, ascending, dropRepeats]

theorem linear_issueLe : Linear Issue.le := by
  have htrans : ∀ a b c : String, a < b → b < c → a < c := fun _ _ _ => String.lt_trans
  have hasymm : ∀ a b : String, a < b → ¬ b < a := fun _ _ => String.lt_asymm
  have hle : ∀ a b : String, a ≤ b ↔ ¬ b < a := fun _ _ => String.not_lt.symm
  have htotal : ∀ a b : String, a < b ∨ a = b ∨ b < a := by
    intro a b
    by_cases hab : a < b
    · exact .inl hab
    · by_cases hba : b < a
      · exact .inr (.inr hba)
      · exact .inr (.inl (String.le_antisymm (String.not_lt.mp hba) (String.not_lt.mp hab)))
  have hissue : ∀ a b : Issue, Issue.le a b = true ↔ a.path < b.path ∨ (a.path = b.path ∧
      (a.failureClass < b.failureClass ∨
        (a.failureClass = b.failureClass ∧ ¬ b.message < a.message))) := by
    intro a b
    simp only [Issue.le, Bool.or_eq_true, Bool.and_eq_true, decide_eq_true_eq, beq_iff_eq, hle]
  constructor
  · intro a b c hab hbc
    rw [hissue] at hab hbc ⊢
    grind
  · intro a b
    rw [Bool.or_eq_true, hissue, hissue]
    grind
  · rintro ⟨_, _, _⟩ ⟨_, _, _⟩ hab hba
    rw [hissue] at hab hba
    grind

end ScreenPattern.Proofs.ReportAcceptance
