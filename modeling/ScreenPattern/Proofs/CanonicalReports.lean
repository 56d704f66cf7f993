import ScreenPattern.Proofs.ReportAcceptance

namespace ScreenPattern.Proofs.CanonicalReports

open AscendingLists ReportAcceptance
open Report (ofIssues)

/-- By path, then by failure class, then by message. -/
def Before (a b : Issue) : Prop :=
  a.path < b.path ∨ (a.path = b.path ∧
    (a.failureClass < b.failureClass ∨
      (a.failureClass = b.failureClass ∧ a.message < b.message)))

/-- The issues strictly ascend, and so do the failure classes, which are those that occur. Whether
there are issues decides the result. -/
structure Canonical (report : Report) : Prop where
  issues : report.issues.Pairwise Before
  failureClasses : report.failureClasses.Pairwise (· < ·)
  occurs : ∀ failureClass, failureClass ∈ report.failureClasses ↔
    ∃ issue ∈ report.issues, issue.failureClass = failureClass
  accepted : report.result = "accepted" ↔ report.issues = []
  rejected : report.result = "rejected" ↔ report.issues ≠ []

section Order

theorem linear_stringLe : Linear fun a b : String => decide (a ≤ b) where
  trans a b c hab hbc := by
    simp only [decide_eq_true_eq] at hab hbc ⊢
    exact String.le_trans hab hbc
  total a b := by
    simpa only [Bool.or_eq_true, decide_eq_true_eq] using String.le_total a b
  antisymm a b hab hba := by
    simp only [decide_eq_true_eq] at hab hba
    exact String.le_antisymm hab hba

theorem ascends_stringLe_iff (texts : List String) :
    Ascends (fun a b : String => decide (a ≤ b)) texts ↔ texts.Pairwise (· < ·) := by
  simp only [Ascends, Std.lt_iff_le_and_ne, decide_eq_true_eq]

theorem before_iff (a b : Issue) : Before a b ↔ Issue.le a b = true ∧ a ≠ b := by
  obtain ⟨failureClass, path, message⟩ := a
  obtain ⟨otherClass, otherPath, otherMessage⟩ := b
  simp only [Before, Issue.le, Std.lt_iff_le_and_ne, Bool.or_eq_true, Bool.and_eq_true,
    decide_eq_true_eq, beq_iff_eq, ne_eq, Issue.mk.injEq]
  grind

theorem ascends_issueLe_iff (issues : List Issue) :
    Ascends Issue.le issues ↔ issues.Pairwise Before :=
  List.Pairwise.iff fun a b => (before_iff a b).symm

end Order

variable {report other : Report}

theorem mem_issues_ofIssues (found : List Issue) (issue : Issue) :
    issue ∈ (ofIssues found).issues ↔ issue ∈ found :=
  mem_ascending found issue

theorem result_ofIssues (found : List Issue) :
    (ofIssues found).result =
      if (ofIssues found).issues = [] then "accepted" else "rejected" := by
  simp only [ofIssues, List.isEmpty_iff]

theorem canonical_ofIssues (found : List Issue) : Canonical (ofIssues found) where
  issues := (ascends_issueLe_iff _).mp (ascends_ascending linear_issueLe found)
  failureClasses := (ascends_stringLe_iff _).mp (ascends_ascending linear_stringLe _)
  occurs failureClass := (mem_ascending _ failureClass).trans List.mem_map
  accepted := by
    rw [result_ofIssues]
    by_cases hnone : (ofIssues found).issues = []
    · simp [hnone]
    · simp [hnone]
  rejected := by
    rw [result_ofIssues]
    by_cases hnone : (ofIssues found).issues = []
    · simp [hnone]
    · simp [hnone]

/-- Canonical reports with the same issues have them in the same places, and the rest follows. -/
theorem Canonical.eq_of_mem_iff (h : Canonical report) (hother : Canonical other)
    (hmem : ∀ issue, issue ∈ report.issues ↔ issue ∈ other.issues) : report = other := by
  have hissues : report.issues = other.issues :=
    ((ascends_issueLe_iff _).mpr h.issues).eq_of_mem_iff linear_issueLe
      ((ascends_issueLe_iff _).mpr hother.issues) hmem
  have hclasses : report.failureClasses = other.failureClasses := by
    refine ((ascends_stringLe_iff _).mpr h.failureClasses).eq_of_mem_iff linear_stringLe
      ((ascends_stringLe_iff _).mpr hother.failureClasses) fun failureClass => ?_
    rw [h.occurs, hother.occurs, hissues]
  have hresult : report.result = other.result := by
    by_cases hnone : report.issues = []
    · rw [h.accepted.mpr hnone, hother.accepted.mpr (hissues ▸ hnone)]
    · rw [h.rejected.mpr hnone, hother.rejected.mpr (hissues ▸ hnone)]
  cases report
  cases other
  cases hissues
  cases hclasses
  cases hresult
  rfl

theorem ofIssues_eq_iff (found other : List Issue) :
    ofIssues found = ofIssues other ↔ ∀ issue, issue ∈ found ↔ issue ∈ other := by
  constructor
  · intro h issue
    rw [← mem_issues_ofIssues found, h, mem_issues_ofIssues]
  · intro hmem
    apply (canonical_ofIssues found).eq_of_mem_iff (canonical_ofIssues other)
    intro issue
    rw [mem_issues_ofIssues, mem_issues_ofIssues, hmem]

/-- Exactly the canonical reports can be made again from their own issues. -/
theorem ofIssues_issues_eq_self_iff (report : Report) :
    ofIssues report.issues = report ↔ Canonical report := by
  constructor
  · intro h
    rw [← h]
    exact canonical_ofIssues report.issues
  · intro h
    exact (canonical_ofIssues report.issues).eq_of_mem_iff h (mem_issues_ofIssues report.issues)

/-- A report has the issues that were found, in canonical form, and nothing else of how they were
found: two lists of issues give one report exactly if they have the same members. -/
theorem ofIssues_eq_iff_and_canonical (found other : List Issue) :
    (ofIssues found = ofIssues other ↔ ∀ issue, issue ∈ found ↔ issue ∈ other) ∧
      (∀ issue, issue ∈ (ofIssues found).issues ↔ issue ∈ found) ∧
      Canonical (ofIssues found) ∧
      ofIssues (ofIssues found).issues = ofIssues found :=
  ⟨ofIssues_eq_iff found other, mem_issues_ofIssues found, canonical_ofIssues found,
    (ofIssues_issues_eq_self_iff _).mpr (canonical_ofIssues found)⟩

end ScreenPattern.Proofs.CanonicalReports
