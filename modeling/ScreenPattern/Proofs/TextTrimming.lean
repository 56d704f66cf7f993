import ScreenPattern.Text.Blank

namespace ScreenPattern.Proofs.TextTrimming

open Text

theorem all_dropWhile (p : Char → Bool) (cs : List Char) :
    (cs.dropWhile p).all p = cs.all p := by
  induction cs with
  | nil => rfl
  | cons c rest ih =>
      by_cases hc : p c = true
      · rw [List.dropWhile_cons_of_pos hc, ih, List.all_cons, hc, Bool.true_and]
      · rw [List.dropWhile_cons_of_neg hc]

theorem isBlank_trim (s : String) : isBlank (trim s) = isBlank s := by
  simp only [isBlank, trim, stripEnds, String.toList_ofList, List.all_reverse, all_dropWhile]

theorem isBlank_append (s t : String) : isBlank (s ++ t) = (isBlank s && isBlank t) := by
  simp only [isBlank, String.toList_append, List.all_append]

theorem filled?_eq_some_iff (s t : String) :
    filled? s = some t ↔ isBlank s = false ∧ trim s = t := by
  by_cases hblank : isBlank s = true
  · simp [filled?, hblank]
  · simp [filled?, hblank]

theorem isBlank_of_filled? {s t : String} (h : filled? s = some t) : isBlank t = false := by
  obtain ⟨hblank, rfl⟩ := (filled?_eq_some_iff s t).mp h
  rw [isBlank_trim, hblank]

theorem dropWhile_append_of_all {p : Char → Bool} {before : List Char}
    (h : before.all p = true) (rest : List Char) :
    (before ++ rest).dropWhile p = rest.dropWhile p := by
  induction before with
  | nil => rfl
  | cons c before ih =>
      rw [List.all_cons, Bool.and_eq_true] at h
      rw [List.cons_append, List.dropWhile_cons_of_pos h.1, ih h.2]

theorem stripEnds_append_right {p : Char → Bool} {after : List Char}
    (h : after.all p = true) (cs : List Char) : stripEnds p (cs ++ after) = stripEnds p cs := by
  have hreverse : after.reverse.all p = true := by rwa [List.all_reverse]
  simp only [stripEnds, List.dropWhile_append]
  split
  · rename_i hempty
    have hnone : after.dropWhile p = [] := by simpa using dropWhile_append_of_all h []
    rw [hnone, List.isEmpty_iff.mp hempty]
  · rw [List.reverse_append, dropWhile_append_of_all hreverse]

/-- What is dropped at the ends is put back around what is left. -/
theorem exists_append_stripEnds (p : Char → Bool) (cs : List Char) :
    ∃ before after, cs = before ++ stripEnds p cs ++ after ∧ before.all p = true ∧
      after.all p = true := by
  have hstart := List.takeWhile_append_dropWhile (p := p) (l := cs)
  have hend := List.takeWhile_append_dropWhile (p := p) (l := (cs.dropWhile p).reverse)
  refine ⟨cs.takeWhile p, ((cs.dropWhile p).reverse.takeWhile p).reverse, ?_,
    List.all_takeWhile, by rw [List.all_reverse, List.all_takeWhile]⟩
  have hkept : stripEnds p cs ++ ((cs.dropWhile p).reverse.takeWhile p).reverse =
      cs.dropWhile p := by
    rw [stripEnds, ← List.reverse_append, hend, List.reverse_reverse]
  rw [List.append_assoc, hkept, hstart]

theorem trim_append {before after : String} (hbefore : isBlank before = true)
    (hafter : isBlank after = true) (s : String) : trim (before ++ s ++ after) = trim s := by
  have hstart : stripEnds isBlankChar (before.toList ++ s.toList) =
      stripEnds isBlankChar s.toList := by
    simp only [stripEnds, dropWhile_append_of_all hbefore]
  simp only [trim, String.toList_append, stripEnds_append_right hafter, hstart]

end ScreenPattern.Proofs.TextTrimming
