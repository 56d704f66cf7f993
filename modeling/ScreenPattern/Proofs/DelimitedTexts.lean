namespace ScreenPattern.Proofs.DelimitedTexts

theorem eq_of_append_cons_eq {α : Type} {delimiter : α} {a b rest other : List α}
    (ha : delimiter ∉ a) (hb : delimiter ∉ b)
    (h : a ++ delimiter :: rest = b ++ delimiter :: other) : a = b ∧ rest = other := by
  induction a generalizing b with
  | nil =>
      cases b with
      | nil => exact ⟨rfl, by simpa using h⟩
      | cons c b =>
          rw [List.nil_append, List.cons_append, List.cons.injEq] at h
          exact absurd (h.1 ▸ List.mem_cons_self) hb
  | cons c a ih =>
      cases b with
      | nil =>
          rw [List.nil_append, List.cons_append, List.cons.injEq] at h
          exact absurd (h.1 ▸ List.mem_cons_self) ha
      | cons d b =>
          rw [List.cons_append, List.cons_append, List.cons.injEq] at h
          obtain ⟨rfl, hrest⟩ := h
          obtain ⟨rfl, hother⟩ := ih (fun hmem => ha (List.mem_cons_of_mem _ hmem))
            (fun hmem => hb (List.mem_cons_of_mem _ hmem)) hrest
          exact ⟨rfl, hother⟩

theorem notMem_toList_decimal {delimiter : Char} (h : delimiter.isDigit = false) (n : Nat) :
    delimiter ∉ (toString n).toList := by
  intro hmem
  rw [Nat.toString_eq_ofList_toDigits, String.toList_ofList] at hmem
  have hdigit := Nat.isDigit_of_mem_toDigits (by decide) (by decide) hmem
  rw [h] at hdigit
  cases hdigit

theorem ofDigitChars_decimal (n : Nat) : Nat.ofDigitChars 10 (toString n).toList 0 = n := by
  rw [Nat.toString_eq_ofList_toDigits, String.toList_ofList, Nat.ofDigitChars_ten_toDigits]

theorem decimal_injective {m n : Nat} (h : toString m = toString n) : m = n := by
  rw [← ofDigitChars_decimal m, h, ofDigitChars_decimal]

/-- No natural number is written as a negative one is, with a minus in front. -/
theorem minus_append_ne_decimal (s : String) (n : Nat) : "-" ++ s ≠ toString n := by
  intro h
  have hminus : '-' ∈ (toString n).toList := by
    rw [← h, String.toList_append]
    exact List.mem_append_left _ (by decide)
  exact notMem_toList_decimal (by decide) n hminus

theorem signed_decimal_injective {i j : Int} (h : toString i = toString j) : i = j := by
  cases i with
  | ofNat m =>
      cases j with
      | ofNat n => exact congrArg Int.ofNat (decimal_injective h)
      | negSucc n => exact absurd h.symm (minus_append_ne_decimal _ m)
  | negSucc m =>
      cases j with
      | ofNat n => exact absurd h (minus_append_ne_decimal _ n)
      | negSucc n =>
          have hdigits : "-" ++ toString (m + 1) = "-" ++ toString (n + 1) := h
          rw [← String.toList_inj, String.toList_append, String.toList_append,
            List.append_cancel_left_eq, String.toList_inj] at hdigits
          exact congrArg Int.negSucc (Nat.succ.inj (decimal_injective hdigits))

end ScreenPattern.Proofs.DelimitedTexts
