import Mathlib.Logic.ExistsUnique
import ScreenPattern.Component.FormField
import ScreenPattern.Proofs.TextTrimming

namespace ScreenPattern.Proofs.LabelNames

open FormField (ofLabel)

/-- The runs of letters and digits in a text. A run ends only where no letter or digit follows. -/
inductive Runs : List Char → List (List Char) → Prop
  | nil : Runs [] []
  | skip (c : Char) {rest : List Char} {runs : List (List Char)}
      (hc : c.isAlphanum = false) (hrest : Runs rest runs) : Runs (c :: rest) runs
  | run (run : List Char) {rest : List Char} {runs : List (List Char)} (hne : run ≠ [])
      (hrun : ∀ c ∈ run, c.isAlphanum = true) (hend : ∀ c ∈ rest.head?, c.isAlphanum = false)
      (hrest : Runs rest runs) : Runs (run ++ rest) (run :: runs)

/-- Lower-case letters and digits, at least one. -/
def IsWord (word : List Char) : Prop :=
  word ≠ [] ∧ ∀ c ∈ word, c.isLower = true ∨ c.isDigit = true

/-- Words with one underscore between two of them. -/
inductive Spelled : List Char → Prop
  | word {word : List Char} (hword : IsWord word) : Spelled word
  | join {word rest : List Char} (hword : IsWord word) (hrest : Spelled rest) :
      Spelled (word ++ '_' :: rest)

def IsName (name : String) : Prop :=
  name = "" ∨ Spelled name.toList

def lowered (runs : List (List Char)) : List (List Char) :=
  runs.map fun run => run.map Char.toLower

def joined (words : List (List Char)) : String :=
  "_".intercalate (words.map String.ofList)

section Characters

variable {c : Char}

theorem isUpper_iff (c : Char) : c.isUpper = true ↔ 65 ≤ c.toNat ∧ c.toNat ≤ 90 := by
  change decide (65 ≤ c.val ∧ c.val ≤ 90) = true ↔ _
  rw [decide_eq_true_iff]
  rfl

theorem isLower_iff (c : Char) : c.isLower = true ↔ 97 ≤ c.toNat ∧ c.toNat ≤ 122 := by
  change (decide (97 ≤ c.val) && decide (c.val ≤ 122)) = true ↔ _
  rw [Bool.and_eq_true, decide_eq_true_iff, decide_eq_true_iff]
  rfl

theorem isDigit_iff (c : Char) : c.isDigit = true ↔ 48 ≤ c.toNat ∧ c.toNat ≤ 57 := by
  simp only [Char.isDigit, Bool.and_eq_true, decide_eq_true_eq]
  rfl

theorem isAlphanum_iff (c : Char) : c.isAlphanum = true ↔
    (c.isUpper = true ∨ c.isLower = true) ∨ c.isDigit = true := by
  change (c.isUpper || c.isLower || c.isDigit) = true ↔ _
  rw [Bool.or_eq_true, Bool.or_eq_true]

theorem isAlphanum_of_isBlankChar (h : Text.isBlankChar c = true) : c.isAlphanum = false := by
  rw [Bool.eq_false_iff, ne_eq, isAlphanum_iff, isUpper_iff, isLower_iff, isDigit_iff]
  simp only [Text.isBlankChar, Bool.or_eq_true, Bool.and_eq_true, decide_eq_true_eq,
    beq_iff_eq] at h
  omega

theorem toLower_of_not_isUpper (h : ¬ c.isUpper = true) : c.toLower = c :=
  dif_neg (mt (isUpper_iff c).mpr h)

theorem toNat_toLower_of_isUpper (h : c.isUpper = true) : c.toLower.toNat = c.toNat + 32 := by
  have hrange : 65 ≤ c.val.toNat ∧ c.val.toNat ≤ 90 := (isUpper_iff c).mp h
  refine (congrArg Char.toNat (dif_pos hrange)).trans ?_
  change (c.val.toNat + 32) % 2 ^ 32 = c.val.toNat + 32
  exact Nat.mod_eq_of_lt (by omega)

theorem toLower_of_isLower_or_isDigit (h : c.isLower = true ∨ c.isDigit = true) :
    c.toLower = c := by
  apply toLower_of_not_isUpper
  rw [isUpper_iff]
  rw [isLower_iff, isDigit_iff] at h
  omega

theorem isAlphanum_of_isLower_or_isDigit (h : c.isLower = true ∨ c.isDigit = true) :
    c.isAlphanum = true := by
  rw [isAlphanum_iff, or_assoc]
  exact .inr h

theorem isLower_or_isDigit_toLower (h : c.isAlphanum = true) :
    c.toLower.isLower = true ∨ c.toLower.isDigit = true := by
  rcases (isAlphanum_iff c).mp h with (hupper | hlower) | hdigit
  · have hnumber := toNat_toLower_of_isUpper hupper
    rw [isUpper_iff] at hupper
    exact .inl ((isLower_iff _).mpr (by omega))
  · exact .inl (by rwa [toLower_of_isLower_or_isDigit (.inl hlower)])
  · exact .inr (by rwa [toLower_of_isLower_or_isDigit (.inr hdigit)])

theorem isAlphanum_toLower (c : Char) : c.toLower.isAlphanum = c.isAlphanum := by
  by_cases hupper : c.isUpper = true
  · have halphanum : c.isAlphanum = true := (isAlphanum_iff c).mpr (.inl (.inl hupper))
    rw [halphanum]
    exact isAlphanum_of_isLower_or_isDigit (isLower_or_isDigit_toLower halphanum)
  · rw [toLower_of_not_isUpper hupper]

end Characters

section Runs

variable {text : List Char} {runs : List (List Char)}

theorem exists_runs (text : List Char) : ∃ runs, Runs text runs := by
  induction text with
  | nil => exact ⟨[], .nil⟩
  | cons c rest ih =>
      obtain ⟨runs, hruns⟩ := ih
      by_cases hc : c.isAlphanum = true
      · cases hruns with
        | nil => exact ⟨[[c]], .run [c] (by simp) (by simpa) (by simp) .nil⟩
        | skip d hd hrest =>
            exact ⟨_, .run [c] (by simp) (by simpa) (by simpa) (.skip d hd hrest)⟩
        | run run hne hrun hend hrest =>
            exact ⟨_, .run (c :: run) (by simp) (List.forall_mem_cons.mpr ⟨hc, hrun⟩) hend hrest⟩
      · exact ⟨runs, .skip c (by simpa using hc) hruns⟩

theorem splitAt_append {p : Char → Bool} {run rest : List Char} {parts : List (List Char)}
    (hrun : ∀ c ∈ run, p c = false) (hrest : FormField.splitAt p rest = [] :: parts) :
    FormField.splitAt p (run ++ rest) = run :: parts := by
  induction run with
  | nil => exact hrest
  | cons c run ih =>
      obtain ⟨hc, hrun⟩ := List.forall_mem_cons.mp hrun
      simp [FormField.splitAt, hc, ih hrun]

/-- The words that are found are the runs, so a text has no other runs. -/
theorem Runs.words_eq (h : Runs text runs) : FormField.words text = runs := by
  induction h with
  | nil => rfl
  | skip c hc _ ih => simpa [FormField.words, FormField.splitAt, hc] using ih
  | @run run rest runs hne hrun hend _ ih =>
      have hparts : ∃ parts, FormField.splitAt (fun c => !c.isAlphanum) rest = [] :: parts := by
        cases rest with
        | nil => exact ⟨[], rfl⟩
        | cons c rest =>
            have hc : c.isAlphanum = false := hend c rfl
            exact ⟨FormField.splitAt (fun c => !c.isAlphanum) rest, by
              simp [FormField.splitAt, hc]⟩
      obtain ⟨parts, hparts⟩ := hparts
      have hsplit : FormField.splitAt (fun c => !c.isAlphanum) (run ++ rest) = run :: parts :=
        splitAt_append (fun c hc => by simp [hrun c hc]) hparts
      rw [FormField.words, hparts] at ih
      rw [FormField.words, hsplit]
      simpa [hne] using ih

theorem Runs.unique {others : List (List Char)} (h : Runs text runs) (hothers : Runs text others) :
    runs = others :=
  h.words_eq.symm.trans hothers.words_eq

theorem Runs.isRun (h : Runs text runs) :
    ∀ run ∈ runs, run ≠ [] ∧ ∀ c ∈ run, c.isAlphanum = true := by
  induction h with
  | nil => exact List.forall_mem_nil _
  | skip _ _ _ ih => exact ih
  | run run hne hrun _ _ ih => exact List.forall_mem_cons.mpr ⟨⟨hne, hrun⟩, ih⟩

theorem Runs.of_append_left {before : List Char} (hbefore : ∀ c ∈ before, c.isAlphanum = false)
    (h : Runs text runs) : Runs (before ++ text) runs := by
  induction before with
  | nil => exact h
  | cons c before ih =>
      obtain ⟨hc, hbefore⟩ := List.forall_mem_cons.mp hbefore
      exact .skip c hc (ih hbefore)

theorem Runs.of_append_right {after : List Char} (hafter : ∀ c ∈ after, c.isAlphanum = false)
    (h : Runs text runs) : Runs (text ++ after) runs := by
  induction h with
  | nil =>
      rw [List.nil_append, ← List.append_nil after]
      exact .of_append_left hafter .nil
  | skip c hc _ ih => exact .skip c hc ih
  | @run run rest runs hne hrun hend _ ih =>
      rw [List.append_assoc]
      refine .run run hne hrun (fun c hc => ?_) ih
      cases rest with
      | nil => exact hafter c (List.mem_of_mem_head? hc)
      | cons d rest => exact hend c hc

theorem Runs.lowered (h : Runs text runs) : Runs (text.map Char.toLower) (lowered runs) := by
  induction h with
  | nil => exact .nil
  | skip c hc _ ih => exact .skip c.toLower (by rw [isAlphanum_toLower, hc]) ih
  | @run run rest runs hne hrun hend _ ih =>
      rw [List.map_append]
      refine .run (run.map Char.toLower) (by simpa) ?_ ?_ ih
      · simpa [isAlphanum_toLower] using hrun
      · simpa [isAlphanum_toLower] using hend

/-- The runs have all letters and digits of the text, in their order. -/
theorem Runs.flatten_eq (h : Runs text runs) : runs.flatten = text.filter Char.isAlphanum := by
  induction h with
  | nil => rfl
  | skip c hc _ ih => rw [List.filter_cons_of_neg (by simp [hc]), ih]
  | run run _ hrun _ _ ih =>
      rw [List.flatten_cons, List.filter_append, List.filter_eq_self.mpr hrun, ih]

theorem runs_nil_iff (text : List Char) : Runs text [] ↔ ∀ c ∈ text, c.isAlphanum = false := by
  constructor
  · intro h c hc
    have hnone := List.filter_eq_nil_iff.mp h.flatten_eq.symm c hc
    rwa [Bool.not_eq_true] at hnone
  · intro h
    rw [← List.append_nil text]
    exact .of_append_left h .nil

end Runs

section Names

variable {text : List Char} {words : List (List Char)}

theorem toList_joined (words : List (List Char)) :
    (joined words).toList = ['_'].intercalate words := by
  simp [joined, String.toList_intercalate, Function.comp_def]

theorem runs_intercalate (h : ∀ word ∈ words, IsWord word) :
    Runs (['_'].intercalate words) words := by
  induction words with
  | nil => exact .nil
  | cons word rest ih =>
      obtain ⟨⟨hne, hword⟩, hrest⟩ := List.forall_mem_cons.mp h
      have hrun : ∀ c ∈ word, c.isAlphanum = true :=
        fun c hc => isAlphanum_of_isLower_or_isDigit (hword c hc)
      cases rest with
      | nil => simpa using Runs.run word hne hrun (by simp) .nil
      | cons next rest =>
          rw [List.intercalate_cons_cons, List.append_assoc]
          refine .run word hne hrun ?_ (.skip '_' rfl (ih hrest))
          intro c hc
          cases hc
          rfl

theorem spelled_intercalate (hne : words ≠ []) (h : ∀ word ∈ words, IsWord word) :
    Spelled (['_'].intercalate words) := by
  induction words with
  | nil => exact absurd rfl hne
  | cons word rest ih =>
      obtain ⟨hword, hrest⟩ := List.forall_mem_cons.mp h
      cases rest with
      | nil => simpa using Spelled.word hword
      | cons next rest =>
          rw [List.intercalate_cons_cons, List.append_assoc]
          exact .join hword (ih (by simp) hrest)

theorem Spelled.exists_words (h : Spelled text) :
    ∃ word rest, text = ['_'].intercalate (word :: rest) ∧ ∀ w ∈ word :: rest, IsWord w := by
  induction h with
  | @word word hword => exact ⟨word, [], by simp, List.forall_mem_singleton.mpr hword⟩
  | @join word _ hword _ ih =>
      obtain ⟨next, rest, rfl, hrest⟩ := ih
      refine ⟨word, next :: rest, ?_, List.forall_mem_cons.mpr ⟨hword, hrest⟩⟩
      rw [List.intercalate_cons_cons, List.append_assoc]
      rfl

theorem isName_iff (name : String) :
    IsName name ↔ ∃ words, joined words = name ∧ ∀ word ∈ words, IsWord word := by
  constructor
  · rintro (rfl | hspelled)
    · exact ⟨[], rfl, List.forall_mem_nil _⟩
    · obtain ⟨word, rest, htext, hwords⟩ := hspelled.exists_words
      refine ⟨word :: rest, ?_, hwords⟩
      rw [← String.toList_inj, toList_joined, htext]
  · rintro ⟨words, rfl, hwords⟩
    rcases words with _ | ⟨word, rest⟩
    · exact .inl rfl
    · refine .inr ?_
      rw [toList_joined]
      exact spelled_intercalate (by simp) hwords

/-- Words can be read back from the name they are joined to. -/
theorem eq_of_joined_eq {others : List (List Char)} (h : ∀ word ∈ words, IsWord word)
    (hothers : ∀ word ∈ others, IsWord word) (heq : joined words = joined others) :
    words = others := by
  have htext : ['_'].intercalate words = ['_'].intercalate others := by
    rw [← toList_joined, heq, toList_joined]
  exact (runs_intercalate h).unique (htext ▸ runs_intercalate hothers)

theorem lowered_of_isWord (h : ∀ word ∈ words, IsWord word) : lowered words = words := by
  have hword : ∀ word ∈ words, word.map Char.toLower = word := by
    intro word hmem
    calc
      word.map Char.toLower = word.map id :=
        List.map_congr_left fun c hc => toLower_of_isLower_or_isDigit ((h word hmem).2 c hc)
      _ = word := List.map_id word
  calc
    lowered words = words.map id := List.map_congr_left hword
    _ = words := List.map_id words

theorem Runs.isWord_lowered {runs : List (List Char)} (h : Runs text runs) :
    ∀ word ∈ LabelNames.lowered runs, IsWord word := by
  intro word hword
  obtain ⟨run, hrun, rfl⟩ := List.mem_map.mp hword
  obtain ⟨hne, hall⟩ := h.isRun run hrun
  refine ⟨by simpa using hne, fun c hc => ?_⟩
  obtain ⟨d, hd, rfl⟩ := List.mem_map.mp hc
  exact isLower_or_isDigit_toLower (hall d hd)

end Names

section Labels

variable {label : String} {runs : List (List Char)}

/-- White space has no letters and digits, so trimming leaves the runs as they are. -/
theorem Runs.trim (h : Runs label.toList runs) : Runs (Text.trim label).toList runs := by
  obtain ⟨before, after, hlabel, hbefore, hafter⟩ :=
    TextTrimming.exists_append_stripEnds Text.isBlankChar label.toList
  have hblank : ∀ {blanks : List Char}, blanks.all Text.isBlankChar = true →
      ∀ c ∈ blanks, c.isAlphanum = false :=
    fun hblanks c hc => isAlphanum_of_isBlankChar (List.all_eq_true.mp hblanks c hc)
  obtain ⟨others, hothers⟩ := exists_runs (Text.trim label).toList
  have hback : Runs label.toList others := by
    rw [hlabel]
    rw [Text.trim, String.toList_ofList] at hothers
    exact (hothers.of_append_left (hblank hbefore)).of_append_right (hblank hafter)
  rw [h.unique hback]
  exact hothers

/-- The name of a label is made of its runs in lower case. -/
theorem name_ofLabel (h : Runs label.toList runs) :
    (ofLabel label).name = joined (lowered runs) := by
  simp only [ofLabel, FormField.nameOfLabel, h.trim.lowered.words_eq, joined]

theorem isName_name (label : String) : IsName (ofLabel label).name := by
  obtain ⟨runs, hruns⟩ := exists_runs label.toList
  exact (isName_iff _).mpr ⟨lowered runs, (name_ofLabel hruns).symm, hruns.isWord_lowered⟩

/-- The names are the labels that are their own names. -/
theorem name_eq_self_iff (name : String) : (ofLabel name).name = name ↔ IsName name := by
  constructor
  · intro h
    rw [← h]
    exact isName_name name
  · intro h
    obtain ⟨words, rfl, hwords⟩ := (isName_iff name).mp h
    have hruns : Runs (joined words).toList words := by
      rw [toList_joined]
      exact runs_intercalate hwords
    rw [name_ofLabel hruns, lowered_of_isWord hwords]

theorem name_eq_name_iff {first second : String} {runs others : List (List Char)}
    (hfirst : Runs first.toList runs) (hsecond : Runs second.toList others) :
    (ofLabel first).name = (ofLabel second).name ↔ lowered runs = lowered others := by
  rw [name_ofLabel hfirst, name_ofLabel hsecond]
  constructor
  · exact eq_of_joined_eq hfirst.isWord_lowered hsecond.isWord_lowered
  · exact congrArg joined

theorem name_eq_empty_iff (label : String) :
    (ofLabel label).name = "" ↔ ∀ c ∈ label.toList, c.isAlphanum = false := by
  obtain ⟨runs, hruns⟩ := exists_runs label.toList
  have hempty : (ofLabel "").name = "" := (name_eq_self_iff "").mpr (.inl rfl)
  have hnone : Runs "".toList [] := (runs_nil_iff _).mpr (by simp)
  calc
    (ofLabel label).name = "" ↔ (ofLabel label).name = (ofLabel "").name := by rw [hempty]
    _ ↔ lowered runs = lowered [] := name_eq_name_iff hruns hnone
    _ ↔ Runs label.toList [] := ?_
    _ ↔ ∀ c ∈ label.toList, c.isAlphanum = false := runs_nil_iff label.toList
  constructor
  · intro h
    have hnil : runs = [] := List.map_eq_nil_iff.mp h
    exact hnil ▸ hruns
  · intro h
    rw [hruns.unique h]

/-- The name of a label is empty or spells words of lower-case letters and digits; it is empty
exactly if the label has no letter and no digit. Labels have one name exactly if their runs of
letters and digits are the same up to case, and a name is kept when it is taken for a label. -/
theorem name_normal_and_eq_iff (label other : String) :
    IsName (ofLabel label).name ∧
      ((ofLabel label).name = "" ↔ ∀ c ∈ label.toList, c.isAlphanum = false) ∧
      (∃! runs, Runs label.toList runs) ∧
      ((ofLabel label).name = (ofLabel other).name ↔
        ∃ runs others, Runs label.toList runs ∧ Runs other.toList others ∧
          lowered runs = lowered others) ∧
      (ofLabel (ofLabel label).name).name = (ofLabel label).name := by
  obtain ⟨runs, hruns⟩ := exists_runs label.toList
  obtain ⟨others, hothers⟩ := exists_runs other.toList
  refine ⟨isName_name label, name_eq_empty_iff label, ⟨runs, hruns, fun _ h => h.unique hruns⟩,
    ?_, (name_eq_self_iff _).mpr (isName_name label)⟩
  constructor
  · intro h
    exact ⟨runs, others, hruns, hothers, (name_eq_name_iff hruns hothers).mp h⟩
  · rintro ⟨_, _, hfirst, hsecond, h⟩
    exact (name_eq_name_iff hfirst hsecond).mpr h

example : (ofLabel " E-Mail (2x) _ Größe").name = "e_mail_2x_gr_e" := by decide +kernel

end Labels

end ScreenPattern.Proofs.LabelNames
