import ScreenPattern.Json.Basic

namespace ScreenPattern.Json

mutual

/-- The present value after the incoming one is merged into it. -/
def merge (present : Json) : Json → Json
  | obj incoming =>
      match present with
      | obj fields => obj (mergeMembers fields incoming)
      | _ => obj incoming
  | incoming => incoming

/-- The members of an object after each incoming one is merged into the present one of its key. -/
def mergeMembers (present : Fields Json) : List (String × Json) → Fields Json
  | [] => present
  | (key, value) :: rest =>
      Fields.set key
        (match Fields.get? key present with
          | some current => merge current value
          | none => value)
        (mergeMembers present rest)

end

theorem get?_mergeMembers (key : String) (present incoming : Fields Json) :
    Fields.get? key (mergeMembers present incoming) =
      match Fields.get? key incoming with
      | none => Fields.get? key present
      | some value =>
          some (match Fields.get? key present with
            | some current => merge current value
            | none => value) := by
  induction incoming with
  | nil => simp [mergeMembers, Fields.get?]
  | cons e rest ih =>
      obtain ⟨k, v⟩ := e
      rw [mergeMembers, Fields.get?_set]
      by_cases h : key = k
      · subst h
        simp [Fields.get?]
      · simp [Fields.get?, h, Ne.symm h, ih]

end ScreenPattern.Json
