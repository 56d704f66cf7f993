namespace ScreenPattern

variable {α : Type} [DecidableEq α]

/-- Keeps one of each run of equal neighbours. -/
def dropRepeats : List α → List α
  | [] => []
  | [a] => [a]
  | a :: b :: rest => if a = b then dropRepeats (b :: rest) else a :: dropRepeats (b :: rest)

/-- The members of a list, each once, in ascending order. -/
def ascending (le : α → α → Bool) (members : List α) : List α :=
  dropRepeats (members.mergeSort le)

end ScreenPattern
