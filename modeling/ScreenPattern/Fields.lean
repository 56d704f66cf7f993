/-!
Values under text keys. New keys are placed in ascending order, which is the order of code points
and so also that of the UTF-8 bytes. Reading after `set` gives the value set at its key and the old
value at every other key.
-/

namespace ScreenPattern

abbrev Fields (α : Type) := List (String × α)

namespace Fields

variable {α : Type}

def get? (key : String) : Fields α → Option α
  | [] => none
  | (k, v) :: rest => if k = key then some v else get? key rest

def contains (key : String) (fields : Fields α) : Bool :=
  (get? key fields).isSome

def keys (fields : Fields α) : List String :=
  fields.map (·.1)

/-- Puts `value` in the place of the value at `key`, if there is one. -/
def replace (key : String) (value : α) : Fields α → Fields α
  | [] => []
  | (k, v) :: rest => if k = key then (k, value) :: rest else (k, v) :: replace key value rest

/-- Puts a new entry before the first one with a greater key. -/
def place (key : String) (value : α) : Fields α → Fields α
  | [] => [(key, value)]
  | (k, v) :: rest =>
      if key < k then (key, value) :: (k, v) :: rest else (k, v) :: place key value rest

def set (key : String) (value : α) (fields : Fields α) : Fields α :=
  if contains key fields then replace key value fields else place key value fields

/-- The entries in ascending order of their keys. Of several entries with one key the last
remains. -/
def ofList (entries : List (String × α)) : Fields α :=
  entries.foldl (fun fields e => set e.1 e.2 fields) []

/-- The entries at other keys than those listed. -/
def without (names : List String) (fields : Fields α) : Fields α :=
  fields.filter fun e => !names.contains e.1

/-- Typed entries with open ones beside them. Where both have a key, the open entry stands. -/
def beside (typed extra : Fields α) : Fields α :=
  typed.without extra.keys ++ extra

theorem get?_replace (key k : String) (value : α) (fields : Fields α) :
    get? k (replace key value fields) =
      if k = key then (get? k fields).map fun _ => value else get? k fields := by
  induction fields with
  | nil => simp [replace, get?]
  | cons e rest ih => grind [replace, get?]

theorem get?_place (key k : String) (value : α) (fields : Fields α)
    (absent : get? key fields = none) :
    get? k (place key value fields) = if k = key then some value else get? k fields := by
  induction fields with
  | nil => grind [place, get?]
  | cons e rest ih => grind [place, get?]

theorem get?_set (key k : String) (value : α) (fields : Fields α) :
    get? k (set key value fields) = if k = key then some value else get? k fields := by
  cases hget : get? key fields with
  | none => simp [set, contains, hget, get?_place key k value fields hget]
  | some v =>
      by_cases hk : k = key
      · simp [set, contains, hget, get?_replace, hk]
      · simp [set, contains, hget, get?_replace, hk]

end Fields

end ScreenPattern
