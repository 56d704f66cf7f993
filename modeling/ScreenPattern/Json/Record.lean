import ScreenPattern.Json.Basic

/-!
Readers for typed values. A reader gives `none` where the value does not have the form of its type.

A record is given by name, as an object, or by position, as an array of its fields in the order of
their declaration. Names that a record does not declare are ignored.
-/

namespace ScreenPattern.Json

variable {α : Type}

/-- The fields of a record that declares `names`. By position, fields at the end may be missing. -/
def record? (names : List String) : Json → Option (Fields Json)
  | obj fields => some fields
  | arr items => if items.length ≤ names.length then some (names.zip items) else none
  | _ => none

/-- A record with a leading tag, which decides what names it declares. -/
def tagged? (tagName : String) (names : String → List String) :
    Json → Option (String × Fields Json)
  | obj fields => ((Fields.get? tagName fields).bind asStr?).map (·, fields)
  | arr (str tag :: items) =>
      if items.length ≤ (names tag).length then some (tag, (names tag).zip items) else none
  | _ => none

def list? (read : Json → Option α) : Json → Option (List α)
  | arr items => items.mapM read
  | _ => none

/-- An object all of whose values `read` reads. -/
def dict? (read : Json → Option α) : Json → Option (Fields α)
  | obj fields => fields.mapM fun e => (read e.2).map (e.1, ·)
  | _ => none

def strings? : Json → Option (List String) :=
  list? asStr?

/-- A token stands by itself or as the only key of an object, over `null`. -/
def token? : Json → Option String
  | str s => some s
  | obj [(s, null)] => some s
  | _ => none

/-- Inside a component or a layout a token may also stand over an empty object. -/
def nestedToken? : Json → Option String
  | obj [(s, obj [])] => some s
  | j => token? j

end ScreenPattern.Json

namespace ScreenPattern.Fields

open Json (null)

variable {α : Type}

def required (name : String) (read : Json → Option α) (fields : Fields Json) : Option α :=
  (get? name fields).bind read

/-- A field with a value for its absence. `null` is not absence. -/
def defaulted (name : String) (default : α) (read : Json → Option α) (fields : Fields Json) :
    Option α :=
  match get? name fields with
  | none => some default
  | some j => read j

/-- A field that may be absent or `null`. -/
def optional (name : String) (read : Json → Option α) (fields : Fields Json) : Option (Option α) :=
  match get? name fields with
  | none | some null => some none
  | some j => (read j).map some

/-- The value at `name`, unless it is `null`. -/
def present? (name : String) (fields : Fields Json) : Option Json :=
  (get? name fields).filter fun j => !j.isNull

/-- An entry that is left out when there is no value. -/
def entry? (name : String) (encode : α → Json) (value : Option α) : Fields Json :=
  match value with
  | none => []
  | some v => [(name, encode v)]

/-- An entry that is left out when the list is empty. -/
def entryOfList (name : String) (encode : α → Json) (values : List α) : Fields Json :=
  if values.isEmpty then [] else [(name, .arr (values.map encode))]

/-- An entry that is left out when there is no field. -/
def entryOfFields (name : String) (fields : Fields Json) : Fields Json :=
  if fields.isEmpty then [] else [(name, .obj fields)]

end ScreenPattern.Fields
