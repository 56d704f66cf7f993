import ScreenPattern.Json.Basic

/-!
The compact text of a JSON value: no white space, the members of an object in ascending order of
their keys, and only quotes, backslashes and control characters escaped.
-/

namespace ScreenPattern.Json

def escapeChar (c : Char) : List Char :=
  match c with
  | '"' => ['\\', '"']
  | '\\' => ['\\', '\\']
  | '\x08' => ['\\', 'b']
  | '\t' => ['\\', 't']
  | '\n' => ['\\', 'n']
  | '\x0c' => ['\\', 'f']
  | '\r' => ['\\', 'r']
  | c =>
    if c.toNat < 0x20 then
      let digits := Nat.toDigits 16 c.toNat
      ['\\', 'u'] ++ List.replicate (4 - digits.length) '0' ++ digits
    else [c]

def quoted (s : String) : String :=
  String.ofList ('"' :: s.toList.flatMap escapeChar ++ ['"'])

/-- Rendered members, sorted by key. -/
def joinMembers (members : List (String × String)) : String :=
  let sorted := members.mergeSort fun a b => a.1 ≤ b.1
  "\x7b" ++ ",".intercalate (sorted.map fun m => quoted m.1 ++ ":" ++ m.2) ++ "\x7d"

mutual

def render : Json → String
  | null => "null"
  | bool b => if b then "true" else "false"
  | int i => toString i
  | real literal => literal
  | str s => quoted s
  | arr items => "[" ++ ",".intercalate (renderItems items) ++ "]"
  | obj fields => joinMembers (renderMembers fields)

def renderItems : List Json → List String
  | [] => []
  | item :: rest => render item :: renderItems rest

def renderMembers : List (String × Json) → List (String × String)
  | [] => []
  | (key, value) :: rest => (key, render value) :: renderMembers rest

end

end ScreenPattern.Json
