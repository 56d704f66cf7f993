import ScreenPattern.Toml.Token
import ScreenPattern.Toml.Value

/-!
Reading TOML text. The tokens are taken one at a time; the state holds the document so far, the
header whose table the lines belong to, and the values that are still open, the innermost first.

A table is defined once: by its header, by dotted keys, or by braces. A header may define a table
that so far was only part of the path of another header.
-/

namespace ScreenPattern.Toml

structure Table where
  origin : Origin
  entries : Fields Value

namespace Table

def toValue (table : Table) : Value :=
  .table table.origin table.entries

/-- Changes the table at a path by `change`. Tables missing on the way are added. A dotted key
passes only through tables that dotted keys and the paths of headers brought into being, and a
header passes into the latest of several tables. -/
def within (dotted : Bool) (change : Table → Option Table) :
    List String → Table → Option Table
  | [], table => change table
  | key :: rest, table => do
      let below ← match Fields.get? key table.entries with
        | none =>
            (within dotted change rest ⟨if dotted then .dotted else .path, []⟩).map toValue
        | some (.table origin entries) =>
            if origin = .braces || (dotted && origin = .header) then none
            else (within dotted change rest ⟨origin, entries⟩).map toValue
        | some (.tables (.table origin entries :: earlier)) =>
            (within dotted change rest ⟨origin, entries⟩).map fun t =>
              .tables (t.toValue :: earlier)
        | some _ => none
      return { table with entries := Fields.set key below table.entries }

/-- Adds a value under a dotted key. The tables on its way must all come from dotted keys. -/
def addKey (path : List String) (value : Value) (table : Table) : Option Table :=
  match path.getLast? with
  | none => none
  | some key =>
      within true (fun t =>
        if path.length > 1 && t.origin != .dotted then none
        else if Fields.contains key t.entries then none
        else some { t with entries := Fields.set key value t.entries }) path.dropLast table

def define (path : List String) (table : Table) : Option Table :=
  match path.getLast? with
  | none => none
  | some key =>
      within false (fun t =>
        match Fields.get? key t.entries with
        | none => some { t with entries := Fields.set key (.table .header []) t.entries }
        | some (.table .path entries) =>
            some { t with entries := Fields.set key (.table .header entries) t.entries }
        | some _ => none) path.dropLast table

/-- Adds one more table under a repeated header. -/
def addTable (path : List String) (table : Table) : Option Table :=
  match path.getLast? with
  | none => none
  | some key =>
      within false (fun t =>
        match Fields.get? key t.entries with
        | none => some { t with entries := Fields.set key (.tables [.table .header []]) t.entries }
        | some (.tables items) =>
            some { t with
              entries := Fields.set key (.tables (.table .header [] :: items)) t.entries }
        | some _ => none) path.dropLast table

end Table

namespace Parser

inductive Piece
  | name (text : String)
  | dot
  deriving DecidableEq

def barePieces? (name : List Char) : List Char → Option (List Piece)
  | [] => some (if name.isEmpty then [] else [.name (String.ofList name.reverse)])
  | '.' :: rest => do
      let before := if name.isEmpty then [] else [Piece.name (String.ofList name.reverse)]
      return before ++ .dot :: (← barePieces? [] rest)
  | c :: rest =>
      if c.isAlphanum || c == '_' || c == '-' then barePieces? (c :: name) rest else none

def pieces? : List Token → Option (List Piece)
  | [] => some []
  | .space :: rest => pieces? rest
  | .bare text :: rest => do return (← barePieces? [] text.toList) ++ (← pieces? rest)
  | .text value false :: rest => do return .name value :: (← pieces? rest)
  | _ => none

/-- Names with one dot between any two. -/
def path? : List Piece → Option (List String)
  | [.name n] => some [n]
  | .name n :: .dot :: rest => (path? rest).map (n :: ·)
  | _ => none

/-- How many names a key may have, and how many values may be open at once. -/
def maxDepth : Nat := 79

/-- The key that tokens spell. The tokens are in reverse. -/
def key? (read : List Token) : Option (List String) := do
  let path ← path? (← pieces? read.reverse)
  if path.length ≤ maxDepth then some path else none

/-- A value that waits for one of its parts. -/
inductive Frame
  | line (path : List String)
  /-- The items before it, in reverse. -/
  | array (before : List Value)
  | braces (table : Table) (path : List String)

inductive Position
  | start
  /-- After a bracket at the start of a line. -/
  | bracket
  /-- In the key of a header; `several` for a repeated one. -/
  | header (several : Bool) (read : List Token)
  /-- After the first closing bracket of a repeated header. -/
  | closing (path : List String)
  | lineEnd
  | key (read : List Token)
  | value (frames : List Frame)
  /-- In an array, where a value or the end must come. -/
  | item (before : List Value) (frames : List Frame)
  | afterItem (items : List Value) (frames : List Frame)
  /-- After the opening brace of a table. -/
  | pair (frames : List Frame)
  | pairKey (table : Table) (read : List Token) (frames : List Frame)
  | afterPair (table : Table) (frames : List Frame)

structure State where
  root : Table := ⟨.header, []⟩
  /-- The header that the lines belong to. -/
  current : List String := []
  position : Position := .start

namespace State

def complete (state : State) (value : Value) : List Frame → Option State
  | [] => none
  | .line path :: _ => do
      let root ← state.root.within false (fun t => t.addKey path value) state.current
      return { state with root, position := .lineEnd }
  | .array before :: frames => some { state with position := .afterItem (value :: before) frames }
  | .braces table path :: frames => do
      let table ← table.addKey path value
      return { state with position := .afterPair table frames }

def beginValue (state : State) (frames : List Frame) : Token → Option State
  | .space => some { state with position := .value frames }
  | .text value _ => state.complete (.text value) frames
  | .bare text => (Scalar.ofBare? text).bind fun v => state.complete v frames
  | .openBracket =>
      if frames.length ≤ maxDepth then some { state with position := .item [] frames } else none
  | .openBrace =>
      if frames.length ≤ maxDepth then some { state with position := .pair frames } else none
  | _ => none

/-- A token of a line outside all values. -/
def stepLine (state : State) : Position → Token → Option State
  | .start, .space | .start, .newline => some state
  | .start, .openBracket => some { state with position := .bracket }
  | .start, t => some { state with position := .key [t] }
  | .bracket, .openBracket => some { state with position := .header true [] }
  | .bracket, t => some { state with position := .header false [t] }
  | .header false read, .closeBracket => do
      let path ← key? read
      let root ← state.root.define path
      return { root, current := path, position := .lineEnd }
  | .header true read, .closeBracket => do
      return { state with position := .closing (← key? read) }
  | .header several read, t => some { state with position := .header several (t :: read) }
  | .closing path, .closeBracket => do
      let root ← state.root.addTable path
      return { root, current := path, position := .lineEnd }
  | .lineEnd, .space => some state
  | .lineEnd, .newline => some { state with position := .start }
  | .key read, .equals => do
      return { state with position := .value [.line (← key? read)] }
  | .key read, t => some { state with position := .key (t :: read) }
  | _, _ => none

def step (state : State) (t : Token) : Option State :=
  match state.position, t with
  | .value frames, t => state.beginValue frames t
  | .item _ _, .space | .item _ _, .newline => some state
  | .item before frames, .closeBracket => state.complete (.array before.reverse) frames
  | .item before frames, t => state.beginValue (.array before :: frames) t
  | .afterItem _ _, .space | .afterItem _ _, .newline => some state
  | .afterItem items frames, .comma => some { state with position := .item items frames }
  | .afterItem items frames, .closeBracket => state.complete (.array items.reverse) frames
  | .pair _, .space => some state
  | .pair frames, .closeBrace => state.complete (.table .braces []) frames
  | .pair frames, t => some { state with position := .pairKey ⟨.braces, []⟩ [t] frames }
  | .pairKey table read frames, .equals => do
      return { state with position := .value (.braces table (← key? read) :: frames) }
  | .pairKey table read frames, t =>
      some { state with position := .pairKey table (t :: read) frames }
  | .afterPair _ _, .space => some state
  | .afterPair table frames, .comma => some { state with position := .pairKey table [] frames }
  | .afterPair table frames, .closeBrace => state.complete table.toValue frames
  | position, t => state.stepLine position t

end State

end Parser

def parse? (text : String) : Option (Fields Value) := do
  let tokens ← Token.scan? text.toList
  let state ← tokens.foldlM Parser.State.step {}
  match state.position with
  | .start | .lineEnd => some state.root.entries
  | _ => none

end ScreenPattern.Toml
