import ScreenPattern.Json.Token

/-!
Reading JSON text. The tokens are taken one at a time; the state holds the arrays and objects that
are still open, the innermost first. Of several members with one key the last counts.
-/

namespace ScreenPattern.Json.Parser

/-- An array or object that waits for a value. -/
inductive Frame
  /-- The items before it, in reverse. -/
  | array (before : List Json)
  | object (before : Fields Json) (key : String)

inductive State
  | value (frames : List Frame)
  | itemOrEnd (frames : List Frame)
  | afterItem (items : List Json) (frames : List Frame)
  /-- After the opening brace of an object. -/
  | keyOrEnd (frames : List Frame)
  | key (members : Fields Json) (frames : List Frame)
  | colon (members : Fields Json) (key : String) (frames : List Frame)
  | afterMember (members : Fields Json) (frames : List Frame)
  | done (value : Json)

/-- How many arrays and objects may be open at once. -/
def maxDepth : Nat := 127

def complete (value : Json) : List Frame → State
  | [] => .done value
  | .array before :: frames => .afterItem (value :: before) frames
  | .object before key :: frames => .afterMember (Fields.set key value before) frames

def begin? (frames : List Frame) : Token → Option State
  | .text s => some (complete (.str s) frames)
  | .scalar v => some (complete v frames)
  | .openArray => if frames.length < maxDepth then some (.itemOrEnd frames) else none
  | .openObject => if frames.length < maxDepth then some (.keyOrEnd frames) else none
  | _ => none

def step : State → Token → Option State
  | .value frames, t => begin? frames t
  | .itemOrEnd frames, .closeArray => some (complete (.arr []) frames)
  | .itemOrEnd frames, t => begin? (.array [] :: frames) t
  | .afterItem items frames, .comma => some (.value (.array items :: frames))
  | .afterItem items frames, .closeArray => some (complete (.arr items.reverse) frames)
  | .keyOrEnd frames, .closeObject => some (complete (.obj []) frames)
  | .keyOrEnd frames, .text k => some (.colon [] k frames)
  | .key members frames, .text k => some (.colon members k frames)
  | .colon members k frames, .colon => some (.value (.object members k :: frames))
  | .afterMember members frames, .comma => some (.key members frames)
  | .afterMember members frames, .closeObject => some (complete (.obj members) frames)
  | _, _ => none

end Parser

/-- The value that the text denotes, if it is JSON. -/
def parse? (text : String) : Option Json := do
  let tokens ← Token.scan? text.toList
  match ← tokens.foldlM Parser.step (.value []) with
  | .done value => some value
  | _ => none

/-- The value that UTF-8 bytes denote. -/
def ofUtf8? (bytes : ByteArray) : Option Json :=
  (String.fromUTF8? bytes).bind parse?

end ScreenPattern.Json
