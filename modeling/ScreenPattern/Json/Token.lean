import ScreenPattern.Json.Number
import ScreenPattern.Text.Hex

/-!
The tokens of JSON text: punctuation, strings, and the bare words `null`, `true`, `false` and
numbers. Text is scanned one character at a time, and the state of the scan says what the characters
read so far can still become.
-/

namespace ScreenPattern.Json

inductive Token
  | openArray
  | closeArray
  | openObject
  | closeObject
  | comma
  | colon
  /-- A string, which may also be a key. -/
  | text (s : String)
  /-- Any other value without parts. -/
  | scalar (value : Json)
  deriving DecidableEq

namespace Token

def word? (word : List Char) : Option Json :=
  match String.ofList word with
  | "null" => some .null
  | "true" => some (.bool true)
  | "false" => some (.bool false)
  | _ => ofNumber? word

def punctuation? : Char → Option Token
  | '[' => some .openArray
  | ']' => some .closeArray
  | '\x7b' => some .openObject
  | '\x7d' => some .closeObject
  | ',' => some .comma
  | ':' => some .colon
  | _ => none

/-- What the characters read since the last complete token begin. Characters read are kept in
reverse. -/
inductive Scan
  | between
  | word (read : List Char)
  | text (read : List Char)
  | escape (read : List Char)
  /-- Inside a `\u` escape: `count` digits with the value `code` are read, and `high` is the first
  half of a surrogate pair. -/
  | unit (read : List Char) (high : Option Nat) (count code : Nat)
  /-- The backslash of the second half of a surrogate pair must follow. -/
  | lowBackslash (read : List Char) (high : Nat)
  /-- The `u` of the second half must follow. -/
  | lowMark (read : List Char) (high : Nat)

def isSpace (c : Char) : Bool :=
  c == ' ' || c == '\t' || c == '\n' || c == '\r'

def isWordChar (c : Char) : Bool :=
  c.isAlphanum || c == '-' || c == '+' || c == '.'

def simpleEscape? : Char → Option Char
  | '"' => some '"'
  | '\\' => some '\\'
  | '/' => some '/'
  | 'b' => some '\x08'
  | 'f' => some '\x0c'
  | 'n' => some '\n'
  | 'r' => some '\r'
  | 't' => some '\t'
  | _ => none

/-- The state after the four digits of a `\u` escape. A surrogate counts only as half of a pair. -/
def Scan.afterUnit (read : List Char) (high : Option Nat) (code : Nat) : Option Scan :=
  let isHigh := 0xD800 ≤ code && code < 0xDC00
  let isLow := 0xDC00 ≤ code && code < 0xE000
  match high with
  | none =>
      if isHigh then some (.lowBackslash read code)
      else if isLow then none
      else some (.text (Char.ofNat code :: read))
  | some h =>
      if isLow then
        some (.text (Char.ofNat (0x10000 + (h - 0xD800) * 0x400 + (code - 0xDC00)) :: read))
      else none

def Scan.stepText (c : Char) : Scan → Option Scan
  | .text read =>
      if c == '\\' then some (.escape read)
      else if c.toNat < 0x20 then none
      else some (.text (c :: read))
  | .escape read =>
      if c == 'u' then some (.unit read none 0 0)
      else (simpleEscape? c).map fun e => .text (e :: read)
  | .unit read high count code => do
      let digit ← Text.hexValue? c
      if count < 3 then some (.unit read high (count + 1) (16 * code + digit))
      else Scan.afterUnit read high (16 * code + digit)
  | .lowBackslash read high => if c == '\\' then some (.lowMark read high) else none
  | .lowMark read high => if c == 'u' then some (.unit read (some high) 0 0) else none
  | _ => none

/-- A character that belongs to no string and no word. -/
def outside (tokens : List Token) (c : Char) : Option (Scan × List Token) :=
  if isSpace c then some (.between, tokens)
  else if c == '"' then some (.text [], tokens)
  else (punctuation? c).map fun t => (.between, t :: tokens)

/-- One character further. The tokens found are kept in reverse. -/
def step : Scan × List Token → Char → Option (Scan × List Token)
  | (.between, tokens), c =>
      if isWordChar c then some (.word [c], tokens) else outside tokens c
  | (.word read, tokens), c =>
      if isWordChar c then some (.word (c :: read), tokens)
      else (word? read.reverse).bind fun v => outside (.scalar v :: tokens) c
  | (.text read, tokens), c =>
      if c == '"' then some (.between, .text (String.ofList read.reverse) :: tokens)
      else ((Scan.text read).stepText c).map (·, tokens)
  | (scan, tokens), c => (scan.stepText c).map (·, tokens)

/-- The tokens in the order of the text, if the scan ended between two tokens. -/
def finish? : Scan × List Token → Option (List Token)
  | (.between, tokens) => some tokens.reverse
  | (.word read, tokens) => (word? read.reverse).map fun v => (.scalar v :: tokens).reverse
  | _ => none

def scan? (text : List Char) : Option (List Token) :=
  (text.foldlM step (.between, [])).bind finish?

end Token

end ScreenPattern.Json
