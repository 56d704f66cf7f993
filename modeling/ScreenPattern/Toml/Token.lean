import ScreenPattern.Text.Hex

/-!
The tokens of TOML text. Comments belong to no token. Keys, numbers, dates and the words `true` and
`false` are all runs of bare characters; what such a run means depends on where it stands.
-/

namespace ScreenPattern.Toml

inductive Token
  | openBracket
  | closeBracket
  | openBrace
  | closeBrace
  | comma
  | equals
  | space
  | newline
  | bare (text : String)
  /-- A quoted string, on one line or on several. -/
  | text (value : String) (multiline : Bool)
  deriving Repr, DecidableEq

namespace Token

/-- The two kinds of quotes. Escapes stand only inside double ones. -/
inductive Quote
  | double
  | single
  deriving DecidableEq

def Quote.mark : Quote → Char
  | double => '"'
  | single => '\x27'

/-- What the characters read since the last complete token begin. Characters read are kept in
reverse. -/
inductive Scan
  | between
  | bare (read : List Char)
  /-- After a full date and a space, which may go on with a time. -/
  | date (read : List Char)
  | comment
  /-- After a carriage return, whose line feed must follow. -/
  | carriageReturn
  /-- One or two quotes at the start of a string. -/
  | opening (quote : Quote) (marks : Nat)
  /-- At the start of a string of several lines, where a line end does not count. -/
  | first (quote : Quote)
  | firstReturn (quote : Quote)
  | text (quote : Quote) (multiline : Bool) (read : List Char)
  | textReturn (quote : Quote) (read : List Char)
  /-- Quotes inside a string of several lines. -/
  | marks (quote : Quote) (count : Nat) (read : List Char)
  | escape (multiline : Bool) (read : List Char)
  /-- Inside an escape by code point: `left` digits are missing. -/
  | code (multiline : Bool) (left value : Nat) (read : List Char)
  /-- After a backslash and blanks, where the line must end. -/
  | foldBlank (read : List Char)
  | foldReturn (read : List Char)
  /-- White space after a line end that a backslash removes. -/
  | fold (read : List Char)

def isBlank (c : Char) : Bool :=
  c == ' ' || c == '\t'

def isPlain (c : Char) : Bool :=
  c == '\t' || (0x20 ≤ c.toNat && c.toNat != 0x7F)

def isBareChar (c : Char) : Bool :=
  c.isAlphanum || c == '_' || c == '-' || c == '+' || c == '.' || c == ':'

def punctuation? : Char → Option Token
  | '[' => some .openBracket
  | ']' => some .closeBracket
  | '\x7b' => some .openBrace
  | '\x7d' => some .closeBrace
  | ',' => some .comma
  | '=' => some .equals
  | _ => none

def isDate (read : List Char) : Bool :=
  match read with
  | [d₂, d₁, '-', m₂, m₁, '-', y₄, y₃, y₂, y₁] =>
      [d₂, d₁, m₂, m₁, y₄, y₃, y₂, y₁].all Char.isDigit
  | _ => false

def simpleEscape? : Char → Option Char
  | '"' => some '"'
  | '\\' => some '\\'
  | 'b' => some '\x08'
  | 't' => some '\t'
  | 'n' => some '\n'
  | 'f' => some '\x0c'
  | 'r' => some '\r'
  | _ => none

def char? (n : Nat) : Option Char :=
  if h : n.isValidChar then some (Char.ofNatAux n h) else none

def finished (read : List Char) (multiline : Bool) : Token :=
  .text (String.ofList read.reverse) multiline

def outside (c : Char) (tokens : List Token) : Option (Scan × List Token) :=
  if isBareChar c then some (.bare [c], tokens)
  else if isBlank c then some (.between, .space :: tokens)
  else if c == '\n' then some (.between, .newline :: tokens)
  else if c == '\r' then some (.carriageReturn, tokens)
  else if c == '#' then some (.comment, tokens)
  else if c == '"' then some (.opening .double 1, tokens)
  else if c == '\x27' then some (.opening .single 1, tokens)
  else (punctuation? c).map fun t => (.between, t :: tokens)

def inside (quote : Quote) (multiline : Bool) (read : List Char) (c : Char)
    (tokens : List Token) : Option (Scan × List Token) :=
  if c == quote.mark then
    if multiline then some (.marks quote 1 read, tokens)
    else some (.between, finished read false :: tokens)
  else if c == '\\' && quote == .double then some (.escape multiline read, tokens)
  else if isPlain c then some (.text quote multiline (c :: read), tokens)
  else if multiline && c == '\n' then some (.text quote true ('\n' :: read), tokens)
  else if multiline && c == '\r' then some (.textReturn quote read, tokens)
  else none

/-- One character further. The tokens found are kept in reverse. -/
def step : Scan × List Token → Char → Option (Scan × List Token)
  | (.between, tokens), c => outside c tokens
  | (.bare read, tokens), c =>
      if isBareChar c then some (.bare (c :: read), tokens)
      else if c == ' ' && isDate read then some (.date read, tokens)
      else outside c (.bare (String.ofList read.reverse) :: tokens)
  | (.date read, tokens), c =>
      if c.isDigit then some (.bare (c :: ' ' :: read), tokens)
      else outside c (.space :: .bare (String.ofList read.reverse) :: tokens)
  | (.comment, tokens), c =>
      if isPlain c then some (.comment, tokens)
      else if c == '\n' then some (.between, .newline :: tokens)
      else if c == '\r' then some (.carriageReturn, tokens)
      else none
  | (.carriageReturn, tokens), c => if c == '\n' then some (.between, .newline :: tokens) else none
  | (.opening quote 1, tokens), c =>
      if c == quote.mark then some (.opening quote 2, tokens)
      else inside quote false [] c tokens
  | (.opening quote _, tokens), c =>
      if c == quote.mark then some (.first quote, tokens)
      else outside c (finished [] false :: tokens)
  | (.first quote, tokens), c =>
      if c == '\n' then some (.text quote true [], tokens)
      else if c == '\r' then some (.firstReturn quote, tokens)
      else inside quote true [] c tokens
  | (.firstReturn quote, tokens), c =>
      if c == '\n' then some (.text quote true [], tokens) else none
  | (.text quote multiline read, tokens), c => inside quote multiline read c tokens
  | (.textReturn quote read, tokens), c =>
      if c == '\n' then some (.text quote true ('\n' :: read), tokens) else none
  | (.marks quote count read, tokens), c =>
      if c == quote.mark then
        if count == 4 then
          some (.between, finished (quote.mark :: quote.mark :: read) true :: tokens)
        else some (.marks quote (count + 1) read, tokens)
      else if count < 3 then
        inside quote true (List.replicate count quote.mark ++ read) c tokens
      else outside c (finished (List.replicate (count - 3) quote.mark ++ read) true :: tokens)
  | (.escape multiline read, tokens), c =>
      if c == 'u' then some (.code multiline 4 0 read, tokens)
      else if c == 'U' then some (.code multiline 8 0 read, tokens)
      else if multiline && isBlank c then some (.foldBlank read, tokens)
      else if multiline && c == '\n' then some (.fold read, tokens)
      else if multiline && c == '\r' then some (.foldReturn read, tokens)
      else (simpleEscape? c).map fun e => (.text .double multiline (e :: read), tokens)
  | (.code multiline left value read, tokens), c => do
      let value := 16 * value + (← Text.hexValue? c)
      if left ≤ 1 then
        let e ← char? value
        return (.text .double multiline (e :: read), tokens)
      else return (.code multiline (left - 1) value read, tokens)
  | (.foldBlank read, tokens), c =>
      if isBlank c then some (.foldBlank read, tokens)
      else if c == '\n' then some (.fold read, tokens)
      else if c == '\r' then some (.foldReturn read, tokens)
      else none
  | (.foldReturn read, tokens), c => if c == '\n' then some (.fold read, tokens) else none
  | (.fold read, tokens), c =>
      if isBlank c || c == '\n' then some (.fold read, tokens)
      else if c == '\r' then some (.foldReturn read, tokens)
      else inside .double true read c tokens

/-- The tokens in the order of the text, if the text does not end inside a string. -/
def finish? : Scan × List Token → Option (List Token)
  | (.between, tokens) | (.comment, tokens) => some tokens.reverse
  | (.bare read, tokens) | (.date read, tokens) =>
      some (.bare (String.ofList read.reverse) :: tokens).reverse
  | (.opening _ 2, tokens) => some (finished [] false :: tokens).reverse
  | (.marks quote count read, tokens) =>
      if count < 3 then none
      else some (finished (List.replicate (count - 3) quote.mark ++ read) true :: tokens).reverse
  | _ => none

/-- The tokens of a text. A byte order mark in front does not count. -/
def scan? (text : List Char) : Option (List Token) :=
  let text := match text with
    | '\uFEFF' :: rest => rest
    | text => text
  (text.foldlM step (.between, [])).bind finish?

end Token

end ScreenPattern.Toml
