import ScreenPattern.Json.Record
import ScreenPattern.Text.Blank
import ScreenPattern.Text.Quoted

/-!
Closed sets of values that are written as tokens. `ofToken?` takes a token exactly as it is written;
`parse` takes it with white space around it.
-/

namespace ScreenPattern

/-- A finite type whose values have a written form. -/
class Tokens (α : Type) where
  all : List α
  token : α → String

/-- Tokens that clients send, under the name that error messages use. -/
class Vocabulary (α : Type) extends Tokens α where
  label : String

structure UnknownToken where
  vocabulary : String
  token : String
  deriving Repr, DecidableEq

def UnknownToken.message (e : UnknownToken) : String :=
  "unknown " ++ e.vocabulary ++ " " ++ Text.quote e.token

namespace Tokens

variable {α : Type} [Tokens α]

def ofToken? (s : String) : Option α :=
  all.find? fun a => token a == s

def ofJson? (j : Json) : Option α :=
  j.token?.bind ofToken?

/-- Reads a token inside a component or a layout. -/
def ofNestedJson? (j : Json) : Option α :=
  j.nestedToken?.bind ofToken?

def toJson (a : α) : Json :=
  .str (token a)

end Tokens

/-- The value whose token is left when the text is trimmed. -/
def Vocabulary.parse {α : Type} [Vocabulary α] (s : String) : Except UnknownToken α :=
  match Tokens.ofToken? (Text.trim s) with
  | some a => .ok a
  | none => .error ⟨Vocabulary.label α, Text.trim s⟩

end ScreenPattern
