import ScreenPattern.Vocabulary.Tokens

namespace ScreenPattern

inductive InputType
  | text
  | email
  | password
  | tel
  | number
  | textarea
  deriving Repr, DecidableEq

instance : Tokens InputType where
  all := [.text, .email, .password, .tel, .number, .textarea]
  token
    | .text => "text"
    | .email => "email"
    | .password => "password"
    | .tel => "tel"
    | .number => "number"
    | .textarea => "textarea"

structure FormField where
  name : String
  label : String
  inputType : InputType := .text
  required : Bool := false
  deriving Repr, DecidableEq

namespace FormField

def mentions (word : List Char) : List Char → Bool
  | [] => word.isEmpty
  | c :: rest => word.isPrefixOf (c :: rest) || mentions word rest

/-- The parts between the characters that satisfy `isSeparator`. -/
def splitAt (isSeparator : Char → Bool) : List Char → List (List Char)
  | [] => [[]]
  | c :: rest =>
      if isSeparator c then [] :: splitAt isSeparator rest
      else match splitAt isSeparator rest with
        | [] => [[c]]
        | part :: parts => (c :: part) :: parts

def words (text : List Char) : List (List Char) :=
  (splitAt (fun c => !c.isAlphanum) text).filter fun part => !part.isEmpty

def inferredType (lower : List Char) : InputType :=
  if mentions "email".toList lower then .email
  else if mentions "password".toList lower then .password
  else if mentions "phone".toList lower || mentions "mobile".toList lower then .tel
  else .text

/-- The words of the label, in lower case, with underscores between them. -/
def nameOfLabel (lower : List Char) : String :=
  "_".intercalate ((words lower).map String.ofList)

/-- A required field with the trimmed label. Its name and type follow from the label. -/
def ofLabel (label : String) : FormField :=
  let label := Text.trim label
  let lower := label.toList.map Char.toLower
  { name := nameOfLabel lower, label, inputType := inferredType lower, required := true }

/-- Reads a field whose type `type?` reads. -/
def read? (type? : Json → Option InputType) (j : Json) : Option FormField := do
  let fields ← j.record? ["name", "label", "type", "required"]
  let name ← fields.required "name" Json.asStr?
  let label ← fields.required "label" Json.asStr?
  let inputType ← fields.defaulted "type" .text type?
  let required ← fields.defaulted "required" false Json.asBool?
  return { name, label, inputType, required }

def ofJson? : Json → Option FormField :=
  read? Tokens.ofJson?

def ofNestedJson? : Json → Option FormField :=
  read? Tokens.ofNestedJson?

def toJson (field : FormField) : Json :=
  .obj [("label", .str field.label), ("name", .str field.name), ("required", .bool field.required),
    ("type", Tokens.toJson field.inputType)]

end FormField

end ScreenPattern
