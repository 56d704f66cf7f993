import ScreenPattern.Digest.Sha256

/-!
Content hashes. Named values are framed one after the other, so that different sequences of values
under the same names have different frames, and the frames are digested.

A value is framed by its length in UTF-8 bytes, an absent one by an exclamation mark.
-/

namespace ScreenPattern.Digest

inductive FieldValue
  | text (value : String)
  | integer (value : Int64)
  | absent
  deriving Repr, DecidableEq

namespace FieldValue

def ofText? : Option String → FieldValue
  | some s => text s
  | none => absent

def ofInteger? : Option Int64 → FieldValue
  | some i => integer i
  | none => absent

/-- The text that is framed. Integers are written in decimal. -/
def payload? : FieldValue → Option String
  | text s => some s
  | integer i => some (toString i.toInt)
  | absent => none

end FieldValue

def frame (field : String × FieldValue) : String :=
  match field.2.payload? with
  | some s => field.1 ++ ":" ++ toString s.utf8ByteSize ++ ":" ++ s ++ "\n"
  | none => field.1 ++ "!\n"

def preimage (fields : List (String × FieldValue)) : String :=
  String.join (fields.map frame)

/-- The digest of the framed fields, in hexadecimal. -/
def contentHash (fields : List (String × FieldValue)) : String :=
  Sha256.hexDigest (preimage fields).toUTF8.toList

/-- An identifier made of the first 16 characters of a hash. -/
def shortId (kind hash : String) : String :=
  kind ++ "_" ++ String.ofList (hash.toList.take 16)

end ScreenPattern.Digest
