import ScreenPattern.Catalog.Source

/-!
Catalogs read from a JSON document that lists contract literals. Each literal says its own key; the
document is refused where a key cannot be read or comes twice.
-/

namespace ScreenPattern

/-- A named catalog with its entries in ascending order of their keys. -/
structure ListedCatalog where
  name : String
  entries : List (ContractKey × Json)

namespace ListedCatalog

def documentKind : String := "screenflow.pattern_catalog.v1"

def documentSchema : Nat := 1

/-- The key that a row declares, or the reason why it declares none. -/
def rowKey (row : Json) : Except String ContractKey := do
  let token ← ((row.get? "family").bind Json.asStr?).elim
    (.error "family must be a string") .ok
  let family ← (Vocabulary.parse token).mapError UnknownToken.message
  let number ← (((row.get? "variant").bind Json.asNat?).filter (· < 256)).elim
    (.error "variant must be a small integer") .ok
  let variant ← (Variant.ofNat number).mapError UnknownToken.message
  return { family, variant }

def find? (key : ContractKey) (entries : List (ContractKey × Json)) : Option Json :=
  (entries.find? fun e => e.1 == key).map (·.2)

/-- Puts an entry before the first one with a greater key. -/
def place (key : ContractKey) (row : Json) :
    List (ContractKey × Json) → List (ContractKey × Json)
  | [] => [(key, row)]
  | e :: rest => if key < e.1 then (key, row) :: e :: rest else e :: place key row rest

/-- Adds the rows from the given index on. -/
def addRows (entries : List (ContractKey × Json)) (i : Nat) :
    List Json → Except CatalogError (List (ContractKey × Json))
  | [] => .ok entries
  | row :: rest =>
      match rowKey row with
      | .error reason => .error (.malformed ("contracts[" ++ toString i ++ "]: " ++ reason))
      | .ok key =>
          if (find? key entries).isSome then .error (.duplicateEntry key)
          else addRows (place key row entries) (i + 1) rest

/-- The catalog of a document. The literals themselves are not looked into. -/
def ofJson (name : String) (document : Json) : Except CatalogError ListedCatalog := do
  let root ← document.asObj?.elim (.error (.malformed "catalog root must be an object")) .ok
  match (root.get? "schema").bind Json.asNat? with
  | some schema =>
      if schema ≠ documentSchema then
        .error (.malformed ("catalog schema must equal " ++ toString documentSchema ++ ", got "
          ++ toString schema))
  | none => pure ()
  if ((root.get? "catalogKind").bind Json.asStr?).map Text.trim ≠ some documentKind then
    .error (.malformed ("catalogKind must equal " ++ Text.quote documentKind))
  let rows ← ((root.get? "contracts").bind Json.asArr?).elim
    (.error (.malformed "catalog must contain a `contracts` list")) .ok
  let entries ← addRows [] 0 rows
  return { name, entries }

def source (catalog : ListedCatalog) : CatalogSource where
  name := catalog.name
  entry key := .ok (find? key catalog.entries)
  keys := catalog.entries.map (·.1)

end ListedCatalog

end ScreenPattern
