import ScreenPattern.Vocabulary.Basic

/-!
Contract keys: a family together with one of its five variants. Catalog order goes through the
families as declared, and within a family through the variants.
-/

namespace ScreenPattern

/-- One of the five variations of a pattern family. -/
structure Variant where
  number : Nat
  one_le : 1 ≤ number := by decide
  le_five : number ≤ 5 := by decide
  deriving Repr, DecidableEq

namespace Variant

def min : Nat := 1

def max : Nat := 5

def first : Variant := ⟨1, by decide, by decide⟩

def all : List Variant := [{ number := 1 }, { number := 2 }, { number := 3 }, { number := 4 },
  { number := 5 }]

def ofNat? (n : Nat) : Option Variant :=
  if h : 1 ≤ n ∧ n ≤ 5 then some ⟨n, h.1, h.2⟩ else none

/-- The variant with this number, or the error that quotes the number. -/
def ofNat (n : Nat) : Except UnknownToken Variant :=
  match ofNat? n with
  | some v => .ok v
  | none => .error ⟨"pattern variant", toString n⟩

instance : ToString Variant := ⟨fun v => toString v.number⟩

def ofJson? (j : Json) : Option Variant :=
  j.asNat?.bind ofNat?

def toJson (v : Variant) : Json := .ofNat v.number

@[simp] theorem ofNat?_number (v : Variant) : ofNat? v.number = some v := by
  simp [ofNat?, v.one_le, v.le_five]

end Variant

structure ContractKey where
  family : Family
  variant : Variant
  deriving Repr, DecidableEq

namespace ContractKey

/-- Every pair of a family and a variant, in catalog order. -/
def all : List ContractKey :=
  (Tokens.all (α := Family)).flatMap fun family => Variant.all.map fun variant => ⟨family, variant⟩

/-- The place of a key in catalog order. -/
def position (key : ContractKey) : Nat :=
  5 * (Tokens.all (α := Family)).idxOf key.family + (key.variant.number - 1)

instance : LT ContractKey := ⟨fun a b => a.position < b.position⟩

instance : LE ContractKey := ⟨fun a b => a.position ≤ b.position⟩

instance (a b : ContractKey) : Decidable (a < b) := Nat.decLt a.position b.position

instance (a b : ContractKey) : Decidable (a ≤ b) := Nat.decLe a.position b.position

instance : ToString ContractKey := ⟨fun key => toString key.family ++ "|" ++ toString key.variant⟩

def ofJson? (j : Json) : Option ContractKey := do
  let fields ← j.record? ["family", "variant"]
  let family ← fields.required "family" Tokens.ofJson?
  let variant ← fields.required "variant" Variant.ofJson?
  return { family, variant }

def toJson (key : ContractKey) : Json :=
  .obj [("family", Tokens.toJson key.family), ("variant", key.variant.toJson)]

end ContractKey

end ScreenPattern
