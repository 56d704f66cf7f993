import ScreenPattern.Fields

/-!
JSON values and the views that ask whether a value is of one kind.

A number literal without fraction and exponent is an `int`; every other number is a `real`, which is
passed on as it was written and is never taken for an integer.
-/

namespace ScreenPattern

inductive Json
  | null
  | bool (value : Bool)
  | int (value : Int)
  | real (literal : String)
  | str (text : String)
  | arr (items : List Json)
  | obj (fields : List (String × Json))
  deriving Repr, Inhabited

namespace Json

mutual

def decEq : (a b : Json) → Decidable (a = b)
  | null, null => isTrue rfl
  | bool a, bool b => decidable_of_iff (a = b) (by simp)
  | int a, int b => decidable_of_iff (a = b) (by simp)
  | real a, real b => decidable_of_iff (a = b) (by simp)
  | str a, str b => decidable_of_iff (a = b) (by simp)
  | arr a, arr b =>
      have := decEqItems a b
      decidable_of_iff (a = b) (by simp)
  | obj a, obj b =>
      have := decEqFields a b
      decidable_of_iff (a = b) (by simp)
  | null, bool _ | null, int _ | null, real _ | null, str _ | null, arr _ | null, obj _
  | bool _, null | bool _, int _ | bool _, real _ | bool _, str _ | bool _, arr _ | bool _, obj _
  | int _, null | int _, bool _ | int _, real _ | int _, str _ | int _, arr _ | int _, obj _
  | real _, null | real _, bool _ | real _, int _ | real _, str _ | real _, arr _ | real _, obj _
  | str _, null | str _, bool _ | str _, int _ | str _, real _ | str _, arr _ | str _, obj _
  | arr _, null | arr _, bool _ | arr _, int _ | arr _, real _ | arr _, str _ | arr _, obj _
  | obj _, null | obj _, bool _ | obj _, int _ | obj _, real _ | obj _, str _ | obj _, arr _ =>
      isFalse (by simp)

def decEqItems : (a b : List Json) → Decidable (a = b)
  | [], [] => isTrue rfl
  | a :: as, b :: bs =>
      have := decEq a b
      have := decEqItems as bs
      decidable_of_iff (a = b ∧ as = bs) (by simp)
  | [], _ :: _ | _ :: _, [] => isFalse (by simp)

def decEqFields : (a b : List (String × Json)) → Decidable (a = b)
  | [], [] => isTrue rfl
  | (k, a) :: as, (l, b) :: bs =>
      have := decEq a b
      have := decEqFields as bs
      decidable_of_iff ((k = l ∧ a = b) ∧ as = bs) (by simp)
  | [], _ :: _ | _ :: _, [] => isFalse (by simp)

end

instance : DecidableEq Json := decEq

def isNull : Json → Bool
  | null => true
  | _ => false

def asBool? : Json → Option Bool
  | bool b => some b
  | _ => none

def asStr? : Json → Option String
  | str s => some s
  | _ => none

def asArr? : Json → Option (List Json)
  | arr items => some items
  | _ => none

def asObj? : Json → Option (Fields Json)
  | obj fields => some fields
  | _ => none

/-- A natural number of at most 64 bits. -/
def asNat? : Json → Option Nat
  | int i => if 0 ≤ i ∧ i < UInt64.size then some i.toNat else none
  | _ => none

/-- An integer that 64 bits with a sign can hold. -/
def asInt64? : Json → Option Int64
  | int i =>
      let n := Int64.ofInt i
      if n.toInt = i then some n else none
  | _ => none

/-- A natural number that 32 bits can hold. -/
def asUInt32? : Json → Option UInt32
  | int i =>
      let n := UInt32.ofNat i.toNat
      if n.toNat = i then some n else none
  | _ => none

def get? (key : String) : Json → Option Json
  | obj fields => Fields.get? key fields
  | _ => none

def ofUInt32 (n : UInt32) : Json := int n.toNat

def ofNat (n : Nat) : Json := int n

def ofInt64 (n : Int64) : Json := int n.toInt

def ofStrings (texts : List String) : Json := arr (texts.map str)

end Json

end ScreenPattern
