import ScreenPattern.Component.Basic
import ScreenPattern.Proofs.FieldReading
import ScreenPattern.Vocabulary.ContractKey

namespace ScreenPattern.Proofs.ValueReading

open FieldReading

theorem reads_str : Reads Json.asStr? Json.str :=
  ⟨fun _ => rfl, fun _ => nofun⟩

theorem asStr?_eq_some_iff (j : Json) (s : String) : j.asStr? = some s ↔ j = .str s := by
  cases j <;> simp [Json.asStr?]

theorem asObj?_eq_some_iff (j : Json) (fields : Fields Json) :
    j.asObj? = some fields ↔ j = .obj fields := by
  cases j <;> simp [Json.asObj?]

theorem asArr?_eq_some_iff (j : Json) (items : List Json) :
    j.asArr? = some items ↔ j = .arr items := by
  cases j <;> simp [Json.asArr?]

theorem reads_int64 : Reads Json.asInt64? Json.ofInt64 :=
  ⟨fun n => by simp [Json.asInt64?, Json.ofInt64], fun _ => nofun⟩

/-- No two values of a type are written as the same token, and none is left out of its list. -/
class LawfulTokens (α : Type) [Tokens α] : Prop where
  ofToken?_token : ∀ a : α, Tokens.ofToken? (Tokens.token a) = some a

instance : LawfulTokens Family := ⟨fun a => by cases a <;> rfl⟩

instance : LawfulTokens Vibe := ⟨fun a => by cases a <;> rfl⟩

instance : LawfulTokens ComponentKind := ⟨fun a => by cases a <;> rfl⟩

instance : LawfulTokens TextAlign := ⟨fun a => by cases a <;> rfl⟩

instance : LawfulTokens ButtonStyle := ⟨fun a => by cases a <;> rfl⟩

instance : LawfulTokens ButtonSize := ⟨fun a => by cases a <;> rfl⟩

instance : LawfulTokens InputType := ⟨fun a => by cases a <;> rfl⟩

/-- Tokens that trimming leaves as they are. -/
class BareTokens (α : Type) [Tokens α] : Prop where
  trim_token : ∀ a : α, Text.trim (Tokens.token a) = Tokens.token a

instance : BareTokens Family := ⟨fun a => by cases a <;> rfl⟩

instance : BareTokens Vibe := ⟨fun a => by cases a <;> rfl⟩

instance : BareTokens ComponentKind := ⟨fun a => by cases a <;> rfl⟩

theorem parse_token {α : Type} [Vocabulary α] [LawfulTokens α] [BareTokens α] (a : α) :
    Vocabulary.parse (Tokens.token a) = .ok a := by
  rw [Vocabulary.parse, BareTokens.trim_token, LawfulTokens.ofToken?_token]

variable {α : Type} [Tokens α]

theorem eq_token_of_ofToken? {s : String} {a : α} (h : Tokens.ofToken? s = some a) :
    s = Tokens.token a := by
  have htoken := List.find?_some h
  exact (beq_iff_eq.mp htoken).symm

variable [LawfulTokens α]

theorem reads_token : Reads Tokens.ofJson? (Tokens.toJson (α := α)) :=
  ⟨LawfulTokens.ofToken?_token, fun _ => nofun⟩

theorem reads_nestedToken : Reads Tokens.ofNestedJson? (Tokens.toJson (α := α)) :=
  ⟨LawfulTokens.ofToken?_token, fun _ => nofun⟩

theorem reads_variant : Reads Variant.ofJson? Variant.toJson := by
  refine ⟨fun v => ?_, fun _ => nofun⟩
  have hle := v.le_five
  have hsize : (v.number : Int) < UInt64.size := by
    rw [show UInt64.size = 18446744073709551616 from rfl]
    omega
  have hread : Json.asNat? (.int v.number) = some v.number := by
    simp only [Json.asNat?, Int.natCast_nonneg, hsize, and_self, if_true, Int.toNat_natCast]
  rw [Variant.ofJson?, Variant.toJson, Json.ofNat, hread, Option.bind_some, Variant.ofNat?_number]

end ScreenPattern.Proofs.ValueReading
