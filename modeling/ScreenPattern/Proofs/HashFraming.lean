import ScreenPattern.Proofs.DelimitedTexts
import ScreenPattern.Provider.Image

/-!
The framing of hashed fields. Under fixed names, and with texts and integers in fixed places, the
bytes that are digested determine every value: a frame says how many bytes its value has, so nothing
in a value can be taken for the end of its frame.
-/

namespace ScreenPattern.Proofs.HashFraming

open DelimitedTexts
open Digest

/-- What is put under a name: a text or an integer, either of which may be optional. -/
inductive Form
  | text
  | integer
  | optionalText
  | optionalInteger

def Form.Value : Form → Type
  | text => String
  | integer => Int64
  | optionalText => Option String
  | optionalInteger => Option Int64

def Form.put : (form : Form) → form.Value → FieldValue
  | text, s => .text s
  | integer, i => .integer i
  | optionalText, s => .ofText? s
  | optionalInteger, i => .ofInteger? i

/-- The names in their order, each with what is put under it. -/
abbrev Layout : Type := List (String × Form)

/-- A value for each name of a layout. -/
def Values : Layout → Type
  | [] => Unit
  | field :: rest => field.2.Value × Values rest

def fields : (layout : Layout) → Values layout → List (String × FieldValue)
  | [], _ => []
  | field :: rest, values => (field.1, field.2.put values.1) :: fields rest values.2

/-- The bytes that are digested. -/
def hashedBytes (fields : List (String × FieldValue)) : List UInt8 :=
  (preimage fields).toUTF8.toList

section Texts

theorem toList_loop_eq (bytes : ByteArray) (i : Nat) (read : List UInt8) :
    ByteArray.toList.loop bytes i read = read.reverse ++ bytes.data.toList.drop i := by
  fun_induction ByteArray.toList.loop bytes i read with
  | case1 i read hi ih =>
      have hlength : i < bytes.data.toList.length := hi
      have hget : bytes.get! i = bytes.data.toList[i] := by
        change bytes.data[i]! = _
        rw [getElem!_pos bytes.data i hi, Array.getElem_toList]
      rw [ih, List.reverse_cons, List.append_assoc, List.singleton_append, hget,
        ← List.drop_eq_getElem_cons hlength]
  | case2 i read hi =>
      have hlength : bytes.data.toList.length ≤ i := Nat.le_of_not_lt hi
      rw [List.drop_eq_nil_of_le hlength, List.append_nil]

theorem toList_toUTF8_injective {s t : String} (h : s.toUTF8.toList = t.toUTF8.toList) : s = t := by
  simp only [ByteArray.toList, toList_loop_eq, List.reverse_nil, List.nil_append, List.drop_zero,
    Array.toList_inj] at h
  exact String.toByteArray_inj.mp (ByteArray.ext h)

/-- Where the texts in front have as many bytes, the texts behind begin at the same place. -/
theorem append_inj_of_utf8ByteSize_eq {s t rest other : String} (h : s ++ rest = t ++ other)
    (hsize : s.utf8ByteSize = t.utf8ByteSize) : s = t ∧ rest = other := by
  have hbytes : s.toByteArray.data ++ rest.toByteArray.data =
      t.toByteArray.data ++ other.toByteArray.data := by
    rw [← ByteArray.data_append, ← ByteArray.data_append, ← String.toByteArray_append,
      ← String.toByteArray_append, h]
  obtain ⟨hs, hrest⟩ := Array.append_inj hbytes hsize
  exact ⟨String.toByteArray_inj.mp (ByteArray.ext hs),
    String.toByteArray_inj.mp (ByteArray.ext hrest)⟩

theorem decimal_append_colon_inj {m n : Nat} {s t : String}
    (h : toString m ++ (":" ++ s) = toString n ++ (":" ++ t)) : m = n ∧ s = t := by
  have hchars := congrArg String.toList h
  simp only [String.toList_append] at hchars
  obtain ⟨hnumber, hrest⟩ := eq_of_append_cons_eq (notMem_toList_decimal (by decide) m)
    (notMem_toList_decimal (by decide) n) hchars
  exact ⟨decimal_injective (String.toList_inj.mp hnumber), String.toList_inj.mp hrest⟩

end Texts

theorem decimal_toInt_injective : Function.Injective fun i : Int64 => toString i.toInt :=
  fun _ _ h => Int64.toInt_inj.mp (signed_decimal_injective h)

theorem payload?_ofText? (s : Option String) : (FieldValue.ofText? s).payload? = s := by
  cases s <;> rfl

theorem payload?_ofInteger? (i : Option Int64) :
    (FieldValue.ofInteger? i).payload? = i.map fun i => toString i.toInt := by
  cases i <;> rfl

theorem payload?_put_injective (form : Form) (a b : form.Value)
    (h : (form.put a).payload? = (form.put b).payload?) : a = b := by
  cases form with
  | text => exact Option.some.inj h
  | integer => exact decimal_toInt_injective (Option.some.inj h)
  | optionalText => exact (payload?_ofText? a).symm.trans (h.trans (payload?_ofText? b))
  | optionalInteger =>
      refine Option.map_injective decimal_toInt_injective ?_
      exact (payload?_ofInteger? a).symm.trans (h.trans (payload?_ofInteger? b))

/-- A frame ends in the same place whatever follows it, and so does another frame of its name. -/
theorem frame_append_inj {name rest other : String} {a b : FieldValue}
    (h : frame (name, a) ++ rest = frame (name, b) ++ other) :
    a.payload? = b.payload? ∧ rest = other := by
  unfold frame at h
  cases ha : a.payload? with
  | none =>
      cases hb : b.payload? with
      | none =>
          simp only [ha, hb, String.append_assoc, String.append_right_inj] at h
          exact ⟨rfl, h⟩
      | some t =>
          simp only [ha, hb, String.append_assoc, String.append_right_inj] at h
          have hchars := congrArg String.toList h
          simp at hchars
  | some s =>
      cases hb : b.payload? with
      | none =>
          simp only [ha, hb, String.append_assoc, String.append_right_inj] at h
          have hchars := congrArg String.toList h
          simp at hchars
      | some t =>
          simp only [ha, hb, String.append_assoc, String.append_right_inj] at h
          obtain ⟨hsize, hvalue⟩ := decimal_append_colon_inj h
          obtain ⟨rfl, hrest⟩ := append_inj_of_utf8ByteSize_eq hvalue hsize
          exact ⟨rfl, (String.append_right_inj "\n").mp hrest⟩

theorem preimage_cons (field : String × FieldValue) (rest : List (String × FieldValue)) :
    preimage (field :: rest) = frame field ++ preimage rest := by
  simp only [preimage, List.map_cons, String.join_cons]

theorem preimage_injective (layout : Layout) (values others : Values layout)
    (h : preimage (fields layout values) = preimage (fields layout others)) : values = others := by
  induction layout with
  | nil => rfl
  | cons field rest ih =>
      simp only [fields, preimage_cons] at h
      obtain ⟨hpayload, hrest⟩ := frame_append_inj h
      exact Prod.ext (payload?_put_injective field.2 _ _ hpayload) (ih _ _ hrest)

theorem hashedBytes_injective (layout : Layout) :
    Function.Injective fun values : Values layout => hashedBytes (fields layout values) := by
  intro values others h
  exact preimage_injective layout values others (toList_toUTF8_injective h)

section Images

/-- What the id of an image that is not in the store is made from. -/
def imageLayout : Layout :=
  [("image_id", .optionalText), ("url", .text), ("prompt", .optionalText),
    ("seed", .optionalInteger)]

def imageValues (image : GeneratedImage) : Values imageLayout :=
  (image.imageId, image.url, image.prompt, image.seed, ())

/-- The image has no id of its own. A blank id is none. -/
def Unsaved (image : GeneratedImage) : Prop :=
  ∀ id, image.imageId = some id → Text.isBlank id = true

theorem hashFields_eq_fields (image : GeneratedImage) :
    image.hashFields = fields imageLayout (imageValues image) :=
  rfl

theorem hashedBytes_hashFields_eq_iff (image other : GeneratedImage) :
    hashedBytes image.hashFields = hashedBytes other.hashFields ↔
      image.imageId = other.imageId ∧ image.url = other.url ∧ image.prompt = other.prompt ∧
        image.seed = other.seed := by
  rw [hashFields_eq_fields, hashFields_eq_fields, (hashedBytes_injective imageLayout).eq_iff]
  constructor
  · intro h
    injection h with himageId h
    injection h with hurl h
    injection h with hprompt h
    injection h with hseed _
    exact ⟨himageId, hurl, hprompt, hseed⟩
  · rintro ⟨himageId, hurl, hprompt, hseed⟩
    rw [imageValues, imageValues, himageId, hurl, hprompt, hseed]

theorem documentId_of_unsaved {image : GeneratedImage} (h : Unsaved image) :
    image.documentId =
      Digest.shortId "img" (Sha256.hexDigest (hashedBytes image.hashFields)) := by
  have hnone : image.imageId.filter (fun id => !Text.isBlank id) = none := by
    rw [Option.filter_eq_none_iff]
    intro id hid
    simp [h id hid]
  rw [GeneratedImage.documentId, hnone]
  rfl

end Images

/-- Under one layout, different values are never digested as the same bytes. The id of an image that
has none of its own is made from bytes that are the same for two images exactly if the stored id,
the url, the prompt and the seed are; and no id has to do with anything else of its image. -/
theorem hashedBytes_injective_and_documentId :
    (∀ layout : Layout,
      Function.Injective fun values : Values layout => hashedBytes (fields layout values)) ∧
    (∀ image : GeneratedImage, Unsaved image → image.documentId =
      Digest.shortId "img" (Sha256.hexDigest (hashedBytes image.hashFields))) ∧
    (∀ image other : GeneratedImage,
      hashedBytes image.hashFields = hashedBytes other.hashFields ↔
        image.imageId = other.imageId ∧ image.url = other.url ∧ image.prompt = other.prompt ∧
          image.seed = other.seed) ∧
    ∀ (image : GeneratedImage) (aspectRatio style : Option String) (palette : ExtractedPalette)
      (vibe : Option Vibe),
      { image with aspectRatio, style, palette, vibe }.documentId = image.documentId :=
  ⟨hashedBytes_injective, fun _ => documentId_of_unsaved, hashedBytes_hashFields_eq_iff,
    fun _ _ _ _ _ => rfl⟩

/-- An image whose url looks like the end of its frame and the beginning of the next one. -/
def forgedImage : GeneratedImage where
  imageId := some " "
  url := "a\nprompt!"
  palette := { primary := "#112233" }

/-- A blank id is no id, and still it is not the same as none. -/
theorem forgedImage_documentId :
    Unsaved forgedImage ∧
    forgedImage.documentId =
      Digest.shortId "img" (Sha256.hexDigest (hashedBytes forgedImage.hashFields)) ∧
    hashedBytes forgedImage.hashFields ≠
      hashedBytes { forgedImage with imageId := none }.hashFields ∧
    hashedBytes forgedImage.hashFields ≠
      hashedBytes { forgedImage with url := "a", prompt := some "" }.hashFields := by
  have hunsaved : Unsaved forgedImage := by
    rintro id hid
    cases hid
    decide
  obtain ⟨_, hid, hbytes, _⟩ := hashedBytes_injective_and_documentId
  refine ⟨hunsaved, hid forgedImage hunsaved, ?_, ?_⟩
  · intro h
    exact absurd ((hbytes _ _).mp h).1 (by decide)
  · intro h
    exact absurd ((hbytes _ _).mp h).2.1 (by decide)

end ScreenPattern.Proofs.HashFraming
