/-
  JSON values as `serde_json` makes them of the program's types, and how it takes them back.

  An object is a `Map`: its members stay in ascending order of their names. What `derive`
  generates for a type is a codec into `Json`, so that its round trip is part of it. A struct
  is also taken from an array of its fields, and a missing member of an `Option` is `None`.
-/
import TinTin.Cli.Client
import TinTin.Lib.Codec

namespace TinTin.Cli

open TinTin.Lib TinTin.Core

namespace Json

/-! ## Objects -/

/-- `Map::insert` -/
def insertMember (key : String) (v : Json) : List (String × Json) → List (String × Json)
  | [] => [(key, v)]
  | m :: ms =>
    if key < m.1 then (key, v) :: m :: ms
    else if key = m.1 then (key, v) :: ms
    else m :: insertMember key v ms

/-- `json!` of an object. -/
def obj (members : List (String × Json)) : Json :=
  .object (members.foldl (fun ms m => insertMember m.1 m.2 ms) [])

theorem get_insertMember (key : String) (v : Json) (ms : List (String × Json)) (k : String) :
    (object (insertMember key v ms)).get k = if key = k then some v else (object ms).get k := by
  induction ms with
  | nil => by_cases hk : key = k <;> simp [insertMember, get, hk]
  | cons m ms ih =>
    unfold insertMember
    by_cases hlt : key < m.1
    · rw [if_pos hlt]
      by_cases hk : key = k <;> simp [get, hk]
    rw [if_neg hlt]
    by_cases heq : key = m.1
    · rw [if_pos heq, heq]
      by_cases hk : m.1 = k <;> simp [get, hk]
    rw [if_neg heq]
    by_cases hm : m.1 = k
    · have hk : key ≠ k := fun h => heq (h.trans hm.symm)
      rw [if_neg hk]
      simp [get, hm]
    · simpa [get, hm] using ih

/-- A member of an object is the last one given under its name. -/
theorem get_obj (members : List (String × Json)) (k : String) :
    (obj members).get k =
      members.foldl (fun found m => if m.1 = k then some m.2 else found) none := by
  have h : ∀ ms : List (String × Json),
      (object (members.foldl (fun ms m => insertMember m.1 m.2 ms) ms)).get k =
        members.foldl (fun found m => if m.1 = k then some m.2 else found)
          ((object ms).get k) := by
    induction members with
    | nil => exact fun _ => rfl
    | cons m members ih =>
      intro ms
      rw [List.foldl_cons, List.foldl_cons, ih, get_insertMember]
  exact h []

/-- A struct's value by its field names: of an object, or of an array with all the fields. -/
def asStruct (fields : List String) : Json → Option Json
  | .object members => some (.object members)
  | .array elems => if elems.length = fields.length then some (.object (fields.zip elems)) else none
  | _ => none

theorem asStruct_obj (fields : List String) (members : List (String × Json)) :
    (obj members).asStruct fields = some (obj members) := rfl

/-- A required field. -/
def field {α : Type} (v : Json) (key : String) (C : Codec α Json) : Option α :=
  (v.get key).bind C.decode

/-- An `Option` in a member. -/
def ofOption {α : Type} (C : Codec α Json) : Option α → Json
  | none => .null
  | some a => C.encode a

/-- The `Option` in a member, or in a missing one. -/
def asOption {α : Type} (C : Codec α Json) : Option Json → Option (Option α)
  | none => some none
  | some .null => some none
  | some v => (C.decode v).map some

/-- An `Option` field. -/
def optField {α : Type} (v : Json) (key : String) (C : Codec α Json) : Option (Option α) :=
  asOption C (v.get key)

theorem asOption_ofOption {α : Type} {C : Codec α Json} (hC : ∀ a, C.encode a ≠ .null)
    (o : Option α) : asOption C (some (ofOption C o)) = some o := by
  cases o with
  | none => rfl
  | some a =>
    have hdec := C.decode_encode a
    have hnull := hC a
    change asOption C (some (C.encode a)) = _
    generalize C.encode a = v at hdec hnull ⊢
    cases v with
    | null => exact absurd rfl hnull
    | _ => exact congrArg (Option.map some) hdec

end Json

/-! ## Types -/

namespace Wire

open Json

def string : Codec String Json where
  encode := .string
  decode := Json.asStr
  decode_encode _ := rfl

def u64 : Codec UInt64 Json where
  encode n := .number (.posInt n)
  decode := Json.asU64
  decode_encode _ := rfl

def u32 : Codec UInt32 Json where
  encode n := .number (.posInt n.toUInt64)
  decode v := v.asU64.bind fun n => if n.toNat < 2 ^ 32 then some n.toUInt32 else none
  decode_encode n := by
    have hn : n.toUInt64.toNat < 2 ^ 32 := by
      rw [UInt32.toNat_toUInt64]
      exact n.toNat_lt
    rw [Json.asU64, Option.bind_some, if_pos hn, UInt32.toUInt32_toUInt64]

def u8 : Codec UInt8 Json where
  encode n := .number (.posInt n.toUInt64)
  decode v := v.asU64.bind fun n => if n.toNat < 2 ^ 8 then some n.toUInt8 else none
  decode_encode n := by
    have hn : n.toUInt64.toNat < 2 ^ 8 := by
      rw [UInt8.toNat_toUInt64]
      exact n.toNat_lt
    rw [Json.asU64, Option.bind_some, if_pos hn, UInt8.toUInt8_toUInt64]

def i64 : Codec Int64 Json where
  encode n := .number (if n < 0 then .negInt n else .posInt n.toUInt64)
  decode
    | .number (.posInt n) => if n.toNat < 2 ^ 63 then some n.toInt64 else none
    | .number (.negInt n) => some n
    | _ => none
  decode_encode n := by
    split_ifs with hn
    · rfl
    · have hle : 0 ≤ n := Int64.not_lt.mp hn
      have hlt : n.toUInt64.toNat < 2 ^ 63 := by
        rw [Int64.toNat_toUInt64_of_le hle]
        exact Int64.toNatClampNeg_lt n
      dsimp only
      rw [if_pos hlt, Int64.toInt64_toUInt64]

/-- A `Vec`. -/
def vec {α : Type} (C : Codec α Json) : Codec (List α) Json where
  encode as := .array (as.map C.encode)
  decode
    | .array elems => elems.mapM C.decode
    | _ => none
  decode_encode as := by
    dsimp only
    induction as with
    | nil => rfl
    | cons a as ih =>
      rw [List.map_cons, List.mapM_cons, Codec.decode_encode, ih]
      rfl

/-- `[u8; 32]` -/
def key : Codec (Vector UInt8 32) Json where
  encode k := (vec u8).encode k.toList
  decode v := ((vec u8).decode v).bind fun bs =>
    if h : bs.length = 32 then some ⟨bs.toArray, by simpa using h⟩ else none
  decode_encode k := by
    rw [Codec.decode_encode, Option.bind_some, dif_pos k.length_toList]
    rfl

/-- A unit variant by its name, alone or as the one member of an object. -/
def variantName : Json → Option String
  | .string name => some name
  | .object [(name, .null)] => some name
  | _ => none

def msgType : Codec MessageType Json where
  encode
    | .normal => .string "Normal"
    | .preKeyBundle => .string "PreKeyBundle"
    | .receipt => .string "Receipt"
    | .typing => .string "Typing"
  decode v :=
    match variantName v with
    | some "Normal" => some .normal
    | some "PreKeyBundle" => some .preKeyBundle
    | some "Receipt" => some .receipt
    | some "Typing" => some .typing
    | _ => none
  decode_encode t := by cases t <;> rfl

def envelope : Codec Envelope Json where
  encode e := .obj [
    ("sender_id", string.encode e.senderId),
    ("recipient_id", string.encode e.recipientId),
    ("sender_device_id", u32.encode e.senderDeviceId),
    ("timestamp", u64.encode e.timestamp),
    ("content", (vec u8).encode e.content),
    ("msg_type", msgType.encode e.msgType)]
  decode v := do
    let v ← v.asStruct
      ["sender_id", "recipient_id", "sender_device_id", "timestamp", "content", "msg_type"]
    return {
      senderId := ← v.field "sender_id" string
      recipientId := ← v.field "recipient_id" string
      senderDeviceId := ← v.field "sender_device_id" u32
      timestamp := ← v.field "timestamp" u64
      content := ← v.field "content" (vec u8)
      msgType := ← v.field "msg_type" msgType }
  decode_encode e := by simp [Json.field, get_obj, asStruct_obj]

def preKeyBundle : Codec (PreKeyBundle (Vector UInt8 32)) Json where
  encode b := .obj [
    ("identity_key", key.encode b.identityKey),
    ("device_id", u32.encode b.deviceId),
    ("signed_pre_key_id", u32.encode b.signedPreKeyId),
    ("signed_pre_key", key.encode b.signedPreKey),
    ("signed_pre_key_signature", (vec u8).encode b.signedPreKeySignature),
    ("one_time_pre_key_id", ofOption u32 b.oneTimePreKeyId),
    ("one_time_pre_key", ofOption key b.oneTimePreKey)]
  decode v := do
    let v ← v.asStruct
      ["identity_key", "device_id", "signed_pre_key_id", "signed_pre_key",
        "signed_pre_key_signature", "one_time_pre_key_id", "one_time_pre_key"]
    return {
      identityKey := ← v.field "identity_key" key
      deviceId := ← v.field "device_id" u32
      signedPreKeyId := ← v.field "signed_pre_key_id" u32
      signedPreKey := ← v.field "signed_pre_key" key
      signedPreKeySignature := ← v.field "signed_pre_key_signature" (vec u8)
      oneTimePreKeyId := ← v.optField "one_time_pre_key_id" u32
      oneTimePreKey := ← v.optField "one_time_pre_key" key }
  decode_encode b := by
    have hu32 := asOption_ofOption (C := u32) (fun _ => nofun) b.oneTimePreKeyId
    have hkey := asOption_ofOption (C := key) (fun _ => nofun) b.oneTimePreKey
    simp [Json.field, optField, get_obj, asStruct_obj, hu32, hkey]

end Wire

end TinTin.Cli
