/-
  The texts that the terminal client makes of a control payload.

  A payload is a JSON object whose members are strings, numbers and booleans; keys and bytes
  go into it as hex and Base64. `Writers` is the writing half of the crates, `Writers.ReadBy`
  that the reading half takes back what they write: the members of an object, though not
  their order, a key, and bytes.

  * `get_index`, `get_tintinType`: the members of a payload after its text is read.
  * `textCrates`, `textWriters`: the symbolic crates with flat JSON, hex and Base64.
-/
import TinTin.Cli.Client
import TinTin.Lib.FlatJson
import TinTin.Lib.Base64
import TinTin.Symbolic.Serde

namespace TinTin.Cli

open TinTin.Lib TinTin.Core TinTin.Symbolic

variable {Key : Type}

/-! ## Writing -/

/-- The third-party crates that write texts. -/
structure Writers (Key : Type) where
  /-- `serde_json::to_string` -/
  toString : Json → String
  /-- `hex::encode` of 32 bytes -/
  hexEncode : Key → String
  /-- `base64_encode` -/
  base64Encode : Bytes → String

namespace Json

/-- No object, no array, and no number but a natural one. -/
def isScalar : Json → Bool
  | .null => true
  | .bool _ => true
  | .number (.posInt _) => true
  | .string _ => true
  | _ => false

/-- The members of an object without nesting. -/
structure Flat (members : List (String × Json)) : Prop where
  nodup : (members.map Prod.fst).Nodup
  scalar : ∀ m ∈ members, m.2.isScalar = true

end Json

/-- The reading crates take back what the writing ones make. -/
structure Writers.ReadBy (W : Writers Key) (X : Crates Key) : Prop where
  json : ∀ members, Json.Flat members →
    ∃ v, X.fromSlice (utf8 (W.toString (.object members))) = some v ∧
      ∀ key, v.get key = (Json.object members).get key
  hex : ∀ k, X.hexKey (W.hexEncode k) = some k
  base64 : ∀ bs, X.base64Decode (W.base64Encode bs) = some bs

namespace Json

theorem get_index {v v' : Json} (h : ∀ key, v.get key = v'.get key) (key : String) :
    v.index key = v'.index key := by
  unfold index
  rw [h]

theorem get_tintinType {v v' : Json} (h : ∀ key, v.get key = v'.get key) :
    v.tintinType = v'.tintinType := by
  unfold tintinType
  rw [h]

/-! ## Flat texts -/

/-- The scalar in a member. -/
def toScalar : Json → FlatJson.Scalar
  | .bool b => .bool b
  | .number (.posInt n) => .nat n.toNat
  | .string s => .str s
  | _ => .null

/-- The value of a scalar; none for a number that is no `u64`. -/
def ofScalar : FlatJson.Scalar → Option Json
  | .null => some .null
  | .bool b => some (.bool b)
  | .nat n => if n < 2 ^ 64 then some (.number (.posInt (UInt64.ofNat n))) else none
  | .str s => some (.string s)

theorem ofScalar_toScalar {v : Json} (h : v.isScalar = true) : ofScalar v.toScalar = some v := by
  cases v with
  | null => rfl
  | bool b => rfl
  | string s => rfl
  | array elems => cases h
  | object members => cases h
  | number n =>
    cases n with
    | negInt n => cases h
    | float bits => cases h
    | posInt n =>
      change (if n.toNat < 2 ^ 64 then some (Json.number (.posInt (UInt64.ofNat n.toNat)))
        else none) = _
      rw [if_pos n.toNat_lt, UInt64.ofNat_toNat]

/-- The compact text of a value without nesting. -/
def flatText : Json → String
  | .object members => FlatJson.print (members.map fun m => (m.1, m.2.toScalar))
  | v => String.ofList (FlatJson.printScalar v.toScalar)

/-- The member that a name and a scalar are. -/
def memberOf (m : String × FlatJson.Scalar) : Option (String × Json) :=
  (ofScalar m.2).map (m.1, ·)

/-- The object that a byte string is the compact text of. -/
def readFlat (bs : Bytes) : Option Json :=
  (fromUtf8? bs).bind fun text =>
    (FlatJson.read text).bind fun members => (members.mapM memberOf).map .object

theorem mapM_memberOf (members : List (String × Json))
    (h : ∀ m ∈ members, m.2.isScalar = true) :
    (members.map fun m => (m.1, m.2.toScalar)).mapM memberOf = some members := by
  induction members with
  | nil => rfl
  | cons m ms ih =>
    rw [List.map_cons, List.mapM_cons, ih fun m hm => h m (List.mem_cons_of_mem _ hm)]
    unfold memberOf
    rw [ofScalar_toScalar (h m List.mem_cons_self)]
    rfl

theorem readFlat_flatText {members : List (String × Json)} (h : Flat members) :
    readFlat (utf8 (flatText (.object members))) = some (.object members) := by
  unfold readFlat flatText
  rw [fromUtf8?_utf8, Option.bind_some, FlatJson.read_print, Option.bind_some,
    mapM_memberOf members h.scalar]
  rfl

end Json

/-- Keys of the symbolic model in hex. -/
def hexTerm : Codec Term String := Codec.comp (.ofEncodable Term) Hex.codec

/-- The symbolic crates, with JSON for flat objects. -/
def textCrates : Crates Term where
  prims := symbolic
  serde := symbolicSerde
  fromSlice := Json.readFlat
  base64Decode := Base64.codec.decode
  hexKey := hexTerm.decode

def textWriters : Writers Term where
  toString := Json.flatText
  hexEncode := hexTerm.encode
  base64Encode := Base64.codec.encode

theorem textWriters_readBy : textWriters.ReadBy textCrates where
  json members h := by
    refine ⟨.object members, ?_, fun _ => rfl⟩
    dsimp only [textCrates, textWriters]
    rw [Json.readFlat_flatText h]
  hex k := by
    dsimp only [textCrates, textWriters]
    rw [Codec.decode_encode]
  base64 bs := by
    dsimp only [textCrates, textWriters]
    rw [Codec.decode_encode]

end TinTin.Cli
