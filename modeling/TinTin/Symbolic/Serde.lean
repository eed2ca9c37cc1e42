/-
  Codecs for the symbolic model: every message and session over terms is encodable, so it has
  a byte form (and a text form) that reads back.
-/
import TinTin.Core.Serde
import TinTin.Symbolic.Term

namespace TinTin.Symbolic

open TinTin.Lib TinTin.Core

instance encodableUInt32 : Encodable UInt32 :=
  Encodable.ofLeftInverse UInt32.toNat UInt32.ofNat (by simp)

instance encodableUInt64 : Encodable UInt64 :=
  Encodable.ofLeftInverse UInt64.toNat UInt64.ofNat (by simp)

instance encodableChar : Encodable Char :=
  Encodable.ofLeftInverse Char.toNat Char.ofNat (by simp)

instance encodableString : Encodable String :=
  Encodable.ofLeftInverse String.toList String.ofList (by simp)

deriving instance Encodable for MessageType, Envelope, ReceiptType, ReceiptContent,
  SessionMessage, PreKeyBundleMessage, KeyPair, IdentityKeyPair, Ratchet, SessionRole, Session

/-- A natural number as a text of that length. -/
def natText : Codec ℕ String where
  encode n := String.ofList (List.replicate n '1')
  decode s := some s.length
  decode_encode n := by simp

/-- A text form for any encodable type. -/
def textOf (α : Type) [Encodable α] : Codec α String :=
  Codec.comp ⟨Encodable.encode, Encodable.decode, Encodable.encodek⟩ natText

/-- The byte and text forms of the symbolic model. -/
def symbolicSerde : Serde Term where
  envelope := textOf _
  receiptContent := .ofEncodable _
  sessionMessage := .ofEncodable _
  preKeyBundleMessage := .ofEncodable _
  session := textOf _

end TinTin.Symbolic
