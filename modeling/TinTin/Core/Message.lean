/-
  Wire-format message types of `tintin-core` (`message.rs`).

  The JSON forms are not modelled here: a caller that serialises takes a codec.
-/
import TinTin.Core.Keys

namespace TinTin.Core

/-- A message encrypted by a session. -/
structure SessionMessage (Key : Type) where
  version : UInt8
  ciphertext : Bytes
  nonce : Nonce
  ratchetKey : Key
  messageNumber : UInt32
  deriving DecidableEq, Repr

/-- Types of messages the envelope can carry. -/
inductive MessageType
  | normal
  | preKeyBundle
  | receipt
  | typing
  deriving DecidableEq, Repr

/-- A top-level envelope: routing data and the content the relay does not read. -/
structure Envelope where
  senderId : String
  recipientId : String
  senderDeviceId : UInt32
  timestamp : UInt64
  content : Bytes
  msgType : MessageType
  deriving DecidableEq, Repr

/-- `Envelope::new`, with the clock reading (milliseconds) as an argument. -/
def Envelope.new (timestamp : UInt64) (senderId recipientId : String) (content : Bytes)
    (msgType : MessageType) : Envelope where
  senderId := senderId
  recipientId := recipientId
  senderDeviceId := 1
  timestamp := timestamp
  content := content
  msgType := msgType

/-- Kind of receipt. -/
inductive ReceiptType
  | delivery
  | read
  deriving DecidableEq, Repr

/-- A delivery or read confirmation. -/
structure ReceiptContent where
  receiptType : ReceiptType
  originalSender : String
  originalTimestamp : UInt64
  deriving DecidableEq, Repr

/-- The first message of a session, with the initiator's base key. -/
structure PreKeyBundleMessage (Key : Type) where
  identityKey : Key
  baseKey : Key
  sessionMessage : SessionMessage Key
  deriving DecidableEq, Repr

/-- The public keys a user registers for session establishment. -/
structure PreKeyBundle (Key : Type) where
  identityKey : Key
  deviceId : UInt32
  signedPreKeyId : UInt32
  signedPreKey : Key
  signedPreKeySignature : Bytes
  oneTimePreKeyId : Option UInt32
  oneTimePreKey : Option Key
  deriving DecidableEq, Repr

/-- The envelopes that carry a session message: `Normal` and `PreKeyBundle`. -/
def MessageType.isChat : MessageType → Bool
  | .normal => true
  | .preKeyBundle => true
  | .receipt => false
  | .typing => false

/-- How the exchange with the relay ends. -/
inductive PostOutcome
  /-- status ok -/
  | accepted
  /-- status error: nothing was queued -/
  | refused
  /-- writing to the socket failed: the relay never saw the request -/
  | writeFailed
  /-- the request was written, the answer could not be read -/
  | noAnswer (queued : Bool)
  deriving DecidableEq, Repr

/-- The relay has queued the envelope. -/
def PostOutcome.queued : PostOutcome → Bool
  | .accepted => true
  | .refused => false
  | .writeFailed => false
  | .noAnswer queued => queued

end TinTin.Core
