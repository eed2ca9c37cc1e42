/-
  The JSON forms of the core types, as codecs.

  `serde_json` is third-party code: a `Serde` fixes, for each type the callers serialise, an
  encoder and a partial decoder that reads back what was encoded. Nothing else is assumed of
  the decoder: bytes that no encoder produced may decode or not.
-/
import TinTin.Core.Session
import TinTin.Lib.Codec

namespace TinTin.Core

open TinTin.Lib

/-- `serde_json::to_vec`, `to_string` and their inverses, for what the relay reads. -/
structure RelaySerde where
  envelope : Codec Envelope String
  receiptContent : Codec ReceiptContent Bytes

/-- The same for the types of the session code. -/
structure Serde (Key : Type) extends RelaySerde where
  sessionMessage : Codec (SessionMessage Key) Bytes
  preKeyBundleMessage : Codec (PreKeyBundleMessage Key) Bytes
  session : Codec (Session Key) String

end TinTin.Core
