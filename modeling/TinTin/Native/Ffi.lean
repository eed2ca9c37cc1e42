/-
  The C functions of the iOS bridge (`tintin-ffi`).

  An argument that is a pointer is `none` where it is null, and else what it points to; of an output
  pointer only whether it is null. A function that returns a pointer gives `none` for null, one that
  returns 0 or -1 gives what it has written to `out`, or `none`. Those that change a session return
  it as well. A panic aborts the process, so there is no result to be asked about.

  Random values are arguments. `NativeCrates` is what the bridges use of other crates.
-/
import TinTin.Core.Session
import TinTin.Lib.LastError
import TinTin.Lib.Utf8

namespace TinTin.Native

open TinTin.Lib TinTin.Core

abbrev Key32 := Vector UInt8 32

/-- `ChatMessage` -/
structure ChatMessage where
  text : String
  timestamp : UInt64
  deriving DecidableEq, Repr

/-- The primitives, and `serde_json` for the types of the bridges, with the texts of its errors. -/
structure NativeCrates where
  prims : Primitives Key32
  identityToString : IdentityKeyPair Key32 → Except String String
  identityFromStr : String → Except String (IdentityKeyPair Key32)
  sessionToString : Session Key32 → Except String String
  sessionFromStr : String → Except String (Session Key32)
  sessionMessageToVec : SessionMessage Key32 → Except String Bytes
  sessionMessageFromSlice : Bytes → Except String (SessionMessage Key32)
  chatMessageToVec : ChatMessage → Except String Bytes
  /-- the text of the `Utf8Error` of bytes that are no UTF-8 -/
  utf8Error : Bytes → String

/-- The `Display` of an error. -/
def errorText : TinTinError → String
  | .encryptionFailed msg => "Encryption failed: " ++ msg
  | .decryptionFailed msg => "Decryption failed: " ++ msg

namespace Ffi

open Slotted

variable {α : Type} (X : NativeCrates)

/-- The error is set, and null or -1 returned. -/
def refuse (msg : String) : Slotted (Option α) := do
  setError msg
  return none

/-- `CString::new(text).unwrap_or_default()` -/
def cString (text : String) : String := if text.contains '\x00' then "" else text

/-- `tintin_last_error` -/
def lastError : Slotted String := do
  let e ← get
  return cString (e.getD "")

/-- `CStr::to_str` -/
def toStr (bytes : Bytes) : Except String String :=
  match fromUtf8? bytes with
  | some text => .ok text
  | none => .error (X.utf8Error bytes)

/-! ## Identity keys and pre-keys -/

/-- `tintin_identity_generate` -/
def identityGenerate (secret : Key32) : Slotted (Option (IdentityKeyPair Key32)) := do
  clearError
  return some ⟨KeyPair.generate X.prims secret⟩

/-- `tintin_identity_get_public` -/
def identityGetPublic (ptr : Option (IdentityKeyPair Key32)) (out : Bool) :
    Slotted (Option Key32) :=
  match ptr, out with
  | some identity, true => return some identity.publicKey
  | _, _ => refuse "null pointer"

/-- `tintin_identity_to_json` -/
def identityToJson (ptr : Option (IdentityKeyPair Key32)) : Slotted (Option String) := do
  clearError
  match ptr with
  | none => refuse "null ptr"
  | some identity =>
    match X.identityToString identity with
    | .ok json => return some (cString json)
    | .error e => refuse ("serialize identity: " ++ e)

/-- `tintin_identity_from_json` -/
def identityFromJson (json : Option Bytes) : Slotted (Option (IdentityKeyPair Key32)) := do
  clearError
  match json with
  | none => refuse "null ptr"
  | some json =>
    match toStr X json with
    | .error e => refuse ("invalid utf-8: " ++ e)
    | .ok s =>
      match X.identityFromStr s with
      | .ok ident => return some ident
      | .error e => refuse ("deserialize identity: " ++ e)

/-- `tintin_signed_prekey_generate` -/
def signedPrekeyGenerate (secret : Key32) (id : UInt32)
    (identity : Option (IdentityKeyPair Key32)) : Slotted (Option (SignedPreKey Key32)) := do
  clearError
  match identity with
  | none => refuse "null identity ptr"
  | some ident => return some (SignedPreKey.generate X.prims id ident secret)

/-- `tintin_signed_prekey_get_public` -/
def signedPrekeyGetPublic (ptr : Option (SignedPreKey Key32)) (out : Bool) :
    Slotted (Option Key32) :=
  match ptr, out with
  | some spk, true => return some spk.keyPair.publicKey
  | _, _ => refuse "null pointer"

/-- `tintin_signed_prekey_get_id` -/
def signedPrekeyGetId (ptr : Option (SignedPreKey Key32)) : Slotted UInt32 :=
  match ptr with
  | none => do
    setError "null ptr"
    return 0
  | some spk => return spk.id

/-! ## Sessions -/

/-- `tintin_session_new_initiator` -/
def sessionNewInitiator (ephSecret : Key32) (identity : Option (IdentityKeyPair Key32))
    (remoteUserId : Option Bytes) (deviceId : UInt32) (theirIdentity signedPrekeyPublic : Option Key32) :
    Slotted (Option (Session Key32)) := do
  clearError
  match identity, remoteUserId, theirIdentity, signedPrekeyPublic with
  | some ident, some remoteUserId, some theirId, some spkPub =>
    match toStr X remoteUserId with
    | .error e => refuse ("invalid remote_user_id utf-8: " ++ e)
    | .ok uid =>
      return some (Session.newInitiator X.prims ephSecret ident uid deviceId theirId spkPub)
  | _, _, _, _ => refuse "null pointer argument"

/-- `tintin_session_new_responder` -/
def sessionNewResponder (identity : Option (IdentityKeyPair Key32)) (remoteUserId : Option Bytes)
    (deviceId : UInt32) (theirIdentity aliceEph : Option Key32)
    (ourSignedPrekey : Option (SignedPreKey Key32)) : Slotted (Option (Session Key32)) := do
  clearError
  match identity, remoteUserId, theirIdentity, aliceEph, ourSignedPrekey with
  | some ident, some remoteUserId, some theirId, some aliceEph, some spk =>
    match toStr X remoteUserId with
    | .error e => refuse ("invalid remote_user_id utf-8: " ++ e)
    | .ok uid =>
      return some (Session.newResponder X.prims ident uid deviceId theirId aliceEph spk)
  | _, _, _, _, _ => refuse "null pointer argument"

/-- `tintin_session_encrypt`, with the session afterwards. -/
def sessionEncrypt (nonce : Nonce) (session : Option (Session Key32)) (plaintext : Option Bytes)
    (out outLen : Bool) : Slotted (Option Bytes × Option (Session Key32)) := do
  clearError
  match session, plaintext, out, outLen with
  | some session, some plaintext, true, true =>
    let (result, session) := session.encrypt X.prims nonce plaintext
    match result with
    | .ok sessionMsg =>
      let jsonBytes := (X.sessionMessageToVec sessionMsg).toOption.getD []
      return (some jsonBytes, some session)
    | .error e =>
      let r ← refuse ("encrypt: " ++ errorText e)
      return (r, some session)
  | session, _, _, _ =>
    let r ← refuse "null pointer"
    return (r, session)

/-- `tintin_session_decrypt`, with the session afterwards. -/
def sessionDecrypt (session : Option (Session Key32)) (data : Option Bytes) (out outLen : Bool) :
    Slotted (Option Bytes × Option (Session Key32)) := do
  clearError
  match session, data, out, outLen with
  | some session, some data, true, true =>
    match X.sessionMessageFromSlice data with
    | .error e =>
      let r ← refuse ("deserialize session message: " ++ e)
      return (r, some session)
    | .ok sessionMsg =>
      let (result, session) := session.decrypt X.prims sessionMsg
      match result with
      | .ok plaintext => return (some plaintext, some session)
      | .error e =>
        let r ← refuse ("decrypt: " ++ errorText e)
        return (r, some session)
  | session, _, _, _ =>
    let r ← refuse "null pointer"
    return (r, session)

/-- `tintin_session_to_json` -/
def sessionToJson (session : Option (Session Key32)) : Slotted (Option String) := do
  clearError
  match session with
  | none => refuse "null ptr"
  | some s =>
    match X.sessionToString s with
    | .ok json => return some (cString json)
    | .error e => refuse ("serialize session: " ++ e)

/-- `tintin_session_from_json` -/
def sessionFromJson (json : Option Bytes) : Slotted (Option (Session Key32)) := do
  clearError
  match json with
  | none => refuse "null ptr"
  | some json =>
    match toStr X json with
    | .error e => refuse ("invalid utf-8: " ++ e)
    | .ok s =>
      match X.sessionFromStr s with
      | .ok sess => return some sess
      | .error e => refuse ("deserialize session: " ++ e)

/-- `tintin_session_get_ratchet_key` -/
def sessionGetRatchetKey (session : Option (Session Key32)) (out : Bool) : Slotted (Option Key32) :=
  match session, out with
  | some s, true => return some s.ratchet.dhRatchetKey.publicKey
  | _, _ => refuse "null pointer"

/-- `tintin_chat_message_to_json` -/
def chatMessageToJson (text : Option Bytes) (timestamp : UInt64) (out outLen : Bool) :
    Slotted (Option Bytes) := do
  clearError
  match text, out, outLen with
  | some text, true, true =>
    match toStr X text with
    | .error e => refuse ("invalid utf-8: " ++ e)
    | .ok text => return some ((X.chatMessageToVec ⟨text, timestamp⟩).toOption.getD [])
  | _, _, _ => refuse "null pointer"

end Ffi

end TinTin.Native
