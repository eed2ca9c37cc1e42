/-
  The JNI functions of the Android bridge (`tintin-jni`).

  A handle is `none` where it is 0. What the JVM gives (a string or an array of an argument) and
  what it makes (a string or an array to be returned) is what reading or making it ends with. A
  fresh random value is `none` where the generator panics. A function gives `none` for null and for
  the handle 0, and those that change a session return it as well.
-/
import TinTin.Native.Ffi

namespace TinTin.Native.Jni

open TinTin.Lib TinTin.Core Slotted

variable (X : NativeCrates)

/-! ## Helpers -/

/-- `byte_array_to_vec` -/
def byteArrayToVec (array : Ended Bytes) : Ended Bytes := array.context "JNI byte array: "

/-- `vec_to_byte_array` -/
def vecToByteArray (made : Ended Unit) (data : Bytes) : Ended Bytes := do
  made.context "JNI create byte array: "
  return data

/-- `jstring_to_string` -/
def jstringToString (s : Ended String) : Ended String := s.context "JNI string: "

/-- `copy_from_slice` into an array of 32 bytes -/
def toKey (bytes : Bytes) : Option Key32 :=
  if h : bytes.length = 32 then some ⟨bytes.toArray, by rw [List.size_toArray, h]⟩ else none

/-- Both keys, where both arrays have 32 bytes. -/
def toKeys (a b : Bytes) : Ended (Key32 × Key32) :=
  match toKey a, toKey b with
  | some a, some b => .returned (a, b)
  | _, _ => .failed "key arrays must be 32 bytes"

/-! ## Identity keys and pre-keys -/

/-- `identityGenerate` -/
def identityGenerate (secret : Option Key32) : Slotted (Option (IdentityKeyPair Key32)) :=
  catchQuietly (Body.clearing do
    let secret ← Ended.ofOption secret
    return ⟨KeyPair.generate X.prims secret⟩)

/-- `identityGetPublic` -/
def identityGetPublic (handle : Option (IdentityKeyPair Key32)) (made : Ended Unit) :
    Slotted (Option Bytes) :=
  catchQuietly (match handle with
    | none => Body.telling "null identity handle" "null handle"
    | some ident => Body.clearing (vecToByteArray made ident.publicKey.toList))

/-- `identityToJson` -/
def identityToJson (handle : Option (IdentityKeyPair Key32)) (made : Ended Unit) :
    Slotted (Option String) :=
  catchQuietly (match handle with
    | none => Body.telling "null identity handle" "null handle"
    | some ident => Body.clearing do
      let json ← (Ended.ofExcept (X.identityToString ident)).context "serialize: "
      made.context "JNI new_string: "
      return json)

/-- `identityFromJson` -/
def identityFromJson (json : Ended String) : Slotted (Option (IdentityKeyPair Key32)) :=
  catchQuietly (Body.clearing do
    let s ← jstringToString json
    (Ended.ofExcept (X.identityFromStr s)).context "deserialize: ")

/-- `signedPrekeyGenerate` -/
def signedPrekeyGenerate (secret : Option Key32) (id : UInt32)
    (identityHandle : Option (IdentityKeyPair Key32)) : Slotted (Option (SignedPreKey Key32)) :=
  catchQuietly (match identityHandle with
    | none => Body.telling "null identity handle" "null handle"
    | some ident => Body.clearing do
      let secret ← Ended.ofOption secret
      return SignedPreKey.generate X.prims id ident secret)

/-- `signedPrekeyGetPublic` -/
def signedPrekeyGetPublic (handle : Option (SignedPreKey Key32)) (made : Ended Unit) :
    Slotted (Option Bytes) :=
  catchQuietly (match handle with
    | none => Body.telling "null signed pre-key handle" "null handle"
    | some spk => Body.clearing (vecToByteArray made spk.keyPair.publicKey.toList))

/-! ## Sessions -/

/-- `sessionNewInitiator` -/
def sessionNewInitiator (ephSecret : Option Key32)
    (identityHandle : Option (IdentityKeyPair Key32)) (remoteUserId : Ended String)
    (deviceId : UInt32) (theirIdentity signedPrekeyPublic : Ended Bytes) :
    Slotted (Option (Session Key32)) :=
  catchAndTell (Body.clearing (match identityHandle with
    | none => .failed "null identity"
    | some ident => do
      let uid ← jstringToString remoteUserId
      let theirIdBytes ← byteArrayToVec theirIdentity
      let spkBytes ← byteArrayToVec signedPrekeyPublic
      let (theirId, spk) ← toKeys theirIdBytes spkBytes
      let ephSecret ← Ended.ofOption ephSecret
      return Session.newInitiator X.prims ephSecret ident uid deviceId theirId spk))

/-- `sessionNewResponder` -/
def sessionNewResponder (identityHandle : Option (IdentityKeyPair Key32))
    (remoteUserId : Ended String) (deviceId : UInt32) (theirIdentity aliceEph : Ended Bytes)
    (signedPrekeyHandle : Option (SignedPreKey Key32)) : Slotted (Option (Session Key32)) :=
  catchAndTell (Body.clearing (match identityHandle, signedPrekeyHandle with
    | some ident, some spk => do
      let uid ← jstringToString remoteUserId
      let theirIdBytes ← byteArrayToVec theirIdentity
      let aliceEphBytes ← byteArrayToVec aliceEph
      let (theirId, aliceEph) ← toKeys theirIdBytes aliceEphBytes
      return Session.newResponder X.prims ident uid deviceId theirId aliceEph spk
    | _, _ => .failed "null handle"))

/-- What `Session::encrypt` ends with. The chain has moved on when the nonce is drawn. -/
def encryptWith (nonce : Option Nonce) (session : Session Key32) (pt : Bytes) :
    Ended (SessionMessage Key32) × Session Key32 :=
  match nonce with
  | none => (.panicked, { session with ratchet := (session.ratchet.nextSendKey X.prims).2 })
  | some nonce =>
    let (result, session) := session.encrypt X.prims nonce pt
    ((Ended.ofExcept (result.mapError errorText)).context "encrypt: ", session)

/-- `sessionEncrypt`, with the session afterwards. -/
def sessionEncrypt (nonce : Option Nonce) (sessionHandle : Option (Session Key32))
    (plaintext : Ended Bytes) (made : Ended Unit) :
    Slotted (Option Bytes × Option (Session Key32)) := do
  let (ended, session) : Ended Bytes × Option (Session Key32) :=
    match sessionHandle with
    | none => (.failed "null session", none)
    | some session =>
      match byteArrayToVec plaintext with
      | .failed e => (.failed e, some session)
      | .panicked => (.panicked, some session)
      | .returned pt =>
        let (result, session) := encryptWith X nonce session pt
        (do
          let sessionMsg ← result
          let json ← (Ended.ofExcept (X.sessionMessageToVec sessionMsg)).context "serialize: "
          vecToByteArray made json, some session)
  return (← catchQuietly (Body.clearing ended), session)

/-- What reading and decrypting a message end with. -/
def decryptWith (session : Session Key32) (ct : Bytes) : Ended Bytes × Session Key32 :=
  match X.sessionMessageFromSlice ct with
  | .error e => (.failed ("deserialize session msg: " ++ e), session)
  | .ok sessionMsg =>
    let (result, session) := session.decrypt X.prims sessionMsg
    ((Ended.ofExcept (result.mapError errorText)).context "decrypt: ", session)

/-- `sessionDecrypt`, with the session afterwards. -/
def sessionDecrypt (sessionHandle : Option (Session Key32)) (ciphertext : Ended Bytes)
    (made : Ended Unit) : Slotted (Option Bytes × Option (Session Key32)) := do
  let (ended, session) : Ended Bytes × Option (Session Key32) :=
    match sessionHandle with
    | none => (.failed "null session", none)
    | some session =>
      match byteArrayToVec ciphertext with
      | .failed e => (.failed e, some session)
      | .panicked => (.panicked, some session)
      | .returned ct =>
        let (result, session) := decryptWith X session ct
        (do
          let plaintext ← result
          vecToByteArray made plaintext, some session)
  return (← catchQuietly (Body.clearing ended), session)

/-- `sessionToJson` -/
def sessionToJson (handle : Option (Session Key32)) (made : Ended Unit) :
    Slotted (Option String) :=
  catchQuietly (Body.clearing (match handle with
    | none => .failed "null session"
    | some session => do
      let json ← (Ended.ofExcept (X.sessionToString session)).context "serialize: "
      made.context "JNI string: "
      return json))

/-- `sessionFromJson` -/
def sessionFromJson (json : Ended String) : Slotted (Option (Session Key32)) :=
  catchQuietly (Body.clearing do
    let s ← jstringToString json
    (Ended.ofExcept (X.sessionFromStr s)).context "deserialize session: ")

/-- `sessionGetRatchetKey` -/
def sessionGetRatchetKey (handle : Option (Session Key32)) (made : Ended Unit) :
    Slotted (Option Bytes) :=
  catchQuietly (Body.clearing (match handle with
    | none => .failed "null session"
    | some session => vecToByteArray made session.ratchet.dhRatchetKey.publicKey.toList))

end TinTin.Native.Jni
