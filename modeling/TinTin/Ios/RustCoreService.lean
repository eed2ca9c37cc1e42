/-
  The Swift classes over the C bridge (`RustCoreService.swift`).

  An `IdentityHandle`, a `SignedPreKeyHandle` and a `SessionHandle` own one pointer each, which
  `deinit` frees when the last reference goes. A call can be made on an object that is referred to,
  and on no other; which object is freed when is up to whoever refers to it.

  A `Data` is what `withUnsafeBytes` gives of it: `none` where the base address is nil.
-/
import TinTin.Lib.Path
import TinTin.Native.Memory

namespace TinTin.Ios.RustCore

open TinTin.Lib TinTin.Core TinTin.Native TinTin.Native.Memory Raw Cell

/-- `RustCoreError` -/
inductive RustCoreError
  | nullPointer (msg : String)
  | operationFailed (msg : String)
  deriving DecidableEq, Repr

/-- The bytes of `utf8String`, as far as C reads them. -/
def utf8String (text : String) : Bytes := (utf8 text).takeWhile (· != 0)

variable (X : NativeCrates) (m : Allocation)

/-- `String(cString:)`, and `tintin_free_string` -/
def takeString (cStr : ℕ) : Bridge String := do
  let text ← deref string? cStr
  freeString cStr
  return text

/-- `Data(bytes:count:)`, and `tintin_free_buffer` -/
def takeBuffer (buf outLen : ℕ) : Bridge Bytes := do
  let data ← deref (bytesOf outLen) buf
  freeBuffer buf outLen
  return data

/-- `lastError` -/
def lastError : Bridge String := do
  let cStr ← Memory.lastError m
  if cStr = 0 then return "unknown error" else takeString cStr

/-- `throw RustCoreError.operationFailed`, with what the bridge says -/
def throwLast {α : Type} (text : String) : Bridge (Except RustCoreError α) := do
  return .error (.operationFailed (text ++ (← lastError m)))

/-- What `encrypt` and `decrypt` make of -1, or of what the bridge has written. -/
def takeResult (text : String) : Option (ℕ × ℕ) → Bridge (Except RustCoreError Bytes)
  | some (buf, outLen) =>
    if buf = 0 then throwLast m text else return .ok (← takeBuffer buf outLen)
  | none => throwLast m text

/-! ## Identity key pair -/

namespace IdentityHandle

/-- `publicKey`, or nothing where the precondition fails. -/
def publicKey (ptr : ℕ) : Bridge (Option Key32) := identityGetPublic ptr true

/-- `toJSON` -/
def toJSON (ptr : ℕ) : Bridge (Except RustCoreError String) := do
  let cStr ← identityToJson X m ptr
  if cStr = 0 then return .error (.nullPointer "identity_to_json returned null")
  else return .ok (← takeString cStr)

/-- `fromJSON` -/
def fromJSON (json : String) : Bridge (Except RustCoreError ℕ) := do
  let ptr ← identityFromJson X m (some (utf8String json))
  if ptr = 0 then return .error (.operationFailed "failed to deserialise identity")
  else return .ok ptr

/-- `generate` -/
def generate (secret : Key32) : Bridge (Except RustCoreError ℕ) := do
  let ptr ← identityGenerate X m secret
  if ptr = 0 then return .error (.nullPointer "identity_generate returned null")
  else return .ok ptr

end IdentityHandle

/-! ## Signed pre-key -/

namespace SignedPreKeyHandle

/-- `id` -/
def id (ptr : ℕ) : Bridge UInt32 := signedPrekeyGetId ptr

/-- `publicKey`, or nothing where the precondition fails. -/
def publicKey (ptr : ℕ) : Bridge (Option Key32) := signedPrekeyGetPublic ptr true

/-- `generate` -/
def generate (secret : Key32) (id : UInt32) (identity : ℕ) : Bridge (Except RustCoreError ℕ) := do
  let ptr ← signedPrekeyGenerate X m secret id identity
  if ptr = 0 then return .error (.nullPointer "signed_prekey_generate returned null")
  else return .ok ptr

end SignedPreKeyHandle

/-! ## Session -/

namespace SessionHandle

/-- `ratchetKey`, or nothing where the precondition fails. -/
def ratchetKey (ptr : ℕ) : Bridge (Option Key32) := sessionGetRatchetKey ptr true

/-- `newInitiator` -/
def newInitiator (ephSecret : Key32) (identity : ℕ) (remoteUserId : String) (deviceId : UInt32)
    (theirIdentity signedPrekeyPublic : Option Bytes) : Bridge (Except RustCoreError ℕ) := do
  let ptr ← sessionNewInitiator X m ephSecret identity (some (utf8String remoteUserId)) deviceId
    theirIdentity signedPrekeyPublic
  if ptr = 0 then throwLast m "newInitiator: " else return .ok ptr

/-- `newResponder` -/
def newResponder (identity : ℕ) (remoteUserId : String) (deviceId : UInt32)
    (theirIdentity aliceEphemeral : Option Bytes) (ourSignedPrekey : ℕ) :
    Bridge (Except RustCoreError ℕ) := do
  let ptr ← sessionNewResponder X m identity (some (utf8String remoteUserId)) deviceId
    theirIdentity aliceEphemeral ourSignedPrekey
  if ptr = 0 then throwLast m "newResponder: " else return .ok ptr

/-- `encrypt` -/
def encrypt (nonce : Nonce) (ptr : ℕ) (plaintext : Option Bytes) :
    Bridge (Except RustCoreError Bytes) := do
  takeResult m "encrypt: " (← Memory.sessionEncrypt X m nonce ptr plaintext true true)

/-- `decrypt` -/
def decrypt (ptr : ℕ) (ciphertext : Option Bytes) : Bridge (Except RustCoreError Bytes) := do
  takeResult m "decrypt: " (← Memory.sessionDecrypt X m ptr ciphertext true true)

/-- `toJSON` -/
def toJSON (ptr : ℕ) : Bridge (Except RustCoreError String) := do
  let cStr ← sessionToJson X m ptr
  if cStr = 0 then return .error (.nullPointer "session_to_json returned null")
  else return .ok (← takeString cStr)

/-- `fromJSON` -/
def fromJSON (json : String) : Bridge (Except RustCoreError ℕ) := do
  let ptr ← sessionFromJson X m (some (utf8String json))
  if ptr = 0 then throwLast m "deserialise session: " else return .ok ptr

end SessionHandle

end TinTin.Ios.RustCore
