/-
  The C functions of the iOS bridge (`tintin-ffi`) over the memory that they hand out.

  A pointer is the address of a cell, or 0. What Swift hands in is what lies behind its pointers, or
  `none` where those are null: it is not on this heap. A function that checks a pointer for null and
  then follows it has no result where the cell is gone or of another type. What it makes of what it
  reads there is in `Native.Ffi`.

  A vector that is leaked keeps its capacity, and `Vec::from_raw_parts` is to be told it. What safe
  Rust allocates and drops within a call is not on the heap.
-/
import TinTin.Lib.Heap
import TinTin.Native.Ffi

namespace TinTin.Native

open TinTin.Lib TinTin.Core

/-- What a handle stands for. -/
inductive Object
  | identity (ident : IdentityKeyPair Key32)
  | signedPreKey (spk : SignedPreKey Key32)
  | session (session : Session Key32)

/-- What the bridge hands out. -/
inductive Cell
  | object (o : Object)
  /-- a `CString` -/
  | string (text : String)
  /-- a `Vec<u8>` -/
  | buffer (bytes : Bytes) (capacity : ℕ)

namespace Cell

def identity? : Cell → Option (IdentityKeyPair Key32)
  | .object (.identity ident) => some ident
  | _ => none

def signedPreKey? : Cell → Option (SignedPreKey Key32)
  | .object (.signedPreKey spk) => some spk
  | _ => none

def session? : Cell → Option (Session Key32)
  | .object (.session session) => some session
  | _ => none

def string? : Cell → Option String
  | .string text => some text
  | _ => none

/-- The bytes of a buffer of a capacity. -/
def bufferOf (capacity : ℕ) : Cell → Option Bytes
  | .buffer bytes c => if c = capacity then some bytes else none
  | _ => none

/-- The first bytes of a buffer. -/
def bytesOf (count : ℕ) : Cell → Option Bytes
  | .buffer bytes _ => if count ≤ bytes.length then some (bytes.take count) else none
  | _ => none

end Cell

/-- Code of the bridge. -/
abbrev Bridge := Raw Cell ErrorSlot

/-- What the allocator does in a call: where it puts the cell that is handed out, and how many bytes
    it has set aside for a vector. -/
structure Allocation where
  address : ℕ
  capacity : ℕ

namespace Memory

open Raw Cell

variable {α : Type} (X : NativeCrates) (m : Allocation)

/-- Null, or a pointer to a new object. -/
def intoRaw (object : α → Object) : Option α → Bridge ℕ
  | none => return 0
  | some a => alloc m.address (.object (object a))

/-- Null, or a pointer to a new string. -/
def stringIntoRaw : Option String → Bridge ℕ
  | none => return 0
  | some text => alloc m.address (.string text)

/-- -1, or what is written to `out` and `out_len`. -/
def leak : Option Bytes → Bridge (Option (ℕ × ℕ))
  | none => return none
  | some bytes => do
    let out ← alloc m.address (.buffer bytes m.capacity)
    return some (out, bytes.length)

/-- The reference behind a pointer, where neither this nor another one is null. -/
def borrow (others : Bool) (view : Cell → Option α) (ptr : ℕ) : Bridge (Option α) :=
  if others && ptr != 0 then return some (← deref view ptr) else return none

/-- What a pointer that is not null points to is dropped. -/
def drop (view : Cell → Option α) (ptr : ℕ) : Bridge Unit :=
  if ptr = 0 then return () else free view ptr

/-- An array of 32 bytes at a pointer, behind which `bytes` are there to be read. -/
def read32 (bytes : Bytes) : Bridge Key32 :=
  if h : (bytes.take 32).length = 32 then return ⟨(bytes.take 32).toArray, h⟩ else undefined

/-- The error is set, and null returned. -/
def refuse (msg : String) : Bridge ℕ := do
  call (Slotted.setError msg)
  return 0

/-! ## Errors, strings and buffers -/

/-- `tintin_last_error` -/
def lastError : Bridge ℕ := do
  stringIntoRaw m (some (← call Ffi.lastError))

/-- `tintin_free_string` -/
def freeString (s : ℕ) : Bridge Unit := drop string? s

/-- `tintin_free_buffer` -/
def freeBuffer (ptr len : ℕ) : Bridge Unit := drop (bufferOf len) ptr

/-! ## Identity keys and pre-keys -/

/-- `tintin_identity_generate` -/
def identityGenerate (secret : Key32) : Bridge ℕ := do
  intoRaw m .identity (← call (Ffi.identityGenerate X secret))

/-- `tintin_identity_free` -/
def identityFree (ptr : ℕ) : Bridge Unit := drop identity? ptr

/-- `tintin_identity_get_public` -/
def identityGetPublic (ptr : ℕ) (out : Bool) : Bridge (Option Key32) := do
  let identity ← borrow out identity? ptr
  call (Ffi.identityGetPublic identity out)

/-- `tintin_identity_to_json` -/
def identityToJson (ptr : ℕ) : Bridge ℕ := do
  let identity ← borrow true identity? ptr
  stringIntoRaw m (← call (Ffi.identityToJson X identity))

/-- `tintin_identity_from_json` -/
def identityFromJson (json : Option Bytes) : Bridge ℕ := do
  intoRaw m .identity (← call (Ffi.identityFromJson X json))

/-- `tintin_signed_prekey_generate` -/
def signedPrekeyGenerate (secret : Key32) (id : UInt32) (identity : ℕ) : Bridge ℕ := do
  let ident ← borrow true identity? identity
  intoRaw m .signedPreKey (← call (Ffi.signedPrekeyGenerate X secret id ident))

/-- `tintin_signed_prekey_free` -/
def signedPrekeyFree (ptr : ℕ) : Bridge Unit := drop signedPreKey? ptr

/-- `tintin_signed_prekey_get_public` -/
def signedPrekeyGetPublic (ptr : ℕ) (out : Bool) : Bridge (Option Key32) := do
  let spk ← borrow out signedPreKey? ptr
  call (Ffi.signedPrekeyGetPublic spk out)

/-- `tintin_signed_prekey_get_id` -/
def signedPrekeyGetId (ptr : ℕ) : Bridge UInt32 := do
  let spk ← borrow true signedPreKey? ptr
  call (Ffi.signedPrekeyGetId spk)

/-! ## Sessions -/

/-- `tintin_session_new_initiator` -/
def sessionNewInitiator (ephSecret : Key32) (identity : ℕ) (remoteUserId : Option Bytes)
    (deviceId : UInt32) (theirIdentity signedPrekeyPublic : Option Bytes) : Bridge ℕ := do
  call Slotted.clearError
  match remoteUserId, theirIdentity, signedPrekeyPublic with
  | some remoteUserId, some theirIdentity, some signedPrekeyPublic =>
    if identity = 0 then
      refuse "null pointer argument"
    else
      let ident ← deref identity? identity
      match Ffi.toStr X remoteUserId with
      | .error e => refuse ("invalid remote_user_id utf-8: " ++ e)
      | .ok uid =>
        let theirId ← read32 theirIdentity
        let spkPub ← read32 signedPrekeyPublic
        intoRaw m .session
          (some (Session.newInitiator X.prims ephSecret ident uid deviceId theirId spkPub))
  | _, _, _ => refuse "null pointer argument"

/-- `tintin_session_new_responder` -/
def sessionNewResponder (identity : ℕ) (remoteUserId : Option Bytes) (deviceId : UInt32)
    (theirIdentity aliceEph : Option Bytes) (ourSignedPrekey : ℕ) : Bridge ℕ := do
  call Slotted.clearError
  match remoteUserId, theirIdentity, aliceEph with
  | some remoteUserId, some theirIdentity, some aliceEph =>
    if identity = 0 || ourSignedPrekey = 0 then
      refuse "null pointer argument"
    else
      let ident ← deref identity? identity
      match Ffi.toStr X remoteUserId with
      | .error e => refuse ("invalid remote_user_id utf-8: " ++ e)
      | .ok uid =>
        let theirId ← read32 theirIdentity
        let aliceEph ← read32 aliceEph
        let spk ← deref signedPreKey? ourSignedPrekey
        intoRaw m .session
          (some (Session.newResponder X.prims ident uid deviceId theirId aliceEph spk))
  | _, _, _ => refuse "null pointer argument"

/-- `tintin_session_free` -/
def sessionFree (ptr : ℕ) : Bridge Unit := drop session? ptr

/-- What a session has become is written back. -/
def writeBack (ptr : ℕ) : Option (Session Key32) → Bridge Unit
  | none => return ()
  | some session => store ptr (.object (.session session))

/-- `tintin_session_encrypt` -/
def sessionEncrypt (nonce : Nonce) (session : ℕ) (plaintext : Option Bytes) (out outLen : Bool) :
    Bridge (Option (ℕ × ℕ)) := do
  let s ← borrow (plaintext.isSome && out && outLen) session? session
  let (result, s) ← call (Ffi.sessionEncrypt X nonce s plaintext out outLen)
  writeBack session s
  leak m result

/-- `tintin_session_decrypt` -/
def sessionDecrypt (session : ℕ) (data : Option Bytes) (out outLen : Bool) :
    Bridge (Option (ℕ × ℕ)) := do
  let s ← borrow (data.isSome && out && outLen) session? session
  let (result, s) ← call (Ffi.sessionDecrypt X s data out outLen)
  writeBack session s
  leak m result

/-- `tintin_session_to_json` -/
def sessionToJson (session : ℕ) : Bridge ℕ := do
  let s ← borrow true session? session
  stringIntoRaw m (← call (Ffi.sessionToJson X s))

/-- `tintin_session_from_json` -/
def sessionFromJson (json : Option Bytes) : Bridge ℕ := do
  intoRaw m .session (← call (Ffi.sessionFromJson X json))

/-- `tintin_session_get_ratchet_key` -/
def sessionGetRatchetKey (session : ℕ) (out : Bool) : Bridge (Option Key32) := do
  let s ← borrow out session? session
  call (Ffi.sessionGetRatchetKey s out)

end Memory

end TinTin.Native
