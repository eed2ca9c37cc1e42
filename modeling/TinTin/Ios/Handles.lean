/-
  The handles of the iOS app behave as values.

  A run is any sequence of calls on the objects that the app refers to, and of releases of such
  objects. The allocator may put a new cell at any address that is free, also one that was freed
  before, and set aside as many bytes for a vector as it likes.

  Over it, `Values` has what a handle stands for in place of an address, and no memory.
-/
import TinTin.Ios.RustCoreService

namespace TinTin.Ios.RustCore

open TinTin.Lib TinTin.Core TinTin.Native TinTin.Native.Memory Raw Cell

/-! ## Calls -/

/-- The class of an object. -/
inductive Kind
  | identity
  | signedPreKey
  | session
  deriving DecidableEq, Repr

/-- A Swift object: its class, and its pointer. -/
structure Handle where
  kind : Kind
  ptr : ℕ
  deriving DecidableEq, Repr

/-- What is called, by the names of objects. A call that makes an object tells its name. -/
inductive Call (ι : Type)
  | identityPublicKey (i : ι)
  | identityToJSON (i : ι)
  | identityFromJSON (new : ι) (json : String)
  | identityGenerate (new : ι) (secret : Key32)
  | signedPreKeyId (i : ι)
  | signedPreKeyPublicKey (i : ι)
  | signedPreKeyGenerate (new : ι) (secret : Key32) (id : UInt32) (identity : ι)
  | ratchetKey (i : ι)
  | newInitiator (new : ι) (ephSecret : Key32) (identity : ι) (remoteUserId : String)
      (deviceId : UInt32) (theirIdentity signedPrekeyPublic : Option Bytes)
  | newResponder (new : ι) (identity : ι) (remoteUserId : String) (deviceId : UInt32)
      (theirIdentity aliceEphemeral : Option Bytes) (ourSignedPrekey : ι)
  | encrypt (nonce : Nonce) (i : ι) (plaintext : Option Bytes)
  | decrypt (i : ι) (ciphertext : Option Bytes)
  | sessionToJSON (i : ι)
  | sessionFromJSON (new : ι) (json : String)
  | release (i : ι)

/-- What a call ends with. -/
inductive Reply
  | done
  | key (key : Key32)
  | number (n : UInt32)
  | text (text : String)
  | data (bytes : Bytes)
  | threw (e : RustCoreError)
  | trapped
  deriving DecidableEq

namespace Reply

def ofKey : Option Key32 → Reply
  | some k => .key k
  | none => .trapped

def ofText : Except RustCoreError String → Reply
  | .ok s => .text s
  | .error e => .threw e

def ofData : Except RustCoreError Bytes → Reply
  | .ok bytes => .data bytes
  | .error e => .threw e

end Reply

variable {ι α : Type} [DecidableEq ι] (X : NativeCrates)

section

variable (m : Allocation) (handles : ι → Option Handle)

/-- The pointer of an object of a class. -/
def pointer (kind : Kind) (i : ι) : Option ℕ :=
  (handles i).bind fun h => if h.kind = kind then some h.ptr else none

/-- A call that leaves the objects as they are. -/
def answer (reply : α → Reply) (code : Bridge α) : Bridge (Reply × (ι → Option Handle)) := do
  return (reply (← code), handles)

/-- A call that makes an object, if it does not throw. -/
def create (kind : Kind) (new : ι) (code : Bridge (Except RustCoreError ℕ)) :
    Option (Bridge (Reply × (ι → Option Handle))) :=
  if (handles new).isSome then none else some do
    match ← code with
    | .ok ptr => return (.done, Function.update handles new (some ⟨kind, ptr⟩))
    | .error e => return (.threw e, handles)

/-- `deinit` -/
def Handle.deinit (h : Handle) : Bridge Unit :=
  match h.kind with
  | .identity => identityFree h.ptr
  | .signedPreKey => signedPrekeyFree h.ptr
  | .session => sessionFree h.ptr

/-- What a call does, if Swift has the objects that it names. -/
def Call.code : Call ι → Option (Bridge (Reply × (ι → Option Handle)))
  | .identityPublicKey i => do
    let self ← pointer handles .identity i
    some (answer handles .ofKey (IdentityHandle.publicKey self))
  | .identityToJSON i => do
    let self ← pointer handles .identity i
    some (answer handles .ofText (IdentityHandle.toJSON X m self))
  | .identityFromJSON new json => create handles .identity new (IdentityHandle.fromJSON X m json)
  | .identityGenerate new secret =>
    create handles .identity new (IdentityHandle.generate X m secret)
  | .signedPreKeyId i => do
    let self ← pointer handles .signedPreKey i
    some (answer handles .number (SignedPreKeyHandle.id self))
  | .signedPreKeyPublicKey i => do
    let self ← pointer handles .signedPreKey i
    some (answer handles .ofKey (SignedPreKeyHandle.publicKey self))
  | .signedPreKeyGenerate new secret id identity => do
    let identity ← pointer handles .identity identity
    create handles .signedPreKey new (SignedPreKeyHandle.generate X m secret id identity)
  | .ratchetKey i => do
    let self ← pointer handles .session i
    some (answer handles .ofKey (SessionHandle.ratchetKey self))
  | .newInitiator new ephSecret identity remoteUserId deviceId theirIdentity
      signedPrekeyPublic => do
    let identity ← pointer handles .identity identity
    create handles .session new (SessionHandle.newInitiator X m ephSecret identity remoteUserId
      deviceId theirIdentity signedPrekeyPublic)
  | .newResponder new identity remoteUserId deviceId theirIdentity aliceEphemeral
      ourSignedPrekey => do
    let identity ← pointer handles .identity identity
    let ourSignedPrekey ← pointer handles .signedPreKey ourSignedPrekey
    create handles .session new (SessionHandle.newResponder X m identity remoteUserId deviceId
      theirIdentity aliceEphemeral ourSignedPrekey)
  | .encrypt nonce i plaintext => do
    let self ← pointer handles .session i
    some (answer handles .ofData (SessionHandle.encrypt X m nonce self plaintext))
  | .decrypt i ciphertext => do
    let self ← pointer handles .session i
    some (answer handles .ofData (SessionHandle.decrypt X m self ciphertext))
  | .sessionToJSON i => do
    let self ← pointer handles .session i
    some (answer handles .ofText (SessionHandle.toJSON X m self))
  | .sessionFromJSON new json => create handles .session new (SessionHandle.fromJSON X m json)
  | .release i => do
    let h ← handles i
    some do
      h.deinit
      return (.done, Function.update handles i none)

end

/-- The app's objects, the memory that the bridge has handed out, and its error slot. -/
structure App (ι : Type) where
  handles : ι → Option Handle
  heap : Heap Cell
  slot : ErrorSlot

def App.start : App ι := ⟨fun _ => none, fun _ => none, none⟩

/-- A call, and its reply. -/
abbrev Event (ι : Type) := Call ι × Reply

/-- A call is defined, and has ended. -/
inductive App.Step : App ι → Event ι → App ι → Prop
  | call {s : App ι} {m : Allocation} {c : Call ι} {code : Bridge (Reply × (ι → Option Handle))}
    {r : Reply} {handles : ι → Option Handle} {heap : Heap Cell} {slot : ErrorSlot}
    (hfree : s.heap.Free m.address) (hcode : c.code X m s.handles = some code)
    (hrun : code (s.heap, s.slot) = some ((r, handles), heap, slot)) :
    App.Step s (c, r) ⟨handles, heap, slot⟩

/-! ## Values -/

/-- What is thrown where the bridge gives null. -/
def orThrow (e : RustCoreError) (x : Slotted (Option α)) : Slotted (Except RustCoreError α) := do
  match ← x with
  | some a => return .ok a
  | none => return .error e

/-- What is thrown where the bridge gives null or -1, with what it says. -/
def orThrowLast (text : String) (x : Slotted (Option α)) : Slotted (Except RustCoreError α) := do
  match ← x with
  | some a => return .ok a
  | none => return .error (.operationFailed (text ++ (← Ffi.lastError)))

section

variable (objects : ι → Option Object)

def identityOf (i : ι) : Option (IdentityKeyPair Key32) :=
  (objects i).bind fun o => Cell.identity? (.object o)

def signedPreKeyOf (i : ι) : Option (SignedPreKey Key32) :=
  (objects i).bind fun o => Cell.signedPreKey? (.object o)

def sessionOf (i : ι) : Option (Session Key32) :=
  (objects i).bind fun o => Cell.session? (.object o)

/-- A call that leaves the objects as they are. -/
def tell (reply : α → Reply) (x : Slotted α) : Slotted (Reply × (ι → Option Object)) := do
  return (reply (← x), objects)

/-- A call that makes an object, if it does not throw. -/
def make (object : α → Object) (new : ι) (x : Slotted (Except RustCoreError α)) :
    Option (Slotted (Reply × (ι → Option Object))) :=
  if (objects new).isSome then none else some do
    match ← x with
    | .ok a => return (.done, Function.update objects new (some (object a)))
    | .error e => return (.threw e, objects)

/-- A call that changes a session. -/
def change (i : ι) (text : String) (x : Slotted (Option Bytes × Option (Session Key32))) :
    Slotted (Reply × (ι → Option Object)) := do
  let (result, session) ← x
  let reply ← orThrowLast text (return result)
  return (.ofData reply, Function.update objects i (session.map .session))

/-- A key in the bytes behind a pointer. -/
def key32? (bytes : Bytes) : Option Key32 :=
  if h : (bytes.take 32).length = 32 then some ⟨(bytes.take 32).toArray, h⟩ else none

/-- What a call does on values. -/
def Call.value : Call ι → Option (Slotted (Reply × (ι → Option Object)))
  | .identityPublicKey i => do
    let ident ← identityOf objects i
    some (tell objects .key (return ident.publicKey))
  | .identityToJSON i => do
    let ident ← identityOf objects i
    some (tell objects .ofText
      (orThrow (.nullPointer "identity_to_json returned null") (Ffi.identityToJson X (some ident))))
  | .identityFromJSON new json =>
    make objects .identity new (orThrow (.operationFailed "failed to deserialise identity")
      (Ffi.identityFromJson X (some (utf8String json))))
  | .identityGenerate new secret =>
    make objects .identity new
      (orThrow (.nullPointer "identity_generate returned null") (Ffi.identityGenerate X secret))
  | .signedPreKeyId i => do
    let spk ← signedPreKeyOf objects i
    some (tell objects .number (return spk.id))
  | .signedPreKeyPublicKey i => do
    let spk ← signedPreKeyOf objects i
    some (tell objects .key (return spk.keyPair.publicKey))
  | .signedPreKeyGenerate new secret id identity => do
    let ident ← identityOf objects identity
    make objects .signedPreKey new (orThrow (.nullPointer "signed_prekey_generate returned null")
      (Ffi.signedPrekeyGenerate X secret id (some ident)))
  | .ratchetKey i => do
    let session ← sessionOf objects i
    some (tell objects .key (return session.ratchet.dhRatchetKey.publicKey))
  | .newInitiator new ephSecret identity remoteUserId deviceId theirIdentity
      signedPrekeyPublic => do
    let ident ← identityOf objects identity
    make objects .session new (orThrowLast "newInitiator: " (Ffi.sessionNewInitiator X ephSecret
      (some ident) (some (utf8String remoteUserId)) deviceId (theirIdentity.bind key32?)
      (signedPrekeyPublic.bind key32?)))
  | .newResponder new identity remoteUserId deviceId theirIdentity aliceEphemeral
      ourSignedPrekey => do
    let ident ← identityOf objects identity
    let spk ← signedPreKeyOf objects ourSignedPrekey
    make objects .session new (orThrowLast "newResponder: " (Ffi.sessionNewResponder X (some ident)
      (some (utf8String remoteUserId)) deviceId (theirIdentity.bind key32?)
      (aliceEphemeral.bind key32?) (some spk)))
  | .encrypt nonce i plaintext => do
    let session ← sessionOf objects i
    some (change objects i "encrypt: "
      (Ffi.sessionEncrypt X nonce (some session) plaintext true true))
  | .decrypt i ciphertext => do
    let session ← sessionOf objects i
    some (change objects i "decrypt: " (Ffi.sessionDecrypt X (some session) ciphertext true true))
  | .sessionToJSON i => do
    let session ← sessionOf objects i
    some (tell objects .ofText
      (orThrow (.nullPointer "session_to_json returned null") (Ffi.sessionToJson X (some session))))
  | .sessionFromJSON new json =>
    make objects .session new (orThrowLast "deserialise session: "
      (Ffi.sessionFromJson X (some (utf8String json))))
  | .release i => do
    let _ ← objects i
    some (return (.done, Function.update objects i none))

end

/-- What the app's objects stand for, and the error slot. -/
structure Values (ι : Type) where
  objects : ι → Option Object
  slot : ErrorSlot

def Values.start : Values ι := ⟨fun _ => none, none⟩

/-- A call on values has ended. -/
inductive Values.Step : Values ι → Event ι → Values ι → Prop
  | call {v : Values ι} {c : Call ι} {code : Slotted (Reply × (ι → Option Object))} {r : Reply}
    {objects : ι → Option Object} {slot : ErrorSlot} (hcode : c.value X v.objects = some code)
    (hrun : code v.slot = ((r, objects), slot)) :
    Values.Step v (c, r) ⟨objects, slot⟩

end TinTin.Ios.RustCore
