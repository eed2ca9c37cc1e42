/-
  What the last-error slots of the two bridges tell about sequences of calls.

  * `Ffi.told_iff`, `Jni.told_iff`: when the slot tells of a call. The three C functions that copy
    out a key and the one for the id of a pre-key do not clear the slot when they succeed, and an id
    of 0 is a failure without a text. All JNI functions but the two that make a session drop the
    error they end with, unless it is that of a null key handle.
  * `reporting`: so for sequences.
-/
import TinTin.Native.Jni

namespace TinTin.Native

open TinTin.Lib TinTin.Core Slotted

variable {X : NativeCrates}

/-! ## The C functions -/

namespace Ffi

/-- A call of a C function that reports success or failure. -/
inductive Call
  | identityGenerate (secret : Key32)
  | identityGetPublic (ptr : Option (IdentityKeyPair Key32)) (out : Bool)
  | identityToJson (ptr : Option (IdentityKeyPair Key32))
  | identityFromJson (json : Option Bytes)
  | signedPrekeyGenerate (secret : Key32) (id : UInt32) (identity : Option (IdentityKeyPair Key32))
  | signedPrekeyGetPublic (ptr : Option (SignedPreKey Key32)) (out : Bool)
  | signedPrekeyGetId (ptr : Option (SignedPreKey Key32))
  | sessionNewInitiator (ephSecret : Key32) (identity : Option (IdentityKeyPair Key32))
      (remoteUserId : Option Bytes) (deviceId : UInt32)
      (theirIdentity signedPrekeyPublic : Option Key32)
  | sessionNewResponder (identity : Option (IdentityKeyPair Key32)) (remoteUserId : Option Bytes)
      (deviceId : UInt32) (theirIdentity aliceEph : Option Key32)
      (ourSignedPrekey : Option (SignedPreKey Key32))
  | sessionEncrypt (nonce : Nonce) (session : Option (Session Key32)) (plaintext : Option Bytes)
      (out outLen : Bool)
  | sessionDecrypt (session : Option (Session Key32)) (data : Option Bytes) (out outLen : Bool)
  | sessionToJson (session : Option (Session Key32))
  | sessionFromJson (json : Option Bytes)
  | sessionGetRatchetKey (session : Option (Session Key32)) (out : Bool)
  | chatMessageToJson (text : Option Bytes) (timestamp : UInt64) (out outLen : Bool)

/-- What the call reports. A failed `tintin_signed_prekey_get_id` gives 0. -/
def Call.outcome (X : NativeCrates) : Call → Slotted (Option Unit)
  | .identityGenerate secret => Slotted.outcome Option.isSome (Ffi.identityGenerate X secret)
  | .identityGetPublic ptr out => Slotted.outcome Option.isSome (Ffi.identityGetPublic ptr out)
  | .identityToJson ptr => Slotted.outcome Option.isSome (Ffi.identityToJson X ptr)
  | .identityFromJson json => Slotted.outcome Option.isSome (Ffi.identityFromJson X json)
  | .signedPrekeyGenerate secret id identity =>
    Slotted.outcome Option.isSome (Ffi.signedPrekeyGenerate X secret id identity)
  | .signedPrekeyGetPublic ptr out =>
    Slotted.outcome Option.isSome (Ffi.signedPrekeyGetPublic ptr out)
  | .signedPrekeyGetId ptr => Slotted.outcome (· != 0) (Ffi.signedPrekeyGetId ptr)
  | .sessionNewInitiator ephSecret identity remoteUserId deviceId theirIdentity spk =>
    Slotted.outcome Option.isSome
      (Ffi.sessionNewInitiator X ephSecret identity remoteUserId deviceId theirIdentity spk)
  | .sessionNewResponder identity remoteUserId deviceId theirIdentity aliceEph spk =>
    Slotted.outcome Option.isSome
      (Ffi.sessionNewResponder X identity remoteUserId deviceId theirIdentity aliceEph spk)
  | .sessionEncrypt nonce session plaintext out outLen =>
    Slotted.outcome (·.1.isSome) (Ffi.sessionEncrypt X nonce session plaintext out outLen)
  | .sessionDecrypt session data out outLen =>
    Slotted.outcome (·.1.isSome) (Ffi.sessionDecrypt X session data out outLen)
  | .sessionToJson session => Slotted.outcome Option.isSome (Ffi.sessionToJson X session)
  | .sessionFromJson json => Slotted.outcome Option.isSome (Ffi.sessionFromJson X json)
  | .sessionGetRatchetKey session out =>
    Slotted.outcome Option.isSome (Ffi.sessionGetRatchetKey session out)
  | .chatMessageToJson text timestamp out outLen =>
    Slotted.outcome Option.isSome (Ffi.chatMessageToJson X text timestamp out outLen)

/-- The calls that the slot tells of. Copying a key out and reading an id say something only where
    a pointer is null, or the slot is empty already and the id is not 0. -/
def Call.Covered : Call → ErrorSlot → Prop
  | .identityGetPublic ptr out, slot => ptr = none ∨ out = false ∨ slot = none
  | .signedPrekeyGetPublic ptr out, slot => ptr = none ∨ out = false ∨ slot = none
  | .sessionGetRatchetKey session out, slot => session = none ∨ out = false ∨ slot = none
  | .signedPrekeyGetId ptr, slot => ∀ spk, ptr = some spk → spk.id ≠ 0 ∧ slot = none
  | _, _ => True

theorem told_refuse {call : Slotted (Option Unit)} {msg : String} (hmsg : msg ≠ "")
    (h : ∀ before, call before = (none, some msg)) (slot : ErrorSlot) : Told call slot ↔ True :=
  iff_of_true (told_of_failure hmsg h slot) trivial

theorem told_done {call : Slotted (Option Unit)} {slot : ErrorSlot}
    (h : call slot = (some (), none)) : Told call slot ↔ True :=
  iff_of_true (told_of_success h) trivial

/-- A function that copies something out and does not clear the slot. -/
theorem told_copying {α : Type} (call : Option α → Bool → Slotted (Option Unit))
    (hdone : ∀ a slot, call (some a) true slot = (some (), slot))
    (hnull : ∀ out before, call none out before = (none, some "null pointer"))
    (hout : ∀ a before, call (some a) false before = (none, some "null pointer"))
    (ptr : Option α) (out : Bool) (slot : ErrorSlot) :
    Told (call ptr out) slot ↔ ptr = none ∨ out = false ∨ slot = none := by
  have hmsg : "null pointer" ≠ "" := by decide
  match ptr, out with
  | none, out => exact iff_of_true (told_of_failure hmsg (hnull out) slot) (.inl rfl)
  | some a, false => exact iff_of_true (told_of_failure hmsg (hout a) slot) (.inr (.inl rfl))
  | some a, true =>
    rw [told_keeping_iff (hdone a slot)]
    simp

/-- An id that is read does not clear the slot, and one that is 0 reads as a failure. -/
theorem told_getId (ptr : Option (SignedPreKey Key32)) (slot : ErrorSlot) :
    Told ((Call.signedPrekeyGetId ptr).outcome X) slot ↔
      ∀ spk, ptr = some spk → spk.id ≠ 0 ∧ slot = none := by
  match ptr with
  | none => exact iff_of_true (told_of_failure (by decide) (fun _ => rfl) slot) (by simp)
  | some spk =>
    have hrun : ∀ before, (Call.signedPrekeyGetId (some spk)).outcome X before =
        (if spk.id != 0 then some () else none, before) := fun _ => rfl
    by_cases hid : spk.id = 0
    · refine iff_of_false ?_ (fun h => (h spk rfl).1 hid)
      intro h
      obtain ⟨msg, -, hmsg⟩ := h.failure (by rw [hrun, hid]; rfl)
      have hempty := hmsg none
      rw [hrun] at hempty
      cases hempty
    · have hdone : (Call.signedPrekeyGetId (some spk)).outcome X slot = (some (), slot) := by
        rw [hrun, if_pos (bne_iff_ne.mpr hid)]
      rw [told_keeping_iff hdone]
      constructor
      · rintro hslot spk' ⟨rfl⟩
        exact ⟨hid, hslot⟩
      · exact fun h => (h spk rfl).2

/-- **When the slot tells of a call of a C function.** -/
theorem told_iff (c : Call) (slot : ErrorSlot) : Told (c.outcome X) slot ↔ c.Covered slot := by
  cases c with
  | identityGenerate secret => exact told_done rfl
  | identityGetPublic ptr out =>
    exact told_copying (fun ptr out => (Call.identityGetPublic ptr out).outcome X)
      (fun _ _ => rfl) (fun _ _ => rfl) (fun _ _ => rfl) ptr out slot
  | identityToJson ptr =>
    match ptr with
    | none => exact told_refuse (by decide) (fun _ => rfl) slot
    | some identity =>
      dsimp only [Call.outcome, Ffi.identityToJson, Call.Covered]
      cases X.identityToString identity with
      | ok json => exact told_done rfl
      | error e => exact told_refuse (text_ne_empty (by decide) e) (fun _ => rfl) slot
  | identityFromJson json =>
    match json with
    | none => exact told_refuse (by decide) (fun _ => rfl) slot
    | some json =>
      dsimp only [Call.outcome, Ffi.identityFromJson, Call.Covered]
      cases toStr X json with
      | error e => exact told_refuse (text_ne_empty (by decide) e) (fun _ => rfl) slot
      | ok s =>
        dsimp only
        cases X.identityFromStr s with
        | ok ident => exact told_done rfl
        | error e => exact told_refuse (text_ne_empty (by decide) e) (fun _ => rfl) slot
  | signedPrekeyGenerate secret id identity =>
    match identity with
    | none => exact told_refuse (by decide) (fun _ => rfl) slot
    | some ident => exact told_done rfl
  | signedPrekeyGetPublic ptr out =>
    exact told_copying (fun ptr out => (Call.signedPrekeyGetPublic ptr out).outcome X)
      (fun _ _ => rfl) (fun _ _ => rfl) (fun _ _ => rfl) ptr out slot
  | signedPrekeyGetId ptr => exact told_getId ptr slot
  | sessionNewInitiator ephSecret identity remoteUserId deviceId theirIdentity spk =>
    match identity, remoteUserId, theirIdentity, spk with
    | none, _, _, _ | some _, none, _, _ | some _, some _, none, _ | some _, some _, some _, none =>
      exact told_refuse (by decide) (fun _ => rfl) slot
    | some ident, some remoteUserId, some theirId, some spkPub =>
      dsimp only [Call.outcome, Ffi.sessionNewInitiator, Call.Covered]
      cases toStr X remoteUserId with
      | ok uid => exact told_done rfl
      | error e => exact told_refuse (text_ne_empty (by decide) e) (fun _ => rfl) slot
  | sessionNewResponder identity remoteUserId deviceId theirIdentity aliceEph spk =>
    match identity, remoteUserId, theirIdentity, aliceEph, spk with
    | none, _, _, _, _ | some _, none, _, _, _ | some _, some _, none, _, _
    | some _, some _, some _, none, _ | some _, some _, some _, some _, none =>
      exact told_refuse (by decide) (fun _ => rfl) slot
    | some ident, some remoteUserId, some theirId, some aliceEph, some spk =>
      dsimp only [Call.outcome, Ffi.sessionNewResponder, Call.Covered]
      cases toStr X remoteUserId with
      | ok uid => exact told_done rfl
      | error e => exact told_refuse (text_ne_empty (by decide) e) (fun _ => rfl) slot
  | sessionEncrypt nonce session plaintext out outLen =>
    match session, plaintext, out, outLen with
    | none, _, _, _ | some _, none, _, _ | some _, some _, false, _ | some _, some _, true, false =>
      exact told_refuse (by decide) (fun _ => rfl) slot
    | some session, some plaintext, true, true =>
      dsimp only [Call.outcome, Ffi.sessionEncrypt, Call.Covered]
      cases (session.encrypt X.prims nonce plaintext).1 with
      | ok sessionMsg => exact told_done rfl
      | error e => exact told_refuse (text_ne_empty (by decide) _) (fun _ => rfl) slot
  | sessionDecrypt session data out outLen =>
    match session, data, out, outLen with
    | none, _, _, _ | some _, none, _, _ | some _, some _, false, _ | some _, some _, true, false =>
      exact told_refuse (by decide) (fun _ => rfl) slot
    | some session, some data, true, true =>
      dsimp only [Call.outcome, Ffi.sessionDecrypt, Call.Covered]
      cases X.sessionMessageFromSlice data with
      | error e => exact told_refuse (text_ne_empty (by decide) e) (fun _ => rfl) slot
      | ok sessionMsg =>
        dsimp only
        cases (session.decrypt X.prims sessionMsg).1 with
        | ok plaintext => exact told_done rfl
        | error e => exact told_refuse (text_ne_empty (by decide) _) (fun _ => rfl) slot
  | sessionToJson session =>
    match session with
    | none => exact told_refuse (by decide) (fun _ => rfl) slot
    | some s =>
      dsimp only [Call.outcome, Ffi.sessionToJson, Call.Covered]
      cases X.sessionToString s with
      | ok json => exact told_done rfl
      | error e => exact told_refuse (text_ne_empty (by decide) e) (fun _ => rfl) slot
  | sessionFromJson json =>
    match json with
    | none => exact told_refuse (by decide) (fun _ => rfl) slot
    | some json =>
      dsimp only [Call.outcome, Ffi.sessionFromJson, Call.Covered]
      cases toStr X json with
      | error e => exact told_refuse (text_ne_empty (by decide) e) (fun _ => rfl) slot
      | ok s =>
        dsimp only
        cases X.sessionFromStr s with
        | ok sess => exact told_done rfl
        | error e => exact told_refuse (text_ne_empty (by decide) e) (fun _ => rfl) slot
  | sessionGetRatchetKey session out =>
    exact told_copying (fun session out => (Call.sessionGetRatchetKey session out).outcome X)
      (fun _ _ => rfl) (fun _ _ => rfl) (fun _ _ => rfl) session out slot
  | chatMessageToJson text timestamp out outLen =>
    match text, out, outLen with
    | none, _, _ | some _, false, _ | some _, true, false =>
      exact told_refuse (by decide) (fun _ => rfl) slot
    | some text, true, true =>
      dsimp only [Call.outcome, Ffi.chatMessageToJson, Call.Covered]
      cases toStr X text with
      | ok text => exact told_done rfl
      | error e => exact told_refuse (text_ne_empty (by decide) e) (fun _ => rfl) slot

/-- Where the slot tells of a call, `tintin_last_error` shows nothing after a success, and after a
    failure the text of the error, except for one with a NUL in it. -/
theorem lastError_of_told {call : Slotted (Option Unit)} {slot : ErrorSlot} (h : Told call slot) :
    ((call slot).1.isSome → (lastError (call slot).2).1 = "") ∧
    ((call slot).1 = none → ∃ msg, msg ≠ "" ∧ (call slot).2 = some msg ∧
      (msg.contains '\x00' = false → (lastError (call slot).2).1 = msg)) := by
  constructor
  · intro hsome
    rw [h.success hsome]
    exact ite_self _
  · intro hnone
    obtain ⟨msg, hne, hmsg⟩ := h.failure hnone
    refine ⟨msg, hne, hmsg slot, fun hnul => ?_⟩
    rw [hmsg slot]
    change cString msg = msg
    rw [cString, if_neg (by rw [hnul]; exact Bool.false_ne_true)]

end Ffi

/-! ## The JNI functions -/

namespace Jni

/-- A call of a JNI function that reports success or failure. -/
inductive Call
  | identityGenerate (secret : Option Key32)
  | identityGetPublic (handle : Option (IdentityKeyPair Key32)) (made : Ended Unit)
  | identityToJson (handle : Option (IdentityKeyPair Key32)) (made : Ended Unit)
  | identityFromJson (json : Ended String)
  | signedPrekeyGenerate (secret : Option Key32) (id : UInt32)
      (identityHandle : Option (IdentityKeyPair Key32))
  | signedPrekeyGetPublic (handle : Option (SignedPreKey Key32)) (made : Ended Unit)
  | sessionNewInitiator (ephSecret : Option Key32)
      (identityHandle : Option (IdentityKeyPair Key32)) (remoteUserId : Ended String)
      (deviceId : UInt32) (theirIdentity signedPrekeyPublic : Ended Bytes)
  | sessionNewResponder (identityHandle : Option (IdentityKeyPair Key32))
      (remoteUserId : Ended String) (deviceId : UInt32) (theirIdentity aliceEph : Ended Bytes)
      (signedPrekeyHandle : Option (SignedPreKey Key32))
  | sessionEncrypt (nonce : Option Nonce) (sessionHandle : Option (Session Key32))
      (plaintext : Ended Bytes) (made : Ended Unit)
  | sessionDecrypt (sessionHandle : Option (Session Key32)) (ciphertext : Ended Bytes)
      (made : Ended Unit)
  | sessionToJson (handle : Option (Session Key32)) (made : Ended Unit)
  | sessionFromJson (json : Ended String)
  | sessionGetRatchetKey (handle : Option (Session Key32)) (made : Ended Unit)

/-- What the call reports. -/
def Call.outcome (X : NativeCrates) : Call → Slotted (Option Unit)
  | .identityGenerate secret => Slotted.outcome Option.isSome (Jni.identityGenerate X secret)
  | .identityGetPublic handle made =>
    Slotted.outcome Option.isSome (Jni.identityGetPublic handle made)
  | .identityToJson handle made => Slotted.outcome Option.isSome (Jni.identityToJson X handle made)
  | .identityFromJson json => Slotted.outcome Option.isSome (Jni.identityFromJson X json)
  | .signedPrekeyGenerate secret id identityHandle =>
    Slotted.outcome Option.isSome (Jni.signedPrekeyGenerate X secret id identityHandle)
  | .signedPrekeyGetPublic handle made =>
    Slotted.outcome Option.isSome (Jni.signedPrekeyGetPublic handle made)
  | .sessionNewInitiator ephSecret identityHandle remoteUserId deviceId theirIdentity spk =>
    Slotted.outcome Option.isSome
      (Jni.sessionNewInitiator X ephSecret identityHandle remoteUserId deviceId theirIdentity spk)
  | .sessionNewResponder identityHandle remoteUserId deviceId theirIdentity aliceEph spk =>
    Slotted.outcome Option.isSome
      (Jni.sessionNewResponder X identityHandle remoteUserId deviceId theirIdentity aliceEph spk)
  | .sessionEncrypt nonce sessionHandle plaintext made =>
    Slotted.outcome (·.1.isSome) (Jni.sessionEncrypt X nonce sessionHandle plaintext made)
  | .sessionDecrypt sessionHandle ciphertext made =>
    Slotted.outcome (·.1.isSome) (Jni.sessionDecrypt X sessionHandle ciphertext made)
  | .sessionToJson handle made => Slotted.outcome Option.isSome (Jni.sessionToJson X handle made)
  | .sessionFromJson json => Slotted.outcome Option.isSome (Jni.sessionFromJson X json)
  | .sessionGetRatchetKey handle made =>
    Slotted.outcome Option.isSome (Jni.sessionGetRatchetKey handle made)

/-- The calls that the slot tells of. The two that make a session need to have no panic inside.
    The others need their key handle to be null, or everything that they call to return: the JVM,
    `serde_json`, the generator and the session. -/
def Call.Covered (X : NativeCrates) : Call → Prop
  | .identityGenerate secret => secret.isSome
  | .identityGetPublic handle made => handle = none ∨ made = .returned ()
  | .identityToJson handle made => ∀ ident, handle = some ident →
      (∃ json, X.identityToString ident = .ok json) ∧ made = .returned ()
  | .identityFromJson json => ∃ s, json = .returned s ∧ ∃ ident, X.identityFromStr s = .ok ident
  | .signedPrekeyGenerate secret _ identityHandle => identityHandle = none ∨ secret.isSome
  | .signedPrekeyGetPublic handle made => handle = none ∨ made = .returned ()
  | .sessionNewInitiator ephSecret identityHandle remoteUserId _ theirIdentity spk =>
    identityHandle.isSome → remoteUserId.Calm fun _ => theirIdentity.Calm fun theirId =>
      spk.Calm fun spk => theirId.length = 32 → spk.length = 32 → ephSecret.isSome
  | .sessionNewResponder identityHandle remoteUserId _ theirIdentity aliceEph spkHandle =>
    identityHandle.isSome → spkHandle.isSome → remoteUserId.Calm fun _ =>
      theirIdentity.Calm fun _ => aliceEph.Calm fun _ => True
  | .sessionEncrypt nonce sessionHandle plaintext made => ∃ session pt nonce' m json,
      sessionHandle = some session ∧ plaintext = .returned pt ∧ nonce = some nonce' ∧
      (session.encrypt X.prims nonce' pt).1 = .ok m ∧ X.sessionMessageToVec m = .ok json ∧
      made = .returned ()
  | .sessionDecrypt sessionHandle ciphertext made => ∃ session ct m pt,
      sessionHandle = some session ∧ ciphertext = .returned ct ∧
      X.sessionMessageFromSlice ct = .ok m ∧ (session.decrypt X.prims m).1 = .ok pt ∧
      made = .returned ()
  | .sessionToJson handle made => ∃ session json,
      handle = some session ∧ X.sessionToString session = .ok json ∧ made = .returned ()
  | .sessionFromJson json => ∃ s, json = .returned s ∧ ∃ session, X.sessionFromStr s = .ok session
  | .sessionGetRatchetKey handle made => handle.isSome ∧ made = .returned ()

theorem returned_unit {x : Ended Unit} : (∃ a, x = .returned a) ↔ x = .returned () :=
  ⟨fun ⟨_, h⟩ => h, fun h => ⟨(), h⟩⟩

theorem vecToByteArray_returns (made : Ended Unit) (data : Bytes) :
    (∃ a, vecToByteArray made data = .returned a) ↔ made = .returned () := by
  simp [vecToByteArray, returned_unit]

theorem told_quiet {α : Type} (x : Ended α) (slot : ErrorSlot) :
    Told (Slotted.outcome Option.isSome (catchQuietly (Body.clearing x))) slot ↔
      ∃ a, x = .returned a :=
  ((told_outcome _ slot).trans (told_quietly x slot)).trans (Ended.isSome_result_iff x)

/-- A null key handle is told of. -/
theorem told_null {α : Type} {msg : String} (hmsg : msg ≠ "") (slot : ErrorSlot) :
    Told (Slotted.outcome Option.isSome
      (catchQuietly (Body.telling msg "null handle" : Body α))) slot :=
  (told_outcome _ slot).mpr (told_telling hmsg _ slot)

/-- The same with a session kept beside. -/
theorem told_beside {α β : Type} (p : Ended α × β) (slot : ErrorSlot) :
    Told (Slotted.outcome (·.1.isSome) (do
      let (ended, session) := p
      return (← catchQuietly (Body.clearing ended), session))) slot ↔ ∃ a, p.1 = .returned a :=
  told_quiet p.1 slot

@[simp] theorem byteArrayToVec_returned (bytes : Bytes) :
    byteArrayToVec (.returned bytes) = .returned bytes := rfl

theorem encryptWith_returned (nonce : Option Nonce) (session : Session Key32) (pt : Bytes)
    (m : SessionMessage Key32) : (encryptWith X nonce session pt).1 = .returned m ↔
      ∃ nonce', nonce = some nonce' ∧ (session.encrypt X.prims nonce' pt).1 = .ok m := by
  match nonce with
  | none => simp [encryptWith]
  | some nonce =>
    simp [encryptWith]

theorem decryptWith_returned (session : Session Key32) (ct pt : Bytes) :
    (decryptWith X session ct).1 = .returned pt ↔ ∃ m,
      X.sessionMessageFromSlice ct = .ok m ∧ (session.decrypt X.prims m).1 = .ok pt := by
  unfold decryptWith
  cases X.sessionMessageFromSlice ct <;> simp

/-- What is done with two keys is explained, or the keys are not. -/
theorem explained_toKeys_bind {α : Type} (a b : Bytes) {f : Key32 × Key32 → Ended α} {P : Prop}
    (hf : ∀ keys, (f keys).Explained ↔ P) :
    (toKeys a b >>= f).Explained ↔ (a.length = 32 → b.length = 32 → P) := by
  unfold toKeys toKey
  by_cases ha : a.length = 32
  · by_cases hb : b.length = 32
    · rw [dif_pos ha, dif_pos hb]
      exact (hf _).trans ⟨fun h _ _ => h, fun h => h ha hb⟩
    · rw [dif_neg hb]
      refine iff_of_true ?_ (fun _ hb' => absurd hb' hb)
      split <;> first | contradiction | exact (by decide : "key arrays must be 32 bytes" ≠ "")
  · rw [dif_neg ha]
    exact iff_of_true (by decide : "key arrays must be 32 bytes" ≠ "") (fun ha' => absurd ha' ha)

/-- **When the slot tells of a call of a JNI function.** -/
theorem told_iff (c : Call) (slot : ErrorSlot) : Told (c.outcome X) slot ↔ c.Covered X := by
  have hString : "JNI string: " ≠ "" := by decide
  have hArray : "JNI byte array: " ≠ "" := by decide
  cases c with
  | identityGenerate secret =>
    refine (told_quiet _ slot).trans ?_
    simp [Call.Covered, Option.isSome_iff_exists]
  | identityGetPublic handle made =>
    cases handle with
    | none => exact iff_of_true (told_null (by decide) slot) (.inl rfl)
    | some ident =>
      refine (told_quiet _ slot).trans ((vecToByteArray_returns made _).trans ?_)
      simp [Call.Covered]
  | identityToJson handle made =>
    cases handle with
    | none => exact iff_of_true (told_null (by decide) slot) (by simp [Call.Covered])
    | some ident =>
      refine (told_quiet _ slot).trans ?_
      simp [Call.Covered, returned_unit]
  | identityFromJson json =>
    refine (told_quiet _ slot).trans ?_
    simp only [Call.Covered, jstringToString, Ended.bind_eq_returned,
      Ended.context_eq_returned, Ended.ofExcept_eq_returned]
    constructor
    · rintro ⟨a, s, hs, ha⟩
      exact ⟨s, hs, a, ha⟩
    · rintro ⟨s, hs, a, ha⟩
      exact ⟨a, s, hs, ha⟩
  | signedPrekeyGenerate secret id identityHandle =>
    cases identityHandle with
    | none => exact iff_of_true (told_null (by decide) slot) (.inl rfl)
    | some ident =>
      refine (told_quiet _ slot).trans ?_
      simp [Call.Covered, Option.isSome_iff_exists]
  | signedPrekeyGetPublic handle made =>
    cases handle with
    | none => exact iff_of_true (told_null (by decide) slot) (.inl rfl)
    | some spk =>
      refine (told_quiet _ slot).trans ((vecToByteArray_returns made _).trans ?_)
      simp [Call.Covered]
  | sessionNewInitiator ephSecret identityHandle remoteUserId deviceId theirIdentity spk =>
    refine ((told_outcome _ slot).trans (told_and_tell _ slot)).trans ?_
    cases identityHandle with
    | none =>
      exact iff_of_true (by decide : "null identity" ≠ "") fun h => absurd h Bool.false_ne_true
    | some ident =>
      simp only [jstringToString, byteArrayToVec, Ended.explained_context_bind hString,
        Ended.explained_context_bind hArray, Call.Covered, Option.isSome_some, forall_const]
      refine Ended.calm_congr fun uid => Ended.calm_congr fun a => Ended.calm_congr fun b => ?_
      apply explained_toKeys_bind
      intro keys
      cases ephSecret with
      | none => exact iff_of_false id (by decide)
      | some secret => exact iff_of_true trivial rfl
  | sessionNewResponder identityHandle remoteUserId deviceId theirIdentity aliceEph spkHandle =>
    refine ((told_outcome _ slot).trans (told_and_tell _ slot)).trans ?_
    have hnull : "null handle" ≠ "" := by decide
    cases identityHandle with
    | none => exact iff_of_true hnull (fun h => absurd h Bool.false_ne_true)
    | some ident =>
      cases spkHandle with
      | none => exact iff_of_true hnull (fun _ h => absurd h Bool.false_ne_true)
      | some spk =>
        simp only [jstringToString, byteArrayToVec, Ended.explained_context_bind hString,
          Ended.explained_context_bind hArray, Call.Covered, Option.isSome_some, forall_const]
        refine Ended.calm_congr fun uid => Ended.calm_congr fun a => Ended.calm_congr fun b => ?_
        refine (explained_toKeys_bind (P := True) a b (fun keys => Iff.rfl)).trans ?_
        simp
  | sessionEncrypt nonce sessionHandle plaintext made =>
    refine (told_beside _ slot).trans ?_
    cases sessionHandle with
    | none => simp [Call.Covered]
    | some session =>
      cases plaintext with
      | returned pt =>
        simp only [byteArrayToVec_returned, Ended.bind_eq_returned, encryptWith_returned,
          Ended.context_eq_returned, Ended.ofExcept_eq_returned, Call.Covered, Option.some.injEq,
          Ended.returned.injEq]
        constructor
        · rintro ⟨a, m, ⟨nonce', hn, hm⟩, json, hj, hmade⟩
          exact ⟨session, pt, nonce', m, json, rfl, rfl, hn, hm, hj,
            (vecToByteArray_returns made json).mp ⟨a, hmade⟩⟩
        · rintro ⟨_, _, nonce', m, json, rfl, rfl, hn, hm, hj, hmade⟩
          obtain ⟨a, ha⟩ := (vecToByteArray_returns made json).mpr hmade
          exact ⟨a, m, ⟨nonce', hn, hm⟩, json, hj, ha⟩
      | failed e => simp [Call.Covered, byteArrayToVec, Ended.context]
      | panicked => simp [Call.Covered, byteArrayToVec, Ended.context]
  | sessionDecrypt sessionHandle ciphertext made =>
    refine (told_beside _ slot).trans ?_
    cases sessionHandle with
    | none => simp [Call.Covered]
    | some session =>
      cases ciphertext with
      | returned ct =>
        simp only [byteArrayToVec_returned, Ended.bind_eq_returned, decryptWith_returned,
          Call.Covered, Option.some.injEq, Ended.returned.injEq]
        constructor
        · rintro ⟨a, pt, ⟨m, hm, hpt⟩, hmade⟩
          exact ⟨session, ct, m, pt, rfl, rfl, hm, hpt,
            (vecToByteArray_returns made pt).mp ⟨a, hmade⟩⟩
        · rintro ⟨_, _, m, pt, rfl, rfl, hm, hpt, hmade⟩
          obtain ⟨a, ha⟩ := (vecToByteArray_returns made pt).mpr hmade
          exact ⟨a, pt, ⟨m, hm, hpt⟩, ha⟩
      | failed e => simp [Call.Covered, byteArrayToVec, Ended.context]
      | panicked => simp [Call.Covered, byteArrayToVec, Ended.context]
  | sessionToJson handle made =>
    refine (told_quiet _ slot).trans ?_
    cases handle <;> simp [Call.Covered, returned_unit]
  | sessionFromJson json =>
    refine (told_quiet _ slot).trans ?_
    simp only [Call.Covered, jstringToString, Ended.bind_eq_returned,
      Ended.context_eq_returned, Ended.ofExcept_eq_returned]
    constructor
    · rintro ⟨a, s, hs, ha⟩
      exact ⟨s, hs, a, ha⟩
    · rintro ⟨s, hs, a, ha⟩
      exact ⟨a, s, hs, ha⟩
  | sessionGetRatchetKey handle made =>
    refine (told_quiet _ slot).trans ?_
    cases handle with
    | none => simp [Call.Covered]
    | some session => simp [Call.Covered, vecToByteArray_returns]

end Jni

/-! ## Sequences of calls -/

/-- The slot after a call. -/
def Ffi.Call.after (X : NativeCrates) (c : Call) (slot : ErrorSlot) : ErrorSlot :=
  (c.outcome X slot).2

/-- The slot after a call. -/
def Jni.Call.after (X : NativeCrates) (c : Call) (slot : ErrorSlot) : ErrorSlot :=
  (c.outcome X slot).2

/-- **In any sequence of calls from an empty slot, of C functions or of JNI functions, the slot tells
    after each call whether and why it has failed, exactly where each call is covered.** -/
theorem reporting (X : NativeCrates) :
    (∀ calls : List Ffi.Call, Along (Ffi.Call.after X) (fun c => Told (c.outcome X)) none calls ↔
      Along (Ffi.Call.after X) Ffi.Call.Covered none calls) ∧
    (∀ calls : List Jni.Call, Along (Jni.Call.after X) (fun c => Told (c.outcome X)) none calls ↔
      ∀ c ∈ calls, c.Covered X) := by
  constructor
  · intro calls
    exact along_congr Ffi.told_iff none calls
  · intro calls
    rw [along_congr Jni.told_iff none calls]
    exact along_const _ calls none

/-- Crates that take bytes for what they stand for, and refuse all JSON. -/
def plainCrates : NativeCrates where
  prims :=
    { zeroKey := Vector.replicate 32 0
      publicKey := fun secret => secret
      diffieHellman := fun a b => a.zipWith (fun x y => x ^^^ y) b
      hkdfExpand := fun a b => (a, b)
      sha256 := fun _ a => a
      sha256Label := fun a _ => a
      sha512 := fun a b => a.toList ++ b.toList
      aeadEncrypt := fun _ _ plaintext => some plaintext
      aeadDecrypt := fun _ _ ciphertext => some ciphertext }
  identityToString := fun _ => .error "no JSON"
  identityFromStr := fun _ => .error "no JSON"
  sessionToString := fun _ => .error "no JSON"
  sessionFromStr := fun _ => .error "no JSON"
  sessionMessageToVec := fun _ => .error "no JSON"
  sessionMessageFromSlice := fun _ => .error "no JSON"
  chatMessageToVec := fun _ => .error "no JSON"
  utf8Error := fun _ => "invalid utf-8 sequence"

def plainIdentity : IdentityKeyPair Key32 := ⟨⟨Vector.replicate 32 7, Vector.replicate 32 7⟩⟩

/-- A public key copied out after a null pointer leaves the message of the null pointer behind, and
    `sessionEncrypt` of a null handle fails without one. -/
theorem silent_failures :
    ¬ Along (Ffi.Call.after plainCrates) (fun c => Told (c.outcome plainCrates)) none
      [.identityGetPublic none true, .identityGetPublic (some plainIdentity) true] ∧
    ¬ Along (Jni.Call.after plainCrates) (fun c => Told (c.outcome plainCrates)) none
      [.sessionEncrypt none none (.returned []) (.returned ())] := by
  constructor
  · rintro ⟨-, h, -⟩
    have hslot := h.success rfl
    cases hslot
  · rintro ⟨h, -⟩
    exact not_told_of_silent rfl rfl h

end TinTin.Native
