/-
  The Android session manager (`SessionManager.kt` over `tintin-jni`).

  Sessions are cached as JSON by remote user, and every change is persisted. A native handle
  lives only within one call, so a call is modelled as: parse the cached session, run the
  native function, save what the handle then holds. The native functions return null on any
  error; the Kotlin code saves the session in that case too.
-/
import TinTin.Core.Serde

namespace TinTin.Android

open TinTin.Core

variable {Key : Type}

/-! ## Native functions -/

/-- `RustBridge.sessionEncrypt`: the JSON of the message, or null, and the session behind the
    handle afterwards. -/
def sessionEncrypt (P : Primitives Key) (J : Serde Key) (nonce : Nonce) (session : Session Key)
    (plaintext : Bytes) : Option Bytes × Session Key :=
  let (result, session) := session.encrypt P nonce plaintext
  match result with
  | .ok sessionMsg => (some (J.sessionMessage.encode sessionMsg), session)
  | .error _ => (none, session)

/-- `RustBridge.sessionDecrypt`: the plaintext, or null, and the session behind the handle
    afterwards. -/
def sessionDecrypt [DecidableEq Key] (P : Primitives Key) (J : Serde Key)
    (session : Session Key) (ciphertext : Bytes) : Option Bytes × Session Key :=
  match J.sessionMessage.decode ciphertext with
  | none => (none, session)
  | some sessionMsg =>
    let (result, session) := session.decrypt P sessionMsg
    match result with
    | .ok plaintext => (some plaintext, session)
    | .error _ => (none, session)

/-! ## The cache -/

/-- `sessionCache`, and the `sessions_json` preference written from it. -/
structure SessionManager where
  sessionCache : String → Option String
  sessionsJson : String → Option String

namespace SessionManager

/-- `persistSessions` -/
def persistSessions (sm : SessionManager) : SessionManager :=
  { sm with sessionsJson := sm.sessionCache }

/-- `saveSession` -/
def saveSession (sm : SessionManager) (json : String) (remoteId : String) : SessionManager :=
  persistSessions { sm with sessionCache := Function.update sm.sessionCache remoteId (some json) }

/-- `encryptMessage` -/
def encryptMessage (P : Primitives Key) (J : Serde Key) (nonce : Nonce) (sm : SessionManager)
    (remoteId : String) (plaintext : Bytes) : Option Bytes × SessionManager :=
  match (sm.sessionCache remoteId).bind J.session.decode with
  | none => (none, sm)
  | some session =>
    let (ct, session) := sessionEncrypt P J nonce session plaintext
    (ct, sm.saveSession (J.session.encode session) remoteId)

/-- `decryptMessage` -/
def decryptMessage [DecidableEq Key] (P : Primitives Key) (J : Serde Key) (sm : SessionManager)
    (remoteId : String) (ciphertext : Bytes) : Option Bytes × SessionManager :=
  match (sm.sessionCache remoteId).bind J.session.decode with
  | none => (none, sm)
  | some session =>
    let (pt, session) := sessionDecrypt P J session ciphertext
    (pt, sm.saveSession (J.session.encode session) remoteId)

@[simp] theorem saveSession_self (sm : SessionManager) (json remoteId : String) :
    (sm.saveSession json remoteId).sessionCache remoteId = some json := by
  simp [saveSession, persistSessions]

theorem saveSession_of_ne (sm : SessionManager) (json : String) {remoteId other : String}
    (h : other ≠ remoteId) :
    (sm.saveSession json remoteId).sessionCache other = sm.sessionCache other := by
  simp [saveSession, persistSessions, h]

@[simp] theorem saveSession_sessionsJson (sm : SessionManager) (json remoteId : String) :
    (sm.saveSession json remoteId).sessionsJson =
      (sm.saveSession json remoteId).sessionCache := rfl

variable {P : Primitives Key} {J : Serde Key}

/-- `encryptMessage` on a cached session. -/
theorem encryptMessage_cached {sm : SessionManager} {remoteId : String} {s : Session Key}
    (hs : (sm.sessionCache remoteId).bind J.session.decode = some s) (nonce : Nonce)
    (plaintext : Bytes) :
    sm.encryptMessage P J nonce remoteId plaintext =
      ((sessionEncrypt P J nonce s plaintext).1,
        sm.saveSession (J.session.encode (sessionEncrypt P J nonce s plaintext).2) remoteId) := by
  unfold encryptMessage
  rw [hs]

variable [DecidableEq Key]

/-- `decryptMessage` on a cached session. -/
theorem decryptMessage_cached {sm : SessionManager} {remoteId : String} {s : Session Key}
    (hs : (sm.sessionCache remoteId).bind J.session.decode = some s) (ciphertext : Bytes) :
    sm.decryptMessage P J remoteId ciphertext =
      ((sessionDecrypt P J s ciphertext).1,
        sm.saveSession (J.session.encode (sessionDecrypt P J s ciphertext).2) remoteId) := by
  unfold decryptMessage
  rw [hs]

theorem decryptMessage_other {sm : SessionManager} {remoteId other : String}
    (h : other ≠ remoteId) (ciphertext : Bytes) :
    (sm.decryptMessage P J remoteId ciphertext).2.sessionCache other = sm.sessionCache other := by
  unfold decryptMessage
  split
  · rfl
  · exact saveSession_of_ne _ _ h

/-- The native call on a message that parses: the plaintext, or null on an error, and the
    state that `Session::decrypt` left. -/
theorem sessionDecrypt_eq {s : Session Key} {ciphertext : Bytes} {m : SessionMessage Key}
    (hm : J.sessionMessage.decode ciphertext = some m) :
    sessionDecrypt P J s ciphertext = ((s.decrypt P m).1.toOption, (s.decrypt P m).2) := by
  unfold sessionDecrypt
  rw [hm]
  dsimp only
  cases (s.decrypt P m).1 <;> rfl

end SessionManager

end TinTin.Android
