/-
  Sending and receiving in the Android app (`ChatScreen.kt`, `ChatListScreen.kt`).

  `sendMessage` makes a session if none is cached, and saves it; it encrypts, which saves the
  advanced session; only then it talks to the relay. Every envelope it sends is a `Normal`
  one, the first one too.

  Structured payloads are left out: `handleIncoming` gives the decrypted text, before any of
  it is parsed for display. So are the contact list and what a displayed message carries
  beside its text.

  * `sendMessage_spec`: a send with a session, cached or just made.
  * `handleIncoming_session`, `handleIncoming_noSession`: one envelope received.
-/
import TinTin.Android.SessionManager
import TinTin.Lib.Utf8

namespace TinTin.Android

open TinTin.Lib TinTin.Core

variable {Key : Type}

inductive MessageDirection
  | outgoing
  | incoming
  deriving DecidableEq, Repr

structure MessageModel where
  senderId : String
  text : String
  direction : MessageDirection
  deriving DecidableEq, Repr

/-- The keys `RelayService.fetchKeys` returns. -/
structure KeyBundleResponse (Key : Type) where
  identityKey : Key
  signedPreKeyId : UInt32
  signedPreKey : Key
  signedPreKeySignature : Bytes
  deriving DecidableEq, Repr

/-- `AppState`, with the identity behind its handle, none where the handle is 0. -/
structure AppState (Key : Type) where
  userId : String
  identityHandle : Option (IdentityKeyPair Key)
  sessionManager : SessionManager
  /-- there is a relay connection -/
  relay : Bool
  messages : String → List MessageModel

/-- What `onError` is called with. -/
inductive ChatError
  | failedToStartChat
  | encryptionFailed
  | sendFailed
  deriving DecidableEq, Repr

/-- What one `sendMessage` draws and reads off the clock. -/
structure ChatInput (Key : Type) where
  ephSecret : Key
  nonce : Nonce
  sentAt : UInt64

namespace AppState

/-! ## Sending -/

/-- `RustBridge.sessionNewInitiator` for device 1, or the null handle. -/
def sessionNewInitiator (P : Primitives Key) (ephSecret : Key) (s : AppState Key)
    (remoteId : String) (bundle : KeyBundleResponse Key) : Option (Session Key) :=
  s.identityHandle.map fun identity =>
    Session.newInitiator P ephSecret identity remoteId 1 bundle.identityKey bundle.signedPreKey

/-- "Ensure session exists"; none where the keys could not be fetched. -/
def ensureSession (P : Primitives Key) (J : Serde Key) (io : ChatInput Key)
    (bundle : Option (KeyBundleResponse Key)) (s : AppState Key) (remoteId : String) :
    Option (AppState Key) :=
  match s.sessionManager.sessionCache remoteId with
  | some _ => some s
  | none =>
    match bundle with
    | none => none
    | some bundle =>
      match s.sessionNewInitiator P io.ephSecret remoteId bundle with
      | none => some s
      | some session => some { s with
          sessionManager := s.sessionManager.saveSession (J.session.encode session) remoteId }

/-- `sendMessage`: the error it reports, if any, and the envelope that the relay queued. -/
def sendMessage (P : Primitives Key) (J : Serde Key) (io : ChatInput Key)
    (bundle : Option (KeyBundleResponse Key)) (outcome : PostOutcome) (s : AppState Key)
    (remoteId text : String) : Option ChatError × AppState Key × Option Envelope :=
  if s.relay = false then (none, s, none)
  else
    match s.ensureSession P J io bundle remoteId with
    | none => (some .failedToStartChat, s, none)
    | some s =>
      let (ct, sm) := s.sessionManager.encryptMessage P J io.nonce remoteId (utf8 text)
      let s : AppState Key := { s with sessionManager := sm }
      match ct with
      | none => (some .encryptionFailed, s, none)
      | some ct =>
        let envelope : Envelope :=
          { senderId := s.userId
            recipientId := remoteId
            senderDeviceId := 1
            timestamp := io.sentAt
            content := ct
            msgType := .normal }
        let queued := if outcome.queued then some envelope else none
        match outcome with
        | .accepted =>
          let message : MessageModel := ⟨s.userId, text, .outgoing⟩
          (none, { s with messages :=
            Function.update s.messages remoteId (s.messages remoteId ++ [message]) }, queued)
        | _ => (some .sendFailed, s, queued)

/-- `startChat`: a new session is saved, also where there was one. -/
def startChat (P : Primitives Key) (J : Serde Key) (ephSecret : Key)
    (bundle : Option (KeyBundleResponse Key)) (s : AppState Key) (remoteId : String) :
    AppState Key :=
  if s.relay = false then s
  else
    match bundle with
    | none => s
    | some bundle =>
      match s.sessionNewInitiator P ephSecret remoteId bundle with
      | none => s
      | some session => { s with
          sessionManager := s.sessionManager.saveSession (J.session.encode session) remoteId }

/-! ## Receiving -/

/-- `handleIncoming`: the text of a message that decrypts. -/
def handleIncoming [DecidableEq Key] (P : Primitives Key) (J : Serde Key) (s : AppState Key)
    (env : Envelope) : Option String × AppState Key :=
  if env.msgType = .receipt then (none, s)
  else
    let (pt, sm) := s.sessionManager.decryptMessage P J env.senderId env.content
    (pt.map fromUtf8Lossy, { s with sessionManager := sm })

/-- The loop over the envelopes of one poll: the texts, in order. -/
def poll [DecidableEq Key] (P : Primitives Key) (J : Serde Key) :
    AppState Key → List Envelope → List String × AppState Key
  | s, [] => ([], s)
  | s, env :: rest =>
    let (text, s) := s.handleIncoming P J env
    let (texts, s) := poll P J s rest
    (text.toList ++ texts, s)

/-! ## What the two do -/

variable {P : Primitives Key} {J : Serde Key}

/-- The cached session for a user. -/
def session (J : Serde Key) (s : AppState Key) (remoteId : String) : Option (Session Key) :=
  (s.sessionManager.sessionCache remoteId).bind J.session.decode

/-- The session a send uses: the cached one, or a new one where the cache has none. -/
def sessionFor (P : Primitives Key) (J : Serde Key) (io : ChatInput Key)
    (bundle : Option (KeyBundleResponse Key)) (s : AppState Key) (remoteId : String) :
    Option (Session Key) :=
  match s.sessionManager.sessionCache remoteId with
  | some json => J.session.decode json
  | none => bundle.bind (s.sessionNewInitiator P io.ephSecret remoteId)

theorem sessionFor_cached {s : AppState Key} {remoteId : String} {ses : Session Key}
    (h : s.session J remoteId = some ses) (io : ChatInput Key)
    (bundle : Option (KeyBundleResponse Key)) :
    s.sessionFor P J io bundle remoteId = some ses := by
  obtain ⟨json, hjson, hdec⟩ := Option.bind_eq_some_iff.mp h
  unfold sessionFor
  rw [hjson]
  exact hdec

/-- The session of a send is cached before it is used. -/
theorem ensureSession_spec {io : ChatInput Key} {bundle : Option (KeyBundleResponse Key)}
    {s : AppState Key} {remoteId : String} {ses : Session Key}
    (h : s.sessionFor P J io bundle remoteId = some ses) :
    ∃ s', s.ensureSession P J io bundle remoteId = some s' ∧
      s'.session J remoteId = some ses ∧ s'.userId = s.userId ∧ s'.relay = s.relay := by
  unfold sessionFor at h
  unfold ensureSession
  cases hc : s.sessionManager.sessionCache remoteId with
  | some json =>
    rw [hc] at h
    refine ⟨s, rfl, ?_, rfl, rfl⟩
    rw [session, hc]
    exact h
  | none =>
    rw [hc] at h
    obtain ⟨b, rfl, hnew⟩ := Option.bind_eq_some_iff.mp h
    dsimp only
    rw [hnew]
    refine ⟨_, rfl, ?_, rfl, rfl⟩
    rw [session]
    dsimp only
    rw [SessionManager.saveSession_self, Option.bind_some, J.session.decode_encode]

/-- **What a send does once it has a session**: the message is encrypted, and the advanced
    session cached, whatever the outcome; the outcome says whether the relay has queued the
    envelope. -/
theorem sendMessage_spec (hP : P.Lawful) {io : ChatInput Key}
    {bundle : Option (KeyBundleResponse Key)} {s : AppState Key} {remoteId : String}
    {ses : Session Key} (hrelay : s.relay = true)
    (h : s.sessionFor P J io bundle remoteId = some ses) (outcome : PostOutcome) (text : String) :
    ∃ m err s' e, (ses.encrypt P io.nonce (utf8 text)).1 = .ok m ∧
      e = ⟨s.userId, remoteId, 1, io.sentAt, J.sessionMessage.encode m, .normal⟩ ∧
      s.sendMessage P J io bundle outcome remoteId text =
        (err, s', if outcome.queued then some e else none) ∧
      s'.session J remoteId = some (ses.encrypt P io.nonce (utf8 text)).2 ∧
      s'.userId = s.userId ∧ s'.relay = s.relay := by
  obtain ⟨s₁, hensure, hses, huser, hrel⟩ := ensureSession_spec h
  obtain ⟨m, hm⟩ := Session.exists_encrypt_ok hP ses io.nonce (utf8 text)
  have hnative : sessionEncrypt P J io.nonce ses (utf8 text) =
      (some (J.sessionMessage.encode m), (ses.encrypt P io.nonce (utf8 text)).2) := by
    unfold sessionEncrypt
    dsimp only
    rw [hm]
  have henc := SessionManager.encryptMessage_cached (P := P) hses io.nonce (utf8 text)
  rw [hnative] at henc
  dsimp only at henc
  set sm := s₁.sessionManager.saveSession
    (J.session.encode (ses.encrypt P io.nonce (utf8 text)).2) remoteId with hsm
  have hcached : (sm.sessionCache remoteId).bind J.session.decode =
      some (ses.encrypt P io.nonce (utf8 text)).2 := by
    rw [hsm, SessionManager.saveSession_self, Option.bind_some, J.session.decode_encode]
  unfold sendMessage
  rw [if_neg (by rw [hrelay]; decide), hensure]
  dsimp only
  rw [henc]
  dsimp only
  rw [huser]
  cases outcome with
  | accepted => exact ⟨m, _, _, _, hm, rfl, rfl, hcached, rfl, hrel⟩
  | refused => exact ⟨m, _, _, _, hm, rfl, rfl, hcached, rfl, hrel⟩
  | writeFailed => exact ⟨m, _, _, _, hm, rfl, rfl, hcached, rfl, hrel⟩
  | noAnswer queued => exact ⟨m, _, _, _, hm, rfl, rfl, hcached, rfl, hrel⟩

/-- **Every envelope a send queues is a `Normal` one.** -/
theorem sendMessage_queued {io : ChatInput Key} {bundle : Option (KeyBundleResponse Key)}
    {outcome : PostOutcome} {s : AppState Key} {remoteId text : String} {e : Envelope}
    (h : (s.sendMessage P J io bundle outcome remoteId text).2.2 = some e) :
    e.msgType = .normal ∧ e.senderId = s.userId := by
  unfold sendMessage at h
  split at h
  · cases h
  · split at h
    · cases h
    · next s₁ hs₁ =>
      have huser : s₁.userId = s.userId := by
        unfold ensureSession at hs₁
        split at hs₁
        · cases hs₁
          rfl
        · split at hs₁
          · cases hs₁
          · split at hs₁ <;> cases hs₁ <;> rfl
      dsimp only at h
      split at h
      · cases h
      · rw [huser] at h
        cases outcome with
        | accepted =>
          cases h
          exact ⟨rfl, rfl⟩
        | refused => cases h
        | writeFailed => cases h
        | noAnswer queued =>
          cases queued with
          | false => cases h
          | true =>
            cases h
            exact ⟨rfl, rfl⟩

theorem startChat_userId (ephSecret : Key) (bundle : Option (KeyBundleResponse Key))
    (s : AppState Key) (remoteId : String) :
    (s.startChat P J ephSecret bundle remoteId).userId = s.userId := by
  unfold startChat
  split
  · rfl
  · split
    · rfl
    · split <;> rfl

variable [DecidableEq Key]

/-- A `Normal` envelope that parses, with a session cached for its sender: the session is what
    the decryption left, whatever its result. -/
theorem handleIncoming_session {s : AppState Key} {env : Envelope} {m : SessionMessage Key}
    {ses : Session Key} (htype : env.msgType = .normal)
    (hdec : J.sessionMessage.decode env.content = some m)
    (hs : s.session J env.senderId = some ses) :
    ∃ s', s.handleIncoming P J env = (((ses.decrypt P m).1.toOption).map fromUtf8Lossy, s') ∧
      s'.session J env.senderId = some (ses.decrypt P m).2 := by
  unfold handleIncoming
  rw [if_neg (by rw [htype]; decide), SessionManager.decryptMessage_cached hs,
    SessionManager.sessionDecrypt_eq hdec]
  refine ⟨_, rfl, ?_⟩
  rw [session]
  dsimp only
  rw [SessionManager.saveSession_self, Option.bind_some, J.session.decode_encode]

/-- Without a cached session nothing is decrypted. -/
theorem handleIncoming_noSession {s : AppState Key} {env : Envelope}
    (hs : s.session J env.senderId = none) : s.handleIncoming P J env = (none, s) := by
  unfold handleIncoming SessionManager.decryptMessage
  unfold session at hs
  rw [hs]
  split <;> rfl

/-- An envelope leaves the sessions of everybody but its sender alone. -/
theorem handleIncoming_other {s : AppState Key} {env : Envelope} {sender : String}
    (hne : env.senderId ≠ sender) :
    (s.handleIncoming P J env).2.session J sender = s.session J sender := by
  unfold handleIncoming
  split
  · rfl
  · unfold session
    dsimp only
    rw [SessionManager.decryptMessage_other hne.symm]

end AppState

end TinTin.Android
