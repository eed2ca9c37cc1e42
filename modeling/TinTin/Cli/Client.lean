/-
  The terminal client's state and its sending side (`tintin-cli/src/main.rs`).

  A call that talks to the relay takes what it draws and what it is told as arguments: the
  random secret and nonce, the clock readings, the pre-key bundle the relay answers with,
  and how the exchange with the relay ends. It gives back the client it leaves, also when
  its result is an error, and the envelope that the relay queued, if any.

  Groups and channels are left out, and so is what goes to the console and the history
  files.

  * `sendMessage_spec`: with a session at hand or a bundle to make one, a send keeps the
    advanced session in the store whatever happens on the socket afterwards, and its outcome
    decides what is queued and recorded.
-/
import TinTin.Core.Serde
import TinTin.Lib.Utf8
import Mathlib.Data.List.AList

namespace TinTin.Cli

open TinTin.Lib TinTin.Core

/-! ## JSON values -/

/-- `serde_json::Number`; floats by their bits. -/
inductive Number
  | posInt (n : UInt64)
  | negInt (n : Int64)
  | float (bits : UInt64)
  deriving DecidableEq, Repr

/-- `serde_json::Value` -/
inductive Json
  | null
  | bool (b : Bool)
  | number (n : Number)
  | string (s : String)
  | array (elems : List Json)
  | object (members : List (String × Json))

namespace Json

/-- `Value::get` with a member name. -/
def get : Json → String → Option Json
  | .object members, key => (members.find? (·.1 == key)).map Prod.snd
  | _, _ => none

/-- `value[key]`: null where there is no such member. -/
def index (v : Json) (key : String) : Json := (v.get key).getD .null

def asStr : Json → Option String
  | .string s => some s
  | _ => none

def asU64 : Json → Option UInt64
  | .number (.posInt n) => some n
  | _ => none

/-- The text under `__tintin_type`. -/
def tintinType (v : Json) : Option String := (v.get "__tintin_type").bind asStr

end Json

/-! ## State -/

/-- The third-party crates: primitives, message codecs, JSON parsing, base64 and hex. -/
structure Crates (Key : Type) where
  prims : Primitives Key
  serde : Serde Key
  /-- `serde_json::from_slice::<Value>` -/
  fromSlice : Bytes → Option Json
  /-- `base64::decode` -/
  base64Decode : String → Option Bytes
  /-- `hex::decode`, where it gives 32 bytes -/
  hexKey : String → Option Key

inductive MessageStatus
  | sent
  | delivered
  | read
  deriving DecidableEq, Repr

structure SentMessage where
  recipient : String
  text : String
  timestamp : UInt64
  status : MessageStatus
  edited : Bool
  deriving DecidableEq, Repr

inductive MessageDirection
  | outgoing
  | incoming
  deriving DecidableEq, Repr

/-- A single message in the chat log. -/
structure MessageRecord where
  peer : String
  text : String
  timestamp : UInt64
  direction : MessageDirection
  isGroup : Bool
  groupName : Option String
  isChannel : Bool
  channelName : Option String
  edited : Bool
  deriving DecidableEq, Repr

/-- A file being received. -/
structure PendingFile where
  fileName : String
  fileSize : UInt64
  totalChunks : UInt64
  receivedChunks : AList (fun _ : UInt64 => Bytes)

inductive CallState
  | offering
  | ringing
  | connected
  deriving DecidableEq, Repr

structure ActiveCall (Key : Type) where
  peer : String
  callId : String
  mediaKeyPair : KeyPair Key
  peerMediaKey : Option Key
  sharedMediaSecret : Option Key
  state : CallState
  deriving DecidableEq, Repr

/-- `TinTinClient` -/
structure Client (Key : Type) where
  userId : String
  identity : IdentityKeyPair Key
  signedPreKey : SignedPreKey Key
  sessions : SessionStore Key
  sentMessages : List SentMessage
  chatLog : List MessageRecord
  pendingFiles : AList (fun _ : String => PendingFile)
  activeCall : Option (ActiveCall Key)
  /-- files written to the downloads directory, oldest first -/
  downloads : List (String × Bytes)

variable {Key : Type}

/-- `TinTinClient::new` for a user without saved data, with the two random secrets as
    arguments. -/
def Client.new (P : Primitives Key) (identitySecret preKeySecret : Key) (userId : String) :
    Client Key :=
  let identity : IdentityKeyPair Key := ⟨KeyPair.generate P identitySecret⟩
  { userId := userId
    identity := identity
    signedPreKey := SignedPreKey.generate P 1 identity preKeySecret
    sessions := .new
    sentMessages := []
    chatLog := []
    pendingFiles := ∅
    activeCall := none
    downloads := [] }

/-- The bundle `register` publishes. -/
def Client.register (c : Client Key) : PreKeyBundle Key where
  identityKey := c.identity.publicKey
  deviceId := 1
  signedPreKeyId := c.signedPreKey.id
  signedPreKey := c.signedPreKey.keyPair.publicKey
  signedPreKeySignature := c.signedPreKey.signature
  oneTimePreKeyId := none
  oneTimePreKey := none

/-- The identity key pair, copied field by field for a new session. -/
def Client.identityCopy (c : Client Key) : IdentityKeyPair Key :=
  ⟨{ secret := c.identity.keyPair.secret, publicKey := c.identity.keyPair.publicKey }⟩

/-- `record_message`, with the clock reading as an argument. -/
def Client.recordMessage (c : Client Key) (now : UInt64) (peer text : String) (outgoing : Bool)
    (isGroup : Bool) (groupName : Option String) (isChannel : Bool)
    (channelName : Option String) : Client Key :=
  { c with chatLog := c.chatLog ++ [
      { peer := peer
        text := text
        timestamp := now
        direction := if outgoing then .outgoing else .incoming
        isGroup := isGroup
        groupName := groupName
        isChannel := isChannel
        channelName := channelName
        edited := false }] }

/-- The texts a client has recorded as coming from a peer, in order. -/
def Client.incoming (c : Client Key) (peer : String) : List String :=
  (c.chatLog.filter fun r => r.peer = peer ∧ r.direction = .incoming).map (·.text)

/-! ## Sending -/

/-- What one `send_message` draws and reads off the clock. -/
structure SendInput (Key : Type) where
  /-- secret of the ephemeral key, if a session is made -/
  ephSecret : Key
  nonce : Nonce
  /-- the envelope's timestamp -/
  sentAt : UInt64
  /-- the timestamp in the chat log -/
  recordedAt : UInt64

inductive SendError
  | userNotFound
  | encryption (e : TinTinError)
  | sendFailed
  | io
  deriving DecidableEq, Repr

/-- What `send_message` returns for an outcome. -/
def sendResult : PostOutcome → Except SendError Unit
  | .accepted => .ok ()
  | .refused => .error .sendFailed
  | .writeFailed => .error .io
  | .noAnswer _ => .error .io

namespace Client

variable (X : Crates Key)

/-- "Get or create a session with this user": the session, whether it is new, and the client
    that stores it. -/
def getOrCreateSession (io : SendInput Key) (bundle : Option (PreKeyBundle Key)) (c : Client Key)
    (recipient : String) : Option (Session Key × Bool × Client Key) :=
  match c.sessions.get recipient 1 with
  | some s => some (s, false, c)
  | none =>
    match bundle with
    | none => none
    | some bundle =>
      let newSession := Session.newInitiator X.prims io.ephSecret c.identityCopy recipient 1
        bundle.identityKey bundle.signedPreKey
      some (newSession, true, { c with sessions := c.sessions.add newSession })

/-- The content and type of an encrypted message: a new session's first one is wrapped with
    the keys the recipient needs to make its own session. -/
def wrap (c : Client Key) (session : Session Key) (isNew : Bool)
    (encrypted : SessionMessage Key) : Bytes × MessageType :=
  if isNew then
    (X.serde.preKeyBundleMessage.encode
      { identityKey := c.identity.publicKey
        baseKey := session.ratchet.dhRatchetKey.publicKey
        sessionMessage := encrypted }, .preKeyBundle)
  else (X.serde.sessionMessage.encode encrypted, .normal)

/-- `send_encrypted`: the content and its type. The session stays in the store as the
    encryption left it. -/
def sendEncrypted (io : SendInput Key) (bundle : Option (PreKeyBundle Key)) (c : Client Key)
    (recipient plaintext : String) : Except SendError (Bytes × MessageType) × Client Key :=
  match c.getOrCreateSession X io bundle recipient with
  | none => (.error .userNotFound, c)
  | some (session, isNew, c) =>
    let (result, session) := session.encrypt X.prims io.nonce (utf8 plaintext)
    let c : Client Key := { c with sessions := c.sessions.update recipient 1 fun s =>
      (s.encrypt X.prims io.nonce (utf8 plaintext)).2 }
    match result with
    | .error e => (.error (.encryption e), c)
    | .ok encrypted => (.ok (c.wrap X session isNew encrypted), c)

/-- The tail of `send_message`: the envelope goes out, and an accepted one is tracked. -/
def post (io : SendInput Key) (outcome : PostOutcome) (c : Client Key)
    (recipient plaintext : String) (content : Bytes) (msgType : MessageType) :
    Except SendError Unit × Client Key × Option Envelope :=
  let envelope := Envelope.new io.sentAt c.userId recipient content msgType
  let queued := if outcome.queued then some envelope else none
  match sendResult outcome with
  | .error e => (.error e, c, queued)
  | .ok () =>
    let c : Client Key := { c with sentMessages := c.sentMessages ++ [
      { recipient := recipient
        text := plaintext
        timestamp := envelope.timestamp
        status := .sent
        edited := false }] }
    (.ok (), c.recordMessage io.recordedAt recipient plaintext true false none false none, queued)

/-- `send_message` -/
def sendMessage (io : SendInput Key) (bundle : Option (PreKeyBundle Key)) (outcome : PostOutcome)
    (c : Client Key) (recipient plaintext : String) :
    Except SendError Unit × Client Key × Option Envelope :=
  if recipient = c.userId then
    c.post io outcome recipient plaintext (utf8 plaintext) .normal
  else
    match c.sendEncrypted X io bundle recipient plaintext with
    | (.error e, c) => (.error e, c, none)
    | (.ok (content, msgType), c) => c.post io outcome recipient plaintext content msgType

/-! ## What a send does -/

variable {X : Crates Key}

/-- What a send leaves alone. -/
structure SameKeys (c c' : Client Key) : Prop where
  userId : c'.userId = c.userId
  identity : c'.identity = c.identity
  signedPreKey : c'.signedPreKey = c.signedPreKey

theorem SameKeys.trans {c₁ c₂ c₃ : Client Key} (h : SameKeys c₁ c₂) (h' : SameKeys c₂ c₃) :
    SameKeys c₁ c₃ where
  userId := h'.userId.trans h.userId
  identity := h'.identity.trans h.identity
  signedPreKey := h'.signedPreKey.trans h.signedPreKey

theorem incoming_recordMessage (c : Client Key) (now : UInt64) (from' text : String)
    (outgoing isGroup : Bool) (groupName : Option String) (isChannel : Bool)
    (channelName : Option String) (peer : String) :
    (c.recordMessage now from' text outgoing isGroup groupName isChannel channelName).incoming
        peer =
      c.incoming peer ++ if outgoing = false ∧ from' = peer then [text] else [] := by
  unfold incoming recordMessage
  rw [List.filter_append, List.map_append]
  cases outgoing <;> by_cases h : from' = peer <;> simp [h]

theorem getOrCreateSession_old {c : Client Key} {recipient : String} {s : Session Key}
    (hs : c.sessions.get recipient 1 = some s) (io : SendInput Key)
    (bundle : Option (PreKeyBundle Key)) :
    c.getOrCreateSession X io bundle recipient = some (s, false, c) := by
  unfold getOrCreateSession
  rw [hs]

theorem getOrCreateSession_new {c : Client Key} {recipient : String}
    (hs : c.sessions.get recipient 1 = none) (io : SendInput Key) (b : PreKeyBundle Key) :
    c.getOrCreateSession X io (some b) recipient =
      (let s := Session.newInitiator X.prims io.ephSecret c.identityCopy recipient 1
        b.identityKey b.signedPreKey
      some (s, true, { c with sessions := c.sessions.add s })) := by
  unfold getOrCreateSession
  rw [hs]

/-- **The session that a send uses**: the one in the store, or one from the bundle, which is added. -/
theorem getOrCreateSession_cases {io : SendInput Key} {bundle : Option (PreKeyBundle Key)}
    {c c₁ : Client Key} {recipient : String} {s : Session Key} {isNew : Bool}
    (h : c.getOrCreateSession X io bundle recipient = some (s, isNew, c₁)) :
    (isNew = false ∧ c.sessions.get recipient 1 = some s ∧ c₁ = c) ∨
      (isNew = true ∧ c.sessions.get recipient 1 = none ∧
        (∃ b, bundle = some b ∧ s = Session.newInitiator X.prims io.ephSecret c.identityCopy
          recipient 1 b.identityKey b.signedPreKey) ∧
        c₁ = { c with sessions := c.sessions.add s }) := by
  unfold getOrCreateSession at h
  split at h
  · next s' hs =>
    cases h
    exact Or.inl ⟨rfl, hs, rfl⟩
  · next hs =>
    split at h
    · cases h
    · cases h
      exact Or.inr ⟨rfl, hs, ⟨_, rfl, rfl⟩, rfl⟩

/-- There is one if there is a session or a bundle. -/
theorem getOrCreateSession_isSome {io : SendInput Key} {bundle : Option (PreKeyBundle Key)}
    {c : Client Key} {recipient : String} :
    (c.getOrCreateSession X io bundle recipient).isSome ↔
      (c.sessions.get recipient 1).isSome ∨ bundle.isSome := by
  unfold getOrCreateSession
  cases c.sessions.get recipient 1 with
  | some s => simp
  | none => cases bundle <;> simp

/-- The session depends on the keys and on the session that there is. -/
theorem getOrCreateSession_congr {c c' : Client Key} {io : SendInput Key}
    {bundle : Option (PreKeyBundle Key)} {recipient : String} {s : Session Key} {isNew : Bool}
    {c₁ : Client Key} (hidentity : c'.identity = c.identity)
    (hs : c'.sessions.get recipient 1 = c.sessions.get recipient 1)
    (h : c'.getOrCreateSession X io bundle recipient = some (s, isNew, c₁)) :
    ∃ c₂, c.getOrCreateSession X io bundle recipient = some (s, isNew, c₂) := by
  have hcopy : c'.identityCopy = c.identityCopy := by
    unfold identityCopy
    rw [hidentity]
  rcases getOrCreateSession_cases h with ⟨rfl, hold, -⟩ | ⟨rfl, hnone, ⟨b, rfl, rfl⟩, -⟩
  · exact ⟨c, getOrCreateSession_old (hs.symm.trans hold) io bundle⟩
  · rw [hcopy]
    exact ⟨_, getOrCreateSession_new (hs.symm.trans hnone) io b⟩

/-- The session found or made is the one the store then has, and nothing else has changed. -/
theorem getOrCreateSession_spec {io : SendInput Key} {bundle : Option (PreKeyBundle Key)}
    {c c' : Client Key} {recipient : String} {s : Session Key} {isNew : Bool}
    (h : c.getOrCreateSession X io bundle recipient = some (s, isNew, c')) :
    c'.sessions.get recipient 1 = some s ∧ SameKeys c c' ∧ c'.chatLog = c.chatLog := by
  rcases getOrCreateSession_cases h with ⟨-, hold, rfl⟩ | ⟨-, -, ⟨b, -, rfl⟩, rfl⟩
  · exact ⟨hold, ⟨rfl, rfl, rfl⟩, rfl⟩
  · exact ⟨SessionStore.get_add_self _ _, ⟨rfl, rfl, rfl⟩, rfl⟩

theorem post_spec (io : SendInput Key) (outcome : PostOutcome) (c : Client Key)
    (recipient plaintext : String) (content : Bytes) (msgType : MessageType) :
    ∃ c', c.post io outcome recipient plaintext content msgType =
        (sendResult outcome, c', if outcome.queued then
          some (Envelope.new io.sentAt c.userId recipient content msgType) else none) ∧
      c'.sessions = c.sessions ∧ SameKeys c c' ∧ ∀ peer, c'.incoming peer = c.incoming peer := by
  unfold post
  cases hr : sendResult outcome with
  | error e => exact ⟨c, rfl, rfl, ⟨rfl, rfl, rfl⟩, fun _ => rfl⟩
  | ok u =>
    refine ⟨_, rfl, rfl, ⟨rfl, rfl, rfl⟩, fun peer => ?_⟩
    rw [incoming_recordMessage]
    simp [incoming]

/-- A new session for one user leaves those for the others alone. -/
theorem getOrCreateSession_other {io : SendInput Key} {bundle : Option (PreKeyBundle Key)}
    {c c' : Client Key} {recipient other : String} {s : Session Key} {isNew : Bool}
    (h : c.getOrCreateSession X io bundle recipient = some (s, isNew, c'))
    (hne : other ≠ recipient) : c'.sessions.get other 1 = c.sessions.get other 1 := by
  rcases getOrCreateSession_cases h with ⟨-, -, rfl⟩ | ⟨-, -, ⟨b, -, rfl⟩, rfl⟩
  · rfl
  · exact SessionStore.get_add_of_ne _ fun heq => hne heq.1.symm

/-- **What `send_encrypted` does once it has a session.** The message is encrypted with it, and
    the advanced session is stored. -/
theorem sendEncrypted_spec (hP : X.prims.Lawful) {io : SendInput Key}
    {bundle : Option (PreKeyBundle Key)} {c c₁ : Client Key} {recipient : String}
    {s : Session Key} {isNew : Bool}
    (hs : c.getOrCreateSession X io bundle recipient = some (s, isNew, c₁)) (plaintext : String) :
    ∃ m c', (s.encrypt X.prims io.nonce (utf8 plaintext)).1 = .ok m ∧
      c.sendEncrypted X io bundle recipient plaintext = (.ok (c.wrap X s isNew m), c') ∧
      c'.sessions.get recipient 1 = some (s.encrypt X.prims io.nonce (utf8 plaintext)).2 ∧
      (∀ other, other ≠ recipient → c'.sessions.get other 1 = c.sessions.get other 1) ∧
      SameKeys c c' ∧ c'.chatLog = c.chatLog := by
  obtain ⟨hget, hsame, hlog⟩ := getOrCreateSession_spec hs
  obtain ⟨m, hm⟩ := Session.exists_encrypt_ok hP s io.nonce (utf8 plaintext)
  set c₂ : Client Key := { c₁ with sessions := c₁.sessions.update recipient 1 fun s =>
    (s.encrypt X.prims io.nonce (utf8 plaintext)).2 } with hc₂
  have hwrap : c₂.wrap X (s.encrypt X.prims io.nonce (utf8 plaintext)).2 isNew m =
      c.wrap X s isNew m := by
    unfold wrap
    rw [Session.encrypt_state, Ratchet.nextSendKey_state]
    have : c₂.identity = c.identity := hsame.identity
    rw [this]
  refine ⟨m, c₂, hm, ?_, ?_, ?_, ⟨hsame.userId, hsame.identity, hsame.signedPreKey⟩, hlog⟩
  · rw [← hwrap]
    unfold sendEncrypted
    rw [hs]
    dsimp only
    rw [hm]
  · show (c₁.sessions.update recipient 1 _).get recipient 1 = _
    rw [SessionStore.get_update_self _ _ _ _ (fun s => by simp), hget]
    rfl
  · intro other hne
    show (c₁.sessions.update recipient 1 _).get other 1 = _
    rw [SessionStore.get_update_of_ne _ (fun h => hne h.1.symm) (fun s => by simp)]
    exact getOrCreateSession_other hs hne

/-- **What a send does once it has a session.** The message is encrypted with it, the advanced
    session is stored, and all of this whatever the outcome; the outcome is the result, and
    says whether the relay has queued the envelope. -/
theorem sendMessage_spec (hP : X.prims.Lawful) {io : SendInput Key}
    {bundle : Option (PreKeyBundle Key)} {c c₁ : Client Key} {recipient : String}
    {s : Session Key} {isNew : Bool} (hne : recipient ≠ c.userId)
    (hs : c.getOrCreateSession X io bundle recipient = some (s, isNew, c₁))
    (outcome : PostOutcome) (plaintext : String) :
    ∃ m c' e, (s.encrypt X.prims io.nonce (utf8 plaintext)).1 = .ok m ∧
      e = Envelope.new io.sentAt c.userId recipient (c.wrap X s isNew m).1
        (c.wrap X s isNew m).2 ∧
      c.sendMessage X io bundle outcome recipient plaintext =
        (sendResult outcome, c', if outcome.queued then some e else none) ∧
      c'.sessions.get recipient 1 = some (s.encrypt X.prims io.nonce (utf8 plaintext)).2 ∧
      SameKeys c c' ∧ ∀ peer, c'.incoming peer = c.incoming peer := by
  obtain ⟨m, c₂, hm, hsend, hget, -, hsame, hlog⟩ := sendEncrypted_spec hP hs plaintext
  obtain ⟨c', hpost, hsess, hsame', hinc⟩ := post_spec io outcome c₂ recipient plaintext
    (c.wrap X s isNew m).1 (c.wrap X s isNew m).2
  refine ⟨m, c', _, hm, rfl, ?_, ?_, hsame.trans hsame', ?_⟩
  · unfold sendMessage
    rw [if_neg hne, hsend]
    dsimp only
    rw [hpost, hsame.userId]
  · rw [hsess, hget]
  · intro peer
    rw [hinc]
    unfold incoming
    rw [hlog]

end Client

end TinTin.Cli
