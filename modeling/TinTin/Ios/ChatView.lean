/-
  Sending in the iOS app (`ChatView.swift`, and `startChat` of `ChatListView.swift`).

  `sendMessage` runs in one `do`/`catch`: the session is read from the persisted ones or made
  from the fetched keys, it encrypts, it is persisted, and only then the app talks to the
  relay. Every envelope it sends is a `Normal` one, the first one too.

  The date and the id of a message are left out, and so is the task that the call runs in.

  * `sendMessage_queued`: the envelopes that a send can queue.
  * `poll_noSession`: a poll shows nothing of a sender without a session.
-/
import TinTin.Ios.ChatList

namespace TinTin.Ios

open TinTin.Lib TinTin.Core TinTin.Cli

variable {Key : Type}

/-- The running app: what `sendMessage` uses besides the state that polling uses. -/
structure Phone (Key : Type) where
  userId : String
  /-- none before `initializeIdentity` -/
  identityHandle : Option (IdentityKeyPair Key)
  /-- `RelayService` has a connection -/
  connected : Bool
  app : AppState

/-- The keys `RelayService.fetchKeys` returns: the identity key, and the signed pre-key. -/
structure FetchedKeys (Key : Type) where
  identityKey : Key
  signedPreKey : Key
  deriving DecidableEq, Repr

/-- What one `sendMessage` draws and reads off the clock. -/
structure ChatInput (Key : Type) where
  ephSecret : Key
  nonce : Nonce
  sentAt : UInt64

/-- What a call throws. -/
inductive ChatError
  | session
  | fetchKeys
  | identity
  | encrypt
  | relay
  deriving DecidableEq, Repr

/-- `CharacterSet.whitespaces`: the space separators and the tabulation. -/
def isWhitespace (c : Char) : Bool :=
  c.toNat = 0x09 || c.toNat = 0x20 || c.toNat = 0xA0 || c.toNat = 0x1680 ||
    (0x2000 ≤ c.toNat && c.toNat ≤ 0x200A) || c.toNat = 0x202F || c.toNat = 0x205F ||
    c.toNat = 0x3000

/-- `trimmingCharacters(in: .whitespaces)` -/
def trimmed (text : String) : String :=
  let front := text.toList.dropWhile isWhitespace
  String.ofList (front.reverse.dropWhile isWhitespace).reverse

example : trimmed " \t hi you " = "hi you" := by decide

namespace Phone

variable (X : Platform Key)

/-- `SessionHandle.newInitiator` for device 1, with the identity handle. -/
def newInitiator (ephSecret : Key) (p : Phone Key) (remoteId : String)
    (keys : FetchedKeys Key) : Option (Session Key) :=
  p.identityHandle.map fun identity =>
    Session.newInitiator X.prims ephSecret identity remoteId 1 keys.identityKey keys.signedPreKey

/-- "Load or create session". A new session is not persisted yet. -/
def loadOrCreate (io : ChatInput Key) (keys : Option (FetchedKeys Key)) (p : Phone Key)
    (remoteId : String) : Except ChatError (Session Key) :=
  match p.app.sessions remoteId with
  | some json =>
    match X.serde.session.decode json with
    | none => .error .session
    | some session => .ok session
  | none =>
    if p.connected = false then .error .relay
    else
      match keys with
      | none => .error .fetchKeys
      | some keys =>
        match p.newInitiator X io.ephSecret remoteId keys with
        | none => .error .identity
        | some session => .ok session

/-- The end of `sendMessage`: the envelope goes out, and an accepted one is shown. -/
def post (io : ChatInput Key) (outcome : PostOutcome) (p : Phone Key) (remoteId text : String)
    (ciphertext : Bytes) : Option ChatError × Phone Key × Option Envelope :=
  if p.identityHandle.isNone then (some .identity, p, none)
  else if p.connected = false then (some .relay, p, none)
  else
    let envelope : Envelope :=
      { senderId := p.userId
        recipientId := remoteId
        senderDeviceId := 1
        timestamp := io.sentAt
        content := ciphertext
        msgType := .normal }
    let queued := if outcome.queued then some envelope else none
    match outcome with
    | .accepted =>
      let msg : MessageModel := { senderId := p.userId, text := text, direction := .outgoing }
      let messages := (p.app.messages remoteId).getD [] ++ [msg]
      (none, { p with app := { p.app with
        messages := Function.update p.app.messages remoteId (some messages) } }, queued)
    | _ => (some .relay, p, queued)

/-- `sendMessage` on what is in the text field: the error it shows, if any, and the envelope
    that the relay queued. -/
def sendMessage (io : ChatInput Key) (keys : Option (FetchedKeys Key)) (outcome : PostOutcome)
    (p : Phone Key) (remoteId textInput : String) :
    Option ChatError × Phone Key × Option Envelope :=
  let text := trimmed textInput
  if text = "" then (none, p, none)
  else
    match p.loadOrCreate X io keys remoteId with
    | .error e => (some e, p, none)
    | .ok session =>
      match session.encrypt X.prims io.nonce (utf8 text) with
      | (.error _, _) => (some .encrypt, p, none)
      | (.ok sessionMsg, session) =>
        let app := p.app.saveSessionJSON (X.serde.session.encode session) remoteId
        let p : Phone Key := { p with app := app }
        p.post io outcome remoteId text (X.serde.sessionMessage.encode sessionMsg)

/-- `startChat`: a new session is persisted, also where there was one. -/
def startChat (ephSecret : Key) (keys : Option (FetchedKeys Key)) (identityBytes : Bytes)
    (p : Phone Key) (userId : String) : Phone Key :=
  if userId = "" ∨ p.connected = false then p
  else
    match keys with
    | none => p
    | some keys =>
      match p.newInitiator X ephSecret userId keys with
      | none => p
      | some session =>
        let app := p.app.saveSessionJSON (X.serde.session.encode session) userId
        let contact : UserModel := ⟨userId, identityBytes, 1, userId⟩
        { p with app := { app with
          contacts := if app.contacts.contains contact then app.contacts
            else app.contacts ++ [contact] } }

/-! ## What a send can queue -/

variable {X}

theorem post_queued {io : ChatInput Key} {outcome : PostOutcome} {p : Phone Key}
    {remoteId text : String} {ciphertext : Bytes} {e : Envelope}
    (h : (p.post io outcome remoteId text ciphertext).2.2 = some e) :
    e.msgType = .normal ∧ e.senderId = p.userId := by
  unfold post at h
  split at h
  · cases h
  · split at h
    · cases h
    · dsimp only at h
      cases outcome with
      | accepted =>
        cases h
        exact ⟨rfl, rfl⟩
      | refused => cases h
      | writeFailed => cases h
      | noAnswer queued =>
        cases queued with
        | false => cases h
        | true =>
          cases h
          exact ⟨rfl, rfl⟩

/-- **Every envelope a send queues is a `Normal` one.** -/
theorem sendMessage_queued {io : ChatInput Key} {keys : Option (FetchedKeys Key)}
    {outcome : PostOutcome} {p : Phone Key} {remoteId textInput : String} {e : Envelope}
    (h : (p.sendMessage X io keys outcome remoteId textInput).2.2 = some e) :
    e.msgType = .normal ∧ e.senderId = p.userId := by
  unfold sendMessage at h
  dsimp only at h
  split at h
  · cases h
  · split at h
    · cases h
    · split at h
      · cases h
      · have hpost := post_queued h
        exact ⟨hpost.1, hpost.2⟩

theorem startChat_userId (ephSecret : Key) (keys : Option (FetchedKeys Key))
    (identityBytes : Bytes) (p : Phone Key) (userId : String) :
    (p.startChat X ephSecret keys identityBytes userId).userId = p.userId := by
  unfold startChat
  split
  · rfl
  · split
    · rfl
    · split <;> rfl

end Phone

/-! ## Polling without a session -/

variable {X : Platform Key} [DecidableEq Key]

theorem SenderView.hear_noSession {v : SenderView}
    (h : v.session.bind X.serde.session.decode = none) (env : EnvelopeValue) :
    v.hear X env = v := by
  unfold SenderView.hear
  rw [h]
  split <;> rfl

/-- **A sender without a session is not heard**, whatever it sends. -/
theorem poll_noSession {s : AppState} {sender : String}
    (h : (s.sessions sender).bind X.serde.session.decode = none) (batch : List EnvelopeValue) :
    (pollIncoming X s (some batch)).view sender = s.view sender := by
  refine ((poll_local sender).view_run trivial 0 batch).trans ?_
  generalize (Batch.reached (pollBody X) 0 s batch).filter _ = heard
  induction heard with
  | nil => rfl
  | cons env rest ih => rw [List.foldl_cons, SenderView.hear_noSession h, ih]

end TinTin.Ios
