/-
  Terminal clients on a network that belongs to the relay.

  The relay answers a request for keys as it likes, says what it likes about a send, and hands
  any envelope to any client whose ciphertext it can make: it has seen it, or reaches its key
  from the public keys and secrets of its own (`Composable`). There are any number of users,
  and one that never does anything is the relay's.

  `Net` also keeps what nobody has to know: who opened which session with which ephemeral
  secret, and what was encrypted with which session.

  * `sendMessage_sessions`, `getOrCreateSession_get`: the sessions after a send.
  * `receiveEnvelope_records`: what an envelope adds to the records of its sender.
-/
import TinTin.Cli.Isolation
import TinTin.Security.Provenance

namespace TinTin.Cli

open TinTin.Lib TinTin.Core TinTin.Symbolic TinTin.Security

/-! ## Quiet changes -/

/-- Keys and received messages are as before. -/
def Client.Quiet {Key : Type} (c c' : Client Key) : Prop :=
  Client.SameKeys c c' ∧ ∀ sender, (c'.view sender).records = (c.view sender).records

theorem Client.Quiet.trans {Key : Type} {c₁ c₂ c₃ : Client Key} (h : Quiet c₁ c₂)
    (h' : Quiet c₂ c₃) : Quiet c₁ c₃ :=
  ⟨h.1.trans h'.1, fun sender => (h'.2 sender).trans (h.2 sender)⟩

/-! ## The network -/

/-- A session that a client has opened: its ephemeral secret, and the signed pre-key of the
    bundle it was made from. -/
structure Opening where
  owner : String
  peer : String
  ephSecret : Term
  preKey : Term

/-- A message that a client has encrypted, and the session it did it with. -/
structure Encryption where
  sender : String
  recipient : String
  session : Session Term
  nonce : Nonce
  plaintext : Bytes

/-- The message key. -/
def Encryption.key (x : Encryption) : Term :=
  messageKey symbolic x.session.ratchet.sendChainKey

/-- The clients of all users, and what they have done so far. -/
structure Net where
  client : String → Client Term
  /-- the envelopes they have made -/
  posted : List Envelope
  openings : List Opening
  encryptions : List Encryption

/-- Something that happens to one client. -/
inductive Event
  /-- `send_message`, with the bundle that the relay hands out and its answer; what goes to a
      member of a group or a channel, or as an edit, is encrypted and posted alike -/
  | send (user : String) (io : SendInput Term) (bundle : Option (PreKeyBundle Term))
    (outcome : PostOutcome) (recipient text : String)
  /-- an envelope of a batch of `receive_messages`, at place `i` -/
  | deliver (user : String) (io : ReceiveInput Term) (i : ℕ) (e : Envelope)
  /-- anything that leaves keys, sessions and received messages alone -/
  | other (user : String) (c : Client Term)

namespace Net

/-- Every user has started the client for the first time. -/
def start (identitySecret preKeySecret : String → ℕ) : Net where
  client u := .new symbolic (.secret (identitySecret u)) (.secret (preKeySecret u)) u
  posted := []
  openings := []
  encryptions := []

variable (X : Crates Term)

/-- The session that a send encrypts with, and whether it is new. -/
def sendingSession (net : Net) (user : String) (io : SendInput Term)
    (bundle : Option (PreKeyBundle Term)) (recipient : String) : Option (Session Term × Bool) :=
  if recipient = (net.client user).userId then none
  else ((net.client user).getOrCreateSession X io bundle recipient).map fun r => (r.1, r.2.1)

def step (net : Net) : Event → Net
  | .send user io bundle outcome recipient text =>
    let c := net.client user
    let session := net.sendingSession X user io bundle recipient
    { client := Function.update net.client user
        (c.sendMessage X io bundle outcome recipient text).2.1
      posted := net.posted ++ (c.sendMessage X io bundle .accepted recipient text).2.2.toList
      openings := net.openings ++ session.toList.filterMap fun (s, isNew) =>
        if isNew then some ⟨user, recipient, io.ephSecret, s.ratchet.theirRatchetKey⟩ else none
      encryptions := net.encryptions ++ session.toList.map fun (s, _) =>
        ⟨user, recipient, s, io.nonce, utf8 text⟩ }
  | .deliver user io i e =>
    let r := (net.client user).receiveEnvelope X io i e
    { net with client := Function.update net.client user r.2.1, posted := net.posted ++ r.2.2 }
  | .other user c => { net with client := Function.update net.client user c }

/-- The relay can make the ciphertext. -/
def Composable (own : Set ℕ) (net : Net) (ciphertext : Bytes) : Prop :=
  ∀ k n plaintext, sealed.decode ciphertext = some (k, n, plaintext) →
    Derives (Computes symbolic) (known own) k ∨
      ∃ x ∈ net.encryptions, x.key = k ∧ x.nonce = n ∧ x.plaintext = plaintext

/-- What can happen next: a client draws ephemeral secrets that are nobody's, and the relay
    delivers what it can make. -/
def Allows (own : Set ℕ) (net : Net) : Event → Prop
  | .send _ io _ _ _ _ => ∃ n, io.ephSecret = .secret n ∧ n ∉ own ∧
      ∀ o ∈ net.openings, o.ephSecret ≠ io.ephSecret
  | .deliver _ _ _ e =>
    (∀ m, e.msgType = .normal → X.serde.sessionMessage.decode e.content = some m →
      net.Composable own m.ciphertext) ∧
    ∀ prekey, e.msgType = .preKeyBundle →
      X.serde.preKeyBundleMessage.decode e.content = some prekey →
      net.Composable own prekey.sessionMessage.ciphertext
  | .other user c => (net.client user).Quiet c ∧ c.sessions = (net.client user).sessions

/-- A `PreKeyBundle` envelope under the name of `sender` reaches `recipient` only if it is one
    that the client of `sender` has made for it. -/
def Vouched (sender recipient : String) (net : Net) : Event → Prop
  | .deliver user _ _ e => user = recipient → e.senderId = sender → e.msgType = .preKeyBundle →
      e ∈ net.posted ∧ e.recipientId = recipient
  | _ => True

/-- A step that is allowed, and vouched for between two users. -/
def Step (own : Set ℕ) (sender recipient : String) (net : Net) (event : Event) (net' : Net) :
    Prop :=
  net.Allows X own event ∧ net.Vouched sender recipient event ∧ net' = net.step X event

variable {X}

theorem step_deliver_client (net : Net) (user : String) (io : ReceiveInput Term) (i : ℕ)
    (e : Envelope) :
    (net.step X (.deliver user io i e)).client user =
      ((net.client user).receiveEnvelope X io i e).2.1 :=
  Function.update_self ..

theorem step_send_client_of_ne (net : Net) {user other : String} (hne : other ≠ user)
    (io : SendInput Term) (bundle : Option (PreKeyBundle Term)) (outcome : PostOutcome)
    (recipient text : String) :
    (net.step X (.send user io bundle outcome recipient text)).client other = net.client other :=
  Function.update_of_ne hne ..

end Net

/-! ## Sending -/

namespace Client

variable {Key : Type} {X : Crates Key} {io : SendInput Key} {bundle : Option (PreKeyBundle Key)}
  {c c₁ : Client Key} {recipient : String} {s : Session Key} {isNew : Bool}

theorem getOrCreateSession_get
    (h : c.getOrCreateSession X io bundle recipient = some (s, isNew, c₁)) (p : String)
    (d : UInt32) :
    c₁.sessions.get p d = if recipient = p ∧ d = 1 then some s else c.sessions.get p d := by
  rcases getOrCreateSession_cases h with ⟨-, hs, rfl⟩ | ⟨-, -, ⟨b, -, rfl⟩, rfl⟩
  · split_ifs with hp
    · rw [← hp.1, hp.2, hs]
    · rfl
  · split_ifs with hp
    · exact SessionStore.get_add _ hp.1 hp.2.symm
    · exact SessionStore.get_add_of_ne _ fun h => hp ⟨h.1, h.2.symm⟩

theorem post_quiet (io : SendInput Key) (outcome : PostOutcome) (c : Client Key)
    (recipient plaintext : String) (content : Bytes) (msgType : MessageType) :
    Quiet c (c.post io outcome recipient plaintext content msgType).2.1 ∧
      (c.post io outcome recipient plaintext content msgType).2.1.sessions = c.sessions := by
  unfold post
  cases sendResult outcome with
  | error e => exact ⟨⟨⟨rfl, rfl, rfl⟩, fun _ => rfl⟩, rfl⟩
  | ok u =>
    refine ⟨⟨⟨rfl, rfl, rfl⟩, fun sender => ?_⟩, rfl⟩
    show ((c.chatLog ++ [_]).filter _).map _ = (c.chatLog.filter _).map _
    rw [List.filter_append]
    simp

/-- A send to oneself, or without a session, leaves the sessions alone. -/
theorem sendMessage_quiet (outcome : PostOutcome) (text : String)
    (h : recipient = c.userId ∨ c.getOrCreateSession X io bundle recipient = none) :
    Quiet c (c.sendMessage X io bundle outcome recipient text).2.1 ∧
      (c.sendMessage X io bundle outcome recipient text).2.1.sessions = c.sessions := by
  unfold sendMessage
  by_cases hself : recipient = c.userId
  · rw [if_pos hself]
    exact post_quiet io outcome c recipient text (utf8 text) .normal
  · rw [if_neg hself]
    unfold sendEncrypted
    rw [h.resolve_left hself]
    exact ⟨⟨⟨rfl, rfl, rfl⟩, fun _ => rfl⟩, rfl⟩

/-- The envelope of a send to oneself is no encrypted one, and without a session there is none. -/
theorem sendMessage_note (outcome : PostOutcome) (text : String)
    (h : recipient = c.userId ∨ c.getOrCreateSession X io bundle recipient = none) :
    ∀ e ∈ (c.sendMessage X io bundle outcome recipient text).2.2, e.msgType = .normal := by
  intro e he
  unfold sendMessage at he
  by_cases hself : recipient = c.userId
  · rw [if_pos hself] at he
    obtain ⟨c', hpost, -⟩ := post_spec io outcome c recipient text (utf8 text) .normal
    rw [hpost] at he
    dsimp only at he
    split at he
    · cases he
      rfl
    · cases he
  · rw [if_neg hself] at he
    unfold sendEncrypted at he
    rw [h.resolve_left hself] at he
    cases he

/-- A send stores the session it has encrypted with, and leaves the others alone. -/
theorem sendMessage_sessions (outcome : PostOutcome) (text : String) (hne : recipient ≠ c.userId)
    (h : c.getOrCreateSession X io bundle recipient = some (s, isNew, c₁)) :
    Quiet c (c.sendMessage X io bundle outcome recipient text).2.1 ∧ ∀ p d,
      (c.sendMessage X io bundle outcome recipient text).2.1.sessions.get p d =
        if recipient = p ∧ d = 1 then some (s.encrypt X.prims io.nonce (utf8 text)).2
        else c.sessions.get p d := by
  obtain ⟨-, hkeys, hlog⟩ := getOrCreateSession_spec h
  let c₂ : Client Key := { c₁ with sessions := c₁.sessions.update recipient 1 fun s =>
    (s.encrypt X.prims io.nonce (utf8 text)).2 }
  have hc₂ : Quiet c c₂ := by
    refine ⟨⟨hkeys.userId, hkeys.identity, hkeys.signedPreKey⟩, fun sender => ?_⟩
    show (c₁.chatLog.filter _).map _ = (c.chatLog.filter _).map _
    rw [hlog]
  have hget : ∀ p d, c₂.sessions.get p d =
      if recipient = p ∧ d = 1 then some (s.encrypt X.prims io.nonce (utf8 text)).2
      else c.sessions.get p d := by
    intro p d
    have hkeep : ∀ s : Session Key,
        (s.encrypt X.prims io.nonce (utf8 text)).2.remoteUserId = s.remoteUserId ∧
        (s.encrypt X.prims io.nonce (utf8 text)).2.remoteDeviceId = s.remoteDeviceId :=
      fun s => by simp
    split_ifs with hp
    · obtain ⟨rfl, rfl⟩ := hp
      show (c₁.sessions.update _ _ _).get _ _ = _
      rw [SessionStore.get_update_self _ _ _ _ hkeep, getOrCreateSession_get h, if_pos ⟨rfl, rfl⟩]
      rfl
    · show (c₁.sessions.update _ _ _).get _ _ = _
      rw [SessionStore.get_update_of_ne _ (fun h => hp ⟨h.1, h.2.symm⟩) hkeep,
        getOrCreateSession_get h, if_neg hp]
  unfold sendMessage
  rw [if_neg hne]
  unfold sendEncrypted
  rw [h]
  dsimp only
  cases hres : (s.encrypt X.prims io.nonce (utf8 text)).1 with
  | error e => exact ⟨hc₂, hget⟩
  | ok m =>
    have hpost := post_quiet io outcome c₂ recipient text
      (c₂.wrap X (s.encrypt X.prims io.nonce (utf8 text)).2 isNew m).1
      (c₂.wrap X (s.encrypt X.prims io.nonce (utf8 text)).2 isNew m).2
    refine ⟨hc₂.trans hpost.1, fun p d => ?_⟩
    rw [← hget]
    exact congrArg (fun st => SessionStore.get st p d) hpost.2

/-- A send leaves keys and received messages alone. -/
theorem sendMessage_keeps (X : Crates Key) (io : SendInput Key)
    (bundle : Option (PreKeyBundle Key)) (outcome : PostOutcome) (c : Client Key)
    (recipient text : String) :
    Quiet c (c.sendMessage X io bundle outcome recipient text).2.1 := by
  by_cases hself : recipient = c.userId
  · exact (sendMessage_quiet outcome text (.inl hself)).1
  · rcases hget : c.getOrCreateSession X io bundle recipient with _ | ⟨s, isNew, c₁⟩
    · exact (sendMessage_quiet outcome text (.inr hget)).1
    · exact (sendMessage_sessions outcome text hself hget).1

end Client

/-- Whether a send has a session to encrypt with. -/
theorem Net.sendingSession_cases (net : Net) (X : Crates Term) (user : String)
    (io : SendInput Term) (bundle : Option (PreKeyBundle Term)) (peer : String) :
    (net.sendingSession X user io bundle peer = none ∧
      (peer = (net.client user).userId ∨
        (net.client user).getOrCreateSession X io bundle peer = none)) ∨
    ∃ s isNew c₁, net.sendingSession X user io bundle peer = some (s, isNew) ∧
      peer ≠ (net.client user).userId ∧
      (net.client user).getOrCreateSession X io bundle peer = some (s, isNew, c₁) := by
  unfold sendingSession
  by_cases hself : peer = (net.client user).userId
  · rw [if_pos hself]
    exact .inl ⟨rfl, .inl hself⟩
  · rw [if_neg hself]
    rcases hget : (net.client user).getOrCreateSession X io bundle peer with _ | ⟨s, isNew, c₁⟩
    · exact .inl ⟨rfl, .inr rfl⟩
    · exact .inr ⟨s, isNew, c₁, rfl, hself, rfl⟩

/-- A send without a session opens and encrypts nothing. -/
theorem Net.step_send_none {net : Net} {X : Crates Term} {user peer : String}
    {io : SendInput Term} {bundle : Option (PreKeyBundle Term)}
    (h : net.sendingSession X user io bundle peer = none) (outcome : PostOutcome) (text : String) :
    (net.step X (.send user io bundle outcome peer text)).openings = net.openings ∧
      (net.step X (.send user io bundle outcome peer text)).encryptions = net.encryptions := by
  rw [step, h]
  exact ⟨List.append_nil _, List.append_nil _⟩

/-- A send with a session encrypts with it, and a new session is an opening. -/
theorem Net.step_send_some {net : Net} {X : Crates Term} {user peer : String}
    {io : SendInput Term} {bundle : Option (PreKeyBundle Term)} {s : Session Term} {isNew : Bool}
    (h : net.sendingSession X user io bundle peer = some (s, isNew)) (outcome : PostOutcome)
    (text : String) :
    (net.step X (.send user io bundle outcome peer text)).openings = net.openings ++
        (if isNew then [⟨user, peer, io.ephSecret, s.ratchet.theirRatchetKey⟩] else []) ∧
      (net.step X (.send user io bundle outcome peer text)).encryptions =
        net.encryptions ++ [⟨user, peer, s, io.nonce, utf8 text⟩] := by
  rw [step, h]
  cases isNew <;> exact ⟨rfl, rfl⟩

/-! ## Receiving -/

section Receiving

variable {Key : Type} [DecidableEq Key] {X : Crates Key} {c : Client Key} {e : Envelope}

/-- What an envelope can do to a session of its sender. -/
inductive Touches (X : Crates Key) (c : Client Key) (e : Envelope) (session : Option (Session Key)) :
    UInt32 → Session Key → Prop
  | hello {prekey : PreKeyBundleMessage Key} {plaintext : Bytes} (htype : e.msgType = .preKeyBundle)
    (hdec : X.serde.preKeyBundleMessage.decode e.content = some prekey)
    (hok : ((Client.responderFor X c e prekey).decrypt X.prims prekey.sessionMessage).1 =
      .ok plaintext) :
    Touches X c e session e.senderDeviceId
      ((Client.responderFor X c e prekey).decrypt X.prims prekey.sessionMessage).2
  | message {m : SessionMessage Key} {s : Session Key} (htype : e.msgType = .normal)
    (hdec : X.serde.sessionMessage.decode e.content = some m) (hs : session = some s) :
    Touches X c e session 1 (s.decrypt X.prims m).2

omit [DecidableEq Key] in
theorem Client.finish_sessions (io : ReceiveInput Key) (i : ℕ) (c : Client Key) (e : Envelope)
    (plaintext : Bytes) : (c.finish X io i e plaintext).2.1.sessions = c.sessions := by
  unfold finish
  rcases afterDecrypt_cases X io i c e.senderId plaintext with
    ⟨-, call, hrun⟩ | ⟨-, -, hrun | ⟨files, downloads, hrun⟩⟩ | ⟨-, -, hrun⟩ <;>
    simp only [hrun, logIncoming, recordMessage]

/-- Any session after a delivery is one from before, or one of the envelope's sender that the
    envelope made. -/
theorem Client.receiveEnvelope_session (io : ReceiveInput Key) (i : ℕ) {p : String} {d : UInt32}
    {s : Session Key} (h : (c.receiveEnvelope X io i e).2.1.sessions.get p d = some s) :
    c.sessions.get p d = some s ∨
      (e.senderId = p ∧ Touches X c e (c.sessions.get p 1) d s) := by
  -- the session for the sender that a message has moved on
  have hmoved : ∀ {m : SessionMessage Key} {s' : Session Key}, e.msgType = .normal →
      X.serde.sessionMessage.decode e.content = some m →
      c.sessions.get e.senderId 1 = some s' →
      (c.sessions.update e.senderId 1 fun s => (s.decrypt X.prims m).2).get p d = some s →
      c.sessions.get p d = some s ∨
        (e.senderId = p ∧ Touches X c e (c.sessions.get p 1) d s) := by
    intro m s' htype hdec hs' hget
    have hkeep : ∀ s : Session Key, (s.decrypt X.prims m).2.remoteUserId = s.remoteUserId ∧
        (s.decrypt X.prims m).2.remoteDeviceId = s.remoteDeviceId := fun _ => ⟨rfl, rfl⟩
    by_cases hp : e.senderId = p ∧ 1 = d
    · obtain ⟨rfl, rfl⟩ := hp
      rw [SessionStore.get_update_self _ _ _ _ hkeep, hs'] at hget
      cases hget
      exact .inr ⟨rfl, .message htype hdec hs'⟩
    · rw [SessionStore.get_update_of_ne _ hp hkeep] at hget
      exact .inl hget
  have hr := received (X := X) io i c e
  generalize c.receiveEnvelope X io i e = r at h hr
  cases hr with
  | invalid => exact .inl h
  | @hello prekey plaintext htype hdec hok =>
    rw [finish_sessions] at h
    have huser : ((responderFor X c e prekey).decrypt X.prims
        prekey.sessionMessage).2.remoteUserId = e.senderId := rfl
    have hdevice : ((responderFor X c e prekey).decrypt X.prims
        prekey.sessionMessage).2.remoteDeviceId = e.senderDeviceId := rfl
    by_cases hp : e.senderId = p ∧ e.senderDeviceId = d
    · obtain ⟨rfl, rfl⟩ := hp
      rw [SessionStore.get_add _ huser hdevice] at h
      cases h
      exact .inr ⟨rfl, .hello htype hdec hok⟩
    · rw [← huser, ← hdevice] at hp
      rw [SessionStore.get_add_of_ne _ hp] at h
      exact .inl h
  | note => exact .inl h
  | message htype hne hdec hs hok =>
    rw [finish_sessions] at h
    exact hmoved htype hdec hs h
  | rejected htype hne hdec hs herr => exact hmoved htype hdec hs h
  | receipt => exact .inl h
  | skipped => exact .inl h

/-- What reading a plaintext adds to the records of its sender. -/
theorem Client.finish_records {c c' : Client Key} (hlog : c'.chatLog = c.chatLog)
    (io : ReceiveInput Key) (i : ℕ) (plaintext : Bytes) (sender : String) :
    ((c'.finish X io i e plaintext).2.1.view sender).records = (c.view sender).records ∨
      e.senderId = sender ∧ ((c'.finish X io i e plaintext).2.1.view sender).records =
        ((c.view sender).log sender (entryOf X plaintext)).records := by
  have hsame : (c'.view sender).records = (c.view sender).records := by
    unfold view
    rw [hlog]
  rw [(finish_view (X := X) io i c' e plaintext sender).2]
  unfold SenderView.read
  split_ifs with hsender hread
  · exact .inl hsame
  · right
    refine ⟨hsender, ?_⟩
    show (c'.view sender).records ++ _ = (c.view sender).records ++ _
    rw [hsame]
  · exact .inl hsame

/-- **What an envelope adds to the records of its sender** is what it has for the client. -/
theorem Client.receiveEnvelope_records (io : ReceiveInput Key) (i : ℕ) {sender : String}
    (hne : sender ≠ c.userId) :
    ((c.receiveEnvelope X io i e).2.1.view sender).records = (c.view sender).records ∨
      ∃ plaintext, e.senderId = sender ∧ c.opens X e = some plaintext ∧
        ((c.receiveEnvelope X io i e).2.1.view sender).records =
          ((c.view sender).log sender (entryOf X plaintext)).records := by
  have hr := received (X := X) io i c e
  generalize c.receiveEnvelope X io i e = r at hr ⊢
  cases hr with
  | invalid => exact .inl rfl
  | @hello prekey plaintext htype hdec hok =>
    refine (finish_records rfl io i plaintext sender).imp id fun h => ⟨plaintext, h.1, ?_, h.2⟩
    rw [opens_hello htype hdec, hok]
    rfl
  | note htype hself =>
    left
    rw [view_logIncoming, if_neg fun hs => hne (hs.symm.trans hself)]
  | @message m s plaintext htype hself hdec hs hok =>
    refine (finish_records rfl io i plaintext sender).imp id fun h => ⟨plaintext, h.1, ?_, h.2⟩
    rw [opens_normal htype hself hdec hs, hok]
    rfl
  | rejected => exact .inl rfl
  | receipt => exact .inl rfl
  | skipped => exact .inl rfl

omit [DecidableEq Key] in
theorem Client.finish_posted (io : ReceiveInput Key) (i : ℕ) (c : Client Key) (e : Envelope)
    (plaintext : Bytes) : ∀ r ∈ (c.finish X io i e plaintext).2.2, r.msgType = .receipt := by
  intro r hr
  unfold finish at hr
  cases hc : c.afterDecrypt X io i e.senderId plaintext with
  | none =>
    rw [hc] at hr
    cases hr
  | some c' =>
    rw [hc] at hr
    dsimp only at hr
    split at hr
    · rw [List.mem_singleton.mp hr]
      rfl
    · cases hr

/-- A client that receives answers with receipts and nothing else. -/
theorem Client.receiveEnvelope_posted (io : ReceiveInput Key) (i : ℕ) :
    ∀ x ∈ (c.receiveEnvelope X io i e).2.2, x.msgType = .receipt := by
  have hr := received (X := X) io i c e
  generalize c.receiveEnvelope X io i e = r at hr ⊢
  cases hr with
  | hello => exact finish_posted io i _ e _
  | message => exact finish_posted io i _ e _
  | invalid | note | rejected | receipt | skipped => exact List.forall_mem_nil _

end Receiving

end TinTin.Cli
