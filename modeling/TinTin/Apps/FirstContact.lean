/-
  The first message between two clients, each of any of the three implementations.

  The terminal client sends its first message in a `PreKeyBundle` envelope with the key that
  the recipient needs for its half of the session, and makes that half when it receives one.
  The two apps send every message in a `Normal` envelope, and neither makes a session for an
  envelope: they read with a session that they made themselves, or not at all.

  * `queued_normal`: what the apps send.
  * `poll_normal`, `poll_app`: what is shown of a sender without a session.
  * `poll_hello`: what the terminal client shows of a first message of its own kind.
  * `first_contact_iff`: when the first message is shown.
-/
import TinTin.Apps.FailedSend
import TinTin.Apps.Isolation
import TinTin.Cli.AsText
import TinTin.Ios.ChatView

namespace TinTin.Apps

open TinTin.Lib TinTin.Core TinTin.Cli TinTin.Ios TinTin.Symbolic

/-- The third-party code of the three programs; they share the core library. -/
structure Libraries (Key : Type) where
  crates : Crates Key
  /-- `JSONSerialization.jsonObject` -/
  jsonObject : Bytes → Option Json
  /-- `JSONSerialization.data`, as a text -/
  jsonText : Json → Option String

def Libraries.platform {Key : Type} (L : Libraries Key) : Platform Key :=
  ⟨L.crates.prims, L.crates.serde, L.jsonObject, L.jsonText⟩

/-- A client of one of the three implementations; for the apps, with the bundle they have
    registered. -/
inductive App (Key : Type)
  | cli (c : Client Key)
  | android (s : Android.AppState Key) (registered : PreKeyBundle Key)
  | ios (p : Ios.Phone Key) (registered : PreKeyBundle Key)

variable {Key : Type}

/-- The texts the Android app shows of a sender while it goes through a batch. -/
def shownBy [DecidableEq Key] (P : Primitives Key) (J : Serde Key) (sender : String) :
    Android.AppState Key → List Envelope → List String × Android.AppState Key
  | s, [] => ([], s)
  | s, env :: rest =>
    let (text, s) := s.handleIncoming P J env
    let (texts, s) := shownBy P J sender s rest
    ((if env.senderId = sender then text.toList else []) ++ texts, s)

/-- The envelope as `JSONDecoder` reads it. -/
def envelopeValue (e : Envelope) : EnvelopeValue :=
  { senderId := e.senderId
    recipientId := e.recipientId
    senderDeviceId := e.senderDeviceId
    timestamp := e.timestamp
    content := e.content
    msgType := match e.msgType with
      | .normal => "Normal"
      | .preKeyBundle => "PreKeyBundle"
      | .receipt => "Receipt"
      | .typing => "Typing" }

/-- The direct messages among the records of a sender. -/
def directTexts (v : Cli.SenderView Key) : List String :=
  (v.records.filter fun r => r.isGroup = false ∧ r.isChannel = false).map (·.text)

/-- The incoming messages of a conversation. -/
def incomingTexts (v : Ios.SenderView) : List String :=
  ((v.messages.getD []).filter (·.direction = .incoming)).map (·.text)

namespace App

variable (L : Libraries Key)

def userId : App Key → String
  | cli c => c.userId
  | android s _ => s.userId
  | ios p _ => p.userId

def isCli : App Key → Bool
  | cli _ => true
  | android _ _ => false
  | ios _ _ => false

/-- The bundle the relay has for the client. -/
def register : App Key → PreKeyBundle Key
  | cli c => c.register
  | android _ registered => registered
  | ios _ registered => registered

/-- The session a client holds for a user. -/
def session : App Key → String → Option (Session Key)
  | cli c, peer => c.sessions.get peer 1
  | android s _, peer => s.session L.crates.serde peer
  | ios p _, peer => (p.app.sessions peer).bind L.crates.serde.session.decode

/-- The signed pre-key of a terminal client is an X25519 pair. -/
def WellFormed : App Key → Prop
  | cli c => c.signedPreKey.keyPair.WellFormed L.crates.prims
  | android _ _ => True
  | ios _ _ => True

/-- A message to a user with the given bundle, accepted by the relay. In the apps the chat may
    have been opened with `startChat`, which then drew a secret. -/
def sendFirst (io : SendInput Key) (opened : Option Key) (bundle : PreKeyBundle Key)
    (peer text : String) : App Key → App Key × Option Envelope
  | cli c =>
    let (_, c, queued) := c.sendMessage L.crates io (some bundle) .accepted peer text
    (cli c, queued)
  | android s registered =>
    let keys := some (keyBundleResponse bundle)
    let s := match opened with
      | none => s
      | some secret => s.startChat L.crates.prims L.crates.serde secret keys peer
    let (_, s, queued) := s.sendMessage L.crates.prims L.crates.serde (chatInput io) keys
      .accepted peer text
    (android s registered, queued)
  | ios p registered =>
    let keys : Option (FetchedKeys Key) := some ⟨bundle.identityKey, bundle.signedPreKey⟩
    let p := match opened with
      | none => p
      | some secret => p.startChat L.platform secret keys [] peer
    let (_, p, queued) := p.sendMessage L.platform ⟨io.ephSecret, io.nonce, io.sentAt⟩ keys
      .accepted peer text
    (ios p registered, queued)

variable [DecidableEq Key]

/-- A poll that returns the batch: the texts shown of a sender, and the client afterwards. -/
def poll (rio : ReceiveInput Key) (sender : String) (batch : List Envelope) :
    App Key → List String × App Key
  | cli c =>
    let c' := c.afterBatch L.crates rio batch
    ((directTexts (c'.view sender)).drop (directTexts (c.view sender)).length, cli c')
  | android s registered =>
    let (texts, s) := shownBy L.crates.prims L.crates.serde sender s batch
    (texts, android s registered)
  | ios p registered =>
    let app := pollIncoming L.platform p.app (some (batch.map envelopeValue))
    ((incomingTexts (app.view sender)).drop (incomingTexts (p.app.view sender)).length,
      ios { p with app := app } registered)

/-- The loop of a poll gets past the envelopes. -/
def getsPast (rio : ReceiveInput Key) (batch : List Envelope) : App Key → Bool
  | cli c => Batch.goesOn (Client.receiveBody L.crates rio) 0 c batch
  | android _ _ => true
  | ios p _ => Batch.goesOn (pollBody L.platform) 0 p.app (batch.map envelopeValue)

/-- **First contact**: the first envelope of `a` gives `b` its half of the session, and the text
    is shown. -/
def FirstContact (io : SendInput Key) (opened : Option Key) (rio : ReceiveInput Key)
    (before after : List Envelope) (a b : App Key) (text : String) : Prop :=
  ∃ e, (a.sendFirst L io opened b.register b.userId text).2 = some e ∧
    let polled := b.poll L rio a.userId (before ++ e :: after)
    polled.1 = [text] ∧
      ∃ s, polled.2.session L a.userId = some s ∧ s.role = .responder

/-! ## What is sent -/

variable {L} {io : SendInput Key} {opened : Option Key} {rio : ReceiveInput Key}
  {before after : List Envelope} {a b : App Key} {text sender : String}

omit [DecidableEq Key] in
/-- The apps send every message as a `Normal` one. -/
theorem queued_normal (ha : a.isCli = false) {bundle : PreKeyBundle Key} {peer : String}
    {e : Envelope} (h : (a.sendFirst L io opened bundle peer text).2 = some e) :
    e.msgType = .normal ∧ e.senderId = a.userId := by
  cases a with
  | cli c => cases ha
  | android s registered =>
    unfold sendFirst at h
    obtain ⟨htype, hsender⟩ := Android.AppState.sendMessage_queued h
    refine ⟨htype, hsender.trans ?_⟩
    cases opened with
    | none => rfl
    | some secret => exact Android.AppState.startChat_userId ..
  | ios p registered =>
    unfold sendFirst at h
    obtain ⟨htype, hsender⟩ := Phone.sendMessage_queued h
    refine ⟨htype, hsender.trans ?_⟩
    cases opened with
    | none => rfl
    | some secret => exact Phone.startChat_userId ..

omit [DecidableEq Key] in
theorem sendFirst_android (s : Android.AppState Key) (registered bundle : PreKeyBundle Key)
    (peer : String) :
    ((android s registered).sendFirst L io none bundle peer text).2 =
      (s.sendMessage L.crates.prims L.crates.serde (chatInput io)
        (some (keyBundleResponse bundle)) .accepted peer text).2.2 := rfl

/-! ## What is shown -/

/-- Without a session nothing of a sender is shown in the Android app. -/
theorem shownBy_noSession {P : Primitives Key} {J : Serde Key} {s : Android.AppState Key}
    (hs : s.session J sender = none) (batch : List Envelope) :
    (shownBy P J sender s batch).1 = [] := by
  induction batch generalizing s with
  | nil => rfl
  | cons env rest ih =>
    show (if env.senderId = sender then (s.handleIncoming P J env).1.toList else []) ++
      (shownBy P J sender (s.handleIncoming P J env).2 rest).1 = []
    by_cases hsender : env.senderId = sender
    · rw [if_pos hsender, Android.AppState.handleIncoming_noSession (hsender ▸ hs)]
      exact ih hs
    · rw [if_neg hsender]
      exact ih ((Android.AppState.handleIncoming_other hsender).trans hs)

/-- **The apps show nothing of a sender without a session**, whatever it sends. -/
theorem poll_app (hb : b.isCli = false) (hs : b.session L sender = none)
    (batch : List Envelope) : (b.poll L rio sender batch).1 = [] := by
  cases b with
  | cli c => cases hb
  | android s registered => exact shownBy_noSession hs batch
  | ios p registered =>
    have hview := poll_noSession (X := L.platform) hs (batch.map envelopeValue)
    show List.drop _ (incomingTexts _) = []
    rw [hview, List.drop_length]

/-- What the terminal client has of a sender after a batch with one envelope of it. -/
theorem view_after {c : Client Key} {e : Envelope}
    (hbefore : ∀ x ∈ before, x.senderId ≠ e.senderId)
    (hafter : ∀ x ∈ after, x.senderId ≠ e.senderId) :
    (c.afterBatch L.crates rio (before ++ e :: after)).view e.senderId =
      if (cli c).getsPast L rio before then (c.view e.senderId).hear L.crates c e
      else c.view e.senderId := by
  have hkeys : Client.SameKeys c c := ⟨rfl, rfl, rfl⟩
  have hreached : (Batch.reached (Client.receiveBody L.crates rio) 0 c
      (before ++ e :: after)).filter (·.senderId = e.senderId) =
        if (cli c).getsPast L rio before then [e] else [] := by
    apply Batch.filter_reached_single
    · exact decide_eq_true rfl
    · intro x hx
      exact decide_eq_false (hbefore x hx)
    · intro x hx
      exact decide_eq_false (hafter x hx)
  unfold Client.afterBatch Client.receiveMessages
  dsimp only
  rw [Client.receiveLoop_client,
    (Client.receive_local rio c e.senderId).view_run hkeys 0 (before ++ e :: after), hreached]
  split <;> rfl

/-- Of a sender without a session the terminal client shows no `Normal` message. -/
theorem poll_normal {c : Client Key} {e : Envelope} (htype : e.msgType = .normal)
    (hne : e.senderId ≠ c.userId) (hs : c.sessions.get e.senderId 1 = none)
    (hbefore : ∀ x ∈ before, x.senderId ≠ e.senderId)
    (hafter : ∀ x ∈ after, x.senderId ≠ e.senderId) :
    ((cli c).poll L rio e.senderId (before ++ e :: after)).1 = [] := by
  show List.drop _ (directTexts _) = []
  rw [view_after hbefore hafter, Cli.SenderView.hear_noSession htype hne hs, ite_self,
    List.drop_length]

/-- The texts of the record for a payload that is no call signal and no file chunk. -/
def Entry.directTexts (entry : Entry) : List String :=
  if entry.isGroup = false ∧ entry.isChannel = false then [entry.text] else []

omit [DecidableEq Key] in
theorem directTexts_log (v : Cli.SenderView Key) (entry : Entry) :
    Apps.directTexts (v.log sender entry) = Apps.directTexts v ++ Entry.directTexts entry := by
  unfold Apps.directTexts Cli.SenderView.log Entry.directTexts
  dsimp only
  rw [List.filter_append, List.map_append]
  by_cases h : entry.isGroup = false ∧ entry.isChannel = false <;> simp [h]

omit [DecidableEq Key] in
/-- The texts shown for a plaintext: its own, if it is no payload. -/
theorem directTexts_read {X : Crates Key}
    (hpoll : ∀ q, X.fromSlice (utf8 ("[Poll] " ++ q)) = none)
    (hsticker : ∀ q, X.fromSlice (utf8 ("[Sticker] " ++ q)) = none) (v : Cli.SenderView Key) :
    (Apps.directTexts (v.read X sender (utf8 text))).drop (Apps.directTexts v).length = [text] ↔
      isPayloadType (payloadType X (utf8 text)) = false := by
  unfold Cli.SenderView.read isPayloadType isCallSignal isFileChunk
  cases hcall : isCallType (payloadType X (utf8 text)) with
  | true => simp
  | false =>
    cases hfile : isFileType (payloadType X (utf8 text)) with
    | true => simp
    | false =>
      rw [if_neg (by decide), directTexts_log, List.drop_left, Bool.false_or, Bool.false_or]
      constructor
      · intro hshown
        by_contra hentry
        refine Client.entryOf_ne_text hpoll hsticker (Bool.eq_true_of_not_eq_false hentry) ?_
        unfold Entry.directTexts at hshown
        split at hshown
        · next hkind =>
          rw [entryOf_direct hkind.1 hkind.2, List.head_eq_of_cons_eq hshown]
        · cases hshown
      · intro hentry
        rw [Client.entryOf_text hentry hcall]
        rfl

omit [DecidableEq Key] in
theorem read_session (X : Crates Key) (v : Cli.SenderView Key) (plaintext : Bytes) :
    (v.read X sender plaintext).session = v.session := by
  unfold Cli.SenderView.read
  split <;> rfl

/-! ## First contact -/

/-- **The terminal client opens its own kind of first message**, if the loop gets to it; it
    shows the text if that is no payload. -/
theorem contact_cli (hP : L.crates.prims.Lawful)
    (hpoll : ∀ q, L.crates.fromSlice (utf8 ("[Poll] " ++ q)) = none)
    (hsticker : ∀ q, L.crates.fromSlice (utf8 ("[Sticker] " ++ q)) = none) {c d : Client Key}
    (hne : c.userId ≠ d.userId) (hs : c.sessions.get d.userId 1 = none)
    (hwf : d.signedPreKey.keyPair.WellFormed L.crates.prims)
    (hbefore : ∀ x ∈ before, x.senderId ≠ c.userId)
    (hafter : ∀ x ∈ after, x.senderId ≠ c.userId) :
    FirstContact L io opened rio before after (cli c) (cli d) text ↔
      isPayloadType (payloadType L.crates (utf8 text)) = false ∧
        (cli d).getsPast L rio before = true := by
  obtain ⟨c', e, prekey, hsend, hsender, hdevice, htype, hdec, -, hok⟩ :=
    first_message_opens (X := L.crates) hP hne.symm hs hwf io text
  have hqueued : ((cli c).sendFirst L io opened (cli d).register (cli d).userId text).2 =
      some e := congrArg (fun r => r.2.2) hsend
  have hview : (d.afterBatch L.crates rio (before ++ e :: after)).view e.senderId =
      if (cli d).getsPast L rio before then (d.view e.senderId).hear L.crates d e
      else d.view e.senderId := by
    apply view_after
    · rw [hsender]
      exact hbefore
    · rw [hsender]
      exact hafter
  rw [Cli.SenderView.hear_preKeyBundle htype hdec hok, hdevice, hsender] at hview
  set opened' := ((Client.responderFor L.crates d e prekey).decrypt L.crates.prims
    prekey.sessionMessage).2
  set v := (d.view c.userId).store 1 opened'
  have hpolled : ((cli d).poll L rio c.userId (before ++ e :: after)).1 =
      (directTexts ((d.afterBatch L.crates rio (before ++ e :: after)).view c.userId)).drop
        (directTexts v).length := rfl
  constructor
  · rintro ⟨e', he', hshown, -⟩
    obtain rfl : e = e' := Option.some.inj (hqueued.symm.trans he')
    have hshown := hpolled.symm.trans hshown
    rw [hview] at hshown
    split at hshown
    · next hpast => exact ⟨(directTexts_read hpoll hsticker v).mp hshown, hpast⟩
    · rw [show directTexts v = directTexts (d.view c.userId) from rfl, List.drop_length] at hshown
      cases hshown
  · rintro ⟨hpay, hpast⟩
    rw [if_pos hpast] at hview
    refine ⟨e, hqueued, ?_, opened', ?_, ?_⟩
    · exact hpolled.trans (hview ▸ (directTexts_read hpoll hsticker v).mpr hpay)
    · show ((d.afterBatch L.crates rio (before ++ e :: after)).view c.userId).session 1 =
        some opened'
      rw [hview, read_session]
      exact Cli.SenderView.store_self _ _ _
    · rfl

/-- The terminal client makes nothing of a first message from an app: a `Normal` envelope gives
    it no session. -/
theorem contact_of_app {d : Client Key} (ha : a.isCli = false) (hne : a.userId ≠ d.userId)
    (hs : d.sessions.get a.userId 1 = none) (hbefore : ∀ x ∈ before, x.senderId ≠ a.userId)
    (hafter : ∀ x ∈ after, x.senderId ≠ a.userId) :
    ¬ FirstContact L io opened rio before after a (cli d) text := by
  rintro ⟨e, hqueued, hshown, -⟩
  obtain ⟨htype, hid⟩ := queued_normal ha hqueued
  rw [← hid] at hne hs hshown hbefore hafter
  have hnone : ((cli d).poll L rio e.senderId (before ++ e :: after)).1 = [] :=
    poll_normal htype hne hs hbefore hafter
  rw [hnone] at hshown
  cases hshown

/-- **First contact** between clients without sessions for each other works exactly between
    terminal clients, for a text that is no payload, and if the poll gets to the envelope. -/
theorem first_contact_iff (hP : L.crates.prims.Lawful)
    (hpoll : ∀ q, L.crates.fromSlice (utf8 ("[Poll] " ++ q)) = none)
    (hsticker : ∀ q, L.crates.fromSlice (utf8 ("[Sticker] " ++ q)) = none)
    (hne : a.userId ≠ b.userId) (ha : a.session L b.userId = none)
    (hb : b.session L a.userId = none) (hwf : b.WellFormed L)
    (hbefore : ∀ x ∈ before, x.senderId ≠ a.userId)
    (hafter : ∀ x ∈ after, x.senderId ≠ a.userId) :
    FirstContact L io opened rio before after a b text ↔
      a.isCli = true ∧ b.isCli = true ∧
        isPayloadType (payloadType L.crates (utf8 text)) = false ∧
          b.getsPast L rio before = true := by
  cases hrecipient : b.isCli with
  | false =>
    -- the apps read nothing without a session of their own
    refine iff_of_false ?_ (by simp)
    rintro ⟨e, -, hshown, -⟩
    rw [poll_app hrecipient hb] at hshown
    cases hshown
  | true =>
    obtain ⟨d, rfl⟩ : ∃ d, b = cli d := by
      cases b with
      | cli d => exact ⟨d, rfl⟩
      | android s registered => cases hrecipient
      | ios p registered => cases hrecipient
    cases hsender : a.isCli with
    | false => exact iff_of_false (contact_of_app hsender hne hb hbefore hafter) (by simp)
    | true =>
      cases a with
      | cli c =>
        rw [contact_cli hP hpoll hsticker hne ha hwf hbefore hafter]
        simp
      | android s registered => cases hsender
      | ios p registered => cases hsender

/-! ### Alice writes to Bob's terminal client -/

def freshLibraries : Libraries Term := ⟨plainCrates, fun _ => none, fun _ => none⟩

theorem bob_wellFormed : (cli bob).WellFormed freshLibraries :=
  SignedPreKey.generate_wellFormed symbolic 1 bob.identity (.secret 3)

theorem first_contact_hello :
    FirstContact freshLibraries (freshSendInput 4) none freshReceiveInput [] [] (cli alice)
      (cli bob) "hello" := by
  have hids : (cli alice).userId ≠ (cli bob).userId := by decide
  refine (first_contact_iff symbolic_lawful (fun _ => rfl) (fun _ => rfl) hids rfl rfl
    bob_wellFormed ?_ ?_).mpr ⟨rfl, rfl, rfl, rfl⟩
  · intro x hx
    cases hx
  · intro x hx
    cases hx

/-- Alice in the Android app, without sessions. -/
def androidAlice : Android.AppState Term where
  userId := "alice"
  identityHandle := some alice.identity
  sessionManager := ⟨fun _ => none, fun _ => none⟩
  relay := true
  messages _ := []

/-- Her first message carries no key that Bob could make a session with, and is not shown. -/
theorem android_first_message_lost :
    ∃ e, ((android androidAlice alice.register).sendFirst freshLibraries (freshSendInput 4) none
        bob.register "bob" "hello").2 = some e ∧ e.msgType = .normal ∧
      ((cli bob).poll freshLibraries freshReceiveInput "alice" [e]).1 = [] ∧
      ¬ FirstContact freshLibraries (freshSendInput 4) none freshReceiveInput [] []
        (android androidAlice alice.register) (cli bob) "hello" := by
  obtain ⟨ses, hses⟩ : ∃ ses, androidAlice.sessionFor freshLibraries.crates.prims
      freshLibraries.crates.serde (chatInput (freshSendInput 4))
      (some (keyBundleResponse bob.register)) "bob" = some ses := ⟨_, rfl⟩
  have hP : freshLibraries.crates.prims.Lawful := symbolic_lawful
  obtain ⟨m, err, s', e, -, he, hsend, -⟩ :=
    Android.AppState.sendMessage_spec hP (s := androidAlice) rfl hses .accepted "hello"
  have hqueued : ((android androidAlice alice.register).sendFirst freshLibraries (freshSendInput 4)
      none bob.register "bob" "hello").2 = some e := by
    rw [sendFirst_android, hsend]
    rfl
  have htype : e.msgType = .normal := by rw [he]
  have hsender : e.senderId = "alice" := by
    rw [he]
    rfl
  have hnone : ((cli bob).poll freshLibraries freshReceiveInput e.senderId ([] ++ [e])).1 =
      [] := by
    apply poll_normal htype
    · rw [hsender]
      decide
    · rfl
    · intro x hx
      cases hx
    · intro x hx
      cases hx
  rw [hsender] at hnone
  refine ⟨e, hqueued, htype, hnone, ?_⟩
  apply contact_of_app rfl
  · decide
  · rfl
  · intro x hx
    cases hx
  · intro x hx
    cases hx

end App

end TinTin.Apps
