/-
  Sends that fail, from either app to either app.

  Both apps keep the advanced session before they talk to the relay, and both receive a
  `Normal` envelope with one `Session::decrypt`. A `Device` is a client of one of them, with
  what the theorem needs of it: the session it holds, a send, and what it reads from a queue.

  * `SentFrom`: the envelopes that one session sends, each sealed with the next chain key.
    `sendAll_sent`: a device's later sends are such, whatever happened before.
  * `read_sent`: a device whose session is ready for the first of them reads them all, and
    any other reads none.
  * `failed_send_iff`: after a failed send the later ones are read if and only if the
    recipient was one key ahead before it.
-/
import TinTin.Android.ChatScreen
import TinTin.Cli.Crossing

namespace TinTin.Apps

open TinTin.Lib TinTin.Core TinTin.Cli TinTin.Symbolic TinTin.Android

/-- A client of one of the two apps. -/
inductive Device (Key : Type)
  | cli (c : Client Key)
  | android (s : AppState Key)

/-- One call of `send_message` or `sendMessage`: the text, what the call draws, and the bundle
    the relay would answer with. -/
structure SendCall (Key : Type) where
  text : String
  io : SendInput Key
  bundle : Option (PreKeyBundle Key)

variable {Key : Type} (X : Crates Key)

/-- What `RelayService.fetchKeys` takes from the answer. -/
def keyBundleResponse (b : PreKeyBundle Key) : KeyBundleResponse Key :=
  ⟨b.identityKey, b.signedPreKeyId, b.signedPreKey, b.signedPreKeySignature⟩

def chatInput (io : SendInput Key) : ChatInput Key := ⟨io.ephSecret, io.nonce, io.sentAt⟩

namespace Device

def userId : Device Key → String
  | cli c => c.userId
  | android s => s.userId

/-- The session a device holds for a user. -/
def session : Device Key → String → Option (Session Key)
  | cli c, peer => c.sessions.get peer 1
  | android s, peer => s.session X.serde peer

/-- A send to the user gets as far as a session: it is not a note to self, and there is a
    relay connection. -/
def reaches : Device Key → String → Prop
  | cli c, peer => peer ≠ c.userId
  | android s, _ => s.relay = true

/-- The session a send looks up or creates. -/
def sessionFor (call : SendCall Key) : Device Key → String → Option (Session Key)
  | cli c, peer => (c.getOrCreateSession X call.io call.bundle peer).map (·.1)
  | android s, peer =>
    s.sessionFor X.prims X.serde (chatInput call.io) (call.bundle.map keyBundleResponse) peer

/-- A send, and the envelope the relay has queued. -/
def send (call : SendCall Key) (outcome : PostOutcome) :
    Device Key → String → Device Key × Option Envelope
  | cli c, peer =>
    let (_, c, queued) := c.sendMessage X call.io call.bundle outcome peer call.text
    (cli c, queued)
  | android s, peer =>
    let (_, s, queued) := s.sendMessage X.prims X.serde (chatInput call.io)
      (call.bundle.map keyBundleResponse) outcome peer call.text
    (android s, queued)

/-- Successful sends to one user, and the envelopes queued for it. -/
def sendAll (peer : String) : Device Key → List (SendCall Key) → Device Key × List Envelope
  | d, [] => (d, [])
  | d, call :: calls =>
    let (d, queued) := d.send X call .accepted peer
    let (d, envelopes) := sendAll peer d calls
    (d, queued.toList ++ envelopes)

/-- The texts a device gets from a sender out of its queue: those the terminal client adds to
    its chat log, those the app decrypts. -/
def read [DecidableEq Key] (io : ReceiveInput Key) (sender : String) (queue : List Envelope) :
    Device Key → List String
  | cli c =>
    ((c.receiveMessages X io (some (queue.map some))).2.1.incoming sender).drop
      (c.incoming sender).length
  | android s => (s.poll X.prims X.serde queue).1

variable {X}

/-! ## Sending -/

/-- The envelopes of one session: `Normal` ones, sealed with one chain key after the other. -/
inductive SentFrom (X : Crates Key) (sender : String) (header : Key) :
    Key → List String → List Envelope → Prop
  | nil (chain : Key) : SentFrom X sender header chain [] []
  | cons {chain : Key} {text : String} {e : Envelope} {m : SessionMessage Key}
    {texts : List String} {es : List Envelope} (hsender : e.senderId = sender)
    (htype : e.msgType = .normal) (hdec : X.serde.sessionMessage.decode e.content = some m)
    (hm : Sealed X m header chain text)
    (hrest : SentFrom X sender header (nextChainKey X.prims chain) texts es) :
    SentFrom X sender header chain (text :: texts) (e :: es)

theorem sessionFor_of_session {d : Device Key} {peer : String} {ses : Session Key}
    (h : d.session X peer = some ses) (call : SendCall Key) :
    d.sessionFor X call peer = some ses := by
  cases d with
  | cli c =>
    show (c.getOrCreateSession X _ _ peer).map _ = _
    rw [Client.getOrCreateSession_old h]
    rfl
  | android s => exact AppState.sessionFor_cached h _ _

theorem sessionFor_cli_new {c : Client Key} {peer : String} (h : c.sessions.get peer 1 = none)
    {call : SendCall Key} {b : PreKeyBundle Key} (hb : call.bundle = some b) :
    (cli c).sessionFor X call peer = some (Session.newInitiator X.prims call.io.ephSecret
      c.identityCopy peer 1 b.identityKey b.signedPreKey) := by
  show (c.getOrCreateSession X _ call.bundle peer).map _ = _
  rw [hb, Client.getOrCreateSession_new h]
  rfl

/-- **What any send does once it has a session**: the advanced session is stored, whatever the
    outcome. -/
theorem send_spec (hP : X.prims.Lawful) {d : Device Key} {peer : String} (hr : d.reaches peer)
    {call : SendCall Key} {ses : Session Key} (h : d.sessionFor X call peer = some ses)
    (outcome : PostOutcome) :
    ∃ m d' e, (ses.encrypt X.prims call.io.nonce (utf8 call.text)).1 = .ok m ∧
      d.send X call outcome peer = (d', if outcome.queued then some e else none) ∧
      d'.session X peer = some (ses.encrypt X.prims call.io.nonce (utf8 call.text)).2 ∧
      d'.userId = d.userId ∧ d'.reaches peer ∧
      (d.session X peer = some ses → e.senderId = d.userId ∧ e.msgType = .normal ∧
        X.serde.sessionMessage.decode e.content = some m) := by
  cases d with
  | cli c =>
    obtain ⟨⟨s, isNew, c₁⟩, hs, rfl⟩ := Option.map_eq_some_iff.mp h
    obtain ⟨m, c', e, hm, he, hsend, hget, hkeys, -⟩ :=
      Client.sendMessage_spec hP hr hs outcome call.text
    refine ⟨m, cli c', e, hm, ?_, hget, hkeys.userId, ?_, fun hold => ?_⟩
    · unfold send
      dsimp only
      rw [hsend]
    · show peer ≠ c'.userId
      rw [hkeys.userId]
      exact hr
    · rw [Client.getOrCreateSession_old hold] at hs
      cases hs
      rw [he]
      exact ⟨rfl, rfl, X.serde.sessionMessage.decode_encode m⟩
  | android s =>
    obtain ⟨m, err, s', e, hm, he, hsend, hget, huser, hrelay⟩ :=
      AppState.sendMessage_spec hP hr h outcome call.text
    refine ⟨m, android s', e, hm, ?_, hget, huser, hrelay.trans hr, fun _ => ?_⟩
    · unfold send
      dsimp only
      rw [hsend]
    · rw [he]
      exact ⟨rfl, rfl, X.serde.sessionMessage.decode_encode m⟩

/-- Later sends go out under the stored session, one chain key after the other. -/
theorem sendAll_sent (hP : X.prims.Lawful) {d : Device Key} {peer : String}
    (hr : d.reaches peer) {ses : Session Key} (h : d.session X peer = some ses)
    (calls : List (SendCall Key)) :
    SentFrom X d.userId (halfOf ses).header (halfOf ses).sendChain (calls.map (·.text))
      (d.sendAll X peer calls).2 := by
  induction calls generalizing d ses with
  | nil => exact .nil _
  | cons call calls ih =>
    obtain ⟨m, d', e, hm, hsend, hget, huser, hr', henv⟩ :=
      send_spec hP hr (sessionFor_of_session h call) .accepted
    obtain ⟨hsender, htype, hdec⟩ := henv h
    have hrest := ih hr' hget
    rw [huser, Session.encrypt_state] at hrest
    show SentFrom X _ _ _ (_ :: _) ((d.send X call .accepted peer).2.toList ++
      ((d.send X call .accepted peer).1.sendAll X peer calls).2)
    rw [hsend]
    exact .cons hsender htype hdec (sealed_of_encrypt hP hm) hrest

/-! ## Reading -/

/-- The chain key a device has ready for a message under the header, if it has a session. -/
def readyKey [DecidableEq Key] (P : Primitives Key) (o : Option (Session Key)) (header : Key) :
    Option Key :=
  o.map fun ses => nextKey P ses header

section Symbolic

variable {X : Crates Term} {e : Envelope} {m : SessionMessage Term} {header chain : Term}
  {text : String} {sender : String} {texts : List String} {es : List Envelope}

/-- After one message of a sender the device is ready for the next one exactly if it was ready
    for this one. -/
theorem readyKey_decrypt (hX : X.prims = symbolic) (hm : Sealed X m header chain text)
    (o : Option (Session Term)) :
    readyKey X.prims (o.map fun ses => (ses.decrypt X.prims m).2) header =
        some (nextChainKey X.prims chain) ↔ readyKey X.prims o header = some chain := by
  unfold readyKey
  cases o with
  | none => simp
  | some ses =>
    rw [Option.map_some, Option.map_some, Option.map_some, ← hm.1, nextKey_decrypt,
      Option.some_inj, Option.some_inj, hX]
    exact nextChainKey_injective.eq_iff

/-- The terminal client reads a message it is ready for, and skips any other. -/
theorem cli_reads (hX : X.prims = symbolic) {c : Client Term} (htype : e.msgType = .normal)
    (hne : e.senderId ≠ c.userId) (hdec : X.serde.sessionMessage.decode e.content = some m)
    (hm : Sealed X m header chain text) (hplain : Client.Plain X text) (io : ReceiveInput Term)
    (i : ℕ) :
    ∃ c' posted, c.receiveEnvelope X io i e = (.ok (), c', posted) ∧ c'.userId = c.userId ∧
      c'.sessions.get e.senderId 1 =
        (c.sessions.get e.senderId 1).map (fun ses => (ses.decrypt X.prims m).2) ∧
      c'.incoming e.senderId = c.incoming e.senderId ++
        if readyKey X.prims (c.sessions.get e.senderId 1) header = some chain then [text]
        else [] := by
  by_cases hready : readyKey X.prims (c.sessions.get e.senderId 1) header = some chain
  · obtain ⟨ses, hs, hkey⟩ := Option.map_eq_some_iff.mp hready
    rw [if_pos hready, Client.receive_normal htype hne hdec hs, opens_iff hX hm, if_pos hkey]
    dsimp only
    rw [Client.finish_plain hplain]
    refine ⟨_, _, rfl, rfl, ?_, ?_⟩
    · exact SessionStore.get_update_self _ _ _ _ (fun s => by simp)
    · rw [Client.incoming_recordMessage, if_pos ⟨rfl, rfl⟩]
      rfl
  · obtain ⟨c', hc', hk, hlog, hget⟩ := receive_rejected hX htype hne hdec hm
      (fun ses hs hkey => hready (by rw [hs, readyKey, Option.map_some, hkey]))
    refine ⟨c', [], hc' io i, hk.userId, hget, ?_⟩
    rw [if_neg hready, List.append_nil, Client.incoming, hlog, Client.incoming]

theorem cli_reads_all (hX : X.prims = symbolic) (hsent : SentFrom X sender header chain texts es)
    (hplain : ∀ text ∈ texts, Client.Plain X text) {c : Client Term} (hne : sender ≠ c.userId)
    (io : ReceiveInput Term) (i : ℕ) :
    (Client.receiveLoop X io i c (es.map some)).2.1.incoming sender = c.incoming sender ++
      if readyKey X.prims (c.sessions.get sender 1) header = some chain then texts else [] := by
  induction hsent generalizing c i with
  | nil => simp [Client.receiveLoop]
  | cons hsender htype hdec hm hrest ih =>
    subst hsender
    obtain ⟨c', posted, hc', huser, hget, hinc⟩ := cli_reads hX htype hne hdec hm
      (hplain _ List.mem_cons_self) io i
    rw [List.map_cons, Client.receiveLoop, hc']
    dsimp only
    rw [ih (fun t ht => hplain t (List.mem_cons_of_mem _ ht)) (huser ▸ hne) (i + 1), hget, hinc]
    simp only [readyKey_decrypt hX hm, List.append_assoc]
    split <;> rfl

/-- So does the app. -/
theorem android_reads (hX : X.prims = symbolic) {s : AppState Term} (htype : e.msgType = .normal)
    (hdec : X.serde.sessionMessage.decode e.content = some m)
    (hm : Sealed X m header chain text) :
    ∃ s', s.handleIncoming X.prims X.serde e =
        (if readyKey X.prims (s.session X.serde e.senderId) header = some chain then some text
          else none, s') ∧
      s'.session X.serde e.senderId =
        (s.session X.serde e.senderId).map fun ses => (ses.decrypt X.prims m).2 := by
  cases hs : s.session X.serde e.senderId with
  | none => exact ⟨s, AppState.handleIncoming_noSession hs, hs⟩
  | some ses =>
    obtain ⟨s', hs', hget⟩ := AppState.handleIncoming_session (P := X.prims) htype hdec hs
    refine ⟨s', ?_, hget⟩
    rw [hs', opens_iff hX hm, readyKey, Option.map_some]
    by_cases hkey : nextKey X.prims ses header = chain
    · rw [if_pos hkey, if_pos (congrArg some hkey)]
      exact congrArg (fun t => (some t, s')) (fromUtf8Lossy_utf8 text)
    · rw [if_neg hkey, if_neg (fun h => hkey (Option.some.inj h))]
      rfl

theorem android_reads_all (hX : X.prims = symbolic)
    (hsent : SentFrom X sender header chain texts es) (s : AppState Term) :
    (s.poll X.prims X.serde es).1 =
      if readyKey X.prims (s.session X.serde sender) header = some chain then texts else [] := by
  induction hsent generalizing s with
  | nil => simp [AppState.poll]
  | cons hsender htype hdec hm hrest ih =>
    subst hsender
    obtain ⟨s', hs', hget⟩ := android_reads hX htype hdec hm (s := s)
    rw [AppState.poll, hs']
    dsimp only
    rw [ih, hget]
    simp only [readyKey_decrypt hX hm]
    split <;> rfl

/-- **All or nothing**: a device that is ready for the first message of a session's sends reads
    all of them, any other device none. -/
theorem read_sent (hX : X.prims = symbolic) (hsent : SentFrom X sender header chain texts es)
    (hplain : ∀ text ∈ texts, Client.Plain X text) {d : Device Term} (hne : sender ≠ d.userId)
    (io : ReceiveInput Term) :
    d.read X io sender es =
      if readyKey X.prims (d.session X sender) header = some chain then texts else [] := by
  cases d with
  | cli c =>
    show ((Client.receiveLoop X io 0 c (es.map some)).2.1.incoming sender).drop _ = _
    rw [cli_reads_all hX hsent hplain hne, List.drop_left]
    rfl
  | android s => exact android_reads_all hX hsent s

/-- What the recipient reads of a failed send and the sends after it. -/
theorem read_after_failed (hX : X.prims = symbolic) {a b : Device Term}
    (hne : a.userId ≠ b.userId) (hr : a.reaches b.userId) {call : SendCall Term}
    {ses : Session Term} (hs : a.sessionFor X call b.userId = some ses) {outcome : PostOutcome}
    (hfail : outcome.queued = false) {later : List (SendCall Term)}
    (hplain : ∀ l ∈ later, Client.Plain X l.text) (io : ReceiveInput Term) :
    let sent := a.send X call outcome b.userId
    b.read X io a.userId (sent.2.toList ++ (sent.1.sendAll X b.userId later).2) =
      if readyKey X.prims (b.session X a.userId) ses.ratchet.dhRatchetKey.publicKey =
        some (nextChainKey X.prims ses.ratchet.sendChainKey) then later.map (·.text) else [] := by
  have hP : X.prims.Lawful := lawful_of_eq hX
  obtain ⟨m, a', e, hm, hsend, hget, huser, hr', -⟩ := send_spec hP hr hs outcome
  have hsent := sendAll_sent hP hr' hget later
  rw [huser, Session.encrypt_state] at hsent
  rw [hsend, hfail]
  exact read_sent hX hsent (fun text ht => by
    obtain ⟨l, hl, rfl⟩ := List.mem_map.mp ht
    exact hplain l hl) hne io

/-- **A failed send, and the sends after it.** Whatever the states of the two devices: once a send
    has failed with its session looked up or created and nothing queued, the recipient reads
    the later sends if and only if the chain key it has ready was already the next one after
    the sender's. -/
theorem failed_send_iff (hX : X.prims = symbolic) {a b : Device Term}
    (hne : a.userId ≠ b.userId) (hr : a.reaches b.userId) {call : SendCall Term}
    {ses : Session Term} (hs : a.sessionFor X call b.userId = some ses) {outcome : PostOutcome}
    (hfail : outcome.queued = false) {later : List (SendCall Term)} (hlater : later ≠ [])
    (hplain : ∀ l ∈ later, Client.Plain X l.text) (io : ReceiveInput Term) :
    let sent := a.send X call outcome b.userId
    b.read X io a.userId (sent.2.toList ++ (sent.1.sendAll X b.userId later).2) =
        later.map (·.text) ↔
      readyKey X.prims (b.session X a.userId) ses.ratchet.dhRatchetKey.publicKey =
        some (nextChainKey X.prims ses.ratchet.sendChainKey) := by
  intro sent
  rw [read_after_failed hX hne hr hs hfail hplain io]
  split
  · next h => exact ⟨fun _ => h, fun _ => rfl⟩
  · next h =>
    refine ⟨fun h' => ?_, fun h' => absurd h' h⟩
    exact absurd (List.map_eq_nil_iff.mp h'.symm) hlater

/-- The session `freshSetup` makes for Alice, in a store of hers. -/
def aliceInTouch : Device Term :=
  cli { Client.new symbolic (.secret 0) (.secret 1) "alice" with
    sessions := ⟨[(freshSetup 4 5).alice]⟩ }

/-- Bob, whose session has already skipped one message of hers. -/
def bobAhead : Device Term :=
  let bob := (freshSetup 4 5).bob
  cli { Client.new symbolic (.secret 2) (.secret 3) "bob" with
    sessions := ⟨[{ bob with ratchet := (bob.ratchet.nextRecvKey symbolic).2 }]⟩ }

/-- The recipient that is one key ahead reads what is sent after the failed send. -/
theorem failed_send_iff_ahead :
    let sent := aliceInTouch.send plainCrates ⟨"one", freshSendInput 6, none⟩ .refused "bob"
    bobAhead.read plainCrates freshReceiveInput "alice" (sent.2.toList ++
      (sent.1.sendAll plainCrates "bob" [⟨"two", freshSendInput 7, none⟩]).2) = ["two"] :=
  (failed_send_iff (X := plainCrates) (a := aliceInTouch) (b := bobAhead) rfl (by decide)
    (show "bob" ≠ "alice" by decide)
    (show _ = some (freshSetup 4 5).alice from rfl) rfl (List.cons_ne_nil _ _)
    (fun l _ => plain_plainCrates l.text) freshReceiveInput).mpr rfl

/-- The app with an identity and nothing else. -/
def freshAndroid (userId : String) (secret : ℕ) : Device Term :=
  android
    { userId := userId
      identityHandle := some ⟨KeyPair.generate symbolic (.secret secret)⟩
      sessionManager := ⟨fun _ => none, fun _ => none⟩
      relay := true
      messages := fun _ => [] }

/-- From either app, a first message that the relay refuses takes the second one with it. -/
theorem failed_first_send_loses :
    let bob := Client.new symbolic (.secret 2) (.secret 3) "bob"
    let first : SendCall Term := ⟨"one", freshSendInput 6, some bob.register⟩
    let second : SendCall Term := ⟨"two", freshSendInput 7, none⟩
    ∀ alice ∈ [cli (Client.new symbolic (.secret 0) (.secret 1) "alice"), freshAndroid "alice" 0],
    ∀ b ∈ [cli bob, freshAndroid "bob" 2],
      let sent := alice.send plainCrates first .refused "bob"
      b.read plainCrates freshReceiveInput "alice"
        (sent.2.toList ++ (sent.1.sendAll plainCrates "bob" [second]).2) = [] := by
  intro bob first second alice halice b hb
  have hid : alice.userId = "alice" ∧ alice.reaches "bob" ∧
      ∃ ses, alice.sessionFor plainCrates first "bob" = some ses := by
    simp only [List.mem_cons, List.not_mem_nil, or_false] at halice
    rcases halice with rfl | rfl
    · exact ⟨rfl, show "bob" ≠ "alice" by decide, _, rfl⟩
    · exact ⟨rfl, rfl, _, rfl⟩
  have hbob : b.userId = "bob" ∧ b.session plainCrates "alice" = none := by
    simp only [List.mem_cons, List.not_mem_nil, or_false] at hb
    rcases hb with rfl | rfl <;> exact ⟨rfl, rfl⟩
  obtain ⟨halice', hreach, ses, hs⟩ := hid
  obtain ⟨hbob', hnone⟩ := hbob
  have hread := read_after_failed (X := plainCrates) (a := alice) (b := b) rfl
    (by rw [halice', hbob']; decide) (by rw [hbob']; exact hreach) (by rw [hbob']; exact hs)
    (show PostOutcome.refused.queued = false from rfl)
    (fun (l : SendCall Term) (_ : l ∈ [second]) => plain_plainCrates l.text) freshReceiveInput
  rw [halice', hbob', hnone] at hread
  exact hread.trans (if_neg (fun h => by cases h))

/-! ## In a conversation -/

/-- In a conversation in which no crossed client has sent, a client that has read its queue is
    not one key ahead of the other one. -/
theorem never_ahead (hX : X.prims = symbolic) (u : Peers X) (steps : List (WorldStep Term))
    (hplain : ∀ p, ∀ text ∈ textsBy p steps, Client.Plain X text)
    (hcross : (World.start u).NeverCrossed X steps) (p : Party)
    (hdrained : ((World.start u).run X steps).chat p.peer = []) {call : SendCall Term}
    (hb : call.bundle = some (u.client p.peer).register) {ses : Session Term}
    (hs : (cli (((World.start u).run X steps).client p)).sessionFor X call (u.userId p.peer) =
      some ses) :
    readyKey X.prims (((World.start u).run X steps).session p.peer)
        ses.ratchet.dhRatchetKey.publicKey ≠
      some (nextChainKey X.prims ses.ratchet.sendChainKey) := by
  have hP : X.prims.Lawful := lawful_of_eq hX
  obtain ⟨s, href, hreach, -⟩ := run_refines hP u steps hplain hcross
  generalize (World.start u).run X steps = w at *
  intro hready
  obtain ⟨ses', hses', hkey⟩ := Option.map_eq_some_iff.mp hready
  have hpeer : s.half p.peer = some (halfOf ses') := by rw [← href.half, hses', Option.map_some]
  have hseeded := hreach.seeded (symbolicKinds hX u) p.peer _ hpeer
  have hwait := (href.chat_eq_nil p.peer).mp hdrained
  cases hold : w.session p with
  | none =>
    -- a new session of `p` sends with a derived chain; its peer, which opened its own half,
    -- reads with the unused one
    have hp : s.half p = none := by rw [← href.half, hold, Option.map_none]
    obtain ⟨hrole, hview⟩ := (hreach.inv.quiet p hp).2 _ hpeer
    have hget : (w.client p).sessions.get (u.userId p.peer) 1 = none := by
      rw [← href.userId]
      exact hold
    have hses : ses = Session.newInitiator X.prims call.io.ephSecret (w.client p).identityCopy
        (u.userId p.peer) 1 (u.client p.peer).register.identityKey
        (u.client p.peer).register.signedPreKey := by
      rw [sessionFor_cli_new hget hb] at hs
      exact (Option.some.inj hs).symm
    have hchain : ses.ratchet.sendChainKey.seed ≠ .zero := by
      have := congrArg Handshake.Half.sendChain
        (hses ▸ halfOf_newInitiator hP u p call.io.ephSecret (w.client p).identityCopy
          (u.userId p.peer) 1 (u.client p.peer).register.identityKey)
      rw [show ses.ratchet.sendChainKey = _ from this]
      exact (symbolicKinds hX u).chain p.peer _
    have hzero : (nextKey X.prims ses' ses.ratchet.dhRatchetKey.publicKey).seed = .zero := by
      have hinit : ses'.ratchet.isInitiator = true := by
        by_contra h
        rw [show (halfOf ses').role = .responder from if_neg h] at hrole
        cases hrole
      unfold nextKey
      rw [hX, receiveHeader_recvChainKey_initiator hinit]
      rw [show ses'.ratchet.recvChainKey = u.scheme.zero from congrArg Prod.snd hview]
      exact (symbolicKinds hX u).zero
    rw [hkey] at hzero
    exact (symbolicKinds hX u).next_derived _ hchain hzero
  | some old =>
    have hp : s.half p = some (halfOf old) := by rw [← href.half, hold, Option.map_some]
    have hget : (w.client p).sessions.get (u.userId p.peer) 1 = some old := by
      rw [← href.userId]
      exact hold
    obtain rfl : old = ses := by
      rw [sessionFor_of_session (d := cli (w.client p)) hget] at hs
      exact Option.some.inj hs
    obtain ⟨v, hpath, hv⟩ := hreach.inv.inStep p.peer
    rw [hwait, Path.nil_iff, hpeer, Option.map_some] at hpath
    rw [Party.peer_peer] at hv
    rcases hv _ hp with ⟨hrole, hother⟩ | hnext
    · -- both are responder sessions: an unused chain against a derived one
      have hpseeded := hreach.seeded (symbolicKinds hX u) p _ hp
      have hr : s.role p.peer = some .responder := hother.resolve_right (by
        rintro ⟨m, hm, -⟩
        rw [hwait] at hm
        cases hm)
      rw [Handshake.State.role, hp, Option.map_some, Option.some_inj] at hrole
      rw [Handshake.State.role, hpeer, Option.map_some, Option.some_inj] at hr
      unfold Handshake.Half.Seeded at hpseeded hseeded
      rw [hrole] at hpseeded
      rw [hr] at hseeded
      refine nextKey_derived hX hseeded.2 old.ratchet.dhRatchetKey.publicKey ?_
      rw [hkey]
      exact (symbolicKinds hX u).next_unused _ hpseeded.1
    · -- in step: the same chain key on both sides
      obtain ⟨htheir, hchain⟩ := Prod.mk.inj (Option.some.inj (hpath.trans hnext))
      have hsame : nextKey X.prims ses' old.ratchet.dhRatchetKey.publicKey =
          old.ratchet.sendChainKey := by
        unfold nextKey
        rw [show old.ratchet.dhRatchetKey.publicKey = ses'.ratchet.theirRatchetKey from
          htheir.symm, Ratchet.receiveHeader_same]
        exact hchain
      rw [hsame, hX] at hkey
      exact absurd ((iterate_inj_iff old.ratchet.sendChainKey 0 1).mp hkey) (by decide)

/-- **A failed send in a conversation** in which no crossed client has sent: nothing that the
    client sends next is read. -/
theorem failed_send_loses (hX : X.prims = symbolic) (u : Peers X) (steps : List (WorldStep Term))
    (hplain : ∀ p, ∀ text ∈ textsBy p steps, Client.Plain X text)
    (hcross : (World.start u).NeverCrossed X steps) (p : Party)
    (hdrained : ((World.start u).run X steps).chat p.peer = []) {call : SendCall Term}
    (hb : call.bundle = some (u.client p.peer).register) {outcome : PostOutcome}
    (hfail : outcome.queued = false) {later : List (SendCall Term)}
    (hlater : ∀ l ∈ later, Client.Plain X l.text) (io : ReceiveInput Term) :
    let w := (World.start u).run X steps
    let sent := (cli (w.client p)).send X call outcome (u.userId p.peer)
    (cli (w.client p.peer)).read X io (u.userId p)
      (sent.2.toList ++ (sent.1.sendAll X (u.userId p.peer) later).2) = [] := by
  intro w sent
  have hP : X.prims.Lawful := lawful_of_eq hX
  obtain ⟨s, href, -, -⟩ := run_refines hP u steps hplain hcross
  obtain ⟨ses, hs⟩ : ∃ ses,
      (cli (w.client p)).sessionFor X call (u.userId p.peer) = some ses := by
    cases hget : (w.client p).sessions.get (u.userId p.peer) 1 with
    | none => exact ⟨_, sessionFor_cli_new hget hb⟩
    | some old => exact ⟨old, sessionFor_of_session (d := cli (w.client p)) hget call⟩
  have hahead := never_ahead hX u steps hplain hcross p hdrained hb hs
  have hid : ∀ q, (cli (w.client q)).userId = u.userId q := href.userId
  have hread := read_after_failed (a := cli (w.client p)) (b := cli (w.client p.peer)) hX
    (by rw [hid, hid]; exact (u.userId_peer_ne p).symm)
    (by
      rw [hid]
      show u.userId p.peer ≠ (w.client p).userId
      rw [show (w.client p).userId = u.userId p from hid p]
      exact u.userId_peer_ne p)
    (by rw [hid]; exact hs) hfail hlater io
  rw [hid, hid] at hread
  refine hread.trans (if_neg ?_)
  have hsession : (cli (w.client p.peer)).session X (u.userId p) = w.session p.peer := by
    show (w.client p.peer).sessions.get _ 1 = (w.client p.peer).sessions.get _ 1
    rw [href.userId, Party.peer_peer]
  rw [hsession]
  exact hahead

end Symbolic

end Device

end TinTin.Apps
