/-
  Delivery between two clients.

  `Refines u w s`: the world `w` carries out the abstract handshake `s`. Each session is a half,
  each waiting envelope carries its message, and what a client has recorded is what its side
  has heard. A send and a receive of the world are then steps of the handshake
  (`refines_send`, `refines_receive`), and what the handshake keeps holds in the world.

  * `delivered_in_order`: while no crossed client sends, every text is recorded by the other
    client once, in sending order.
  * `crossed_of_crossing`: first messages that cross are delivered, and leave a crossed client.
-/
import TinTin.Cli.World

namespace TinTin.Cli

open TinTin.Lib TinTin.Core TinTin.Server TinTin.Symbolic

variable {Key : Type} {X : Crates Key}

/-! ## The handshake of two clients -/

/-- A session as one side of the handshake. -/
def halfOf (s : Session Key) : Handshake.Half Key where
  role := if s.ratchet.isInitiator then .initiator else .responder
  header := s.ratchet.dhRatchetKey.publicKey
  sendChain := s.ratchet.sendChainKey
  view := (s.ratchet.theirRatchetKey, s.ratchet.recvChainKey)

/-- The keys of the handshake, as the two clients make them. -/
def Peers.scheme (u : Peers X) : Handshake.Scheme Key where
  next := nextChainKey X.prims
  zero := X.prims.zeroKey
  preKey p := (u.client p).signedPreKey.keyPair.publicKey
  chain p base :=
    (deriveChainKeys X.prims ((u.client p).signedPreKey.keyPair.agree X.prims base) base).2

/-- The message is `text`, sealed with the next key of the chain, under the header. -/
def Sealed (X : Crates Key) (m : SessionMessage Key) (header chain : Key) (text : String) : Prop :=
  m.ratchetKey = header ∧
    decrypt X.prims m.ciphertext (messageKey X.prims chain) m.nonce = .ok (utf8 text)

/-- The envelope carries the message to `p`. -/
def Carries (u : Peers X) (p : Party) (m : Handshake.Message Key) (e : Envelope) : Prop :=
  e.senderId = u.userId p.peer ∧ e.senderDeviceId = 1 ∧ Client.Plain X m.text ∧
    match m with
    | .hello base text => e.msgType = .preKeyBundle ∧ ∃ prekey,
        X.serde.preKeyBundleMessage.decode e.content = some prekey ∧ prekey.baseKey = base ∧
          Sealed X prekey.sessionMessage base (u.scheme.chain p base) text
    | .say header chain text => e.msgType = .normal ∧ ∃ m,
        X.serde.sessionMessage.decode e.content = some m ∧ Sealed X m header chain text

theorem Carries.isHello {u : Peers X} {p : Party} {m : Handshake.Message Key} {e : Envelope}
    (h : Carries u p m e) : m.isHello = true ↔ e.msgType = .preKeyBundle := by
  obtain ⟨-, -, -, h⟩ := h
  cases m with
  | hello => exact ⟨fun _ => h.1, fun _ => rfl⟩
  | say =>
    rw [h.1]
    exact ⟨fun h => (nomatch h), fun h => (nomatch h)⟩

/-- The world carries out the handshake. -/
structure Refines (u : Peers X) (w : World Key) (s : Handshake.State Key) : Prop where
  keys : ∀ p, Client.SameKeys (u.client p) (w.client p)
  bundles : w.bundles = u.bundles
  half : ∀ p, (w.session p).map halfOf = s.half p
  waiting : ∀ p, List.Forall₂ (Carries u p) (s.waiting p) (w.chat p)
  heard : ∀ p, w.incoming p = (World.start u).incoming p ++ s.heard p

theorem refines_start (u : Peers X) : Refines u (World.start u) .start where
  keys _ := ⟨rfl, rfl, rfl⟩
  bundles := rfl
  half p := by
    show ((u.client p).sessions.get (u.client p.peer).userId 1).map halfOf = none
    rw [u.noSession p, Option.map_none]
  waiting _ := .nil
  heard p := (List.append_nil _).symm

variable {u : Peers X} {w : World Key} {s : Handshake.State Key}

theorem Refines.userId (h : Refines u w s) (p : Party) : w.userId p = u.userId p :=
  (h.keys p).userId

theorem Refines.isResponder (h : Refines u w s) (p : Party) :
    s.role p = some .responder ↔ w.IsResponder p := by
  rw [Handshake.State.role, ← h.half, World.IsResponder]
  cases w.session p with
  | none => simp
  | some ses => cases hi : ses.ratchet.isInitiator <;> simp [halfOf, hi]

theorem carries_hello {p : Party} {ms : List (Handshake.Message Key)} {es : List Envelope}
    (h : List.Forall₂ (Carries u p) ms es) :
    (∃ m ∈ ms, m.isHello = true) ↔ ∃ e ∈ es, e.msgType = .preKeyBundle := by
  induction h with
  | nil => simp
  | cons hc _ ih => rw [List.exists_mem_cons_iff, List.exists_mem_cons_iff, hc.isHello, ih]

theorem Refines.helloWaits (h : Refines u w s) (p : Party) :
    s.HelloWaits p ↔ ∃ e ∈ w.chat p, e.msgType = .preKeyBundle :=
  carries_hello (h.waiting p)

/-- A client is crossed when its side is. -/
theorem Refines.crossed (h : Refines u w s) (p : Party) : s.Crossed p ↔ w.Crossed p := by
  unfold Handshake.State.Crossed World.Crossed
  rw [h.isResponder, h.isResponder, h.helloWaits]

theorem Carries.isChat {p : Party} {m : Handshake.Message Key} {e : Envelope}
    (h : Carries u p m e) : e.msgType.isChat = true := by
  obtain ⟨-, -, -, h⟩ := h
  cases m with
  | hello => rw [h.1]; rfl
  | say => rw [h.1]; rfl

/-! ## Sending -/

/-- What a session encrypts is sealed with its own key. -/
theorem sealed_of_encrypt (hP : X.prims.Lawful) {ses : Session Key} {n : Nonce} {text : String}
    {m : SessionMessage Key} (hm : (ses.encrypt X.prims n (utf8 text)).1 = .ok m) :
    Sealed X m (halfOf ses).header (halfOf ses).sendChain text := by
  obtain ⟨hkey, -, hnonce, hc⟩ := Session.encrypt_ok hm
  obtain ⟨c, hc', hd⟩ := hP.decrypt_encrypt (messageKey X.prims ses.ratchet.sendChainKey) n
    (utf8 text)
  rw [hc] at hc'
  cases hc'
  refine ⟨hkey, ?_⟩
  rw [hnonce, decrypt_eq_ok]
  exact hd

/-- The client `p` has sent a message, and holds the half `hf` afterwards. -/
theorem refines_sent (h : Refines u w s) {p : Party} {c : Client Key} {e : Envelope}
    {hf : Handshake.Half Key} {m : Handshake.Message Key}
    (hc : Client.SameKeys (w.client p) c)
    (hsess : (c.sessions.get (w.userId p.peer) 1).map halfOf = some hf)
    (hinc : ∀ peer, c.incoming peer = (w.client p).incoming peer)
    (he : e.recipientId = w.userId p.peer) (hcar : Carries u p.peer m e) :
    Refines u (w.put p c (w.relay.post e)) (s.send p hf m) := by
  have hne : w.userId p.peer ≠ w.userId p := by
    rw [h.userId, h.userId]
    exact u.userId_peer_ne p
  refine ⟨fun q => ?_, h.bundles, fun q => ?_, fun q => ?_, fun q => ?_⟩
  · rcases p.eq_or_eq_peer q with rfl | rfl
    · rw [World.put_client_self]
      exact (h.keys q).trans hc
    · rw [World.put_client_peer]
      exact h.keys _
  · rcases p.eq_or_eq_peer q with rfl | rfl
    · rw [World.put_session_self hc, hsess, Handshake.send_half_self]
    · rw [World.put_session_peer hc, Handshake.send_half_peer]
      exact h.half _
  · rw [World.put_chat hc, chat_post, he]
    rcases p.eq_or_eq_peer q with rfl | rfl
    · rw [if_neg (fun h => hne h.1), List.append_nil, Handshake.send_waiting_self]
      exact h.waiting q
    · rw [if_pos ⟨rfl, hcar.isChat⟩, Handshake.send_waiting_peer]
      exact List.rel_append (h.waiting _) (.cons hcar .nil)
  · rcases p.eq_or_eq_peer q with rfl | rfl
    · rw [World.put_incoming_self hc, hinc]
      exact h.heard q
    · rw [World.put_incoming_peer hc]
      exact h.heard _

theorem halfOf_encrypt (ses : Session Key) (n : Nonce) (t : Bytes) :
    halfOf (ses.encrypt X.prims n t).2 = (halfOf ses).sent u.scheme := by
  rw [Session.encrypt_state]
  rfl

/-- The session that `p` opens, with the chain key its peer derives from the base key. -/
theorem halfOf_newInitiator (hP : X.prims.Lawful) (u : Peers X) (p : Party) (ephSecret : Key)
    (identity : IdentityKeyPair Key) (userId : String) (d : UInt32) (theirIdentity : Key) :
    halfOf (Session.newInitiator X.prims ephSecret identity userId d theirIdentity
        (u.client p.peer).register.signedPreKey) =
      ⟨.initiator, (KeyPair.generate X.prims ephSecret).publicKey,
        u.scheme.chain p.peer (KeyPair.generate X.prims ephSecret).publicKey,
        (u.scheme.preKey p.peer, u.scheme.zero)⟩ := by
  have := Session.newInitiator_newResponder hP ephSecret _ (u.wellFormed p.peer)
  unfold Peers.scheme
  dsimp only
  rw [← this]
  rfl

/-- A send of the world is a step of the handshake. -/
theorem refines_send (hP : X.prims.Lawful) (h : Refines u w s) {p : Party} {text : String}
    (hplain : Client.Plain X text) (io : SendInput Key) :
    ∃ s', Handshake.Step u.scheme s
        (.send p text (KeyPair.generate X.prims io.ephSecret).publicKey) s' ∧
      Refines u (w.send X p text io) s' ∧
      s'.said = Function.update s.said p (s.said p ++ [text]) := by
  have hne : w.userId p.peer ≠ (w.client p).userId := by
    rw [h.userId, (h.keys p).userId]
    exact u.userId_peer_ne p
  have hsender : (w.client p).userId = u.userId p.peer.peer := by
    rw [Party.peer_peer]
    exact h.userId p
  have hb : w.bundles (w.userId p.peer) = some (u.client p.peer).register := by
    rw [h.bundles, h.userId, u.bundles_userId]
  have hhalf := h.half p
  cases hs : w.session p with
  | none =>
    rw [hs, Option.map_none] at hhalf
    obtain ⟨m, c, e, hm, rfl, hsend, hget, hkeys, hinc⟩ := Client.sendMessage_spec hP hne
      (Client.getOrCreateSession_new hs io (u.client p.peer).register) .accepted text
    have hses := halfOf_newInitiator hP u p io.ephSecret (w.client p).identityCopy
      (w.userId p.peer) 1 (u.client p.peer).register.identityKey
    refine ⟨_, .first hhalf.symm text _, ?_, rfl⟩
    rw [World.send_eq hb hsend]
    refine refines_sent h hkeys ?_ hinc rfl
      ⟨hsender, rfl, hplain, rfl, _, X.serde.preKeyBundleMessage.decode_encode _, rfl, ?_⟩
    · rw [hget, Option.map_some, halfOf_encrypt, hses]
      rfl
    · have hsealed := sealed_of_encrypt hP hm
      rwa [hses] at hsealed
  | some ses =>
    rw [hs, Option.map_some] at hhalf
    obtain ⟨m, c, e, hm, rfl, hsend, hget, hkeys, hinc⟩ := Client.sendMessage_spec hP hne
      (Client.getOrCreateSession_old hs io (some (u.client p.peer).register)) .accepted text
    refine ⟨_, .next hhalf.symm text _, ?_, rfl⟩
    rw [World.send_eq hb hsend]
    refine refines_sent h hkeys ?_ hinc rfl
      ⟨hsender, rfl, hplain, rfl, _, X.serde.sessionMessage.decode_encode _,
        sealed_of_encrypt hP hm⟩
    rw [hget, Option.map_some, halfOf_encrypt]

/-! ## Receiving -/

variable [DecidableEq Key]

/-- A session that reads a sealed message under its known header moves on by one key. -/
theorem decrypt_sealed {ses : Session Key} {m : SessionMessage Key} {header chain : Key}
    {text : String} (hm : Sealed X m header chain text)
    (hview : (halfOf ses).view = (header, chain)) :
    (ses.decrypt X.prims m).1 = .ok (utf8 text) ∧
      halfOf (ses.decrypt X.prims m).2 =
        { halfOf ses with view := (header, nextChainKey X.prims chain) } := by
  obtain ⟨hkey, hdec⟩ := hm
  obtain ⟨htheir, hchain⟩ := Prod.mk.inj hview
  rw [Session.decrypt_same (hkey.trans htheir.symm), hchain]
  refine ⟨hdec, ?_⟩
  rw [← htheir, ← hchain]
  rfl

/-- The session that a new session's first message makes opens it. -/
theorem responder_opens (hP : X.prims.Lawful) {b : Client Key}
    (hwf : b.signedPreKey.keyPair.WellFormed X.prims) {io : SendInput Key}
    {identity : IdentityKeyPair Key} {text : String} {m : SessionMessage Key}
    (hm : ((Session.newInitiator X.prims io.ephSecret identity b.userId 1
      b.register.identityKey b.register.signedPreKey).encrypt X.prims io.nonce (utf8 text)).1 =
        .ok m)
    {e : Envelope} {prekey : PreKeyBundleMessage Key} (hmessage : prekey.sessionMessage = m)
    (hbase : prekey.baseKey = (KeyPair.generate X.prims io.ephSecret).publicKey) :
    ((Client.responderFor X b e prekey).decrypt X.prims prekey.sessionMessage).1 =
      .ok (utf8 text) := by
  rw [hmessage]
  have hchain := Session.newInitiator_newResponder hP io.ephSecret _ hwf
  refine (decrypt_sealed (sealed_of_encrypt hP hm) ?_).1
  unfold Client.responderFor
  rw [hbase]
  show (_, _) = (_, _)
  rw [Prod.mk.injEq]
  exact ⟨rfl, (congrArg Prod.snd hchain).symm⟩

/-- **A first message is read**: whoever has the signed pre-key of the bundle opens the envelope
    that a client without a session sends. -/
theorem first_message_opens (hP : X.prims.Lawful) {a b : Client Key} (hne : b.userId ≠ a.userId)
    (hs : a.sessions.get b.userId 1 = none) (hwf : b.signedPreKey.keyPair.WellFormed X.prims)
    (io : SendInput Key) (text : String) :
    ∃ a' e prekey, a.sendMessage X io (some b.register) .accepted b.userId text =
        (.ok (), a', some e) ∧ e.senderId = a.userId ∧ e.senderDeviceId = 1 ∧
      e.msgType = .preKeyBundle ∧ X.serde.preKeyBundleMessage.decode e.content = some prekey ∧
      prekey.sessionMessage.ratchetKey = prekey.baseKey ∧
      ((Client.responderFor X b e prekey).decrypt X.prims prekey.sessionMessage).1 =
        .ok (utf8 text) := by
  obtain ⟨m, a', e, hm, rfl, hsend, -⟩ := Client.sendMessage_spec hP hne
    (Client.getOrCreateSession_new hs io b.register) .accepted text
  exact ⟨a', _, _, hsend, rfl, rfl, rfl, X.serde.preKeyBundleMessage.decode_encode _,
    (sealed_of_encrypt hP hm).1, responder_opens hP hwf hm rfl rfl⟩

/-- What reading one envelope does to a client: the session becomes `o`, and the text is
    recorded. Only receipts go out. -/
structure ReadBy (X : Crates Key) (peer : String) (c : Client Key)
    (o : Option (Handshake.Half Key)) (texts : List String)
    (r : Except ReceiveError Unit × Client Key × List Envelope) : Prop where
  ok : r.1 = .ok ()
  keys : Client.SameKeys c r.2.1
  half : (r.2.1.sessions.get peer 1).map halfOf = o
  incoming : r.2.1.incoming peer = c.incoming peer ++ texts
  posted : ∀ e ∈ r.2.2, e.msgType.isChat = false

omit [DecidableEq Key] in
/-- The end of both branches, after the session was stored. -/
theorem readBy_finish {text : String} (hplain : Client.Plain X text) {c c' : Client Key}
    (hkeys : Client.SameKeys c c') (hlog : c'.chatLog = c.chatLog) (e : Envelope)
    (io : ReceiveInput Key) (i : ℕ) {o : Option (Handshake.Half Key)}
    (ho : (c'.sessions.get e.senderId 1).map halfOf = o) :
    ReadBy X e.senderId c o [text] (c'.finish X io i e (utf8 text)) := by
  rw [Client.finish_plain hplain]
  refine ⟨rfl, ⟨hkeys.userId, hkeys.identity, hkeys.signedPreKey⟩, ho, ?_, ?_⟩
  · rw [Client.incoming_recordMessage, if_pos ⟨rfl, rfl⟩, Client.incoming, hlog, Client.incoming]
  · intro r hr
    dsimp only at hr
    split at hr
    · rw [List.mem_singleton] at hr
      rw [hr]
      rfl
    · cases hr

/-- A carried message that the handshake reads, the client reads. -/
theorem receive_hears {p : Party} {c : Client Key} (hkeys : Client.SameKeys (u.client p) c)
    {m : Handshake.Message Key} {e : Envelope} (hcar : Carries u p m e)
    {o o' : Option (Handshake.Half Key)} (ho : (c.sessions.get (u.userId p.peer) 1).map halfOf = o)
    (hh : Handshake.Hears u.scheme p o m o') (io : ReceiveInput Key) (i : ℕ) :
    ReadBy X (u.userId p.peer) c o' [m.text] (c.receiveEnvelope X io i e) := by
  obtain ⟨hsender, hdevice, hplain, hcar⟩ := hcar
  rw [← hsender] at ho ⊢
  cases hh with
  | hello o base text =>
    obtain ⟨htype, prekey, hdec, rfl, hsealed⟩ := hcar
    have hview : (halfOf (Client.responderFor X c e prekey)).view =
        (prekey.baseKey, u.scheme.chain p prekey.baseKey) := by
      unfold Client.responderFor
      rw [hkeys.signedPreKey]
      rfl
    obtain ⟨hok, hnext⟩ := decrypt_sealed hsealed hview
    rw [Client.receive_preKeyBundle htype hdec hok]
    refine readBy_finish hplain ?_ ?_ e io i ?_
    · exact ⟨rfl, rfl, rfl⟩
    · rfl
    have hget := SessionStore.get_add c.sessions (u := e.senderId) (d := 1)
      (s := ((Client.responderFor X c e prekey).decrypt X.prims prekey.sessionMessage).2)
      rfl hdevice
    dsimp only
    rw [hget, Option.map_some, hnext]
    unfold Client.responderFor
    rw [hkeys.signedPreKey]
    rfl
  | say role header sendChain k ck text =>
    obtain ⟨htype, sm, hdec, hsealed⟩ := hcar
    obtain ⟨ses, hses, hhalf⟩ := Option.map_eq_some_iff.mp ho
    have hne : e.senderId ≠ c.userId := by
      rw [hsender, hkeys.userId]
      exact u.userId_peer_ne p
    obtain ⟨hok, hnext⟩ := decrypt_sealed hsealed (congrArg Handshake.Half.view hhalf)
    rw [Client.receive_normal htype hne hdec hses]
    dsimp only
    rw [hok]
    refine readBy_finish hplain ?_ ?_ e io i ?_
    · exact ⟨rfl, rfl, rfl⟩
    · rfl
    rw [SessionStore.get_update_self _ _ _ _ (fun s => by simp), hses, Option.map_some,
      Option.map_some, hnext, hhalf]
    rfl

/-- A batch whose messages the handshake reads in order. -/
theorem receiveLoop_hears {p : Party} {c : Client Key} (hkeys : Client.SameKeys (u.client p) c)
    {ms : List (Handshake.Message Key)} {es : List Envelope}
    (hcar : List.Forall₂ (Carries u p) ms (es.filter (·.msgType.isChat)))
    {o o' : Option (Handshake.Half Key)} (ho : (c.sessions.get (u.userId p.peer) 1).map halfOf = o)
    (hh : Path (Handshake.Hears u.scheme p) o ms o') (io : ReceiveInput Key) (i : ℕ) :
    ReadBy X (u.userId p.peer) c o' (ms.map Handshake.Message.text)
      (Client.receiveLoop X io i c (es.map some)) := by
  induction es generalizing i c ms o with
  | nil =>
    cases hcar
    rw [Path.nil_iff] at hh
    exact ⟨rfl, ⟨rfl, rfl, rfl⟩, ho.trans hh, (List.append_nil _).symm, fun _ h => by cases h⟩
  | cons e es ih =>
    rw [List.map_cons, Client.receiveLoop]
    by_cases hchat : e.msgType.isChat = true
    · rw [List.filter_cons, if_pos hchat] at hcar
      cases hcar with
      | cons hm hms =>
        obtain ⟨o₁, h₁, hrest⟩ := Path.cons_iff.mp hh
        obtain ⟨hok, hk, hhalf, hinc, hpost⟩ := receive_hears hkeys hm ho h₁ io i
        generalize c.receiveEnvelope X io i e = r at *
        obtain ⟨res, c₁, posted⟩ := r
        dsimp only at hok hk hhalf hinc hpost
        subst hok
        dsimp only
        obtain ⟨hok', hk', hhalf', hinc', hpost'⟩ := ih (hkeys.trans hk) hms hhalf hrest (i + 1)
        refine ⟨hok', hk.trans hk', hhalf', ?_, fun x hx => ?_⟩
        · rw [hinc', hinc, List.append_assoc]
          rfl
        · exact (List.mem_append.mp hx).elim (hpost x) (hpost' x)
    · rw [List.filter_cons, if_neg hchat] at hcar
      obtain ⟨c₁, hc₁, hk, hsess, hlog⟩ :=
        Client.receive_receipt (X := X) (c := c) (by simpa using hchat) io i
      rw [hc₁]
      dsimp only
      obtain ⟨hok', hk', hhalf', hinc', hpost'⟩ :=
        ih (hkeys.trans hk) hcar (by rw [hsess]; exact ho) hh (i + 1)
      refine ⟨hok', hk.trans hk', hhalf', ?_, hpost'⟩
      rw [hinc', Client.incoming, hlog, Client.incoming]

/-- A receive of the world is a step of the handshake. -/
theorem refines_receive (h : Refines u w s) {p : Party} {o : Option (Handshake.Half Key)}
    (hh : Path (Handshake.Hears u.scheme p) (s.half p) (s.waiting p) o) (clock : ℕ → UInt64)
    (io : ReceiveInput Key) : Refines u (w.receive X p clock io) (s.receive p o) := by
  have hho := h.half p
  rw [World.session, h.userId] at hho
  obtain ⟨hok, hk, hhalf, hinc, hpost⟩ :=
    receiveLoop_hears (h.keys p) (h.waiting p) hho hh io 0
  unfold World.receive Client.receiveMessages
  dsimp only [Relay.fetch]
  generalize Client.receiveLoop X io 0 (w.client p) ((w.relay (w.userId p)).map some) = r at *
  obtain ⟨res, c, posted⟩ := r
  dsimp only at hok hk hhalf hinc hpost ⊢
  have hfetch := chat_fetch X.serde.toRelaySerde w.relay (w.userId p) clock
  refine ⟨fun q => ?_, h.bundles, fun q => ?_, fun q => ?_, fun q => ?_⟩
  · rcases p.eq_or_eq_peer q with rfl | rfl
    · rw [World.put_client_self]
      exact (h.keys q).trans hk
    · rw [World.put_client_peer]
      exact h.keys _
  · rcases p.eq_or_eq_peer q with rfl | rfl
    · rw [World.put_session_self hk, h.userId, hhalf, Handshake.receive_half_self]
    · rw [World.put_session_peer hk, Handshake.receive_half_peer]
      exact h.half _
  · rw [World.put_chat hk, chat_posts hpost]
    refine (hfetch (w.userId q)).symm ▸ ?_
    rcases p.eq_or_eq_peer q with rfl | rfl
    · rw [if_pos rfl, Handshake.receive_waiting_self]
      exact .nil
    · have hne : w.userId p.peer ≠ w.userId p := by
        rw [h.userId, h.userId]
        exact u.userId_peer_ne p
      rw [if_neg hne, Handshake.receive_waiting_peer]
      exact h.waiting _
  · rcases p.eq_or_eq_peer q with rfl | rfl
    · rw [World.put_incoming_self hk, h.userId, hinc]
      have := h.heard q
      rw [World.incoming, h.userId] at this
      rw [this, List.append_assoc, Handshake.receive_heard_self]
    · rw [World.put_incoming_peer hk, h.heard, Handshake.receive_heard_peer]

/-! ## Runs -/

/-- **A run in which no crossed client sends** is a run of the handshake. -/
theorem run_refines (hP : X.prims.Lawful) (u : Peers X) (steps : List (WorldStep Key))
    (hplain : ∀ p, ∀ text ∈ textsBy p steps, Client.Plain X text)
    (hcross : (World.start u).NeverCrossed X steps) :
    ∃ s, Refines u ((World.start u).run X steps) s ∧ Handshake.Reached u.scheme s ∧
      ∀ p, s.said p = textsBy p steps := by
  induction steps using List.reverseRecOn with
  | nil => exact ⟨.start, refines_start u, Handshake.reached_start, fun _ => rfl⟩
  | append_singleton steps a ih =>
    obtain ⟨hbefore, hnow⟩ := World.neverCrossed_snoc X hcross
    obtain ⟨s, href, hreach, hsaid⟩ := ih
      (fun p text ht => hplain p text (textsBy_subset p steps [a] ht)) hbefore
    rw [World.run_snoc]
    cases a with
    | send p text io =>
      have htext : Client.Plain X text := hplain p text (by
        rw [textsBy_snoc_send, if_pos rfl]
        exact List.mem_append_right _ List.mem_cons_self)
      obtain ⟨s', hstep, href', hsaid'⟩ := refines_send hP href htext io
      have hallow : ¬ s.Crossed p := fun hc => hnow p text io rfl ((href.crossed p).mp hc)
      refine ⟨s', href', hreach.step (a := .send p text _) hallow hstep, fun q => ?_⟩
      rw [hsaid', textsBy_snoc_send]
      by_cases hq : p = q
      · subst hq
        rw [Function.update_self, if_pos rfl, hsaid]
      · rw [Function.update_of_ne (Ne.symm hq), if_neg hq, List.append_nil, hsaid]
    | receive p clock io =>
      obtain ⟨o, hh⟩ := Handshake.can_receive hreach.inv p
      refine ⟨_, refines_receive href hh clock io,
        hreach.step (a := .receive p) trivial (.receive hh), fun q => ?_⟩
      rw [textsBy_snoc_receive]
      exact hsaid q

omit [DecidableEq Key] in
/-- A queue without messages is a side with nothing to read. -/
theorem Refines.chat_eq_nil (h : Refines u w s) (p : Party) :
    w.chat p = [] ↔ s.waiting p = [] := by
  have := h.waiting p
  constructor
  · intro hc
    rw [hc] at this
    exact List.forall₂_nil_right_iff.mp this
  · intro hc
    rw [hc] at this
    exact List.forall₂_nil_left_iff.mp this

/-- Both clients send their first message before either has received. -/
def crossing (p : Party) (x y : String) (io io' : SendInput Key) (clock : ℕ → UInt64)
    (rio : ReceiveInput Key) : List (WorldStep Key) :=
  [.send p x io, .send p.peer y io', .receive p clock rio, .receive p.peer clock rio]

theorem run_crossing (w : World Key) (p : Party) (x y : String) (io io' : SendInput Key)
    (clock : ℕ → UInt64) (rio : ReceiveInput Key) :
    w.run X (crossing p x y io io' clock rio) =
      (((w.send X p x io).send X p.peer y io').receive X p clock rio).receive X p.peer clock
        rio := by
  unfold crossing World.run
  simp only [List.foldl_cons, List.foldl_nil, World.step]

theorem neverCrossed_crossing (w : World Key) (p : Party) (x y : String) (io io' : SendInput Key)
    (clock : ℕ → UInt64) (rio : ReceiveInput Key) :
    w.NeverCrossed X (crossing p x y io io' clock rio) ↔
      ¬ w.Crossed p ∧ ¬ (w.send X p x io).Crossed p.peer := by
  unfold crossing
  simp only [World.NeverCrossed, and_true]

/-- First messages that cross are both delivered, and leave the first sender crossed. -/
theorem crossed_of_crossing (hP : X.prims.Lawful) (u : Peers X) (p : Party) {x y : String}
    (hx : Client.Plain X x) (hy : Client.Plain X y) (io io' : SendInput Key) (clock : ℕ → UInt64)
    (rio : ReceiveInput Key) :
    (World.start u).NeverCrossed X (crossing p x y io io' clock rio) ∧
      ((World.start u).run X (crossing p x y io io' clock rio)).Crossed p ∧
      ∀ q, ((World.start u).run X (crossing p x y io io' clock rio)).chat q = [] := by
  have hnot₀ : ¬ (Handshake.State.start : Handshake.State Key).Crossed p :=
    Handshake.not_crossed_of_none rfl
  obtain ⟨s₁, h₁, href₁, -⟩ := refines_send hP (refines_start u) hx io (p := p)
  have hreach₁ := Handshake.reached_start.step (a := .send p x _) hnot₀ h₁
  have hs₁ := Handshake.step_first h₁ rfl
  have hnone : s₁.half p.peer = none := by
    rw [hs₁]
    exact Handshake.send_half_peer
  have hnot₁ := Handshake.not_crossed_of_none hnone
  obtain ⟨s₂, h₂, href₂, -⟩ := refines_send hP href₁ hy io' (p := p.peer)
  have hreach₂ := hreach₁.step (a := .send p.peer y _) hnot₁ h₂
  have hs₂ := Handshake.step_first h₂ hnone
  have hself : s₂.HelloWaits p.peer.peer := by
    rw [hs₂]
    exact Handshake.send_helloWaits_peer.mpr (.inr rfl)
  rw [Party.peer_peer] at hself
  have hpeer : s₂.HelloWaits p.peer := by
    rw [hs₂, Handshake.send_helloWaits_self, hs₁]
    exact Handshake.send_helloWaits_peer.mpr (.inr rfl)
  obtain ⟨o, ho⟩ := Handshake.can_receive hreach₂.inv p
  have href₃ := refines_receive href₂ ho clock rio
  have hreach₃ := hreach₂.step (a := .receive p) trivial (.receive ho)
  obtain ⟨o', ho'⟩ := Handshake.can_receive hreach₃.inv p.peer
  have href₄ := refines_receive href₃ ho' clock rio
  obtain ⟨hcrossed, hwait⟩ := Handshake.crossed_of_hellos hself hpeer ho ho'
  rw [neverCrossed_crossing, run_crossing]
  refine ⟨⟨?_, ?_⟩, (href₄.crossed p).mp hcrossed, fun q => ?_⟩
  · exact fun hc => hnot₀ (((refines_start u).crossed p).mpr hc)
  · exact fun hc => hnot₁ ((href₁.crossed _).mpr hc)
  · exact (href₄.chat_eq_nil q).mpr (hwait q)

/-- **Delivery in order.** In every run in which no crossed client sends, whatever the order of
    the calls: once no message waits for a client, the texts it has recorded from the other one
    are, after those of the start, the texts that one has sent, each once and in order. -/
theorem delivered_in_order (hP : X.prims.Lawful) (u : Peers X) (steps : List (WorldStep Key))
    (hplain : ∀ p, ∀ text ∈ textsBy p steps, Client.Plain X text)
    (hcross : (World.start u).NeverCrossed X steps) (p : Party)
    (hdrained : ((World.start u).run X steps).chat p = []) :
    ((World.start u).run X steps).incoming p =
      (World.start u).incoming p ++ textsBy p.peer steps := by
  obtain ⟨s, href, hreach, hsaid⟩ := run_refines hP u steps hplain hcross
  have hwait := (href.chat_eq_nil p).mp hdrained
  rw [href.heard p, Handshake.heard_of_drained hreach.inv hwait, hsaid]

/-! ### Two fresh clients -/

/-- The symbolic crates, on texts that are no JSON. -/
def plainCrates : Crates Term where
  prims := symbolic
  serde := symbolicSerde
  fromSlice _ := none
  base64Decode _ := none
  hexKey _ := none

theorem plain_plainCrates (text : String) : Client.Plain plainCrates text := fun _ h => by cases h

def freshPeers : Peers plainCrates where
  client
    | .alice => .new symbolic (.secret 0) (.secret 1) "alice"
    | .bob => .new symbolic (.secret 2) (.secret 3) "bob"
  userId_ne := by decide
  noSession p := by cases p <;> rfl
  wellFormed p := by cases p <;> exact SignedPreKey.generate_wellFormed ..

def freshSendInput (n : ℕ) : SendInput Term := ⟨.secret n, Vector.replicate 12 0, 0, 0⟩

def freshReceiveInput : ReceiveInput Term := ⟨fun _ => 0, fun _ => 0, fun _ => true, fun _ => .zero⟩

/-- The first messages of the two, crossing. -/
def freshCrossing : List (WorldStep Term) :=
  crossing .alice "hello" "hi" (freshSendInput 4) (freshSendInput 5) (fun _ => 0) freshReceiveInput

theorem delivered_in_order_crossing :
    ((World.start freshPeers).run plainCrates freshCrossing).incoming .bob = ["hello"] := by
  obtain ⟨hcross, -, hchat⟩ := crossed_of_crossing (X := plainCrates) symbolic_lawful freshPeers
    .alice (plain_plainCrates "hello") (plain_plainCrates "hi") (freshSendInput 4)
    (freshSendInput 5) (fun _ => 0) freshReceiveInput
  exact delivered_in_order symbolic_lawful freshPeers freshCrossing
    (fun _ text _ => plain_plainCrates text) hcross .bob (hchat .bob)

end TinTin.Cli
