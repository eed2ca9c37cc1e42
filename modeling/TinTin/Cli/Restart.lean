/-
  A client that is started again.

  `save_all` writes the history, the groups, the channels and the chat log, and these are what
  `TinTinClient::new` reads. The identity, the signed pre-key and the sessions are in no file: the
  new client draws the first two and has none of the third, while its peers keep their halves.

  The chain that a session's initiator receives by starts from `[0u8; 32]` in every session. So
  one case is left in which a message under an old session is read: its sender is the session's
  responder, and the client has since opened a session of its own with it, and has tried as many
  messages with it as the sender had sent.

  * `Renewed`: what sessions a restarted client can have, whatever it does.
  * `decrypted_after_restart_iff`: which messages under old sessions it reads.
-/
import TinTin.Cli.Network
import TinTin.Cli.Crossing
import TinTin.Security.Provenance
import TinTin.Security.Replay

namespace TinTin.Cli

open TinTin.Lib TinTin.Core TinTin.Symbolic TinTin.Security

/-! ## Saving and loading -/

/-- What the files of a user hold, as far as there are any. The groups and channels are left
    out: no message is decrypted with them. -/
structure SavedFiles where
  history : Option (List SentMessage)
  chatLog : Option (List MessageRecord)

section

variable {Key : Type}

/-- `save_all` -/
def Client.saveAll (c : Client Key) : SavedFiles where
  history := some c.sentMessages
  chatLog := some c.chatLog

/-- `TinTinClient::new`, with the two random secrets as arguments -/
def Client.load (P : Primitives Key) (identitySecret preKeySecret : Key) (userId : String)
    (files : SavedFiles) : Client Key :=
  { Client.new P identitySecret preKeySecret userId with
    sentMessages := files.history.getD []
    chatLog := files.chatLog.getD [] }

variable [DecidableEq Key]

/-- What a client can do with its keys and sessions: encrypt, read an envelope, whatever is in
    it, and anything that leaves them alone. -/
inductive Uses (X : Crates Key) (c : Client Key) : Client Key → Prop
  | send (io : SendInput Key) (bundle : Option (PreKeyBundle Key)) (recipient payload : String) :
    Uses X c (c.sendEncrypted X io bundle recipient payload).2
  | receive (io : ReceiveInput Key) (i : ℕ) (e : Envelope) :
    Uses X c (c.receiveEnvelope X io i e).2.1
  | other {c' : Client Key} (hkeys : Client.SameKeys c c') (hsessions : c'.sessions = c.sessions) :
    Uses X c c'

end

/-! ## Sessions of the peers -/

/-- A session that a peer has with the client as it was before: the peer has made it from the
    client's pre-key, or from a message of the client, and has used it since. The secret is none
    that the peer has drawn. -/
inductive Established (c : Client Term) (secret : Term) : Session Term → Prop
  | initiator (ephSecret : Term) (ourIdentity : IdentityKeyPair Term) (userId : String)
    (deviceId : UInt32) (identityKey : Term) (hfresh : secret ≠ ephSecret) :
    Established c secret (.newInitiator symbolic ephSecret ourIdentity userId deviceId identityKey
      c.signedPreKey.keyPair.publicKey)
  | responder (ourIdentity : IdentityKeyPair Term) (userId : String) (deviceId : UInt32)
    (identityKey base : Term) (preKey : SignedPreKey Term) :
    Established c secret (.newResponder symbolic ourIdentity userId deviceId identityKey base
      preKey)
  | call {s : Session Term} (h : Established c secret s) (call : SessionCall) :
    Established c secret (callSession s call).2

theorem agrees_callSession {shared : Term} {s : Session Term} (h : Agrees shared s.ratchet)
    (call : SessionCall) : Agrees shared (callSession s call).2.ratchet := by
  cases call with
  | encrypt nonce plaintext =>
    show Agrees shared (s.encrypt symbolic nonce plaintext).2.ratchet
    rw [Session.encrypt_state]
    exact h.nextSendKey
  | decrypt m => exact h.decryptMessage _

theorem isInitiator_callSession (s : Session Term) (call : SessionCall) :
    (callSession s call).2.ratchet.isInitiator = s.ratchet.isInitiator := by
  cases call with
  | encrypt nonce plaintext =>
    show (s.encrypt symbolic nonce plaintext).2.ratchet.isInitiator = _
    rw [Session.encrypt_state]
    rfl
  | decrypt m => exact Ratchet.receiveHeader_isInitiator s.ratchet m.ratchetKey

/-- The agreement an old session goes back to. -/
theorem Established.agrees {c : Client Term} {secret : Term} {s : Session Term}
    (h : Established c secret s) : ∃ shared, Agrees shared s.ratchet ∧
      (s.ratchet.isInitiator = true → ∃ ephSecret, secret ≠ ephSecret ∧
        shared = ephSecret.diffieHellman c.signedPreKey.keyPair.publicKey) := by
  induction h with
  | initiator ephSecret ourIdentity userId deviceId identityKey hfresh =>
    exact ⟨_, .newInitiator (isRoot_diffieHellman _ _) _ _, fun _ => ⟨ephSecret, hfresh, rfl⟩⟩
  | responder ourIdentity userId deviceId identityKey base preKey =>
    exact ⟨_, .newResponder (isRoot_diffieHellman _ _) _ _, fun h => by cases h⟩
  | call _ call ih =>
    obtain ⟨shared, hagrees, hinit⟩ := ih
    refine ⟨shared, agrees_callSession hagrees call, fun hr => hinit ?_⟩
    rw [← hr, isInitiator_callSession]

/-! ## Agreements -/

theorem diffieHellman_ne_zero (s p : Term) : s.diffieHellman p ≠ .zero := by
  unfold Term.diffieHellman Term.agree
  split
  · split <;> exact fun h => by cases h
  · exact fun h => by cases h

/-- Agreements of different secrets. -/
theorem diffieHellman_ne {secret ephSecret preKey p : Term} (heph : secret ≠ ephSecret)
    (hpre : secret ≠ preKey) :
    secret.diffieHellman p ≠ ephSecret.diffieHellman (.pub preKey) := by
  intro h
  unfold Term.diffieHellman at h
  dsimp only at h
  split at h
  · unfold Term.agree at h
    split at h <;> split at h <;> cases h
    · exact heph rfl
    · exact hpre rfl
    · exact hpre rfl
    · exact heph rfl
  · unfold Term.agree at h
    split at h <;> cases h

/-! ## The restarted client -/

variable {X : Crates Term}

/-- **What a restarted client has**: its new pre-key, and sessions that it has opened itself or
    that were made with that pre-key. -/
structure Renewed (preKeySecret : Term) (userId : String) (c : Client Term) : Prop where
  userId : c.userId = userId
  preKey : c.signedPreKey.keyPair.secret = preKeySecret
  sessions : ∀ p s, c.sessions.get p 1 = some s → ∃ shared, Agrees shared s.ratchet ∧
    (s.ratchet.isInitiator = false → ∃ base, shared = preKeySecret.diffieHellman base)

theorem renewed_load (P : Primitives Term) (identitySecret preKeySecret : Term) (userId : String)
    (files : SavedFiles) :
    Renewed preKeySecret userId (Client.load P identitySecret preKeySecret userId files) where
  userId := rfl
  preKey := rfl
  sessions p s hs := by cases hs

/-- The session that a `PreKeyBundle` envelope makes. -/
theorem agrees_responderFor (hX : X.prims = symbolic) (c : Client Term) (e : Envelope)
    (prekey : PreKeyBundleMessage Term) :
    Agrees (c.signedPreKey.keyPair.secret.diffieHellman prekey.baseKey)
      (Client.responderFor X c e prekey).ratchet := by
  unfold Client.responderFor Session.newResponder
  rw [hX]
  exact .newResponder (isRoot_diffieHellman _ _) _ _

/-- A session of a renewed client, after a call. -/
theorem Renewed.callSession {preKeySecret : Term} {s : Session Term}
    (h : ∃ shared, Agrees shared s.ratchet ∧
      (s.ratchet.isInitiator = false → ∃ base, shared = preKeySecret.diffieHellman base))
    (call : SessionCall) : ∃ shared, Agrees shared (callSession s call).2.ratchet ∧
      ((Security.callSession s call).2.ratchet.isInitiator = false →
        ∃ base, shared = preKeySecret.diffieHellman base) := by
  obtain ⟨shared, hagrees, hresp⟩ := h
  refine ⟨shared, agrees_callSession hagrees call, fun hr => hresp ?_⟩
  rw [← hr, isInitiator_callSession]

theorem Renewed.uses (hX : X.prims = symbolic) {preKeySecret : Term} {userId : String}
    {c c' : Client Term} (h : Renewed preKeySecret userId c) (hu : Uses X c c') :
    Renewed preKeySecret userId c' := by
  obtain ⟨huser, hpre, hsessions⟩ := h
  cases hu with
  | send io bundle recipient payload =>
    rcases hget : c.getOrCreateSession X io bundle recipient with _ | ⟨s, isNew, c₁⟩
    · have hsame : (c.sendEncrypted X io bundle recipient payload).2 = c := by
        unfold Client.sendEncrypted
        rw [hget]
      rw [hsame]
      exact ⟨huser, hpre, hsessions⟩
    · obtain ⟨m, c₂, -, hsend, hself, hother, hkeys, -⟩ :=
        Client.sendEncrypted_spec (hX ▸ symbolic_lawful) hget payload
      rw [hsend]
      refine ⟨hkeys.userId.trans huser, ?_, fun p s' hs' => ?_⟩
      · rw [hkeys.signedPreKey]
        exact hpre
      · by_cases hp : p = recipient
        · subst hp
          rw [hself, hX] at hs'
          cases hs'
          refine Renewed.callSession ?_ (.encrypt io.nonce (utf8 payload))
          rcases Client.getOrCreateSession_cases hget with ⟨-, hold, -⟩ | ⟨-, -, ⟨b, -, rfl⟩, -⟩
          · exact hsessions p s hold
          · rw [hX]
            exact ⟨_, .newInitiator (isRoot_diffieHellman _ _) _ _, fun h => by cases h⟩
        · rw [hother p hp] at hs'
          exact hsessions p s' hs'
  | receive io i e =>
    have hkeys := (Client.receiveEnvelope_view (X := X) (c := c) ⟨rfl, rfl, rfl⟩ io i e "").1
    refine ⟨hkeys.userId.trans huser, ?_, fun p s hs => ?_⟩
    · rw [hkeys.signedPreKey]
      exact hpre
    · rcases Client.receiveEnvelope_session io i hs with hs | ⟨-, ht⟩
      · exact hsessions p s hs
      · generalize hd : (1 : UInt32) = d at ht
        cases ht with
        | hello htype hdec hok =>
          rw [hX]
          refine Renewed.callSession ⟨_, agrees_responderFor hX c e _, fun _ => ?_⟩ (.decrypt _)
          exact ⟨_, by rw [hpre]⟩
        | message htype hdec hold =>
          rw [hX]
          exact Renewed.callSession (hsessions p _ hold) (.decrypt _)
  | other hkeys hsame =>
    refine ⟨hkeys.userId.trans huser, ?_, ?_⟩
    · rw [hkeys.signedPreKey]
      exact hpre
    · rw [hsame]
      exact hsessions

/-- What a client can have become after it was started again. -/
def Restarted (X : Crates Term) (preKeySecret : Term) (userId : String) (c : Client Term) : Prop :=
  ∃ identitySecret files, Relation.ReflTransGen (Uses X)
    (.load X.prims identitySecret preKeySecret userId files) c

theorem Restarted.renewed (hX : X.prims = symbolic) {preKeySecret : Term} {userId : String}
    {c : Client Term} (h : Restarted X preKeySecret userId c) : Renewed preKeySecret userId c := by
  obtain ⟨identitySecret, files, huses⟩ := h
  induction huses with
  | refl => exact renewed_load X.prims identitySecret preKeySecret userId files
  | tail _ hu ih => exact ih.uses hX hu

/-! ## Messages under old sessions -/

/-- A session made with the new pre-key is never in step with an old one of the peer. -/
theorem Established.out_of_step {c : Client Term} {preKeySecret : Term} {s : Session Term}
    (hold : Established c preKeySecret s) (hwf : c.signedPreKey.keyPair.WellFormed symbolic)
    (hnew : preKeySecret ≠ c.signedPreKey.keyPair.secret) {s' : Session Term} {base : Term}
    (hagrees : Agrees (preKeySecret.diffieHellman base) s'.ratchet)
    (hrole : s'.ratchet.isInitiator = false) (header : Term) :
    nextKey symbolic s' header ≠ s.ratchet.sendChainKey := by
  intro heq
  obtain ⟨shared, hs, hinit⟩ := hold.agrees
  have hlive := (hagrees.receiveHeader header).live
  unfold live at hlive
  rw [Ratchet.receiveHeader_isInitiator, hrole, if_neg Bool.false_ne_true] at hlive
  unfold nextKey at heq
  rw [heq] at hlive
  cases hr : s.ratchet.isInitiator with
  | true =>
    obtain ⟨ephSecret, hfresh, rfl⟩ := hinit hr
    have hshared := hs.live
    unfold live at hshared
    rw [hr, if_pos rfl, hlive, hwf] at hshared
    exact diffieHellman_ne hfresh hnew hshared
  | false =>
    have hidle := hs.idle
    unfold idle at hidle
    rw [hr, if_neg Bool.false_ne_true, hlive] at hidle
    exact diffieHellman_ne_zero _ _ hidle

/-- The client has a session of its own opening with the sender, the sender is the responder of
    the old one, and both stand at the same place of the chain from `[0u8; 32]`. -/
def Coincides (c : Client Term) (sender : String) (old : Session Term) : Prop :=
  old.ratchet.isInitiator = false ∧ ∃ s, c.sessions.get sender 1 = some s ∧
    s.ratchet.isInitiator = true ∧ s.ratchet.recvChainKey = old.ratchet.sendChainKey

/-- A session of the restarted client is in step with an old one only by coincidence. -/
theorem Renewed.nextKey_iff {c c' : Client Term} {preKeySecret : Term} {s : Session Term}
    (hold : Established c preKeySecret s) (hwf : c.signedPreKey.keyPair.WellFormed symbolic)
    (hnew : preKeySecret ≠ c.signedPreKey.keyPair.secret)
    (hc' : Renewed preKeySecret c.userId c') {sender : String} {s' : Session Term}
    (hs' : c'.sessions.get sender 1 = some s') (header : Term) :
    nextKey symbolic s' header = s.ratchet.sendChainKey ↔ Coincides c' sender s := by
  obtain ⟨shared', hagrees, hresp⟩ := hc'.sessions sender s' hs'
  cases hr' : s'.ratchet.isInitiator with
  | false =>
    obtain ⟨base, rfl⟩ := hresp hr'
    refine iff_of_false (hold.out_of_step hwf hnew hagrees hr' header) ?_
    rintro ⟨-, s₁, hs₁, hinit, -⟩
    rw [hs'] at hs₁
    cases hs₁
    rw [hr'] at hinit
    cases hinit
  | true =>
    unfold nextKey
    rw [receiveHeader_recvChainKey_initiator hr']
    constructor
    · intro heq
      refine ⟨?_, s', hs', hr', heq⟩
      by_contra hr
      rw [Bool.not_eq_false] at hr
      obtain ⟨shared, hagrees', hinit⟩ := hold.agrees
      obtain ⟨ephSecret, -, rfl⟩ := hinit hr
      have hidle := hagrees.idle
      have hlive := hagrees'.live
      unfold idle at hidle
      unfold live at hlive
      rw [hr', if_pos rfl, heq] at hidle
      rw [hr, if_pos rfl, hidle] at hlive
      exact diffieHellman_ne_zero _ _ hlive.symm
    · rintro ⟨-, s₁, hs₁, -, heq⟩
      rw [hs'] at hs₁
      cases hs₁
      exact heq

/-- A first message that was made for the old pre-key: the session it makes with the new one does
    not open it. -/
theorem Renewed.hello_unread (hX : X.prims = symbolic) {c c' : Client Term} {preKeySecret : Term}
    (hc' : Renewed preKeySecret c.userId c') {s : Session Term}
    (hold : Established c preKeySecret s) (hwf : c.signedPreKey.keyPair.WellFormed symbolic)
    (hnew : preKeySecret ≠ c.signedPreKey.keyPair.secret) {nonce : Nonce} {payload : String}
    {m : SessionMessage Term} (hm : (s.encrypt X.prims nonce (utf8 payload)).1 = .ok m)
    {e : Envelope} (htype : e.msgType = .preKeyBundle) {identityKey : Term}
    (hdec : X.serde.preKeyBundleMessage.decode e.content =
      some ⟨identityKey, s.ratchet.dhRatchetKey.publicKey, m⟩) : c'.opens X e = none := by
  rw [Client.opens_hello htype hdec, opens_iff hX (sealed_of_encrypt (hX ▸ symbolic_lawful) hm),
    if_neg]
  · rfl
  · rw [hX]
    have hagrees := agrees_responderFor hX c' e
      ⟨identityKey, s.ratchet.dhRatchetKey.publicKey, m⟩
    rw [hc'.preKey] at hagrees
    exact hold.out_of_step hwf hnew hagrees rfl _

/-- **Sessions do not survive a restart, but by coincidence.** A peer has encrypted a payload for
    the client with a session it had before the restart, and the envelope waits or is still to
    come. Whatever the client has saved, and whatever it does once it is started again, it
    decrypts the payload exactly if the two sessions happen to stand at the same place of the
    chain from `[0u8; 32]`. -/
theorem decrypted_after_restart_iff (hX : X.prims = symbolic) {c : Client Term}
    (hwf : c.signedPreKey.keyPair.WellFormed symbolic) {preKeySecret : Term}
    (hnew : preKeySecret ≠ c.signedPreKey.keyPair.secret) {peer peer₁ peer₂ : Client Term}
    (hne : peer.userId ≠ c.userId) {io : SendInput Term} {bundle : Option (PreKeyBundle Term)}
    {s : Session Term} {isNew : Bool}
    (hs : peer.getOrCreateSession X io bundle c.userId = some (s, isNew, peer₁))
    (hold : Established c preKeySecret s) {payload : String} {content : Bytes}
    {msgType : MessageType} (hsent : peer.sendEncrypted X io bundle c.userId payload =
      (.ok (content, msgType), peer₂)) {e : Envelope} (hsender : e.senderId = peer.userId)
    (hcontent : e.content = content) (htype : e.msgType = msgType) {c' : Client Term}
    (hc' : Restarted X preKeySecret c.userId c') :
    c'.opens X e = some (utf8 payload) ↔ Coincides c' peer.userId s := by
  have hrenewed := hc'.renewed hX
  obtain ⟨m, peer₃, hm, hsend, -⟩ := Client.sendEncrypted_spec (hX ▸ symbolic_lawful) hs payload
  rw [hsent] at hsend
  have hwrap : (content, msgType) = peer.wrap X s isNew m :=
    Except.ok.inj (congrArg Prod.fst hsend)
  have hsealed := sealed_of_encrypt (hX ▸ symbolic_lawful) hm
  cases isNew with
  | true =>
    -- a queued first message: it makes a session with the new pre-key, which does not open it
    obtain ⟨rfl, rfl⟩ := Prod.mk.inj hwrap
    rw [hrenewed.hello_unread hX hold hwf hnew hm htype
      (hcontent ▸ X.serde.preKeyBundleMessage.decode_encode _)]
    refine iff_of_false (fun h => by cases h) ?_
    rintro ⟨hr, -⟩
    rcases Client.getOrCreateSession_cases hs with ⟨h, -, -⟩ | ⟨-, -, ⟨b, -, rfl⟩, -⟩
    · cases h
    · cases hr
  | false =>
    obtain ⟨rfl, rfl⟩ := Prod.mk.inj hwrap
    have hother : e.senderId ≠ c'.userId := by
      rw [hsender, hrenewed.userId]
      exact hne
    have hdec : X.serde.sessionMessage.decode e.content = some m :=
      hcontent ▸ X.serde.sessionMessage.decode_encode m
    cases hget : c'.sessions.get peer.userId 1 with
    | none =>
      have hnone : c'.opens X e = none := by
        unfold Client.opens
        rw [htype]
        dsimp only
        rw [if_neg hother, hdec, Option.bind_some, hsender, hget]
        rfl
      rw [hnone]
      refine iff_of_false (fun h => by cases h) ?_
      rintro ⟨-, s', hs', -⟩
      rw [hget] at hs'
      cases hs'
    | some s' =>
      rw [← hrenewed.nextKey_iff hold hwf hnew hget (halfOf s).header,
        Client.opens_normal htype hother hdec (hsender ▸ hget), opens_iff hX hsealed, hX]
      show _ ↔ nextKey symbolic s' (halfOf s).header = (halfOf s).sendChain
      split
      · exact iff_of_true rfl ‹_›
      · exact iff_of_false (fun h => by cases h) ‹_›

/-! ### A first message that waits -/

def waitingAlice : Client Term := .new symbolic (.secret 0) (.secret 1) "alice"

def leavingBob : Client Term := .new symbolic (.secret 2) (.secret 3) "bob"

/-- Bob, after `/quit`. -/
def returnedBob : Client Term := .load symbolic (.secret 12) (.secret 13) "bob" leavingBob.saveAll

/-- Alice's session, made from Bob's bundle. -/
def waitingSession : Session Term :=
  .newInitiator symbolic (.secret 4) waitingAlice.identityCopy "bob" 1
    leavingBob.register.identityKey leavingBob.register.signedPreKey

theorem waitingSession_established : Established leavingBob (.secret 13) waitingSession :=
  .initiator (.secret 4) waitingAlice.identityCopy "bob" 1 leavingBob.register.identityKey (by decide)

theorem waiting_getOrCreateSession : ∃ peer₁, waitingAlice.getOrCreateSession plainCrates
    (freshSendInput 4) (some leavingBob.register) "bob" = some (waitingSession, true, peer₁) :=
  ⟨_, Client.getOrCreateSession_new rfl (freshSendInput 4) leavingBob.register⟩

theorem returnedBob_restarted : Restarted plainCrates (.secret 13) "bob" returnedBob :=
  ⟨.secret 12, leavingBob.saveAll, .refl⟩

/-- What is in the envelope of a first message. -/
theorem exists_first_payload (hP : X.prims.Lawful) {peer peer₁ : Client Term}
    {io : SendInput Term} {bundle : Option (PreKeyBundle Term)} {recipient : String}
    {s : Session Term}
    (hs : peer.getOrCreateSession X io bundle recipient = some (s, true, peer₁))
    (payload : String) : ∃ m content peer₂, (s.encrypt X.prims io.nonce (utf8 payload)).1 = .ok m ∧
      peer.sendEncrypted X io bundle recipient payload =
        (.ok (content, .preKeyBundle), peer₂) ∧
      X.serde.preKeyBundleMessage.decode content =
        some ⟨peer.identity.publicKey, s.ratchet.dhRatchetKey.publicKey, m⟩ := by
  obtain ⟨m, peer₂, hm, hsend, -⟩ := Client.sendEncrypted_spec hP hs payload
  exact ⟨m, _, peer₂, hm, hsend, X.serde.preKeyBundleMessage.decode_encode _⟩

theorem decrypted_after_restart_waiting : ∃ content peer₂,
    waitingAlice.sendEncrypted plainCrates (freshSendInput 4) (some leavingBob.register) "bob"
      "hello" = (.ok (content, .preKeyBundle), peer₂) ∧
    (returnedBob.opens plainCrates (.new 0 "alice" "bob" content .preKeyBundle) =
      some (utf8 "hello") ↔ Coincides returnedBob "alice" waitingSession) := by
  obtain ⟨peer₁, hs⟩ := waiting_getOrCreateSession
  obtain ⟨m, content, peer₂, -, hsend, -⟩ := exists_first_payload symbolic_lawful hs "hello"
  exact ⟨content, peer₂, hsend, decrypted_after_restart_iff (X := plainCrates) (c := leavingBob)
    rfl (SignedPreKey.generate_wellFormed ..) (by decide)
    (show waitingAlice.userId ≠ leavingBob.userId by decide) hs waitingSession_established hsend
    rfl rfl rfl returnedBob_restarted⟩

/-- Alice's first message waits for Bob, who could read it before he left. He saves, leaves and
    comes back, and cannot. -/
theorem waiting_message_lost : ∃ content peer₂,
    waitingAlice.sendEncrypted plainCrates (freshSendInput 4) (some leavingBob.register) "bob"
      "hello" = (.ok (content, .preKeyBundle), peer₂) ∧
    leavingBob.opens plainCrates (.new 0 "alice" "bob" content .preKeyBundle) =
      some (utf8 "hello") ∧
    returnedBob.opens plainCrates (.new 0 "alice" "bob" content .preKeyBundle) = none := by
  obtain ⟨peer₁, hs⟩ := waiting_getOrCreateSession
  obtain ⟨m, content, peer₂, hm, hsend, hdec⟩ := exists_first_payload symbolic_lawful hs "hello"
  refine ⟨content, peer₂, hsend, ?_, ?_⟩
  · have hm' : ((Session.newInitiator plainCrates.prims (freshSendInput 4).ephSecret
        waitingAlice.identityCopy leavingBob.userId 1 leavingBob.register.identityKey
        leavingBob.register.signedPreKey).encrypt plainCrates.prims (freshSendInput 4).nonce
          (utf8 "hello")).1 = .ok m := hm
    rw [Client.opens_hello rfl hdec,
      responder_opens symbolic_lawful (SignedPreKey.generate_wellFormed ..) hm' rfl rfl]
    rfl
  · exact (returnedBob_restarted.renewed rfl).hello_unread (c := leavingBob) rfl
      waitingSession_established (SignedPreKey.generate_wellFormed ..) (by decide) hm rfl hdec

end TinTin.Cli
