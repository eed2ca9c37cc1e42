/-
  Envelopes that the relay delivers again.

  A repeated `PreKeyBundle` envelope makes its responder session anew: its message is read
  again, and the stored session goes back to where it was after that message. A repeated
  `Normal` envelope is not read again, but takes a key off the receiving chain. Either way
  the client is out of step with the peer.

  * `seen`: the peer's envelopes that `receive_messages` gets to, over any batches.
  * `Genuine`: messages that are read if each is delivered once.
  * `at_most_once_iff`: each message is recorded at most once, and the session stays in step
    at every moment, exactly if the repeats are harmless.
-/
import TinTin.Cli.Crossing
import TinTin.Cli.Isolation

namespace TinTin.Cli

open TinTin.Lib TinTin.Core TinTin.Symbolic

variable {Key : Type} [DecidableEq Key]

/-! ## Deliveries -/

/-- One call of `receive_messages`: what it draws, and the batch. -/
abbrev Delivery (Key : Type) := ReceiveInput Key × List Envelope

/-- The client after some calls. -/
def Client.afterAll (X : Crates Key) (c : Client Key) (ds : List (Delivery Key)) : Client Key :=
  ds.foldl (fun c d => c.afterBatch X d.1 d.2) c

/-- A chat envelope of the peer. -/
def isFrom (peer : String) (e : Envelope) : Bool := e.senderId = peer && e.msgType.isChat

/-- The peer's chat envelopes that the loops get to, in order. -/
def Client.seen (X : Crates Key) (peer : String) : Client Key → List (Delivery Key) → List Envelope
  | _, [] => []
  | c, d :: ds => (c.reads X d.1 d.2).filter (isFrom peer) ++ seen X peer (c.afterBatch X d.1 d.2) ds

/-- Some of the calls, and one more with the front of its batch. -/
inductive Cut : List (Delivery Key) → List (Delivery Key) → Prop
  | mk (before : List (Delivery Key)) (io : ReceiveInput Key) (batch : List Envelope) (k : ℕ)
    (later : List (Delivery Key)) :
    Cut (before ++ [(io, batch.take k)]) (before ++ (io, batch) :: later)

namespace SenderView

/-- The view after some envelopes of the sender. -/
def hearAll (X : Crates Key) (c : Client Key) (v : SenderView Key) (es : List Envelope) :
    SenderView Key :=
  es.foldl (hear X c) v

/-- The envelopes that added a record, in order. -/
def recorded (X : Crates Key) (c : Client Key) : SenderView Key → List Envelope → List Envelope
  | _, [] => []
  | v, e :: es =>
    if (v.hear X c e).records = v.records then recorded X c (v.hear X c e) es
    else e :: recorded X c (v.hear X c e) es

/-- The ratchet of the session that `Normal` envelopes are decrypted with. -/
def ratchet (v : SenderView Key) : Option (Ratchet Key) := (v.session 1).map (·.ratchet)

/-- What a `Normal` envelope decrypts to. -/
def opens (X : Crates Key) (v : SenderView Key) (e : Envelope) : Option Bytes :=
  (X.serde.sessionMessage.decode e.content).bind fun m =>
    v.ratchet.bind fun r => (r.decryptMessage X.prims (Session.toRatcheted m)).1.toOption

end SenderView

/-- What the message of a `PreKeyBundle` envelope decrypts to, and the session it makes. -/
def helloSession (X : Crates Key) (c : Client Key) (e : Envelope) : Option (Bytes × Session Key) :=
  (X.serde.preKeyBundleMessage.decode e.content).bind fun prekey =>
    match (Client.responderFor X c e prekey).decrypt X.prims prekey.sessionMessage with
    | (.ok plaintext, s) => some (plaintext, s)
    | (.error _, _) => none

/-- The plaintext leaves no record. -/
def unrecorded (X : Crates Key) (plaintext : Bytes) : Bool :=
  isCallSignal X plaintext || isFileChunk X plaintext

/-- The envelope is read in this view. It carries the ratchet key that its session was made
    with: no client changes that. -/
def ReadIn (X : Crates Key) (c : Client Key) (v : SenderView Key) (e : Envelope) : Prop :=
  match e.msgType with
  | .preKeyBundle => e.senderDeviceId = 1 ∧ (helloSession X c e).isSome ∧
      ∃ prekey, X.serde.preKeyBundleMessage.decode e.content = some prekey ∧
        prekey.sessionMessage.ratchetKey = prekey.baseKey
  | .normal => (v.opens X e).isSome ∧
      ∃ m r, X.serde.sessionMessage.decode e.content = some m ∧ v.ratchet = some r ∧
        m.ratchetKey = r.theirRatchetKey
  | .receipt => False
  | .typing => False

/-- **Genuine messages**: delivered once and in order, each of them is read. -/
def Genuine (X : Crates Key) (c : Client Key) : SenderView Key → List Envelope → Prop
  | _, [] => True
  | v, e :: es => ReadIn X c v e ∧ Genuine X c (v.hear X c e) es

/-- The session decrypts, with the same result, every message it would have read next if
    nothing had been delivered twice. -/
def StillReads (X : Crates Key) (c : Client Key) (unrepeated v : SenderView Key) : Prop :=
  ∀ e plaintext, e.msgType = .normal → ReadIn X c unrepeated e →
    unrepeated.opens X e = some plaintext → v.opens X e = some plaintext

/-- Every message is recorded at most once, and the session is in step. -/
def Client.InStep (X : Crates Key) (c : Client Key) (peer : String) (ds : List (Delivery Key)) :
    Prop :=
  ((c.view peer).recorded X c (c.seen X peer ds)).Nodup ∧
    StillReads X c ((c.view peer).hearAll X c (Batch.firsts (c.seen X peer ds)))
      ((c.afterAll X ds).view peer)

/-- Delivered again, the envelope does nothing: it is a call signal or a file chunk in a
    `PreKeyBundle`, and the session it makes is where the stored one is. -/
def Harmless (X : Crates Key) (c : Client Key) (v : SenderView Key) (e : Envelope) : Prop :=
  e.msgType = .preKeyBundle ∧ ∃ plaintext s, helloSession X c e = some (plaintext, s) ∧
    unrecorded X plaintext = true ∧ v.ratchet = some s.ratchet

/-! ## One envelope -/

namespace SenderView

variable {X : Crates Key} {c : Client Key} {v w : SenderView Key} {e : Envelope}

/-- Views that read alike. -/
def Same (v w : SenderView Key) : Prop := v.ratchet = w.ratchet ∧ v.records = w.records

omit [DecidableEq Key] in
theorem ratchet_store (v : SenderView Key) (d : UInt32) (s : Session Key) :
    (v.store d s).ratchet = if d = 1 then some s.ratchet else v.ratchet := by
  unfold ratchet store
  by_cases hd : d = 1
  · rw [if_pos hd, hd]
    dsimp only
    rw [Function.update_self]
    rfl
  · rw [if_neg hd]
    dsimp only
    rw [Function.update_of_ne (Ne.symm hd)]

omit [DecidableEq Key] in
theorem ratchet_read (v : SenderView Key) (sender : String) (plaintext : Bytes) :
    (v.read X sender plaintext).ratchet = v.ratchet := by
  unfold read
  split <;> rfl

omit [DecidableEq Key] in
theorem records_read (v : SenderView Key) (sender : String) (plaintext : Bytes) :
    (v.read X sender plaintext).records = v.records ↔ unrecorded X plaintext = true := by
  unfold read unrecorded
  split
  · next h => simp [h]
  · next h => simp [h, log]

omit [DecidableEq Key] in
theorem Same.read (h : Same v w) (sender : String) (plaintext : Bytes) :
    Same (v.read X sender plaintext) (w.read X sender plaintext) := by
  obtain ⟨hr, hl⟩ := h
  refine ⟨by rw [ratchet_read, ratchet_read, hr], ?_⟩
  unfold SenderView.read
  split
  · exact hl
  · show v.records ++ _ = w.records ++ _
    rw [hl]

omit [DecidableEq Key] in
theorem Same.store (h : Same v w) (d : UInt32) {s s' : Session Key} (hs : s.ratchet = s'.ratchet) :
    Same (v.store d s) (w.store d s') := by
  refine ⟨?_, h.2⟩
  rw [ratchet_store, ratchet_store, h.1, hs]

omit [DecidableEq Key] in
theorem Same.log (h : Same v w) (sender : String) (entry : Entry) :
    Same (v.log sender entry) (w.log sender entry) := by
  refine ⟨h.1, ?_⟩
  show v.records ++ _ = w.records ++ _
  rw [h.2]

theorem hear_hello (htype : e.msgType = .preKeyBundle) {plaintext : Bytes} {s : Session Key}
    (h : helloSession X c e = some (plaintext, s)) (v : SenderView Key) :
    v.hear X c e = (v.store e.senderDeviceId s).read X e.senderId plaintext := by
  unfold helloSession at h
  obtain ⟨prekey, hdec, h⟩ := Option.bind_eq_some_iff.mp h
  split at h
  · next p s' heq =>
    cases h
    rw [hear_preKeyBundle htype hdec (by rw [heq]), heq]
  · cases h

/-- An envelope leaves views that read alike alike. -/
theorem Same.hear (h : Same v w) (X : Crates Key) (c : Client Key) (e : Envelope) :
    Same (v.hear X c e) (w.hear X c e) := by
  unfold SenderView.hear
  cases e.msgType with
  | preKeyBundle =>
    dsimp only
    cases X.serde.preKeyBundleMessage.decode e.content with
    | none => exact h
    | some prekey =>
      dsimp only
      rcases (Client.responderFor X c e prekey).decrypt X.prims prekey.sessionMessage with
        ⟨_ | plaintext, s⟩
      · exact h
      · exact (h.store _ rfl).read _ _
  | normal =>
    dsimp only
    split
    · exact h.log _ _
    · cases X.serde.sessionMessage.decode e.content with
      | none => exact h
      | some m =>
        dsimp only
        have hr := h.1
        unfold ratchet at hr
        cases hv : v.session 1 with
        | none =>
          rw [hv, Option.map_none, eq_comm, Option.map_eq_none_iff] at hr
          rw [hr]
          exact h
        | some s =>
          rw [hv, Option.map_some, eq_comm, Option.map_eq_some_iff] at hr
          obtain ⟨s', hw, hs⟩ := hr
          rw [hw]
          dsimp only
          have hres : (s'.decrypt X.prims m).1 = (s.decrypt X.prims m).1 := by
            rw [Session.decrypt_result, Session.decrypt_result, hs]
          have hstate : (s.decrypt X.prims m).2.ratchet = (s'.decrypt X.prims m).2.ratchet := by
            rw [Session.decrypt_state, Session.decrypt_state, hs]
          rw [hres]
          cases (s.decrypt X.prims m).1 with
          | error err => exact h.store 1 hstate
          | ok plaintext => exact (h.store 1 hstate).read _ _
  | receipt => exact h
  | typing => exact h

theorem Same.opens (h : Same v w) (e : Envelope) : v.opens X e = w.opens X e := by
  unfold SenderView.opens
  rw [h.1]

/-- What a `Normal` envelope that decodes does to the ratchet, and when it adds a record. -/
theorem hear_normal (htype : e.msgType = .normal) (hne : e.senderId ≠ c.userId)
    {m : SessionMessage Key} (hdec : X.serde.sessionMessage.decode e.content = some m)
    {r : Ratchet Key} (hr : v.ratchet = some r) :
    (v.hear X c e).ratchet = some (r.decryptMessage X.prims (Session.toRatcheted m)).2 ∧
      ((v.hear X c e).records = v.records ↔
        ∀ plaintext, v.opens X e = some plaintext → unrecorded X plaintext = true) := by
  obtain ⟨s, hs, rfl⟩ := Option.map_eq_some_iff.mp hr
  have hopens : v.opens X e = (s.decrypt X.prims m).1.toOption := by
    unfold SenderView.opens
    rw [hdec, Option.bind_some, hr, Option.bind_some]
    rfl
  unfold SenderView.hear
  rw [htype]
  dsimp only
  rw [if_neg hne, hdec]
  dsimp only
  rw [hs, hopens]
  dsimp only
  cases hres : (s.decrypt X.prims m).1 with
  | error err =>
    refine ⟨?_, ?_⟩
    · rw [ratchet_store, if_pos rfl]
      rfl
    · simp [Except.toOption, store]
  | ok plaintext =>
    refine ⟨?_, ?_⟩
    · rw [ratchet_read, ratchet_store, if_pos rfl]
      rfl
    · dsimp only
      rw [show v.records = (v.store 1 (s.decrypt X.prims m).2).records from rfl, records_read]
      simp [Except.toOption]

end SenderView

/-! ## Ratchets of one stream -/

/-- The ratchet that a `PreKeyBundle` message with this base key makes. -/
def startRatchet (X : Crates Key) (c : Client Key) (base : Key) : Ratchet Key :=
  Ratchet.newResponder X.prims (c.signedPreKey.keyPair.agree X.prims base) base
    c.signedPreKey.keyPair

/-- A ratchet after one more message under its header. -/
def advance (X : Crates Key) (r : Ratchet Key) : Ratchet Key := (r.nextRecvKey X.prims).2

/-- Where the session is after the messages: some messages after the latest `PreKeyBundle`,
    or, where there was none, at the header all the messages came under. -/
def Follows (X : Crates Key) (c : Client Key) (es : List Envelope) (r : Ratchet Key) : Prop :=
  (∃ base n, r = (advance X)^[n + 1] (startRatchet X c base)) ∨
    ∀ e ∈ es, e.msgType = .normal ∧ ∃ m, X.serde.sessionMessage.decode e.content = some m ∧
      m.ratchetKey = r.theirRatchetKey

variable {X : Crates Key} {c : Client Key} {v : SenderView Key} {e : Envelope}

omit [DecidableEq Key] in
theorem iterate_advance (r : Ratchet Key) (n : ℕ) :
    ((advance X)^[n] r).theirRatchetKey = r.theirRatchetKey ∧
      ((advance X)^[n] r).rootKey = r.rootKey ∧
      ((advance X)^[n] r).isInitiator = r.isInitiator ∧
      ((advance X)^[n] r).recvChainKey = (nextChainKey X.prims)^[n] r.recvChainKey := by
  induction n with
  | zero => exact ⟨rfl, rfl, rfl, rfl⟩
  | succ n ih =>
    obtain ⟨h₁, h₂, h₃, h₄⟩ := ih
    rw [Function.iterate_succ_apply', Function.iterate_succ_apply', ← h₄]
    exact ⟨h₁, h₂, h₃, rfl⟩

/-- A message under the known header advances the ratchet, read or not. -/
theorem decryptMessage_advance {r : Ratchet Key} {m : SessionMessage Key}
    (h : m.ratchetKey = r.theirRatchetKey) :
    (r.decryptMessage X.prims (Session.toRatcheted m)).2 = advance X r := by
  rw [Ratchet.decryptMessage_same r (Session.toRatcheted m) h]
  rfl

/-- The session of a genuine `PreKeyBundle` message has read one message. -/
theorem helloSession_ratchet {plaintext : Bytes} {s : Session Key}
    (h : helloSession X c e = some (plaintext, s)) {prekey : PreKeyBundleMessage Key}
    (hdec : X.serde.preKeyBundleMessage.decode e.content = some prekey)
    (hkey : prekey.sessionMessage.ratchetKey = prekey.baseKey) :
    s.ratchet = advance X (startRatchet X c prekey.baseKey) := by
  unfold helloSession at h
  rw [hdec, Option.bind_some] at h
  split at h
  · next p s' heq =>
    cases h
    have hs := congrArg (fun x => x.2.ratchet) heq
    rw [← hs]
    show ((Client.responderFor X c e prekey).ratchet.decryptMessage X.prims _).2 = _
    exact decryptMessage_advance hkey
  · cases h

/-- A message that is read keeps the shape. -/
theorem Follows.read {es : List Envelope}
    (h : ∀ r, v.ratchet = some r → Follows X c es r) (hne : e.senderId ≠ c.userId)
    (he : ReadIn X c v e) :
    ∃ r, (v.hear X c e).ratchet = some r ∧ Follows X c (es ++ [e]) r := by
  unfold ReadIn at he
  cases hm : e.msgType with
  | preKeyBundle =>
    rw [hm] at he
    obtain ⟨hdevice, hsome, prekey, hdec, hkey⟩ := he
    obtain ⟨⟨plaintext, s⟩, hs⟩ := Option.isSome_iff_exists.mp hsome
    refine ⟨s.ratchet, ?_, .inl ⟨prekey.baseKey, 0, helloSession_ratchet hs hdec hkey⟩⟩
    rw [SenderView.hear_hello hm hs, SenderView.ratchet_read, SenderView.ratchet_store,
      if_pos hdevice]
  | normal =>
    rw [hm] at he
    obtain ⟨-, m, r, hdec, hr, hkey⟩ := he
    refine ⟨advance X r, ?_, ?_⟩
    · rw [(SenderView.hear_normal hm hne hdec hr).1, decryptMessage_advance hkey]
    · rcases h r hr with ⟨base, n, rfl⟩ | hsame
      · exact .inl ⟨base, n + 1, (Function.iterate_succ_apply' _ _ _).symm⟩
      · right
        intro x hx
        rcases List.mem_append.mp hx with hx | hx
        · exact hsame x hx
        · rw [List.mem_singleton.mp hx]
          exact ⟨hm, m, hdec, hkey⟩
  | receipt =>
    rw [hm] at he
    exact he.elim
  | typing =>
    rw [hm] at he
    exact he.elim

/-! ## Out of step -/

/-- A message sealed for a session at this ratchet. -/
def nextMessage (r : Ratchet Term) (nonce : Nonce) : SessionMessage Term where
  version := 0
  ciphertext := sealed.encode (messageKey symbolic r.recvChainKey, nonce, utf8 "")
  nonce := nonce
  ratchetKey := r.theirRatchetKey
  messageNumber := 0

theorem nextMessage_sealed {X : Crates Term} (hX : X.prims = symbolic) (r : Ratchet Term)
    (nonce : Nonce) :
    Sealed X (nextMessage r nonce) r.theirRatchetKey r.recvChainKey "" := by
  refine ⟨rfl, ?_⟩
  unfold nextMessage
  dsimp only
  rw [hX, decrypt_eq_ok, aeadDecrypt_encode, if_pos ⟨rfl, rfl⟩]

/-- What a view makes of a sealed message. -/
theorem opens_sealed {X : Crates Term} (hX : X.prims = symbolic) {v : SenderView Term}
    {r : Ratchet Term} (hv : v.ratchet = some r) {e : Envelope} {m : SessionMessage Term}
    {header chain : Term} {text : String}
    (hdec : X.serde.sessionMessage.decode e.content = some m) (hm : Sealed X m header chain text) :
    v.opens X e = if (r.receiveHeader symbolic header).recvChainKey = chain then some (utf8 text)
      else none := by
  obtain ⟨s, -, rfl⟩ := Option.map_eq_some_iff.mp hv
  have hres := opens_iff hX hm s
  unfold nextKey at hres
  rw [Session.decrypt_result, hX] at hres
  unfold SenderView.opens
  rw [hdec, Option.bind_some, hv, Option.bind_some, hX, hres]
  split <;> rfl

/-- A ratchet that would use another key under the session's header is out of step. -/
theorem not_stillReads {X : Crates Term} (hX : X.prims = symbolic) {c : Client Term}
    {v w : SenderView Term} {r r' : Ratchet Term} (hw : w.ratchet = some r)
    (hv : v.ratchet = some r')
    (hkey : (r'.receiveHeader symbolic r.theirRatchetKey).recvChainKey ≠ r.recvChainKey) :
    ¬ StillReads X c w v := by
  intro h
  let m := nextMessage r (Vector.replicate 12 0)
  let e := Envelope.new 0 "" "" (X.serde.sessionMessage.encode m) .normal
  have hdec : X.serde.sessionMessage.decode e.content = some m :=
    X.serde.sessionMessage.decode_encode m
  have hm := nextMessage_sealed hX r (Vector.replicate 12 0)
  have hopen : w.opens X e = some (utf8 "") := by
    rw [opens_sealed hX hw hdec hm, Ratchet.receiveHeader_same, if_pos rfl]
  have hread : ReadIn X c w e := ⟨by rw [hopen]; rfl, m, r, hdec, hw, rfl⟩
  have hopen' := h e _ rfl hread hopen
  rw [opens_sealed hX hv hdec hm, if_neg hkey] at hopen'
  cases hopen'

/-- No receiving chain that a `PreKeyBundle` message started is over a root key. -/
theorem recvChainKey_ne {X : Crates Term} (hX : X.prims = symbolic) (c : Client Term)
    (base : Term) (n : ℕ) (x d d' : Term) :
    ((advance X)^[n] (startRatchet X c base)).recvChainKey ≠ .chain (.root x d) d' := by
  intro he
  rw [(iterate_advance _ n).2.2.2, hX] at he
  have hseed := congrArg Term.seed he
  rw [seed_iterate] at hseed
  have hchain : (startRatchet X c base).recvChainKey =
      .chain (c.signedPreKey.keyPair.agree symbolic base) base := by
    unfold startRatchet
    rw [hX]
    rfl
  rw [hchain] at hseed
  exact diffieHellman_ne_root _ _ _ _ (Term.chain.inj hseed).1

section Symbolic

variable {X : Crates Term} {c : Client Term} {es : List Envelope} {r : Ratchet Term}

/-- A ratchet in step that meets an earlier `Normal` message again loses a key. -/
theorem repeated_normal (hX : X.prims = symbolic) (h : Follows X c es r) {e : Envelope}
    (he : e ∈ es) {m : SessionMessage Term}
    (hdec : X.serde.sessionMessage.decode e.content = some m) :
    ((r.decryptMessage X.prims (Session.toRatcheted m)).2.receiveHeader symbolic
      r.theirRatchetKey).recvChainKey ≠ r.recvChainKey := by
  by_cases hkey : m.ratchetKey = r.theirRatchetKey
  · rw [decryptMessage_advance hkey]
    have hsame : (advance X r).receiveHeader symbolic r.theirRatchetKey = advance X r :=
      Ratchet.receiveHeader_same (advance X r)
    rw [hsame]
    intro hchain
    have hnext : nextChainKey symbolic r.recvChainKey = r.recvChainKey := by
      rw [← hX]
      exact hchain
    exact Nat.one_ne_zero ((iterate_inj_iff r.recvChainKey 1 0).mp hnext)
  · rcases h with ⟨base, n, rfl⟩ | hsame
    · -- a message of an earlier session: the DH step starts chains over root keys
      let r := (advance X)^[n + 1] (startRatchet X c base)
      have hrole : r.isInitiator = false := (iterate_advance _ _).2.2.1
      obtain ⟨d, -, hroot⟩ := receiveHeader_recvChainKey_responder hrole hkey
      let r' := (r.decryptMessage symbolic (Session.toRatcheted m)).2
      have hrole' : r'.isInitiator = false := by
        show (r.receiveHeader symbolic m.ratchetKey).isInitiator = false
        rw [Ratchet.receiveHeader_isInitiator, hrole]
      have htheir : r.theirRatchetKey ≠ r'.theirRatchetKey := by
        show _ ≠ (r.receiveHeader symbolic m.ratchetKey).theirRatchetKey
        rw [Ratchet.receiveHeader_theirRatchetKey]
        exact Ne.symm hkey
      obtain ⟨d', hchain, -⟩ := receiveHeader_recvChainKey_responder hrole' htheir
      rw [hX]
      intro hc
      have hroot' : r'.rootKey = .root r.rootKey d := hroot
      rw [hroot'] at hchain
      exact recvChainKey_ne hX c base (n + 1) _ _ _ (hc.symm.trans hchain)
    · obtain ⟨-, m', hdec', hkey'⟩ := hsame e he
      rw [hdec] at hdec'
      cases hdec'
      exact absurd hkey' hkey

/-- A ratchet in step that is replaced by the one of an earlier `PreKeyBundle` message is out
    of step, unless that is where it is. -/
theorem repeated_hello (hX : X.prims = symbolic) (h : Follows X c es r) {e : Envelope}
    (he : e ∈ es) (htype : e.msgType = .preKeyBundle) {base : Term}
    (hne : r ≠ advance X (startRatchet X c base)) :
    ((advance X (startRatchet X c base)).receiveHeader symbolic r.theirRatchetKey).recvChainKey ≠
      r.recvChainKey := by
  rcases h with ⟨b, n, rfl⟩ | hsame
  · have htheir : ((advance X)^[n + 1] (startRatchet X c b)).theirRatchetKey = b :=
      (iterate_advance _ _).1
    rw [htheir]
    by_cases hb : b = base
    · subst hb
      have hsame : (advance X (startRatchet X c b)).receiveHeader symbolic b =
          advance X (startRatchet X c b) :=
        Ratchet.receiveHeader_same (advance X (startRatchet X c b))
      rw [hsame, (iterate_advance _ (n + 1)).2.2.2]
      have hone : (advance X (startRatchet X c b)).recvChainKey =
          (nextChainKey X.prims)^[1] (startRatchet X c b).recvChainKey := rfl
      rw [hone, hX, Ne, iterate_inj_iff]
      rintro hn
      have : n = 0 := by omega
      subst this
      exact hne rfl
    · have hrole : (advance X (startRatchet X c base)).isInitiator = false := rfl
      obtain ⟨d, hchain, -⟩ := receiveHeader_recvChainKey_responder hrole
        (k := b) (fun h => hb h)
      have hroot : (advance X (startRatchet X c base)).rootKey =
          .root (c.signedPreKey.keyPair.agree symbolic base) base := by
        unfold advance startRatchet
        rw [hX]
        rfl
      rw [hchain, hroot]
      exact fun hc => recvChainKey_ne hX c b (n + 1) _ _ _ hc.symm
  · have := (hsame e he).1
    rw [htype] at this
    cases this

end Symbolic

/-! ## Streams -/

section Streams

variable {X : Crates Key} {c : Client Key} {v : SenderView Key}

theorem hearAll_snoc (v : SenderView Key) (es : List Envelope) (e : Envelope) :
    v.hearAll X c (es ++ [e]) = (v.hearAll X c es).hear X c e :=
  List.foldl_append

theorem recorded_snoc (v : SenderView Key) (es : List Envelope) (e : Envelope) :
    v.recorded X c (es ++ [e]) = v.recorded X c es ++
      if ((v.hearAll X c es).hear X c e).records = (v.hearAll X c es).records then [] else [e] := by
  induction es generalizing v with
  | nil => rfl
  | cons x es ih =>
    rw [List.cons_append]
    unfold SenderView.recorded
    rw [ih]
    split
    · rfl
    · rfl

theorem genuine_append {es es' : List Envelope} :
    Genuine X c v (es ++ es') ↔ Genuine X c v es ∧ Genuine X c (v.hearAll X c es) es' := by
  induction es generalizing v with
  | nil => exact ⟨fun h => ⟨trivial, h⟩, fun h => h.2⟩
  | cons e es ih =>
    have hcons : ∀ l, Genuine X c v (e :: l) ↔ ReadIn X c v e ∧ Genuine X c (v.hear X c e) l :=
      fun _ => Iff.rfl
    rw [List.cons_append, hcons, hcons, ih, and_assoc]
    rfl

/-- Every message of a genuine stream is read where it comes. -/
theorem Genuine.readIn {es : List Envelope} (h : Genuine X c v es) {e : Envelope} (he : e ∈ es) :
    ∃ es', ReadIn X c (v.hearAll X c es') e := by
  obtain ⟨es', rest, rfl⟩ := List.append_of_mem he
  exact ⟨es', (genuine_append.mp h).2.1⟩

/-- A genuine stream keeps the session in the shape `Follows`, and makes one. -/
theorem Genuine.follows {es : List Envelope} (h : Genuine X c v es)
    (hne : ∀ e ∈ es, e.senderId ≠ c.userId) :
    (∀ r, (v.hearAll X c es).ratchet = some r → Follows X c es r) ∧
      (es ≠ [] → ∃ r, (v.hearAll X c es).ratchet = some r) := by
  induction es using List.reverseRecOn with
  | nil =>
    refine ⟨fun r _ => .inr fun e he => ?_, fun h => absurd rfl h⟩
    cases he
  | append_singleton es e ih =>
    obtain ⟨hes, he, -⟩ := genuine_append.mp h
    obtain ⟨r, hr, hf⟩ := Follows.read (ih hes fun x hx => hne x (List.mem_append_left _ hx)).1
      (hne e (List.mem_append_right _ List.mem_cons_self)) he
    rw [hearAll_snoc, hr]
    refine ⟨fun r' hr' => ?_, fun _ => ⟨r, rfl⟩⟩
    cases hr'
    exact hf

/-- What the deliveries so far amount to while all repeats are harmless. -/
structure Settled (X : Crates Key) (c : Client Key) (v : SenderView Key) (es : List Envelope) :
    Prop where
  same : (v.hearAll X c es).Same (v.hearAll X c (Batch.firsts es))
  nodup : (v.recorded X c es).Nodup
  mem : ∀ e ∈ v.recorded X c es, e ∈ es

/-- Every repeat so far was harmless. -/
def RepeatsHarmless (X : Crates Key) (c : Client Key) (v : SenderView Key) (es : List Envelope) :
    Prop :=
  ∀ before e later, es = before ++ e :: later → e ∈ before →
    Harmless X c (v.hearAll X c before) e

theorem RepeatsHarmless.front {es es' : List Envelope} (h : RepeatsHarmless X c v es)
    (hp : es' <+: es) : RepeatsHarmless X c v es' := by
  obtain ⟨t, rfl⟩ := hp
  rintro before e later rfl hmem
  exact h before e (later ++ t) (by simp) hmem

/-- A harmless repeat adds no record and leaves the ratchet as it is. -/
theorem Harmless.hear {e : Envelope} (h : Harmless X c v e) (hdevice : e.senderDeviceId = 1) :
    (v.hear X c e).records = v.records ∧ (v.hear X c e).ratchet = v.ratchet := by
  obtain ⟨htype, plaintext, s, hs, hquiet, hratchet⟩ := h
  rw [SenderView.hear_hello htype hs, SenderView.ratchet_read, SenderView.ratchet_store,
    if_pos hdevice, hratchet]
  exact ⟨(SenderView.records_read (v.store e.senderDeviceId s) _ _).mpr hquiet, rfl⟩

theorem ReadIn.device {e : Envelope} (h : ReadIn X c v e) (htype : e.msgType = .preKeyBundle) :
    e.senderDeviceId = 1 := by
  unfold ReadIn at h
  rw [htype] at h
  exact h.1

theorem settled (v : SenderView Key) {es : List Envelope}
    (hgen : Genuine X c v (Batch.firsts es)) (hharm : RepeatsHarmless X c v es) :
    Settled X c v es := by
  induction es using List.reverseRecOn with
  | nil => exact ⟨⟨rfl, rfl⟩, .nil, fun e he => by cases he⟩
  | append_singleton es e ih =>
    obtain ⟨t, ht⟩ := Batch.firsts_append es [e]
    have hgen' : Genuine X c v (Batch.firsts es) := by
      rw [← ht] at hgen
      exact (genuine_append.mp hgen).1
    obtain ⟨hsame, hnodup, hmem⟩ := ih hgen' (hharm.front (List.prefix_append _ _))
    by_cases he : e ∈ es
    · have hharmless := hharm es e [] rfl he
      obtain ⟨es', hread⟩ := hgen'.readIn (Batch.mem_firsts.mpr he)
      obtain ⟨hrecords, hratchet⟩ := hharmless.hear (hread.device hharmless.1)
      refine ⟨?_, ?_, ?_⟩
      · rw [hearAll_snoc, Batch.firsts_snoc, if_pos (Batch.mem_firsts.mpr he)]
        exact ⟨hratchet.trans hsame.1, hrecords.trans hsame.2⟩
      · rw [recorded_snoc, if_pos hrecords, List.append_nil]
        exact hnodup
      · rw [recorded_snoc, if_pos hrecords, List.append_nil]
        exact fun x hx => List.mem_append_left _ (hmem x hx)
    · refine ⟨?_, ?_, ?_⟩
      · rw [hearAll_snoc, Batch.firsts_snoc, if_neg fun h => he (Batch.mem_firsts.mp h),
          hearAll_snoc]
        exact hsame.hear X c e
      · rw [recorded_snoc]
        split
        · rw [List.append_nil]
          exact hnodup
        · rw [List.nodup_append]
          refine ⟨hnodup, List.nodup_singleton e, ?_⟩
          rintro x hx y hy rfl
          rw [List.mem_singleton] at hy
          exact he (hy ▸ hmem x hx)
      · rw [recorded_snoc]
        intro x hx
        rcases List.mem_append.mp hx with hx | hx
        · exact List.mem_append_left _ (hmem x hx)
        · split at hx
          · cases hx
          · exact List.mem_append_right _ hx

/-- A `PreKeyBundle` message that leaves a record leaves one whenever it is delivered. -/
theorem mem_recorded {e : Envelope} (htype : e.msgType = .preKeyBundle) {plaintext : Bytes}
    {s : Session Key} (hs : helloSession X c e = some (plaintext, s))
    (hloud : ¬ unrecorded X plaintext = true) (v : SenderView Key) :
    (v.hear X c e).records ≠ v.records := by
  rw [SenderView.hear_hello htype hs]
  exact fun h => hloud ((SenderView.records_read (v.store e.senderDeviceId s) _ _).mp h)

theorem mem_recorded_of_mem {e : Envelope} {es : List Envelope} (he : e ∈ es)
    (hloud : ∀ w : SenderView Key, (w.hear X c e).records ≠ w.records) :
    e ∈ v.recorded X c es := by
  induction es generalizing v with
  | nil => cases he
  | cons x es ih =>
    unfold SenderView.recorded
    rcases List.mem_cons.mp he with rfl | he
    · rw [if_neg (hloud v)]
      exact List.mem_cons_self
    · split
      · exact ih he
      · exact List.mem_cons_of_mem _ (ih he)

end Streams

/-- **A repeat that is not harmless is seen at once**: a message is recorded twice, or the
    session is out of step. -/
theorem harmless_of_inStep {X : Crates Term} (hX : X.prims = symbolic) {c : Client Term}
    {v : SenderView Term} {es : List Envelope} {e : Envelope}
    (hne : ∀ x ∈ es, x.senderId ≠ c.userId) (hgen : Genuine X c v (Batch.firsts es))
    (hset : Settled X c v es) (he : e ∈ es)
    (hnodup : (v.recorded X c (es ++ [e])).Nodup)
    (hstill : StillReads X c (v.hearAll X c (Batch.firsts (es ++ [e])))
      (v.hearAll X c (es ++ [e]))) :
    Harmless X c (v.hearAll X c es) e := by
  have hfirst := Batch.mem_firsts.mpr he
  rw [Batch.firsts_snoc, if_pos hfirst, hearAll_snoc] at hstill
  obtain ⟨hfollows, hsome⟩ := hgen.follows fun x hx => hne x (Batch.mem_firsts.mp hx)
  obtain ⟨r, hr⟩ := hsome (List.ne_nil_of_mem hfirst)
  obtain ⟨hsame, -⟩ := hset.same
  obtain ⟨es', hread⟩ := hgen.readIn hfirst
  unfold ReadIn at hread
  cases htype : e.msgType with
  | preKeyBundle =>
    rw [htype] at hread
    obtain ⟨hdevice, hopens, prekey, hdec, hkey⟩ := hread
    obtain ⟨⟨plaintext, s⟩, hs⟩ := Option.isSome_iff_exists.mp hopens
    have hquiet : unrecorded X plaintext = true := by
      by_contra hloud
      have hrec := mem_recorded_of_mem (v := v) he (mem_recorded htype hs hloud)
      rw [recorded_snoc, if_neg (mem_recorded htype hs hloud _), List.nodup_append] at hnodup
      exact hnodup.2.2 e hrec e (List.mem_singleton.mpr rfl) rfl
    refine ⟨htype, plaintext, s, hs, hquiet, ?_⟩
    rw [hsame, hr]
    by_contra hother
    have hratchet : ((v.hearAll X c es).hear X c e).ratchet = some s.ratchet := by
      rw [SenderView.hear_hello htype hs, SenderView.ratchet_read, SenderView.ratchet_store,
        if_pos hdevice]
    have hs' := helloSession_ratchet hs hdec hkey
    refine not_stillReads hX hr hratchet ?_ hstill
    rw [hs']
    exact repeated_hello hX (hfollows r hr) hfirst htype fun h => hother (by rw [h, hs'])
  | normal =>
    rw [htype] at hread
    obtain ⟨-, m, -, hdec, -, -⟩ := hread
    have hratchet := (SenderView.hear_normal htype (hne e he) hdec (hsame.trans hr)).1
    exact absurd hstill (not_stillReads hX hr hratchet
      (repeated_normal hX (hfollows r hr) hfirst hdec))
  | receipt =>
    rw [htype] at hread
    exact hread.elim
  | typing =>
    rw [htype] at hread
    exact hread.elim

/-! ## Batches -/

section Batches

variable {X : Crates Key} {peer : String}

/-- Receipts have no effect on the view. -/
theorem hearAll_filter (c : Client Key) (v : SenderView Key) (es : List Envelope) :
    (es.filter (·.senderId = peer)).foldl (SenderView.hear X c) v =
      v.hearAll X c (es.filter (isFrom peer)) := by
  induction es generalizing v with
  | nil => rfl
  | cons e es ih =>
    unfold isFrom at ih ⊢
    by_cases hs : e.senderId = peer
    · rw [List.filter_cons_of_pos (by simpa using hs), List.foldl_cons, ih]
      cases hm : e.msgType with
      | normal => simp [hs, hm, MessageType.isChat, SenderView.hearAll]
      | preKeyBundle => simp [hs, hm, MessageType.isChat, SenderView.hearAll]
      | receipt => simp [hs, hm, MessageType.isChat, SenderView.hear]
      | typing => simp [hs, hm, MessageType.isChat, SenderView.hear]
    · rw [List.filter_cons_of_neg (by simpa using hs), ih]
      simp [hs]

theorem afterBatch_view {c₀ c : Client Key} (h : Client.SameKeys c₀ c) (io : ReceiveInput Key)
    (batch : List Envelope) (peer : String) :
    Client.SameKeys c₀ (c.afterBatch X io batch) ∧
      (c.afterBatch X io batch).view peer =
        (c.view peer).hearAll X c₀ ((c.reads X io batch).filter (isFrom peer)) := by
  have hlocal := Client.receive_local (X := X) io c₀ peer
  unfold Client.afterBatch Client.receiveMessages
  dsimp only
  rw [Client.receiveLoop_client]
  exact ⟨hlocal.run_good h 0 batch, (hlocal.view_run h 0 batch).trans (hearAll_filter _ _ _)⟩

/-- **After any batches the client has of the peer what the envelopes it got to have done.** -/
theorem afterAll_view {c₀ c : Client Key} (h : Client.SameKeys c₀ c) (ds : List (Delivery Key)) :
    (c.afterAll X ds).view peer = (c.view peer).hearAll X c₀ (c.seen X peer ds) := by
  induction ds generalizing c with
  | nil => rfl
  | cons d ds ih =>
    obtain ⟨hkeys, hview⟩ := afterBatch_view (X := X) h d.1 d.2 peer
    unfold Client.seen
    refine (ih hkeys).trans ?_
    rw [hview]
    exact List.foldl_append.symm

theorem isFrom_of_mem_seen {c : Client Key} {ds : List (Delivery Key)} {e : Envelope}
    (he : e ∈ c.seen X peer ds) : e.senderId = peer := by
  induction ds generalizing c with
  | nil => cases he
  | cons d ds ih =>
    rcases List.mem_append.mp he with he | he
    · have := (List.mem_filter.mp he).2
      unfold isFrom at this
      simp only [Bool.and_eq_true, decide_eq_true_eq] at this
      exact this.1
    · exact ih he

theorem seen_cons (c : Client Key) (d : Delivery Key) (ds : List (Delivery Key)) :
    c.seen X peer (d :: ds) = (c.reads X d.1 d.2).filter (isFrom peer) ++
      (c.afterBatch X d.1 d.2).seen X peer ds := rfl

theorem seen_append (c : Client Key) (ds ds' : List (Delivery Key)) :
    c.seen X peer (ds ++ ds') = c.seen X peer ds ++ (c.afterAll X ds).seen X peer ds' := by
  induction ds generalizing c with
  | nil => rfl
  | cons d ds ih =>
    rw [List.cons_append, seen_cons, seen_cons, ih, List.append_assoc]
    rfl

theorem seen_cut (c : Client Key) (before : List (Delivery Key)) (io : ReceiveInput Key)
    (batch : List Envelope) (k : ℕ) :
    c.seen X peer (before ++ [(io, batch.take k)]) = c.seen X peer before ++
      (((c.afterAll X before).reads X io batch).take k).filter (isFrom peer) := by
  rw [seen_append]
  unfold Client.seen Client.seen Client.reads
  rw [Batch.reached_take, List.append_nil]

/-- What is seen up to a cut is the front of what is seen. -/
theorem seen_front_of_cut {ds' ds : List (Delivery Key)} (h : Cut ds' ds) (c : Client Key) :
    c.seen X peer ds' <+: c.seen X peer ds := by
  obtain ⟨before, io, batch, k, later⟩ := h
  rw [seen_cut, seen_append]
  refine (List.prefix_append_right_inj _).mpr ?_
  unfold Client.seen
  exact ((List.take_prefix k _).filter _).trans (List.prefix_append _ _)

/-- Each envelope seen is the last one at some cut. -/
theorem exists_cut {ds : List (Delivery Key)} {c : Client Key} {es later : List Envelope}
    {e : Envelope} (h : c.seen X peer ds = es ++ e :: later) :
    ∃ ds', Cut ds' ds ∧ c.seen X peer ds' = es ++ [e] := by
  induction ds generalizing c es with
  | nil =>
    have := congrArg List.length h
    simp [Client.seen] at this
  | cons d ds ih =>
    unfold Client.seen at h
    rcases List.append_eq_append_iff.mp h with ⟨l, hl, hrest⟩ | ⟨l, hl, hrest⟩
    · obtain ⟨ds', hcut, hseen⟩ := ih hrest
      obtain ⟨before, io, batch, k, rest⟩ := hcut
      refine ⟨d :: (before ++ [(io, batch.take k)]), .mk (d :: before) io batch k rest, ?_⟩
      unfold Client.seen
      rw [hseen, hl, List.append_assoc]
    · cases l with
      | nil =>
        have hrest' : _ = [] ++ e :: later := hrest.symm
        obtain ⟨ds', hcut, hseen⟩ := ih hrest'
        obtain ⟨before, io, batch, k, rest⟩ := hcut
        refine ⟨d :: (before ++ [(io, batch.take k)]), .mk (d :: before) io batch k rest, ?_⟩
        unfold Client.seen
        rw [hseen, hl, List.append_nil, List.nil_append]
      | cons x l =>
        injection hrest with hx hl'
        subst hx
        obtain ⟨l₁, l₂, hreads, hl₁, hl₂⟩ := List.filter_eq_append_iff.mp hl
        obtain ⟨l₃, l₄, rfl, hl₃, hx, -⟩ := List.filter_eq_cons_iff.mp hl₂
        refine ⟨[] ++ [(d.1, d.2.take (l₁ ++ l₃ ++ [e]).length)], .mk [] d.1 d.2 _ ds, ?_⟩
        have hfront : (c.reads X d.1 d.2).take (l₁ ++ l₃ ++ [e]).length = l₁ ++ l₃ ++ [e] := by
          rw [hreads]
          have : l₁ ++ (l₃ ++ e :: l₄) = (l₁ ++ l₃ ++ [e]) ++ l₄ := by simp
          rw [this, List.take_left]
        rw [seen_cut]
        show [] ++ ((c.reads X d.1 d.2).take _).filter _ = _
        rw [hfront, List.nil_append, List.filter_append, List.filter_append, hl₁]
        have hnone : l₃.filter (isFrom peer) = [] :=
          List.filter_eq_nil_iff.mpr fun a ha => by simpa using hl₃ a ha
        rw [hnone, List.append_nil, List.filter_cons_of_pos hx, List.filter_nil]

end Batches

/-- **At most once, and in step.** Over any batches, with a genuine stream of the peer and any
    repeats of it: at every moment each message has been recorded at most once and the session
    still reads the peer's next one, exactly if every repeat is harmless. -/
theorem at_most_once_iff {X : Crates Term} (hX : X.prims = symbolic) (c : Client Term)
    {peer : String} (hpeer : peer ≠ c.userId) (ds : List (Delivery Term))
    (hgen : Genuine X c (c.view peer) (Batch.firsts (c.seen X peer ds))) :
    (∀ ds', Cut ds' ds → c.InStep X peer ds') ↔
      RepeatsHarmless X c (c.view peer) (c.seen X peer ds) := by
  have hkeys : Client.SameKeys c c := ⟨rfl, rfl, rfl⟩
  have hgen' : ∀ es, es <+: c.seen X peer ds → Genuine X c (c.view peer) (Batch.firsts es) := by
    rintro es ⟨t, ht⟩
    rw [← ht] at hgen
    obtain ⟨t', ht'⟩ := Batch.firsts_append es t
    rw [← ht'] at hgen
    exact (genuine_append.mp hgen).1
  have hne : ∀ e ∈ c.seen X peer ds, e.senderId ≠ c.userId := by
    intro e he
    rw [isFrom_of_mem_seen he]
    exact hpeer
  constructor
  · intro hall
    -- by induction on the front of the stream: the repeats before are harmless, so the
    -- session is in step when the next one comes
    have hfront : ∀ es, es <+: c.seen X peer ds → RepeatsHarmless X c (c.view peer) es := by
      intro es
      induction es using List.reverseRecOn with
      | nil =>
        intro _ before e later h _
        exact absurd h (by simp)
      | append_singleton es x ih =>
        intro hp
        have hp' := (List.prefix_append es [x]).trans hp
        have hharm := ih hp'
        intro before e later hsplit he
        rcases List.eq_nil_or_concat later with rfl | ⟨later', y, rfl⟩
        · obtain ⟨rfl, hx⟩ := List.append_inj' hsplit rfl
          cases hx
          obtain ⟨t, ht⟩ := hp
          have hlater : c.seen X peer ds = es ++ x :: t := by
            rw [← ht, List.append_assoc]
            rfl
          obtain ⟨ds', hcut, hseen⟩ := exists_cut hlater
          obtain ⟨hnodup, hstill⟩ := hall ds' hcut
          rw [hseen] at hnodup
          rw [afterAll_view hkeys, hseen] at hstill
          exact harmless_of_inStep hX (fun z hz => hne z (hp'.subset hz)) (hgen' _ hp')
            (settled _ (hgen' _ hp') hharm) he hnodup hstill
        · refine hharm before e later' ?_ he
          have : es ++ [x] = (before ++ e :: later') ++ [y] := by
            rw [hsplit]
            simp
          exact (List.append_inj' this rfl).1
    exact hfront _ List.prefix_rfl
  · intro hharm ds' hcut
    have hp : c.seen X peer ds' <+: c.seen X peer ds := seen_front_of_cut hcut c
    obtain ⟨hsame, hnodup, -⟩ := settled (c.view peer) (hgen' _ hp) (hharm.front hp)
    refine ⟨hnodup, ?_⟩
    intro e plaintext _ _ hopens
    rw [afterAll_view hkeys, hsame.opens]
    exact hopens

/-! ### A first message, once and twice -/

theorem hello_entry : entryOf plainCrates (utf8 "hello") = .direct "hello" := by
  show Entry.direct (fromUtf8Lossy (utf8 "hello")) = _
  rw [fromUtf8Lossy_utf8]

/-- Alice's first message to Bob. -/
theorem fresh_hello : ∃ alice' e prekey,
    (freshPeers.client .alice).sendMessage plainCrates (freshSendInput 4)
        (some (freshPeers.client .bob).register) .accepted "bob" "hello" =
      (.ok (), alice', some e) ∧ e.senderId = "alice" ∧ e.senderDeviceId = 1 ∧
    e.msgType = .preKeyBundle ∧
    plainCrates.serde.preKeyBundleMessage.decode e.content = some prekey ∧
    prekey.sessionMessage.ratchetKey = prekey.baseKey ∧
    ((Client.responderFor plainCrates (freshPeers.client .bob) e prekey).decrypt symbolic
      prekey.sessionMessage).1 = .ok (utf8 "hello") :=
  first_message_opens (X := plainCrates) symbolic_lawful (by decide) rfl
    (SignedPreKey.generate_wellFormed ..) (freshSendInput 4) "hello"

theorem at_most_once_hello : ∃ e : Envelope, e.senderId = "alice" ∧
    ∀ ds', Cut ds' [(freshReceiveInput, [e])] →
      (freshPeers.client .bob).InStep plainCrates "alice" ds' := by
  obtain ⟨-, e, prekey, -, hsender, hdevice, htype, hdec, hkey, hok⟩ := fresh_hello
  refine ⟨e, hsender, ?_⟩
  have hseen : (freshPeers.client .bob).seen plainCrates "alice" [(freshReceiveInput, [e])] = [e] := by
    rw [seen_cons, Client.reads_singleton]
    simp [isFrom, hsender, htype, MessageType.isChat, Client.seen]
  have hsession : (helloSession plainCrates (freshPeers.client .bob) e).isSome := by
    unfold helloSession
    rw [hdec, Option.bind_some, ← Prod.mk.eta (p := (Client.responderFor plainCrates
      (freshPeers.client .bob) e prekey).decrypt _ _)]
    have hok' := hok
    rw [show symbolic = plainCrates.prims from rfl] at hok'
    rw [hok']
    rfl
  have hpeer : "alice" ≠ (freshPeers.client .bob).userId := by decide
  refine (at_most_once_iff (X := plainCrates) rfl (freshPeers.client .bob) hpeer
    [(freshReceiveInput, [e])] ?_).mpr ?_
  · rw [hseen]
    refine ⟨?_, trivial⟩
    unfold ReadIn
    rw [htype]
    exact ⟨hdevice, hsession, prekey, hdec, hkey⟩
  · rw [hseen]
    intro before x later hsplit hmem
    have hlen := congrArg List.length hsplit
    have hpos := List.length_pos_of_mem hmem
    simp at hlen
    omega

/-- Delivered twice, Alice's first message is recorded twice. -/
theorem hello_recorded_twice : ∃ alice' e,
    (freshPeers.client .alice).sendMessage plainCrates (freshSendInput 4)
        (some (freshPeers.client .bob).register) .accepted "bob" "hello" =
      (.ok (), alice', some e) ∧
    ((((freshPeers.client .bob).afterAll plainCrates
      [(freshReceiveInput, [e]), (freshReceiveInput, [e])]).view "alice").records.map (·.text) =
        ["hello", "hello"]) := by
  obtain ⟨alice', e, prekey, hsend, hsender, -, htype, hdec, -, hok⟩ := fresh_hello
  refine ⟨alice', e, hsend, ?_⟩
  have hkeys : Client.SameKeys (freshPeers.client .bob) (freshPeers.client .bob) := ⟨rfl, rfl, rfl⟩
  have hseen : (freshPeers.client .bob).seen plainCrates "alice"
      [(freshReceiveInput, [e]), (freshReceiveInput, [e])] = [e, e] := by
    rw [seen_cons, seen_cons, Client.reads_singleton, Client.reads_singleton]
    simp [isFrom, hsender, htype, MessageType.isChat, Client.seen]
  rw [afterAll_view hkeys, hseen]
  unfold SenderView.hearAll
  rw [List.foldl_cons, List.foldl_cons, List.foldl_nil,
    SenderView.hear_preKeyBundle htype hdec hok, SenderView.hear_preKeyBundle htype hdec hok]
  unfold SenderView.read
  rw [hello_entry]
  rfl

end TinTin.Cli
