/-
  Two first messages that cross.

  With symbolic keys a message opens exactly with the chain key it was sealed with. A crossed
  client sends with the unused chain of its responder session; the other client's responder
  session reads with a derived chain, whether or not its DH step fires.

  * `opens_iff`: when a session reads a sealed message.
  * `receive_rejected`: what a client does with one it cannot read.
  * `crossed_send_lost`: what a crossed client sends is never recorded, so the condition of
    `delivered_in_order` leaves no send out that would be delivered.
-/
import TinTin.Cli.Delivery

namespace TinTin.Cli

open TinTin.Lib TinTin.Core TinTin.Server TinTin.Symbolic

variable {X : Crates Term}

/-! ## Readable messages -/

/-- The chain key with which a session would open a message under this header. -/
def nextKey {Key : Type} [DecidableEq Key] (P : Primitives Key) (ses : Session Key)
    (header : Key) : Key :=
  (ses.ratchet.receiveHeader P header).recvChainKey

/-- **A message opens exactly with the chain key it was sealed with.** -/
theorem opens_iff (hX : X.prims = symbolic) {m : SessionMessage Term} {header chain : Term}
    {text : String} (hm : Sealed X m header chain text) (ses : Session Term) :
    (ses.decrypt X.prims m).1 =
      if nextKey X.prims ses header = chain then .ok (utf8 text)
      else .error (.decryptionFailed aeadErrorText) := by
  obtain ⟨hkey, hdec⟩ := hm
  have hres : (ses.decrypt X.prims m).1 =
      decrypt X.prims m.ciphertext (messageKey X.prims (nextKey X.prims ses header)) m.nonce := by
    rw [Session.decrypt_result, Ratchet.decryptMessage_result, ← hkey]
    rfl
  rw [hres]
  by_cases h : nextKey X.prims ses header = chain
  · rw [if_pos h, h, hdec]
  · rw [if_neg h]
    rw [hX] at hdec h ⊢
    exact decrypt_other_key hdec (fun he => h (messageKey_injective he))

/-- The key at hand moves on by one with every message under the header, read or not. -/
theorem nextKey_decrypt {Key : Type} [DecidableEq Key] (P : Primitives Key) (ses : Session Key)
    (m : SessionMessage Key) :
    nextKey P (ses.decrypt P m).2 m.ratchetKey = nextChainKey P (nextKey P ses m.ratchetKey) := by
  have htheir := Ratchet.receiveHeader_theirRatchetKey (P := P) ses.ratchet m.ratchetKey
  unfold nextKey
  rw [Session.decrypt_state, Ratchet.decryptMessage_state, Ratchet.nextRecvKey_state]
  dsimp only [Session.toRatcheted]
  rw [Ratchet.receiveHeader, if_neg (not_not.mpr htheir.symm)]

/-- A message that is not sealed with the key at hand is skipped. -/
theorem receive_rejected (hX : X.prims = symbolic) {c : Client Term} {e : Envelope}
    {m : SessionMessage Term} {header chain : Term} {text : String}
    (htype : e.msgType = .normal) (hne : e.senderId ≠ c.userId)
    (hdec : X.serde.sessionMessage.decode e.content = some m) (hm : Sealed X m header chain text)
    (hses : ∀ ses, c.sessions.get e.senderId 1 = some ses →
      nextKey X.prims ses header ≠ chain) :
    ∃ c', (∀ io i, c.receiveEnvelope X io i e = (.ok (), c', [])) ∧ Client.SameKeys c c' ∧
      c'.chatLog = c.chatLog ∧ c'.sessions.get e.senderId 1 =
        (c.sessions.get e.senderId 1).map fun ses => (ses.decrypt X.prims m).2 := by
  cases hs : c.sessions.get e.senderId 1 with
  | none => exact ⟨c, Client.receive_noSession htype hne hs, ⟨rfl, rfl, rfl⟩, rfl, hs⟩
  | some ses =>
    let c' : Client Term := { c with sessions := c.sessions.update e.senderId 1 fun s =>
      (s.decrypt X.prims m).2 }
    refine ⟨c', fun io i => ?_, ⟨rfl, rfl, rfl⟩, rfl, ?_⟩
    · rw [Client.receive_normal htype hne hdec hs, opens_iff hX hm, if_neg (hses ses hs)]
    · rw [← hs]
      exact SessionStore.get_update_self _ _ _ _ (fun s => by simp)

/-! ## Batches -/

/-- A batch that is read, and then one more envelope. -/
theorem receiveLoop_snoc {Key : Type} [DecidableEq Key] {X : Crates Key} {io : ReceiveInput Key}
    {i : ℕ} {c c₁ c₂ : Client Key} {es : List Envelope} {e : Envelope}
    {posted posted' : List Envelope}
    (h : Client.receiveLoop X io i c (es.map some) = (.ok (), c₁, posted))
    (he : ∀ j, c₁.receiveEnvelope X io j e = (.ok (), c₂, posted')) :
    Client.receiveLoop X io i c ((es ++ [e]).map some) = (.ok (), c₂, posted ++ posted') := by
  induction es generalizing i c posted with
  | nil =>
    cases h
    rw [List.nil_append, List.map_cons, List.map_nil, Client.receiveLoop, he]
    simp [Client.receiveLoop]
  | cons x es ih =>
    rw [List.cons_append, List.map_cons, Client.receiveLoop]
    rw [List.map_cons, Client.receiveLoop] at h
    generalize c.receiveEnvelope X io i x = r at *
    obtain ⟨res, c', p₁⟩ := r
    cases res with
    | error err => cases h
    | ok v =>
      dsimp only at h ⊢
      generalize hr : Client.receiveLoop X io (i + 1) c' (es.map some) = r' at h
      obtain ⟨res', c'', p₂⟩ := r'
      cases h
      rw [ih hr, List.append_assoc]

variable {u : Peers X} {w : World Term} {s : Handshake.State Term}

/-- The peer reads what waited for it, and then meets a message of `p` that it cannot read. -/
theorem receive_lost (hX : X.prims = symbolic) (h : Refines u w s) {p : Party} {c : Client Term}
    (hc : Client.SameKeys (w.client p) c) {e : Envelope} {m : SessionMessage Term}
    {header chain : Term} {text : String} (hrecipient : e.recipientId = w.userId p.peer)
    (hsender : e.senderId = w.userId p) (htype : e.msgType = .normal)
    (hdec : X.serde.sessionMessage.decode e.content = some m) (hm : Sealed X m header chain text)
    {o : Option (Handshake.Half Term)}
    (hh : Path (Handshake.Hears u.scheme p.peer) (s.half p.peer) (s.waiting p.peer) o)
    (hlost : ∀ ses, o = some (halfOf ses) → nextKey X.prims ses header ≠ chain)
    (clock : ℕ → UInt64) (io : ReceiveInput Term) :
    ((w.put p c (w.relay.post e)).receive X p.peer clock io).incoming p.peer =
        w.incoming p.peer ++ (s.waiting p.peer).map Handshake.Message.text ∧
      ((w.put p c (w.relay.post e)).receive X p.peer clock io).chat p.peer = [] ∧
      ((w.put p c (w.relay.post e)).receive X p.peer clock io).chat p = w.chat p := by
  have hpp : u.userId p = u.userId p.peer.peer := by rw [Party.peer_peer]
  have hho := h.half p.peer
  rw [World.session, h.userId, ← hpp] at hho
  rw [hpp] at hho
  have hloop := receiveLoop_hears (h.keys p.peer) (h.waiting p.peer) hho hh io 0
  set w₁ := w.put p c (w.relay.post e) with hw₁
  have hqueue : w₁.relay (w₁.userId p.peer) = w.relay (w.userId p.peer) ++ [e] := by
    rw [hw₁, World.put_userId hc]
    show w.relay.post e _ = _
    rw [Relay.post_apply, if_pos hrecipient]
  generalize hr : Client.receiveLoop X io 0 (w.client p.peer)
    ((w.relay (w.userId p.peer)).map some) = r at hloop
  obtain ⟨res, c₁, posted⟩ := r
  obtain ⟨hok, hk, hhalf, hinc, hpost⟩ := hloop
  dsimp only at hok hk hhalf hinc hpost
  subst hok
  obtain ⟨c₂, hc₂, hk₂, hlog, -⟩ := receive_rejected hX (c := c₁) htype
    (by
      rw [hsender, h.userId, hpp, hk.userId, (h.keys p.peer).userId]
      exact u.userId_peer_ne p.peer) hdec hm
    (fun ses hses => hlost ses (by
      rw [hsender, h.userId, hpp] at hses
      rw [← hhalf, hses, Option.map_some]))
  have hall := receiveLoop_snoc hr (fun j => hc₂ io j)
  have hk₁₂ : Client.SameKeys (w₁.client p.peer) c₂ := by
    rw [hw₁, World.put_client_peer]
    exact hk.trans hk₂
  have hreceive : w₁.receive X p.peer clock io =
      w₁.put p.peer c₂ (posted.foldl Relay.post
        (w₁.relay.fetch X.serde.toRelaySerde (w₁.userId p.peer) clock).2) := by
    unfold World.receive Client.receiveMessages
    dsimp only [Relay.fetch]
    rw [hqueue, hw₁, World.put_client_peer, hall, List.append_nil]
  rw [hreceive]
  refine ⟨?_, ?_, ?_⟩
  · rw [World.put_incoming_self hk₁₂, hw₁, World.put_userId hc, Client.incoming, hlog]
    show c₁.incoming _ = _
    rw [h.userId, hinc, World.incoming, h.userId]
  · rw [World.put_chat hk₁₂, chat_posts hpost, chat_fetch, if_pos rfl]
  · have hne : w.userId p.peer ≠ w.userId p := by
      rw [h.userId, h.userId]
      exact u.userId_peer_ne p
    rw [World.put_chat hk₁₂, chat_posts hpost, chat_fetch, hw₁, World.put_userId hc,
      World.put_userId hc, if_neg hne.symm]
    show ((w.relay.post e) _).filter _ = _
    rw [chat_post, hrecipient, if_neg (fun h => hne h.1), List.append_nil]
    rfl

/-! ## Crossed clients -/

/-- The unused chain and the derived ones, by the term under their steps. -/
def symbolicKinds (hX : X.prims = symbolic) (u : Peers X) : Handshake.Kinds u.scheme where
  unused k := k.seed = .zero
  derived k := k.seed ≠ .zero
  zero := by
    show X.prims.zeroKey.seed = .zero
    rw [hX]
    rfl
  chain p base := by
    show Term.seed (deriveChainKeys X.prims _ base).2 ≠ .zero
    rw [hX]
    exact fun h => by cases h
  next_unused k h := by
    show (nextChainKey X.prims k).seed = .zero
    rw [hX]
    exact h
  next_derived k h := by
    show (nextChainKey X.prims k).seed ≠ .zero
    rw [hX]
    exact h

/-- A responder half reads with derived chain keys, whatever the header. -/
theorem nextKey_derived (hX : X.prims = symbolic) {ses : Session Term}
    (h : (halfOf ses).view.2.seed ≠ .zero) (header : Term) :
    (nextKey X.prims ses header).seed ≠ .zero := by
  unfold nextKey
  rw [hX]
  exact receiveHeader_seed h header

/-- **What a crossed client sends is lost.** After any run in which no crossed client sent, the
    text is not recorded when the other client has read its queue: it has then recorded
    exactly what was sent before. -/
theorem crossed_send_lost (hX : X.prims = symbolic) (u : Peers X) (steps : List (WorldStep Term))
    (hplain : ∀ p, ∀ text ∈ textsBy p steps, Client.Plain X text)
    (hcross : (World.start u).NeverCrossed X steps) (p : Party)
    (hp : ((World.start u).run X steps).Crossed p) (text : String) (io : SendInput Term)
    (clock : ℕ → UInt64) (io' : ReceiveInput Term) :
    let w := (World.start u).run X (steps ++ [.send p text io, .receive p.peer clock io'])
    w.incoming p.peer = (World.start u).incoming p.peer ++ textsBy p steps ∧
      w.chat p.peer = [] ∧ w.chat p = ((World.start u).run X steps).chat p := by
  intro w
  have hP : X.prims.Lawful := lawful_of_eq hX
  obtain ⟨s, href, hreach, hsaid⟩ := run_refines hP u steps hplain hcross
  have hw : w = (((World.start u).run X steps).send X p text io).receive X p.peer clock io' := by
    show World.run X _ _ = _
    unfold World.run
    rw [List.foldl_append]
    rfl
  rw [hw]
  clear_value w
  clear hw
  set w₀ := (World.start u).run X steps
  have hcrossed := (href.crossed p).mpr hp
  obtain ⟨ses, hses, hrole⟩ := Option.map_eq_some_iff.mp hp.1
  have hne : w₀.userId p.peer ≠ (w₀.client p).userId := by
    rw [href.userId, (href.keys p).userId]
    exact u.userId_peer_ne p
  obtain ⟨m, c, e, hm, he, hsend, -, hkeys, -⟩ := Client.sendMessage_spec hP hne
    (Client.getOrCreateSession_old hses io (w₀.bundles (w₀.userId p.peer))) .accepted text
  rw [World.send_eq rfl hsend]
  obtain ⟨o, hh⟩ := Handshake.can_receive hreach.inv p.peer
  have hsender : s.half p = some (halfOf ses) := by rw [← href.half, hses, Option.map_some]
  -- the sender's chain is the unused one
  have hunused : (halfOf ses).sendChain.seed = .zero := by
    have := hreach.seeded (symbolicKinds hX u) p (halfOf ses) hsender
    unfold Handshake.Half.Seeded at this
    rw [show (halfOf ses).role = .responder from if_neg (by simp [hrole])] at this
    exact this.1
  obtain ⟨hinc, hchat⟩ := receive_lost (e := e) hX href hkeys (by rw [he]; rfl)
    (by rw [he]; rfl) (by rw [he]; rfl)
    (by rw [he]; exact X.serde.sessionMessage.decode_encode m) (sealed_of_encrypt hP hm) hh
    (fun ses' ho heq => by
      -- the peer's is a derived one
      have hr := Handshake.received_responder hh hcrossed.2
      rw [Handshake.receive_role_self, ho, Option.map_some] at hr
      have := Handshake.hears_seeded hh (hreach.seeded (symbolicKinds hX u) p.peer) _ ho
      unfold Handshake.Half.Seeded at this
      rw [Option.some.inj hr] at this
      refine nextKey_derived hX this.2 (halfOf ses).header ?_
      rw [heq, hunused]) clock io'
  refine ⟨?_, hchat⟩
  have horder := hreach.inv.order p.peer
  rw [Party.peer_peer, hsaid] at horder
  rw [hinc, href.heard, List.append_assoc, horder]

/-- After two first messages that crossed, the next text of the first sender is not recorded,
    and nothing waits any more. -/
theorem crossing_loses_text :
    let steps := freshCrossing ++ [.send .alice "are you there?" (freshSendInput 6),
      .receive .bob (fun _ => 0) freshReceiveInput]
    let w := (World.start freshPeers).run plainCrates steps
    (∀ p, ∀ text ∈ textsBy p steps, Client.Plain plainCrates text) ∧ (∀ p, w.chat p = []) ∧
      textsBy .alice steps = ["hello", "are you there?"] ∧ w.incoming .bob = ["hello"] := by
  intro steps w
  obtain ⟨hcross, hcrossed, hchat⟩ := crossed_of_crossing (X := plainCrates) symbolic_lawful
    freshPeers .alice (plain_plainCrates "hello") (plain_plainCrates "hi") (freshSendInput 4)
    (freshSendInput 5) (fun _ => 0) freshReceiveInput
  obtain ⟨hinc, hbob, halice⟩ := crossed_send_lost (X := plainCrates) rfl freshPeers freshCrossing
    (fun _ text _ => plain_plainCrates text) hcross .alice hcrossed "are you there?"
    (freshSendInput 6) (fun _ => 0) freshReceiveInput
  refine ⟨fun _ text _ => plain_plainCrates text, fun p => ?_, rfl, hinc⟩
  cases p with
  | alice => exact halice.trans (hchat .alice)
  | bob => exact hbob

end TinTin.Cli
