/-
  What a rejected message does to a session.

  `decrypt_message` moves the ratchet before it checks the ciphertext, and no path puts it
  back.
  * `decrypt_changes`: every decryption, rejected or not, changes the ratchet. Either the
    remote key is replaced, or the receive counter moves.
  * `chain_displaced`: after a rejected message the key a session holds ready for the next
    genuine message is another one, for either role and along both branches.

  `rejection_desynchronises` puts the two together and adds the Android wrapper, which
  persists the changed session.
-/
import TinTin.Android.SessionManager
import TinTin.Core.Conversation
import TinTin.Symbolic.Serde

namespace TinTin.Security

open TinTin.Lib TinTin.Core TinTin.Symbolic

/-- The fields that a rejected message should leave as they are. -/
structure Unchanged {Key : Type} (s s' : Session Key) : Prop where
  theirRatchetKey : s'.ratchet.theirRatchetKey = s.ratchet.theirRatchetKey
  rootKey : s'.ratchet.rootKey = s.ratchet.rootKey
  sendChainKey : s'.ratchet.sendChainKey = s.ratchet.sendChainKey
  recvChainKey : s'.ratchet.recvChainKey = s.ratchet.recvChainKey
  sendMsgNumber : s'.ratchet.sendMsgNumber = s.ratchet.sendMsgNumber
  recvMsgNumber : s'.ratchet.recvMsgNumber = s.ratchet.recvMsgNumber

theorem add_one_ne (n : UInt32) : n + 1 ≠ n := by
  intro h
  simp at h

/-- Every decryption changes the session, rejected or not. -/
theorem decrypt_changes {Key : Type} [DecidableEq Key] (P : Primitives Key) (s : Session Key)
    (m : SessionMessage Key) : ¬ Unchanged s (s.decrypt P m).2 := by
  intro h
  by_cases hk : m.ratchetKey = s.ratchet.theirRatchetKey
  · -- the DH step does not fire: the receive counter has moved
    have hn := h.recvMsgNumber
    rw [Session.decrypt_same hk] at hn
    exact add_one_ne _ hn
  · have ht := h.theirRatchetKey
    rw [Session.decrypt_state, Ratchet.decryptMessage_state, Ratchet.nextRecvKey_state] at ht
    exact hk ((Ratchet.receiveHeader_theirRatchetKey _ _).symm.trans ht)

/-! ## The next genuine message -/

/-- The receiving side of a paired session, and the state a message leaves it in. -/
theorem chain_displaced (u : Setup symbolic) (calls : List Call) (p : Party)
    (bad : SessionMessage Term) :
    let r := (((Conversation.start u).run symbolic calls).session p).ratchet
    let r' := (r.decryptMessage symbolic (Session.toRatcheted bad)).2
    (r'.receiveHeader symbolic r.theirRatchetKey).recvChainKey ≠ r.recvChainKey := by
  intro r r'
  have hr : r = _ := (Conversation.progress_run u calls p).ratchet
  have hmoved : nextChainKey symbolic r.recvChainKey ≠ r.recvChainKey := by
    intro h
    exact absurd ((iterate_inj_iff r.recvChainKey 1 0).mp h) (by decide)
  by_cases hb : bad.ratchetKey = r.theirRatchetKey
  · have hr' : r' = (r.nextRecvKey symbolic).2 := by
      show (r.decryptMessage symbolic (Session.toRatcheted bad)).2 = _
      rw [Ratchet.decryptMessage_same _ (Session.toRatcheted bad) hb]
    have ht : r.theirRatchetKey = r'.theirRatchetKey := by rw [hr']; rfl
    rw [ht, Ratchet.receiveHeader_same, hr']
    exact hmoved
  · have hr' : r' = ((r.receiveHeader symbolic bad.ratchetKey).nextRecvKey symbolic).2 := rfl
    cases p with
    | alice =>
      have hi : r.isInitiator = true := by rw [hr]; rfl
      have hi' : r'.isInitiator = true := by
        rw [hr', Ratchet.nextRecvKey_state, Ratchet.receiveHeader_isInitiator, hi]
      rw [receiveHeader_recvChainKey_initiator hi', hr', Ratchet.nextRecvKey_state,
        receiveHeader_recvChainKey_initiator hi]
      exact hmoved
    | bob =>
      have hi : r.isInitiator = false := by rw [hr]; rfl
      have hi' : r'.isInitiator = false := by
        rw [hr', Ratchet.nextRecvKey_state, Ratchet.receiveHeader_isInitiator, hi]
      have ht : r'.theirRatchetKey = bad.ratchetKey := by
        rw [hr', Ratchet.nextRecvKey_state, Ratchet.receiveHeader_theirRatchetKey]
      have hback : r.theirRatchetKey ≠ r'.theirRatchetKey := by rw [ht]; exact fun h => hb h.symm
      obtain ⟨d, -, hroot⟩ := receiveHeader_recvChainKey_responder hi hb
      obtain ⟨d', hchain, -⟩ := receiveHeader_recvChainKey_responder hi' hback
      have hroot' : r'.rootKey = .root r.rootKey d := by
        rw [hr', Ratchet.nextRecvKey_state, hroot]
      -- the old chain is seeded by an agreement, the new one by a root key
      intro he
      rw [hchain, hroot', hr] at he
      have hseed := congrArg Term.seed he
      dsimp only at hseed
      rw [seed_iterate] at hseed
      have hspk : u.signedPreKey.keyPair.agree symbolic (.pub u.ephSecret) = .root _ d :=
        (Term.chain.inj hseed).1.symm
      exact diffieHellman_ne_root _ (.pub _) _ _ hspk

/-- After a rejected message the oldest genuine message in flight is rejected too. -/
theorem next_message_rejected (u : Setup symbolic) (calls : List Call) (p : Party)
    (bad m : SessionMessage Term) (rest : List (SessionMessage Term))
    (hm : ((Conversation.start u).run symbolic calls).inFlight p = m :: rest) :
    (((((Conversation.start u).run symbolic calls).session p).decrypt symbolic bad).2.decrypt
      symbolic m).1 = .error (.decryptionFailed aeadErrorText) := by
  obtain ⟨ps, hfl, -, hpath⟩ := Conversation.synced_run symbolic_lawful u calls p
  have hhead := (Conversation.paired_run u calls).headers p m (by rw [hm]; exact List.mem_cons_self)
  cases ps with
  | nil => simp [hm] at hfl
  | cons tm ps =>
    rw [hm, List.map_cons, List.cons.injEq] at hfl
    obtain ⟨k, ⟨hopen, -⟩, -⟩ := Path.cons_iff.mp hpath
    rw [hfl.1] at hopen
    refine decrypt_other_key hopen fun he => chain_displaced u calls p bad ?_
    have hkey := messageKey_injective he
    rw [← hhead]
    exact hkey

/-- **A rejected message always changes the session**, the Android wrapper persists the
    change, and the next genuine message of an honest peer is lost with it. -/
theorem rejection_desynchronises {Key : Type} [DecidableEq Key] (P : Primitives Key)
    (J : Serde Key) :
    (∀ (s : Session Key) (m : SessionMessage Key) (e : TinTinError),
      (s.decrypt P m).1 = .error e → ¬ Unchanged s (s.decrypt P m).2) ∧
    (∀ (sm : Android.SessionManager) (remoteId : String) (s : Session Key) (ct : Bytes)
        (m : SessionMessage Key) (e : TinTinError),
      sm.sessionCache remoteId = some (J.session.encode s) →
      J.sessionMessage.decode ct = some m → (s.decrypt P m).1 = .error e →
      (sm.decryptMessage P J remoteId ct).1 = none ∧
      ∃ s', (sm.decryptMessage P J remoteId ct).2.sessionsJson remoteId =
        some (J.session.encode s') ∧ ¬ Unchanged s s') ∧
    ∀ (u : Setup symbolic) (calls : List Call) (p : Party) (bad m : SessionMessage Term)
        (rest : List (SessionMessage Term)) (e : TinTinError),
      let c := (Conversation.start u).run symbolic calls
      c.inFlight p = m :: rest → ((c.session p).decrypt symbolic bad).1 = .error e →
      ∃ e', (((c.session p).decrypt symbolic bad).2.decrypt symbolic m).1 = .error e' := by
  refine ⟨fun s m e _ => decrypt_changes P s m, ?_, ?_⟩
  · intro sm remoteId s ct m e hs hm he
    rw [Android.SessionManager.decryptMessage_cached
        (by rw [hs, Option.bind_some, J.session.decode_encode]),
      Android.SessionManager.sessionDecrypt_eq hm, he]
    refine ⟨rfl, (s.decrypt P m).2, ?_, decrypt_changes P s m⟩
    show (sm.saveSession _ remoteId).sessionsJson remoteId = _
    rw [Android.SessionManager.saveSession_sessionsJson, Android.SessionManager.saveSession_self]
  · intro u calls p bad m rest e c hm _
    exact ⟨_, next_message_rejected u calls p bad m rest hm⟩

/-- A message anybody can make, sealed under the zero key. -/
def forged : SessionMessage Term where
  version := 1
  ciphertext := sealed.encode (.zero, .replicate 12 0, [])
  nonce := .replicate 12 0
  ratchetKey := .pub (.secret 9)
  messageNumber := 0

/-- Every session rejects it. -/
theorem forged_rejected (s : Session Term) :
    (s.decrypt symbolic forged).1 = .error (.decryptionFailed aeadErrorText) := by
  rw [Session.decrypt_result, Ratchet.decryptMessage_result]
  unfold decrypt Session.toRatcheted forged
  rw [aeadDecrypt_encode, if_neg (by simp)]

/-- Alice's session, cached on a phone, after the forged message; and Bob's, when the forged
    message overtakes Alice's first one. -/
theorem rejection_desynchronises_forged :
    let s := (freshSetup 0 1).alice
    let sm : Android.SessionManager :=
      ⟨fun _ => some (symbolicSerde.session.encode s), fun _ => none⟩
    let ct := symbolicSerde.sessionMessage.encode forged
    let c := (Conversation.start (freshSetup 0 1)).run symbolic
      [.encrypt .alice (.replicate 12 0) [7]]
    ¬ Unchanged s (s.decrypt symbolic forged).2 ∧
      ((sm.decryptMessage symbolic symbolicSerde "bob" ct).1 = none ∧
        ∃ s', (sm.decryptMessage symbolic symbolicSerde "bob" ct).2.sessionsJson "bob" =
          some (symbolicSerde.session.encode s') ∧ ¬ Unchanged s s') ∧
      ∃ m, c.inFlight .bob = [m] ∧
        ∃ e', (((c.session .bob).decrypt symbolic forged).2.decrypt symbolic m).1 = .error e' :=
  have h := rejection_desynchronises symbolic symbolicSerde
  ⟨h.1 _ forged _ (forged_rejected _),
    h.2.1 ⟨fun _ => some (symbolicSerde.session.encode (freshSetup 0 1).alice), fun _ => none⟩
      "bob" (freshSetup 0 1).alice _ forged _ rfl (by simp) (forged_rejected _),
    _, rfl, h.2.2 (freshSetup 0 1) [.encrypt .alice (.replicate 12 0) [7]] .bob forged _ [] _ rfl
      (forged_rejected _)⟩

/-- Bob, with Alice's first message in flight, is sent the forged one first: it is rejected,
    his receive counter moves, and Alice's message is rejected too. -/
theorem forged_loses_next_message :
    let c := (Conversation.start (freshSetup 0 1)).run symbolic
      [.encrypt .alice (.replicate 12 0) [7]]
    ∃ m, c.inFlight .bob = [m] ∧
      ((c.session .bob).decrypt symbolic forged).1 = .error (.decryptionFailed aeadErrorText) ∧
      ¬ Unchanged (c.session .bob) ((c.session .bob).decrypt symbolic forged).2 ∧
      (((c.session .bob).decrypt symbolic forged).2.decrypt symbolic m).1 =
        .error (.decryptionFailed aeadErrorText) :=
  ⟨_, rfl, forged_rejected _, decrypt_changes _ _ _,
    next_message_rejected (freshSetup 0 1) [.encrypt .alice (.replicate 12 0) [7]] .bob forged _
      [] rfl⟩

end TinTin.Security
