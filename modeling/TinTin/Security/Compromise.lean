/-
  What an attacker who reads one ratchet state computes.

  `Exposure` follows one ratchet through any calls, with arbitrary messages to decrypt: the
  public ratchet keys it was given and the message keys its successful calls consumed. The
  attacker knows every field of the ratchet (`fields`), the constant `[0u8; 32]` and the
  public keys.

  The key pair of a ratchet is made once and stays. With it and the public keys the attacker
  replays the whole history (`Rebuilt`): every root key, every chain key and so every message
  key there ever was. None of this uses a law of the primitives, so it holds of the symbolic
  ones and of the real ones.

  * `forward_secret_iff`: no consumed key is derivable only while nothing was consumed.
  * `never_heals`: between two messages of one party nothing new enters: the ratchet key and
    the root key are the same, and the later message key is an iterate of the earlier chain.
-/
import TinTin.Security.Secrecy

namespace TinTin.Security

open TinTin.Lib TinTin.Core TinTin.Symbolic

variable {Key : Type} {P : Primitives Key}

/-! ## One ratchet and its calls -/

/-- How a session's ratchet is made. -/
inductive Origin (Key : Type)
  /-- `Session::new_initiator` -/
  | initiator (ephSecret : Key) (ourIdentity : IdentityKeyPair Key) (remoteUserId : String)
      (remoteDeviceId : UInt32) (theirIdentityKey signedPreKeyPublic : Key)
  /-- `Session::new_responder` -/
  | responder (ourIdentity : IdentityKeyPair Key) (remoteUserId : String)
      (remoteDeviceId : UInt32) (theirIdentityKey aliceEphPublic : Key)
      (ourSignedPreKey : SignedPreKey Key)

def Origin.session (P : Primitives Key) : Origin Key → Session Key
  | .initiator e i u d t s => .newInitiator P e i u d t s
  | .responder i u d t a s => .newResponder P i u d t a s

/-- The public key the session is made with. -/
def Origin.peerKey : Origin Key → Key
  | .initiator _ _ _ _ _ s => s
  | .responder _ _ _ _ a _ => a

/-- One call on the ratchet: an encryption, or a decryption of any message whatever. -/
inductive RatchetCall (Key : Type)
  | encrypt (nonce : Nonce) (plaintext : Bytes)
  | decrypt (msg : RatchetedMessage Key)

/-- A ratchet, the public keys it was given and the keys its successful calls consumed. -/
structure Exposure (Key : Type) where
  ratchet : Ratchet Key
  publicKeys : List Key
  consumed : List Key

/-- The key, if the call that drew it succeeded. -/
def consumedBy {α : Type} (result : Except TinTinError α) (key : Key) : List Key :=
  match result with
  | .ok _ => [key]
  | .error _ => []

namespace Exposure

def start (P : Primitives Key) (o : Origin Key) : Exposure Key where
  ratchet := (o.session P).ratchet
  publicKeys := [o.peerKey]
  consumed := []

variable [DecidableEq Key]

def step (P : Primitives Key) (x : Exposure Key) : RatchetCall Key → Exposure Key
  | .encrypt nonce plaintext =>
    let (result, r) := x.ratchet.encryptMessage P nonce plaintext
    { ratchet := r
      publicKeys := x.publicKeys
      consumed := x.consumed ++ consumedBy result (x.ratchet.nextSendKey P).1 }
  | .decrypt msg =>
    let (result, r) := x.ratchet.decryptMessage P msg
    { ratchet := r
      publicKeys := x.publicKeys ++ [msg.ratchetKey]
      consumed := x.consumed ++
        consumedBy result ((x.ratchet.receiveHeader P msg.ratchetKey).nextRecvKey P).1 }

def run (P : Primitives Key) (x : Exposure Key) (calls : List (RatchetCall Key)) : Exposure Key :=
  calls.foldl (step P) x

end Exposure

/-- Every key among the fields of a ratchet. -/
def fields (r : Ratchet Key) : List Key :=
  [r.dhRatchetKey.secret, r.dhRatchetKey.publicKey, r.theirRatchetKey, r.rootKey,
    r.sendChainKey, r.recvChainKey]

/-- What the attacker holds: the fields, the public constant and the public keys. -/
def Exposure.known (P : Primitives Key) (x : Exposure Key) : Set Key :=
  {k | k ∈ fields x.ratchet ∨ k = P.zeroKey ∨ k ∈ x.publicKeys}

/-- The part of the attacker's knowledge that never goes away. -/
def Exposure.lasting (P : Primitives Key) (x : Exposure Key) : Set Key :=
  {k | k = x.ratchet.dhRatchetKey.secret ∨ k = x.ratchet.dhRatchetKey.publicKey ∨
    k = P.zeroKey ∨ k ∈ x.publicKeys}

theorem lasting_subset_known (x : Exposure Key) : x.lasting P ⊆ x.known P := by
  rintro k (rfl | rfl | h | h)
  · exact .inl (by simp [fields])
  · exact .inl (by simp [fields])
  · exact .inr (.inl h)
  · exact .inr (.inr h)

/-! ## Rebuilding the history -/

/-- Root key, chain keys and consumed keys all follow from the lasting knowledge. -/
structure Rebuilt (P : Primitives Key) (x : Exposure Key) : Prop where
  rootKey : Derives (SessionRule P) (x.lasting P) x.ratchet.rootKey
  sendChainKey : Derives (SessionRule P) (x.lasting P) x.ratchet.sendChainKey
  recvChainKey : Derives (SessionRule P) (x.lasting P) x.ratchet.recvChainKey
  consumed : ∀ k ∈ x.consumed, Derives (SessionRule P) (x.lasting P) k

theorem mem_consumedBy {α : Type} {result : Except TinTinError α} {k key : Key}
    (h : k ∈ consumedBy result key) : k = key := by
  cases result with
  | ok a => simpa [consumedBy] using h
  | error e => simp [consumedBy] at h

theorem rebuilt_start (P : Primitives Key) (o : Origin Key) :
    Rebuilt P (Exposure.start P o) := by
  have hzero : Derives (SessionRule P) ((Exposure.start P o).lasting P) P.zeroKey :=
    .known (.inr (.inr (.inl rfl)))
  have hpeer : Derives (SessionRule P) ((Exposure.start P o).lasting P) o.peerKey :=
    .known (.inr (.inr (.inr (by simp [Exposure.start]))))
  have hsecret : Derives (SessionRule P) ((Exposure.start P o).lasting P)
      (o.session P).ratchet.dhRatchetKey.secret := .known (.inl rfl)
  have hpublic : Derives (SessionRule P) ((Exposure.start P o).lasting P)
      (o.session P).ratchet.dhRatchetKey.publicKey := .known (.inr (.inl rfl))
  have hshared : Derives (SessionRule P) ((Exposure.start P o).lasting P)
      ((o.session P).ratchet.dhRatchetKey.agree P o.peerKey) :=
    .binary (.agree _ _) hsecret hpeer
  cases o with
  | initiator e i u d t s =>
    exact ⟨.binary (.rootKey _ _) hshared hpublic, .binary (.chainKey _ _) hshared hpublic,
      hzero, by simp [Exposure.start]⟩
  | responder i u d t a s =>
    exact ⟨.binary (.rootKey _ _) hshared hpeer, hzero, .binary (.chainKey _ _) hshared hpeer,
      by simp [Exposure.start]⟩

variable [DecidableEq Key]

theorem lasting_step (x : Exposure Key) (c : RatchetCall Key) :
    x.lasting P ⊆ (x.step P c).lasting P := by
  cases c with
  | encrypt n t =>
    rintro k (rfl | rfl | h | h)
    · exact .inl (by simp [Exposure.step])
    · exact .inr (.inl (by simp [Exposure.step]))
    · exact .inr (.inr (.inl h))
    · exact .inr (.inr (.inr h))
  | decrypt m =>
    rintro k (rfl | rfl | h | h)
    · exact .inl (by simp [Exposure.step])
    · exact .inr (.inl (by simp [Exposure.step]))
    · exact .inr (.inr (.inl h))
    · exact .inr (.inr (.inr (List.mem_append_left _ h)))

/-- Whatever ratchet key arrives, the keys after the DH step follow from it and the own
    secret. -/
theorem derives_receiveHeader {K : Set Key} {r : Ratchet Key} {k : Key}
    (hk : Derives (SessionRule P) K k)
    (hsecret : Derives (SessionRule P) K r.dhRatchetKey.secret)
    (hroot : Derives (SessionRule P) K r.rootKey)
    (hsend : Derives (SessionRule P) K r.sendChainKey)
    (hrecv : Derives (SessionRule P) K r.recvChainKey) :
    Derives (SessionRule P) K (r.receiveHeader P k).rootKey ∧
      Derives (SessionRule P) K (r.receiveHeader P k).sendChainKey ∧
      Derives (SessionRule P) K (r.receiveHeader P k).recvChainKey := by
  have hdh : Derives (SessionRule P) K (r.dhRatchetKey.agree P k) :=
    .binary (.agree _ _) hsecret hk
  have hroot' := Derives.binary (.rootKey _ _) hroot hdh
  have hchain := Derives.binary (.chainKey _ _) hroot hdh
  by_cases h : k = r.theirRatchetKey
  · subst h
    rw [Ratchet.receiveHeader_same]
    exact ⟨hroot, hsend, hrecv⟩
  · rw [Ratchet.receiveHeader_step h]
    unfold Ratchet.dhRatchetStep
    dsimp only
    split
    · exact ⟨hroot', hchain, hrecv⟩
    · exact ⟨hroot', hsend, hchain⟩

theorem Rebuilt.step {x : Exposure Key} (h : Rebuilt P x) (c : RatchetCall Key) :
    Rebuilt P (x.step P c) := by
  have hsub := lasting_step (P := P) x c
  have hroot := h.rootKey.mono hsub
  have hsend := h.sendChainKey.mono hsub
  have hrecv := h.recvChainKey.mono hsub
  have hcons := fun k hk => (h.consumed k hk).mono hsub
  cases c with
  | encrypt n t =>
    have hnext : Derives (SessionRule P) ((x.step P (.encrypt n t)).lasting P)
        (nextChainKey P x.ratchet.sendChainKey) := .unary (.nextChain _) hsend
    refine ⟨?_, ?_, ?_, ?_⟩
    · simpa [Exposure.step] using hroot
    · simpa [Exposure.step] using hnext
    · simpa [Exposure.step] using hrecv
    · intro k hk
      rcases List.mem_append.mp hk with hk | hk
      · exact hcons k hk
      · rw [mem_consumedBy hk]
        exact .unary (.messageKey _) hsend
  | decrypt m =>
    have hsecret : Derives (SessionRule P) ((x.step P (.decrypt m)).lasting P)
        x.ratchet.dhRatchetKey.secret := Derives.known (hsub (.inl rfl))
    have hm : Derives (SessionRule P) ((x.step P (.decrypt m)).lasting P) m.ratchetKey :=
      .known (.inr (.inr (.inr (List.mem_append_right _ (List.mem_singleton.mpr rfl)))))
    obtain ⟨hroot', hsend', hrecv'⟩ := derives_receiveHeader hm hsecret hroot hsend hrecv
    refine ⟨hroot', hsend', .unary (.nextChain _) hrecv', ?_⟩
    intro k hk
    rcases List.mem_append.mp hk with hk | hk
    · exact hcons k hk
    · rw [mem_consumedBy hk]
      exact .unary (.messageKey _) hrecv'

theorem rebuilt_run (P : Primitives Key) (o : Origin Key) (calls : List (RatchetCall Key)) :
    Rebuilt P ((Exposure.start P o).run P calls) := by
  induction calls using List.reverseRecOn with
  | nil => exact rebuilt_start P o
  | append_singleton calls c ih =>
    unfold Exposure.run
    rw [List.foldl_append]
    exact ih.step c

/-- **No forward secrecy.** In every reachable state of either role, the consumed message
    keys are out of the attacker's reach only if none was consumed. -/
theorem forward_secret_iff (P : Primitives Key) (o : Origin Key)
    (calls : List (RatchetCall Key)) :
    let x := (Exposure.start P o).run P calls
    (∀ k ∈ x.consumed, ¬ Derives (SessionRule P) (x.known P) k) ↔ x.consumed = [] := by
  intro x
  constructor
  · intro h
    rw [List.eq_nil_iff_forall_not_mem]
    intro k hk
    exact h k hk (((rebuilt_run P o calls).consumed k hk).mono (lasting_subset_known x))
  · intro h k hk
    rw [h] at hk
    cases hk

/-- An initiator that has sent one message: its key is consumed, and the state gives it away. -/
theorem first_key_exposed :
    let o : Origin Term := .initiator (.secret 0) ⟨.generate symbolic (.secret 2)⟩ "bob" 1
      (.pub (.secret 3)) (.pub (.secret 1))
    let x := (Exposure.start symbolic o).run symbolic [.encrypt (.replicate 12 0) [7]]
    ∃ k ∈ x.consumed, Derives (SessionRule symbolic) (x.known symbolic) k :=
  ⟨_, List.mem_singleton.mpr rfl,
    ((rebuilt_run symbolic _ [.encrypt (.replicate 12 0) [7]]).consumed _
      (List.mem_singleton.mpr rfl)).mono (lasting_subset_known _)⟩

/-! ## No healing -/

/-- **Nothing heals.** In every run of two paired sessions, whatever is sent and received
    between two messages of a party, the two messages carry the same ratchet key, the root key
    has not changed, and the second message key lies on the chain the first was drawn from. -/
theorem never_heals (P : Primitives Key) (u : Setup P) (before between : List Call) (p : Party)
    (n₁ n₂ : Nonce) (t₁ t₂ : Bytes) (m₁ m₂ : SessionMessage Key) :
    let s₁ := ((Conversation.start u).run P before).session p
    let s₂ := ((Conversation.start u).run P (before ++ .encrypt p n₁ t₁ :: between)).session p
    (s₁.encrypt P n₁ t₁).1 = .ok m₁ → (s₂.encrypt P n₂ t₂).1 = .ok m₂ →
    m₁.ratchetKey = m₂.ratchetKey ∧ s₁.ratchet.rootKey = s₂.ratchet.rootKey ∧
      ∃ n, (s₂.ratchet.nextSendKey P).1 =
        messageKey P ((nextChainKey P)^[n] s₁.ratchet.sendChainKey) := by
  intro s₁ s₂ h₁ h₂
  have hr₁ := (Conversation.progress_run u before p).ratchet
  have hr₂ := (Conversation.progress_run u (before ++ .encrypt p n₁ t₁ :: between) p).ratchet
  refine ⟨?_, ?_, ?_⟩
  · rw [(Session.encrypt_ok h₁).1, (Session.encrypt_ok h₂).1, hr₁, hr₂]
  · rw [hr₁, hr₂]
  · refine ⟨(plaintextsBy p (.encrypt p n₁ t₁ :: between)).length, ?_⟩
    rw [Ratchet.nextSendKey_key, hr₁, hr₂]
    dsimp only
    rw [← Function.iterate_add_apply, plaintextsBy_append, List.length_append, Nat.add_comm]

/-- Alice's calls and Bob's between Alice's two messages: he decrypts, replies, she decrypts. -/
def reply : List Call :=
  [.decrypt .bob, .encrypt .bob (.replicate 12 1) [2], .decrypt .alice]

theorem never_heals_reply :
    let s₁ := ((Conversation.start (freshSetup 0 1)).run symbolic []).session .alice
    let s₂ := ((Conversation.start (freshSetup 0 1)).run symbolic
      ([] ++ .encrypt .alice (.replicate 12 0) [1] :: reply)).session .alice
    ∃ m₁ m₂ : SessionMessage Term, m₁.ratchetKey = m₂.ratchetKey ∧
      s₁.ratchet.rootKey = s₂.ratchet.rootKey ∧ ∃ n, (s₂.ratchet.nextSendKey symbolic).1 =
        messageKey symbolic ((nextChainKey symbolic)^[n] s₁.ratchet.sendChainKey) :=
  ⟨_, _, never_heals symbolic (freshSetup 0 1) [] reply .alice (.replicate 12 0)
    (.replicate 12 2) [1] [3] _ _ rfl rfl⟩

/-- Alice sends, Bob decrypts and replies, Alice decrypts and sends again: both of her messages
    carry one ratchet key. -/
theorem reply_keeps_ratchet_key :
    ∃ m₁ m₂, (((Conversation.start (freshSetup 0 1)).session .alice).encrypt symbolic
        (.replicate 12 0) [1]).1 = .ok m₁ ∧
      ((((Conversation.start (freshSetup 0 1)).run symbolic
        (.encrypt .alice (.replicate 12 0) [1] :: reply)).session .alice).encrypt symbolic
        (.replicate 12 2) [3]).1 = .ok m₂ ∧ m₁.ratchetKey = m₂.ratchetKey :=
  ⟨_, _, rfl, rfl, rfl⟩

end TinTin.Security
