/-
  Which message keys depend on the shared secret.

  `Computes P` are the rules by which anybody computes new keys from known ones, `Within own`
  bounds what they reach from public constants, public keys and the secrets in `own`, and
  `Public` what they reach without a secret.

  The origin of every sending key is read off `Conversation.progress_run`: the n-th key of a
  party is the message key of its initial sending chain after n steps. The initiator's chain
  is a KDF output of the shared secret. The responder's is `[0u8; 32]`, and nothing in an
  honest run ever replaces it.

  `sendKeys_secret_iff`: the keys of two sessions with different secrets differ, and a key is
  out of public reach, exactly when the key is not a responder's.
-/
import TinTin.Core.Conversation
import TinTin.Lib.Deduction
import TinTin.Symbolic.Term

namespace TinTin.Security

open TinTin.Lib TinTin.Core TinTin.Symbolic

/-! ## Public computation -/

/-- One call of `KeyPair::agree`, `derive_chain_keys` or `ratchet_chain_key`. -/
inductive SessionRule {Key : Type} (P : Primitives Key) : List Key → Key → Prop
  | agree (kp : KeyPair Key) (theirPublic : Key) :
      SessionRule P [kp.secret, theirPublic] (kp.agree P theirPublic)
  | rootKey (k d : Key) : SessionRule P [k, d] (deriveChainKeys P k d).1
  | chainKey (k d : Key) : SessionRule P [k, d] (deriveChainKeys P k d).2
  | nextChain (k : Key) : SessionRule P [k] (ratchetChainKey P k).1
  | messageKey (k : Key) : SessionRule P [k] (ratchetChainKey P k).2

/-- Any computation on keys: the session code's, a public half, a hash. -/
inductive Computes {Key : Type} (P : Primitives Key) : List Key → Key → Prop
  | session {ks : List Key} {k : Key} : SessionRule P ks k → Computes P ks k
  | publicKey (s : Key) : Computes P [s] (P.publicKey s)
  | sha256 (tag : UInt8) (k : Key) : Computes P [k] (P.sha256 tag k)
  | sha256Label (k : Key) (label : String) : Computes P [k] (P.sha256Label k label)

/-- The public constants and the public keys. -/
def publics {Key : Type} (P : Primitives Key) : Set Key :=
  {k | k = P.zeroKey ∨ ∃ s, k = P.publicKey s}

/-- The public constants, the public keys, and secrets of one's own. -/
def known (own : Set ℕ) : Set Term := publics symbolic ∪ {k | ∃ n ∈ own, k = .secret n}

/-- Terms that need no secret but those in `own`: a bound on what is computed from them. -/
def Within (own : Set ℕ) : Term → Prop
  | .zero => True
  | .secret n => n ∈ own
  | .pub _ => True
  | .dh s t => Within own s ∨ Within own t
  | .exp s p => Within own s ∧ Within own p
  | .root k d => Within own k ∧ Within own d
  | .chain k d => Within own k ∧ Within own d
  | .hash _ k => Within own k
  | .label k _ => Within own k

variable {own : Set ℕ}

theorem within_agree {s t : Term} : Within own (s.agree t) ↔ Within own s ∨ Within own t := by
  unfold Term.agree
  split
  · rfl
  · exact or_comm

theorem within_diffieHellman {s p : Term} (hs : Within own s) (hp : Within own p) :
    Within own (s.diffieHellman p) := by
  cases p with
  | pub t => exact within_agree.mpr (.inl hs)
  | _ => exact ⟨hs, hp⟩

theorem within_of_computes {ks : List Term} {k : Term} (h : Computes symbolic ks k)
    (hks : ∀ x ∈ ks, Within own x) : Within own k := by
  cases h with
  | session h =>
    cases h with
    | agree kp p => exact within_diffieHellman (hks _ (by simp)) (hks _ (by simp))
    | rootKey k d => exact ⟨hks k (by simp), hks d (by simp)⟩
    | chainKey k d => exact ⟨hks k (by simp), hks d (by simp)⟩
    | nextChain k => exact hks k (by simp)
    | messageKey k => exact hks k (by simp)
  | publicKey s => trivial
  | sha256 tag k => exact hks k (by simp)
  | sha256Label k l => exact hks k (by simp)

theorem within_of_derives {k : Term} (h : Derives (Computes symbolic) (known own) k) :
    Within own k := by
  refine h.mem_of_closed (S := {k | Within own k}) ?_ fun ks k => within_of_computes
  rintro k ((rfl | ⟨s, rfl⟩) | ⟨n, hn, rfl⟩)
  · trivial
  · trivial
  · exact hn

/-- Who reaches a message key could have computed the chain key. -/
theorem within_of_derives_messageKey {k : Term}
    (h : Derives (Computes symbolic) (known own) (messageKey symbolic k)) : Within own k := by
  have hhash : Within own (.hash 1 k) := within_of_derives h
  exact hhash

/-- An agreement with a key pair's public half takes one of the two secrets. -/
theorem secret_of_within {m n : ℕ}
    (h : Within own ((Term.secret m).diffieHellman (.pub (.secret n)))) : m ∈ own ∨ n ∈ own :=
  within_agree.mp h

/-- Terms that do not need a secret: a bound on public computation. -/
def Public : Term → Prop
  | .zero => True
  | .secret _ => False
  | .pub _ => True
  | .dh s t => Public s ∨ Public t
  | .exp s p => Public s ∧ Public p
  | .root k d => Public k ∧ Public d
  | .chain k d => Public k ∧ Public d
  | .hash _ k => Public k
  | .label k _ => Public k

/-- The public terms are those that need no secret of one's own. -/
theorem public_iff_within (k : Term) : Public k ↔ Within ∅ k := by
  induction k with
  | zero => rfl
  | secret n => exact ⟨False.elim, id⟩
  | pub s => rfl
  | dh s t ihs iht => exact or_congr ihs iht
  | exp s p ihs ihp => exact and_congr ihs ihp
  | root k d ihk ihd => exact and_congr ihk ihd
  | chain k d ihk ihd => exact and_congr ihk ihd
  | hash tag k ih => exact ih
  | label k cs ih => exact ih

theorem public_of_derives {k : Term}
    (h : Derives (Computes symbolic) (publics symbolic) k) : Public k :=
  (public_iff_within k).mpr (within_of_derives (h.mono Set.subset_union_left))

theorem public_iterate (k : Term) (n : ℕ) :
    Public ((nextChainKey symbolic)^[n] k) ↔ Public k := by
  induction n with
  | zero => rfl
  | succ n ih =>
    rw [Function.iterate_succ_apply']
    exact ih

/-- Whoever knows a chain key computes every later message key of the chain. -/
theorem derives_messageKey {Key : Type} {P : Primitives Key} {K : Set Key} {k : Key}
    (h : Derives (SessionRule P) K k) (n : ℕ) :
    Derives (SessionRule P) K (messageKey P ((nextChainKey P)^[n] k)) := by
  refine .unary (.messageKey _) ?_
  induction n with
  | zero => exact h
  | succ n ih =>
    rw [Function.iterate_succ_apply']
    exact .unary (.nextChain _) ih

/-! ## Origin of the sending keys -/

/-- The secret was drawn at random. -/
def Random (k : Term) : Prop := ∃ n, k = .secret n

theorem sharedSecret_eq (u : Setup symbolic) :
    u.sharedSecret = u.ephSecret.agree u.signedPreKey.keyPair.secret := by
  unfold Setup.sharedSecret KeyPair.agree
  rw [u.wellFormed]
  rfl

theorem alice_sendChainKey (u : Setup symbolic) :
    (u.session .alice).ratchet.sendChainKey = .chain u.sharedSecret (.pub u.ephSecret) := rfl

theorem bob_sendChainKey (u : Setup symbolic) :
    (u.session .bob).ratchet.sendChainKey = .zero := rfl

/-- The n-th key a party encrypts with is its initial sending chain, n steps on. -/
theorem sendKeys_getElem? {u : Setup symbolic} {calls : List Call} {p : Party} {n : ℕ} {k : Term}
    (h : (((Conversation.start u).run symbolic calls).sendKeys p)[n]? = some k) :
    k = messageKey symbolic
      ((nextChainKey symbolic)^[n] (u.session p).ratchet.sendChainKey) := by
  rw [(Conversation.progress_run u calls p).sendKeys, List.getElem?_map] at h
  obtain ⟨i, hi, rfl⟩ := Option.map_eq_some_iff.mp h
  obtain ⟨hn, rfl⟩ := List.getElem?_eq_some_iff.mp hi
  rw [List.getElem_range]

/-- Two initial sending chains of sessions with different secrets have the same seed only if
    both are a responder's. -/
theorem seed_sendChainKey {u₁ u₂ : Setup symbolic} (hne : u₁.sharedSecret ≠ u₂.sharedSecret)
    {p₁ p₂ : Party} (h : ¬ (p₁ = .bob ∧ p₂ = .bob)) :
    (u₁.session p₁).ratchet.sendChainKey.seed ≠ (u₂.session p₂).ratchet.sendChainKey.seed := by
  cases p₁ <;> cases p₂
  · rw [alice_sendChainKey, alice_sendChainKey]
    intro he
    exact hne (Term.chain.inj he).1
  · rw [alice_sendChainKey, bob_sendChainKey]
    intro he
    cases he
  · rw [alice_sendChainKey, bob_sendChainKey]
    intro he
    cases he
  · exact absurd ⟨rfl, rfl⟩ h

theorem alice_key_not_public {u : Setup symbolic} (he : Random u.ephSecret)
    (hs : Random u.signedPreKey.keyPair.secret) (n : ℕ) :
    ¬ Public (messageKey symbolic
      ((nextChainKey symbolic)^[n] (u.session .alice).ratchet.sendChainKey)) := by
  obtain ⟨i, hi⟩ := he
  obtain ⟨j, hj⟩ := hs
  rw [messageKey_eq, Public, public_iterate, alice_sendChainKey, sharedSecret_eq, hi, hj]
  rintro ⟨h, -⟩
  exact (secret_of_within ((public_iff_within _).mp h)).elim id id

/-- **Message keys depend on the shared secret exactly in the initiator's direction.** For two
    sessions with different shared secrets and any two runs, the n-th sending keys of two
    parties differ exactly when the parties are not both responders; and a sending key is out
    of reach of public computation exactly when its sender is the initiator. -/
theorem sendKeys_secret_iff (u₁ u₂ : Setup symbolic) (hne : u₁.sharedSecret ≠ u₂.sharedSecret)
    (calls₁ calls₂ : List Call) (p₁ p₂ : Party) (n : ℕ) (k₁ k₂ : Term)
    (h₁ : (((Conversation.start u₁).run symbolic calls₁).sendKeys p₁)[n]? = some k₁)
    (h₂ : (((Conversation.start u₂).run symbolic calls₂).sendKeys p₂)[n]? = some k₂) :
    (k₁ ≠ k₂ ↔ ¬ (p₁ = .bob ∧ p₂ = .bob)) ∧
      (Random u₁.ephSecret → Random u₁.signedPreKey.keyPair.secret →
        (¬ Derives (Computes symbolic) (publics symbolic) k₁ ↔ p₁ = .alice)) := by
  obtain rfl := sendKeys_getElem? h₁
  obtain rfl := sendKeys_getElem? h₂
  refine ⟨⟨?_, ?_⟩, fun he hs => ⟨?_, ?_⟩⟩
  · rintro hk ⟨rfl, rfl⟩
    exact hk rfl
  · intro hp he
    exact iterate_ne_of_seed (seed_sendChainKey hne hp) n n (messageKey_injective he)
  · intro hk
    cases p₁ with
    | alice => rfl
    | bob =>
      refine absurd ?_ hk
      refine (derives_messageKey (P := symbolic) ?_ n).rule_mono fun _ _ => .session
      exact .known (.inl rfl)
  · rintro rfl hk
    exact alice_key_not_public he hs n (public_of_derives hk)

theorem secret_agree_ne {a b c d : ℕ} (h₁ : a ≠ c) (h₂ : a ≠ d) :
    (Term.secret a).agree (.secret b) ≠ (Term.secret c).agree (.secret d) := by
  unfold Term.agree
  split <;> split <;> simp [h₁, h₂]

theorem random_secret (n : ℕ) : Random (.secret n) := ⟨n, rfl⟩

theorem freshSetup_sharedSecret_ne :
    (freshSetup 0 1).sharedSecret ≠ (freshSetup 2 3).sharedSecret := by
  rw [sharedSecret_eq, sharedSecret_eq]
  exact secret_agree_ne (by decide) (by decide)

/-- Two initiators with different secrets use different first keys. -/
theorem sendKeys_secret_iff_alice :
    (messageKey symbolic (freshSetup 0 1).alice.ratchet.sendChainKey ≠
        messageKey symbolic (freshSetup 2 3).alice.ratchet.sendChainKey ↔
      ¬ (Party.alice = .bob ∧ Party.alice = .bob)) ∧
    (¬ Derives (Computes symbolic) (publics symbolic)
      (messageKey symbolic (freshSetup 0 1).alice.ratchet.sendChainKey) ↔ Party.alice = .alice) :=
  have h := sendKeys_secret_iff (freshSetup 0 1) (freshSetup 2 3) freshSetup_sharedSecret_ne
    [.encrypt .alice (.replicate 12 0) [7]] [.encrypt .alice (.replicate 12 0) [7]] .alice .alice 0
    _ _ rfl rfl
  ⟨h.1, h.2 (random_secret 0) (random_secret 1)⟩

/-- Two responders with different secrets encrypt their first replies under the same key, and
    that key is computed from the public constant alone. -/
theorem responders_share_first_key :
    (freshSetup 0 1).sharedSecret ≠ (freshSetup 2 3).sharedSecret ∧
    (((Conversation.start (freshSetup 0 1)).run symbolic
        [.encrypt .bob (.replicate 12 0) [7]]).sendKeys .bob)[0]? =
      (((Conversation.start (freshSetup 2 3)).run symbolic
        [.encrypt .bob (.replicate 12 0) [7]]).sendKeys .bob)[0]? ∧
    Derives (Computes symbolic) (publics symbolic)
      (messageKey symbolic (freshSetup 0 1).bob.ratchet.sendChainKey) :=
  ⟨freshSetup_sharedSecret_ne, rfl,
    .unary (.session (.messageKey Term.zero)) (.known (.inl rfl))⟩

end TinTin.Security
