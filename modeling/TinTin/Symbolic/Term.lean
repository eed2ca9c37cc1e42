/-
  The symbolic primitives: hash, KDF and X25519 as free constructors.

  A key is a term. SHA-256, the two halves of the HKDF output and the public half of a key
  pair are constructors, so they are injective and their ranges are disjoint. Agreement of
  two secrets is one constructor on the two secrets in a fixed order, which makes it
  commute (`agree_comm`) and nothing else. A ciphertext is the encoded triple of key, nonce
  and plaintext, and opens with exactly that key and nonce (`aeadDecrypt_encode`).

  * `symbolic : Primitives Term`, `symbolic_lawful`: they meet the assumptions.
  * `iterate_inj_iff`, `iterate_ne_of_seed`: chains never meet or come back.
-/
import TinTin.Core.Ratchet
import TinTin.Lib.Codec
import Mathlib.Logic.Equiv.List
import Mathlib.Tactic.DeriveEncodable
import Mathlib.Logic.Function.Iterate

namespace TinTin.Symbolic

open TinTin.Lib TinTin.Core

/-- Keys as terms over free constructors. -/
inductive Term
  /-- the constant `[0u8; 32]` -/
  | zero
  /-- a freshly drawn random secret -/
  | secret (n : ℕ)
  /-- the public half of a key pair -/
  | pub (s : Term)
  /-- the agreement of two secrets, in normal order -/
  | dh (s t : Term)
  /-- a secret with a value that is no public half -/
  | exp (s p : Term)
  /-- the first half of the KDF output -/
  | root (k d : Term)
  /-- the second half of the KDF output -/
  | chain (k d : Term)
  /-- SHA-256 of a tag byte and a key -/
  | hash (tag : ℕ) (k : Term)
  /-- SHA-256 of a key and a label -/
  | label (k : Term) (cs : List ℕ)
  deriving DecidableEq, Repr, Encodable

/-- The agreement of two secrets: an unordered pair, kept in the order of the encodings. -/
def Term.agree (s t : Term) : Term :=
  if Encodable.encode s ≤ Encodable.encode t then .dh s t else .dh t s

theorem Term.agree_comm (s t : Term) : s.agree t = t.agree s := by
  unfold Term.agree
  split_ifs with h₁ h₂ h₂
  · rw [Encodable.encode_injective (le_antisymm h₁ h₂)]
  · rfl
  · rfl
  · exact absurd (le_of_lt (not_le.mp h₁)) h₂

/-- `StaticSecret::diffie_hellman` on terms. -/
def Term.diffieHellman (s : Term) : Term → Term
  | .pub t => s.agree t
  | p => .exp s p

/-- An agreement is no root key. -/
theorem diffieHellman_ne_root (s p k d : Term) : s.diffieHellman p ≠ .root k d := by
  unfold Term.diffieHellman Term.agree
  split
  · split
    · exact fun h => by cases h
    · exact fun h => by cases h
  · exact fun h => by cases h

instance encodableUInt8 : Encodable UInt8 :=
  Encodable.ofLeftInverse UInt8.toNat UInt8.ofNat (by simp)

instance encodableNonce : Encodable Nonce :=
  Encodable.ofLeftInjection (fun v => v.toArray.toList)
    (fun l => if h : l.length = 12 then some ⟨l.toArray, by simpa using h⟩ else none)
    (by intro v; simp)

/-- Ciphertexts: key, nonce and plaintext, encoded as bytes. -/
def sealed : Codec (Term × Nonce × Bytes) Bytes := Codec.ofEncodable _

/-- The symbolic primitives. -/
def symbolic : Primitives Term where
  zeroKey := .zero
  publicKey := .pub
  diffieHellman := Term.diffieHellman
  hkdfExpand k d := (.root k d, .chain k d)
  sha256 tag k := .hash tag.toNat k
  sha256Label k l := .label k (l.toList.map Char.toNat)
  sha512 k d := (Codec.ofEncodable (Term × Term)).encode (k, d)
  aeadEncrypt k n p := some (sealed.encode (k, n, p))
  aeadDecrypt k n c := (sealed.decode c).bind fun (k', n', p) =>
    if k = k' ∧ n = n' then some p else none

/-- A ciphertext opens exactly with the key and nonce it was made with. -/
theorem aeadDecrypt_encode (k k' : Term) (n n' : Nonce) (p : Bytes) :
    symbolic.aeadDecrypt k n (sealed.encode (k', n', p)) =
      if k = k' ∧ n = n' then some p else none := by
  simp [symbolic]

/-- **The symbolic primitives meet the assumptions of the code.** -/
theorem symbolic_lawful : symbolic.Lawful where
  agree_comm a b := Term.agree_comm a b
  decrypt_encrypt k n p := ⟨sealed.encode (k, n, p), rfl, by simp [aeadDecrypt_encode]⟩

/-- Crates that use the symbolic primitives. -/
theorem lawful_of_eq {P : Primitives Term} (h : P = symbolic) : P.Lawful := by
  rw [h]
  exact symbolic_lawful

/-- A ciphertext that opens was made with the key and nonce it opens with. -/
theorem decode_of_decrypt {k : Term} {n : Nonce} {c t : Bytes}
    (h : decrypt symbolic c k n = .ok t) : sealed.decode c = some (k, n, t) := by
  have hd := decrypt_eq_ok.mp h
  unfold symbolic at hd
  simp only [Option.bind_eq_some_iff] at hd
  obtain ⟨⟨k₀, n₀, p₀⟩, hdec, hif⟩ := hd
  split at hif
  · next hkn =>
    obtain ⟨rfl, rfl⟩ := hkn
    cases hif
    exact hdec
  · cases hif

/-- A ciphertext that one key opens, no other key opens. -/
theorem decrypt_other_key {k k' : Term} {n : Nonce} {c t : Bytes}
    (h : decrypt symbolic c k n = .ok t) (hk : k' ≠ k) :
    decrypt symbolic c k' n = .error (.decryptionFailed aeadErrorText) := by
  unfold decrypt symbolic
  simp only [decode_of_decrypt h, Option.bind_some]
  rw [if_neg (fun h' => hk h'.1)]

/-! ## Chains -/

@[simp] theorem nextChainKey_eq (k : Term) : nextChainKey symbolic k = .hash 2 k := rfl

@[simp] theorem messageKey_eq (k : Term) : messageKey symbolic k = .hash 1 k := rfl

theorem messageKey_injective : Function.Injective (messageKey symbolic) := by
  intro a b h
  simpa using h

theorem nextChainKey_injective : Function.Injective (nextChainKey symbolic) := by
  intro a b h
  simpa using h

/-- The number of chain steps on top of a term. -/
def Term.steps : Term → ℕ
  | .hash 2 k => k.steps + 1
  | _ => 0

/-- What lies under the chain steps of a term. -/
def Term.seed : Term → Term
  | .hash 2 k => k.seed
  | k => k

@[simp] theorem steps_iterate (k : Term) (n : ℕ) :
    ((nextChainKey symbolic)^[n] k).steps = k.steps + n := by
  induction n with
  | zero => rfl
  | succ n ih =>
    rw [Function.iterate_succ_apply', nextChainKey_eq, Term.steps, ih]
    omega

@[simp] theorem seed_iterate (k : Term) (n : ℕ) :
    ((nextChainKey symbolic)^[n] k).seed = k.seed := by
  induction n with
  | zero => rfl
  | succ n ih => rw [Function.iterate_succ_apply', nextChainKey_eq, Term.seed, ih]

/-- Two points of one chain are equal only at the same position. -/
theorem iterate_inj_iff (k : Term) (m n : ℕ) :
    (nextChainKey symbolic)^[m] k = (nextChainKey symbolic)^[n] k ↔ m = n := by
  constructor
  · intro h
    have := congrArg Term.steps h
    simp only [steps_iterate] at this
    omega
  · rintro rfl
    rfl

/-- Chains over different seeds never meet. -/
theorem iterate_ne_of_seed {k k' : Term} (h : k.seed ≠ k'.seed) (m n : ℕ) :
    (nextChainKey symbolic)^[m] k ≠ (nextChainKey symbolic)^[n] k' := by
  intro he
  have := congrArg Term.seed he
  simp only [seed_iterate] at this
  exact h this

/-! ## The DH step -/

/-- The initiator's DH step leaves the receiving chain alone. -/
theorem receiveHeader_recvChainKey_initiator {r : Ratchet Term} (hr : r.isInitiator = true)
    (k : Term) : (r.receiveHeader symbolic k).recvChainKey = r.recvChainKey := by
  unfold Ratchet.receiveHeader Ratchet.dhRatchetStep
  split
  · simp [hr]
  · rfl

/-- The responder's DH step starts a new receiving chain from the root key. -/
theorem receiveHeader_recvChainKey_responder {r : Ratchet Term} (hr : r.isInitiator = false)
    {k : Term} (hk : k ≠ r.theirRatchetKey) :
    ∃ d, (r.receiveHeader symbolic k).recvChainKey = .chain r.rootKey d ∧
      (r.receiveHeader symbolic k).rootKey = .root r.rootKey d := by
  rw [Ratchet.receiveHeader_step hk]
  unfold Ratchet.dhRatchetStep
  simp only [hr]
  exact ⟨_, rfl, rfl⟩

/-- A receiving chain over a derived key stays one, whether or not the DH step fires. -/
theorem receiveHeader_seed {r : Ratchet Term} (h : r.recvChainKey.seed ≠ .zero) (k : Term) :
    (r.receiveHeader symbolic k).recvChainKey.seed ≠ .zero := by
  by_cases hk : k = r.theirRatchetKey
  · rw [hk, Ratchet.receiveHeader_same]
    exact h
  · cases hr : r.isInitiator with
    | true => rwa [receiveHeader_recvChainKey_initiator hr]
    | false =>
      obtain ⟨d, hd, -⟩ := receiveHeader_recvChainKey_responder hr hk
      rw [hd]
      exact fun he => by cases he

end TinTin.Symbolic
