/-
  Keys and cipher of `tintin-core` (`keys.rs`, `cipher.rs`), over the third-party primitives.

  `[u8; 32]` is a type parameter `Key`: the source never looks inside a key, it only
  compares keys and hands them to the primitives. `Primitives Key` collects the calls into
  x25519-dalek, hkdf, sha2 and chacha20poly1305. `Primitives.Lawful` is what the code
  relies on: X25519 agreement commutes on well-formed key pairs, and ChaCha20-Poly1305
  decryption inverts encryption under the same key and nonce.

  Randomness is an argument: the secret of a fresh key pair, the nonce of an encryption.
  `KeyPair::agree` wraps its result in `Ok` and has no error path, so `agree` returns the
  shared key itself.
-/
import Mathlib.Data.List.Basic

namespace TinTin.Core

/-- `Vec<u8>`. -/
abbrev Bytes := List UInt8

/-- `[u8; 12]`, a ChaCha20-Poly1305 nonce. -/
abbrev Nonce := Vector UInt8 12

/-- The third-party primitives, on 32-byte keys. -/
structure Primitives (Key : Type) where
  /-- `[0u8; 32]` -/
  zeroKey : Key
  /-- `x25519_dalek::PublicKey::from(&secret)` -/
  publicKey : Key → Key
  /-- `StaticSecret::diffie_hellman` of a secret and a public key -/
  diffieHellman : Key → Key → Key
  /-- The two 32-byte halves of `Hkdf::<Sha256>::new(None, ikm).expand(info, 64 bytes)` -/
  hkdfExpand : Key → Key → Key × Key
  /-- SHA-256 of one tag byte followed by a key -/
  sha256 : UInt8 → Key → Key
  /-- SHA-256 of a key followed by a label -/
  sha256Label : Key → String → Key
  /-- SHA-512 of a key followed by a key -/
  sha512 : Key → Key → Bytes
  /-- `ChaCha20Poly1305::encrypt` -/
  aeadEncrypt : Key → Nonce → Bytes → Option Bytes
  /-- `ChaCha20Poly1305::decrypt` -/
  aeadDecrypt : Key → Nonce → Bytes → Option Bytes

/-- What the code relies on in the primitives. -/
structure Primitives.Lawful {Key : Type} (P : Primitives Key) : Prop where
  agree_comm : ∀ a b, P.diffieHellman a (P.publicKey b) = P.diffieHellman b (P.publicKey a)
  decrypt_encrypt : ∀ k n p, ∃ c, P.aeadEncrypt k n p = some c ∧ P.aeadDecrypt k n c = some p

/-- The errors of `error.rs` that the session code returns. -/
inductive TinTinError
  | encryptionFailed (msg : String)
  | decryptionFailed (msg : String)
  deriving DecidableEq, Repr

/-- `format!("ChaCha20Poly1305: {e}")` for the crate's only error value. -/
def aeadErrorText : String := "ChaCha20Poly1305: aead::Error"

variable {Key : Type}

/-! ## Key pairs -/

/-- An X25519 key pair. -/
structure KeyPair (Key : Type) where
  secret : Key
  publicKey : Key
  deriving DecidableEq, Repr

/-- `KeyPair::generate`, with the random secret as an argument. -/
def KeyPair.generate (P : Primitives Key) (secret : Key) : KeyPair Key where
  secret := secret
  publicKey := P.publicKey secret

/-- `KeyPair::agree`: X25519 with the other side's public key. -/
def KeyPair.agree (P : Primitives Key) (kp : KeyPair Key) (theirPublic : Key) : Key :=
  P.diffieHellman kp.secret theirPublic

/-- The public half belongs to the secret half. -/
def KeyPair.WellFormed (P : Primitives Key) (kp : KeyPair Key) : Prop :=
  kp.publicKey = P.publicKey kp.secret

theorem KeyPair.generate_wellFormed (P : Primitives Key) (secret : Key) :
    (KeyPair.generate P secret).WellFormed P := rfl

/-- Both sides of an X25519 exchange compute the same shared key. -/
theorem KeyPair.agree_comm {P : Primitives Key} (hP : P.Lawful) {a b : KeyPair Key}
    (ha : a.WellFormed P) (hb : b.WellFormed P) :
    a.agree P b.publicKey = b.agree P a.publicKey := by
  unfold KeyPair.agree
  rw [ha, hb]
  exact hP.agree_comm a.secret b.secret

/-- A long-term identity key pair. -/
structure IdentityKeyPair (Key : Type) where
  keyPair : KeyPair Key
  deriving DecidableEq, Repr

/-- `IdentityKeyPair::public_key` -/
def IdentityKeyPair.publicKey (i : IdentityKeyPair Key) : Key := i.keyPair.publicKey

/-- A signed pre-key. -/
structure SignedPreKey (Key : Type) where
  id : UInt32
  keyPair : KeyPair Key
  signature : Bytes
  deriving DecidableEq, Repr

/-- `sign_identity`: SHA-512 of the identity secret and the signed key. -/
def signIdentity (P : Primitives Key) (identity : IdentityKeyPair Key) (data : Key) : Bytes :=
  P.sha512 identity.keyPair.secret data

/-- `SignedPreKey::generate`, with the random secret as an argument. -/
def SignedPreKey.generate (P : Primitives Key) (id : UInt32) (identity : IdentityKeyPair Key)
    (secret : Key) : SignedPreKey Key :=
  let keyPair := KeyPair.generate P secret
  { id := id, keyPair := keyPair, signature := signIdentity P identity keyPair.publicKey }

theorem SignedPreKey.generate_wellFormed (P : Primitives Key) (id : UInt32)
    (identity : IdentityKeyPair Key) (secret : Key) :
    (SignedPreKey.generate P id identity secret).keyPair.WellFormed P := rfl

/-! ## Cipher -/

/-- `derive_chain_keys`: the new root key and the chain key. -/
def deriveChainKeys (P : Primitives Key) (rootKey dhOutput : Key) : Key × Key :=
  P.hkdfExpand rootKey dhOutput

/-- `cipher::encrypt`, with the random nonce as an argument. -/
def encrypt (P : Primitives Key) (nonce : Nonce) (plaintext : Bytes) (key : Key) :
    Except TinTinError (Bytes × Nonce) :=
  match P.aeadEncrypt key nonce plaintext with
  | some ciphertext => .ok (ciphertext, nonce)
  | none => .error (.encryptionFailed aeadErrorText)

/-- `cipher::decrypt` -/
def decrypt (P : Primitives Key) (ciphertext : Bytes) (key : Key) (nonce : Nonce) :
    Except TinTinError Bytes :=
  match P.aeadDecrypt key nonce ciphertext with
  | some plaintext => .ok plaintext
  | none => .error (.decryptionFailed aeadErrorText)

theorem encrypt_eq_ok {P : Primitives Key} {nonce : Nonce} {plaintext c : Bytes} {key : Key}
    {n : Nonce} : encrypt P nonce plaintext key = .ok (c, n) ↔
      P.aeadEncrypt key nonce plaintext = some c ∧ n = nonce := by
  unfold encrypt
  cases P.aeadEncrypt key nonce plaintext <;> simp [eq_comm]

theorem decrypt_eq_ok {P : Primitives Key} {ciphertext p : Bytes} {key : Key} {nonce : Nonce} :
    decrypt P ciphertext key nonce = .ok p ↔ P.aeadDecrypt key nonce ciphertext = some p := by
  unfold decrypt
  cases P.aeadDecrypt key nonce ciphertext <;> simp

/-- `cipher::decrypt` inverts `cipher::encrypt`, and `cipher::encrypt` does not fail. -/
theorem decrypt_encrypt {P : Primitives Key} (hP : P.Lawful) (nonce : Nonce) (plaintext : Bytes)
    (key : Key) : ∃ c, encrypt P nonce plaintext key = .ok (c, nonce) ∧
      decrypt P c key nonce = .ok plaintext := by
  obtain ⟨c, hc, hd⟩ := hP.decrypt_encrypt key nonce plaintext
  exact ⟨c, encrypt_eq_ok.mpr ⟨hc, rfl⟩, decrypt_eq_ok.mpr hd⟩

end TinTin.Core
