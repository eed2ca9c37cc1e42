/-
  The Double Ratchet state of one side (`ratchet.rs`).

  Every operation returns its result together with the state it leaves, also when the
  result is an error: `next_send_key` and `next_recv_key` advance the chain before the
  AEAD is called, and `decrypt_message` performs the DH step before that.

  Counters are `u32` and wrap, as in a release build; `Conversation.lean` shows that no
  addition wraps in a run of fewer than 2^32 messages, where a debug build's overflow
  check would not fire either.

  Proved here, one group for each operation:
  * `nextSendKey`, `nextRecvKey`: the key they return and the fields they touch.
  * `encryptMessage_ok`: what a successful encryption returns and leaves.
  * `receiveHeader_step`, `decryptMessage_same`: decryption with and without a DH step.
-/
import TinTin.Core.Message

namespace TinTin.Core

variable {Key : Type}

/-! ## The state -/

/-- The Double Ratchet state for one side of a conversation. -/
structure Ratchet (Key : Type) where
  dhRatchetKey : KeyPair Key
  theirRatchetKey : Key
  rootKey : Key
  sendChainKey : Key
  recvChainKey : Key
  sendMsgNumber : UInt32
  recvMsgNumber : UInt32
  prevSendCount : UInt32
  maxSkip : UInt32
  isInitiator : Bool
  deriving DecidableEq, Repr

/-- A message encrypted under the Double Ratchet. -/
structure RatchetedMessage (Key : Type) where
  ratchetKey : Key
  ciphertext : Bytes
  nonce : Nonce
  messageNumber : UInt32
  previousCount : UInt32
  deriving DecidableEq, Repr

/-- `next_chain_key = SHA-256(0x02 || chain_key)` -/
def nextChainKey (P : Primitives Key) (chainKey : Key) : Key := P.sha256 0x02 chainKey

/-- `message_key = SHA-256(0x01 || chain_key)` -/
def messageKey (P : Primitives Key) (chainKey : Key) : Key := P.sha256 0x01 chainKey

/-- `ratchet_chain_key`: the next chain key and a message key. -/
def ratchetChainKey (P : Primitives Key) (chainKey : Key) : Key × Key :=
  (nextChainKey P chainKey, messageKey P chainKey)

namespace Ratchet

/-! ## Construction -/

/-- `Ratchet::new_initiator` -/
def newInitiator (P : Primitives Key) (sharedSecret : Key) (ephKey : KeyPair Key)
    (bobSignedPreKey : Key) : Ratchet Key :=
  let keys := deriveChainKeys P sharedSecret ephKey.publicKey
  { dhRatchetKey := ephKey
    theirRatchetKey := bobSignedPreKey
    rootKey := keys.1
    sendChainKey := keys.2
    recvChainKey := P.zeroKey
    sendMsgNumber := 0
    recvMsgNumber := 0
    prevSendCount := 0
    maxSkip := 100
    isInitiator := true }

/-- `Ratchet::new_responder` -/
def newResponder (P : Primitives Key) (sharedSecret : Key) (aliceEphPublic : Key)
    (ourIdentityKey : KeyPair Key) : Ratchet Key :=
  let keys := deriveChainKeys P sharedSecret aliceEphPublic
  { dhRatchetKey := ourIdentityKey
    theirRatchetKey := aliceEphPublic
    rootKey := keys.1
    sendChainKey := P.zeroKey
    recvChainKey := keys.2
    sendMsgNumber := 0
    recvMsgNumber := 0
    prevSendCount := 0
    maxSkip := 100
    isInitiator := false }

/-! ## Chain steps -/

/-- `next_send_key`: the message key and the advanced sending chain. -/
def nextSendKey (P : Primitives Key) (r : Ratchet Key) : Key × Ratchet Key :=
  let keys := ratchetChainKey P r.sendChainKey
  (keys.2, { r with sendChainKey := keys.1, sendMsgNumber := r.sendMsgNumber + 1 })

/-- `next_recv_key`: the message key and the advanced receiving chain. -/
def nextRecvKey (P : Primitives Key) (r : Ratchet Key) : Key × Ratchet Key :=
  let keys := ratchetChainKey P r.recvChainKey
  (keys.2, { r with recvChainKey := keys.1, recvMsgNumber := r.recvMsgNumber + 1 })

/-- `dh_ratchet_step`: new root and chain keys from a DH exchange of the current key pair
    with the current `their_ratchet_key`. The key pair itself stays as it is. -/
def dhRatchetStep (P : Primitives Key) (r : Ratchet Key) : Ratchet Key :=
  let dhOutput := r.dhRatchetKey.agree P r.theirRatchetKey
  let keys := deriveChainKeys P r.rootKey dhOutput
  let r := { r with rootKey := keys.1 }
  let r := if r.isInitiator then { r with sendChainKey := keys.2 }
    else { r with recvChainKey := keys.2 }
  { r with sendMsgNumber := 0, recvMsgNumber := 0 }

/-! ## Messages -/

/-- `encrypt_message`: the chain is advanced whether or not the AEAD succeeds. -/
def encryptMessage (P : Primitives Key) (r : Ratchet Key) (nonce : Nonce) (plaintext : Bytes) :
    Except TinTinError (RatchetedMessage Key) × Ratchet Key :=
  let (msgKey, r) := r.nextSendKey P
  match encrypt P nonce plaintext msgKey with
  | .error e => (.error e, r)
  | .ok (ciphertext, nonce) =>
    (.ok { ratchetKey := r.dhRatchetKey.publicKey
           ciphertext := ciphertext
           nonce := nonce
           messageNumber := r.sendMsgNumber - 1
           previousCount := r.prevSendCount }, r)

/-- The state in which `decrypt_message` draws its key: after the DH step if the message
    carries a new ratchet key. -/
def receiveHeader [DecidableEq Key] (P : Primitives Key) (r : Ratchet Key) (ratchetKey : Key) :
    Ratchet Key :=
  if ratchetKey ≠ r.theirRatchetKey then
    ({ r with theirRatchetKey := ratchetKey }).dhRatchetStep P
  else r

/-- `decrypt_message`: the state is changed before the AEAD check and kept if it fails. -/
def decryptMessage [DecidableEq Key] (P : Primitives Key) (r : Ratchet Key)
    (msg : RatchetedMessage Key) : Except TinTinError Bytes × Ratchet Key :=
  let r := r.receiveHeader P msg.ratchetKey
  let (msgKey, r) := r.nextRecvKey P
  (decrypt P msg.ciphertext msgKey msg.nonce, r)

/-! ## What each operation does -/

variable {P : Primitives Key}

@[simp] theorem nextSendKey_key (r : Ratchet Key) :
    (r.nextSendKey P).1 = messageKey P r.sendChainKey := rfl

@[simp] theorem nextSendKey_state (r : Ratchet Key) :
    (r.nextSendKey P).2 = { r with
      sendChainKey := nextChainKey P r.sendChainKey, sendMsgNumber := r.sendMsgNumber + 1 } := rfl

@[simp] theorem nextRecvKey_state (r : Ratchet Key) :
    (r.nextRecvKey P).2 = { r with
      recvChainKey := nextChainKey P r.recvChainKey, recvMsgNumber := r.recvMsgNumber + 1 } := rfl

/-- Encryption leaves the state of `next_send_key`, whatever the AEAD says. -/
@[simp] theorem encryptMessage_state (r : Ratchet Key) (nonce : Nonce) (plaintext : Bytes) :
    (r.encryptMessage P nonce plaintext).2 = (r.nextSendKey P).2 := by
  unfold encryptMessage
  dsimp only
  split <;> rfl

/-- A successful encryption carries the current ratchet key and number, and its ciphertext
    is the plaintext under the next message key of the sending chain. -/
theorem encryptMessage_ok {r : Ratchet Key} {nonce : Nonce} {plaintext : Bytes}
    {msg : RatchetedMessage Key} (h : (r.encryptMessage P nonce plaintext).1 = .ok msg) :
    msg.ratchetKey = r.dhRatchetKey.publicKey ∧ msg.messageNumber = r.sendMsgNumber ∧
      msg.nonce = nonce ∧
      P.aeadEncrypt (messageKey P r.sendChainKey) nonce plaintext = some msg.ciphertext := by
  unfold encryptMessage at h
  dsimp only at h
  split at h
  · cases h
  · next c n heq =>
    obtain ⟨hc, rfl⟩ := encrypt_eq_ok.mp heq
    cases h
    exact ⟨rfl, by simp, rfl, hc⟩

/-- With the assumed cipher an encryption does not fail. -/
theorem exists_encryptMessage_ok (hP : P.Lawful) (r : Ratchet Key) (nonce : Nonce)
    (plaintext : Bytes) : ∃ msg, (r.encryptMessage P nonce plaintext).1 = .ok msg := by
  obtain ⟨c, hc, -⟩ := decrypt_encrypt hP nonce plaintext (messageKey P r.sendChainKey)
  unfold encryptMessage
  dsimp only
  rw [nextSendKey_key, hc]
  exact ⟨_, rfl⟩

variable [DecidableEq Key]

@[simp] theorem receiveHeader_same (r : Ratchet Key) :
    r.receiveHeader P r.theirRatchetKey = r := by
  simp [receiveHeader]

theorem receiveHeader_step {r : Ratchet Key} {k : Key} (h : k ≠ r.theirRatchetKey) :
    r.receiveHeader P k = ({ r with theirRatchetKey := k }).dhRatchetStep P :=
  if_pos h

/-- The ratchet key of a message is the remote key afterwards. -/
@[simp] theorem receiveHeader_theirRatchetKey (r : Ratchet Key) (k : Key) :
    (r.receiveHeader P k).theirRatchetKey = k := by
  unfold receiveHeader dhRatchetStep
  split
  · dsimp only
    split <;> rfl
  · next h => exact (not_not.mp h).symm

/-- The DH step leaves the own key pair and the role alone. -/
@[simp] theorem receiveHeader_dhRatchetKey (r : Ratchet Key) (k : Key) :
    (r.receiveHeader P k).dhRatchetKey = r.dhRatchetKey := by
  unfold receiveHeader dhRatchetStep
  dsimp only
  split_ifs <;> rfl

@[simp] theorem receiveHeader_isInitiator (r : Ratchet Key) (k : Key) :
    (r.receiveHeader P k).isInitiator = r.isInitiator := by
  unfold receiveHeader dhRatchetStep
  dsimp only
  split_ifs <;> simp_all

theorem decryptMessage_result (r : Ratchet Key) (msg : RatchetedMessage Key) :
    (r.decryptMessage P msg).1 =
      decrypt P msg.ciphertext (messageKey P (r.receiveHeader P msg.ratchetKey).recvChainKey)
        msg.nonce := rfl

@[simp] theorem decryptMessage_state (r : Ratchet Key) (msg : RatchetedMessage Key) :
    (r.decryptMessage P msg).2 = ((r.receiveHeader P msg.ratchetKey).nextRecvKey P).2 := rfl

/-- A message under the known ratchet key is opened with the next key of the receiving
    chain, and only that chain and its counter move. -/
theorem decryptMessage_same (r : Ratchet Key) (msg : RatchetedMessage Key)
    (h : msg.ratchetKey = r.theirRatchetKey) :
    r.decryptMessage P msg =
      (decrypt P msg.ciphertext (messageKey P r.recvChainKey) msg.nonce,
        (r.nextRecvKey P).2) := by
  unfold decryptMessage
  rw [h, receiveHeader_same]
  rfl

end Ratchet

end TinTin.Core
