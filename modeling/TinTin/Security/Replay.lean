/-
  What a session accepts, it accepts once.

  Nothing is remembered of the messages that came in: `decrypt_message` draws the next key of the
  receiving chain, and a message opens only under the key it was sealed with. An adversary can
  make the responder start a new chain by any message with another ratchet key. But each DH step
  puts a new root key on top of the old one, and each draw a hash on top of the chain, so the
  place of the drawn keys, first by the root key and then along the chain, only rises.

  * `rises_session`: each decryption draws from above where the session stands.
  * `accepted_once`: no ciphertext is accepted twice, by a session of either role.
-/
import TinTin.Core.Session
import TinTin.Symbolic.Term
import TinTin.Lib.Rising
import Mathlib.Data.Prod.Lex

namespace TinTin.Security

open TinTin.Lib TinTin.Core TinTin.Symbolic

/-! ## The place of a key -/

/-- The number of DH steps in a root key. -/
def rootDepth : Term → ℕ
  | .root k _ => rootDepth k + 1
  | _ => 0

/-- The number of DH steps before a chain began, and one for its own. -/
def chainRank : Term → ℕ
  | .chain k _ => rootDepth k + 1
  | _ => 0

/-- The chain a key belongs to, and how far along it lies. -/
def place (k : Term) : ℕ ×ₗ ℕ := toLex (chainRank k.seed, k.steps)

/-- The next key of a chain lies above. -/
theorem place_lt_next (k : Term) : place k < place (nextChainKey symbolic k) := by
  unfold place
  rw [Prod.Lex.toLex_lt_toLex]
  exact .inr ⟨rfl, Nat.lt_succ_self _⟩

/-! ## The receiving chain -/

/-- The responder's receiving chain began at or below its root key. -/
def UnderRoot (r : Ratchet Term) : Prop :=
  r.isInitiator = false → chainRank r.recvChainKey.seed ≤ rootDepth r.rootKey

/-- A message's ratchet key leaves the chain, or starts one above it. -/
theorem place_le_receiveHeader {r : Ratchet Term} (h : UnderRoot r) (k : Term) :
    place r.recvChainKey ≤ place (r.receiveHeader symbolic k).recvChainKey := by
  by_cases hk : k = r.theirRatchetKey
  · rw [hk, Ratchet.receiveHeader_same]
  · cases hr : r.isInitiator with
    | true => rw [receiveHeader_recvChainKey_initiator hr]
    | false =>
      obtain ⟨d, hchain, -⟩ := receiveHeader_recvChainKey_responder hr hk
      have hbelow := h hr
      rw [hchain]
      unfold place
      rw [Prod.Lex.toLex_le_toLex]
      exact .inl (Nat.lt_succ_of_le hbelow)

theorem underRoot_receiveHeader {r : Ratchet Term} (h : UnderRoot r) (k : Term) :
    UnderRoot (r.receiveHeader symbolic k) := by
  intro hr
  rw [Ratchet.receiveHeader_isInitiator] at hr
  by_cases hk : k = r.theirRatchetKey
  · rw [hk, Ratchet.receiveHeader_same]
    exact h hr
  · obtain ⟨d, hchain, hroot⟩ := receiveHeader_recvChainKey_responder hr hk
    rw [hchain, hroot]
    exact Nat.le_refl _

/-! ## Runs of a session -/

/-- A use of a session. -/
inductive SessionCall
  | encrypt (nonce : Nonce) (plaintext : Bytes)
  | decrypt (message : SessionMessage Term)

/-- One call: the message if it was accepted, and the session afterwards. -/
def callSession (s : Session Term) : SessionCall → Option (SessionMessage Term) × Session Term
  | .encrypt nonce plaintext => (none, (s.encrypt symbolic nonce plaintext).2)
  | .decrypt message =>
    (if (s.decrypt symbolic message).1.isOk then some message else none,
      (s.decrypt symbolic message).2)

/-- The messages that a session accepts, in order. -/
def accepted : Session Term → List SessionCall → List (SessionMessage Term) := outputs callSession

/-- The chain key from which the key of a ciphertext was drawn. -/
def chainOf (ciphertext : Bytes) : Term :=
  match sealed.decode ciphertext with
  | some (.hash 1 k, _) => k
  | _ => .zero

/-- A ciphertext that opens was sealed with the key drawn for it. -/
theorem chainOf_accepted {s : Session Term} {m : SessionMessage Term}
    (h : (s.decrypt symbolic m).1.isOk = true) : chainOf m.ciphertext =
      (s.ratchet.receiveHeader symbolic m.ratchetKey).recvChainKey := by
  rw [Session.decrypt_result, Ratchet.decryptMessage_result] at h
  cases hres : decrypt symbolic (Session.toRatcheted m).ciphertext (messageKey symbolic
      (s.ratchet.receiveHeader symbolic (Session.toRatcheted m).ratchetKey).recvChainKey)
      (Session.toRatcheted m).nonce with
  | error e =>
    rw [hres] at h
    cases h
  | ok plaintext =>
    have hsealed := decode_of_decrypt hres
    unfold chainOf
    rw [show m.ciphertext = (Session.toRatcheted m).ciphertext from rfl, hsealed]
    rfl

/-- **What a session accepts rises.** -/
theorem rises_session : Rises callSession (fun s => UnderRoot s.ratchet)
    (fun s => place s.ratchet.recvChainKey) (fun m => place (chainOf m.ciphertext)) where
  keeps s call h := by
    cases call with
    | encrypt nonce plaintext =>
      show UnderRoot (s.encrypt symbolic nonce plaintext).2.ratchet
      rw [Session.encrypt_state]
      exact h
    | decrypt m => exact underRoot_receiveHeader h m.ratchetKey
  level_le s call h := by
    cases call with
    | encrypt nonce plaintext =>
      show place _ ≤ place (s.encrypt symbolic nonce plaintext).2.ratchet.recvChainKey
      rw [Session.encrypt_state]
      exact le_refl _
    | decrypt m =>
      exact (place_le_receiveHeader h m.ratchetKey).trans (place_lt_next _).le
  le_height s call m h hm := by
    cases call with
    | encrypt => cases hm
    | decrypt m' =>
      obtain ⟨hok, heq⟩ := Option.ite_none_right_eq_some.mp hm
      cases heq
      rw [chainOf_accepted hok]
      exact place_le_receiveHeader h _
  height_lt s call m h hm := by
    cases call with
    | encrypt => cases hm
    | decrypt m' =>
      obtain ⟨hok, heq⟩ := Option.ite_none_right_eq_some.mp hm
      cases heq
      rw [chainOf_accepted hok]
      exact place_lt_next _

/-- How a session comes about. -/
inductive Beginning
  | initiator (ephSecret : Term) (ourIdentity : IdentityKeyPair Term) (remoteUserId : String)
    (remoteDeviceId : UInt32) (theirIdentityKey signedPreKeyPublic : Term)
  | responder (ourIdentity : IdentityKeyPair Term) (remoteUserId : String)
    (remoteDeviceId : UInt32) (theirIdentityKey aliceEphPublic : Term)
    (ourSignedPreKey : SignedPreKey Term)

def Beginning.session : Beginning → Session Term
  | .initiator ephSecret ourIdentity remoteUserId remoteDeviceId theirIdentityKey
      signedPreKeyPublic =>
    .newInitiator symbolic ephSecret ourIdentity remoteUserId remoteDeviceId theirIdentityKey
      signedPreKeyPublic
  | .responder ourIdentity remoteUserId remoteDeviceId theirIdentityKey aliceEphPublic
      ourSignedPreKey =>
    .newResponder symbolic ourIdentity remoteUserId remoteDeviceId theirIdentityKey
      aliceEphPublic ourSignedPreKey

theorem underRoot_beginning (o : Beginning) : UnderRoot o.session.ratchet := by
  cases o with
  | initiator =>
    intro hr
    cases hr
  | responder =>
    intro _
    exact Nat.le_refl _

/-- **No ciphertext is accepted twice.** Whatever keys a session of either role was made from, and
    whatever messages it is given, in any order, repeated, or under any ratchet keys: of those it
    accepts no two have the same ciphertext. -/
theorem accepted_once (o : Beginning) (calls : List SessionCall) :
    ((accepted o.session calls).map (·.ciphertext)).Nodup :=
  rises_session.nodup_map (underRoot_beginning o) calls fun _ _ h =>
    congrArg (fun ciphertext => place (chainOf ciphertext)) h

end TinTin.Security
