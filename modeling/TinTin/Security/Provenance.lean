/-
  Where the keys of a session come from, whatever messages it is given.

  A session has one chain over its key agreement, the initiator's sending and the responder's
  receiving one; its other chain is over `[0u8; 32]`. Root key and the chain over the
  agreement carry the ephemeral key that the session was made with at their bottom
  (`base`), and whoever reaches one of them reaches the agreement (`Within`). Both is so
  of a new ratchet (`Stems.newInitiator`, `Stems.newResponder`), and neither encryption nor
  decryption of anything at all changes it.

  `Agrees` says which agreement that is.
-/
import TinTin.Security.Secrecy

namespace TinTin.Security

open TinTin.Lib TinTin.Core TinTin.Symbolic

/-! ## What a key was made with -/

/-- Derived as the first half of a KDF output. -/
def isRoot : Term → Bool
  | .root _ _ => true
  | _ => false

/-- The salt of the first KDF call that a chain or root key goes back to. -/
def base : Term → Term
  | .hash _ k => base k
  | .root k d => if isRoot k then base k else d
  | .chain k d => if isRoot k then base k else d
  | k => k

@[simp] theorem base_nextChainKey (k : Term) : base (nextChainKey symbolic k) = base k := rfl

@[simp] theorem base_messageKey (k : Term) : base (messageKey symbolic k) = base k := rfl

theorem isRoot_diffieHellman (s p : Term) : isRoot (s.diffieHellman p) = false := by
  cases h : s.diffieHellman p with
  | root k d => exact absurd h (diffieHellman_ne_root s p k d)
  | _ => rfl

/-! ## Ratchets -/

/-- The chain over the key agreement. -/
def live (r : Ratchet Term) : Term := if r.isInitiator then r.sendChainKey else r.recvChainKey

/-- The chain over `[0u8; 32]`. -/
def idle (r : Ratchet Term) : Term := if r.isInitiator then r.recvChainKey else r.sendChainKey

/-- The ratchet goes back to the agreement `shared` and the ephemeral key `eph`. -/
structure Stems (shared eph : Term) (r : Ratchet Term) : Prop where
  isRoot : isRoot r.rootKey = true
  root : base r.rootKey = eph
  live : base (live r) = eph
  idle : base (idle r) = .zero
  rootWithin : ∀ own, Within own r.rootKey → Within own shared
  liveWithin : ∀ own, Within own (Security.live r) → Within own shared

namespace Stems

variable {shared eph : Term} {r : Ratchet Term}

theorem newInitiator (ephKey : KeyPair Term) (preKey : Term) :
    Stems (ephKey.agree symbolic preKey) ephKey.publicKey
      (.newInitiator symbolic (ephKey.agree symbolic preKey) ephKey preKey) := by
  have hshared : Security.isRoot (ephKey.agree symbolic preKey) = false :=
    isRoot_diffieHellman ephKey.secret preKey
  have hbase : ∀ d, (if Security.isRoot (ephKey.agree symbolic preKey) then
      base (ephKey.agree symbolic preKey) else d) = d := by
    intro d
    rw [hshared]
    rfl
  exact ⟨rfl, hbase _, hbase _, rfl, fun _ h => h.1, fun _ h => h.1⟩

theorem newResponder (preKey : KeyPair Term) (eph : Term) :
    Stems (preKey.agree symbolic eph) eph
      (.newResponder symbolic (preKey.agree symbolic eph) eph preKey) := by
  have hshared : Security.isRoot (preKey.agree symbolic eph) = false :=
    isRoot_diffieHellman preKey.secret eph
  have hbase : ∀ d, (if Security.isRoot (preKey.agree symbolic eph) then
      base (preKey.agree symbolic eph) else d) = d := by
    intro d
    rw [hshared]
    rfl
  exact ⟨rfl, hbase _, hbase _, rfl, fun _ h => h.1, fun _ h => h.1⟩

theorem nextSendKey (h : Stems shared eph r) : Stems shared eph (r.nextSendKey symbolic).2 := by
  obtain ⟨hisRoot, hroot, hlive, hidle, hrootW, hliveW⟩ := h
  cases hr : r.isInitiator with
  | true =>
    simp only [Security.live, Security.idle, hr, if_true] at hlive hidle hliveW
    exact ⟨hisRoot, hroot, by simpa [Security.live, hr, base] using hlive,
      by simpa [Security.idle, hr] using hidle, hrootW,
      by simpa [Security.live, hr, Within] using hliveW⟩
  | false =>
    simp only [Security.live, Security.idle, hr, Bool.false_eq_true, if_false] at hlive hidle hliveW
    exact ⟨hisRoot, hroot, by simpa [Security.live, hr] using hlive,
      by simpa [Security.idle, hr, base] using hidle, hrootW,
      by simpa [Security.live, hr] using hliveW⟩

theorem nextRecvKey (h : Stems shared eph r) : Stems shared eph (r.nextRecvKey symbolic).2 := by
  obtain ⟨hisRoot, hroot, hlive, hidle, hrootW, hliveW⟩ := h
  cases hr : r.isInitiator with
  | true =>
    simp only [Security.live, Security.idle, hr, if_true] at hlive hidle hliveW
    exact ⟨hisRoot, hroot, by simpa [Security.live, hr] using hlive,
      by simpa [Security.idle, hr, base] using hidle, hrootW,
      by simpa [Security.live, hr] using hliveW⟩
  | false =>
    simp only [Security.live, Security.idle, hr, Bool.false_eq_true, if_false] at hlive hidle hliveW
    exact ⟨hisRoot, hroot, by simpa [Security.live, hr, base] using hlive,
      by simpa [Security.idle, hr] using hidle, hrootW,
      by simpa [Security.live, hr, Within] using hliveW⟩

/-- A DH step with any key derives from the root key, and leaves the chain over `[0u8; 32]`. -/
theorem receiveHeader (h : Stems shared eph r) (k : Term) :
    Stems shared eph (r.receiveHeader symbolic k) := by
  by_cases hk : k = r.theirRatchetKey
  · rw [hk, Ratchet.receiveHeader_same]
    exact h
  rw [Ratchet.receiveHeader_step hk]
  obtain ⟨hisRoot, hroot, hlive, hidle, hrootW, hliveW⟩ := h
  have hbase : ∀ d, (if Security.isRoot r.rootKey then base r.rootKey else d) = eph := by
    intro d
    rw [if_pos hisRoot, hroot]
  have hderived : ∀ own d, Within own r.rootKey ∧ Within own d → Within own shared :=
    fun own _ hw => hrootW own hw.1
  unfold Ratchet.dhRatchetStep
  dsimp only
  cases hr : r.isInitiator with
  | true =>
    simp only [Security.idle, hr, if_true] at hidle
    refine ⟨rfl, hbase _, ?_, ?_, fun own => hderived own _, fun own => ?_⟩
    · simp only [Security.live, if_true]
      exact hbase _
    · simpa only [Security.idle, hr, if_true] using hidle
    · simp only [Security.live, if_true]
      exact hderived own _
  | false =>
    simp only [Security.idle, hr, Bool.false_eq_true, if_false] at hidle
    refine ⟨rfl, hbase _, ?_, ?_, fun own => hderived own _, fun own => ?_⟩
    · simp only [Security.live, Bool.false_eq_true, if_false]
      exact hbase _
    · simpa only [Security.idle, hr, Bool.false_eq_true, if_false] using hidle
    · simp only [Security.live, Bool.false_eq_true, if_false]
      exact hderived own _

theorem decryptMessage (h : Stems shared eph r) (m : RatchetedMessage Term) :
    Stems shared eph (r.decryptMessage symbolic m).2 :=
  (h.receiveHeader m.ratchetKey).nextRecvKey

end Stems

/-! ## The agreement itself -/

/-- The key of the first KDF call that a chain or root key goes back to. -/
def agreement : Term → Term
  | .hash _ k => agreement k
  | .root k _ => if isRoot k then agreement k else k
  | .chain k _ => if isRoot k then agreement k else k
  | k => k

/-- The ratchet goes back to the agreement `shared`. -/
structure Agrees (shared : Term) (r : Ratchet Term) : Prop where
  isRoot : isRoot r.rootKey = true
  root : agreement r.rootKey = shared
  live : agreement (live r) = shared
  idle : agreement (idle r) = .zero

namespace Agrees

variable {shared : Term} {r : Ratchet Term}

theorem newInitiator (hshared : Security.isRoot shared = false) (ephKey : KeyPair Term)
    (preKey : Term) : Agrees shared (.newInitiator symbolic shared ephKey preKey) := by
  have hif : ∀ t, (if Security.isRoot shared then t else shared) = shared := fun t => by
    rw [hshared]
    rfl
  exact ⟨rfl, hif _, hif _, rfl⟩

theorem newResponder (hshared : Security.isRoot shared = false) (preKey : KeyPair Term)
    (eph : Term) : Agrees shared (.newResponder symbolic shared eph preKey) := by
  have hif : ∀ t, (if Security.isRoot shared then t else shared) = shared := fun t => by
    rw [hshared]
    rfl
  exact ⟨rfl, hif _, hif _, rfl⟩

theorem nextSendKey (h : Agrees shared r) : Agrees shared (r.nextSendKey symbolic).2 := by
  obtain ⟨hisRoot, hroot, hlive, hidle⟩ := h
  unfold Security.live at hlive
  unfold Security.idle at hidle
  refine ⟨hisRoot, hroot, ?_, ?_⟩
  · show agreement (if r.isInitiator then .hash 2 r.sendChainKey else r.recvChainKey) = shared
    cases hr : r.isInitiator <;> rw [hr] at hlive <;> exact hlive
  · show agreement (if r.isInitiator then r.recvChainKey else .hash 2 r.sendChainKey) = .zero
    cases hr : r.isInitiator <;> rw [hr] at hidle <;> exact hidle

theorem nextRecvKey (h : Agrees shared r) : Agrees shared (r.nextRecvKey symbolic).2 := by
  obtain ⟨hisRoot, hroot, hlive, hidle⟩ := h
  unfold Security.live at hlive
  unfold Security.idle at hidle
  refine ⟨hisRoot, hroot, ?_, ?_⟩
  · show agreement (if r.isInitiator then r.sendChainKey else .hash 2 r.recvChainKey) = shared
    cases hr : r.isInitiator <;> rw [hr] at hlive <;> exact hlive
  · show agreement (if r.isInitiator then .hash 2 r.recvChainKey else r.sendChainKey) = .zero
    cases hr : r.isInitiator <;> rw [hr] at hidle <;> exact hidle

theorem receiveHeader (h : Agrees shared r) (k : Term) :
    Agrees shared (r.receiveHeader symbolic k) := by
  by_cases hk : k = r.theirRatchetKey
  · rw [hk, Ratchet.receiveHeader_same]
    exact h
  rw [Ratchet.receiveHeader_step hk]
  obtain ⟨hisRoot, hroot, -, hidle⟩ := h
  have hif : (if Security.isRoot r.rootKey then agreement r.rootKey else r.rootKey) = shared := by
    rw [if_pos hisRoot, hroot]
  unfold Security.idle at hidle
  unfold Ratchet.dhRatchetStep
  dsimp only
  cases hr : r.isInitiator with
  | true =>
    rw [hr] at hidle
    exact ⟨rfl, hif, hif, hidle⟩
  | false =>
    rw [hr] at hidle
    exact ⟨rfl, hif, hif, hidle⟩

theorem decryptMessage (h : Agrees shared r) (m : RatchetedMessage Term) :
    Agrees shared (r.decryptMessage symbolic m).2 :=
  (h.receiveHeader m.ratchetKey).nextRecvKey

end Agrees

end TinTin.Security
