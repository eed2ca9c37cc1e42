/-
  Sessions and the session store (`session.rs`).

  `Session::encrypt` and `Session::decrypt` hand everything to the ratchet; `Session.encrypt`
  and `Session.decrypt` keep the state next to the result, as the ratchet does.

  * `newInitiator_newResponder`: with the assumed X25519 the two constructors start from the
    same root key, and the initiator's sending chain is the responder's receiving chain.
  * `encrypt_ok`, `decrypt_same`: the two operations on the chains.
  * `SessionStore.get_add`, `SessionStore.get_update_self`: what `get` sees after a change.
-/
import TinTin.Core.Ratchet

namespace TinTin.Core

variable {Key : Type}

/-- The role of the local user in a session. -/
inductive SessionRole
  | initiator
  | responder
  deriving DecidableEq, Repr

/-- A secure session between two users. -/
structure Session (Key : Type) where
  remoteUserId : String
  remoteDeviceId : UInt32
  role : SessionRole
  ourIdentity : IdentityKeyPair Key
  theirIdentity : Key
  ratchet : Ratchet Key
  version : UInt8
  deriving DecidableEq, Repr

/-- `PROTOCOL_VERSION` -/
def protocolVersion : UInt8 := 1

namespace Session

/-! ## Construction -/

/-- `Session::new_initiator`, with the secret of the fresh ephemeral key as an argument. -/
def newInitiator (P : Primitives Key) (ephSecret : Key) (ourIdentity : IdentityKeyPair Key)
    (remoteUserId : String) (remoteDeviceId : UInt32) (theirIdentityKey : Key)
    (signedPreKeyPublic : Key) : Session Key :=
  let ephKey := KeyPair.generate P ephSecret
  let sharedSecret := ephKey.agree P signedPreKeyPublic
  { remoteUserId := remoteUserId
    remoteDeviceId := remoteDeviceId
    role := .initiator
    ourIdentity := ourIdentity
    theirIdentity := theirIdentityKey
    ratchet := Ratchet.newInitiator P sharedSecret ephKey signedPreKeyPublic
    version := protocolVersion }

/-- `Session::new_responder` -/
def newResponder (P : Primitives Key) (ourIdentity : IdentityKeyPair Key)
    (remoteUserId : String) (remoteDeviceId : UInt32) (theirIdentityKey : Key)
    (aliceEphPublic : Key) (ourSignedPreKey : SignedPreKey Key) : Session Key :=
  let sharedSecret := ourSignedPreKey.keyPair.agree P aliceEphPublic
  { remoteUserId := remoteUserId
    remoteDeviceId := remoteDeviceId
    role := .responder
    ourIdentity := ourIdentity
    theirIdentity := theirIdentityKey
    ratchet := Ratchet.newResponder P sharedSecret aliceEphPublic ourSignedPreKey.keyPair
    version := protocolVersion }

/-! ## Messages -/

/-- `Session::encrypt` -/
def encrypt (P : Primitives Key) (s : Session Key) (nonce : Nonce) (plaintext : Bytes) :
    Except TinTinError (SessionMessage Key) × Session Key :=
  match s.ratchet.encryptMessage P nonce plaintext with
  | (.error e, ratchet) => (.error e, { s with ratchet := ratchet })
  | (.ok ratcheted, ratchet) =>
    (.ok { version := s.version
           ciphertext := ratcheted.ciphertext
           nonce := ratcheted.nonce
           ratchetKey := ratcheted.ratchetKey
           messageNumber := ratcheted.messageNumber }, { s with ratchet := ratchet })

/-- The ratchet message `Session::decrypt` builds from a session message. -/
def toRatcheted (message : SessionMessage Key) : RatchetedMessage Key where
  ratchetKey := message.ratchetKey
  ciphertext := message.ciphertext
  nonce := message.nonce
  messageNumber := message.messageNumber
  previousCount := 0

/-- `Session::decrypt` -/
def decrypt [DecidableEq Key] (P : Primitives Key) (s : Session Key)
    (message : SessionMessage Key) : Except TinTinError Bytes × Session Key :=
  let (result, ratchet) := s.ratchet.decryptMessage P (toRatcheted message)
  (result, { s with ratchet := ratchet })

variable {P : Primitives Key}

@[simp] theorem encrypt_state (s : Session Key) (nonce : Nonce) (plaintext : Bytes) :
    (s.encrypt P nonce plaintext).2 = { s with ratchet := (s.ratchet.nextSendKey P).2 } := by
  rw [← Ratchet.encryptMessage_state s.ratchet nonce plaintext]
  unfold encrypt
  split <;> simp_all

/-- A successful encryption carries the session's ratchet key, and its ciphertext is the
    plaintext under the next message key of the sending chain. -/
theorem encrypt_ok {s : Session Key} {nonce : Nonce} {plaintext : Bytes}
    {m : SessionMessage Key} (h : (s.encrypt P nonce plaintext).1 = .ok m) :
    m.ratchetKey = s.ratchet.dhRatchetKey.publicKey ∧
      m.messageNumber = s.ratchet.sendMsgNumber ∧ m.nonce = nonce ∧
      P.aeadEncrypt (messageKey P s.ratchet.sendChainKey) nonce plaintext = some m.ciphertext := by
  unfold encrypt at h
  split at h
  · cases h
  · next rm r heq =>
    cases h
    exact Ratchet.encryptMessage_ok (by rw [heq])

theorem exists_encrypt_ok (hP : P.Lawful) (s : Session Key) (nonce : Nonce) (plaintext : Bytes) :
    ∃ m, (s.encrypt P nonce plaintext).1 = .ok m := by
  obtain ⟨rm, h⟩ := Ratchet.exists_encryptMessage_ok hP s.ratchet nonce plaintext
  unfold encrypt
  split
  · next heq => simp [heq] at h
  · exact ⟨_, rfl⟩

variable [DecidableEq Key]

@[simp] theorem decrypt_result (s : Session Key) (m : SessionMessage Key) :
    (s.decrypt P m).1 = (s.ratchet.decryptMessage P (toRatcheted m)).1 := rfl

@[simp] theorem decrypt_state (s : Session Key) (m : SessionMessage Key) :
    (s.decrypt P m).2 =
      { s with ratchet := (s.ratchet.decryptMessage P (toRatcheted m)).2 } := rfl

/-- A message under the known ratchet key is opened with the next key of the receiving
    chain, and only that chain and its counter move. -/
theorem decrypt_same {s : Session Key} {m : SessionMessage Key}
    (h : m.ratchetKey = s.ratchet.theirRatchetKey) :
    s.decrypt P m =
      (Core.decrypt P m.ciphertext (messageKey P s.ratchet.recvChainKey) m.nonce,
        { s with ratchet := (s.ratchet.nextRecvKey P).2 }) := by
  unfold decrypt
  rw [Ratchet.decryptMessage_same _ (toRatcheted m) h]
  rfl

omit [DecidableEq Key] in
/-- **Session agreement at the start.** Made from the same signed pre-key and the
    initiator's ephemeral key, the two sessions derive the same root and chain key. -/
theorem newInitiator_newResponder (hP : P.Lawful) (ephSecret : Key) (spk : KeyPair Key)
    (hspk : spk.WellFormed P) :
    deriveChainKeys P ((KeyPair.generate P ephSecret).agree P spk.publicKey)
        (KeyPair.generate P ephSecret).publicKey =
      deriveChainKeys P (spk.agree P (KeyPair.generate P ephSecret).publicKey)
        (KeyPair.generate P ephSecret).publicKey := by
  rw [KeyPair.agree_comm hP (KeyPair.generate_wellFormed P ephSecret) hspk]

end Session

/-! ## Session store -/

/-- The sessions of a client, at most one for each remote user and device. -/
structure SessionStore (Key : Type) where
  sessions : List (Session Key)
  deriving DecidableEq, Repr

namespace SessionStore

/-- The test of `get`, `get_mut`, `add` and `remove`. -/
def isFor (remoteUserId : String) (deviceId : UInt32) (s : Session Key) : Bool :=
  s.remoteUserId == remoteUserId && s.remoteDeviceId == deviceId

/-- `SessionStore::new` -/
def new : SessionStore Key := ⟨[]⟩

/-- `SessionStore::get` -/
def get (st : SessionStore Key) (remoteUserId : String) (deviceId : UInt32) :
    Option (Session Key) :=
  st.sessions.find? (isFor remoteUserId deviceId)

/-- Apply `f` to the first session for which `p` holds. -/
def updateFirst (p : Session Key → Bool) (f : Session Key → Session Key) :
    List (Session Key) → List (Session Key)
  | [] => []
  | s :: rest => if p s then f s :: rest else s :: updateFirst p f rest

/-- The store after `f` was applied through the reference of `SessionStore::get_mut`. -/
def update (st : SessionStore Key) (remoteUserId : String) (deviceId : UInt32)
    (f : Session Key → Session Key) : SessionStore Key :=
  ⟨updateFirst (isFor remoteUserId deviceId) f st.sessions⟩

/-- `SessionStore::add` -/
def add (st : SessionStore Key) (session : Session Key) : SessionStore Key :=
  ⟨st.sessions.filter (fun s => !isFor session.remoteUserId session.remoteDeviceId s)
    ++ [session]⟩

/-- `SessionStore::remove` -/
def remove (st : SessionStore Key) (remoteUserId : String) (deviceId : UInt32) :
    SessionStore Key :=
  ⟨st.sessions.filter (fun s => !isFor remoteUserId deviceId s)⟩

/-- `SessionStore::len` -/
def len (st : SessionStore Key) : Nat := st.sessions.length

theorem isFor_iff {u : String} {d : UInt32} {s : Session Key} :
    isFor u d s = true ↔ s.remoteUserId = u ∧ s.remoteDeviceId = d := by
  simp [isFor]

/-- The session just added is the one `get` returns. -/
theorem get_add_self (st : SessionStore Key) (s : Session Key) :
    (st.add s).get s.remoteUserId s.remoteDeviceId = some s := by
  have hnone : (st.sessions.filter
      (fun x => !isFor s.remoteUserId s.remoteDeviceId x)).find?
      (isFor s.remoteUserId s.remoteDeviceId) = none := by
    rw [List.find?_eq_none]
    intro x hx
    simpa using (List.mem_filter.mp hx).2
  unfold get add
  rw [List.find?_append, hnone]
  simp [isFor]

theorem get_add (st : SessionStore Key) {s : Session Key} {u : String} {d : UInt32}
    (hu : s.remoteUserId = u) (hd : s.remoteDeviceId = d) : (st.add s).get u d = some s := by
  rw [← hu, ← hd]
  exact get_add_self st s

/-- Adding a session leaves those for other users and devices alone. -/
theorem get_add_of_ne (st : SessionStore Key) {s : Session Key} {u : String} {d : UInt32}
    (h : ¬ (s.remoteUserId = u ∧ s.remoteDeviceId = d)) : (st.add s).get u d = st.get u d := by
  unfold get add
  have hs : isFor u d s = false := by
    rw [← Bool.not_eq_true, isFor_iff]
    exact h
  have hp : ∀ x : Session Key, isFor u d x = true →
      isFor s.remoteUserId s.remoteDeviceId x = false := by
    intro x hx
    rw [← Bool.not_eq_true, isFor_iff]
    rintro ⟨hu, hd⟩
    obtain ⟨hu', hd'⟩ := isFor_iff.mp hx
    exact h ⟨hu.symm.trans hu', hd.symm.trans hd'⟩
  have hfun : (fun x : Session Key => decide ((!isFor s.remoteUserId s.remoteDeviceId x) = true ∧
      isFor u d x = true)) = isFor u d := by
    funext x
    cases hx : isFor u d x with
    | false => simp
    | true => simp [hp x hx]
  rw [List.find?_append, List.find?_singleton, hs, List.find?_filter, hfun]
  simp

theorem find?_updateFirst (p : Session Key → Bool) (f : Session Key → Session Key)
    (hf : ∀ s, p s = true → p (f s) = true) (l : List (Session Key)) :
    (updateFirst p f l).find? p = (l.find? p).map f := by
  induction l with
  | nil => rfl
  | cons s rest ih =>
    by_cases h : p s = true
    · simp [updateFirst, h, hf s h]
    · simp [updateFirst, h, ih]

theorem find?_updateFirst_of_disjoint (p q : Session Key → Bool) (f : Session Key → Session Key)
    (hpq : ∀ s, p s = true → q s = false ∧ q (f s) = false) (l : List (Session Key)) :
    (updateFirst p f l).find? q = l.find? q := by
  induction l with
  | nil => rfl
  | cons s rest ih =>
    by_cases h : p s = true
    · simp [updateFirst, h, hpq s h]
    · simp [updateFirst, h, ih, List.find?_cons]

/-- A change made through `get_mut` leaves the sessions for other users and devices alone. -/
theorem get_update_of_ne (st : SessionStore Key) {u u' : String} {d d' : UInt32}
    (h : ¬ (u = u' ∧ d = d')) {f : Session Key → Session Key}
    (hf : ∀ s, (f s).remoteUserId = s.remoteUserId ∧ (f s).remoteDeviceId = s.remoteDeviceId) :
    (st.update u d f).get u' d' = st.get u' d' := by
  refine find?_updateFirst_of_disjoint _ _ f (fun s hs => ?_) _
  obtain ⟨hu, hd⟩ := isFor_iff.mp hs
  have hne : ¬ (s.remoteUserId = u' ∧ s.remoteDeviceId = d') := by
    rw [hu, hd]
    exact h
  rw [← Bool.not_eq_true, ← Bool.not_eq_true, isFor_iff, isFor_iff, (hf s).1, (hf s).2]
  exact ⟨hne, hne⟩

/-- A change made through `get_mut` that keeps the addressee is what `get` returns next. -/
theorem get_update_self (st : SessionStore Key) (u : String) (d : UInt32)
    (f : Session Key → Session Key)
    (hf : ∀ s, (f s).remoteUserId = s.remoteUserId ∧ (f s).remoteDeviceId = s.remoteDeviceId) :
    (st.update u d f).get u d = (st.get u d).map f := by
  unfold get update
  apply find?_updateFirst
  intro s hs
  rw [isFor_iff] at hs ⊢
  rw [(hf s).1, (hf s).2]
  exact hs

end SessionStore

end TinTin.Core
