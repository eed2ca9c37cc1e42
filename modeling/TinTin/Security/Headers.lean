/-
  The headers of the messages that a session sends.

  A message carries its sender's ratchet key and its number in the sending chain. The DH step starts
  the numbers again at 0 and leaves the own key pair as it is, so all messages of a session carry one
  ratchet key, and the numbers start again whenever a message under another key has come in.

  * `sent_numbers`: the numbers of a run are a function of what went in.
  * `headers_unique_iff`: the headers are unique, and the numbers without gaps, exactly if no such
    message comes in between two encryptions.
  * `header_repeated`: two messages with one header.
-/
import TinTin.Core.Session
import TinTin.Symbolic.Term
import TinTin.Lib.Rising
import Mathlib.Data.List.SplitBy

namespace TinTin.Security

open TinTin.Lib TinTin.Core TinTin.Symbolic

variable {Key : Type} [DecidableEq Key]

/-! ## Runs -/

/-- A use of a session. -/
inductive Use (Key : Type)
  | encrypt (nonce : Nonce) (plaintext : Bytes)
  | decrypt (message : SessionMessage Key)

def Use.isEncrypt : Use Key → Bool
  | .encrypt _ _ => true
  | .decrypt _ => false

/-- One use: the message that `encrypt` returns, and the session afterwards. -/
def useSession (P : Primitives Key) (s : Session Key) :
    Use Key → Option (SessionMessage Key) × Session Key
  | .encrypt nonce plaintext =>
    ((s.encrypt P nonce plaintext).1.toOption, (s.encrypt P nonce plaintext).2)
  | .decrypt message => (none, (s.decrypt P message).2)

/-- The messages that a session returns from `encrypt`, in order. -/
def sent (P : Primitives Key) : Session Key → List (Use Key) → List (SessionMessage Key) :=
  outputs (useSession P)

/-- A session as it is made, in either role. -/
inductive Made (P : Primitives Key) : Session Key → Prop
  | initiator (ephSecret : Key) (ourIdentity : IdentityKeyPair Key) (remoteUserId : String)
    (remoteDeviceId : UInt32) (theirIdentityKey signedPreKeyPublic : Key) :
    Made P (.newInitiator P ephSecret ourIdentity remoteUserId remoteDeviceId theirIdentityKey
      signedPreKeyPublic)
  | responder (ourIdentity : IdentityKeyPair Key) (remoteUserId : String)
    (remoteDeviceId : UInt32) (theirIdentityKey aliceEphPublic : Key)
    (ourSignedPreKey : SignedPreKey Key) :
    Made P (.newResponder P ourIdentity remoteUserId remoteDeviceId theirIdentityKey aliceEphPublic
      ourSignedPreKey)

/-! ## Headers -/

/-- The ratchet key and the number of a message. -/
def header (m : SessionMessage Key) : Key × UInt32 := (m.ratchetKey, m.messageNumber)

/-- From each change of the ratchet key to the next one, the numbers are 0, 1, 2, ... -/
def Gapless (ms : List (SessionMessage Key)) : Prop :=
  ∀ chain ∈ ms.splitBy (fun a b => a.ratchetKey == b.ratchetKey),
    chain.map (·.messageNumber.toNat) = List.range chain.length

/-- The remote ratchet key and the next number, after a use. -/
def afterUse (p : Key × ℕ) : Use Key → Key × ℕ
  | .encrypt _ _ => (p.1, p.2 + 1)
  | .decrypt m => (m.ratchetKey, if m.ratchetKey = p.1 then p.2 else 0)

/-- The numbers that the encryptions of a run are given. -/
def numbers : Key × ℕ → List (Use Key) → List ℕ
  | _, [] => []
  | p, use :: uses => (if use.isEncrypt then [p.2] else []) ++ numbers (afterUse p use) uses

/-- The remote ratchet key after a run: the one of the last message that came in. -/
def remoteKey (k : Key) : List (Use Key) → Key
  | [] => k
  | .encrypt _ _ :: uses => remoteKey k uses
  | .decrypt m :: uses => remoteKey m.ratchetKey uses

/-- **Between two encryptions no message comes in under another ratchet key** than the one before
    it. -/
def Undisturbed (k : Key) (uses : List (Use Key)) : Prop :=
  ∀ before m after, uses = before ++ .decrypt m :: after → before.any Use.isEncrypt = true →
    after.any Use.isEncrypt = true → m.ratchetKey = remoteKey k before

/-! ## What a run sends -/

variable {P : Primitives Key}

/-- An incoming message starts the numbers again if it brings another ratchet key. -/
theorem receiveHeader_sendMsgNumber (r : Ratchet Key) (k : Key) :
    (r.receiveHeader P k).sendMsgNumber =
      if k = r.theirRatchetKey then r.sendMsgNumber else 0 := by
  by_cases h : k = r.theirRatchetKey
  · rw [if_pos h, h, Ratchet.receiveHeader_same]
  · rw [if_neg h, Ratchet.receiveHeader_step h]
    rfl

theorem toNat_add_one {n : UInt32} (h : n.toNat + 1 < 2 ^ 32) : (n + 1).toNat = n.toNat + 1 := by
  rw [UInt32.toNat_add]
  exact Nat.mod_eq_of_lt h

/-- **The headers of a run**: one ratchet key, and numbers that what went in decides. -/
theorem sent_headers (hP : P.Lawful) (uses : List (Use Key)) (s : Session Key)
    (hcount : s.ratchet.sendMsgNumber.toNat + uses.countP Use.isEncrypt < 2 ^ 32) :
    (∀ m ∈ sent P s uses, m.ratchetKey = s.ratchet.dhRatchetKey.publicKey) ∧
      (sent P s uses).map (·.messageNumber.toNat) =
        numbers (s.ratchet.theirRatchetKey, s.ratchet.sendMsgNumber.toNat) uses := by
  induction uses generalizing s with
  | nil => exact ⟨List.forall_mem_nil _, rfl⟩
  | cons use uses ih =>
    cases use with
    | encrypt nonce plaintext =>
      obtain ⟨m, hm⟩ := s.exists_encrypt_ok hP nonce plaintext
      obtain ⟨hkey, hnumber, -, -⟩ := Session.encrypt_ok hm
      rw [List.countP_cons_of_pos rfl] at hcount
      have hnext := toNat_add_one (n := s.ratchet.sendMsgNumber) (by omega)
      have hstep : sent P s (.encrypt nonce plaintext :: uses) =
          m :: sent P { s with ratchet := (s.ratchet.nextSendKey P).2 } uses := by
        show (s.encrypt P nonce plaintext).1.toOption.toList ++
          outputs (useSession P) (s.encrypt P nonce plaintext).2 uses = _
        rw [hm, Session.encrypt_state]
        rfl
      obtain ⟨hkeys, hnumbers⟩ := ih { s with ratchet := (s.ratchet.nextSendKey P).2 } (by
        show (s.ratchet.sendMsgNumber + 1).toNat + _ < 2 ^ 32
        omega)
      rw [hstep]
      refine ⟨List.forall_mem_cons.mpr ⟨hkey, hkeys⟩, ?_⟩
      rw [List.map_cons, hnumbers, hnumber]
      show _ :: numbers (s.ratchet.theirRatchetKey, (s.ratchet.sendMsgNumber + 1).toNat) uses = _
      rw [hnext]
      rfl
    | decrypt m =>
      rw [List.countP_cons_of_neg Bool.false_ne_true] at hcount
      have hnumber := receiveHeader_sendMsgNumber (P := P) s.ratchet m.ratchetKey
      have hle : (s.ratchet.receiveHeader P m.ratchetKey).sendMsgNumber.toNat ≤
          s.ratchet.sendMsgNumber.toNat := by
        rw [hnumber]
        split
        · exact Nat.le_refl _
        · exact Nat.zero_le _
      obtain ⟨hkeys, hnumbers⟩ := ih (s.decrypt P m).2 (by
        show (s.ratchet.receiveHeader P m.ratchetKey).sendMsgNumber.toNat + _ < 2 ^ 32
        omega)
      refine ⟨fun m' hm' => ?_, hnumbers.trans ?_⟩
      · rw [hkeys m' hm']
        exact congrArg KeyPair.publicKey (Ratchet.receiveHeader_dhRatchetKey s.ratchet m.ratchetKey)
      · show numbers ((s.ratchet.receiveHeader P m.ratchetKey).theirRatchetKey,
          (s.ratchet.receiveHeader P m.ratchetKey).sendMsgNumber.toNat) uses =
            numbers (m.ratchetKey, _) uses
        rw [Ratchet.receiveHeader_theirRatchetKey, hnumber]
        congr 2
        split <;> rfl

/-! ## Which numbers those are -/

theorem numbers_append (uses more : List (Use Key)) (p : Key × ℕ) :
    numbers p (uses ++ more) = numbers p uses ++ numbers (uses.foldl afterUse p) more := by
  induction uses generalizing p with
  | nil => rfl
  | cons use uses ih =>
    rw [List.cons_append, numbers, numbers, ih, List.append_assoc]
    rfl

theorem remoteKey_eq (uses : List (Use Key)) (p : Key × ℕ) :
    (uses.foldl afterUse p).1 = remoteKey p.1 uses := by
  induction uses generalizing p with
  | nil => rfl
  | cons use uses ih => cases use <;> exact ih _

theorem length_numbers (uses : List (Use Key)) (p : Key × ℕ) :
    (numbers p uses).length = uses.countP Use.isEncrypt := by
  induction uses generalizing p with
  | nil => rfl
  | cons use uses ih =>
    rw [numbers, List.length_append, ih, List.countP_cons]
    split
    · exact Nat.add_comm _ _
    · exact Nat.zero_add _

theorem numbers_eq_nil {uses : List (Use Key)} (h : uses.any Use.isEncrypt = false) (p : Key × ℕ) :
    numbers p uses = [] := by
  rw [← List.length_eq_zero_iff, length_numbers, List.countP_eq_zero]
  exact fun use huse => List.any_eq_false.mp h use huse

/-- After the last change of the remote key the numbers go on. -/
theorem numbers_steady (uses : List (Use Key)) (k : Key) (n : ℕ)
    (h : ∀ before m after, uses = before ++ .decrypt m :: after →
      after.any Use.isEncrypt = true → m.ratchetKey = remoteKey k before) :
    numbers (k, n) uses = List.range' n (uses.countP Use.isEncrypt) := by
  induction uses generalizing k n with
  | nil => rfl
  | cons use uses ih =>
    cases use with
    | encrypt nonce plaintext =>
      have hrest := ih k (n + 1) fun before m after hsplit =>
        h (.encrypt nonce plaintext :: before) m after (by rw [hsplit]; rfl)
      rw [List.countP_cons_of_pos rfl, List.range'_succ, ← hrest]
      rfl
    | decrypt m =>
      rw [List.countP_cons_of_neg Bool.false_ne_true]
      show numbers (m.ratchetKey, if m.ratchetKey = k then n else 0) uses = _
      cases hany : uses.any Use.isEncrypt with
      | false =>
        rw [numbers_eq_nil hany, ← length_numbers uses (k, n), numbers_eq_nil hany]
        rfl
      | true =>
        have hkey : m.ratchetKey = k := h [] m uses rfl hany
        rw [if_pos hkey]
        refine ih m.ratchetKey n fun before m' after hsplit hafter => ?_
        exact h (.decrypt m :: before) m' after (by rw [hsplit]; rfl) hafter

/-- Before the first encryption the remote key may change. -/
theorem numbers_undisturbed (uses : List (Use Key)) (k : Key) (h : Undisturbed k uses) :
    numbers (k, 0) uses = List.range (uses.countP Use.isEncrypt) := by
  induction uses generalizing k with
  | nil => rfl
  | cons use uses ih =>
    cases use with
    | encrypt nonce plaintext =>
      have hrest := numbers_steady uses k 1 fun before m after hsplit hafter =>
        h (.encrypt nonce plaintext :: before) m after (by rw [hsplit]; rfl) rfl hafter
      rw [List.countP_cons_of_pos rfl, List.range_eq_range', List.range'_succ, ← hrest]
      rfl
    | decrypt m =>
      rw [List.countP_cons_of_neg Bool.false_ne_true, ← ih m.ratchetKey fun before m' after hsplit
        hbefore => h (.decrypt m :: before) m' after (by rw [hsplit]; rfl) hbefore]
      show numbers (m.ratchetKey, if m.ratchetKey = k then 0 else 0) uses = _
      rw [ite_self]

/-- The first encryption of a chain gets the number 0. -/
theorem zero_mem_numbers {uses : List (Use Key)} (h : uses.any Use.isEncrypt = true) (k : Key) :
    0 ∈ numbers (k, 0) uses := by
  induction uses generalizing k with
  | nil => cases h
  | cons use uses ih =>
    cases use with
    | encrypt nonce plaintext => exact List.mem_cons_self
    | decrypt m =>
      show 0 ∈ numbers (m.ratchetKey, if m.ratchetKey = k then 0 else 0) uses
      rw [ite_self]
      exact ih h m.ratchetKey

/-- **The number 0 comes again** after a message under another ratchet key. -/
theorem numbers_nodup_iff (uses : List (Use Key)) (k : Key) :
    (numbers (k, 0) uses).Nodup ↔ Undisturbed k uses := by
  refine ⟨fun hnodup before m after hsplit hbefore hafter => ?_, fun h => ?_⟩
  · by_contra hkey
    rw [hsplit, numbers_append] at hnodup
    have hagain : 0 ∈ numbers (before.foldl afterUse (k, 0)) (.decrypt m :: after) := by
      show 0 ∈ numbers (m.ratchetKey, if m.ratchetKey = _ then _ else 0) after
      rw [remoteKey_eq, if_neg hkey]
      exact zero_mem_numbers hafter m.ratchetKey
    exact (List.disjoint_of_nodup_append hnodup) (zero_mem_numbers hbefore k) hagain
  · rw [numbers_undisturbed uses k h]
    exact List.nodup_range

/-! ## Uniqueness -/

omit [DecidableEq Key] in
/-- Under one ratchet key the headers are as unique as the numbers. -/
theorem nodup_header_iff {ms : List (SessionMessage Key)} {k : Key}
    (hkeys : ∀ m ∈ ms, m.ratchetKey = k) :
    (ms.map header).Nodup ↔ (ms.map (·.messageNumber.toNat)).Nodup := by
  have hheader : ms.map header =
      (ms.map (·.messageNumber.toNat)).map fun n => (k, UInt32.ofNat n) := by
    rw [List.map_map]
    refine List.map_congr_left fun m hm => ?_
    unfold header
    rw [hkeys m hm]
    simp
  have hnumber : ms.map (·.messageNumber.toNat) = (ms.map header).map (·.2.toNat) := by
    rw [List.map_map]
    rfl
  refine ⟨fun h => ?_, fun h => ?_⟩
  · rw [hheader] at h
    exact List.Nodup.of_map _ h
  · rw [hnumber] at h
    exact List.Nodup.of_map _ h

/-- Under one ratchet key there is one chain. -/
theorem gapless_iff {ms : List (SessionMessage Key)} {k : Key}
    (hkeys : ∀ m ∈ ms, m.ratchetKey = k) :
    Gapless ms ↔ ms.map (·.messageNumber.toNat) = List.range ms.length := by
  unfold Gapless
  by_cases hms : ms = []
  · subst hms
    exact ⟨fun _ => rfl, fun _ chain hchain => by cases hchain⟩
  · have hchain : ms.IsChain fun a b => (a.ratchetKey == b.ratchetKey) = true := by
      refine (List.Pairwise.imp_of_mem (R := fun _ _ => True) (fun {a b} ha hb _ => ?_)
        (List.pairwise_of_forall fun _ _ => trivial)).isChain
      rw [hkeys a ha, hkeys b hb, beq_self_eq_true]
    rw [List.splitBy_of_isChain hms hchain]
    exact List.forall_mem_singleton

omit [DecidableEq Key] in
theorem sendMsgNumber_made {s : Session Key} (hs : Made P s) : s.ratchet.sendMsgNumber = 0 := by
  cases hs <;> rfl

/-- **When headers are unique.** A session of either role that encrypts fewer than 2^32 messages
    returns messages with different headers, numbered without gaps from each change of the ratchet
    key to the next, exactly if no message comes in between two encryptions under another ratchet
    key than the one before it. -/
theorem headers_unique_iff (hP : P.Lawful) {s : Session Key} (hs : Made P s) (uses : List (Use Key))
    (hcount : uses.countP Use.isEncrypt < 2 ^ 32) :
    ((sent P s uses).map header).Nodup ∧ Gapless (sent P s uses) ↔
      Undisturbed s.ratchet.theirRatchetKey uses := by
  have hzero := sendMsgNumber_made hs
  obtain ⟨hkeys, hnumbers⟩ := sent_headers hP uses s (by
    rw [hzero]
    show 0 + _ < 2 ^ 32
    omega)
  rw [hzero] at hnumbers
  have hnumbers : (sent P s uses).map (·.messageNumber.toNat) =
      numbers (s.ratchet.theirRatchetKey, 0) uses := hnumbers
  rw [nodup_header_iff hkeys, gapless_iff hkeys, hnumbers, numbers_nodup_iff]
  refine and_iff_left_of_imp fun h => ?_
  rw [numbers_undisturbed uses _ h, ← length_numbers uses (s.ratchet.theirRatchetKey, 0), ← hnumbers,
    List.length_map]

/-! ## A header that comes again -/

/-- Alice's session with Bob. -/
def aliceToBob : Session Term :=
  .newInitiator symbolic (.secret 5) ⟨.generate symbolic (.secret 0)⟩ "bob" 1 (.pub (.secret 2))
    (.pub (.secret 3))

/-- A message to Alice under some ratchet key. -/
def incoming (k : Term) : SessionMessage Term := ⟨1, [], Vector.replicate 12 0, k, 0⟩

def aNonce : Nonce := Vector.replicate 12 0

theorem made_aliceToBob : Made symbolic aliceToBob := .initiator _ _ _ _ _ _

/-- A message in between under the key that Alice knows changes nothing. -/
theorem headers_unique_known :
    ((sent symbolic aliceToBob [.encrypt aNonce [1], .decrypt (incoming (.pub (.secret 3))),
      .encrypt aNonce [2]]).map header).Nodup ∧
    Gapless (sent symbolic aliceToBob [.encrypt aNonce [1],
      .decrypt (incoming (.pub (.secret 3))), .encrypt aNonce [2]]) := by
  refine (headers_unique_iff symbolic_lawful made_aliceToBob _ (by decide)).mpr ?_
  exact (numbers_nodup_iff _ _).mp (by decide)

/-- With a message under a new key in between, whatever it is, both of Alice's messages carry her
    one ratchet key and the number 0. -/
theorem header_repeated : ∃ uses : List (Use Term), uses.countP Use.isEncrypt < 2 ^ 32 ∧
    ¬ (((sent symbolic aliceToBob uses).map header).Nodup ∧
      Gapless (sent symbolic aliceToBob uses)) := by
  refine ⟨[.encrypt aNonce [1], .decrypt (incoming (.pub (.secret 4))), .encrypt aNonce [2]],
    by decide, fun h => ?_⟩
  obtain ⟨hkeys, hnumbers⟩ := sent_headers symbolic_lawful
    [.encrypt aNonce [1], .decrypt (incoming (.pub (.secret 4))), .encrypt aNonce [2]]
    aliceToBob (by decide)
  have hnodup := (nodup_header_iff hkeys).mp h.1
  rw [hnumbers] at hnodup
  exact absurd hnodup (by decide)

end TinTin.Security
