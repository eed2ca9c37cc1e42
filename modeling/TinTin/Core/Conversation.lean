/-
  Two paired sessions, and every interleaving of their calls.

  Alice's session is made by `Session::new_initiator` from Bob's signed pre-key, Bob's by
  `Session::new_responder` from the same signed pre-key and Alice's ratchet key. A run is a
  list of calls: a party encrypts, or a party decrypts the oldest message in flight to it.

  Three invariants carry the module.
  * `Paired` needs no law of the primitives: each side's remote key is the other side's
    ratchet key, and so is the header of every message in flight. Hence the DH step of
    `decrypt_message` never fires, and a call moves a ratchet by one chain step or not at all.
  * `Progress` counts: the key pairs, the remote keys, the root keys and the roles are those
    of the start, and each chain is the initial one iterated once for each message.
  * `Synced` uses the assumed primitives: the messages in flight, opened in order from the
    receiver's chain key, lead to the sender's chain key (a `Path` of `Opens`).

  `decrypts_in_order`: every decryption returns `Ok` with exactly the plaintext of the
  matching encryption, and below 2^32 messages a direction no `u32` wraps.
-/
import TinTin.Core.Session
import TinTin.Lib.Path
import TinTin.Symbolic.Term
import Mathlib.Data.List.Induction
import Mathlib.Logic.Function.Iterate

namespace TinTin.Core

open TinTin.Lib

variable {Key : Type}

/-! ## The two parties -/

inductive Party
  | alice
  | bob
  deriving DecidableEq, Repr

def Party.peer : Party → Party
  | .alice => .bob
  | .bob => .alice

@[simp] theorem Party.peer_peer (p : Party) : p.peer.peer = p := by cases p <;> rfl

@[simp] theorem Party.peer_ne (p : Party) : p.peer ≠ p := by cases p <;> decide

@[simp] theorem Party.ne_peer (p : Party) : p ≠ p.peer := (Party.peer_ne p).symm

theorem Party.eq_or_eq_peer (p q : Party) : q = p ∨ q = p.peer := by
  cases p <;> cases q <;> decide

/-- What the two sessions of a conversation are made from. Bob's signed pre-key is a real
    X25519 pair. -/
structure Setup (P : Primitives Key) where
  /-- secret of the ephemeral key `Session::new_initiator` generates -/
  ephSecret : Key
  aliceIdentity : IdentityKeyPair Key
  bobIdentity : IdentityKeyPair Key
  aliceId : String
  bobId : String
  aliceDevice : UInt32
  bobDevice : UInt32
  /-- identity keys each side was told of the other -/
  bobIdentityKey : Key
  aliceIdentityKey : Key
  signedPreKey : SignedPreKey Key
  wellFormed : signedPreKey.keyPair.WellFormed P

namespace Setup

variable {P : Primitives Key}

def alice (u : Setup P) : Session Key :=
  Session.newInitiator P u.ephSecret u.aliceIdentity u.bobId u.bobDevice u.bobIdentityKey
    u.signedPreKey.keyPair.publicKey

def bob (u : Setup P) : Session Key :=
  Session.newResponder P u.bobIdentity u.aliceId u.aliceDevice u.aliceIdentityKey
    u.alice.ratchet.dhRatchetKey.publicKey u.signedPreKey

def session (u : Setup P) : Party → Session Key
  | .alice => u.alice
  | .bob => u.bob

/-- The shared secret from which both sessions derive their keys, as Alice computes it. -/
def sharedSecret (u : Setup P) : Key :=
  (KeyPair.generate P u.ephSecret).agree P u.signedPreKey.keyPair.publicKey

end Setup

/-- A symbolic setup over two drawn secrets: Alice's ephemeral one and Bob's pre-key. -/
def freshSetup (eph spk : ℕ) : Setup Symbolic.symbolic :=
  let aliceIdentity := ⟨KeyPair.generate Symbolic.symbolic (.secret (eph + spk + 1))⟩
  let bobIdentity := ⟨KeyPair.generate Symbolic.symbolic (.secret (eph + spk + 2))⟩
  { ephSecret := .secret eph
    aliceIdentity := aliceIdentity
    bobIdentity := bobIdentity
    aliceId := "alice"
    bobId := "bob"
    aliceDevice := 1
    bobDevice := 1
    bobIdentityKey := bobIdentity.publicKey
    aliceIdentityKey := aliceIdentity.publicKey
    signedPreKey := SignedPreKey.generate Symbolic.symbolic 1 bobIdentity (.secret spk)
    wellFormed := rfl }

/-! ## Calls and runs -/

/-- The two sessions, the messages in flight to each party, and what the calls gave back:
    the results of its decryptions and the message keys its encryptions drew. -/
structure Conversation (Key : Type) where
  session : Party → Session Key
  inFlight : Party → List (SessionMessage Key)
  results : Party → List (Except TinTinError Bytes)
  sendKeys : Party → List Key

/-- One call by a party. -/
inductive Call
  | encrypt (p : Party) (nonce : Nonce) (plaintext : Bytes)
  | decrypt (p : Party)

/-- The plaintexts `p` encrypts in a run, in sending order. -/
def plaintextsBy (p : Party) : List Call → List Bytes :=
  List.filterMap fun
    | .encrypt q _ t => if q = p then some t else none
    | .decrypt _ => none

theorem plaintextsBy_append (p : Party) (xs ys : List Call) :
    plaintextsBy p (xs ++ ys) = plaintextsBy p xs ++ plaintextsBy p ys :=
  List.filterMap_append

theorem plaintextsBy_snoc_encrypt (p q : Party) (n : Nonce) (t : Bytes) (calls : List Call) :
    plaintextsBy p (calls ++ [.encrypt q n t]) =
      plaintextsBy p calls ++ if q = p then [t] else [] := by
  unfold plaintextsBy
  rw [List.filterMap_append]
  by_cases h : q = p <;> simp [h]

theorem plaintextsBy_snoc_decrypt (p q : Party) (calls : List Call) :
    plaintextsBy p (calls ++ [.decrypt q]) = plaintextsBy p calls := by
  simp [plaintextsBy]

namespace Conversation

variable [DecidableEq Key]

/-- The conversation before any call. -/
def start {P : Primitives Key} (u : Setup P) : Conversation Key where
  session := u.session
  inFlight _ := []
  results _ := []
  sendKeys _ := []

/-- `p` calls `Session::encrypt`; the message, if there is one, goes out to the peer. -/
def encrypt (P : Primitives Key) (c : Conversation Key) (p : Party) (nonce : Nonce)
    (plaintext : Bytes) : Conversation Key :=
  let (result, s) := (c.session p).encrypt P nonce plaintext
  { session := Function.update c.session p s
    inFlight := match result with
      | .ok m => Function.update c.inFlight p.peer (c.inFlight p.peer ++ [m])
      | .error _ => c.inFlight
    results := c.results
    sendKeys := Function.update c.sendKeys p
      (c.sendKeys p ++ [((c.session p).ratchet.nextSendKey P).1]) }

/-- `p` calls `Session::decrypt` on the oldest message in flight to it, if there is one. -/
def decrypt (P : Primitives Key) (c : Conversation Key) (p : Party) : Conversation Key :=
  match c.inFlight p with
  | [] => c
  | m :: rest =>
    let (result, s) := (c.session p).decrypt P m
    { session := Function.update c.session p s
      inFlight := Function.update c.inFlight p rest
      results := Function.update c.results p (c.results p ++ [result])
      sendKeys := c.sendKeys }

def step (P : Primitives Key) (c : Conversation Key) : Call → Conversation Key
  | .encrypt p nonce plaintext => c.encrypt P p nonce plaintext
  | .decrypt p => c.decrypt P p

def run (P : Primitives Key) (c : Conversation Key) (calls : List Call) : Conversation Key :=
  calls.foldl (step P) c

theorem run_append (P : Primitives Key) (c : Conversation Key) (xs ys : List Call) :
    c.run P (xs ++ ys) = (c.run P xs).run P ys :=
  List.foldl_append

theorem run_snoc (P : Primitives Key) (c : Conversation Key) (calls : List Call) (a : Call) :
    c.run P (calls ++ [a]) = (c.run P calls).step P a := by
  rw [run_append]
  rfl

/-! ## No DH step between honest parties -/

/-- Each side's remote key is the other side's ratchet key, and so is the header of every
    message in flight to it. -/
structure Paired (c : Conversation Key) : Prop where
  remote : ∀ p, (c.session p).ratchet.theirRatchetKey =
    (c.session p.peer).ratchet.dhRatchetKey.publicKey
  headers : ∀ p, ∀ m ∈ c.inFlight p, m.ratchetKey = (c.session p).ratchet.theirRatchetKey

variable {P : Primitives Key}

omit [DecidableEq Key] in
@[simp] theorem encrypt_session (c : Conversation Key) (p : Party) (n : Nonce) (t : Bytes) :
    (c.encrypt P p n t).session = Function.update c.session p
      { c.session p with ratchet := ((c.session p).ratchet.nextSendKey P).2 } := by
  rw [← Session.encrypt_state (c.session p) n t]
  rfl

omit [DecidableEq Key] in
theorem encrypt_inFlight_ok {c : Conversation Key} {p : Party} {n : Nonce} {t : Bytes}
    {m : SessionMessage Key} (h : ((c.session p).encrypt P n t).1 = .ok m) :
    (c.encrypt P p n t).inFlight =
      Function.update c.inFlight p.peer (c.inFlight p.peer ++ [m]) := by
  unfold encrypt
  dsimp only
  rw [h]

omit [DecidableEq Key] in
theorem encrypt_inFlight_error {c : Conversation Key} {p : Party} {n : Nonce} {t : Bytes}
    {e : TinTinError} (h : ((c.session p).encrypt P n t).1 = .error e) :
    (c.encrypt P p n t).inFlight = c.inFlight := by
  unfold encrypt
  dsimp only
  rw [h]

theorem decrypt_nil {c : Conversation Key} {p : Party} (hm : c.inFlight p = []) :
    c.decrypt P p = c := by
  unfold decrypt
  rw [hm]

/-- Between paired sessions a decryption is one step of the receiving chain. -/
theorem decrypt_cons {c : Conversation Key} (hc : c.Paired) {p : Party} {m : SessionMessage Key}
    {rest : List (SessionMessage Key)} (hm : c.inFlight p = m :: rest) :
    c.decrypt P p =
      { session := Function.update c.session p
          { c.session p with ratchet := ((c.session p).ratchet.nextRecvKey P).2 }
        inFlight := Function.update c.inFlight p rest
        results := Function.update c.results p (c.results p ++
          [Core.decrypt P m.ciphertext (messageKey P (c.session p).ratchet.recvChainKey) m.nonce])
        sendKeys := c.sendKeys } := by
  have hk : m.ratchetKey = (c.session p).ratchet.theirRatchetKey :=
    hc.headers p m (by rw [hm]; exact List.mem_cons_self)
  unfold decrypt
  rw [hm]
  dsimp only
  rw [Session.decrypt_same hk]

/-- One call leaves the keys that `Paired` speaks of. -/
theorem step_keys {c : Conversation Key} (hc : c.Paired) (a : Call) (q : Party) :
    ((c.step P a).session q).ratchet.theirRatchetKey = (c.session q).ratchet.theirRatchetKey ∧
      ((c.step P a).session q).ratchet.dhRatchetKey = (c.session q).ratchet.dhRatchetKey := by
  cases a with
  | encrypt p n t =>
    simp only [step, encrypt_session]
    by_cases h : q = p
    · subst h
      simp
    · simp [Function.update_of_ne h]
  | decrypt p =>
    simp only [step]
    cases hm : c.inFlight p with
    | nil =>
      rw [decrypt_nil hm]
      exact ⟨rfl, rfl⟩
    | cons m rest =>
      rw [decrypt_cons hc hm]
      by_cases h : q = p
      · subst h
        simp
      · simp [Function.update_of_ne h]

theorem mem_step_inFlight {c : Conversation Key} (hc : c.Paired) {a : Call} {q : Party}
    {m : SessionMessage Key} (hm : m ∈ (c.step P a).inFlight q) :
    m ∈ c.inFlight q ∨ m.ratchetKey = (c.session q.peer).ratchet.dhRatchetKey.publicKey := by
  cases a with
  | encrypt p n t =>
    simp only [step] at hm
    cases hr : ((c.session p).encrypt P n t).1 with
    | error e =>
      rw [encrypt_inFlight_error hr] at hm
      exact .inl hm
    | ok m' =>
      rw [encrypt_inFlight_ok hr] at hm
      by_cases h : q = p.peer
      · subst h
        rw [Function.update_self, List.mem_append, List.mem_singleton] at hm
        rcases hm with hm | rfl
        · exact .inl hm
        · right
          rw [Party.peer_peer]
          exact (Session.encrypt_ok hr).1
      · rw [Function.update_of_ne h] at hm
        exact .inl hm
  | decrypt p =>
    left
    simp only [step] at hm
    cases hf : c.inFlight p with
    | nil => rwa [decrypt_nil hf] at hm
    | cons m' rest =>
      rw [decrypt_cons hc hf] at hm
      dsimp only at hm
      by_cases h : q = p
      · subst h
        rw [Function.update_self] at hm
        rw [hf]
        exact List.mem_cons_of_mem _ hm
      · rwa [Function.update_of_ne h] at hm

theorem Paired.step {c : Conversation Key} (hc : c.Paired) (a : Call) : (c.step P a).Paired where
  remote p := by
    rw [(step_keys hc a p).1, (step_keys hc a p.peer).2]
    exact hc.remote p
  headers p m hm := by
    rw [(step_keys hc a p).1]
    rcases mem_step_inFlight hc hm with h | h
    · exact hc.headers p m h
    · rw [h, hc.remote p]

omit [DecidableEq Key] in
theorem paired_start (u : Setup P) : (start u).Paired where
  remote p := by cases p <;> rfl
  headers p m hm := by simp [start] at hm

/-- **Honest sessions stay paired**, so no message between them fires the DH step. -/
theorem paired_run (u : Setup P) (calls : List Call) : ((start u).run P calls).Paired := by
  induction calls using List.reverseRecOn with
  | nil => exact paired_start u
  | append_singleton calls a ih =>
    rw [run_snoc]
    exact ih.step a

/-! ## How far each chain has moved -/

/-- After `calls`, the ratchet of `p` is that of the start with its sending chain moved once
    for each encryption and its receiving chain once for each decryption. -/
structure Progress (u : Setup P) (calls : List Call) (c : Conversation Key) (p : Party) :
    Prop where
  ratchet : (c.session p).ratchet = { (u.session p).ratchet with
    sendChainKey := (nextChainKey P)^[(plaintextsBy p calls).length]
      (u.session p).ratchet.sendChainKey
    recvChainKey := (nextChainKey P)^[(c.results p).length] (u.session p).ratchet.recvChainKey
    sendMsgNumber := UInt32.ofNat (plaintextsBy p calls).length
    recvMsgNumber := UInt32.ofNat (c.results p).length }
  sendKeys : c.sendKeys p = (List.range (plaintextsBy p calls).length).map fun i =>
    messageKey P ((nextChainKey P)^[i] (u.session p).ratchet.sendChainKey)

omit [DecidableEq Key] in
theorem progress_start (u : Setup P) (p : Party) : Progress u [] (start u) p where
  ratchet := by cases p <;> rfl
  sendKeys := rfl

omit [DecidableEq Key] in
theorem ofNat_add_one (n : Nat) : UInt32.ofNat n + 1 = UInt32.ofNat (n + 1) := by
  rw [UInt32.ofNat_add]
  rfl

theorem Progress.step {u : Setup P} {calls : List Call} {c : Conversation Key} (hc : c.Paired)
    (h : ∀ p, Progress u calls c p) (a : Call) (q : Party) :
    Progress u (calls ++ [a]) (c.step P a) q := by
  cases a with
  | encrypt p n t =>
    by_cases hq : q = p
    · subst hq
      constructor
      · simp only [Conversation.step, encrypt_session, Function.update_self,
          Ratchet.nextSendKey_state, (h q).ratchet, plaintextsBy_snoc_encrypt, if_true,
          List.length_append, List.length_singleton, Function.iterate_succ_apply',
          ofNat_add_one]
        rfl
      · have hk := (h q).sendKeys
        simp only [Conversation.step, Conversation.encrypt, Function.update_self,
          plaintextsBy_snoc_encrypt, if_true, List.length_append, List.length_singleton,
          List.range_succ, List.map_append, List.map_singleton, hk, Ratchet.nextSendKey_key,
          (h q).ratchet]
    · have hp : ¬ p = q := fun e => hq e.symm
      constructor
      · simp only [Conversation.step, encrypt_session, Function.update_of_ne hq,
          plaintextsBy_snoc_encrypt, if_neg hp, List.append_nil]
        exact (h q).ratchet
      · simp only [Conversation.step, Conversation.encrypt, Function.update_of_ne hq,
          plaintextsBy_snoc_encrypt, if_neg hp, List.append_nil]
        exact (h q).sendKeys
  | decrypt p =>
    simp only [Conversation.step]
    cases hm : c.inFlight p with
    | nil =>
      rw [decrypt_nil hm]
      exact ⟨by rw [plaintextsBy_snoc_decrypt]; exact (h q).ratchet,
        by rw [plaintextsBy_snoc_decrypt]; exact (h q).sendKeys⟩
    | cons m rest =>
      rw [decrypt_cons hc hm]
      refine ⟨?_, by rw [plaintextsBy_snoc_decrypt]; exact (h q).sendKeys⟩
      by_cases hq : q = p
      · subst hq
        simp only [Function.update_self, Ratchet.nextRecvKey_state, (h q).ratchet,
          plaintextsBy_snoc_decrypt, List.length_append, List.length_singleton,
          Function.iterate_succ_apply', ofNat_add_one]
      · simp only [Function.update_of_ne hq, plaintextsBy_snoc_decrypt]
        exact (h q).ratchet

/-- **Over a whole run only the chains and their counters move**, one step a message. -/
theorem progress_run (u : Setup P) (calls : List Call) (p : Party) :
    Progress u calls ((start u).run P calls) p := by
  induction calls using List.reverseRecOn generalizing p with
  | nil => exact progress_start u p
  | append_singleton calls a ih =>
    rw [run_snoc]
    exact Progress.step (paired_run u calls) ih a p

/-! ## Messages in flight open in order -/

/-- The message of `tm` opens to the plaintext of `tm` with the message key of `chain`, and
    `chain'` is the next chain key. -/
def Opens (P : Primitives Key) (chain : Key) (tm : Bytes × SessionMessage Key) (chain' : Key) :
    Prop :=
  Core.decrypt P tm.2.ciphertext (messageKey P chain) tm.2.nonce = .ok tm.1 ∧
    chain' = nextChainKey P chain

/-- The messages in flight to `p` open in order, from its receiving chain to the peer's
    sending chain, to the plaintexts of the peer that `p` has not yet decrypted. -/
def Synced (P : Primitives Key) (calls : List Call) (c : Conversation Key) (p : Party) : Prop :=
  ∃ ps : List (Bytes × SessionMessage Key), ps.map Prod.snd = c.inFlight p ∧
    c.results p ++ ps.map (fun tm => .ok tm.1) = (plaintextsBy p.peer calls).map .ok ∧
    Path (Opens P) (c.session p).ratchet.recvChainKey ps
      (c.session p.peer).ratchet.sendChainKey

omit [DecidableEq Key] in
theorem synced_start (hP : P.Lawful) (u : Setup P) (p : Party) : Synced P [] (start u) p := by
  refine ⟨[], rfl, rfl, Path.nil_iff.mpr ?_⟩
  have h := congrArg Prod.snd
    (Session.newInitiator_newResponder hP u.ephSecret u.signedPreKey.keyPair u.wellFormed)
  cases p
  · rfl
  · exact h.symm

omit [DecidableEq Key] in
/-- What `encrypt` makes of a plaintext, the key of the same chain opens. -/
theorem encrypt_opens (hP : P.Lawful) {s : Session Key} {n : Nonce} {t : Bytes}
    {m : SessionMessage Key} (h : (s.encrypt P n t).1 = .ok m) :
    Opens P s.ratchet.sendChainKey (t, m) (nextChainKey P s.ratchet.sendChainKey) := by
  obtain ⟨-, -, hn, hc⟩ := Session.encrypt_ok h
  obtain ⟨c, hc', hd⟩ := hP.decrypt_encrypt (messageKey P s.ratchet.sendChainKey) n t
  obtain rfl : c = m.ciphertext := Option.some.inj (hc'.symm.trans hc)
  exact ⟨decrypt_eq_ok.mpr (by rw [hn]; exact hd), rfl⟩

omit [DecidableEq Key] in
theorem Synced.encrypt (hP : P.Lawful) {calls : List Call} {c : Conversation Key}
    (h : ∀ p, Synced P calls c p) (p : Party) (n : Nonce) (t : Bytes) (q : Party) :
    Synced P (calls ++ [.encrypt p n t]) (c.encrypt P p n t) q := by
  obtain ⟨m, hm⟩ := Session.exists_encrypt_ok hP (c.session p) n t
  obtain ⟨ps, hfl, hres, hpath⟩ := h q
  unfold Synced
  rw [encrypt_inFlight_ok hm, encrypt_session, plaintextsBy_snoc_encrypt]
  rcases Party.eq_or_eq_peer p q with rfl | rfl
  · -- messages to the caller itself: only the other direction has changed
    refine ⟨ps, by rw [Function.update_of_ne (Party.ne_peer q)]; exact hfl, ?_, ?_⟩
    · rw [if_neg (Party.ne_peer q), List.append_nil]
      exact hres
    · rw [Function.update_self, Function.update_of_ne (Party.peer_ne q)]
      exact hpath
  · rw [Party.peer_peer] at hres hpath ⊢
    refine ⟨ps ++ [(t, m)], ?_, ?_, ?_⟩
    · rw [Function.update_self, List.map_append, hfl]
      rfl
    · rw [if_pos rfl, List.map_append, List.map_append, ← hres, List.append_assoc]
      rfl
    · rw [Function.update_of_ne (Party.peer_ne p), Function.update_self]
      exact hpath.snoc (encrypt_opens hP hm)

theorem Synced.decrypt {calls : List Call} {c : Conversation Key} (hc : c.Paired)
    (h : ∀ p, Synced P calls c p) (p q : Party) :
    Synced P (calls ++ [.decrypt p]) (c.decrypt P p) q := by
  obtain ⟨ps, hfl, hres, hpath⟩ := h q
  unfold Synced
  rw [plaintextsBy_snoc_decrypt]
  cases hm : c.inFlight p with
  | nil =>
    rw [decrypt_nil hm]
    exact ⟨ps, hfl, hres, hpath⟩
  | cons m rest =>
    rw [decrypt_cons hc hm]
    dsimp only
    rcases Party.eq_or_eq_peer p q with rfl | rfl
    · -- the oldest message opens, and the path loses its first label
      cases ps with
      | nil => simp [hm] at hfl
      | cons tm ps =>
        rw [hm, List.map_cons, List.cons.injEq] at hfl
        obtain ⟨k, ⟨hopen, rfl⟩, hpath⟩ := Path.cons_iff.mp hpath
        rw [hfl.1] at hopen
        refine ⟨ps, by rw [Function.update_self]; exact hfl.2, ?_, ?_⟩
        · rw [Function.update_self, hopen, ← hres, List.append_assoc]
          rfl
        · rw [Function.update_self, Function.update_of_ne (Party.peer_ne q)]
          exact hpath
    · refine ⟨ps, by rw [Function.update_of_ne (Party.peer_ne p)]; exact hfl, ?_, ?_⟩
      · rw [Function.update_of_ne (Party.peer_ne p)]
        exact hres
      · rw [Function.update_of_ne (Party.peer_ne p), Party.peer_peer, Function.update_self]
        rw [Party.peer_peer] at hpath
        exact hpath

theorem synced_run (hP : P.Lawful) (u : Setup P) (calls : List Call) (p : Party) :
    Synced P calls ((start u).run P calls) p := by
  induction calls using List.reverseRecOn generalizing p with
  | nil => exact synced_start hP u p
  | append_singleton calls a ih =>
    rw [run_snoc]
    cases a with
    | encrypt q n t => exact Synced.encrypt hP ih q n t p
    | decrypt q => exact Synced.decrypt (paired_run u calls) ih q p

/-- **Session agreement.** In every interleaving of the two parties' calls, the decryptions
    of a party return `Ok` with the plaintexts its peer encrypted, in order and each once;
    the messages not yet decrypted are in flight; and the counters have not wrapped. -/
theorem decrypts_in_order (hP : P.Lawful) (u : Setup P) (calls : List Call)
    (hlen : ∀ p, (plaintextsBy p calls).length < 2 ^ 32) (p : Party) :
    let c := (start u).run P calls
    c.results p = (((plaintextsBy p.peer calls).take (c.results p).length).map .ok) ∧
    (c.results p).length + (c.inFlight p).length = (plaintextsBy p.peer calls).length ∧
    (c.session p).ratchet.sendMsgNumber.toNat = (plaintextsBy p calls).length ∧
    (c.session p).ratchet.recvMsgNumber.toNat = (c.results p).length := by
  intro c
  obtain ⟨ps, hfl, hres, -⟩ := synced_run hP u calls p
  have hprog := (progress_run u calls p).ratchet
  have hcount : (c.results p).length + (c.inFlight p).length =
      (plaintextsBy p.peer calls).length := by
    have hl := congrArg List.length hres
    rw [List.length_append, List.length_map, List.length_map] at hl
    rw [← hl, ← hfl, List.length_map]
  refine ⟨?_, hcount, ?_, ?_⟩
  · rw [List.map_take, ← hres, List.take_left' rfl]
  · rw [hprog]
    exact UInt32.toNat_ofNat_of_lt' (hlen p)
  · have hrecv : (c.results p).length < 2 ^ 32 := by
      have := hlen p.peer
      omega
    rw [hprog]
    exact UInt32.toNat_ofNat_of_lt' hrecv

/-- A reply and a second message, all decrypted. -/
theorem decrypts_in_order_exchange :
    let c := (start (freshSetup 0 1)).run Symbolic.symbolic
      [.encrypt .alice (.replicate 12 0) [1], .decrypt .bob, .encrypt .bob (.replicate 12 0) [2],
        .encrypt .alice (.replicate 12 1) [3], .decrypt .alice, .decrypt .bob]
    c.results .bob = (([[1], [3]] : List Bytes).take (c.results .bob).length).map .ok ∧
    (c.results .bob).length + (c.inFlight .bob).length = 2 ∧
    (c.session .bob).ratchet.sendMsgNumber.toNat = 1 ∧
    (c.session .bob).ratchet.recvMsgNumber.toNat = (c.results .bob).length :=
  decrypts_in_order Symbolic.symbolic_lawful (freshSetup 0 1)
    [.encrypt .alice (.replicate 12 0) [1], .decrypt .bob, .encrypt .bob (.replicate 12 0) [2],
      .encrypt .alice (.replicate 12 1) [3], .decrypt .alice, .decrypt .bob]
    (by intro p; cases p <;> decide) .bob

end Conversation

end TinTin.Core
