/-
  Who has written what a terminal client records, on a network that belongs to the relay.

  Identity keys take no part in a session and no signature is checked, so a `PreKeyBundle`
  envelope and a bundle are the relay's to make: `forged_first_message`. What holds without
  them is carried by `Trust`: a responder session made by an envelope that the named client
  has sent goes back to an ephemeral secret of that client, and so does whatever decrypts in
  it. The other sessions are over `[0u8; 32]` in the receiving direction and promise nothing.

  * `trust_step`, `trust_run`: the invariant.
  * `sender_authentic`: a message read in such a session was encrypted for it by the client
    it is recorded from, and a key that an initiator encrypts with is out of reach without its
    ephemeral secret or the secret of the signed pre-key.
-/
import TinTin.Cli.Network
import TinTin.Cli.Delivery

namespace TinTin.Cli

open TinTin.Lib TinTin.Core TinTin.Symbolic TinTin.Security

/-! ## Sessions and their openings -/

/-- An initiator session of `owner` for `peer`, with the opening it was made by. -/
def Opened (openings : List Opening) (owner peer : String) (s : Session Term) : Prop :=
  s.role = .initiator ∧ s.ratchet.isInitiator = true ∧
    ∃ o ∈ openings, o.owner = owner ∧ o.peer = peer ∧
      s.ratchet.dhRatchetKey.publicKey = .pub o.ephSecret ∧
      Stems (o.ephSecret.diffieHellman o.preKey) (.pub o.ephSecret) s.ratchet

/-- A responder session, made by whatever base key. -/
def Answered (s : Session Term) : Prop :=
  s.role = .responder ∧ s.ratchet.isInitiator = false ∧ ∃ shared eph, Stems shared eph s.ratchet

/-- The session goes back to an ephemeral secret of `sender` in a session with `recipient`, and
    to the signed pre-key `preKeySecret`. -/
def Joined (openings : List Opening) (preKeySecret : ℕ) (sender recipient : String)
    (s : Session Term) : Prop :=
  ∃ o ∈ openings, o.owner = sender ∧ o.peer = recipient ∧
    Stems ((Term.secret preKeySecret).diffieHellman (.pub o.ephSecret)) (.pub o.ephSecret)
      s.ratchet

/-- The envelope carries the first message of an opening. -/
def Announces (X : Crates Term) (net : Net) (e : Envelope) : Prop :=
  ∃ o ∈ net.openings, ∃ x ∈ net.encryptions, ∃ prekey,
    X.serde.preKeyBundleMessage.decode e.content = some prekey ∧
    o.owner = e.senderId ∧ o.peer = e.recipientId ∧ prekey.baseKey = .pub o.ephSecret ∧
    x.sender = e.senderId ∧ x.recipient = e.recipientId ∧
    prekey.sessionMessage.ciphertext = sealed.encode (x.key, x.nonce, x.plaintext)

/-- The key of the message goes back to an opening of its sender for its recipient. If the
    bundle had the recipient's own signed pre-key, it takes the ephemeral secret or the secret
    of that pre-key to reach it. -/
def Encryption.Confined (openings : List Opening) (preKeySecret : String → ℕ) (x : Encryption) :
    Prop :=
  ∃ o ∈ openings, ∃ n, o.owner = x.sender ∧ o.peer = x.recipient ∧ o.ephSecret = .secret n ∧
    x.session.ratchet.dhRatchetKey.publicKey = .pub (.secret n) ∧
    (o.preKey = .pub (.secret (preKeySecret x.recipient)) → ∀ others, n ∉ others →
      preKeySecret x.recipient ∉ others → ¬ Derives (Computes symbolic) (known others) x.key)

/-- What is so in every run that is vouched for between `sender` and `recipient`. -/
structure Trust (X : Crates Term) (own : Set ℕ) (preKeySecret : String → ℕ)
    (sender recipient : String) (net : Net) : Prop where
  userId : ∀ u, (net.client u).userId = u
  preKey : ∀ u, (net.client u).signedPreKey.keyPair =
    KeyPair.generate symbolic (.secret (preKeySecret u))
  fresh : ∀ o ∈ net.openings, ∃ n, o.ephSecret = .secret n ∧ n ∉ own
  unique : ∀ o ∈ net.openings, ∀ o' ∈ net.openings, o.ephSecret = o'.ephSecret → o = o'
  session : ∀ u p d s, (net.client u).sessions.get p d = some s →
    Opened net.openings u p s ∨ Answered s
  joined : ∀ d s, (net.client recipient).sessions.get sender d = some s → s.role = .responder →
    Joined net.openings (preKeySecret recipient) sender recipient s
  encrypted : ∀ x ∈ net.encryptions,
    Opened net.openings x.sender x.recipient x.session ∨ Answered x.session
  posted : ∀ e ∈ net.posted, e.msgType = .preKeyBundle → Announces X net e

theorem Opened.mono {os os' : List Opening} (hos : os ⊆ os') {owner peer : String}
    {s : Session Term} (h : Opened os owner peer s) : Opened os' owner peer s := by
  obtain ⟨hrole, hinit, o, ho, h⟩ := h
  exact ⟨hrole, hinit, o, hos ho, h⟩

theorem Joined.mono {os os' : List Opening} (hos : os ⊆ os') {n : ℕ} {sender recipient : String}
    {s : Session Term} (h : Joined os n sender recipient s) : Joined os' n sender recipient s := by
  obtain ⟨o, ho, h⟩ := h
  exact ⟨o, hos ho, h⟩

/-! ### Encryption and decryption keep them -/

section Keep

variable {openings : List Opening} {owner peer : String} {s : Session Term}

theorem Opened.encrypt (h : Opened openings owner peer s) (n : Nonce) (t : Bytes) :
    Opened openings owner peer (s.encrypt symbolic n t).2 := by
  obtain ⟨hrole, hinit, o, ho, howner, hpeer, hkey, hstems⟩ := h
  rw [Session.encrypt_state]
  exact ⟨hrole, hinit, o, ho, howner, hpeer, hkey, hstems.nextSendKey⟩

theorem Answered.encrypt (h : Answered s) (n : Nonce) (t : Bytes) :
    Answered (s.encrypt symbolic n t).2 := by
  obtain ⟨hrole, hinit, shared, eph, hstems⟩ := h
  rw [Session.encrypt_state]
  exact ⟨hrole, hinit, shared, eph, hstems.nextSendKey⟩

theorem Joined.encrypt {k : ℕ} (h : Joined openings k owner peer s) (n : Nonce) (t : Bytes) :
    Joined openings k owner peer (s.encrypt symbolic n t).2 := by
  obtain ⟨o, ho, howner, hpeer, hstems⟩ := h
  rw [Session.encrypt_state]
  exact ⟨o, ho, howner, hpeer, hstems.nextSendKey⟩

theorem Opened.decrypt (h : Opened openings owner peer s) (m : SessionMessage Term) :
    Opened openings owner peer (s.decrypt symbolic m).2 := by
  obtain ⟨hrole, hinit, o, ho, howner, hpeer, hkey, hstems⟩ := h
  refine ⟨hrole, ?_, o, ho, howner, hpeer, ?_, hstems.decryptMessage _⟩
  · rw [← hinit]
    exact Ratchet.receiveHeader_isInitiator s.ratchet m.ratchetKey
  · rw [← hkey]
    exact congrArg KeyPair.publicKey (Ratchet.receiveHeader_dhRatchetKey s.ratchet m.ratchetKey)

theorem Answered.decrypt (h : Answered s) (m : SessionMessage Term) :
    Answered (s.decrypt symbolic m).2 := by
  obtain ⟨hrole, hinit, shared, eph, hstems⟩ := h
  refine ⟨hrole, ?_, shared, eph, hstems.decryptMessage _⟩
  rw [← hinit]
  exact Ratchet.receiveHeader_isInitiator s.ratchet m.ratchetKey

theorem Joined.decrypt {k : ℕ} (h : Joined openings k owner peer s) (m : SessionMessage Term) :
    Joined openings k owner peer (s.decrypt symbolic m).2 := by
  obtain ⟨o, ho, howner, hpeer, hstems⟩ := h
  exact ⟨o, ho, howner, hpeer, hstems.decryptMessage _⟩

end Keep

theorem Announces.mono {X : Crates Term} {net net' : Net} {e : Envelope}
    (ho : net.openings ⊆ net'.openings) (hx : net.encryptions ⊆ net'.encryptions)
    (h : Announces X net e) : Announces X net' e := by
  obtain ⟨o, hmo, x, hmx, h⟩ := h
  exact ⟨o, ho hmo, x, hx hmx, h⟩

/-! ## The invariant -/

section Invariant

variable {X : Crates Term} {own : Set ℕ} {preKeySecret : String → ℕ} {sender recipient : String}
  {net net' : Net}

theorem trust_start (X : Crates Term) (own : Set ℕ) (identitySecret preKeySecret : String → ℕ)
    (sender recipient : String) :
    Trust X own preKeySecret sender recipient (.start identitySecret preKeySecret) where
  userId _ := rfl
  preKey _ := rfl
  fresh _ ho := by cases ho
  unique _ ho := by cases ho
  session _ _ _ _ hs := by cases hs
  joined _ _ hs := by cases hs
  encrypted _ hx := by cases hx
  posted _ he := by cases he

/-- A client changes, and openings, encryptions and envelopes are added. -/
theorem Trust.update (h : Trust X own preKeySecret sender recipient net)
    {user : String} {c : Client Term}
    (hclient : net'.client = Function.update net.client user c)
    (hkeys : Client.SameKeys (net.client user) c)
    (ho : net.openings ⊆ net'.openings) (hx : net.encryptions ⊆ net'.encryptions)
    (hfresh : ∀ o ∈ net'.openings, ∃ n, o.ephSecret = .secret n ∧ n ∉ own)
    (hunique : ∀ o ∈ net'.openings, ∀ o' ∈ net'.openings, o.ephSecret = o'.ephSecret → o = o')
    (hsession : ∀ p d s, c.sessions.get p d = some s →
      Opened net'.openings user p s ∨ Answered s)
    (hjoined : user = recipient → ∀ d s, c.sessions.get sender d = some s →
      s.role = .responder → Joined net'.openings (preKeySecret recipient) sender recipient s)
    (hencrypted : ∀ x ∈ net'.encryptions, x ∈ net.encryptions ∨
      Opened net'.openings x.sender x.recipient x.session ∨ Answered x.session)
    (hposted : ∀ e ∈ net'.posted, e ∈ net.posted ∨ (e.msgType = .preKeyBundle →
      Announces X net' e)) :
    Trust X own preKeySecret sender recipient net' where
  userId u := by
    rw [hclient, Function.update_apply]
    split_ifs with hu
    · rw [hkeys.userId, h.userId, hu]
    · exact h.userId u
  preKey u := by
    rw [hclient, Function.update_apply]
    split_ifs with hu
    · rw [hkeys.signedPreKey, h.preKey, hu]
    · exact h.preKey u
  fresh := hfresh
  unique := hunique
  session u p d s hs := by
    rw [hclient, Function.update_apply] at hs
    split_ifs at hs with hu
    · rw [hu]
      exact hsession p d s hs
    · exact (h.session u p d s hs).imp (·.mono ho) id
  joined d s hs hrole := by
    rw [hclient, Function.update_apply] at hs
    split_ifs at hs with hu
    · exact hjoined hu.symm d s hs hrole
    · exact (h.joined d s hs hrole).mono ho
  encrypted x hmem := by
    rcases hencrypted x hmem with hold | hnew
    · exact (h.encrypted x hold).imp (·.mono ho) id
    · exact hnew
  posted e hmem htype := by
    rcases hposted e hmem with hold | hnew
    · exact (h.posted e hold htype).mono ho hx
    · exact hnew htype

theorem trust_other (h : Trust X own preKeySecret sender recipient net) {user : String}
    {c : Client Term} (hquiet : (net.client user).Quiet c)
    (hsessions : c.sessions = (net.client user).sessions) :
    Trust X own preKeySecret sender recipient (net.step X (.other user c)) := by
  refine h.update rfl hquiet.1 (List.Subset.refl _) (List.Subset.refl _) h.fresh h.unique ?_ ?_
    (fun x hx => .inl hx) (fun e he => .inl he)
  · intro p d s hs
    rw [hsessions] at hs
    exact h.session user p d s hs
  · rintro rfl d s hs
    rw [hsessions] at hs
    exact h.joined d s hs

theorem answered_responderFor (hX : X.prims = symbolic) (c : Client Term) (e : Envelope)
    (prekey : PreKeyBundleMessage Term) : Answered (Client.responderFor X c e prekey) := by
  unfold Client.responderFor
  rw [hX]
  exact ⟨rfl, rfl, _, _, Stems.newResponder _ _⟩

/-- A session that an envelope has made or used is of one of the two kinds. -/
theorem Trust.touched (hX : X.prims = symbolic)
    (h : Trust X own preKeySecret sender recipient net) {u p : String} {d : UInt32}
    {s : Session Term} {e : Envelope}
    (ht : Touches X (net.client u) e ((net.client u).sessions.get p 1) d s) :
    Opened net.openings u p s ∨ Answered s := by
  cases ht with
  | hello htype hdec hok =>
    rw [hX]
    exact .inr ((answered_responderFor hX _ _ _).decrypt _)
  | message htype hdec hs =>
    rw [hX]
    exact (h.session u p 1 _ hs).imp (·.decrypt _) (·.decrypt _)

/-- A responder session of the pair that a vouched envelope has made or used is joined. -/
theorem Trust.touched_joined (hX : X.prims = symbolic)
    (h : Trust X own preKeySecret sender recipient net) {io : ReceiveInput Term} {i : ℕ}
    {d : UInt32} {s : Session Term} {e : Envelope}
    (hv : net.Vouched sender recipient (.deliver recipient io i e)) (hsender : e.senderId = sender)
    (ht : Touches X (net.client recipient) e ((net.client recipient).sessions.get sender 1) d s)
    (hrole : s.role = .responder) :
    Joined net.openings (preKeySecret recipient) sender recipient s := by
  cases ht with
  | @hello prekey _ htype hdec hok =>
    obtain ⟨hposted, hrecipient⟩ := hv rfl hsender htype
    obtain ⟨o, ho, x, -, prekey', hdec', howner, hpeer, hbase, -⟩ := h.posted e hposted htype
    have hprekey : prekey' = prekey := Option.some.inj (hdec'.symm.trans hdec)
    subst hprekey
    have hnew : Joined net.openings (preKeySecret recipient) sender recipient
        (Client.responderFor X (net.client recipient) e prekey') := by
      refine ⟨o, ho, howner.trans hsender, hpeer.trans hrecipient, ?_⟩
      unfold Client.responderFor Session.newResponder
      rw [hX, h.preKey, hbase]
      exact Stems.newResponder (.generate symbolic (.secret (preKeySecret recipient)))
        (.pub o.ephSecret)
    rw [hX]
    exact hnew.decrypt _
  | message htype hdec hs =>
    rw [hX]
    exact (h.joined 1 _ hs hrole).decrypt _

theorem trust_deliver (hX : X.prims = symbolic)
    (h : Trust X own preKeySecret sender recipient net) {user : String} {io : ReceiveInput Term}
    {i : ℕ} {e : Envelope} (hv : net.Vouched sender recipient (.deliver user io i e)) :
    Trust X own preKeySecret sender recipient (net.step X (.deliver user io i e)) := by
  have hkeys := (Client.receiveEnvelope_view (X := X) (c := net.client user) ⟨rfl, rfl, rfl⟩ io i e
    user).1
  refine h.update rfl hkeys (List.Subset.refl _) (List.Subset.refl _) h.fresh h.unique ?_ ?_
    (fun x hx => .inl hx) ?_
  · intro p d s hs
    rcases Client.receiveEnvelope_session io i hs with hs | ⟨-, ht⟩
    · exact h.session user p d s hs
    · exact h.touched hX ht
  · rintro rfl d s hs hrole
    rcases Client.receiveEnvelope_session io i hs with hs | ⟨hsender, ht⟩
    · exact h.joined d s hs hrole
    · exact h.touched_joined hX hv hsender ht hrole
  · intro r hr
    rcases List.mem_append.mp hr with hr | hr
    · exact .inl hr
    · right
      intro htype
      rw [Client.receiveEnvelope_posted io i r hr] at htype
      cases htype

/-- A send encrypts with a session of one of the two kinds; if it is new, with its opening. -/
theorem Trust.sending (hX : X.prims = symbolic)
    (h : Trust X own preKeySecret sender recipient net) {user peer : String}
    {io : SendInput Term} {bundle : Option (PreKeyBundle Term)} {s : Session Term} {isNew : Bool}
    {c₁ : Client Term}
    (hs : (net.client user).getOrCreateSession X io bundle peer = some (s, isNew, c₁))
    {openings : List Opening} (hos : net.openings ⊆ openings)
    (ho : isNew = true → ⟨user, peer, io.ephSecret, s.ratchet.theirRatchetKey⟩ ∈ openings) :
    (Opened openings user peer s ∨ Answered s) ∧
      (isNew = true → s.ratchet.dhRatchetKey.publicKey = .pub io.ephSecret) ∧
      (s.role = .responder → (net.client user).sessions.get peer 1 = some s) := by
  rcases Client.getOrCreateSession_cases hs with ⟨rfl, hget, -⟩ | ⟨rfl, -, ⟨b, -, rfl⟩, -⟩
  · refine ⟨(h.session user peer 1 s hget).imp (·.mono hos) id, fun hf => ?_, fun _ => hget⟩
    cases hf
  · have hopening := ho rfl
    rw [hX] at hopening ⊢
    refine ⟨.inl ⟨rfl, rfl, _, hopening, rfl, rfl, rfl, ?_⟩, fun _ => rfl, fun hf => ?_⟩
    · exact Stems.newInitiator (.generate symbolic io.ephSecret) b.signedPreKey
    · cases hf

/-- A send that encrypts nothing. -/
theorem trust_send_none (h : Trust X own preKeySecret sender recipient net)
    {user peer text : String} {io : SendInput Term} {bundle : Option (PreKeyBundle Term)}
    {outcome : PostOutcome} (hnone : net.sendingSession X user io bundle peer = none)
    (hquiet : peer = (net.client user).userId ∨
      (net.client user).getOrCreateSession X io bundle peer = none) :
    Trust X own preKeySecret sender recipient
      (net.step X (.send user io bundle outcome peer text)) := by
  obtain ⟨hkeys, hsessions⟩ := Client.sendMessage_quiet outcome text hquiet
  obtain ⟨ho, hx⟩ := Net.step_send_none hnone outcome text
  refine h.update rfl hkeys.1 (by rw [ho]; exact List.Subset.refl _)
    (by rw [hx]; exact List.Subset.refl _) ?_ ?_ ?_ ?_ ?_ ?_
  · rw [ho]
    exact h.fresh
  · rw [ho]
    exact h.unique
  · intro p d s hs
    rw [hsessions] at hs
    rw [ho]
    exact h.session user p d s hs
  · rintro rfl d s hs
    rw [hsessions] at hs
    rw [ho]
    exact h.joined d s hs
  · intro x hmem
    rw [hx] at hmem
    exact .inl hmem
  · intro e he
    rcases List.mem_append.mp he with he | he
    · exact .inl he
    · right
      intro htype
      rw [Client.sendMessage_note .accepted text hquiet e (Option.mem_toList.mp he)] at htype
      cases htype

/-- Ephemeral secrets stay apart when one is added that is nobody's. -/
theorem unique_snoc {openings : List Opening} {o : Opening}
    (h : ∀ o₁ ∈ openings, ∀ o₂ ∈ openings, o₁.ephSecret = o₂.ephSecret → o₁ = o₂)
    (hnew : ∀ o' ∈ openings, o'.ephSecret ≠ o.ephSecret) :
    ∀ o₁ ∈ openings ++ [o], ∀ o₂ ∈ openings ++ [o], o₁.ephSecret = o₂.ephSecret → o₁ = o₂ := by
  intro o₁ h₁ o₂ h₂ heq
  rw [List.mem_append, List.mem_singleton] at h₁ h₂
  rcases h₁ with h₁ | rfl
  · rcases h₂ with h₂ | rfl
    · exact h o₁ h₁ o₂ h₂ heq
    · exact absurd heq (hnew o₁ h₁)
  · rcases h₂ with h₂ | rfl
    · exact absurd heq.symm (hnew o₂ h₂)
    · rfl

/-- The envelope of a new session announces its opening. -/
theorem announces_send (hX : X.prims = symbolic) {user peer text : String}
    (huser : (net.client user).userId = user) {io : SendInput Term}
    {bundle : Option (PreKeyBundle Term)} {s : Session Term} {isNew : Bool} {c₁ : Client Term}
    (hne : peer ≠ (net.client user).userId)
    (hget : (net.client user).getOrCreateSession X io bundle peer = some (s, isNew, c₁))
    (ho : isNew = true → ⟨user, peer, io.ephSecret, s.ratchet.theirRatchetKey⟩ ∈ net'.openings)
    (hx : ⟨user, peer, s, io.nonce, utf8 text⟩ ∈ net'.encryptions)
    (hephemeral : isNew = true → s.ratchet.dhRatchetKey.publicKey = .pub io.ephSecret) :
    ∀ e ∈ ((net.client user).sendMessage X io bundle .accepted peer text).2.2,
      e.msgType = .preKeyBundle → Announces X net' e := by
  obtain ⟨m, c', e, hm, rfl, hsend, -⟩ := Client.sendMessage_spec
    (lawful_of_eq hX) hne hget .accepted text
  intro e he htype
  rw [hsend] at he
  cases he
  cases isNew with
  | false => cases htype
  | true =>
    obtain ⟨-, -, -, hcipher⟩ := Session.encrypt_ok hm
    rw [hX] at hcipher
    exact ⟨_, ho rfl, _, hx, _, X.serde.preKeyBundleMessage.decode_encode _, huser.symm, rfl,
      hephemeral rfl, huser.symm, rfl, (Option.some.inj hcipher).symm⟩

theorem trust_send (hX : X.prims = symbolic)
    (h : Trust X own preKeySecret sender recipient net) {user peer text : String}
    {io : SendInput Term} {bundle : Option (PreKeyBundle Term)} {outcome : PostOutcome}
    (ha : net.Allows X own (.send user io bundle outcome peer text)) :
    Trust X own preKeySecret sender recipient
      (net.step X (.send user io bundle outcome peer text)) := by
  rcases net.sendingSession_cases X user io bundle peer with
    ⟨hnone, hquiet⟩ | ⟨s, isNew, c₁, hsome, hne, hget⟩
  · exact trust_send_none h hnone hquiet
  obtain ⟨n, hn, hown, hnew⟩ := ha
  obtain ⟨hkeys, hsessions⟩ := Client.sendMessage_sessions outcome text hne hget
  obtain ⟨ho, hx⟩ := Net.step_send_some hsome outcome text
  generalize hnet' : net.step X (.send user io bundle outcome peer text) = net' at ho hx ⊢
  have hclient : net'.client = Function.update net.client user
      ((net.client user).sendMessage X io bundle outcome peer text).2.1 := by
    rw [← hnet']
    rfl
  have hposted : net'.posted = net.posted ++
      ((net.client user).sendMessage X io bundle .accepted peer text).2.2.toList := by
    rw [← hnet']
    rfl
  have hos : net.openings ⊆ net'.openings := by
    rw [ho]
    exact List.subset_append_left _ _
  have hxs : net.encryptions ⊆ net'.encryptions := by
    rw [hx]
    exact List.subset_append_left _ _
  have hmemo : isNew = true →
      ⟨user, peer, io.ephSecret, s.ratchet.theirRatchetKey⟩ ∈ net'.openings := by
    intro hisNew
    rw [ho, if_pos hisNew]
    exact List.mem_append_right _ List.mem_cons_self
  have hmemx : ⟨user, peer, s, io.nonce, utf8 text⟩ ∈ net'.encryptions := by
    rw [hx]
    exact List.mem_append_right _ List.mem_cons_self
  obtain ⟨hkind, hephemeral, hstored⟩ := h.sending hX hget hos hmemo
  refine h.update hclient hkeys.1 hos hxs ?_ ?_ ?_ ?_ ?_ ?_
  · intro o ho'
    rw [ho] at ho'
    rcases List.mem_append.mp ho' with ho' | ho'
    · exact h.fresh o ho'
    · split at ho'
      · rw [List.mem_singleton.mp ho']
        exact ⟨n, hn, hown⟩
      · cases ho'
  · rw [ho]
    split
    · exact unique_snoc h.unique hnew
    · rw [List.append_nil]
      exact h.unique
  · intro p d s' hs'
    rw [hsessions] at hs'
    split_ifs at hs' with hp
    · obtain ⟨rfl, rfl⟩ := hp
      cases hs'
      rw [hX]
      exact hkind.imp (·.encrypt _ _) (·.encrypt _ _)
    · exact (h.session user p d s' hs').imp (·.mono hos) id
  · rintro rfl d s' hs' hrole
    rw [hsessions] at hs'
    split_ifs at hs' with hp
    · obtain ⟨rfl, rfl⟩ := hp
      cases hs'
      rw [hX] at hrole ⊢
      rw [Session.encrypt_state] at hrole
      exact ((h.joined 1 s (hstored hrole) hrole).mono hos).encrypt _ _
    · exact (h.joined d s' hs' hrole).mono hos
  · intro x hx'
    rw [hx] at hx'
    rcases List.mem_append.mp hx' with hx' | hx'
    · exact .inl hx'
    · rw [List.mem_singleton.mp hx']
      exact .inr hkind
  · intro e he
    rw [hposted] at he
    rcases List.mem_append.mp he with he | he
    · exact .inl he
    · exact .inr (announces_send hX (h.userId user) hne hget hmemo hmemx hephemeral e
        (Option.mem_toList.mp he))

theorem trust_step (hX : X.prims = symbolic) {event : Event}
    (h : Trust X own preKeySecret sender recipient net)
    (hs : net.Step X own sender recipient event net') :
    Trust X own preKeySecret sender recipient net' := by
  obtain ⟨ha, hv, rfl⟩ := hs
  cases event with
  | send user io bundle outcome peer text => exact trust_send hX h ha
  | deliver user io i e => exact trust_deliver hX h hv
  | other user c => exact trust_other h ha.1 ha.2

theorem trust_run (hX : X.prims = symbolic) {identitySecret : String → ℕ} {events : List Event}
    (hrun : Path (Net.Step X own sender recipient) (.start identitySecret preKeySecret) events
      net) : Trust X own preKeySecret sender recipient net :=
  hrun.invariant (fun _ _ _ h hs => trust_step hX h hs)
    (trust_start X own identitySecret preKeySecret sender recipient)

/-! ## What it says about a message -/

/-- **A message read in a joined session** was encrypted in it by the sender. -/
theorem Trust.authentic_normal (h : Trust X own preKeySecret sender recipient net)
    (hown : ∀ u, preKeySecret u ∉ own)
    {s : Session Term} (hs : (net.client recipient).sessions.get sender 1 = some s)
    (hrole : s.role = .responder) {m : SessionMessage Term}
    (hcomposable : net.Composable own m.ciphertext) {plaintext : Bytes}
    (hok : (s.decrypt symbolic m).1 = .ok plaintext) :
    ∃ x ∈ net.encryptions, x.sender = sender ∧ x.recipient = recipient ∧
      x.plaintext = plaintext := by
  obtain ⟨o, ho, howner, hpeer, hstems⟩ := h.joined 1 s hs hrole
  obtain ⟨n, hn, hnown⟩ := h.fresh o ho
  have hinit : s.ratchet.isInitiator = false := by
    rcases h.session recipient sender 1 s hs with ⟨hinitiator, -⟩ | ⟨-, hinit, -⟩
    · rw [hrole] at hinitiator
      cases hinitiator
    · exact hinit
  -- the chain that the message is read with goes back to the opening
  generalize hr : s.ratchet.receiveHeader symbolic m.ratchetKey = r
  have hstems' := hstems.receiveHeader m.ratchetKey
  rw [hr] at hstems'
  have hlive : live r = r.recvChainKey := by
    unfold live
    rw [← hr, Ratchet.receiveHeader_isInitiator, hinit, if_neg Bool.false_ne_true]
  have hsealed : sealed.decode m.ciphertext =
      some (messageKey symbolic r.recvChainKey, m.nonce, plaintext) := by
    apply decode_of_decrypt
    rw [← hok, ← hr]
    rfl
  rcases hcomposable _ _ _ hsealed with hderives | ⟨x, hx, hkey, -, hplain⟩
  · have hwithin : Within own ((Term.secret (preKeySecret recipient)).diffieHellman
        (.pub (.secret n))) := by
      rw [← hn]
      apply hstems'.liveWithin own
      rw [hlive]
      exact within_of_derives_messageKey hderives
    rcases secret_of_within hwithin with hmem | hmem
    · exact absurd hmem (hown recipient)
    · exact absurd hmem hnown
  · have hbase : base x.session.ratchet.sendChainKey = .pub o.ephSecret := by
      rw [messageKey_injective hkey, ← hlive]
      exact hstems'.live
    rcases h.encrypted x hx with ⟨-, hxinit, o', ho', howner', hpeer', -, hxstems⟩ |
      ⟨-, hxinit, shared, eph, hxstems⟩
    · have hlive' := hxstems.live
      rw [live, if_pos hxinit, hbase] at hlive'
      have hsame : o = o' := h.unique o ho o' ho' (Term.pub.inj hlive')
      rw [← hsame] at howner' hpeer'
      exact ⟨x, hx, howner'.symm.trans howner, hpeer'.symm.trans hpeer, hplain⟩
    · have hidle := hxstems.idle
      rw [idle, hxinit, if_neg Bool.false_ne_true, hbase] at hidle
      cases hidle

/-- **What a vouched `PreKeyBundle` envelope opens to** was encrypted for it by the sender. -/
theorem Trust.authentic_preKeyBundle (h : Trust X own preKeySecret sender recipient net)
    {e : Envelope} (hposted : e ∈ net.posted)
    (htype : e.msgType = .preKeyBundle) {prekey : PreKeyBundleMessage Term}
    (hdec : X.serde.preKeyBundleMessage.decode e.content = some prekey) {s : Session Term}
    {plaintext : Bytes} (hok : (s.decrypt symbolic prekey.sessionMessage).1 = .ok plaintext) :
    ∃ x ∈ net.encryptions, x.sender = e.senderId ∧ x.recipient = e.recipientId ∧
      x.plaintext = plaintext := by
  obtain ⟨o, -, x, hx, prekey', hdec', -, -, -, hsender, hrecipient, hcipher⟩ :=
    h.posted e hposted htype
  have hprekey : prekey' = prekey := Option.some.inj (hdec'.symm.trans hdec)
  subst hprekey
  have hsealed := decode_of_decrypt hok
  rw [show (Session.toRatcheted prekey'.sessionMessage).ciphertext = _ from hcipher,
    sealed.decode_encode] at hsealed
  exact ⟨x, hx, hsender, hrecipient, (Prod.mk.inj (Prod.mk.inj (Option.some.inj hsealed)).2).2⟩

/-- **The key of an initiator** is out of reach without its ephemeral secret or the secret of
    the signed pre-key. -/
theorem Opened.key_out_of_reach {openings : List Opening} {x : Encryption}
    (h : Opened openings x.sender x.recipient x.session)
    (hfresh : ∀ o ∈ openings, ∃ n, o.ephSecret = .secret n ∧ n ∉ own) :
    x.Confined openings preKeySecret := by
  obtain ⟨-, hinit, o, ho, howner, hpeer, hkey, hstems⟩ := h
  obtain ⟨n, hn, -⟩ := hfresh o ho
  refine ⟨o, ho, n, howner, hpeer, hn, hkey.trans (congrArg _ hn), fun hpre others hmem hpk hd => ?_⟩
  have hwithin : Within others (live x.session.ratchet) := by
    rw [live, if_pos hinit]
    exact within_of_derives_messageKey hd
  have hshared := hstems.liveWithin others hwithin
  rw [hn, hpre] at hshared
  exact (secret_of_within hshared).elim hmem hpk

/-! ## Runs -/

/-- A `Normal` envelope of `sender` reaches `recipient` while the session that it has stored is an
    initiator's: it is read with the chain over `[0u8; 32]`. -/
def Net.ReadsAsInitiator (sender recipient : String) (net : Net) : Event → Prop
  | .deliver user _ _ e => user = recipient ∧ e.senderId = sender ∧ e.msgType = .normal ∧
      ∃ s, (net.client recipient).sessions.get sender 1 = some s ∧ s.role = .initiator
  | _ => False

/-- What `recipient` has recorded from `sender` is as before, or one more message that the client
    of `sender` has encrypted for it. -/
def Net.Wrote (X : Crates Term) (sender recipient : String) (net net' : Net) : Prop :=
  ((net'.client recipient).view sender).records = ((net.client recipient).view sender).records ∨
    ∃ x ∈ net.encryptions, x.sender = sender ∧ x.recipient = recipient ∧
      ((net'.client recipient).view sender).records =
        (((net.client recipient).view sender).log sender (entryOf X x.plaintext)).records

theorem ok_of_toOption {ε α : Type} {r : Except ε α} {a : α} (h : r.toOption = some a) :
    r = .ok a := by
  cases r with
  | error e => cases h
  | ok b =>
    cases h
    rfl

/-- What an envelope opens to was encrypted by its sender. -/
theorem Trust.opens (hX : X.prims = symbolic)
    (h : Trust X own preKeySecret sender recipient net) (hown : ∀ u, preKeySecret u ∉ own)
    {io : ReceiveInput Term} {i : ℕ} {e : Envelope} {plaintext : Bytes}
    (hs : net.Step X own sender recipient (.deliver recipient io i e) net')
    (hinit : ¬ net.ReadsAsInitiator sender recipient (.deliver recipient io i e))
    (hsender : e.senderId = sender)
    (hopens : (net.client recipient).opens X e = some plaintext) :
    ∃ x ∈ net.encryptions, x.sender = sender ∧ x.recipient = recipient ∧
      x.plaintext = plaintext := by
  obtain ⟨⟨hnormal, -⟩, hvouched, -⟩ := hs
  unfold Client.opens at hopens
  cases htype : e.msgType with
  | preKeyBundle =>
    rw [htype] at hopens
    obtain ⟨prekey, hdec, hopens⟩ := Option.bind_eq_some_iff.mp hopens
    obtain ⟨hposted, hrecipient⟩ := hvouched rfl hsender htype
    have hok := ok_of_toOption hopens
    rw [hX] at hok
    rw [← hsender, ← hrecipient]
    exact h.authentic_preKeyBundle hposted htype hdec hok
  | normal =>
    rw [htype] at hopens
    dsimp only at hopens
    split at hopens
    · cases hopens
    · obtain ⟨m, hdec, hopens⟩ := Option.bind_eq_some_iff.mp hopens
      obtain ⟨s, hget, hopens⟩ := Option.bind_eq_some_iff.mp hopens
      have hok := ok_of_toOption hopens
      rw [hX] at hok
      rw [hsender] at hget
      have hrole : s.role = .responder := by
        cases hrole : s.role with
        | initiator => exact absurd ⟨rfl, hsender, htype, s, hget, hrole⟩ hinit
        | responder => rfl
      exact h.authentic_normal hown hget hrole (hnormal m htype hdec) hok
  | receipt =>
    rw [htype] at hopens
    cases hopens
  | typing =>
    rw [htype] at hopens
    cases hopens

/-- **Whatever happens next**, a message that is recorded was encrypted by the client it is
    recorded from. -/
theorem Trust.wrote (hX : X.prims = symbolic)
    (h : Trust X own preKeySecret sender recipient net) (hown : ∀ u, preKeySecret u ∉ own)
    (hne : sender ≠ recipient) {event : Event}
    (hs : net.Step X own sender recipient event net')
    (hinit : ¬ net.ReadsAsInitiator sender recipient event) :
    net.Wrote X sender recipient net' := by
  have hstep := hs
  obtain ⟨ha, -, rfl⟩ := hstep
  have hkeep : ∀ user c, (user = recipient →
      (c.view sender).records = ((net.client user).view sender).records) →
      (((Function.update net.client user c) recipient).view sender).records =
        ((net.client recipient).view sender).records := by
    intro user c hc
    rw [Function.update_apply]
    split_ifs with hu
    · rw [hc hu.symm, hu]
    · rfl
  cases event with
  | send user io bundle outcome peer text =>
    exact .inl (hkeep user _ fun _ => (Client.sendMessage_keeps X io bundle outcome _ peer text).2
      sender)
  | other user c => exact .inl (hkeep user c fun _ => ha.1.2 sender)
  | deliver user io i e =>
    by_cases hu : user = recipient
    · subst hu
      have huser : sender ≠ (net.client user).userId := by
        rw [h.userId]
        exact hne
      unfold Net.Wrote
      rw [Net.step_deliver_client]
      rcases Client.receiveEnvelope_records (X := X) (e := e) io i huser with
        hsame | ⟨plaintext, hsender, hopens, hrecords⟩
      · exact .inl hsame
      · obtain ⟨x, hx, hxs, hxr, rfl⟩ := h.opens hX hown hs hinit hsender hopens
        exact .inr ⟨x, hx, hxs, hxr, hrecords⟩
    · exact .inl (hkeep user _ fun hf => absurd hf hu)

/-- **Sender authenticity.** In every run in which `PreKeyBundle` envelopes under the name of
    `sender` reach `recipient` only as `sender` has made them for it, and the relay knows no
    secret of a signed pre-key: whatever happens next, a message that `recipient` records from
    `sender`, other than with an initiator session, is one that the client of `sender` has
    encrypted for it; and whatever anybody has encrypted with an initiator session stays out of
    reach without its ephemeral secret or the secret of the signed pre-key in the bundle. -/
theorem sender_authentic (hX : X.prims = symbolic) (identitySecret : String → ℕ)
    (hown : ∀ u, preKeySecret u ∉ own) (hne : sender ≠ recipient) {events : List Event}
    (hrun : Path (Net.Step X own sender recipient) (.start identitySecret preKeySecret) events
      net) :
    (∀ event net', net.Step X own sender recipient event net' →
        ¬ net.ReadsAsInitiator sender recipient event → net.Wrote X sender recipient net') ∧
      ∀ x ∈ net.encryptions, x.session.role = .initiator →
        x.Confined net.openings preKeySecret := by
  have h := trust_run hX hrun
  refine ⟨fun event net' hs hinit => h.wrote hX hown hne hs hinit, fun x hx hrole => ?_⟩
  rcases h.encrypted x hx with hopened | ⟨hresponder, -⟩
  · exact hopened.key_out_of_reach h.fresh
  · rw [hrole] at hresponder
    cases hresponder

/-! ## What the relay can make -/

/-- The relay can make what a client has sent first. -/
theorem Trust.composable_preKeyBundle (h : Trust X own preKeySecret sender recipient net)
    {e : Envelope} (hposted : e ∈ net.posted) (htype : e.msgType = .preKeyBundle)
    {prekey : PreKeyBundleMessage Term}
    (hdec : X.serde.preKeyBundleMessage.decode e.content = some prekey) :
    net.Composable own prekey.sessionMessage.ciphertext := by
  obtain ⟨o, -, x, hx, prekey', hdec', -, -, -, -, -, hcipher⟩ := h.posted e hposted htype
  have hprekey : prekey' = prekey := Option.some.inj (hdec'.symm.trans hdec)
  subst hprekey
  intro k n plaintext hsealed
  rw [hcipher, sealed.decode_encode] at hsealed
  cases hsealed
  exact .inr ⟨x, hx, rfl, rfl, rfl⟩

/-- The first message key of a session over these two secrets. -/
def firstKey (ephSecret preKeySecret : ℕ) : Term :=
  messageKey symbolic (deriveChainKeys symbolic
    ((Term.secret ephSecret).diffieHellman (.pub (.secret preKeySecret)))
    (.pub (.secret ephSecret))).2

/-- Either secret is enough for the key, and no identity key is needed. -/
theorem derives_firstKey {m n : ℕ} (h : n ∈ own ∨ m ∈ own) :
    Derives (Computes symbolic) (known own) (firstKey n m) := by
  have hpub : ∀ k, Derives (Computes symbolic) (known own) (.pub (.secret k)) :=
    fun k => .known (.inl (.inr ⟨_, rfl⟩))
  have hagree : ∀ k l, k ∈ own → Derives (Computes symbolic) (known own)
      ((Term.secret k).diffieHellman (.pub (.secret l))) := fun k l hk =>
    .binary (.session (.agree (.generate symbolic (.secret k)) (.pub (.secret l))))
      (.known (.inr ⟨k, hk, rfl⟩)) (hpub l)
  have hshared : Derives (Computes symbolic) (known own)
      ((Term.secret n).diffieHellman (.pub (.secret m))) := by
    rcases h with h | h
    · exact hagree n m h
    · have hcomm : (Term.secret n).diffieHellman (.pub (.secret m)) =
          (Term.secret m).diffieHellman (.pub (.secret n)) := Term.agree_comm _ _
      rw [hcomm]
      exact hagree m n h
  exact .unary (.session (.messageKey _)) (.binary (.session (.chainKey _ _)) hshared (hpub n))

/-- A first message made with an ephemeral secret of one's own, for whoever has the pre-key. -/
def forgedHello (ephSecret preKeySecret : ℕ) (text : String) : PreKeyBundleMessage Term where
  identityKey := .zero
  baseKey := .pub (.secret ephSecret)
  sessionMessage := {
    version := protocolVersion
    ciphertext := sealed.encode (firstKey ephSecret preKeySecret, Vector.replicate 12 0, utf8 text)
    nonce := Vector.replicate 12 0
    ratchetKey := .pub (.secret ephSecret)
    messageNumber := 0 }

theorem forgedHello_composable (net : Net) {n : ℕ} (hn : n ∈ own) (m : ℕ) (text : String) :
    net.Composable own (forgedHello n m text).sessionMessage.ciphertext := by
  intro k nonce plaintext hsealed
  dsimp only [forgedHello] at hsealed
  rw [sealed.decode_encode] at hsealed
  cases hsealed
  exact .inl (derives_firstKey (.inl hn))

theorem exists_hello (X : Crates Term) (sender : String) (prekey : PreKeyBundleMessage Term) :
    ∃ e : Envelope, e.senderId = sender ∧ e.msgType = .preKeyBundle ∧
      X.serde.preKeyBundleMessage.decode e.content = some prekey :=
  ⟨.new 0 sender "" (X.serde.preKeyBundleMessage.encode prekey) .preKeyBundle, rfl, rfl,
    X.serde.preKeyBundleMessage.decode_encode prekey⟩

/-- **Anybody's first message is accepted**, under any name. -/
theorem forgedHello_opens (hX : X.prims = symbolic) {c : Client Term} {n m : ℕ}
    (hpre : c.signedPreKey.keyPair = .generate symbolic (.secret m)) (e : Envelope)
    (text : String) :
    ((Client.responderFor X c e (forgedHello n m text)).decrypt X.prims
      (forgedHello n m text).sessionMessage).1 = .ok (utf8 text) := by
  have hkey : (forgedHello n m text).sessionMessage.ratchetKey =
      (Client.responderFor X c e (forgedHello n m text)).ratchet.theirRatchetKey := rfl
  have hchain : messageKey symbolic
      (Client.responderFor X c e (forgedHello n m text)).ratchet.recvChainKey = firstKey n m := by
    have hcomm : (Term.secret n).diffieHellman (.pub (.secret m)) =
        (Term.secret m).diffieHellman (.pub (.secret n)) := Term.agree_comm _ _
    unfold Client.responderFor Session.newResponder firstKey
    rw [hX, hpre, hcomm]
    rfl
  rw [Session.decrypt_same hkey, hX, hchain]
  dsimp only
  rw [decrypt_eq_ok]
  exact (aeadDecrypt_encode _ _ _ _ _).trans (if_pos ⟨rfl, rfl⟩)

end Invariant

/-! ### Two fresh clients and a relay with a key of its own -/

def identityOf (user : String) : ℕ := if user = "alice" then 0 else if user = "bob" then 2 else 4

def preKeyOf (user : String) : ℕ := if user = "alice" then 1 else if user = "bob" then 3 else 5

def freshNet : Net := .start identityOf preKeyOf

/-- The secret that the relay has drawn. -/
def relayOwn : Set ℕ := {7}

theorem mem_relayOwn : 7 ∈ relayOwn := Set.mem_singleton 7

theorem not_relayOwn (user : String) : identityOf user ∉ relayOwn ∧ preKeyOf user ∉ relayOwn := by
  unfold identityOf preKeyOf relayOwn
  constructor <;> split_ifs <;> simp

/-- A first message that opens to a plain text is recorded. -/
theorem incoming_of_hello {X : Crates Term} {c : Client Term} {e : Envelope}
    {prekey : PreKeyBundleMessage Term} {text : String} (hplain : Client.Plain X text)
    (htype : e.msgType = .preKeyBundle)
    (hdec : X.serde.preKeyBundleMessage.decode e.content = some prekey)
    (hok : ((Client.responderFor X c e prekey).decrypt X.prims prekey.sessionMessage).1 =
      .ok (utf8 text)) (io : ReceiveInput Term) (i : ℕ) :
    (c.receiveEnvelope X io i e).2.1.incoming e.senderId = c.incoming e.senderId ++ [text] := by
  rw [Client.receive_preKeyBundle htype hdec hok]
  let s := ((Client.responderFor X c e prekey).decrypt X.prims prekey.sessionMessage).2
  let c' : Client Term := { c with sessions := c.sessions.add s }
  have hkeys : Client.SameKeys c c' := ⟨rfl, rfl, rfl⟩
  exact (readBy_finish hplain hkeys rfl e io i rfl).incoming

/-- Alice says hello to Bob with his own bundle, and he reads it. -/
theorem sender_authentic_hello : ∃ (events : List Event) (net net' : Net) (event : Event),
    Path (Net.Step plainCrates relayOwn "alice" "bob") freshNet events net ∧
    Net.Step plainCrates relayOwn "alice" "bob" net event net' ∧
    (net'.client "bob").incoming "alice" = ["hello"] ∧
    net.Wrote plainCrates "alice" "bob" net' ∧
    ∃ x ∈ net.encryptions, x.Confined net.openings preKeyOf := by
  have hne : (freshNet.client "bob").userId ≠ (freshNet.client "alice").userId := by decide
  obtain ⟨a', e, prekey, hsend, hsender, -, htype, hdec, -, hok⟩ :=
    first_message_opens (X := plainCrates) symbolic_lawful (a := freshNet.client "alice")
      (b := freshNet.client "bob") hne rfl (SignedPreKey.generate_wellFormed ..)
      (freshSendInput 8) "hello"
  let send : Event := .send "alice" (freshSendInput 8) (some (freshNet.client "bob").register)
    .accepted "bob" "hello"
  let net := freshNet.step plainCrates send
  have hrun : Path (Net.Step plainCrates relayOwn "alice" "bob") freshNet [send] net := by
    refine .cons ⟨⟨8, rfl, ?_, fun o ho => ?_⟩, trivial, rfl⟩ (.nil _)
    · simp [relayOwn]
    · cases ho
  have hsend' : (freshNet.client "alice").sendMessage plainCrates (freshSendInput 8)
      (some (freshNet.client "bob").register) .accepted "bob" "hello" = (.ok (), a', some e) := hsend
  have hrecipient : e.recipientId = "bob" := by
    obtain ⟨m, c', e', -, rfl, hsent, -⟩ := Client.sendMessage_spec (X := plainCrates)
      symbolic_lawful hne (Client.getOrCreateSession_new rfl (freshSendInput 8)
        (freshNet.client "bob").register) .accepted "hello"
    rw [hsend] at hsent
    cases hsent
    rfl
  have htrust := trust_run rfl hrun
  have hposted : e ∈ net.posted := by
    show e ∈ [] ++ ((freshNet.client "alice").sendMessage plainCrates (freshSendInput 8)
      (some (freshNet.client "bob").register) .accepted "bob" "hello").2.2.toList
    rw [hsend']
    exact List.mem_cons_self
  have hbob : net.client "bob" = freshNet.client "bob" :=
    Net.step_send_client_of_ne _ (by decide) _ _ _ _ _
  have hstep : Net.Step plainCrates relayOwn "alice" "bob" net
      (.deliver "bob" freshReceiveInput 0 e)
      (net.step plainCrates (.deliver "bob" freshReceiveInput 0 e)) := by
    refine ⟨⟨fun m hm => ?_, fun prekey' hm hdec' => ?_⟩, fun _ _ _ => ⟨hposted, hrecipient⟩, rfl⟩
    · rw [htype] at hm
      cases hm
    · exact htrust.composable_preKeyBundle hposted htype hdec'
  have hinit : ¬ net.ReadsAsInitiator "alice" "bob" (.deliver "bob" freshReceiveInput 0 e) := by
    rintro ⟨-, -, hm, -⟩
    rw [htype] at hm
    cases hm
  obtain ⟨hwrote, hconfined⟩ := sender_authentic (X := plainCrates) rfl identityOf
    (fun u => (not_relayOwn u).2) (by decide) hrun
  let x : Encryption :=
    { sender := "alice"
      recipient := "bob"
      session := .newInitiator symbolic (.secret 8) (freshNet.client "alice").identityCopy "bob" 1
        (freshNet.client "bob").register.identityKey (freshNet.client "bob").register.signedPreKey
      nonce := (freshSendInput 8).nonce
      plaintext := utf8 "hello" }
  have hsession : freshNet.sendingSession plainCrates "alice" (freshSendInput 8)
      (some (freshNet.client "bob").register) "bob" = some (x.session, true) := rfl
  have hx : x ∈ net.encryptions := by
    rw [(Net.step_send_some hsession .accepted "hello").2]
    exact List.mem_append_right _ List.mem_cons_self
  refine ⟨[send], net, _, _, hrun, hstep, ?_, hwrote _ _ hstep hinit, ?_⟩
  · rw [Net.step_deliver_client, hbob]
    have hincoming := incoming_of_hello (plain_plainCrates "hello") htype hdec hok
      freshReceiveInput 0
    rw [hsender] at hincoming
    exact hincoming
  · exact ⟨x, hx, hconfined x hx rfl⟩

/-- **A relay with one key of its own** has Bob record a message from Alice that she has never
    written, and reads what she writes to him after handing out a bundle with his identity key
    and its own signed pre-key. -/
theorem forged_first_message :
    (∀ u, identityOf u ∉ relayOwn ∧ preKeyOf u ∉ relayOwn) ∧
    (∃ e, e.senderId = "alice" ∧
      freshNet.Allows plainCrates relayOwn (.deliver "bob" freshReceiveInput 0 e) ∧
      ((freshNet.step plainCrates (.deliver "bob" freshReceiveInput 0 e)).client "bob").incoming
        "alice" = ["hello"] ∧
      (freshNet.step plainCrates (.deliver "bob" freshReceiveInput 0 e)).encryptions = []) ∧
    ∃ bundle : PreKeyBundle Term,
      bundle.identityKey = (freshNet.client "bob").identity.publicKey ∧
      freshNet.Allows plainCrates relayOwn
        (.send "alice" (freshSendInput 8) (some bundle) .accepted "bob" "hello") ∧
      ∃ x ∈ (freshNet.step plainCrates
          (.send "alice" (freshSendInput 8) (some bundle) .accepted "bob" "hello")).encryptions,
        x.sender = "alice" ∧ x.recipient = "bob" ∧
          Derives (Computes symbolic) (known relayOwn) x.key := by
  refine ⟨not_relayOwn, ?_, ?_⟩
  · obtain ⟨e, hsender, htype, hdec⟩ := exists_hello plainCrates "alice" (forgedHello 7 3 "hello")
    refine ⟨e, hsender, ⟨fun m hm => ?_, fun prekey _ hdec' => ?_⟩, ?_, rfl⟩
    · rw [htype] at hm
      cases hm
    · rw [← Option.some.inj (hdec.symm.trans hdec')]
      exact forgedHello_composable freshNet mem_relayOwn 3 "hello"
    · rw [Net.step_deliver_client, ← hsender]
      exact incoming_of_hello (plain_plainCrates "hello") htype hdec
        (forgedHello_opens (X := plainCrates) rfl rfl e "hello") freshReceiveInput 0
  · let bundle : PreKeyBundle Term :=
      { (freshNet.client "bob").register with signedPreKey := .pub (.secret 7) }
    refine ⟨bundle, rfl, ⟨8, rfl, ?_, fun o ho => by cases ho⟩, ?_⟩
    · simp [relayOwn]
    · have hsession : freshNet.sendingSession plainCrates "alice" (freshSendInput 8) (some bundle)
          "bob" = some (Session.newInitiator symbolic (.secret 8)
            (freshNet.client "alice").identityCopy "bob" 1 bundle.identityKey (.pub (.secret 7)),
            true) := rfl
      rw [(Net.step_send_some hsession .accepted "hello").2]
      exact ⟨_, List.mem_append_right _ List.mem_cons_self, rfl, rfl,
        derives_firstKey (n := 8) (.inr mem_relayOwn)⟩

end TinTin.Cli
