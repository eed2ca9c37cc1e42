/-
  What one sender's envelopes do to the terminal client, apart from everybody else's.

  `SenderView` is what a client has of one sender: the sessions with it and the chat records
  it left. Under `receive_messages` an envelope changes the view of its sender alone, and by a
  function of that view and the client's keys (`SenderView.hear`); other senders matter only
  by how far the loop gets.

  * `receiveEnvelope_error_iff`: the two kinds of envelope that end the loop.
  * `receive_local`: the body of the loop is local in the sense of `TinTin.Lib.Batch`.
  * `receive_isolated_iff`: when a batch serves a sender as if the others' envelopes were
    not there.
-/
import TinTin.Cli.Payload
import TinTin.Lib.Batch

namespace TinTin.Cli

open TinTin.Lib TinTin.Core

variable {Key : Type}

/-- What a client has of one sender. The clock readings in the records are left out: they
    depend on the place in the batch. -/
structure SenderView (Key : Type) where
  session : UInt32 → Option (Session Key)
  records : List MessageRecord

/-- The view a client has of a sender. -/
def Client.view (c : Client Key) (sender : String) : SenderView Key where
  session := c.sessions.get sender
  records := (c.chatLog.filter fun r => r.peer = sender ∧ r.direction = .incoming).map
    fun r => { r with timestamp := 0 }

namespace SenderView

/-- One more record from the sender. -/
def log (v : SenderView Key) (sender : String) (entry : Entry) : SenderView Key :=
  { v with records := v.records ++ [
      { peer := sender
        text := entry.text
        timestamp := 0
        direction := .incoming
        isGroup := entry.isGroup
        groupName := entry.groupName
        isChannel := entry.isChannel
        channelName := entry.channelName
        edited := false }] }

/-- The sender's session for a device is set. -/
def store (v : SenderView Key) (device : UInt32) (session : Session Key) : SenderView Key :=
  { v with session := Function.update v.session device (some session) }

theorem store_self (v : SenderView Key) (device : UInt32) (session : Session Key) :
    (v.store device session).session device = some session := by
  simp [store]

/-- A plaintext of the sender: recorded unless it is a call signal or a file chunk. -/
def read (X : Crates Key) (v : SenderView Key) (sender : String) (plaintext : Bytes) :
    SenderView Key :=
  if isCallSignal X plaintext || isFileChunk X plaintext then v
  else v.log sender (entryOf X plaintext)

/-- What an envelope does to the view of its sender, in a client with the keys of `c`. -/
def hear [DecidableEq Key] (X : Crates Key) (c : Client Key) (v : SenderView Key) (e : Envelope) :
    SenderView Key :=
  match e.msgType with
  | .preKeyBundle =>
    match X.serde.preKeyBundleMessage.decode e.content with
    | none => v
    | some prekey =>
      match (Client.responderFor X c e prekey).decrypt X.prims prekey.sessionMessage with
      | (.ok plaintext, s) => (v.store e.senderDeviceId s).read X e.senderId plaintext
      | (.error _, _) => v
  | .normal =>
    if e.senderId = c.userId then v.log e.senderId (.direct (fromUtf8Lossy e.content))
    else
      match X.serde.sessionMessage.decode e.content with
      | none => v
      | some m =>
        match v.session 1 with
        | none => v
        | some s =>
          match (s.decrypt X.prims m).1 with
          | .ok plaintext => (v.store 1 (s.decrypt X.prims m).2).read X e.senderId plaintext
          | .error _ => v.store 1 (s.decrypt X.prims m).2
  | .receipt => v
  | .typing => v

variable [DecidableEq Key] {X : Crates Key} {c : Client Key} {e : Envelope}

theorem hear_invalid (htype : e.msgType = .preKeyBundle)
    (hdec : X.serde.preKeyBundleMessage.decode e.content = none) (v : SenderView Key) :
    v.hear X c e = v := by
  unfold hear
  rw [htype]
  dsimp only
  rw [hdec]

/-- A `PreKeyBundle` envelope whose message decrypts sets the session and is read. -/
theorem hear_preKeyBundle {prekey : PreKeyBundleMessage Key} {plaintext : Bytes}
    (htype : e.msgType = .preKeyBundle)
    (hdec : X.serde.preKeyBundleMessage.decode e.content = some prekey)
    (hok : ((Client.responderFor X c e prekey).decrypt X.prims prekey.sessionMessage).1 =
      .ok plaintext) (v : SenderView Key) :
    v.hear X c e = (v.store e.senderDeviceId ((Client.responderFor X c e prekey).decrypt X.prims
      prekey.sessionMessage).2).read X e.senderId plaintext := by
  unfold hear
  rw [htype]
  dsimp only
  rw [hdec]
  dsimp only
  rw [← Prod.mk.eta (p := (Client.responderFor X c e prekey).decrypt X.prims
    prekey.sessionMessage), hok]

theorem hear_preKeyBundle_rejected {prekey : PreKeyBundleMessage Key} {err : TinTinError}
    (htype : e.msgType = .preKeyBundle)
    (hdec : X.serde.preKeyBundleMessage.decode e.content = some prekey)
    (hres : ((Client.responderFor X c e prekey).decrypt X.prims prekey.sessionMessage).1 =
      .error err) (v : SenderView Key) : v.hear X c e = v := by
  unfold hear
  rw [htype]
  dsimp only
  rw [hdec]
  dsimp only
  rw [← Prod.mk.eta (p := (Client.responderFor X c e prekey).decrypt X.prims
    prekey.sessionMessage), hres]

theorem hear_note (htype : e.msgType = .normal) (hself : e.senderId = c.userId)
    (v : SenderView Key) :
    v.hear X c e = v.log e.senderId (.direct (fromUtf8Lossy e.content)) := by
  unfold hear
  rw [htype]
  dsimp only
  rw [if_pos hself]

theorem hear_noSession (htype : e.msgType = .normal) (hne : e.senderId ≠ c.userId)
    {v : SenderView Key} (hs : v.session 1 = none) : v.hear X c e = v := by
  unfold hear
  rw [htype]
  dsimp only
  rw [if_neg hne, hs]
  split <;> rfl

/-- A message for the session moves it on, and is read if it decrypts. -/
theorem hear_message (htype : e.msgType = .normal) (hne : e.senderId ≠ c.userId)
    {m : SessionMessage Key} (hdec : X.serde.sessionMessage.decode e.content = some m)
    {v : SenderView Key} {s : Session Key} (hs : v.session 1 = some s) :
    v.hear X c e = match (s.decrypt X.prims m).1 with
      | .ok plaintext => (v.store 1 (s.decrypt X.prims m).2).read X e.senderId plaintext
      | .error _ => v.store 1 (s.decrypt X.prims m).2 := by
  unfold hear
  rw [htype]
  dsimp only
  rw [if_neg hne, hdec]
  dsimp only
  rw [hs]

theorem hear_receipt (htype : e.msgType = .receipt) (v : SenderView Key) : v.hear X c e = v := by
  unfold hear
  rw [htype]

end SenderView

namespace Client

variable {X : Crates Key}

/-! ## Single changes -/

theorem view_logIncoming (c : Client Key) (now : UInt64) (from' sender : String) (entry : Entry) :
    (c.logIncoming now from' entry).view sender =
      if from' = sender then (c.view sender).log sender entry else c.view sender := by
  unfold logIncoming recordMessage view SenderView.log
  dsimp only
  rw [List.filter_append, List.map_append]
  by_cases h : from' = sender <;> simp [h]

theorem view_add (c : Client Key) (s : Session Key) (sender : String) :
    ({ c with sessions := c.sessions.add s } : Client Key).view sender =
      if s.remoteUserId = sender then (c.view sender).store s.remoteDeviceId s
      else c.view sender := by
  unfold view SenderView.store
  dsimp only
  by_cases hu : s.remoteUserId = sender
  · rw [if_pos hu]
    congr 1
    funext d
    by_cases hd : d = s.remoteDeviceId
    · rw [hd, Function.update_self]
      exact SessionStore.get_add _ hu rfl
    · rw [Function.update_of_ne hd]
      exact SessionStore.get_add_of_ne _ fun h => hd h.2.symm
  · rw [if_neg hu]
    congr 1
    funext d
    exact SessionStore.get_add_of_ne _ fun h => hu h.1

theorem view_update (c : Client Key) (user sender : String) {s s' : Session Key}
    (hs : c.sessions.get user 1 = some s) {f : Session Key → Session Key} (hf : f s = s')
    (hkeep : ∀ s, (f s).remoteUserId = s.remoteUserId ∧
      (f s).remoteDeviceId = s.remoteDeviceId) :
    ({ c with sessions := c.sessions.update user 1 f } : Client Key).view sender =
      if user = sender then (c.view sender).store 1 s' else c.view sender := by
  unfold view SenderView.store
  dsimp only
  by_cases hu : user = sender
  · subst hu
    rw [if_pos rfl]
    congr 1
    funext d
    by_cases hd : d = 1
    · rw [hd, Function.update_self, SessionStore.get_update_self _ _ _ _ hkeep, hs, ← hf]
      rfl
    · rw [Function.update_of_ne hd]
      exact SessionStore.get_update_of_ne _ (fun h => hd h.2.symm) hkeep
  · rw [if_neg hu]
    congr 1
    funext d
    exact SessionStore.get_update_of_ne _ (fun h => hu h.1) hkeep

/-- Reading a plaintext changes the view of its sender. -/
theorem finish_view [DecidableEq Key] (io : ReceiveInput Key) (i : ℕ) (c : Client Key)
    (e : Envelope) (plaintext : Bytes) (sender : String) :
    SameKeys c (c.finish X io i e plaintext).2.1 ∧
      (c.finish X io i e plaintext).2.1.view sender =
        if e.senderId = sender then (c.view sender).read X sender plaintext
        else c.view sender := by
  unfold finish SenderView.read
  rcases afterDecrypt_cases X io i c e.senderId plaintext with
    ⟨hs, call, hrun⟩ | ⟨hs, hf, hrun | ⟨files, downloads, hrun⟩⟩ | ⟨hs, hf, hrun⟩
  · rw [hrun, hs]
    exact ⟨⟨rfl, rfl, rfl⟩, by simp [view]⟩
  · rw [hrun, hs, hf]
    exact ⟨⟨rfl, rfl, rfl⟩, by simp⟩
  · rw [hrun, hs, hf]
    exact ⟨⟨rfl, rfl, rfl⟩, by simp [view]⟩
  · rw [hrun, hs, hf]
    refine ⟨⟨rfl, rfl, rfl⟩, ?_⟩
    rw [view_logIncoming]
    by_cases h : e.senderId = sender
    · simp [h]
    · simp [h]

/-! ## One envelope -/

theorem responderFor_congr {c₀ c : Client Key} (h : SameKeys c₀ c) (e : Envelope)
    (prekey : PreKeyBundleMessage Key) : responderFor X c e prekey = responderFor X c₀ e prekey := by
  unfold responderFor identityCopy
  rw [h.identity, h.signedPreKey]

variable [DecidableEq Key]

/-- What an envelope does depends on the keys of the client alone. -/
theorem hear_congr {c₀ c : Client Key} (h : SameKeys c₀ c) (v : SenderView Key) (e : Envelope) :
    v.hear X c e = v.hear X c₀ e := by
  unfold SenderView.hear
  rw [h.userId]
  simp only [responderFor_congr h]

/-- The plaintext that an envelope has for the client. -/
def opens (X : Crates Key) (c : Client Key) (e : Envelope) : Option Bytes :=
  match e.msgType with
  | .preKeyBundle =>
    (X.serde.preKeyBundleMessage.decode e.content).bind fun prekey =>
      ((responderFor X c e prekey).decrypt X.prims prekey.sessionMessage).1.toOption
  | .normal =>
    if e.senderId = c.userId then none
    else (X.serde.sessionMessage.decode e.content).bind fun m =>
      (c.sessions.get e.senderId 1).bind fun s => (s.decrypt X.prims m).1.toOption
  | .receipt => none
  | .typing => none

theorem opens_hello {c : Client Key} {e : Envelope} {prekey : PreKeyBundleMessage Key}
    (htype : e.msgType = .preKeyBundle)
    (hdec : X.serde.preKeyBundleMessage.decode e.content = some prekey) :
    c.opens X e = ((responderFor X c e prekey).decrypt X.prims prekey.sessionMessage).1.toOption := by
  unfold opens
  rw [htype]
  dsimp only
  rw [hdec, Option.bind_some]

theorem opens_normal {c : Client Key} {e : Envelope} {m : SessionMessage Key} {s : Session Key}
    (htype : e.msgType = .normal) (hne : e.senderId ≠ c.userId)
    (hdec : X.serde.sessionMessage.decode e.content = some m)
    (hs : c.sessions.get e.senderId 1 = some s) :
    c.opens X e = (s.decrypt X.prims m).1.toOption := by
  unfold opens
  rw [htype]
  dsimp only
  rw [if_neg hne, hdec, Option.bind_some, hs, Option.bind_some]

/-- **What the body of the loop does** with an envelope. -/
inductive Received (X : Crates Key) (io : ReceiveInput Key) (i : ℕ) (c : Client Key)
    (e : Envelope) : Except ReceiveError Unit × Client Key × List Envelope → Prop
  /-- content that is no `PreKeyBundle` message -/
  | invalid (htype : e.msgType = .preKeyBundle)
    (hdec : X.serde.preKeyBundleMessage.decode e.content = none) :
    Received X io i c e (.error .invalidContent, c, [])
  /-- a message that comes with a new session -/
  | hello {prekey : PreKeyBundleMessage Key} {plaintext : Bytes} (htype : e.msgType = .preKeyBundle)
    (hdec : X.serde.preKeyBundleMessage.decode e.content = some prekey)
    (hok : ((responderFor X c e prekey).decrypt X.prims prekey.sessionMessage).1 =
      .ok plaintext) :
    Received X io i c e (finish X io i
      { c with
        sessions := c.sessions.add
          ((responderFor X c e prekey).decrypt X.prims prekey.sessionMessage).2 } e plaintext)
  /-- a note to oneself -/
  | note (htype : e.msgType = .normal) (hself : e.senderId = c.userId) :
    Received X io i c e (.ok (), c.logIncoming (io.recordedAt i) e.senderId
      (.direct (fromUtf8Lossy e.content)), [])
  /-- a message that the session reads -/
  | message {m : SessionMessage Key} {s : Session Key} {plaintext : Bytes}
    (htype : e.msgType = .normal) (hne : e.senderId ≠ c.userId)
    (hdec : X.serde.sessionMessage.decode e.content = some m)
    (hs : c.sessions.get e.senderId 1 = some s)
    (hok : (s.decrypt X.prims m).1 = .ok plaintext) :
    Received X io i c e (finish X io i { c with sessions := c.sessions.update e.senderId 1 fun s =>
      (s.decrypt X.prims m).2 } e plaintext)
  /-- a message that it does not -/
  | rejected {m : SessionMessage Key} {s : Session Key} {err : TinTinError}
    (htype : e.msgType = .normal) (hne : e.senderId ≠ c.userId)
    (hdec : X.serde.sessionMessage.decode e.content = some m)
    (hs : c.sessions.get e.senderId 1 = some s)
    (herr : (s.decrypt X.prims m).1 = .error err) :
    Received X io i c e (.ok (), { c with sessions := c.sessions.update e.senderId 1 fun s =>
      (s.decrypt X.prims m).2 }, [])
  | receipt {receipt : ReceiptContent} (htype : e.msgType = .receipt) :
    Received X io i c e (.ok (), c.updateStatus e.senderId receipt, [])
  /-- nothing to be read -/
  | skipped (hopens : c.opens X e = none)
    (hhear : (c.view e.senderId).hear X c e = c.view e.senderId) :
    Received X io i c e (.ok (), c, [])

theorem received (io : ReceiveInput Key) (i : ℕ) (c : Client Key) (e : Envelope) :
    Received X io i c e (c.receiveEnvelope X io i e) := by
  cases htype : e.msgType with
  | preKeyBundle =>
    cases hdec : X.serde.preKeyBundleMessage.decode e.content with
    | none =>
      rw [receive_invalid htype hdec]
      exact .invalid htype hdec
    | some prekey =>
      cases hres : ((responderFor X c e prekey).decrypt X.prims prekey.sessionMessage).1 with
      | ok plaintext =>
        rw [receive_preKeyBundle htype hdec hres]
        exact .hello htype hdec hres
      | error err =>
        rw [receive_preKeyBundle_rejected htype hdec hres]
        refine .skipped ?_ (SenderView.hear_preKeyBundle_rejected htype hdec hres _)
        rw [opens_hello htype hdec, hres]
        rfl
  | normal =>
    by_cases hself : e.senderId = c.userId
    · have hrun : c.receiveEnvelope X io i e = (.ok (), c.logIncoming (io.recordedAt i) e.senderId
          (.direct (fromUtf8Lossy e.content)), []) := by
        unfold receiveEnvelope
        rw [htype]
        dsimp only
        rw [if_pos hself, hself]
        rfl
      rw [hrun]
      exact .note htype hself
    · cases hdec : X.serde.sessionMessage.decode e.content with
      | none =>
        have hrun : c.receiveEnvelope X io i e = (.ok (), c, []) := by
          unfold receiveEnvelope
          rw [htype]
          dsimp only
          rw [if_neg hself, hdec]
        rw [hrun]
        refine .skipped ?_ ?_
        · unfold opens
          rw [htype]
          dsimp only
          rw [if_neg hself, hdec, Option.bind_none]
        · unfold SenderView.hear
          rw [htype]
          dsimp only
          rw [if_neg hself, hdec]
      | some m =>
        cases hs : c.sessions.get e.senderId 1 with
        | none =>
          rw [receive_noSession htype hself hs]
          have hview : (c.view e.senderId).session 1 = none := hs
          refine .skipped ?_ ?_
          · unfold opens
            rw [htype]
            dsimp only
            rw [if_neg hself, hdec, Option.bind_some, hs, Option.bind_none]
          · unfold SenderView.hear
            rw [htype]
            dsimp only
            rw [if_neg hself, hdec]
            dsimp only
            rw [hview]
        | some s =>
          rw [receive_normal htype hself hdec hs]
          dsimp only
          cases hres : (s.decrypt X.prims m).1 with
          | ok plaintext => exact .message htype hself hdec hs hres
          | error err => exact .rejected htype hself hdec hs hres
  | receipt =>
    cases hdec : X.serde.receiptContent.decode e.content with
    | none =>
      have hrun : c.receiveEnvelope X io i e = (.ok (), c, []) := by
        unfold receiveEnvelope
        rw [htype]
        dsimp only
        rw [hdec]
      rw [hrun]
      refine .skipped ?_ (SenderView.hear_receipt htype _)
      unfold opens
      rw [htype]
    | some receipt =>
      have hrun : c.receiveEnvelope X io i e = (.ok (), c.updateStatus e.senderId receipt, []) := by
        unfold receiveEnvelope
        rw [htype]
        dsimp only
        rw [hdec]
      rw [hrun]
      exact .receipt htype
  | typing =>
    have hrun : c.receiveEnvelope X io i e = (.ok (), c, []) := by
      unfold receiveEnvelope
      rw [htype]
    rw [hrun]
    refine .skipped ?_ ?_
    · unfold opens
      rw [htype]
    · unfold SenderView.hear
      rw [htype]

theorem view_decrypt (c : Client Key) {user : String} {s : Session Key}
    (hs : c.sessions.get user 1 = some s) (m : SessionMessage Key) (sender : String) :
    ({ c with sessions := c.sessions.update user 1 fun s => (s.decrypt X.prims m).2 } :
        Client Key).view sender =
      if user = sender then (c.view sender).store 1 (s.decrypt X.prims m).2 else c.view sender :=
  view_update c user sender hs rfl fun _ => ⟨rfl, rfl⟩

/-- **An envelope changes the view of its sender alone.** -/
theorem receiveEnvelope_view {c₀ c : Client Key} (h : SameKeys c₀ c) (io : ReceiveInput Key)
    (i : ℕ) (e : Envelope) (sender : String) :
    SameKeys c₀ (c.receiveEnvelope X io i e).2.1 ∧
      (c.receiveEnvelope X io i e).2.1.view sender =
        if e.senderId = sender then (c.view sender).hear X c₀ e else c.view sender := by
  have hkeep : ∀ sessions, SameKeys c₀ { c with sessions := sessions } :=
    fun _ => ⟨h.userId, h.identity, h.signedPreKey⟩
  rw [← hear_congr h]
  have hr := received (X := X) io i c e
  generalize c.receiveEnvelope X io i e = r at hr ⊢
  cases hr with
  | invalid htype hdec =>
    refine ⟨h, ?_⟩
    rw [SenderView.hear_invalid htype hdec, ite_self]
  | @hello prekey plaintext htype hdec hok =>
    obtain ⟨hkeys, hview⟩ := finish_view (X := X) io i _ e plaintext sender
    have hadd := view_add c ((responderFor X c e prekey).decrypt X.prims
      prekey.sessionMessage).2 sender
    have huser : ((responderFor X c e prekey).decrypt X.prims
        prekey.sessionMessage).2.remoteUserId = e.senderId := rfl
    refine ⟨(hkeep _).trans hkeys, ?_⟩
    rw [hview, hadd, huser]
    by_cases hs : e.senderId = sender
    · subst hs
      rw [if_pos rfl, if_pos rfl, if_pos rfl, SenderView.hear_preKeyBundle htype hdec hok]
      rfl
    · rw [if_neg hs, if_neg hs, if_neg hs]
  | note htype hself =>
    refine ⟨⟨h.userId, h.identity, h.signedPreKey⟩, ?_⟩
    rw [view_logIncoming]
    by_cases hs : e.senderId = sender
    · rw [if_pos hs, if_pos hs, SenderView.hear_note htype hself, hs]
    · rw [if_neg hs, if_neg hs]
  | @message m s plaintext htype hne hdec hs hok =>
    obtain ⟨hkeys, hview⟩ := finish_view (X := X) io i _ e plaintext sender
    refine ⟨(hkeep _).trans hkeys, ?_⟩
    rw [hview, view_decrypt c hs]
    by_cases hsender : e.senderId = sender
    · subst hsender
      rw [if_pos rfl, if_pos rfl, if_pos rfl, SenderView.hear_message htype hne hdec hs, hok]
    · rw [if_neg hsender, if_neg hsender, if_neg hsender]
  | @rejected m s err htype hne hdec hs herr =>
    refine ⟨hkeep _, ?_⟩
    rw [view_decrypt c hs]
    by_cases hsender : e.senderId = sender
    · subst hsender
      rw [if_pos rfl, if_pos rfl, SenderView.hear_message htype hne hdec hs, herr]
    · rw [if_neg hsender, if_neg hsender]
  | receipt htype =>
    refine ⟨⟨h.userId, h.identity, h.signedPreKey⟩, ?_⟩
    rw [SenderView.hear_receipt htype, ite_self]
    rfl
  | skipped hopens hhear =>
    refine ⟨h, ?_⟩
    by_cases hs : e.senderId = sender
    · rw [if_pos hs, ← hs, hhear]
    · rw [if_neg hs]

/-! ## The loop -/

/-- The body of the loop in `receive_messages`: an error ends it. -/
def receiveBody (X : Crates Key) (io : ReceiveInput Key) : Batch.Body (Client Key) Envelope :=
  fun i c e => ((c.receiveEnvelope X io i e).1.isOk, (c.receiveEnvelope X io i e).2.1)

theorem receiveLoop_client (io : ReceiveInput Key) (i : ℕ) (c : Client Key)
    (batch : List Envelope) :
    (c.receiveLoop X io i (batch.map some)).2.1 = Batch.run (receiveBody X io) i c batch := by
  induction batch generalizing i c with
  | nil => rfl
  | cons e rest ih =>
    rw [List.map_cons]
    unfold receiveLoop Batch.run receiveBody
    rcases c.receiveEnvelope X io i e with ⟨_ | ⟨⟩, c', posted⟩
    · rfl
    · exact ih (i + 1) c'

theorem receive_local (io : ReceiveInput Key) (c₀ : Client Key) (sender : String) :
    Batch.Local (receiveBody X io) (SameKeys c₀) (·.senderId = sender)
      (·.view sender) (SenderView.hear X c₀) where
  keeps i c e h := (receiveEnvelope_view h io i e sender).1
  own i c e h hmine := by
    have := (receiveEnvelope_view (X := X) h io i e sender).2
    rwa [if_pos (of_decide_eq_true hmine)] at this
  other i c e h hmine := by
    have := (receiveEnvelope_view (X := X) h io i e sender).2
    rwa [if_neg (of_decide_eq_false hmine)] at this

/-- The client after `receive_messages` with a batch. -/
def afterBatch (X : Crates Key) (io : ReceiveInput Key) (c : Client Key) (batch : List Envelope) :
    Client Key :=
  (c.receiveMessages X io (some (batch.map some))).2.1

theorem afterBatch_view_singleton (X : Crates Key) (io : ReceiveInput Key) (c : Client Key)
    (e : Envelope) :
    (c.afterBatch X io [e]).view e.senderId = (c.view e.senderId).hear X c e := by
  have hc : SameKeys c c := ⟨rfl, rfl, rfl⟩
  have hview := (receiveEnvelope_view (X := X) hc io 0 e e.senderId).2
  rw [if_pos rfl] at hview
  unfold afterBatch receiveMessages
  dsimp only
  rw [receiveLoop_client, Batch.run, Batch.run, ite_self]
  exact hview

/-- The envelopes of a batch that the loop gets to, the one that ends it included. -/
def reads (X : Crates Key) (io : ReceiveInput Key) (c : Client Key) (batch : List Envelope) :
    List Envelope :=
  Batch.reached (receiveBody X io) 0 c batch

theorem reads_singleton (X : Crates Key) (io : ReceiveInput Key) (c : Client Key) (e : Envelope) :
    c.reads X io [e] = [e] := by
  unfold reads Batch.reached Batch.reached
  rw [ite_self]

/-- The sender's envelopes that the loop gets to in the batch but not among the sender's own,
    or the other way round, leave what the client has of the sender as it is. -/
def NothingLost (X : Crates Key) (io io' : ReceiveInput Key) (c : Client Key)
    (batch : List Envelope) (sender : String) : Prop :=
  let full := (c.reads X io batch).filter (·.senderId = sender)
  let alone := c.reads X io' (batch.filter (·.senderId = sender))
  let before := (Batch.common full alone).foldl (SenderView.hear X c) (c.view sender)
  (Batch.surplus full alone).foldl (SenderView.hear X c) before = before

/-- **A sender is served as if alone** exactly if nothing of it is lost with the rest of the
    batch. -/
theorem receive_isolated_iff (X : Crates Key) (io io' : ReceiveInput Key) (c : Client Key)
    (batch : List Envelope) (sender : String) :
    (c.afterBatch X io batch).view sender =
        (c.afterBatch X io' (batch.filter (·.senderId = sender))).view sender ↔
      c.NothingLost X io io' batch sender := by
  have hc : SameKeys c c := ⟨rfl, rfl, rfl⟩
  unfold afterBatch receiveMessages
  dsimp only
  rw [receiveLoop_client, receiveLoop_client]
  exact Batch.isolated_iff (receive_local io c sender) (receive_local io' c sender) hc 0 0 batch

/-! ## What ends the loop -/

omit [DecidableEq Key] in
/-- What `process_file_chunk` does, it does whatever the sessions are. -/
theorem processFileChunk_sessions (c : Client Key) (sessions : SessionStore Key)
    (plaintext : Bytes) :
    ({ c with sessions := sessions } : Client Key).processFileChunk X plaintext =
      (c.processFileChunk X plaintext).map fun r => (r.1, { r.2 with sessions := sessions }) := by
  unfold processFileChunk
  cases X.fromSlice plaintext with
  | none => rfl
  | some payload =>
    dsimp only
    split
    · rfl
    · split
      · rfl
      · split
        · split
          · rfl
          · rfl
        · split
          · rfl
          · rfl

omit [DecidableEq Key] in
/-- Reading a plaintext fails only in a panic of `process_file_chunk`. -/
theorem finish_isOk_iff (io : ReceiveInput Key) (i : ℕ) (c : Client Key)
    (sessions : SessionStore Key) (e : Envelope) (plaintext : Bytes) :
    (finish X io i { c with sessions := sessions } e plaintext).1.isOk = false ↔
      isCallSignal X plaintext = false ∧ c.processFileChunk X plaintext = none := by
  unfold finish
  obtain ⟨call, hcall, hsame⟩ := processCallSignal_eq X (io.mediaSecret i)
    { c with sessions := sessions } e.senderId plaintext
  unfold afterDecrypt
  rw [hcall]
  cases hs : isCallSignal X plaintext with
  | true => simp [Except.isOk, Except.toBool]
  | false =>
    rw [hsame hs]
    dsimp only
    rw [if_neg Bool.false_ne_true, processFileChunk_sessions]
    cases c.processFileChunk X plaintext with
    | none => simp [Except.isOk, Except.toBool]
    | some r =>
      obtain ⟨_ | _, c'⟩ := r
      · simp [Except.isOk, Except.toBool]
      · simp [Except.isOk, Except.toBool]

/-- **What ends the loop**: content of a `PreKeyBundle` envelope that is none, or a file chunk
    on which `process_file_chunk` panics. -/
theorem receiveEnvelope_ends_iff (io : ReceiveInput Key) (i : ℕ) (c : Client Key)
    (e : Envelope) :
    (c.receiveEnvelope X io i e).1.isOk = false ↔
      (e.msgType = .preKeyBundle ∧ X.serde.preKeyBundleMessage.decode e.content = none) ∨
        ∃ plaintext, c.opens X e = some plaintext ∧ isCallSignal X plaintext = false ∧
          c.processFileChunk X plaintext = none := by
  by_cases hinvalid : e.msgType = .preKeyBundle ∧
      X.serde.preKeyBundleMessage.decode e.content = none
  · rw [receive_invalid hinvalid.1 hinvalid.2]
    exact ⟨fun _ => .inl hinvalid, fun _ => rfl⟩
  rw [or_iff_right hinvalid]
  have hr := received (X := X) io i c e
  generalize c.receiveEnvelope X io i e = r at hr ⊢
  cases hr with
  | invalid htype hdec => exact absurd ⟨htype, hdec⟩ hinvalid
  | hello htype hdec hok =>
    rw [finish_isOk_iff, opens_hello htype hdec, hok]
    simp [Except.toOption]
  | note htype hself => simp [opens, htype, hself, Except.isOk, Except.toBool]
  | message htype hne hdec hs hok =>
    rw [finish_isOk_iff, opens_normal htype hne hdec hs, hok]
    simp [Except.toOption]
  | rejected htype hne hdec hs herr =>
    rw [opens_normal htype hne hdec hs, herr]
    simp [Except.isOk, Except.toBool, Except.toOption]
  | receipt htype => simp [opens, htype, Except.isOk, Except.toBool]
  | skipped hopens => simp [hopens, Except.isOk, Except.toBool]

end Client

end TinTin.Cli
