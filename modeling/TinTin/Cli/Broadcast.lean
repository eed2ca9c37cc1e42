/-
  Posts to channels, and who may make them.

  The help text says that the owner alone sends to a channel. Any number of terminal clients talk
  to the relay: they call `send_channel_message`, `send_message`, and `send_encrypted` with the
  payloads of everything else, and read what was posted for them. The relay answers
  `channel_members` from the tables that the handlers of `Server/Handlers.lean` write, in any
  order of their store calls.

  More runs are allowed than there are. An envelope may be handed out late, twice or never, and a
  client may be replaced by any other one of the same user, so a pass of a group message is a
  `payload`, and what it leaves in the records a `change`. The loop of `send_channel_message` is one
  step: what is read meanwhile could as well be read after it.

  * `sendChannelMessage_nothing_iff`: when a call sends nothing.
  * `sendEncrypted_readsAs`: whoever opens an envelope reads the payload it was made of.
  * `channelRecords_receive`: a channel post in the records is a payload that was tagged as one.
  * `owners_only`: what holds as long as no client but the owner's sends such a payload.
-/
import TinTin.Cli.FanOut
import TinTin.Cli.Network
import TinTin.Cli.Payload
import TinTin.Cli.Wire
import TinTin.Server.Membership
import Mathlib.Logic.Relation

namespace TinTin.Cli

open TinTin.Lib TinTin.Core TinTin.Symbolic TinTin.Server

variable {Key : Type}

/-! ## Clients and channels -/

/-- The channel that a payload names. -/
def channelOf (X : Crates Key) (plaintext : Bytes) : Option Int64 :=
  (X.fromSlice plaintext).bind fun payload => Wire.i64.decode (payload.index "channel_id")

/-- What `channel_members` makes of the answer of `handle_channel_members`. -/
def channelMembers (db : Database) (channelId : ℤ) : Option (List String) :=
  match listChannelSubscribers channelId Auto.faultless db 0 with
  | (.ok members, _, _) => some members
  | (.error _, _, _) => none

/-- The user that `get_channel_owner` finds. -/
def Owns (db : Database) (channelId : ℤ) (userId : String) : Prop :=
  (getChannelOwner channelId Auto.faultless db 0).1 = .ok (some userId)

/-- A call of `send_channel_message`, and what the relay has queued of it. -/
structure ChannelCall where
  caller : String
  channelId : Int64
  posted : List Envelope

/-- A record of a channel post in a reader's chat log, and the envelope it was made from. -/
structure Shown where
  reader : String
  envelope : Envelope
  plaintext : Option Bytes
  record : MessageRecord

/-- The server, the clients, and what has happened so far. -/
structure Broadcast (Key : Type) where
  desk : Desk
  client : String → Client Key
  posted : List Envelope
  calls : List ChannelCall
  shown : List Shown

inductive BroadcastStep (Key : Type)
  /-- a turn of the server's handlers -/
  | turn (t : Turn)
  /-- `send_channel_message`; the request for the members may fail -/
  | sendChannel (u : String) (channelId : Int64) (text : String) (name : Option String)
    (answered : Bool) (io : FanInput Key)
  /-- `send_message` -/
  | text (u recipient text : String) (io : SendInput Key) (bundle : Option (PreKeyBundle Key))
    (outcome : PostOutcome)
  /-- `send_encrypted`, with any payload, and the envelope posted -/
  | payload (u recipient payload : String) (io : SendInput Key)
    (bundle : Option (PreKeyBundle Key)) (outcome : PostOutcome)
  /-- anything that posts nothing -/
  | change (u : String) (c : Client Key)
  /-- one pass of the loop of `receive_messages` -/
  | receive (u : String) (e : Envelope) (io : ReceiveInput Key)

/-- The channel posts that reading has added to the chat log. -/
def channelRecords (before after : Client Key) : List MessageRecord :=
  (after.chatLog.drop before.chatLog.length).filter fun r =>
    r.isChannel && r.direction == .incoming

namespace Broadcast

/-- No channel is there, and nothing is posted. -/
def start (client : String → Client Key) : Broadcast Key := ⟨.start, client, [], [], []⟩

def setClient (w : Broadcast Key) (u : String) (c : Client Key) : Broadcast Key :=
  { w with client := Function.update w.client u c }

def post (w : Broadcast Key) (es : List Envelope) : Broadcast Key :=
  { w with posted := w.posted ++ es }

/-- The members that a client is told, itself left out. -/
def others (w : Broadcast Key) (u : String) (channelId : Int64) (answered : Bool) :
    List String :=
  ((if answered then channelMembers w.desk.db channelId.toInt else none).getD []).filter (· ≠ u)

variable (X : Crates Key) (W : Writers Key) [DecidableEq Key]

def step (w : Broadcast Key) : BroadcastStep Key → Option (Broadcast Key)
  | .turn t => (w.desk.step t).map fun desk => { w with desk := desk }
  | .sendChannel u channelId text name answered io =>
    let members := if answered then channelMembers w.desk.db channelId.toInt else none
    let (_, c, queued) := (w.client u).sendChannelMessage X W io name members channelId text
    let w' := (w.setClient u c).post queued
    some { w' with calls := w.calls ++ [⟨u, channelId, queued⟩] }
  | .text u recipient text io bundle outcome =>
    let (_, c, queued) := (w.client u).sendMessage X io bundle outcome recipient text
    some ((w.setClient u c).post queued.toList)
  | .payload u recipient payload io bundle outcome =>
    match (w.client u).sendEncrypted X io bundle recipient payload with
    | (.error _, c) => some (w.setClient u c)
    | (.ok (content, msgType), c) =>
      some ((w.setClient u c).post (if outcome.queued then
        [Envelope.new io.sentAt u recipient content msgType] else []))
  | .change u c => if c.userId = u then some (w.setClient u c) else none
  | .receive u e io =>
    if e ∈ w.posted ∧ e.recipientId = u then
      let c := w.client u
      let (_, c', posted) := c.receiveEnvelope X io 0 e
      let w' := (w.setClient u c').post posted
      some { w' with shown := w.shown ++
        (channelRecords c c').map fun r => ⟨u, e, c.opens X e, r⟩ }
    else none

/-- **Channels are broadcast by their owner only**: a channel post that a client records was
    sent with `send_channel_message`, for the channel it names, by its owner; and a call by
    anybody else has sent nothing. -/
structure OwnersOnly (w : Broadcast Key) : Prop where
  shown : ∀ s ∈ w.shown, ∃ call ∈ w.calls, s.envelope ∈ call.posted ∧
    Owns w.desk.db call.channelId.toInt call.caller ∧
    s.plaintext.bind (channelOf X) = some call.channelId
  others : ∀ call ∈ w.calls, ¬ Owns w.desk.db call.channelId.toInt call.caller → call.posted = []

end Broadcast

/-- The loop serves nobody: it ends before the first post that the relay queues. -/
def Unserved (io : FanInput Key) (c : Client Key) : List String → Prop
  | [] => True
  | member :: rest => Client.Reachable io c member →
    (io.outcome member).queued = false ∧ (io.outcome member = .refused → Unserved io c rest)

/-- A payload that would be recorded as a channel post. -/
def IsChannelPost (X : Crates Key) (payload : String) : Prop :=
  payloadType X (utf8 payload) = some "channel"

/-- The step is no channel post of anybody but the owner: `send_channel_message` is called by the
    owner or serves nobody, and no other payload is tagged as a channel post. -/
def Broadcast.Careful (X : Crates Key) (w : Broadcast Key) : BroadcastStep Key → Prop
  | .sendChannel u channelId _ _ answered io =>
    Owns w.desk.db channelId.toInt u ∨ Unserved io (w.client u) (w.others u channelId answered)
  | .text u recipient text _ _ outcome =>
    recipient ≠ u → outcome.queued = true → ¬ IsChannelPost X text
  | .payload _ _ payload _ _ outcome => outcome.queued = true → ¬ IsChannelPost X payload
  | _ => True

/-! ## What a call sends -/

namespace Client

variable {X : Crates Key} {io : FanInput Key} {c c' : Client Key}

/-- A session for one more user that could be reached makes nobody else reachable. -/
theorem reachable_congr {member : String} (hmember : Reachable io c member)
    (hget : (c'.sessions.get member 1).isSome)
    (hother : ∀ x, x ≠ member → c'.sessions.get x 1 = c.sessions.get x 1) (x : String) :
    Reachable io c' x ↔ Reachable io c x := by
  by_cases hx : x = member
  · rw [hx]
    exact iff_of_true (Or.inl hget) hmember
  · unfold Reachable
    rw [hother x hx]

theorem unserved_congr (h : ∀ x, Reachable io c' x ↔ Reachable io c x) (members : List String) :
    Unserved io c' members ↔ Unserved io c members := by
  induction members with
  | nil => exact Iff.rfl
  | cons member rest ih =>
    unfold Unserved
    rw [h, ih]

/-- **When the loop sends nothing.** -/
theorem fanOut_nothing_iff (hP : X.prims.Lawful) (payload : String) (members : List String) (i : ℕ)
    (c : Client Key) : (c.fanOut X io payload i members).2.2 = [] ↔ Unserved io c members := by
  induction members generalizing i c with
  | nil => exact iff_of_true rfl trivial
  | cons member rest ih =>
    cases hsession : c.getOrCreateSession X (io.draw i) (io.bundle member) member with
    | none =>
      have hunreached : ¬ Reachable io c member := by
        rw [← exists_session_iff (X := X) io i, hsession]
        exact Bool.false_ne_true
      have hrun : c.fanOut X io payload i (member :: rest) = (.error .userNotFound, c, []) := by
        unfold fanOut sendEncrypted
        rw [hsession]
      rw [hrun]
      exact iff_of_true rfl fun h => absurd h hunreached
    | some r =>
      obtain ⟨s, isNew, c₁⟩ := r
      obtain ⟨m, c₂, hm, hsend, hget, hother, hkeys, -⟩ := sendEncrypted_spec hP hsession payload
      have hreach : Reachable io c member := by
        rw [← exists_session_iff (X := X) io i, hsession]
        rfl
      have hsome : (c₂.sessions.get member 1).isSome := by
        rw [hget]
        rfl
      have hcongr := unserved_congr (reachable_congr hreach hsome hother) rest
      unfold Unserved
      rw [← hcongr, ← ih (i + 1) c₂, fanOut, hsend]
      dsimp only
      cases io.outcome member with
      | accepted => exact iff_of_false (List.cons_ne_nil _ _) fun h => Bool.noConfusion (h hreach).1
      | refused => exact ⟨fun h _ => ⟨rfl, fun _ => h⟩, fun h => (h hreach).2 rfl⟩
      | writeFailed => exact iff_of_true rfl fun _ => ⟨rfl, fun h => by cases h⟩
      | noAnswer queued =>
        cases queued with
        | false => exact iff_of_true rfl fun _ => ⟨rfl, fun h => by cases h⟩
        | true => exact iff_of_false (List.cons_ne_nil _ _) fun h => Bool.noConfusion (h hreach).1

/-- A call queues what its loop queues, with the payload for each of the others. -/
theorem sendChannelMessage_queued (X : Crates Key) (W : Writers Key) (io : FanInput Key)
    (name : Option String) (members : Option (List String)) (c : Client Key) (channelId : Int64)
    (text : String) :
    let r := c.sendChannelMessage X W io name members channelId text
    let post := channelPost W channelId (name.getD ("ch" ++ toString channelId)) text
    let loop := c.fanOut X io post.payload 0 ((members.getD []).filter (· ≠ c.userId))
    r.2.2 = loop.2.2 ∧ r.2.1.userId = loop.2.1.userId := by
  intro r post loop
  cases members with
  | none => exact ⟨rfl, rfl⟩
  | some members =>
    have hloop : loop = c.fanOut X io post.payload 0 (members.filter (· ≠ c.userId)) := rfl
    have hr : r = if members.filter (· ≠ c.userId) = [] then (.ok (), c, [])
      else c.postTo X io post (members.filter (· ≠ c.userId)) text := rfl
    split_ifs at hr with hnil
    · rw [hnil] at hloop
      rw [hr, hloop]
      exact ⟨rfl, rfl⟩
    · obtain ⟨hqueued, -, huser, -⟩ := postTo_spec X io post c (members.filter (· ≠ c.userId)) text
      rw [hr, hloop]
      exact ⟨hqueued, huser⟩

/-- **When a call sends nothing**: no other member is told, or none is served. -/
theorem sendChannelMessage_nothing_iff (hP : X.prims.Lawful) (W : Writers Key)
    (io : FanInput Key) (name : Option String) (members : Option (List String)) (c : Client Key)
    (channelId : Int64) (text : String) :
    (c.sendChannelMessage X W io name members channelId text).2.2 = [] ↔
      Unserved io c ((members.getD []).filter (· ≠ c.userId)) := by
  rw [(sendChannelMessage_queued X W io name members c channelId text).1]
  exact fanOut_nothing_iff hP _ _ 0 c

end Client

/-! ## What is read -/

theorem entryOf_isChannel {X : Crates Key} {plaintext : Bytes}
    (h : (entryOf X plaintext).isChannel = true) : payloadType X plaintext = some "channel" := by
  revert h
  unfold entryOf payloadType
  cases X.fromSlice plaintext with
  | none => exact fun h => nomatch h
  | some payload =>
    rw [Option.bind_some]
    dsimp only
    generalize payload.tintinType = kind
    split
    · exact fun h => nomatch h
    · exact fun _ => rfl
    all_goals exact fun h => nomatch h

/-- The record that an entry makes. -/
def Entry.record (entry : Entry) (now : UInt64) (sender : String) : MessageRecord where
  peer := sender
  text := entry.text
  timestamp := now
  direction := .incoming
  isGroup := entry.isGroup
  groupName := entry.groupName
  isChannel := entry.isChannel
  channelName := entry.channelName
  edited := false

theorem not_mem_channelRecords {c c' : Client Key} (h : c'.chatLog = c.chatLog)
    (r : MessageRecord) : r ∉ channelRecords c c' := by
  unfold channelRecords
  rw [h, List.drop_length, List.filter_nil]
  exact List.not_mem_nil

theorem channelRecords_log (c₀ : Client Key) {c : Client Key} (h : c.chatLog = c₀.chatLog)
    (now : UInt64) (sender : String) (entry : Entry) :
    channelRecords c₀ (c.logIncoming now sender entry) =
      if entry.isChannel then [entry.record now sender] else [] := by
  have hlog : (c.logIncoming now sender entry).chatLog =
      c₀.chatLog ++ [entry.record now sender] := by
    rw [← h]
    rfl
  unfold channelRecords
  rw [hlog, List.drop_left, List.filter_singleton]
  have hdirection : (entry.record now sender).direction = .incoming := rfl
  have hchannel : (entry.record now sender).isChannel = entry.isChannel := rfl
  rw [hdirection, hchannel]
  cases entry.isChannel <;> rfl

section Reading

variable [DecidableEq Key] {X : Crates Key} {io : ReceiveInput Key} {i : ℕ} {e : Envelope}

omit [DecidableEq Key] in
theorem channelRecords_finish (c₀ : Client Key) {c : Client Key} (h : c.chatLog = c₀.chatLog)
    (plaintext : Bytes) : ∀ r ∈ channelRecords c₀ (c.finish X io i e plaintext).2.1,
      payloadType X plaintext = some "channel" := by
  intro r hr
  unfold Client.finish at hr
  rcases Client.afterDecrypt_cases X io i c e.senderId plaintext with
    ⟨-, call, hrun⟩ | ⟨-, -, hrun | ⟨files, downloads, hrun⟩⟩ | ⟨-, -, hrun⟩
  · rw [hrun] at hr
    exact absurd hr (not_mem_channelRecords (by exact h) r)
  · rw [hrun] at hr
    exact absurd hr (not_mem_channelRecords h r)
  · rw [hrun] at hr
    exact absurd hr (not_mem_channelRecords (by exact h) r)
  · rw [hrun] at hr
    dsimp only at hr
    rw [channelRecords_log c₀ h] at hr
    split at hr
    · next hchannel => exact entryOf_isChannel hchannel
    · cases hr

/-- **A channel post in the records** is a payload that was tagged as one. -/
theorem channelRecords_receive (c : Client Key) :
    ∀ r ∈ channelRecords c (c.receiveEnvelope X io i e).2.1,
      ∃ plaintext, c.opens X e = some plaintext ∧ payloadType X plaintext = some "channel" := by
  intro r hr
  have hreceived := Client.received (X := X) io i c e
  generalize c.receiveEnvelope X io i e = result at hreceived hr
  cases hreceived with
  | invalid htype hdec =>
    exact absurd hr (not_mem_channelRecords (by rfl) r)
  | @hello prekey plaintext htype hdec hok =>
    refine ⟨plaintext, ?_, channelRecords_finish c (by rfl) plaintext r hr⟩
    rw [Client.opens_hello htype hdec, hok]
    rfl
  | note htype hself =>
    dsimp only at hr
    rw [channelRecords_log c rfl] at hr
    cases hr
  | @message m s plaintext htype hne hdec hs hok =>
    refine ⟨plaintext, ?_, channelRecords_finish c (by rfl) plaintext r hr⟩
    rw [Client.opens_normal htype hne hdec hs, hok]
    rfl
  | rejected htype hne hdec hs herr =>
    exact absurd hr (not_mem_channelRecords (by rfl) r)
  | receipt htype =>
    exact absurd hr (not_mem_channelRecords (by rfl) r)
  | skipped hopens hhear =>
    exact absurd hr (not_mem_channelRecords (by rfl) r)

end Reading

/-! ## Envelopes and their payloads -/

section Symbolic

variable {X : Crates Term} {W : Writers Term}

/-- Whoever opens the envelope reads this payload. -/
def ReadsAs (X : Crates Term) (e : Envelope) (payload : String) : Prop :=
  ∀ d : Client Term, ∀ plaintext, d.opens X e = some plaintext → plaintext = utf8 payload

/-- Whatever session opens a sealed message reads what was sealed. -/
theorem sealed_reads (hX : X.prims = symbolic) {m : SessionMessage Term} {header chain : Term}
    {text : String} (hm : Sealed X m header chain text) {s : Session Term} {plaintext : Bytes}
    (h : (s.decrypt X.prims m).1.toOption = some plaintext) : plaintext = utf8 text := by
  rw [opens_iff hX hm] at h
  split at h
  · exact (Option.some.inj h).symm
  · cases h

namespace Client

variable {io : SendInput Term} {bundle : Option (PreKeyBundle Term)} {c c' : Client Term}
  {recipient : String}

theorem wrap_readsAs (hX : X.prims = symbolic) (c : Client Term) (s : Session Term) (isNew : Bool)
    {m : SessionMessage Term} {header chain : Term} {payload : String}
    (hm : Sealed X m header chain payload) (sentAt : UInt64) (sender recipient : String) :
    ReadsAs X (Envelope.new sentAt sender recipient (c.wrap X s isNew m).1
      (c.wrap X s isNew m).2) payload := by
  intro d plaintext h
  cases isNew with
  | true =>
    set prekey : PreKeyBundleMessage Term := ⟨c.identity.publicKey,
      s.ratchet.dhRatchetKey.publicKey, m⟩
    have hdec := X.serde.preKeyBundleMessage.decode_encode prekey
    set e := Envelope.new sentAt sender recipient (X.serde.preKeyBundleMessage.encode prekey)
      .preKeyBundle
    have hopens : d.opens X e = ((responderFor X d e prekey).decrypt X.prims m).1.toOption :=
      opens_hello rfl hdec
    exact sealed_reads hX hm (hopens.symm.trans h)
  | false =>
    have hdec := X.serde.sessionMessage.decode_encode m
    have hwrap : c.wrap X s false m = (X.serde.sessionMessage.encode m, .normal) := rfl
    unfold opens Envelope.new at h
    rw [hwrap] at h
    dsimp only at h
    split at h
    · cases h
    · rw [hdec, Option.bind_some] at h
      obtain ⟨ses, -, hses⟩ := Option.bind_eq_some_iff.mp h
      exact sealed_reads hX hm hses

/-- **Whoever opens an envelope** of `send_encrypted` reads the payload. -/
theorem sendEncrypted_readsAs (hX : X.prims = symbolic) {payload : String} {content : Bytes}
    {msgType : MessageType}
    (h : c.sendEncrypted X io bundle recipient payload = (.ok (content, msgType), c'))
    (sentAt : UInt64) (sender : String) :
    ReadsAs X (Envelope.new sentAt sender recipient content msgType) payload := by
  have hP : X.prims.Lawful := lawful_of_eq hX
  cases hsession : c.getOrCreateSession X io bundle recipient with
  | none =>
    unfold sendEncrypted at h
    rw [hsession] at h
    cases h
  | some r =>
    obtain ⟨s, isNew, c₁⟩ := r
    obtain ⟨m, c₂, hm, hsend, -⟩ := sendEncrypted_spec hP hsession payload
    rw [hsend] at h
    obtain ⟨hcontent, -⟩ := Prod.mk.inj h
    obtain ⟨rfl, rfl⟩ := Prod.mk.inj (Except.ok.inj hcontent)
    exact wrap_readsAs hX c s isNew (sealed_of_encrypt hP hm) sentAt sender recipient

theorem sendEncrypted_userId (hP : X.prims.Lawful) (io : SendInput Term)
    (bundle : Option (PreKeyBundle Term)) (c : Client Term) (recipient payload : String) :
    (c.sendEncrypted X io bundle recipient payload).2.userId = c.userId := by
  cases hsession : c.getOrCreateSession X io bundle recipient with
  | none =>
    unfold sendEncrypted
    rw [hsession]
  | some r =>
    obtain ⟨s, isNew, c₁⟩ := r
    obtain ⟨m, c₂, hm, hsend, -, -, hkeys, -⟩ := sendEncrypted_spec hP hsession payload
    rw [hsend]
    exact hkeys.userId

/-- What the loop posts reads as its payload. -/
theorem fanOut_readsAs (hX : X.prims = symbolic) (io : FanInput Term) (payload : String)
    (members : List String) (i : ℕ) (c : Client Term) :
    (c.fanOut X io payload i members).2.1.userId = c.userId ∧
      ∀ e ∈ (c.fanOut X io payload i members).2.2, ReadsAs X e payload := by
  have hP : X.prims.Lawful := lawful_of_eq hX
  induction members generalizing i c with
  | nil => exact ⟨rfl, List.forall_mem_nil _⟩
  | cons member rest ih =>
    have huser := sendEncrypted_userId hP (io.draw i) (io.bundle member) c member payload
    unfold fanOut
    rcases hsend : c.sendEncrypted X (io.draw i) (io.bundle member) member payload with
      ⟨err | ⟨content, msgType⟩, c₂⟩
    · rw [hsend] at huser
      exact ⟨huser, List.forall_mem_nil _⟩
    · rw [hsend] at huser
      have hfirst : ∀ e ∈ (if (io.outcome member).queued then
          [Envelope.new (io.draw i).sentAt c₂.userId member content msgType] else []),
          ReadsAs X e payload := by
        intro e he
        split at he
        · rw [List.mem_singleton.mp he]
          exact sendEncrypted_readsAs hX hsend _ _
        · cases he
      obtain ⟨hrest, hmore⟩ := ih (i + 1) c₂
      dsimp only
      split
      · exact ⟨huser, hfirst⟩
      · exact ⟨huser, hfirst⟩
      · exact ⟨hrest.trans huser, List.forall_mem_append.mpr ⟨hfirst, hmore⟩⟩

/-- What `send_message` posts is a note to oneself, or reads as the text. -/
theorem sendMessage_readsAs (hX : X.prims = symbolic) (outcome : PostOutcome) (text : String) :
    ∀ e ∈ (c.sendMessage X io bundle outcome recipient text).2.2,
      (e.senderId = c.userId ∧ e.recipientId = c.userId ∧ e.msgType = .normal) ∨
        recipient ≠ c.userId ∧ outcome.queued = true ∧ ReadsAs X e text := by
  have hP : X.prims.Lawful := lawful_of_eq hX
  intro e he
  unfold sendMessage at he
  by_cases hself : recipient = c.userId
  · rw [if_pos hself] at he
    obtain ⟨c', hpost, -⟩ := post_spec io outcome c recipient text (utf8 text) .normal
    rw [hpost] at he
    dsimp only at he
    split at he
    · cases he
      exact Or.inl ⟨rfl, hself, rfl⟩
    · cases he
  · rw [if_neg hself] at he
    rcases hsend : c.sendEncrypted X io bundle recipient text with ⟨err | ⟨content, msgType⟩, c₂⟩
    · rw [hsend] at he
      cases he
    · rw [hsend] at he
      obtain ⟨c', hpost, -⟩ := post_spec io outcome c₂ recipient text content msgType
      dsimp only at he
      rw [hpost] at he
      dsimp only at he
      split at he
      · next hqueued =>
        cases he
        exact Or.inr ⟨hself, hqueued, sendEncrypted_readsAs hX hsend _ _⟩
      · cases he

end Client

theorem ofI64_eq (n : Int64) : Json.ofI64 n = Wire.i64.encode n := by
  show Json.number (if 0 ≤ n then .posInt n.toUInt64 else .negInt n) =
    Json.number (if n < 0 then .negInt n else .posInt n.toUInt64)
  by_cases h : 0 ≤ n
  · rw [if_pos h, if_neg (Int64.not_lt.mpr h)]
  · rw [if_neg h, if_pos (Int64.not_le.mp h)]

/-- A channel post names its channel. -/
theorem channelOf_channelPost (hW : W.ReadBy X) {channelId : Int64} (hid : 0 ≤ channelId)
    (name text : String) :
    channelOf X (utf8 (channelPost W channelId name text).payload) = some channelId := by
  have hscalar : (Json.ofI64 channelId).isScalar = true := by
    unfold Json.ofI64
    rw [if_pos hid]
    rfl
  obtain ⟨v, hv, hget⟩ := hW.json [("__tintin_type", .string "channel"),
    ("channel_id", .ofI64 channelId), ("channel_name", .string name), ("text", .string text)]
    ⟨(by decide : ["__tintin_type", "channel_id", "channel_name", "text"].Nodup), fun m hm => by
      simp only [List.mem_cons, List.not_mem_nil, or_false] at hm
      rcases hm with rfl | rfl | rfl | rfl
      · rfl
      · exact hscalar
      · rfl
      · rfl⟩
  have hindex := Json.get_index hget "channel_id"
  unfold channelOf channelPost
  rw [hv, Option.bind_some, hindex]
  show Wire.i64.decode (Json.ofI64 channelId) = some channelId
  rw [ofI64_eq, Wire.i64.decode_encode]

end Symbolic

/-! ## Owners -/

theorem owns_iff {db : Database} {channelId : ℤ} {userId : String} :
    Owns db channelId userId ↔ ∃ name, (channelId, ⟨name, userId⟩) ∈ db.channels.rows := by
  have hrun : (getChannelOwner channelId Auto.faultless db 0).1 =
      .ok ((db.channels.get? channelId).map (·.ownerId)) := rfl
  unfold Owns
  rw [hrun]
  constructor
  · intro h
    obtain ⟨row, hrow, rfl⟩ := Option.map_eq_some_iff.mp (Except.ok.inj h)
    exact ⟨row.name, AutoTable.get?_eq_some.mp hrow⟩
  · intro ⟨name, hrow⟩
    rw [AutoTable.get?_eq_some.mpr hrow]
    rfl

/-- The ids of the channels are positive. -/
def PositiveIds (db : Database) : Prop :=
  0 ≤ db.channels.lastId ∧ ∀ r ∈ db.channels.rows, 0 < r.1

/-- A turn of the server keeps the channels with their owners. -/
theorem channels_kept {desk desk' : Desk} (hinv : desk.Inv) {t : Turn}
    (hstep : desk.step t = some desk') :
    (PositiveIds desk.db → PositiveIds desk'.db) ∧
      ∀ channelId userId, Owns desk.db channelId userId → Owns desk'.db channelId userId := by
  unfold PositiveIds
  rcases hinv.channels_step hstep with heq | ⟨row, heq⟩
  · refine ⟨fun h => heq ▸ h, fun channelId userId h => ?_⟩
    rw [owns_iff, heq, ← owns_iff]
    exact h
  · rw [heq]
    refine ⟨fun ⟨hlast, hrows⟩ => ⟨?_, fun r hr => ?_⟩, fun channelId userId h => ?_⟩
    · show 0 ≤ desk.db.channels.lastId + 1
      omega
    · rw [AutoTable.rows_insert] at hr
      rcases List.mem_append.mp hr with hr | hr
      · exact hrows r hr
      · rw [List.mem_singleton.mp hr]
        show 0 < desk.db.channels.lastId + 1
        omega
    · obtain ⟨name, hrow⟩ := owns_iff.mp h
      refine owns_iff.mpr ⟨name, ?_⟩
      rw [heq, AutoTable.rows_insert]
      exact List.mem_append_left _ hrow

/-! ## Along a run -/

section Run

variable {X : Crates Term} {W : Writers Term} {w w' : Broadcast Term}

namespace Broadcast

/-- If its reader takes the envelope for a channel post, it has it from the owner. -/
def FromOwner (X : Crates Term) (w : Broadcast Term) (e : Envelope) : Prop :=
  ∀ d : Client Term, d.userId = e.recipientId → ∀ plaintext, d.opens X e = some plaintext →
    payloadType X plaintext = some "channel" → ∃ call ∈ w.calls, e ∈ call.posted ∧
      Owns w.desk.db call.channelId.toInt call.caller ∧
      channelOf X plaintext = some call.channelId

/-- What holds in every state of a run of careful steps. -/
structure Sound (X : Crates Term) (w : Broadcast Term) : Prop where
  userId : ∀ u, (w.client u).userId = u
  desk : w.desk.Inv
  ids : PositiveIds w.desk.db
  posted : ∀ e ∈ w.posted, w.FromOwner X e
  keeps : w.OwnersOnly X

theorem sound_start (X : Crates Term) {client : String → Client Term}
    (huser : ∀ u, (client u).userId = u) : (start client).Sound X where
  userId := huser
  desk := Desk.inv_start
  ids := ⟨Int.le_refl 0, List.forall_mem_nil _⟩
  posted := List.forall_mem_nil _
  keeps := ⟨List.forall_mem_nil _, List.forall_mem_nil _⟩

/-- What nobody can open is no channel post. -/
theorem fromOwner_of_unopened {e : Envelope}
    (h : ∀ d : Client Term, d.userId = e.recipientId → d.opens X e = none) : w.FromOwner X e := by
  intro d hd plaintext hopens
  rw [h d hd] at hopens
  cases hopens

/-- Nor is what reads as a payload that is not tagged as one. -/
theorem fromOwner_of_reads {e : Envelope} {payload : String} (hreads : ReadsAs X e payload)
    (hplain : ¬ IsChannelPost X payload) : w.FromOwner X e := by
  intro d _ plaintext hopens htype
  rw [hreads d plaintext hopens] at htype
  exact absurd htype hplain

theorem FromOwner.mono {e : Envelope} (h : w.FromOwner X e) (hcalls : w.calls ⊆ w'.calls)
    (howns : ∀ c u, Owns w.desk.db c u → Owns w'.desk.db c u) : w'.FromOwner X e := by
  intro d hd plaintext hopens htype
  obtain ⟨call, hcall, hmem, hown, hchannel⟩ := h d hd plaintext hopens htype
  exact ⟨call, hcalls hcall, hmem, howns _ _ hown, hchannel⟩

theorem setClient_userId (h : ∀ u, (w.client u).userId = u) {u : String} {c : Client Term}
    (hc : c.userId = u) (v : String) : ((w.setClient u c).client v).userId = v := by
  show (Function.update w.client u c v).userId = v
  by_cases hv : v = u
  · subst hv
    rw [Function.update_self, hc]
  · rw [Function.update_of_ne hv, h]

/-- A client changes, and posts what is no channel post but its owner's. -/
theorem Sound.posts (h : w.Sound X) {u : String} {c : Client Term} (hc : c.userId = u)
    {es : List Envelope} (hes : ∀ e ∈ es, w.FromOwner X e) :
    ((w.setClient u c).post es).Sound X where
  userId := setClient_userId h.userId hc
  desk := h.desk
  ids := h.ids
  posted := List.forall_mem_append.mpr ⟨h.posted, hes⟩
  keeps := ⟨h.keeps.shown, h.keeps.others⟩

theorem Sound.turn (h : w.Sound X) {t : Turn} {desk : Desk} (hstep : w.desk.step t = some desk) :
    ({ w with desk := desk } : Broadcast Term).Sound X := by
  obtain ⟨hids, howns⟩ := channels_kept h.desk hstep
  refine ⟨h.userId, h.desk.step hstep, hids h.ids,
    fun e he => (h.posted e he).mono (List.Subset.refl _) howns,
    fun s hs => ?_, fun call hcall hnot => h.keeps.others call hcall fun hown =>
      hnot (howns _ _ hown)⟩
  obtain ⟨call, hcall, hmem, hown, hchannel⟩ := h.keeps.shown s hs
  exact ⟨call, hcall, hmem, howns _ _ hown, hchannel⟩

/-- A record that is made of a channel post has it from the owner. -/
theorem Sound.receive (h : w.Sound X) {e : Envelope} (he : e ∈ w.posted) (io : ReceiveInput Term) :
    let c := w.client e.recipientId
    let c' := (c.receiveEnvelope X io 0 e).2.1
    ({ (w.setClient e.recipientId c').post (c.receiveEnvelope X io 0 e).2.2 with
      shown := w.shown ++ (channelRecords c c').map fun r =>
        ⟨e.recipientId, e, c.opens X e, r⟩ } : Broadcast Term).Sound X := by
  intro c c'
  have huser : c'.userId = e.recipientId :=
    (Client.receiveEnvelope_view ⟨rfl, rfl, rfl⟩ io 0 e "").1.userId.trans (h.userId _)
  have hreceipts : ∀ r ∈ (c.receiveEnvelope X io 0 e).2.2, w.FromOwner X r := by
    intro r hr
    refine fromOwner_of_unopened fun d _ => ?_
    unfold Client.opens
    rw [Client.receiveEnvelope_posted io 0 r hr]
  have hposts := h.posts huser hreceipts
  refine ⟨hposts.userId, hposts.desk, hposts.ids, hposts.posted, ?_, hposts.keeps.others⟩
  refine List.forall_mem_append.mpr ⟨h.keeps.shown, fun s hs => ?_⟩
  obtain ⟨r, hr, rfl⟩ := List.mem_map.mp hs
  obtain ⟨plaintext, hopens, htype⟩ := channelRecords_receive c r hr
  obtain ⟨call, hcall, hmem, hown, hchannel⟩ :=
    h.posted e he c (h.userId _) plaintext hopens htype
  refine ⟨call, hcall, hmem, hown, ?_⟩
  rw [hopens]
  exact hchannel

/-- **A call of `send_channel_message`** by the owner posts what names the channel; one that
    serves nobody posts nothing. -/
theorem Sound.sendChannel (hX : X.prims = symbolic) (hW : W.ReadBy X) (h : w.Sound X) {u : String}
    {channelId : Int64} {text : String} {name : Option String} {answered : Bool}
    {io : FanInput Term}
    (hcareful : w.Careful X (.sendChannel u channelId text name answered io))
    (hstep : w.step X W (.sendChannel u channelId text name answered io) = some w') :
    w'.Sound X := by
  have hP : X.prims.Lawful := lawful_of_eq hX
  let members := if answered then channelMembers w.desk.db channelId.toInt else none
  obtain ⟨hqueued, huser⟩ := Client.sendChannelMessage_queued X W io name members (w.client u)
    channelId text
  set r := (w.client u).sendChannelMessage X W io name members channelId text with hr
  set payload := (channelPost W channelId (name.getD ("ch" ++ toString channelId)) text).payload
  have hnothing : Unserved io (w.client u) ((members.getD []).filter (· ≠ u)) → r.2.2 = [] := by
    have hiff := Client.sendChannelMessage_nothing_iff hP W io name members (w.client u)
      channelId text
    rw [h.userId u] at hiff
    exact hiff.mpr
  rw [h.userId u] at hqueued huser
  obtain ⟨hloop, hreads⟩ := Client.fanOut_readsAs hX io payload
    ((members.getD []).filter (· ≠ u)) 0 (w.client u)
  rw [← hqueued] at hreads
  have hw' : w' = { (w.setClient u r.2.1).post r.2.2 with
      calls := w.calls ++ [⟨u, channelId, r.2.2⟩] } := (Option.some.inj hstep).symm
  have hmore : w.calls ⊆ w'.calls := by
    rw [hw']
    exact List.subset_append_left _ _
  have hcall : ⟨u, channelId, r.2.2⟩ ∈ w'.calls := by
    rw [hw']
    exact List.mem_append_right _ (List.mem_singleton.mpr rfl)
  have hdesk : w'.desk = w.desk := by
    rw [hw']
    rfl
  have hnew : ∀ e ∈ r.2.2, w'.FromOwner X e := by
    intro e he d _ plaintext hopens _
    rw [hreads e he d plaintext hopens]
    have hown : Owns w.desk.db channelId.toInt u := by
      refine hcareful.resolve_right fun hno => ?_
      rw [hnothing hno] at he
      cases he
    obtain ⟨owned, hrow⟩ := owns_iff.mp hown
    have hpos : 0 < channelId.toInt := h.ids.2 _ hrow
    have hid : 0 ≤ channelId := by
      rw [Int64.le_iff_toInt_le, Int64.toInt_zero]
      omega
    refine ⟨_, hcall, he, ?_, channelOf_channelPost hW hid _ _⟩
    rw [hdesk]
    exact hown
  have hold : ∀ e ∈ w.posted, w'.FromOwner X e := fun e he =>
    (h.posted e he).mono hmore fun c v hown => by rwa [hdesk]
  refine ⟨?_, ?_, ?_, ?_, ?_, ?_⟩
  · rw [hw']
    exact setClient_userId h.userId (huser.trans (hloop.trans (h.userId u)))
  · rw [hdesk]
    exact h.desk
  · rw [hdesk]
    exact h.ids
  · intro e he
    rw [hw'] at he
    exact (List.mem_append.mp he).elim (hold e) (hnew e)
  · intro s hs
    rw [hw'] at hs
    obtain ⟨call, hmem, hposted, hown, hchannel⟩ := h.keeps.shown s hs
    refine ⟨call, hmore hmem, hposted, ?_, hchannel⟩
    rw [hdesk]
    exact hown
  · intro call hmem hnot
    rw [hdesk] at hnot
    rw [hw'] at hmem
    rcases List.mem_append.mp hmem with hmem | hmem
    · exact h.keeps.others call hmem hnot
    · obtain rfl := List.mem_singleton.mp hmem
      exact hnothing (hcareful.resolve_left hnot)

/-- **One careful step**, a case for each kind. -/
theorem Sound.step (hX : X.prims = symbolic) (hW : W.ReadBy X) (h : w.Sound X)
    {a : BroadcastStep Term} (hcareful : w.Careful X a) (hstep : w.step X W a = some w') :
    w'.Sound X := by
  have hP : X.prims.Lawful := lawful_of_eq hX
  cases a with
  | turn t =>
    obtain ⟨desk, hdesk, rfl⟩ := Option.map_eq_some_iff.mp hstep
    exact h.turn hdesk
  | sendChannel u channelId text name answered io => exact h.sendChannel hX hW hcareful hstep
  | text u recipient text io bundle outcome =>
    obtain rfl := Option.some.inj hstep
    have huser := (Client.sendMessage_keeps X io bundle outcome (w.client u) recipient
      text).1.userId
    refine h.posts (huser.trans (h.userId u)) fun e he => ?_
    have hposted := Client.sendMessage_readsAs hX (c := w.client u) outcome text e
      (Option.mem_toList.mp he)
    rw [h.userId u] at hposted
    rcases hposted with ⟨hsender, hrecipient, htype⟩ | ⟨hne, hqueued, hreads⟩
    · refine fromOwner_of_unopened fun d hd => ?_
      unfold Client.opens
      rw [htype]
      exact if_pos (hsender.trans (hrecipient.symm.trans hd.symm))
    · exact fromOwner_of_reads hreads (hcareful hne hqueued)
  | payload u recipient payload io bundle outcome =>
    have huser := Client.sendEncrypted_userId hP io bundle (w.client u) recipient payload
    unfold Broadcast.step at hstep
    dsimp only at hstep
    rcases hsend : (w.client u).sendEncrypted X io bundle recipient payload with
      ⟨err | ⟨content, msgType⟩, c⟩
    · rw [hsend] at huser hstep
      obtain rfl := Option.some.inj hstep
      have hposts := h.posts (huser.trans (h.userId u)) (List.forall_mem_nil _)
      unfold post at hposts
      rw [List.append_nil] at hposts
      exact hposts
    · rw [hsend] at huser hstep
      obtain rfl := Option.some.inj hstep
      refine h.posts (huser.trans (h.userId u)) fun e he => ?_
      split at he
      · next hqueued =>
        rw [List.mem_singleton.mp he]
        exact fromOwner_of_reads (Client.sendEncrypted_readsAs hX hsend _ _) (hcareful hqueued)
      · cases he
  | change u c =>
    unfold Broadcast.step at hstep
    dsimp only at hstep
    split at hstep
    · next hc =>
      obtain rfl := Option.some.inj hstep
      have hposts := h.posts hc (List.forall_mem_nil _)
      unfold post at hposts
      rw [List.append_nil] at hposts
      exact hposts
    · cases hstep
  | receive u e io =>
    unfold Broadcast.step at hstep
    dsimp only at hstep
    split at hstep
    · next hguard =>
      obtain ⟨he, rfl⟩ := hguard
      obtain rfl := Option.some.inj hstep
      exact h.receive he io
    · cases hstep

/-- One state leads to another by careful steps. -/
def LeadsCarefully (X : Crates Term) (W : Writers Term) : Broadcast Term → Broadcast Term → Prop :=
  Relation.ReflTransGen fun w w' => ∃ a, w.Careful X a ∧ w.step X W a = some w'

/-- **Channels are broadcast by their owner only, as long as nobody else tries**: in every state
    of every run in which `send_channel_message` is called by the owner or serves nobody, and no
    other payload is tagged as a channel post. -/
theorem owners_only (hX : X.prims = symbolic) (hW : W.ReadBy X) {client : String → Client Term}
    (huser : ∀ u, (client u).userId = u) (h : LeadsCarefully X W (start client) w) :
    w.OwnersOnly X := by
  suffices hsound : w.Sound X from hsound.keeps
  induction h with
  | refl => exact sound_start X huser
  | tail _ hlast ih =>
    obtain ⟨a, hcareful, hstep⟩ := hlast
    exact ih.step hX hW hcareful hstep

end Broadcast

end Run

/-! ### Alice's channel -/

/-- Alice has created a channel, and Bob has subscribed to it. -/
def newsTurns : List Turn :=
  [.accept (.createChannel "news" "alice"), .call 0, .call 0,
    .accept (.subscribeChannel 1 "bob"), .call 0, .call 0]

theorem newsDesk : ∃ desk, Desk.start.run newsTurns = some desk ∧
    channelMembers desk.db 1 = some ["alice", "bob"] ∧ Owns desk.db 1 "alice" :=
  ⟨_, rfl, by decide, rfl⟩

/-- Turns of the server are careful steps. -/
theorem leads_turns {X : Crates Term} {W : Writers Term} {turns : List Turn} {w : Broadcast Term}
    {desk : Desk} (h : w.desk.run turns = some desk) :
    w.LeadsCarefully X W { w with desk := desk } := by
  induction turns generalizing w with
  | nil =>
    obtain rfl := Option.some.inj h
    exact .refl
  | cons t turns ih =>
    unfold Desk.run at h
    rw [List.foldlM_cons] at h
    obtain ⟨desk', hstep, hrun⟩ := Option.bind_eq_some_iff.mp h
    have hfirst : w.step X W (.turn t) = some { w with desk := desk' } :=
      Option.map_eq_some_iff.mpr ⟨desk', hstep, rfl⟩
    exact .head ⟨.turn t, trivial, hfirst⟩ (ih (w := { w with desk := desk' }) hrun)

/-- Alice and Bob have registered, and the relay accepts every post. -/
def newsFan : FanInput Term := Client.freshFan fun _ => true

/-- A call by one of the two sends something to the other one. -/
theorem news_sent {w : Broadcast Term}
    (hmembers : channelMembers w.desk.db 1 = some ["alice", "bob"]) (u peer : String)
    (hothers : ["alice", "bob"].filter (· ≠ u) = [peer]) (huser : (w.client u).userId = u) :
    ∃ w' call, w.step textCrates textWriters (.sendChannel u 1 "hello" (some "news") true newsFan) =
        some w' ∧
      w'.calls = w.calls ++ [call] ∧ w'.desk = w.desk ∧ call.caller = u ∧ call.channelId = 1 ∧
        call.posted ≠ [] := by
  refine ⟨_, _, rfl, rfl, rfl, rfl, rfl, fun hnil => ?_⟩
  have hno := (Client.sendChannelMessage_nothing_iff symbolic_lawful textWriters newsFan
    (some "news") (channelMembers w.desk.db 1) (w.client u) 1 "hello").mp hnil
  rw [hmembers, huser] at hno
  change Unserved newsFan (w.client u) (["alice", "bob"].filter (· ≠ u)) at hno
  rw [hothers] at hno
  have hreach : Client.Reachable newsFan (w.client u) peer := Or.inr rfl
  exact Bool.noConfusion (hno hreach).1

/-- Alice posts to her channel. -/
theorem owners_only_alice : ∃ w : Broadcast Term,
    (Broadcast.start Client.freshMember).LeadsCarefully textCrates textWriters w ∧
      (∃ call ∈ w.calls, call.caller = "alice" ∧ call.posted ≠ []) ∧ w.OwnersOnly textCrates := by
  obtain ⟨desk, hrun, hmembers, hown⟩ := newsDesk
  have hdesk := leads_turns (X := textCrates) (W := textWriters)
    (w := .start Client.freshMember) hrun
  obtain ⟨w, call, hstep, hcalls, -, hcaller, -, hposted⟩ := news_sent
    (w := { Broadcast.start Client.freshMember with desk := desk }) hmembers
    "alice" "bob" (by decide) rfl
  have hleads := hdesk.tail
    ⟨.sendChannel "alice" 1 "hello" (some "news") true newsFan, Or.inl hown, hstep⟩
  refine ⟨w, hleads, ⟨call, ?_, hcaller, hposted⟩,
    Broadcast.owners_only rfl textWriters_readBy (fun _ => rfl) hleads⟩
  rw [hcalls]
  exact List.mem_append_right _ (List.mem_singleton.mpr rfl)

/-- Bob has subscribed to Alice's channel, and posts to it. -/
theorem subscriber_posts : ∃ (desk : Desk) (w : Broadcast Term),
    Desk.start.run newsTurns = some desk ∧ channelMembers desk.db 1 = some ["alice", "bob"] ∧
      Owns desk.db 1 "alice" ∧
      ({ Broadcast.start Client.freshMember with desk := desk } : Broadcast Term).step textCrates
        textWriters (.sendChannel "bob" 1 "hello" (some "news") true newsFan) = some w ∧
      ¬ w.OwnersOnly textCrates := by
  obtain ⟨desk, hrun, hmembers, hown⟩ := newsDesk
  obtain ⟨w, call, hstep, hcalls, hdesk, hcaller, hchannel, hposted⟩ := news_sent
    (w := { Broadcast.start Client.freshMember with desk := desk }) hmembers
    "bob" "alice" (by decide) rfl
  refine ⟨desk, w, hrun, hmembers, hown, hstep, fun h => hposted (h.others call ?_ ?_)⟩
  · rw [hcalls]
    exact List.mem_append_right _ (List.mem_singleton.mpr rfl)
  · rw [hdesk, hcaller, hchannel]
    intro hbob
    have heq := Except.ok.inj (hown.symm.trans hbob)
    exact absurd (Option.some.inj heq) (by decide)

end TinTin.Cli
