/-
  Terminal clients and what becomes of the messages they have sent.

  Any number of clients post envelopes to the relay, which hands them out in order; a fetch has
  it queue delivery receipts, a message that was read sends a read receipt. A client reads its
  batch envelope by envelope, and posts a file chunk by chunk, while the others go on; it does
  nothing else meanwhile. No exchange with the relay fails.

  Chat envelopes are numbered as they are posted. A receipt goes with the number of the envelope
  it is about, which nobody looks at: what the clients see are users and timestamps.

  * `Talk.step`: one step of one client, with its `sendMessage`, `sendEncrypted` and
    `receiveEnvelope`.
  * `forget_fetch`, `forget_push`: without the numbers, the queues are those of the relay.
-/
import TinTin.Cli.Isolation
import TinTin.Server.Relay
import Mathlib.Logic.Relation

namespace TinTin.Cli

open TinTin.Lib TinTin.Core TinTin.Server

variable {Key : Type}

/-! ## Numbered envelopes -/

/-- An envelope: a chat envelope under its number, or a receipt with that of the envelope it is
    about. -/
structure Numbered where
  envelope : Envelope
  number : ℕ

/-- What can be seen of a chat envelope that was posted. -/
structure Dispatch where
  sender : String
  recipient : String
  timestamp : UInt64
  deriving DecidableEq, Repr

def Dispatch.of (e : Envelope) : Dispatch := ⟨e.senderId, e.recipientId, e.timestamp⟩

/-- For each user, the envelopes waiting for it. -/
abbrev Queues := String → List Numbered

/-- An envelope joins the queue of its recipient. -/
def Queues.push (q : Queues) (n : Numbered) : Queues :=
  Function.update q n.envelope.recipientId (q n.envelope.recipientId ++ [n])

/-- The delivery receipts for the chat envelopes of a batch. -/
def numberedReceipts (J : RelaySerde) (userId : String) (clock : ℕ → UInt64)
    (batch : List Numbered) : List Numbered :=
  (batch.filter (·.envelope.msgType.isChat)).mapIdx fun i n =>
    ⟨deliveryReceipt J userId (clock i) n.envelope, n.number⟩

/-- A user takes its queue, and the delivery receipts are posted. -/
def Queues.fetch (J : RelaySerde) (q : Queues) (userId : String) (clock : ℕ → UInt64) :
    List Numbered × Queues :=
  (q userId,
    (numberedReceipts J userId clock (q userId)).foldl push (Function.update q userId []))

/-- The relay's queues are these without the numbers. -/
def Queues.forget (q : Queues) : Relay := fun userId => (q userId).map (·.envelope)

theorem forget_push (q : Queues) (n : Numbered) : (q.push n).forget = q.forget.post n.envelope := by
  funext u
  unfold Queues.forget Queues.push Relay.post
  by_cases h : u = n.envelope.recipientId
  · subst h
    rw [Function.update_self, Function.update_self, List.map_append]
    rfl
  · rw [Function.update_of_ne h, Function.update_of_ne h]

theorem forget_foldl_push (ns : List Numbered) (q : Queues) :
    (ns.foldl Queues.push q).forget = (ns.map (·.envelope)).foldl Relay.post q.forget := by
  induction ns generalizing q with
  | nil => rfl
  | cons n ns ih => rw [List.foldl_cons, ih, forget_push, List.map_cons, List.foldl_cons]

/-- Fetching takes from the queues what it takes from the relay's, and leaves the same. -/
theorem forget_fetch (J : RelaySerde) (q : Queues) (userId : String) (clock : ℕ → UInt64) :
    ((q.fetch J userId clock).1.map (·.envelope), (q.fetch J userId clock).2.forget) =
      q.forget.fetch J userId clock := by
  have hreceipts : (numberedReceipts J userId clock (q userId)).map (·.envelope) =
      deliveryReceipts J userId clock (q.forget userId) := by
    unfold numberedReceipts deliveryReceipts Queues.forget
    rw [List.filter_map]
    refine List.ext_getElem? fun i => ?_
    simp only [List.getElem?_map, List.getElem?_mapIdx, Option.map_map]
    rfl
  have hempty : Queues.forget (Function.update q userId []) =
      Function.update q.forget userId [] := by
    funext u
    unfold Queues.forget
    by_cases h : u = userId
    · subst h
      rw [Function.update_self, Function.update_self]
      rfl
    · rw [Function.update_of_ne h, Function.update_of_ne h]
  unfold Queues.fetch Relay.fetch
  rw [forget_foldl_push, hreceipts, hempty]
  rfl

theorem push_apply (q : Queues) (n : Numbered) (u : String) :
    q.push n u = q u ++ if n.envelope.recipientId = u then [n] else [] := by
  unfold Queues.push
  by_cases h : n.envelope.recipientId = u
  · subst h
    rw [Function.update_self, if_pos rfl]
  · rw [Function.update_of_ne (Ne.symm h), if_neg h, List.append_nil]

theorem foldl_push_apply (ns : List Numbered) (q : Queues) (u : String) :
    ns.foldl Queues.push q u = q u ++ ns.filter (·.envelope.recipientId = u) := by
  induction ns generalizing q with
  | nil => simp
  | cons n ns ih =>
    rw [List.foldl_cons, ih, push_apply, List.append_assoc, List.filter_cons]
    by_cases h : n.envelope.recipientId = u <;> simp [h]

/-! ## Clients at work -/

/-- What a client is in the middle of. -/
inductive Doing
  | idle
  /-- `send_file_inner`, with the numbers of the chunks posted so far -/
  | sendingFile (recipient : String) (own : List ℕ)
  /-- the loop of `receive_messages`, with the rest of the batch -/
  | reading (batch : List Numbered)

/-- The batch that is left to be read. -/
def Doing.batch : Doing → List Numbered
  | .reading batch => batch
  | _ => []

/-- A loop that has nothing left is over. -/
def Doing.ofBatch : List Numbered → Doing
  | [] => .idle
  | batch => .reading batch

/-- A status that was set: of which tracked message, and by a receipt about which envelope. -/
structure Update where
  place : ℕ
  status : MessageStatus
  number : ℕ
  deriving DecidableEq, Repr

/-- The clients, the relay's queues, and what has happened so far. -/
structure Talk (Key : Type) where
  client : String → Client Key
  queue : Queues
  doing : String → Doing
  /-- the chat envelopes by their numbers -/
  posted : List Dispatch
  /-- for each message a client tracks the numbers of its envelopes, if it is a direct one -/
  own : String → List (Option (List ℕ))
  /-- the numbers of the chat envelopes that their recipients have decrypted -/
  decrypted : List ℕ
  /-- the receipts a client has read -/
  heard : String → List (ℕ × ReceiptType)
  updates : String → List Update
  /-- those on which their recipient's `process_file_chunk` panicked -/
  crashed : List ℕ
  /-- what a client had fetched when an error ended its loop -/
  lost : String → List Numbered

/-- A step of one client. -/
inductive TalkStep (Key : Type)
  /-- `send_message` -/
  | text (u recipient text : String) (io : SendInput Key) (bundle : Option (PreKeyBundle Key))
  /-- `send_file_inner` up to its loop -/
  | startFile (u recipient : String)
  /-- a chunk of the file -/
  | chunk (u payload : String) (io : SendInput Key) (bundle : Option (PreKeyBundle Key))
  /-- its end, which reads the clock again -/
  | endFile (u text : String) (now : UInt64)
  /-- the end of `send_group_message` and `send_channel_message` -/
  | track (u label text : String) (now : UInt64)
  /-- a chat envelope of anything else the client sends, with the client it leaves -/
  | other (u : String) (c : Client Key) (e : Envelope)
  /-- a change of the client that touches no message's recipient, timestamp or status -/
  | change (u : String) (c : Client Key)
  /-- the request of `receive_messages` -/
  | fetch (u : String) (clock : ℕ → UInt64)
  /-- one pass of its loop -/
  | read (u : String) (io : ReceiveInput Key)

/-- The receipt in an envelope. -/
def receiptOf (X : Crates Key) (e : Envelope) : Option ReceiptContent :=
  if e.msgType = .receipt then X.serde.receiptContent.decode e.content else none

/-- The status that a receipt sets. -/
def statusAfter : ReceiptType → MessageStatus
  | .delivery => .delivered
  | .read => .read

/-- The place of the first message that a receipt from `sender` can be about. -/
def Client.placeOf (c : Client Key) (sender : String) (receipt : ReceiptContent) : ℕ :=
  c.sentMessages.findIdx fun m =>
    m.recipient == sender && m.timestamp == receipt.originalTimestamp

/-- The plaintext of an envelope is a file chunk on which `process_file_chunk` panics. -/
def Client.panicsOn [DecidableEq Key] (X : Crates Key) (c : Client Key) (e : Envelope) : Bool :=
  (c.opens X e).any fun plaintext =>
    !isCallSignal X plaintext && (c.processFileChunk X plaintext).isNone

/-- What a client compares when it matches a receipt, and what it sets. -/
def SentMessage.tracking (m : SentMessage) : String × UInt64 × MessageStatus :=
  (m.recipient, m.timestamp, m.status)

namespace Talk

variable (X : Crates Key)

def setClient (w : Talk Key) (u : String) (c : Client Key) : Talk Key :=
  { w with client := Function.update w.client u c }

def setDoing (w : Talk Key) (u : String) (d : Doing) : Talk Key :=
  { w with doing := Function.update w.doing u d }

/-- A chat envelope is posted, under the next number. -/
def post (w : Talk Key) (e : Envelope) : Talk Key :=
  { w with
    queue := w.queue.push ⟨e, w.posted.length⟩
    posted := w.posted ++ [.of e] }

/-- The message that a client has just tracked is one with these envelopes. -/
def note (w : Talk Key) (u : String) (own : Option (List ℕ)) : Talk Key :=
  { w with own := Function.update w.own u (w.own u ++ [own]) }

/-- `sent_messages.push` -/
def push (w : Talk Key) (u recipient text : String) (now : UInt64) (own : Option (List ℕ)) :
    Talk Key :=
  let c := w.client u
  (w.setClient u { c with sentMessages := c.sentMessages ++ [⟨recipient, text, now, .sent, false⟩] }
    ).note u own

/-- The receipt in an envelope is noted, and the update it makes. -/
def hear (w : Talk Key) (u : String) (n : Numbered) : Talk Key :=
  match receiptOf X n.envelope with
  | none => w
  | some receipt =>
    let c := w.client u
    let place := c.placeOf n.envelope.senderId receipt
    { w with
      heard := Function.update w.heard u (w.heard u ++ [(n.number, receipt.receiptType)])
      updates :=
        if place < c.sentMessages.length then
          Function.update w.updates u
            (w.updates u ++ [⟨place, statusAfter receipt.receiptType, n.number⟩])
        else w.updates }

variable [DecidableEq Key]

/-- One pass of the loop over `n`, with `rest` behind it. -/
def readOne (w : Talk Key) (u : String) (io : ReceiveInput Key) (n : Numbered)
    (rest : List Numbered) : Talk Key :=
  let c := w.client u
  let (result, c', posted) :=
    c.receiveEnvelope X { io with receiptSent := fun _ => true } 0 n.envelope
  let w' := w.hear X u n
  { w' with
    client := Function.update w.client u c'
    queue := (posted.map fun e => ⟨e, n.number⟩).foldl Queues.push w.queue
    decrypted := if (c.opens X n.envelope).isSome then w.decrypted ++ [n.number] else w.decrypted
    crashed := if c.panicsOn X n.envelope then w.crashed ++ [n.number] else w.crashed
    doing := Function.update w.doing u (if result.isOk then .ofBatch rest else .idle)
    lost :=
      if result.isOk then w.lost else Function.update w.lost u (w.lost u ++ rest) }

/-- One step, where the client is free to do it. -/
def step (w : Talk Key) : TalkStep Key → Option (Talk Key)
  | .text u recipient text io bundle =>
    match w.doing u with
    | .idle =>
      match (w.client u).sendMessage X io bundle .accepted recipient text with
      | (_, c, none) => some (w.setClient u c)
      | (_, c, some e) => some (((w.setClient u c).post e).note u (some [w.posted.length]))
    | _ => none
  | .startFile u recipient =>
    match w.doing u with
    | .idle => some (w.setDoing u (.sendingFile recipient []))
    | _ => none
  | .chunk u payload io bundle =>
    match w.doing u with
    | .sendingFile recipient own =>
      match (w.client u).sendEncrypted X io bundle recipient payload with
      | (.error _, c) => some ((w.setClient u c).setDoing u .idle)
      | (.ok (content, msgType), c) =>
        some (((w.setClient u c).post (Envelope.new io.sentAt c.userId recipient content
          msgType)).setDoing u (.sendingFile recipient (own ++ [w.posted.length])))
    | _ => none
  | .endFile u text now =>
    match w.doing u with
    | .sendingFile recipient own => some ((w.push u recipient text now (some own)).setDoing u .idle)
    | _ => none
  | .track u label text now =>
    match w.doing u with
    | .idle => some (w.push u label text now none)
    | _ => none
  | .other u c e =>
    match w.doing u with
    | .idle =>
      if c.userId = u ∧ e.senderId = u ∧ e.msgType.isChat ∧
          c.sentMessages = (w.client u).sentMessages then
        some ((w.setClient u c).post e)
      else none
    | _ => none
  | .change u c =>
    match w.doing u with
    | .idle =>
      if c.userId = u ∧ c.sentMessages.map SentMessage.tracking =
          (w.client u).sentMessages.map SentMessage.tracking then
        some (w.setClient u c)
      else none
    | _ => none
  | .fetch u clock =>
    match w.doing u with
    | .idle =>
      let (batch, queue) := w.queue.fetch X.serde.toRelaySerde u clock
      some ({ w with queue := queue }.setDoing u (.ofBatch batch))
    | _ => none
  | .read u io =>
    match w.doing u with
    | .reading (n :: rest) => some (w.readOne X u io n rest)
    | _ => none

/-- Clients that have sent nothing yet, and empty queues. -/
def start (client : String → Client Key) : Talk Key where
  client := client
  queue := fun _ => []
  doing := fun _ => .idle
  posted := []
  own := fun _ => []
  decrypted := []
  heard := fun _ => []
  updates := fun _ => []
  crashed := []
  lost := fun _ => []

/-- Steps lead from one state to another. -/
def Leads : Talk Key → Talk Key → Prop :=
  Relation.ReflTransGen fun w w' => ∃ a, w.step X a = some w'

end Talk

end TinTin.Cli
