/-
  The receiving side of the terminal client (`tintin-cli/src/main.rs`).

  `receive_messages` goes through the batch the relay returned. A `PreKeyBundle` envelope
  makes a responder session, which replaces the stored one if it decrypts the message in it;
  a `Normal` envelope is decrypted in place, and what that does to the session stays also
  when it fails. A message that cannot be read is skipped, but content of a `PreKeyBundle`
  envelope that does not parse ends the call, and the rest of the batch with it.

  `process_media_chunk` is left out: its result is discarded and it changes no state of the
  client.

  * `receive_preKeyBundle`, `receive_normal`, `receive_receipt`: one envelope of each kind.
  * `Plain`: the texts that are recorded as they are (`afterDecrypt_plain`).
-/
import TinTin.Cli.Client

namespace TinTin.Cli

open TinTin.Lib TinTin.Core

variable {Key : Type}

/-- What one `receive_messages` draws and reads off the clock, for each place in the batch. -/
structure ReceiveInput (Key : Type) where
  /-- timestamps in the chat log -/
  recordedAt : ℕ → UInt64
  /-- timestamps of the read receipts -/
  receiptAt : ℕ → UInt64
  /-- the read receipt reaches the relay -/
  receiptSent : ℕ → Bool
  /-- secrets of media key pairs -/
  mediaSecret : ℕ → Key

inductive ReceiveError
  | requestFailed
  | invalidEnvelope
  | invalidContent
  | panicked
  deriving DecidableEq, Repr

/-! ## Decrypted payloads -/

/-- The chunks of a file in order. -/
def PendingFile.assemble (f : PendingFile) : Bytes :=
  (List.range f.totalChunks.toNat).flatMap fun i =>
    (f.receivedChunks.lookup (UInt64.ofNat i)).getD []

namespace Client

variable (X : Crates Key)

/-- `process_call_signal` -/
def processCallSignal (mediaSecret : Key) (c : Client Key) (sender : String)
    (plaintext : Bytes) : Bool × Client Key :=
  match X.fromSlice plaintext with
  | none => (false, c)
  | some payload =>
    match payload.tintinType with
    | none => (false, c)
    | some "call_offer" =>
      (true, { c with activeCall := some {
        peer := sender
        callId := (payload.index "call_id").asStr.getD "?"
        mediaKeyPair := KeyPair.generate X.prims mediaSecret
        peerMediaKey := X.hexKey ((payload.index "media_key_pub").asStr.getD "")
        sharedMediaSecret := none
        state := .ringing } })
    | some "call_accept" =>
      match c.activeCall with
      | none => (true, c)
      | some call =>
        if call.state = .offering ∨ call.state = .ringing then
          match X.hexKey ((payload.index "media_key_pub").asStr.getD "") with
          | none => (true, c)
          | some peerKey =>
            (true, { c with activeCall := some { call with
              peerMediaKey := some peerKey
              sharedMediaSecret := some (call.mediaKeyPair.agree X.prims peerKey)
              state := .connected } })
        else (true, c)
    | some "call_end" => (true, { c with activeCall := none })
    | some _ => (false, c)

/-- `process_file_chunk`; `none` where it panics: a capacity over `isize::MAX`, or the
    percentage of a file of no chunks. -/
def processFileChunk (c : Client Key) (plaintext : Bytes) : Option (Bool × Client Key) :=
  match X.fromSlice plaintext with
  | none => some (false, c)
  | some payload =>
    if payload.tintinType ≠ some "file" ∧ payload.tintinType ≠ some "voice" then some (false, c)
    else
      let fileId := (payload.index "file_id").asStr.getD ""
      match X.base64Decode ((payload.index "data").asStr.getD "") with
      | none => some (true, c) -- malformed chunk, skip
      | some chunkData =>
        let pending := (c.pendingFiles.lookup fileId).getD {
          fileName := (payload.index "file_name").asStr.getD "unknown"
          fileSize := (payload.index "file_size").asU64.getD 0
          totalChunks := (payload.index "total_chunks").asU64.getD 0
          receivedChunks := ∅ }
        let chunkIndex := (payload.index "chunk_index").asU64.getD 0
        let pending := { pending with
          receivedChunks := pending.receivedChunks.insert chunkIndex chunkData }
        if pending.receivedChunks.entries.length = pending.totalChunks.toNat then
          if pending.fileSize.toNat < 2 ^ 63 then
            some (true, { c with
              pendingFiles := c.pendingFiles.erase fileId
              downloads := c.downloads ++ [(pending.fileName, pending.assemble)] })
          else none
        else if pending.totalChunks = 0 then none
        else some (true, { c with pendingFiles := c.pendingFiles.insert fileId pending })

/-- `record_decrypted` -/
def recordDecrypted (now : UInt64) (c : Client Key) (sender : String) (plaintext : Bytes) :
    Client Key :=
  let plain := c.recordMessage now sender (fromUtf8Lossy plaintext) false false none false none
  match X.fromSlice plaintext with
  | none => plain
  | some payload =>
    match payload.tintinType with
    | some "group" =>
      c.recordMessage now sender ((payload.index "text").asStr.getD "") false true
        (some ((payload.index "group_name").asStr.getD "Group")) false none
    | some "channel" =>
      c.recordMessage now sender ((payload.index "text").asStr.getD "") false false none true
        (some ((payload.index "channel_name").asStr.getD "Channel"))
    | some "poll" =>
      c.recordMessage now sender
        ("[Poll] " ++ (payload.index "question").asStr.getD "Poll") false false none false none
    | some "sticker" =>
      c.recordMessage now sender
        ("[Sticker] " ++ (payload.index "emoji").asStr.getD "🖼️") false false none false none
    | some "call_offer" => c.recordMessage now sender "[Call signal]" false false none false none
    | some "call_accept" => c.recordMessage now sender "[Call signal]" false false none false none
    | some "call_end" => c.recordMessage now sender "[Call signal]" false false none false none
    | _ => plain

/-- What both branches do with a plaintext; `none` where `process_file_chunk` panics. -/
def afterDecrypt (io : ReceiveInput Key) (i : ℕ) (c : Client Key) (sender : String)
    (plaintext : Bytes) : Option (Client Key) :=
  let (isCallSignal, c) := c.processCallSignal X (io.mediaSecret i) sender plaintext
  if isCallSignal then some c
  else
    match c.processFileChunk X plaintext with
    | none => none
    | some (true, c) => some c
    | some (false, c) => some (c.recordDecrypted X (io.recordedAt i) sender plaintext)

/-- The envelope of `send_receipt` with a read receipt. -/
def readReceipt (io : ReceiveInput Key) (i : ℕ) (c : Client Key) (envelope : Envelope) : Envelope :=
  Envelope.new (io.receiptAt i) c.userId envelope.senderId
    (X.serde.receiptContent.encode
      { receiptType := .read
        originalSender := envelope.senderId
        originalTimestamp := envelope.timestamp }) .receipt

/-- A receipt from `sender` updates the first message it can be about. -/
def updateStatus (c : Client Key) (sender : String) (receipt : ReceiptContent) : Client Key :=
  let isAbout := fun m : SentMessage =>
    m.recipient == sender && m.timestamp == receipt.originalTimestamp
  let status := match receipt.receiptType with
    | .delivery => .delivered
    | .read => .read
  { c with sentMessages :=
      c.sentMessages.modify (c.sentMessages.findIdx isAbout) fun m => { m with status := status } }

/-! ## The receive loop -/

variable [DecidableEq Key]

/-- The end of both decrypting branches: the plaintext is recorded and a read receipt goes
    back. -/
def finish (io : ReceiveInput Key) (i : ℕ) (c : Client Key) (envelope : Envelope)
    (plaintext : Bytes) : Except ReceiveError Unit × Client Key × List Envelope :=
  match c.afterDecrypt X io i envelope.senderId plaintext with
  | none => (.error .panicked, c, [])
  | some c => (.ok (), c, if io.receiptSent i then [c.readReceipt X io i envelope] else [])

/-- The body of the loop in `receive_messages`: the client it leaves and the envelopes it
    posts. -/
def receiveEnvelope (io : ReceiveInput Key) (i : ℕ) (c : Client Key) (envelope : Envelope) :
    Except ReceiveError Unit × Client Key × List Envelope :=
  match envelope.msgType with
  | .preKeyBundle =>
    match X.serde.preKeyBundleMessage.decode envelope.content with
    | none => (.error .invalidContent, c, [])
    | some prekey =>
      let newSession := Session.newResponder X.prims c.identityCopy envelope.senderId
        envelope.senderDeviceId prekey.identityKey prekey.baseKey c.signedPreKey
      match newSession.decrypt X.prims prekey.sessionMessage with
      | (.ok plaintext, newSession) =>
        finish X io i { c with sessions := c.sessions.add newSession } envelope plaintext
      | (.error _, _) => (.ok (), c, [])
  | .normal =>
    if envelope.senderId = c.userId then
      (.ok (), c.recordMessage (io.recordedAt i) c.userId (fromUtf8Lossy envelope.content) false
        false none false none, [])
    else
      match X.serde.sessionMessage.decode envelope.content with
      | none => (.ok (), c, [])
      | some sessionMsg =>
        match c.sessions.get envelope.senderId 1 with
        | none => (.ok (), c, [])
        | some session =>
          let c := { c with sessions := c.sessions.update envelope.senderId 1 fun s =>
            (s.decrypt X.prims sessionMsg).2 }
          match (session.decrypt X.prims sessionMsg).1 with
          | .ok plaintext => finish X io i c envelope plaintext
          | .error _ => (.ok (), c, [])
  | .receipt =>
    match X.serde.receiptContent.decode envelope.content with
    | none => (.ok (), c, [])
    | some receipt => (.ok (), c.updateStatus envelope.senderId receipt, [])
  | .typing => (.ok (), c, [])

/-- The loop from place `i` of the batch on; `none` is a value that is no envelope. -/
def receiveLoop (io : ReceiveInput Key) :
    ℕ → Client Key → List (Option Envelope) →
      Except ReceiveError Unit × Client Key × List Envelope
  | _, c, [] => (.ok (), c, [])
  | _, c, none :: _ => (.error .invalidEnvelope, c, [])
  | i, c, some envelope :: rest =>
    match c.receiveEnvelope X io i envelope with
    | (.error e, c, posted) => (.error e, c, posted)
    | (.ok (), c, posted) =>
      let (result, c, posted') := receiveLoop io (i + 1) c rest
      (result, c, posted ++ posted')

/-- `receive_messages` with the batch of the relay's answer, or none where the request
    failed. -/
def receiveMessages (io : ReceiveInput Key) (c : Client Key)
    (messages : Option (List (Option Envelope))) :
    Except ReceiveError Unit × Client Key × List Envelope :=
  match messages with
  | none => (.error .requestFailed, c, [])
  | some messages => receiveLoop X io 0 c messages

/-! ## Plain texts -/

/-- The text is no JSON object with a `__tintin_type`. -/
def Plain (text : String) : Prop :=
  ∀ v, X.fromSlice (utf8 text) = some v → v.get "__tintin_type" = none

variable {X}

omit [DecidableEq Key] in
/-- A plain text is recorded as it is. -/
theorem afterDecrypt_plain {text : String} (h : Plain X text) (io : ReceiveInput Key) (i : ℕ)
    (c : Client Key) (sender : String) :
    c.afterDecrypt X io i sender (utf8 text) =
      some (c.recordMessage (io.recordedAt i) sender text false false none false none) := by
  unfold afterDecrypt processCallSignal processFileChunk recordDecrypted
  cases hv : X.fromSlice (utf8 text) with
  | none => simp only [fromUtf8Lossy_utf8, Bool.false_eq_true, if_false]
  | some v =>
    have htype : v.tintinType = none := by
      unfold Json.tintinType
      rw [h v hv]
      rfl
    simp only [htype, fromUtf8Lossy_utf8, Bool.false_eq_true, if_false, ne_eq, reduceCtorEq,
      not_false_eq_true, and_self, if_true]

omit [DecidableEq Key] in
theorem finish_plain {text : String} (h : Plain X text) (io : ReceiveInput Key) (i : ℕ)
    (c : Client Key) (e : Envelope) :
    c.finish X io i e (utf8 text) =
      (.ok (), c.recordMessage (io.recordedAt i) e.senderId text false false none false none,
        if io.receiptSent i then [c.readReceipt X io i e] else []) := by
  unfold finish
  rw [afterDecrypt_plain h]
  rfl

/-! ## One envelope -/

/-- The session that a `PreKeyBundle` envelope makes. -/
def responderFor (X : Crates Key) (c : Client Key) (e : Envelope)
    (prekey : PreKeyBundleMessage Key) : Session Key :=
  Session.newResponder X.prims c.identityCopy e.senderId e.senderDeviceId prekey.identityKey
    prekey.baseKey c.signedPreKey

/-- A `PreKeyBundle` envelope whose message decrypts replaces the session. -/
theorem receive_preKeyBundle {c : Client Key} {e : Envelope} {prekey : PreKeyBundleMessage Key}
    {plaintext : Bytes} (htype : e.msgType = .preKeyBundle)
    (hdec : X.serde.preKeyBundleMessage.decode e.content = some prekey)
    (hok : ((responderFor X c e prekey).decrypt X.prims prekey.sessionMessage).1 =
      .ok plaintext) (io : ReceiveInput Key) (i : ℕ) :
    c.receiveEnvelope X io i e =
      (let s := ((responderFor X c e prekey).decrypt X.prims prekey.sessionMessage).2
      finish X io i { c with sessions := c.sessions.add s } e plaintext) := by
  unfold receiveEnvelope
  rw [htype]
  dsimp only
  rw [hdec]
  dsimp only
  change (match (responderFor X c e prekey).decrypt X.prims prekey.sessionMessage with
    | (.ok plaintext, newSession) =>
      finish X io i { c with sessions := c.sessions.add newSession } e plaintext
    | (.error _, _) => (.ok (), c, [])) = _
  rw [← Prod.mk.eta (p := (responderFor X c e prekey).decrypt X.prims prekey.sessionMessage), hok]

/-- Content that is no `PreKeyBundle` message ends the loop. -/
theorem receive_invalid {c : Client Key} {e : Envelope} (htype : e.msgType = .preKeyBundle)
    (hdec : X.serde.preKeyBundleMessage.decode e.content = none) (io : ReceiveInput Key) (i : ℕ) :
    c.receiveEnvelope X io i e = (.error .invalidContent, c, []) := by
  unfold receiveEnvelope
  rw [htype]
  dsimp only
  rw [hdec]

/-- A `PreKeyBundle` envelope whose message does not decrypt is skipped. -/
theorem receive_preKeyBundle_rejected {c : Client Key} {e : Envelope}
    {prekey : PreKeyBundleMessage Key} {err : TinTinError} (htype : e.msgType = .preKeyBundle)
    (hdec : X.serde.preKeyBundleMessage.decode e.content = some prekey)
    (hres : ((responderFor X c e prekey).decrypt X.prims prekey.sessionMessage).1 = .error err)
    (io : ReceiveInput Key) (i : ℕ) : c.receiveEnvelope X io i e = (.ok (), c, []) := by
  unfold receiveEnvelope
  rw [htype]
  dsimp only
  rw [hdec]
  dsimp only
  change (match (responderFor X c e prekey).decrypt X.prims prekey.sessionMessage with
    | (.ok plaintext, newSession) =>
      finish X io i { c with sessions := c.sessions.add newSession } e plaintext
    | (.error _, _) => (.ok (), c, [])) = _
  rw [← Prod.mk.eta (p := (responderFor X c e prekey).decrypt X.prims prekey.sessionMessage), hres]

/-- A `Normal` envelope from someone else that parses, with a session at hand: the session is
    what the decryption left, whatever its result. -/
theorem receive_normal {c : Client Key} {e : Envelope} {m : SessionMessage Key}
    {s : Session Key} (htype : e.msgType = .normal) (hne : e.senderId ≠ c.userId)
    (hdec : X.serde.sessionMessage.decode e.content = some m)
    (hs : c.sessions.get e.senderId 1 = some s) (io : ReceiveInput Key) (i : ℕ) :
    c.receiveEnvelope X io i e =
      (let c : Client Key := { c with sessions := c.sessions.update e.senderId 1 fun s =>
        (s.decrypt X.prims m).2 }
      match (s.decrypt X.prims m).1 with
      | .ok plaintext => finish X io i c e plaintext
      | .error _ => (.ok (), c, [])) := by
  unfold receiveEnvelope
  rw [htype]
  dsimp only
  rw [if_neg hne, hdec]
  dsimp only
  rw [hs]

/-- Without a session for its sender a `Normal` envelope is dropped. -/
theorem receive_noSession {c : Client Key} {e : Envelope} (htype : e.msgType = .normal)
    (hne : e.senderId ≠ c.userId) (hs : c.sessions.get e.senderId 1 = none)
    (io : ReceiveInput Key) (i : ℕ) : c.receiveEnvelope X io i e = (.ok (), c, []) := by
  unfold receiveEnvelope
  rw [htype]
  dsimp only
  rw [if_neg hne, hs]
  split <;> rfl

/-- A receipt touches neither the sessions nor the chat log. -/
theorem receive_receipt {c : Client Key} {e : Envelope} (htype : e.msgType.isChat = false)
    (io : ReceiveInput Key) (i : ℕ) :
    ∃ c', c.receiveEnvelope X io i e = (.ok (), c', []) ∧ SameKeys c c' ∧
      c'.sessions = c.sessions ∧ c'.chatLog = c.chatLog := by
  unfold receiveEnvelope
  cases hm : e.msgType with
  | normal => simp [hm, MessageType.isChat] at htype
  | preKeyBundle => simp [hm, MessageType.isChat] at htype
  | receipt =>
    dsimp only
    cases X.serde.receiptContent.decode e.content with
    | none => exact ⟨c, rfl, ⟨rfl, rfl, rfl⟩, rfl, rfl⟩
    | some receipt => exact ⟨_, rfl, ⟨rfl, rfl, rfl⟩, rfl, rfl⟩
  | typing => exact ⟨c, rfl, ⟨rfl, rfl, rfl⟩, rfl, rfl⟩

end Client

end TinTin.Cli
