/-
  Polling in the iOS app (`ChatListView.swift`, over `RustCoreService.swift` and `tintin-ffi`).

  `pollIncoming` runs its whole loop in one `do`/`catch`: whatever throws for one envelope ends
  the loop. A message is decrypted in a handle made from the sender's persisted session, which
  is persisted again only after a successful decryption; an envelope of a sender without a
  session is dropped.

  The date and the id of a message are left out, and so is what goes to the console.

  * `pollEnvelope_view`: an envelope changes what the app has of its sender alone.
  * `pollEnvelope_ends_iff`: the messages that end the loop.
  * `poll_isolated_iff`: when a batch serves a sender as if the others' envelopes were not
    there.
-/
import TinTin.Cli.Client
import TinTin.Lib.Batch

namespace TinTin.Ios

open TinTin.Lib TinTin.Core TinTin.Cli

/-! ## State -/

/-- The core library and Foundation's `JSONSerialization`. -/
structure Platform (Key : Type) where
  prims : Primitives Key
  serde : Serde Key
  /-- `JSONSerialization.jsonObject` -/
  jsonObject : Bytes → Option Json
  /-- `JSONSerialization.data`, as a text -/
  jsonText : Json → Option String

/-- `StructuredType` -/
inductive StructuredType
  | group
  | channel
  | poll
  | sticker
  | callOffer
  | callAccept
  | callEnd
  | edit
  | file
  | voice
  deriving DecidableEq, Repr

/-- `MessageModel` -/
structure MessageModel where
  senderId : String
  text : String
  direction : MessageDirection
  structuredType : Option StructuredType := none
  groupName : Option String := none
  channelName : Option String := none
  pollQuestion : Option String := none
  stickerEmoji : Option String := none
  voiceFileName : Option String := none
  deriving DecidableEq, Repr

/-- `UserModel` -/
structure UserModel where
  id : String
  identityKey : Bytes
  deviceId : UInt32
  displayName : String
  deriving DecidableEq, Repr

/-- `EnvelopeValue` -/
structure EnvelopeValue where
  senderId : String
  recipientId : String
  senderDeviceId : UInt32
  timestamp : UInt64
  content : Bytes
  msgType : String
  deriving DecidableEq, Repr

/-- What `pollIncoming` reads and writes of `AppState` and `ChatListView`. -/
structure AppState where
  /-- session JSON by remote user -/
  sessions : String → Option String
  contacts : List UserModel
  messages : String → Option (List MessageModel)

namespace AppState

/-- `saveSessionJSON` -/
def saveSessionJSON (s : AppState) (json remoteId : String) : AppState :=
  { s with sessions := Function.update s.sessions remoteId (some json) }

/-- The sender becomes a contact, and the message is appended to the conversation. -/
def append (s : AppState) (senderId : String) (msg : MessageModel) : AppState :=
  { s with
    contacts := if s.contacts.any (·.id == senderId) then s.contacts
      else s.contacts ++ [⟨senderId, [], 1, senderId⟩]
    messages := Function.update s.messages senderId
      (some ((s.messages senderId).getD [] ++ [msg])) }

end AppState

/-! ## One envelope -/

variable {Key : Type} (X : Platform Key)

/-- A string member of a payload. -/
def Payload.str (payload : Json) (key : String) : Option String :=
  (payload.get key).bind Json.asStr

/-- `MessageModel.parseStructuredPayload`, as the message shown. -/
def parseStructuredPayload (payload : Json) (senderId : String) : MessageModel :=
  let str := Payload.str payload
  match str "__tintin_type" with
  | none =>
    let text := (str "text").getD ((X.jsonText payload).getD "")
    { senderId := senderId, text := text, direction := .incoming }
  | some "group" =>
    let name := (str "group_name").getD "Group"
    { senderId := senderId
      text := "[" ++ name ++ "] " ++ (str "text").getD ""
      direction := .incoming
      structuredType := some .group
      groupName := some name }
  | some "channel" =>
    let name := (str "channel_name").getD "Channel"
    { senderId := senderId
      text := "📢 [" ++ name ++ "] " ++ (str "text").getD ""
      direction := .incoming
      structuredType := some .channel
      channelName := some name }
  | some "poll" =>
    let question := (str "question").getD "Poll"
    { senderId := senderId
      text := "📊 Poll: " ++ question
      direction := .incoming
      structuredType := some .poll
      pollQuestion := some question }
  | some "sticker" =>
    let emoji := (str "emoji").getD "🖼️"
    { senderId := senderId
      text := emoji ++ " Sticker"
      direction := .incoming
      structuredType := some .sticker
      stickerEmoji := some emoji }
  | some "call_offer" =>
    { senderId := senderId
      text := "📞 " ++ (str "reason").getD "📞 Call signal"
      direction := .incoming
      structuredType := some .callOffer }
  | some "call_accept" =>
    { senderId := senderId
      text := "📞 " ++ (str "reason").getD "📞 Call signal"
      direction := .incoming
      structuredType := some .callAccept }
  | some "call_end" =>
    { senderId := senderId
      text := "📞 " ++ (str "reason").getD "📞 Call signal"
      direction := .incoming
      structuredType := some .callEnd }
  | some "file" =>
    { senderId := senderId
      text := "📁 File: " ++ (str "file_name").getD "File"
      direction := .incoming
      structuredType := some .file }
  | some "voice" =>
    let name := (str "file_name").getD "Voice"
    { senderId := senderId
      text := "🎤 Voice: " ++ name
      direction := .incoming
      structuredType := some .voice
      voiceFileName := some name }
  | some _ =>
    { senderId := senderId, text := (str "text").getD "", direction := .incoming }

/-- The message that `pollIncoming` shows for a text. -/
def incomingMessage (senderId text : String) : MessageModel :=
  let plain : MessageModel := { senderId := senderId, text := text, direction := .incoming }
  match X.jsonObject (utf8 text) with
  | some (.object members) =>
    if (Json.get (.object members) "__tintin_type").isSome then
      parseStructuredPayload X (.object members) senderId
    else plain
  | _ => plain

/-- `SessionHandle.decrypt` (`tintin_session_decrypt`): the plaintext and the session behind
    the handle afterwards, or none where it throws. -/
def sessionDecrypt [DecidableEq Key] (session : Session Key) (ciphertext : Bytes) :
    Option (Bytes × Session Key) :=
  match X.serde.sessionMessage.decode ciphertext with
  | none => none
  | some sessionMsg =>
    match session.decrypt X.prims sessionMsg with
    | (.ok plaintext, session) => some (plaintext, session)
    | (.error _, _) => none

/-- The body of the loop in `pollIncoming`: whether it goes on, and the state. -/
def pollEnvelope [DecidableEq Key] (s : AppState) (env : EnvelopeValue) : Bool × AppState :=
  -- receipts are not encrypted
  if env.msgType = "Receipt" then (true, s)
  else
    match s.sessions env.senderId with
    | none => (true, s)
    | some sessionJSON =>
      match X.serde.session.decode sessionJSON with
      | none => (false, s)
      | some session =>
        match sessionDecrypt X session env.content with
        | none => (false, s)
        | some (plaintext, session) =>
          let s := s.saveSessionJSON (X.serde.session.encode session) env.senderId
          match fromUtf8? plaintext with
          | none => (true, s)
          | some text => (true, s.append env.senderId (incomingMessage X env.senderId text))

/-- The loop as a body over places. -/
def pollBody [DecidableEq Key] : Batch.Body AppState EnvelopeValue := fun _ => pollEnvelope X

/-- `pollIncoming` with the answer of `receive`, or none where that throws. -/
def pollIncoming [DecidableEq Key] (s : AppState) (envelopes : Option (List EnvelopeValue)) :
    AppState :=
  match envelopes with
  | none => s
  | some envelopes => Batch.run (pollBody X) 0 s envelopes

/-! ## One sender -/

/-- What the app has of one sender. -/
structure SenderView where
  session : Option String
  messages : Option (List MessageModel)

/-- The view the app has of a sender. -/
def AppState.view (s : AppState) (sender : String) : SenderView :=
  ⟨s.sessions sender, s.messages sender⟩

/-- What an envelope does to the view of its sender. -/
def SenderView.hear [DecidableEq Key] (v : SenderView) (env : EnvelopeValue) : SenderView :=
  if env.msgType = "Receipt" then v
  else
    match (v.session.bind X.serde.session.decode).bind fun session =>
      sessionDecrypt X session env.content with
    | none => v
    | some (plaintext, session) =>
      { session := some (X.serde.session.encode session)
        messages := match fromUtf8? plaintext with
          | none => v.messages
          | some text =>
            some (v.messages.getD [] ++ [incomingMessage X env.senderId text]) }

variable {X} [DecidableEq Key]

/-- **An envelope changes the view of its sender alone.** -/
theorem pollEnvelope_view (s : AppState) (env : EnvelopeValue) (sender : String) :
    (pollEnvelope X s env).2.view sender =
      if env.senderId = sender then (s.view sender).hear X env else s.view sender := by
  unfold pollEnvelope SenderView.hear
  by_cases hr : env.msgType = "Receipt"
  · rw [if_pos hr, if_pos hr, ite_self]
  · rw [if_neg hr, if_neg hr]
    by_cases hs : env.senderId = sender
    · subst hs
      rw [if_pos rfl]
      have hview : (s.view env.senderId).session = s.sessions env.senderId := rfl
      rw [hview]
      cases s.sessions env.senderId with
      | none => rfl
      | some json =>
        rw [Option.bind_some]
        dsimp only
        cases X.serde.session.decode json with
        | none => rfl
        | some session =>
          rw [Option.bind_some]
          dsimp only
          cases sessionDecrypt X session env.content with
          | none => rfl
          | some r =>
            obtain ⟨plaintext, session'⟩ := r
            dsimp only
            cases fromUtf8? plaintext with
            | none => simp [AppState.view, AppState.saveSessionJSON]
            | some text => simp [AppState.view, AppState.saveSessionJSON, AppState.append]
    · rw [if_neg hs]
      have hne : sender ≠ env.senderId := fun h => hs h.symm
      cases s.sessions env.senderId with
      | none => rfl
      | some json =>
        dsimp only
        cases X.serde.session.decode json with
        | none => rfl
        | some session =>
          dsimp only
          cases sessionDecrypt X session env.content with
          | none => rfl
          | some r =>
            obtain ⟨plaintext, session'⟩ := r
            dsimp only
            cases fromUtf8? plaintext with
            | none => simp [AppState.view, AppState.saveSessionJSON, hne]
            | some text => simp [AppState.view, AppState.saveSessionJSON, AppState.append, hne]

/-- **What ends the loop**: a message of a sender with a session that the session does not
    decrypt. -/
theorem pollEnvelope_ends_iff (s : AppState) (env : EnvelopeValue) :
    (pollEnvelope X s env).1 = false ↔ env.msgType ≠ "Receipt" ∧
      ∃ json, s.sessions env.senderId = some json ∧
        (X.serde.session.decode json).bind (sessionDecrypt X · env.content) = none := by
  unfold pollEnvelope
  by_cases hr : env.msgType = "Receipt"
  · simp [hr]
  · rw [if_neg hr]
    cases s.sessions env.senderId with
    | none => simp
    | some json =>
      dsimp only
      cases hjson : X.serde.session.decode json with
      | none => simp [hr, hjson]
      | some session =>
        dsimp only
        cases hdec : sessionDecrypt X session env.content with
        | none => simp [hr, hjson, hdec]
        | some r =>
          obtain ⟨plaintext, session'⟩ := r
          dsimp only
          cases fromUtf8? plaintext with
          | none => simp [hjson, hdec]
          | some text => simp [hjson, hdec]

theorem poll_local (sender : String) :
    Batch.Local (pollBody X) (fun _ => True) (·.senderId = sender) (·.view sender)
      (SenderView.hear X) where
  keeps _ _ _ _ := trivial
  own _ s env _ hmine := by
    have := pollEnvelope_view (X := X) s env sender
    rwa [if_pos (of_decide_eq_true hmine)] at this
  other _ s env _ hmine := by
    have := pollEnvelope_view (X := X) s env sender
    rwa [if_neg (of_decide_eq_false hmine)] at this

/-- The sender's envelopes behind the end of the loop leave what the app has of the sender as
    it is. -/
def AppState.NothingLost (X : Platform Key) (s : AppState) (batch : List EnvelopeValue)
    (sender : String) : Prop :=
  let full := (Batch.reached (pollBody X) 0 s batch).filter (·.senderId = sender)
  let alone := Batch.reached (pollBody X) 0 s (batch.filter (·.senderId = sender))
  let before := (Batch.common full alone).foldl (SenderView.hear X) (s.view sender)
  (Batch.surplus full alone).foldl (SenderView.hear X) before = before

/-- **A sender is served as if alone** exactly if nothing of it is lost with the rest of the
    batch. -/
theorem poll_isolated_iff (X : Platform Key) (s : AppState) (batch : List EnvelopeValue)
    (sender : String) :
    (pollIncoming X s (some batch)).view sender =
        (pollIncoming X s (some (batch.filter (·.senderId = sender)))).view sender ↔
      s.NothingLost X batch sender :=
  Batch.isolated_iff (poll_local sender) (poll_local sender) trivial 0 0 batch

end TinTin.Ios
