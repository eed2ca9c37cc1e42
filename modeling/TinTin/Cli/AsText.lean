/-
  Which texts arrive as texts.

  A text and a control payload are sent in the same way, so the receiver decides by what the
  plaintext parses as. `isPayloadType` has the nine types that are handled as something else
  than a text; a `media_chunk` is recorded as a text, but may write a file before.

  * `delivered_as_text_iff`: a text that opens is recorded as it is, and nothing else changes,
    just when it is no payload of one of the nine types and writes no media chunk.
-/
import TinTin.Cli.Media
import TinTin.Cli.Calls

namespace TinTin.Cli

open TinTin.Lib TinTin.Core TinTin.Symbolic

variable {Key : Type}

/-- The types that `record_decrypted` puts into the log as something else than a text. -/
def isEntryType : Option String → Bool
  | some "group" => true
  | some "channel" => true
  | some "poll" => true
  | some "sticker" => true
  | _ => false

/-- The types that are not handled as a text. -/
def isPayloadType (kind : Option String) : Bool :=
  isCallType kind || isFileType kind || isEntryType kind

/-- One record with the text goes into the chat log, no file is written, and but for the
    session the client is as before. -/
structure DeliveredAsText [DecidableEq Key] (X : Crates Key) (M : MediaCrates)
    (io : ReceiveInput Key) (i stamp : ℕ) (c : Client Key) (e : Envelope) (text : String) :
    Prop where
  received : ∃ sessions posted, c.receiveEnvelope X io i e =
    (.ok (), Client.recordMessage { c with sessions := sessions } (io.recordedAt i) e.senderId
      text false false none false none, posted)
  recordings : c.recordings X M e = none
  stickers : c.stickers X stamp e = none

namespace Client

variable {X : Crates Key} {M : MediaCrates} {c : Client Key} {e : Envelope} {text : String}

/-- What the log has of a payload of another type is its text. -/
theorem entryOf_text (h : isEntryType (payloadType X (utf8 text)) = false)
    (hcall : isCallType (payloadType X (utf8 text)) = false) :
    entryOf X (utf8 text) = .direct text := by
  unfold entryOf
  unfold payloadType at h hcall
  cases hv : X.fromSlice (utf8 text) with
  | none =>
    dsimp only
    rw [fromUtf8Lossy_utf8]
  | some v =>
    rw [hv, Option.bind_some] at h hcall
    dsimp only
    generalize v.tintinType = kind at h hcall
    split
    · cases h
    · cases h
    · cases h
    · cases h
    · cases hcall
    · cases hcall
    · cases hcall
    · rw [fromUtf8Lossy_utf8]

/-- A payload of the four types is no direct message with its own text. -/
theorem entryOf_ne_text (hpoll : ∀ q, X.fromSlice (utf8 ("[Poll] " ++ q)) = none)
    (hsticker : ∀ q, X.fromSlice (utf8 ("[Sticker] " ++ q)) = none)
    (h : isEntryType (payloadType X (utf8 text)) = true) :
    entryOf X (utf8 text) ≠ .direct text := by
  unfold entryOf
  unfold payloadType at h
  cases hv : X.fromSlice (utf8 text) with
  | none =>
    rw [hv] at h
    cases h
  | some v =>
    rw [hv, Option.bind_some] at h
    dsimp only
    generalize v.tintinType = kind at h
    intro heq
    split at heq
    · cases congrArg Entry.isGroup heq
    · cases congrArg Entry.isChannel heq
    · have htext := congrArg Entry.text heq
      have hnone := hpoll ((v.index "question").asStr.getD "Poll")
      rw [show "[Poll] " ++ _ = text from htext, hv] at hnone
      cases hnone
    · have htext := congrArg Entry.text heq
      have hnone := hsticker ((v.index "emoji").asStr.getD "🖼️")
      rw [show "[Sticker] " ++ _ = text from htext, hv] at hnone
      cases hnone
    · cases h
    · cases h
    · cases h
    · next hgroup hchannel hpoll hsticker _ _ _ =>
      unfold isEntryType at h
      split at h
      · exact hgroup rfl
      · exact hchannel rfl
      · exact hpoll rfl
      · exact hsticker rfl
      · cases h

/-- A record determines its entry. -/
theorem entry_of_record {c c' : Client Key} {now : UInt64} {sender : String} {entry entry' : Entry}
    (hlog : c.chatLog = c'.chatLog)
    (h : (c.logIncoming now sender entry).chatLog = (c'.logIncoming now sender entry').chatLog) :
    entry = entry' := by
  unfold logIncoming recordMessage at h
  dsimp only at h
  rw [hlog] at h
  have hrec := List.cons.inj (List.append_cancel_left h)
  obtain ⟨text, isGroup, groupName, isChannel, channelName⟩ := entry
  obtain ⟨text', isGroup', groupName', isChannel', channelName'⟩ := entry'
  simpa using hrec.1

variable [DecidableEq Key]

theorem recordings_opens (h : c.opens X e = some (utf8 text))
    (hsignal : isCallSignal X (utf8 text) = false) :
    c.recordings X M e = none ↔ (e.msgType = .preKeyBundle →
      (c.processMediaChunk X M e.senderId (utf8 text)).2 = none) := by
  unfold recordings
  rw [h]
  cases e.msgType with
  | preKeyBundle =>
    dsimp only
    rw [if_neg (by rw [hsignal]; exact Bool.false_ne_true)]
    exact ⟨fun hn _ => hn, fun hn => hn rfl⟩
  | normal => exact ⟨fun _ ht => (by cases ht), fun _ => rfl⟩
  | receipt => exact ⟨fun _ ht => (by cases ht), fun _ => rfl⟩
  | typing => exact ⟨fun _ ht => (by cases ht), fun _ => rfl⟩

/-- A delivered text is no payload. -/
theorem not_payload_of_delivered (hpoll : ∀ q, X.fromSlice (utf8 ("[Poll] " ++ q)) = none)
    (hsticker : ∀ q, X.fromSlice (utf8 ("[Sticker] " ++ q)) = none)
    (h : c.opens X e = some (utf8 text)) {io : ReceiveInput Key} {i stamp : ℕ}
    (hd : DeliveredAsText X M io i stamp c e text) :
    isPayloadType (payloadType X (utf8 text)) = false := by
  obtain ⟨sessions, posted, hrun⟩ := hd.received
  obtain ⟨sessions', hopens⟩ := receiveEnvelope_opens h io i
  rw [hopens] at hrun
  unfold finish at hrun
  rcases afterDecrypt_cases X io i { c with sessions := sessions' } e.senderId (utf8 text) with
    ⟨-, call, hafter⟩ | ⟨-, -, hafter | ⟨files, downloads, hafter⟩⟩ | ⟨hs, hf, hafter⟩
  · rw [hafter] at hrun
    have hlog := congrArg (fun r => r.2.1.chatLog) hrun
    exact absurd hlog (by simp [recordMessage])
  · rw [hafter] at hrun
    cases congrArg Prod.fst hrun
  · rw [hafter] at hrun
    have hlog := congrArg (fun r => r.2.1.chatLog) hrun
    exact absurd hlog (by simp [recordMessage])
  · rw [hafter] at hrun
    have hlog := congrArg (fun r => r.2.1.chatLog) hrun
    have hsame : ({ c with sessions := sessions' } : Client Key).chatLog =
        ({ c with sessions := sessions } : Client Key).chatLog := rfl
    have hentry : entryOf X (utf8 text) = .direct text := entry_of_record hsame hlog
    have hnot : isEntryType (payloadType X (utf8 text)) = false := by
      by_contra htrue
      exact entryOf_ne_text hpoll hsticker (Bool.eq_true_of_not_eq_false htrue) hentry
    unfold isPayloadType
    rw [show isCallType _ = false from hs, show isFileType _ = false from hf, hnot]
    rfl

/-- **Texts that arrive as texts.** Whatever the state of the receiver: a text that opens is
    recorded once as it is and changes nothing else, just when it is no JSON object with one
    of the nine types, and no media chunk that an active call with the sender opens on its
    way in a `PreKeyBundle` envelope. -/
theorem delivered_as_text_iff (hpoll : ∀ q, X.fromSlice (utf8 ("[Poll] " ++ q)) = none)
    (hsticker : ∀ q, X.fromSlice (utf8 ("[Sticker] " ++ q)) = none)
    (h : c.opens X e = some (utf8 text)) (io : ReceiveInput Key) (i stamp : ℕ) :
    DeliveredAsText X M io i stamp c e text ↔
      isPayloadType (payloadType X (utf8 text)) = false ∧ (e.msgType = .preKeyBundle →
        (c.processMediaChunk X M e.senderId (utf8 text)).2 = none) := by
  constructor
  · intro hd
    have hpay := not_payload_of_delivered hpoll hsticker h hd
    have hsignal : isCallSignal X (utf8 text) = false := by
      unfold isPayloadType at hpay
      simp only [Bool.or_eq_false_iff] at hpay
      exact hpay.1.1
    exact ⟨hpay, (recordings_opens h hsignal).mp hd.recordings⟩
  · rintro ⟨hpay, hmedia⟩
    unfold isPayloadType at hpay
    simp only [Bool.or_eq_false_iff] at hpay
    obtain ⟨⟨hcall, hfile⟩, hentry⟩ := hpay
    obtain ⟨sessions, hopens⟩ := receiveEnvelope_opens h io i
    obtain ⟨posted, hfinish⟩ := finish_recorded (X := X) hcall hfile io i
      { c with sessions := sessions } e
    rw [entryOf_text hentry hcall] at hfinish
    refine ⟨⟨sessions, posted, hopens.trans hfinish⟩, (recordings_opens h hcall).mpr hmedia, ?_⟩
    unfold stickers
    rw [h]
    dsimp only
    rw [if_neg (by rw [show isCallSignal X _ = false from hcall,
      show isFileChunk X _ = false from hfile]; exact Bool.false_ne_true)]
    unfold displaySticker
    unfold payloadType at hentry
    cases hv : X.fromSlice (utf8 text) with
    | none => rfl
    | some v =>
      rw [hv, Option.bind_some] at hentry
      dsimp only
      rw [if_neg]
      rintro ⟨hsticker, -⟩
      rw [hsticker] at hentry
      cases hentry

/-! ### Two texts between fresh clients -/

omit [DecidableEq Key] in
/-- What does not begin with a brace is no flat object. -/
theorem fromSlice_none {text : String} (ch : Char) (h : text.toList.head? = some ch)
    (hch : ch ≠ '{') : textCrates.fromSlice (utf8 text) = none := by
  have hread : FlatJson.read text = none := by
    unfold FlatJson.read
    cases hs : text.toList with
    | nil => rfl
    | cons x rest =>
      rw [hs] at h
      cases h
      unfold FlatJson.readChars
      split
      · next heq => exact absurd (List.cons.inj heq).1 hch
      · next heq => exact absurd (List.cons.inj heq).1 hch
      · rfl
  show Json.readFlat (utf8 text) = none
  unfold Json.readFlat
  rw [fromUtf8?_utf8, Option.bind_some, hread]
  rfl

omit [DecidableEq Key] in
theorem fromSlice_poll (q : String) : textCrates.fromSlice (utf8 ("[Poll] " ++ q)) = none :=
  fromSlice_none '[' (by rw [String.toList_append]; rfl) (by decide)

omit [DecidableEq Key] in
theorem fromSlice_sticker (q : String) :
    textCrates.fromSlice (utf8 ("[Sticker] " ++ q)) = none :=
  fromSlice_none '[' (by rw [String.toList_append]; rfl) (by decide)

theorem delivered_as_text_hello : ∃ e, bobInCall.opens textCrates e = some (utf8 "hello") ∧
    DeliveredAsText textCrates hexMedia freshReceiveInput 0 0 bobInCall e "hello" := by
  obtain ⟨alice', e, prekey, -, -, -, htype, hdec, -, hok⟩ :=
    first_message_opens (X := textCrates) symbolic_lawful (a := aliceInCall) (b := bobInCall)
      (by decide) rfl (SignedPreKey.generate_wellFormed ..) (freshSendInput 8) "hello"
  have hopens := opens_preKeyBundle htype hdec hok
  have hread : textCrates.fromSlice (utf8 "hello") = none :=
    fromSlice_none 'h' (by decide) (by decide)
  refine ⟨e, hopens, (delivered_as_text_iff fromSlice_poll fromSlice_sticker hopens
    freshReceiveInput 0 0).mpr ⟨?_, fun _ => ?_⟩⟩
  · unfold payloadType
    rw [hread]
    rfl
  · unfold processMediaChunk
    rw [hread]

/-- `{"__tintin_type":"call_end","call_id":"x","reason":"bye"}`, typed by a user. -/
def typedSignal : String := (Signal.hangUp "x" "bye").text textWriters

/-- The text ends Bob's call and is not recorded. -/
theorem typed_signal_ends_call : ∃ alice' e,
    aliceInCall.sendMessage textCrates (freshSendInput 8) (some bobInCall.register) .accepted
      "bob" typedSignal = (.ok (), alice', some e) ∧
    bobInCall.opens textCrates e = some (utf8 typedSignal) ∧
    bobInCall.activeCall.isSome ∧
    (bobInCall.receiveEnvelope textCrates freshReceiveInput 0 e).2.1.activeCall = none ∧
    (bobInCall.receiveEnvelope textCrates freshReceiveInput 0 e).2.1.chatLog = [] ∧
    ¬ DeliveredAsText textCrates hexMedia freshReceiveInput 0 0 bobInCall e typedSignal := by
  obtain ⟨alice', e, prekey, hsend, -, -, htype, hdec, -, hok⟩ :=
    first_message_opens (X := textCrates) symbolic_lawful (a := aliceInCall) (b := bobInCall)
      (by decide) rfl (SignedPreKey.generate_wellFormed ..) (freshSendInput 8) typedSignal
  have hopens := opens_preKeyBundle htype hdec hok
  obtain ⟨sessions, hrun⟩ := receiveEnvelope_opens hopens freshReceiveInput 0
  have hsignal := processCallSignal_text (W := textWriters) textWriters_readBy
    (freshReceiveInput.mediaSecret 0) { bobInCall with sessions := sessions } e.senderId
    (.hangUp "x" "bye")
  have hafter : (bobInCall.receiveEnvelope textCrates freshReceiveInput 0 e).2.1 =
      { bobInCall with sessions := sessions, activeCall := none } := by
    rw [hrun]
    unfold finish afterDecrypt typedSignal
    rw [hsignal]
    rfl
  refine ⟨alice', e, hsend, hopens, rfl, ?_, ?_, fun hd => ?_⟩
  · rw [hafter]
  · rw [hafter]
    rfl
  · obtain ⟨sessions', posted, hdelivered⟩ := hd.received
    have hlog := congrArg (fun r => r.2.1.chatLog) hdelivered
    dsimp only at hlog
    rw [hafter] at hlog
    cases hlog

end Client

end TinTin.Cli
