/-
  What a decrypted payload is to the terminal client.

  `process_call_signal`, `process_file_chunk` and `record_decrypted` are asked in this order.
  Which of them takes a payload depends on the payload alone (`isCallSignal`, `isFileChunk`),
  not on the state of the client or the sender.

  * `processCallSignal_eq`, `processFileChunk_cases`, `recordDecrypted_eq`: what each does.
  * `afterDecrypt_cases`: the three ways a payload can go.
-/
import TinTin.Cli.Receive

namespace TinTin.Cli

open TinTin.Lib TinTin.Core

variable {Key : Type}

/-- The `__tintin_type` of a payload that is a JSON object with one. -/
def payloadType (X : Crates Key) (plaintext : Bytes) : Option String :=
  (X.fromSlice plaintext).bind Json.tintinType

/-- The types that `process_call_signal` takes. -/
def isCallType : Option String → Bool
  | some "call_offer" => true
  | some "call_accept" => true
  | some "call_end" => true
  | _ => false

/-- The types that `process_file_chunk` takes. -/
def isFileType (kind : Option String) : Bool := kind == some "file" || kind == some "voice"

def isCallSignal (X : Crates Key) (plaintext : Bytes) : Bool := isCallType (payloadType X plaintext)

def isFileChunk (X : Crates Key) (plaintext : Bytes) : Bool := isFileType (payloadType X plaintext)

/-- The content of a chat record. -/
structure Entry where
  text : String
  isGroup : Bool
  groupName : Option String
  isChannel : Bool
  channelName : Option String
  deriving DecidableEq, Repr

/-- A record of a direct message. -/
def Entry.direct (text : String) : Entry := ⟨text, false, none, false, none⟩

/-- What `record_decrypted` writes for a payload. -/
def entryOf (X : Crates Key) (plaintext : Bytes) : Entry :=
  match X.fromSlice plaintext with
  | none => .direct (fromUtf8Lossy plaintext)
  | some payload =>
    match payload.tintinType with
    | some "group" =>
      ⟨(payload.index "text").asStr.getD "", true,
        some ((payload.index "group_name").asStr.getD "Group"), false, none⟩
    | some "channel" =>
      ⟨(payload.index "text").asStr.getD "", false, none, true,
        some ((payload.index "channel_name").asStr.getD "Channel")⟩
    | some "poll" => .direct ("[Poll] " ++ (payload.index "question").asStr.getD "Poll")
    | some "sticker" => .direct ("[Sticker] " ++ (payload.index "emoji").asStr.getD "🖼️")
    | some "call_offer" => .direct "[Call signal]"
    | some "call_accept" => .direct "[Call signal]"
    | some "call_end" => .direct "[Call signal]"
    | _ => .direct (fromUtf8Lossy plaintext)

/-- A payload that is recorded for no group and no channel is recorded as a direct message. -/
theorem entryOf_direct {X : Crates Key} {plaintext : Bytes}
    (hgroup : (entryOf X plaintext).isGroup = false)
    (hchannel : (entryOf X plaintext).isChannel = false) :
    entryOf X plaintext = .direct (entryOf X plaintext).text := by
  revert hgroup hchannel
  unfold entryOf
  cases X.fromSlice plaintext with
  | none => exact fun _ _ => rfl
  | some payload =>
    dsimp only
    generalize payload.tintinType = kind
    split
    · intro hgroup
      cases hgroup
    · intro _ hchannel
      cases hchannel
    all_goals exact fun _ _ => rfl

namespace Client

/-- Record an incoming message. -/
def logIncoming (c : Client Key) (now : UInt64) (sender : String) (entry : Entry) : Client Key :=
  c.recordMessage now sender entry.text false entry.isGroup entry.groupName entry.isChannel
    entry.channelName

variable {X : Crates Key}

theorem recordDecrypted_eq (now : UInt64) (c : Client Key) (sender : String) (plaintext : Bytes) :
    c.recordDecrypted X now sender plaintext = c.logIncoming now sender (entryOf X plaintext) := by
  unfold recordDecrypted entryOf
  cases X.fromSlice plaintext with
  | none => rfl
  | some payload =>
    dsimp only
    generalize payload.tintinType = kind
    -- both matches ask for the same types in the same order
    split <;> first
      | rfl
      | split <;> first
        | rfl
        | contradiction

/-- A call signal changes the active call and nothing else; any other payload nothing. -/
theorem processCallSignal_eq (X : Crates Key) (mediaSecret : Key) (c : Client Key)
    (sender : String) (plaintext : Bytes) :
    ∃ call, c.processCallSignal X mediaSecret sender plaintext =
        (isCallSignal X plaintext, { c with activeCall := call }) ∧
      (isCallSignal X plaintext = false → call = c.activeCall) := by
  unfold processCallSignal isCallSignal payloadType
  cases X.fromSlice plaintext with
  | none => exact ⟨c.activeCall, rfl, fun _ => rfl⟩
  | some payload =>
    rw [Option.bind_some]
    dsimp only
    generalize payload.tintinType = kind
    split
    · exact ⟨c.activeCall, rfl, fun _ => rfl⟩
    · exact ⟨_, rfl, fun hf => Bool.noConfusion hf⟩
    · split
      · exact ⟨c.activeCall, rfl, fun _ => rfl⟩
      · split
        · split
          · exact ⟨c.activeCall, rfl, fun _ => rfl⟩
          · exact ⟨_, rfl, fun hf => Bool.noConfusion hf⟩
        · exact ⟨c.activeCall, rfl, fun _ => rfl⟩
    · exact ⟨none, rfl, fun hf => Bool.noConfusion hf⟩
    · next t hoffer haccept hend =>
      have hnot : isCallType (some t) = false := by
        unfold isCallType
        split
        · next he => exact absurd (Option.some.inj he) hoffer
        · next he => exact absurd (Option.some.inj he) haccept
        · next he => exact absurd (Option.some.inj he) hend
        · rfl
      exact ⟨c.activeCall, by rw [hnot], fun _ => rfl⟩

/-- A file chunk changes the pending files and the downloads and nothing else, or panics. -/
theorem processFileChunk_cases (X : Crates Key) (c : Client Key) (plaintext : Bytes) :
    (isFileChunk X plaintext = false ∧ c.processFileChunk X plaintext = some (false, c)) ∨
    (isFileChunk X plaintext = true ∧ (c.processFileChunk X plaintext = none ∨
      ∃ files downloads, c.processFileChunk X plaintext =
        some (true, { c with pendingFiles := files, downloads := downloads }))) := by
  unfold processFileChunk isFileChunk payloadType isFileType
  cases X.fromSlice plaintext with
  | none => exact .inl ⟨rfl, rfl⟩
  | some payload =>
    rw [Option.bind_some]
    dsimp only
    split
    · next h => exact .inl ⟨by simpa using h, rfl⟩
    · next h =>
      right
      constructor
      · by_contra hnot
        exact h (by simpa using hnot)
      · split
        · exact .inr ⟨_, _, rfl⟩
        · split
          · split
            · exact .inr ⟨_, _, rfl⟩
            · exact .inl rfl
          · split
            · exact .inl rfl
            · exact .inr ⟨_, _, rfl⟩

/-- **The three ways of a payload**: a call signal, a file chunk, or a record in the chat
    log. -/
theorem afterDecrypt_cases (X : Crates Key) (io : ReceiveInput Key) (i : ℕ) (c : Client Key)
    (sender : String) (plaintext : Bytes) :
    (isCallSignal X plaintext = true ∧
      ∃ call, c.afterDecrypt X io i sender plaintext = some { c with activeCall := call }) ∨
    (isCallSignal X plaintext = false ∧ isFileChunk X plaintext = true ∧
      (c.afterDecrypt X io i sender plaintext = none ∨
        ∃ files downloads, c.afterDecrypt X io i sender plaintext =
          some { c with pendingFiles := files, downloads := downloads })) ∨
    (isCallSignal X plaintext = false ∧ isFileChunk X plaintext = false ∧
      c.afterDecrypt X io i sender plaintext =
        some (c.logIncoming (io.recordedAt i) sender (entryOf X plaintext))) := by
  obtain ⟨call, hcall, hsame⟩ := processCallSignal_eq X (io.mediaSecret i) c sender plaintext
  unfold afterDecrypt
  rw [hcall]
  cases hs : isCallSignal X plaintext with
  | true => exact .inl ⟨rfl, call, rfl⟩
  | false =>
    right
    rw [hsame hs]
    dsimp only
    rcases processFileChunk_cases X c plaintext with
      ⟨hf, hrun⟩ | ⟨hf, hrun | ⟨files, downloads, hrun⟩⟩
    · right
      refine ⟨rfl, hf, ?_⟩
      rw [if_neg Bool.false_ne_true, hrun]
      dsimp only
      rw [recordDecrypted_eq]
    · left
      refine ⟨rfl, hf, .inl ?_⟩
      rw [if_neg Bool.false_ne_true, hrun]
    · left
      refine ⟨rfl, hf, .inr ⟨files, downloads, ?_⟩⟩
      rw [if_neg Bool.false_ne_true, hrun]

end Client

end TinTin.Cli
