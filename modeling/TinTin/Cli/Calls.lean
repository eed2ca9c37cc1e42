/-
  Calls in the terminal client: `start_call`, `accept_call`, `end_call`, and what
  `process_call_signal` does with their signals.

  The methods hand a signal to `post`, which stands for the rest of `send_message`: it gives
  its result, the client it leaves and what it put on the way. `viaRelay` is the one of the
  source, `inOrder` a channel that never fails. The clock reading and the secret of a media
  key pair are arguments.

  A `Phone` is what matters of a client here: its user and its active call.

  * `processCallSignal_text`: a received signal acts on the active call as `Signal.handle`.
  * `startCall_phone`, `acceptCall_phone`, `endCall_phone`: the methods act on the phone alone,
    for any `post` that leaves the phone as it is; `viaRelay_keeps`: `send_message` does.
-/
import TinTin.Cli.Payload
import TinTin.Cli.Text

namespace TinTin.Cli

open TinTin.Lib TinTin.Core

variable {Key : Type}

/-! ## Signals -/

/-- The payloads of a call. -/
inductive Signal (Key : Type)
  /-- `call_offer` -/
  | offer (callId : String) (mediaKeyPub : Key)
  /-- `call_accept` -/
  | accept (callId : String) (mediaKeyPub : Key)
  /-- `call_end` -/
  | hangUp (callId reason : String)
  deriving DecidableEq, Repr

namespace Signal

/-- The members of the payload. -/
def members (W : Writers Key) : Signal Key → List (String × Json)
  | .offer callId mediaKeyPub =>
    [("__tintin_type", .string "call_offer"), ("call_id", .string callId),
      ("media_key_pub", .string (W.hexEncode mediaKeyPub))]
  | .accept callId mediaKeyPub =>
    [("__tintin_type", .string "call_accept"), ("call_id", .string callId),
      ("media_key_pub", .string (W.hexEncode mediaKeyPub))]
  | .hangUp callId reason =>
    [("__tintin_type", .string "call_end"), ("call_id", .string callId),
      ("reason", .string reason)]

/-- The text that `send_message` encrypts. -/
def text (W : Writers Key) (s : Signal Key) : String := W.toString (.object (s.members W))

theorem members_flat (W : Writers Key) (s : Signal Key) : Json.Flat (s.members W) := by
  refine ⟨?_, fun m hm => ?_⟩
  · cases s with
    | offer callId mediaKeyPub =>
      exact (by decide : ["__tintin_type", "call_id", "media_key_pub"].Nodup)
    | accept callId mediaKeyPub =>
      exact (by decide : ["__tintin_type", "call_id", "media_key_pub"].Nodup)
    | hangUp callId reason => exact (by decide : ["__tintin_type", "call_id", "reason"].Nodup)
  · cases s <;>
      (simp only [members, List.mem_cons, List.not_mem_nil, or_false] at hm
       rcases hm with rfl | rfl | rfl <;> rfl)

/-- The active call after a signal from `sender`. -/
def handle (P : Primitives Key) (sender : String) (mediaSecret : Key)
    (activeCall : Option (ActiveCall Key)) : Signal Key → Option (ActiveCall Key)
  | .offer callId mediaKeyPub => some
    { peer := sender
      callId := callId
      mediaKeyPair := KeyPair.generate P mediaSecret
      peerMediaKey := some mediaKeyPub
      sharedMediaSecret := none
      state := .ringing }
  | .accept _ mediaKeyPub => activeCall.map fun call =>
    if call.state = .offering ∨ call.state = .ringing then
      { call with
        peerMediaKey := some mediaKeyPub
        sharedMediaSecret := some (call.mediaKeyPair.agree P mediaKeyPub)
        state := .connected }
    else call
  | .hangUp _ _ => none

end Signal

/-- **A received signal** acts on the active call alone. -/
theorem Client.processCallSignal_text {X : Crates Key} {W : Writers Key} (hW : W.ReadBy X)
    (mediaSecret : Key) (c : Client Key) (sender : String) (s : Signal Key) :
    c.processCallSignal X mediaSecret sender (utf8 (s.text W)) =
      (true, { c with activeCall := s.handle X.prims sender mediaSecret c.activeCall }) := by
  obtain ⟨v, hv, hget⟩ := hW.json (s.members W) (s.members_flat W)
  have htype := Json.get_tintinType hget
  have hid := Json.get_index hget "call_id"
  have hkey := Json.get_index hget "media_key_pub"
  unfold processCallSignal Signal.text
  rw [hv]
  dsimp only
  cases s with
  | offer callId mediaKeyPub =>
    rw [show v.tintinType = some "call_offer" from htype, hid, hkey]
    change (true, { c with activeCall := some {
      peer := sender
      callId := callId
      mediaKeyPair := KeyPair.generate X.prims mediaSecret
      peerMediaKey := X.hexKey (W.hexEncode mediaKeyPub)
      sharedMediaSecret := none
      state := .ringing } }) = _
    rw [hW.hex]
    rfl
  | accept callId mediaKeyPub =>
    have hpeer : X.hexKey ((v.index "media_key_pub").asStr.getD "") = some mediaKeyPub := by
      rw [hkey]
      exact hW.hex mediaKeyPub
    rw [show v.tintinType = some "call_accept" from htype, hpeer]
    cases hc : c.activeCall with
    | none =>
      show (true, c) = _
      dsimp only [Signal.handle, Option.map_none]
      rw [← hc]
    | some call =>
      show (if call.state = .offering ∨ call.state = .ringing then
          (true, { c with activeCall := some { call with
            peerMediaKey := some mediaKeyPub
            sharedMediaSecret := some (call.mediaKeyPair.agree X.prims mediaKeyPub)
            state := .connected } })
        else (true, c)) = _
      dsimp only [Signal.handle, Option.map_some]
      split_ifs
      · rfl
      · rw [← hc]
  | hangUp callId reason =>
    rw [show v.tintinType = some "call_end" from htype]
    rfl

/-! ## Phones -/

/-- A user and its active call. -/
structure Phone (Key : Type) where
  userId : String
  call : Option (ActiveCall Key)
  deriving DecidableEq, Repr

namespace Phone

variable (P : Primitives Key)

/-- `start_call`: the phone, and the signal with its recipient. -/
def start (now : ℕ) (mediaSecret : Key) (peer : String) (phone : Phone Key) :
    Phone Key × Option (String × Signal Key) :=
  match phone.call with
  | some _ => (phone, none)
  | none =>
    let callId := phone.userId ++ "_" ++ toString now
    let mediaKeyPair := KeyPair.generate P mediaSecret
    ({ phone with call := some {
        peer := peer
        callId := callId
        mediaKeyPair := mediaKeyPair
        peerMediaKey := none
        sharedMediaSecret := none
        state := .offering } },
      some (peer, .offer callId mediaKeyPair.publicKey))

/-- A call with the key pair and state that `accept_call` gives it. -/
def answered (mediaSecret : Key) (call : ActiveCall Key) : ActiveCall Key :=
  let mediaKeyPair := KeyPair.generate P mediaSecret
  { call with
    state := .connected
    mediaKeyPair := mediaKeyPair
    sharedMediaSecret := match call.peerMediaKey with
      | some peerKey => some (mediaKeyPair.agree P peerKey)
      | none => call.sharedMediaSecret }

/-- `accept_call` -/
def accept (mediaSecret : Key) (callId : String) (phone : Phone Key) :
    Phone Key × Option (String × Signal Key) :=
  match phone.call with
  | none => (phone, none)
  | some call =>
    if call.callId = callId then
      let call := answered P mediaSecret call
      ({ phone with call := some call },
        some (call.peer, .accept callId call.mediaKeyPair.publicKey))
    else (phone, none)

/-- `end_call` -/
def hangUp (reason : String) (phone : Phone Key) : Phone Key × Option (String × Signal Key) :=
  match phone.call with
  | none => (phone, none)
  | some call => ({ phone with call := none }, some (call.peer, .hangUp call.callId reason))

/-- `process_call_signal` for a signal from `sender`. -/
def hear (sender : String) (mediaSecret : Key) (phone : Phone Key) (s : Signal Key) : Phone Key :=
  { phone with call := s.handle P sender mediaSecret phone.call }

end Phone

/-! ## The methods -/

/-- How `send_message` goes for a signal. -/
abbrev Post (Key σ : Type) :=
  Client Key → String → Signal Key → Except SendError Unit × Client Key × Option σ

namespace Post

/-- `send_message` with the text of the signal. -/
def viaRelay (X : Crates Key) (W : Writers Key) (io : SendInput Key)
    (bundle : Option (PreKeyBundle Key)) (outcome : PostOutcome) : Post Key Envelope :=
  fun c recipient s => c.sendMessage X io bundle outcome recipient (s.text W)

/-- A channel that takes every signal. -/
def inOrder : Post Key (String × Signal Key) :=
  fun c recipient s => (.ok (), c, some (recipient, s))

end Post

inductive CallError
  | alreadyInCall
  | differentId
  | noIncomingCall
  | noActiveCall
  | send (e : SendError)
  deriving DecidableEq, Repr

namespace Client

/-- What matters of a client for its calls. -/
def phone (c : Client Key) : Phone Key := ⟨c.userId, c.activeCall⟩

variable (X : Crates Key) {σ : Type} (post : Post Key σ)

/-- `start_call`; the id is made of the user's id and the clock in milliseconds. -/
def startCall (now : ℕ) (mediaSecret : Key) (c : Client Key) (peer : String) :
    Except CallError Unit × Client Key × Option σ :=
  if c.activeCall.isSome then (.error .alreadyInCall, c, none)
  else
    let callId := c.userId ++ "_" ++ toString now
    let mediaKeyPair := KeyPair.generate X.prims mediaSecret
    let c : Client Key := { c with activeCall := some {
      peer := peer
      callId := callId
      mediaKeyPair := mediaKeyPair
      peerMediaKey := none
      sharedMediaSecret := none
      state := .offering } }
    let (result, c, posted) := post c peer (.offer callId mediaKeyPair.publicKey)
    (result.mapError .send, c, posted)

/-- `accept_call` -/
def acceptCall (mediaSecret : Key) (c : Client Key) (callId : String) :
    Except CallError Unit × Client Key × Option σ :=
  match c.activeCall with
  | none => (.error .noIncomingCall, c, none)
  | some call =>
    if call.callId = callId then
      let mediaKeyPair := KeyPair.generate X.prims mediaSecret
      let c : Client Key := { c with activeCall := some { call with
        state := .connected
        mediaKeyPair := mediaKeyPair
        sharedMediaSecret := match call.peerMediaKey with
          | some peerKey => some (mediaKeyPair.agree X.prims peerKey)
          | none => call.sharedMediaSecret } }
      let (result, c, posted) := post c call.peer (.accept callId mediaKeyPair.publicKey)
      (result.mapError .send, c, posted)
    else (.error .differentId, c, none)

/-- `end_call`: the call stays where the signal could not be sent. -/
def endCall (reason : String) (c : Client Key) : Except CallError Unit × Client Key × Option σ :=
  match c.activeCall with
  | none => (.error .noActiveCall, c, none)
  | some call =>
    match post c call.peer (.hangUp call.callId reason) with
    | (.error e, c, posted) => (.error (.send e), c, posted)
    | (.ok (), c, posted) => (.ok (), { c with activeCall := none }, posted)

/-! ## The methods on phones -/

variable {X : Crates Key} {W : Writers Key} {post : Post Key σ}

theorem startCall_phone (hpost : ∀ c r s, (post c r s).2.1.phone = c.phone) (now : ℕ)
    (mediaSecret : Key) (c : Client Key) (peer : String) :
    (c.startCall X post now mediaSecret peer).2.1.phone =
      (c.phone.start X.prims now mediaSecret peer).1 := by
  unfold startCall Phone.start
  cases hc : c.activeCall with
  | some call => simp [phone, hc]
  | none =>
    rw [if_neg (by simp)]
    dsimp only [phone]
    rw [hc]
    exact hpost _ _ _

theorem acceptCall_phone (hpost : ∀ c r s, (post c r s).2.1.phone = c.phone)
    (mediaSecret : Key) (c : Client Key) (callId : String) :
    (c.acceptCall X post mediaSecret callId).2.1.phone =
      (c.phone.accept X.prims mediaSecret callId).1 := by
  unfold acceptCall Phone.accept
  dsimp only [phone]
  cases hc : c.activeCall with
  | none =>
    dsimp only
    rw [hc]
  | some call =>
    dsimp only
    split_ifs
    · exact hpost _ _ _
    · dsimp only
      rw [hc]

/-- Hanging up clears the call where the signal was sent. -/
theorem endCall_phone (hpost : ∀ c r s, (post c r s).2.1.phone = c.phone) (reason : String)
    (c : Client Key) (hok : (c.endCall post reason).1 = .ok ()) :
    (c.endCall post reason).2.1.phone = (c.phone.hangUp reason).1 := by
  unfold endCall Phone.hangUp at *
  dsimp only [phone] at *
  cases hc : c.activeCall with
  | none =>
    rw [hc] at hok
    cases hok
  | some call =>
    rw [hc] at hok
    dsimp only at hok ⊢
    have hkeep := hpost c call.peer (.hangUp call.callId reason)
    generalize post c call.peer (.hangUp call.callId reason) = r at hok hkeep ⊢
    obtain ⟨result, c', posted⟩ := r
    cases result with
    | error e => cases hok
    | ok u =>
      have : c'.userId = c.userId := congrArg Phone.userId hkeep
      dsimp only
      rw [this]

/-! ### The source's way of posting -/

theorem post_phone (io : SendInput Key) (outcome : PostOutcome) (c : Client Key)
    (recipient plaintext : String) (content : Bytes) (msgType : MessageType) :
    (c.post io outcome recipient plaintext content msgType).2.1.phone = c.phone := by
  unfold Client.post
  cases sendResult outcome <;> rfl

theorem sendEncrypted_phone (io : SendInput Key) (bundle : Option (PreKeyBundle Key))
    (c : Client Key) (recipient plaintext : String) :
    (c.sendEncrypted X io bundle recipient plaintext).2.phone = c.phone := by
  unfold sendEncrypted getOrCreateSession
  cases c.sessions.get recipient 1 with
  | some s =>
    dsimp only
    cases (s.encrypt X.prims io.nonce (utf8 plaintext)).1 <;> rfl
  | none =>
    cases bundle with
    | none => rfl
    | some bundle =>
      dsimp only
      split <;> rfl

theorem sendMessage_phone (io : SendInput Key) (bundle : Option (PreKeyBundle Key))
    (outcome : PostOutcome) (c : Client Key) (recipient plaintext : String) :
    (c.sendMessage X io bundle outcome recipient plaintext).2.1.phone = c.phone := by
  have hsend := sendEncrypted_phone (X := X) io bundle c recipient plaintext
  unfold sendMessage
  split_ifs
  · exact post_phone ..
  · generalize c.sendEncrypted X io bundle recipient plaintext = r at hsend
    obtain ⟨result, c'⟩ := r
    cases result with
    | error e => exact hsend
    | ok content => exact (post_phone ..).trans hsend

end Client

/-- `send_message` leaves the phone as it is. -/
theorem viaRelay_keeps (X : Crates Key) (W : Writers Key) (io : SendInput Key)
    (bundle : Option (PreKeyBundle Key)) (outcome : PostOutcome) (c : Client Key)
    (recipient : String) (s : Signal Key) :
    (Post.viaRelay X W io bundle outcome c recipient s).2.1.phone = c.phone :=
  Client.sendMessage_phone ..

end TinTin.Cli
