/-
  Audio during a call: `send_call_media`, `process_media_chunk`, and what a received envelope
  makes the client write to disk.

  The recording comes as the bytes of its file, or none where it failed. Each payload is handed
  to `post`, the rest of `send_message`. `cipher::encrypt` draws its own nonce (`nonces i` for
  the chunk at place `i`); what the payload names as nonce is the place.

  * `receiveEnvelope_opens`: an envelope that opens ends in `finish`.
  * `stored_iff`: a chunk that arrives in a `PreKeyBundle` envelope is stored as it was recorded
    if the drawn nonce happens to be the one the payload names, and not otherwise.
  * `media_chunk_not_delivered`: no chunk is both stored and kept out of the chat.
-/
import TinTin.Cli.Delivery
import TinTin.Cli.Isolation
import TinTin.Cli.Text
import TinTin.Lib.Chunks

namespace TinTin.Cli

open TinTin.Lib TinTin.Core TinTin.Symbolic

variable {Key : Type}

def Json.asBool : Json → Option Bool
  | .bool b => some b
  | _ => none

/-- What the media code needs of the crates and of Unicode beyond what `Crates` has. -/
structure MediaCrates where
  /-- `hex::encode` -/
  hexEncode : Bytes → String
  /-- `hex::decode` -/
  hexDecode : String → Option Bytes
  /-- `char::is_alphanumeric` -/
  isAlphanumeric : Char → Bool

/-- The media key of a shared secret. -/
def mediaKey (P : Primitives Key) (secret : Key) : Key := P.sha256Label secret "tintin-call-media-v1"

/-! ## Sending -/

/-- `nonce[..8].copy_from_slice(&(seq as u64).to_le_bytes())` -/
def seqNonce (seq : ℕ) : Nonce :=
  Vector.ofFn fun i => if i.val < 8 then UInt8.ofNat (seq / 256 ^ i.val) else 0

inductive MediaError
  | noActiveCall
  | notConnected
  | noMediaKey
  | notRecorded
  | encryption (e : TinTinError)
  | send (e : SendError)
  | panicked
  deriving DecidableEq, Repr

/-- The payload of the chunk at place `seq`. -/
def mediaMembers (W : Writers Key) (M : MediaCrates) (callId : String) (total seq : ℕ)
    (ciphertext : Bytes) : List (String × Json) :=
  [("__tintin_type", .string "media_chunk"),
    ("call_id", .string callId),
    ("channels", .number (.posInt 1)),
    ("data", .string (W.base64Encode ciphertext)),
    ("nonce", .string (M.hexEncode (seqNonce seq).toList)),
    ("sample_rate", .number (.posInt 44100)),
    ("seq", .number (.posInt (UInt64.ofNat seq))),
    ("total", .number (.posInt (UInt64.ofNat total)))]

def mediaText (W : Writers Key) (M : MediaCrates) (callId : String) (total seq : ℕ)
    (ciphertext : Bytes) : String :=
  W.toString (.object (mediaMembers W M callId total seq ciphertext))

/-- The end-of-stream marker. -/
def endText (W : Writers Key) (callId : String) (total : ℕ) : String :=
  W.toString (.object
    [("__tintin_type", .string "media_chunk"),
      ("call_id", .string callId),
      ("end_of_stream", .bool true),
      ("seq", .number (.posInt (UInt64.ofNat total))),
      ("total", .number (.posInt (UInt64.ofNat total)))])

/-- Pieces of about a second. -/
def mediaChunks (audio : Bytes) : List Bytes := chunks (min 88200 audio.length) audio

namespace Client

variable (X : Crates Key) (W : Writers Key) (M : MediaCrates) {σ : Type}
  (post : Client Key → String → String → Except SendError Unit × Client Key × Option σ)

/-- The loop over the pieces from place `seq` on, and the end-of-stream marker. -/
def sendPieces (call : ActiveCall Key) (key : Key) (total : ℕ) (nonces : ℕ → Nonce) :
    ℕ → Client Key → List Bytes → Except MediaError Unit × Client Key × List σ
  | _, c, [] =>
    let (result, c, posted) := post c call.peer (endText W call.callId total)
    (result.mapError .send, c, posted.toList)
  | seq, c, piece :: rest =>
    match encrypt X.prims (nonces seq) piece key with
    | .error e => (.error (.encryption e), c, [])
    | .ok (ciphertext, _) =>
      match post c call.peer (mediaText W M call.callId total seq ciphertext) with
      | (.error e, c, posted) => (.error (.send e), c, posted.toList)
      | (.ok (), c, posted) =>
        let (result, c, posted') := sendPieces call key total nonces (seq + 1) c rest
        (result, c, posted.toList ++ posted')

/-- `send_call_media`. An empty recording divides by zero. -/
def sendCallMedia (recorded : Option Bytes) (nonces : ℕ → Nonce) (c : Client Key) :
    Except MediaError Unit × Client Key × List σ :=
  match c.activeCall with
  | none => (.error .noActiveCall, c, [])
  | some call =>
    if call.state = .connected then
      match call.sharedMediaSecret with
      | none => (.error .noMediaKey, c, [])
      | some secret =>
        match recorded with
        | none => (.error .notRecorded, c, [])
        | some audio =>
          if audio = [] then (.error .panicked, c, [])
          else
            let chunkSize := min 88200 audio.length
            let total := (audio.length + chunkSize - 1) / chunkSize
            sendPieces X W M post call (mediaKey X.prims secret) total nonces 0 c
              (mediaChunks audio)
    else (.error .notConnected, c, [])

/-! ## Receiving -/

/-- The name of a stored chunk. -/
def recordingName (sender : String) (seq : UInt64) : String :=
  "call_media_" ++ sender.map (fun ch => if M.isAlphanumeric ch then ch else '_') ++ "_seq" ++
    toString seq.toNat ++ ".raw"

/-- The first twelve bytes, filled up with zeros. -/
def nonceOf (bytes : Bytes) : Nonce := Vector.ofFn fun i => bytes.getD i.val 0

/-- `process_media_chunk`: its result, and the file it writes to the recordings directory. -/
def processMediaChunk (c : Client Key) (sender : String) (plaintext : Bytes) :
    Bool × Option (String × Bytes) :=
  match X.fromSlice plaintext with
  | none => (false, none)
  | some payload =>
    if payload.tintinType ≠ some "media_chunk" then (false, none)
    else
      match (c.activeCall.filter (·.peer == sender)).bind (·.sharedMediaSecret) with
      | none => (false, none)
      | some secret =>
        if ((payload.get "end_of_stream").bind Json.asBool).getD false then (true, none)
        else
          let seq := (payload.index "seq").asU64.getD 0
          let data := (payload.index "data").asStr.getD ""
          let nonce := (payload.index "nonce").asStr.getD ""
          if data = "" ∨ nonce = "" then (true, none)
          else
            match X.base64Decode data, M.hexDecode nonce with
            | some ciphertext, some nonceBytes =>
              match decrypt X.prims ciphertext (mediaKey X.prims secret) (nonceOf nonceBytes) with
              | .ok piece => (true, some (recordingName M sender seq, piece))
              | .error _ => (true, none)
            | _, _ => (true, none)

/-- The file that `display_decrypted` writes to the stickers directory. -/
def displaySticker (stamp : ℕ) (plaintext : Bytes) : Option (String × Bytes) :=
  match X.fromSlice plaintext with
  | none => none
  | some payload =>
    if payload.tintinType = some "sticker" ∧
        (payload.index "pack_id").asStr.getD "?" = "custom" then
      let name := (payload.index "sticker_name").asStr.getD "sticker"
      let data := (payload.index "image_data").asStr.getD ""
      if data = "" then none
      else
        match X.base64Decode data with
        | none => none
        | some image => some (name ++ "_" ++ toString stamp ++ ".jpg", image)
    else none

variable [DecidableEq Key]

/-- What `receive_messages` writes to the recordings directory for an envelope. Only the
    `PreKeyBundle` branch asks `process_media_chunk`. -/
def recordings (c : Client Key) (e : Envelope) : Option (String × Bytes) :=
  match e.msgType, c.opens X e with
  | .preKeyBundle, some plaintext =>
    if isCallSignal X plaintext then none
    else (c.processMediaChunk X M e.senderId plaintext).2
  | _, _ => none

/-- What `receive_messages` writes to the stickers directory for an envelope, at `stamp`
    seconds. -/
def stickers (stamp : ℕ) (c : Client Key) (e : Envelope) : Option (String × Bytes) :=
  match c.opens X e with
  | some plaintext =>
    if isCallSignal X plaintext || isFileChunk X plaintext then none
    else displaySticker X stamp plaintext
  | none => none

/-! ## One envelope -/

variable {X W M} {c : Client Key} {e : Envelope} {plaintext : Bytes}

/-- **An envelope that opens** ends in `finish`, with another session at most. -/
theorem receiveEnvelope_opens (h : c.opens X e = some plaintext) (io : ReceiveInput Key) (i : ℕ) :
    ∃ sessions, c.receiveEnvelope X io i e =
      finish X io i { c with sessions := sessions } e plaintext := by
  have hr := received (X := X) io i c e
  generalize c.receiveEnvelope X io i e = r at hr ⊢
  cases hr with
  | invalid htype hdec => simp [opens, htype, hdec] at h
  | hello htype hdec hok =>
    rw [opens_hello htype hdec, hok] at h
    cases h
    exact ⟨_, rfl⟩
  | note htype hself => simp [opens, htype, hself] at h
  | message htype hne hdec hs hok =>
    rw [opens_normal htype hne hdec hs, hok] at h
    cases h
    exact ⟨_, rfl⟩
  | rejected htype hne hdec hs herr =>
    rw [opens_normal htype hne hdec hs, herr] at h
    cases h
  | receipt htype => simp [opens, htype] at h
  | skipped hopens =>
    rw [hopens] at h
    cases h

theorem opens_preKeyBundle {prekey : PreKeyBundleMessage Key} (htype : e.msgType = .preKeyBundle)
    (hdec : X.serde.preKeyBundleMessage.decode e.content = some prekey)
    (hok : ((responderFor X c e prekey).decrypt X.prims prekey.sessionMessage).1 =
      .ok plaintext) : c.opens X e = some plaintext := by
  rw [opens_hello htype hdec, hok]
  rfl

omit [DecidableEq Key] in
/-- A plaintext that is neither a call signal nor a file chunk is put into the chat log. -/
theorem finish_recorded (hsignal : isCallSignal X plaintext = false)
    (hfile : isFileChunk X plaintext = false) (io : ReceiveInput Key) (i : ℕ) (c : Client Key)
    (e : Envelope) : ∃ posted, c.finish X io i e plaintext =
      (.ok (), c.logIncoming (io.recordedAt i) e.senderId (entryOf X plaintext), posted) := by
  unfold finish
  rcases afterDecrypt_cases X io i c e.senderId plaintext with
    ⟨hs, -⟩ | ⟨-, hf, -⟩ | ⟨-, -, hrun⟩
  · rw [hsignal] at hs
    cases hs
  · rw [hfile] at hf
    cases hf
  · rw [hrun]
    exact ⟨_, rfl⟩

/-! ## A media chunk on arrival -/

omit [DecidableEq Key] in
theorem mediaMembers_flat (W : Writers Key) (M : MediaCrates) (callId : String) (total seq : ℕ)
    (ciphertext : Bytes) : Json.Flat (mediaMembers W M callId total seq ciphertext) := by
  refine ⟨?_, fun m hm => ?_⟩
  · exact (by decide : ["__tintin_type", "call_id", "channels", "data", "nonce", "sample_rate",
      "seq", "total"].Nodup)
  · simp only [mediaMembers, List.mem_cons, List.not_mem_nil, or_false] at hm
    rcases hm with rfl | rfl | rfl | rfl | rfl | rfl | rfl | rfl <;> rfl

omit [DecidableEq Key] in
theorem payloadType_mediaText (hW : W.ReadBy X) (callId : String) (total seq : ℕ)
    (ciphertext : Bytes) :
    payloadType X (utf8 (mediaText W M callId total seq ciphertext)) = some "media_chunk" := by
  obtain ⟨v, hv, hget⟩ := hW.json _ (mediaMembers_flat W M callId total seq ciphertext)
  unfold payloadType mediaText
  rw [hv, Option.bind_some, Json.get_tintinType hget]
  rfl

/-- A chunk goes into the chat log whatever kind of envelope brings it. -/
theorem chunk_logged (hW : W.ReadBy X) {callId : String} {total seq : ℕ} {ciphertext : Bytes}
    (h : c.opens X e = some (utf8 (mediaText W M callId total seq ciphertext)))
    (io : ReceiveInput Key) (i : ℕ) : ∃ entry, (c.receiveEnvelope X io i e).2.1.chatLog =
      c.chatLog ++ [entry] := by
  have htype := payloadType_mediaText (M := M) hW callId total seq ciphertext
  obtain ⟨sessions, hrun⟩ := receiveEnvelope_opens h io i
  obtain ⟨posted, hlog⟩ := finish_recorded (X := X) (by rw [isCallSignal, htype]; rfl)
    (by rw [isFileChunk, htype]; rfl) io i { c with sessions := sessions } e
  rw [hrun, hlog]
  exact ⟨_, rfl⟩

omit [DecidableEq Key] in
theorem nonceOf_seqNonce (n : Nonce) : nonceOf n.toList = n := by
  apply Vector.ext
  intro i hi
  unfold nonceOf
  rw [Vector.getElem_ofFn]
  simp [hi]

/-- A nonce opens no ciphertext that was made with another one, and a ciphertext is never empty,
    nor is the text of one or of a nonce. -/
structure MediaLawful (X : Crates Key) (W : Writers Key) (M : MediaCrates) : Prop where
  nonce_eq : ∀ {k n n' p ct}, X.prims.aeadEncrypt k n p = some ct →
    (X.prims.aeadDecrypt k n' ct).isSome → n' = n
  base64_ne : ∀ {k n p ct}, X.prims.aeadEncrypt k n p = some ct → W.base64Encode ct ≠ ""
  hex : ∀ bs, M.hexDecode (M.hexEncode bs) = some bs
  hex_ne : ∀ n : Nonce, M.hexEncode n.toList ≠ ""

omit [DecidableEq Key] in
/-- `process_media_chunk` opens a chunk with the nonce that is named. -/
theorem processMediaChunk_mediaText (hW : W.ReadBy X) (hM : MediaLawful X W M)
    {callId sender : String} {total seq : ℕ} {call : ActiveCall Key} {secret : Key}
    (hcall : c.activeCall = some call) (hpeer : call.peer = sender)
    (hsecret : call.sharedMediaSecret = some secret) {nonce : Nonce} {piece ciphertext : Bytes}
    (henc : X.prims.aeadEncrypt (mediaKey X.prims secret) nonce piece = some ciphertext) :
    (c.processMediaChunk X M sender (utf8 (mediaText W M callId total seq ciphertext))).2 =
      (X.prims.aeadDecrypt (mediaKey X.prims secret) (seqNonce seq) ciphertext).map
        fun plaintext => (recordingName M sender (UInt64.ofNat seq), plaintext) := by
  obtain ⟨v, hv, hget⟩ := hW.json _ (mediaMembers_flat W M callId total seq ciphertext)
  have htype := Json.get_tintinType hget
  have hseq := Json.get_index hget "seq"
  have hdata := Json.get_index hget "data"
  have hnonce := Json.get_index hget "nonce"
  have hend := hget "end_of_stream"
  have hkey : (c.activeCall.filter (·.peer == sender)).bind (·.sharedMediaSecret) =
      some secret := by
    rw [hcall, Option.filter_some, if_pos (by simpa using hpeer), Option.bind_some, hsecret]
  unfold processMediaChunk mediaText
  rw [hv]
  dsimp only
  rw [show v.tintinType = some "media_chunk" from htype, hkey, hend, hseq, hdata, hnonce]
  change (if W.base64Encode ciphertext = "" ∨ M.hexEncode (seqNonce seq).toList = "" then
      (true, none)
    else
      match X.base64Decode (W.base64Encode ciphertext),
          M.hexDecode (M.hexEncode (seqNonce seq).toList) with
      | some ciphertext, some nonceBytes =>
        match decrypt X.prims ciphertext (mediaKey X.prims secret) (nonceOf nonceBytes) with
        | .ok piece => (true, some (recordingName M sender (UInt64.ofNat seq), piece))
        | .error _ => (true, none)
      | _, _ => (true, none)).2 = _
  rw [if_neg (not_or.mpr ⟨hM.base64_ne henc, hM.hex_ne _⟩), hW.base64, hM.hex]
  dsimp only
  rw [nonceOf_seqNonce]
  unfold decrypt
  cases X.prims.aeadDecrypt (mediaKey X.prims secret) (seqNonce seq) ciphertext <;> rfl

/-- **Storing a chunk.** A `PreKeyBundle` envelope with a chunk makes the client store what was
    recorded if the nonce drawn for the chunk is the one its payload names, and nothing
    otherwise. -/
theorem stored_iff (hP : X.prims.Lawful) (hW : W.ReadBy X) (hM : MediaLawful X W M)
    {callId : String} {total seq : ℕ} {call : ActiveCall Key} {secret : Key}
    (hcall : c.activeCall = some call) (hpeer : call.peer = e.senderId)
    (hsecret : call.sharedMediaSecret = some secret) {nonce : Nonce} {piece ciphertext : Bytes}
    (henc : X.prims.aeadEncrypt (mediaKey X.prims secret) nonce piece = some ciphertext)
    (htype : e.msgType = .preKeyBundle)
    (h : c.opens X e = some (utf8 (mediaText W M callId total seq ciphertext))) :
    c.recordings X M e = some (recordingName M e.senderId (UInt64.ofNat seq), piece) ↔
      nonce = seqNonce seq := by
  have hsignal : isCallSignal X (utf8 (mediaText W M callId total seq ciphertext)) = false := by
    rw [isCallSignal, payloadType_mediaText hW]
    rfl
  unfold recordings
  rw [htype, h]
  dsimp only
  rw [hsignal, if_neg Bool.false_ne_true, processMediaChunk_mediaText hW hM hcall hpeer hsecret
    henc]
  constructor
  · intro hstored
    obtain ⟨plaintext, hdec, -⟩ := Option.map_eq_some_iff.mp hstored
    exact (hM.nonce_eq henc (by rw [hdec]; rfl)).symm
  · rintro rfl
    obtain ⟨ct, hct, hdec⟩ := hP.decrypt_encrypt (mediaKey X.prims secret) (seqNonce seq) piece
    rw [henc] at hct
    cases hct
    rw [hdec]
    rfl

/-- No other kind of envelope makes the client store a chunk. -/
theorem not_stored (htype : e.msgType ≠ .preKeyBundle) : c.recordings X M e = none := by
  unfold recordings
  split
  · next heq _ => exact absurd heq htype
  · rfl

/-! ## What is sent -/

/-- A channel that takes every text. -/
def inOrderText (c : Client Key) (recipient text : String) :
    Except SendError Unit × Client Key × Option (String × String) :=
  (.ok (), c, some (recipient, text))

omit [DecidableEq Key] in
/-- What goes out at a place before the last is the text of the piece at this place. -/
theorem sendPieces_posted (hP : X.prims.Lawful) (call : ActiveCall Key) (key : Key) (total : ℕ)
    (nonces : ℕ → Nonce) (pieces : List Bytes) :
    ∀ (first : ℕ) (c : Client Key) (i : ℕ) (hi : i < pieces.length), ∃ ciphertext,
      X.prims.aeadEncrypt key (nonces (first + i)) (pieces.get ⟨i, hi⟩) = some ciphertext ∧
        (sendPieces X W M inOrderText call key total nonces first c pieces).2.2[i]? =
          some (call.peer, mediaText W M call.callId total (first + i) ciphertext) := by
  induction pieces with
  | nil => exact fun _ _ i hi => absurd hi (Nat.not_lt_zero i)
  | cons piece rest ih =>
    intro first c i hi
    obtain ⟨ct, hct, -⟩ := hP.decrypt_encrypt key (nonces first) piece
    unfold sendPieces
    rw [encrypt_eq_ok.mpr ⟨hct, rfl⟩]
    dsimp only [inOrderText, Option.toList_some]
    cases i with
    | zero => exact ⟨ct, hct, rfl⟩
    | succ i =>
      obtain ⟨ct', hct', hposted⟩ := ih (first + 1) c i (Nat.lt_of_succ_lt_succ hi)
      refine ⟨ct', ?_, ?_⟩
      · rw [show first + (i + 1) = first + 1 + i by omega]
        exact hct'
      · rw [show first + (i + 1) = first + 1 + i by omega, List.cons_append, List.nil_append,
          List.getElem?_cons_succ]
        exact hposted

/-- What the claim asks for a chunk: it is stored under its place, and not shown as a message. -/
def MediaDelivered (X : Crates Key) (M : MediaCrates) (io : ReceiveInput Key) (i : ℕ)
    (c : Client Key) (e : Envelope) (seq : ℕ) (piece : Bytes) : Prop :=
  c.recordings X M e = some (recordingName M e.senderId (UInt64.ofNat seq), piece) ∧
    (c.receiveEnvelope X io i e).2.1.chatLog = c.chatLog

omit [DecidableEq Key] in
theorem sendCallMedia_posted (hP : X.prims.Lawful) {sender : Client Key} {audio : Bytes}
    {nonces : ℕ → Nonce} {seq : ℕ} (hseq : seq < (mediaChunks audio).length)
    {recipient text : String}
    (hsent : (sender.sendCallMedia X W M inOrderText (some audio) nonces).2.2[seq]? =
      some (recipient, text)) :
    ∃ callId total ciphertext, text = mediaText W M callId total seq ciphertext := by
  unfold sendCallMedia at hsent
  split at hsent
  · cases hsent
  · next call hcall =>
    split at hsent
    · split at hsent
      · cases hsent
      · next secret hkey =>
        dsimp only at hsent
        split at hsent
        · cases hsent
        · obtain ⟨ct, -, hposted⟩ := sendPieces_posted (X := X) (W := W) (M := M) hP call
            (mediaKey X.prims secret) _ nonces (mediaChunks audio) 0 sender seq hseq
          rw [hposted, Nat.zero_add] at hsent
          cases hsent
          exact ⟨_, _, _, rfl⟩
    · cases hsent

/-- **No chunk is delivered.** Whatever was recorded and whatever nonces were drawn: an envelope
    that the receiver opens to the text that `send_call_media` sent for a piece leaves a
    message in the chat log. -/
theorem media_chunk_not_delivered (hP : X.prims.Lawful) (hW : W.ReadBy X) (sender : Client Key)
    (audio : Bytes) (nonces : ℕ → Nonce) (seq : ℕ) (hseq : seq < (mediaChunks audio).length)
    {recipient text : String}
    (hsent : (sender.sendCallMedia X W M inOrderText (some audio) nonces).2.2[seq]? =
      some (recipient, text))
    (c : Client Key) (e : Envelope) (h : c.opens X e = some (utf8 text)) (io : ReceiveInput Key)
    (i : ℕ) :
    ¬ MediaDelivered X M io i c e seq ((mediaChunks audio).get ⟨seq, hseq⟩) := by
  rintro ⟨-, hlog⟩
  obtain ⟨callId, total, ct, rfl⟩ := sendCallMedia_posted hP hseq hsent
  obtain ⟨entry, hentry⟩ := chunk_logged hW h io i
  rw [hentry] at hlog
  exact absurd hlog (by simp)

/-! ### A call between two fresh clients -/

/-- A client connected in the call `alice_1`. -/
def inCall (userId peer : String) (n : ℕ) (own their : Term) : Client Term :=
  { Client.new symbolic (.secret n) (.secret (n + 1)) userId with
    activeCall := some {
      peer := peer
      callId := "alice_1"
      mediaKeyPair := KeyPair.generate symbolic own
      peerMediaKey := some (.pub their)
      sharedMediaSecret := some (own.agree their)
      state := .connected } }

def aliceInCall : Client Term := inCall "alice" "bob" 0 (.secret 4) (.secret 6)

def bobInCall : Client Term := inCall "bob" "alice" 2 (.secret 6) (.secret 4)

def hexMedia : MediaCrates where
  hexEncode := Hex.codec.encode
  hexDecode := Hex.codec.decode
  isAlphanumeric := Char.isAlphanum

/-- The nonces drawn for the chunks. -/
def drawn (_ : ℕ) : Nonce := Vector.replicate 12 7

theorem length_short : 0 < (mediaChunks [1, 2, 3]).length := by
  unfold mediaChunks
  rw [length_chunks (by decide)]
  decide

/-- Alice streams a short recording, and Bob opens the envelope of its only chunk. -/
theorem short_recording_arrives : ∃ text alice' e,
    (aliceInCall.sendCallMedia textCrates textWriters hexMedia inOrderText (some [1, 2, 3])
      drawn).2.2[0]? = some ("bob", text) ∧
    aliceInCall.sendMessage textCrates (freshSendInput 8) (some bobInCall.register) .accepted
      "bob" text = (.ok (), alice', some e) ∧
    e.senderId = "alice" ∧ bobInCall.opens textCrates e = some (utf8 text) := by
  obtain ⟨ct, -, hposted⟩ := sendPieces_posted (X := textCrates) (W := textWriters)
    (M := hexMedia) symbolic_lawful _ (mediaKey symbolic ((Term.secret 4).agree (.secret 6))) 1
    drawn (mediaChunks [1, 2, 3]) 0 aliceInCall 0 length_short
  obtain ⟨alice', e, prekey, hsend, hsender, -, htype, hdec, -, hok⟩ :=
    first_message_opens (X := textCrates) symbolic_lawful (a := aliceInCall) (b := bobInCall)
      (by decide) rfl (SignedPreKey.generate_wellFormed ..) (freshSendInput 8)
      (mediaText textWriters hexMedia "alice_1" 1 0 ct)
  exact ⟨_, alice', e, hposted, hsend, hsender, opens_preKeyBundle htype hdec hok⟩

theorem media_chunk_not_delivered_short : ∃ e,
    ¬ MediaDelivered textCrates hexMedia freshReceiveInput 0 bobInCall e 0
      ((mediaChunks [1, 2, 3]).get ⟨0, length_short⟩) := by
  obtain ⟨text, alice', e, hsent, -, -, hopens⟩ := short_recording_arrives
  exact ⟨e, media_chunk_not_delivered symbolic_lawful textWriters_readBy aliceInCall [1, 2, 3]
    drawn 0 length_short hsent bobInCall e hopens freshReceiveInput 0⟩

/-- The two are connected in one call with one secret. The chunk arrives and opens, and Bob's
    chat log has a new record. -/
theorem media_chunk_shown :
    (∃ call call', aliceInCall.activeCall = some call ∧ bobInCall.activeCall = some call' ∧
      call.state = .connected ∧ call'.state = .connected ∧ call.peer = "bob" ∧
      call'.peer = "alice" ∧ call.sharedMediaSecret = call'.sharedMediaSecret) ∧
    ∃ text alice' e,
      (aliceInCall.sendCallMedia textCrates textWriters hexMedia inOrderText (some [1, 2, 3])
        drawn).2.2[0]? = some ("bob", text) ∧
      aliceInCall.sendMessage textCrates (freshSendInput 8) (some bobInCall.register) .accepted
        "bob" text = (.ok (), alice', some e) ∧
      bobInCall.opens textCrates e = some (utf8 text) ∧
      (∃ entry, (bobInCall.receiveEnvelope textCrates freshReceiveInput 0 e).2.1.chatLog =
        [entry]) ∧
      ¬ MediaDelivered textCrates hexMedia freshReceiveInput 0 bobInCall e 0
        ((mediaChunks [1, 2, 3]).get ⟨0, length_short⟩) := by
  refine ⟨⟨_, _, rfl, rfl, rfl, rfl, rfl, rfl, ?_⟩, ?_⟩
  · exact congrArg some (Term.agree_comm _ _)
  · obtain ⟨text, alice', e, hsent, hsend, -, hopens⟩ := short_recording_arrives
    obtain ⟨callId, total, ct, htext⟩ := sendCallMedia_posted symbolic_lawful length_short hsent
    subst htext
    obtain ⟨entry, hentry⟩ := chunk_logged textWriters_readBy hopens freshReceiveInput 0
    refine ⟨_, alice', e, hsent, hsend, hopens, ⟨entry, hentry⟩, ?_⟩
    rintro ⟨-, hlog⟩
    rw [hentry] at hlog
    cases hlog

end Client

end TinTin.Cli
