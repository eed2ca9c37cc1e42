/-
  Editing a sent message (`edit_message`).

  `sent_messages` and the chat log are kept side by side and nothing links an entry of the one to
  its record in the other. A file or a voice message has an entry and no record. `edit_message`
  marks the last outgoing record, whichever entry is edited, and finds the users from the
  entry's recipient: a leading '[' stands for a group, whose id is the last word. So does the
  entry of a channel message, whose last word is no group's id.

  A `History` remembers for each entry what the code does not: the place of its record in the
  log, and the users that the relay has queued the message for.

  * `effect_call`: what the calls of a client do to the two lists.
  * `kept`: in every history each entry has its origin, and the records stay at their places.
  * `edit_exact_iff`: when an edit changes the entry's own record and reaches its own users.
-/
import TinTin.Cli.FanOut
import TinTin.Cli.Receipts
import TinTin.Cli.Restart
import TinTin.Cli.SendFile
import TinTin.Lib.LastMatch

namespace TinTin.Cli

open TinTin.Lib TinTin.Core TinTin.Symbolic

variable {Key : Type}

/-! ## `edit_message` -/

/-- What a call draws and is told: the relay's answers to `group_members`, and by the pass of
    the loop and by the user how the posts go. -/
structure EditInput (Key : Type) where
  members : String → Option (List String)
  draw : ℕ → SendInput Key
  outcome : String → PostOutcome

inductive EditError
  /-- no message of that index -/
  | notFound
  /-- `group_members` -/
  | members
  | encryption (e : TinTinError)
  | io
  deriving DecidableEq, Repr

/-- `recipient.split(' ').last()` -/
def lastWord (s : String) : String :=
  String.ofList ((s.toList.reverse.takeWhile (· ≠ ' ')).reverse)

/-- `recipient.starts_with('[')` -/
def startsWithBracket (s : String) : Bool := s.toList.head? = some '['

/-- The payload of an edit. -/
def editPayload (W : Writers Key) (m : SentMessage) (newText : String) : String :=
  W.toString (.object [("__tintin_type", .string "edit"),
    ("original_timestamp", .number (.posInt m.timestamp)), ("new_text", .string newText)])

def MessageRecord.isOutgoing (r : MessageRecord) : Bool := r.direction = .outgoing

/-- The record, marked as edited. -/
def MessageRecord.mark (r : MessageRecord) : MessageRecord := { r with edited := true }

namespace Client

variable (X : Crates Key) (W : Writers Key)

/-- The envelope goes out; what the relay answers is not looked at. -/
def editPost (io : EditInput Key) (i : ℕ) (c : Client Key) (recipient : String)
    (content : Bytes) : Except EditError Unit × Client Key × List Envelope :=
  let envelope := Envelope.new (io.draw i).sentAt c.userId recipient content .normal
  (if io.outcome recipient = .writeFailed then .error .io else .ok (), c,
    if (io.outcome recipient).queued then [envelope] else [])

/-- "Send to the one recipient", where there is a session. -/
def editFor (io : EditInput Key) (payload : String) (i : ℕ) (c : Client Key)
    (recipient : String) : Except EditError Unit × Client Key × List Envelope :=
  match c.sessions.get recipient 1 with
  | none => (.ok (), c, [])
  | some session =>
    let c : Client Key := { c with sessions := c.sessions.update recipient 1 fun s =>
      (s.encrypt X.prims (io.draw i).nonce (utf8 payload)).2 }
    match (session.encrypt X.prims (io.draw i).nonce (utf8 payload)).1 with
    | .error e => (.error (.encryption e), c, [])
    | .ok encrypted => c.editPost io i recipient (X.serde.sessionMessage.encode encrypted)

/-- The loop over the members of a group. -/
def editLoop (io : EditInput Key) (payload : String) :
    ℕ → Client Key → List String → Except EditError Unit × Client Key × List Envelope
  | _, c, [] => (.ok (), c, [])
  | i, c, member :: rest =>
    if member = c.userId then editLoop io payload (i + 1) c rest
    else
      match c.editFor X io payload i member with
      | (.error e, c, queued) => (.error e, c, queued)
      | (.ok (), c, queued) =>
        let (result, c, more) := editLoop io payload (i + 1) c rest
        (result, c, queued ++ more)

/-- The posts of an edit. -/
def editSend (io : EditInput Key) (c : Client Key) (m : SentMessage) (newText : String) :
    Except EditError Unit × Client Key × List Envelope :=
  if m.recipient = c.userId then c.editPost io 0 m.recipient (utf8 newText)
  else if startsWithBracket m.recipient then
    match io.members (lastWord m.recipient) with
    | none => (.error .members, c, [])
    | some members => c.editLoop X io (editPayload W m newText) 0 members
  else c.editFor X io (editPayload W m newText) 0 m.recipient

/-- "Update local tracking": the entry, and the last outgoing record. -/
def trackEdit (c : Client Key) (index : ℕ) (newText : String) : Client Key :=
  { c with
    sentMessages := c.sentMessages.modify index fun m => { m with text := newText, edited := true }
    chatLog := modifyLast MessageRecord.isOutgoing MessageRecord.mark c.chatLog }

/-- `edit_message` -/
def editMessage (io : EditInput Key) (c : Client Key) (index : ℕ) (newText : String) :
    Except EditError Unit × Client Key × List Envelope :=
  match c.sentMessages[index]? with
  | none => (.error .notFound, c, [])
  | some m =>
    match c.editSend X W io m newText with
    | (.error e, c, queued) => (.error e, c, queued)
    | (.ok (), c, queued) => (.ok (), c.trackEdit index newText, queued)

/-! ## Whom an edit is sent to -/

/-- The envelope carries the edit of `m`: the payload under a session with its recipient, and the
    new text alone in a note to self. -/
structure CarriesEdit (c : Client Key) (m : SentMessage) (newText : String) (e : Envelope) :
    Prop where
  sender : e.senderId = c.userId
  msgType : e.msgType = .normal
  note : e.recipientId = c.userId → e.content = utf8 newText
  content : e.recipientId ≠ c.userId → ∃ (s : Session Key) (nonce : Nonce)
    (encrypted : SessionMessage Key), s.remoteUserId = e.recipientId ∧
    (s.encrypt X.prims nonce (utf8 (editPayload W m newText))).1 = .ok encrypted ∧
    e.content = X.serde.sessionMessage.encode encrypted

/-- What the posts of a successful edit leave, and whom they reach. -/
structure EditSent (c : Client Key) (m : SentMessage) (newText : String) (reached : String → Prop)
    (r : Except EditError Unit × Client Key × List Envelope) : Prop where
  userId : r.2.1.userId = c.userId
  sentMessages : r.2.1.sentMessages = c.sentMessages
  chatLog : r.2.1.chatLog = c.chatLog
  sessions : ∀ user, (r.2.1.sessions.get user 1).isSome = (c.sessions.get user 1).isSome
  carries : r.1 = .ok () → ∀ e ∈ r.2.2, c.CarriesEdit X W m newText e
  reached : r.1 = .ok () → ∀ user, (∃ e ∈ r.2.2, e.recipientId = user) ↔ reached user

variable {X W} {io : EditInput Key} {c : Client Key} {m : SentMessage} {newText : String}

theorem isSome_update (st : SessionStore Key) (u : String) (nonce : Nonce) (text : Bytes)
    (user : String) :
    ((st.update u 1 fun s => (s.encrypt X.prims nonce text).2).get user 1).isSome =
      (st.get user 1).isSome := by
  by_cases hu : u = user
  · subst hu
    rw [SessionStore.get_update_self _ _ _ _ (fun s => by simp), Option.isSome_map]
  · rw [SessionStore.get_update_of_ne _ (fun h => hu h.1) (fun s => by simp)]

theorem mem_editPost (i : ℕ) (recipient : String) (content : Bytes) (user : String) :
    (∃ e ∈ (c.editPost io i recipient content).2.2, e.recipientId = user) ↔
      user = recipient ∧ (io.outcome recipient).queued := by
  unfold editPost
  dsimp only
  split_ifs with hqueued
  · simp [Envelope.new, hqueued, eq_comm]
  · simp [hqueued]

/-- There is a session for the user, and the relay queues what is for it. -/
def EditReaches (io : EditInput Key) (c : Client Key) (user : String) : Prop :=
  (c.sessions.get user 1).isSome ∧ (io.outcome user).queued

theorem editFor_sent (i : ℕ) {recipient : String} (hother : recipient ≠ c.userId) :
    c.EditSent X W m newText (fun user => user = recipient ∧ EditReaches io c user)
      (c.editFor X io (editPayload W m newText) i recipient) := by
  unfold editFor
  cases hs : c.sessions.get recipient 1 with
  | none =>
    refine ⟨rfl, rfl, rfl, fun _ => rfl, (fun _ _ he => by cases he), fun _ user => ?_⟩
    refine iff_of_false (fun ⟨e, he, _⟩ => by cases he) ?_
    rintro ⟨rfl, hreach, -⟩
    rw [hs] at hreach
    cases hreach
  | some session =>
    dsimp only
    have hremote : session.remoteUserId = recipient :=
      (SessionStore.isFor_iff.mp (List.find?_some hs)).1
    have hsessions := isSome_update (X := X) c.sessions recipient (io.draw i).nonce
      (utf8 (editPayload W m newText))
    cases hm : (session.encrypt X.prims (io.draw i).nonce (utf8 (editPayload W m newText))).1 with
    | error e => exact ⟨rfl, rfl, rfl, hsessions, (fun h => by cases h), (fun h => by cases h)⟩
    | ok encrypted =>
      refine ⟨rfl, rfl, rfl, hsessions, fun _ e he => ?_, fun _ user => ?_⟩
      · unfold editPost at he
        dsimp only at he
        split at he
        · obtain rfl := List.mem_singleton.mp he
          exact ⟨rfl, rfl, fun h => absurd h hother,
            fun _ => ⟨session, _, encrypted, hremote, hm, rfl⟩⟩
        · cases he
      · rw [mem_editPost]
        constructor
        · rintro ⟨rfl, hqueued⟩
          exact ⟨rfl, by rw [hs]; rfl, hqueued⟩
        · rintro ⟨rfl, -, hqueued⟩
          exact ⟨rfl, hqueued⟩

/-- What carries an edit for a client carries it for one with the same user. -/
theorem CarriesEdit.congr {c' : Client Key} (hc : c'.userId = c.userId) {e : Envelope}
    (h : c'.CarriesEdit X W m newText e) : c.CarriesEdit X W m newText e := by
  refine ⟨h.sender.trans hc, h.msgType, fun he => h.note (he.trans hc.symm), fun he => ?_⟩
  exact h.content fun heq => he (heq.trans hc)

theorem editLoop_sent (i : ℕ) (members : List String) (c : Client Key) :
    c.EditSent X W m newText
      (fun user => user ∈ members ∧ user ≠ c.userId ∧ EditReaches io c user)
      (c.editLoop X io (editPayload W m newText) i members) := by
  induction members generalizing i c with
  | nil =>
    refine ⟨rfl, rfl, rfl, fun _ => rfl, (fun _ _ he => by cases he), fun _ user => ?_⟩
    refine iff_of_false (fun ⟨e, he, _⟩ => by cases he) ?_
    rintro ⟨hmem, -⟩
    cases hmem
  | cons member rest ih =>
    unfold editLoop
    by_cases hself : member = c.userId
    · rw [if_pos hself]
      have hrest := ih (i + 1) c
      refine ⟨hrest.userId, hrest.sentMessages, hrest.chatLog, hrest.sessions, hrest.carries,
        fun hok user => (hrest.reached hok user).trans ?_⟩
      rw [List.mem_cons]
      constructor
      · rintro ⟨hmem, hreach⟩
        exact ⟨.inr hmem, hreach⟩
      · rintro ⟨rfl | hmem, hother, hreach⟩
        · exact absurd hself hother
        · exact ⟨hmem, hother, hreach⟩
    · rw [if_neg hself]
      have hfirst : c.EditSent X W m newText (fun user => user = member ∧ EditReaches io c user)
          (c.editFor X io (editPayload W m newText) i member) := editFor_sent i hself
      generalize c.editFor X io (editPayload W m newText) i member = r at hfirst
      obtain ⟨result, c₁, queued⟩ := r
      cases result with
      | error e =>
        exact ⟨hfirst.userId, hfirst.sentMessages, hfirst.chatLog, hfirst.sessions,
          (fun h => by cases h), (fun h => by cases h)⟩
      | ok u =>
        have hrest := ih (i + 1) c₁
        have huser : c₁.userId = c.userId := hfirst.userId
        have hsame : ∀ user, EditReaches io c₁ user ↔ EditReaches io c user := by
          intro user
          unfold EditReaches
          rw [hfirst.sessions user]
        refine ⟨hrest.userId.trans huser, hrest.sentMessages.trans hfirst.sentMessages,
          hrest.chatLog.trans hfirst.chatLog,
          fun user => (hrest.sessions user).trans (hfirst.sessions user),
          fun hok e he => ?_, fun hok user => ?_⟩
        · rcases List.mem_append.mp he with he | he
          · exact hfirst.carries rfl e he
          · exact (hrest.carries hok e he).congr huser
        · have hhere := hfirst.reached rfl user
          have hthere := hrest.reached hok user
          dsimp only at hhere hthere ⊢
          rw [huser, hsame] at hthere
          constructor
          · rintro ⟨e, he, heq⟩
            rcases List.mem_append.mp he with he | he
            · obtain ⟨rfl, hreach⟩ := hhere.mp ⟨e, he, heq⟩
              exact ⟨List.mem_cons_self, hself, hreach⟩
            · obtain ⟨hmem, hreach⟩ := hthere.mp ⟨e, he, heq⟩
              exact ⟨List.mem_cons_of_mem _ hmem, hreach⟩
          · rintro ⟨hmem, hother, hreach⟩
            rcases List.mem_cons.mp hmem with hfirst' | hmem
            · obtain ⟨e, he, heq⟩ := hhere.mpr ⟨hfirst', hreach⟩
              exact ⟨e, List.mem_append_left _ he, heq⟩
            · obtain ⟨e, he, heq⟩ := hthere.mpr ⟨hmem, hother, hreach⟩
              exact ⟨e, List.mem_append_right _ he, heq⟩

/-- **Whom a successful edit of the entry reaches**: the client itself for a note; for a
    recipient that starts with a bracket the members of the group its last word names; else the
    recipient. A user without a session is left out. -/
def Reached (io : EditInput Key) (c : Client Key) (m : SentMessage) (user : String) : Prop :=
  if m.recipient = c.userId then user = c.userId ∧ (io.outcome user).queued
  else if startsWithBracket m.recipient then
    user ∈ (io.members (lastWord m.recipient)).getD [] ∧ user ≠ c.userId ∧ EditReaches io c user
  else user = m.recipient ∧ EditReaches io c user

theorem reached_note (hself : m.recipient = c.userId) (user : String) :
    Reached io c m user ↔ user = c.userId ∧ (io.outcome user).queued := by
  unfold Reached
  rw [if_pos hself]

/-- The last word of a tracked recipient is the id, if that has no spaces. A channel's id is
    tracked as `ch<id>`, and no group is called so. -/
theorem lastWord_tracked (name id : String) (hid : ' ' ∉ id.toList) :
    lastWord ("[" ++ name ++ "] " ++ id) = id := by
  unfold lastWord
  have hlist : ("[" ++ name ++ "] " ++ id).toList.reverse =
      id.toList.reverse ++ ' ' :: ("[" ++ name ++ "]").toList.reverse := by
    simp [String.toList_append]
  have hpass : ∀ a ∈ id.toList.reverse, decide (a ≠ ' ') = true := by
    intro a ha
    rw [decide_eq_true_iff]
    rintro rfl
    exact hid (List.mem_reverse.mp ha)
  rw [hlist, List.takeWhile_append_of_pos hpass, List.takeWhile_cons_of_neg (by simp),
    List.append_nil, List.reverse_reverse, String.ofList_toList]

theorem editSend_sent (io : EditInput Key) (c : Client Key) (m : SentMessage) (newText : String) :
    c.EditSent X W m newText (Reached io c m) (c.editSend X W io m newText) := by
  unfold editSend Reached
  by_cases hself : m.recipient = c.userId
  · rw [if_pos hself]
    simp only [if_pos hself]
    refine ⟨rfl, rfl, rfl, fun _ => rfl, fun _ e he => ?_, fun _ user => ?_⟩
    · unfold editPost at he
      dsimp only at he
      split at he
      · obtain rfl := List.mem_singleton.mp he
        exact ⟨rfl, rfl, fun _ => rfl, fun h => absurd hself h⟩
      · cases he
    · rw [mem_editPost, hself]
      constructor
      · rintro ⟨rfl, hqueued⟩
        exact ⟨rfl, hqueued⟩
      · rintro ⟨rfl, hqueued⟩
        exact ⟨rfl, hqueued⟩
  · rw [if_neg hself]
    simp only [if_neg hself]
    by_cases hgroup : startsWithBracket m.recipient = true
    · rw [if_pos hgroup]
      simp only [if_pos hgroup]
      cases io.members (lastWord m.recipient) with
      | none =>
        exact ⟨rfl, rfl, rfl, fun _ => rfl, (fun h => by cases h), (fun h => by cases h)⟩
      | some members => exact editLoop_sent 0 members c
    · rw [if_neg hgroup]
      simp only [if_neg hgroup]
      exact editFor_sent 0 hself

/-- **What a successful edit does.** -/
theorem editMessage_spec {index : ℕ}
    (hok : (c.editMessage X W io index newText).1 = .ok ()) :
    ∃ m, c.sentMessages[index]? = some m ∧
      (c.editMessage X W io index newText).2.1.sentMessages =
        c.sentMessages.modify index (fun m => { m with text := newText, edited := true }) ∧
      (c.editMessage X W io index newText).2.1.chatLog =
        modifyAt MessageRecord.mark c.chatLog (lastMatch MessageRecord.isOutgoing c.chatLog) ∧
      (∀ e ∈ (c.editMessage X W io index newText).2.2, c.CarriesEdit X W m newText e) ∧
      ∀ user, (∃ e ∈ (c.editMessage X W io index newText).2.2, e.recipientId = user) ↔
        Reached io c m user := by
  unfold editMessage at hok ⊢
  cases hm : c.sentMessages[index]? with
  | none =>
    rw [hm] at hok
    cases hok
  | some m =>
    rw [hm] at hok
    dsimp only at hok ⊢
    have hsent := editSend_sent (X := X) (W := W) io c m newText
    generalize c.editSend X W io m newText = r at hok hsent ⊢
    obtain ⟨result, c', queued⟩ := r
    cases result with
    | error e => cases hok
    | ok u =>
      have hentries : c'.sentMessages = c.sentMessages := hsent.sentMessages
      have hlog : c'.chatLog = c.chatLog := hsent.chatLog
      refine ⟨m, rfl, ?_, ?_, hsent.carries rfl, hsent.reached rfl⟩
      · show c'.sentMessages.modify _ _ = _
        rw [hentries]
      · show modifyLast _ _ c'.chatLog = _
        rw [hlog, modifyLast_eq]

/-! ## What the calls do to the two lists -/

theorem sendEncrypted_frame (d : SendInput Key) (bundle : Option (PreKeyBundle Key))
    (c : Client Key) (recipient payload : String) :
    (c.sendEncrypted X d bundle recipient payload).2 =
      { c with sessions := (c.sendEncrypted X d bundle recipient payload).2.sessions } := by
  unfold sendEncrypted getOrCreateSession
  cases c.sessions.get recipient 1 with
  | some s =>
    dsimp only
    cases (s.encrypt X.prims d.nonce (utf8 payload)).1 <;> rfl
  | none =>
    cases bundle with
    | none => rfl
    | some b =>
      dsimp only
      split <;> rfl

theorem fanOut_frame (io : FanInput Key) (payload : String) (i : ℕ) (members : List String)
    (c : Client Key) : (c.fanOut X io payload i members).2.1 =
      { c with sessions := (c.fanOut X io payload i members).2.1.sessions } := by
  induction members generalizing i c with
  | nil => rfl
  | cons member rest ih =>
    unfold fanOut
    have hframe := sendEncrypted_frame (X := X) (io.draw i) (io.bundle member) c member payload
    generalize c.sendEncrypted X (io.draw i) (io.bundle member) member payload = r at hframe
    obtain ⟨result, c'⟩ := r
    cases result with
    | error e => exact hframe
    | ok sent =>
      dsimp only at hframe ⊢
      have hrest := ih (i + 1) c'
      cases io.outcome member with
      | writeFailed | noAnswer => exact hframe
      | accepted | refused =>
        dsimp only
        rw [hrest, hframe]

theorem sendChunks_frame (io : FileInput Key) (recipient : String) (i : ℕ) (texts : List String)
    (c : Client Key) : (c.sendChunks X io recipient i texts).2.1 =
      { c with sessions := (c.sendChunks X io recipient i texts).2.1.sessions } := by
  induction texts generalizing i c with
  | nil => rfl
  | cons text rest ih =>
    unfold sendChunks
    have hframe := sendEncrypted_frame (X := X) (io.draw i) io.bundle c recipient text
    generalize c.sendEncrypted X (io.draw i) io.bundle recipient text = r at hframe
    obtain ⟨result, c'⟩ := r
    cases result with
    | error e => exact hframe
    | ok sent =>
      dsimp only at hframe ⊢
      have hrest := ih (i + 1) c'
      cases io.outcome i with
      | writeFailed | noAnswer => exact hframe
      | accepted | refused =>
        dsimp only
        rw [hrest, hframe]

/-- What a call does to the two lists: no new entry and no outgoing record; an entry alone; or an
    entry with its record. -/
inductive Effect (c c' : Client Key) : Prop
  | quiet (hlength : c'.sentMessages.length = c.sentMessages.length)
    (hplaces : places MessageRecord.isOutgoing c'.chatLog =
      places MessageRecord.isOutgoing c.chatLog)
  | entry (m : SentMessage) (hsent : c'.sentMessages = c.sentMessages ++ [m])
    (hlog : c'.chatLog = c.chatLog)
  | recorded (m : SentMessage) (r : MessageRecord) (hsent : c'.sentMessages = c.sentMessages ++ [m])
    (hlog : c'.chatLog = c.chatLog ++ [r]) (hout : r.isOutgoing = true)

variable {c' : Client Key}

theorem effect_same (hsent : c'.sentMessages = c.sentMessages) (hlog : c'.chatLog = c.chatLog) :
    Effect c c' :=
  .quiet (by rw [hsent]) (by rw [hlog])

theorem effect_post (d : SendInput Key) (outcome : PostOutcome) (recipient text : String)
    (content : Bytes) (msgType : MessageType) :
    Effect c (c.post d outcome recipient text content msgType).2.1 := by
  unfold post
  cases sendResult outcome with
  | error e => exact effect_same rfl rfl
  | ok u => exact .recorded _ _ rfl rfl rfl

theorem Effect.of_same {c₁ : Client Key} (hsent : c₁.sentMessages = c.sentMessages)
    (hlog : c₁.chatLog = c.chatLog) (h : Effect c₁ c') : Effect c c' := by
  cases h with
  | quiet hlength hplaces =>
    rw [hsent] at hlength
    rw [hlog] at hplaces
    exact .quiet hlength hplaces
  | entry m hsent' hlog' => exact .entry m (by rw [hsent', hsent]) (by rw [hlog', hlog])
  | recorded m r hsent' hlog' hout =>
    exact .recorded m r (by rw [hsent', hsent]) (by rw [hlog', hlog]) hout

theorem effect_sendMessage (d : SendInput Key) (bundle : Option (PreKeyBundle Key))
    (outcome : PostOutcome) (recipient text : String) :
    Effect c (c.sendMessage X d bundle outcome recipient text).2.1 := by
  unfold sendMessage
  split
  · exact effect_post ..
  · have hframe := sendEncrypted_frame (X := X) d bundle c recipient text
    generalize c.sendEncrypted X d bundle recipient text = r at hframe
    obtain ⟨result, c₁⟩ := r
    have hsent : c₁.sentMessages = c.sentMessages := by rw [show c₁ = _ from hframe]
    have hlog : c₁.chatLog = c.chatLog := by rw [show c₁ = _ from hframe]
    cases result with
    | error e => exact effect_same hsent hlog
    | ok sent => exact (effect_post ..).of_same hsent hlog

theorem effect_postTo (io : FanInput Key) (post : RoomPost) (others : List String)
    (text : String) : Effect c (c.postTo X io post others text).2.1 := by
  unfold postTo
  have hframe := fanOut_frame (X := X) io post.payload 0 others c
  generalize c.fanOut X io post.payload 0 others = r at hframe
  obtain ⟨result, c₁, queued⟩ := r
  have hsent : c₁.sentMessages = c.sentMessages := by rw [show c₁ = _ from hframe]
  have hlog : c₁.chatLog = c.chatLog := by rw [show c₁ = _ from hframe]
  cases result with
  | error e => exact effect_same hsent hlog
  | ok u => exact (Effect.recorded _ _ rfl rfl rfl).of_same hsent hlog

/-- Nothing but incoming records is added. -/
def Hears (c c' : Client Key) : Prop :=
  ∃ more : List MessageRecord, c'.chatLog = c.chatLog ++ more ∧ ∀ r ∈ more, r.isOutgoing = false

theorem hears_same (hlog : c'.chatLog = c.chatLog) : Hears c c' :=
  ⟨[], by rw [hlog, List.append_nil], fun r hr => by cases hr⟩

theorem hears_logIncoming (hlog : c'.chatLog = c.chatLog) (now : UInt64) (peer : String)
    (entry : Entry) : Hears c (c'.logIncoming now peer entry) := by
  have happend : (c'.logIncoming now peer entry).chatLog = c'.chatLog ++ [_] := rfl
  rw [hlog] at happend
  refine ⟨_, happend, fun r hr => ?_⟩
  rw [List.mem_singleton.mp hr]
  rfl

theorem hears_finish (hlog : c'.chatLog = c.chatLog) (io : ReceiveInput Key) (i : ℕ)
    (e : Envelope) (plaintext : Bytes) : Hears c (c'.finish X io i e plaintext).2.1 := by
  unfold finish
  rcases afterDecrypt_cases X io i c' e.senderId plaintext with
    ⟨-, call, hrun⟩ | ⟨-, -, hrun | ⟨files, downloads, hrun⟩⟩ | ⟨-, -, hrun⟩
  · rw [hrun]
    exact hears_same hlog
  · rw [hrun]
    exact hears_same hlog
  · rw [hrun]
    exact hears_same hlog
  · rw [hrun]
    exact hears_logIncoming hlog ..

theorem effect_receive [DecidableEq Key] (io : ReceiveInput Key) (i : ℕ) (e : Envelope) :
    Effect c (c.receiveEnvelope X io i e).2.1 := by
  have hlength : (c.receiveEnvelope X io i e).2.1.sentMessages.length = c.sentMessages.length := by
    rw [(received_sent io i c e).2]
    cases receiptOf X e with
    | none => rfl
    | some receipt =>
      dsimp only [updateStatus]
      rw [List.length_modify]
  have hhears : Hears c (c.receiveEnvelope X io i e).2.1 := by
    have hr := received (X := X) io i c e
    generalize c.receiveEnvelope X io i e = r at hr ⊢
    cases hr with
    | hello | message =>
      refine hears_finish ?_ io i e _
      rfl
    | note => exact hears_logIncoming rfl ..
    | invalid | rejected | receipt | skipped => exact hears_same rfl
  obtain ⟨more, hlog, hmore⟩ := hhears
  exact .quiet hlength (by rw [hlog, places_append_of_neg hmore])

theorem effect_trackEdit (index : ℕ) (newText : String) :
    Effect c (c.trackEdit index newText) := by
  unfold trackEdit
  refine .quiet ?_ ?_
  · rw [List.length_modify]
  · dsimp only
    have hmark : ∀ r, MessageRecord.isOutgoing (MessageRecord.mark r) = r.isOutgoing := fun _ => rfl
    rw [modifyLast_eq, places_modifyAt hmark]

theorem effect_edit (io : EditInput Key) (index : ℕ) (newText : String) :
    Effect c (c.editMessage X W io index newText).2.1 := by
  unfold editMessage
  cases c.sentMessages[index]? with
  | none => exact effect_same rfl rfl
  | some m =>
    dsimp only
    have hsent := editSend_sent (X := X) (W := W) io c m newText
    generalize c.editSend X W io m newText = r at hsent
    obtain ⟨result, c₁, queued⟩ := r
    cases result with
    | error e => exact effect_same hsent.sentMessages hsent.chatLog
    | ok u => exact (effect_trackEdit index newText).of_same hsent.sentMessages hsent.chatLog

theorem effect_file (io : FileInput Key) (recipient filePath : String) (voice isHd : Bool) :
    Effect c (c.sendFileInner X W io recipient filePath voice isHd).2.1 := by
  unfold sendFileInner
  cases uploadOf W io filePath voice isHd with
  | error e => exact effect_same rfl rfl
  | ok u =>
    dsimp only
    have hframe := sendChunks_frame (X := X) io recipient 0 (u.texts W) c
    generalize c.sendChunks X io recipient 0 (u.texts W) = r at hframe
    obtain ⟨result, c₁, queued⟩ := r
    have hsent : c₁.sentMessages = c.sentMessages := by rw [show c₁ = _ from hframe]
    have hlog : c₁.chatLog = c.chatLog := by rw [show c₁ = _ from hframe]
    cases result with
    | error e => exact effect_same hsent hlog
    | ok u' =>
      have hentry : Effect c₁ { c₁ with sentMessages := c₁.sentMessages ++
          [⟨recipient, u.label, io.trackedAt, .sent, false⟩] } := .entry _ rfl rfl
      exact hentry.of_same hsent hlog

end Client

/-! ## Histories -/

/-- What the code does not keep of an entry of `sent_messages`. -/
structure Origin where
  /-- the place of its record in the chat log -/
  record : Option ℕ
  /-- the users that the relay has queued the message for -/
  audience : List String

/-- A client, with the origins of its entries in order. -/
structure History (Key : Type) where
  client : Client Key
  origins : List Origin

/-- One call of a client: what it leaves, and the envelopes that the relay has queued. -/
inductive Called [DecidableEq Key] (X : Crates Key) (W : Writers Key) (c : Client Key) :
    Client Key × List Envelope → Prop
  | message (d : SendInput Key) (bundle : Option (PreKeyBundle Key)) (outcome : PostOutcome)
    (recipient text : String) : Called X W c
      ((c.sendMessage X d bundle outcome recipient text).2.1,
        (c.sendMessage X d bundle outcome recipient text).2.2.toList)
  | groupMessage (io : FanInput Key) (name : Option String) (members : Option (List String))
    (groupId text : String) : Called X W c (c.sendGroupMessage X W io name members groupId text).2
  | channelMessage (io : FanInput Key) (name : Option String) (members : Option (List String))
    (channelId : Int64) (text : String) :
    Called X W c (c.sendChannelMessage X W io name members channelId text).2
  | file (io : FileInput Key) (recipient filePath : String) (voice isHd : Bool) :
    Called X W c (c.sendFileInner X W io recipient filePath voice isHd).2
  | receive (io : ReceiveInput Key) (i : ℕ) (e : Envelope) :
    Called X W c (c.receiveEnvelope X io i e).2
  | edit (io : EditInput Key) (index : ℕ) (newText : String) :
    Called X W c (c.editMessage X W io index newText).2
  | restart (identitySecret preKeySecret : Key) :
    Called X W c (.load X.prims identitySecret preKeySecret c.userId c.saveAll, [])
  /-- any other call that leaves the two lists alone -/
  | other {c' : Client Key} (hsent : c'.sentMessages = c.sentMessages)
    (hlog : c'.chatLog = c.chatLog) (queued : List Envelope) : Called X W c (c', queued)

theorem effect_call [DecidableEq Key] {X : Crates Key} {W : Writers Key} {c : Client Key}
    {r : Client Key × List Envelope} (h : Called X W c r) : Client.Effect c r.1 := by
  cases h with
  | message d bundle outcome recipient text => exact Client.effect_sendMessage ..
  | groupMessage io name members groupId text =>
    unfold Client.sendGroupMessage
    cases members with
    | none => exact Client.effect_same rfl rfl
    | some members =>
      dsimp only
      split
      · exact Client.effect_sendMessage ..
      · exact Client.effect_postTo ..
  | channelMessage io name members channelId text =>
    unfold Client.sendChannelMessage
    cases members with
    | none => exact Client.effect_same rfl rfl
    | some members =>
      dsimp only
      split
      · exact Client.effect_same rfl rfl
      · exact Client.effect_postTo ..
  | file io recipient filePath voice isHd => exact Client.effect_file ..
  | receive io i e => exact Client.effect_receive ..
  | edit io index newText => exact Client.effect_edit ..
  | restart identitySecret preKeySecret => exact Client.effect_same rfl rfl
  | other hsent hlog => exact Client.effect_same hsent hlog

namespace History

/-- The history after a call. An entry that the call has made belongs to the record it has made,
    if any, and to the users that the relay has queued its envelopes for. -/
def after (h : History Key) (r : Client Key × List Envelope) : History Key where
  client := r.1
  origins :=
    if h.client.sentMessages.length < r.1.sentMessages.length then
      h.origins ++ [
        { record :=
            if h.client.chatLog.length < r.1.chatLog.length then some h.client.chatLog.length
            else none
          audience := r.2.map (·.recipientId) }]
    else h.origins

/-- The histories of a client. -/
inductive Run [DecidableEq Key] (X : Crates Key) (W : Writers Key) : History Key → Prop
  | new (identitySecret preKeySecret : Key) (userId : String) :
    Run X W ⟨.new X.prims identitySecret preKeySecret userId, []⟩
  | call {h : History Key} (hrun : Run X W h) {r : Client Key × List Envelope}
    (hr : Called X W h.client r) : Run X W (h.after r)

/-- Each entry has its origin, and the outgoing records are those of the entries, in order. -/
structure Kept (h : History Key) : Prop where
  length : h.origins.length = h.client.sentMessages.length
  records : places MessageRecord.isOutgoing h.client.chatLog = h.origins.filterMap Origin.record

theorem Kept.after {h : History Key} (hk : h.Kept) {r : Client Key × List Envelope}
    (he : Client.Effect h.client r.1) : (h.after r).Kept := by
  cases he with
  | quiet hlength hplaces =>
    have horigins : (h.after r).origins = h.origins := by
      unfold History.after
      rw [if_neg (by omega)]
    constructor
    · rw [horigins, hk.length]
      exact hlength.symm
    · rw [horigins, ← hk.records]
      exact hplaces
  | entry m hsent hlog =>
    have horigins : (h.after r).origins = h.origins ++ [⟨none, r.2.map (·.recipientId)⟩] := by
      unfold History.after
      dsimp only
      rw [hsent, hlog, List.length_append, List.length_singleton, if_pos (by omega),
        if_neg (by omega)]
    constructor
    · rw [horigins, List.length_append, hk.length]
      show _ = r.1.sentMessages.length
      rw [hsent, List.length_append]
      rfl
    · rw [horigins, List.filterMap_append, ← hk.records]
      show places _ r.1.chatLog = places _ h.client.chatLog ++ []
      rw [hlog, List.append_nil]
  | recorded m entry hsent hlog hout =>
    have horigins : (h.after r).origins =
        h.origins ++ [⟨some h.client.chatLog.length, r.2.map (·.recipientId)⟩] := by
      unfold History.after
      dsimp only
      rw [hsent, hlog, List.length_append, List.length_append, List.length_singleton,
        List.length_singleton, if_pos (by omega), if_pos (by omega)]
    constructor
    · rw [horigins, List.length_append, hk.length]
      show _ = r.1.sentMessages.length
      rw [hsent, List.length_append]
      rfl
    · rw [horigins, List.filterMap_append, ← hk.records]
      show places _ r.1.chatLog = places _ h.client.chatLog ++ [h.client.chatLog.length]
      rw [hlog, places_snoc_of_pos hout]

/-- **What every history keeps.** -/
theorem kept [DecidableEq Key] {X : Crates Key} {W : Writers Key} {h : History Key}
    (hrun : Run X W h) : h.Kept := by
  induction hrun with
  | new => exact ⟨rfl, rfl⟩
  | call _ hr ih => exact ih.after (effect_call hr)

end History

/-! ## Exact edits -/

/-- **The edit hits the entry and nothing else**: the entry has the new text and is marked, its own
    record is marked, and exactly the users of the message are sent the edit. -/
structure HitsExactly (X : Crates Key) (W : Writers Key) (c : Client Key) (index : ℕ)
    (m : SentMessage) (o : Origin) (newText : String) (c' : Client Key) (queued : List Envelope) :
    Prop where
  entry : c'.sentMessages =
    c.sentMessages.set index { m with text := newText, edited := true }
  record : c'.chatLog = modifyAt MessageRecord.mark c.chatLog o.record
  audience : ∀ user, (∃ e ∈ queued, e.recipientId = user ∧ c.CarriesEdit X W m newText e) ↔
    user ∈ o.audience

/-- The record at the place, if there is one, is marked already. -/
def AlreadyEdited (c : Client Key) (place : Option ℕ) : Prop :=
  ∀ j ∈ place, ∀ r ∈ c.chatLog[j]?, r.edited = true

theorem fixedAt_mark_iff (c : Client Key) (place : Option ℕ) :
    FixedAt MessageRecord.mark c.chatLog place ↔ AlreadyEdited c place := by
  have hmark : ∀ r : MessageRecord, r.mark = r ↔ r.edited = true := by
    intro r
    constructor
    · intro h
      rw [← h]
      rfl
    · intro h
      unfold MessageRecord.mark
      rw [← h]
  exact ⟨fun h j hj r hr => (hmark r).mp (h j hj r hr),
    fun h j hj r hr => (hmark r).mpr (h j hj r hr)⟩

/-- **An edit is exact** where no later entry has a record, and the entry's recipient leads back
    to the users of the message. -/
theorem edit_exact_iff [DecidableEq Key] {X : Crates Key} {W : Writers Key} {h : History Key}
    (hrun : History.Run X W h) (io : EditInput Key) (index : ℕ) (newText : String)
    (hok : (h.client.editMessage X W io index newText).1 = .ok ()) :
    ∃ m o, h.client.sentMessages[index]? = some m ∧ h.origins[index]? = some o ∧
      (HitsExactly X W h.client index m o newText
          (h.client.editMessage X W io index newText).2.1
          (h.client.editMessage X W io index newText).2.2 ↔
        (o.record = (h.origins.filterMap Origin.record).getLast? ∨
          AlreadyEdited h.client o.record ∧
            AlreadyEdited h.client (h.origins.filterMap Origin.record).getLast?) ∧
        ∀ user, h.client.Reached io m user ↔ user ∈ o.audience) := by
  have hkept := History.kept hrun
  obtain ⟨m, hm, hentries, hlog, hcarries, hreached⟩ := Client.editMessage_spec hok
  have hindex : index < h.origins.length := by
    rw [hkept.length]
    exact (List.getElem?_eq_some_iff.mp hm).1
  refine ⟨m, h.origins[index], hm, List.getElem?_eq_getElem hindex, ?_⟩
  have hlast : lastMatch MessageRecord.isOutgoing h.client.chatLog =
      (h.origins.filterMap Origin.record).getLast? := by
    unfold lastMatch
    rw [hkept.records]
  have hentry : (h.client.editMessage X W io index newText).2.1.sentMessages =
      h.client.sentMessages.set index { m with text := newText, edited := true } := by
    obtain ⟨hlt, hget⟩ := List.getElem?_eq_some_iff.mp hm
    rw [hentries]
    apply List.ext_getElem?
    intro j
    rw [List.getElem?_modify, List.getElem?_set]
    by_cases hj : index = j
    · subst hj
      rw [hm]
      simp [hlt]
    · simp [hj]
  have haudience : ∀ user, (∃ e ∈ (h.client.editMessage X W io index newText).2.2,
      e.recipientId = user ∧ h.client.CarriesEdit X W m newText e) ↔
        h.client.Reached io m user := by
    intro user
    rw [← hreached user]
    constructor
    · rintro ⟨e, he, huser, -⟩
      exact ⟨e, he, huser⟩
    · rintro ⟨e, he, huser⟩
      exact ⟨e, he, huser, hcarries e he⟩
  have hrecord : (h.client.editMessage X W io index newText).2.1.chatLog =
      modifyAt MessageRecord.mark h.client.chatLog h.origins[index].record ↔
        (h.origins[index].record = (h.origins.filterMap Origin.record).getLast? ∨
          AlreadyEdited h.client h.origins[index].record ∧
            AlreadyEdited h.client (h.origins.filterMap Origin.record).getLast?) := by
    rw [hlog, hlast, eq_comm, modifyAt_eq_iff, fixedAt_mark_iff, fixedAt_mark_iff]
  constructor
  · intro hhits
    exact ⟨hrecord.mp hhits.record,
      fun user => (haudience user).symm.trans (hhits.audience user)⟩
  · rintro ⟨hplace, husers⟩
    exact ⟨hentry, hrecord.mpr hplace, fun user => (haudience user).trans (husers user)⟩

/-! ## Two notes to self -/

/-- Alice's note to self. -/
def aliceNotes (h : History Term) (n : ℕ) (text : String) : History Term :=
  h.after ((h.client.sendMessage textCrates (freshSendInput n) none .accepted "alice" text).2.1,
    (h.client.sendMessage textCrates (freshSendInput n) none .accepted "alice" text).2.2.toList)

def twoNotes : History Term :=
  aliceNotes (aliceNotes ⟨.new symbolic (.secret 0) (.secret 1) "alice", []⟩ 2 "one") 3 "two"

theorem twoNotes_run : History.Run textCrates textWriters twoNotes :=
  ((History.Run.new _ _ "alice").call (.message _ none .accepted "alice" "one")).call
    (.message _ none .accepted "alice" "two")

def plainEdit : EditInput Term where
  members _ := none
  draw := freshSendInput
  outcome _ := .accepted

theorem edit_exact_second : ∃ m o, twoNotes.client.sentMessages[1]? = some m ∧
    twoNotes.origins[1]? = some o ∧
      HitsExactly textCrates textWriters twoNotes.client 1 m o "second"
        (twoNotes.client.editMessage textCrates textWriters plainEdit 1 "second").2.1
        (twoNotes.client.editMessage textCrates textWriters plainEdit 1 "second").2.2 := by
  obtain ⟨m, o, hm, ho, hiff⟩ := edit_exact_iff twoNotes_run plainEdit 1 "second" rfl
  refine ⟨m, o, hm, ho, hiff.mpr ?_⟩
  obtain rfl := Option.some.inj hm
  obtain rfl := Option.some.inj ho
  refine ⟨.inl rfl, fun user => ?_⟩
  rw [Client.reached_note rfl]
  show user = "alice" ∧ _ ↔ user ∈ ["alice"]
  rw [List.mem_singleton]
  exact ⟨fun h => h.1, fun h => ⟨h, rfl⟩⟩

/-- The first of two notes is edited, and the record of the second is marked. -/
theorem wrong_record_edited : ∃ m o c' queued,
    History.Run textCrates textWriters twoNotes ∧
    twoNotes.client.editMessage textCrates textWriters plainEdit 0 "first" = (.ok (), c', queued) ∧
    twoNotes.client.sentMessages[0]? = some m ∧ twoNotes.origins[0]? = some o ∧
    o.record = some 0 ∧ c'.chatLog.map (fun r => (r.text, r.edited)) =
      [("one", false), ("two", true)] ∧
    ¬ HitsExactly textCrates textWriters twoNotes.client 0 m o "first" c' queued := by
  refine ⟨_, _, _, _, twoNotes_run, rfl, rfl, rfl, rfl, rfl, fun h => ?_⟩
  have hmarks := congrArg (List.map MessageRecord.edited) h.record
  have hdiffer : ([false, true] : List Bool) ≠ [true, false] := by decide
  exact hdiffer hmarks

end TinTin.Cli
