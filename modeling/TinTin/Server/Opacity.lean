/-
  The relay does not look into what it carries.

  Two runs of the relay take the same turns on lines that differ only in the contents of the
  envelopes to be queued. Then everything else is the same: which envelopes are queued for whom,
  what is answered when, and every table; an answer to `receive` has envelopes that differ only in
  their contents (`contents_do_not_matter`).
-/
import TinTin.Server.Serial

namespace TinTin.Server.Service

open TinTin.Lib TinTin.Core TinTin.Cli

/-! ## Up to contents -/

/-- Envelopes that differ only in their contents. -/
structure SameHeader (e e' : Envelope) : Prop where
  senderId : e.senderId = e'.senderId
  recipientId : e.recipientId = e'.recipientId
  senderDeviceId : e.senderDeviceId = e'.senderDeviceId
  timestamp : e.timestamp = e'.timestamp
  msgType : e.msgType = e'.msgType

/-- Queued messages whose envelopes differ only in their contents. -/
structure AlikeRow (J : RelaySerde) (r r' : ℤ × MessageRow) : Prop where
  id : r.1 = r'.1
  senderId : r.2.senderId = r'.2.senderId
  recipientId : r.2.recipientId = r'.2.recipientId
  envelope : Option.Rel SameHeader (J.envelope.decode r.2.envelope)
    (J.envelope.decode r'.2.envelope)

/-- Databases that differ only in the contents of the queued envelopes. -/
structure AlikeDb (J : RelaySerde) (db db' : Database) : Prop where
  rest : db' = { db with messages := db'.messages }
  rows : List.Forall₂ (AlikeRow J) db.messages.rows db'.messages.rows
  lastId : db.messages.lastId = db'.messages.lastId

/-- Equal answers, or messages that differ only in their contents. -/
inductive AlikeAnswer : ServerResponse → ServerResponse → Prop
  | same (r : ServerResponse) : AlikeAnswer r r
  | messages {es es' : List Envelope} (h : List.Forall₂ SameHeader es es') :
    AlikeAnswer (.ok (some (rows "messages" Wire.envelope.encode es)))
      (.ok (some (rows "messages" Wire.envelope.encode es')))

/-- The same stage, or two lines that each have an envelope queued, which differ only in their
    contents. -/
inductive AlikeStage (T : Texts) : Stage → Stage → Prop
  | same (s : Stage) : AlikeStage T s s
  | send {line line' : String} {c c' : SendCmd} (h : handleCommand T.value line = .ok (.send c))
    (h' : handleCommand T.value line' = .ok (.send c')) (hsame : SameHeader c.envelope c'.envelope) :
    AlikeStage T (.command line) (.command line')

structure AlikeTask (T : Texts) (t t' : Task) : Prop where
  stage : AlikeStage T t.stage t'.stage
  world : t.world = t'.world
  faults : t.faults = t'.faults
  ran : t.ran = t'.ran

variable {T : Texts} {world : Ambient} {J : RelaySerde} {db db' : Database}

theorem SameHeader.refl (e : Envelope) : SameHeader e e := ⟨rfl, rfl, rfl, rfl, rfl⟩

/-! ## Statements -/

/-- A statement that neither reads nor changes the queued messages. -/
def Blind {α : Type} (stmt : Statement α) : Prop :=
  ∀ db m, stmt { db with messages := m } =
    (stmt db).map fun r => (r.1, { r.2 with messages := m })

/-- What holds of two statements on alike databases. -/
abbrev Statement.Alike {α β : Type} (J : RelaySerde) (Q : α → β → Prop) (stmt : Statement α)
    (stmt' : Statement β) : Prop :=
  ∀ db db', AlikeDb J db db' →
    Auto.Both (fun r r' => Q r.1 r'.1 ∧ AlikeDb J r.2 r'.2) (stmt db) (stmt' db')

theorem Blind.alike {α : Type} {stmt : Statement α} (h : Blind stmt) :
    Statement.Alike J Eq stmt stmt := by
  intro db db' hdb
  have hother := h db db'.messages
  rw [← hdb.rest] at hother
  rw [hother]
  have hown := h db db.messages
  cases hres : stmt db with
  | error e => exact .error e
  | ok r =>
    rw [show ({ db with messages := db.messages } : Database) = db from rfl, hres] at hown
    have hmessages : r.2.messages = db.messages := by
      have heq : r = (r.1, { r.2 with messages := db.messages }) := Except.ok.inj hown
      rw [heq]
    refine .ok ⟨rfl, rfl, ?_, ?_⟩
    · rw [hmessages]
      exact hdb.rows
    · rw [hmessages]
      exact hdb.lastId

/-- From alike databases the program ends alike. -/
abbrev Agrees {α : Type} (J : RelaySerde) (x : StoreM α) : Prop := Auto.InStep (AlikeDb J) Eq x x

theorem Blind.agrees {α : Type} {stmt : Statement α} (h : Blind stmt) : Agrees J (.exec stmt) :=
  Auto.inStep_exec h.alike

theorem agrees_bind {α β : Type} {x : StoreM α} {f : α → StoreM β} (hx : Agrees J x)
    (hf : ∀ a, Agrees J (f a)) : Agrees J (x >>= f) :=
  Auto.inStep_bind hx fun a b (hab : a = b) => hab ▸ hf a

theorem agrees_pure {α : Type} (a : α) : Agrees J (pure a : StoreM α) := Auto.inStep_pure rfl

theorem agrees_return {α β : Type} {x : StoreM α} (hx : Agrees J x) (f : α → β) :
    Agrees J (x >>= fun a => pure (f a)) :=
  agrees_bind hx fun _ => agrees_pure _

theorem Blind.agrees_attempt {α : Type} {stmt : Statement α} (h : Blind stmt) :
    Agrees J (.attempt stmt) := by
  intro faults s t n hR
  obtain ⟨hboth, hrest⟩ := Auto.inStep_attempt h.alike faults s t n hR
  refine ⟨?_, hrest⟩
  generalize (Auto.attempt stmt faults s n).1 = r at hboth
  generalize (Auto.attempt stmt faults t n).1 = r' at hboth
  cases hboth with
  | error e => exact .error e
  | ok hrel =>
    cases hrel with
    | none => exact .ok rfl
    | some hab => exact .ok (congrArg some hab)

theorem agrees_loop {α : Type} {body : α → StoreM Unit} (h : ∀ a, Agrees J (body a))
    (as : List α) : Agrees J (Auto.loop body as) := by
  induction as with
  | nil => exact agrees_pure ()
  | cons a as ih => exact agrees_bind (h a) fun _ => ih

/-! ### Messages -/

section Related

variable {α β : Type} {S : α → α → Prop} {l l' : List α}

theorem forall₂_filter (h : List.Forall₂ S l l') {p : α → Bool} (hp : ∀ a b, S a b → p a = p b) :
    List.Forall₂ S (l.filter p) (l'.filter p) := by
  refine List.rel_filter (fun a b hab => ?_) h
  change p a = true ↔ p b = true
  rw [hp a b hab]

theorem any_eq_of_forall₂ (h : List.Forall₂ S l l') {p : α → Bool}
    (hp : ∀ a b, S a b → p a = p b) : l.any p = l'.any p := by
  induction h with
  | nil => rfl
  | cons hab _ ih => rw [List.any_cons, List.any_cons, hp _ _ hab, ih]

theorem mapIdx_eq_of_forall₂ (h : List.Forall₂ S l l') {f : ℕ → α → β}
    (hf : ∀ i a b, S a b → f i a = f i b) : l.mapIdx f = l'.mapIdx f := by
  induction h generalizing f with
  | nil => rfl
  | cons hab _ ih =>
    rw [List.mapIdx_cons, List.mapIdx_cons, hf 0 _ _ hab, ih fun i => hf (i + 1)]

end Related

/-- The envelopes of alike rows. -/
theorem forall₂_decode {rs rs' : List (ℤ × MessageRow)} (h : List.Forall₂ (AlikeRow J) rs rs') :
    List.Forall₂ SameHeader (rs.filterMap fun r => J.envelope.decode r.2.envelope)
      (rs'.filterMap fun r => J.envelope.decode r.2.envelope) :=
  List.rel_filterMap (fun _ _ hr => hr.envelope) h

theorem selectMessages_alike (userId : String) :
    Statement.Alike J (List.Forall₂ (AlikeRow J)) (selectMessages userId) (selectMessages userId) := by
  intro db db' hdb
  exact .ok ⟨forall₂_filter hdb.rows fun r r' hr => by rw [hr.recipientId], hdb⟩

theorem deleteMessages_alike (userId : String) :
    Statement.Alike J Eq (deleteMessages userId) (deleteMessages userId) := by
  intro db db' hdb
  refine .ok ⟨rfl, ?_, ?_, hdb.lastId⟩
  · exact congrArg (fun d : Database => { d with
      messages := db'.messages.deleteWhere fun r => r.2.recipientId == userId }) hdb.rest
  · exact forall₂_filter hdb.rows fun r r' hr => by dsimp only; rw [hr.recipientId]

/-- A queued message stands for its envelope. -/
theorem messageRow_alike {e e' : Envelope} (h : SameHeader e e') {i i' : ℤ} (hi : i = i') :
    AlikeRow J (i, messageRow J e) (i', messageRow J e') where
  id := hi
  senderId := h.senderId
  recipientId := h.recipientId
  envelope := by
    change Option.Rel SameHeader (J.envelope.decode (J.envelope.encode e))
      (J.envelope.decode (J.envelope.encode e'))
    rw [J.envelope.decode_encode, J.envelope.decode_encode]
    exact .some h

theorem insertMessage_alike {e e' : Envelope} (h : SameHeader e e') :
    Statement.Alike J Eq (insertMessage (messageRow J e)) (insertMessage (messageRow J e')) := by
  intro db db' hdb
  refine .ok ⟨rfl, ?_, ?_, ?_⟩
  · exact congrArg (fun d : Database => { d with
      messages := db'.messages.insert (messageRow J e') }) hdb.rest
  · have hid : db.messages.lastId + 1 = db'.messages.lastId + 1 := by rw [hdb.lastId]
    exact List.rel_append hdb.rows (.cons (messageRow_alike h hid) .nil)
  · change db.messages.lastId + 1 = db'.messages.lastId + 1
    rw [hdb.lastId]

/-- The receipts for messages do not depend on what they say. -/
theorem deliveryReceipts_eq (userId : String) (clock : ℕ → UInt64) {es es' : List Envelope}
    (h : List.Forall₂ SameHeader es es') :
    deliveryReceipts J userId clock es = deliveryReceipts J userId clock es' := by
  refine mapIdx_eq_of_forall₂ (forall₂_filter h fun e e' he => by rw [he.msgType])
    fun i e e' he => ?_
  unfold deliveryReceipt
  rw [he.senderId, he.timestamp]

theorem fetchMessages_inStep (userId : String) (clock : ℕ → UInt64) :
    Auto.InStep (AlikeDb J) (List.Forall₂ SameHeader) (fetchMessages J userId clock)
      (fetchMessages J userId clock) := by
  refine Auto.inStep_bind (Auto.inStep_exec (selectMessages_alike userId)) fun rs rs' hrs => ?_
  refine Auto.inStep_bind (Q := Eq) (Auto.inStep_exec (deleteMessages_alike userId)) fun _ _ _ => ?_
  have henvelopes := forall₂_decode hrs
  dsimp only
  rw [deliveryReceipts_eq userId clock henvelopes]
  refine Auto.inStep_bind (Q := Eq) (agrees_loop (fun receipt => ?_) _) fun _ _ _ =>
    Auto.inStep_pure henvelopes
  exact Auto.inStep_exec (insertMessage_alike (SameHeader.refl receipt))

/-! ### The timeline -/

/-- Who is a contact does not depend on what was said. -/
theorem isContact_alike (h : AlikeDb J db db') (userId v : String) :
    db.isContact userId v = db'.isContact userId v := by
  unfold Database.isContact
  have hto := any_eq_of_forall₂ h.rows (p := fun r => r.2.senderId == v && r.2.recipientId == userId)
    fun r r' hr => by rw [hr.senderId, hr.recipientId]
  have hfrom := any_eq_of_forall₂ h.rows
    (p := fun r => r.2.recipientId == v && r.2.senderId == userId)
    fun r r' hr => by rw [hr.senderId, hr.recipientId]
  have hmembers : db'.groupMembers = db.groupMembers := by rw [h.rest]
  rw [hto, hfrom, hmembers]

theorem selectTimeline_alike (userId : String) :
    Statement.Alike J Eq (selectTimeline userId) (selectTimeline userId) := by
  intro db db' hdb
  have hcontact : db.isContact userId = db'.isContact userId :=
    funext fun v => isContact_alike hdb userId v
  have hposts : db'.timelinePosts = db.timelinePosts := by rw [hdb.rest]
  have hcomments : db'.timelineComments = db.timelineComments := by rw [hdb.rest]
  unfold selectTimeline
  rw [hcontact, hposts, hcomments]
  exact .ok ⟨rfl, hdb⟩

/-! ## Handlers -/

/-- The two handlers end their call alike, and go on in the same way. -/
def StoreCall.Alike (J : RelaySerde) (c c' : StoreCall) : Prop :=
  ∀ faults db db' n, AlikeDb J db db' →
    Sum.LiftRel Eq AlikeAnswer (c.run faults db n).1 (c'.run faults db' n).1 ∧
      AlikeDb J (c.run faults db n).2.1 (c'.run faults db' n).2.1 ∧
      (c.run faults db n).2.2 = (c'.run faults db' n).2.2

theorem alike_next (next : Stage ⊕ ServerResponse) : Sum.LiftRel Eq AlikeAnswer next next := by
  cases next with
  | inl s => exact .inl rfl
  | inr r => exact .inr (.same r)

/-- A handler whose call of the store agrees with itself. -/
theorem Agrees.storeCall {c : StoreCall} (h : Agrees J c.op) : c.Alike J c := by
  intro faults db db' n hdb
  obtain ⟨hboth, hrest⟩ := h faults db db' n hdb
  refine ⟨?_, hrest⟩
  unfold StoreCall.run
  dsimp only
  generalize (c.op faults db n).1 = r at hboth
  generalize (c.op faults db' n).1 = r' at hboth
  cases hboth with
  | ok hab =>
    rw [hab]
    exact alike_next _
  | error e => exact alike_next _

/-- Handlers that answer with related data. -/
theorem answer_alike {α : Type} {op op' : StoreM α} {data data' : α → Option Json}
    {Q : α → α → Prop} (h : Auto.InStep (AlikeDb J) Q op op')
    (hdata : ∀ a b, Q a b → AlikeAnswer (.ok (data a)) (.ok (data' b))) :
    (answer T op data).Alike J (answer T op' data') := by
  intro faults db db' n hdb
  obtain ⟨hboth, hrest⟩ := h faults db db' n hdb
  refine ⟨?_, hrest⟩
  unfold answer StoreCall.run
  dsimp only
  generalize (op faults db n).1 = r at hboth
  generalize (op' faults db' n).1 = r' at hboth
  cases hboth with
  | ok hab => exact .inr (hdata _ _ hab)
  | error e => exact alike_next _

theorem agrees_createGroup (groupId name creator : String) :
    Agrees J (createGroup groupId name creator) := by
  have hgroup : Blind (insertGroup groupId name creator) := by
    intro db m
    unfold insertGroup
    dsimp only
    split <;> rfl
  have hmember : Blind (insertGroupMember groupId creator "admin") := by
    intro db m
    unfold insertGroupMember
    dsimp only
    split
    · rfl
    · split <;> rfl
  exact agrees_bind hgroup.agrees fun _ => agrees_return hmember.agrees _

theorem agrees_addGroupMember (groupId userId : String) :
    Agrees J (addGroupMember groupId userId) := by
  refine Blind.agrees fun db m => ?_
  unfold insertOrIgnoreGroupMember
  dsimp only
  split
  · rfl
  · split <;> rfl

theorem agrees_subscribeChannel (channelId : ℤ) (userId : String) :
    Agrees J (subscribeChannel channelId userId) := by
  refine Blind.agrees fun db m => ?_
  unfold insertOrIgnoreSubscriber
  dsimp only
  split
  · rfl
  · split <;> rfl

theorem agrees_createPoll (creator question : String) (options : List String) :
    Agrees J (createPoll creator question options) := by
  have hpoll : Blind (insertPoll creator question) := fun _ _ => rfl
  refine agrees_bind hpoll.agrees fun pollId => agrees_return (agrees_loop (fun text => ?_) _) _
  refine Blind.agrees fun db m => ?_
  unfold insertPollOption
  dsimp only
  split <;> rfl

theorem agrees_votePoll (pollId : ℤ) (userId : String) (optionId : ℤ) :
    Agrees J (votePoll pollId userId optionId) := by
  have hpoll : Blind (selectPoll pollId) := fun _ _ => rfl
  have hcount : Blind (countOptions optionId pollId) := fun _ _ => rfl
  have hvote : Blind (upsertVote pollId userId optionId) := by
    intro db m
    unfold upsertVote
    dsimp only
    split <;> rfl
  refine agrees_bind hpoll.agrees_attempt fun poll => ?_
  split
  · refine agrees_bind hcount.agrees fun count => ?_
    split
    · exact agrees_pure _
    · exact agrees_return hvote.agrees _
  · exact agrees_pure _

theorem agrees_pollResults (pollId : ℤ) : Agrees J (pollResults pollId) := by
  have hpoll : Blind (selectPoll pollId) := fun _ _ => rfl
  have htally : Blind (selectTally pollId) := fun _ _ => rfl
  refine agrees_bind hpoll.agrees_attempt fun poll => ?_
  split
  · exact agrees_pure _
  · exact agrees_return htally.agrees _

theorem agrees_closePoll (pollId : ℤ) (userId : String) : Agrees J (closePoll pollId userId) := by
  have hpoll : Blind (selectPoll pollId) := fun _ _ => rfl
  have hclose : Blind (deactivatePoll pollId) := fun _ _ => rfl
  refine agrees_bind hpoll.agrees_attempt fun poll => ?_
  split
  · split
    · exact agrees_return hclose.agrees _
    · exact agrees_pure _
  · exact agrees_pure _

theorem agrees_deletePost (postId : ℤ) (userId : String) : Agrees J (deletePost postId userId) := by
  have hcomments : Blind (deleteComments postId) := fun _ _ => rfl
  have hposts : Blind (deletePosts postId userId) := by
    intro db m
    unfold deletePosts
    dsimp only
    split <;> rfl
  exact agrees_bind hcomments.agrees fun _ => agrees_return hposts.agrees _

theorem agrees_addComment (now postId : ℤ) (userId content : String) :
    Agrees J (addComment now postId userId content) := by
  refine Blind.agrees fun db m => ?_
  unfold insertComment
  dsimp only
  split <;> rfl

/-- **No handler looks into contents**, a case for each. -/
theorem handle_alike (cmd : Handled) :
    (handle T world cmd).Alike T.toRelaySerde (handle T world cmd) := by
  cases cmd with
  | send cmd =>
    exact Agrees.storeCall (Auto.inStep_exec (insertMessage_alike (SameHeader.refl cmd.envelope)))
  | receive cmd =>
    exact answer_alike (fetchMessages_inStep cmd.userId world.clock) fun _ _ h => .messages h
  | getTimeline cmd => exact Agrees.storeCall (Auto.inStep_exec (selectTimeline_alike cmd.userId))
  | createGroup cmd => exact Agrees.storeCall (agrees_createGroup _ _ _)
  | createPoll cmd =>
    by_cases hfew : cmd.options.length < 2
    · rw [show handle T world (.createPoll cmd) = _ from if_pos hfew]
      exact Agrees.storeCall (agrees_pure _)
    · rw [show handle T world (.createPoll cmd) = _ from if_neg hfew]
      exact Agrees.storeCall (agrees_createPoll _ _ _)
  | votePoll cmd => exact Agrees.storeCall (agrees_votePoll _ _ _)
  | pollResults cmd => exact Agrees.storeCall (agrees_pollResults _)
  | closePoll cmd => exact Agrees.storeCall (agrees_closePoll _ _)
  | deletePost cmd => exact Agrees.storeCall (agrees_deletePost _ _)
  | addComment cmd => exact Agrees.storeCall (agrees_addComment _ _ _ _)
  | fetchKeys _ | joinGroup _ | setStatus _ =>
    exact Agrees.storeCall (agrees_return (Blind.agrees fun _ _ => rfl) _)
  | register _ | listUsers _ | leaveGroup _ | myGroups _ | groupMembers _ | setPresence _
  | clearStatus _ | getStories | createChannel _ | subscribeChannel _ | unsubscribeChannel _
  | listChannels | myChannels _ | channelMembers _ | listPolls | createPost _ | getComments _ =>
    exact Agrees.storeCall (Blind.agrees fun _ _ => rfl)

/-- Nor does the rest of a handler. -/
theorem storeCall_alike {s s' : Stage} (h : AlikeStage T s s') :
    (s.storeCall T world).Alike T.toRelaySerde (s'.storeCall T world) := by
  cases h with
  | send h h' hsame =>
    rw [storeCall_command h, storeCall_command h']
    refine answer_alike (Auto.inStep_exec (insertMessage_alike hsame)) fun _ _ _ => ?_
    rw [hsame.recipientId]
    exact .same _
  | same s =>
    cases s with
    | command line =>
      cases hread : handleCommand T.value line with
      | error r =>
        rw [storeCall_refused hread]
        exact Agrees.storeCall (agrees_pure _)
      | ok cmd =>
        rw [storeCall_command hread]
        exact handle_alike cmd
    | addMember groupId userId => exact Agrees.storeCall (agrees_addGroupMember _ _)
    | autoSubscribe channelId ownerId => exact Agrees.storeCall (agrees_subscribeChannel _ _)
    | addSubscriber channelId userId => exact Agrees.storeCall (agrees_subscribeChannel _ _)

/-! ## Runs -/

theorem AlikeStage.begins {s s' : Stage} (h : AlikeStage T s s') : s.begins = s'.begins := by
  cases h <;> rfl

/-- **Alike tasks call the store alike.** -/
theorem alike (T : Texts) : Calls.Alike (Task.call T) Task.begins (Task.call T) Task.begins
    (AlikeDb T.toRelaySerde) (AlikeTask T) AlikeAnswer where
  begins h := h.stage.begins
  call {t t' db db'} h hdb := by
    obtain ⟨stage, world, faults, n⟩ := t
    obtain ⟨stage', world', faults', n'⟩ := t'
    obtain ⟨hstage, hworld, hfaults, hn⟩ := h
    dsimp only at hstage hworld hfaults hn
    subst hworld hfaults hn
    have halike : (stage.storeCall T world).Alike T.toRelaySerde (stage'.storeCall T world) :=
      storeCall_alike hstage
    obtain ⟨hnext, hstate, hran⟩ := halike faults db db' n hdb
    unfold Task.call
    generalize (stage.storeCall T world).run faults db n = r at hnext hstate hran
    generalize (stage'.storeCall T world).run faults db' n = r' at hnext hstate hran
    obtain ⟨next, db₁, n₁⟩ := r
    obtain ⟨next', db₁', n₁'⟩ := r'
    refine ⟨?_, hstate⟩
    cases hnext with
    | inl hstage' =>
      subst hstage'
      exact .inl ⟨.same _, rfl, rfl, hran⟩
    | inr hanswer => exact .inr hanswer

/-- **The relay treats contents as opaque.** -/
theorem contents_do_not_matter {ι : Type} [DecidableEq ι] (T : Texts) {db db' : Database}
    {turns turns' : List (Calls.Turn ι Task)} {m : Calls.Floor ι Database Task ServerResponse}
    (hdb : AlikeDb T.toRelaySerde db db')
    (hturns : List.Forall₂ (Calls.Turn.Alike (AlikeTask T)) turns turns')
    (hrun : Runs T (.fresh db) turns m) :
    ∃ m', Runs T (.fresh db') turns' m' ∧
      m.Alike (AlikeDb T.toRelaySerde) (AlikeTask T) AlikeAnswer m' :=
  Calls.alike_of_run (alike T) (.fresh hdb) hturns hrun

/-- The line in which alice sends bob one byte. -/
def sendLine (byte : String) : String :=
  "\x7b\"cmd\":\"send\",\"envelope\":\x7b\"content\":[" ++ byte ++ "],\"msg_type\":\"Normal\"," ++
    "\"recipient_id\":\"bob\",\"sender_device_id\":1,\"sender_id\":\"alice\",\"timestamp\":5\x7d\x7d"

def byteEnvelope (b : UInt8) : Envelope := .new 5 "alice" "bob" [b] .normal

def sendTexts : Texts := tableTexts [
  (sendLine "1", .object [("cmd", .string "send"),
    ("envelope", Wire.envelope.encode (byteEnvelope 1))]),
  (sendLine "2", .object [("cmd", .string "send"),
    ("envelope", Wire.envelope.encode (byteEnvelope 2))])]

theorem handleCommand_sendLine {line : String} {b : UInt8}
    (h : sendTexts.value line = some (.object [("cmd", .string "send"),
      ("envelope", Wire.envelope.encode (byteEnvelope b))])) :
    handleCommand sendTexts.value line = .ok (.send ⟨"send", byteEnvelope b⟩) := by
  have hpayload : SendCmd.fromValue (.object [("cmd", .string "send"),
      ("envelope", Wire.envelope.encode (byteEnvelope b))]) =
        some ⟨"send", byteEnvelope b⟩ := by
    unfold SendCmd.fromValue Json.field
    change ((Wire.string.decode (.string "send")).bind fun cmd =>
      (Wire.envelope.decode (Wire.envelope.encode (byteEnvelope b))).bind fun e =>
        some (SendCmd.mk cmd e)) = _
    rw [Wire.envelope.decode_encode]
    rfl
  unfold handleCommand
  rw [h]
  change Server.handleSend _ = _
  unfold Server.handleSend
  rw [hpayload]
  rfl

theorem value_one : sendTexts.value (sendLine "1") = some (.object [("cmd", .string "send"),
    ("envelope", Wire.envelope.encode (byteEnvelope 1))]) := by
  rw [sendTexts, value_tableTexts, List.lookup_cons_self]

theorem value_two : sendTexts.value (sendLine "2") = some (.object [("cmd", .string "send"),
    ("envelope", Wire.envelope.encode (byteEnvelope 2))]) := by
  have hother : (sendLine "2" == sendLine "1") = false := by decide +kernel
  rw [sendTexts, value_tableTexts, List.lookup_cons, hother]
  exact List.lookup_cons_self

theorem send_run {line : String} {cmd : SendCmd}
    (h : handleCommand T.value line = .ok (.send cmd)) :
    ∃ m, Runs T (.fresh .empty) [.start 0 (.of line noon Auto.faultless), .call 0] m := by
  have hrun : ∃ r db' n, ((Stage.command line).storeCall T noon).run
      Auto.faultless .empty 0 = (.inr r, db', n) := by
    rw [storeCall_command h]
    exact ⟨_, _, _, rfl⟩
  obtain ⟨r, db', n, hrun⟩ := hrun
  have hcall := Task.call_of_run (t := .of line noon Auto.faultless) hrun
  exact ⟨_, .cons (.start (0 : ℕ) _ rfl rfl) (.cons (.finish 0 _ r db' rfl hcall) (.nil _))⟩

theorem contents_do_not_matter_byte : ∃ m m', Runs sendTexts (.fresh .empty)
      [.start 0 (.of (sendLine "1") noon Auto.faultless), .call 0] m ∧
    Runs sendTexts (.fresh .empty)
      [.start 0 (.of (sendLine "2") noon Auto.faultless), .call 0] m' ∧
    m.Alike (AlikeDb sendTexts.toRelaySerde) (AlikeTask sendTexts) AlikeAnswer m' := by
  have hone := handleCommand_sendLine value_one
  have htwo := handleCommand_sendLine value_two
  obtain ⟨m, hrun⟩ := send_run hone
  have halike : AlikeTask sendTexts (.of (sendLine "1") noon Auto.faultless)
      (.of (sendLine "2") noon Auto.faultless) :=
    ⟨.send hone htwo ⟨rfl, rfl, rfl, rfl, rfl⟩, rfl, rfl, rfl⟩
  have hempty : AlikeDb sendTexts.toRelaySerde .empty .empty := ⟨rfl, .nil, rfl⟩
  obtain ⟨m', hrun', hm⟩ := contents_do_not_matter sendTexts hempty
    (.cons (.start 0 halike) (.cons (.call 0) .nil)) hrun
  exact ⟨m, m', hrun, hrun', hm⟩

end TinTin.Server.Service
