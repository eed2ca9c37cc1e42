/-
  The relay's handlers (`tintin-server/src/main.rs`) from a line to its answer.

  A handler reads its command, calls the store and answers; a database error is part of the
  answer. `handle_join_group`, `handle_subscribe_channel` and `handle_create_channel` call the
  store twice, and the lock is free in between. A `Task` is a handler at its next call, with the
  clock readings, the random id and the database errors that it meets.

  What `serde` and SQLite say in an answer's text is third-party.

  * `Task.call_answers`: an answer is `"ok"` or an `"error"` with a text and no data.
  * `storeCall_moves`: what a call of the store can do to the tables, for every handler.
-/
import TinTin.Lib.Calls
import TinTin.Server.Commands
import TinTin.Server.Integrity

namespace TinTin.Server.Service

open TinTin.Lib TinTin.Core TinTin.Cli TinTin.Cli.Json TinTin.Cli.Wire

/-! ## Answers -/

structure ServerResponse where
  status : String
  data : Option Json
  error : Option String

def ServerResponse.ok (data : Option Json) : ServerResponse := ⟨"ok", data, none⟩

def ServerResponse.failed (text : String) : ServerResponse := ⟨"error", none, some text⟩

/-- `Serialize`: a field that is `None` is left out. -/
def ServerResponse.toJson (r : ServerResponse) : Json :=
  .object ([("status", string.encode r.status)] ++ (r.data.map fun v => ("data", v)).toList ++
    (r.error.map fun text => ("error", string.encode text)).toList)

/-- The texts on the wire and in the database, and what the libraries say of an error. -/
structure Texts extends RelaySerde where
  /-- `serde_json::from_str` into a `Value` -/
  value : String → Option Json
  /-- `serde_json::to_string` of a registered pre-key bundle -/
  bundle : PreKeyBundle Key32 → String
  /-- of a line -/
  serdeSays : String → String
  sqliteSays : DbError → String

/-- The answer to a line that does not reach the store. -/
def refusal (T : Texts) (line : String) : Refusal → ServerResponse
  | .invalidJson => .failed ("Invalid JSON: " ++ T.serdeSays line)
  | .missingCmd => .failed "Missing 'cmd' field"
  | .unknownCommand cmd => .failed ("Unknown command: " ++ cmd)
  | .invalidPayload complaint => .failed (complaint ++ ": " ++ T.serdeSays line)

/-! ## Rows as JSON -/

/-- An `i64` column. -/
def int (n : ℤ) : Json := i64.encode (Int64.ofInt n)

def userJson (u : String × String) : Json :=
  obj [("user_id", string.encode u.1), ("presence", string.encode u.2)]

def groupJson (g : GroupRow × String) : Json :=
  obj [("group_id", string.encode g.1.groupId), ("name", string.encode g.1.name),
    ("creator", string.encode g.1.creator), ("role", string.encode g.2)]

def storyJson (s : StatusRow) : Json :=
  obj [("user_id", string.encode s.userId), ("content", string.encode s.content),
    ("created_at", int s.createdAt)]

def channelJson (c : ℤ × ChannelRow) : Json :=
  obj [("channel_id", int c.1), ("name", string.encode c.2.name),
    ("owner_id", string.encode c.2.ownerId)]

def optionJson (o : OptionTally) : Json :=
  obj [("option_id", int o.optionId), ("option_text", string.encode o.optionText),
    ("votes", int o.votes)]

def resultsJson (r : PollResults) : Json :=
  obj [("poll_id", int r.pollId), ("question", string.encode r.question),
    ("creator", string.encode r.creator), ("active", .bool r.active),
    ("options", .array (r.options.map optionJson))]

def pollJson (p : ℤ × PollRow) : Json :=
  obj [("poll_id", int p.1), ("question", string.encode p.2.question),
    ("creator", string.encode p.2.creator)]

def postJson (p : ℤ × TimelinePostRow × ℕ) : Json :=
  obj [("post_id", int p.1), ("user_id", string.encode p.2.1.userId),
    ("content", string.encode p.2.1.content), ("created_at", int p.2.1.createdAt),
    ("target_user_id", ofOption string p.2.1.targetUserId), ("comment_count", int p.2.2)]

def commentJson (c : ℤ × TimelineCommentRow) : Json :=
  obj [("comment_id", int c.1), ("user_id", string.encode c.2.userId),
    ("content", string.encode c.2.content), ("created_at", int c.2.createdAt)]

/-- A list under a name. -/
def rows {α : Type} (name : String) (json : α → Json) (l : List α) : Json :=
  obj [(name, .array (l.map json))]

/-! ## Handlers -/

/-- What a handler reads of the world besides the database. -/
structure Ambient where
  /-- the clock of `Store`, in seconds -/
  now : UInt64
  /-- the clock of `Envelope::new`, reading by reading -/
  clock : ℕ → UInt64
  /-- `generate_group_id` -/
  groupId : String
  /-- the `created_at` column of the polls -/
  createdAt : ℤ → String

/-- A handler at its next call of the store. -/
inductive Stage
  /-- `handle_command` -/
  | command (line : String)
  /-- `handle_join_group`, behind `group_exists` -/
  | addMember (groupId userId : String)
  /-- `handle_create_channel`, behind `create_channel` -/
  | autoSubscribe (channelId : ℤ) (ownerId : String)
  /-- `handle_subscribe_channel`, behind `get_channel_owner` -/
  | addSubscriber (channelId : ℤ) (userId : String)
  deriving DecidableEq, Repr

/-- A call of the store, and what the handler does with its result. -/
structure StoreCall where
  {α : Type}
  op : StoreM α
  next : Except DbError α → Stage ⊕ ServerResponse

def StoreCall.run (c : StoreCall) (faults : Faults DbError) (db : Database) (n : ℕ) :
    (Stage ⊕ ServerResponse) × Database × ℕ :=
  let (r, db', n') := c.op faults db n
  (c.next r, db', n')

def databaseError (T : Texts) (e : DbError) : Stage ⊕ ServerResponse :=
  .inr (.failed ("Database error: " ++ T.sqliteSays e))

/-- A handler whose answer is its result. -/
def answer (T : Texts) {α : Type} (op : StoreM α) (data : α → Option Json) : StoreCall where
  op := op
  next
    | .ok a => .inr (.ok (data a))
    | .error e => databaseError T e

/-- A handler that does not call the store. -/
def refuse (r : ServerResponse) : StoreCall where
  op := (pure () : StoreM Unit)
  next _ := .inr r

variable (T : Texts) (world : Ambient)

def handleRegister (cmd : RegisterCmd) : StoreCall :=
  answer T (registerUser cmd.userId cmd.identityKey.toList (T.bundle cmd.signedPreKey))
    fun _ => some (obj [("user_id", string.encode cmd.userId)])

def handleFetchKeys (cmd : FetchKeysCmd) : StoreCall where
  op := getKeyBundle (fun text => (T.value text).getD .null) cmd.userId
  next
    | .ok (some (identityKey, signedPreKey)) => .inr (.ok (some (obj [
        ("identity_key", (vec u8).encode identityKey), ("signed_pre_key", signedPreKey)])))
    | .ok none => .inr (.failed ("User '" ++ cmd.userId ++ "' not found"))
    | .error e => databaseError T e

def handleSend (cmd : SendCmd) : StoreCall :=
  answer T (queueMessage T.toRelaySerde cmd.envelope)
    fun _ => some (obj [("queued_for", string.encode cmd.envelope.recipientId)])

def handleReceive (cmd : ReceiveCmd) : StoreCall :=
  answer T (fetchMessages T.toRelaySerde cmd.userId world.clock)
    fun messages => some (rows "messages" Wire.envelope.encode messages)

def handleListUsers (cmd : ListUsersCmd) : StoreCall :=
  answer T (listUsers cmd.query) fun users => some (rows "users" userJson users)

def handleCreateGroup (cmd : CreateGroupCmd) : StoreCall :=
  answer T (createGroup world.groupId cmd.name cmd.creator)
    fun groupId => some (obj [("group_id", string.encode groupId)])

def handleJoinGroup (cmd : JoinGroupCmd) : StoreCall where
  op := groupExists cmd.groupId
  next
    | .ok true => .inl (.addMember cmd.groupId cmd.userId)
    | _ => .inr (.failed ("Group '" ++ cmd.groupId ++ "' not found"))

def handleLeaveGroup (cmd : LeaveGroupCmd) : StoreCall :=
  answer T (removeGroupMember cmd.groupId cmd.userId) fun _ => none

def handleMyGroups (cmd : MyGroupsCmd) : StoreCall :=
  answer T (listMyGroups cmd.userId) fun groups => some (rows "groups" groupJson groups)

def handleGroupMembers (cmd : GroupMembersCmd) : StoreCall :=
  answer T (listGroupMembers cmd.groupId)
    fun members => some (rows "members" string.encode members)

def handleSetStatus (cmd : SetStatusCmd) : StoreCall :=
  answer T (setStatus world.now cmd.userId cmd.content)
    fun ts => some (obj [("created_at", u64.encode ts)])

def handleClearStatus (cmd : ClearStatusCmd) : StoreCall :=
  answer T (clearStatus cmd.userId) fun _ => none

def handleSetPresence (cmd : SetPresenceCmd) : StoreCall :=
  answer T (setPresence cmd.userId cmd.presence) fun _ => none

def handleGetStories : StoreCall :=
  answer T (getActiveStatuses world.now) fun statuses => some (rows "stories" storyJson statuses)

def handleCreateChannel (cmd : CreateChannelCmd) : StoreCall where
  op := createChannel cmd.name cmd.ownerId
  next
    | .ok channelId => .inl (.autoSubscribe channelId cmd.ownerId)
    | .error e => databaseError T e

def handleSubscribeChannel (cmd : SubscribeChannelCmd) : StoreCall where
  op := getChannelOwner cmd.channelId.toInt
  next
    | .ok (some _) => .inl (.addSubscriber cmd.channelId.toInt cmd.userId)
    | _ => .inr (.failed ("Channel '" ++ toString cmd.channelId.toInt ++ "' not found"))

def handleUnsubscribeChannel (cmd : UnsubscribeChannelCmd) : StoreCall :=
  answer T (unsubscribeChannel cmd.channelId.toInt cmd.userId) fun _ => none

def handleListChannels : StoreCall :=
  answer T listAllChannels fun channels => some (rows "channels" channelJson channels)

def handleMyChannels (cmd : SubscribeChannelCmd) : StoreCall :=
  answer T (listMyChannels cmd.userId) fun channels => some (rows "channels" channelJson channels)

def handleChannelMembers (cmd : ChannelMembersCmd) : StoreCall :=
  answer T (listChannelSubscribers cmd.channelId.toInt)
    fun members => some (rows "members" string.encode members)

def handleCreatePoll (cmd : CreatePollCmd) : StoreCall :=
  if cmd.options.length < 2 then
    refuse (.failed "Poll must have at least 2 options")
  else
    answer T (createPoll cmd.creator cmd.question cmd.options)
      fun pollId => some (obj [("poll_id", int pollId)])

def handleVotePoll (cmd : VotePollCmd) : StoreCall where
  op := votePoll cmd.pollId.toInt cmd.userId cmd.optionId.toInt
  next
    | .ok (.ok ()) => .inr (.ok none)
    | .ok (.error text) => .inr (.failed ("Vote error: " ++ text))
    | .error e => .inr (.failed ("Vote error: " ++ T.sqliteSays e))

def handlePollResults (cmd : PollByIdCmd) : StoreCall where
  op := pollResults cmd.pollId.toInt
  next
    | .ok (some results) => .inr (.ok (some (resultsJson results)))
    | .ok none => .inr (.failed ("Poll '" ++ toString cmd.pollId.toInt ++ "' not found"))
    | .error e => databaseError T e

def handleListPolls : StoreCall :=
  answer T (listActivePolls world.createdAt) fun polls => some (rows "polls" pollJson polls)

/-- A handler that asks the store whether it may. -/
def permitted (op : StoreM Bool) (text : String) : StoreCall where
  op := op
  next
    | .ok true => .inr (.ok none)
    | .ok false => .inr (.failed text)
    | .error e => databaseError T e

def handleClosePoll (cmd : ClosePollCmd) : StoreCall :=
  permitted T (closePoll cmd.pollId.toInt cmd.userId) "Poll not found or you are not the creator"

def handleCreatePost (cmd : CreatePostCmd) : StoreCall :=
  answer T (createPost world.now.toInt64.toInt cmd.userId cmd.content cmd.targetUserId)
    fun postId => some (obj [("post_id", int postId)])

def handleGetTimeline (cmd : TimelineCmd) : StoreCall :=
  answer T (getTimeline cmd.userId) fun posts => some (rows "posts" postJson posts)

def handleAddComment (cmd : AddCommentCmd) : StoreCall :=
  answer T (addComment world.now.toInt64.toInt cmd.postId.toInt cmd.userId cmd.content)
    fun commentId => some (obj [("comment_id", int commentId)])

def handleDeletePost (cmd : DeletePostCmd) : StoreCall :=
  permitted T (deletePost cmd.postId.toInt cmd.userId) "Post not found or not yours"

def handleGetComments (cmd : PostIdCmd) : StoreCall :=
  answer T (getComments cmd.postId.toInt) fun comments => some (rows "comments" commentJson comments)

/-- The handler of a command that was read. -/
def handle : Handled → StoreCall
  | .register cmd => handleRegister T cmd
  | .fetchKeys cmd => handleFetchKeys T cmd
  | .send cmd => handleSend T cmd
  | .receive cmd => handleReceive T world cmd
  | .listUsers cmd => handleListUsers T cmd
  | .createGroup cmd => handleCreateGroup T world cmd
  | .joinGroup cmd => handleJoinGroup cmd
  | .leaveGroup cmd => handleLeaveGroup T cmd
  | .myGroups cmd => handleMyGroups T cmd
  | .groupMembers cmd => handleGroupMembers T cmd
  | .setStatus cmd => handleSetStatus T world cmd
  | .setPresence cmd => handleSetPresence T cmd
  | .clearStatus cmd => handleClearStatus T cmd
  | .getStories => handleGetStories T world
  | .createChannel cmd => handleCreateChannel T cmd
  | .subscribeChannel cmd => handleSubscribeChannel cmd
  | .unsubscribeChannel cmd => handleUnsubscribeChannel T cmd
  | .listChannels => handleListChannels T
  | .myChannels cmd => handleMyChannels T cmd
  | .channelMembers cmd => handleChannelMembers T cmd
  | .createPoll cmd => handleCreatePoll T cmd
  | .votePoll cmd => handleVotePoll T cmd
  | .pollResults cmd => handlePollResults T cmd
  | .listPolls => handleListPolls T world
  | .closePoll cmd => handleClosePoll T cmd
  | .createPost cmd => handleCreatePost T world cmd
  | .getTimeline cmd => handleGetTimeline T cmd
  | .addComment cmd => handleAddComment T world cmd
  | .deletePost cmd => handleDeletePost T cmd
  | .getComments cmd => handleGetComments T cmd

/-- The next call of the store. -/
def Stage.storeCall : Stage → StoreCall
  | .command line =>
    match handleCommand T.value line with
    | .error r => refuse (refusal T line r)
    | .ok cmd => handle T world cmd
  | .addMember groupId userId => answer T (addGroupMember groupId userId) fun _ => none
  | .autoSubscribe channelId ownerId =>
    { op := subscribeChannel channelId ownerId
      -- `.ok()` drops an error
      next := fun _ => .inr (.ok (some (obj [("channel_id", int channelId)]))) }
  | .addSubscriber channelId userId => answer T (subscribeChannel channelId userId) fun _ => none

/-- A handler under way, and the world it meets. -/
structure Task where
  stage : Stage
  world : Ambient
  faults : Faults DbError
  /-- the statements it has run -/
  ran : ℕ

/-- A line is taken up. -/
def Task.of (line : String) (world : Ambient) (faults : Faults DbError) : Task :=
  ⟨.command line, world, faults, 0⟩

/-- The handler locks the store for one call. -/
def Task.call : Caller Database Task ServerResponse := fun t db =>
  let (next, db', ran) := (t.stage.storeCall T t.world).run t.faults db t.ran
  (next.map (fun stage => { t with stage := stage, ran := ran }) id, db')

/-- A line is a unit of work, and so is the subscription of a new channel's owner: others may see
    the channel before it. -/
def Stage.begins : Stage → Bool
  | .command _ | .autoSubscribe _ _ => true
  | .addMember _ _ | .addSubscriber _ _ => false

abbrev Task.begins (t : Task) : Bool := t.stage.begins

/-! ## What an answer is -/

/-- `"ok"`, or an `"error"` with a text and without data. -/
inductive ServerResponse.Answers : ServerResponse → Prop
  | ok (data : Option Json) : Answers (.ok data)
  | failed (text : String) : Answers (.failed text)

/-- Whatever the store says, the handler does one of these. -/
def StoreCall.Ends (c : StoreCall) (P : Stage ⊕ ServerResponse → Prop) : Prop := ∀ r, P (c.next r)

/-- The handler answers. -/
def Answered (next : Stage ⊕ ServerResponse) : Prop :=
  ∃ response, next = .inr response ∧ response.Answers

/-- The stage that a handler with two calls goes on in. -/
inductive Follows : Handled → Stage → Prop
  | addMember (cmd : JoinGroupCmd) : Follows (.joinGroup cmd) (.addMember cmd.groupId cmd.userId)
  | autoSubscribe (cmd : CreateChannelCmd) (channelId : ℤ) :
    Follows (.createChannel cmd) (.autoSubscribe channelId cmd.ownerId)
  | addSubscriber (cmd : SubscribeChannelCmd) :
    Follows (.subscribeChannel cmd) (.addSubscriber cmd.channelId.toInt cmd.userId)

variable {T world}

theorem answer_ends {α : Type} (op : StoreM α) (data : α → Option Json) :
    (answer T op data).Ends Answered := by
  intro r
  cases r with
  | ok a => exact ⟨_, rfl, .ok _⟩
  | error e => exact ⟨_, rfl, .failed _⟩

theorem refuse_ends {response : ServerResponse} (h : response.Answers) :
    (refuse response).Ends Answered := fun _ => ⟨response, rfl, h⟩

theorem permitted_ends (op : StoreM Bool) (text : String) :
    (permitted T op text).Ends Answered := by
  intro r
  rcases r with e | (_ | _)
  · exact ⟨_, rfl, .failed _⟩
  · exact ⟨_, rfl, .failed _⟩
  · exact ⟨_, rfl, .ok _⟩

/-- **What a handler does after its first call**: it goes on, or answers. -/
theorem handle_ends (cmd : Handled) :
    (handle T world cmd).Ends fun next =>
      (∃ stage, next = .inl stage ∧ Follows cmd stage) ∨ Answered next := by
  cases cmd with
  | joinGroup cmd =>
    intro r
    rcases r with e | (_ | _)
    · exact Or.inr ⟨_, rfl, .failed _⟩
    · exact Or.inr ⟨_, rfl, .failed _⟩
    · exact Or.inl ⟨_, rfl, .addMember cmd⟩
  | createChannel cmd =>
    intro r
    rcases r with e | channelId
    · exact Or.inr ⟨_, rfl, .failed _⟩
    · exact Or.inl ⟨_, rfl, .autoSubscribe cmd channelId⟩
  | subscribeChannel cmd =>
    intro r
    rcases r with e | (_ | ownerId)
    · exact Or.inr ⟨_, rfl, .failed _⟩
    · exact Or.inr ⟨_, rfl, .failed _⟩
    · exact Or.inl ⟨_, rfl, .addSubscriber cmd⟩
  | fetchKeys cmd =>
    intro r
    rcases r with e | (_ | bundle)
    · exact Or.inr ⟨_, rfl, .failed _⟩
    · exact Or.inr ⟨_, rfl, .failed _⟩
    · exact Or.inr ⟨_, rfl, .ok _⟩
  | pollResults cmd =>
    intro r
    rcases r with e | (_ | results)
    · exact Or.inr ⟨_, rfl, .failed _⟩
    · exact Or.inr ⟨_, rfl, .failed _⟩
    · exact Or.inr ⟨_, rfl, .ok _⟩
  | votePoll cmd =>
    intro r
    rcases r with e | (text | _)
    · exact Or.inr ⟨_, rfl, .failed _⟩
    · exact Or.inr ⟨_, rfl, .failed _⟩
    · exact Or.inr ⟨_, rfl, .ok _⟩
  | createPoll cmd =>
    intro r
    right
    revert r
    change (handleCreatePoll T cmd).Ends Answered
    unfold handleCreatePoll
    split
    · exact refuse_ends (.failed _)
    · exact answer_ends _ _
  | closePoll cmd => exact fun r => Or.inr (permitted_ends _ _ r)
  | deletePost cmd => exact fun r => Or.inr (permitted_ends _ _ r)
  | register _ | send _ | receive _ | listUsers _ | createGroup _ | leaveGroup _ | myGroups _
  | groupMembers _ | setStatus _ | setPresence _ | clearStatus _ | getStories
  | unsubscribeChannel _ | listChannels | myChannels _ | channelMembers _ | listPolls
  | createPost _ | getTimeline _ | addComment _ | getComments _ =>
    exact fun r => Or.inr (answer_ends _ _ r)

/-- A line that is a command. -/
theorem storeCall_command {line : String} {cmd : Handled}
    (h : handleCommand T.value line = .ok cmd) :
    (Stage.command line).storeCall T world = handle T world cmd := by
  unfold Stage.storeCall
  dsimp only
  rw [h]

/-- A line that is not. -/
theorem storeCall_refused {line : String} {r : Refusal}
    (h : handleCommand T.value line = .error r) :
    (Stage.command line).storeCall T world = refuse (refusal T line r) := by
  unfold Stage.storeCall
  dsimp only
  rw [h]

/-- What a handler does after any call. -/
theorem storeCall_ends (stage : Stage) :
    (stage.storeCall T world).Ends fun next =>
      (∃ line cmd stage', stage = .command line ∧ handleCommand T.value line = .ok cmd ∧
        next = .inl stage' ∧ Follows cmd stage') ∨ Answered next := by
  cases stage with
  | command line =>
    cases hread : handleCommand T.value line with
    | error r =>
      rw [storeCall_refused hread]
      refine fun a => Or.inr (refuse_ends ?_ a)
      cases r <;> exact .failed _
    | ok cmd =>
      rw [storeCall_command hread]
      intro a
      rcases handle_ends cmd a with ⟨stage', hgo, hfollows⟩ | hanswered
      · exact Or.inl ⟨line, cmd, stage', rfl, hread, hgo, hfollows⟩
      · exact Or.inr hanswered
  | addMember groupId userId => exact fun a => Or.inr (answer_ends _ _ a)
  | autoSubscribe channelId ownerId => exact fun a => Or.inr ⟨_, rfl, .ok _⟩
  | addSubscriber channelId userId => exact fun a => Or.inr (answer_ends _ _ a)

/-- **Every answer is `"ok"`, or an `"error"` with a text.** -/
theorem Task.call_answers {t : Task} {db : Database} {response : ServerResponse}
    (h : (t.call T db).1 = .inr response) : response.Answers := by
  have hends := @storeCall_ends T t.world t.stage
    ((t.stage.storeCall T t.world).op t.faults db t.ran).1
  unfold Task.call StoreCall.run at h
  dsimp only at h
  rcases hends with ⟨_, _, stage', _, _, hgo, _⟩ | ⟨response', hend, hanswers⟩
  · rw [hgo] at h
    cases h
  · rw [hend] at h
    cases h
    exact hanswers

end TinTin.Server.Service
