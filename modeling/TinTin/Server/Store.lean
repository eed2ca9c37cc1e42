/-
  The relay's store (`store.rs`): operations as sequences of autocommitted statements.

  Every `conn.execute(..)?` is one `exec`: an error ends the operation and the statements
  before it stay. Clock readings and the random group id are arguments.

  `fetchMessages_faultless` says what a fetch without database errors does: it returns the
  user's envelopes, removes their rows and queues the delivery receipts.
-/
import TinTin.Core.Serde
import TinTin.Server.Database

namespace TinTin.Server

open TinTin.Lib TinTin.Core

/-- An operation of the store. -/
abbrev StoreM := Auto Database DbError

variable (J : RelaySerde)

/-! ## Users and their status -/

/-- `Store::register_user` -/
def registerUser (userId : String) (identityKey : List UInt8) (signedPreKey : String) :
    StoreM Unit :=
  .exec (upsertUser userId identityKey signedPreKey)

/-- `Store::set_presence` -/
def setPresence (userId presence : String) : StoreM Unit := .exec (updatePresence userId presence)

/-- `Store::list_users` -/
def listUsers (query : Option String) : StoreM (List (String × String)) :=
  .exec (selectUsers (query.map fun q => "%" ++ q ++ "%"))

/-- `Store::get_key_bundle`: the identity key, and the signed pre-key as `serde_json` reads it. -/
def getKeyBundle {Value : Type} (fromStr : String → Value) (userId : String) :
    StoreM (Option (List UInt8 × Value)) := do
  let row ← .exec (selectUser userId)
  return row.map fun r => (r.identityKey, fromStr r.signedPreKey)

/-- `Store::set_status` -/
def setStatus (now : UInt64) (userId content : String) : StoreM UInt64 := do
  Auto.exec (upsertStatus ⟨userId, content, now.toNat⟩)
  return now

/-- `Store::clear_status` -/
def clearStatus (userId : String) : StoreM Unit := .exec (deleteStatus userId)

/-- `Store::get_active_statuses`: those younger than 24 hours. -/
def getActiveStatuses (now : UInt64) : StoreM (List StatusRow) :=
  .exec (selectStatuses (now - 86400).toInt64.toInt)

/-! ## Messages -/

/-- The row under which an envelope is queued. -/
def messageRow (envelope : Envelope) : MessageRow where
  senderId := envelope.senderId
  recipientId := envelope.recipientId
  envelope := J.envelope.encode envelope

/-- `Store::queue_message` -/
def queueMessage (envelope : Envelope) : StoreM Unit :=
  .exec (insertMessage (messageRow J envelope))

/-- The delivery receipt for a fetched message, with the clock reading of its envelope. -/
def deliveryReceipt (userId : String) (now : UInt64) (msg : Envelope) : Envelope :=
  let receipt : ReceiptContent :=
    { receiptType := .delivery, originalSender := msg.senderId, originalTimestamp := msg.timestamp }
  Envelope.new now userId msg.senderId (J.receiptContent.encode receipt) .receipt

/-- The receipts a fetch queues: one for each `Normal` or `PreKeyBundle` envelope. -/
def deliveryReceipts (userId : String) (clock : ℕ → UInt64) (envelopes : List Envelope) :
    List Envelope :=
  (envelopes.filter (·.msgType.isChat)).mapIdx fun i msg => deliveryReceipt J userId (clock i) msg

/-- `Store::fetch_messages` -/
def fetchMessages (userId : String) (clock : ℕ → UInt64) : StoreM (List Envelope) := do
  -- 1. Read all pending messages for this user.
  let rows ← .exec (selectMessages userId)
  -- 2. Delete them.
  Auto.exec (deleteMessages userId)
  -- 3. Deserialize envelopes.
  let envelopes := rows.filterMap fun r => J.envelope.decode r.2.envelope
  -- 4. Queue delivery receipts for non-receipt messages.
  Auto.loop (fun receipt => .exec (insertMessage (messageRow J receipt)))
    (deliveryReceipts J userId clock envelopes)
  return envelopes

/-! ## Groups -/

/-- `Store::create_group`, with the result of `generate_group_id` as an argument. -/
def createGroup (groupId name creator : String) : StoreM String := do
  Auto.exec (insertGroup groupId name creator)
  -- Creator is automatically an admin member.
  Auto.exec (insertGroupMember groupId creator "admin")
  return groupId

/-- `Store::add_group_member` -/
def addGroupMember (groupId userId : String) : StoreM Unit :=
  .exec (insertOrIgnoreGroupMember groupId userId "member")

/-- `Store::remove_group_member` -/
def removeGroupMember (groupId userId : String) : StoreM Unit :=
  .exec (deleteGroupMember groupId userId)

/-- `Store::list_my_groups`: each group with the user's role. -/
def listMyGroups (userId : String) : StoreM (List (GroupRow × String)) :=
  .exec (selectMyGroups userId)

/-- `Store::list_group_members` -/
def listGroupMembers (groupId : String) : StoreM (List String) :=
  .exec (selectGroupMembers groupId)

/-- `Store::group_exists` -/
def groupExists (groupId : String) : StoreM Bool := do
  let count ← .exec (countGroups groupId)
  return count > 0

/-! ## Channels -/

/-- `Store::create_channel` -/
def createChannel (name ownerId : String) : StoreM ℤ := .exec (insertChannel name ownerId)

/-- `Store::subscribe_channel` -/
def subscribeChannel (channelId : ℤ) (userId : String) : StoreM Unit :=
  .exec (insertOrIgnoreSubscriber channelId userId)

/-- `Store::unsubscribe_channel` -/
def unsubscribeChannel (channelId : ℤ) (userId : String) : StoreM Unit :=
  .exec (deleteSubscriber channelId userId)

/-- `Store::get_channel_owner` -/
def getChannelOwner (channelId : ℤ) : StoreM (Option String) := .exec (selectOwner channelId)

/-- `Store::list_channel_subscribers` -/
def listChannelSubscribers (channelId : ℤ) : StoreM (List String) :=
  .exec (selectSubscribers channelId)

/-- `Store::list_my_channels` -/
def listMyChannels (userId : String) : StoreM (List (ℤ × ChannelRow)) :=
  .exec (selectMyChannels userId)

/-- `Store::list_all_channels` -/
def listAllChannels : StoreM (List (ℤ × ChannelRow)) := .exec selectChannels

/-! ## Polls and the timeline -/

/-- `Store::create_poll` -/
def createPoll (creator question : String) (options : List String) : StoreM ℤ := do
  let pollId ← .exec (insertPoll creator question)
  Auto.loop (fun opt => .exec (insertPollOption pollId opt)) options
  return pollId

/-- `Store::vote_poll`: an error of its own is the value `.error`. -/
def votePoll (pollId : ℤ) (userId : String) (optionId : ℤ) : StoreM (Except String Unit) := do
  -- Check poll is active: no row, or no answer, counts as closed.
  let poll ← Auto.attempt (selectPoll pollId)
  if (poll.join.map fun r => r.active != 0).getD false then
    let count ← Auto.exec (countOptions optionId pollId)
    if count = 0 then
      return .error "Option not found"
    else
      Auto.exec (upsertVote pollId userId optionId)
      return .ok ()
  else
    return .error "Poll is closed"

/-- One line of a poll's results. -/
structure OptionTally where
  optionId : ℤ
  optionText : String
  votes : ℕ
  deriving DecidableEq, Repr

/-- The fields of the JSON object that `Store::poll_results` builds. -/
structure PollResults where
  pollId : ℤ
  question : String
  creator : String
  active : Bool
  options : List OptionTally
  deriving DecidableEq, Repr

/-- `Store::poll_results` -/
def pollResults (pollId : ℤ) : StoreM (Option PollResults) := do
  let poll ← Auto.attempt (selectPoll pollId)
  match poll.join with
  | none => return none
  | some poll =>
    let options ← Auto.exec (selectTally pollId)
    return some
      { pollId := pollId
        question := poll.question
        creator := poll.creator
        active := poll.active != 0
        options := options.map fun o => ⟨o.1, o.2.1, o.2.2⟩ }

/-- `Store::close_poll` -/
def closePoll (pollId : ℤ) (userId : String) : StoreM Bool := do
  let poll ← Auto.attempt (selectPoll pollId)
  match poll.join.map (·.creator) with
  | some creator =>
    if creator = userId then
      Auto.exec (deactivatePoll pollId)
      return true
    else return false -- not the creator
  | none => return false -- not found

/-- `Store::list_active_polls` -/
def listActivePolls (createdAt : ℤ → String) : StoreM (List (ℤ × PollRow)) :=
  .exec (selectActivePolls createdAt)

/-- `Store::create_post` -/
def createPost (now : ℤ) (userId content : String) (targetUserId : Option String) : StoreM ℤ :=
  .exec (insertPost ⟨userId, targetUserId, content, now⟩)

/-- `Store::get_timeline`: each post with its id and the number of its comments. -/
def getTimeline (userId : String) : StoreM (List (ℤ × TimelinePostRow × ℕ)) :=
  .exec (selectTimeline userId)

/-- `Store::add_comment` -/
def addComment (now : ℤ) (postId : ℤ) (userId content : String) : StoreM ℤ :=
  .exec (insertComment ⟨postId, userId, content, now⟩)

/-- `Store::get_comments` -/
def getComments (postId : ℤ) : StoreM (List (ℤ × TimelineCommentRow)) :=
  .exec (selectComments postId)

/-- `Store::delete_post` -/
def deletePost (postId : ℤ) (userId : String) : StoreM Bool := do
  -- Delete comments first (foreign key constraint), then the post.
  Auto.exec (deleteComments postId)
  let affected ← .exec (deletePosts postId userId)
  return affected > 0

/-! ## What a fetch does -/

/-- The envelopes queued for a user, by ascending id. -/
def pending (db : Database) (userId : String) : List Envelope :=
  (db.messages.select fun r => r.2.recipientId == userId).filterMap
    fun r => J.envelope.decode r.2.envelope

variable {J}

/-- The database with a user's queue removed. -/
def withoutMessages (db : Database) (userId : String) : Database :=
  { db with messages := db.messages.deleteWhere fun r => r.2.recipientId == userId }

/-- The database with one more envelope queued. -/
def withMessage (J : RelaySerde) (db : Database) (envelope : Envelope) : Database :=
  { db with messages := db.messages.insert (messageRow J envelope) }

/-- Without database errors a message is queued. -/
theorem queueMessage_faultless (envelope : Envelope) (db : Database) :
    queueMessage J envelope Auto.faultless db 0 = (.ok (), withMessage J db envelope, 1) := rfl

/-- Without database errors a fetch returns the user's queue, removes it and queues the
    delivery receipts. -/
theorem fetchMessages_faultless (userId : String) (clock : ℕ → UInt64) (db : Database) :
    ∃ n, fetchMessages J userId clock Auto.faultless db 0 =
      (.ok (pending J db userId),
        (deliveryReceipts J userId clock (pending J db userId)).foldl (withMessage J)
          (withoutMessages db userId), n) := by
  have hloop := Auto.run_loop_faultless
    (fun receipt => insertMessage (messageRow J receipt)) (withMessage J) (fun _ _ => rfl)
    (deliveryReceipts J userId clock (pending J db userId))
    (withoutMessages db userId) 2
  exact ⟨_, Auto.run_bind_ok hloop⟩

end TinTin.Server
