/-
  The relay's command layer (`tintin-server/src/main.rs`): a line of JSON is routed by its
  `cmd` and taken into the command struct of its handler.

  Here a handler ends where its command is read: `Handled` says which handler took what to the
  store. What `serde` says about a line or a payload that it does not take is left out.
-/
import TinTin.Cli.Wire

namespace TinTin.Server

open TinTin.Core TinTin.Cli TinTin.Cli.Wire

/-- `[u8; 32]` -/
abbrev Key32 := Vector UInt8 32

/-! ## Command structs -/

structure RegisterCmd where
  cmd : String
  userId : String
  identityKey : Key32
  signedPreKey : PreKeyBundle Key32

def RegisterCmd.fromValue (v : Json) : Option RegisterCmd := do
  return {
    cmd := ← v.field "cmd" string
    userId := ← v.field "user_id" string
    identityKey := ← v.field "identity_key" key
    signedPreKey := ← v.field "signed_pre_key" preKeyBundle }

structure FetchKeysCmd where
  cmd : String
  userId : String

def FetchKeysCmd.fromValue (v : Json) : Option FetchKeysCmd := do
  return { cmd := ← v.field "cmd" string, userId := ← v.field "user_id" string }

structure SendCmd where
  cmd : String
  envelope : Envelope

def SendCmd.fromValue (v : Json) : Option SendCmd := do
  return { cmd := ← v.field "cmd" string, envelope := ← v.field "envelope" Wire.envelope }

structure ReceiveCmd where
  cmd : String
  userId : String

def ReceiveCmd.fromValue (v : Json) : Option ReceiveCmd := do
  return { cmd := ← v.field "cmd" string, userId := ← v.field "user_id" string }

structure ListUsersCmd where
  cmd : String
  query : Option String

def ListUsersCmd.fromValue (v : Json) : Option ListUsersCmd := do
  return { cmd := ← v.field "cmd" string, query := ← v.optField "query" string }

/-! ### Groups -/

structure CreateGroupCmd where
  cmd : String
  name : String
  creator : String

def CreateGroupCmd.fromValue (v : Json) : Option CreateGroupCmd := do
  return {
    cmd := ← v.field "cmd" string
    name := ← v.field "name" string
    creator := ← v.field "creator" string }

structure JoinGroupCmd where
  cmd : String
  groupId : String
  userId : String

def JoinGroupCmd.fromValue (v : Json) : Option JoinGroupCmd := do
  return {
    cmd := ← v.field "cmd" string
    groupId := ← v.field "group_id" string
    userId := ← v.field "user_id" string }

structure LeaveGroupCmd where
  cmd : String
  groupId : String
  userId : String

def LeaveGroupCmd.fromValue (v : Json) : Option LeaveGroupCmd := do
  return {
    cmd := ← v.field "cmd" string
    groupId := ← v.field "group_id" string
    userId := ← v.field "user_id" string }

structure MyGroupsCmd where
  cmd : String
  userId : String

def MyGroupsCmd.fromValue (v : Json) : Option MyGroupsCmd := do
  return { cmd := ← v.field "cmd" string, userId := ← v.field "user_id" string }

structure GroupMembersCmd where
  cmd : String
  groupId : String

def GroupMembersCmd.fromValue (v : Json) : Option GroupMembersCmd := do
  return { cmd := ← v.field "cmd" string, groupId := ← v.field "group_id" string }

/-! ### Status, stories and presence -/

structure SetStatusCmd where
  cmd : String
  userId : String
  content : String

def SetStatusCmd.fromValue (v : Json) : Option SetStatusCmd := do
  return {
    cmd := ← v.field "cmd" string
    userId := ← v.field "user_id" string
    content := ← v.field "content" string }

structure ClearStatusCmd where
  cmd : String
  userId : String

def ClearStatusCmd.fromValue (v : Json) : Option ClearStatusCmd := do
  return { cmd := ← v.field "cmd" string, userId := ← v.field "user_id" string }

structure SetPresenceCmd where
  cmd : String
  userId : String
  presence : String

def SetPresenceCmd.fromValue (v : Json) : Option SetPresenceCmd := do
  return {
    cmd := ← v.field "cmd" string
    userId := ← v.field "user_id" string
    presence := ← v.field "presence" string }

/-! ### Channels -/

structure CreateChannelCmd where
  cmd : String
  name : String
  ownerId : String

def CreateChannelCmd.fromValue (v : Json) : Option CreateChannelCmd := do
  return {
    cmd := ← v.field "cmd" string
    name := ← v.field "name" string
    ownerId := ← v.field "owner_id" string }

structure SubscribeChannelCmd where
  cmd : String
  channelId : Int64
  userId : String

def SubscribeChannelCmd.fromValue (v : Json) : Option SubscribeChannelCmd := do
  return {
    cmd := ← v.field "cmd" string
    channelId := ← v.field "channel_id" i64
    userId := ← v.field "user_id" string }

structure UnsubscribeChannelCmd where
  cmd : String
  channelId : Int64
  userId : String

def UnsubscribeChannelCmd.fromValue (v : Json) : Option UnsubscribeChannelCmd := do
  return {
    cmd := ← v.field "cmd" string
    channelId := ← v.field "channel_id" i64
    userId := ← v.field "user_id" string }

structure ChannelMembersCmd where
  cmd : String
  channelId : Int64

def ChannelMembersCmd.fromValue (v : Json) : Option ChannelMembersCmd := do
  return { cmd := ← v.field "cmd" string, channelId := ← v.field "channel_id" i64 }

/-! ### Polls -/

structure CreatePollCmd where
  cmd : String
  creator : String
  question : String
  options : List String

def CreatePollCmd.fromValue (v : Json) : Option CreatePollCmd := do
  return {
    cmd := ← v.field "cmd" string
    creator := ← v.field "creator" string
    question := ← v.field "question" string
    options := ← v.field "options" (vec string) }

structure VotePollCmd where
  cmd : String
  pollId : Int64
  userId : String
  optionId : Int64

def VotePollCmd.fromValue (v : Json) : Option VotePollCmd := do
  return {
    cmd := ← v.field "cmd" string
    pollId := ← v.field "poll_id" i64
    userId := ← v.field "user_id" string
    optionId := ← v.field "option_id" i64 }

structure PollByIdCmd where
  cmd : String
  pollId : Int64

def PollByIdCmd.fromValue (v : Json) : Option PollByIdCmd := do
  return { cmd := ← v.field "cmd" string, pollId := ← v.field "poll_id" i64 }

structure ClosePollCmd where
  cmd : String
  pollId : Int64
  userId : String

def ClosePollCmd.fromValue (v : Json) : Option ClosePollCmd := do
  return {
    cmd := ← v.field "cmd" string
    pollId := ← v.field "poll_id" i64
    userId := ← v.field "user_id" string }

/-! ### Timeline -/

structure CreatePostCmd where
  cmd : String
  userId : String
  content : String
  targetUserId : Option String

def CreatePostCmd.fromValue (v : Json) : Option CreatePostCmd := do
  return {
    cmd := ← v.field "cmd" string
    userId := ← v.field "user_id" string
    content := ← v.field "content" string
    targetUserId := ← v.optField "target_user_id" string }

structure TimelineCmd where
  cmd : String
  userId : String

def TimelineCmd.fromValue (v : Json) : Option TimelineCmd := do
  return { cmd := ← v.field "cmd" string, userId := ← v.field "user_id" string }

structure AddCommentCmd where
  cmd : String
  postId : Int64
  userId : String
  content : String

def AddCommentCmd.fromValue (v : Json) : Option AddCommentCmd := do
  return {
    cmd := ← v.field "cmd" string
    postId := ← v.field "post_id" i64
    userId := ← v.field "user_id" string
    content := ← v.field "content" string }

structure PostIdCmd where
  cmd : String
  postId : Int64

def PostIdCmd.fromValue (v : Json) : Option PostIdCmd := do
  return { cmd := ← v.field "cmd" string, postId := ← v.field "post_id" i64 }

structure DeletePostCmd where
  cmd : String
  postId : Int64
  userId : String

def DeletePostCmd.fromValue (v : Json) : Option DeletePostCmd := do
  return {
    cmd := ← v.field "cmd" string
    postId := ← v.field "post_id" i64
    userId := ← v.field "user_id" string }

/-! ## Handlers -/

/-- The answers that keep a line from the store. -/
inductive Refusal
  /-- "Invalid JSON" -/
  | invalidJson
  /-- "Missing 'cmd' field" -/
  | missingCmd
  /-- "Unknown command" -/
  | unknownCommand (cmd : String)
  /-- the payload is not of the handler's struct -/
  | invalidPayload (complaint : String)
  deriving DecidableEq, Repr

/-- The handler that took a command, and the command as it read it. -/
inductive Handled
  | register (cmd : RegisterCmd)
  | fetchKeys (cmd : FetchKeysCmd)
  | send (cmd : SendCmd)
  | receive (cmd : ReceiveCmd)
  | listUsers (cmd : ListUsersCmd)
  | createGroup (cmd : CreateGroupCmd)
  | joinGroup (cmd : JoinGroupCmd)
  | leaveGroup (cmd : LeaveGroupCmd)
  | myGroups (cmd : MyGroupsCmd)
  | groupMembers (cmd : GroupMembersCmd)
  | setStatus (cmd : SetStatusCmd)
  | setPresence (cmd : SetPresenceCmd)
  | clearStatus (cmd : ClearStatusCmd)
  | getStories
  | createChannel (cmd : CreateChannelCmd)
  | subscribeChannel (cmd : SubscribeChannelCmd)
  | unsubscribeChannel (cmd : UnsubscribeChannelCmd)
  | listChannels
  | myChannels (cmd : SubscribeChannelCmd)
  | channelMembers (cmd : ChannelMembersCmd)
  | createPoll (cmd : CreatePollCmd)
  | votePoll (cmd : VotePollCmd)
  | pollResults (cmd : PollByIdCmd)
  | listPolls
  | closePoll (cmd : ClosePollCmd)
  | createPost (cmd : CreatePostCmd)
  | getTimeline (cmd : TimelineCmd)
  | addComment (cmd : AddCommentCmd)
  | deletePost (cmd : DeletePostCmd)
  | getComments (cmd : PostIdCmd)

/-- A handler's command, or its complaint about the payload. -/
def payload {α : Type} (complaint : String) (handle : α → Handled) :
    Option α → Except Refusal Handled
  | none => .error (.invalidPayload complaint)
  | some cmd => .ok (handle cmd)

def handleRegister (v : Json) : Except Refusal Handled :=
  payload "Invalid register payload" .register (RegisterCmd.fromValue v)

def handleFetchKeys (v : Json) : Except Refusal Handled :=
  payload "Invalid fetch_keys payload" .fetchKeys (FetchKeysCmd.fromValue v)

def handleSend (v : Json) : Except Refusal Handled :=
  payload "Invalid send payload" .send (SendCmd.fromValue v)

def handleReceive (v : Json) : Except Refusal Handled :=
  payload "Invalid receive payload" .receive (ReceiveCmd.fromValue v)

def handleListUsers (v : Json) : Except Refusal Handled :=
  payload "Invalid payload" .listUsers (ListUsersCmd.fromValue v)

def handleCreateGroup (v : Json) : Except Refusal Handled :=
  payload "Invalid payload" .createGroup (CreateGroupCmd.fromValue v)

def handleJoinGroup (v : Json) : Except Refusal Handled :=
  payload "Invalid payload" .joinGroup (JoinGroupCmd.fromValue v)

def handleLeaveGroup (v : Json) : Except Refusal Handled :=
  payload "Invalid payload" .leaveGroup (LeaveGroupCmd.fromValue v)

def handleMyGroups (v : Json) : Except Refusal Handled :=
  payload "Invalid payload" .myGroups (MyGroupsCmd.fromValue v)

def handleGroupMembers (v : Json) : Except Refusal Handled :=
  payload "Invalid payload" .groupMembers (GroupMembersCmd.fromValue v)

def handleSetStatus (v : Json) : Except Refusal Handled :=
  payload "Invalid payload" .setStatus (SetStatusCmd.fromValue v)

def handleSetPresence (v : Json) : Except Refusal Handled :=
  payload "Invalid payload" .setPresence (SetPresenceCmd.fromValue v)

def handleClearStatus (v : Json) : Except Refusal Handled :=
  payload "Invalid payload" .clearStatus (ClearStatusCmd.fromValue v)

def handleGetStories (_v : Json) : Except Refusal Handled :=
  .ok .getStories

def handleCreateChannel (v : Json) : Except Refusal Handled :=
  payload "Invalid payload" .createChannel (CreateChannelCmd.fromValue v)

def handleSubscribeChannel (v : Json) : Except Refusal Handled :=
  payload "Invalid payload" .subscribeChannel (SubscribeChannelCmd.fromValue v)

def handleUnsubscribeChannel (v : Json) : Except Refusal Handled :=
  payload "Invalid payload" .unsubscribeChannel (UnsubscribeChannelCmd.fromValue v)

def handleListChannels (_v : Json) : Except Refusal Handled :=
  .ok .listChannels

def handleMyChannels (v : Json) : Except Refusal Handled :=
  payload "Invalid payload" .myChannels (SubscribeChannelCmd.fromValue v)

def handleChannelMembers (v : Json) : Except Refusal Handled :=
  payload "Invalid payload" .channelMembers (ChannelMembersCmd.fromValue v)

def handleCreatePoll (v : Json) : Except Refusal Handled :=
  payload "Invalid payload" .createPoll (CreatePollCmd.fromValue v)

def handleVotePoll (v : Json) : Except Refusal Handled :=
  payload "Invalid payload" .votePoll (VotePollCmd.fromValue v)

def handlePollResults (v : Json) : Except Refusal Handled :=
  payload "Invalid payload" .pollResults (PollByIdCmd.fromValue v)

def handleListPolls (_v : Json) : Except Refusal Handled :=
  .ok .listPolls

def handleClosePoll (v : Json) : Except Refusal Handled :=
  payload "Invalid payload" .closePoll (ClosePollCmd.fromValue v)

def handleCreatePost (v : Json) : Except Refusal Handled :=
  payload "Invalid payload" .createPost (CreatePostCmd.fromValue v)

def handleGetTimeline (v : Json) : Except Refusal Handled :=
  payload "Invalid payload" .getTimeline (TimelineCmd.fromValue v)

def handleAddComment (v : Json) : Except Refusal Handled :=
  payload "Invalid payload" .addComment (AddCommentCmd.fromValue v)

def handleDeletePost (v : Json) : Except Refusal Handled :=
  payload "Invalid payload" .deletePost (DeletePostCmd.fromValue v)

def handleGetComments (v : Json) : Except Refusal Handled :=
  payload "Invalid payload" .getComments (PostIdCmd.fromValue v)

/-! ## Routing -/

/-- The routing of `handle_command`, for a value and its `cmd`. -/
def route (v : Json) : String → Except Refusal Handled
  | "register" => handleRegister v
  | "fetch_keys" => handleFetchKeys v
  | "send" => handleSend v
  | "receive" => handleReceive v
  | "list_users" => handleListUsers v
  | "create_group" => handleCreateGroup v
  | "join_group" => handleJoinGroup v
  | "leave_group" => handleLeaveGroup v
  | "my_groups" => handleMyGroups v
  | "group_members" => handleGroupMembers v
  | "set_status" => handleSetStatus v
  | "set_presence" => handleSetPresence v
  | "clear_status" => handleClearStatus v
  | "get_stories" => handleGetStories v
  | "create_channel" => handleCreateChannel v
  | "subscribe_channel" => handleSubscribeChannel v
  | "unsubscribe_channel" => handleUnsubscribeChannel v
  | "list_channels" => handleListChannels v
  | "my_channels" => handleMyChannels v
  | "channel_members" => handleChannelMembers v
  | "create_poll" => handleCreatePoll v
  | "vote_poll" => handleVotePoll v
  | "poll_results" => handlePollResults v
  | "list_polls" => handleListPolls v
  | "close_poll" => handleClosePoll v
  | "create_post" => handleCreatePost v
  | "get_timeline" => handleGetTimeline v
  | "add_comment" => handleAddComment v
  | "delete_post" => handleDeletePost v
  | "get_comments" => handleGetComments v
  | cmd => .error (.unknownCommand cmd)

/-- `handle_command`, with `serde_json::from_str` as an argument. -/
def handleCommand (fromStr : String → Option Json) (line : String) : Except Refusal Handled :=
  match fromStr line with
  | none => .error .invalidJson
  | some v =>
    match (v.get "cmd").bind Json.asStr with
    | none => .error .missingCmd
    | some cmd => route v cmd

end TinTin.Server
