/-
  The requests of the terminal client against the command layer of the relay.

  `Method` lists the methods of `TinTinClient` that build a request, with what they put into
  it besides the client's own id and keys; `Client.request` is the object each one sends.

  * `request_accepted_iff`: the relay takes every request as what it was meant to ask, the one
    of `list_my_channels` apart, which it answers with "Invalid payload".
-/
import TinTin.Server.Commands
import TinTin.Cli.Text

namespace TinTin.Apps

open TinTin.Lib TinTin.Core TinTin.Cli TinTin.Cli.Json TinTin.Cli.Wire TinTin.Server

/-! ## Requests -/

/-- The methods of `TinTinClient` that build a request. -/
inductive Method
  | register
  | fetchBundle (userId : String)
  /-- `send_message`, and every other method that has an envelope queued -/
  | send (envelope : Envelope)
  | receiveMessages
  | listUsers
  | setMyPresence (presence : String)
  | createGroup (name : String)
  | joinGroup (groupId : String)
  | leaveGroup (groupId : String)
  | syncGroups
  | groupMembers (groupId : String)
  | createChannel (name : String)
  | subscribeChannel (channelId : Int64)
  | unsubscribeChannel (channelId : Int64)
  | listAllChannels
  | listMyChannels
  | channelMembers (channelId : Int64)
  | createPoll (question : String) (options : List String)
  | votePoll (pollId optionId : Int64)
  | pollResults (pollId : Int64)
  | listPolls
  | closePoll (pollId : Int64)
  | postToTimeline (content : String) (targetUser : Option String)
  | getTimelinePosts
  | addComment (postId : Int64) (content : String)
  | getPostComments (postId : Int64)
  | deletePost (postId : Int64)
  | setStory (content : String)
  | clearStory
  | getStories
  deriving DecidableEq

/-- The object a method sends. -/
def request (c : Client Key32) : Method → Json
  | .register => obj [
      ("cmd", string.encode "register"),
      ("user_id", string.encode c.userId),
      ("identity_key", key.encode c.identity.publicKey),
      ("signed_pre_key", preKeyBundle.encode c.register)]
  | .fetchBundle userId => obj [
      ("cmd", string.encode "fetch_keys"),
      ("user_id", string.encode userId)]
  | .send envelope => obj [
      ("cmd", string.encode "send"),
      ("envelope", Wire.envelope.encode envelope)]
  | .receiveMessages => obj [
      ("cmd", string.encode "receive"),
      ("user_id", string.encode c.userId)]
  | .listUsers => obj [("cmd", string.encode "list_users")]
  | .setMyPresence presence => obj [
      ("cmd", string.encode "set_presence"),
      ("user_id", string.encode c.userId),
      ("presence", string.encode presence)]
  | .createGroup name => obj [
      ("cmd", string.encode "create_group"),
      ("name", string.encode name),
      ("creator", string.encode c.userId)]
  | .joinGroup groupId => obj [
      ("cmd", string.encode "join_group"),
      ("group_id", string.encode groupId),
      ("user_id", string.encode c.userId)]
  | .leaveGroup groupId => obj [
      ("cmd", string.encode "leave_group"),
      ("group_id", string.encode groupId),
      ("user_id", string.encode c.userId)]
  | .syncGroups => obj [
      ("cmd", string.encode "my_groups"),
      ("user_id", string.encode c.userId)]
  | .groupMembers groupId => obj [
      ("cmd", string.encode "group_members"),
      ("group_id", string.encode groupId)]
  | .createChannel name => obj [
      ("cmd", string.encode "create_channel"),
      ("name", string.encode name),
      ("owner_id", string.encode c.userId)]
  | .subscribeChannel channelId => obj [
      ("cmd", string.encode "subscribe_channel"),
      ("channel_id", i64.encode channelId),
      ("user_id", string.encode c.userId)]
  | .unsubscribeChannel channelId => obj [
      ("cmd", string.encode "unsubscribe_channel"),
      ("channel_id", i64.encode channelId),
      ("user_id", string.encode c.userId)]
  | .listAllChannels => obj [("cmd", string.encode "list_channels")]
  | .listMyChannels => obj [
      ("cmd", string.encode "my_channels"),
      ("user_id", string.encode c.userId)]
  | .channelMembers channelId => obj [
      ("cmd", string.encode "channel_members"),
      ("channel_id", i64.encode channelId)]
  | .createPoll question options => obj [
      ("cmd", string.encode "create_poll"),
      ("creator", string.encode c.userId),
      ("question", string.encode question),
      ("options", (vec string).encode options)]
  | .votePoll pollId optionId => obj [
      ("cmd", string.encode "vote_poll"),
      ("poll_id", i64.encode pollId),
      ("user_id", string.encode c.userId),
      ("option_id", i64.encode optionId)]
  | .pollResults pollId => obj [
      ("cmd", string.encode "poll_results"),
      ("poll_id", i64.encode pollId)]
  | .listPolls => obj [("cmd", string.encode "list_polls")]
  | .closePoll pollId => obj [
      ("cmd", string.encode "close_poll"),
      ("poll_id", i64.encode pollId),
      ("user_id", string.encode c.userId)]
  | .postToTimeline content targetUser => obj ([
      ("cmd", string.encode "create_post"),
      ("user_id", string.encode c.userId),
      ("content", string.encode content)] ++
      match targetUser with
      | none => []
      | some tu => [("target_user_id", string.encode tu)])
  | .getTimelinePosts => obj [
      ("cmd", string.encode "get_timeline"),
      ("user_id", string.encode c.userId)]
  | .addComment postId content => obj [
      ("cmd", string.encode "add_comment"),
      ("post_id", i64.encode postId),
      ("user_id", string.encode c.userId),
      ("content", string.encode content)]
  | .getPostComments postId => obj [
      ("cmd", string.encode "get_comments"),
      ("post_id", i64.encode postId)]
  | .deletePost postId => obj [
      ("cmd", string.encode "delete_post"),
      ("post_id", i64.encode postId),
      ("user_id", string.encode c.userId)]
  | .setStory content => obj [
      ("cmd", string.encode "set_status"),
      ("user_id", string.encode c.userId),
      ("content", string.encode content)]
  | .clearStory => obj [
      ("cmd", string.encode "clear_status"),
      ("user_id", string.encode c.userId)]
  | .getStories => obj [("cmd", string.encode "get_stories")]

/-- A handler took a command that asks what the method was called for. -/
def Asks (c : Client Key32) (h : Handled) : Method → Prop
  | .register => h = .register ⟨"register", c.userId, c.identity.publicKey, c.register⟩
  | .fetchBundle userId => h = .fetchKeys ⟨"fetch_keys", userId⟩
  | .send envelope => h = .send ⟨"send", envelope⟩
  | .receiveMessages => h = .receive ⟨"receive", c.userId⟩
  | .listUsers => h = .listUsers ⟨"list_users", none⟩
  | .setMyPresence presence => h = .setPresence ⟨"set_presence", c.userId, presence⟩
  | .createGroup name => h = .createGroup ⟨"create_group", name, c.userId⟩
  | .joinGroup groupId => h = .joinGroup ⟨"join_group", groupId, c.userId⟩
  | .leaveGroup groupId => h = .leaveGroup ⟨"leave_group", groupId, c.userId⟩
  | .syncGroups => h = .myGroups ⟨"my_groups", c.userId⟩
  | .groupMembers groupId => h = .groupMembers ⟨"group_members", groupId⟩
  | .createChannel name => h = .createChannel ⟨"create_channel", name, c.userId⟩
  | .subscribeChannel channelId =>
    h = .subscribeChannel ⟨"subscribe_channel", channelId, c.userId⟩
  | .unsubscribeChannel channelId =>
    h = .unsubscribeChannel ⟨"unsubscribe_channel", channelId, c.userId⟩
  | .listAllChannels => h = .listChannels
  -- whatever channel the handler's struct names
  | .listMyChannels => ∃ channelId, h = .myChannels ⟨"my_channels", channelId, c.userId⟩
  | .channelMembers channelId => h = .channelMembers ⟨"channel_members", channelId⟩
  | .createPoll question options =>
    h = .createPoll ⟨"create_poll", c.userId, question, options⟩
  | .votePoll pollId optionId => h = .votePoll ⟨"vote_poll", pollId, c.userId, optionId⟩
  | .pollResults pollId => h = .pollResults ⟨"poll_results", pollId⟩
  | .listPolls => h = .listPolls
  | .closePoll pollId => h = .closePoll ⟨"close_poll", pollId, c.userId⟩
  | .postToTimeline content targetUser =>
    h = .createPost ⟨"create_post", c.userId, content, targetUser⟩
  | .getTimelinePosts => h = .getTimeline ⟨"get_timeline", c.userId⟩
  | .addComment postId content => h = .addComment ⟨"add_comment", postId, c.userId, content⟩
  | .getPostComments postId => h = .getComments ⟨"get_comments", postId⟩
  | .deletePost postId => h = .deletePost ⟨"delete_post", postId, c.userId⟩
  | .setStory content => h = .setStatus ⟨"set_status", c.userId, content⟩
  | .clearStory => h = .clearStatus ⟨"clear_status", c.userId⟩
  | .getStories => h = .getStories

/-! ## What the relay makes of them -/

theorem handleCommand_of_route {fromStr : String → Option Json} {line : String} {v : Json}
    {answer : Except Refusal Handled} (cmd : String) (hread : fromStr line = some v)
    (hcmd : v.get "cmd" = some (string.encode cmd)) (hroute : route v cmd = answer) :
    handleCommand fromStr line = answer := by
  unfold handleCommand
  rw [hread]
  dsimp only
  rw [hcmd]
  exact hroute

/-- A handler takes a command that is of its struct. -/
theorem taken {α : Type} {fromStr : String → Option Json} {line : String} {v : Json}
    {complaint : String} {handle : α → Handled} {read : Option α} {taken : α} (cmd : String)
    (hread : fromStr line = some v) (hcmd : v.get "cmd" = some (string.encode cmd))
    (hroute : route v cmd = payload complaint handle read) (hcommand : read = some taken) :
    handleCommand fromStr line = .ok (handle taken) := by
  rw [handleCommand_of_route cmd hread hcmd hroute, hcommand]
  rfl

theorem request_taken {c : Client Key32} {m : Method} (hm : m ≠ .listMyChannels)
    {fromStr : String → Option Json} {line : String}
    (hread : fromStr line = some (request c m)) :
    ∃ h, handleCommand fromStr line = .ok h ∧ Asks c h m := by
  cases m with
  | register =>
    exact ⟨_, taken "register" hread (by simp [request, get_obj]) rfl
      (by simp [request, RegisterCmd.fromValue, Json.field, get_obj]), rfl⟩
  | fetchBundle userId =>
    exact ⟨_, taken "fetch_keys" hread (by simp [request, get_obj]) rfl
      (by simp [request, FetchKeysCmd.fromValue, Json.field, get_obj]), rfl⟩
  | send envelope =>
    exact ⟨_, taken "send" hread (by simp [request, get_obj]) rfl
      (by simp [request, SendCmd.fromValue, Json.field, get_obj]), rfl⟩
  | receiveMessages =>
    exact ⟨_, taken "receive" hread (by simp [request, get_obj]) rfl
      (by simp [request, ReceiveCmd.fromValue, Json.field, get_obj]), rfl⟩
  | listUsers =>
    have hroute : route (request c .listUsers) "list_users" =
        payload "Invalid payload" .listUsers (ListUsersCmd.fromValue (request c .listUsers)) := rfl
    exact ⟨_, taken "list_users" hread (by simp [request, get_obj]) hroute
      (by simp [request, ListUsersCmd.fromValue, Json.field, optField, asOption, get_obj]), rfl⟩
  | setMyPresence presence =>
    exact ⟨_, taken "set_presence" hread (by simp [request, get_obj]) rfl
      (by simp [request, SetPresenceCmd.fromValue, Json.field, get_obj]), rfl⟩
  | createGroup name =>
    exact ⟨_, taken "create_group" hread (by simp [request, get_obj]) rfl
      (by simp [request, CreateGroupCmd.fromValue, Json.field, get_obj]), rfl⟩
  | joinGroup groupId =>
    exact ⟨_, taken "join_group" hread (by simp [request, get_obj]) rfl
      (by simp [request, JoinGroupCmd.fromValue, Json.field, get_obj]), rfl⟩
  | leaveGroup groupId =>
    exact ⟨_, taken "leave_group" hread (by simp [request, get_obj]) rfl
      (by simp [request, LeaveGroupCmd.fromValue, Json.field, get_obj]), rfl⟩
  | syncGroups =>
    exact ⟨_, taken "my_groups" hread (by simp [request, get_obj]) rfl
      (by simp [request, MyGroupsCmd.fromValue, Json.field, get_obj]), rfl⟩
  | groupMembers groupId =>
    exact ⟨_, taken "group_members" hread (by simp [request, get_obj]) rfl
      (by simp [request, GroupMembersCmd.fromValue, Json.field, get_obj]), rfl⟩
  | createChannel name =>
    exact ⟨_, taken "create_channel" hread (by simp [request, get_obj]) rfl
      (by simp [request, CreateChannelCmd.fromValue, Json.field, get_obj]), rfl⟩
  | subscribeChannel channelId =>
    exact ⟨_, taken "subscribe_channel" hread (by simp [request, get_obj]) rfl
      (by simp [request, SubscribeChannelCmd.fromValue, Json.field, get_obj]), rfl⟩
  | unsubscribeChannel channelId =>
    exact ⟨_, taken "unsubscribe_channel" hread (by simp [request, get_obj]) rfl
      (by simp [request, UnsubscribeChannelCmd.fromValue, Json.field, get_obj]), rfl⟩
  | listAllChannels =>
    exact ⟨_, handleCommand_of_route "list_channels" hread (by simp [request, get_obj]) rfl, rfl⟩
  | listMyChannels => exact absurd rfl hm
  | channelMembers channelId =>
    exact ⟨_, taken "channel_members" hread (by simp [request, get_obj]) rfl
      (by simp [request, ChannelMembersCmd.fromValue, Json.field, get_obj]), rfl⟩
  | createPoll question options =>
    exact ⟨_, taken "create_poll" hread (by simp [request, get_obj]) rfl
      (by simp [request, CreatePollCmd.fromValue, Json.field, get_obj]), rfl⟩
  | votePoll pollId optionId =>
    exact ⟨_, taken "vote_poll" hread (by simp [request, get_obj]) rfl
      (by simp [request, VotePollCmd.fromValue, Json.field, get_obj]), rfl⟩
  | pollResults pollId =>
    exact ⟨_, taken "poll_results" hread (by simp [request, get_obj]) rfl
      (by simp [request, PollByIdCmd.fromValue, Json.field, get_obj]), rfl⟩
  | listPolls =>
    exact ⟨_, handleCommand_of_route "list_polls" hread (by simp [request, get_obj]) rfl, rfl⟩
  | closePoll pollId =>
    exact ⟨_, taken "close_poll" hread (by simp [request, get_obj]) rfl
      (by simp [request, ClosePollCmd.fromValue, Json.field, get_obj]), rfl⟩
  | postToTimeline content targetUser =>
    cases targetUser with
    | none =>
      exact ⟨_, taken "create_post" hread (by simp [request, get_obj]) rfl
        (by simp [request, CreatePostCmd.fromValue, Json.field, optField, asOption, get_obj]), rfl⟩
    | some tu =>
      have htarget : asOption string (some (string.encode tu)) = some (some tu) := rfl
      exact ⟨_, taken "create_post" hread (by simp [request, get_obj]) rfl
        (by simp [request, CreatePostCmd.fromValue, Json.field, optField, get_obj, htarget]), rfl⟩
  | getTimelinePosts =>
    exact ⟨_, taken "get_timeline" hread (by simp [request, get_obj]) rfl
      (by simp [request, TimelineCmd.fromValue, Json.field, get_obj]), rfl⟩
  | addComment postId content =>
    exact ⟨_, taken "add_comment" hread (by simp [request, get_obj]) rfl
      (by simp [request, AddCommentCmd.fromValue, Json.field, get_obj]), rfl⟩
  | getPostComments postId =>
    exact ⟨_, taken "get_comments" hread (by simp [request, get_obj]) rfl
      (by simp [request, PostIdCmd.fromValue, Json.field, get_obj]), rfl⟩
  | deletePost postId =>
    exact ⟨_, taken "delete_post" hread (by simp [request, get_obj]) rfl
      (by simp [request, DeletePostCmd.fromValue, Json.field, get_obj]), rfl⟩
  | setStory content =>
    exact ⟨_, taken "set_status" hread (by simp [request, get_obj]) rfl
      (by simp [request, SetStatusCmd.fromValue, Json.field, get_obj]), rfl⟩
  | clearStory =>
    exact ⟨_, taken "clear_status" hread (by simp [request, get_obj]) rfl
      (by simp [request, ClearStatusCmd.fromValue, Json.field, get_obj]), rfl⟩
  | getStories =>
    exact ⟨_, handleCommand_of_route "get_stories" hread (by simp [request, get_obj]) rfl, rfl⟩

theorem my_channels_refused {c : Client Key32} {fromStr : String → Option Json} {line : String}
    (hread : fromStr line = some (request c .listMyChannels)) :
    handleCommand fromStr line = .error (.invalidPayload "Invalid payload") := by
  have hcmd : SubscribeChannelCmd.fromValue (request c .listMyChannels) = none := by
    simp [request, SubscribeChannelCmd.fromValue, Json.field, get_obj]
  have hroute : route (request c .listMyChannels) "my_channels" =
      payload "Invalid payload" .myChannels
        (SubscribeChannelCmd.fromValue (request c .listMyChannels)) := rfl
  rw [hcmd] at hroute
  exact handleCommand_of_route "my_channels" hread (by simp [request, get_obj]) hroute

/-- **A request is taken for what it asks unless it is the one for the client's channels**, for
    every client and every argument, once the line of JSON is read back as it was written. -/
theorem request_accepted_iff (c : Client Key32) (m : Method) (toString : Json → String)
    (fromStr : String → Option Json)
    (hread : fromStr (toString (request c m)) = some (request c m)) :
    (∃ h, handleCommand fromStr (toString (request c m)) = .ok h ∧ Asks c h m) ↔
      m ≠ .listMyChannels := by
  constructor
  · rintro ⟨h, hok, -⟩ rfl
    rw [my_channels_refused hread] at hok
    cases hok
  · exact fun hm => request_taken hm hread

/-! ## Cases -/

/-- A client that has talked to nobody. -/
def lonelyClient : Client Key32 where
  userId := "alice"
  identity := ⟨⟨.replicate 32 1, .replicate 32 2⟩⟩
  signedPreKey := ⟨1, ⟨.replicate 32 3, .replicate 32 4⟩, []⟩
  sessions := .new
  sentMessages := []
  chatLog := []
  pendingFiles := ∅
  activeCall := none
  downloads := []

/-- The compact text of a flat object, read back. -/
def readLine (line : String) : Option Json := readFlat (utf8 line)

theorem vote_request : request lonelyClient (.votePoll 7 2) = .object [
    ("cmd", .string "vote_poll"), ("option_id", .number (.posInt 2)),
    ("poll_id", .number (.posInt 7)), ("user_id", .string "alice")] := by
  simp only [request, obj, insertMember, List.foldl_cons, List.foldl_nil]
  rfl

theorem readLine_flatText {v : Json} {members : List (String × Json)} (hv : v = .object members)
    (h : Flat members) : readLine (flatText v) = some v := by
  subst hv
  exact readFlat_flatText h

theorem request_accepted_iff_vote :
    (∃ h, handleCommand readLine (flatText (request lonelyClient (.votePoll 7 2))) = .ok h ∧
      Asks lonelyClient h (.votePoll 7 2)) ↔ Method.votePoll 7 2 ≠ .listMyChannels :=
  request_accepted_iff lonelyClient (.votePoll 7 2) flatText readLine
    (readLine_flatText vote_request ⟨by decide, by decide⟩)

theorem my_channels_request : request lonelyClient .listMyChannels = .object [
    ("cmd", .string "my_channels"), ("user_id", .string "alice")] := by
  simp only [request, obj, insertMember, List.foldl_cons, List.foldl_nil]
  rfl

/-- A user's request for its own channels is well-formed JSON and no payload of its handler. -/
theorem my_channels_not_listed :
    readLine (flatText (request lonelyClient .listMyChannels)) =
        some (request lonelyClient .listMyChannels) ∧
      handleCommand readLine (flatText (request lonelyClient .listMyChannels)) =
        .error (.invalidPayload "Invalid payload") ∧
      ¬ ∃ h, handleCommand readLine (flatText (request lonelyClient .listMyChannels)) = .ok h ∧
        Asks lonelyClient h .listMyChannels := by
  have hread := readLine_flatText my_channels_request ⟨by decide, by decide⟩
  have hrefused := my_channels_refused hread
  refine ⟨hread, hrefused, ?_⟩
  rintro ⟨h, hok, -⟩
  rw [hrefused] at hok
  cases hok

end TinTin.Apps
