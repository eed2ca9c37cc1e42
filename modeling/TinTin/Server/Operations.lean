/-
  Every operation of the store, and what it can do to the tables.

  A `Change` is what one statement does, with what its constraints or the operation around it have
  checked before: a member's group is there, a post that goes has no comments, a vote names an option
  of its poll. Every operation but `create_post` and `add_comment` is a sequence of changes
  (`Operation.moves`), whichever of its statements fail; those two add a row to the timeline or do
  nothing (`exec_createPost`, `exec_addComment`).

  A `Journal` is the database with the operations so far and what each has returned.
-/
import TinTin.Server.Store

namespace TinTin.Server

open TinTin.Lib TinTin.Core

/-! ## Operations -/

/-- A call of a function of `Store`, with its clock readings and random values. -/
inductive Operation
  | registerUser (userId : String) (identityKey : List UInt8) (signedPreKey : String)
  | createGroup (groupId name creator : String)
  | addGroupMember (groupId userId : String)
  | removeGroupMember (groupId userId : String)
  | listMyGroups (userId : String)
  | listGroupMembers (groupId : String)
  | groupExists (groupId : String)
  | createChannel (name ownerId : String)
  | subscribeChannel (channelId : ℤ) (userId : String)
  | unsubscribeChannel (channelId : ℤ) (userId : String)
  | getChannelOwner (channelId : ℤ)
  | listChannelSubscribers (channelId : ℤ)
  | listMyChannels (userId : String)
  | listAllChannels
  | setStatus (now : UInt64) (userId content : String)
  | setPresence (userId presence : String)
  | clearStatus (userId : String)
  | getActiveStatuses (now : UInt64)
  | listUsers (query : Option String)
  | getKeyBundle (userId : String)
  | queueMessage (envelope : Envelope)
  | fetchMessages (userId : String) (clock : ℕ → UInt64)
  | createPoll (creator question : String) (options : List String)
  | votePoll (pollId : ℤ) (userId : String) (optionId : ℤ)
  | pollResults (pollId : ℤ)
  | listActivePolls (createdAt : ℤ → String)
  | closePoll (pollId : ℤ) (userId : String)
  | createPost (now : ℤ) (userId content : String) (targetUserId : Option String)
  | deletePost (postId : ℤ) (userId : String)
  | getTimeline (userId : String)
  | addComment (now : ℤ) (postId : ℤ) (userId content : String)
  | getComments (postId : ℤ)

/-- An operation, of whose result the id of a new row is kept. -/
def Operation.exec (J : RelaySerde) : Operation → StoreM (Option ℤ)
  | .registerUser userId identityKey signedPreKey => do
    Server.registerUser userId identityKey signedPreKey
    return none
  | .createGroup groupId name creator => do
    let _ ← Server.createGroup groupId name creator
    return none
  | .addGroupMember groupId userId => do
    Server.addGroupMember groupId userId
    return none
  | .removeGroupMember groupId userId => do
    Server.removeGroupMember groupId userId
    return none
  | .listMyGroups userId => do
    let _ ← Server.listMyGroups userId
    return none
  | .listGroupMembers groupId => do
    let _ ← Server.listGroupMembers groupId
    return none
  | .groupExists groupId => do
    let _ ← Server.groupExists groupId
    return none
  | .createChannel name ownerId => do
    let channelId ← Server.createChannel name ownerId
    return some channelId
  | .subscribeChannel channelId userId => do
    Server.subscribeChannel channelId userId
    return none
  | .unsubscribeChannel channelId userId => do
    Server.unsubscribeChannel channelId userId
    return none
  | .getChannelOwner channelId => do
    let _ ← Server.getChannelOwner channelId
    return none
  | .listChannelSubscribers channelId => do
    let _ ← Server.listChannelSubscribers channelId
    return none
  | .listMyChannels userId => do
    let _ ← Server.listMyChannels userId
    return none
  | .listAllChannels => do
    let _ ← Server.listAllChannels
    return none
  | .setStatus now userId content => do
    let _ ← Server.setStatus now userId content
    return none
  | .setPresence userId presence => do
    Server.setPresence userId presence
    return none
  | .clearStatus userId => do
    Server.clearStatus userId
    return none
  | .getActiveStatuses now => do
    let _ ← Server.getActiveStatuses now
    return none
  | .listUsers query => do
    let _ ← Server.listUsers query
    return none
  | .getKeyBundle userId => do
    let _ ← Server.getKeyBundle id userId
    return none
  | .queueMessage envelope => do
    Server.queueMessage J envelope
    return none
  | .fetchMessages userId clock => do
    let _ ← Server.fetchMessages J userId clock
    return none
  | .createPoll creator question options => do
    let pollId ← Server.createPoll creator question options
    return some pollId
  | .votePoll pollId userId optionId => do
    let _ ← Server.votePoll pollId userId optionId
    return none
  | .pollResults pollId => do
    let _ ← Server.pollResults pollId
    return none
  | .listActivePolls createdAt => do
    let _ ← Server.listActivePolls createdAt
    return none
  | .closePoll pollId userId => do
    let _ ← Server.closePoll pollId userId
    return none
  | .createPost now userId content targetUserId => do
    let postId ← Server.createPost now userId content targetUserId
    return some postId
  | .deletePost postId userId => do
    let _ ← Server.deletePost postId userId
    return none
  | .getTimeline userId => do
    let _ ← Server.getTimeline userId
    return none
  | .addComment now postId userId content => do
    let commentId ← Server.addComment now postId userId content
    return some commentId
  | .getComments postId => do
    let _ ← Server.getComments postId
    return none

/-! ## Runs -/

/-- An operation that was run, and its result. -/
abbrev Done := Operation × Except DbError (Option ℤ)

/-- The database, and the operations so far. -/
structure Journal where
  db : Database
  entries : List Done

namespace Journal

def start : Journal := ⟨.empty, []⟩

/-- One operation, any of whose statements may fail. -/
def step (J : RelaySerde) (s : Journal) (a : Operation × Faults DbError) : Journal :=
  let (r, db, _) := a.1.exec J a.2 s.db 0
  ⟨db, s.entries ++ [(a.1, r)]⟩

def run (J : RelaySerde) (ops : List (Operation × Faults DbError)) : Journal :=
  ops.foldl (step J) start

theorem run_snoc (J : RelaySerde) (ops : List (Operation × Faults DbError))
    (a : Operation × Faults DbError) : run J (ops ++ [a]) = (run J ops).step J a := by
  unfold run
  rw [List.foldl_append]
  rfl

end Journal

/-! ## Changes -/

/-- What a statement does to the tables, other than to add to the timeline. -/
inductive Change (db : Database) : Database → Prop
  | users (users : List UserRow) : Change db { db with users := users }
  | messages (messages : AutoTable MessageRow) : Change db { db with messages := messages }
  | statuses (statuses : List StatusRow) : Change db { db with statuses := statuses }
  | addGroup (row : GroupRow) : Change db { db with groups := db.groups ++ [row] }
  | addMember (row : GroupMemberRow) (h : ∃ g ∈ db.groups, g.groupId = row.groupId) :
    Change db { db with groupMembers := db.groupMembers ++ [row] }
  | dropMembers (p : GroupMemberRow → Bool) :
    Change db { db with groupMembers := db.groupMembers.filter p }
  | addChannel (row : ChannelRow) : Change db { db with channels := db.channels.insert row }
  | addSubscriber (row : ChannelSubscriberRow) (h : ∃ c ∈ db.channels.rows, c.1 = row.channelId) :
    Change db { db with channelSubscribers := db.channelSubscribers ++ [row] }
  | dropSubscribers (p : ChannelSubscriberRow → Bool) :
    Change db { db with channelSubscribers := db.channelSubscribers.filter p }
  | addPoll (row : PollRow) : Change db { db with polls := db.polls.insert row }
  | updatePolls (p : ℤ × PollRow → Bool) (f : PollRow → PollRow) :
    Change db { db with polls := db.polls.updateWhere p f }
  | addOption (row : PollOptionRow) (h : ∃ p ∈ db.polls.rows, p.1 = row.pollId) :
    Change db { db with pollOptions := db.pollOptions.insert row }
  | vote (row : PollVoteRow) (p : PollVoteRow → Bool)
    (h : ∃ o ∈ db.pollOptions.rows, o.1 = row.optionId ∧ o.2.pollId = row.pollId) :
    Change db { db with pollVotes := db.pollVotes.filter p ++ [row] }
  | dropComments (p : ℤ × TimelineCommentRow → Bool) :
    Change db { db with timelineComments := db.timelineComments.deleteWhere p }
  | dropPosts (p : ℤ × TimelinePostRow → Bool)
    (h : ∀ r ∈ db.timelinePosts.rows, p r = true →
      ∀ c ∈ db.timelineComments.rows, c.2.postId ≠ r.1) :
    Change db { db with timelinePosts := db.timelinePosts.deleteWhere p }

/-- From `db` every statement of the program is a change, or changes nothing. -/
abbrev Changes {α : Type} (x : StoreM α) (db : Database) : Prop := Auto.Moves Change x db

namespace Operation

variable {α β : Type} {db : Database}

/-- What a query answers, and that it leaves the database alone. -/
theorem of_read {stmt : Statement α} {a b : α} {faults : Faults DbError} {n n' : ℕ}
    {db' : Database} (h : stmt db = .ok (a, db))
    (hrun : Auto.exec stmt faults db n = (.ok b, db', n')) : b = a ∧ db' = db := by
  rcases Auto.run_exec_cases stmt faults db n with ⟨e, he⟩ | ⟨c, db'', hs, hok⟩
  · rw [he] at hrun
    cases hrun
  · rw [hok] at hrun
    rw [h] at hs
    cases hs
    cases hrun
    exact ⟨rfl, rfl⟩

/-! ### Groups and channels -/

theorem changes_createGroup (groupId name creator : String) :
    Changes (Server.createGroup groupId name creator) db := by
  have hgroup : Changes (.exec (insertGroup groupId name creator)) db := by
    refine Auto.moves_step fun _ db' h => Or.inr ?_
    unfold insertGroup at h
    split at h
    · cases h
    · cases h
      exact .addGroup _
  refine Auto.moves_bind hgroup fun _ _ _ db' _ _ => Auto.moves_return ?_ _
  refine Auto.moves_step fun _ db'' h => Or.inr ?_
  unfold insertGroupMember at h
  split at h
  · cases h
  · split at h
    · cases h
    · next hthere =>
      cases h
      refine .addMember _ ?_
      simpa using hthere

theorem changes_addGroupMember (groupId userId : String) :
    Changes (Server.addGroupMember groupId userId) db := by
  refine Auto.moves_step fun _ db' h => ?_
  unfold insertOrIgnoreGroupMember at h
  split at h
  · cases h
    exact Or.inl rfl
  · split at h
    · cases h
    · next hthere =>
      cases h
      refine Or.inr (.addMember _ ?_)
      simpa using hthere

theorem changes_subscribeChannel (channelId : ℤ) (userId : String) :
    Changes (Server.subscribeChannel channelId userId) db := by
  refine Auto.moves_step fun _ db' h => ?_
  unfold insertOrIgnoreSubscriber at h
  split at h
  · cases h
    exact Or.inl rfl
  · split at h
    · cases h
    · next hthere =>
      cases h
      refine Or.inr (.addSubscriber _ ?_)
      simpa using hthere

/-! ### Messages -/

theorem changes_fetchMessages (J : RelaySerde) (userId : String) (clock : ℕ → UInt64) :
    Changes (Server.fetchMessages J userId clock) db := by
  refine Auto.moves_bind (Auto.moves_read rfl) fun _ _ _ db₁ _ _ => ?_
  refine Auto.moves_bind (Auto.moves_once rfl (.messages _)) fun _ _ _ db₂ _ _ => ?_
  refine Auto.moves_bind ?_ fun _ _ _ db₃ _ _ => Auto.moves_pure _ db₃
  exact Auto.moves_loop (P := fun _ => True) (fun _ _ _ _ => trivial)
    (fun _ _ _ => Auto.moves_once rfl (.messages _)) _ db₂ trivial

/-! ### Polls -/

theorem changes_createPoll (creator question : String) (options : List String) :
    Changes (Server.createPoll creator question options) db := by
  refine Auto.moves_bind (Auto.moves_once rfl (.addPoll _)) fun _ _ pollId db₁ _ _ => ?_
  refine Auto.moves_bind ?_ fun _ _ _ db₂ _ _ => Auto.moves_pure _ db₂
  refine Auto.moves_loop (P := fun _ => True) (fun _ _ _ _ => trivial) (fun _ _ _ => ?_) _ db₁
    trivial
  refine Auto.moves_step fun _ db' h => Or.inr ?_
  unfold insertPollOption at h
  split at h
  · cases h
  · next hthere =>
    cases h
    refine .addOption _ ?_
    simpa using hthere

/-- **A vote names an option of its poll**: it is counted before the vote is recorded. -/
theorem changes_votePoll (pollId : ℤ) (userId : String) (optionId : ℤ) :
    Changes (Server.votePoll pollId userId optionId) db := by
  refine Auto.moves_bind (Auto.moves_attempt_read rfl) fun _ _ poll db₁ _ _ => ?_
  split
  · refine Auto.moves_bind (Auto.moves_read rfl) fun _ _ count db₂ _ hrun => ?_
    obtain ⟨rfl, rfl⟩ := of_read rfl hrun
    split
    · exact Auto.moves_pure _ db₂
    · next hcount =>
      refine Auto.moves_return ?_ _
      refine Auto.moves_step fun _ db' h => Or.inr ?_
      unfold upsertVote at h
      split at h
      · cases h
      · cases h
        refine .vote _ _ ?_
        obtain ⟨o, ho⟩ := List.exists_mem_of_length_pos (Nat.pos_of_ne_zero hcount)
        obtain ⟨hmem, hkey⟩ := List.mem_filter.mp ho
        have hboth : o.1 = optionId ∧ o.2.pollId = pollId := by simpa using hkey
        exact ⟨o, hmem, hboth⟩
  · exact Auto.moves_pure _ db₁

theorem changes_pollResults (pollId : ℤ) : Changes (Server.pollResults pollId) db := by
  refine Auto.moves_bind (Auto.moves_attempt_read rfl) fun _ _ poll db₁ _ _ => ?_
  split
  · exact Auto.moves_pure _ db₁
  · exact Auto.moves_return (Auto.moves_read rfl) _

theorem changes_closePoll (pollId : ℤ) (userId : String) :
    Changes (Server.closePoll pollId userId) db := by
  refine Auto.moves_bind (Auto.moves_attempt_read rfl) fun _ _ poll db₁ _ _ => ?_
  split
  · split
    · exact Auto.moves_return (Auto.moves_once rfl (.updatePolls _ _)) _
    · exact Auto.moves_pure _ db₁
  · exact Auto.moves_pure _ db₁

/-! ### The timeline -/

theorem changes_deletePost (postId : ℤ) (userId : String) :
    Changes (Server.deletePost postId userId) db := by
  refine Auto.moves_bind (Auto.moves_once rfl (.dropComments _)) fun _ _ _ db₁ _ _ => ?_
  refine Auto.moves_return ?_ _
  refine Auto.moves_step fun _ db' h => Or.inr ?_
  unfold deletePosts at h
  dsimp only at h
  split at h
  · cases h
  · next hnone =>
    cases h
    refine .dropPosts _ fun r hr hp c hc heq => hnone ?_
    refine List.any_eq_true.mpr ⟨r, List.mem_filter.mpr ⟨hr, hp⟩, ?_⟩
    exact List.any_eq_true.mpr ⟨c, hc, by simpa using heq⟩

/-- The operation adds nothing to the timeline. -/
def IsOrdinary : Operation → Prop
  | .createPost _ _ _ _ => False
  | .addComment _ _ _ _ => False
  | _ => True

/-- **What the operations do**, but for the two that add to the timeline: changes, however many of
    their statements fail. -/
theorem moves (J : RelaySerde) {op : Operation} (hop : op.IsOrdinary) (db : Database) :
    Changes (op.exec J) db := by
  cases op with
  | registerUser userId identityKey signedPreKey =>
    exact Auto.moves_return (Auto.moves_once rfl (.users _)) _
  | createGroup groupId name creator => exact Auto.moves_return (changes_createGroup _ _ _) _
  | addGroupMember groupId userId => exact Auto.moves_return (changes_addGroupMember _ _) _
  | removeGroupMember groupId userId =>
    exact Auto.moves_return (Auto.moves_once rfl (.dropMembers _)) _
  | createChannel name ownerId => exact Auto.moves_return (Auto.moves_once rfl (.addChannel _)) _
  | subscribeChannel channelId userId => exact Auto.moves_return (changes_subscribeChannel _ _) _
  | unsubscribeChannel channelId userId =>
    exact Auto.moves_return (Auto.moves_once rfl (.dropSubscribers _)) _
  | setStatus now userId content =>
    exact Auto.moves_return (Auto.moves_return (Auto.moves_once rfl (.statuses _)) _) _
  | setPresence userId presence => exact Auto.moves_return (Auto.moves_once rfl (.users _)) _
  | clearStatus userId => exact Auto.moves_return (Auto.moves_once rfl (.statuses _)) _
  | queueMessage envelope => exact Auto.moves_return (Auto.moves_once rfl (.messages _)) _
  | fetchMessages userId clock => exact Auto.moves_return (changes_fetchMessages J _ _) _
  | createPoll creator question options => exact Auto.moves_return (changes_createPoll _ _ _) _
  | votePoll pollId userId optionId => exact Auto.moves_return (changes_votePoll _ _ _) _
  | pollResults pollId => exact Auto.moves_return (changes_pollResults _) _
  | closePoll pollId userId => exact Auto.moves_return (changes_closePoll _ _) _
  | deletePost postId userId => exact Auto.moves_return (changes_deletePost _ _) _
  | createPost now userId content targetUserId => exact hop.elim
  | addComment now postId userId content => exact hop.elim
  | groupExists groupId => exact Auto.moves_return (Auto.moves_return (Auto.moves_read rfl) _) _
  | getKeyBundle userId => exact Auto.moves_return (Auto.moves_return (Auto.moves_read rfl) _) _
  | listMyGroups _ | listGroupMembers _ | getChannelOwner _ | listChannelSubscribers _
  | listMyChannels _ | listAllChannels | getActiveStatuses _ | listUsers _ | listActivePolls _
  | getTimeline _ | getComments _ => exact Auto.moves_return (Auto.moves_read rfl) _

/-- **A new post** gets the next id; an error leaves everything alone. -/
theorem exec_createPost (J : RelaySerde) (now : ℤ) (userId content : String)
    (targetUserId : Option String) (faults : Faults DbError) (db : Database) :
    (∃ e n, (createPost now userId content targetUserId).exec J faults db 0 =
        (.error e, db, n)) ∨
      ∃ n, (createPost now userId content targetUserId).exec J faults db 0 =
        (.ok (some (db.timelinePosts.lastId + 1)), { db with
          timelinePosts := db.timelinePosts.insert ⟨userId, targetUserId, content, now⟩ }, n) := by
  rcases Auto.run_exec_cases (insertPost ⟨userId, targetUserId, content, now⟩) faults db 0 with
    ⟨e, he⟩ | ⟨a, db', hs, hok⟩
  · exact Or.inl ⟨e, _, Auto.run_bind_error he⟩
  · cases hs
    exact Or.inr ⟨_, Auto.run_bind_ok hok⟩

/-- **A new comment** gets the next id, and its post is there; an error leaves everything
    alone. -/
theorem exec_addComment (J : RelaySerde) (now postId : ℤ) (userId content : String)
    (faults : Faults DbError) (db : Database) :
    (∃ e n, (addComment now postId userId content).exec J faults db 0 = (.error e, db, n)) ∨
      (∃ p ∈ db.timelinePosts.rows, p.1 = postId) ∧
      ∃ n, (addComment now postId userId content).exec J faults db 0 =
        (.ok (some (db.timelineComments.lastId + 1)), { db with
          timelineComments := db.timelineComments.insert ⟨postId, userId, content, now⟩ }, n) := by
  rcases Auto.run_exec_cases (insertComment ⟨postId, userId, content, now⟩) faults db 0 with
    ⟨e, he⟩ | ⟨a, db', hs, hok⟩
  · exact Or.inl ⟨e, _, Auto.run_bind_error he⟩
  · unfold insertComment at hs
    split at hs
    · cases hs
    · next hthere =>
      cases hs
      exact Or.inr ⟨by simpa using hthere, _, Auto.run_bind_ok hok⟩

end Operation

end TinTin.Server
