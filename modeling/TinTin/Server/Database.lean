/-
  The tables of the relay's SQLite database, and the statements that change them.

  One record a table, with the columns the modelled statements read or write (the
  `created_at` columns that SQLite fills in by itself are left out). Tables whose key is
  `INTEGER PRIMARY KEY AUTOINCREMENT` are `AutoTable`s; the others are lists of rows, with
  their primary key checked by the statement that inserts.

  Each statement is `Database → Except DbError (α × Database)`: an error carries no new
  state, as one SQLite statement is atomic. Primary keys and `REFERENCES` clauses are
  enforced: rusqlite's bundled build turns foreign keys on.
-/
import TinTin.Lib.AutoTable
import TinTin.Lib.Autocommit
import Mathlib.Data.List.Sort

namespace TinTin.Server

open TinTin.Lib

/-! ## Rows -/

structure UserRow where
  userId : String
  identityKey : List UInt8
  signedPreKey : String
  presence : String
  deriving DecidableEq, Repr

structure MessageRow where
  senderId : String
  recipientId : String
  envelope : String
  deriving DecidableEq, Repr

structure GroupRow where
  groupId : String
  name : String
  creator : String
  deriving DecidableEq, Repr

structure GroupMemberRow where
  groupId : String
  userId : String
  role : String
  deriving DecidableEq, Repr

structure StatusRow where
  userId : String
  content : String
  createdAt : ℤ
  deriving DecidableEq, Repr

structure ChannelRow where
  name : String
  ownerId : String
  deriving DecidableEq, Repr

structure ChannelSubscriberRow where
  channelId : ℤ
  userId : String
  deriving DecidableEq, Repr

structure PollRow where
  creator : String
  question : String
  active : ℤ
  deriving DecidableEq, Repr

structure PollOptionRow where
  pollId : ℤ
  optionText : String
  deriving DecidableEq, Repr

structure PollVoteRow where
  pollId : ℤ
  userId : String
  optionId : ℤ
  deriving DecidableEq, Repr

structure TimelinePostRow where
  userId : String
  targetUserId : Option String
  content : String
  createdAt : ℤ
  deriving DecidableEq, Repr

structure TimelineCommentRow where
  postId : ℤ
  userId : String
  content : String
  createdAt : ℤ
  deriving DecidableEq, Repr

/-- All tables of the schema. -/
structure Database where
  users : List UserRow
  messages : AutoTable MessageRow
  groups : List GroupRow
  groupMembers : List GroupMemberRow
  statuses : List StatusRow
  channels : AutoTable ChannelRow
  channelSubscribers : List ChannelSubscriberRow
  polls : AutoTable PollRow
  pollOptions : AutoTable PollOptionRow
  pollVotes : List PollVoteRow
  timelinePosts : AutoTable TimelinePostRow
  timelineComments : AutoTable TimelineCommentRow

/-- A database with the schema's tables and no rows. -/
def Database.empty : Database where
  users := []
  messages := .empty
  groups := []
  groupMembers := []
  statuses := []
  channels := .empty
  channelSubscribers := []
  polls := .empty
  pollOptions := .empty
  pollVotes := []
  timelinePosts := .empty
  timelineComments := .empty

/-- Errors of a statement. -/
inductive DbError
  /-- a primary key or a foreign key is violated -/
  | constraint
  /-- anything else: I/O, a full disk, a locked file -/
  | failure
  deriving DecidableEq, Repr

/-! ## Statements -/

/-- A statement on the database. -/
abbrev Statement (α : Type) := Database → Except DbError (α × Database)

/-- `ORDER BY` a text: by its bytes, which is by its characters. Rows with equal texts come in
    the order of the scan. -/
def orderBy {α : Type} (text : α → String) (rows : List α) : List α :=
  rows.insertionSort fun a b => text a ≤ text b

/-- `ORDER BY` a key, `DESC`. -/
def orderByDesc {α κ : Type} [LE κ] [DecidableLE κ] (key : α → κ) (rows : List α) : List α :=
  rows.insertionSort fun a b => key b ≤ key a

/-- `text LIKE pattern`: a `%` stands for any text and a `_` for any character; the case of
    ASCII letters does not matter. -/
def like : List Char → List Char → Bool
  | [], text => text.isEmpty
  | '%' :: pattern, text => text.tails.any (like pattern)
  | '_' :: pattern, text => !text.isEmpty && like pattern text.tail
  | c :: pattern, text => text.head?.map Char.toLower == some c.toLower && like pattern text.tail

/-- `INSERT OR REPLACE INTO users (user_id, identity_key, signed_pre_key) VALUES (?1, ?2, ?3)`: a
    row under the key goes, and the presence is the default. -/
def upsertUser (userId : String) (identityKey : List UInt8) (signedPreKey : String) :
    Statement Unit := fun db =>
  .ok ((), { db with users := db.users.filter (fun u => !(u.userId == userId)) ++
    [⟨userId, identityKey, signedPreKey, "offline"⟩] })

/-- `UPDATE users SET presence = ?1 WHERE user_id = ?2` -/
def updatePresence (userId presence : String) : Statement Unit := fun db =>
  .ok ((), { db with users := db.users.map fun u =>
    if u.userId == userId then { u with presence := presence } else u })

/-- `SELECT identity_key, signed_pre_key FROM users WHERE user_id = ?1`, the first row. -/
def selectUser (userId : String) : Statement (Option UserRow) := fun db =>
  .ok (db.users.find? (·.userId == userId), db)

/-- `SELECT user_id, presence FROM users ORDER BY user_id`, with `WHERE user_id LIKE ?1` before
    the order if there is a pattern. -/
def selectUsers (pattern : Option String) : Statement (List (String × String)) := fun db =>
  .ok (orderBy (·.1) ((db.users.filter fun u =>
    pattern.all fun p => like p.toList u.userId.toList).map fun u => (u.userId, u.presence)), db)

/-- `INSERT OR REPLACE INTO statuses (user_id, content, created_at) VALUES (?1, ?2, ?3)` -/
def upsertStatus (row : StatusRow) : Statement Unit := fun db =>
  .ok ((), { db with
    statuses := db.statuses.filter (fun r => !(r.userId == row.userId)) ++ [row] })

/-- `DELETE FROM statuses WHERE user_id = ?1` -/
def deleteStatus (userId : String) : Statement Unit := fun db =>
  .ok ((), { db with statuses := db.statuses.filter fun r => !(r.userId == userId) })

/-- `SELECT user_id, content, created_at FROM statuses WHERE created_at > ?1 ORDER BY created_at
    DESC` -/
def selectStatuses (cutoff : ℤ) : Statement (List StatusRow) := fun db =>
  .ok (orderByDesc (·.createdAt) (db.statuses.filter (cutoff < ·.createdAt)), db)

/-- `SELECT id, envelope FROM messages WHERE recipient_id = ?1 ORDER BY id` -/
def selectMessages (userId : String) : Statement (List (ℤ × MessageRow)) := fun db =>
  .ok (db.messages.select fun r => r.2.recipientId == userId, db)

/-- `DELETE FROM messages WHERE recipient_id = ?1` -/
def deleteMessages (userId : String) : Statement Unit := fun db =>
  .ok ((), { db with messages := db.messages.deleteWhere fun r => r.2.recipientId == userId })

/-- `INSERT INTO messages (sender_id, recipient_id, envelope) VALUES (?1, ?2, ?3)` -/
def insertMessage (row : MessageRow) : Statement Unit := fun db =>
  .ok ((), { db with messages := db.messages.insert row })

/-- `INSERT INTO groups (group_id, name, creator) VALUES (?1, ?2, ?3)` -/
def insertGroup (groupId name creator : String) : Statement Unit := fun db =>
  if db.groups.any (·.groupId == groupId) then .error .constraint
  else .ok ((), { db with groups := db.groups ++ [⟨groupId, name, creator⟩] })

/-- `INSERT INTO group_members (group_id, user_id, role) VALUES (?1, ?2, ?3)` -/
def insertGroupMember (groupId userId role : String) : Statement Unit := fun db =>
  if db.groupMembers.any (fun m => m.groupId == groupId && m.userId == userId) then
    .error .constraint
  else if !db.groups.any (·.groupId == groupId) then .error .constraint
  else .ok ((), { db with groupMembers := db.groupMembers ++ [⟨groupId, userId, role⟩] })

/-- `INSERT OR IGNORE INTO group_members (group_id, user_id, role) VALUES (?1, ?2, ?3)`: a row
    under the key stays as it is. `OR IGNORE` does not extend to the `REFERENCES` clause. -/
def insertOrIgnoreGroupMember (groupId userId role : String) : Statement Unit := fun db =>
  if db.groupMembers.any (fun m => m.groupId == groupId && m.userId == userId) then .ok ((), db)
  else if !db.groups.any (·.groupId == groupId) then .error .constraint
  else .ok ((), { db with groupMembers := db.groupMembers ++ [⟨groupId, userId, role⟩] })

/-- `DELETE FROM group_members WHERE group_id = ?1 AND user_id = ?2` -/
def deleteGroupMember (groupId userId : String) : Statement Unit := fun db =>
  .ok ((), { db with
    groupMembers := db.groupMembers.filter fun m => !(m.groupId == groupId && m.userId == userId) })

/-- `SELECT COUNT(*) FROM groups WHERE group_id = ?1` -/
def countGroups (groupId : String) : Statement ℕ := fun db =>
  .ok (db.groups.countP (·.groupId == groupId), db)

/-- `SELECT user_id FROM group_members WHERE group_id = ?1 ORDER BY user_id` -/
def selectGroupMembers (groupId : String) : Statement (List String) := fun db =>
  .ok (orderBy id ((db.groupMembers.filter (·.groupId == groupId)).map (·.userId)), db)

/-- `SELECT g.group_id, g.name, g.creator, gm.role FROM groups g JOIN group_members gm ON
    g.group_id = gm.group_id WHERE gm.user_id = ?1 ORDER BY g.name` -/
def selectMyGroups (userId : String) : Statement (List (GroupRow × String)) := fun db =>
  .ok (orderBy (fun r => r.1.name) (db.groups.flatMap fun g =>
    (db.groupMembers.filter fun m => g.groupId == m.groupId && m.userId == userId).map
      fun m => (g, m.role)), db)

/-- `INSERT INTO channels (name, owner_id) VALUES (?1, ?2)`, with `last_insert_rowid()`. -/
def insertChannel (name ownerId : String) : Statement ℤ := fun db =>
  .ok (db.channels.lastId + 1, { db with channels := db.channels.insert ⟨name, ownerId⟩ })

/-- `INSERT OR IGNORE INTO channel_subscribers (channel_id, user_id) VALUES (?1, ?2)` -/
def insertOrIgnoreSubscriber (channelId : ℤ) (userId : String) : Statement Unit := fun db =>
  if ⟨channelId, userId⟩ ∈ db.channelSubscribers then .ok ((), db)
  else if !db.channels.rows.any (fun r => r.1 == channelId) then .error .constraint
  else .ok ((), { db with channelSubscribers := db.channelSubscribers ++ [⟨channelId, userId⟩] })

/-- `DELETE FROM channel_subscribers WHERE channel_id = ?1 AND user_id = ?2` -/
def deleteSubscriber (channelId : ℤ) (userId : String) : Statement Unit := fun db =>
  .ok ((), { db with
    channelSubscribers := db.channelSubscribers.filter fun r => !(r == ⟨channelId, userId⟩) })

/-- `SELECT owner_id FROM channels WHERE channel_id = ?1`, the first row. -/
def selectOwner (channelId : ℤ) : Statement (Option String) := fun db =>
  .ok ((db.channels.get? channelId).map (·.ownerId), db)

/-- `SELECT user_id FROM channel_subscribers WHERE channel_id = ?1 ORDER BY user_id` -/
def selectSubscribers (channelId : ℤ) : Statement (List String) := fun db =>
  .ok (orderBy id ((db.channelSubscribers.filter (·.channelId == channelId)).map (·.userId)), db)

/-- `SELECT c.channel_id, c.name, c.owner_id FROM channels c JOIN channel_subscribers cs ON
    c.channel_id = cs.channel_id WHERE cs.user_id = ?1 ORDER BY c.name` -/
def selectMyChannels (userId : String) : Statement (List (ℤ × ChannelRow)) := fun db =>
  .ok (orderBy (fun r => r.2.name) (db.channels.rows.flatMap fun c =>
    (db.channelSubscribers.filter fun r => c.1 == r.channelId && r.userId == userId).map
      fun _ => c), db)

/-- `SELECT channel_id, name, owner_id FROM channels ORDER BY name` -/
def selectChannels : Statement (List (ℤ × ChannelRow)) := fun db =>
  .ok (orderBy (·.2.name) db.channels.rows, db)

/-- `INSERT INTO polls (creator, question) VALUES (?1, ?2)`, with `last_insert_rowid()`. -/
def insertPoll (creator question : String) : Statement ℤ := fun db =>
  .ok (db.polls.lastId + 1, { db with polls := db.polls.insert ⟨creator, question, 1⟩ })

/-- `INSERT INTO poll_options (poll_id, option_text) VALUES (?1, ?2)` -/
def insertPollOption (pollId : ℤ) (optionText : String) : Statement Unit := fun db =>
  if !db.polls.rows.any (fun r => r.1 == pollId) then .error .constraint
  else .ok ((), { db with pollOptions := db.pollOptions.insert ⟨pollId, optionText⟩ })

/-- `SELECT .. FROM polls WHERE poll_id = ?1`, one row. The callers read `question`, `creator` or
    `active` from it. -/
def selectPoll (pollId : ℤ) : Statement (Option PollRow) := fun db =>
  .ok (db.polls.get? pollId, db)

/-- `UPDATE polls SET active = 0 WHERE poll_id = ?1` -/
def deactivatePoll (pollId : ℤ) : Statement Unit := fun db =>
  .ok ((), { db with
    polls := db.polls.updateWhere (fun r => r.1 == pollId) fun r => { r with active := 0 } })

/-- `SELECT COUNT(*) FROM poll_options WHERE option_id = ?1 AND poll_id = ?2` -/
def countOptions (optionId pollId : ℤ) : Statement ℕ := fun db =>
  .ok ((db.pollOptions.select fun r => r.1 == optionId && r.2.pollId == pollId).length, db)

/-- `INSERT OR REPLACE INTO poll_votes (poll_id, user_id, option_id) VALUES (?1, ?2, ?3)` -/
def upsertVote (pollId : ℤ) (userId : String) (optionId : ℤ) : Statement Unit := fun db =>
  if !db.polls.rows.any (fun r => r.1 == pollId) then .error .constraint
  else .ok ((), { db with
    pollVotes := db.pollVotes.filter (fun v => !(v.pollId == pollId && v.userId == userId)) ++
      [⟨pollId, userId, optionId⟩] })

/-- `SELECT o.option_id, o.option_text, COUNT(v.user_id) FROM poll_options o LEFT JOIN
    poll_votes v ON o.option_id = v.option_id WHERE o.poll_id = ?1 GROUP BY o.option_id
    ORDER BY o.option_id` -/
def selectTally (pollId : ℤ) : Statement (List (ℤ × String × ℕ)) := fun db =>
  .ok ((db.pollOptions.select fun r => r.2.pollId == pollId).map fun o =>
    (o.1, o.2.optionText, db.pollVotes.countP fun v => v.optionId == o.1), db)

/-- `SELECT poll_id, question, creator FROM polls WHERE active = 1 ORDER BY created_at DESC`, with
    the `created_at` of each poll as an argument. -/
def selectActivePolls (createdAt : ℤ → String) : Statement (List (ℤ × PollRow)) := fun db =>
  .ok (orderByDesc (createdAt ·.1) (db.polls.select (·.2.active == 1)), db)

/-- `INSERT INTO timeline_posts (user_id, target_user_id, content, created_at) VALUES (?1, ?2, ?3,
    ?4)`, with `last_insert_rowid()`. -/
def insertPost (row : TimelinePostRow) : Statement ℤ := fun db =>
  .ok (db.timelinePosts.lastId + 1, { db with timelinePosts := db.timelinePosts.insert row })

/-- `INSERT INTO timeline_comments (post_id, user_id, content, created_at) VALUES (?1, ?2, ?3,
    ?4)`, with `last_insert_rowid()`. -/
def insertComment (row : TimelineCommentRow) : Statement ℤ := fun db =>
  if !db.timelinePosts.rows.any (fun r => r.1 == row.postId) then .error .constraint
  else .ok (db.timelineComments.lastId + 1,
    { db with timelineComments := db.timelineComments.insert row })

/-- `SELECT comment_id, user_id, content, created_at FROM timeline_comments WHERE post_id = ?1
    ORDER BY created_at` -/
def selectComments (postId : ℤ) : Statement (List (ℤ × TimelineCommentRow)) := fun db =>
  .ok ((db.timelineComments.select fun r => r.2.postId == postId).insertionSort
    fun a b => a.2.createdAt ≤ b.2.createdAt, db)

/-- Whether `v` is in the subquery of `get_timeline` for `userId`: a member of a group with it, the
    sender of a message queued for it, or the recipient of one queued from it. -/
def Database.isContact (db : Database) (userId v : String) : Bool :=
  (db.groupMembers.any fun m => m.userId == v &&
    db.groupMembers.any fun m' => m'.groupId == m.groupId && m'.userId == userId) ||
  (db.messages.rows.any fun r => r.2.senderId == v && r.2.recipientId == userId) ||
  (db.messages.rows.any fun r => r.2.recipientId == v && r.2.senderId == userId)

/-- The query of `get_timeline`: the user's own posts, those of its contacts and those for it, each
    with the number of its comments, `ORDER BY p.created_at DESC LIMIT 100`. -/
def selectTimeline (userId : String) : Statement (List (ℤ × TimelinePostRow × ℕ)) := fun db =>
  let posts := db.timelinePosts.select fun r =>
    r.2.userId == userId || db.isContact userId r.2.userId || r.2.targetUserId == some userId
  .ok (((orderByDesc (·.2.createdAt) posts).take 100).map fun r =>
    (r.1, r.2, db.timelineComments.rows.countP fun c => c.2.postId == r.1), db)

/-- `DELETE FROM timeline_comments WHERE post_id = ?1` -/
def deleteComments (postId : ℤ) : Statement Unit := fun db =>
  .ok ((), { db with
    timelineComments := db.timelineComments.deleteWhere fun r => r.2.postId == postId })

/-- `DELETE FROM timeline_posts WHERE post_id = ?1 AND user_id = ?2`, with the number of rows
    affected. -/
def deletePosts (postId : ℤ) (userId : String) : Statement ℕ := fun db =>
  let doomed := db.timelinePosts.select fun r => r.1 == postId && r.2.userId == userId
  if doomed.any (fun r => db.timelineComments.rows.any fun c => c.2.postId == r.1) then
    .error .constraint
  else
    .ok (doomed.length, { db with
      timelinePosts := db.timelinePosts.deleteWhere fun r =>
        r.1 == postId && r.2.userId == userId })

end TinTin.Server
