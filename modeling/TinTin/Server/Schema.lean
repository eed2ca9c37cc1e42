/-
  Opening the store (`Store::open`): the schema script and the migrations after it.

  The script is a list of statements in the order of the source. It creates the index
  `idx_messages_sender` on `messages(sender_id)` before the statements that would add that
  column to an old file, and an error in the script ends `open`.

  `OldFile` is the class of files an earlier version may have left. `open_migrates_iff`: such
  a file is opened, completed and kept exactly if its messages table has the column already.
-/
import TinTin.Lib.Catalogue

namespace TinTin.Server

open TinTin.Lib

/-! ## The script -/

def usersTable : DdlStatement := .createTable "users"
  [⟨"user_id", "TEXT PRIMARY KEY"⟩, ⟨"identity_key", "BLOB NOT NULL"⟩,
    ⟨"signed_pre_key", "TEXT NOT NULL"⟩, ⟨"presence", "TEXT NOT NULL DEFAULT 'offline'"⟩]

def messagesTable : DdlStatement := .createTable "messages"
  [⟨"id", "INTEGER PRIMARY KEY AUTOINCREMENT"⟩, ⟨"sender_id", "TEXT NOT NULL"⟩,
    ⟨"recipient_id", "TEXT NOT NULL"⟩, ⟨"envelope", "TEXT NOT NULL"⟩,
    ⟨"created_at", "TEXT NOT NULL DEFAULT (datetime('now'))"⟩]

def groupsTable : DdlStatement := .createTable "groups"
  [⟨"group_id", "TEXT PRIMARY KEY"⟩, ⟨"name", "TEXT NOT NULL"⟩, ⟨"creator", "TEXT NOT NULL"⟩,
    ⟨"created_at", "TEXT NOT NULL DEFAULT (datetime('now'))"⟩]

def groupMembersTable : DdlStatement := .createTable "group_members"
  [⟨"group_id", "TEXT NOT NULL REFERENCES groups(group_id)"⟩, ⟨"user_id", "TEXT NOT NULL"⟩,
    ⟨"role", "TEXT NOT NULL DEFAULT 'member'"⟩]

def statusesTable : DdlStatement := .createTable "statuses"
  [⟨"user_id", "TEXT PRIMARY KEY"⟩, ⟨"content", "TEXT NOT NULL"⟩,
    ⟨"created_at", "INTEGER NOT NULL"⟩]

def channelsTable : DdlStatement := .createTable "channels"
  [⟨"channel_id", "INTEGER PRIMARY KEY AUTOINCREMENT"⟩, ⟨"name", "TEXT NOT NULL"⟩,
    ⟨"owner_id", "TEXT NOT NULL"⟩, ⟨"created_at", "TEXT NOT NULL DEFAULT (datetime('now'))"⟩]

def channelSubscribersTable : DdlStatement := .createTable "channel_subscribers"
  [⟨"channel_id", "INTEGER NOT NULL REFERENCES channels(channel_id)"⟩,
    ⟨"user_id", "TEXT NOT NULL"⟩]

def pollsTable : DdlStatement := .createTable "polls"
  [⟨"poll_id", "INTEGER PRIMARY KEY AUTOINCREMENT"⟩, ⟨"creator", "TEXT NOT NULL"⟩,
    ⟨"question", "TEXT NOT NULL"⟩, ⟨"active", "INTEGER NOT NULL DEFAULT 1"⟩,
    ⟨"created_at", "TEXT NOT NULL DEFAULT (datetime('now'))"⟩]

def pollOptionsTable : DdlStatement := .createTable "poll_options"
  [⟨"option_id", "INTEGER PRIMARY KEY AUTOINCREMENT"⟩,
    ⟨"poll_id", "INTEGER NOT NULL REFERENCES polls(poll_id)"⟩, ⟨"option_text", "TEXT NOT NULL"⟩]

def pollVotesTable : DdlStatement := .createTable "poll_votes"
  [⟨"poll_id", "INTEGER NOT NULL REFERENCES polls(poll_id)"⟩, ⟨"user_id", "TEXT NOT NULL"⟩,
    ⟨"option_id", "INTEGER NOT NULL"⟩]

def timelinePostsTable : DdlStatement := .createTable "timeline_posts"
  [⟨"post_id", "INTEGER PRIMARY KEY AUTOINCREMENT"⟩, ⟨"user_id", "TEXT NOT NULL"⟩,
    ⟨"target_user_id", "TEXT"⟩, ⟨"content", "TEXT NOT NULL"⟩, ⟨"created_at", "INTEGER NOT NULL"⟩]

def timelineCommentsTable : DdlStatement := .createTable "timeline_comments"
  [⟨"comment_id", "INTEGER PRIMARY KEY AUTOINCREMENT"⟩,
    ⟨"post_id", "INTEGER NOT NULL REFERENCES timeline_posts(post_id)"⟩,
    ⟨"user_id", "TEXT NOT NULL"⟩, ⟨"content", "TEXT NOT NULL"⟩,
    ⟨"created_at", "INTEGER NOT NULL"⟩]

/-- The statements of the second `execute_batch`, in order. -/
def schema : List DdlStatement :=
  [usersTable,
    messagesTable,
    .createIndex ⟨"idx_messages_recipient", "messages", "recipient_id"⟩,
    .createIndex ⟨"idx_messages_sender", "messages", "sender_id"⟩,
    groupsTable,
    groupMembersTable,
    .createIndex ⟨"idx_group_members_user", "group_members", "user_id"⟩,
    statusesTable,
    channelsTable,
    channelSubscribersTable,
    .createIndex ⟨"idx_channel_subscribers_user", "channel_subscribers", "user_id"⟩,
    pollsTable,
    pollOptionsTable,
    pollVotesTable,
    timelinePostsTable,
    timelineCommentsTable,
    .createIndex ⟨"idx_timeline_posts_user", "timeline_posts", "user_id"⟩,
    .createIndex ⟨"idx_timeline_comments_post", "timeline_comments", "post_id"⟩]

/-- `ALTER TABLE timeline_posts ADD COLUMN target_user_id TEXT` -/
def addTargetUserId : DdlStatement :=
  .addColumn "timeline_posts" ⟨"target_user_id", "TEXT"⟩ false .null

/-- `ALTER TABLE messages ADD COLUMN sender_id TEXT` -/
def addSenderId : DdlStatement := .addColumn "messages" ⟨"sender_id", "TEXT"⟩ false .null

/-- `ALTER TABLE users ADD COLUMN presence TEXT NOT NULL DEFAULT 'offline'` -/
def addPresence : DdlStatement :=
  .addColumn "users" ⟨"presence", "TEXT NOT NULL DEFAULT 'offline'"⟩ true (.text "offline")

/-- `Store::open` on a file: its result and the file afterwards. -/
def openStore (file : Catalogue) : Except SqlError Unit × Catalogue :=
  match file.executeBatch [.journalMode "wal"] with
  | (.error e, file) => (.error e, file)
  | (.ok (), file) =>
    match file.executeBatch schema with
    | (.error e, file) => (.error e, file)
    | (.ok (), file) =>
      -- Migration: the results of these three are dropped.
      let (_, file) := file.executeBatch [addTargetUserId]
      let (_, file) := file.executeBatch [addSenderId]
      let (_, file) := file.executeBatch [addPresence]
      (.ok (), file)

/-! ## What the current schema has -/

/-- Each table of the schema, with the names of its columns. -/
def currentTables : List (String × List String) :=
  schema.filterMap fun
    | .createTable name columns => some (name, columns.map Column.name)
    | _ => none

def currentIndexes : List Index :=
  schema.filterMap fun
    | .createIndex index => some index
    | _ => none

/-- The columns that later versions of the schema added. -/
def laterColumns : List (String × String) :=
  [("messages", "sender_id"), ("timeline_posts", "target_user_id"), ("users", "presence")]

/-- A file of the current schema or of an earlier one: it has all tables and columns, but for
    any of the later columns, with any rows; and of the current indexes any. -/
structure OldFile (file : Catalogue) : Prop where
  tables : ∀ t ∈ currentTables, file.HasTable t.1
  columns : ∀ t ∈ currentTables, ∀ col ∈ t.2, file.HasColumn t.1 col ∨ (t.1, col) ∈ laterColumns
  indexes : ∀ i ∈ file.indexes, ∀ j ∈ currentIndexes, i.name = j.name → i = j

/-- The file has everything the current schema has. -/
structure Current (file : Catalogue) : Prop where
  tables : ∀ t ∈ currentTables, file.HasTable t.1
  columns : ∀ t ∈ currentTables, ∀ col ∈ t.2, file.HasColumn t.1 col
  indexes : currentIndexes ⊆ file.indexes

/-- Opening the file succeeds, completes the schema and keeps every row; and opening it again
    changes nothing. -/
structure Migrates (file : Catalogue) : Prop where
  ok : (openStore file).1 = .ok ()
  current : Current (openStore file).2
  preserved : file.Extends (openStore file).2
  again : openStore (openStore file).2 = (.ok (), (openStore file).2)

/-- A new file gets the current schema. -/
example : (openStore .empty).1 = .ok () ∧
    (openStore .empty).2.tables.map (fun t => (t.name, t.columnNames)) = currentTables ∧
    (openStore .empty).2.indexes = currentIndexes := by
  decide

/-! ## The script over an old file -/

/-- The file in WAL mode: what the first batch makes of it. -/
def inWalMode (file : Catalogue) : Catalogue := { file with journalMode := "wal" }

/-- The file after the script, whether it reached its end or not. -/
def afterSchema (file : Catalogue) : Catalogue := ((inWalMode file).executeBatch schema).2

/-- The file after the migrations. -/
def afterMigrations (file : Catalogue) : Catalogue :=
  let file := (file.executeBatch [addTargetUserId]).2
  let file := (file.executeBatch [addSenderId]).2
  (file.executeBatch [addPresence]).2

theorem openStore_eq (file : Catalogue) :
    openStore file = match (inWalMode file).executeBatch schema with
      | (.error e, file) => (Except.error e, file)
      | (.ok (), file) => (Except.ok (), afterMigrations file) := rfl

theorem openStore_ok {file : Catalogue}
    (h : ((inWalMode file).executeBatch schema).1 = .ok ()) :
    openStore file = (.ok (), afterMigrations (afterSchema file)) := by
  rw [openStore_eq]
  unfold afterSchema
  split
  · next heq =>
    rw [heq] at h
    cases h
  · next heq => rw [heq]

theorem openStore_ok_inv {file : Catalogue} (h : (openStore file).1 = .ok ()) :
    ((inWalMode file).executeBatch schema).1 = .ok () := by
  rw [openStore_eq] at h
  split at h
  · cases h
  · next heq => rw [heq]

theorem mem_schema_createIndex {i : Index} : .createIndex i ∈ schema ↔ i ∈ currentIndexes := by
  simp [schema, currentIndexes, usersTable, messagesTable, groupsTable, groupMembersTable,
    statusesTable, channelsTable, channelSubscribersTable, pollsTable, pollOptionsTable,
    pollVotesTable, timelinePostsTable, timelineCommentsTable]

/-- Every statement of the script creates a table of the schema or an index on one. -/
theorem schema_creates {file : Catalogue} (h : ∀ t ∈ currentTables, file.HasTable t.1) :
    ∀ s ∈ schema, file.Creates s := by
  intro s hs
  cases s with
  | createTable name columns =>
    refine .table (h (name, columns.map Column.name) ?_)
    exact List.mem_filterMap.mpr ⟨_, hs, rfl⟩
  | createIndex i =>
    have hall : ∀ i ∈ currentIndexes, i.table ∈ currentTables.map Prod.fst := by decide
    obtain ⟨t, ht, hname⟩ := List.mem_map.mp (hall i (mem_schema_createIndex.mp hs))
    exact .index (hname ▸ h t ht)
  | journalMode mode => simp [schema, usersTable, messagesTable, groupsTable, groupMembersTable,
      statusesTable, channelsTable, channelSubscribersTable, pollsTable, pollOptionsTable,
      pollVotesTable, timelinePostsTable, timelineCommentsTable] at hs
  | addColumn table column notNull default => simp [schema, usersTable, messagesTable, groupsTable,
      groupMembersTable, statusesTable, channelsTable, channelSubscribersTable, pollsTable,
      pollOptionsTable, pollVotesTable, timelinePostsTable, timelineCommentsTable] at hs

theorem currentIndexes_name_inj :
    ∀ i ∈ currentIndexes, ∀ j ∈ currentIndexes, i.name = j.name → i = j := by
  decide

variable {file : Catalogue}

theorem OldFile.creates (h : OldFile file) : ∀ s ∈ schema, (inWalMode file).Creates s :=
  schema_creates h.tables

theorem OldFile.created (h : OldFile file) :
    (inWalMode file).Created (afterSchema file) schema :=
  Catalogue.executeBatch_created h.creates

/-- If the script succeeds, every index of the schema is there. -/
theorem OldFile.indexes_made (h : OldFile file)
    (hok : ((inWalMode file).executeBatch schema).1 = .ok ()) :
    currentIndexes ⊆ (afterSchema file).indexes := by
  intro j hj
  have hname := Catalogue.executeBatch_ok_indexes hok (mem_schema_createIndex.mpr hj)
  obtain ⟨i, hi, hij⟩ := List.mem_map.mp hname
  rcases h.created.indexes i hi with hold | hnew
  · rwa [h.indexes i hold j hj hij] at hi
  · rwa [currentIndexes_name_inj i (mem_schema_createIndex.mp hnew) j hj hij] at hi

/-- The column `messages.sender_id` is what the script needs of the file. -/
theorem OldFile.schema_ok_iff (h : OldFile file) :
    ((inWalMode file).executeBatch schema).1 = .ok () ↔
      file.HasColumn "messages" "sender_id" := by
  constructor
  · intro hok
    have hmem : ⟨"idx_messages_sender", "messages", "sender_id"⟩ ∈ (afterSchema file).indexes :=
      h.indexes_made hok (by decide)
    have hcol : (afterSchema file).HasColumn "messages" "sender_id" :=
      (afterSchema file).indexed _ hmem
    exact (Catalogue.hasColumn_congr h.created.tables _ _).mp hcol
  · intro hcol
    refine Catalogue.executeBatch_creates_ok h.creates fun i hi => ?_
    have hcover : ∀ i ∈ currentIndexes, (i.table, i.column) = ("messages", "sender_id") ∨
        ((i.table, i.column) ∉ laterColumns ∧
          ∃ t ∈ currentTables, t.1 = i.table ∧ i.column ∈ t.2) := by
      decide
    rcases hcover i (mem_schema_createIndex.mp hi) with heq | ⟨hlater, t, ht, hname, hmem⟩
    · obtain ⟨htable, hcolumn⟩ := Prod.mk.inj heq
      rw [htable, hcolumn]
      exact hcol
    · rw [← hname] at hlater ⊢
      exact (h.columns t ht _ hmem).resolve_right hlater

/-! ## The migrations -/

theorem extends_afterMigrations (file : Catalogue) : file.Extends (afterMigrations file) :=
  (Catalogue.executeBatch_extends file _).trans
    ((Catalogue.executeBatch_extends _ _).trans (Catalogue.executeBatch_extends _ _))

/-- The migrations add whatever later column is missing. -/
theorem hasColumn_afterMigrations (htables : ∀ t ∈ currentTables, file.HasTable t.1)
    {table column : String} (h : (table, column) ∈ laterColumns) :
    (afterMigrations file).HasColumn table column := by
  have hposts := htables ("timeline_posts", _) (by decide : ("timeline_posts",
    ["post_id", "user_id", "target_user_id", "content", "created_at"]) ∈ currentTables)
  have hmessages := htables ("messages", _) (by decide : ("messages",
    ["id", "sender_id", "recipient_id", "envelope", "created_at"]) ∈ currentTables)
  have husers := htables ("users", _) (by decide : ("users",
    ["user_id", "identity_key", "signed_pre_key", "presence"]) ∈ currentTables)
  have h₁ := Catalogue.executeBatch_extends file [addTargetUserId]
  have h₂ := Catalogue.executeBatch_extends (file.executeBatch [addTargetUserId]).2 [addSenderId]
  have h₃ := Catalogue.executeBatch_extends
    ((file.executeBatch [addTargetUserId]).2.executeBatch [addSenderId]).2 [addPresence]
  simp only [laterColumns, List.mem_cons, Prod.mk.injEq, List.not_mem_nil, or_false] at h
  rcases h with ⟨rfl, rfl⟩ | ⟨rfl, rfl⟩ | ⟨rfl, rfl⟩
  · exact h₃.hasColumn (Catalogue.hasColumn_addColumn (h₁.hasTable hmessages)
      ⟨"sender_id", "TEXT"⟩ (by decide))
  · exact h₃.hasColumn (h₂.hasColumn (Catalogue.hasColumn_addColumn hposts
      ⟨"target_user_id", "TEXT"⟩ (by decide)))
  · exact Catalogue.hasColumn_addColumn (h₂.hasTable (h₁.hasTable husers))
      ⟨"presence", "TEXT NOT NULL DEFAULT 'offline'"⟩ (by decide)

theorem journalMode_afterMigrations (file : Catalogue) :
    (afterMigrations file).journalMode = file.journalMode := by
  unfold afterMigrations addTargetUserId addSenderId addPresence
  dsimp only
  rw [Catalogue.journalMode_addColumn, Catalogue.journalMode_addColumn,
    Catalogue.journalMode_addColumn]

/-- Opening a file that has everything changes nothing. -/
theorem openStore_current (h : Current file) (hwal : file.journalMode = "wal") :
    openStore file = (.ok (), file) := by
  have hmode : inWalMode file = file := by
    unfold inWalMode
    rw [← hwal]
  have hschema : (inWalMode file).executeBatch schema = (.ok (), file) := by
    rw [hmode]
    exact Catalogue.executeBatch_existing (schema_creates h.tables)
      fun i hi => h.indexes (mem_schema_createIndex.mp hi)
  have hposts : file.HasColumn "timeline_posts" "target_user_id" := h.columns ("timeline_posts",
    ["post_id", "user_id", "target_user_id", "content", "created_at"]) (by decide) _ (by decide)
  have hmessages : file.HasColumn "messages" "sender_id" := h.columns ("messages",
    ["id", "sender_id", "recipient_id", "envelope", "created_at"]) (by decide) _ (by decide)
  have husers : file.HasColumn "users" "presence" := h.columns ("users",
    ["user_id", "identity_key", "signed_pre_key", "presence"]) (by decide) _ (by decide)
  rw [openStore_ok (by rw [hschema])]
  unfold afterSchema
  rw [hschema]
  unfold afterMigrations addTargetUserId addSenderId addPresence
  dsimp only
  rw [Catalogue.executeBatch_addColumn_existing ⟨"target_user_id", "TEXT"⟩ _ _ hposts,
    Catalogue.executeBatch_addColumn_existing ⟨"sender_id", "TEXT"⟩ _ _ hmessages,
    Catalogue.executeBatch_addColumn_existing ⟨"presence", "TEXT NOT NULL DEFAULT 'offline'"⟩ _ _
      husers]

/-- **Which old files open.** A file of the current or an earlier schema is opened, completed
    and kept exactly if its messages table already has the column `sender_id`. -/
theorem open_migrates_iff (file : Catalogue) (h : OldFile file) :
    Migrates file ↔ file.HasColumn "messages" "sender_id" := by
  rw [← h.schema_ok_iff]
  constructor
  · intro hm
    exact openStore_ok_inv hm.ok
  · intro hok
    have hopen := openStore_ok hok
    have hscript : file.Extends (afterSchema file) :=
      (Catalogue.exec_extends (s := .journalMode "wal") rfl).trans
        (Catalogue.executeBatch_extends (inWalMode file) schema)
    have hext := hscript.trans (extends_afterMigrations (afterSchema file))
    have hcurrent : Current (afterMigrations (afterSchema file)) := by
      refine ⟨fun t ht => hext.hasTable (h.tables t ht), fun t ht col hcol => ?_,
        List.Subset.trans (h.indexes_made hok) (extends_afterMigrations _).indexes⟩
      rcases h.columns t ht col hcol with hold | hlater
      · exact hext.hasColumn hold
      · exact hasColumn_afterMigrations (fun t ht => hscript.hasTable (h.tables t ht)) hlater
    have hwal : (afterMigrations (afterSchema file)).journalMode = "wal" := by
      rw [journalMode_afterMigrations, h.created.journalMode]
      rfl
    constructor
    · rw [hopen]
    · rw [hopen]
      exact hcurrent
    · rw [hopen]
      exact hext
    · rw [hopen]
      exact openStore_current hcurrent hwal

/-- The file a new database is, once opened. -/
def freshFile : Catalogue := (openStore .empty).2

theorem oldFile_freshFile : OldFile freshFile where
  tables := by decide
  columns := by decide
  indexes := by decide

theorem open_migrates_iff_fresh :
    Migrates freshFile ↔ freshFile.HasColumn "messages" "sender_id" :=
  open_migrates_iff freshFile oldFile_freshFile

/-- A file of an earlier schema whose messages table has no `sender_id` yet, with one row. -/
def fileWithoutSender : Catalogue where
  journalMode := "wal"
  tables := freshFile.tables.map fun t => if t.name = "messages" then
    { name := "messages"
      columns := [⟨"id", "INTEGER PRIMARY KEY AUTOINCREMENT"⟩, ⟨"recipient_id", "TEXT NOT NULL"⟩,
        ⟨"envelope", "TEXT NOT NULL"⟩,
        ⟨"created_at", "TEXT NOT NULL DEFAULT (datetime('now'))"⟩]
      rows := [[.integer 1, .text "bob", .text "{}", .text "2024-01-01 00:00:00"]]
      distinct := by decide
      width := by decide } else t
  indexes := [⟨"idx_messages_recipient", "messages", "recipient_id"⟩]
  distinct := by decide
  indexed := by decide

/-- Such a file cannot be opened: the index on the missing column is an error. -/
theorem fileWithoutSender_fails : OldFile fileWithoutSender ∧
    (openStore fileWithoutSender).1 = .error .noSuchColumn :=
  ⟨⟨by decide, by decide, by decide⟩, by decide⟩

end TinTin.Server
