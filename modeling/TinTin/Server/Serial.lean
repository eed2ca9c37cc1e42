/-
  The relay's handlers run together as if they ran one after the other.

  * `storeCall_moves`: what a call of the store does to the tables, whichever handler makes it and
    whichever statements fail. No group and no channel goes away (`Later`).
  * `steady`: so what `handle_join_group` and `handle_subscribe_channel` have looked up stays true.
  * `serializable`: any interleaving of handlers gives the answers, and leaves the database, of
    those handlers run whole in the order in which they ended. The subscription of a new channel's
    owner counts as a unit of its own: others may see the channel before it.
-/
import TinTin.Server.Service
import TinTin.Symbolic.Serde

namespace TinTin.Server.Service

open TinTin.Lib TinTin.Core TinTin.Cli

variable {T : Texts} {world : Ambient} {db db' : Database}

/-! ## What a call does to the tables -/

/-- What a statement does to the tables. -/
inductive Update (db : Database) : Database → Prop
  | change {db' : Database} (h : Change db db') : Update db db'
  | addPost (row : TimelinePostRow) :
    Update db { db with timelinePosts := db.timelinePosts.insert row }
  | addComment (row : TimelineCommentRow) (h : ∃ p ∈ db.timelinePosts.rows, p.1 = row.postId) :
    Update db { db with timelineComments := db.timelineComments.insert row }

/-- From `db` every statement of the program is an update, or changes nothing. -/
abbrev Updates {α : Type} (x : StoreM α) (db : Database) : Prop := Auto.Moves Update x db

theorem updates_of_changes {α : Type} {x : StoreM α} (h : Changes x db) : Updates x db :=
  h.mono fun _ _ => .change

theorem updates_addComment (now postId : ℤ) (userId content : String) :
    Updates (addComment now postId userId content) db := by
  refine Auto.moves_step fun _ db' h => Or.inr ?_
  unfold insertComment at h
  split at h
  · cases h
  · next hthere =>
    cases h
    refine .addComment _ ?_
    simpa using hthere

theorem updates_createPost (now : ℤ) (userId content : String) (targetUserId : Option String) :
    Updates (createPost now userId content targetUserId) db :=
  Auto.moves_once rfl (.addPost _)

/-- The statements of a handler's first call. -/
theorem handle_moves (cmd : Handled) (db : Database) : Updates (handle T world cmd).op db := by
  cases cmd with
  | register cmd => exact updates_of_changes (Auto.moves_once rfl (.users _))
  | send cmd => exact updates_of_changes (Auto.moves_once rfl (.messages _))
  | receive cmd => exact updates_of_changes (Operation.changes_fetchMessages _ _ _)
  | createGroup cmd => exact updates_of_changes (Operation.changes_createGroup _ _ _)
  | leaveGroup cmd => exact updates_of_changes (Auto.moves_once rfl (.dropMembers _))
  | setStatus cmd =>
    exact updates_of_changes (Auto.moves_return (Auto.moves_once rfl (.statuses _)) _)
  | setPresence cmd => exact updates_of_changes (Auto.moves_once rfl (.users _))
  | clearStatus cmd => exact updates_of_changes (Auto.moves_once rfl (.statuses _))
  | createChannel cmd => exact updates_of_changes (Auto.moves_once rfl (.addChannel _))
  | unsubscribeChannel cmd => exact updates_of_changes (Auto.moves_once rfl (.dropSubscribers _))
  | createPoll cmd =>
    by_cases hfew : cmd.options.length < 2
    · rw [show handle T world (.createPoll cmd) = _ from if_pos hfew]
      exact Auto.moves_pure _ db
    · rw [show handle T world (.createPoll cmd) = _ from if_neg hfew]
      exact updates_of_changes (Operation.changes_createPoll _ _ _)
  | votePoll cmd => exact updates_of_changes (Operation.changes_votePoll _ _ _)
  | pollResults cmd => exact updates_of_changes (Operation.changes_pollResults _)
  | closePoll cmd => exact updates_of_changes (Operation.changes_closePoll _ _)
  | deletePost cmd => exact updates_of_changes (Operation.changes_deletePost _ _)
  | createPost cmd => exact updates_createPost _ _ _ _
  | addComment cmd => exact updates_addComment _ _ _ _
  | fetchKeys _ | joinGroup _ => exact Auto.moves_return (Auto.moves_read rfl) _
  | listUsers _ | myGroups _ | groupMembers _ | getStories | subscribeChannel _ | listChannels
  | myChannels _ | channelMembers _ | listPolls | getTimeline _ | getComments _ =>
    exact Auto.moves_read rfl

/-- **What a call of the store can do**, for every handler. -/
theorem storeCall_moves (stage : Stage) (db : Database) :
    Updates (stage.storeCall T world).op db := by
  cases stage with
  | command line =>
    cases hread : handleCommand T.value line with
    | error r =>
      rw [storeCall_refused hread]
      exact Auto.moves_pure _ db
    | ok cmd =>
      rw [storeCall_command hread]
      exact handle_moves cmd db
  | addMember groupId userId => exact updates_of_changes (Operation.changes_addGroupMember _ _)
  | autoSubscribe channelId ownerId =>
    exact updates_of_changes (Operation.changes_subscribeChannel _ _)
  | addSubscriber channelId userId =>
    exact updates_of_changes (Operation.changes_subscribeChannel _ _)

/-- What the statements keep, a task's call keeps. -/
theorem Task.call_keeps {P : Database → Prop} (hP : ∀ db db', Update db db' → P db → P db')
    (t : Task) (h : P db) : P (t.call T db).2 :=
  (storeCall_moves t.stage db).keeps hP h t.faults t.ran

/-! ## What has been looked up stays true -/

/-- No group and no channel has gone. -/
structure Later (db db' : Database) : Prop where
  groups : db.groups ⊆ db'.groups
  channels : db.channels.rows ⊆ db'.channels.rows

theorem Later.refl (db : Database) : Later db db := ⟨List.Subset.refl _, List.Subset.refl _⟩

theorem Later.trans {db'' : Database} (h : Later db db') (h' : Later db' db'') :
    Later db db'' :=
  ⟨List.Subset.trans h.groups h'.groups, List.Subset.trans h.channels h'.channels⟩

theorem Update.later (h : Update db db') : Later db db' := by
  cases h with
  | change h =>
    cases h with
    | addGroup row => exact ⟨List.subset_append_left _ _, List.Subset.refl _⟩
    | addChannel row => exact ⟨List.Subset.refl _, List.subset_append_left _ _⟩
    | _ => exact ⟨List.Subset.refl _, List.Subset.refl _⟩
  | addPost row => exact ⟨List.Subset.refl _, List.Subset.refl _⟩
  | addComment row => exact ⟨List.Subset.refl _, List.Subset.refl _⟩

theorem Task.call_later (t : Task) (db : Database) : Later db (t.call T db).2 :=
  t.call_keeps (P := Later db) (fun _ _ h hlater => hlater.trans h.later) (Later.refl db)

/-- `group_exists` in the handler: an error counts as no. -/
theorem run_joinGroup (cmd : JoinGroupCmd) (faults : Faults DbError) (db : Database) (n : ℕ) :
    (handleJoinGroup cmd).run faults db n =
      if faults n = none ∧ ∃ g ∈ db.groups, g.groupId = cmd.groupId then
        (.inl (.addMember cmd.groupId cmd.userId), db, n + 1)
      else (.inr (.failed ("Group '" ++ cmd.groupId ++ "' not found")), db, n + 1) := by
  unfold handleJoinGroup StoreCall.run
  dsimp only
  cases hf : faults n with
  | some e =>
    have hrun : groupExists cmd.groupId faults db n = (.error e, db, n + 1) :=
      Auto.run_bind_error (Auto.run_exec_fault hf)
    rw [hrun, if_neg (fun h => nomatch h.1)]
  | none =>
    have hrun : groupExists cmd.groupId faults db n =
        (.ok (decide (db.groups.countP (·.groupId == cmd.groupId) > 0)), db, n + 1) :=
      Auto.run_bind_ok (Auto.run_exec_ok hf rfl)
    rw [hrun]
    by_cases hthere : ∃ g ∈ db.groups, g.groupId = cmd.groupId
    · have hpos : db.groups.countP (·.groupId == cmd.groupId) > 0 := by simpa using hthere
      rw [if_pos ⟨rfl, hthere⟩, decide_eq_true hpos]
    · have hzero : ¬ db.groups.countP (·.groupId == cmd.groupId) > 0 := by simpa using hthere
      rw [if_neg (fun h => hthere h.2), decide_eq_false hzero]

/-- `get_channel_owner` in the handler: an error counts as no owner. -/
theorem run_subscribeChannel (cmd : SubscribeChannelCmd) (faults : Faults DbError) (db : Database)
    (n : ℕ) :
    (handleSubscribeChannel cmd).run faults db n =
      if faults n = none ∧ (db.channels.get? cmd.channelId.toInt).isSome then
        (.inl (.addSubscriber cmd.channelId.toInt cmd.userId), db, n + 1)
      else (.inr (.failed ("Channel '" ++ toString cmd.channelId.toInt ++ "' not found")),
        db, n + 1) := by
  unfold handleSubscribeChannel StoreCall.run
  dsimp only
  cases hf : faults n with
  | some e =>
    have hrun : getChannelOwner cmd.channelId.toInt faults db n = (.error e, db, n + 1) :=
      Auto.run_exec_fault hf
    rw [hrun, if_neg (fun h => nomatch h.1)]
  | none =>
    have hrun : getChannelOwner cmd.channelId.toInt faults db n =
        (.ok ((db.channels.get? cmd.channelId.toInt).map (·.ownerId)), db, n + 1) :=
      Auto.run_exec_ok hf rfl
    rw [hrun]
    cases db.channels.get? cmd.channelId.toInt <;> rfl

theorem Later.channel (h : Later db db') {channelId : ℤ}
    (hthere : (db.channels.get? channelId).isSome) : (db'.channels.get? channelId).isSome := by
  obtain ⟨row, hrow⟩ := Option.isSome_iff_exists.mp hthere
  have hrow' := AutoTable.get?_eq_some.mpr (h.channels (AutoTable.get?_eq_some.mp hrow))
  exact Option.isSome_iff_exists.mpr ⟨row, hrow'⟩

theorem Task.call_of_run {t : Task} {next : Stage ⊕ ServerResponse} {n : ℕ}
    (h : (t.stage.storeCall T t.world).run t.faults db t.ran = (next, db', n)) :
    t.call T db = (next.map (fun stage => { t with stage := stage, ran := n }) id, db') := by
  unfold Task.call
  rw [h]

/-- A first call that looks something up: while it is there the handler goes on, and otherwise
    it answers. -/
theorem looks_of_run {line : String} {cmd : Handled} {stage : Stage} {text : String}
    {faults : Faults DbError} {n : ℕ} {t' : Task} {there : Database → Prop}
    [DecidablePred there] (hread : handleCommand T.value line = .ok cmd)
    (hrun : ∀ db, (handle T world cmd).run faults db n =
      if there db then (.inl stage, db, n + 1) else (.inr (.failed text), db, n + 1))
    (hstays : ∀ db db', Later db db' → there db → there db')
    (h : ((Task.mk (.command line) world faults n).call T db).1 = .inl t') :
    ((Task.mk (.command line) world faults n).call T db).2 = db ∧
      ∀ db', Later db db' → (Task.mk (.command line) world faults n).call T db' = (.inl t', db') := by
  have hcall : ∀ db, (Task.mk (.command line) world faults n).call T db =
      if there db then (.inl ⟨stage, world, faults, n + 1⟩, db) else (.inr (.failed text), db) := by
    intro db
    have hrun' := hrun db
    rw [← storeCall_command hread] at hrun'
    split
    · next hthere =>
      rw [if_pos hthere] at hrun'
      exact Task.call_of_run (t := ⟨.command line, world, faults, n⟩) hrun'
    · next hthere =>
      rw [if_neg hthere] at hrun'
      exact Task.call_of_run (t := ⟨.command line, world, faults, n⟩) hrun'
  rw [hcall] at h ⊢
  split at h
  · next hthere =>
    cases h
    rw [if_pos hthere]
    refine ⟨rfl, fun db' hlater => ?_⟩
    rw [hcall, if_pos (hstays db db' hlater hthere)]
  · cases h

/-- A handler that goes on within its unit is one of the two that look something up. -/
theorem Task.looks {t t' : Task} (h : (t.call T db).1 = .inl t') (hbegins : t'.begins = false) :
    (t.call T db).2 = db ∧ ∀ db', Later db db' → t.call T db' = (.inl t', db') := by
  obtain ⟨stage, world, faults, n⟩ := t
  rcases hop : (stage.storeCall T world).op faults db n with ⟨r, db₁, n₁⟩
  have hrun : (stage.storeCall T world).run faults db n =
      ((stage.storeCall T world).next r, db₁, n₁) := by
    unfold StoreCall.run
    rw [hop]
  have hcall := Task.call_of_run (t := ⟨stage, world, faults, n⟩) hrun
  rcases @storeCall_ends T world stage r with
    ⟨line, cmd, stage', rfl, hread, hgo, hfollows⟩ | ⟨response, hend, -⟩
  · cases hfollows with
    | addMember cmd =>
      exact looks_of_run hread (fun db => run_joinGroup cmd faults db n)
        (fun _ _ hlater ⟨hf, g, hg, hid⟩ => ⟨hf, g, hlater.groups hg, hid⟩) h
    | autoSubscribe cmd channelId =>
      rw [hcall, hgo] at h
      cases h
      cases hbegins
    | addSubscriber cmd =>
      exact looks_of_run hread (fun db => run_subscribeChannel cmd faults db n)
        (fun _ _ hlater ⟨hf, hthere⟩ => ⟨hf, hlater.channel hthere⟩) h
  · rw [hcall, hend] at h
    cases h

/-- **What the handlers look up stays true.** -/
theorem steady (T : Texts) : Calls.Steady (Task.call T) Task.begins Later where
  refl := Later.refl
  trans := Later.trans
  later t db := t.call_later db
  looks _ _ _ h hbegins := Task.looks h hbegins

/-! ## Any interleaving -/

/-- The relay at work: handlers in the slots, in any order of their calls. -/
abbrev Runs {ι : Type} [DecidableEq ι] (T : Texts) :
    Calls.Floor ι Database Task ServerResponse → List (Calls.Turn ι Task) →
      Calls.Floor ι Database Task ServerResponse → Prop :=
  Path (Calls.Step (Task.call T) Task.begins)

/-- **Handlers that run together do what they would do one after the other**, in the order in which
    they end: the same answers to the same commands, and the same database, whichever statements
    fail. In each slot the lines that were taken up have their answers in order. -/
theorem serializable {ι : Type} [DecidableEq ι] (T : Texts) {db : Database}
    {turns : List (Calls.Turn ι Task)} {m : Calls.Floor ι Database Task ServerResponse}
    (hrun : Runs T (.fresh db) turns m) :
    Calls.Serial (Task.call T) Task.begins db m.ended m.state ∧
      ∀ i, Calls.Thread (Calls.startedIn i turns) (Calls.endedIn i m.ended)
        ((m.slots i).map Calls.Flight.began) :=
  ⟨Calls.serial_of_run (steady T) hrun, Calls.thread_of_run hrun⟩

/-! ## A case -/

/-- Texts for the lines of a table. -/
def tableTexts (table : List (String × Json)) : Texts where
  toRelaySerde := Symbolic.symbolicSerde.toRelaySerde
  value line := table.lookup line
  bundle _ := ""
  serdeSays _ := "expected value at line 1 column 1"
  sqliteSays _ := "database is locked"

theorem value_tableTexts (table : List (String × Json)) (line : String) :
    (tableTexts table).value line = table.lookup line := rfl

def noon : Ambient := ⟨43200, fun _ => 43200000, "g-00c0ffee", fun _ => "1970-01-01 12:00:00"⟩

def createNews : String := "\x7b\"cmd\":\"create_channel\",\"name\":\"news\",\"owner_id\":\"alice\"\x7d"

def listChannels : String := "\x7b\"cmd\":\"list_channels\"\x7d"

def newsTexts : Texts := tableTexts [
  (createNews, .object [("cmd", .string "create_channel"), ("name", .string "news"),
    ("owner_id", .string "alice")]),
  (listChannels, .object [("cmd", .string "list_channels")])]

/-- Bob lists the channels before alice is subscribed to her new one. -/
def newsTurns : List (Calls.Turn ℕ Task) :=
  [.start 0 (.of createNews noon Auto.faultless), .call 0,
    .start 1 (.of listChannels noon Auto.faultless), .call 1, .call 0]

theorem newsTurns_run : ∃ m, Runs newsTexts (.fresh .empty) newsTurns m :=
  ⟨_, .cons (.start 0 _ rfl rfl) (.cons (.passOn 0 _ _ _ rfl rfl rfl)
    (.cons (.start 1 _ rfl rfl) (.cons (.finish 1 _ _ _ rfl rfl)
      (.cons (.finish 0 _ _ _ rfl rfl) (.nil _)))))⟩

theorem serializable_news : ∃ m, Runs newsTexts (.fresh .empty) newsTurns m ∧
    Calls.Serial (Task.call newsTexts) Task.begins .empty m.ended m.state ∧
      ∀ i, Calls.Thread (Calls.startedIn i newsTurns) (Calls.endedIn i m.ended)
        ((m.slots i).map Calls.Flight.began) := by
  obtain ⟨m, hrun⟩ := newsTurns_run
  exact ⟨m, hrun, serializable newsTexts hrun⟩

end TinTin.Server.Service
