/-
  The groups and channels of one user, and which calls of the store change them.

  * `groupOf`, `Subscribed`: what `list_my_groups` and the subscriptions say of a user.
  * `elsewhere_call`: a call that no command in the user's name makes leaves both as they are,
    whichever of its statements fail.
-/
import TinTin.Server.Channels
import TinTin.Server.Serial

namespace TinTin.Server.Service

open TinTin.Lib TinTin.Core TinTin.Cli

variable {T : Texts} {world : Ambient} {db db' : Database} {u v : String}

/-! ## Tables -/

/-- The keys and references of the groups and channels. -/
structure Rooms (db : Database) : Prop where
  groupKeys : (db.groups.map (·.groupId)).Nodup
  memberKeys : (db.groupMembers.map fun m => (m.groupId, m.userId)).Nodup
  members : ∀ m ∈ db.groupMembers, HasGroup db m.groupId
  subscribers : ∀ r ∈ db.channelSubscribers, HasChannel db r.channelId

theorem rooms_empty : Rooms .empty where
  groupKeys := List.nodup_nil
  memberKeys := List.nodup_nil
  members := List.forall_mem_nil _
  subscribers := List.forall_mem_nil _

/-- A group of the user, with the role. -/
def groupOf (db : Database) (u groupId : String) : Option (GroupRow × String) :=
  (db.groups.find? (·.groupId == groupId)).bind fun g => (roleOf db groupId u).map fun role => (g, role)

def Subscribed (db : Database) (u : String) (channelId : ℤ) : Prop :=
  ⟨channelId, u⟩ ∈ db.channelSubscribers

/-- The user's groups and channels are the same. -/
structure SameFor (u : String) (db db' : Database) : Prop where
  groups : ∀ g, groupOf db' u g = groupOf db u g
  channels : ∀ c, Subscribed db' u c ↔ Subscribed db u c

theorem SameFor.refl (u : String) (db : Database) : SameFor u db db :=
  ⟨fun _ => rfl, fun _ => Iff.rfl⟩

theorem SameFor.trans {db'' : Database} (h : SameFor u db db') (h' : SameFor u db' db'') :
    SameFor u db db'' :=
  ⟨fun g => (h'.groups g).trans (h.groups g), fun c => (h'.channels c).trans (h.channels c)⟩

/-- A call may do this: the tables stay in order, and the user's part as it is. -/
def Elsewhere (u : String) (db db' : Database) : Prop :=
  Rooms db → Rooms db' ∧ SameFor u db db'

/-- The tables of the users, the groups and the channels are the same. -/
structure Beside (db db' : Database) : Prop where
  users : db'.users = db.users
  groups : db'.groups = db.groups
  members : db'.groupMembers = db.groupMembers
  channels : db'.channels = db.channels
  subscribers : db'.channelSubscribers = db.channelSubscribers

theorem elsewhere_of_eq (hgroups : db'.groups = db.groups)
    (hmembers : db'.groupMembers = db.groupMembers) (hchannels : db'.channels = db.channels)
    (hsubscribers : db'.channelSubscribers = db.channelSubscribers) : Elsewhere u db db' := by
  intro h
  refine ⟨⟨?_, ?_, ?_, ?_⟩, ?_, ?_⟩
  · rw [hgroups]
    exact h.groupKeys
  · rw [hmembers]
    exact h.memberKeys
  · unfold HasGroup
    rw [hmembers, hgroups]
    exact h.members
  · unfold HasChannel
    rw [hsubscribers, hchannels]
    exact h.subscribers
  · intro g
    unfold groupOf roleOf
    rw [hgroups, hmembers]
  · intro c
    unfold Subscribed
    rw [hsubscribers]

theorem Beside.elsewhere (h : Beside db db') : Elsewhere u db db' :=
  elsewhere_of_eq h.groups h.members h.channels h.subscribers

/-! ### Groups -/

variable {groupId name creator role : String}

theorem find_withGroup (g : String) :
    (withGroup db groupId name creator).groups.find? (·.groupId == g) =
      (db.groups.find? (·.groupId == g)).or
        (if groupId = g then some ⟨groupId, name, creator⟩ else none) := by
  unfold withGroup
  rw [List.find?_append, List.find?_singleton]
  by_cases h : groupId = g <;> simp [h]

theorem find_group_none (h : ¬ HasGroup db groupId) :
    db.groups.find? (·.groupId == groupId) = none := by
  rw [List.find?_eq_none]
  intro g hg heq
  exact h ⟨g, hg, beq_iff_eq.mp heq⟩

theorem roleOf_none (hrooms : Rooms db) (h : ¬ HasGroup db groupId) (u : String) :
    roleOf db groupId u = none := by
  rw [← Option.not_isSome_iff_eq_none, ← any_members]
  intro hany
  obtain ⟨m, hm, hboth⟩ := List.any_eq_true.mp hany
  have hid : m.groupId = groupId ∧ m.userId = u := by simpa using hboth
  exact h (hid.1 ▸ hrooms.members m hm)

theorem elsewhere_withGroup (hnew : ¬ HasGroup db groupId) :
    Elsewhere u db (withGroup db groupId name creator) := by
  intro h
  refine ⟨⟨?_, h.memberKeys, ?_, h.subscribers⟩, fun g => ?_, fun _ => Iff.rfl⟩
  · unfold withGroup
    rw [List.map_append, List.map_singleton, List.nodup_append]
    refine ⟨h.groupKeys, List.nodup_singleton _, fun a ha b hb heq => hnew ?_⟩
    obtain ⟨g, hg, rfl⟩ := List.mem_map.mp ha
    exact ⟨g, hg, heq.trans (List.mem_singleton.mp hb)⟩
  · intro m hm
    obtain ⟨g, hg, hid⟩ := h.members m hm
    exact ⟨g, List.mem_append_left _ hg, hid⟩
  · unfold groupOf
    rw [find_withGroup, show roleOf (withGroup db groupId name creator) g u = roleOf db g u from rfl]
    by_cases hg : groupId = g
    · subst hg
      rw [roleOf_none h hnew]
      cases (db.groups.find? (·.groupId == groupId)).or _ <;>
        cases db.groups.find? (·.groupId == groupId) <;> rfl
    · rw [if_neg hg, Option.or_none]

/-- A member of a group that is there, and who was none. -/
theorem rooms_withMember (h : Rooms db) (hthere : HasGroup db groupId)
    (hnone : roleOf db groupId v = none) : Rooms (withMember db groupId v role) := by
  refine ⟨h.groupKeys, ?_, ?_, h.subscribers⟩
  · unfold withMember
    rw [List.map_append, List.map_singleton, List.nodup_append]
    refine ⟨h.memberKeys, List.nodup_singleton _, fun a ha b hb heq => ?_⟩
    obtain ⟨m, hm, rfl⟩ := List.mem_map.mp ha
    obtain ⟨hgroup, huser⟩ := Prod.mk.inj (heq.trans (List.mem_singleton.mp hb))
    rw [← Option.not_isSome_iff_eq_none, ← any_members] at hnone
    refine hnone (List.any_eq_true.mpr ⟨m, hm, ?_⟩)
    rw [hgroup, huser]
    simp
  · intro m hm
    rcases List.mem_append.mp hm with hm | hm
    · exact h.members m hm
    · rw [List.mem_singleton.mp hm]
      exact hthere

theorem groupOf_withMember (hnone : roleOf db groupId v = none) (u g : String) :
    groupOf (withMember db groupId v role) u g =
      if groupId = g ∧ v = u then (db.groups.find? (·.groupId == g)).map fun row => (row, role)
      else groupOf db u g := by
  unfold groupOf
  rw [roleOf_withMember g u role hnone]
  change (db.groups.find? _).bind _ = _
  split_ifs
  · cases db.groups.find? (·.groupId == g) <;> rfl
  · rfl

theorem elsewhere_withMember (hne : v ≠ u) (hthere : HasGroup db groupId)
    (hnone : roleOf db groupId v = none) : Elsewhere u db (withMember db groupId v role) := by
  intro h
  refine ⟨rooms_withMember h hthere hnone, fun g => ?_, fun _ => Iff.rfl⟩
  rw [groupOf_withMember hnone, if_neg fun hboth => hne hboth.2]

theorem rooms_withoutMember (h : Rooms db) (groupId v : String) :
    Rooms (withoutMember db groupId v) where
  groupKeys := h.groupKeys
  memberKeys := h.memberKeys.sublist (List.filter_sublist.map _)
  members m hm := h.members m (List.mem_filter.mp hm).1
  subscribers := h.subscribers

theorem groupOf_withoutMember (db : Database) (groupId v u g : String) :
    groupOf (withoutMember db groupId v) u g =
      if groupId = g ∧ v = u then none else groupOf db u g := by
  unfold groupOf
  rw [roleOf_withoutMember]
  change (db.groups.find? _).bind _ = _
  split_ifs
  · cases db.groups.find? (·.groupId == g) <;> rfl
  · rfl

theorem elsewhere_withoutMember (hne : v ≠ u) : Elsewhere u db (withoutMember db groupId v) := by
  intro h
  refine ⟨rooms_withoutMember h groupId v, fun g => ?_, fun _ => Iff.rfl⟩
  rw [groupOf_withoutMember, if_neg fun hboth => hne hboth.2]

/-! ### Channels -/

variable {channelId : ℤ} {ownerId : String}

theorem elsewhere_withChannel : Elsewhere u db (withChannel db name ownerId) := by
  intro h
  refine ⟨⟨h.groupKeys, h.memberKeys, h.members, fun r hr => ?_⟩, fun _ => rfl, fun _ => Iff.rfl⟩
  exact (hasChannel_withChannel _).mpr (.inl (h.subscribers r hr))

theorem subscribed_withSubscriber (db : Database) (channelId : ℤ) (v u : String) (c : ℤ) :
    Subscribed (withSubscriber db channelId v) u c ↔
      Subscribed db u c ∨ c = channelId ∧ u = v := by
  unfold Subscribed withSubscriber
  dsimp only
  split_ifs with hthere
  · refine ⟨.inl, fun h => h.elim id fun heq => ?_⟩
    rw [heq.1, heq.2]
    exact hthere
  · rw [List.mem_append, List.mem_singleton, ChannelSubscriberRow.mk.injEq]

theorem rooms_withSubscriber (h : Rooms db) (hthere : HasChannel db channelId) (v : String) :
    Rooms (withSubscriber db channelId v) := by
  refine ⟨h.groupKeys, h.memberKeys, h.members, fun r hr => ?_⟩
  rcases (subscribed_withSubscriber db channelId v r.userId r.channelId).mp hr with hr | ⟨hid, -⟩
  · exact h.subscribers r hr
  · rw [hid]
    exact hthere

theorem elsewhere_withSubscriber (hne : v ≠ u) (hthere : HasChannel db channelId) :
    Elsewhere u db (withSubscriber db channelId v) := by
  intro h
  refine ⟨rooms_withSubscriber h hthere v, fun _ => rfl, fun c => ?_⟩
  rw [subscribed_withSubscriber]
  exact or_iff_left fun hboth => hne hboth.2.symm

theorem subscribed_withoutSubscriber (db : Database) (channelId : ℤ) (v u : String) (c : ℤ) :
    Subscribed (withoutSubscriber db channelId v) u c ↔
      Subscribed db u c ∧ ¬ (c = channelId ∧ u = v) := by
  unfold Subscribed withoutSubscriber
  dsimp only
  rw [List.mem_filter]
  refine and_congr_right fun _ => ?_
  rw [Bool.not_eq_true', beq_eq_false_iff_ne, ne_eq, ChannelSubscriberRow.mk.injEq]

theorem rooms_withoutSubscriber (h : Rooms db) (channelId : ℤ) (v : String) :
    Rooms (withoutSubscriber db channelId v) where
  groupKeys := h.groupKeys
  memberKeys := h.memberKeys
  members := h.members
  subscribers r hr := h.subscribers r (List.mem_filter.mp hr).1

theorem elsewhere_withoutSubscriber (hne : v ≠ u) :
    Elsewhere u db (withoutSubscriber db channelId v) := by
  intro h
  refine ⟨rooms_withoutSubscriber h channelId v, fun _ => rfl, fun c => ?_⟩
  rw [subscribed_withoutSubscriber]
  exact and_iff_left fun hboth => hne hboth.2.symm

/-! ## Statements -/

theorem of_insertGroup {a : Unit} (h : insertGroup groupId name creator db = .ok (a, db')) :
    ¬ HasGroup db groupId ∧ db' = withGroup db groupId name creator := by
  unfold insertGroup at h
  split at h
  · cases h
  · next hnew =>
    cases h
    exact ⟨fun hthere => hnew (any_groups.mpr hthere), rfl⟩

theorem of_insertGroupMember {a : Unit}
    (h : insertGroupMember groupId v role db = .ok (a, db')) :
    HasGroup db groupId ∧ roleOf db groupId v = none ∧ db' = withMember db groupId v role := by
  unfold insertGroupMember at h
  split at h
  · cases h
  · next hnew =>
    split at h
    · cases h
    · next hthere =>
      cases h
      refine ⟨any_groups.mp (by simpa using hthere), ?_, rfl⟩
      rw [← Option.not_isSome_iff_eq_none, ← any_members]
      exact hnew

theorem of_insertOrIgnoreGroupMember {a : Unit}
    (h : insertOrIgnoreGroupMember groupId v role db = .ok (a, db')) :
    db' = db ∨ HasGroup db groupId ∧ roleOf db groupId v = none ∧
      db' = withMember db groupId v role := by
  unfold insertOrIgnoreGroupMember at h
  split at h
  · cases h
    exact .inl rfl
  · next hnew =>
    split at h
    · cases h
    · next hthere =>
      cases h
      refine .inr ⟨any_groups.mp (by simpa using hthere), ?_, rfl⟩
      rw [← Option.not_isSome_iff_eq_none, ← any_members]
      exact hnew

theorem of_insertOrIgnoreSubscriber {a : Unit} (hrooms : Rooms db)
    (h : insertOrIgnoreSubscriber channelId v db = .ok (a, db')) :
    HasChannel db channelId ∧ db' = withSubscriber db channelId v := by
  unfold insertOrIgnoreSubscriber at h
  split at h
  · next hthere =>
    cases h
    refine ⟨hrooms.subscribers _ hthere, ?_⟩
    unfold withSubscriber
    rw [if_pos hthere]
  · next hnew =>
    split at h
    · cases h
    · next hthere =>
      cases h
      refine ⟨any_channels.mp (by simpa using hthere), ?_⟩
      unfold withSubscriber
      rw [if_neg hnew]

/-! ## Calls beside the groups and channels -/

abbrev MovesBeside {α : Type} (x : StoreM α) (db : Database) : Prop := Auto.Moves Beside x db

theorem beside_exec {α : Type} {stmt : Statement α} {a : α} (h : stmt db = .ok (a, db'))
    (hbeside : Beside db db') : MovesBeside (.exec stmt) db := Auto.moves_once h hbeside

theorem beside_fetchMessages (J : RelaySerde) (userId : String) (clock : ℕ → UInt64) :
    MovesBeside (fetchMessages J userId clock) db := by
  refine Auto.moves_bind (Auto.moves_read rfl) fun _ _ _ db₁ _ _ => ?_
  refine Auto.moves_bind (beside_exec rfl ⟨rfl, rfl, rfl, rfl, rfl⟩) fun _ _ _ db₂ _ _ => ?_
  refine Auto.moves_bind ?_ fun _ _ _ db₃ _ _ => Auto.moves_pure _ db₃
  refine Auto.moves_loop (P := fun _ => True) (fun _ _ _ _ => trivial) (fun _ _ _ => ?_) _ db₂
    trivial
  exact beside_exec rfl ⟨rfl, rfl, rfl, rfl, rfl⟩

theorem beside_createPoll (creator question : String) (options : List String) :
    MovesBeside (createPoll creator question options) db := by
  refine Auto.moves_bind (beside_exec rfl ⟨rfl, rfl, rfl, rfl, rfl⟩) fun _ _ pollId db₁ _ _ => ?_
  refine Auto.moves_bind ?_ fun _ _ _ db₂ _ _ => Auto.moves_pure _ db₂
  refine Auto.moves_loop (P := fun _ => True) (fun _ _ _ _ => trivial) (fun _ _ _ => ?_) _ db₁
    trivial
  refine Auto.moves_step fun _ db' h => Or.inr ?_
  unfold insertPollOption at h
  split at h
  · cases h
  · cases h
    exact ⟨rfl, rfl, rfl, rfl, rfl⟩

theorem beside_votePoll (pollId : ℤ) (userId : String) (optionId : ℤ) :
    MovesBeside (votePoll pollId userId optionId) db := by
  refine Auto.moves_bind (Auto.moves_attempt_read rfl) fun _ _ poll db₁ _ _ => ?_
  split
  · refine Auto.moves_bind (Auto.moves_read rfl) fun _ _ count db₂ _ _ => ?_
    split
    · exact Auto.moves_pure _ db₂
    · refine Auto.moves_return (Auto.moves_step fun _ db' h => Or.inr ?_) _
      unfold upsertVote at h
      split at h
      · cases h
      · cases h
        exact ⟨rfl, rfl, rfl, rfl, rfl⟩
  · exact Auto.moves_pure _ db₁

theorem beside_pollResults (pollId : ℤ) : MovesBeside (pollResults pollId) db := by
  refine Auto.moves_bind (Auto.moves_attempt_read rfl) fun _ _ poll db₁ _ _ => ?_
  split
  · exact Auto.moves_pure _ db₁
  · exact Auto.moves_return (Auto.moves_read rfl) _

theorem beside_closePoll (pollId : ℤ) (userId : String) :
    MovesBeside (closePoll pollId userId) db := by
  refine Auto.moves_bind (Auto.moves_attempt_read rfl) fun _ _ poll db₁ _ _ => ?_
  split
  · split
    · refine Auto.moves_return ?_ _
      exact beside_exec rfl ⟨rfl, rfl, rfl, rfl, rfl⟩
    · exact Auto.moves_pure _ db₁
  · exact Auto.moves_pure _ db₁

theorem beside_deletePost (postId : ℤ) (userId : String) :
    MovesBeside (deletePost postId userId) db := by
  refine Auto.moves_bind (beside_exec rfl ⟨rfl, rfl, rfl, rfl, rfl⟩) fun _ _ _ db₁ _ _ => ?_
  refine Auto.moves_return (Auto.moves_step fun _ db' h => Or.inr ?_) _
  unfold deletePosts at h
  dsimp only at h
  split at h
  · cases h
  · cases h
    exact ⟨rfl, rfl, rfl, rfl, rfl⟩

theorem beside_addComment (now postId : ℤ) (userId content : String) :
    MovesBeside (addComment now postId userId content) db := by
  refine Auto.moves_step fun _ db' h => Or.inr ?_
  unfold insertComment at h
  split at h
  · cases h
  · cases h
    exact ⟨rfl, rfl, rfl, rfl, rfl⟩

/-- A command whose first call is about none of the users, the groups and the channels, or only
    reads of them. -/
def Aside : Handled → Prop
  | .register _ | .setPresence _ | .createGroup _ | .leaveGroup _ | .createChannel _
  | .unsubscribeChannel _ => False
  | _ => True

theorem handle_beside {cmd : Handled} (h : Aside cmd) (db : Database) :
    MovesBeside (handle T world cmd).op db := by
  cases cmd with
  | register _ | setPresence _ | createGroup _ | leaveGroup _ | createChannel _
  | unsubscribeChannel _ => exact h.elim
  | receive cmd => exact beside_fetchMessages _ _ _
  | setStatus cmd =>
    refine Auto.moves_return ?_ _
    exact beside_exec rfl ⟨rfl, rfl, rfl, rfl, rfl⟩
  | createPoll cmd =>
    by_cases hfew : cmd.options.length < 2
    · rw [show handle T world (.createPoll cmd) = _ from if_pos hfew]
      exact Auto.moves_pure _ db
    · rw [show handle T world (.createPoll cmd) = _ from if_neg hfew]
      exact beside_createPoll _ _ _
  | votePoll cmd => exact beside_votePoll _ _ _
  | pollResults cmd => exact beside_pollResults _
  | closePoll cmd => exact beside_closePoll _ _
  | deletePost cmd => exact beside_deletePost _ _
  | addComment cmd => exact beside_addComment _ _ _ _
  | send _ | clearStatus _ | createPost _ => exact beside_exec rfl ⟨rfl, rfl, rfl, rfl, rfl⟩
  | fetchKeys _ | joinGroup _ => exact Auto.moves_return (Auto.moves_read rfl) _
  | listUsers _ | myGroups _ | groupMembers _ | getStories | subscribeChannel _ | listChannels
  | myChannels _ | channelMembers _ | listPolls | getTimeline _ | getComments _ =>
    exact Auto.moves_read rfl

/-! ## Calls in another name -/

/-- Every statement of the program leaves the user's groups and channels as they are. -/
abbrev MovesElsewhere {α : Type} (u : String) (x : StoreM α) (db : Database) : Prop :=
  Auto.Moves (Elsewhere u) x db

/-- A command whose groups and channels are another's. -/
def Foreign (u : String) : Handled → Prop
  | .createGroup cmd => cmd.creator ≠ u
  | .joinGroup cmd => cmd.userId ≠ u
  | .leaveGroup cmd => cmd.userId ≠ u
  | .createChannel cmd => cmd.ownerId ≠ u
  | .subscribeChannel cmd => cmd.userId ≠ u
  | .unsubscribeChannel cmd => cmd.userId ≠ u
  | _ => True

/-- A handler of such a command, at any of its calls. -/
def Stage.Foreign (T : Texts) (u : String) : Stage → Prop
  | .command line => ∀ cmd, handleCommand T.value line = .ok cmd → Service.Foreign u cmd
  | .addMember _ v => v ≠ u
  | .autoSubscribe _ v => v ≠ u
  | .addSubscriber _ v => v ≠ u

theorem elsewhere_createGroup (hne : v ≠ u) (groupId name : String) :
    MovesElsewhere u (createGroup groupId name v) db := by
  refine Auto.moves_bind (Auto.moves_step fun _ db' h => ?_) fun _ _ _ db' _ _ =>
    Auto.moves_return (Auto.moves_step fun _ db'' h => ?_) _
  · obtain ⟨hnew, rfl⟩ := of_insertGroup h
    exact .inr (elsewhere_withGroup hnew)
  · obtain ⟨hthere, hnone, rfl⟩ := of_insertGroupMember h
    exact .inr (elsewhere_withMember hne hthere hnone)

theorem elsewhere_addGroupMember (hne : v ≠ u) (groupId : String) :
    MovesElsewhere u (addGroupMember groupId v) db := by
  refine Auto.moves_step fun _ db' h => ?_
  rcases of_insertOrIgnoreGroupMember h with rfl | ⟨hthere, hnone, rfl⟩
  · exact .inl rfl
  · exact .inr (elsewhere_withMember hne hthere hnone)

theorem elsewhere_subscribeChannel (hne : v ≠ u) (channelId : ℤ) :
    MovesElsewhere u (subscribeChannel channelId v) db := by
  refine Auto.moves_step fun _ db' h => Or.inr fun hrooms => ?_
  obtain ⟨hthere, rfl⟩ := of_insertOrIgnoreSubscriber hrooms h
  exact elsewhere_withSubscriber hne hthere hrooms

theorem handle_elsewhere {cmd : Handled} (h : Foreign u cmd) (db : Database) :
    MovesElsewhere u (handle T world cmd).op db := by
  have haside : Aside cmd → MovesElsewhere u (handle T world cmd).op db := fun haside =>
    (handle_beside haside db).mono fun _ _ hbeside => hbeside.elsewhere
  cases cmd with
  | createGroup cmd => exact elsewhere_createGroup h _ _
  | leaveGroup cmd => exact Auto.moves_once rfl (elsewhere_withoutMember h)
  | createChannel cmd => exact Auto.moves_once rfl elsewhere_withChannel
  | unsubscribeChannel cmd => exact Auto.moves_once rfl (elsewhere_withoutSubscriber h)
  | register _ | setPresence _ =>
    exact Auto.moves_once rfl (elsewhere_of_eq rfl rfl rfl rfl)
  | _ => exact haside trivial

/-- **A call in another name** leaves the user's groups and channels as they are. -/
theorem elsewhere_call {t : Task} (h : t.stage.Foreign T u) (hrooms : Rooms db) :
    Rooms (t.call T db).2 ∧ SameFor u db (t.call T db).2 := by
  have hmoves : MovesElsewhere u (t.stage.storeCall T t.world).op db := by
    obtain ⟨stage, world, faults, n⟩ := t
    cases stage with
    | command line =>
      cases hread : handleCommand T.value line with
      | error r =>
        dsimp only
        rw [storeCall_refused hread]
        exact Auto.moves_pure _ db
      | ok cmd =>
        dsimp only
        rw [storeCall_command hread]
        exact handle_elsewhere (h cmd hread) db
    | addMember groupId v => exact elsewhere_addGroupMember h _
    | autoSubscribe channelId v => exact elsewhere_subscribeChannel h _
    | addSubscriber channelId v => exact elsewhere_subscribeChannel h _
  refine hmoves.keeps (P := fun d => Rooms d ∧ SameFor u db d) (fun d d' hstep hd => ?_)
    ⟨hrooms, .refl u db⟩ t.faults t.ran
  obtain ⟨hrooms', hsame⟩ := hstep hd.1
  exact ⟨hrooms', hd.2.trans hsame⟩

/-- The handler goes on in the same name. -/
theorem foreign_next {t t' : Task} (h : t.stage.Foreign T u) (hnext : (t.call T db).1 = .inl t') :
    t'.stage.Foreign T u := by
  have hends := @storeCall_ends T t.world t.stage
    ((t.stage.storeCall T t.world).op t.faults db t.ran).1
  unfold Task.call StoreCall.run at hnext
  dsimp only at hnext
  rcases hends with ⟨line, cmd, stage', hline, hread, hgo, hfollows⟩ | ⟨response, hend, -⟩
  · rw [hgo] at hnext
    cases hnext
    rw [hline] at h
    have hforeign := h cmd hread
    cases hfollows <;> exact hforeign
  · rw [hend] at hnext
    cases hnext

/-! ## Calls in the user's name -/

/-- A command whose groups and channels are the user's, if it has any. -/
def Own (u : String) : Handled → Prop
  | .createGroup cmd => cmd.creator = u
  | .joinGroup cmd => cmd.userId = u
  | .leaveGroup cmd => cmd.userId = u
  | .myGroups cmd => cmd.userId = u
  | .createChannel cmd => cmd.ownerId = u
  | .subscribeChannel cmd => cmd.userId = u
  | .unsubscribeChannel cmd => cmd.userId = u
  | _ => True

/-- What `list_my_groups` finds. -/
def Lists (db : Database) (u : String) (groups : List (GroupRow × String)) : Prop :=
  (groups.map fun g => g.1.groupId).Nodup ∧
    ∀ g, g ∈ groups ↔ groupOf db u g.1.groupId = some g

/-- What the answer to a command of the user tells of the groups and channels. -/
inductive Tells (u : String) (db db' : Database) : Handled → ServerResponse → Prop
  | failed (cmd : Handled) (text : String) (h : SameFor u db db') : Tells u db db' cmd (.failed text)
  | other {cmd : Handled} (hcmd : Foreign u cmd) (hlist : ∀ c, cmd ≠ .myGroups c)
    (r : ServerResponse) (h : SameFor u db db') : Tells u db db' cmd r
  | created (cmd : CreateGroupCmd) (groupId : String)
    (hgroups : groupOf db' u =
      Function.update (groupOf db u) groupId (some (⟨groupId, cmd.name, u⟩, "admin")))
    (hchannels : ∀ c, Subscribed db' u c ↔ Subscribed db u c) :
    Tells u db db' (.createGroup cmd) (.ok (some (.obj [("group_id", Wire.string.encode groupId)])))
  | joined (cmd : JoinGroupCmd) (hchannels : ∀ c, Subscribed db' u c ↔ Subscribed db u c) :
    Tells u db db' (.joinGroup cmd) (.ok none)
  | left (cmd : LeaveGroupCmd)
    (hgroups : groupOf db' u = Function.update (groupOf db u) cmd.groupId none)
    (hchannels : ∀ c, Subscribed db' u c ↔ Subscribed db u c) :
    Tells u db db' (.leaveGroup cmd) (.ok none)
  | listed (cmd : MyGroupsCmd) {groups : List (GroupRow × String)} (hlists : Lists db' u groups)
    (hchannels : ∀ c, Subscribed db' u c ↔ Subscribed db u c) :
    Tells u db db' (.myGroups cmd) (.ok (some (rows "groups" groupJson groups)))
  | opened (cmd : CreateChannelCmd) (channelId : ℤ)
    (hgroups : ∀ g, groupOf db' u g = groupOf db u g) (hthere : HasChannel db' channelId)
    (hchannels : ∀ c, Subscribed db' u c ↔ Subscribed db u c ∨ c = channelId) :
    Tells u db db' (.createChannel cmd) (.ok (some (.obj [("channel_id", int channelId)])))
  | subscribed (cmd : SubscribeChannelCmd) (hgroups : ∀ g, groupOf db' u g = groupOf db u g)
    (hchannels : ∀ c, Subscribed db' u c ↔ Subscribed db u c ∨ c = cmd.channelId.toInt) :
    Tells u db db' (.subscribeChannel cmd) (.ok none)
  | unsubscribed (cmd : UnsubscribeChannelCmd) (hgroups : ∀ g, groupOf db' u g = groupOf db u g)
    (hchannels : ∀ c, Subscribed db' u c ↔ Subscribed db u c ∧ c ≠ cmd.channelId.toInt) :
    Tells u db db' (.unsubscribeChannel cmd) (.ok none)

/-- A handler with one statement: the statement has failed, or has done its work. -/
theorem run_answer_exec {α : Type} (stmt : Statement α) (data : α → Option Json)
    (faults : Faults DbError) (db : Database) (n : ℕ) :
    (∃ text, (answer T (.exec stmt) data).run faults db n = (.inr (.failed text), db, n + 1)) ∨
      ∃ a db', stmt db = .ok (a, db') ∧
        (answer T (.exec stmt) data).run faults db n = (.inr (.ok (data a)), db', n + 1) := by
  unfold StoreCall.run answer
  dsimp only
  rcases Auto.run_exec_cases stmt faults db n with ⟨e, he⟩ | ⟨a, db', hs, hok⟩
  · rw [he]
    exact .inl ⟨_, rfl⟩
  · rw [hok]
    exact .inr ⟨a, db', hs, rfl⟩

/-- A call on a command of the user: what its answer tells, or how the handler goes on. -/
structure CallTells (u : String) (cmd : Handled) (db : Database) (n : ℕ)
    (out : (Stage ⊕ ServerResponse) × Database × ℕ) : Prop where
  rooms : Rooms out.2.1
  answers : ∀ r, out.1 = .inr r → Tells u db out.2.1 cmd r
  goes : ∀ stage, out.1 = .inl stage → SameFor u db out.2.1 ∧ Follows cmd stage ∧
    (∀ channelId ownerId, stage = .autoSubscribe channelId ownerId → HasChannel out.2.1 channelId) ∧
    out.2.2 = n + 1

theorem tells_answer {cmd : Handled} {n n' : ℕ} {r : ServerResponse} (hrooms : Rooms db')
    (h : Tells u db db' cmd r) : CallTells u cmd db n (.inr r, db', n') where
  rooms := hrooms
  answers r' heq := by
    cases heq
    exact h
  goes _ heq := by cases heq

theorem tells_failed {cmd : Handled} {n n' : ℕ} {text : String} (hrooms : Rooms db')
    (h : SameFor u db db') : CallTells u cmd db n (.inr (.failed text), db', n') :=
  tells_answer hrooms (.failed cmd text h)

theorem groupOf_created (hrooms : Rooms db) (hnew : ¬ HasGroup db groupId)
    (hnone : roleOf (withGroup db groupId name creator) groupId u = none) :
    groupOf (withMember (withGroup db groupId name creator) groupId u role) u =
      Function.update (groupOf db u) groupId (some (⟨groupId, name, creator⟩, role)) := by
  funext g
  rw [groupOf_withMember hnone]
  by_cases hg : groupId = g
  · subst hg
    rw [if_pos ⟨rfl, rfl⟩, Function.update_self, find_withGroup, if_pos rfl, find_group_none hnew]
    rfl
  · rw [if_neg fun h => hg h.1, Function.update_of_ne (Ne.symm hg)]
    exact ((elsewhere_withGroup hnew hrooms).2).groups g

theorem tells_createGroup (hrooms : Rooms db) (cmd : CreateGroupCmd) (hcmd : cmd.creator = u)
    (faults : Faults DbError) (n : ℕ) :
    CallTells u (.createGroup cmd) db n ((handleCreateGroup T world cmd).run faults db n) := by
  unfold handleCreateGroup StoreCall.run answer createGroup
  dsimp only
  rw [hcmd]
  rcases Auto.run_exec_cases (insertGroup world.groupId cmd.name u) faults db n with
    ⟨e, he⟩ | ⟨_, db₁, hgroup, hok⟩
  · rw [Auto.run_bind_error he]
    exact tells_failed hrooms (.refl u db)
  · rw [Auto.run_bind_ok hok]
    obtain ⟨hnew, rfl⟩ := of_insertGroup hgroup
    obtain ⟨hrooms₁, hsame₁⟩ := @elsewhere_withGroup db u _ cmd.name u hnew hrooms
    rcases Auto.run_exec_cases (insertGroupMember world.groupId u "admin") faults _ (n + 1) with
      ⟨e, he⟩ | ⟨_, db₂, hmember, hok⟩
    · rw [Auto.run_bind_error he]
      exact tells_failed hrooms₁ hsame₁
    · rw [Auto.run_bind_ok hok]
      obtain ⟨hthere, hnone, rfl⟩ := of_insertGroupMember hmember
      exact tells_answer (rooms_withMember hrooms₁ hthere hnone)
        (.created cmd world.groupId (groupOf_created hrooms hnew hnone) fun _ => Iff.rfl)

theorem tells_leaveGroup (hrooms : Rooms db) (cmd : LeaveGroupCmd) (hcmd : cmd.userId = u)
    (faults : Faults DbError) (n : ℕ) :
    CallTells u (.leaveGroup cmd) db n ((handleLeaveGroup T cmd).run faults db n) := by
  unfold handleLeaveGroup removeGroupMember
  rcases run_answer_exec (T := T) (deleteGroupMember cmd.groupId cmd.userId) (fun _ => none) faults
    db n with ⟨text, hrun⟩ | ⟨_, db', hstmt, hrun⟩
  · rw [hrun]
    exact tells_failed hrooms (.refl u db)
  · rw [hrun]
    cases hstmt
    refine tells_answer (rooms_withoutMember hrooms cmd.groupId cmd.userId)
      (.left cmd (funext fun g => ?_) fun _ => Iff.rfl)
    change groupOf (withoutMember db cmd.groupId cmd.userId) u g = _
    rw [groupOf_withoutMember, hcmd]
    by_cases hg : cmd.groupId = g
    · subst hg
      rw [if_pos ⟨rfl, rfl⟩, Function.update_self]
    · rw [if_neg fun h => hg h.1, Function.update_of_ne (Ne.symm hg)]

/-- What `SELECT` finds of the user's groups. -/
theorem lists_selectMyGroups (hrooms : Rooms db) (u : String) :
    Lists db u (orderBy (fun r => r.1.name) (db.groups.flatMap fun g =>
      (db.groupMembers.filter fun m => g.groupId == m.groupId && m.userId == u).map
        fun m => (g, m.role))) := by
  have hfind : ∀ g : GroupRow, db.groups.find? (·.groupId == g.groupId) = some g ↔ g ∈ db.groups := by
    intro g
    constructor
    · exact List.mem_of_find?_eq_some
    · intro hg
      cases hfound : db.groups.find? (·.groupId == g.groupId) with
      | none => exact absurd (List.find?_eq_none.mp hfound g hg) (by simp)
      | some g' =>
        have hid : g'.groupId = g.groupId := by simpa using List.find?_some hfound
        rw [List.inj_on_of_nodup_map hrooms.groupKeys (List.mem_of_find?_eq_some hfound) hg hid]
  constructor
  · rw [nodup_map_orderBy, List.map_flatMap]
    simp only [List.map_map]
    exact nodup_join hrooms.groupKeys
      hrooms.memberKeys u
  · rintro ⟨g, role⟩
    rw [mem_orderBy, List.mem_flatMap]
    unfold groupOf
    dsimp only
    rw [Option.bind_eq_some_iff]
    constructor
    · rintro ⟨g', hg', hmem⟩
      obtain ⟨m, hm, heq⟩ := List.mem_map.mp hmem
      obtain ⟨rfl, rfl⟩ := Prod.mk.inj heq
      obtain ⟨hm, hboth⟩ := List.mem_filter.mp hm
      obtain ⟨hid, huser⟩ : g'.groupId = m.groupId ∧ m.userId = u := by simpa using hboth
      have hrole : roleOf db g'.groupId u = some m.role := by
        rw [roleOf_eq_some_iff hrooms.memberKeys, hid, ← huser]
        exact hm
      refine ⟨g', (hfind g').mpr hg', ?_⟩
      rw [hrole]
      rfl
    · rintro ⟨g', hg', hrole⟩
      obtain ⟨role', hrole', heq⟩ := Option.map_eq_some_iff.mp hrole
      obtain ⟨rfl, rfl⟩ := Prod.mk.inj heq
      refine ⟨g', (hfind g').mp hg', List.mem_map.mpr ⟨_, List.mem_filter.mpr
        ⟨(roleOf_eq_some_iff hrooms.memberKeys).mp hrole', ?_⟩, rfl⟩⟩
      simp

theorem tells_myGroups (hrooms : Rooms db) (cmd : MyGroupsCmd) (hcmd : cmd.userId = u)
    (faults : Faults DbError) (n : ℕ) :
    CallTells u (.myGroups cmd) db n ((handleMyGroups T cmd).run faults db n) := by
  unfold handleMyGroups listMyGroups
  rcases run_answer_exec (T := T) (selectMyGroups cmd.userId)
    (fun groups => some (rows "groups" groupJson groups)) faults db n with
    ⟨text, hrun⟩ | ⟨_, db', hstmt, hrun⟩
  · rw [hrun]
    exact tells_failed hrooms (.refl u db)
  · rw [hrun]
    rw [hcmd] at hstmt
    cases hstmt
    exact tells_answer hrooms (.listed cmd (lists_selectMyGroups hrooms u) fun _ => Iff.rfl)

theorem tells_createChannel (hrooms : Rooms db) (cmd : CreateChannelCmd)
    (faults : Faults DbError) (n : ℕ) :
    CallTells u (.createChannel cmd) db n ((handleCreateChannel T cmd).run faults db n) := by
  unfold handleCreateChannel StoreCall.run createChannel
  dsimp only
  rcases Auto.run_exec_cases (insertChannel cmd.name cmd.ownerId) faults db n with
    ⟨e, he⟩ | ⟨_, db', hstmt, hok⟩
  · rw [he]
    exact tells_failed hrooms (.refl u db)
  · rw [hok]
    cases hstmt
    obtain ⟨hrooms', hsame⟩ := @elsewhere_withChannel db u cmd.name cmd.ownerId hrooms
    refine ⟨hrooms', fun r heq => (by cases heq), fun stage heq => ?_⟩
    cases heq
    refine ⟨hsame, .autoSubscribe cmd _, fun channelId ownerId hstage => ?_, rfl⟩
    cases hstage
    exact (hasChannel_withChannel _).mpr (.inr rfl)

/-- The subscription of a new channel's owner, if the database does not fail. -/
theorem tells_autoSubscribe (hrooms : Rooms db) (cmd : CreateChannelCmd) {channelId : ℤ}
    (hthere : HasChannel db channelId) {faults : Faults DbError} {n : ℕ} (hf : faults n = none) :
    CallTells u (.createChannel cmd) db n
      (((Stage.autoSubscribe channelId u).storeCall T world).run faults db n) := by
  have hstmt : insertOrIgnoreSubscriber channelId u db = .ok ((), withSubscriber db channelId u) := by
    unfold insertOrIgnoreSubscriber withSubscriber
    split
    · rfl
    · rw [if_neg (by rw [any_channels.mpr hthere]; exact Bool.false_ne_true)]
  unfold Stage.storeCall StoreCall.run subscribeChannel
  dsimp only
  rw [Auto.run_exec_ok hf hstmt]
  refine tells_answer (rooms_withSubscriber hrooms hthere u)
    (.opened cmd channelId (fun _ => rfl) hthere fun c => ?_)
  rw [subscribed_withSubscriber]
  exact or_congr_right (and_iff_left rfl)

theorem tells_subscribe (hrooms : Rooms db) (cmd : SubscribeChannelCmd) (faults : Faults DbError)
    (n : ℕ) : CallTells u (.subscribeChannel cmd) db n
      (((Stage.addSubscriber cmd.channelId.toInt u).storeCall T world).run faults db n) := by
  unfold Stage.storeCall subscribeChannel
  dsimp only
  rcases run_answer_exec (T := T) (insertOrIgnoreSubscriber cmd.channelId.toInt u) (fun _ => none)
    faults db n with ⟨text, hrun⟩ | ⟨_, db', hstmt, hrun⟩
  · rw [hrun]
    exact tells_failed hrooms (.refl u db)
  · rw [hrun]
    obtain ⟨hthere, rfl⟩ := of_insertOrIgnoreSubscriber hrooms hstmt
    refine tells_answer (rooms_withSubscriber hrooms hthere u)
      (.subscribed cmd (fun _ => rfl) fun c => ?_)
    rw [subscribed_withSubscriber]
    exact or_congr_right (and_iff_left rfl)

theorem tells_join (hrooms : Rooms db) (cmd : JoinGroupCmd) (faults : Faults DbError) (n : ℕ) :
    CallTells u (.joinGroup cmd) db n
      (((Stage.addMember cmd.groupId u).storeCall T world).run faults db n) := by
  unfold Stage.storeCall addGroupMember
  dsimp only
  rcases run_answer_exec (T := T) (insertOrIgnoreGroupMember cmd.groupId u "member") (fun _ => none)
    faults db n with ⟨text, hrun⟩ | ⟨_, db', hstmt, hrun⟩
  · rw [hrun]
    exact tells_failed hrooms (.refl u db)
  · rw [hrun]
    rcases of_insertOrIgnoreGroupMember hstmt with rfl | ⟨hthere, hnone, rfl⟩
    · exact tells_answer hrooms (.joined cmd fun _ => Iff.rfl)
    · exact tells_answer (rooms_withMember hrooms hthere hnone) (.joined cmd fun _ => Iff.rfl)

theorem tells_unsubscribe (hrooms : Rooms db) (cmd : UnsubscribeChannelCmd) (hcmd : cmd.userId = u)
    (faults : Faults DbError) (n : ℕ) :
    CallTells u (.unsubscribeChannel cmd) db n
      ((handleUnsubscribeChannel T cmd).run faults db n) := by
  unfold handleUnsubscribeChannel unsubscribeChannel
  rcases run_answer_exec (T := T) (deleteSubscriber cmd.channelId.toInt cmd.userId) (fun _ => none)
    faults db n with ⟨text, hrun⟩ | ⟨_, db', hstmt, hrun⟩
  · rw [hrun]
    exact tells_failed hrooms (.refl u db)
  · rw [hrun]
    cases hstmt
    refine tells_answer (rooms_withoutSubscriber hrooms cmd.channelId.toInt cmd.userId)
      (.unsubscribed cmd (fun _ => rfl) fun c => ?_)
    change Subscribed (withoutSubscriber db cmd.channelId.toInt cmd.userId) u c ↔ _
    rw [subscribed_withoutSubscriber, hcmd]
    exact and_congr_right fun _ => not_congr (and_iff_left rfl)

/-- A first call that only looks something up. -/
theorem tells_looks {cmd : Handled} {stage : Stage} {text : String} {n : ℕ} {P : Prop} [Decidable P]
    (hrooms : Rooms db) (hfollows : Follows cmd stage)
    (hstage : ∀ channelId ownerId, stage ≠ .autoSubscribe channelId ownerId) :
    CallTells u cmd db n
      (if P then (.inl stage, db, n + 1) else (.inr (.failed text), db, n + 1)) := by
  split_ifs
  · refine ⟨hrooms, fun r heq => (by cases heq), fun stage' heq => ?_⟩
    cases heq
    exact ⟨.refl u db, hfollows, fun channelId ownerId h => absurd h (hstage _ _), rfl⟩
  · exact tells_failed hrooms (.refl u db)

theorem tells_other {cmd : Handled} (hrooms : Rooms db) (hforeign : Foreign u cmd)
    (hlist : ∀ c, cmd ≠ .myGroups c) (hends : ∀ stage, ¬ Follows cmd stage)
    (faults : Faults DbError) (n : ℕ) :
    CallTells u cmd db n ((handle T world cmd).run faults db n) := by
  have hkept := (@handle_elsewhere T world u cmd hforeign db).keeps
    (P := fun d => Rooms d ∧ SameFor u db d)
    (fun d d' hstep hd => ⟨(hstep hd.1).1, hd.2.trans (hstep hd.1).2⟩) ⟨hrooms, .refl u db⟩ faults n
  refine ⟨hkept.1, fun r _ => .other hforeign hlist r hkept.2, fun stage heq => ?_⟩
  rcases @handle_ends T world cmd ((handle T world cmd).op faults db n).1 with
    ⟨stage', -, hfollows⟩ | ⟨response, hend, -⟩
  · exact absurd hfollows (hends stage')
  · change (handle T world cmd).next _ = .inl stage at heq
    rw [hend] at heq
    cases heq

/-- **A call on a command of the user**, a case for each. -/
theorem tells_command {cmd : Handled} (hrooms : Rooms db) (hown : Own u cmd)
    (faults : Faults DbError) (n : ℕ) :
    CallTells u cmd db n ((handle T world cmd).run faults db n) := by
  cases cmd with
  | createGroup cmd => exact tells_createGroup hrooms cmd hown faults n
  | leaveGroup cmd => exact tells_leaveGroup hrooms cmd hown faults n
  | myGroups cmd => exact tells_myGroups hrooms cmd hown faults n
  | createChannel cmd => exact tells_createChannel hrooms cmd faults n
  | unsubscribeChannel cmd => exact tells_unsubscribe hrooms cmd hown faults n
  | joinGroup cmd =>
    change CallTells u _ db n ((handleJoinGroup cmd).run faults db n)
    rw [run_joinGroup]
    exact tells_looks hrooms (.addMember cmd) nofun
  | subscribeChannel cmd =>
    change CallTells u _ db n ((handleSubscribeChannel cmd).run faults db n)
    rw [Service.run_subscribeChannel]
    exact tells_looks hrooms (.addSubscriber cmd) nofun
  | register _ | fetchKeys _ | send _ | receive _ | listUsers _ | groupMembers _ | setStatus _
  | setPresence _ | clearStatus _ | getStories | listChannels | myChannels _ | channelMembers _
  | createPoll _ | votePoll _ | pollResults _ | listPolls | closePoll _ | createPost _
  | getTimeline _ | addComment _ | deletePost _ | getComments _ =>
    refine tells_other hrooms ?_ (fun c hc => ?_) (fun stage hfollows => ?_) faults n
    · trivial
    · cases hc
    · cases hfollows

/-- **The call after it.** -/
theorem tells_follows {cmd : Handled} {stage : Stage} (hrooms : Rooms db) (hown : Own u cmd)
    (hfollows : Follows cmd stage)
    (hthere : ∀ channelId ownerId, stage = .autoSubscribe channelId ownerId → HasChannel db channelId)
    {faults : Faults DbError} {n : ℕ}
    (hf : ∀ channelId ownerId, stage = .autoSubscribe channelId ownerId → faults n = none) :
    CallTells u cmd db n ((stage.storeCall T world).run faults db n) := by
  cases hfollows with
  | addMember cmd =>
    rw [show cmd.userId = u from hown]
    exact tells_join hrooms cmd faults n
  | autoSubscribe cmd channelId =>
    rw [show cmd.ownerId = u from hown]
    exact tells_autoSubscribe hrooms cmd (hthere _ _ rfl) (hf _ _ rfl)
  | addSubscriber cmd =>
    rw [show cmd.userId = u from hown]
    exact tells_subscribe hrooms cmd faults n

end TinTin.Server.Service
