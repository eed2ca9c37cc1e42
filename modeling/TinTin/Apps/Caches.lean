/-
  The group and channel caches of a terminal client against the relay's tables.

  A client asks one thing at a time and keeps what the answers tell it: `create_group`, `leave_group`,
  `create_channel`, `subscribe_channel` and `unsubscribe_channel` change one entry, `join_group` is
  followed by `sync_groups`, which takes the relay's list. Meanwhile the relay serves others.

  * `Event.Fair`: nobody else acts in the user's name, and the database fails neither the listing of
    the groups nor the subscription of a new channel's owner.
  * `caches_match`: then, in every run, a client that waits for no answer has exactly the groups,
    with their names, creators and roles, and the channels that the relay has for its user.
-/
import TinTin.Apps.Exchange
import TinTin.Cli.SavedText
import TinTin.Server.Rooms

namespace TinTin.Apps.Caches

open TinTin.Lib TinTin.Core TinTin.Cli TinTin.Cli.Json TinTin.Cli.Wire
  TinTin.Cli.WireText TinTin.Cli.SavedText TinTin.Server TinTin.Server.Service TinTin.Apps.Exchange

/-! ## The client -/

/-- `groups` and `channels` of `TinTinClient`. -/
structure Known where
  groups : Map String GroupInfo
  channels : Map Int64 String

/-- An element of the list that `sync_groups` gets. -/
def insertGroup (groups : Map String GroupInfo) (g : Json) : Map String GroupInfo :=
  match groupInfo.codec.decode g with
  | some info => groups.insert info.groupId info
  | none => groups

/-- An element of the list that `list_my_channels` gets. -/
def insertChannel (channels : Map Int64 String) (ch : Json) : Map Int64 String :=
  match i64.decode (ch.index "channel_id"), (ch.index "name").asStr with
  | some channelId, some name => channels.insert channelId name
  | _, _ => channels

/-- What a method makes of an answer whose status is "ok": the caches, and the request that it
    sends next. -/
def accept (u : String) (caches : Known) (data : Json) : Method → Known × Option Method
  | .createGroup name =>
    let groupId := (data.index "group_id").asStr.getD ""
    ({ caches with groups := caches.groups.insert groupId ⟨groupId, name, u, "admin"⟩ }, none)
  | .joinGroup _ => (caches, some .syncGroups)
  | .leaveGroup groupId => ({ caches with groups := caches.groups.erase groupId }, none)
  | .syncGroups =>
    ({ caches with groups := ((asArray (data.index "groups")).getD []).foldl insertGroup ∅ }, none)
  | .createChannel name =>
    let channelId := (i64.decode (data.index "channel_id")).getD 0
    ({ caches with channels := caches.channels.insert channelId name }, none)
  | .subscribeChannel channelId =>
    ({ caches with channels := caches.channels.insert channelId ("ch" ++ toString channelId.toInt) },
      none)
  | .unsubscribeChannel channelId =>
    ({ caches with channels := caches.channels.erase channelId }, none)
  | .listMyChannels =>
    ({ caches with channels :=
      ((asArray (data.index "channels")).getD []).foldl insertChannel caches.channels }, none)
  | _ => (caches, none)

/-- `recv_json`, and what the method does with the line. -/
def hear (F : Floats) (u : String) (m : Method) (caches : Known) (line : String) :
    Known × Option Method :=
  match Json.fromStr F line with
  | none => (caches, none)
  | some resp =>
    if (resp.index "status").asStr = some "ok" then accept u caches (resp.index "data") m
    else (caches, none)

/-- Where the client is with its request. -/
inductive Phase
  | idle
  | sent (c : Client Key32) (m : Method)
  /-- the relay's handler has the line -/
  | inWork (c : Client Key32) (m : Method)
  | answered (c : Client Key32) (m : Method) (line : String)

/-- The relay's handlers, and one client, whose connection has the slot `me`. -/
structure State (ι : Type) where
  floor : Calls.Floor ι Database Task ServerResponse
  phase : Phase
  caches : Known

inductive Event (ι : Type)
  /-- a method is called -/
  | ask (c : Client Key32) (m : Method)
  /-- the relay takes the line up -/
  | take (m : Method) (world : Ambient) (faults : Faults DbError)
  /-- the client's handler calls the store -/
  | work
  /-- the client reads the answer -/
  | hear
  /-- a line of another connection -/
  | present (i : ι) (t : Task)
  /-- a call of another handler -/
  | call (i : ι)

variable {ι : Type} [DecidableEq ι]

inductive Step (T : Texts) (F : Floats) (u : String) (me : ι) (s : State ι) :
    Event ι → State ι → Prop
  | ask (c : Client Key32) (m : Method) (hc : c.userId = u) (hphase : s.phase = .idle) :
    Step T F u me s (.ask c m) { s with phase := .sent c m }
  | take (c : Client Key32) (m : Method) (world : Ambient) (faults : Faults DbError)
    (floor : Calls.Floor ι Database Task ServerResponse) (hphase : s.phase = .sent c m)
    (hstep : Calls.Step (Task.call T) Task.begins s.floor
      (.start me (Task.of ((request c m).toText F) world faults)) floor) :
    Step T F u me s (.take m world faults) ⟨floor, .inWork c m, s.caches⟩
  | goes (c : Client Key32) (m : Method) (f : Calls.Flight Task) (t : Task)
    (floor : Calls.Floor ι Database Task ServerResponse) (hphase : s.phase = .inWork c m)
    (hf : s.floor.slots me = some f) (hnext : (f.now.call T s.floor.state).1 = .inl t)
    (hstep : Calls.Step (Task.call T) Task.begins s.floor (.call me) floor) :
    Step T F u me s .work ⟨floor, .inWork c m, s.caches⟩
  | answers (c : Client Key32) (m : Method) (f : Calls.Flight Task) (r : ServerResponse)
    (floor : Calls.Floor ι Database Task ServerResponse) (hphase : s.phase = .inWork c m)
    (hf : s.floor.slots me = some f) (hnext : (f.now.call T s.floor.state).1 = .inr r)
    (hstep : Calls.Step (Task.call T) Task.begins s.floor (.call me) floor) :
    Step T F u me s .work ⟨floor, .answered c m (r.toJson.toText F), s.caches⟩
  | heard (c : Client Key32) (m : Method) (line : String) (caches : Known)
    (hphase : s.phase = .answered c m line) (hhear : hear F u m s.caches line = (caches, none)) :
    Step T F u me s .hear ⟨s.floor, .idle, caches⟩
  /-- a method that has another request to send -/
  | goesOn (c : Client Key32) (m m' : Method) (line : String) (caches : Known)
    (hphase : s.phase = .answered c m line)
    (hhear : hear F u m s.caches line = (caches, some m')) :
    Step T F u me s .hear ⟨s.floor, .sent c m', caches⟩
  | present (i : ι) (t : Task) (floor : Calls.Floor ι Database Task ServerResponse) (hi : i ≠ me)
    (hstep : Calls.Step (Task.call T) Task.begins s.floor (.start i t) floor) :
    Step T F u me s (.present i t) ⟨floor, s.phase, s.caches⟩
  | call (i : ι) (floor : Calls.Floor ι Database Task ServerResponse) (hi : i ≠ me)
    (hstep : Calls.Step (Task.call T) Task.begins s.floor (.call i) floor) :
    Step T F u me s (.call i) ⟨floor, s.phase, s.caches⟩

/-- The statements of the client's own handlers that must not fail. -/
def Spared (faults : Faults DbError) : Method → Prop
  | .syncGroups => faults 0 = none
  -- `.ok()` drops an error of the subscription
  | .createChannel _ => faults 1 = none
  | _ => True

def Event.Fair (T : Texts) (u : String) : Event ι → Prop
  | .take m _ faults => Spared faults m
  | .present _ t => t.stage.Foreign T u
  | _ => True

/-! ## What the caches should hold -/

/-- A group as the client keeps it. -/
def info (g : GroupRow × String) : GroupInfo := ⟨g.1.groupId, g.1.name, g.1.creator, g.2⟩

variable {u : String} {db db' : Database} {caches : Known}

def KnowsGroups (u : String) (db : Database) (caches : Known) : Prop :=
  ∀ g, caches.groups.lookup g = (groupOf db u g).map info

def KnowsChannels (u : String) (db : Database) (caches : Known) : Prop :=
  ∀ c, Subscribed db u c ↔ ∃ k : Int64, k.toInt = c ∧ k ∈ caches.channels

structure Matches (u : String) (db : Database) (caches : Known) : Prop where
  groups : KnowsGroups u db caches
  channels : KnowsChannels u db caches

/-- With a request still to be answered: a listing will make up for groups that are not known. -/
structure Settled (u : String) (db : Database) (out : Known × Option Method) : Prop where
  groups : out.2 ≠ some .syncGroups → KnowsGroups u db out.1
  channels : KnowsChannels u db out.1

theorem settled_none : Settled u db (caches, none) ↔ Matches u db caches :=
  ⟨fun h => ⟨h.groups nofun, h.channels⟩, fun h => ⟨fun _ => h.groups, h.channels⟩⟩

theorem Matches.settled (h : Matches u db caches) (next : Option Method) :
    Settled u db (caches, next) := ⟨fun _ => h.groups, h.channels⟩

theorem KnowsGroups.later (h : KnowsGroups u db caches) (hsame : SameFor u db db') :
    KnowsGroups u db' caches := by
  intro g
  rw [h g, hsame.groups g]

theorem KnowsChannels.later (h : KnowsChannels u db caches) (hsame : SameFor u db db') :
    KnowsChannels u db' caches := fun c => (hsame.channels c).trans (h c)

theorem Settled.later {out : Known × Option Method} (h : Settled u db out)
    (hsame : SameFor u db db') : Settled u db' out :=
  ⟨fun hnext => (h.groups hnext).later hsame, h.channels.later hsame⟩

/-! ## Answers as the client hears them -/

theorem hear_failed (F : Floats) (m : Method) (text : String) :
    hear F u m caches ((ServerResponse.failed text).toJson.toText F) = (caches, none) := by
  obtain ⟨v, hv, hreads⟩ := read_answer (r := .failed text) (fun _ h => nomatch h) F
  unfold hear
  rw [hv]
  dsimp only
  rw [hreads.status]
  exact if_neg (show some "error" ≠ some "ok" by decide)

theorem hear_ok (F : Floats) (m : Method) {data : Option Json}
    (hdata : ∀ v ∈ data, Fit Json.obj 126 v) :
    hear F u m caches ((ServerResponse.ok data).toJson.toText F) =
      accept u caches (data.getD .null) m := by
  obtain ⟨v, hv, hreads⟩ := read_answer (r := .ok data) hdata F
  unfold hear
  rw [hv]
  dsimp only
  rw [hreads.status, hreads.data]
  exact if_pos rfl

theorem fit_groupJson (g : GroupRow × String) : Fit Json.obj 1 (groupJson g) := by
  refine Fit.obj ?_
  simp only [List.forall_mem_cons]
  exact ⟨fits_string 0 _, fits_string 0 _, fits_string 0 _, fits_string 0 _, List.forall_mem_nil _⟩

theorem decode_groupJson (g : GroupRow × String) :
    groupInfo.codec.decode (groupJson g) = some (info g) :=
  StructCodec.decode_obj (S := groupInfo) (info g)

theorem foldl_insertGroup (groups : List (GroupRow × String)) (m : Map String GroupInfo) :
    (groups.map groupJson).foldl insertGroup m =
      (groups.map fun g => (⟨g.1.groupId, info g⟩ : Σ _ : String, GroupInfo)).foldl
        (fun m e => m.insert e.1 e.2) m := by
  induction groups generalizing m with
  | nil => rfl
  | cons g groups ih =>
    rw [List.map_cons, List.map_cons, List.foldl_cons, List.foldl_cons, ← ih]
    unfold insertGroup
    rw [decode_groupJson]
    rfl

theorem groupId_of_groupOf {groupId : String} {g : GroupRow × String}
    (h : groupOf db u groupId = some g) : g.1.groupId = groupId := by
  obtain ⟨row, hrow, hrole⟩ := Option.bind_eq_some_iff.mp h
  obtain ⟨role, -, rfl⟩ := Option.map_eq_some_iff.mp hrole
  simpa using List.find?_some hrow

/-- The list of `sync_groups` is what the client should know. -/
theorem knows_listed {groups : List (GroupRow × String)} (h : Lists db u groups)
    (channels : Map Int64 String) :
    KnowsGroups u db ⟨(groups.map groupJson).foldl insertGroup ∅, channels⟩ := by
  intro groupId
  dsimp only
  have hkeys : (groups.map fun g => (⟨g.1.groupId, info g⟩ : Σ _ : String, GroupInfo)).NodupKeys := by
    unfold List.NodupKeys List.keys
    rw [List.map_map]
    exact h.1
  rw [foldl_insertGroup, lookup_foldl_insert _ hkeys, Finmap.lookup_empty, Option.or_none]
  refine Option.ext fun i => ?_
  rw [← Option.mem_def, List.mem_dlookup_iff hkeys, List.mem_map, Option.map_eq_some_iff]
  constructor
  · rintro ⟨g, hg, heq⟩
    cases heq
    exact ⟨g, (h.2 g).mp hg, rfl⟩
  · rintro ⟨g, hg, rfl⟩
    have hid := groupId_of_groupOf hg
    subst hid
    exact ⟨g, (h.2 g).mpr hg, rfl⟩

/-! ## One answer -/

/-- The id of every channel is an `i64`. -/
def InRange (db : Database) : Prop := ∀ c, HasChannel db c → (Int64.ofInt c).toInt = c

theorem InRange.earlier (h : InRange db') (hlater : Later db db') : InRange db := by
  intro c hc
  obtain ⟨row, hrow⟩ := hc
  exact h c ⟨row, hlater.channels hrow⟩

/-- One group is known anew, or forgotten. -/
theorem KnowsGroups.update (h : KnowsGroups u db caches) {groupId : String}
    {g : Option (GroupRow × String)}
    (hgroups : groupOf db' u = Function.update (groupOf db u) groupId g)
    {groups : Map String GroupInfo} (hself : groups.lookup groupId = g.map info)
    (hother : ∀ k, k ≠ groupId → groups.lookup k = caches.groups.lookup k)
    (channels : Map Int64 String) : KnowsGroups u db' ⟨groups, channels⟩ := by
  intro k
  dsimp only
  rw [hgroups]
  by_cases hk : k = groupId
  · subst hk
    rw [Function.update_self, hself]
  · rw [Function.update_of_ne hk, hother k hk, h k]

theorem KnowsChannels.insert (h : KnowsChannels u db caches) {k : Int64} {c : ℤ}
    (hk : k.toInt = c) (hchannels : ∀ c', Subscribed db' u c' ↔ Subscribed db u c' ∨ c' = c)
    (groups : Map String GroupInfo) (name : String) :
    KnowsChannels u db' ⟨groups, caches.channels.insert k name⟩ := by
  intro c'
  rw [hchannels, h c']
  constructor
  · rintro (⟨k', hk', hmem⟩ | rfl)
    · exact ⟨k', hk', Finmap.mem_insert.mpr (.inr hmem)⟩
    · exact ⟨k, hk, Finmap.mem_insert.mpr (.inl rfl)⟩
  · rintro ⟨k', hk', hmem⟩
    rcases Finmap.mem_insert.mp hmem with rfl | hmem
    · exact .inr (hk'.symm.trans hk)
    · exact .inl ⟨k', hk', hmem⟩

theorem KnowsChannels.erase (h : KnowsChannels u db caches) {k : Int64}
    (hchannels : ∀ c, Subscribed db' u c ↔ Subscribed db u c ∧ c ≠ k.toInt)
    (groups : Map String GroupInfo) : KnowsChannels u db' ⟨groups, caches.channels.erase k⟩ := by
  intro c
  rw [hchannels, h c]
  constructor
  · rintro ⟨⟨k', hk', hmem⟩, hne⟩
    refine ⟨k', hk', Finmap.mem_erase.mpr ⟨fun heq => hne ?_, hmem⟩⟩
    rw [← heq, hk']
  · rintro ⟨k', hk', hmem⟩
    obtain ⟨hne, hmem⟩ := Finmap.mem_erase.mp hmem
    refine ⟨⟨k', hk', hmem⟩, fun heq => hne (Int64.toInt_inj.mp ?_)⟩
    rw [hk', heq]

/-- A method that keeps nothing of its answer. -/
theorem hear_quiet {m : Method} (h : ∀ data, accept u caches data m = (caches, none)) (F : Floats)
    (line : String) : hear F u m caches line = (caches, none) := by
  unfold hear
  split
  · rfl
  · split
    · exact h _
    · rfl

/-- A command whose answer tells nothing of groups and channels. -/
def Quiet : Handled → Prop
  | .createGroup _ | .joinGroup _ | .leaveGroup _ | .myGroups _ | .createChannel _
  | .subscribeChannel _ | .unsubscribeChannel _ => False
  | _ => True

theorem tells_quiet {cmd : Handled} {r : ServerResponse} (h : Tells u db db' cmd r)
    (hquiet : Quiet cmd) : SameFor u db db' := by
  cases h with
  | failed _ _ hsame => exact hsame
  | other _ _ _ hsame => exact hsame
  | _ => exact hquiet.elim

theorem tells_failed_same {cmd : Handled} {text : String}
    (h : Tells u db db' cmd (.failed text)) : SameFor u db db' := by
  generalize hr : ServerResponse.failed text = r at h
  have hnot : ∀ data, r ≠ .ok data := by
    rintro data rfl
    exact absurd (congrArg ServerResponse.status hr) (show "error" ≠ "ok" by decide)
  cases h with
  | failed _ _ hsame => exact hsame
  | other _ _ _ hsame => exact hsame
  | _ => exact absurd rfl (hnot _)

/-- **The caches after an answer**, a case for each method that keeps something of it. -/
theorem settled_of_tells {c : Client Key32} {m : Method} {cmd : Handled} {r : ServerResponse}
    (F : Floats) (hc : c.userId = u) (hm : m ≠ .listMyChannels) (hasks : Asks c cmd m)
    (hdue : Settled u db (caches, some m)) (hlisted : m = .syncGroups → ∀ text, r ≠ .failed text)
    (hrange : InRange db') (h : Tells u db db' cmd r) :
    Settled u db' (hear F u m caches (r.toJson.toText F)) := by
  rcases Classical.em (∃ text, r = .failed text) with ⟨text, rfl⟩ | hfailed
  · rw [hear_failed]
    refine Settled.later ⟨fun _ => hdue.groups fun hnext => ?_, hdue.channels⟩ (tells_failed_same h)
    exact hlisted (Option.some.inj hnext) text rfl
  have hgroups : m ≠ .syncGroups → KnowsGroups u db caches := fun hne =>
    hdue.groups fun hnext => hne (Option.some.inj hnext)
  have hchannels := hdue.channels
  subst hc
  cases m with
  | createGroup name =>
    cases hasks
    cases h with
    | failed _ text _ => exact absurd ⟨text, rfl⟩ hfailed
    | other hforeign _ _ _ => exact absurd rfl hforeign
    | created _ groupId hgroups' hchannels' =>
      rw [hear_ok F _ (fit_one (fits_string 125 _) _)]
      unfold accept
      dsimp only [Option.getD_some]
      rw [index_one]
      refine settled_none.mpr ⟨(hgroups nofun).update hgroups' (Finmap.lookup_insert _)
        (fun k hk => Finmap.lookup_insert_of_ne _ hk) _, fun k => ?_⟩
      exact (hchannels' k).trans (hchannels k)
  | joinGroup groupId =>
    cases hasks
    cases h with
    | failed _ text _ => exact absurd ⟨text, rfl⟩ hfailed
    | other hforeign _ _ _ => exact absurd rfl hforeign
    | joined _ hchannels' =>
      rw [hear_ok F _ fit_nothing]
      exact ⟨fun hnext => absurd rfl hnext, fun k => (hchannels' k).trans (hchannels k)⟩
  | leaveGroup groupId =>
    cases hasks
    cases h with
    | failed _ text _ => exact absurd ⟨text, rfl⟩ hfailed
    | other hforeign _ _ _ => exact absurd rfl hforeign
    | left _ hgroups' hchannels' =>
      rw [hear_ok F _ fit_nothing]
      refine settled_none.mpr ⟨(hgroups nofun).update hgroups' (Finmap.lookup_erase _ _)
        (fun k hk => Finmap.lookup_erase_ne hk) _, fun k => ?_⟩
      exact (hchannels' k).trans (hchannels k)
  | syncGroups =>
    cases hasks
    cases h with
    | failed _ text _ => exact absurd ⟨text, rfl⟩ hfailed
    | other _ hlist _ _ => exact absurd rfl (hlist _)
    | listed _ hlists hchannels' =>
      rw [hear_ok F _ fun v hv => by cases hv; exact (fit_rows fit_groupJson _ _).mono (by decide)]
      unfold accept rows
      dsimp only [Option.getD_some]
      rw [index_one]
      exact settled_none.mpr ⟨knows_listed hlists _, fun k => (hchannels' k).trans (hchannels k)⟩
  | createChannel name =>
    cases hasks
    cases h with
    | failed _ text _ => exact absurd ⟨text, rfl⟩ hfailed
    | other hforeign _ _ _ => exact absurd rfl hforeign
    | opened _ channelId hgroups' hthere hchannels' =>
      unfold int
      rw [hear_ok F _ (fit_one (fits_i64 125 _) _)]
      unfold accept
      dsimp only [Option.getD_some]
      rw [index_one, Codec.decode_encode, Option.getD_some]
      refine settled_none.mpr ⟨fun g => ?_, hchannels.insert (hrange _ hthere) hchannels' _ _⟩
      rw [hgroups' g]
      exact hgroups nofun g
  | subscribeChannel channelId =>
    cases hasks
    cases h with
    | failed _ text _ => exact absurd ⟨text, rfl⟩ hfailed
    | other hforeign _ _ _ => exact absurd rfl hforeign
    | subscribed _ hgroups' hchannels' =>
      rw [hear_ok F _ fit_nothing]
      refine settled_none.mpr ⟨fun g => ?_, hchannels.insert rfl hchannels' _ _⟩
      rw [hgroups' g]
      exact hgroups nofun g
  | unsubscribeChannel channelId =>
    cases hasks
    cases h with
    | failed _ text _ => exact absurd ⟨text, rfl⟩ hfailed
    | other hforeign _ _ _ => exact absurd rfl hforeign
    | unsubscribed _ hgroups' hchannels' =>
      rw [hear_ok F _ fit_nothing]
      refine settled_none.mpr ⟨fun g => ?_, hchannels.erase hchannels' _⟩
      rw [hgroups' g]
      exact hgroups nofun g
  | listMyChannels => exact absurd rfl hm
  | register | fetchBundle _ | send _ | receiveMessages | listUsers | setMyPresence _
  | groupMembers _ | listAllChannels | channelMembers _ | createPoll _ _ | votePoll _ _
  | pollResults _ | listPolls | closePoll _ | postToTimeline _ _ | getTimelinePosts
  | addComment _ _ | getPostComments _ | deletePost _ | setStory _ | clearStory | getStories =>
    have hquiet : Quiet cmd := by
      rw [show cmd = _ from hasks]
      trivial
    rw [hear_quiet fun _ => rfl]
    exact Settled.later ⟨fun _ => hgroups nofun, hchannels⟩ (tells_quiet h hquiet)

/-! ## One call of the client's handler -/

variable {F : Floats} {E : Sockets.Complaints} {c : Client Key32} {m : Method}

theorem own_of_asks {cmd : Handled} (hasks : Asks c cmd m) (hm : m ≠ .listMyChannels) :
    Own c.userId cmd := by
  cases m with
  | listMyChannels => exact absurd rfl hm
  | _ =>
    rw [show cmd = _ from hasks]
    first | rfl | trivial

theorem spared_of_asks {cmd : CreateChannelCmd} {faults : Faults DbError}
    (hasks : Asks c (.createChannel cmd) m) (hm : m ≠ .listMyChannels) (h : Spared faults m) :
    faults 1 = none := by
  cases m with
  | createChannel name => exact h
  | listMyChannels => exact absurd rfl hm
  | _ => cases hasks

/-- The client's handler, before its first call or its second. -/
inductive Working (F : Floats) (c : Client Key32) (m : Method) (db : Database) : Task → Prop
  | first (world : Ambient) (faults : Faults DbError) (hspared : Spared faults m) :
    Working F c m db (Task.of ((request c m).toText F) world faults)
  | second {cmd : Handled} {stage : Stage} (world : Ambient) (faults : Faults DbError)
    (hm : m ≠ .listMyChannels) (hasks : Asks c cmd m) (hfollows : Follows cmd stage)
    (hthere : ∀ channelId ownerId, stage = .autoSubscribe channelId ownerId →
      HasChannel db channelId)
    (hspared : ∀ channelId ownerId, stage = .autoSubscribe channelId ownerId → faults 1 = none) :
    Working F c m db ⟨stage, world, faults, 1⟩

theorem Working.later {t : Task} (h : Working F c m db t) (hlater : Later db db') :
    Working F c m db' t := by
  cases h with
  | first world faults hspared => exact .first world faults hspared
  | second world faults hm hasks hfollows hthere hspared =>
    refine .second world faults hm hasks hfollows (fun channelId ownerId heq => ?_) hspared
    obtain ⟨row, hrow⟩ := hthere channelId ownerId heq
    exact ⟨row, hlater.channels hrow⟩

/-- A listing that the database does not fail. -/
theorem run_myGroups {T : Texts} {cmd : MyGroupsCmd} {faults : Faults DbError} {n : ℕ}
    (hf : faults n = none) (db : Database) (text : String) :
    ((Service.handleMyGroups T cmd).run faults db n).1 ≠ .inr (.failed text) := by
  have hrun : listMyGroups cmd.userId faults db n = (.ok _, _, n + 1) := Auto.run_exec_ok hf rfl
  unfold Service.handleMyGroups StoreCall.run answer
  dsimp only
  rw [hrun]
  intro heq
  exact absurd (congrArg ServerResponse.status (Sum.inr.inj heq)) (show "ok" ≠ "error" by decide)

/-- What a call of the client's handler leaves. -/
structure Leaves (F : Floats) (c : Client Key32) (m : Method) (caches : Known)
    (out : (Task ⊕ ServerResponse) × Database) : Prop where
  rooms : Rooms out.2
  goes : ∀ t, out.1 = .inl t → Working F c m out.2 t ∧ Settled c.userId out.2 (caches, some m)
  answers : ∀ r, out.1 = .inr r →
    Settled c.userId out.2 (hear F c.userId m caches (r.toJson.toText F))

/-- The call on a command. -/
theorem leaves_first {cmd : Handled} {world : Ambient} {faults : Faults DbError} {line : String}
    (hm : m ≠ .listMyChannels) (hread : handleCommand (Sockets.texts F E).value line = .ok cmd)
    (hasks : Asks c cmd m) (hspared : Spared faults m) (hrooms : Rooms db)
    (hdue : Settled c.userId db (caches, some m))
    (hrange : InRange ((Task.of line world faults).call (Sockets.texts F E) db).2) :
    Leaves F c m caches ((Task.of line world faults).call (Sockets.texts F E) db) := by
  have hlisted : m = .syncGroups → ∀ text,
      ((handle (Sockets.texts F E) world cmd).run faults db 0).1 ≠ .inr (.failed text) := by
    rintro rfl
    cases hasks
    exact run_myGroups hspared db
  have htells : CallTells c.userId cmd db 0
      ((handle (Sockets.texts F E) world cmd).run faults db 0) :=
    tells_command hrooms (own_of_asks hasks hm) faults 0
  rcases hout : (handle (Sockets.texts F E) world cmd).run faults db 0 with ⟨next, db', n⟩
  rw [hout] at htells hlisted
  have hrun : ((Stage.command line).storeCall (Sockets.texts F E) world).run faults db 0 =
      (next, db', n) := by
    rw [storeCall_command hread, hout]
  rw [Task.call_of_run (t := Task.of line world faults) hrun] at hrange ⊢
  cases next with
  | inl stage =>
    obtain ⟨hsame, hfollows, hthere, hn⟩ := htells.goes stage rfl
    refine ⟨htells.rooms, fun t ht => ?_, fun r hr => by cases hr⟩
    cases ht
    cases hn
    refine ⟨.second world faults hm hasks hfollows hthere fun channelId ownerId heq => ?_,
      hdue.later hsame⟩
    subst heq
    cases hfollows
    exact spared_of_asks hasks hm hspared
  | inr r =>
    refine ⟨htells.rooms, fun t ht => (by cases ht), fun r' hr => ?_⟩
    cases hr
    exact settled_of_tells F rfl hm hasks hdue (fun hlist text heq => hlisted hlist text
      (congrArg Sum.inr heq)) hrange (htells.answers r rfl)

/-- The refused request of `list_my_channels`. -/
theorem leaves_refused {world : Ambient} {faults : Faults DbError} {line : String}
    {complaint : String}
    (hread : handleCommand (Sockets.texts F E).value line = .error (.invalidPayload complaint))
    (hm : m ≠ .syncGroups) (hrooms : Rooms db) (hdue : Settled c.userId db (caches, some m)) :
    Leaves F c m caches ((Task.of line world faults).call (Sockets.texts F E) db) := by
  have hrun : ((Stage.command line).storeCall (Sockets.texts F E) world).run faults db 0 =
      (.inr (refusal (Sockets.texts F E) line (.invalidPayload complaint)), db, 0) := by
    rw [storeCall_refused hread]
    rfl
  rw [Task.call_of_run (t := Task.of line world faults) hrun]
  refine ⟨hrooms, fun t ht => (by cases ht), fun r hr => ?_⟩
  cases hr
  dsimp only [refusal, id]
  rw [hear_failed]
  exact ⟨fun _ => hdue.groups fun hnext => hm (Option.some.inj hnext), hdue.channels⟩

/-- **A call of the client's handler**, for every method. -/
theorem leaves_call {t : Task} (h : Working F c m db t) (hrooms : Rooms db)
    (hdue : Settled c.userId db (caches, some m))
    (hrange : InRange (t.call (Sockets.texts F E) db).2) :
    Leaves F c m caches (t.call (Sockets.texts F E) db) := by
  have hvalue := value_request F E c m
  cases h with
  | first world faults hspared =>
    by_cases hm : m = .listMyChannels
    · subst hm
      exact leaves_refused (my_channels_refused hvalue) nofun hrooms hdue
    · obtain ⟨cmd, hread, hasks⟩ := request_taken hm hvalue
      exact leaves_first hm hread hasks hspared hrooms hdue hrange
  | @second cmd stage world faults hm hasks hfollows hthere hspared =>
    have htells : CallTells c.userId cmd db 1
        ((stage.storeCall (Sockets.texts F E) world).run faults db 1) :=
      tells_follows hrooms (own_of_asks hasks hm) hfollows hthere hspared
    rcases hout : (stage.storeCall (Sockets.texts F E) world).run faults db 1 with ⟨next, db', n⟩
    rw [hout] at htells
    rw [Task.call_of_run (t := ⟨stage, world, faults, 1⟩) hout] at hrange ⊢
    have hlast : ∀ stage', next ≠ .inl stage' := by
      rintro stage' rfl
      have hnext := congrArg Prod.fst hout
      rcases @storeCall_ends (Sockets.texts F E) world stage
        ((stage.storeCall (Sockets.texts F E) world).op faults db 1).1 with
        ⟨line, _, _, rfl, -⟩ | ⟨response, hend, -⟩
      · cases hfollows
      · change (stage.storeCall (Sockets.texts F E) world).next _ = .inl stage' at hnext
        rw [hend] at hnext
        cases hnext
    cases next with
    | inl stage' => exact absurd rfl (hlast stage')
    | inr r =>
      refine ⟨htells.rooms, fun t ht => (by cases ht), fun r' hr => ?_⟩
      cases hr
      refine settled_of_tells F rfl hm hasks hdue (fun hlist => ?_) hrange (htells.answers r rfl)
      subst hlist
      cases hasks
      cases hfollows

/-! ## Runs -/

variable {me : ι}

/-- What holds of the client's part, phase by phase. -/
inductive Stands (F : Floats) (u : String) (me : ι)
    (floor : Calls.Floor ι Database Task ServerResponse) (caches : Known) : Phase → Prop
  | idle (h : Settled u floor.state (caches, none)) : Stands F u me floor caches .idle
  | sent (c : Client Key32) (m : Method) (hc : c.userId = u)
    (h : Settled u floor.state (caches, some m)) : Stands F u me floor caches (.sent c m)
  | inWork (c : Client Key32) (m : Method) (f : Calls.Flight Task) (hc : c.userId = u)
    (hslot : floor.slots me = some f) (hwork : Working F c m floor.state f.now)
    (h : Settled u floor.state (caches, some m)) : Stands F u me floor caches (.inWork c m)
  | answered (c : Client Key32) (m : Method) (line : String) (hc : c.userId = u)
    (h : Settled u floor.state (hear F u m caches line)) :
    Stands F u me floor caches (.answered c m line)

structure Good (F : Floats) (E : Sockets.Complaints) (u : String) (me : ι) (s : State ι) :
    Prop where
  rooms : Rooms s.floor.state
  others : ∀ i, i ≠ me → ∀ f, s.floor.slots i = some f →
    f.now.stage.Foreign (Sockets.texts F E) u
  stands : Stands F u me s.floor s.caches s.phase

omit [DecidableEq ι] in
/-- The client's part is as it was while the others change what is theirs. -/
theorem Stands.later {floor floor' : Calls.Floor ι Database Task ServerResponse} {phase : Phase}
    (h : Stands F u me floor caches phase) (hslot : floor'.slots me = floor.slots me)
    (hlater : Later floor.state floor'.state) (hsame : SameFor u floor.state floor'.state) :
    Stands F u me floor' caches phase := by
  cases h with
  | idle h => exact .idle (h.later hsame)
  | sent c m hc h => exact .sent c m hc (h.later hsame)
  | inWork c m f hc hf hwork h =>
    exact .inWork c m f hc (hslot.trans hf) (hwork.later hlater) (h.later hsame)
  | answered c m line hc h => exact .answered c m line hc (h.later hsame)

theorem later_step {T : Texts} {s s' : State ι} {e : Event ι} (h : Step T F u me s e s') :
    Later s.floor.state s'.floor.state := by
  have hcall : ∀ {i : ι} {floor : Calls.Floor ι Database Task ServerResponse},
      Calls.Step (Task.call T) Task.begins s.floor (.call i) floor →
        Later s.floor.state floor.state := by
    intro i floor hstep
    obtain ⟨f, -, hstate, -⟩ := hstep.of_call
    rw [hstate]
    exact f.now.call_later s.floor.state
  cases h with
  | ask | heard | goesOn => exact .refl _
  | take _ _ _ _ floor _ hstep | present _ _ floor _ hstep =>
    rw [hstep.of_start.1]
    exact .refl _
  | goes _ _ _ _ floor _ _ _ hstep => exact hcall hstep
  | answers _ _ _ _ floor _ _ _ hstep => exact hcall hstep
  | call i floor _ hstep => exact hcall hstep

omit [DecidableEq ι] in
/-- A call of the client's own handler. -/
theorem Good.work {s : State ι} (h : Good F E u me s) (hphase : s.phase = .inWork c m)
    {f : Calls.Flight Task} (hf : s.floor.slots me = some f)
    (hrange : InRange (f.now.call (Sockets.texts F E) s.floor.state).2) :
    c.userId = u ∧ Leaves F c m s.caches (f.now.call (Sockets.texts F E) s.floor.state) := by
  obtain ⟨hrooms, -, hstands⟩ := h
  rw [hphase] at hstands
  cases hstands with
  | inWork _ _ f' hc hslot hwork hdue =>
    rw [hf] at hslot
    cases hslot
    subst hc
    exact ⟨rfl, leaves_call hwork hrooms hdue hrange⟩

omit [DecidableEq ι] in
/-- The slots of the others after a call in a slot of the client. -/
theorem others_of_eq {T : Texts} {floor floor' : Calls.Floor ι Database Task ServerResponse}
    (h : ∀ i, i ≠ me → ∀ f, floor.slots i = some f → f.now.stage.Foreign T u)
    (hslots : ∀ i, i ≠ me → floor'.slots i = floor.slots i) :
    ∀ i, i ≠ me → ∀ f, floor'.slots i = some f → f.now.stage.Foreign T u := by
  intro i hi f hf
  rw [hslots i hi] at hf
  exact h i hi f hf

/-- **One event**, a case for each. -/
theorem Good.step {s s' : State ι} {e : Event ι} (h : Good F E u me s)
    (hstep : Step (Sockets.texts F E) F u me s e s') (hfair : e.Fair (Sockets.texts F E) u)
    (hrange : InRange s'.floor.state) : Good F E u me s' := by
  cases hstep with
  | ask c m hc hphase =>
    refine ⟨h.rooms, h.others, .sent c m hc ?_⟩
    have hstands := h.stands
    rw [hphase] at hstands
    cases hstands with
    | idle hsettled => exact (settled_none.mp hsettled).settled (some m)
  | take c m world faults floor hphase hstep =>
    obtain ⟨hstate, hslots⟩ := hstep.of_start
    have hstands := h.stands
    rw [hphase] at hstands
    refine ⟨?_, others_of_eq h.others fun i hi => ?_, ?_⟩
    · dsimp only
      rw [hstate]
      exact h.rooms
    · rw [hslots, Function.update_of_ne hi]
    · cases hstands with
      | sent _ _ hc hdue =>
        refine .inWork c m _ hc (by rw [hslots, Function.update_self]) (.first world faults hfair) ?_
        rw [hstate]
        exact hdue
  | goes c m f t floor hphase hf hnext hstep =>
    obtain ⟨f', hf', hstate, hslots, hself⟩ := hstep.of_call
    rw [hf] at hf'
    cases hf'
    rw [hstate] at hrange
    obtain ⟨rfl, hrooms, hgoes, -⟩ := h.work hphase hf hrange
    rw [← hstate] at hrooms hgoes
    obtain ⟨hwork, hdue⟩ := hgoes t hnext
    obtain ⟨g, hg, rfl⟩ := (hself t).mp hnext
    exact ⟨hrooms, others_of_eq h.others hslots, .inWork c m g rfl hg hwork hdue⟩
  | answers c m f r floor hphase hf hnext hstep =>
    obtain ⟨f', hf', hstate, hslots, -⟩ := hstep.of_call
    rw [hf] at hf'
    cases hf'
    rw [hstate] at hrange
    obtain ⟨rfl, hrooms, -, hanswers⟩ := h.work hphase hf hrange
    rw [← hstate] at hrooms hanswers
    exact ⟨hrooms, others_of_eq h.others hslots, .answered c m _ rfl (hanswers r hnext)⟩
  | heard c m line caches hphase hhear =>
    have hstands := h.stands
    rw [hphase] at hstands
    cases hstands with
    | answered _ _ _ hc hsettled =>
      rw [hhear] at hsettled
      exact ⟨h.rooms, h.others, .idle hsettled⟩
  | goesOn c m m' line caches hphase hhear =>
    have hstands := h.stands
    rw [hphase] at hstands
    cases hstands with
    | answered _ _ _ hc hsettled =>
      rw [hhear] at hsettled
      exact ⟨h.rooms, h.others, .sent c m' hc hsettled⟩
  | present i t floor hi hstep =>
    obtain ⟨hstate, hslots⟩ := hstep.of_start
    refine ⟨?_, fun j hj f hf => ?_, ?_⟩
    · dsimp only
      rw [hstate]
      exact h.rooms
    · dsimp only at hf
      rw [hslots] at hf
      rcases Calls.of_update hf with heq | hf
      · cases heq
        exact hfair
      · exact h.others j hj f hf
    · refine h.stands.later ?_ ?_ ?_
      · rw [hslots, Function.update_of_ne (Ne.symm hi)]
      · rw [hstate]
        exact .refl _
      · rw [hstate]
        exact .refl u _
  | call i floor hi hstep =>
    have hlater := later_step (.call (F := F) (u := u) (s := s) i floor hi hstep)
    obtain ⟨f, hf, hstate, hslots, hself⟩ := hstep.of_call
    have hforeign := h.others i hi f hf
    obtain ⟨hrooms, hsame⟩ := elsewhere_call hforeign h.rooms
    rw [← hstate] at hrooms hsame
    refine ⟨hrooms, fun j hj g hg => ?_, h.stands.later (hslots me (Ne.symm hi)) hlater hsame⟩
    by_cases hji : j = i
    · subst hji
      exact foreign_next hforeign ((hself g.now).mpr ⟨g, hg, rfl⟩)
    · dsimp only at hg
      rw [hslots j hji] at hg
      exact h.others j hj g hg

/-- A client that has just been started, while the relay does nothing. -/
def State.start (db : Database) (caches : Known) : State ι := ⟨.fresh db, .idle, caches⟩

/-- **A client that waits for no answer knows exactly the user's groups and channels**, whatever it
    has asked for and whatever the relay has done for others in between. -/
theorem caches_match (F : Floats) (E : Sockets.Complaints) {events : List (Event ι)} {s : State ι}
    (hrooms : Rooms db) (hstart : Matches u db caches)
    (hrun : Path (Step (Sockets.texts F E) F u me) (.start db caches) events s)
    (hfair : ∀ e ∈ events, e.Fair (Sockets.texts F E) u) (hrange : InRange s.floor.state)
    (hidle : s.phase = .idle) : Matches u s.floor.state s.caches := by
  have hfresh : Good F E u me (.start db caches) :=
    ⟨hrooms, fun _ _ _ hf => (by cases hf), .idle (hstart.settled none)⟩
  have hfairly : Path (fun s e s' => Step (Sockets.texts F E) F u me s e s' ∧
      e.Fair (Sockets.texts F E) u) (.start db caches) events s :=
    hrun.mono fun _ e _ he hstep => ⟨hstep, hfair e he⟩
  have hgood : InRange s.floor.state → Good F E u me s :=
    hfairly.invariant (I := fun s => InRange s.floor.state → Good F E u me s)
      (fun _ _ _ h hstep hrange =>
        (h (hrange.earlier (later_step hstep.1))).step hstep.1 hstep.2 hrange) fun _ => hfresh
  have hstands := (hgood hrange).stands
  rw [hidle] at hstands
  cases hstands with
  | idle h => exact settled_none.mp h

/-! ## A case -/

theorem matches_empty (u : String) : Matches u .empty ⟨∅, ∅⟩ :=
  ⟨fun _ => rfl, fun _ => ⟨fun h => (by cases h), fun ⟨_, _, h⟩ => absurd h Finmap.notMem_empty⟩⟩

/-- A group is created. -/
def groupEvents : List (Event ℕ) :=
  [.ask lonelyClient (.createGroup "chess"), .take (.createGroup "chess") noon Auto.faultless, .work,
    .hear]

theorem call_createGroup : ∃ db, (Task.of ((request lonelyClient (.createGroup "chess")).toText
    wholeNumbers) noon Auto.faultless).call (Sockets.texts wholeNumbers mute) .empty =
      (.inr (.ok (some (obj [("group_id", Wire.string.encode noon.groupId)]))), db) ∧
    db.channels = .empty := by
  obtain ⟨cmd, hread, hasks⟩ := request_taken (c := lonelyClient) (m := .createGroup "chess") nofun
    (value_request wholeNumbers mute _ _)
  cases hasks
  have hrun : ((Stage.command ((request lonelyClient (.createGroup "chess")).toText
      wholeNumbers)).storeCall (Sockets.texts wholeNumbers mute) noon).run Auto.faultless .empty 0 =
      (.inr (.ok (some (obj [("group_id", Wire.string.encode noon.groupId)]))),
        withMember (withGroup .empty noon.groupId "chess" "alice") noon.groupId "alice" "admin",
        2) := by
    rw [storeCall_command hread]
    rfl
  exact ⟨_, Task.call_of_run (t := Task.of _ noon Auto.faultless) hrun, rfl⟩

theorem groupEvents_run : ∃ s, Path (Step (Sockets.texts wholeNumbers mute) wholeNumbers "alice" 0)
    (.start .empty ⟨∅, ∅⟩) groupEvents s ∧ s.phase = .idle ∧ InRange s.floor.state := by
  obtain ⟨db, hcall, hnone⟩ := call_createGroup
  refine ⟨_, .cons (.ask _ _ rfl rfl) (.cons (.take _ _ _ _ _ rfl (.start 0 _ rfl rfl)) (.cons
    (.answers _ _ _ _ _ rfl rfl (congrArg Prod.fst hcall) (.finish 0 _ _ _ rfl hcall))
    (.cons (.heard _ _ _ _ rfl (hear_ok _ _ (fit_one (fits_string 125 _) _))) (.nil _)))), rfl, ?_⟩
  rintro c ⟨row, hrow⟩
  dsimp only at hrow
  rw [hnone] at hrow
  cases hrow

theorem caches_match_group : ∃ s, Path (Step (Sockets.texts wholeNumbers mute) wholeNumbers "alice" 0)
    (.start .empty ⟨∅, ∅⟩) groupEvents s ∧ Matches "alice" s.floor.state s.caches := by
  obtain ⟨s, hrun, hidle, hrange⟩ := groupEvents_run
  have hfair : ∀ e ∈ groupEvents, e.Fair (Sockets.texts wholeNumbers mute) "alice" := by
    unfold groupEvents
    simp only [List.forall_mem_cons]
    exact ⟨trivial, trivial, trivial, trivial, List.forall_mem_nil _⟩
  exact ⟨s, hrun, caches_match wholeNumbers mute rooms_empty (matches_empty "alice") hrun hfair hrange
    hidle⟩

end TinTin.Apps.Caches
