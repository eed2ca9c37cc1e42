/-
  The handlers of groups and channels, one store call at a time.

  `handle_join_group`, `handle_subscribe_channel` and `handle_create_channel` call the store
  twice, and the lock is free in between. A `Handler` is one of the six handlers at its next
  store call; a run starts handlers and lets any of them do its next call, in any order, and
  keeps a log of the calls. `handle_create_group` founds a group in one call; a channel is there
  from the first call of `handle_create_channel` on, its owner subscribed from the second.

  `Desk.AsRecorded` says that the four lists agree with the log.
-/
import TinTin.Lib.Standing
import TinTin.Server.Store

namespace TinTin.Server

open TinTin.Lib

/-! ## Handlers -/

/-- A handler at its next store call. -/
inductive Handler
  | createGroup (groupId name creator : String)
  | joinGroup (groupId userId : String)
  /-- `handle_join_group`, behind `group_exists` -/
  | addMember (groupId userId : String)
  | leaveGroup (groupId userId : String)
  | createChannel (name ownerId : String)
  /-- `handle_create_channel`, behind `create_channel` -/
  | autoSubscribe (channelId : ℤ) (ownerId : String)
  | subscribeChannel (channelId : ℤ) (userId : String)
  /-- `handle_subscribe_channel`, behind `get_channel_owner` -/
  | addSubscriber (channelId : ℤ) (userId : String)
  | unsubscribeChannel (channelId : ℤ) (userId : String)
  deriving DecidableEq, Repr

/-- What a handler answers: status `"ok"`, with the new id as its data if there is one, or
    status `"error"`, with a text or what SQLite says. -/
inductive Response
  | ok
  | created (groupId : String)
  | opened (channelId : ℤ)
  | refused (text : String)
  | databaseError (e : DbError)
  deriving DecidableEq, Repr

/-- A handler before its first store call. -/
def Handler.isFresh : Handler → Bool
  | .addMember _ _ | .autoSubscribe _ _ | .addSubscriber _ _ => false
  | _ => true

/-- `Ok(())` is answered `"ok"`. -/
def answerUnit : Except DbError Unit → Response
  | .ok () => .ok
  | .error e => .databaseError e

/-- One store call, without database errors: where the handler goes on or what it answers. -/
def Handler.call (h : Handler) (db : Database) : (Handler ⊕ Response) × Database :=
  match h with
  | .createGroup groupId name creator =>
    match Server.createGroup groupId name creator Auto.faultless db 0 with
    | (.ok groupId, db, _) => (.inr (.created groupId), db)
    | (.error e, db, _) => (.inr (.databaseError e), db)
  | .joinGroup groupId userId =>
    match groupExists groupId Auto.faultless db 0 with
    | (.ok true, db, _) => (.inl (.addMember groupId userId), db)
    | (_, db, _) => (.inr (.refused ("Group '" ++ groupId ++ "' not found")), db)
  | .addMember groupId userId =>
    let (r, db, _) := addGroupMember groupId userId Auto.faultless db 0
    (.inr (answerUnit r), db)
  | .leaveGroup groupId userId =>
    let (r, db, _) := removeGroupMember groupId userId Auto.faultless db 0
    (.inr (answerUnit r), db)
  | .createChannel name ownerId =>
    match Server.createChannel name ownerId Auto.faultless db 0 with
    | (.ok channelId, db, _) => (.inl (.autoSubscribe channelId ownerId), db)
    | (.error e, db, _) => (.inr (.databaseError e), db)
  | .autoSubscribe channelId ownerId =>
    -- `.ok()` drops an error
    let (_, db, _) := Server.subscribeChannel channelId ownerId Auto.faultless db 0
    (.inr (.opened channelId), db)
  | .subscribeChannel channelId userId =>
    match getChannelOwner channelId Auto.faultless db 0 with
    | (.ok (some _), db, _) => (.inl (.addSubscriber channelId userId), db)
    | (_, db, _) => (.inr (.refused ("Channel '" ++ toString channelId ++ "' not found")), db)
  | .addSubscriber channelId userId =>
    let (r, db, _) := Server.subscribeChannel channelId userId Auto.faultless db 0
    (.inr (answerUnit r), db)
  | .unsubscribeChannel channelId userId =>
    let (r, db, _) := Server.unsubscribeChannel channelId userId Auto.faultless db 0
    (.inr (answerUnit r), db)

/-! ## Runs -/

/-- A store call that was made: by which handler, and how it went on or what it answered. -/
abbrev Call := Handler × (Handler ⊕ Response)

/-- The database, the handlers in flight and the calls so far. -/
structure Desk where
  db : Database
  running : List Handler
  log : List Call

inductive Turn
  /-- a command is taken up -/
  | accept (h : Handler)
  /-- the handler at this place does its next store call -/
  | call (i : ℕ)
  deriving DecidableEq, Repr

namespace Desk

def start : Desk := ⟨.empty, [], []⟩

def step (s : Desk) : Turn → Option Desk
  | .accept h => if h.isFresh then some { s with running := s.running ++ [h] } else none
  | .call i =>
    match s.running[i]? with
    | none => none
    | some h =>
      let (next, db) := h.call s.db
      some
        { db := db
          running :=
            match next with
            | .inl h' => s.running.set i h'
            | .inr _ => s.running.eraseIdx i
          log := s.log ++ [(h, next)] }

def run (s : Desk) (turns : List Turn) : Option Desk := turns.foldlM step s

end Desk

/-! ## What the log says -/

/-- The call by which a user creates a group. -/
def groupCreated (groupId name creator : String) : Call :=
  (.createGroup groupId name creator, .inr (.created groupId))

/-- The call by which a channel comes to be. -/
def channelCreated (channelId : ℤ) (name ownerId : String) : Call :=
  (.createChannel name ownerId, .inl (.autoSubscribe channelId ownerId))

/-- The successful creation, join or leave of a user on a group, if a call is one. -/
def Call.onGroup (groupId userId : String) : Call → Option Move
  | (.createGroup g _ u, .inr (.created g')) =>
    if (g = groupId ∧ u = userId) ∧ g' = groupId then some .found else none
  | (.addMember g u, .inr .ok) => if g = groupId ∧ u = userId then some .enter else none
  | (.leaveGroup g u, .inr .ok) => if g = groupId ∧ u = userId then some .quit else none
  | _ => none

/-- The successful creation, subscribe or unsubscribe of a user on a channel, if a call is the
    last one of such a handler. -/
def Call.onChannel (channelId : ℤ) (userId : String) : Call → Option Move
  | (.autoSubscribe _ u, .inr (.opened c)) =>
    if c = channelId ∧ u = userId then some .found else none
  | (.addSubscriber c u, .inr .ok) => if c = channelId ∧ u = userId then some .enter else none
  | (.unsubscribeChannel c u, .inr .ok) => if c = channelId ∧ u = userId then some .quit else none
  | _ => none

def groupMoves (log : List Call) (groupId userId : String) : List Move :=
  log.filterMap (Call.onGroup groupId userId)

def channelMoves (log : List Call) (channelId : ℤ) (userId : String) : List Move :=
  log.filterMap (Call.onChannel channelId userId)

def GroupCreated (log : List Call) (groupId : String) : Prop :=
  ∃ name creator, groupCreated groupId name creator ∈ log

def ChannelCreated (log : List Call) (channelId : ℤ) : Prop :=
  ∃ name ownerId, channelCreated channelId name ownerId ∈ log

/-- The last move was one into the room. -/
def LastIn (moves : List Move) : Prop :=
  moves.getLast? = some .found ∨ moves.getLast? = some .enter

/-- **The lists of groups are as recorded**, for one group and one user. -/
structure GroupAsRecorded (db : Database) (log : List Call) (groupId userId : String)
    (members : List String) (mine : List (GroupRow × String)) : Prop where
  listed : userId ∈ members ↔ GroupCreated log groupId ∧ LastIn (groupMoves log groupId userId)
  consistent : groupId ∈ mine.map (·.1.groupId) ↔ userId ∈ members
  members_nodup : members.Nodup
  mine_nodup : (mine.map (·.1.groupId)).Nodup
  admin : (∃ r ∈ mine, r.1.groupId = groupId ∧ r.2 = "admin") ↔
    ∃ before name since, log = before ++ groupCreated groupId name userId :: since ∧
      .quit ∉ groupMoves since groupId userId
  unknown : ¬ GroupCreated log groupId → (Handler.joinGroup groupId userId).call db =
    (.inr (.refused ("Group '" ++ groupId ++ "' not found")), db)

/-- **The lists of channels are as recorded**, for one channel and one user. -/
structure ChannelAsRecorded (db : Database) (log : List Call) (channelId : ℤ) (userId : String)
    (subscribers : List String) (mine : List (ℤ × ChannelRow)) : Prop where
  listed : userId ∈ subscribers ↔
    ChannelCreated log channelId ∧ LastIn (channelMoves log channelId userId)
  consistent : channelId ∈ mine.map (·.1) ↔ userId ∈ subscribers
  subscribers_nodup : subscribers.Nodup
  mine_nodup : (mine.map (·.1)).Nodup
  owner : ∀ before name since, log = before ++ channelCreated channelId name userId :: since →
    .quit ∉ channelMoves since channelId userId → userId ∈ subscribers
  unknown : ¬ ChannelCreated log channelId → (Handler.subscribeChannel channelId userId).call db =
    (.inr (.refused ("Channel '" ++ toString channelId ++ "' not found")), db)

/-- Everything the lists say is as recorded. -/
structure Desk.AsRecorded (s : Desk) : Prop where
  groups : ∀ groupId userId, ∃ members mine n n',
    listGroupMembers groupId Auto.faultless s.db 0 = (.ok members, s.db, n) ∧
    listMyGroups userId Auto.faultless s.db 0 = (.ok mine, s.db, n') ∧
    GroupAsRecorded s.db s.log groupId userId members mine
  channels : ∀ channelId userId, ∃ subscribers mine n n',
    listChannelSubscribers channelId Auto.faultless s.db 0 = (.ok subscribers, s.db, n) ∧
    listMyChannels userId Auto.faultless s.db 0 = (.ok mine, s.db, n') ∧
    ChannelAsRecorded s.db s.log channelId userId subscribers mine

/-- No creation of a channel stands between its two calls, unless its owner has subscribed or
    unsubscribed himself meanwhile. -/
def Desk.NoneHalfDone (s : Desk) : Prop :=
  ∀ channelId ownerId, .autoSubscribe channelId ownerId ∈ s.running →
    ∀ before name since, s.log = before ++ channelCreated channelId name ownerId :: since →
      channelMoves since channelId ownerId ≠ []

/-! ## What is in flight -/

/-- What is in flight after a call was before, or is what the call goes on with. -/
def Continues (running running' : List Handler) (next : Handler ⊕ Response) : Prop :=
  ∀ x ∈ running', x ∈ running ∨ next = .inl x

/-- What was in flight before a call is so after it, but for the caller. -/
def Stays (running running' : List Handler) (h : Handler) : Prop :=
  ∀ x ∈ running, x = h ∨ x ∈ running'

end TinTin.Server
