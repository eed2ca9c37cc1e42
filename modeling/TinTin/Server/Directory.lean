/-
  The users whom the relay knows: `register`, `set_presence` and the table behind `fetch_keys` and
  `list_users`.

  * `editOf`, `edits`: what the units that have ended have entered, in the order of their ends.
  * `directory_of_run`: in every run the rows of `users` are the map that these edits make: under a
    user id the last registration that was answered with "ok", with the presence set since, or
    "offline".
-/
import TinTin.Lib.Keyed
import TinTin.Server.Rooms

namespace TinTin.Server.Service

open TinTin.Lib TinTin.Core TinTin.Cli

variable {T : Texts} {world : Ambient} {db db' : Database}

/-! ## What is entered -/

/-- The row of a registration. -/
def RegisterCmd.row (T : Texts) (cmd : RegisterCmd) : UserRow :=
  ⟨cmd.userId, cmd.identityKey.toList, T.bundle cmd.signedPreKey, "offline"⟩

/-- What an accepted command enters. -/
def enters (T : Texts) : Handled → Option (Edit UserRow String)
  | .register cmd => some (.put (RegisterCmd.row T cmd))
  | .setPresence cmd => some (.alter cmd.userId fun u => { u with presence := cmd.presence })
  | _ => none

/-- What a unit has entered: an accepted command enters what it says. -/
def editOf (T : Texts) (t : Task) (out : Task ⊕ ServerResponse) : Option (Edit UserRow String) :=
  match t.stage, out with
  | .command line, .inr r =>
    match handleCommand T.value line with
    | .ok cmd => if r.status = "ok" then enters T cmd else none
    | .error _ => none
  | _, _ => none

/-- What the units that have ended have entered. -/
def edits {ι : Type} (T : Texts) (ended : List (Calls.Entry ι Task ServerResponse)) :
    List (Edit UserRow String) := ended.filterMap fun e => editOf T e.2.1 e.2.2

/-- The row under a user id. -/
def directory {ι : Type} (T : Texts) (ended : List (Calls.Entry ι Task ServerResponse)) :
    String → Option UserRow := content UserRow.userId (edits T ended)

/-- The rows of `users` are the map. -/
abbrev Enrolled (db : Database) (m : String → Option UserRow) : Prop :=
  Holds UserRow.userId db.users m

/-- What an edit makes of a map, if there is one. -/
def applied (e : Option (Edit UserRow String)) (m : String → Option UserRow) :
    String → Option UserRow := e.elim m fun e => e.apply UserRow.userId m

theorem directory_snoc {ι : Type} (T : Texts) (ended : List (Calls.Entry ι Task ServerResponse))
    (e : Calls.Entry ι Task ServerResponse) :
    directory T (ended ++ [e]) = applied (editOf T e.2.1 e.2.2) (directory T ended) := by
  unfold directory edits applied
  rw [List.filterMap_append, List.filterMap_cons, List.filterMap_nil]
  cases editOf T e.2.1 e.2.2 with
  | none => rw [List.append_nil]; rfl
  | some edit => exact content_snoc _ edit

/-! ## Calls -/

variable {m : String → Option UserRow}

theorem Enrolled.of_eq (h : Enrolled db m) (husers : db'.users = db.users) : Enrolled db' m := by
  unfold Enrolled
  rw [husers]
  exact h

/-- The row of a user with another presence. -/
theorem Enrolled.presence (h : Enrolled db m) (userId presence : String) :
    Holds UserRow.userId (db.users.map fun u =>
      if u.userId == userId then { u with presence := presence } else u)
      (Edit.apply UserRow.userId m (.alter userId fun u => { u with presence := presence })) := by
  have hkey : ∀ u : UserRow,
      (if u.userId == userId then { u with presence := presence } else u).userId = u.userId := by
    intro u
    split <;> rfl
  have hfind : ∀ k, (db.users.map fun u =>
      if u.userId == userId then { u with presence := presence } else u).find?
        (fun u => u.userId == k) = (db.users.find? fun u => u.userId == k).map fun u =>
          if u.userId == userId then { u with presence := presence } else u := by
    intro k
    rw [List.find?_map]
    congr 1
    refine congrArg (db.users.find? ·) (funext fun u => ?_)
    change ((if u.userId == userId then { u with presence := presence } else u).userId == k) = _
    rw [hkey]
  refine h.alter ?_ ?_ fun k hk => ?_
  · rw [List.map_map]
    exact List.map_congr_left fun u _ => hkey u
  · rw [hfind]
    refine Option.map_congr fun u hu => ?_
    have hid := List.find?_some hu
    rw [if_pos hid]
  · rw [hfind]
    cases hu : db.users.find? fun u => u.userId == k with
    | none => rfl
    | some u =>
      have hid : u.userId = k := by simpa using List.find?_some hu
      rw [Option.map_some, if_neg (by rw [hid]; simpa using hk)]

/-- A call whose statements leave the users alone. -/
theorem users_of_moves {α : Type} {x : StoreM α}
    (h : Auto.Moves (fun db db' : Database => db'.users = db.users) x db) (faults : Faults DbError)
    (n : ℕ) : (x faults db n).2.1.users = db.users :=
  h.keeps (P := fun d => d.users = db.users) (fun _ _ hstep hd => hstep.trans hd) rfl faults n

theorem users_createGroup (groupId name creator : String) :
    Auto.Moves (fun db db' : Database => db'.users = db.users) (createGroup groupId name creator)
      db := by
  refine Auto.moves_bind (Auto.moves_step fun _ db' h => ?_) fun _ _ _ db' _ _ =>
    Auto.moves_return (Auto.moves_step fun _ db'' h => ?_) _
  · obtain ⟨-, rfl⟩ := of_insertGroup h
    exact .inr rfl
  · obtain ⟨-, -, rfl⟩ := of_insertGroupMember h
    exact .inr rfl

/-- A command that enters nothing. -/
theorem users_handle {cmd : Handled} (h : enters T cmd = none) (db : Database) :
    Auto.Moves (fun db db' : Database => db'.users = db.users) (handle T world cmd).op db := by
  have haside : Aside cmd →
      Auto.Moves (fun db db' : Database => db'.users = db.users) (handle T world cmd).op db :=
    fun haside => (handle_beside haside db).mono fun _ _ hbeside => hbeside.users
  cases cmd with
  | register _ | setPresence _ => cases h
  | createGroup _ => exact users_createGroup _ _ _
  | leaveGroup _ | createChannel _ | unsubscribeChannel _ => exact Auto.moves_once rfl rfl
  | _ => exact haside trivial

/-- The stages behind a first call. -/
theorem users_later {stage : Stage} (h : ∀ line, stage ≠ .command line) (db : Database) :
    Auto.Moves (fun db db' : Database => db'.users = db.users) (stage.storeCall T world).op db := by
  cases stage with
  | command line => exact absurd rfl (h line)
  | addMember groupId userId =>
    refine Auto.moves_step fun _ db' hstmt => ?_
    rcases of_insertOrIgnoreGroupMember hstmt with rfl | ⟨-, -, rfl⟩
    · exact .inl rfl
    · exact .inr rfl
  | autoSubscribe channelId userId | addSubscriber channelId userId =>
    refine Auto.moves_step fun _ db' hstmt => Or.inr ?_
    unfold insertOrIgnoreSubscriber at hstmt
    split at hstmt
    · cases hstmt
      rfl
    · split at hstmt
      · cases hstmt
      · cases hstmt
        rfl

/-- What an answer to a command has entered. -/
theorem editOf_command {line : String} {cmd : Handled} (hread : handleCommand T.value line = .ok cmd)
    (faults : Faults DbError) (n : ℕ) (r : ServerResponse) :
    editOf T ⟨.command line, world, faults, n⟩ (.inr r) =
      if r.status = "ok" then enters T cmd else none := by
  unfold editOf
  dsimp only
  rw [hread]

theorem status_failed (text : String) : (ServerResponse.failed text).status ≠ "ok" :=
  show "error" ≠ "ok" by decide

/-- A call that answers with an edit of the users, or fails. -/
theorem enrolled_exec {line : String} {cmd : Handled} {stmt : Statement Unit}
    {data : Unit → Option Json} {faults : Faults DbError} {n : ℕ} (h : Enrolled db m)
    (hread : handleCommand T.value line = .ok cmd)
    (hhandle : handle T world cmd = answer T (.exec stmt) data)
    (hstmt : ∀ a db', stmt db = .ok (a, db') → Enrolled db' (applied (enters T cmd) m)) :
    ∃ r, ((Task.mk (.command line) world faults n).call T db).1 = .inr r ∧
      Enrolled ((Task.mk (.command line) world faults n).call T db).2
        (applied (editOf T ⟨.command line, world, faults, n⟩ (.inr r)) m) := by
  have hcall : ∀ r db' n', (handle T world cmd).run faults db n = (.inr r, db', n') →
      (Task.mk (.command line) world faults n).call T db = (.inr r, db') := by
    intro r db' n' hrun
    rw [← storeCall_command hread] at hrun
    exact Task.call_of_run (t := ⟨.command line, world, faults, n⟩) hrun
  rcases run_answer_exec (T := T) stmt data faults db n with ⟨text, hrun⟩ | ⟨a, db', hok, hrun⟩
  · refine ⟨.failed text, ?_⟩
    rw [hcall _ _ _ (hhandle ▸ hrun), editOf_command hread,
      if_neg (status_failed text)]
    exact ⟨rfl, h⟩
  · refine ⟨.ok (data a), ?_⟩
    rw [hcall _ _ _ (hhandle ▸ hrun), editOf_command hread,
      if_pos (show (ServerResponse.ok (data a)).status = "ok" from rfl)]
    exact ⟨rfl, hstmt a db' hok⟩

/-- A call that enters nothing. -/
theorem enrolled_beside {t : Task} (h : Enrolled db m)
    (hmoves : Auto.Moves (fun db db' : Database => db'.users = db.users)
      (t.stage.storeCall T t.world).op db) : Enrolled (t.call T db).2 m :=
  h.of_eq (users_of_moves hmoves t.faults t.ran)

/-- **One call** of a handler: an answer enters what its unit has entered; a handler that goes on
    has entered nothing. -/
theorem enrolled_call {t : Task} (h : Enrolled db m) :
    (∀ r, (t.call T db).1 = .inr r → Enrolled (t.call T db).2 (applied (editOf T t (.inr r)) m)) ∧
      ∀ q, (t.call T db).1 = .inl q →
        Enrolled (t.call T db).2 m ∧ ∀ out, editOf T t out = none := by
  have hnone : (∀ out, editOf T t out = none) → Enrolled (t.call T db).2 m →
      (∀ r, (t.call T db).1 = .inr r →
        Enrolled (t.call T db).2 (applied (editOf T t (.inr r)) m)) ∧
      ∀ q, (t.call T db).1 = .inl q →
        Enrolled (t.call T db).2 m ∧ ∀ out, editOf T t out = none := by
    refine fun hedit hdb => ⟨fun r _ => ?_, fun q _ => ⟨hdb, hedit⟩⟩
    rw [hedit]
    exact hdb
  have hone : (∃ r, (t.call T db).1 = .inr r ∧
      Enrolled (t.call T db).2 (applied (editOf T t (.inr r)) m)) →
      (∀ r, (t.call T db).1 = .inr r →
        Enrolled (t.call T db).2 (applied (editOf T t (.inr r)) m)) ∧
      ∀ q, (t.call T db).1 = .inl q →
        Enrolled (t.call T db).2 m ∧ ∀ out, editOf T t out = none := by
    rintro ⟨r, hr, hdb⟩
    rw [hr]
    exact ⟨fun r' heq => Sum.inr.inj heq ▸ hdb, nofun⟩
  obtain ⟨stage, world, faults, n⟩ := t
  cases stage with
  | command line =>
    cases hread : handleCommand T.value line with
    | error r =>
      refine hnone (fun out => ?_) (enrolled_beside h ?_)
      · cases out with
        | inl q => rfl
        | inr r =>
          unfold editOf
          dsimp only
          rw [hread]
      · dsimp only
        rw [storeCall_refused hread]
        exact Auto.moves_pure _ db
    | ok cmd =>
      by_cases henters : enters T cmd = none
      · refine hnone (fun out => ?_) (enrolled_beside h ?_)
        · cases out with
          | inl q => rfl
          | inr r => rw [editOf_command hread, henters, ite_self]
        · dsimp only
          rw [storeCall_command hread]
          exact users_handle henters db
      · cases cmd with
        | register cmd =>
          refine hone (enrolled_exec h hread rfl fun _ db' hok => ?_)
          cases hok
          exact Holds.put h (RegisterCmd.row T cmd)
        | setPresence cmd =>
          refine hone (enrolled_exec h hread rfl fun _ db' hok => ?_)
          cases hok
          exact h.presence cmd.userId cmd.presence
        | _ => exact absurd rfl henters
  | addMember _ _ | autoSubscribe _ _ | addSubscriber _ _ =>
    exact hnone (fun out => by cases out <;> rfl) 
      (enrolled_beside h (users_later (fun _ heq => by cases heq) db))

/-- **A unit of work** enters what it says. -/
theorem enrolled_whole {t : Task} {out : Task ⊕ ServerResponse}
    (hwhole : Calls.Whole (Task.call T) Task.begins t db out db') (h : Enrolled db m) :
    Enrolled db' (applied (editOf T t out) m) := by
  induction hwhole with
  | passOn hcall _ =>
    have hboth := (enrolled_call (T := T) h).2 _ (congrArg Prod.fst hcall)
    rw [hcall] at hboth
    rw [hboth.2]
    exact hboth.1
  | finish hcall =>
    have hone := (enrolled_call (T := T) h).1 _ (congrArg Prod.fst hcall)
    rw [hcall] at hone
    exact hone
  | @goOn p q s s' s'' out hcall hq hrest ih =>
    have hboth := (enrolled_call (T := T) h).2 _ (congrArg Prod.fst hcall)
    rw [hcall] at hboth
    have hlast := ih hboth.1
    have hnone : editOf T q out = none := by
      obtain ⟨stage, world, faults, n⟩ := q
      cases stage with
      | command line => cases hq
      | addMember _ _ | autoSubscribe _ _ | addSubscriber _ _ => cases out <;> rfl
    rw [hboth.2]
    rw [hnone] at hlast
    exact hlast

/-! ## Runs -/

/-- **The table of the users is the directory**, in every run and whichever statements fail; and so
    it was when each of the units began that have ended. -/
theorem directory_of_run {ι : Type} [DecidableEq ι] {turns : List (Calls.Turn ι Task)}
    {s : Calls.Floor ι Database Task ServerResponse} (hrun : Runs T (.fresh .empty) turns s) :
    Enrolled s.state (directory T s.ended) ∧
      ∀ before e after, s.ended = before ++ e :: after →
        ∃ db db', Enrolled db (directory T before) ∧
          Calls.Whole (Task.call T) Task.begins e.2.1 db e.2.2 db' := by
  have hserial := (serializable T hrun).1
  have hall : ∀ (es : List (Calls.Entry ι Task ServerResponse)) (db : Database),
      Calls.Serial (Task.call T) Task.begins .empty es db → Enrolled db (directory T es) := by
    intro es
    induction es using List.reverseRecOn with
    | nil =>
      intro db hpath
      obtain rfl := Path.nil_iff.mp hpath
      exact Holds.nil
    | append_singleton es e ih =>
      intro db hpath
      obtain ⟨db₀, hfront, hlast⟩ := Path.append_iff.mp hpath
      obtain ⟨db₁, hwhole, hend⟩ := Path.cons_iff.mp hlast
      obtain rfl := Path.nil_iff.mp hend
      rw [directory_snoc]
      exact enrolled_whole hwhole (ih db₀ hfront)
  refine ⟨hall _ _ hserial, fun before e after heq => ?_⟩
  rw [heq] at hserial
  obtain ⟨db, hfront, hrest⟩ := Path.append_iff.mp hserial
  obtain ⟨db', hwhole, -⟩ := Path.cons_iff.mp hrest
  exact ⟨db, db', hall before db hfront, hwhole⟩

end TinTin.Server.Service
