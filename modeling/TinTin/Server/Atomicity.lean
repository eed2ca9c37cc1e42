/-
  What an operation of the store leaves behind when one of its statements fails.

  The store opens no transaction, so every statement commits by itself. `StoreOp.effects`
  lists, for each operation of more than one statement, what its statements do when they take
  effect; `StoreOp.after` is the database after the first `k` of them.

  * `outcome_error`: an operation that fails at its n-th statement leaves exactly the effects
    of the `n - 1` before it, for any fault oracle and also when a key constraint fails.
  * `after_eq_iff`: those effects are none only up to `StoreOp.harmless` statements.
-/
import TinTin.Server.Store
import TinTin.Symbolic.Serde

namespace TinTin.Server

open TinTin.Lib TinTin.Core

/-- The mutating operations that issue more than one statement. -/
inductive StoreOp
  | fetchMessages (userId : String) (clock : ℕ → UInt64)
  | createGroup (groupId name creator : String)
  | createPoll (creator question : String) (options : List String)
  | deletePost (postId : ℤ) (userId : String)

/-- The database without the comments of a post. -/
def withoutComments (db : Database) (postId : ℤ) : Database :=
  { db with timelineComments := db.timelineComments.deleteWhere fun r => r.2.postId == postId }

namespace StoreOp

variable (J : RelaySerde)

/-- The error of the operation, if it failed, the database it left and the number of
    statements it ran, the failed one included. -/
def outcome (faults : Faults DbError) (db : Database) : StoreOp → Option DbError × Database × ℕ
  | .fetchMessages userId clock => (Server.fetchMessages J userId clock).outcome faults db
  | .createGroup groupId name creator =>
    (Server.createGroup groupId name creator).outcome faults db
  | .createPoll creator question options =>
    (Server.createPoll creator question options).outcome faults db
  | .deletePost postId userId => (Server.deletePost postId userId).outcome faults db

/-- What the statements of the operation do, one after the other, when they take effect. -/
def effects (db : Database) : StoreOp → List (Database → Database)
  | .fetchMessages userId clock =>
    id :: (fun d => withoutMessages d userId) ::
      (deliveryReceipts J userId clock (pending J db userId)).map fun r d => withMessage J d r
  | .createGroup groupId name creator =>
    [fun d => { d with groups := d.groups ++ [⟨groupId, name, creator⟩] },
      fun d => { d with groupMembers := d.groupMembers ++ [⟨groupId, creator, "admin"⟩] }]
  | .createPoll creator question options =>
    (fun d => { d with polls := d.polls.insert ⟨creator, question, 1⟩ }) ::
      options.map fun opt (d : Database) =>
        { d with pollOptions := d.pollOptions.insert ⟨db.polls.lastId + 1, opt⟩ }
  | .deletePost postId userId =>
    [fun d => withoutComments d postId,
      fun d => { d with
        timelinePosts := d.timelinePosts.deleteWhere fun r =>
          r.1 == postId && r.2.userId == userId }]

/-- The database after the first `k` statements of the operation. -/
def after (op : StoreOp) (db : Database) (k : ℕ) : Database :=
  Auto.applyAll ((op.effects J db).take k) db

/-- The number of first statements that change nothing. -/
def harmless (db : Database) : StoreOp → ℕ
  | .fetchMessages _ _ => 1
  | .createGroup _ _ _ => 0
  | .createPoll _ _ _ => 0
  | .deletePost postId _ =>
    if (db.timelineComments.select fun r => r.2.postId == postId).isEmpty then 1 else 0

variable {J}

/-! ## The state an error leaves -/

theorem performs_fetchMessages (userId : String) (clock : ℕ → UInt64) (db : Database) :
    Auto.Performs (Server.fetchMessages J userId clock) db
      ((fetchMessages userId clock).effects J db) (pending J db userId) := by
  refine Auto.performs_bind
    (Auto.performs_exec (db.messages.select fun r => r.2.recipientId == userId) id ?_)
    (Auto.performs_bind (Auto.performs_exec () (fun d => withoutMessages d userId) ?_) ?_)
  · rintro _ _ ⟨⟩
    exact ⟨rfl, rfl⟩
  · rintro _ _ ⟨⟩
    exact ⟨rfl, rfl⟩
  · rw [← List.append_nil (List.map _ _)]
    refine Auto.performs_bind (Auto.performs_loop (fun r d => ?_) _ _) (Auto.performs_pure _ _)
    refine Auto.performs_exec () (fun d => withMessage J d r) ?_
    rintro _ _ ⟨⟩
    exact ⟨rfl, rfl⟩

theorem performs_createGroup (groupId name creator : String) (db : Database) :
    Auto.Performs (Server.createGroup groupId name creator) db
      ((createGroup groupId name creator).effects J db) groupId := by
  refine Auto.performs_bind (Auto.performs_exec () _ ?_)
    (Auto.performs_bind (Auto.performs_exec () _ ?_) (Auto.performs_pure _ _))
  · intro _ d h
    unfold insertGroup at h
    split at h
    · cases h
    · cases h
      exact ⟨rfl, rfl⟩
  · intro _ d h
    unfold insertGroupMember at h
    split at h
    · cases h
    · split at h
      · cases h
      · cases h
        exact ⟨rfl, rfl⟩

theorem performs_createPoll (creator question : String) (options : List String) (db : Database) :
    Auto.Performs (Server.createPoll creator question options) db
      ((createPoll creator question options).effects J db) (db.polls.lastId + 1) := by
  refine Auto.performs_bind (Auto.performs_exec (db.polls.lastId + 1) _ ?_) ?_
  · rintro _ _ ⟨⟩
    exact ⟨rfl, rfl⟩
  · rw [← List.append_nil (List.map _ _)]
    refine Auto.performs_bind (Auto.performs_loop (fun opt d => ?_) _ _) (Auto.performs_pure _ _)
    refine Auto.performs_exec () _ ?_
    intro _ d' h
    unfold insertPollOption at h
    split at h
    · cases h
    · cases h
      exact ⟨rfl, rfl⟩

theorem performs_deletePost (postId : ℤ) (userId : String) (db : Database) :
    ∃ b, Auto.Performs (Server.deletePost postId userId) db
      ((deletePost postId userId).effects J db) b := by
  refine ⟨_, Auto.performs_bind (Auto.performs_exec () _ ?_)
    (Auto.performs_bind (Auto.performs_exec
      ((withoutComments db postId).timelinePosts.select fun r =>
        r.1 == postId && r.2.userId == userId).length _ ?_) (Auto.performs_pure _ _))⟩
  · rintro _ _ ⟨⟩
    exact ⟨rfl, rfl⟩
  · intro _ d h
    unfold deletePosts at h
    dsimp only at h
    split at h
    · cases h
    · cases h
      exact ⟨rfl, rfl⟩

theorem outcome_of_error {α : Type} {x : StoreM α} {faults : Faults DbError} {db db' : Database}
    {e : DbError} {n : ℕ} (h : x faults db 0 = (.error e, db', n)) :
    x.outcome faults db = (some e, db', n) := by
  unfold Auto.outcome
  rw [h]

/-- A program that performs the effects of `op` and fails has performed those before the
    failing statement. -/
theorem after_of_performs {α : Type} {x : StoreM α} {op : StoreOp} {db db' : Database} {a : α}
    (h : Auto.Performs x db (op.effects J db) a) {faults : Faults DbError} {e : DbError} {n : ℕ}
    (hx : x.outcome faults db = (some e, db', n)) :
    1 ≤ n ∧ n ≤ (op.effects J db).length ∧ db' = op.after J db (n - 1) := by
  unfold Auto.outcome at hx
  rcases h faults 0 with hok | ⟨e', k, hk, herr⟩
  · rw [hok] at hx
    cases hx
  · rw [herr] at hx
    cases hx
    exact ⟨by omega, by omega, by simp [after]⟩

/-- An operation that fails at its n-th statement leaves the effects of the statements before
    it. -/
theorem outcome_error {op : StoreOp} {faults : Faults DbError} {db db' : Database} {e : DbError}
    {n : ℕ} (h : op.outcome J faults db = (some e, db', n)) :
    1 ≤ n ∧ n ≤ (op.effects J db).length ∧ db' = op.after J db (n - 1) := by
  cases op with
  | fetchMessages userId clock => exact after_of_performs (performs_fetchMessages _ _ _) h
  | createGroup groupId name creator => exact after_of_performs (performs_createGroup _ _ _ _) h
  | createPoll creator question options =>
    exact after_of_performs (performs_createPoll _ _ _ _) h
  | deletePost postId userId =>
    obtain ⟨b, hb⟩ := performs_deletePost (J := J) postId userId db
    exact after_of_performs hb h

/-! ## When that is no change -/

theorem lastId_withMessages (J : RelaySerde) (rs : List Envelope) (db : Database) :
    (Auto.applyAll (rs.map fun r d => withMessage J d r) db).messages.lastId =
      db.messages.lastId + rs.length := by
  induction rs generalizing db with
  | nil => simp [Auto.applyAll]
  | cons r rs ih =>
    show (Auto.applyAll _ (withMessage J db r)).messages.lastId = _
    rw [ih, List.length_cons]
    show db.messages.lastId + 1 + (rs.length : ℤ) = db.messages.lastId + ((rs.length + 1 : ℕ) : ℤ)
    omega

theorem polls_withOptions (id : ℤ) (opts : List String) (db : Database) :
    (Auto.applyAll (opts.map fun opt (d : Database) =>
      { d with pollOptions := d.pollOptions.insert ⟨id, opt⟩ }) db).polls = db.polls := by
  induction opts generalizing db with
  | nil => rfl
  | cons opt opts ih => exact ih _

/-- With a receipt to queue there was mail to delete. -/
theorem withoutMessages_ne {db : Database} {userId : String} (h : pending J db userId ≠ []) :
    withoutMessages db userId ≠ db := by
  intro he
  have hsel := AutoTable.deleteWhere_eq_self_iff.mp (congrArg Database.messages he)
  refine h ?_
  unfold pending
  rw [hsel]
  rfl

theorem pending_ne_of_receipts {db : Database} {userId : String} {clock : ℕ → UInt64}
    (h : 0 < (deliveryReceipts J userId clock (pending J db userId)).length) :
    pending J db userId ≠ [] := by
  intro he
  rw [he] at h
  simp [deliveryReceipts] at h

theorem after_fetchMessages_iff (userId : String) (clock : ℕ → UInt64) (db : Database) (k : ℕ)
    (hk : k < ((fetchMessages userId clock).effects J db).length) :
    (fetchMessages userId clock).after J db k = db ↔ k ≤ 1 := by
  match k with
  | 0 => exact ⟨fun _ => by omega, fun _ => rfl⟩
  | 1 => exact ⟨fun _ => by omega, fun _ => rfl⟩
  | j + 2 =>
    have hlen : j < (deliveryReceipts J userId clock (pending J db userId)).length := by
      simpa [effects] using hk
    refine ⟨fun he => ?_, fun h => by omega⟩
    have hafter : (fetchMessages userId clock).after J db (j + 2) =
        Auto.applyAll (((deliveryReceipts J userId clock (pending J db userId)).take j).map
          fun r d => withMessage J d r) (withoutMessages db userId) := by
      rw [List.map_take]
      rfl
    rw [hafter] at he
    have hid := congrArg (fun d : Database => d.messages.lastId) he
    rw [lastId_withMessages, List.length_take_of_le (by omega)] at hid
    have hj : j = 0 := by
      have : (withoutMessages db userId).messages.lastId = db.messages.lastId := rfl
      omega
    subst hj
    have hpos : 0 < (deliveryReceipts J userId clock (pending J db userId)).length := by omega
    exact absurd he (withoutMessages_ne (pending_ne_of_receipts hpos))

theorem after_createGroup_iff (groupId name creator : String) (db : Database) (k : ℕ)
    (hk : k < ((createGroup groupId name creator).effects J db).length) :
    (createGroup groupId name creator).after J db k = db ↔ k ≤ 0 := by
  match k with
  | 0 => exact ⟨fun _ => by omega, fun _ => rfl⟩
  | 1 =>
    refine ⟨fun he => ?_, fun h => by omega⟩
    have := congrArg (fun d : Database => d.groups.length) he
    simp [after, effects, Auto.applyAll] at this
  | j + 2 => simp [effects] at hk

theorem after_createPoll_iff (creator question : String) (options : List String) (db : Database)
    (k : ℕ) : (createPoll creator question options).after J db k = db ↔ k ≤ 0 := by
  match k with
  | 0 => exact ⟨fun _ => by omega, fun _ => rfl⟩
  | j + 1 =>
    refine ⟨fun he => ?_, fun h => by omega⟩
    have hafter : (createPoll creator question options).after J db (j + 1) =
        Auto.applyAll ((options.take j).map fun opt (d : Database) =>
          { d with pollOptions := d.pollOptions.insert ⟨db.polls.lastId + 1, opt⟩ })
          { db with polls := db.polls.insert ⟨creator, question, 1⟩ } := by
      rw [List.map_take]
      rfl
    have hpolls := congrArg Database.polls (hafter.symm.trans he)
    rw [polls_withOptions] at hpolls
    exact absurd hpolls (AutoTable.insert_ne _ _)

theorem after_deletePost_iff (postId : ℤ) (userId : String) (db : Database) (k : ℕ)
    (hk : k < ((deletePost postId userId).effects J db).length) :
    (deletePost postId userId).after J db k = db ↔ k ≤ (deletePost postId userId).harmless db := by
  have hiff : withoutComments db postId = db ↔
      (db.timelineComments.select fun r => r.2.postId == postId) = [] := by
    rw [← AutoTable.deleteWhere_eq_self_iff]
    constructor
    · exact congrArg Database.timelineComments
    · intro h
      unfold withoutComments
      rw [h]
  match k with
  | 0 => exact ⟨fun _ => by omega, fun _ => rfl⟩
  | 1 =>
    show withoutComments db postId = db ↔ _
    rw [hiff]
    simp only [harmless, List.isEmpty_iff]
    split <;> simp [*]
  | j + 2 => simp [effects] at hk

/-- The effects before the failing statement are none exactly up to the harmless ones. -/
theorem after_eq_iff (op : StoreOp) (db : Database) (k : ℕ) (hk : k < (op.effects J db).length) :
    op.after J db k = db ↔ k ≤ op.harmless db := by
  cases op with
  | fetchMessages userId clock => exact after_fetchMessages_iff userId clock db k hk
  | createGroup groupId name creator => exact after_createGroup_iff groupId name creator db k hk
  | createPoll creator question options => exact after_createPoll_iff creator question options db k
  | deletePost postId userId => exact after_deletePost_iff postId userId db k hk

/-- **A failed operation keeps the statements before the failing one.** Whatever statement
    fails, and for whatever reason, the database is left as the completed statements made it;
    so it is unchanged exactly if the operation failed within its first statements that
    change nothing. -/
theorem failed_operation_keeps_prefix (J : RelaySerde) (op : StoreOp) (faults : Faults DbError)
    (db db' : Database) (e : DbError) (n : ℕ)
    (h : op.outcome J faults db = (some e, db', n)) :
    1 ≤ n ∧ n ≤ (op.effects J db).length ∧ db' = op.after J db (n - 1) ∧
      (db' = db ↔ n ≤ op.harmless db + 1) := by
  obtain ⟨h₁, h₂, rfl⟩ := outcome_error h
  refine ⟨h₁, h₂, rfl, ?_⟩
  rw [after_eq_iff op db (n - 1) (by omega)]
  omega

/-- The disk is full when the first option of a poll is inserted. -/
def fullAt (n : ℕ) : Faults DbError := fun k => if k = n then some .failure else none

theorem failed_operation_keeps_prefix_poll :
    let op := createPoll "alice" "lunch?" ["yes", "no"]
    1 ≤ 2 ∧ 2 ≤ (op.effects Symbolic.symbolicSerde.toRelaySerde .empty).length ∧
      op.after Symbolic.symbolicSerde.toRelaySerde .empty 1 =
        op.after Symbolic.symbolicSerde.toRelaySerde .empty (2 - 1) ∧
      (op.after Symbolic.symbolicSerde.toRelaySerde .empty 1 = .empty ↔
        2 ≤ op.harmless .empty + 1) :=
  failed_operation_keeps_prefix Symbolic.symbolicSerde.toRelaySerde
    (createPoll "alice" "lunch?" ["yes", "no"]) (fullAt 1) .empty _ .failure 2 rfl

/-- A queue with one message, from Alice to Bob. -/
def oneMessage : Database :=
  withMessage Symbolic.symbolicSerde.toRelaySerde .empty (Envelope.new 5 "alice" "bob" [1] .normal)

theorem pending_oneMessage : pending Symbolic.symbolicSerde.toRelaySerde oneMessage "bob" =
    [Envelope.new 5 "alice" "bob" [1] .normal] := by
  simp [pending, oneMessage, withMessage, Database.empty, AutoTable.select, AutoTable.insert,
    messageRow, Envelope.new]

theorem fetch_oneMessage_fails :
    Server.fetchMessages Symbolic.symbolicSerde.toRelaySerde "bob" (fun _ => 0) (fullAt 2)
      oneMessage 0 = (.error .failure, withoutMessages oneMessage "bob", 3) := by
  refine (Auto.run_bind_ok (Auto.run_exec_ok rfl rfl)).trans ?_
  refine (Auto.run_bind_ok (Auto.run_exec_ok rfl rfl)).trans ?_
  refine Auto.run_bind_error ?_
  show Auto.loop _ (deliveryReceipts _ "bob" _ (pending _ oneMessage "bob")) _ _ 2 = _
  rw [pending_oneMessage]
  exact Auto.run_bind_error (Auto.run_exec_fault rfl)

/-- A poll is left without options, and a fetch returns an error with the mail gone. -/
theorem failed_operations_leave_traces :
    (∃ db', (createPoll "alice" "lunch?" ["yes", "no"]).outcome
        Symbolic.symbolicSerde.toRelaySerde (fullAt 1) .empty = (some .failure, db', 2) ∧
      db'.polls.rows = [(1, ⟨"alice", "lunch?", 1⟩)] ∧ db'.pollOptions.rows = []) ∧
    ∃ db', (fetchMessages "bob" fun _ => 0).outcome Symbolic.symbolicSerde.toRelaySerde (fullAt 2)
        oneMessage = (some .failure, db', 3) ∧
      oneMessage.messages.rows ≠ [] ∧ db'.messages.rows = [] :=
  ⟨⟨_, rfl, rfl, rfl⟩, _, outcome_of_error fetch_oneMessage_fails, by simp [oneMessage, withMessage,
    AutoTable.rows_insert], rfl⟩

end StoreOp

end TinTin.Server
